import Wiznet.Automata.Puerto
import Wiznet.Library.Stateful

/-!
# The stream of the socket

What `w5500_paho_read` and `w5500_paho_write` make of a socket that delivers, accepts, refuses and fails as it likes
(`Zocalo`): the bytes read are the next ones of the stream and the bytes written are the first ones of the buffer, none
lost and none twice, however the calls are cut.
-/

namespace Wiznet

namespace Automata

open Stateful Ethernet

/-! ### The socket -/

/-- How many bytes of the stream have been read, what the socket has taken, and how many negative codes it has given. -/
structure Vista where
  pos : Nat
  entregado : List UInt8
  negativos : Nat

namespace Vista

/-- After `k` more bytes of the stream. -/
def lee (v : Vista) (k : Nat) : Vista := { v with pos := v.pos + k }

/-- After the socket has taken these bytes too. -/
def entrega (v : Vista) (bs : List UInt8) : Vista := { v with entregado := v.entregado ++ bs }

/-- After one more negative code. -/
def falla (v : Vista) : Vista := { v with negativos := v.negativos + 1 }

@[simp] theorem lee_lee (v : Vista) (j k : Nat) : (v.lee j).lee k = v.lee (j + k) := by
  simp only [lee, Nat.add_assoc]

@[simp] theorem lee_pos (v : Vista) (k : Nat) : (v.lee k).pos = v.pos + k := rfl

@[simp] theorem lee_negativos (v : Vista) (k : Nat) : (v.lee k).negativos = v.negativos := rfl

@[simp] theorem entrega_nil (v : Vista) : v.entrega [] = v := by
  simp only [entrega, List.append_nil]

@[simp] theorem entrega_entrega (v : Vista) (bs cs : List UInt8) :
    (v.entrega bs).entrega cs = v.entrega (bs ++ cs) := by
  simp only [entrega, List.append_assoc]

@[simp] theorem entrega_negativos (v : Vista) (bs : List UInt8) : (v.entrega bs).negativos = v.negativos := rfl

@[simp] theorem falla_negativos (v : Vista) : v.falla.negativos = v.negativos + 1 := rfl

end Vista

/-- A TCP socket: the bytes that come through it in order, and how each call moves it.  `getSn_RX_RSR` gives the bytes
available, `recv` of no more than these takes them or fails, and `send` accepts some of what it is given, is busy or
fails.  When the bytes come, how many are accepted, and which calls fail, is left open. -/
structure Zocalo (W : Type) [Ethernet W] where
  flujo : Nat → UInt8
  vista : W → Vista
  disponibles : W → Nat
  reloj (w : W) : vista (chVTGetSystemTime w).2 = vista w
  cede (w : W) : vista (chThdYield w).2 = vista w
  mira (w : W) : disponibles (getSnRXRSR MQTT_SOCKET_NUM w).2 = (getSnRXRSR MQTT_SOCKET_NUM w).1.toNat ∧
    vista (getSnRXRSR MQTT_SOCKET_NUM w).2 = vista w
  recibe (k : UInt16) (w : W) (h : k.toNat ≤ disponibles w) :
    ((recv MQTT_SOCKET_NUM k w).1 = .ok ((List.range' (vista w).pos k.toNat).map flujo) ∧
      vista (recv MQTT_SOCKET_NUM k w).2 = (vista w).lee k.toNat) ∨
    ∃ c < 0, (recv MQTT_SOCKET_NUM k w).1 = .error c ∧ vista (recv MQTT_SOCKET_NUM k w).2 = (vista w).falla
  envia (bs : List UInt8) (w : W) :
    (∃ j : Nat, 0 < j ∧ j ≤ bs.length ∧ (send MQTT_SOCKET_NUM bs w).1 = j ∧
      vista (send MQTT_SOCKET_NUM bs w).2 = (vista w).entrega (bs.take j)) ∨
    ((send MQTT_SOCKET_NUM bs w).1 = SOCK_BUSY ∧ vista (send MQTT_SOCKET_NUM bs w).2 = vista w) ∨
    ∃ c < 0, (send MQTT_SOCKET_NUM bs w).1 = c ∧ vista (send MQTT_SOCKET_NUM bs w).2 = (vista w).falla

variable {W : Type} [Ethernet W] (z : Zocalo W)

/-- The `k` bytes of the stream that come after what has been read. -/
def Zocalo.siguientes (w : W) (k : Nat) : List UInt8 := (List.range' (z.vista w).pos k).map z.flujo

theorem Zocalo.siguientes_add (w : W) (j k : Nat) :
    z.siguientes w (j + k) = z.siguientes w j ++ (List.range' ((z.vista w).pos + j) k).map z.flujo := by
  have hpos : (z.vista w).pos + 1 * j = (z.vista w).pos + j := by omega
  rw [siguientes, ← List.range'_append, hpos, List.map_append, siguientes]

/-! ### Reading -/

/-- A read that returns the bytes it has taken from the stream, or `-1` after a negative code. -/
def Zocalo.Lee (len : Nat) (w : W) (r : Except Int (List UInt8)) (w' : W) : Prop :=
  (∀ bs, r = .ok bs → bs.length ≤ len ∧ bs = z.siguientes w bs.length ∧ z.vista w' = (z.vista w).lee bs.length) ∧
  ∀ c, r = .error c → c = -1 ∧ (z.vista w).negativos < (z.vista w').negativos

section Lee

variable {timer : TimerPaho} {len : Nat} {w₀ : W}

/-- `leidos` are the bytes taken from the stream since `w₀`. -/
def Zocalo.Leidos (len : Nat) (w₀ : W) (leidos : List UInt8) (t : Test W) : Prop :=
  leidos.length ≤ len ∧ leidos = z.siguientes w₀ leidos.length ∧ z.vista t.base = (z.vista w₀).lee leidos.length

variable {z}

theorem Zocalo.Leidos.lee {leidos : List UInt8} {t : Test W} (h : z.Leidos len w₀ leidos t) :
    z.Lee len w₀ (.ok leidos) t.base := by
  refine ⟨?_, by simp⟩
  rintro _ ⟨⟩
  exact h

/-- A call that leaves the stream alone. -/
theorem Zocalo.Leidos.llama {leidos : List UInt8} {t : Test W} {α : Type} {f : W → α × W} (h : z.Leidos len w₀ leidos t)
    (hf : z.vista (f t.base).2 = z.vista t.base) : z.Leidos len w₀ leidos (enBase f t).2 :=
  ⟨h.1, h.2.1, hf.trans h.2.2⟩

variable (z)

theorem Zocalo.lee_error {t : Test W} (h : (z.vista w₀).negativos < (z.vista t.base).negativos) :
    z.Lee len w₀ (.error (-1)) t.base := by
  refine ⟨by simp, ?_⟩
  rintro _ ⟨⟩
  exact ⟨rfl, h⟩

/-- After a `recv` of `wanted` bytes. -/
def Zocalo.Recibido (len : Nat) (w₀ : W) (leidos : List UInt8) (wanted : Nat) (x : Except Int (List UInt8))
    (t : Test W) : Prop :=
  match x with
  | .ok bs => z.Leidos len w₀ (leidos ++ bs.take wanted) t
  | .error c => c < 0 ∧ (z.vista w₀).negativos < (z.vista t.base).negativos

/-- A read of what is there goes on where the last one ended. -/
theorem Zocalo.recibe_leidos {leidos : List UInt8} {t : Test W} {ret : UInt16} {wanted : Nat}
    (hlen : leidos.length + wanted ≤ len) (hret : wanted ≤ ret.toNat) (hd : z.disponibles t.base = ret.toNat)
    (h : z.Leidos len w₀ leidos t) : z.Recibido len w₀ leidos wanted
      (enBase (recv MQTT_SOCKET_NUM wanted.toUInt16) t).1 (enBase (recv MQTT_SOCKET_NUM wanted.toUInt16) t).2 := by
  obtain ⟨-, hleidos, hvista⟩ := h
  have hw : wanted.toUInt16.toNat = wanted := by
    have := ret.toNat_lt
    simp [Nat.toUInt16]
    omega
  rw [enBase_eq]
  rcases z.recibe wanted.toUInt16 t.base (by omega) with ⟨hbs, hv⟩ | ⟨c, hc, herror, hv⟩
  · rw [hbs, hw]
    have hsuma : (leidos ++ ((List.range' (z.vista t.base).pos wanted).map z.flujo).take wanted).length =
        leidos.length + wanted := by simp
    refine ⟨by omega, ?_, ?_⟩
    · rw [hsuma, z.siguientes_add, ← hleidos, List.take_of_length_le (by simp), hvista, Vista.lee_pos]
    · rw [hsuma, ← Vista.lee_lee, ← hvista]
      exact hv.trans (by rw [hw])
  · rw [herror]
    refine ⟨hc, ?_⟩
    show (z.vista w₀).negativos < (z.vista (recv MQTT_SOCKET_NUM wanted.toUInt16 t.base).2).negativos
    simp [hv, hvista]

/-- The loop keeps what it has read at the end of what has been taken. -/
theorem leeResto_lee (n : Nat) (leidos : List UInt8) : Triple (z.Leidos len w₀ leidos) (leeResto timer len n leidos)
    (fun r t => z.Lee len w₀ r t.base) fun _ => True := by
  induction n generalizing leidos with
  | zero => exact fun _ _ => trivial
  | succ n ih =>
    unfold leeResto
    refine triple_ite (fun hlt => ?_) fun _ => triple_pure fun t ht => ht.lee
    refine Triple.bind (triple_modifyGet (Q := fun _ => z.Leidos len w₀ leidos) fun t ht => ht.llama (z.reloj t.base))
      fun expira => triple_ite (fun _ => triple_pure fun t ht => ht.lee) fun _ => ?_
    -- what the look at the socket finds is there for the read
    refine Triple.bind (Q := fun ret t => z.disponibles t.base = ret.toNat ∧ z.Leidos len w₀ leidos t)
      (triple_modifyGet fun t ht => ⟨(z.mira t.base).1, ht.llama (z.mira t.base).2⟩) fun ret => ?_
    refine triple_ite (fun _ => ?_) fun _ => ?_
    · refine Triple.bind (triple_modifyGet fun t ⟨hret, ht⟩ => z.recibe_leidos (by omega) (by omega) hret ht) fun x =>
        ?_
      cases x with
      | ok bs => exact ih _
      | error c =>
        refine triple_of_and fun hc => triple_ite (fun _ => triple_pure fun t ht => z.lee_error ht) fun hpos => ?_
        exact absurd hc hpos
    · exact Triple.bind (triple_modifyGet fun t ht => ht.2.llama (z.cede t.base)) fun _ => ih leidos

theorem w5500PahoRead_lee (timeoutMs : Int) : Triple (fun t => t.base = w₀) (w5500PahoRead len timeoutMs)
    (fun r t => z.Lee len w₀ r t.base) fun _ => True := by
  refine Triple.bind (triple_modifyGet (Q := fun _ => z.Leidos len w₀ []) ?_) fun timer =>
    triple_get_bind fun s hs => (leeResto_lee z s.rondas []).weaken ?_ (fun _ _ h => h) fun _ h => h
  · rintro t rfl
    exact ⟨Nat.zero_le _, rfl, z.reloj t.base⟩
  · rintro _ rfl
    exact hs

end Lee

/-! ### Writing -/

/-- A write that returns how many bytes the socket has taken, the first ones of the buffer, or `-1` after a negative
code. -/
def Zocalo.Escribe (bs : List UInt8) (w : W) (r : Int) (w' : W) : Prop :=
  (0 ≤ r → r ≤ bs.length ∧ z.vista w' = (z.vista w).entrega (bs.take r.toNat)) ∧
  (r < 0 → r = -1 ∧ (z.vista w).negativos < (z.vista w').negativos)

section Escribe

variable {timer : TimerPaho} {bs : List UInt8} {w₀ : W}

/-- The socket has taken the first `escritos` bytes of the buffer since `w₀`. -/
def Zocalo.Escritos (bs : List UInt8) (w₀ : W) (escritos : Nat) (t : Test W) : Prop :=
  escritos ≤ bs.length ∧ z.vista t.base = (z.vista w₀).entrega (bs.take escritos)

variable {z}

theorem Zocalo.Escritos.escribe {escritos : Nat} {t : Test W} (h : z.Escritos bs w₀ escritos t) :
    z.Escribe bs w₀ escritos t.base := by
  refine ⟨fun _ => ?_, fun hneg => by omega⟩
  exact ⟨Int.ofNat_le.mpr h.1, h.2⟩

theorem Zocalo.Escritos.llama {escritos : Nat} {t : Test W} {α : Type} {f : W → α × W} (h : z.Escritos bs w₀ escritos t)
    (hf : z.vista (f t.base).2 = z.vista t.base) : z.Escritos bs w₀ escritos (enBase f t).2 :=
  ⟨h.1, hf.trans h.2⟩

variable (z)

/-- After a `send` of what follows the first `escritos` bytes. -/
def Zocalo.Enviado (bs : List UInt8) (w₀ : W) (escritos : Nat) (ret : Int) (t : Test W) : Prop :=
  (0 ≤ ret → z.Escritos bs w₀ (escritos + ret.toNat) t) ∧
  (ret < 0 → (z.vista w₀).negativos < (z.vista t.base).negativos)

/-- What the socket takes of the rest of the buffer comes right after what it had taken. -/
theorem Zocalo.envia_escritos {escritos k : Nat} {t : Test W} (h : z.Escritos bs w₀ escritos t) :
    z.Enviado bs w₀ escritos (enBase (send MQTT_SOCKET_NUM ((bs.drop escritos).take k)) t).1
      (enBase (send MQTT_SOCKET_NUM ((bs.drop escritos).take k)) t).2 := by
  obtain ⟨hle, hvista⟩ := h
  rw [enBase_eq]
  rcases z.envia ((bs.drop escritos).take k) t.base with ⟨j, hj, hjle, hret, hv⟩ | ⟨hret, hv⟩ | ⟨c, hc, hret, hv⟩
  · rw [hret]
    rw [List.length_take, List.length_drop] at hjle
    refine ⟨fun _ => ⟨?_, ?_⟩, fun hneg => by omega⟩
    · rw [Int.toNat_natCast]
      omega
    · refine hv.trans ?_
      rw [Int.toNat_natCast, hvista, Vista.entrega_entrega, List.take_take, Nat.min_eq_left (by omega), ← List.take_add]
  · rw [hret]
    exact ⟨fun _ => ⟨hle, hv.trans hvista⟩, fun hneg => absurd hneg (by decide)⟩
  · rw [hret]
    refine ⟨fun hpos => by omega, fun _ => ?_⟩
    show (z.vista w₀).negativos < (z.vista (send MQTT_SOCKET_NUM ((bs.drop escritos).take k) t.base).2).negativos
    simp [hv, hvista]

/-- The loop keeps count of what the socket has taken. -/
theorem escribeResto_escribe (n escritos : Nat) : Triple (z.Escritos bs w₀ escritos) (escribeResto timer bs n escritos)
    (fun r t => z.Escribe bs w₀ r t.base) fun _ => True := by
  induction n generalizing escritos with
  | zero => exact fun _ _ => trivial
  | succ n ih =>
    unfold escribeResto
    refine triple_ite (fun hlt => ?_) fun _ => triple_pure fun t ht => ht.escribe
    refine Triple.bind (triple_modifyGet (Q := fun _ => z.Escritos bs w₀ escritos) fun t ht =>
      ht.llama (z.reloj t.base)) fun expira => triple_ite (fun _ => triple_pure fun t ht => ht.escribe) fun _ => ?_
    refine Triple.bind (triple_modifyGet fun t ht => z.envia_escritos ht) fun ret => ?_
    refine triple_ite (fun hbusy => ?_) fun _ => triple_ite (fun hneg => triple_pure fun t ht => ?_) fun hpos => ?_
    · -- a busy socket has taken nothing
      subst hbusy
      refine Triple.bind (triple_modifyGet (Q := fun _ => z.Escritos bs w₀ escritos) fun t ht => ?_) fun _ =>
        ih escritos
      exact (ht.1 (Int.le_refl 0)).llama (z.cede t.base)
    · exact ⟨fun h => absurd h (by decide), fun _ => ⟨rfl, ht.2 hneg⟩⟩
    · exact Triple.bind (triple_modify fun t ht => ht.1 (by omega)) fun _ => ih _

theorem w5500PahoWrite_escribe (timeoutMs : Int) : Triple (fun t => t.base = w₀) (w5500PahoWrite bs timeoutMs)
    (fun r t => z.Escribe bs w₀ r t.base) fun _ => True := by
  refine Triple.bind (triple_modifyGet (Q := fun _ => z.Escritos bs w₀ 0) ?_) fun timer =>
    triple_get_bind fun s hs => (escribeResto_escribe z s.rondas 0).weaken ?_ (fun _ _ h => h) fun _ h => h
  · rintro t rfl
    refine ⟨Nat.zero_le _, ?_⟩
    rw [List.take_zero, Vista.entrega_nil]
    exact z.reloj t.base
  · rintro _ rfl
    exact hs

end Escribe

/-- The wrappers of the socket transfer the stream exactly. -/
theorem w5500Paho_transfiere (len : Nat) (bs : List UInt8) (timeoutMs : Int) (t t' : Test W) :
    (∀ r, w5500PahoRead len timeoutMs t = .ok r t' → z.Lee len t.base r t'.base) ∧
    ∀ r, w5500PahoWrite bs timeoutMs t = .ok r t' → z.Escribe bs t.base r t'.base := by
  constructor
  · intro r h
    exact (w5500PahoRead_lee z timeoutMs).ok rfl h
  · intro r h
    exact (w5500PahoWrite_escribe z timeoutMs).ok rfl h

/-! ### A cable that goes by a plan -/

/-- A socket whose calls do in turn what the numbers of the plan tell: the time, the bytes available, whether a `recv`
fails (`0`), and whether a `send` fails (`0`), is busy (`1`) or takes one byte less than the number. -/
structure Cable where
  plan : List Nat
  disponibles : Nat := 0
  pos : Nat := 0
  entregado : List UInt8 := []
  negativos : Nat := 0

namespace Cable

/-- What the next call does, and the cable after it. -/
def turno (w : Cable) : Nat × Cable := (w.plan.headD 0, { w with plan := w.plan.tail })

instance : Ethernet Cable where
  wizchipInit w := ((), w)
  setnetinfo _ w := ((), w)
  dhcpInit _ _ w := ((), w)
  regDhcpCbfunc w := ((), w)
  dhcpRun _ := pure 0
  dhcpTimeHandler w := ((), w)
  getphystatus w := (true, w)
  getSnSR _ w := (0, w)
  getSnRXRSR _ w := ((turno w).1.toUInt16, { (turno w).2 with disponibles := (turno w).1.toUInt16.toNat })
  socket sn _ _ _ w := (sn.toNat, w)
  connect _ _ _ w := (1, w)
  close _ w := (1, w)
  send _ bs w :=
    if (turno w).1 = 0 then (-1, { (turno w).2 with negativos := w.negativos + 1 })
    else
      let j := min ((turno w).1 - 1) bs.length
      (j, { (turno w).2 with entregado := w.entregado ++ bs.take j })
  recv _ len w :=
    if (turno w).1 = 0 then (.error (-1), { (turno w).2 with negativos := w.negativos + 1 })
    else (.ok ((List.range' w.pos len.toNat).map Nat.toUInt8),
      { (turno w).2 with pos := w.pos + len.toNat, disponibles := w.disponibles - len.toNat })
  chVTGetSystemTime w := ((turno w).1.toUInt32, (turno w).2)
  chThdYield w := ((), w)
  chThdSleepMilliseconds _ w := ((), w)
  palSetLine w := ((), w)
  palClearLine w := ((), w)

variable {w : Cable} {k : UInt16} {bs : List UInt8}

theorem recv_falla (h : (turno w).1 = 0) : recv MQTT_SOCKET_NUM k w =
    (.error (-1), { (turno w).2 with negativos := w.negativos + 1 }) := if_pos h

theorem recv_ok (h : (turno w).1 ≠ 0) : recv MQTT_SOCKET_NUM k w =
    (.ok ((List.range' w.pos k.toNat).map Nat.toUInt8),
      { (turno w).2 with pos := w.pos + k.toNat, disponibles := w.disponibles - k.toNat }) := if_neg h

theorem send_falla (h : (turno w).1 = 0) : send MQTT_SOCKET_NUM bs w =
    (-1, { (turno w).2 with negativos := w.negativos + 1 }) := if_pos h

theorem send_ok (h : (turno w).1 ≠ 0) : send MQTT_SOCKET_NUM bs w =
    (((min ((turno w).1 - 1) bs.length : Nat) : Int),
      { (turno w).2 with entregado := w.entregado ++ bs.take (min ((turno w).1 - 1) bs.length) }) := if_neg h

/-- The cable is a socket that delivers the numbers in order, whatever its plan. -/
def zocalo : Zocalo Cable where
  flujo := Nat.toUInt8
  vista w := ⟨w.pos, w.entregado, w.negativos⟩
  disponibles w := w.disponibles
  reloj _ := rfl
  cede _ := rfl
  mira _ := ⟨rfl, rfl⟩
  recibe k w _ := by
    by_cases h : (turno w).1 = 0
    · rw [recv_falla h]
      exact .inr ⟨-1, by decide, rfl, rfl⟩
    · rw [recv_ok h]
      exact .inl ⟨rfl, rfl⟩
  envia bs w := by
    by_cases h : (turno w).1 = 0
    · rw [send_falla h]
      exact .inr (.inr ⟨-1, by decide, rfl, rfl⟩)
    · rw [send_ok h]
      rcases Nat.eq_zero_or_pos (min ((turno w).1 - 1) bs.length) with hj | hj
      · rw [hj]
        refine .inr (.inl ⟨rfl, ?_⟩)
        simp [turno]
      · exact .inl ⟨_, hj, Nat.min_le_right _ _, rfl, rfl⟩

/-- What a program returns. -/
def devuelto {α : Type} : EStateM.Result Parada (Test Cable) α → Option α
  | .ok a _ => some a
  | .error _ _ => none

theorem ok_of_devuelto {α β : Type} {r : EStateM.Result Parada (Test Cable) α} {f : α → Option β} {b : β}
    (h : (devuelto r).bind f = some b) : ∃ a t, r = .ok a t ∧ f a = some b := by
  cases r with
  | ok a t => exact ⟨a, t, rfl, h⟩
  | error e t => cases h

end Cable

/-- Five bytes that come in two parts are read whole, and four that leave in two parts are written whole. -/
theorem w5500Paho_transfiere_cable :
    (∃ r t', w5500PahoRead 5 1000 (Test.mk (Cable.mk [0, 0, 2, 1, 0, 0, 0, 9, 1] 0 0 [] 0) 10 [] []) = .ok r t' ∧
      r.toOption = some [0, 1, 2, 3, 4] ∧
      Cable.zocalo.Lee 5 (Cable.mk [0, 0, 2, 1, 0, 0, 0, 9, 1] 0 0 [] 0) r t'.base) ∧
    ∃ t', w5500PahoWrite [7, 8, 9, 10] 1000 (Test.mk (Cable.mk [0, 0, 4, 0, 1, 0, 9] 0 0 [] 0) 10 [] []) = .ok 4 t' ∧
      Cable.zocalo.Escribe [7, 8, 9, 10] (Cable.mk [0, 0, 4, 0, 1, 0, 9] 0 0 [] 0) 4 t'.base := by
  constructor
  · obtain ⟨r, t', hrun, hr⟩ := Cable.ok_of_devuelto (f := Except.toOption) (b := [0, 1, 2, 3, 4])
      (r := w5500PahoRead 5 1000 (Test.mk (Cable.mk [0, 0, 2, 1, 0, 0, 0, 9, 1] 0 0 [] 0) 10 [] [])) (by decide +kernel)
    exact ⟨r, t', hrun, hr, (w5500Paho_transfiere Cable.zocalo 5 [] 1000 _ _).1 _ hrun⟩
  · obtain ⟨r, t', hrun, hr⟩ := Cable.ok_of_devuelto (f := some) (b := 4)
      (r := w5500PahoWrite [7, 8, 9, 10] 1000 (Test.mk (Cable.mk [0, 0, 4, 0, 1, 0, 9] 0 0 [] 0) 10 [] []))
      (by decide +kernel)
    cases hr
    exact ⟨t', hrun, (w5500Paho_transfiere Cable.zocalo 0 _ 1000 _ _).2 _ hrun⟩

end Automata

end Wiznet
