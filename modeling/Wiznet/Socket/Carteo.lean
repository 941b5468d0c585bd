import Wiznet.Socket.Envio
import Wiznet.Socket.Aparte

/-!
# Correspondence

A socket in UDP mode from its opening on, and any calls of `sendto` and `recvfrom` one after another: the datagrams sent
are those of the calls that say so, and those received are given out in the order in which they have come.
-/

namespace Wiznet

namespace W5500

open Stateful Interference RingBuffer Zocalo

variable {sn m : UInt8} {env abiertos : List Datagrama} {resto : List UInt8} {z : Zocalo} {qs : List Recibido}

/-- An OPEN in UDP mode. -/
theorem PorAbrir.atento {tx rx : UInt16} (h : PorAbrir m z) (hm : m &&& 0x0F = SN_MR_UDP) :
    ∃ r, Atento r [] [] [] (z.paso (.atiende tx rx)) := by
  have hmr : z.mr &&& 0x0F = SN_MR_UDP := by rw [Zocalo.mr, h.mr, hm]
  have hsr : z.srAbierto = SOCK_UDP := by
    rw [srAbierto, if_neg (by rw [hmr]; decide), if_pos hmr]
  obtain ⟨htx, hrx⟩ : (z.empieza tx rx).reg16 SN_TX_WR = tx ∧ (z.empieza tx rx).reg16 SN_RX_RD = rx := reg16_empieza
  have hir : z.ir &&& finales = 0 := by
    rw [show finales = 0x1F &&& finales by decide, ← UInt8.and_assoc, h.ir, UInt8.zero_and]
  have hregs : ∀ off ∉ punteros, (z.empieza tx rx).regs off = z.regs off := fun off hoff => empieza_regs hoff
  rw [atiende_open h.cr, hsr]
  refine ⟨(z.empieza tx rx).regs, ⟨⟨rfl, ?_, ?_, ?_, rfl, ?_, ⟨[], rfl, ?_⟩, by simp [empieza]⟩, rfl, hrx.symm⟩, rfl,
    htx.symm, htx.symm, hir, rfl⟩
  · rw [hregs SN_MR (by decide)]
    exact hmr
  · rw [hregs SN_TXBUF_SIZE (by decide)]
    exact h.medida.1
  · rw [hregs SN_RXBUF_SIZE (by decide)]
    exact h.medida.2
  · show gap rx rx ≤ _
    rw [gap_self]
    exact Nat.zero_le _
  · show window _ _ _ (gap rx rx) = _
    rw [gap_self]
    rfl

/-! ### Calls -/

/-- The calls a program makes on socket `sn`, for datagrams, and those that it makes on other sockets in between. -/
inductive Gestion (sn : UInt8) where
  | sendto (buf : List UInt8) (addr : IP) (port : UInt16)
  | recvfrom (len : UInt16) (addr : IP) (port : UInt16)
  | otra (p : Peticion) (h : p.zocalo ≠ sn)

deriving instance DecidableEq for Recibido

/-- A call of `recvfrom`, with what the caller had in its address and port, and what it has given. -/
structure Recogida where
  len : UInt16
  addr : IP
  port : UInt16
  q : Recibido
  deriving DecidableEq

/-- What has come of a call. -/
inductive Hecho where
  | sendto (buf : List UInt8) (addr : IP) (port : UInt16) (n : Int)
  | recvfrom (c : Recogida)
  | otra
  deriving DecidableEq

/-- The datagram that a call says it has sent. -/
def Hecho.envio : Hecho → Option Datagrama
  | .sendto buf addr port n => if 0 < n then some ⟨buf.take n.toNat, addr, port⟩ else none
  | .recvfrom _ => none
  | .otra => none

/-- What a call has received. -/
def Hecho.recibo : Hecho → Option Recogida
  | .sendto .. => none
  | .recvfrom c => some c
  | .otra => none

def gestiona (sn : UInt8) : Gestion sn → SocketM Hecho
  | .sendto buf addr port => do return .sendto buf addr port (← sendto sn buf addr port)
  | .recvfrom len addr port => do return .recvfrom ⟨len, addr, port, ← recvfrom sn len addr port⟩
  | .otra p _ => do
    pide p
    return .otra

/-- Calls one after another. -/
def gestiones (sn : UInt8) : List (Gestion sn) → SocketM (List Hecho)
  | [] => return []
  | g :: gs => do
    let x ← gestiona sn g
    let xs ← gestiones sn gs
    return x :: xs

/-- A socket in UDP mode, opened and used by these calls. -/
def carteo (sn : UInt8) (port : UInt16) (flag : UInt8) (gs : List (Gestion sn)) : SocketM (Option (List Hecho)) := do
  if (← socket sn SN_MR_UDP port flag) ≠ sn.toNat then return none else return some (← gestiones sn gs)

/-- What calls of `recvfrom` have given, when they have opened these datagrams and left this of the last one: each
call gives nothing, or the start of the next datagram with its sender, when nothing was left, or more of what was
left; but for a start the caller's address and port stay. -/
inductive Reparte : List Recogida → List Datagrama → List UInt8 → Prop
  | nil : Reparte [] [] []
  | saca {cs : List Recogida} {c : Recogida} {abiertos abiertos' : List Datagrama} {resto resto' : List UInt8}
    (h : Reparte cs abiertos resto) (hs : Saca c.len c.addr c.port abiertos resto c.q abiertos' resto') :
    Reparte (cs ++ [c]) abiertos' resto'

variable {cs : List Recogida}

/-- No byte is lost and none is given twice. -/
theorem Reparte.bytes (h : Reparte cs abiertos resto) :
    cs.flatMap (·.q.bytes) ++ resto = abiertos.flatMap (·.bytes) := by
  induction h with
  | nil => rfl
  | @saca cs c _ _ _ _ _ hs ih =>
    obtain ⟨len, addr, port, q⟩ := c
    rw [List.flatMap_append, List.flatMap_singleton]
    dsimp only at hs ⊢
    cases hs with
    | nada _ _ =>
      rw [List.append_nil]
      exact ih
    | abre d h0 =>
      subst h0
      rw [List.flatMap_append, ← ih, List.flatMap_singleton, List.append_nil, List.append_assoc, List.take_append_drop]
    | sigue _ =>
      rw [List.append_assoc, List.take_append_drop]
      exact ih

/-- A mailbox after these calls. -/
def Cuadra (sn : UInt8) (xs : List Hecho) (s : Anfitrion) : Prop :=
  ∃ abiertos resto, Reparte (xs.filterMap (·.recibo)) abiertos resto ∧
    EnBuzon sn (xs.filterMap (·.envio)) abiertos resto s

/-- A mailbox is not touched by the calls on other sockets. -/
theorem EnBuzon.ajeno {s s' : Anfitrion} (h : EnBuzon sn env abiertos resto s)
    (ha : Ajeno sn s s') : EnBuzon sn env abiertos resto s' := by
  obtain ⟨hrest, r, hz⟩ := h
  exact ⟨⟨ha.vars.remained.trans hrest.1, hrest.2⟩, r, ha.stable Atento.stable hz⟩

theorem gestiona_cuadra {xs : List Hecho} (hsn : sn < 8) (g : Gestion sn) :
    Triple (Cuadra sn xs) (gestiona sn g) (fun x => Cuadra sn (xs ++ [x])) fun _ => True := by
  rintro s ⟨abiertos, resto, hrep, hbuzon⟩
  cases g with
  | sendto buf addr port =>
    refine (Triple.bind (sendto_manda hsn) fun n => triple_pure fun t ht => ?_) s
      hbuzon
    rcases ht with ⟨hn, ht⟩ | ⟨hn, -, ht⟩
    · refine ⟨abiertos, resto, ?_, ?_⟩
      · simpa [Hecho.recibo] using hrep
      · have hno : ¬ 0 < n := by omega
        simpa [Hecho.envio, hno] using ht
    · refine ⟨abiertos, resto, ?_, ?_⟩
      · simpa [Hecho.recibo] using hrep
      · simpa [Hecho.envio, hn] using ht
  | recvfrom len addr port =>
    refine (Triple.bind (recvfrom_saca hsn) fun q => triple_pure fun t ht => ?_) s
      hbuzon
    obtain ⟨abiertos', resto', hsaca, ht⟩ := ht
    refine ⟨abiertos', resto', ?_, ?_⟩
    · simpa [Hecho.recibo] using hrep.saca (c := ⟨len, addr, port, q⟩) hsaca
    · simpa [Hecho.envio] using ht
  | otra p hp =>
    have hajeno : Triple (fun t => t = s) (pide p) (fun _ => Ajeno sn s) fun _ => True :=
      (pide_aparte hsn hp s).weaken (by rintro _ rfl; exact .refl) (fun _ _ h => h) fun _ _ => trivial
    refine (Triple.bind hajeno fun _ => triple_pure fun t ht => ?_) s rfl
    refine ⟨abiertos, resto, ?_, ?_⟩
    · simpa [Hecho.recibo] using hrep
    · simpa [Hecho.envio] using hbuzon.ajeno ht

theorem gestiones_cuadra {xs : List Hecho} (hsn : sn < 8) (gs : List (Gestion sn)) :
    Triple (Cuadra sn xs) (gestiones sn gs) (fun ys => Cuadra sn (xs ++ ys)) fun _ => True := by
  induction gs generalizing xs with
  | nil =>
    refine triple_pure fun s hs => ?_
    rw [List.append_nil]
    exact hs
  | cons g gs ih =>
    unfold gestiones
    refine Triple.bind (gestiona_cuadra hsn g) fun x => Triple.bind ih fun ys => triple_pure fun s hs => ?_
    rw [List.append_assoc, List.singleton_append] at hs
    exact hs

theorem carteo_cuadra {port : UInt16} {flag : UInt8} {gs : List (Gestion sn)} {s s' : Anfitrion} {xs : List Hecho}
    (hsn : sn < 8) (hm : Medida (s.zocalos sn.toNat)) (h : carteo sn port flag gs s = .ok (some xs) s') :
    Cuadra sn xs s' := by
  have htriple : Triple (En sn s.vars Medida) (carteo sn port flag gs) (fun o t => ∀ xs ∈ o, Cuadra sn xs t)
      fun _ => True := by
    unfold carteo
    refine Triple.bind (socket_abre (P := fun z => ∃ r, Atento r [] [] [] z) hsn
      (fun e z ⟨r, hz⟩ => ⟨r, Atento.stable e z hz⟩) fun z tx rx hz => hz.atento (by rw [mode_protocol]; decide))
      fun n => triple_ite (fun _ => ?_) fun hn => ?_
    · exact triple_pure fun _ _ p hp => by cases hp
    · refine (Triple.bind (P := Cuadra sn []) (gestiones_cuadra hsn gs) fun ys => triple_pure fun t ht p hp =>
        ?_).weaken (fun t ht => ?_) (fun _ _ h => h) fun _ h => h
      · cases hp
        exact ht
      · obtain ⟨-, hrem, hz⟩ := ht (not_not.mp hn)
        exact ⟨[], [], .nil, ⟨hrem, by decide⟩, hz⟩
  exact htriple.ok ⟨rfl, hm⟩ h xs rfl

/-- Whatever the socket was before and whatever comes between the accesses, the calls of `recvfrom` give out the first
of the datagrams that have come, in their order, none of them mixed with another, and only the first piece of each
brings its sender; what remains is in the ring. -/
theorem carteo_reparte {port : UInt16} {flag : UInt8} {gs : List (Gestion sn)} {s s' : Anfitrion} {xs : List Hecho}
    (hsn : sn < 8) (hm : Medida (s.zocalos sn.toNat)) (h : carteo sn port flag gs s = .ok (some xs) s') :
    ∃ abiertos pend resto, (s'.zocalos sn.toNat).llegados = abiertos ++ pend ∧
      Reparte (xs.filterMap (·.recibo)) abiertos resto ∧
      (s'.zocalos sn.toNat).colaRx = resto ++ pend.flatMap marcoUdp ∧
      (s'.vars.remained sn).toNat = resto.length := by
  obtain ⟨abiertos, resto, hrep, hrest, r, hz, -⟩ := carteo_cuadra hsn hm h
  obtain ⟨pend, hlleg, hcola⟩ := hz.correo.entra
  exact ⟨abiertos, pend, resto, hlleg, hrep, hcola, by rw [hrest.1, toNat_toUInt16 hrest.2]⟩

/-- Two datagrams come after the socket has been opened, and a third one for another socket. -/
def conCorreo : Anfitrion :=
  Anfitrion.inicial [10, 0, 0, 2]
    (List.replicate 25 [(0, .atiende 65530 65530)] ++
      [(0, .datagrama ⟨[1, 2, 3, 4, 5], ⟨10, 0, 0, 1⟩, 53⟩), (1, .datagrama ⟨[7], ⟨10, 0, 0, 9⟩, 5⟩),
        (0, .datagrama ⟨[6], ⟨10, 0, 0, 3⟩, 67⟩)] :: List.replicate 120 [(0, .atiende 0 0), (0, .termina)]) 50

/-- The second piece of a datagram leaves the caller's address and port as they are. -/
theorem carteo_reparte_trozos : ∃ s' : Anfitrion, ∃ abiertos pend resto,
    (s'.zocalos 0).llegados = abiertos ++ pend ∧
      Reparte [⟨3, {}, 0, 3, [1, 2, 3], ⟨10, 0, 0, 1⟩, 53⟩, ⟨10, ⟨1, 1, 1, 1⟩, 7, 2, [4, 5], ⟨1, 1, 1, 1⟩, 7⟩,
        ⟨4, {}, 0, 1, [6], ⟨10, 0, 0, 3⟩, 67⟩] abiertos resto ∧
      (s'.zocalos 0).colaRx = resto ++ pend.flatMap marcoUdp ∧ (s'.vars.remained 0).toNat = resto.length := by
  have hrun : devuelto (carteo 0 0 0 [.recvfrom 3 {} 0, .otra (.send 1 [5]) (by decide), .recvfrom 10 ⟨1, 1, 1, 1⟩ 7,
      .recvfrom 4 {} 0] conCorreo) = some (some [.recvfrom ⟨3, {}, 0, 3, [1, 2, 3], ⟨10, 0, 0, 1⟩, 53⟩, .otra,
      .recvfrom ⟨10, ⟨1, 1, 1, 1⟩, 7, 2, [4, 5], ⟨1, 1, 1, 1⟩, 7⟩,
      .recvfrom ⟨4, {}, 0, 1, [6], ⟨10, 0, 0, 3⟩, 67⟩]) := by decide +kernel
  obtain ⟨s', h⟩ := ok_of_devuelto hrun
  exact ⟨s', carteo_reparte (by decide) ⟨by decide, by decide⟩ h⟩

/-- Whatever the socket was before and whatever comes between the accesses, the datagrams sent are those of the calls
of `sendto` that give a length, each once, with its bytes up to that length and to its address and port.  That nothing
is left in the ring of one that has ended in TIMEOUT is how the chip is taken to be (`Evento.vence`). -/
theorem carteo_envia {port : UInt16} {flag : UInt8} {gs : List (Gestion sn)} {s s' : Anfitrion} {xs : List Hecho}
    (hsn : sn < 8) (hm : Medida (s.zocalos sn.toNat)) (h : carteo sn port flag gs s = .ok (some xs) s') :
    (s'.zocalos sn.toNat).enviados = xs.filterMap (·.envio) := by
  obtain ⟨-, -, -, -, r, -, ho⟩ := carteo_cuadra hsn hm h
  exact ho.enviados

/-- A datagram that is sent, and one to no port, which is not. -/
theorem carteo_envia_dos : ∃ s' : Anfitrion, (s'.zocalos 0).enviados = [⟨[9, 8], ⟨10, 0, 0, 1⟩, 53⟩] := by
  have hrun : devuelto (carteo 0 0 0 [.sendto [9, 8] ⟨10, 0, 0, 1⟩ 53, .sendto [9] ⟨10, 0, 0, 1⟩ 0] conCorreo) =
      some (some [.sendto [9, 8] ⟨10, 0, 0, 1⟩ 53 2, .sendto [9] ⟨10, 0, 0, 1⟩ 0 (-11)]) := by decide +kernel
  obtain ⟨s', h⟩ := ok_of_devuelto hrun
  exact ⟨s', carteo_envia (by decide) ⟨by decide, by decide⟩ h⟩

/-! ### IP datagrams -/

/-- The modes for IP datagrams, as `recvfrom` takes them. -/
def ipraws : List UInt8 := [SN_MR_IPRAW, SN_MR_IPRAW6]

theorem mode_ipraw (hm : m &&& 0x0F ∈ ipraws) : deDatagrama m ∧ m &&& 0x07 = SN_MR_IPRAW := by
  have hmode : m &&& 0x07 = (m &&& 0x0F) &&& 0x07 := by
    rw [UInt8.and_assoc]
    rfl
  have key : ∀ x ∈ ipraws, x ∈ [SN_MR_UDP, SN_MR_MACRAW, SN_MR_IPRAW, SN_MR_IPRAW6] ∧ x &&& 0x07 = SN_MR_IPRAW := by
    decide +kernel
  rw [hmode, deDatagrama, decide_eq_true_eq]
  exact key _ hm

theorem mode_stable : Stable Zocalo.paso fun z => z.regs SN_MR = m := fun e z h => (paso_regs (by decide)).trans h

/-- A socket for IP datagrams that has still to give out these bytes of the last one opened. -/
def Atascado (sn m : UInt8) (n : UInt16) (s : Anfitrion) : Prop :=
  (s.zocalos sn.toNat).regs SN_MR = m ∧ s.vars.remained sn = n

theorem ordena_modo {v : Vars} {cr : UInt8} (hsn : sn < 8) :
    Va sn v (fun z => z.regs SN_MR = m) (ordena sn cr) fun _ z => z.regs SN_MR = m :=
  va_ordena (R := fun z => z.regs SN_MR = m) hsn mode_stable mode_stable (fun _ h => h) fun _ h _ => h

theorem acabaTrozo_atascado {l n : UInt16} (hsn : sn < 8) :
    Triple (Atascado sn m l) (acabaTrozo sn n) (fun _ => Atascado sn m (l - n)) fun _ => True := by
  rintro s₀ ⟨hz₀, hrem⟩
  refine (show Triple (En sn s₀.vars fun z => z.regs SN_MR = m) (acabaTrozo sn n)
    (fun _ => Atascado sn m (l - n)) fun _ => True from ?_) s₀ ⟨rfl, hz₀⟩
  generalize s₀.vars = v at hrem
  unfold acabaTrozo
  refine (ordena_modo hsn).bind fun _ => Triple.bind (triple_enVars _) fun _ =>
    (triple_enVars _).weaken (fun _ h => h) (fun _ s hs => ⟨hs.2, ?_⟩) fun _ h => h
  rw [hs.1]
  have hresta : (v.ponRemained sn (v.remained sn - n)).remained sn = l - n := by
    rw [hrem]
    exact Function.update_self _ _ _
  split <;> exact hresta

theorem recvfrom_atascado {n len : UInt16} {addr : IP} {port : UInt16} (hsn : sn < 8) (hm : m &&& 0x0F ∈ ipraws)
    (hn : n ≠ 0) : Triple (Atascado sn m n) (recvfrom sn len addr port)
      (fun q s => (q.rc ≤ 0 ∧ q.bytes = []) ∧ Atascado sn m n s) fun _ => True := by
  obtain ⟨hdat, hmode⟩ := mode_ipraw hm
  have hnum : ¬ sn ≥ WIZCHIP_SOCK_NUM := by simpa [WIZCHIP_SOCK_NUM] using hsn
  rintro s₀ ⟨hz₀, hrem⟩
  refine (show Triple (En sn s₀.vars fun z => z.regs SN_MR = m) (recvfrom sn len addr port)
    (fun q s => (q.rc ≤ 0 ∧ q.bytes = []) ∧ Atascado sn m n s) fun _ => True from ?_) s₀ ⟨rfl, hz₀⟩
  generalize s₀.vars = v at hrem
  have hne : ¬ v.remained sn = 0 := by rwa [hrem]
  unfold recvfrom
  rw [if_neg hnum]
  refine Va.bind (Q := fun mr z => mr = m ∧ z.regs SN_MR = m) (va_lee SN_MR hsn (by decide) mode_stable fun z hz =>
    ⟨hz, hz⟩) fun mr => triple_en_and fun hmr => ?_
  subst hmr
  simp only [hdat, Bool.not_true, Bool.false_eq_true, if_false]
  refine triple_ite (fun _ => triple_pure fun s hs =>
    ⟨⟨(by decide : SOCKERR_DATALEN ≤ 0), rfl⟩, hs.2, by rw [hs.1, hrem]⟩) fun _ => ?_
  -- no wait, and no read
  refine Triple.bind (Q := fun o s => o = .ok 0 ∧ En sn v (fun z => z.regs SN_MR = mr) s) ?_ fun o =>
    triple_of_and fun ho => ?_
  · refine triple_vars fun s hv => ?_
    rw [hv, if_neg hne]
    exact triple_pure fun s hs => ⟨rfl, hs⟩
  subst ho
  refine Triple.bind (Q := fun o s => o = .ok ([], 0, addr, port) ∧ En sn v (fun z => z.regs SN_MR = mr) s) ?_ fun o =>
    triple_of_and fun ho => ?_
  · unfold leeDatagrama
    refine triple_vars fun s hv => ?_
    have hno : ¬ (s.vars.remained sn == 0) = true := by
      rw [hv, beq_iff_eq]
      exact hne
    rw [hmode, if_neg (by decide), if_neg (by decide), if_pos rfl, if_neg hno]
    exact triple_pure fun s hs => ⟨rfl, hs⟩
  subst ho
  have hfin := acabaTrozo_atascado (m := mr) (l := n) (n := 0) hsn
  rw [UInt16.sub_zero] at hfin
  exact (Triple.bind hfin fun _ => triple_pure fun s hs => ⟨⟨Int.le_refl _, rfl⟩, hs⟩).weaken
    (fun s hs => ⟨hs.2, by rw [hs.1, hrem]⟩) (fun _ _ h => h) fun _ h => h

/-- A socket for IP datagrams at rest, with this one at the head of its ring. -/
structure Crudo (r : Nat → UInt8) (d : Datagrama) (z : Zocalo) : Prop where
  regs : z.regs = r
  modo : r SN_MR &&& 0x0F = SN_MR_IPRAW
  rx : r SN_RXBUF_SIZE ∈ tamanos
  sr : z.sr = SOCK_IPRAW
  cr : z.cr = 0
  visto : z.rxVisto = word r SN_RX_RD
  cola : marco (r SN_MR) d <+: z.colaRx

section

variable {r : Nat → UInt8} {d : Datagrama} {v : Vars} {len : UInt16} {addr : IP} {port : UInt16}

theorem Crudo.sigue {z' : Zocalo} (h : Crudo r d z) (hp : Pasa z z') : Crudo r d z' := by
  obtain ⟨hregs, hmodo, hrx, hsr, hcr, hvisto, hcola⟩ := h
  cases hp with
  | @datagrama d' hc =>
    refine ⟨hregs, hmodo, hrx, hsr, hcr, hvisto, ?_⟩
    show _ <+: (z.guarda _).colaRx
    rw [← hregs] at hrx
    rw [(colaRx_guarda (dvd_of_tamanos hrx) (le_of_tamanos hrx) hc).1]
    exact hcola.trans (List.prefix_append _ _)
  | _ => exact ⟨hregs, hmodo, hrx, hsr, hcr, hvisto, hcola⟩

theorem Crudo.stable : Stable Zocalo.paso (Crudo r d) := by
  intro e z h
  by_cases he : ∃ tx rx, e = .atiende tx rx
  · obtain ⟨tx, rx, rfl⟩ := he
    rwa [atiende_cero h.cr]
  · exact h.sigue (pasa_datagramas (by simp [h.sr]) fun tx rx heq => he ⟨tx, rx, heq⟩)

/-- Its header, and the length that this says. -/
theorem Crudo.cabeza (h : Crudo r d z) :
    window z.rxMax.toNat z.rx (word r SN_RX_RD).toNat 6 = (marco (r SN_MR) d).take 6 ∧
      deCabeza ((marco (r SN_MR) d).take 6) 4 = d.bytes.length.toUInt16 ∧ d.bytes.length < 65536 := by
  have hmarco : marco (r SN_MR) d =
      d.addr.bytes ++ [alto d.bytes.length.toUInt16, bajo d.bytes.length.toUInt16] ++ d.bytes := by
    rw [marco, if_neg (by rw [h.modo]; decide), if_pos h.modo]
  have hlargo : (marco (r SN_MR) d).length = 6 + d.bytes.length := by
    rw [hmarco]
    simp [IP.bytes]
    omega
  obtain ⟨t, ht⟩ := h.cola
  have hle : 6 + d.bytes.length ≤ gap z.rxVisto z.rxWr := by
    have := congrArg List.length ht
    rw [colaRx, length_window, List.length_append, hlargo] at this
    omega
  have hgap : gap z.rxVisto z.rxWr < 65536 := UInt16.toNat_lt _
  refine ⟨?_, by rw [hmarco]; simp [deCabeza, IP.bytes], by omega⟩
  rw [← h.visto, ← take_window (show 6 ≤ gap z.rxVisto z.rxWr by omega), ← colaRx, ← ht,
    List.take_append_of_le_length (by omega)]

theorem poneReg16_modo {off : Nat} {x : UInt16} {P : Zocalo → Prop} (hsn : sn < 8) (hoff : off ∈ punteros)
    (hoff' : off + 1 ∈ punteros) (hP : Stable Zocalo.paso P) (hm : ∀ z, P z → z.regs SN_MR = m) :
    Va sn v P (poneReg16 off sn x) fun _ z => z.regs SN_MR = m := by
  have hlt : ∀ off ∈ punteros, off < 65536 ∧ SN_MR ≠ off := by decide
  have hpone : ∀ {P : Zocalo → Prop} {off b}, off ∈ punteros → Stable Zocalo.paso P → (∀ z, P z → z.regs SN_MR = m) →
      Va sn v P (WIZCHIP_WRITE (reg off sn) b) fun _ z => z.regs SN_MR = m := by
    intro P off b hoff hP hm
    refine va_escribe off hsn (hlt off hoff).1 hP fun z hz => ?_
    rw [escribeReg_puntero hoff]
    exact (Function.update_of_ne (hlt off hoff).2 _ _).trans (hm z hz)
  unfold poneReg16
  refine (hpone hoff hP hm).bind fun _ => ?_
  rw [direccion_inc]
  exact hpone hoff' mode_stable fun _ h => h

theorem wizRecvData_modo (hsn : sn < 8) : Va sn v (fun z => z.regs SN_MR = m) (wizRecvData sn len) fun bs z =>
    bs.length = len.toNat ∧ z.regs SN_MR = m := by
  unfold wizRecvData
  split
  case isTrue h0 => exact va_pure fun z hz => ⟨by rw [h0]; rfl, hz⟩
  case isFalse h0 =>
    refine (va_leeReg16_deja hsn (by decide) mode_stable).bind fun ptr => ?_
    refine Va.bind (Q := fun bs z => bs.length = len.toNat ∧ z.regs SN_MR = m) ?_ fun bs => triple_en_and fun hbs => ?_
    · exact va_acceso mode_stable fun s hs => ⟨hs.1, by simp [Anfitrion.leeBytes], hs.2⟩
    · exact (poneReg16_modo hsn (by decide) (by decide) mode_stable fun _ h => h).bind fun _ =>
        va_pure fun z hz => ⟨hbs, hz⟩

/-- The header of the datagram is read and taken. -/
theorem leeCabeza_crudo (hsn : sn < 8) : Va sn v (Crudo r d) (leeCabeza sn 6) fun head z =>
    deCabeza head 4 = d.bytes.length.toUInt16 ∧ d.bytes.length < 65536 ∧ z.regs SN_MR = r SN_MR := by
  unfold leeCabeza wizRecvData
  rw [if_neg (by decide)]
  refine Va.bind (Q := fun head z => (deCabeza head 4 = d.bytes.length.toUInt16 ∧ d.bytes.length < 65536) ∧
    z.regs SN_MR = r SN_MR) ?_ fun head => triple_en_and fun hhead => (ordena_modo hsn).bind fun _ =>
    va_pure fun z hz => ⟨hhead.1, hhead.2, hz⟩
  refine (va_leeReg16 (x := word r SN_RX_RD) hsn (by decide) Crudo.stable ?_).bind fun ptr =>
    triple_en_and fun hptr => ?_
  · rintro z h
    rw [word, ← h.regs]
    rfl
  subst hptr
  refine (va_leeRx (Q := fun head z => (deCabeza head 4 = d.bytes.length.toUInt16 ∧ d.bytes.length < 65536) ∧
    Crudo r d z) hsn Crudo.stable (fun z h => ?_) fun z h => ?_).bind fun head => triple_en_and fun hhead => ?_
  · rw [rxMax, h.regs]
    exact dvd_of_tamanos h.rx
  · obtain ⟨hventana, hlargo, hlt⟩ := h.cabeza
    rw [show (6 : UInt16).toNat = 6 from rfl, hventana]
    exact ⟨⟨hlargo, hlt⟩, h⟩
  · refine (poneReg16_modo hsn (by decide) (by decide) Crudo.stable fun z h => ?_).bind fun _ =>
      va_pure fun z hz => ⟨hhead, hz⟩
    rw [h.regs]

theorem esperaDatagrama_crudo (hsn : sn < 8) (n : Nat) :
    Va sn v (Crudo r d) (esperaDatagrama sn n) fun o z => (∀ rc, o = .error rc → rc ≤ 0) ∧ Crudo r d z := by
  induction n with
  | zero => exact fun _ _ => trivial
  | succ n ih =>
    unfold esperaDatagrama getSnRXRSR
    refine Va.bind (Q := fun _ => Crudo r d) (triple_vars fun s _ => va_dosVeces_deja (va_leeReg16_deja hsn (by decide)
      Crudo.stable) s.rondas 0) fun packLen => (va_lee SN_SR (Q := fun _ => Crudo r d) hsn (by decide) Crudo.stable
      fun _ h => h).bind fun sr => triple_ite (fun _ => va_pure fun z hz => ⟨?_, hz⟩) fun _ => triple_vars fun s _ =>
      triple_ite (fun _ => va_pure fun z hz => ⟨?_, hz⟩) fun _ => triple_ite (fun _ => va_pure fun z hz => ⟨?_, hz⟩)
      fun _ => ih
    all_goals
      intro rc hrc
      cases hrc
    · decide
    · decide

/-- A piece of `n` bytes has been read of a datagram with so many. -/
def Mordido (sn m : UInt8) (largo n : UInt16) (o : Except Int (List UInt8 × UInt16 × IP × UInt16)) (s : Anfitrion) :
    Prop :=
  ∃ buf a p, o = .ok (buf, n, a, p) ∧ buf.length = n.toNat ∧ Atascado sn m largo s

theorem leeDatagrama_corto {packLen : UInt16} (hsn : sn < 8) (hm : r SN_MR &&& 0x0F ∈ ipraws) (hrem : v.remained sn = 0)
    (hlen : len.toNat < d.bytes.length) :
    Triple (En sn v (Crudo r d)) (leeDatagrama sn (r SN_MR) len packLen addr port) (fun o s =>
      Mordido sn (r SN_MR) d.bytes.length.toUInt16 len o s ∧ d.bytes.length < 65536) fun _ => True := by
  obtain ⟨-, hmode⟩ := mode_ipraw hm
  unfold leeDatagrama
  refine triple_vars fun s hv => ?_
  rw [hmode, if_neg (by decide), if_neg (by decide), if_pos rfl, if_pos (by rw [hv, hrem]; rfl)]
  refine (leeCabeza_crudo hsn).bind fun head => triple_en_and fun hhead => triple_en_and fun hlt => ?_
  rw [hhead]
  refine Triple.bind (triple_enVars _) fun _ => Triple.bind (triple_enVars _) fun _ => ?_
  unfold leeTrozo
  refine Triple.bind (Q := fun buf s => buf.length = len.toNat ∧ Atascado sn (r SN_MR) d.bytes.length.toUInt16 s) ?_
    fun buf => triple_of_and fun hbuf => triple_pure fun s hs => ⟨⟨buf, ipCabeza head, port, ?_, hbuf, hs⟩,
    hlt⟩
  · refine triple_vars fun s hv => ?_
    have hresto : s.vars.remained sn = d.bytes.length.toUInt16 := by
      rw [hv]
      exact Function.update_self _ _ _
    have hmenos : len < d.bytes.length.toUInt16 := by
      rw [UInt16.lt_iff_toNat_lt, toNat_toUInt16 hlt]
      exact hlen
    rw [hresto]
    dsimp only
    rw [if_pos hmenos]
    refine (wizRecvData_modo hsn).weaken (fun _ h => h) (fun buf t ht => ⟨ht.2.1, ht.2.2, ?_⟩) fun _ h => h
    rw [ht.1]
    exact Function.update_self _ _ _
  · rw [hbuf]
    simp

theorem recvfrom_resta (hsn : sn < 8) (hrem : v.remained sn = 0) (hlen : len.toNat < d.bytes.length) :
    Triple (En sn v (Crudo r d)) (recvfrom sn len addr port) (fun q s => 0 < q.rc → q.bytes.length = len.toNat ∧
      Atascado sn (r SN_MR) (d.bytes.length.toUInt16 - len) s ∧ d.bytes.length.toUInt16 - len ≠ 0) fun _ => True := by
  have hnum : ¬ sn ≥ WIZCHIP_SOCK_NUM := by simpa [WIZCHIP_SOCK_NUM] using hsn
  intro s₀ hs₀
  have hm : r SN_MR &&& 0x0F ∈ ipraws := by
    rw [hs₀.2.modo]
    decide
  revert s₀
  unfold recvfrom
  rw [if_neg hnum]
  refine Va.bind (Q := fun mr z => mr = r SN_MR ∧ Crudo r d z) (va_lee SN_MR hsn (by decide) Crudo.stable fun z hz =>
    ⟨congrFun hz.regs SN_MR, hz⟩) fun mr => triple_en_and fun hmr => ?_
  subst hmr
  have hno : ∀ {rc : Int} {s : Anfitrion}, rc ≤ 0 → 0 < rc → ([] : List UInt8).length = len.toNat ∧
      Atascado sn (r SN_MR) (d.bytes.length.toUInt16 - len) s ∧ d.bytes.length.toUInt16 - len ≠ 0 := fun hrc hpos =>
    absurd hpos (Int.not_lt.mpr hrc)
  simp only [(mode_ipraw hm).1, Bool.not_true, Bool.false_eq_true, if_false]
  refine triple_ite (fun _ => triple_pure fun s hs => hno (by decide : SOCKERR_DATALEN ≤ 0)) fun _ => ?_
  refine Triple.bind (Q := fun o => En sn v fun z => (∀ rc, o = .error rc → rc ≤ 0) ∧ Crudo r d z) ?_ fun o =>
    triple_en_and fun ho => ?_
  · refine triple_vars fun s hv => ?_
    rw [if_pos (by rw [hv, hrem])]
    exact triple_vars fun s _ => esperaDatagrama_crudo hsn s.rondas
  cases o with
  | error rc => exact triple_pure fun s hs => hno (ho rc rfl)
  | ok packLen =>
    refine Triple.bind (leeDatagrama_corto hsn hm hrem hlen) fun o => ?_
    rintro s ⟨⟨buf, a, p, rfl, hbuf, hs⟩, hlt⟩
    refine Triple.bind (acabaTrozo_atascado hsn) (fun _ => triple_pure fun t ht _ => ⟨hbuf, ht, fun h0 => ?_⟩) s hs
    have hmenos := congrArg UInt16.toNat (UInt16.sub_eq_iff_eq_add.mp h0)
    rw [toNat_toUInt16 hlt, UInt16.zero_add] at hmenos
    omega

/-- A call that has taken less than the datagram, as its buffer is smaller, leaves the rest to be given out. -/
theorem recvfrom_corto {s s' : Anfitrion} {q : Recibido} (hsn : sn < 8) (hz : Crudo r d (s.zocalos sn.toNat))
    (hrem : s.vars.remained sn = 0) (hlen : len.toNat < d.bytes.length) (h : recvfrom sn len addr port s = .ok q s')
    (hq : 0 < q.rc) :
    (s'.zocalos sn.toNat).regs SN_MR &&& 0x0F ∈ ipraws ∧ s'.vars.remained sn ≠ 0 := by
  obtain ⟨-, ⟨hmr, hresto⟩, hne⟩ := (recvfrom_resta hsn hrem hlen).ok ⟨rfl, hz⟩ h hq
  rw [hmr, hresto, hz.modo]
  exact ⟨by decide, hne⟩

end

/-- Calls of `recvfrom` one after another. -/
def reciben (sn : UInt8) : List (UInt16 × IP × UInt16) → SocketM (List Recibido)
  | [] => return []
  | c :: cs => do
    let q ← recvfrom sn c.1 c.2.1 c.2.2
    let qs ← reciben sn cs
    return q :: qs

/-- When the buffer has been smaller than an IP datagram (`recvfrom_corto`), its rest is never given out, nor any
datagram after it, however many calls are made and however many datagrams come. -/
theorem reciben_atascado {cs : List (UInt16 × IP × UInt16)} {s s' : Anfitrion} (hsn : sn < 8)
    (hm : (s.zocalos sn.toNat).regs SN_MR &&& 0x0F ∈ ipraws) (hn : s.vars.remained sn ≠ 0)
    (h : reciben sn cs s = .ok qs s') :
    (∀ q ∈ qs, q.rc ≤ 0 ∧ q.bytes = []) ∧ s'.vars.remained sn = s.vars.remained sn := by
  have key : ∀ cs : List (UInt16 × IP × UInt16), Triple (Atascado sn ((s.zocalos sn.toNat).regs SN_MR)
      (s.vars.remained sn)) (reciben sn cs) (fun qs t => (∀ q ∈ qs, q.rc ≤ 0 ∧ q.bytes = []) ∧
        Atascado sn ((s.zocalos sn.toNat).regs SN_MR) (s.vars.remained sn) t) fun _ => True := by
    intro cs
    induction cs with
    | nil => exact triple_pure fun t ht => ⟨by simp, ht⟩
    | cons c cs ih =>
      unfold reciben
      refine Triple.bind (recvfrom_atascado hsn hm hn) fun q => triple_of_and fun hq => Triple.bind ih fun qs =>
        triple_pure fun t ht => ⟨?_, ht.2⟩
      rw [List.forall_mem_cons]
      exact ⟨hq, ht.1⟩
  obtain ⟨hqs, -, hrem⟩ := (key cs).ok ⟨rfl, rfl⟩ h
  exact ⟨hqs, hrem⟩

/-- A socket for IP datagrams of which a first call takes three bytes, and then two more calls. -/
def reparoIp : SocketM (UInt8 × UInt16 × List Recibido) := do
  let _ ← socket 0 SN_MR_IPRAW 0 0
  let _ ← recvfrom 0 3 {} 0
  let s ← get
  let qs ← reciben 0 [(4, {}, 0), (4, {}, 0)]
  return ((s.zocalos 0).regs SN_MR, s.vars.remained 0, qs)

/-- A datagram of five bytes of which three are taken, and another one after it. -/
theorem reciben_atascado_cinco : ∃ s s' : Anfitrion,
    s.vars.remained 0 = 2 ∧ (∀ q ∈ [(⟨0, [], {}, 0⟩ : Recibido), ⟨0, [], {}, 0⟩], q.rc ≤ 0 ∧ q.bytes = []) ∧
      s'.vars.remained 0 = s.vars.remained 0 := by
  have hrun : devuelto (reparoIp conCorreo) = some (3, 2, [⟨0, [], {}, 0⟩, ⟨0, [], {}, 0⟩]) := by decide +kernel
  obtain ⟨s'', h⟩ := ok_of_devuelto hrun
  obtain ⟨_, s₁, -, h⟩ := ok_of_bind h
  obtain ⟨_, s, -, h⟩ := ok_of_bind h
  rw [get_bind] at h
  obtain ⟨qs, s', hqs, h⟩ := ok_of_bind h
  obtain ⟨⟨hmr, hrem, rfl⟩, rfl⟩ : ((s.zocalos 0).regs SN_MR = 3 ∧ s.vars.remained 0 = 2 ∧ _ = qs) ∧ s' = s'' := by
    simpa [pure, EStateM.pure, eq_comm] using h
  have hm : (s.zocalos (0 : UInt8).toNat).regs SN_MR &&& 0x0F ∈ ipraws := by
    rw [show (0 : UInt8).toNat = 0 from rfl, hmr]
    decide
  exact ⟨s, s', hrem, reciben_atascado (by decide) hm (by rw [hrem]; decide) hqs⟩

end W5500

end Wiznet
