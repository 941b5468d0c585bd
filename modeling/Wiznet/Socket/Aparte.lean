import Wiznet.Socket.Reglas

/-!
# One socket apart from the others

A call on a socket goes to its registers, its buffers and its bits of the variables: what another socket is after any
calls is what its own events have made of it.
-/

namespace Wiznet

namespace W5500

open Stateful Interference RingBuffer
open Anfitrion (offset bloque)

variable {sn k : UInt8} {z : Zocalo} {v : Vars} {α β : Type}

/-! ### Calls -/

/-- A call of `socket.h`. -/
inductive Peticion where
  | close (sn : UInt8)
  | socket (sn protocol : UInt8) (port : UInt16) (flag : UInt8)
  | listen (sn : UInt8)
  | connect (sn : UInt8) (addr : IP) (port : UInt16)
  | disconnect (sn : UInt8)
  | send (sn : UInt8) (buf : List UInt8)
  | recv (sn : UInt8) (len : UInt16)
  | sendto (sn : UInt8) (buf : List UInt8) (addr : IP) (port : UInt16)
  | recvfrom (sn : UInt8) (len : UInt16) (addr : IP) (port : UInt16)

/-- The socket of a call. -/
def Peticion.zocalo : Peticion → UInt8
  | .close sn => sn
  | .socket sn _ _ _ => sn
  | .listen sn => sn
  | .connect sn _ _ => sn
  | .disconnect sn => sn
  | .send sn _ => sn
  | .recv sn _ => sn
  | .sendto sn _ _ _ => sn
  | .recvfrom sn _ _ _ => sn

/-- A call, whatever it returns. -/
def pide : Peticion → SocketM Unit
  | .close sn => do let _ ← close sn
  | .socket sn protocol port flag => do let _ ← socket sn protocol port flag
  | .listen sn => do let _ ← listen sn
  | .connect sn addr port => do let _ ← connect sn addr port
  | .disconnect sn => do let _ ← disconnect sn
  | .send sn buf => do let _ ← send sn buf
  | .recv sn len => do let _ ← recv sn len
  | .sendto sn buf addr port => do let _ ← sendto sn buf addr port
  | .recvfrom sn len addr port => do let _ ← recvfrom sn len addr port

/-- Calls one after another. -/
def piden : List Peticion → SocketM Unit
  | [] => return
  | p :: ps => do
    pide p
    piden ps

/-! ### What a socket does not share -/

/-- The variables of `socket.c` say the same of socket `k`. -/
structure Vars.Igual (k : UInt8) (v v' : Vars) : Prop where
  nonblock : v'.nonblock k = v.nonblock k
  sending : v'.sending k = v.sending k
  remained : v'.remained k = v.remained k
  packInfo : v'.packInfo k = v.packInfo k

theorem Vars.Igual.refl : v.Igual k v := ⟨rfl, rfl, rfl, rfl⟩

/-- After some accesses to the chip, `n` of which have had events before them, socket `k` is what its own events have
made of it. -/
structure EnPaso (s₀ : Anfitrion) (n k : Nat) (s : Anfitrion) : Prop where
  agenda : s.agenda = s₀.agenda.drop n
  zocalo : s.zocalos k = s₀.tras n k

/-- Socket `k` is what its own events have made of it since `s₀`, and the variables say of it what they said. -/
structure Ajeno (k : UInt8) (s₀ s : Anfitrion) : Prop where
  zocalo : ∃ n, EnPaso s₀ n k.toNat s
  vars : s₀.vars.Igual k s.vars

theorem EnPaso.inicio {s : Anfitrion} {k : Nat} : EnPaso s 0 k s := ⟨rfl, rfl⟩

theorem Ajeno.refl {s : Anfitrion} : Ajeno k s s := ⟨⟨0, .inicio⟩, .refl⟩

theorem Anfitrion.tras_succ (s : Anfitrion) (n k : Nat) :
    s.tras (n + 1) k = evolve Zocalo.paso (s.tras n k) (own k ((s.agenda.drop n).headD [])) := by
  have htake : s.agenda.take (n + 1) = s.agenda.take n ++ (s.agenda.drop n).take 1 := List.take_add
  have hhead : ((s.agenda.drop n).take 1).flatten = (s.agenda.drop n).headD [] := by
    cases s.agenda.drop n <;> simp
  rw [tras, htake, List.flatten_append, hhead, own, List.filterMap_append, evolve_append]
  rfl

/-- The events before one more access. -/
theorem EnPaso.avanza {s₀ s : Anfitrion} {n k : Nat} (h : EnPaso s₀ n k s) : EnPaso s₀ (n + 1) k s.avanza := by
  constructor
  · show s.agenda.tail = _
    rw [h.agenda, List.tail_drop]
  · show Interference.run Zocalo.paso s.zocalos (s.agenda.headD []) k = _
    rw [run_own, h.zocalo, h.agenda, Anfitrion.tras_succ]

theorem Ajeno.stable {s₀ s : Anfitrion} {P : Zocalo → Prop} (h : Ajeno k s₀ s) (hP : Stable Zocalo.paso P)
    (hs : P (s₀.zocalos k.toNat)) : P (s.zocalos k.toNat) := by
  obtain ⟨n, hn⟩ := h.zocalo
  rw [hn.zocalo]
  exact hP.evolve hs

/-- A program that leaves socket `k` to its events. -/
abbrev Aparte (k : UInt8) (x : SocketM α) : Prop := ∀ s₀, Preserves (Ajeno k s₀) x

theorem Aparte.bind {x : SocketM α} {f : α → SocketM β} (hx : Aparte k x) (hf : ∀ a, Aparte k (f a)) :
    Aparte k (x >>= f) := fun s₀ => (hx s₀).bind fun a => hf a s₀

theorem aparte_pure (a : α) : Aparte k (pure a : SocketM α) := fun _ => preserves_pure a

theorem aparte_get : Aparte k (get : SocketM Anfitrion) := fun _ => preserves_get

theorem aparte_loop : Aparte k (throw .loop : SocketM α) := fun _ => preserves_throw _

theorem aparte_ite {p : Prop} [Decidable p] {x y : SocketM α} (hx : Aparte k x) (hy : Aparte k y) :
    Aparte k (if p then x else y) := fun s₀ => preserves_ite (hx s₀) (hy s₀)

theorem aparte_enVars {f : Vars → Vars} (hf : ∀ v : Vars, v.Igual k (f v)) : Aparte k (enVars f) := by
  intro s₀ s hs
  obtain ⟨⟨n, hn⟩, h1, h2, h3, h4⟩ := hs
  obtain ⟨g1, g2, g3, g4⟩ := hf s.vars
  exact ⟨⟨n, hn.agenda, hn.zocalo⟩, g1.trans h1, g2.trans h2, g3.trans h3, g4.trans h4⟩

/-- What an access leaves to the events: the agenda, socket `k` and the variables. -/
def Deja (k : Nat) (s s' : Anfitrion) : Prop :=
  s'.agenda = s.agenda ∧ s'.zocalos k = s.zocalos k ∧ s'.vars = s.vars

/-- An access that does not change socket `k`. -/
theorem aparte_acceso {f : Anfitrion → α × Anfitrion} (hf : ∀ s, Deja k.toNat s (f s).2) : Aparte k (acceso f) := by
  intro s₀ s hs
  obtain ⟨ha, hz, hv⟩ := hf s.avanza
  obtain ⟨n, hn⟩ := hs.zocalo
  show Ajeno k s₀ (f s.avanza).2
  refine ⟨⟨n + 1, ha.trans hn.avanza.agenda, hz.trans hn.avanza.zocalo⟩, ?_⟩
  rw [hv]
  exact hs.vars

theorem aparte_lee (addr : Nat) : Aparte k (WIZCHIP_READ addr) := aparte_acceso fun _ => ⟨rfl, rfl, rfl⟩

theorem aparte_leeBuf (addr : Nat) (len : UInt16) : Aparte k (WIZCHIP_READ_BUF addr len) :=
  aparte_acceso fun _ => ⟨rfl, rfl, rfl⟩

/-- The blocks of a socket. -/
theorem escribeByte_aparte {b : Nat} (off : Nat) (x : UInt8) (s : Anfitrion) (hb : b / 4 ≠ k.toNat) :
    Deja k.toNat s (Anfitrion.escribeByte b off x s) := by
  unfold Anfitrion.escribeByte
  split
  · exact ⟨rfl, rfl, rfl⟩
  · exact ⟨rfl, Function.update_of_ne hb.symm _ _, rfl⟩

theorem escribeBytes_aparte {b : Nat} {off : Nat} {bs : List UInt8} {s : Anfitrion} (hb : b / 4 ≠ k.toNat) :
    Deja k.toNat s (Anfitrion.escribeBytes b off bs s) := by
  induction bs generalizing off s with
  | nil => exact ⟨rfl, rfl, rfl⟩
  | cons x bs ih =>
    obtain ⟨ha, hz, hv⟩ := escribeByte_aparte off x s hb
    obtain ⟨ha', hz', hv'⟩ := @ih ((off + 1) % 65536) (Anfitrion.escribeByte b off x s)
    exact ⟨ha'.trans ha, hz'.trans hz, hv'.trans hv⟩

theorem bloque_reg (hsn : sn < 8) (off : Nat) : bloque (reg off sn) / 4 = sn.toNat := by
  have h8 : sn.toNat < 8 := hsn
  simp only [bloque, reg, direccion, WIZCHIP_SREG_BLOCK]
  omega

theorem bloque_txbuf (hsn : sn < 8) (off : Nat) :
    bloque (direccion off (WIZCHIP_TXBUF_BLOCK sn.toNat)) / 4 = sn.toNat := by
  have h8 : sn.toNat < 8 := hsn
  simp only [bloque, direccion, WIZCHIP_TXBUF_BLOCK]
  omega

/-! ### The bits of the variables -/

theorem bit_and_bit (hsn : sn < 8) (hk8 : k < 8) (hk : sn ≠ k) : bit sn &&& bit k = 0 := by
  have key : ∀ i j : Fin 8, i ≠ j → bit (UInt8.ofNat i.val) &&& bit (UInt8.ofNat j.val) = 0 := by decide
  have h1 : sn.toNat < 8 := hsn
  have h2 : k.toNat < 8 := hk8
  have := key ⟨sn.toNat, h1⟩ ⟨k.toNat, h2⟩ fun h => hk (UInt8.toNat_inj.mp (Fin.mk.inj h))
  simpa using this

theorem and_not_and_of_and_eq_zero {x a b : UInt16} (h : a &&& b = 0) : (x &&& ~~~a) &&& b = x &&& b := by
  rw [← UInt16.toBitVec_inj] at *
  simp only [UInt16.toBitVec_and, UInt16.toBitVec_not] at *
  ext i hi
  have := congrArg (fun y => y.getLsbD i) h
  simp at this ⊢
  grind

theorem or_and_of_and_eq_zero' {x a b : UInt16} (h : a &&& b = 0) : (x ||| a) &&& b = x &&& b := by
  rw [← UInt16.toBitVec_inj] at *
  simp only [UInt16.toBitVec_and, UInt16.toBitVec_or] at *
  ext i hi
  have := congrArg (fun y => y.getLsbD i) h
  simp at this ⊢
  grind

/-- The bit that `socket` sets is its own, or none. -/
theorem flag_and_bit (hsn : sn < 8) (hk8 : k < 8) (hk : sn ≠ k) (flag : UInt8) :
    (flag &&& SF_IO_NONBLOCK).toUInt16 <<< sn.toUInt16 &&& bit k = 0 := by
  have hbit : flag &&& SF_IO_NONBLOCK = 0 ∨ flag &&& SF_IO_NONBLOCK = 1 := by
    rw [← UInt8.toNat_inj, ← UInt8.toNat_inj, UInt8.toNat_and]
    show flag.toNat &&& 1 = 0 ∨ flag.toNat &&& 1 = 1
    rw [Nat.and_one_is_mod]
    omega
  rcases hbit with h | h
  · rw [h]
    simp
  · rw [h]
    exact bit_and_bit hsn hk8 hk

section

variable (hsn : sn < 8) (hk8 : k < 8) (hk : sn ≠ k) (v)

include hsn hk8 hk

theorem Vars.igual_sinModo : v.Igual k (v.sinModo sn) := by
  refine ⟨?_, rfl, rfl, rfl⟩
  simp only [nonblock, sinModo, and_not_and_of_and_eq_zero (bit_and_bit hsn hk8 hk)]

theorem Vars.igual_conModo (flag : UInt8) : v.Igual k (v.conModo sn flag) := by
  refine ⟨?_, rfl, rfl, rfl⟩
  simp only [nonblock, conModo, or_and_of_and_eq_zero' (flag_and_bit hsn hk8 hk flag)]

theorem Vars.igual_libera : v.Igual k (v.libera sn) := by
  refine ⟨rfl, ?_, rfl, rfl⟩
  simp only [sending, libera, and_not_and_of_and_eq_zero (bit_and_bit hsn hk8 hk)]

theorem Vars.igual_ocupa : v.Igual k (v.ocupa sn) := by
  refine ⟨rfl, ?_, rfl, rfl⟩
  simp only [sending, ocupa, or_and_of_and_eq_zero' (bit_and_bit hsn hk8 hk)]

end

theorem Vars.igual_ponRemained (hk : sn ≠ k) (n : UInt16) : v.Igual k (v.ponRemained sn n) :=
  ⟨rfl, rfl, Function.update_of_ne (fun h => hk (UInt8.toNat_inj.mp h).symm) _ _, rfl⟩

theorem Vars.igual_ponPackInfo (hk : sn ≠ k) (info : UInt8) : v.Igual k (v.ponPackInfo sn info) :=
  ⟨rfl, rfl, rfl, Function.update_of_ne (fun h => hk (UInt8.toNat_inj.mp h).symm) _ _⟩

theorem Vars.igual_siguientePort : v.Igual k v.siguientePort := ⟨rfl, rfl, rfl, rfl⟩

/-! ### The functions -/

/-- The functions refuse the numbers that are not of a socket before any access. -/
theorem aparte_num {a : α} {x : SocketM α} (hx : sn < 8 → Aparte k x) :
    Aparte k (if sn ≥ WIZCHIP_SOCK_NUM then pure a else x) := by
  split
  · exact aparte_pure _
  · next h => exact hx (UInt8.not_le.mp h)

section

variable (hsn : sn < 8) (hk : sn ≠ k)

include hsn hk

theorem aparte_escribe (off : Nat) (b : UInt8) : Aparte k (WIZCHIP_WRITE (reg off sn) b) := by
  refine aparte_acceso fun s => escribeByte_aparte _ _ s ?_
  rw [bloque_reg hsn]
  exact fun h => hk (UInt8.toNat_inj.mp h)

theorem aparte_escribeBuf (off : Nat) (bs : List UInt8) : Aparte k (WIZCHIP_WRITE_BUF (reg off sn) bs) := by
  refine aparte_acceso fun s => escribeBytes_aparte ?_
  rw [bloque_reg hsn]
  exact fun h => hk (UInt8.toNat_inj.mp h)

theorem aparte_escribeTx (off : Nat) (bs : List UInt8) :
    Aparte k (WIZCHIP_WRITE_BUF (direccion off (WIZCHIP_TXBUF_BLOCK sn.toNat)) bs) := by
  refine aparte_acceso fun s => escribeBytes_aparte ?_
  rw [bloque_txbuf hsn]
  exact fun h => hk (UInt8.toNat_inj.mp h)

theorem aparte_poneReg16 (off : Nat) (x : UInt16) : Aparte k (poneReg16 off sn x) := by
  unfold poneReg16
  refine (aparte_escribe hsn hk off _).bind fun _ => ?_
  rw [direccion_inc]
  exact aparte_escribe hsn hk _ _

omit hsn hk in
theorem aparte_leeReg16 (off : Nat) : Aparte k (leeReg16 off sn) :=
  (aparte_lee _).bind fun _ => (aparte_lee _).bind fun _ => aparte_pure _

omit hsn hk in
theorem aparte_getSnIR : Aparte k (getSnIR sn) := (aparte_lee _).bind fun _ => aparte_pure _

omit hsn hk in
theorem aparte_dosVeces {lee : SocketM UInt16} (hlee : Aparte k lee) (n : Nat) (val : UInt16) :
    Aparte k (dosVeces lee n val) := by
  induction n generalizing val with
  | zero => exact aparte_loop
  | succ n ih =>
    unfold dosVeces
    refine hlee.bind fun val1 => ?_
    have hresto : ∀ val', Aparte k (if val' ≠ val1 then dosVeces lee n val' else pure val') := fun val' =>
      aparte_ite (ih val') (aparte_pure _)
    exact aparte_ite (hlee.bind hresto) ((aparte_pure _).bind hresto)

omit hsn hk in
theorem aparte_getSnTXFSR : Aparte k (getSnTXFSR sn) :=
  aparte_get.bind fun _ => aparte_dosVeces (aparte_leeReg16 _) _ _

omit hsn hk in
theorem aparte_getSnRXRSR : Aparte k (getSnRXRSR sn) :=
  aparte_get.bind fun _ => aparte_dosVeces (aparte_leeReg16 _) _ _

omit hsn hk in
theorem aparte_mientras {cond : SocketM Bool} (h : Aparte k cond) (n : Nat) : Aparte k (mientras cond n) := by
  induction n with
  | zero => exact aparte_loop
  | succ n ih =>
    unfold mientras
    exact h.bind fun c => aparte_ite ih (aparte_pure _)

theorem aparte_ordena (cr : UInt8) : Aparte k (ordena sn cr) :=
  (aparte_escribe hsn hk _ _).bind fun _ => aparte_get.bind fun _ =>
    aparte_mientras ((aparte_lee _).bind fun _ => aparte_pure _) _

theorem aparte_wizSendData (buf : List UInt8) (len : UInt16) : Aparte k (wizSendData sn buf len) :=
  aparte_ite (aparte_pure _) ((aparte_leeReg16 _).bind fun _ => (aparte_escribeTx hsn hk _ _).bind fun _ =>
    aparte_poneReg16 hsn hk _ _)

theorem aparte_wizRecvData (len : UInt16) : Aparte k (wizRecvData sn len) :=
  aparte_ite (aparte_pure _) ((aparte_leeReg16 _).bind fun _ => (aparte_leeBuf _ _).bind fun _ =>
    (aparte_poneReg16 hsn hk _ _).bind fun _ => aparte_pure _)

theorem aparte_wizRecvIgnore (len : UInt16) : Aparte k (wizRecvIgnore sn len) :=
  (aparte_leeReg16 _).bind fun _ => aparte_poneReg16 hsn hk _ _

variable (hk8 : k < 8)

include hk8

omit hsn in
theorem aparte_close : Aparte k (close sn) :=
  aparte_num fun hsn =>
    (aparte_ordena hsn hk _).bind fun _ => (aparte_escribe hsn hk _ _).bind fun _ =>
    (aparte_enVars fun v => v.igual_sinModo hsn hk8 hk).bind fun _ =>
    (aparte_enVars fun v => v.igual_libera hsn hk8 hk).bind fun _ =>
    (aparte_enVars fun v => v.igual_ponRemained hk _).bind fun _ =>
    (aparte_enVars fun v => v.igual_ponPackInfo hk _).bind fun _ => aparte_get.bind fun _ =>
    (aparte_mientras ((aparte_lee _).bind fun _ => aparte_pure _) _).bind fun _ => aparte_pure _

omit hsn hk8 hk in
theorem aparte_protocoloMalo (protocol : UInt8) : Aparte k (protocoloMalo protocol) :=
  aparte_ite ((aparte_leeBuf _ _).bind fun _ => aparte_pure _) (aparte_pure _)

omit hsn hk8 hk in
theorem aparte_elijePort (port : UInt16) : Aparte k (elijePort port) :=
  aparte_ite (aparte_get.bind fun _ => (aparte_enVars fun v => v.igual_siguientePort).bind fun _ => aparte_pure _)
    (aparte_pure _)

omit hsn in
theorem aparte_socket (protocol : UInt8) (port : UInt16) (flag : UInt8) : Aparte k (socket sn protocol port flag) := by
  refine aparte_num fun hsn => ((aparte_protocoloMalo protocol).bind fun o => ?_)
  cases o with
  | some n => exact aparte_pure _
  | none =>
    exact aparte_ite (aparte_pure _) <|
      (aparte_close hk hk8).bind fun _ => (aparte_escribe hsn hk _ _).bind fun _ =>
        (aparte_elijePort port).bind fun _ =>
      (aparte_poneReg16 hsn hk _ _).bind fun _ => (aparte_ordena hsn hk _).bind fun _ =>
      (aparte_enVars fun v => v.igual_sinModo hsn hk8 hk).bind fun _ =>
      (aparte_enVars fun v => v.igual_conModo hsn hk8 hk flag).bind fun _ =>
      (aparte_enVars fun v => v.igual_libera hsn hk8 hk).bind fun _ =>
      (aparte_enVars fun v => v.igual_ponRemained hk _).bind fun _ =>
      (aparte_enVars fun v => v.igual_ponPackInfo hk _).bind fun _ => aparte_get.bind fun _ =>
      (aparte_mientras ((aparte_lee _).bind fun _ => aparte_pure _) _).bind fun _ => aparte_pure _

omit hsn in
theorem aparte_listen : Aparte k (listen sn) :=
  aparte_num fun hsn => (aparte_lee _).bind fun _ => aparte_ite (aparte_pure _) <| (aparte_lee _).bind fun _ =>
    aparte_ite (aparte_pure _) <| (aparte_ordena hsn hk _).bind fun _ => (aparte_lee _).bind fun _ =>
    aparte_ite ((aparte_close hk hk8).bind fun _ => aparte_pure _) (aparte_pure _)

omit hk8 in
theorem aparte_esperaConexion (n : Nat) : Aparte k (esperaConexion sn n) := by
  induction n with
  | zero => exact aparte_loop
  | succ n ih =>
    unfold esperaConexion
    exact (aparte_lee _).bind fun _ => aparte_ite (aparte_pure _) <| aparte_getSnIR.bind fun _ =>
      aparte_ite ((aparte_escribe hsn hk _ _).bind fun _ => aparte_pure _) <| (aparte_lee _).bind fun _ =>
      aparte_ite (aparte_pure _) ih

omit hsn hk8 in
theorem aparte_connect (addr : IP) (port : UInt16) : Aparte k (connect sn addr port) :=
  aparte_num fun hsn => (aparte_lee _).bind fun _ => aparte_ite (aparte_pure _) <| (aparte_lee _).bind fun _ =>
    aparte_ite (aparte_pure _) <| aparte_ite (aparte_pure _) <| aparte_ite (aparte_pure _) <|
    (aparte_poneReg16 hsn hk _ _).bind fun _ => (aparte_lee _).bind fun _ => aparte_ite (aparte_pure _) <|
    (aparte_escribeBuf hsn hk _ _).bind fun _ => (aparte_ordena hsn hk _).bind fun _ => aparte_get.bind fun _ =>
    aparte_ite (aparte_pure _) (aparte_get.bind fun _ => aparte_esperaConexion hsn hk _)

omit hsn in
theorem aparte_esperaDesconexion (n : Nat) : Aparte k (esperaDesconexion sn n) := by
  induction n with
  | zero => exact aparte_loop
  | succ n ih =>
    unfold esperaDesconexion
    exact (aparte_lee _).bind fun _ => aparte_ite (aparte_pure _) <| aparte_getSnIR.bind fun _ =>
      aparte_ite ((aparte_close hk hk8).bind fun _ => aparte_pure _) ih

omit hsn in
theorem aparte_disconnect : Aparte k (disconnect sn) :=
  aparte_num fun hsn => (aparte_lee _).bind fun _ => aparte_ite (aparte_pure _) <| (aparte_lee _).bind fun _ =>
    aparte_ite (aparte_pure _) <| (aparte_ordena hsn hk _).bind fun _ =>
    (aparte_enVars fun v => v.igual_libera hsn hk8 hk).bind fun _ => aparte_get.bind fun _ =>
    aparte_ite (aparte_pure _) (aparte_get.bind fun _ => aparte_esperaDesconexion hk hk8 _)

theorem aparte_acabaSend : Aparte k (acabaSend sn) :=
  aparte_get.bind fun _ => aparte_ite
    (aparte_getSnIR.bind fun _ => aparte_ite
      ((aparte_escribe hsn hk _ _).bind fun _ => (aparte_enVars fun v => v.igual_libera hsn hk8 hk).bind fun _ =>
        aparte_pure _)
      (aparte_ite ((aparte_close hk hk8).bind fun _ => aparte_pure _) (aparte_pure _)))
    (aparte_pure _)

omit hsn in
theorem aparte_esperaHueco (len : UInt16) (n : Nat) : Aparte k (esperaHueco sn len n) := by
  induction n with
  | zero => exact aparte_loop
  | succ n ih =>
    unfold esperaHueco
    exact aparte_getSnTXFSR.bind fun _ => (aparte_lee _).bind fun _ => aparte_ite
      (aparte_ite ((aparte_close hk hk8).bind fun _ => aparte_pure _) (aparte_pure _)) <| aparte_get.bind fun _ =>
      aparte_ite (aparte_pure _) <| aparte_ite (aparte_pure _) ih

theorem aparte_esperaSendok (n : Nat) : Aparte k (esperaSendok sn n) := by
  induction n with
  | zero => exact aparte_loop
  | succ n ih =>
    unfold esperaSendok
    refine aparte_getSnIR.bind fun _ => aparte_ite ((aparte_escribe hsn hk _ _).bind fun _ => aparte_pure _) <|
      (aparte_lee _).bind fun _ => aparte_ite ?_ <| aparte_get.bind fun _ => aparte_ite (aparte_pure _) ih
    exact aparte_ite ((aparte_close hk hk8).bind fun _ => aparte_pure _) <| aparte_getSnIR.bind fun _ =>
      aparte_ite ((aparte_close hk hk8).bind fun _ => aparte_pure _) (aparte_pure _)

omit hsn in
theorem aparte_send (buf : List UInt8) : Aparte k (send sn buf) := by
  refine aparte_num fun hsn => (aparte_lee _).bind fun _ => aparte_ite (aparte_pure _) <|
    aparte_ite (aparte_pure _) <| (aparte_lee _).bind fun _ => aparte_ite (aparte_pure _) <|
    (aparte_acabaSend hsn hk hk8).bind fun o => ?_
  cases o with
  | some r => exact aparte_pure _
  | none =>
    refine ((aparte_lee _).bind fun _ => aparte_pure _).bind fun _ => aparte_get.bind fun _ =>
      (aparte_esperaHueco hk hk8 _ _).bind fun o => ?_
    cases o with
    | some r => exact aparte_pure _
    | none =>
      refine (aparte_wizSendData hsn hk _ _).bind fun _ => Aparte.bind (aparte_get.bind fun _ =>
        aparte_ite (aparte_get.bind fun _ => aparte_esperaSendok hsn hk hk8 _) (aparte_pure _)) fun o => ?_
      cases o with
      | some r => exact aparte_pure _
      | none =>
        exact (aparte_ordena hsn hk _).bind fun _ => (aparte_enVars fun v => v.igual_ocupa hsn hk8 hk).bind fun _ =>
          aparte_pure _

omit hsn hk hk8 in
theorem aparte_todoEnviado : Aparte k (todoEnviado sn) :=
  aparte_getSnTXFSR.bind fun _ => ((aparte_lee _).bind fun _ => aparte_pure _).bind fun _ => aparte_pure _

omit hsn in
theorem aparte_esperaDatos (n : Nat) : Aparte k (esperaDatos sn n) := by
  induction n with
  | zero => exact aparte_loop
  | succ n ih =>
    unfold esperaDatos
    have hcierra : Aparte k (do
        let _ ← close sn
        return .error SOCKERR_SOCKSTATUS : SocketM (Except Int UInt16)) :=
      (aparte_close hk hk8).bind fun _ => aparte_pure _
    refine aparte_getSnRXRSR.bind fun _ => (aparte_lee _).bind fun _ => aparte_ite hcierra <|
      aparte_ite (aparte_pure _) ?_
    exact aparte_ite
      (aparte_todoEnviado.bind fun _ => aparte_ite hcierra <| aparte_get.bind fun _ => aparte_ite (aparte_pure _) <|
        aparte_ite (aparte_pure _) ih)
      ((aparte_pure _).bind fun _ => aparte_ite hcierra <| aparte_get.bind fun _ => aparte_ite (aparte_pure _) <|
        aparte_ite (aparte_pure _) ih)

omit hsn in
theorem aparte_recv (len : UInt16) : Aparte k (recv sn len) := by
  refine aparte_num fun hsn => (aparte_lee _).bind fun _ => aparte_ite (aparte_pure _) <|
    aparte_ite (aparte_pure _) <| ((aparte_lee _).bind fun _ => aparte_pure _).bind fun _ => aparte_get.bind fun _ =>
    (aparte_esperaDatos hk hk8 _).bind fun o => ?_
  cases o with
  | error r => exact aparte_pure _
  | ok n =>
    exact (aparte_wizRecvData hsn hk _).bind fun _ => (aparte_ordena hsn hk _).bind fun _ => aparte_pure _

omit hsn hk hk8 in
theorem aparte_esperaHuecoTo (len : UInt16) (n : Nat) : Aparte k (esperaHuecoTo sn len n) := by
  induction n with
  | zero => exact aparte_loop
  | succ n ih =>
    unfold esperaHuecoTo
    exact aparte_getSnTXFSR.bind fun _ => (aparte_lee _).bind fun _ => aparte_ite (aparte_pure _) <|
      aparte_get.bind fun _ => aparte_ite (aparte_pure _) <| aparte_ite (aparte_pure _) ih

omit hk8 in
theorem aparte_esperaEnviado (len : UInt16) (n : Nat) : Aparte k (esperaEnviado sn len n) := by
  induction n with
  | zero => exact aparte_loop
  | succ n ih =>
    unfold esperaEnviado
    exact aparte_getSnIR.bind fun _ => aparte_ite ((aparte_escribe hsn hk _ _).bind fun _ => aparte_pure _) <|
      aparte_ite ((aparte_escribe hsn hk _ _).bind fun _ => aparte_pure _) ih

omit hsn hk hk8 in
theorem aparte_faltaArg (b : Bool) : Aparte k (faltaArg sn b) :=
  aparte_ite ((aparte_lee _).bind fun _ => aparte_pure _) (aparte_pure _)

omit hk8 in
theorem aparte_mandaDatagrama (buf : List UInt8) (len : UInt16) : Aparte k (mandaDatagrama sn buf len) := by
  refine ((aparte_lee _).bind fun _ => aparte_pure _).bind fun _ => aparte_get.bind fun _ =>
    (aparte_esperaHuecoTo _ _).bind fun o => ?_
  cases o with
  | some r => exact aparte_pure _
  | none =>
    exact (aparte_wizSendData hsn hk _ _).bind fun _ => (aparte_ordena hsn hk _).bind fun _ => aparte_get.bind fun _ =>
      aparte_esperaEnviado hsn hk _ _

omit hsn hk8 in
theorem aparte_sendto (buf : List UInt8) (addr : IP) (port : UInt16) : Aparte k (sendto sn buf addr port) := by
  refine aparte_num fun hsn => ?_
  have hargs : Aparte k (compruebaArgs sn buf addr port) :=
    aparte_ite (aparte_pure _) <| (aparte_faltaArg _).bind fun _ => aparte_ite (aparte_pure _) <|
      (aparte_faltaArg _).bind fun _ => aparte_ite (aparte_pure _) <| (aparte_lee _).bind fun _ =>
      aparte_ite (aparte_pure _) <| (aparte_escribeBuf hsn hk _ _).bind fun _ =>
        (aparte_poneReg16 hsn hk _ _).bind fun _ =>
      aparte_mandaDatagrama hsn hk _ _
  have hport : ∀ mr : UInt8, Aparte k (do
      if mr &&& 0x03 = 0x02 ∧ port = 0 then return SOCKERR_PORTZERO
      else do
        if mr &&& 0x03 = 0x02 then setSnDPORT sn port
        compruebaArgs sn buf addr port : SocketM Int) := fun mr =>
    aparte_ite (aparte_pure _) <| aparte_ite ((aparte_poneReg16 hsn hk _ _).bind fun _ => hargs) hargs
  exact (aparte_lee _).bind fun _ => aparte_ite (aparte_pure _) <| (aparte_lee _).bind fun mr =>
     aparte_ite (aparte_pure _) <| aparte_ite ((aparte_escribeBuf hsn hk _ _).bind fun _ => hport mr) (hport mr)

omit hsn hk hk8 in
theorem aparte_esperaDatagrama (n : Nat) : Aparte k (esperaDatagrama sn n) := by
  induction n with
  | zero => exact aparte_loop
  | succ n ih =>
    unfold esperaDatagrama
    exact aparte_getSnRXRSR.bind fun _ => (aparte_lee _).bind fun _ => aparte_ite (aparte_pure _) <|
      aparte_get.bind fun _ => aparte_ite (aparte_pure _) <| aparte_ite (aparte_pure _) ih

omit hk8 in
theorem aparte_leeCabeza (largo : UInt16) : Aparte k (leeCabeza sn largo) :=
  (aparte_wizRecvData hsn hk _).bind fun _ => (aparte_ordena hsn hk _).bind fun _ => aparte_pure _

omit hk8 in
theorem aparte_leeTrozo (len : UInt16) : Aparte k (leeTrozo sn len) :=
  aparte_get.bind fun _ => aparte_wizRecvData hsn hk _

theorem aparte_leeDatagrama (mr : UInt8) (len packLen : UInt16) (addr : IP) (port : UInt16) :
    Aparte k (leeDatagrama sn mr len packLen addr port) := by
  have hremained : ∀ n, Aparte k (enVars (·.ponRemained sn n)) := fun n => aparte_enVars fun v =>
    v.igual_ponRemained hk _
  have hfirst : Aparte k (enVars (·.ponPackInfo sn PACK_FIRST)) := aparte_enVars fun v => v.igual_ponPackInfo hk _
  refine aparte_get.bind fun s => aparte_ite ?udp <| aparte_ite ?macraw <| aparte_ite ?ipraw ?otro
  case udp =>
    exact aparte_ite
      ((aparte_leeCabeza hsn hk _).bind fun _ => (hremained _).bind fun _ => hfirst.bind fun _ =>
        (aparte_leeTrozo hsn hk _).bind fun _ => aparte_pure _)
      ((aparte_leeTrozo hsn hk _).bind fun _ => aparte_pure _)
  case macraw =>
    exact aparte_ite
      ((aparte_leeCabeza hsn hk _).bind fun _ => (hremained _).bind fun _ => aparte_get.bind fun _ => aparte_ite
        ((aparte_close hk hk8).bind fun _ => aparte_pure _)
        (hfirst.bind fun _ => (aparte_leeTrozo hsn hk _).bind fun _ => aparte_pure _))
      ((aparte_leeTrozo hsn hk _).bind fun _ => aparte_pure _)
  case ipraw =>
    exact aparte_ite
      ((aparte_leeCabeza hsn hk _).bind fun _ => (hremained _).bind fun _ => hfirst.bind fun _ =>
        (aparte_leeTrozo hsn hk _).bind fun _ => aparte_pure _)
      (aparte_pure _)
  case otro =>
    exact (aparte_wizRecvIgnore hsn hk _).bind fun _ => (hremained _).bind fun _ => aparte_pure _

omit hk8 in
theorem aparte_acabaTrozo (packLen : UInt16) : Aparte k (acabaTrozo sn packLen) := by
  refine (aparte_ordena hsn hk _).bind fun _ => (aparte_enVars fun v => v.igual_ponRemained hk _).bind fun _ =>
    aparte_enVars fun v => ?_
  split <;> exact v.igual_ponPackInfo hk _

omit hsn in
theorem aparte_recvfrom (len : UInt16) (addr : IP) (port : UInt16) : Aparte k (recvfrom sn len addr port) := by
  refine aparte_num fun hsn => (aparte_lee _).bind fun mr => aparte_ite (aparte_pure _) <|
    aparte_ite (aparte_pure _) <| Aparte.bind (aparte_get.bind fun _ => aparte_ite
      (aparte_get.bind fun _ => aparte_esperaDatagrama _) (aparte_pure _)) fun o => ?_
  cases o with
  | error r => exact aparte_pure _
  | ok packLen =>
    refine (aparte_leeDatagrama hsn hk hk8 mr len packLen addr port).bind fun o => ?_
    cases o with
    | error r => exact aparte_pure _
    | ok p => exact (aparte_acabaTrozo hsn hk _).bind fun _ => aparte_pure _

end

/-! ### Calls on other sockets -/

theorem pide_aparte {p : Peticion} (hk8 : k < 8) (hk : p.zocalo ≠ k) : Aparte k (pide p) := by
  cases p with
  | close sn => exact (aparte_close hk hk8).bind fun _ => aparte_pure _
  | socket sn protocol port flag => exact (aparte_socket hk hk8 _ _ _).bind fun _ => aparte_pure _
  | listen sn => exact (aparte_listen hk hk8).bind fun _ => aparte_pure _
  | connect sn addr port => exact (aparte_connect hk _ _).bind fun _ => aparte_pure _
  | disconnect sn => exact (aparte_disconnect hk hk8).bind fun _ => aparte_pure _
  | send sn buf => exact (aparte_send hk hk8 _).bind fun _ => aparte_pure _
  | recv sn len => exact (aparte_recv hk hk8 _).bind fun _ => aparte_pure _
  | sendto sn buf addr port => exact (aparte_sendto hk _ _ _).bind fun _ => aparte_pure _
  | recvfrom sn len addr port => exact (aparte_recvfrom hk hk8 _ _ _).bind fun _ => aparte_pure _

theorem piden_aparte {ps : List Peticion} (hk8 : k < 8) (hk : ∀ p ∈ ps, p.zocalo ≠ k) : Aparte k (piden ps) := by
  induction ps with
  | nil => exact aparte_pure _
  | cons p ps ih =>
    rw [List.forall_mem_cons] at hk
    unfold piden
    exact (pide_aparte hk8 hk.1).bind fun _ => ih hk.2

/-- Whatever calls are made on other sockets, whether they return or not, socket `k` is what its own events among
those that have come have made of it, and the variables say the same of it. -/
theorem piden_ajeno {ps : List Peticion} (hk8 : k < 8) (hk : ∀ p ∈ ps, p.zocalo ≠ k) (s : Anfitrion) :
    (∃ n, (final (piden ps s)).agenda = s.agenda.drop n ∧
      (final (piden ps s)).zocalos k.toNat =
        evolve Zocalo.paso (s.zocalos k.toNat) (own k.toNat (s.agenda.take n).flatten)) ∧
      s.vars.Igual k (final (piden ps s)).vars := by
  obtain ⟨⟨n, hn⟩, hvars⟩ := (piden_aparte hk8 hk s).final (fun _ _ h => h) .refl
  exact ⟨⟨n, hn.agenda, hn.zocalo⟩, hvars⟩

/-- A socket open for UDP, and another one. -/
def enEspera : Anfitrion :=
  { Anfitrion.inicial [10, 0, 0, 2]
      ([(1, .atiende 0 0), (0, .datagrama ⟨[1, 2, 3], ⟨10, 0, 0, 1⟩, 53⟩)] ::
        List.replicate 60 [(1, .atiende 0 0)]) 50 with
    zocalos := fun n =>
      if n = 0 then { Zocalo.inicial with regs := Function.update Zocalo.inicial.regs SN_MR SN_MR_UDP, sr := SOCK_UDP }
      else Zocalo.inicial }

/-- While the other one is opened to listen and closed, a datagram comes to it. -/
theorem piden_ajeno_cero :
    ((final (piden [.socket 1 1 80 0, .listen 1, .close 1] enEspera)).zocalos 0).llegados.map (·.bytes) = [[1, 2, 3]] ∧
      (∃ n, (final (piden [.socket 1 1 80 0, .listen 1, .close 1] enEspera)).agenda = enEspera.agenda.drop n ∧
        (final (piden [.socket 1 1 80 0, .listen 1, .close 1] enEspera)).zocalos 0 =
          evolve Zocalo.paso (enEspera.zocalos 0) (own 0 (enEspera.agenda.take n).flatten)) ∧
      enEspera.vars.Igual 0 (final (piden [.socket 1 1 80 0, .listen 1, .close 1] enEspera)).vars :=
  ⟨by decide +kernel, piden_ajeno (k := 0) (by decide) (by decide) enEspera⟩

end W5500

end Wiznet
