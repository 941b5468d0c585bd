import Wiznet.Socket.Sesion
import Wiznet.Socket.Reglas

/-!
# The stream of a connection

What `send`, `recv`, `disconnect` and `close` make of a connection, whatever the chip and the network do between any two
accesses: the bytes accepted are sent in their order and the bytes received are those that have come, none lost and none
twice, and a SEND is given only when the last one is complete.
-/

namespace Wiznet

namespace W5500

open Stateful Interference RingBuffer Zocalo

variable {sn : UInt8} {v : Vars} {r : Nat → UInt8} {fin visto : UInt16} {sal nuevo leido tomado bs : List UInt8}
  {A : Zocalo → Prop} {z z' : Zocalo}

/-! ### A connection at rest -/

/-- A connection with this command in `Sn_CR`; `fin` and `visto` are the pointers of the last SEND and RECV taken. -/
structure Mando (cr : UInt8) (r : Nat → UInt8) (fin visto : UInt16) (sal nuevo leido tomado : List UInt8) (z : Zocalo) :
    Prop where
  sesion : z.Sesion r sal nuevo leido tomado
  cr : z.cr = cr
  fin : z.txFin = fin
  visto : z.rxVisto = visto

/-- A connection whose last command has been taken. -/
abbrev Reposo := Mando 0

variable {cr : UInt8}

theorem Mando.sigue (h : Mando cr r fin visto sal nuevo leido tomado z) (hm : Mueve z z') :
    Mando cr r fin visto sal nuevo leido tomado z' :=
  ⟨h.sesion.sigue hm, hm.mando.1.trans h.cr, hm.mando.2.1.trans h.fin, hm.mando.2.2.trans h.visto⟩

/-- A chip with no command to take does nothing else than what it does by itself. -/
theorem Reposo.paso (h : Reposo r fin visto sal nuevo leido tomado z) (e : Evento) : Mueve z (z.paso e) := by
  by_cases he : ∃ tx rx, e = .atiende tx rx
  · obtain ⟨tx, rx, rfl⟩ := he
    obtain ⟨sr, -, hpaso, -, -, hsr⟩ := h.sesion.atiendeOtro (by simp [h.cr]) tx rx
    rw [hpaso, hsr h.cr, ← h.cr]
    exact .nada
  · exact h.sesion.mueve fun tx rx heq => he ⟨tx, rx, heq⟩

theorem Reposo.stable (hA : ∀ z z', Reposo r fin visto sal nuevo leido tomado z → Mueve z z' → A z → A z') :
    Stable Zocalo.paso fun z => Reposo r fin visto sal nuevo leido tomado z ∧ A z :=
  fun e z h => ⟨h.1.sigue (h.1.paso e), hA z _ h.1 (h.1.paso e) h.2⟩

/-- A command under way: as it is before the chip takes it, or as it is after. -/
theorem Mando.stable {Q : Zocalo → Prop}
    (hA : ∀ z z', Mando cr r fin visto sal nuevo leido tomado z → Mueve z z' → A z → A z') (hQ : Stable Zocalo.paso Q)
    (hat : ∀ z tx rx, Mando cr r fin visto sal nuevo leido tomado z → A z → Q (z.paso (.atiende tx rx))) :
    Stable Zocalo.paso fun z => (Mando cr r fin visto sal nuevo leido tomado z ∧ A z) ∨ Q z := by
  rintro e z (⟨h, ha⟩ | hq)
  · by_cases he : ∃ tx rx, e = .atiende tx rx
    · obtain ⟨tx, rx, rfl⟩ := he
      exact .inr (hat z tx rx h ha)
    · have hm := h.sesion.mueve fun tx rx heq => he ⟨tx, rx, heq⟩
      exact .inl ⟨h.sigue hm, hA z _ h hm ha⟩
  · exact .inr (hQ e z hq)

/-- The register of two bytes at this offset. -/
def word (r : Nat → UInt8) (off : Nat) : UInt16 := palabra (r off) (r (off + 1))

/-- The last SEND is over, or the connection cannot send any more. -/
def Suelto (z : Zocalo) : Prop := z.Quieto ∨ abierto z.sr = false

theorem Suelto.sigue (h : Suelto z) (hm : Mueve z z') : Suelto z' := h.imp hm.quieto hm.cerrado

/-- What `sock_is_sending` stands for. -/
def Anotado (sn : UInt8) (v : Vars) (z : Zocalo) : Prop := v.sending sn = false → Suelto z

theorem Anotado.sigue (h : Anotado sn v z) (hm : Mueve z z') : Anotado sn v z' := fun hv => (h hv).sigue hm

/-- Between two calls the pointers that the host has written are those the chip knows of. -/
abbrev Pausa (r : Nat → UInt8) (sal leido : List UInt8) := Reposo r (word r SN_TX_WR) (word r SN_RX_RD) sal [] leido []

/-- A connection between two calls: `sal` is what has been accepted to be sent, `leido` what has been received. -/
def EnCharla (sn : UInt8) (sal leido : List UInt8) (s : Anfitrion) : Prop :=
  ∃ r, Pausa r sal leido (s.zocalos sn.toNat) ∧
    Anotado sn s.vars (s.zocalos sn.toNat)

theorem En.charla {s : Anfitrion} (hfin : word r SN_TX_WR = fin) (hvisto : word r SN_RX_RD = visto)
    (hs : En sn v (fun z => Reposo r fin visto sal [] leido [] z ∧ Anotado sn v z) s) : EnCharla sn sal leido s := by
  subst hfin hvisto
  obtain ⟨rfl, h⟩ := hs
  exact ⟨r, h⟩

/-! ### The bits of the variables -/

theorem sending_libera : (v.libera sn).sending sn = false := by
  simp only [Vars.sending, Vars.libera, bne_eq_false_iff_eq]
  rw [← UInt16.toBitVec_inj]
  simp only [UInt16.toBitVec_and, UInt16.toBitVec_not]
  ext i hi
  simp

theorem sending_ocupa (hsn : sn < 8) : (v.ocupa sn).sending sn = true := by
  have hbit : ∀ n : Fin 8, bit (UInt8.ofNat n.val) ≠ 0 := by decide
  have h8 : sn.toNat < 8 := hsn
  have hne : bit sn ≠ 0 := by simpa using hbit ⟨sn.toNat, h8⟩
  simp only [Vars.sending, Vars.ocupa, bne_iff_ne]
  intro h
  apply hne
  rw [← UInt16.toBitVec_inj] at *
  simp only [UInt16.toBitVec_and, UInt16.toBitVec_or] at *
  ext i hi
  have := congrArg (fun x => x.getLsbD i) h
  simp at this ⊢
  grind

/-- The variables after `close`. -/
def Vars.cerrado (v : Vars) (sn : UInt8) : Vars :=
  (((v.sinModo sn).libera sn).ponRemained sn 0).ponPackInfo sn PACK_NONE

/-! ### Registers of a connection -/

/-- A look at a register. -/
theorem va_mira (off : Nat) (hA : ∀ z z', Reposo r fin visto sal nuevo leido tomado z → Mueve z z' → A z → A z')
    (hsn : sn < 8) (hoff : off < 65536) :
    Va sn v (fun z => Reposo r fin visto sal nuevo leido tomado z ∧ A z) (WIZCHIP_READ (reg off sn)) fun b z =>
      (Reposo r fin visto sal nuevo leido tomado z ∧ A z) ∧ b = z.leeReg off :=
  va_lee off hsn hoff (Reposo.stable hA) fun _ h => ⟨h, rfl⟩

/-- The two pointers that the host writes. -/
def punteros : List Nat := [SN_TX_WR, SN_TX_WR + 1, SN_RX_RD, SN_RX_RD + 1]

theorem escribeReg_puntero {off : Nat} {b : UInt8} (hoff : off ∈ punteros) :
    z.escribeReg off b = { z with regs := Function.update z.regs off b } := by
  simp only [punteros, List.mem_cons, List.not_mem_nil, or_false] at hoff
  rcases hoff with rfl | rfl | rfl | rfl <;> rfl

/-- A write of a byte of one of the pointers. -/
theorem va_pone {off : Nat} {b : UInt8} (hA : ∀ z z', Reposo r fin visto sal nuevo leido tomado z → Mueve z z' →
    A z → A z')
    (hA' : ∀ z, A z → A { z with regs := Function.update z.regs off b }) (hsn : sn < 8) (hoff : off ∈ punteros) :
    Va sn v (fun z => Reposo r fin visto sal nuevo leido tomado z ∧ A z) (WIZCHIP_WRITE (reg off sn) b) fun _ z =>
      Reposo (Function.update r off b) fin visto sal nuevo leido tomado z ∧ A z := by
  have hlt : ∀ off ∈ punteros, off < 65536 ∧ SN_MR ≠ off ∧ SN_TXBUF_SIZE ≠ off ∧ SN_RXBUF_SIZE ≠ off := by decide
  obtain ⟨hoff', hmr, htx, hrx⟩ := hlt off hoff
  refine va_escribe off hsn hoff' (Reposo.stable hA) ?_
  rintro z ⟨h, ha⟩
  rw [escribeReg_puntero hoff]
  exact ⟨⟨h.sesion.escribe hmr htx hrx, h.cr, h.fin, h.visto⟩, hA' z ha⟩

/-- A write of one of the pointers. -/
theorem va_poneReg16 {off : Nat} {x : UInt16}
    (hA : ∀ r z z', Reposo r fin visto sal nuevo leido tomado z → Mueve z z' → A z → A z')
    (hA' : ∀ z g, A z → A { z with regs := g }) (hsn : sn < 8) (hoff : off ∈ punteros) (hoff' : off + 1 ∈ punteros) :
    Va sn v (fun z => Reposo r fin visto sal nuevo leido tomado z ∧ A z) (poneReg16 off sn x) fun _ z =>
      Reposo (pon16 off x r) fin visto sal nuevo leido tomado z ∧ A z := by
  unfold poneReg16
  refine (va_pone (hA r) (fun z => hA' z _) hsn hoff).bind fun _ => ?_
  rw [direccion_inc]
  exact va_pone (hA _) (fun z => hA' z _) hsn hoff'

theorem word_pon16 {off : Nat} {x : UInt16} : word (pon16 off x r) off = x := by simp [word, pon16]

theorem word_pon16_of_ne {off off' : Nat} {x : UInt16} (h : off' ≠ off ∧ off' ≠ off + 1 ∧ off' + 1 ≠ off) :
    word (pon16 off x r) off' = word r off' := by
  obtain ⟨h1, h2, h3⟩ := h
  simp [word, pon16, h1, h2, h3]

/-! ### Closing -/

theorem Mando.atiendeClose (h : Mando SN_CR_CLOSE r fin visto sal nuevo leido tomado z) (tx rx : UInt16) :
    Reposo r fin visto sal nuevo leido tomado (z.paso (.atiende tx rx)) ∧
      abierto (z.paso (.atiende tx rx)).sr = false := by
  obtain ⟨sr, hsr, hpaso, hclose, -⟩ := h.sesion.atiendeOtro (by simp [h.cr]) tx rx
  rw [hpaso]
  refine ⟨⟨h.sesion.cambia 0 hsr id, rfl, h.fin, h.visto⟩, ?_⟩
  show abierto sr = false
  rw [hclose h.cr]
  rfl

/-- A connection that cannot send any more. -/
def Cerrada (r : Nat → UInt8) (fin visto : UInt16) (sal nuevo leido tomado : List UInt8) (z : Zocalo) : Prop :=
  Reposo r fin visto sal nuevo leido tomado z ∧ abierto z.sr = false

theorem Cerrada.stable : Stable Zocalo.paso (Cerrada r fin visto sal nuevo leido tomado) :=
  Reposo.stable fun _ _ _ hm h => hm.cerrado h

/-- `close` leaves the stream as it is, and the connection without a way to send. -/
theorem close_charla (hsn : sn < 8) : Triple (En sn v (Reposo r fin visto sal nuevo leido tomado)) (close sn)
    (fun _ => En sn (v.cerrado sn) (Cerrada r fin visto sal nuevo leido tomado)) fun _ => True := by
  have hnum : ¬ sn ≥ WIZCHIP_SOCK_NUM := by simpa [WIZCHIP_SOCK_NUM] using hsn
  unfold close
  rw [if_neg hnum]
  -- the command
  refine (va_ordena (R := fun z => (Mando SN_CR_CLOSE r fin visto sal nuevo leido tomado z ∧ True) ∨
    Cerrada r fin visto sal nuevo leido tomado z)
      (Q := Cerrada r fin visto sal nuevo leido tomado) hsn ?_ ?_ ?_ ?_).bind
    fun _ => ?_
  · exact fun e z h => h.sigue (Reposo.paso h e)
  · exact Mando.stable (fun _ _ _ _ h => h) Cerrada.stable fun z tx rx h _ => h.atiendeClose tx rx
  · exact fun z h => .inl ⟨⟨h.sesion.cambia SN_CR_CLOSE h.sesion.sr id, rfl, h.fin, h.visto⟩, trivial⟩
  · rintro z (⟨h, -⟩ | h) hcr
    · rw [h.cr] at hcr
      cases hcr
    · exact h
  -- the interrupts
  refine (va_escribe SN_IR (Q := Cerrada r fin visto sal nuevo leido tomado) hsn (by decide) Cerrada.stable
    ?_).bind fun _ => ?_
  · rintro z ⟨h, hsr⟩
    refine ⟨⟨h.sesion.cambia z.cr h.sesion.sr fun hok => ?_, h.cr, h.fin, h.visto⟩, hsr⟩
    exact absurd (and_not_and (by decide)) hok
  -- the variables
  refine Triple.bind (triple_enVars _) fun _ => Triple.bind (triple_enVars _) fun _ =>
    Triple.bind (triple_enVars _) fun _ => Triple.bind (triple_enVars _) fun _ => triple_vars fun s _ => ?_
  refine Triple.bind (triple_mientras (I := En sn (v.cerrado sn) (Cerrada r fin visto sal nuevo leido tomado))
    (O := En sn (v.cerrado sn) (Cerrada r fin visto sal nuevo leido tomado)) ?_ _) fun _ => triple_pure fun _ hs => hs
  refine (va_lee SN_SR (Q := fun _ => Cerrada r fin visto sal nuevo leido tomado) hsn (by decide)
    Cerrada.stable fun _ h => h).bind fun sr => triple_pure fun s hs => ?_
  split <;> exact hs

theorem Cerrada.anotado (h : Cerrada r fin visto sal [] leido [] z) :
    Reposo r fin visto sal [] leido [] z ∧ Anotado sn v z :=
  ⟨h.1, fun _ => .inr h.2⟩

/-! ### The room and the data there are -/

/-- The free room is what the queue leaves. -/
theorem Mando.txFsr (h : Mando cr r (word r SN_TX_WR) visto sal nuevo leido tomado z) :
    z.txFsr.toNat = z.txMax.toNat - gap z.txRd z.txFin := by
  have hwr : z.reg16 SN_TX_WR = z.txFin := by
    rw [h.fin, reg16, h.sesion.regs, word]
  have hle : gap z.txRd z.txFin ≤ z.txMax.toNat := Nat.le_trans (Nat.le_add_right _ _) h.sesion.cabeTx
  have := h.sesion.txLe
  rw [Zocalo.txFsr, hwr, UInt16.toNat_sub]
  show (2 ^ 16 - gap z.txRd z.txFin + z.txMax.toNat) % 2 ^ 16 = _
  omega

theorem Mando.txFsr_le (h : Mando cr r (word r SN_TX_WR) visto sal nuevo leido tomado z) (hm : Mueve z z') :
    z.txFsr.toNat ≤ z'.txFsr.toNat := by
  have hmax : z'.txMax = z.txMax := by rw [txMax, txMax, (h.sigue hm).sesion.regs, h.sesion.regs]
  have hle := (h.sesion.cuentas hm).1
  rw [h.txFsr, (h.sigue hm).txFsr, hmax]
  omega

/-- The room found, in two halves or twice, is there. -/
theorem va_getSnTXFSR (hA : ∀ z z', Reposo r (word r SN_TX_WR) visto sal nuevo leido tomado z → Mueve z z' → A z → A z')
    (hsn : sn < 8) :
    Va sn v (fun z => Reposo r (word r SN_TX_WR) visto sal nuevo leido tomado z ∧ A z) (getSnTXFSR sn) fun x z =>
      (Reposo r (word r SN_TX_WR) visto sal nuevo leido tomado z ∧ A z) ∧ x.toNat ≤ z.txFsr.toNat := by
  refine triple_vars fun s _ => ?_
  refine (va_dosVeces (f := Zocalo.txFsr) (fun m => ?_) s.rondas 0).weaken
    (fun s hs => hs.weaken fun z hz => ⟨hz, Nat.zero_le _⟩) (fun _ _ hs => hs) fun _ h => h
  refine va_leeReg16_le hsn (by decide) (fun z => ⟨rfl, rfl⟩) fun n => ?_
  rintro e z ⟨⟨⟨h, ha⟩, hm⟩, hn⟩
  have hmueve := Reposo.paso h e
  have hle := h.txFsr_le hmueve
  exact ⟨⟨⟨h.sigue hmueve, hA _ _ h hmueve ha⟩, Nat.le_trans hm hle⟩, Nat.le_trans hn hle⟩

/-- The bytes found, in two halves or twice, are there. -/
theorem va_getSnRXRSR (hA : ∀ z z', Reposo r fin visto sal nuevo leido tomado z → Mueve z z' → A z → A z')
    (hsn : sn < 8) :
    Va sn v (fun z => Reposo r fin visto sal nuevo leido tomado z ∧ A z) (getSnRXRSR sn) fun x z =>
      (Reposo r fin visto sal nuevo leido tomado z ∧ A z) ∧ x.toNat ≤ gap z.rxVisto z.rxWr := by
  refine triple_vars fun s _ => ?_
  refine (va_dosVeces (f := Zocalo.rxRsr) (fun m => ?_) s.rondas 0).weaken
    (fun s hs => hs.weaken fun z hz => ⟨hz, Nat.zero_le _⟩) (fun _ _ hs => hs) fun _ h => h
  refine va_leeReg16_le hsn (by decide) (fun z => ⟨rfl, rfl⟩) fun n => ?_
  rintro e z ⟨⟨⟨h, ha⟩, hm⟩, hn⟩
  have hmueve := Reposo.paso h e
  have hle : z.rxRsr.toNat ≤ (z.paso e).rxRsr.toNat := (h.sesion.cuentas hmueve).2
  exact ⟨⟨⟨h.sigue hmueve, hA _ _ h hmueve ha⟩, Nat.le_trans hm hle⟩, Nat.le_trans hn hle⟩

/-! ### Sending -/

/-- A call that has come to its result, which is no byte, or that goes on with `Q`. -/
def Sale (sn : UInt8) (sal leido : List UInt8) (Q : Anfitrion → Prop) (o : Option Int) (s : Anfitrion) : Prop :=
  match o with
  | some n => n ≤ 0 ∧ EnCharla sn sal leido s
  | none => Q s

/-- Between the end of the last SEND and the next one. -/
def Libre (sn : UInt8) (r : Nat → UInt8) (sal leido : List UInt8) (s : Anfitrion) : Prop :=
  s.vars.sending sn = false ∧ Pausa r sal leido (s.zocalos sn.toNat) ∧
    Suelto (s.zocalos sn.toNat)

theorem va_getSnIR (hA : ∀ z z', Reposo r fin visto sal nuevo leido tomado z → Mueve z z' → A z → A z') (hsn : sn < 8) :
    Va sn v (fun z => Reposo r fin visto sal nuevo leido tomado z ∧ A z) (getSnIR sn) fun x z =>
      (Reposo r fin visto sal nuevo leido tomado z ∧ A z) ∧ x = z.ir &&& 0x1F := by
  unfold getSnIR
  refine (va_mira _ hA hsn (by decide)).bind fun b => va_pure ?_
  rintro z ⟨h, rfl⟩
  exact ⟨h, rfl⟩

theorem acabaSend_charla (hsn : sn < 8) :
    Triple (En sn v fun z => Pausa r sal leido z ∧ Anotado sn v z)
      (acabaSend sn) (Sale sn sal leido (Libre sn r sal leido)) fun _ => True := by
  unfold acabaSend
  refine triple_vars fun s hv => ?_
  subst hv
  refine triple_ite (fun hsi => ?_) fun hno => ?_
  · refine (va_getSnIR (fun _ _ _ hm h => h.sigue hm) hsn).bind fun tmp => triple_ite (fun hok => ?_) fun _ =>
      triple_ite (fun _ => ?_) fun _ => ?_
    · -- the end of the last SEND has been seen
      refine Triple.bind (Q := fun _ => En sn s.vars fun z =>
        Pausa r sal leido z ∧ z.Quieto) ?_ fun _ =>
        Triple.bind (triple_enVars _) fun _ => triple_pure ?_
      · have hP : Stable Zocalo.paso fun z => Pausa r sal leido z ∧
            z.enviando = false := Reposo.stable fun _ _ _ hm h => hm.completo h
        refine Triple.weaken (va_escribe SN_IR hsn (by decide) hP (Q := fun z =>
          Pausa r sal leido z ∧ z.Quieto) ?_) ?_ (fun _ _ h => h) fun _ h => h
        · rintro z ⟨h, hen⟩
          have hcero : (z.ir &&& ~~~(SN_IR_SENDOK &&& 0x1F)) &&& SN_IR_SENDOK = 0 := and_not_and (by decide)
          exact ⟨⟨h.sesion.cambia z.cr h.sesion.sr fun hne => absurd hcero hne, h.cr, h.fin, h.visto⟩, hen, hcero⟩
        · rintro s' ⟨hv, ⟨h, -⟩, rfl⟩
          refine ⟨hv, h, h.sesion.sendok fun h0 => hok ?_⟩
          rw [UInt8.and_assoc, show (0x1F : UInt8) &&& SN_IR_SENDOK = SN_IR_SENDOK by decide, h0]
      · rintro s' ⟨hv, h, hq⟩
        refine ⟨by rw [hv]; exact sending_libera, h, .inl hq⟩
    · -- the connection has come to its end
      refine Triple.bind ((close_charla hsn).weaken (fun s' hs => hs.weaken fun z hz => hz.1.1) (fun _ _ h => h)
        fun _ h => h) fun _ => triple_pure fun s' hs => ⟨by decide, ?_⟩
      exact En.charla rfl rfl (hs.weaken fun z hz => hz.anotado)
    · refine triple_pure fun s' hs => ⟨by decide, ?_⟩
      exact En.charla rfl rfl (hs.weaken fun z hz => hz.1)
  · refine triple_pure fun s' hs => ?_
    obtain ⟨hv, h, hanotado⟩ := hs
    rw [Bool.not_eq_true] at hno
    exact ⟨hv ▸ hno, h, hanotado hno⟩

/-- Room for `len` bytes, and no SEND under way. -/
def Hueco (r : Nat → UInt8) (sal leido : List UInt8) (len : UInt16) (z : Zocalo) : Prop :=
  Pausa r sal leido z ∧ z.Quieto ∧ len.toNat ≤ z.txFsr.toNat

theorem Hueco.stable {len : UInt16} : Stable Zocalo.paso (Hueco r sal leido len) :=
  Reposo.stable fun _ _ h hm hq => ⟨hm.quieto hq.1, Nat.le_trans hq.2 (h.txFsr_le hm)⟩

theorem esperaHueco_charla {len : UInt16} (hsn : sn < 8) (n : Nat) :
    Triple (En sn v fun z => Pausa r sal leido z ∧ Suelto z)
      (esperaHueco sn len n) (Sale sn sal leido (En sn v (Hueco r sal leido len))) fun _ => True := by
  induction n with
  | zero => exact fun _ _ => trivial
  | succ n ih =>
    unfold esperaHueco
    refine (va_getSnTXFSR (fun _ _ _ hm h => h.sigue hm) hsn).bind fun freesize => ?_
    refine Triple.bind (Q := fun tmp => En sn v fun z => Pausa r sal leido z ∧
      Suelto z ∧ freesize.toNat ≤ z.txFsr.toNat ∧ tmp = z.sr) ?_ fun tmp => ?_
    · refine ((va_mira SN_SR (A := fun z => Suelto z ∧ freesize.toNat ≤ z.txFsr.toNat)
        (fun _ _ h hm hq => ⟨hq.1.sigue hm, Nat.le_trans hq.2 (h.txFsr_le hm)⟩) hsn (by decide))).weaken
        (fun s hs => hs.weaken fun z hz => ⟨hz.1.1, hz.1.2, hz.2⟩) (fun b s hs => hs.weaken ?_) fun _ h => h
      rintro z ⟨⟨h, hsu, hle⟩, hb⟩
      exact ⟨h, hsu, hle, hb⟩
    · have hcharla : ∀ n ≤ 0, Triple (En sn v fun z =>
          Pausa r sal leido z ∧ Suelto z ∧ freesize.toNat ≤ z.txFsr.toNat ∧
          tmp = z.sr) (pure (some n) : SocketM (Option Int))
            (Sale sn sal leido (En sn v (Hueco r sal leido len))) fun _ => True :=
        fun n hn => triple_pure fun s hs =>
          ⟨hn, En.charla rfl rfl (hs.weaken fun z hz => ⟨hz.1, fun _ => hz.2.1⟩)⟩
      refine triple_ite (fun _ => triple_ite (fun _ => ?_) fun _ => hcharla _ (by decide)) fun hsi =>
        triple_vars fun s hv => triple_ite (fun _ => hcharla _ (by decide)) fun _ =>
          triple_ite (fun hlen => ?_) fun _ => ?_
      · -- the connection has come to its end
        refine Triple.bind ((close_charla hsn).weaken (fun s hs => hs.weaken fun z hz => hz.1) (fun _ _ h => h)
          fun _ h => h) fun _ => triple_pure fun s hs => ⟨by decide, ?_⟩
        exact En.charla rfl rfl (hs.weaken fun z hz => hz.anotado)
      · refine triple_pure fun s hs => hs.weaken ?_
        rintro z ⟨h, hsu, hle, rfl⟩
        refine ⟨h, ?_, Nat.le_trans hlen hle⟩
        rcases hsu with hq | hno
        · exact hq
        · rw [hno] at hsi
          exact absurd rfl hsi
      · exact ih.weaken (fun s hs => hs.weaken fun z hz => ⟨hz.1, hz.2.1⟩) (fun _ _ h => h) fun _ h => h

/-- The data written and told to the chip, before its SEND. -/
theorem wizSendData_charla {len : UInt16} {buf : List UInt8} (hsn : sn < 8) (hlen : len ≠ 0)
    (hbuf : len.toNat ≤ buf.length) : Va sn v (Hueco r sal leido len) (wizSendData sn buf len) fun _ z => ∃ r',
      (Reposo r' (word r SN_TX_WR) (word r' SN_RX_RD) sal (buf.take len.toNat) leido [] z ∧ z.Quieto) ∧
      word r' SN_TX_WR = word r SN_TX_WR + len := by
  unfold wizSendData
  rw [if_neg hlen]
  refine (va_leeReg16 (x := word r SN_TX_WR) hsn (by decide) Hueco.stable ?_).bind fun ptr =>
    triple_en_and fun hptr => ?_
  · rintro z ⟨h, -⟩
    rw [word, ← h.sesion.regs]
    rfl
  · subst hptr
    refine (va_escribeTx (buf.take len.toNat) (Q := fun z =>
      Reposo r (word r SN_TX_WR) (word r SN_RX_RD) sal (buf.take len.toNat) leido [] z ∧ z.Quieto) hsn Hueco.stable
      (fun z h => h.1.sesion.txDvd) ?_).bind fun _ => ?_
    · rintro z ⟨h, hq, hle⟩
      rw [h.txFsr] at hle
      have hcabe := h.sesion.cabeTx
      rw [← h.fin]
      refine ⟨⟨h.sesion.escribeTx ?_, h.cr, rfl, h.visto⟩, hq⟩
      rw [List.length_take, Nat.min_eq_left hbuf]
      simp only [List.length_nil] at hcabe
      omega
    · refine (va_poneReg16 (x := word r SN_TX_WR + len) (fun _ _ _ _ hm h => hm.quieto h) (fun _ _ h => h) hsn
        (by decide) (by decide)).weaken (fun _ h => h) (fun _ s hs => hs.weaken fun z hz => ?_) fun _ h => h
      refine ⟨pon16 SN_TX_WR (word r SN_TX_WR + len) r, ?_, word_pon16⟩
      rw [word_pon16_of_ne (by decide)]
      exact hz

theorem Mando.atiendeSend (h : Mando SN_CR_SEND r fin visto sal bs leido [] z) (hq : z.Quieto)
    (hwr : word r SN_TX_WR = fin + bs.length.toUInt16) (tx rx : UInt16) :
    Reposo r (word r SN_TX_WR) visto (sal ++ bs) [] leido [] (z.paso (.atiende tx rx)) := by
  have hreg : z.reg16 SN_TX_WR = word r SN_TX_WR := by rw [reg16, h.sesion.regs, word]
  have hpaso : (z.paso (.atiende tx rx)).txFin = z.reg16 SN_TX_WR ∧ (z.paso (.atiende tx rx)).rxVisto = z.rxVisto := by
    simp [Zocalo.paso, manda, h.cr, SN_CR_SEND, SN_CR_OPEN, SN_CR_LISTEN, SN_CR_CONNECT, SN_CR_DISCON, SN_CR_CLOSE]
  refine ⟨h.sesion.atiendeSend hq h.cr ?_ tx rx, rfl, hpaso.1.trans hreg, hpaso.2.trans h.visto⟩
  rw [hreg, hwr, h.fin]

/-- A SEND of what has been written. -/
theorem ordenaSend_charla (hsn : sn < 8) (hwr : word r SN_TX_WR = fin + bs.length.toUInt16) :
    Va sn v (fun z => Reposo r fin visto sal bs leido [] z ∧ z.Quieto) (ordena sn SN_CR_SEND) fun _ =>
      Reposo r (word r SN_TX_WR) visto (sal ++ bs) [] leido [] := by
  refine va_ordena (R := fun z => (Mando SN_CR_SEND r fin visto sal bs leido [] z ∧ z.Quieto) ∨
    Reposo r (word r SN_TX_WR) visto (sal ++ bs) [] leido [] z) hsn ?_ ?_ ?_ ?_
  · exact Reposo.stable fun _ _ _ hm h => hm.quieto h
  · exact Mando.stable (fun _ _ _ hm h => hm.quieto h) (fun e z h => h.sigue (Reposo.paso h e))
      fun z tx rx h hq => h.atiendeSend hq hwr tx rx
  · rintro z ⟨h, hq⟩
    exact .inl ⟨⟨h.sesion.cambia SN_CR_SEND h.sesion.sr id, rfl, h.fin, h.visto⟩, hq⟩
  · rintro z (⟨h, -⟩ | h) hcr
    · rw [h.cr] at hcr
      cases hcr
    · exact h

/-- After a `send` that gives `n`: the bytes that it says have been accepted, and no others. -/
def Enviado (sn : UInt8) (sal leido buf : List UInt8) (n : Int) (s : Anfitrion) : Prop :=
  n ≤ buf.length ∧ EnCharla sn (sal ++ buf.take n.toNat) leido s

theorem enviado_of_le {buf : List UInt8} {n : Int} {s : Anfitrion} (hn : n ≤ 0) (hs : EnCharla sn sal leido s) :
    Enviado sn sal leido buf n s := by
  refine ⟨by omega, ?_⟩
  rw [Int.toNat_of_nonpos hn, List.take_zero, List.append_nil]
  exact hs

theorem va_getSnTxMAX (hA : ∀ z z', Reposo r fin visto sal nuevo leido tomado z → Mueve z z' → A z → A z')
    (hsn : sn < 8) :
    Va sn v (fun z => Reposo r fin visto sal nuevo leido tomado z ∧ A z) (getSnTxMAX sn) fun x z =>
      x = (r SN_TXBUF_SIZE).toUInt16 <<< 10 ∧ Reposo r fin visto sal nuevo leido tomado z ∧ A z := by
  unfold getSnTxMAX
  refine (va_mira _ hA hsn (by decide)).bind fun b => va_pure ?_
  rintro z ⟨h, rfl⟩
  refine ⟨?_, h⟩
  rw [← h.1.sesion.regs]
  rfl

/-- The end of `send`. -/
theorem acabaEnvio_charla {buf : List UInt8} {len : UInt16} (hsn : sn < 8) (hbuf : len.toNat ≤ buf.length)
    (hwr : word r SN_TX_WR = fin + len) :
    Triple (En sn v fun z => Reposo r fin (word r SN_RX_RD) sal (buf.take len.toNat) leido [] z ∧ z.Quieto)
      (do
        ordena sn SN_CR_SEND
        enVars (·.ocupa sn)
        return (len.toNat : Int))
      (Enviado sn sal leido buf) fun _ => True := by
  have hlargo : (buf.take len.toNat).length.toUInt16 = len := by
    rw [List.length_take, Nat.min_eq_left hbuf]
    simp
  refine Triple.bind (ordenaSend_charla hsn (by rw [hwr, hlargo])) fun _ => Triple.bind (triple_enVars _) fun _ =>
    triple_pure fun s hs => ⟨by omega, ?_⟩
  refine ⟨r, hs.2, fun hno => ?_⟩
  rw [hs.1, sending_ocupa hsn] at hno
  cases hno

theorem send_charla {buf : List UInt8} (hsn : sn < 8) :
    Triple (EnCharla sn sal leido) (send sn buf) (Enviado sn sal leido buf) fun _ => True := by
  have hnum : ¬ sn ≥ WIZCHIP_SOCK_NUM := by simpa [WIZCHIP_SOCK_NUM] using hsn
  refine triple_of_exists fun r => ?_
  intro s₀ hs₀
  -- the variables at the start
  refine (show Triple (En sn s₀.vars fun z => Pausa r sal leido z ∧
    Anotado sn s₀.vars z) (send sn buf) (Enviado sn sal leido buf) fun _ => True from ?_) s₀ ⟨rfl, hs₀⟩
  generalize s₀.vars = v
  clear hs₀ s₀
  have hpara : ∀ n ≤ 0, Triple (En sn v fun z => Pausa r sal leido z ∧
      Anotado sn v z) (pure n : SocketM Int) (Enviado sn sal leido buf) fun _ => True := fun n hn =>
    triple_pure fun s hs => enviado_of_le hn (En.charla rfl rfl hs)
  have hmira : ∀ off < 65536, Va sn v (fun z => Pausa r sal leido z ∧
      Anotado sn v z) (WIZCHIP_READ (reg off sn)) fun _ z => Pausa r sal leido z ∧
      Anotado sn v z := fun off hoff =>
    (va_mira off (fun _ _ _ hm h => h.sigue hm) hsn hoff).weaken (fun _ h => h) (fun _ _ hs => hs.weaken fun _ h => h.1)
      fun _ h => h
  unfold send
  simp only [if_neg hnum]
  refine (hmira SN_MR (by decide)).bind fun mr => triple_ite (fun _ => hpara _ (by decide)) fun _ =>
    triple_ite (fun _ => hpara _ (by decide)) fun hlen => (hmira SN_SR (by decide)).bind fun sr =>
    triple_ite (fun _ => hpara _ (by decide)) fun _ => Triple.bind (acabaSend_charla hsn) fun o => ?_
  cases o with
  | some n => exact triple_pure fun s hs => enviado_of_le hs.1 hs.2
  | none =>
    intro s₁ hs₁
    obtain ⟨hsend, h₁⟩ := hs₁
    refine (show Triple (En sn s₁.vars fun z => Pausa r sal leido z ∧
      Suelto z) _ (Enviado sn sal leido buf) fun _ => True from ?_) s₁ ⟨rfl, h₁⟩
    generalize s₁.vars = v' at hsend
    have hconfig := h₁.1.sesion.config
    clear h₁ s₁
    refine (va_getSnTxMAX (fun _ _ _ hm h => h.sigue hm) hsn).bind fun freesize => triple_en_and fun hfree =>
      triple_vars fun s _ => Triple.bind (esperaHueco_charla hsn s.rondas) fun o => ?_
    cases o with
    | some n => exact triple_pure fun s hs => enviado_of_le hs.1 hs.2
    | none =>
      have hpos : freesize ≠ 0 := by
        have := pos_of_tamanos hconfig.tx
        rw [← hfree] at this
        rintro rfl
        exact absurd this (by decide)
      have hle : buf.length.toUInt16.toNat ≤ buf.length := by
        rw [Nat.toUInt16, UInt16.toNat_ofNat']
        exact Nat.mod_le _ _
      obtain ⟨len, hlen', hbuf, heq⟩ : ∃ len : UInt16, len ≠ 0 ∧ len.toNat ≤ buf.length ∧
          (if buf.length.toUInt16 > freesize then freesize else buf.length.toUInt16) = len := by
        refine ⟨_, ?_, ?_, rfl⟩
        · split
          · exact hpos
          · exact hlen
        · split
          · next hgt => exact Nat.le_trans (Nat.le_of_lt hgt) hle
          · exact hle
      rw [heq]
      refine Triple.bind (wizSendData_charla hsn hlen' hbuf) fun _ => triple_en_exists fun r' => ?_
      -- the bit of `sock_is_sending` is clear, so there is no other SEND to wait for
      refine Triple.bind (Q := fun o s => o = none ∧
        En sn v' (fun z => (Reposo r' (word r SN_TX_WR) (word r' SN_RX_RD) sal
        (buf.take len.toNat) leido [] z ∧ z.Quieto) ∧ word r' SN_TX_WR = word r SN_TX_WR + len) s) ?_ fun o =>
        triple_of_and fun ho => ?_
      · refine triple_vars fun s hv => ?_
        rw [hv, hsend]
        exact triple_pure fun s hs => ⟨rfl, hs⟩
      · subst ho
        intro s hs
        exact acabaEnvio_charla hsn hbuf hs.2.2 s (hs.weaken fun z hz => hz.1)

end W5500

end Wiznet
