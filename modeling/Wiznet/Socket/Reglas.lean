import Wiznet.Socket.Api

/-!
# Rules for the accesses

How a property of one socket of the chip goes through the accesses of the host: what holds before an access, if no
event takes it away, holds when the access is made.  Rules for reading and writing registers and buffers, and for the
loops that poll the chip.
-/

namespace Wiznet

namespace W5500

open Stateful Interference RingBuffer
open Anfitrion (offset bloque)

variable {sn : UInt8} {v : Vars} {P Q R : Zocalo → Prop} {α : Type}

/-- The property holds of socket `sn`, and these are the variables. -/
def En (sn : UInt8) (v : Vars) (P : Zocalo → Prop) (s : Anfitrion) : Prop := s.vars = v ∧ P (s.zocalos sn.toNat)

/-- Whenever the program returns, from `P` to `Q` with the variables as they are. -/
abbrev Va (sn : UInt8) (v : Vars) (P : Zocalo → Prop) (x : SocketM α) (Q : α → Zocalo → Prop) : Prop :=
  Triple (En sn v P) x (fun a => En sn v (Q a)) fun _ => True

theorem Va.bind {β : Type} {x : SocketM α} {f : α → SocketM β} {Q : α → Zocalo → Prop} {T : β → Anfitrion → Prop}
    (hx : Va sn v P x Q) (hf : ∀ a, Triple (En sn v (Q a)) (f a) T fun _ => True) :
    Triple (En sn v P) (x >>= f) T fun _ => True :=
  Triple.bind hx hf

theorem va_pure {a : α} {Q : α → Zocalo → Prop} (h : ∀ z, P z → Q a z) : Va sn v P (pure a) Q :=
  triple_pure fun _ hs => ⟨hs.1, h _ hs.2⟩

theorem En.weaken {s : Anfitrion} (hs : En sn v P s) (h : ∀ z, P z → Q z) : En sn v Q s := ⟨hs.1, h _ hs.2⟩

/-- What does not depend on the socket can be used. -/
theorem triple_en_and {β : Type} {p : Prop} {x : SocketM β} {T : β → Anfitrion → Prop}
    (h : p → Triple (En sn v P) x T fun _ => True) : Triple (En sn v fun z => p ∧ P z) x T fun _ => True :=
  fun s hs => h hs.2.1 s ⟨hs.1, hs.2.2⟩

theorem triple_en_exists {β τ : Type} {P : τ → Zocalo → Prop} {x : SocketM β} {T : β → Anfitrion → Prop}
    (h : ∀ t, Triple (En sn v (P t)) x T fun _ => True) : Triple (En sn v fun z => ∃ t, P t z) x T fun _ => True :=
  fun s ⟨hv, t, ht⟩ => h t s ⟨hv, ht⟩

/-- What is known of the variables can be used. -/
theorem triple_vars {β : Type} {f : Anfitrion → SocketM β} {T : β → Anfitrion → Prop}
    (h : ∀ s : Anfitrion, s.vars = v → Triple (En sn v P) (f s) T fun _ => True) :
    Triple (En sn v P) (get >>= f) T fun _ => True := by
  refine triple_get_bind fun s hs => (h s hs.1).weaken ?_ (fun _ _ ht => ht) fun _ ht => ht
  rintro _ rfl
  exact hs

theorem triple_enVars (f : Vars → Vars) :
    Triple (En sn v P) (enVars f) (fun _ => En sn (f v) P) fun _ => True :=
  triple_modify fun _ hs => ⟨congrArg f hs.1, hs.2⟩

theorem En.avanza {s : Anfitrion} (hP : Stable Zocalo.paso P) (hs : En sn v P s) : En sn v P s.avanza :=
  ⟨hs.1, hP.run hs.2⟩

/-- An access from a property that no event takes away. -/
theorem va_acceso {f : Anfitrion → α × Anfitrion} {Q : α → Zocalo → Prop} (hP : Stable Zocalo.paso P)
    (h : ∀ s, En sn v P s → En sn v (Q (f s).1) (f s).2) : Va sn v P (acceso f) Q :=
  triple_modifyGet fun _ hs => h _ (hs.avanza hP)

/-! ### Registers -/

/-- A register of the socket: the address goes to its block. -/
theorem direccion_sreg {off : Nat} (hsn : sn < 8) (hoff : off < 65536) :
    bloque (reg off sn) = 1 + 4 * sn.toNat ∧ offset (reg off sn) = off := by
  have h8 : sn.toNat < 8 := hsn
  simp only [bloque, offset, reg, direccion, WIZCHIP_SREG_BLOCK]
  omega

theorem direccion_inc {off : Nat} : WIZCHIP_OFFSET_INC (reg off sn) 1 = reg (off + 1) sn := by
  simp only [WIZCHIP_OFFSET_INC, reg, direccion]
  omega

variable {off : Nat} {b : UInt8}

theorem leeByte_sreg {s : Anfitrion} : s.leeByte (1 + 4 * sn.toNat) off = (s.zocalos sn.toNat).leeReg off := by
  have hdiv : (1 + 4 * sn.toNat) / 4 = sn.toNat := by omega
  have hne : ¬ 1 + 4 * sn.toNat = WIZCHIP_CREG_BLOCK := by
    simp only [WIZCHIP_CREG_BLOCK]
    omega
  simp [Anfitrion.leeByte, hdiv, hne]

theorem escribeByte_sreg {s : Anfitrion} : Anfitrion.escribeByte (1 + 4 * sn.toNat) off b s =
    { s with zocalos := Function.update s.zocalos sn.toNat ((s.zocalos sn.toNat).escribeReg off b) } := by
  have hdiv : (1 + 4 * sn.toNat) / 4 = sn.toNat := by omega
  have hne : ¬ 1 + 4 * sn.toNat = WIZCHIP_CREG_BLOCK := by
    simp only [WIZCHIP_CREG_BLOCK]
    omega
  simp [Anfitrion.escribeByte, Anfitrion.escribeZocalo, hdiv, hne]

theorem va_lee {Q : UInt8 → Zocalo → Prop} (off : Nat) (hsn : sn < 8) (hoff : off < 65536) (hP : Stable Zocalo.paso P)
    (hQ : ∀ z, P z → Q (z.leeReg off) z) : Va sn v P (WIZCHIP_READ (reg off sn)) Q := by
  obtain ⟨hb, ho⟩ := direccion_sreg hsn hoff
  refine va_acceso hP fun s hs => ?_
  show En sn v (Q (s.leeByte _ _)) s
  rw [hb, ho, leeByte_sreg]
  exact ⟨hs.1, hQ _ hs.2⟩

theorem va_escribe (off : Nat) (hsn : sn < 8) (hoff : off < 65536) (hP : Stable Zocalo.paso P)
    (hQ : ∀ z, P z → Q (z.escribeReg off b)) : Va sn v P (WIZCHIP_WRITE (reg off sn) b) fun _ => Q := by
  obtain ⟨hb, ho⟩ := direccion_sreg hsn hoff
  refine va_acceso hP fun s hs => ?_
  show En sn v Q (Anfitrion.escribeByte _ _ b s)
  rw [hb, ho, escribeByte_sreg]
  exact ⟨hs.1, by simpa using hQ _ hs.2⟩

/-- A register of two bytes that no event changes. -/
theorem va_leeReg16 {x : UInt16} (hsn : sn < 8) (hoff : off < 65535) (hP : Stable Zocalo.paso P)
    (hx : ∀ z, P z → palabra (z.leeReg off) (z.leeReg (off + 1)) = x) :
    Va sn v P (leeReg16 off sn) fun y z => y = x ∧ P z := by
  unfold leeReg16
  refine (va_lee _ (Q := fun hi z => hi = alto x ∧ P z) hsn (by omega) hP fun z hz => ⟨?_, hz⟩).bind fun hi =>
    triple_en_and fun hhi => ?_
  · rw [← hx z hz, alto_palabra]
  · rw [direccion_inc]
    refine (va_lee _ (Q := fun lo z => palabra hi lo = x ∧ P z) hsn (by omega) hP fun z hz => ⟨?_, hz⟩).bind fun lo =>
      va_pure fun _ h => h
    have hz' := hx z hz
    rw [hhi, ← hz', alto_palabra]

theorem va_leeReg16_deja (hsn : sn < 8) (hoff : off < 65535) (hP : Stable Zocalo.paso P) :
    Va sn v P (leeReg16 off sn) fun _ => P := by
  have hlee : ∀ off < 65536, Va sn v P (WIZCHIP_READ (reg off sn)) fun _ => P := fun off hoff =>
    va_lee off hsn hoff hP fun _ h => h
  unfold leeReg16
  refine (hlee off (by omega)).bind fun hi => ?_
  rw [direccion_inc]
  exact (hlee (off + 1) (by omega)).bind fun lo => va_pure fun _ h => h

theorem va_dosVeces_deja {lee : SocketM UInt16} (hlee : Va sn v P lee fun _ => P) (n : Nat) (val : UInt16) :
    Va sn v P (dosVeces lee n val) fun _ => P := by
  induction n generalizing val with
  | zero => exact fun _ _ => trivial
  | succ n ih =>
    unfold dosVeces
    refine hlee.bind fun val1 => ?_
    have hresto : ∀ val' : UInt16, Va sn v P (if val' ≠ val1 then dosVeces lee n val' else pure val') fun _ => P :=
      fun val' => triple_ite (fun _ => ih val') fun _ => va_pure fun _ h => h
    refine triple_ite (fun _ => hlee.bind hresto) fun _ => ?_
    exact (va_pure (Q := fun (_ : UInt16) z => P z) fun _ h => h).bind hresto

theorem add_mod_le {a n : Nat} (h : a * 256 ≤ n) : a * 256 + n % 256 ≤ n :=
  calc a * 256 + n % 256
    _ ≤ n / 256 * 256 + n % 256 :=
      Nat.add_le_add_right (Nat.mul_le_mul_right _ ((Nat.le_div_iff_mul_le (by decide)).mpr h)) _
    _ = n := Nat.div_add_mod' n 256

/-- A register of two bytes that only grows: what is read, with one value of each byte, is no more than what is
there. -/
theorem va_leeReg16_le {f : Zocalo → UInt16} (hsn : sn < 8) (hoff : off < 65535)
    (hf : ∀ z : Zocalo, z.leeReg off = alto (f z) ∧ z.leeReg (off + 1) = bajo (f z))
    (hP : ∀ n, Stable Zocalo.paso fun z => P z ∧ n ≤ (f z).toNat) :
    Va sn v P (leeReg16 off sn) fun x z => P z ∧ x.toNat ≤ (f z).toNat := by
  have hP0 : Stable Zocalo.paso P := fun e z hz => (hP 0 e z ⟨hz, Nat.zero_le _⟩).1
  unfold leeReg16
  refine (va_lee _ (Q := fun hi z => P z ∧ hi.toNat * 256 ≤ (f z).toNat) hsn (by omega) hP0 fun z hz => ⟨hz, ?_⟩).bind
    fun hi => ?_
  · rw [(hf z).1, toNat_alto]
    omega
  · rw [direccion_inc]
    refine (va_lee _ (Q := fun lo z => P z ∧ (palabra hi lo).toNat ≤ (f z).toNat) hsn (by omega) (hP _) ?_).bind
      fun lo => va_pure fun _ h => h
    rintro z ⟨hz, hle⟩
    refine ⟨hz, ?_⟩
    -- the upper byte was read when there was no more than now
    rw [(hf z).2, toNat_palabra, toNat_bajo]
    exact add_mod_le hle

/-- Reading twice does not find more than there is. -/
theorem va_dosVeces {lee : SocketM UInt16} {f : Zocalo → UInt16}
    (hlee : ∀ m : UInt16, Va sn v (fun z => P z ∧ m.toNat ≤ (f z).toNat) lee fun x z =>
      (P z ∧ m.toNat ≤ (f z).toNat) ∧ x.toNat ≤ (f z).toNat) (n : Nat) (val : UInt16) :
    Va sn v (fun z => P z ∧ val.toNat ≤ (f z).toNat) (dosVeces lee n val) fun x z => P z ∧ x.toNat ≤ (f z).toNat := by
  induction n generalizing val with
  | zero => exact fun _ _ => trivial
  | succ n ih =>
    unfold dosVeces
    refine (hlee val).bind fun val1 => ?_
    have hresto : ∀ val' : UInt16, Va sn v (fun z => P z ∧ val'.toNat ≤ (f z).toNat)
        (if val' ≠ val1 then dosVeces lee n val' else pure val') fun x z => P z ∧ x.toNat ≤ (f z).toNat := fun val' =>
      triple_ite (fun _ => ih val') fun _ => va_pure fun _ h => h
    refine triple_ite (fun _ => ?_) fun _ => ?_
    · have hlee' : Va sn v (fun z => (P z ∧ val.toNat ≤ (f z).toNat) ∧ val1.toNat ≤ (f z).toNat) lee
          fun x z => P z ∧ x.toNat ≤ (f z).toNat := by
        refine (hlee val).weaken (fun s hs => hs.weaken fun _ h => h.1) (fun x s hs => hs.weaken ?_) fun _ h => h
        rintro z ⟨⟨hz, -⟩, hx⟩
        exact ⟨hz, hx⟩
      exact hlee'.bind hresto
    · exact (va_pure (Q := fun (val' : UInt16) z => P z ∧ val'.toNat ≤ (f z).toNat) fun _ h => h.1).bind hresto

/-! ### Buffers -/

variable {ptr : UInt16} {bs : List UInt8}

theorem bloque_direccion {k : Nat} (hk : k < 32) (hoff : off < 65536) :
    bloque (direccion off k) = k ∧ offset (direccion off k) = off := by
  simp only [bloque, offset, direccion]
  omega

/-- The bytes go to the ring of the socket. -/
theorem escribeBytes_tx {s : Anfitrion} {p : Nat} (hc : (s.zocalos sn.toNat).txMax.toNat ∣ 65536) :
    Anfitrion.escribeBytes (2 + 4 * sn.toNat) p bs s = { s with
      zocalos := Function.update s.zocalos sn.toNat { s.zocalos sn.toNat with
        tx := put (s.zocalos sn.toNat).txMax.toNat (s.zocalos sn.toNat).tx p bs } } := by
  induction bs generalizing s p with
  | nil => simp [Anfitrion.escribeBytes, put]
  | cons b bs ih =>
    have hdiv : (2 + 4 * sn.toNat) / 4 = sn.toNat := by omega
    have hne : ¬ 2 + 4 * sn.toNat = WIZCHIP_CREG_BLOCK := by
      simp only [WIZCHIP_CREG_BLOCK]
      omega
    have hb : Anfitrion.escribeByte (2 + 4 * sn.toNat) p b s = { s with
        zocalos := Function.update s.zocalos sn.toNat { s.zocalos sn.toNat with
          tx := Function.update (s.zocalos sn.toNat).tx (p % (s.zocalos sn.toNat).txMax.toNat) b } } := by
      simp [Anfitrion.escribeByte, Anfitrion.escribeZocalo, hdiv, hne]
    have hmax : ∀ z : Zocalo, ∀ tx, { z with tx := tx }.txMax = z.txMax := fun _ _ => rfl
    have hput : ∀ m, put (s.zocalos sn.toNat).txMax.toNat m ((p + 1) % 65536) bs =
        put (s.zocalos sn.toNat).txMax.toNat m (p + 1) bs := fun m => put_congr (Nat.mod_mod_of_dvd _ hc)
    rw [Anfitrion.escribeBytes, hb, ih (by simpa [Zocalo.txMax] using hc), put]
    simp only [Function.update_self, Function.update_idem, hmax, hput]

theorem va_escribeTx (bs : List UInt8) (hsn : sn < 8) (hP : Stable Zocalo.paso P)
    (hc : ∀ z, P z → z.txMax.toNat ∣ 65536) (hQ : ∀ z, P z → Q { z with tx := put z.txMax.toNat z.tx ptr.toNat bs }) :
    Va sn v P (WIZCHIP_WRITE_BUF (direccion ptr.toNat (WIZCHIP_TXBUF_BLOCK sn.toNat)) bs) fun _ => Q := by
  have hk : WIZCHIP_TXBUF_BLOCK sn.toNat < 32 := by
    have h8 : sn.toNat < 8 := hsn
    simp only [WIZCHIP_TXBUF_BLOCK]
    omega
  obtain ⟨hb, ho⟩ := bloque_direccion hk ptr.toNat_lt
  refine va_acceso hP fun s hs => ?_
  show En sn v Q (Anfitrion.escribeBytes _ _ bs s)
  rw [hb, ho, WIZCHIP_TXBUF_BLOCK, escribeBytes_tx (hc _ hs.2)]
  exact ⟨hs.1, by simpa using hQ _ hs.2⟩

theorem va_leeRx {len : UInt16} {Q : List UInt8 → Zocalo → Prop} (hsn : sn < 8) (hP : Stable Zocalo.paso P)
    (hc : ∀ z, P z → z.rxMax.toNat ∣ 65536)
    (hQ : ∀ z, P z → Q (window z.rxMax.toNat z.rx ptr.toNat len.toNat) z) :
    Va sn v P (WIZCHIP_READ_BUF (direccion ptr.toNat (WIZCHIP_RXBUF_BLOCK sn.toNat)) len) Q := by
  have hk : WIZCHIP_RXBUF_BLOCK sn.toNat < 32 := by
    have h8 : sn.toNat < 8 := hsn
    simp only [WIZCHIP_RXBUF_BLOCK]
    omega
  obtain ⟨hb, ho⟩ := bloque_direccion hk ptr.toNat_lt
  have hdiv : (3 + 4 * sn.toNat) / 4 = sn.toNat := by omega
  have hmod : (3 + 4 * sn.toNat) % 4 = 3 := by omega
  have hne : ¬ 3 + 4 * sn.toNat = WIZCHIP_CREG_BLOCK := by
    simp only [WIZCHIP_CREG_BLOCK]
    omega
  refine va_acceso hP fun s hs => ?_
  have hlee : s.leeBytes (3 + 4 * sn.toNat) ptr.toNat len.toNat =
      window (s.zocalos sn.toNat).rxMax.toNat (s.zocalos sn.toNat).rx ptr.toNat len.toNat := by
    refine List.map_congr_left fun i _ => ?_
    simp [Anfitrion.leeByte, hdiv, hmod, hne, Nat.mod_mod_of_dvd _ (hc _ hs.2)]
  show En sn v (Q (s.leeBytes _ _ _)) s
  rw [hb, ho, WIZCHIP_RXBUF_BLOCK, hlee]
  exact ⟨hs.1, hQ _ hs.2⟩

/-! ### Loops -/

theorem triple_mientras {I O : Anfitrion → Prop} {cond : SocketM Bool}
    (h : Triple I cond (fun c s => if c then I s else O s) fun _ => True) (n : Nat) :
    Triple I (mientras cond n) (fun _ => O) fun _ => True := by
  induction n with
  | zero => exact fun _ _ => trivial
  | succ n ih =>
    unfold mientras
    refine Triple.bind h fun c => ?_
    cases c with
    | true => simpa using ih
    | false => exact triple_pure fun s hs => hs

/-- A command, from `P` to what holds once it is taken. -/
theorem va_ordena {cr : UInt8} (hsn : sn < 8) (hP : Stable Zocalo.paso P) (hR : Stable Zocalo.paso R)
    (hcr : ∀ z, P z → R { z with cr := cr }) (hQ : ∀ z, R z → z.cr = 0 → Q z) :
    Va sn v P (ordena sn cr) fun _ => Q := by
  refine (va_escribe SN_CR (Q := R) hsn (by decide) hP hcr).bind fun _ => triple_vars fun s _ => ?_
  refine triple_mientras (I := En sn v R) (O := En sn v Q) ?_ _
  refine (va_lee SN_CR (Q := fun c z => c = z.cr ∧ R z) hsn (by decide) hR fun z hz => ⟨rfl, hz⟩).bind
    fun c => ?_
  refine triple_pure fun s hs => ?_
  obtain ⟨hv, hc, hz⟩ := hs
  by_cases h0 : c = 0
  · have hz0 : (s.zocalos sn.toNat).cr = 0 := hc ▸ h0
    simp only [h0, bne_self_eq_false]
    exact ⟨hv, hQ _ hz hz0⟩
  · simp only [bne_iff_ne, ne_eq, h0, not_false_eq_true, if_true]
    exact ⟨hv, hz⟩

end W5500

end Wiznet
