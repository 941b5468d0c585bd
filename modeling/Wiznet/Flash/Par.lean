import Wiznet.Flash.DriverSpec

/-!
# Two-byte values

The unsigned calls shift and send the high byte first; the signed ones copy memory and send the low byte first.  A
program wraps at the page end and a read does not, so the byte after the last one of a page is read where it was not
written.
-/

namespace Wiznet

open NorFlash (Mem Cmd)
open W25Q16

/-- The unsigned and the signed calls. -/
inductive Signo where
  | u16
  | i16
  deriving DecidableEq

def alto (v : UInt16) : UInt8 := (v >>> 8).toUInt8

def bajo (v : UInt16) : UInt8 := v.toUInt8

namespace Signo

def escribe (page : UInt16) (pageAddress : UInt8) (v : UInt16) : Signo → SpiM Unit
  | u16 => writeU16 page pageAddress v
  | i16 => writeI16 page pageAddress v.toInt16

/-- The bit pattern read. -/
def lee (page : UInt16) (pageAddress : UInt8) : Signo → SpiM UInt16
  | u16 => readU16 page pageAddress
  | i16 => readI16 page pageAddress >>= fun v => return v.toUInt16

/-- The byte sent first. -/
def primero (v : UInt16) : Signo → UInt8
  | u16 => alto v
  | i16 => bajo v

def segundo (v : UInt16) : Signo → UInt8
  | u16 => bajo v
  | i16 => alto v

/-- What a read makes of two bytes. -/
def valor (b₀ b₁ : UInt8) : Signo → UInt16
  | u16 => (b₀.toUInt16 <<< 8) + b₁.toUInt16
  | i16 => (b₁.toUInt16 <<< 8) + b₀.toUInt16

end Signo

theorem bytes_of_u16 (b₀ b₁ : UInt8) : alto ((b₀.toUInt16 <<< 8) + b₁.toUInt16) = b₀ ∧
    bajo ((b₀.toUInt16 <<< 8) + b₁.toUInt16) = b₁ := by
  have e2 : (8 : UInt16).toNat % 16 = 8 := rfl
  have h0 := b₀.toNat_lt
  have h1 := b₁.toNat_lt
  constructor
  · apply UInt8.toNat_inj.1
    simp only [alto, UInt16.toNat_add, UInt16.toNat_shiftLeft, UInt8.toNat_toUInt16, UInt16.toNat_toUInt8,
      UInt16.toNat_shiftRight, e2, Nat.shiftRight_eq_div_pow, Nat.shiftLeft_eq]
    omega
  · apply UInt8.toNat_inj.1
    simp only [bajo, UInt16.toNat_add, UInt16.toNat_shiftLeft, UInt8.toNat_toUInt16, UInt16.toNat_toUInt8, e2,
      Nat.shiftLeft_eq]
    omega

/-- A read gives a value where it finds the bytes of that value, in its own order. -/
theorem Signo.valor_eq_iff {r : Signo} {b₀ b₁ : UInt8} {v : UInt16} :
    r.valor b₀ b₁ = v ↔ b₀ = r.primero v ∧ b₁ = r.segundo v := by
  have h01 := bytes_of_u16 b₀ b₁
  have h10 := bytes_of_u16 b₁ b₀
  constructor
  · rintro rfl
    cases r with
    | u16 => exact ⟨h01.1.symm, h01.2.symm⟩
    | i16 => exact ⟨h10.2.symm, h10.1.symm⟩
  · rintro ⟨rfl, rfl⟩
    cases r with
    | u16 => exact u16_of_bytes v
    | i16 => exact u16_of_bytes v

/-- The writer and the reader take the bytes in one order, or the order does not matter. -/
theorem Signo.primero_eq_iff {w r : Signo} {v : UInt16} : w.primero v = r.primero v ↔ w = r ∨ alto v = bajo v := by
  cases w <;> cases r <;> simp [primero, eq_comm]

theorem Signo.segundo_eq_iff {w r : Signo} {v : UInt16} : w.segundo v = r.segundo v ↔ w = r ∨ alto v = bajo v := by
  cases w <;> cases r <;> simp [segundo, eq_comm]

section

variable {m : Mem} (page : UInt16) (pageAddress : UInt8)

theorem Signo.escribe_does (w : Signo) (v : UInt16) : Does (w.escribe page pageAddress v) m ()
    [.program (flashAddr page pageAddress) [w.primero v, w.segundo v]] := by
  cases w with
  | u16 =>
    have h := writeU16_does (m := m) page pageAddress v
    rw [low_byte] at h
    exact h
  | i16 => exact writeI16_does page pageAddress v.toInt16

theorem Signo.lee_does (r : Signo) : Does (r.lee page pageAddress) m
    (r.valor (m (flashAddr page pageAddress % w25q16.capacity))
      (m ((flashAddr page pageAddress + 1) % w25q16.capacity)))
    [.read (flashAddr page pageAddress) 2] := by
  cases r with
  | u16 => exact readU16_does page pageAddress
  | i16 => exact (readI16_does page pageAddress).map _

end

/-- The place of the second byte of a program. -/
theorem byteAddr_segundo {page : UInt16} (hp : page.toNat < 8192) (pageAddress : UInt8) :
    w25q16.byteAddr (flashAddr page pageAddress) 1 =
      if pageAddress = 0xFF then 256 * page.toNat else flashAddr page pageAddress + 1 := by
  have ha := pageAddress.toNat_lt
  have hff : (0xFF : UInt8).toNat = 255 := rfl
  have hcap : flashAddr page pageAddress % w25q16.capacity = flashAddr page pageAddress :=
    Nat.mod_eq_of_lt (by unfold flashAddr; show _ < 2097152; omega)
  unfold NorFlash.Geometry.byteAddr
  rw [hcap]
  unfold flashAddr
  show (page.toNat * 256 + pageAddress.toNat) / 256 * 256 + ((page.toNat * 256 + pageAddress.toNat) % 256 + 1) % 256 = _
  by_cases h : pageAddress = 0xFF
  · subst h
    rw [if_pos rfl, hff]
    omega
  · have : pageAddress.toNat ≠ 255 := fun h' => h (UInt8.toNat_inj.1 h')
    rw [if_neg h]
    omega

/-- What a program of two bytes does to blank ones. -/
theorem program_par {m : Mem} {page : UInt16} {pageAddress : UInt8} (hp : page.toNat < 8191)
    (h₀ : m (flashAddr page pageAddress) = 0xFF) (h₁ : m (flashAddr page pageAddress + 1) = 0xFF) (v₀ v₁ : UInt8) :
    let m' := Cmd.apply w25q16 (.program (flashAddr page pageAddress) [v₀, v₁]) m
    m' (flashAddr page pageAddress) = v₀ ∧
      m' (flashAddr page pageAddress + 1) = (if pageAddress = 0xFF then 0xFF else v₁) ∧
      ∀ y, y ≠ flashAddr page pageAddress → y ≠ flashAddr page pageAddress + 1 →
        m' y = if pageAddress = 0xFF ∧ y = 256 * page.toNat then m y &&& v₁ else m y := by
  intro m'
  have hlt := pageAddress.toNat_lt
  have hcap : flashAddr page pageAddress < w25q16.capacity := by unfold flashAddr; show _ < 2097152; omega
  have hbyte₀ : w25q16.byteAddr (flashAddr page pageAddress) 0 = flashAddr page pageAddress := by
    rw [NorFlash.byteAddr_eq (by rw [Nat.add_zero]; exact Nat.mod_lt _ w25q16.page_pos), Nat.mod_eq_of_lt hcap,
      Nat.add_zero]
  have hm' : ∀ y, m' y = if y = (if pageAddress = 0xFF then 256 * page.toNat else flashAddr page pageAddress + 1) then
      m y &&& v₁ else if y = flashAddr page pageAddress then m y &&& v₀ else m y := by
    intro y
    rw [← byteAddr_segundo (by omega), ← hbyte₀, hbyte₀]
    exact Cmd.apply_program_pair.trans (by rw [hbyte₀])
  by_cases hpa : pageAddress = 0xFF
  · -- the second byte goes to the first place of the page
    have haddr : flashAddr page pageAddress = 256 * page.toNat + 255 := by
      rw [hpa]
      exact congrArg (· + 255) (Nat.mul_comm ..)
    simp only [hm', if_pos hpa]
    refine ⟨?_, ?_, fun y hy hy' => ?_⟩
    · rw [if_neg (by omega), if_pos trivial, h₀, NorFlash.ff_and]
    · rw [if_neg (by omega), if_neg (by omega), h₁]
    · rw [if_neg hy]
      simp only [hpa, true_and]
  · simp only [hm', if_neg hpa]
    refine ⟨?_, ?_, fun y hy hy' => ?_⟩
    · rw [if_neg (by omega), if_pos trivial, h₀, NorFlash.ff_and]
    · rw [if_pos trivial, h₁, NorFlash.ff_and]
    · rw [if_neg hy', if_neg hy, if_neg (fun h => hpa h.1)]

def escribeYLee (w r : Signo) (page : UInt16) (pageAddress : UInt8) (v : UInt16) : SpiM UInt16 := do
  w.escribe page pageAddress v
  r.lee page pageAddress

/-- The value is written and comes back as it was, and no byte but its two has changed. -/
def VuelveIgual (w r : Signo) (page : UInt16) (pageAddress : UInt8) (v : UInt16) (b : Bus) : Prop :=
  ∃ b', escribeYLee w r page pageAddress v b = .ok v b' ∧
    ∀ y, y ≠ flashAddr page pageAddress → y ≠ flashAddr page pageAddress + 1 → b'.chip.mem y = b.chip.mem y

section

variable {b : Bus} {page : UInt16} {pageAddress : UInt8}

theorem escribeYLee_ok (hb : b.Listo) (hp : page.toNat < 8191) (h₀ : b.chip.mem (flashAddr page pageAddress) = 0xFF)
    (h₁ : b.chip.mem (flashAddr page pageAddress + 1) = 0xFF) (w r : Signo) (v : UInt16) :
    ∃ b', escribeYLee w r page pageAddress v b =
        .ok (r.valor (w.primero v) (if pageAddress = 0xFF then 0xFF else w.segundo v)) b' ∧
      ∀ y, y ≠ flashAddr page pageAddress → y ≠ flashAddr page pageAddress + 1 → b'.chip.mem y =
        if pageAddress = 0xFF ∧ y = 256 * page.toNat then b.chip.mem y &&& w.segundo v else b.chip.mem y := by
  obtain ⟨hv₀, hv₁, hresto⟩ := program_par hp h₀ h₁ (w.primero v) (w.segundo v)
  have hlt := pageAddress.toNat_lt
  have hcap : flashAddr page pageAddress + 1 < w25q16.capacity := by unfold flashAddr; show _ < 2097152; omega
  have hlee := r.lee_does (m := Cmd.apply w25q16 (.program (flashAddr page pageAddress) [w.primero v, w.segundo v])
    b.chip.mem) page pageAddress
  rw [Nat.mod_eq_of_lt hcap, Nat.mod_eq_of_lt (Nat.lt_of_succ_lt hcap), hv₀, hv₁] at hlee
  obtain ⟨b', e, -, hb'⟩ := ((w.escribe_does page pageAddress v).bind (f := fun _ => r.lee page pageAddress)
    hlee).ejecuta hb
  refine ⟨b', e, fun y hy hy' => ?_⟩
  rw [hb']
  exact hresto y hy hy'

/-- A value comes back exactly where both calls take its bytes in one order, or the bytes are equal, and where it does
not run past a page end, or the byte that would is blank. -/
theorem vuelveIgual_iff (hb : b.Listo) (hp : page.toNat < 8191) (h₀ : b.chip.mem (flashAddr page pageAddress) = 0xFF)
    (h₁ : b.chip.mem (flashAddr page pageAddress + 1) = 0xFF) (w r : Signo) (v : UInt16) :
    VuelveIgual w r page pageAddress v b ↔
      (w = r ∨ alto v = bajo v) ∧ (pageAddress ≠ 0xFF ∨ w.segundo v = 0xFF) := by
  obtain ⟨b', e, hresto⟩ := escribeYLee_ok hb hp h₀ h₁ w r v
  have hv : VuelveIgual w r page pageAddress v b →
      r.valor (w.primero v) (if pageAddress = 0xFF then 0xFF else w.segundo v) = v := by
    rintro ⟨b'', e', -⟩
    rw [e'] at e
    injection e with hr _
    exact hr.symm
  constructor
  · intro h
    obtain ⟨hv₀, hv₁⟩ := Signo.valor_eq_iff.1 (hv h)
    have hor := Signo.primero_eq_iff.1 hv₀
    refine ⟨hor, ?_⟩
    by_cases hpa : pageAddress = 0xFF
    · rw [if_pos hpa, ← Signo.segundo_eq_iff.2 hor] at hv₁
      exact .inr hv₁.symm
    · exact .inl hpa
  · rintro ⟨hor, hpa⟩
    have hseg : (if pageAddress = 0xFF then 0xFF else w.segundo v) = w.segundo v := by
      by_cases h : pageAddress = 0xFF
      · rw [if_pos h, hpa.resolve_left fun hne => hne h]
      · rw [if_neg h]
    rw [hseg, Signo.valor_eq_iff.2 ⟨Signo.primero_eq_iff.2 hor, Signo.segundo_eq_iff.2 hor⟩] at e
    refine ⟨b', e, fun y hy hy' => ?_⟩
    rw [hresto y hy hy']
    split
    · rename_i h
      rw [hpa.resolve_left fun hne => hne h.1, NorFlash.and_ff]
    · rfl

end

theorem vuelveIgual_nuevo : VuelveIgual .i16 .i16 0 7 0x1234 Bus.nuevo :=
  (vuelveIgual_iff (b := Bus.nuevo) ⟨rfl, rfl, rfl, rfl, rfl⟩ (by decide) rfl rfl .i16 .i16 0x1234).2
    ⟨.inl rfl, .inl (by decide)⟩

/-- At a page end half of the value is lost, and what one pair writes the other one reads swapped. -/
theorem escribeYLee_distinto : (∃ b', escribeYLee .u16 .u16 0 0xFF 0x1234 Bus.nuevo = .ok 0x12FF b') ∧
    (∃ b', escribeYLee .i16 .i16 0 0xFF 0x1234 Bus.nuevo = .ok 0xFF34 b') ∧
    (∃ b', escribeYLee .u16 .i16 0 7 0x1234 Bus.nuevo = .ok 0x3412 b') := by
  have hl : Bus.nuevo.Listo := ⟨rfl, rfl, rfl, rfl, rfl⟩
  have h : ∀ (pa : UInt8) (w r : Signo), ∃ b', escribeYLee w r 0 pa 0x1234 Bus.nuevo = .ok _ b' ∧ _ :=
    fun pa w r => escribeYLee_ok hl (by decide) rfl rfl w r 0x1234
  obtain ⟨b₁, e₁, -⟩ := h 0xFF .u16 .u16
  obtain ⟨b₂, e₂, -⟩ := h 0xFF .i16 .i16
  obtain ⟨b₃, e₃, -⟩ := h 7 .u16 .i16
  exact ⟨⟨b₁, e₁⟩, ⟨b₂, e₂⟩, ⟨b₃, e₃⟩⟩

end Wiznet
