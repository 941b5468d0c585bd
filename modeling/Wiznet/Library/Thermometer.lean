import Mathlib.Data.Nat.Init
import Mathlib.Data.List.GetD
import Mathlib.Algebra.Group.Nat.Defs

/-!
# Thermometer codes

A counter kept in NOR flash: a row of bytes, read least significant bit first, whose first `k` bits are zero and
whose other bits are one.  Counting up clears one more bit (`byte_succ`, `byte_succ_of_ne`), which only clears bits
(`byte_and_succ`), and the count is the position of the first bit still set (`find_first`).
-/

namespace Thermometer

/-- Byte `i` of the code for `k`: its lowest `k - 8 * i` bits are zero. -/
def byte (k i : Nat) : UInt8 := UInt8.ofNat (256 - 2 ^ (k - 8 * i))

/-- Bit `p` of a row of bytes. -/
def bitAt (f : Nat → UInt8) (p : Nat) : Bool := (f (p / 8)).toNat.testBit (p % 8)

private theorem byte_of_full {k i : Nat} (h : 8 * i + 8 ≤ k) : byte k i = 0 := by
  have : 2 ^ 8 ≤ 2 ^ (k - 8 * i) := Nat.pow_le_pow_right (by decide) (by omega)
  unfold byte
  rw [show 256 - 2 ^ (k - 8 * i) = 0 by omega]
  rfl

theorem byte_zero (i : Nat) : byte 0 i = 0xFF := by
  unfold byte
  rw [Nat.zero_sub]
  rfl

theorem byte_of_le {k i : Nat} (h : k ≤ 8 * i) : byte k i = 0xFF := by
  unfold byte
  rw [Nat.sub_eq_zero_of_le h]
  rfl

theorem bitAt_byte (k p : Nat) : bitAt (byte k) p = decide (k ≤ p) := by
  have hp := Nat.div_add_mod p 8
  have hr := Nat.mod_lt p (show 0 < 8 by decide)
  unfold bitAt
  generalize p / 8 = i at *
  generalize p % 8 = r at *
  rcases Nat.lt_or_ge k (8 * i + 8) with hlt | hge
  · have key : ∀ j < 8, ∀ r < 8, (UInt8.ofNat (256 - 2 ^ j)).toNat.testBit r = decide (j ≤ r) := by decide
    unfold byte
    rw [key _ (by omega) r hr, decide_eq_decide]
    omega
  · rw [byte_of_full hge]
    have : ¬ k ≤ p := by omega
    simp [this]

/-- Counting up shifts the byte that holds the first set bit. -/
theorem byte_succ {k i : Nat} (h : k / 8 = i) : byte (k + 1) i = byte k i <<< 1 := by
  have key : ∀ j < 8, UInt8.ofNat (256 - 2 ^ (j + 1)) = UInt8.ofNat (256 - 2 ^ j) <<< 1 := by decide
  unfold byte
  rw [show k + 1 - 8 * i = k - 8 * i + 1 by omega]
  exact key _ (by omega)

theorem byte_succ_of_ne {k i : Nat} (h : k / 8 ≠ i) : byte (k + 1) i = byte k i := by
  rcases Nat.lt_or_ge k (8 * i) with hlt | hge
  · rw [byte_of_le (by omega), byte_of_le (by omega)]
  · rw [byte_of_full (by omega), byte_of_full (by omega)]

/-- Counting up only clears bits. -/
theorem byte_and_succ (k i : Nat) : byte k i &&& byte (k + 1) i = byte (k + 1) i := by
  by_cases h : k / 8 = i
  · have key : ∀ j < 8, UInt8.ofNat (256 - 2 ^ j) &&& (UInt8.ofNat (256 - 2 ^ j) <<< 1) =
        UInt8.ofNat (256 - 2 ^ j) <<< 1 := by decide
    rw [byte_succ h]
    exact key (k - 8 * i) (by omega)
  · rw [byte_succ_of_ne h, UInt8.and_self]

/-- The count is the position of the first set bit, and there is none exactly when the row is used up. -/
theorem find_first {f : Nat → UInt8} {k n : Nat} (h : ∀ p < n, bitAt f p = bitAt (byte k) p) :
    (List.range' 0 n).find? (bitAt f) = if k < n then some k else none := by
  split
  · rename_i hk
    rw [List.find?_range'_eq_some]
    refine ⟨by rw [h k hk, bitAt_byte]; simp, by simp [hk], fun j _ hj => ?_⟩
    rw [h j (by omega), bitAt_byte]
    simp [hj]
  · rw [List.find?_range'_eq_none]
    intro p _ hp
    rw [h p (by omega), bitAt_byte]
    simp only [Bool.not_eq_true', decide_eq_false_iff_not]
    omega

end Thermometer
