import Mathlib.Data.Nat.ModEq
import Mathlib.Logic.Function.Basic

/-!
# Ring buffers with free-running counters

A memory of `c` cells addressed by counters that go on growing: a counter stands for the cell of its remainder.  What
stands between two counters (`window`), what writing from a counter on (`put`) does to it, and counters of sixteen bits,
which wrap at a multiple of `c`.
-/

namespace RingBuffer

variable {α : Type} {c : Nat} {mem : Nat → α} {p q n k : Nat} {xs : List α}

/-- The `n` cells from the counter `p` on. -/
def window (c : Nat) (mem : Nat → α) (p n : Nat) : List α := (List.range n).map fun i => mem ((p + i) % c)

/-- The elements one after the other from the counter `p` on. -/
def put (c : Nat) : (Nat → α) → Nat → List α → Nat → α
  | mem, _, [] => mem
  | mem, p, x :: xs => put c (Function.update mem (p % c) x) (p + 1) xs

/-! ### Windows -/

@[simp] theorem length_window : (window c mem p n).length = n := by simp [window]

theorem window_congr (h : p % c = q % c) : window c mem p n = window c mem q n := by
  refine List.map_congr_left fun i _ => ?_
  rw [Nat.add_mod, h, ← Nat.add_mod]

theorem window_congr_mem {mem' : Nat → α} (h : ∀ i < n, mem ((p + i) % c) = mem' ((p + i) % c)) :
    window c mem p n = window c mem' p n :=
  List.map_congr_left fun i hi => h i (List.mem_range.mp hi)

theorem window_add : window c mem p (k + n) = window c mem p k ++ window c mem (p + k) n := by
  unfold window
  rw [List.range_add, List.map_append, List.map_map]
  congr 1
  refine List.map_congr_left fun i _ => ?_
  rw [Function.comp_apply, Nat.add_assoc]

theorem take_window (h : k ≤ n) : (window c mem p n).take k = window c mem p k := by
  obtain ⟨m, rfl⟩ := Nat.exists_eq_add_of_le h
  rw [window_add, List.take_left' length_window]

theorem drop_window (h : k ≤ n) : (window c mem p n).drop k = window c mem (p + k) (n - k) := by
  obtain ⟨m, rfl⟩ := Nat.exists_eq_add_of_le h
  rw [window_add, List.drop_left' length_window, Nat.add_sub_cancel_left]

/-! ### Writing -/

/-- A cell that none of the counters stands for. -/
theorem put_apply_of_ne {a : Nat} (h : ∀ i < xs.length, (p + i) % c ≠ a) : put c mem p xs a = mem a := by
  induction xs generalizing mem p with
  | nil => rfl
  | cons x xs ih =>
    rw [put, ih]
    · exact Function.update_of_ne (fun ha => h 0 (by simp) (by simpa using ha.symm)) _ _
    · intro i hi
      have := h (i + 1) (by simpa using hi)
      rwa [Nat.add_comm i 1, ← Nat.add_assoc] at this

/-- Counters less than `c` apart stand for different cells. -/
theorem mod_ne_mod (h : p < q) (hc : q < p + c) : p % c ≠ q % c := by
  intro heq
  obtain ⟨k, hk⟩ := (Nat.modEq_iff_dvd' (Nat.le_of_lt h)).mp heq
  rcases Nat.eq_zero_or_pos k with rfl | hpos
  · omega
  · have := Nat.le_mul_of_pos_right c hpos
    omega

/-- A window before what is written, when both fit in the ring. -/
theorem window_put_of_le (h : q + n ≤ p) (hc : p + xs.length ≤ q + c) :
    window c (put c mem p xs) q n = window c mem q n := by
  refine window_congr_mem fun i hi => put_apply_of_ne fun j hj => ?_
  exact (mod_ne_mod (by omega) (by omega)).symm

/-- What has been written, when it fits in the ring. -/
theorem window_put (h : xs.length ≤ c) : window c (put c mem p xs) p xs.length = xs := by
  induction xs generalizing mem p with
  | nil => rfl
  | cons x xs ih =>
    rw [List.length_cons] at h
    rw [List.length_cons, Nat.add_comm, window_add, put, ih (by omega)]
    have hx : put c (Function.update mem (p % c) x) (p + 1) xs (p % c) = x := by
      rw [put_apply_of_ne, Function.update_self]
      intro i hi
      exact (mod_ne_mod (by omega) (by omega)).symm
    simp [window, hx]

/-- Writing right after a window makes it longer. -/
theorem window_put_append (h : n + xs.length ≤ c) :
    window c (put c mem (p + n) xs) p (n + xs.length) = window c mem p n ++ xs := by
  rw [window_add, window_put_of_le (Nat.le_refl _) (by omega), window_put (by omega)]

theorem put_congr (h : p % c = q % c) : put c mem p xs = put c mem q xs := by
  induction xs generalizing mem p q with
  | nil => rfl
  | cons x xs ih =>
    rw [put, put, h]
    exact ih (by rw [Nat.add_mod, h, ← Nat.add_mod])

/-! ### Counters of sixteen bits -/

/-- How far the second counter is past the first one. -/
def gap (a b : UInt16) : Nat := (b - a).toNat

@[simp] theorem gap_self (a : UInt16) : gap a a = 0 := by simp [gap]

theorem toNat_toUInt16 (h : k < 65536) : k.toUInt16.toNat = k := by
  simp only [Nat.toUInt16, UInt16.toNat_ofNat']
  omega

theorem gap_add {a : UInt16} (h : k < 65536) : gap a (a + k.toUInt16) = k := by
  rw [gap, UInt16.toNat_sub, UInt16.toNat_add, toNat_toUInt16 h]
  have := a.toNat_lt
  omega

/-- The second counter moves on. -/
theorem gap_add_right {a b : UInt16} (h : gap a b + k < 65536) : gap a (b + k.toUInt16) = gap a b + k := by
  simp only [gap, UInt16.toNat_sub, UInt16.toNat_add] at *
  rw [toNat_toUInt16 (by omega)]
  have := a.toNat_lt
  have := b.toNat_lt
  omega

/-- The first counter moves on. -/
theorem gap_add_left {a b : UInt16} (h : k ≤ gap a b) : gap (a + k.toUInt16) b = gap a b - k := by
  simp only [gap, UInt16.toNat_sub, UInt16.toNat_add] at *
  rw [toNat_toUInt16 (by omega)]
  have := a.toNat_lt
  have := b.toNat_lt
  omega

/-- A wrap does not change the cell. -/
theorem add_mod {a : UInt16} (hc : c ∣ 65536) : (a + k.toUInt16).toNat % c = (a.toNat + k) % c := by
  rw [UInt16.toNat_add, Nat.mod_mod_of_dvd _ hc, Nat.toUInt16, UInt16.toNat_ofNat', Nat.add_mod,
    Nat.mod_mod_of_dvd _ hc, ← Nat.add_mod]

theorem toNat_mod {a b : UInt16} (hc : c ∣ 65536) : b.toNat % c = (a.toNat + gap a b) % c := by
  have h : b = a + (gap a b).toUInt16 := by
    rw [← UInt16.toNat_inj, gap, UInt16.toNat_add, toNat_toUInt16 (b - a).toNat_lt, UInt16.toNat_sub]
    have := a.toNat_lt
    have := b.toNat_lt
    omega
  conv_lhs => rw [h]
  exact add_mod hc

end RingBuffer
