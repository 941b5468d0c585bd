import Mathlib.Data.List.TakeWhile

/-!
# Numerals

Texts that are read as numbers: blanks, and then digits of a base.  `Reads` says that a text is a numeral with a value;
`stop` is where a reader that goes from left to right comes to a character it has no use for, and what it has read by
then is `digits`.
-/

namespace Numeral

/-- An alphabet with blanks and digits. -/
structure Base (α : Type) where
  radix : Nat
  blank : α → Bool
  valid : α → Bool
  digit : α → Nat
  not_valid : ∀ {c}, blank c = true → valid c = false

variable {α : Type} (b : Base α)

/-- Digits read after a number. -/
def Base.extend (acc : Nat) (ds : List α) : Nat := ds.foldl (fun v c => v * b.radix + b.digit c) acc

def Base.value (ds : List α) : Nat := b.extend 0 ds

/-- The text is blanks and then one digit or more, of this value. -/
def Base.Reads (l : List α) (v : Nat) : Prop :=
  ∃ s ds, l = s ++ ds ∧ (∀ c ∈ s, b.blank c = true) ∧ ds ≠ [] ∧ (∀ c ∈ ds, b.valid c = true) ∧ b.value ds = v

/-- The digits after the blanks in front. -/
def Base.digits (l : List α) : List α := (l.dropWhile b.blank).takeWhile b.valid

/-- Position of the first character that is neither. -/
def Base.stop (l : List α) : Nat := (l.takeWhile b.blank).length + (b.digits l).length

variable {b}

theorem Base.digits_cons_blank {c : α} (l : List α) (h : b.blank c = true) :
    b.digits (c :: l) = b.digits l ∧ b.stop (c :: l) = b.stop l + 1 := by
  have hd : b.digits (c :: l) = b.digits l := by simp [digits, h]
  refine ⟨hd, ?_⟩
  unfold stop
  rw [hd, List.takeWhile_cons_of_pos h, List.length_cons]
  omega

theorem Base.digits_cons_of_not_blank {c : α} (l : List α) (h : ¬ b.blank c = true) :
    b.digits (c :: l) = (c :: l).takeWhile b.valid ∧ b.stop (c :: l) = ((c :: l).takeWhile b.valid).length := by
  have hd : b.digits (c :: l) = (c :: l).takeWhile b.valid := by
    unfold digits
    rw [List.dropWhile_cons_of_neg h]
  refine ⟨hd, ?_⟩
  unfold stop
  rw [hd, List.takeWhile_cons_of_neg h, List.length_nil, Nat.zero_add]

theorem Base.stop_le (l : List α) : b.stop l ≤ l.length := by
  have h := congrArg List.length (List.takeWhile_append_dropWhile (p := b.blank) (l := l))
  have h' := (List.takeWhile_sublist b.valid (l := l.dropWhile b.blank)).length_le
  rw [List.length_append] at h
  unfold stop digits
  omega

theorem Base.reads_iff {l : List α} {v : Nat} :
    b.Reads l v ↔ b.stop l = l.length ∧ b.digits l ≠ [] ∧ b.value (b.digits l) = v := by
  constructor
  · rintro ⟨s, ds, rfl, hs, hne, hds, rfl⟩
    have hhead : ∀ h : 0 < ds.length, ¬ b.blank ds[0] = true := by
      intro h hb
      have := hds _ (List.getElem_mem h)
      rw [b.not_valid hb] at this
      cases this
    have hdrop : ds.dropWhile b.blank = ds := List.dropWhile_eq_self_iff.2 hhead
    have htake : ds.takeWhile b.blank = [] := List.takeWhile_eq_nil_iff.2 hhead
    have hdig : b.digits (s ++ ds) = ds := by
      unfold digits
      rw [List.dropWhile_append_of_pos hs, hdrop, List.takeWhile_eq_self_iff.2 hds]
    refine ⟨?_, by rwa [hdig], by rw [hdig]⟩
    unfold stop
    rw [hdig, List.takeWhile_append_of_pos hs, htake, List.append_nil, List.length_append]
  · rintro ⟨hstop, hne, rfl⟩
    refine ⟨l.takeWhile b.blank, b.digits l, ?_, fun c hc => List.mem_takeWhile_imp hc, hne,
      fun c hc => List.mem_takeWhile_imp hc, rfl⟩
    have h1 := List.takeWhile_append_dropWhile (p := b.blank) (l := l)
    have h2 : b.digits l = l.dropWhile b.blank := by
      refine (List.takeWhile_prefix b.valid).eq_of_length ?_
      have h := congrArg List.length h1
      rw [List.length_append] at h
      unfold stop digits at hstop
      omega
    rw [h2, h1]

theorem Base.Reads.unique {l : List α} {v w : Nat} (h : b.Reads l v) (h' : b.Reads l w) : v = w :=
  (reads_iff.1 h).2.2.symm.trans (reads_iff.1 h').2.2

/-- All blanks: nothing else stops the reader, and there is no digit. -/
theorem Base.digits_eq_nil_iff {l : List α} (h : b.stop l = l.length) :
    b.digits l = [] ↔ ∀ c ∈ l, b.blank c = true := by
  rw [← List.takeWhile_eq_self_iff]
  unfold stop at h
  constructor
  · intro hd
    rw [hd, List.length_nil, Nat.add_zero] at h
    exact (List.takeWhile_prefix b.blank).eq_of_length h
  · intro ht
    rw [ht] at h
    exact List.eq_nil_of_length_eq_zero (by omega)

private theorem dropWhile_take (p : α → Bool) (l : List α) (n : Nat) :
    (l.take n).dropWhile p = (l.dropWhile p).take (n - (l.takeWhile p).length) := by
  induction l generalizing n with
  | nil => simp
  | cons c l ih =>
    cases n with
    | zero => simp
    | succ n =>
      by_cases h : p c = true
      · simp [h, ih]
      · simp [h]

/-- A reader of a prefix stops where the text ends, if not before. -/
theorem Base.stop_take (l : List α) (n : Nat) : b.stop (l.take n) = min n (b.stop l) := by
  unfold stop digits
  rw [← List.take_takeWhile, dropWhile_take, ← List.take_takeWhile, List.length_take, List.length_take]
  omega

end Numeral
