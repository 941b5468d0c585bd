import Mathlib.Data.List.Basic
import Mathlib.Data.List.GetD

/-!
# Values in a memory, one after another

A reader takes a value from a memory at a place, without passing an end, and gives the place after it; a writer gives
the cells of a value.  A reader is exact for a writer when it takes back what the writer puts and accepts nothing
else.  Exact readers make exact readers: of pairs, and of the values that fill a region.
-/

namespace Wire

variable {α β γ : Type} {m : Nat → α} {p q e n : Nat} {bs cs : List α}

/-- `bs` stand in the memory from `p`. -/
def At (m : Nat → α) (p : Nat) (bs : List α) : Prop := ∀ i (h : i < bs.length), m (p + i) = bs[i]

@[simp] theorem at_nil : At m p [] := fun i h => absurd h (by simp)

theorem at_cons {b : α} : At m p (b :: bs) ↔ m p = b ∧ At m (p + 1) bs := by
  constructor
  · intro h
    refine ⟨h 0 (by simp), fun i hi => ?_⟩
    have := h (i + 1) (by simpa using hi)
    rwa [← Nat.add_assoc, Nat.add_right_comm] at this
  · rintro ⟨hb, hbs⟩ i hi
    cases i with
    | zero => exact hb
    | succ i =>
      have := hbs i (by simpa using hi)
      rwa [Nat.add_right_comm] at this

theorem at_append : At m p (bs ++ cs) ↔ At m p bs ∧ At m (p + bs.length) cs := by
  induction bs generalizing p with
  | nil => simp
  | cons b bs ih =>
    have hp : p + (b :: bs).length = p + 1 + bs.length := by
      rw [List.length_cons]
      omega
    rw [List.cons_append, at_cons, at_cons, ih, hp, and_assoc]

/-- The cells from `p` on. -/
theorem at_range : At m p ((List.range n).map fun i => m (p + i)) := by
  intro i hi
  simp

theorem At.map_range (h : At m p bs) : ((List.range bs.length).map fun i => m (p + i)) = bs := by
  refine List.ext_getElem (by simp) fun i hi hi' => ?_
  simpa using h i hi'

/-- A memory that starts with the list. -/
theorem at_getD {b : α} : At (fun i => bs.getD i b) 0 bs := by
  intro i hi
  rw [Nat.zero_add]
  exact List.getD_eq_getElem _ _ hi

/-- Two lists of one length that stand at the same place. -/
theorem At.unique (h : At m p bs) (h' : At m p cs) (hlen : bs.length = cs.length) : bs = cs := by
  rw [← h.map_range, ← h'.map_range, hlen]

/-- A value from a memory at a place, without passing an end, and the place after it. -/
abbrev Reader (α β : Type) := (Nat → α) → Nat → Nat → Option (β × Nat)

/-- `read` takes back what `write` puts and accepts nothing else. -/
def Exact (read : Reader α β) (ok : β → Prop) (write : β → List α) : Prop :=
  ∀ m p e x q, read m p e = some (x, q) ↔ (ok x ∧ At m p (write x)) ∧ p + (write x).length = q ∧ q ≤ e

section Exact

variable {read : Reader α β} {ok : β → Prop} {write : β → List α} {x : β}

theorem Exact.reads (h : Exact read ok write) (hok : ok x) (hat : At m p (write x)) (he : p + (write x).length ≤ e) :
    read m p e = some (x, p + (write x).length) := (h _ _ _ _ _).mpr ⟨⟨hok, hat⟩, rfl, he⟩

/-- A value and another one after it. -/
def pair (read : Reader α β) (read' : Reader α γ) : Reader α (β × γ) := fun m p e =>
  match read m p e with
  | none => none
  | some (x, q) =>
    match read' m q e with
    | none => none
    | some (y, q') => some ((x, y), q')

theorem Exact.pair {read' : Reader α γ} {ok' : γ → Prop} {write' : γ → List α} (h : Exact read ok write)
    (h' : Exact read' ok' write') :
    Exact (pair read read') (fun x => ok x.1 ∧ ok' x.2) fun x => write x.1 ++ write' x.2 := by
  intro m p e x q
  rw [at_append, List.length_append]
  unfold Wire.pair
  constructor
  · intro hr
    cases h1 : read m p e with
    | none =>
      rw [h1] at hr
      cases hr
    | some v =>
      cases h2 : read' m v.2 e with
      | none =>
        rw [h1] at hr
        simp only [h2] at hr
        cases hr
      | some w =>
        rw [h1] at hr
        simp only [h2, Option.some.injEq, Prod.mk.injEq] at hr
        obtain ⟨rfl, rfl⟩ := hr
        obtain ⟨⟨hok, hat⟩, hq, he⟩ := (h _ _ _ v.1 v.2).mp h1
        obtain ⟨⟨hok', hat'⟩, hq', he'⟩ := (h' _ _ _ w.1 w.2).mp h2
        rw [← hq] at hat' hq'
        exact ⟨⟨⟨hok, hok'⟩, hat, hat'⟩, by rw [← Nat.add_assoc]; exact hq', he'⟩
  · rintro ⟨⟨⟨hok, hok'⟩, hat, hat'⟩, rfl, he⟩
    rw [← Nat.add_assoc] at he ⊢
    have h1 := h.reads (e := e) hok hat (by omega)
    have h2 := h'.reads hok' hat' he
    rw [h1]
    simp only [h2]

/-- The values from `p` up to the end, of which there are at most `n`, and whether the last one ends there. -/
def many (read : Reader α β) (m : Nat → α) (e : Nat) : Nat → Nat → List β × Bool
  | 0, _ => ([], true)
  | n + 1, p =>
    if p < e then
      match read m p e with
      | none => ([], false)
      | some (x, q) => (x :: (many read m e n q).1, (many read m e n q).2)
    else ([], true)

theorem many_of_le (h : e ≤ p) : many read m e n p = ([], true) := by
  cases n with
  | zero => rfl
  | succ n => rw [many, if_neg (Nat.not_lt.mpr h)]

/-- The values read stand one after another, and they are all there is when they reach the end. -/
theorem Exact.of_many {xs : List β} {b : Bool} (h : Exact read ok write) (hpos : ∀ x, ok x → 0 < (write x).length)
    (hn : e ≤ p + n) (hr : many read m e n p = (xs, b)) :
    ((∀ x ∈ xs, ok x) ∧ At m p (xs.flatMap write)) ∧ (b = true ↔ e ≤ p + (xs.flatMap write).length) := by
  induction n generalizing p xs b with
  | zero =>
    cases hr
    simpa using hn
  | succ n ih =>
    by_cases hlt : p < e
    case neg =>
      rw [many_of_le (Nat.not_lt.mp hlt)] at hr
      cases hr
      simpa using hlt
    rw [many, if_pos hlt] at hr
    cases h1 : read m p e with
    | none =>
      rw [h1] at hr
      cases hr
      simpa using hlt
    | some v =>
      obtain ⟨⟨hok, hat⟩, hq, he⟩ := (h _ _ _ v.1 v.2).mp h1
      have hv := hpos _ hok
      have hnext : e ≤ v.2 + n := by omega
      simp only [h1, Prod.mk.injEq] at hr
      obtain ⟨rfl, rfl⟩ := hr
      obtain ⟨⟨hoks, hats⟩, hend⟩ := ih hnext rfl
      rw [List.forall_mem_cons, List.flatMap_cons, at_append, List.length_append, ← Nat.add_assoc, hq]
      exact ⟨⟨⟨hok, hoks⟩, hat, hats⟩, hend⟩

/-- The values that fill a region are read. -/
theorem Exact.many_reads {xs : List β} (h : Exact read ok write) (hpos : ∀ x, ok x → 0 < (write x).length)
    (hok : ∀ x ∈ xs, ok x) (hat : At m p (xs.flatMap write)) (he : p + (xs.flatMap write).length = e)
    (hn : e ≤ p + n) : many read m e n p = (xs, true) := by
  induction xs generalizing p n with
  | nil => exact many_of_le (by simpa using Nat.le_of_eq he.symm)
  | cons x xs ih =>
    rw [List.forall_mem_cons] at hok
    rw [List.flatMap_cons, at_append] at hat
    rw [List.flatMap_cons, List.length_append, ← Nat.add_assoc] at he
    have hx := hpos x hok.1
    obtain ⟨n, rfl⟩ : ∃ k, n = k + 1 := ⟨n - 1, by omega⟩
    have hread := h.reads (e := e) hok.1 hat.1 (by omega)
    have hrest := ih hok.2 hat.2 he (n := n) (by omega)
    rw [many, if_pos (by omega), hread]
    simp only [hrest]

end Exact

/-- A single cell. -/
def cell : Reader α α := fun m p e => if p ≥ e then none else some (m p, p + 1)

theorem exact_cell : Exact (cell : Reader α α) (fun _ => True) fun b => [b] := by
  intro m p e x q
  rw [at_cons, List.length_singleton]
  unfold cell
  constructor
  · intro h
    split at h
    · cases h
    · cases h
      exact ⟨⟨trivial, rfl, at_nil⟩, rfl, by omega⟩
  · rintro ⟨⟨-, rfl, -⟩, rfl, he⟩
    rw [if_neg (by omega)]

end Wire
