import Mathlib.Data.Nat.Init

/-!
# Programs over a state that may fail

Facts about `EStateM` programs by the way they run: how a sequence runs (`bind_ok`, `bind_error`, `ok_of_bind`), which
programs leave a part of the state alone, always (`Intact`) or whenever they return (`Keeps`), what holds after a
program that returns and after one that fails (`Triple`), and which programs do return (`Returns`).
-/

namespace Stateful

variable {ε σ α β γ : Type}

/-- A sequence whose first part returns. -/
theorem bind_ok {x : EStateM ε σ α} {f : α → EStateM ε σ β} {s s' : σ} {a : α} (h : x s = .ok a s') :
    (x >>= f) s = f a s' := by
  show EStateM.bind x f s = f a s'
  simp only [EStateM.bind, h]

/-- A sequence that starts by reading the state. -/
theorem get_bind (f : σ → EStateM ε σ β) (s : σ) : ((get : EStateM ε σ σ) >>= f) s = f s s := rfl

/-- A sequence whose first part fails. -/
theorem bind_error {x : EStateM ε σ α} {f : α → EStateM ε σ β} {s s' : σ} {e : ε} (h : x s = .error e s') :
    (x >>= f) s = .error e s' := by
  show EStateM.bind x f s = _
  simp only [EStateM.bind, h]

/-- A sequence that returns. -/
theorem ok_of_bind {x : EStateM ε σ α} {f : α → EStateM ε σ β} {s s'' : σ} {b : β} (h : (x >>= f) s = .ok b s'') :
    ∃ a s', x s = .ok a s' ∧ f a s' = .ok b s'' := by
  cases hx : x s with
  | ok a s' => exact ⟨a, s', rfl, by rwa [bind_ok hx] at h⟩
  | error e s' =>
    rw [bind_error hx] at h
    cases h

/-- The state a program ends in, whether it returns or fails. -/
def final : EStateM.Result ε σ α → σ
  | .ok _ s => s
  | .error _ s => s

@[simp] theorem final_ok (a : α) (s : σ) : final (.ok a s : EStateM.Result ε σ α) = s := rfl

@[simp] theorem final_error (e : ε) (s : σ) : final (.error e s : EStateM.Result ε σ α) = s := rfl

/-- Whenever the program returns, this part of the state is what it was. -/
def Keeps (v : σ → γ) (x : EStateM ε σ α) : Prop := ∀ s a s', x s = .ok a s' → v s' = v s

variable {v : σ → γ}

theorem keeps_pure (a : α) : Keeps (ε := ε) v (pure a) := by
  intro s b s' h
  cases h
  rfl

theorem Keeps.bind {x : EStateM ε σ α} {f : α → EStateM ε σ β} (hx : Keeps v x) (hf : ∀ a, Keeps v (f a)) :
    Keeps v (x >>= f) := by
  intro s b s'' h
  obtain ⟨a, s', h1, h2⟩ := ok_of_bind h
  rw [hf a s' b s'' h2, hx s a s' h1]

theorem keeps_get : Keeps (ε := ε) v (get : EStateM ε σ σ) := by
  intro s a s' h
  cases h
  rfl

theorem keeps_modify {g : σ → σ} (hg : ∀ s, v (g s) = v s) : Keeps (ε := ε) v (modify g : EStateM ε σ PUnit) := by
  intro s a s' h
  cases h
  exact hg s

theorem keeps_modifyGet {g : σ → α × σ} (hg : ∀ s, v (g s).2 = v s) :
    Keeps (ε := ε) v (modifyGet g : EStateM ε σ α) := by
  intro s a s' h
  cases h
  exact hg s

theorem keeps_ite {p : Prop} [Decidable p] {x y : EStateM ε σ α} (hx : Keeps v x) (hy : Keeps v y) :
    Keeps v (if p then x else y) := by
  split
  · exact hx
  · exact hy

/-- Whether the program returns or fails, this part of the state is what it was. -/
def Intact (v : σ → γ) (x : EStateM ε σ α) : Prop := ∀ s, v (final (x s)) = v s

theorem Intact.keeps {x : EStateM ε σ α} (hx : Intact v x) : Keeps v x := by
  intro s a s' h
  have hs := hx s
  rwa [h] at hs

theorem intact_pure (a : α) : Intact (ε := ε) v (pure a) := fun _ => rfl

theorem Intact.bind {x : EStateM ε σ α} {f : α → EStateM ε σ β} (hx : Intact v x) (hf : ∀ a, Intact v (f a)) :
    Intact v (x >>= f) := by
  intro s
  have hs := hx s
  cases h : x s with
  | ok a s' =>
    rw [bind_ok h, hf a s']
    rwa [h] at hs
  | error e s' =>
    rw [bind_error h]
    rwa [h] at hs

theorem intact_get : Intact (ε := ε) v (get : EStateM ε σ σ) := fun _ => rfl

theorem intact_modify {g : σ → σ} (hg : ∀ s, v (g s) = v s) : Intact (ε := ε) v (modify g : EStateM ε σ PUnit) := hg

theorem intact_modifyGet {g : σ → α × σ} (hg : ∀ s, v (g s).2 = v s) :
    Intact (ε := ε) v (modifyGet g : EStateM ε σ α) := hg

theorem intact_throw (e : ε) : Intact v (throw e : EStateM ε σ α) := fun _ => rfl

theorem intact_ite {p : Prop} [Decidable p] {x y : EStateM ε σ α} (hx : Intact v x) (hy : Intact v y) :
    Intact v (if p then x else y) := by
  split
  · exact hx
  · exact hy

/-- From a state with `P` the program returns with `Q` or fails with `F`. -/
def Triple (P : σ → Prop) (x : EStateM ε σ α) (Q : α → σ → Prop) (F : σ → Prop) : Prop :=
  ∀ s, P s → match x s with
    | .ok a s' => Q a s'
    | .error _ s' => F s'

section Triple

variable {P P' : σ → Prop} {Q Q' : α → σ → Prop} {T : β → σ → Prop} {F F' : σ → Prop}

theorem Triple.ok {x : EStateM ε σ α} (hx : Triple P x Q F) {s s' : σ} {a : α} (hs : P s) (h : x s = .ok a s') :
    Q a s' := by
  have := hx s hs
  rwa [h] at this

/-- When nothing is said of failures. -/
theorem triple_of_ok {x : EStateM ε σ α} (h : ∀ s a s', P s → x s = .ok a s' → Q a s') :
    Triple P x Q fun _ => True := by
  intro s hs
  cases hx : x s with
  | ok a s' => exact h s a s' hs hx
  | error e s' => trivial

theorem Triple.final {x : EStateM ε σ α} (hx : Triple P x Q F) (hQ : ∀ a s, Q a s → F s) {s : σ} (hs : P s) :
    F (final (x s)) := by
  have := hx s hs
  cases h : x s with
  | ok a s' =>
    rw [h] at this
    exact hQ a s' this
  | error e s' => rwa [h] at this

theorem Triple.weaken {x : EStateM ε σ α} (hx : Triple P x Q F) (hP : ∀ s, P' s → P s) (hQ : ∀ a s, Q a s → Q' a s)
    (hF : ∀ s, F s → F' s) : Triple P' x Q' F' := by
  intro s hs
  have := hx s (hP s hs)
  cases h : x s with
  | ok a s' =>
    rw [h] at this
    exact hQ a s' this
  | error e s' =>
    rw [h] at this
    exact hF s' this

theorem triple_pure {a : α} (h : ∀ s, P s → Q a s) : Triple P (pure a : EStateM ε σ α) Q F := h

theorem Triple.bind {x : EStateM ε σ α} {f : α → EStateM ε σ β} (hx : Triple P x Q F)
    (hf : ∀ a, Triple (Q a) (f a) T F) : Triple P (x >>= f) T F := by
  intro s hs
  have := hx s hs
  cases h : x s with
  | ok a s' =>
    rw [h] at this
    rw [bind_ok h]
    exact hf a s' this
  | error e s' =>
    rw [h] at this
    rwa [bind_error h]

/-- The state read is known in what follows. -/
theorem triple_get_bind {f : σ → EStateM ε σ β} (hf : ∀ s, P s → Triple (· = s) (f s) T F) :
    Triple P (get >>= f) T F := fun s hs => hf s hs s rfl

theorem triple_modify {g : σ → σ} {Q : PUnit → σ → Prop} (h : ∀ s, P s → Q ⟨⟩ (g s)) :
    Triple P (modify g : EStateM ε σ PUnit) Q F := h

theorem triple_modifyGet {g : σ → α × σ} (h : ∀ s, P s → Q (g s).1 (g s).2) :
    Triple P (modifyGet g : EStateM ε σ α) Q F := h

/-- What does not depend on the state is known in what follows. -/
theorem triple_of_and {p : Prop} {x : EStateM ε σ α} (h : p → Triple P x Q F) : Triple (fun s => p ∧ P s) x Q F :=
  fun s hs => h hs.1 s hs.2

theorem triple_of_exists {τ : Type} {P : τ → σ → Prop} {x : EStateM ε σ α} (h : ∀ t, Triple (P t) x Q F) :
    Triple (fun s => ∃ t, P t s) x Q F := fun s ⟨t, ht⟩ => h t s ht

theorem triple_ite {p : Prop} [Decidable p] {x y : EStateM ε σ α} (hx : p → Triple P x Q F)
    (hy : ¬ p → Triple P y Q F) : Triple P (if p then x else y) Q F := by
  split
  case isTrue hp => exact hx hp
  case isFalse hp => exact hy hp

/-- What depends on an intact part only goes on holding. -/
theorem Intact.triple {x : EStateM ε σ α} (hx : Intact v x) (p : γ → Prop) :
    Triple (fun s => p (v s)) x (fun _ s => p (v s)) (fun s => p (v s)) := by
  intro s hs
  have hv : p (v (final (x s))) := by rwa [hx s]
  cases h : x s with
  | ok a s' => rwa [h] at hv
  | error e s' => rwa [h] at hv

/-- The property goes on holding, whether the program returns or fails. -/
def Preserves (P : σ → Prop) (x : EStateM ε σ α) : Prop := Triple P x (fun _ => P) P

theorem Intact.preserves {x : EStateM ε σ α} (hx : Intact v x) (p : γ → Prop) : Preserves (fun s => p (v s)) x :=
  hx.triple p

theorem intact_of_preserves {x : EStateM ε σ α} (h : ∀ c, Preserves (fun s => v s = c) x) : Intact v x :=
  fun s => (h (v s)).final (fun _ _ hs => hs) rfl

theorem preserves_pure (a : α) : Preserves (ε := ε) P (pure a) := triple_pure fun _ h => h

theorem Preserves.bind {x : EStateM ε σ α} {f : α → EStateM ε σ β} (hx : Preserves P x)
    (hf : ∀ a, Preserves P (f a)) : Preserves P (x >>= f) := Triple.bind hx hf

theorem preserves_get : Preserves (ε := ε) P (get : EStateM ε σ σ) := fun _ h => h

theorem preserves_modify {g : σ → σ} (h : ∀ s, P s → P (g s)) :
    Preserves (ε := ε) P (modify g : EStateM ε σ PUnit) := h

theorem preserves_throw (e : ε) : Preserves P (throw e : EStateM ε σ α) := fun _ h => h

theorem preserves_ite {p : Prop} [Decidable p] {x y : EStateM ε σ α} (hx : Preserves P x) (hy : Preserves P y) :
    Preserves P (if p then x else y) := triple_ite (fun _ => hx) fun _ => hy

end Triple

/-- From this state the program returns, with `Q`. -/
def Returns (x : EStateM ε σ α) (s : σ) (Q : α → σ → Prop) : Prop := ∃ a s', x s = .ok a s' ∧ Q a s'

section Returns

variable {Q Q' : α → σ → Prop} {T : β → σ → Prop} {s : σ}

theorem Returns.bind {x : EStateM ε σ α} {f : α → EStateM ε σ β} (hx : Returns x s Q)
    (hf : ∀ a s', Q a s' → Returns (f a) s' T) : Returns (x >>= f) s T := by
  obtain ⟨a, s', h, hQ⟩ := hx
  obtain ⟨b, s'', h', hT⟩ := hf a s' hQ
  exact ⟨b, s'', by rw [bind_ok h, h'], hT⟩

theorem Returns.weaken {x : EStateM ε σ α} (hx : Returns x s Q) (h : ∀ a s', Q a s' → Q' a s') : Returns x s Q' := by
  obtain ⟨a, s', hrun, hQ⟩ := hx
  exact ⟨a, s', hrun, h a s' hQ⟩

theorem returns_pure {a : α} (h : Q a s) : Returns (pure a : EStateM ε σ α) s Q := ⟨a, s, rfl, h⟩

theorem returns_get_bind {f : σ → EStateM ε σ β} (h : Returns (f s) s T) : Returns (get >>= f) s T := h

theorem returns_modify_bind {g : σ → σ} {f : PUnit → EStateM ε σ β} (h : Returns (f ⟨⟩) (g s) T) :
    Returns (modify g >>= f) s T := h

theorem returns_modifyGet_bind {g : σ → α × σ} {f : α → EStateM ε σ β} {a : α} {s' : σ} (hg : g s = (a, s'))
    (h : Returns (f a) s' T) : Returns (modifyGet g >>= f) s T := by
  refine Returns.bind (Q := fun b u => b = a ∧ u = s') ⟨_, _, rfl, by rw [hg], by rw [hg]⟩ ?_
  rintro _ _ ⟨rfl, rfl⟩
  exact h

theorem returns_ite_pos {p : Prop} [Decidable p] {x y : EStateM ε σ α} (hp : p) (hx : Returns x s Q) :
    Returns (if p then x else y) s Q := by rwa [if_pos hp]

theorem returns_ite_neg {p : Prop} [Decidable p] {x y : EStateM ε σ α} (hp : ¬ p) (hy : Returns y s Q) :
    Returns (if p then x else y) s Q := by rwa [if_neg hp]

end Returns

/-- Whenever the program returns, this part of the state has gone as the relation says, with the result returned. -/
def Leads (v : σ → γ) (R : γ → α → γ → Prop) (x : EStateM ε σ α) : Prop :=
  ∀ s a s', x s = .ok a s' → R (v s) a (v s')

variable {R R' : γ → α → γ → Prop} {S : γ → β → γ → Prop}

theorem Keeps.leads {x : EStateM ε σ α} (hx : Keeps v x) (h : ∀ g a, R g a g) : Leads v R x := by
  intro s a s' hrun
  rw [hx s a s' hrun]
  exact h _ a

theorem Leads.bind {x : EStateM ε σ α} {f : α → EStateM ε σ β} (hx : Leads v R x) {T : α → γ → β → γ → Prop}
    (hf : ∀ a, Leads v (T a) (f a)) (h : ∀ g a g' b g'', R g a g' → T a g' b g'' → S g b g'') :
    Leads v S (x >>= f) := by
  intro s b s'' hrun
  obtain ⟨a, s', h1, h2⟩ := ok_of_bind hrun
  exact h _ a _ b _ (hx s a s' h1) (hf a s' b s'' h2)

theorem Keeps.bind_leads {x : EStateM ε σ α} {f : α → EStateM ε σ β} (hx : Keeps v x) (hf : ∀ a, Leads v S (f a)) :
    Leads v S (x >>= f) := by
  intro s b s'' hrun
  obtain ⟨a, s', h1, h2⟩ := ok_of_bind hrun
  rw [← hx s a s' h1]
  exact hf a s' b s'' h2

theorem Leads.bind_keeps {x : EStateM ε σ α} {f : α → EStateM ε σ β} (hx : Leads v R x) (hf : ∀ a, Keeps v (f a))
    (h : ∀ g a g' b, R g a g' → S g b g') : Leads v S (x >>= f) := by
  intro s b s'' hrun
  obtain ⟨a, s', h1, h2⟩ := ok_of_bind hrun
  rw [hf a s' b s'' h2]
  exact h _ a _ b (hx s a s' h1)

theorem leads_pure {a : α} (h : ∀ g, R g a g) : Leads v R (pure a : EStateM ε σ α) := by
  intro s b s' hrun
  cases hrun
  exact h _

theorem leads_throw (e : ε) : Leads v R (throw e : EStateM ε σ α) := by
  intro s a s' h
  cases h

theorem leads_modify {g : σ → σ} {R : γ → PUnit → γ → Prop} (h : ∀ s, R (v s) ⟨⟩ (v (g s))) :
    Leads v R (modify g : EStateM ε σ PUnit) := by
  intro s a s' hrun
  cases hrun
  exact h s

theorem leads_ite {p : Prop} [Decidable p] {x y : EStateM ε σ α} (hx : p → Leads v R x) (hy : ¬ p → Leads v R y) :
    Leads v R (if p then x else y) := by
  split
  case isTrue hp => exact hx hp
  case isFalse hp => exact hy hp

/-! ### Loops -/

variable {τ : Type} {step : τ → τ → Prop} {t₀ : τ}

/-- The states a loop has been in, the last first. -/
inductive Trace (step : τ → τ → Prop) (t₀ : τ) : List τ → Prop
  | start : Trace step t₀ [t₀]
  | next {t t' : τ} {ts : List τ} (h : Trace step t₀ (t :: ts)) (hs : step t t') : Trace step t₀ (t' :: t :: ts)

/-- A property that the steps keep has held throughout. -/
theorem Trace.forall {P : τ → Prop} {ts : List τ} (h : Trace step t₀ ts) (h₀ : P t₀)
    (hstep : ∀ t t', step t t' → P t → P t') : ∀ t ∈ ts, P t := by
  induction h with
  | start =>
    intro t ht
    rwa [List.mem_singleton.mp ht]
  | next _ hs ih => exact List.forall_mem_cons.mpr ⟨hstep _ _ hs (ih _ List.mem_cons_self), ih⟩

/-- A property that the steps keep when they leave a count alone, and break when they raise it, has held throughout just
when it held at the start and the count is what it was. -/
theorem Trace.forall_iff {P : τ → Prop} {n : τ → Nat} {t : τ} {ts : List τ} (h : Trace step t₀ (t :: ts))
    (hmono : ∀ t t', step t t' → n t ≤ n t') (hkeep : ∀ t t', step t t' → n t' = n t → P t → P t')
    (hbreak : ∀ t t', step t t' → n t' ≠ n t → ¬ P t') : (∀ u ∈ t :: ts, P u) ↔ P t₀ ∧ n t = n t₀ := by
  have key : ∀ us, Trace step t₀ us → ∀ t ts, us = t :: ts →
      n t₀ ≤ n t ∧ ((∀ u ∈ us, P u) ↔ P t₀ ∧ n t = n t₀) := by
    intro us hus
    induction hus with
    | start =>
      intro t ts heq
      cases heq
      exact ⟨Nat.le_refl _, by simp⟩
    | @next t t' ts _ hs ih =>
      intro u us heq
      cases heq
      obtain ⟨hle, hiff⟩ := ih t ts rfl
      have hle' := hmono t t' hs
      refine ⟨Nat.le_trans hle hle', ?_⟩
      rw [List.forall_mem_cons, hiff]
      constructor
      · rintro ⟨ht', ht₀, hn⟩
        have heq : n t' = n t := Classical.byContradiction fun hne => hbreak t t' hs hne ht'
        exact ⟨ht₀, by omega⟩
      · rintro ⟨ht₀, hn⟩
        have hpast : n t = n t₀ := by omega
        have ht : P t := hiff.mpr ⟨ht₀, hpast⟩ t List.mem_cons_self
        exact ⟨hkeep t t' hs (by omega) ht, ht₀, hpast⟩
  exact (key _ h t ts rfl).2

end Stateful
