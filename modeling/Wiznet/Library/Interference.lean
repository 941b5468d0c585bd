import Mathlib.Logic.Function.Basic

/-!
# Components that move on their own

A family of components, each of which takes steps when events addressed to it arrive, between the accesses of a
program. Which of them are for one component (`own`), that a component sees only these (`run_own`), and which
properties its events keep (`Stable`).
-/

namespace Interference

variable {ι E σ : Type} {step : E → σ → σ} {P : σ → Prop} {s : σ} {es : List E}

/-- The events never take the property away. -/
def Stable (step : E → σ → σ) (P : σ → Prop) : Prop := ∀ e s, P s → P (step e s)

/-- A component after some events, in their order. -/
def evolve (step : E → σ → σ) (s : σ) (es : List E) : σ := es.foldl (fun s e => step e s) s

theorem evolve_append {es' : List E} : evolve step s (es ++ es') = evolve step (evolve step s es) es' :=
  List.foldl_append

theorem Stable.evolve (hP : Stable step P) (hs : P s) : P (evolve step s es) := by
  induction es generalizing s with
  | nil => exact hs
  | cons e es ih => exact ih (hP e s hs)

variable [DecidableEq ι] {f : ι → σ} {i : ι}

/-- The family after an event. -/
def deliver (step : E → σ → σ) (f : ι → σ) (e : ι × E) : ι → σ := Function.update f e.1 (step e.2 (f e.1))

/-- The family after the events. -/
def run (step : E → σ → σ) (f : ι → σ) (es : List (ι × E)) : ι → σ := es.foldl (deliver step) f

/-- The events for one component. -/
def own (i : ι) (es : List (ι × E)) : List E := es.filterMap fun e => if e.1 = i then some e.2 else none

/-- A component is what its own events have made of it. -/
theorem run_own {es : List (ι × E)} : run step f es i = evolve step (f i) (own i es) := by
  induction es generalizing f with
  | nil => rfl
  | cons e es ih =>
    refine ih.trans ?_
    unfold deliver own
    by_cases h : e.1 = i
    · subst h
      simp [evolve]
    · simp [h, Function.update_of_ne (Ne.symm h)]

theorem Stable.run {es : List (ι × E)} (hP : Stable step P) (h : P (f i)) : P (run step f es i) := by
  rw [run_own]
  exact hP.evolve h

end Interference
