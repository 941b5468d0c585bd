import Wiznet.Library.Stateful

/-!
# Programs watched by a monitor

A monitor is a step function that reads events one by one and stops at the first one that breaks its rules.  `Follows`
says of a program that logs its events that, whenever it returns, they have taken the monitor from one state to another,
and that the state of the program has stayed in a relation with that of the monitor.
-/

namespace Monitor

open Stateful (ok_of_bind)

variable {E S σ ε α β : Type}

/-- The state of the monitor after the events, if it accepts them all. -/
def run (step : S → E → Option S) : S → List E → Option S
  | s, [] => some s
  | s, e :: es => (step s e).bind fun s' => run step s' es

variable {step : S → E → Option S} {s s' : S}

theorem run_append (u v : List E) : run step s (u ++ v) = (run step s u).bind fun s' => run step s' v := by
  induction u generalizing s with
  | nil => rfl
  | cons e u ih =>
    simp only [List.cons_append, run]
    cases step s e with
    | none => rfl
    | some s' => exact ih

theorem run_singleton {e : E} : run step s [e] = step s e := by
  simp only [run]
  cases step s e <;> rfl

/-- What is accepted first takes a step. -/
theorem run_cons {e : E} {es : List E} (h : run step s (e :: es) = some s') :
    ∃ t, step s e = some t ∧ run step t es = some s' := Option.bind_eq_some_iff.mp h

/-- Whenever the program returns, its events take the monitor from `s` to the state that goes with its result. -/
def Follows (step : S → E → Option S) (log : σ → List E) (R : σ → S → Prop) (s : S) (x : EStateM ε σ α) (t : α → S) :
    Prop :=
  ∀ b a b', R b s → x b = .ok a b' → R b' (t a) ∧ ∃ u, log b' = log b ++ u ∧ run step s u = some (t a)

variable {log : σ → List E} {R : σ → S → Prop} {t : α → S} {t' : β → S}

theorem follows_pure {a : α} (h : t a = s) : Follows step log R s (pure a : EStateM ε σ α) t := by
  rintro b _ _ hb ⟨⟩
  rw [h]
  exact ⟨hb, [], by simp, rfl⟩

theorem follows_throw (e : ε) : Follows step log R s (throw e : EStateM ε σ α) t := by
  intro b a b' _ h
  cases h

/-- A program that logs one event. -/
theorem follows_event {x : EStateM ε σ α} {e : α → E} (h : ∀ b a b', R b s → x b = .ok a b' →
    log b' = log b ++ [e a] ∧ step s (e a) = some (t a) ∧ R b' (t a)) : Follows step log R s x t := by
  intro b a b' hb hx
  obtain ⟨hlog, hstep, hb'⟩ := h b a b' hb hx
  exact ⟨hb', [e a], hlog, by rw [run_singleton, hstep]⟩

theorem Follows.bind {x : EStateM ε σ α} {f : α → EStateM ε σ β} (hx : Follows step log R s x t)
    (hf : ∀ a, Follows step log R (t a) (f a) t') : Follows step log R s (x >>= f) t' := by
  intro b a b'' hb h
  obtain ⟨c, b', h1, h2⟩ := ok_of_bind h
  obtain ⟨hb', u, hu, hru⟩ := hx b c b' hb h1
  obtain ⟨hb'', v, hv, hrv⟩ := hf c b' a b'' hb' h2
  refine ⟨hb'', u ++ v, by rw [hv, hu, List.append_assoc], ?_⟩
  rw [run_append, hru]
  exact hrv

theorem follows_get_bind {f : σ → EStateM ε σ β} (h : ∀ b, Follows step log R s (f b) t') :
    Follows step log R s (get >>= f) t' := fun b a b' hb hx => h b b a b' hb hx

theorem follows_ite {p : Prop} [Decidable p] {x y : EStateM ε σ α} (hx : p → Follows step log R s x t)
    (hy : ¬ p → Follows step log R s y t) : Follows step log R s (if p then x else y) t := by
  split
  case isTrue hp => exact hx hp
  case isFalse hp => exact hy hp

end Monitor
