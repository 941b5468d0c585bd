import Wiznet.Flash.DriverSpec

/-!
# The driver is running when it is used

`EnMarcha s es`: from a driver that runs or not as `s` says, every exchange among the events `es` finds it running.
`Tramo b b'` says this of the events between two states of the bus; a call that ends in `Falla` breaks it.
-/

namespace Wiznet

open W25Q16

/-- Whether the driver runs after an event. -/
def Event.tras (s : Bool) : Event → Bool
  | .spiStart => true
  | .spiStop => false
  | _ => s

def Event.Permitido (s : Bool) : Event → Prop
  | .spiExchange _ _ => s = true
  | _ => True

/-- Every exchange is made while the driver runs: after a start, with no stop in between. -/
def EnMarcha : Bool → List Event → Prop
  | _, [] => True
  | s, e :: es => e.Permitido s ∧ EnMarcha (e.tras s) es

theorem enMarcha_append (s : Bool) (u v : List Event) :
    EnMarcha s (u ++ v) ↔ EnMarcha s u ∧ EnMarcha (u.foldl Event.tras s) v := by
  induction u generalizing s with
  | nil => simp [EnMarcha]
  | cons e u ih => simp [EnMarcha, ih, and_assoc]

/-- Events that neither start nor stop the driver. -/
private theorem quieto {u : List Event} (h : ∀ e ∈ u, e ≠ .spiStart ∧ e ≠ .spiStop) :
    EnMarcha true u ∧ u.foldl Event.tras true = true := by
  induction u with
  | nil => exact ⟨trivial, rfl⟩
  | cons e u ih =>
    obtain ⟨h1, h2⟩ := ih fun e' he' => h e' (by simp [he'])
    have he := h e (by simp)
    have htras : e.tras true = true := by
      cases e <;> simp [Event.tras] at he ⊢
    refine ⟨⟨?_, by rwa [htras]⟩, by rw [List.foldl_cons, htras, h2]⟩
    cases e <;> simp [Event.Permitido]

/-! ### Calls -/

/-- The bus after a call, whether it returns or not. -/
def busTras {α : Type} (x : SpiM α) (b : Bus) : Bus :=
  match x b with
  | .ok _ b' => b'
  | .error _ b' => b'

/-- The events of a call. -/
def eventos {α : Type} (x : SpiM α) (b : Bus) : List Event := (busTras x b).trace.drop b.trace.length

/-- Between these states the driver runs whenever it is used. -/
def Tramo (b b' : Bus) : Prop :=
  ∃ u, b'.trace = b.trace ++ u ∧ EnMarcha b.started u ∧ u.foldl Event.tras b.started = b'.started

/-- Between these states it is used while it does not run. -/
def Falla (b b' : Bus) : Prop := ∃ u, b'.trace = b.trace ++ u ∧ ¬ EnMarcha b.started u

variable {α : Type} {x : SpiM α} {a : α} {e : Stuck} {b b' b'' : Bus}

theorem Tramo.refl (b : Bus) : Tramo b b := ⟨[], by simp, trivial, rfl⟩

theorem Tramo.trans (h : Tramo b b') (h' : Tramo b' b'') : Tramo b b'' := by
  obtain ⟨u, e1, m1, s1⟩ := h
  obtain ⟨v, e2, m2, s2⟩ := h'
  refine ⟨u ++ v, by rw [e2, e1, List.append_assoc], (enMarcha_append ..).2 ⟨m1, ?_⟩, ?_⟩
  · rwa [s1]
  · rw [List.foldl_append, s1, s2]

theorem Tramo.falla (h : Tramo b b') (h' : Falla b' b'') : Falla b b'' := by
  obtain ⟨u, e1, m1, s1⟩ := h
  obtain ⟨v, e2, m2⟩ := h'
  refine ⟨u ++ v, by rw [e2, e1, List.append_assoc], fun hm => m2 ?_⟩
  rw [← s1]
  exact ((enMarcha_append ..).1 hm).2

theorem Quiet.tramo (h : Quiet b.trace b'.trace) (hb : b.started = true) (hb' : b'.started = true) : Tramo b b' := by
  obtain ⟨u, hu, hq⟩ := h
  obtain ⟨h1, h2⟩ := quieto hq
  exact ⟨u, hu, by rwa [hb], by rw [hb, h2, hb']⟩

private theorem eventos_of_trace {u : List Event} (h : (busTras x b).trace = b.trace ++ u) : eventos x b = u := by
  unfold eventos
  rw [h, List.drop_left]

theorem enMarcha_of_tramo (h : Tramo b (busTras x b)) : EnMarcha b.started (eventos x b) := by
  obtain ⟨u, e, m, -⟩ := h
  rwa [eventos_of_trace e]

theorem not_enMarcha_of_falla (h : Falla b (busTras x b)) : ¬ EnMarcha b.started (eventos x b) := by
  obtain ⟨u, e, m⟩ := h
  rwa [eventos_of_trace e]

/-! ### Parts of a call -/

/-- Idle chip behind a stopped driver. -/
structure Bus.Parado (b : Bus) (c : Chip) : Prop where
  chip : b.chip = c
  held : b.held = false
  started : b.started = false

theorem Bus.Parado.libre {c : Chip} (h : b.Parado c) (hc : c.phase = .deselected) : b.Libre :=
  ⟨h.held, by rw [h.chip, hc]⟩

theorem Bus.Is.libre {c : Chip} (h : b.Is (c, false)) (hc : c.phase = .deselected) : b.Libre :=
  ⟨h.held, by rw [h.chip, hc]⟩

/-- `W25Q16_start` uses the driver after starting it. -/
theorem start_tramo (hb : b.Libre) :
    ∃ b', start b = .ok b.chip.env.idManuf b' ∧
      b'.Is (Chip.idle b.chip.mem false b.chip.log b.chip.env.nextId, false) ∧ Tramo b b' := by
  obtain ⟨b', e, hb', u, hu, hq⟩ := start_ok hb
  obtain ⟨h1, h2⟩ := quieto hq
  refine ⟨b', e, hb', .spiStart :: u, by simp [hu], ⟨trivial, h1⟩, ?_⟩
  rw [hb'.started]
  exact h2

theorem Does.tramo {m : NorFlash.Mem} {log l : List NorFlash.Cmd} {env : ChipEnv} (h : Does x m a log)
    (hb : b.Is (Chip.idle m false l env, false)) :
    ∃ b', x b = .ok a b' ∧ b'.Is (Chip.idle (NorFlash.replay w25q16 log m) false (l ++ log) env, false) ∧
      Tramo b b' := by
  obtain ⟨b', e, hb', hq⟩ := h l env b hb
  exact ⟨b', e, hb', hq.tramo hb.started hb'.started⟩

theorem spiStop_tramo {c : Chip} (hb : b.Is (c, false)) :
    ∃ b', spiStop b = .ok () b' ∧ b'.Parado c ∧ Tramo b b' := by
  refine ⟨{ b.record .spiStop with started := false }, rfl, ⟨hb.chip, hb.held, rfl⟩, [.spiStop], rfl, ?_, rfl⟩
  exact ⟨trivial, trivial⟩

/-- A read on a stopped driver uses it. -/
theorem readU16_falla {c : Chip} (hb : b.Parado c) (page : UInt16) (pageAddress : UInt8) :
    ∃ b', readU16 page pageAddress b = .error .stopped b' ∧ Falla b b' := by
  obtain ⟨chip, started, held, trace⟩ := b
  obtain ⟨hc, hh, hs⟩ := hb
  dsimp only at hc hh hs
  subst hc hh hs
  refine ⟨_, rfl, [.spiAcquireBus, .spiSelect, .spiExchange (command READ_DATA page pageAddress ++ [0, 0]) []], ?_, ?_⟩
  · simp [Bus.record]
  · simp [EnMarcha, Event.Permitido, Event.tras]

end Wiznet
