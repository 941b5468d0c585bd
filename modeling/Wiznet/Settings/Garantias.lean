import Wiznet.Settings.Llamadas

/-!
# What the calls on the settings guarantee

Two properties of `leeVariables` and `escribeVariables` over all their nested calls.  A write of the settings that is
cut short leaves the old block, the new one or none (`escribeVariables_cortes`): the key goes first with the erase and
comes back last.  The driver runs whenever the flash is used, except after the reset of a block without key
(`driver_en_marcha`): the reset ends in a nested `leeVariables`, which stops the driver, and the outer one reads on.
-/

namespace Wiznet

open NorFlash (Mem Cmd replay)
open Stateful (bind_ok bind_error)
open W25Q16

/-! ### Cut writes -/

/-- `leeVariables` loads exactly these settings. -/
def Carga (b : Bus) (v : Ajustes) : Prop :=
  ∀ n a, ∃ b', leeVariables (n + 1) a b = .ok (b.chip.env.idManuf.toUInt8, v) b'

/-- `leeVariables` finds no key and takes the block for one that was never written. -/
def SinInicializar (b : Bus) : Prop :=
  claveEn b.chip.mem ≠ CLAVE ∧ ∃ b', b'.chip.mem = b.chip.mem ∧ ∀ n a, leeVariables (n + 1) a b = (do
    let _ ← reseteaEeprom n a
    let v ← leeCampos
    spiStop
    return (b.chip.env.idManuf.toUInt8, v)) b'

variable {b : Bus}

theorem carga_enFlash (hb : b.Libre) (hf : b.chip.env.HayFlash) (hc : claveEn b.chip.mem = CLAVE) :
    Carga b (.enFlash b.chip.mem) := by
  obtain ⟨b', -, -, -, -, h⟩ := leeVariables_ok hb fun _ => hc
  unfold Ajustes.cargados at h
  rw [if_pos hf] at h
  exact fun n a => ⟨b', h n a⟩

theorem sinInicializar (hb : b.Libre) (hf : b.chip.env.HayFlash) (hc : claveEn b.chip.mem ≠ CLAVE) :
    SinInicializar b := by
  obtain ⟨b', h', -, h⟩ := leeVariables_sin_clave hb hf hc
  exact ⟨hc, b', by rw [h'.chip]; rfl, h⟩

private theorem modifies_ordenesSi (a : Ajustes) (e : ChipEnv) :
    (a.ordenesSi e).filter Cmd.modifies = a.ordenesSi e := by
  rw [List.filter_eq_self]
  intro c hc
  unfold Ajustes.ordenesSi at hc
  split at hc
  · rcases List.mem_cons.1 hc with rfl | hc
    · rfl
    · obtain ⟨s, -, rfl⟩ := List.mem_map.1 hc
      rfl
  · cases hc

/-- The commands of a write of the settings, and its return. -/
theorem escribeVariables_returns (hb : b.Libre) (hc : claveEn b.chip.mem = CLAVE) (a : Ajustes) (n : Nat) :
    ∃ v b' cs, escribeVariables (n + 2) a b = .ok v b' ∧ b'.chip.log = b.chip.log ++ cs ∧
      cs.filter Cmd.modifies = a.ordenesSi b.chip.env := by
  obtain ⟨b₁, h₁, -, e₁⟩ := escribeVariables_ok hb a
  have hclave : claveEn b₁.chip.mem = CLAVE := by
    rw [h₁.chip]
    unfold Ajustes.ordenesSi
    split
    · exact claveEn_ordenes a _
    · exact hc
  obtain ⟨b₂, cs, h₂, hcs, -, e₂⟩ := leeVariables_ok (h₁.libre rfl) fun _ => hclave
  refine ⟨.cargados b₁.chip.env b₁.chip.mem, b₂, a.ordenesSi b.chip.env ++ cs, ?_, ?_, ?_⟩
  · rw [e₁, bind_ok (e₂ n a)]
    rfl
  · rw [h₂.chip, h₁.chip]
    simp [Chip.idle]
  · rw [List.filter_append, hcs, modifies_ordenesSi, List.append_nil]

/-- After any of the commands of a write of the settings, a read loads the old settings or the new ones or finds no
key; after all of them it loads the new ones. -/
theorem escribeVariables_cortes {viejo : Ajustes} (hb : b.Libre) (hc : claveEn b.chip.mem = CLAVE)
    (hviejo : Ajustes.enFlash b.chip.mem = viejo) (nuevo : Ajustes) (n : Nat) :
    ∃ v b' cs, escribeVariables (n + 2) nuevo b = .ok v b' ∧ b'.chip.log = b.chip.log ++ cs ∧
      ∀ j (b₂ : Bus), b₂.Libre → b₂.chip.env.HayFlash →
        b₂.chip.mem = replay w25q16 ((cs.filter Cmd.modifies).take j) b.chip.mem →
        (Carga b₂ viejo ∨ Carga b₂ nuevo ∨ SinInicializar b₂) ∧
          (b.chip.env.HayFlash → (cs.filter Cmd.modifies).length ≤ j → Carga b₂ nuevo) := by
  obtain ⟨v, b', cs, e, hlog, hcs⟩ := escribeVariables_returns hb hc nuevo n
  refine ⟨v, b', cs, e, hlog, fun j b₂ hb₂ hf₂ hm => ?_⟩
  unfold Ajustes.ordenesSi at hcs
  by_cases hf : b.chip.env.HayFlash
  · rw [if_pos hf] at hcs
    rw [hcs] at hm ⊢
    have hlen : nuevo.ordenes.length = 13 := rfl
    have hcompleta : 13 ≤ j → Carga b₂ nuevo := by
      intro hj
      rw [List.take_of_length_le (by omega)] at hm
      have h := carga_enFlash hb₂ hf₂ (by rw [hm]; exact claveEn_ordenes nuevo _)
      rwa [hm, enFlash_ordenes] at h
    refine ⟨?_, fun _ hj => hcompleta (by omega)⟩
    rcases Nat.eq_zero_or_pos j with rfl | h0
    · left
      have hm' : b₂.chip.mem = b.chip.mem := hm
      have h := carga_enFlash hb₂ hf₂ (by rw [hm', hc])
      rwa [hm', hviejo] at h
    rcases Nat.lt_or_ge j 13 with h13 | h13
    · right; right
      exact sinInicializar hb₂ hf₂ (by rw [hm]; exact claveEn_ordenes_take nuevo _ h0 h13)
    · right; left
      exact hcompleta h13
  · rw [if_neg hf] at hcs
    rw [hcs] at hm
    have hm' : b₂.chip.mem = b.chip.mem := by simpa using hm
    have h := carga_enFlash hb₂ hf₂ (by rw [hm', hc])
    rw [hm', hviejo] at h
    exact ⟨.inl h, fun hf' => absurd hf' hf⟩

/-- A chip with the default settings. -/
def busAjustado : Bus :=
  { Bus.nuevo with chip := { Bus.nuevo.chip with mem := replay w25q16 Ajustes.porDefecto.ordenes fun _ => 0xFF } }

theorem escribeVariables_cortes_ajustado :
    ∃ v b' cs, escribeVariables 2 { Ajustes.porDefecto with modoRadio := 2 } busAjustado = .ok v b' ∧
      b'.chip.log = busAjustado.chip.log ++ cs ∧
      ∀ j (b₂ : Bus), b₂.Libre → b₂.chip.env.HayFlash →
        b₂.chip.mem = replay w25q16 ((cs.filter Cmd.modifies).take j) busAjustado.chip.mem →
        (Carga b₂ .porDefecto ∨ Carga b₂ { Ajustes.porDefecto with modoRadio := 2 } ∨ SinInicializar b₂) ∧
          (busAjustado.chip.env.HayFlash → (cs.filter Cmd.modifies).length ≤ j →
            Carga b₂ { Ajustes.porDefecto with modoRadio := 2 }) :=
  escribeVariables_cortes (b := busAjustado) ⟨rfl, rfl⟩ (claveEn_ordenes .porDefecto fun _ => 0xFF)
    (enFlash_ordenes .porDefecto fun _ => 0xFF) { Ajustes.porDefecto with modoRadio := 2 } 0

/-! ### The driver in the nested calls -/

/-- The flash answers every second start, the next one first, and no other. -/
def ChipEnv.Alterna (e : ChipEnv) : Prop := ∀ i, e.Responde (2 * i) ∧ ¬ e.Responde (2 * i + 1)

private theorem busTras_error {α : Type} {x : SpiM α} {b b' : Bus} {e : Stuck} (h : x b = .error e b') :
    busTras x b = b' := by
  unfold busTras
  rw [h]

theorem leeVariables_enMarcha (hb : b.Libre) (hc : b.chip.env.HayFlash → claveEn b.chip.mem = CLAVE) (n : Nat)
    (a : Ajustes) : Tramo b (busTras (leeVariables n a) b) := by
  cases n with
  | zero =>
    unfold leeVariables
    exact Tramo.refl b
  | succ n =>
    obtain ⟨b', -, -, -, t, e⟩ := leeVariables_ok hb hc
    unfold busTras
    rw [e n a]
    exact t

/-- One round of the three calls without a key: where each of them is called, and what is left of it from there. -/
structure RondaSinClave (a : Ajustes) (b b₁ b₂ b₃ : Bus) : Prop where
  tramo₁ : Tramo b b₁
  tramo₂ : Tramo b b₂
  tramo₃ : Tramo b b₃
  libre : b₃.Libre
  env : b₃.chip.env = b.chip.env.nextId.nextId
  clave : claveEn b₃.chip.mem = CLAVE ↔ b.chip.env.Responde 1
  lee : ∀ n, leeVariables (n + 1) a b = (do
    let _ ← reseteaEeprom n a
    let v ← leeCampos
    spiStop
    return (b.chip.env.idManuf.toUInt8, v)) b₁
  resetea : ∀ n, reseteaEeprom (n + 1) a b₁ = (do
    let v ← escribeVariables n a
    return (0, v)) b₂
  escribe : ∀ n, escribeVariables (n + 1) a b₂ = (do
    let (_, v) ← leeVariables n a
    return v) b₃

theorem rondaSinClave (hb : b.Libre) (hf : b.chip.env.HayFlash) (hc : claveEn b.chip.mem ≠ CLAVE) (a : Ajustes) :
    ∃ b₁ b₂ b₃, RondaSinClave a b b₁ b₂ b₃ := by
  obtain ⟨b₁, h₁, t₁, e₁⟩ := leeVariables_sin_clave hb hf hc
  obtain ⟨b₂, h₂, t₂, e₂⟩ := reseteaEeprom_ok h₁
  obtain ⟨b₃, h₃, t₃, e₃⟩ := escribeVariables_ok (h₂.libre rfl) a
  refine ⟨b₁, b₂, b₃, t₁, t₁.trans t₂, t₁.trans (t₂.trans t₃), h₃.libre rfl, ?_, ?_, fun n => e₁ n a,
    fun n => e₂ n a, e₃⟩
  · rw [h₃.chip, h₂.chip]
    rfl
  · have hmem : b₃.chip.mem = replay w25q16 (a.ordenesSi b₂.chip.env) b₂.chip.mem := by rw [h₃.chip]; rfl
    have hsi : b₂.chip.env.HayFlash ↔ b.chip.env.Responde 1 := by
      rw [h₂.chip]
      exact Iff.rfl
    rw [hmem]
    unfold Ajustes.ordenesSi
    by_cases h1 : b.chip.env.Responde 1
    · rw [if_pos (hsi.2 h1)]
      exact iff_of_true (claveEn_ordenes a _) h1
    · rw [if_neg (fun h => h1 (hsi.1 h)), h₂.chip]
      refine iff_of_false (fun h => ?_) h1
      exact claveEn_ordenes_take a b.chip.mem (j := 1) (by decide) (by decide) h

namespace RondaSinClave

variable {a : Ajustes} {b₁ b₂ b₃ b' : Bus} {n : Nat} {e : Stuck}

/-- A call that does not return keeps those around it from returning. -/
theorem error_resetea (r : RondaSinClave a b b₁ b₂ b₃) (h : reseteaEeprom n a b₁ = .error e b') :
    leeVariables (n + 1) a b = .error e b' := by
  rw [r.lee]
  exact bind_error h

theorem error_escribe (r : RondaSinClave a b b₁ b₂ b₃) (h : escribeVariables n a b₂ = .error e b') :
    leeVariables (n + 2) a b = .error e b' := by
  refine r.error_resetea ?_
  rw [r.resetea]
  exact bind_error h

theorem error_lee (r : RondaSinClave a b b₁ b₂ b₃) (h : leeVariables n a b₃ = .error e b') :
    leeVariables (n + 3) a b = .error e b' := by
  refine r.error_escribe ?_
  rw [r.escribe]
  exact bind_error h

/-- A nested `leeVariables` that returns leaves the driver stopped for the reads of the outer one. -/
theorem falla (r : RondaSinClave a b b₁ b₂ b₃) (hc₃ : b₃.chip.env.HayFlash → claveEn b₃.chip.mem = CLAVE) :
    ∃ n b', leeVariables n a b = .error .stopped b' ∧ Falla b b' := by
  obtain ⟨b₄, cs, h₄, -, t₄, e₄⟩ := leeVariables_ok r.libre hc₃
  obtain ⟨b₅, e₅, hx⟩ := readU16_falla h₄ 0 POSMODORADIO
  have hescribe : escribeVariables 2 a b₂ = .ok (.cargados b₃.chip.env b₃.chip.mem) b₄ := by
    rw [r.escribe, bind_ok (e₄ 0 a)]
    rfl
  have hresetea : reseteaEeprom 3 a b₁ = .ok (0, .cargados b₃.chip.env b₃.chip.mem) b₄ := by
    rw [r.resetea, bind_ok hescribe]
    rfl
  have hcampos : leeCampos b₄ = .error .stopped b₅ := by
    unfold leeCampos
    exact bind_error e₅
  refine ⟨4, b₅, ?_, (r.tramo₃.trans t₄).falla hx⟩
  rw [r.lee, bind_ok hresetea]
  exact bind_error hcampos

end RondaSinClave

/-- While the flash answers every second start only, the calls go ever deeper. -/
theorem leeVariables_alterna (a : Ajustes) (n : Nat) : ∀ {b : Bus}, b.Libre → claveEn b.chip.mem ≠ CLAVE →
    b.chip.env.Alterna → ∃ b', leeVariables n a b = .error .loop b' ∧ Tramo b b' := by
  induction n using Nat.strong_induction_on with
  | h n ih =>
    intro b hb hc halt
    obtain ⟨b₁, b₂, b₃, r⟩ := rondaSinClave hb (halt 0).1 hc a
    rcases n with _ | _ | _ | n
    · exact ⟨b, by rw [leeVariables]; rfl, Tramo.refl b⟩
    · exact ⟨b₁, r.error_resetea (by rw [reseteaEeprom]; rfl), r.tramo₁⟩
    · exact ⟨b₂, r.error_escribe (by rw [escribeVariables]; rfl), r.tramo₂⟩
    · have hc₃ : claveEn b₃.chip.mem ≠ CLAVE := fun h => (halt 0).2 (r.clave.1 h)
      have halt₃ : b₃.chip.env.Alterna := by
        rw [r.env]
        intro i
        exact halt (i + 1)
      obtain ⟨b', e, t⟩ := ih n (by omega) r.libre hc₃ halt₃
      exact ⟨b', r.error_lee e, r.tramo₃.trans t⟩

/-- Otherwise some nested call returns, with the driver stopped, and the read after it finds it so. -/
theorem leeVariables_falla (a : Ajustes) (i : Nat) : ∀ {b : Bus}, b.Libre → b.chip.env.HayFlash →
    claveEn b.chip.mem ≠ CLAVE → ¬ (b.chip.env.Responde (2 * i) ∧ ¬ b.chip.env.Responde (2 * i + 1)) →
    ∃ n b', leeVariables n a b = .error .stopped b' ∧ Falla b b' := by
  induction i with
  | zero =>
    intro b hb hf hc hi
    obtain ⟨b₁, b₂, b₃, r⟩ := rondaSinClave hb hf hc a
    exact r.falla fun _ => r.clave.2 (not_not.1 fun h1 => hi ⟨hf, h1⟩)
  | succ i ih =>
    intro b hb hf hc hi
    obtain ⟨b₁, b₂, b₃, r⟩ := rondaSinClave hb hf hc a
    by_cases hv : b₃.chip.env.HayFlash → claveEn b₃.chip.mem = CLAVE
    · exact r.falla hv
    · obtain ⟨hf₃, hc₃⟩ := Classical.not_imp.1 hv
      obtain ⟨n, b', e, hx⟩ := ih r.libre hf₃ hc₃ (by rw [r.env]; exact hi)
      exact ⟨n + 3, b', r.error_lee e, r.tramo₃.falla hx⟩

/-- The cases in which `leeVariables` keeps the driver running: there is no flash, or a key, or no end. -/
def ChipEnv.Marcha (e : ChipEnv) (m : Mem) : Prop := e.HayFlash → claveEn m = CLAVE ∨ e.Alterna

theorem leeVariables_tramo (hb : b.Libre) (h : b.chip.env.Marcha b.chip.mem) (a : Ajustes) (n : Nat) :
    Tramo b (busTras (leeVariables n a) b) := by
  by_cases hc : b.chip.env.HayFlash → claveEn b.chip.mem = CLAVE
  · exact leeVariables_enMarcha hb hc n a
  · obtain ⟨hf, hc⟩ := Classical.not_imp.1 hc
    obtain ⟨b', e, t⟩ := leeVariables_alterna a n hb hc ((h hf).resolve_left hc)
    rwa [busTras_error e]

theorem leeVariables_no_tramo (hb : b.Libre) (h : ¬ b.chip.env.Marcha b.chip.mem) (a : Ajustes) :
    ∃ n, Falla b (busTras (leeVariables n a) b) := by
  obtain ⟨hf, h⟩ := Classical.not_imp.1 h
  obtain ⟨hc, halt⟩ := not_or.1 h
  obtain ⟨i, hi⟩ := Classical.not_forall.1 halt
  obtain ⟨n, b', e, hx⟩ := leeVariables_falla a i hb hf hc hi
  exact ⟨n, by rwa [busTras_error e]⟩

private theorem busTras_map {α β : Type} (x : SpiM α) (f : α → β) (b : Bus) :
    busTras (x >>= fun r => pure (f r)) b = busTras x b := by
  unfold busTras
  cases hx : x b with
  | ok r b' =>
    have hbind : (x >>= fun r => pure (f r)) b = .ok (f r) b' := bind_ok hx
    rw [hbind]
  | error e b' =>
    have hbind : (x >>= fun r => pure (f r)) b = .error e b' := bind_error hx
    rw [hbind]

/-- The driver runs whenever `leeVariables` and `escribeVariables` use the flash, through all their nested calls,
exactly in these cases: `leeVariables` when there is no flash, or a key, or no end; `escribeVariables` when it finds the
flash itself or calls `leeVariables` in such a case. -/
theorem driver_en_marcha (hb : b.Libre) (a : Ajustes) :
    ((∀ n, EnMarcha b.started (eventos (leeVariables n a) b)) ↔ b.chip.env.Marcha b.chip.mem) ∧
    ((∀ n, EnMarcha b.started (eventos (escribeVariables n a) b)) ↔
      b.chip.env.HayFlash ∨ b.chip.env.nextId.Marcha b.chip.mem) := by
  constructor
  · refine ⟨fun h => ?_, fun h n => enMarcha_of_tramo (leeVariables_tramo hb h a n)⟩
    refine Classical.byContradiction fun hno => ?_
    obtain ⟨n, hx⟩ := leeVariables_no_tramo hb hno a
    exact not_enMarcha_of_falla hx (h n)
  · obtain ⟨b₁, h₁, t₁, e₁⟩ := escribeVariables_ok hb a
    have hlibre : b₁.Libre := h₁.libre rfl
    have henv : b₁.chip.env = b.chip.env.nextId := by rw [h₁.chip]; rfl
    have hbus : ∀ n, busTras (escribeVariables (n + 1) a) b = busTras (leeVariables n a) b₁ := by
      intro n
      rw [← busTras_map (leeVariables n a) Prod.snd b₁]
      unfold busTras
      rw [e₁ n]
    have hmarcha : b₁.chip.env.Marcha b₁.chip.mem ↔ b.chip.env.HayFlash ∨ b.chip.env.nextId.Marcha b.chip.mem := by
      have hmem : b₁.chip.mem = replay w25q16 (a.ordenesSi b.chip.env) b.chip.mem := by rw [h₁.chip]; rfl
      unfold Ajustes.ordenesSi at hmem
      by_cases hf : b.chip.env.HayFlash
      · rw [if_pos hf] at hmem
        refine iff_of_true (fun _ => .inl ?_) (.inl hf)
        rw [hmem]
        exact claveEn_ordenes a _
      · rw [if_neg hf] at hmem
        rw [henv, hmem]
        exact ⟨.inr, fun h => h.resolve_left hf⟩
    rw [← hmarcha]
    constructor
    · intro h
      refine Classical.byContradiction fun hno => ?_
      obtain ⟨n, hx⟩ := leeVariables_no_tramo hlibre hno a
      refine not_enMarcha_of_falla ?_ (h (n + 1))
      rw [hbus]
      exact t₁.falla hx
    · intro h n
      refine enMarcha_of_tramo ?_
      cases n with
      | zero =>
        unfold escribeVariables
        exact Tramo.refl b
      | succ n =>
        rw [hbus]
        exact t₁.trans (leeVariables_tramo hlibre h a n)

theorem driver_en_marcha_nuevo :
    ((∀ n, EnMarcha Bus.nuevo.started (eventos (leeVariables n .porDefecto) Bus.nuevo)) ↔
      Bus.nuevo.chip.env.Marcha Bus.nuevo.chip.mem) ∧
    ((∀ n, EnMarcha Bus.nuevo.started (eventos (escribeVariables n .porDefecto) Bus.nuevo)) ↔
      Bus.nuevo.chip.env.HayFlash ∨ Bus.nuevo.chip.env.nextId.Marcha Bus.nuevo.chip.mem) :=
  driver_en_marcha ⟨rfl, rfl⟩ .porDefecto

/-- On an erased chip that always answers, `leeVariables` reads the fields after the driver was stopped. -/
theorem driver_parado : ¬ ∀ n, EnMarcha Bus.nuevo.started (eventos (leeVariables n .porDefecto) Bus.nuevo) := by
  have hno : ¬ Bus.nuevo.chip.env.Marcha Bus.nuevo.chip.mem := by
    intro h
    rcases h (by decide) with h | h
    · exact absurd h (by decide)
    · exact (h 0).2 (by decide)
  obtain ⟨n, hx⟩ := leeVariables_no_tramo ⟨rfl, rfl⟩ hno .porDefecto
  exact fun h => not_enMarcha_of_falla hx (h n)

end Wiznet
