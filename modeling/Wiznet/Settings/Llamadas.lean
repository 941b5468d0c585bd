import Wiznet.Settings.Bloque
import Wiznet.Flash.Marcha

/-!
# The calls on the settings

What `leeVariables`, `reseteaEeprom` and `escribeVariables` do from any free bus, one step of the recursion each.  The
bus a call starts from may have the driver running or not; every call of `leeVariables` stops it at its end.
-/

namespace Wiznet

open NorFlash (Mem Cmd replay)
open Stateful (bind_ok)
open W25Q16

variable {b : Bus} {m : Mem} {l : List Cmd} {e : ChipEnv}

/-- What is loaded when the flash has a valid block or does not answer. -/
def Ajustes.cargados (e : ChipEnv) (m : Mem) : Ajustes := if e.HayFlash then .enFlash m else .porDefecto

/-- Without the flash, or with a valid block in it, `leeVariables` loads the settings and stops the driver. -/
theorem leeVariables_ok (hb : b.Libre) (hc : b.chip.env.HayFlash → claveEn b.chip.mem = CLAVE) :
    ∃ b' cs, b'.Parado (Chip.idle b.chip.mem false (b.chip.log ++ cs) b.chip.env.nextId) ∧
      cs.filter Cmd.modifies = [] ∧ Tramo b b' ∧
      ∀ n a, leeVariables (n + 1) a b =
        .ok (b.chip.env.idManuf.toUInt8, .cargados b.chip.env b.chip.mem) b' := by
  obtain ⟨b₁, e₁, h₁, t₁⟩ := start_tramo hb
  by_cases hf : b.chip.env.HayFlash
  · obtain ⟨b₂, e₂, h₂, t₂⟩ := (readU16_does 0 0).tramo h₁
    obtain ⟨b₃, e₃, h₃, t₃⟩ := (leeCampos_does b.chip.mem).tramo h₂
    obtain ⟨b₄, e₄, h₄, t₄⟩ := spiStop_tramo h₃
    refine ⟨b₄, .read (flashAddr 0 0) 2 :: lecturas, ?_, by decide, t₁.trans (t₂.trans (t₃.trans t₄)), fun n a => ?_⟩
    · rwa [List.append_assoc] at h₄
    · have hid := (b.chip.env.idManuf_ne_zero).2 hf
      have hclave : beU16 b.chip.mem (flashAddr 0 0) = CLAVE := hc hf
      unfold leeVariables Ajustes.cargados
      rw [bind_ok e₁, if_pos hid, if_pos hf, bind_ok e₂]
      dsimp only
      rw [if_neg (fun h => h hclave), bind_ok e₃, bind_ok e₄]
      rfl
  · obtain ⟨b₂, e₂, h₂, t₂⟩ := spiStop_tramo h₁
    refine ⟨b₂, [], by simpa using h₂, rfl, t₁.trans t₂, fun n a => ?_⟩
    have hid : ¬ b.chip.env.idManuf ≠ 0 := fun h => hf ((b.chip.env.idManuf_ne_zero).1 h)
    unfold leeVariables Ajustes.cargados
    have e₀ : (pure Ajustes.porDefecto : SpiM Ajustes) b₁ = .ok .porDefecto b₁ := rfl
    rw [bind_ok e₁, if_neg hid, if_neg hf, bind_ok e₀]
    dsimp only
    rw [bind_ok e₂]
    rfl

/-- With a flash that has no valid block, it goes through `reseteaEeprom` and reads the fields after that. -/
theorem leeVariables_sin_clave (hb : b.Libre) (hf : b.chip.env.HayFlash) (hc : claveEn b.chip.mem ≠ CLAVE) :
    ∃ b', b'.Is (Chip.idle b.chip.mem false (b.chip.log ++ [.read (flashAddr 0 0) 2]) b.chip.env.nextId, false) ∧
      Tramo b b' ∧
      ∀ n a, leeVariables (n + 1) a b = (do
        let _ ← reseteaEeprom n a
        let v ← leeCampos
        spiStop
        return (b.chip.env.idManuf.toUInt8, v)) b' := by
  obtain ⟨b₁, e₁, h₁, t₁⟩ := start_tramo hb
  obtain ⟨b₂, e₂, h₂, t₂⟩ := (readU16_does 0 0).tramo h₁
  refine ⟨b₂, h₂, t₁.trans t₂, fun n a => ?_⟩
  have hid := (b.chip.env.idManuf_ne_zero).2 hf
  have hclave : beU16 b.chip.mem (flashAddr 0 0) ≠ CLAVE := hc
  rw [leeVariables, bind_ok e₁, if_pos hid, bind_ok e₂]
  dsimp only
  rw [if_pos hclave]

/-- `reseteaEeprom` erases and calls `escribeVariables`. -/
theorem reseteaEeprom_ok (hb : b.Is (Chip.idle m false l e, false)) :
    ∃ b', b'.Is (Chip.idle (Cmd.apply w25q16 (.erase (flashAddr 0 0)) m) false (l ++ [.erase (flashAddr 0 0)]) e,
        false) ∧ Tramo b b' ∧
      ∀ n a, reseteaEeprom (n + 1) a b = (do
        let v ← escribeVariables n a
        return (0, v)) b' := by
  obtain ⟨b₁, e₁, h₁, t₁⟩ := (sectorErase_does (m := m) 0).tramo hb
  exact ⟨b₁, h₁, t₁, fun n a => by rw [reseteaEeprom, bind_ok e₁]⟩

/-- The commands of `escribeVariables` before it calls `leeVariables`. -/
def Ajustes.ordenesSi (a : Ajustes) (e : ChipEnv) : List Cmd := if e.HayFlash then a.ordenes else []

/-- `escribeVariables` writes the block, if the flash answers, stops the driver and calls `leeVariables`. -/
theorem escribeVariables_ok (hb : b.Libre) (a : Ajustes) :
    ∃ b', b'.Parado (Chip.idle (replay w25q16 (a.ordenesSi b.chip.env) b.chip.mem) false
        (b.chip.log ++ a.ordenesSi b.chip.env) b.chip.env.nextId) ∧ Tramo b b' ∧
      ∀ n, escribeVariables (n + 1) a b = (do
        let (_, v) ← leeVariables n a
        return v) b' := by
  obtain ⟨b₁, e₁, h₁, t₁⟩ := start_tramo hb
  unfold Ajustes.ordenesSi
  by_cases hf : b.chip.env.HayFlash
  · obtain ⟨b₂, e₂, h₂, t₂⟩ := (escribeCampos_does a b.chip.mem).tramo h₁
    obtain ⟨b₃, e₃, h₃, t₃⟩ := spiStop_tramo h₂
    rw [if_pos hf]
    refine ⟨b₃, h₃, t₁.trans (t₂.trans t₃), fun n => ?_⟩
    have hid := (b.chip.env.idManuf_ne_zero).2 hf
    rw [escribeVariables, bind_ok e₁, if_pos hid, bind_ok e₂]
    dsimp only
    rw [bind_ok e₃]
  · obtain ⟨b₂, e₂, h₂, t₂⟩ := spiStop_tramo h₁
    rw [if_neg hf]
    refine ⟨b₂, by simpa using h₂, t₁.trans t₂, fun n => ?_⟩
    have hid : ¬ b.chip.env.idManuf ≠ 0 := fun h => hf ((b.chip.env.idManuf_ne_zero).1 h)
    rw [escribeVariables, bind_ok e₁, if_neg hid]
    dsimp only
    rw [bind_ok e₂]

end Wiznet
