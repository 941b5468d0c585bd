import Wiznet.Store.Corrida

/-!
# What a header says of its variable

A header keeps the type, the first `LONGNAME - 1` characters of the name and the 16-bit sum of all of them.  Past those
characters two names are told apart by their sums only, and a sum does not look at the order.
-/

namespace Wiznet

open NorFlash (Mem replay)
open W25Q16

/-- Sum of the codes of some characters. -/
def peso : List UInt8 → Nat
  | [] => 0
  | c :: l => c.toNat + peso l

theorem peso_append (l l' : List UInt8) : peso (l ++ l') = peso l + peso l' := by
  induction l with
  | nil => simp [peso]
  | cons c l ih => simp [peso, ih, Nat.add_assoc]

theorem peso_le (l : List UInt8) : peso l ≤ 255 * l.length := by
  induction l with
  | nil => simp [peso]
  | cons c l ih =>
    have := c.toNat_lt
    simp only [peso, List.length_cons]
    omega

theorem foldl_peso (l : List UInt8) (s : UInt16) :
    (l.foldl (fun s c => s + c.toUInt16) s).toNat = (s.toNat + peso l) % 65536 := by
  induction l generalizing s with
  | nil =>
    have := s.toNat_lt
    simp only [List.foldl_nil, peso]
    omega
  | cons c l ih =>
    rw [List.foldl_cons, ih, UInt16.toNat_add, UInt8.toNat_toUInt16]
    simp only [peso]
    omega

namespace Nombre

/-- The sum of a name of at most 255 characters does not wrap. -/
theorem suma_toNat {n : Nombre} (hn : n.chars.length ≤ 255) : n.suma.toNat = peso n.chars := by
  have hle := peso_le n.chars
  have h0 : (0 : UInt16).toNat = 0 := rfl
  unfold suma
  rw [foldl_peso, h0, Nat.zero_add, Nat.mod_eq_of_lt (by omega)]

/-- The names differ from the character on that the field has no room for, and there in nothing that the sum sees. -/
def Confundibles (n n' : Nombre) : Prop :=
  n.chars.take (LONGNAME - 1) = n'.chars.take (LONGNAME - 1) ∧
    n.chars.drop (LONGNAME - 1) ≠ n'.chars.drop (LONGNAME - 1) ∧
    peso (n.chars.drop (LONGNAME - 1)) = peso (n'.chars.drop (LONGNAME - 1))

instance (n n' : Nombre) : Decidable (Confundibles n n') := inferInstanceAs (Decidable (_ ∧ _ ∧ _))

theorem grabado_eq_iff {n n' : Nombre} : n.grabado = n'.grabado ↔
    n.suma = n'.suma ∧ n.chars.take (LONGNAME - 1) = n'.chars.take (LONGNAME - 1) :=
  Prod.ext_iff.trans and_comm

theorem confundibles_iff {n n' : Nombre} (hn : n.chars.length ≤ 255) (hn' : n'.chars.length ≤ 255) :
    Confundibles n n' ↔ n.grabado = n'.grabado ∧ n ≠ n' := by
  have hsum : ∀ {n : Nombre}, n.chars.length ≤ 255 →
      n.suma.toNat = peso (n.chars.take (LONGNAME - 1)) + peso (n.chars.drop (LONGNAME - 1)) := by
    intro n hn
    rw [suma_toNat hn, ← peso_append, List.take_append_drop]
  have hs := hsum hn
  have hs' := hsum hn'
  constructor
  · rintro ⟨htake, hdrop, hpeso⟩
    rw [htake, hpeso, ← hs'] at hs
    refine ⟨Prod.ext htake (UInt16.toNat_inj.1 hs), ?_⟩
    rintro rfl
    exact hdrop rfl
  · rintro ⟨hg, hne⟩
    have htake : n.chars.take (LONGNAME - 1) = n'.chars.take (LONGNAME - 1) := congrArg Prod.fst hg
    have hsuma : n.suma = n'.suma := congrArg Prod.snd hg
    refine ⟨htake, fun hdrop => hne (eq_of_chars ?_), ?_⟩
    · rw [← List.take_append_drop (LONGNAME - 1) n.chars, htake, hdrop, List.take_append_drop]
    · rw [← hsuma, hs, htake] at hs'
      exact Nat.add_left_cancel hs'

end Nombre

/-- Names that can be confused are longer than the field. -/
theorem Nombre.Confundibles.largo {n n' : Nombre} (h : Confundibles n n') : LONGNAME - 1 < n.chars.length := by
  obtain ⟨-, hdrop, hpeso⟩ := h
  by_contra hle
  have hnil : n.chars.drop (LONGNAME - 1) = [] := List.drop_eq_nil_of_le (Nat.le_of_not_lt hle)
  rw [hnil] at hdrop hpeso
  cases hd : n'.chars.drop (LONGNAME - 1) with
  | nil => exact hdrop hd.symm
  | cons c l =>
    have hc : c ≠ 0 := by
      rintro rfl
      exact n'.noNul (List.mem_of_mem_drop (hd ▸ List.mem_cons_self ..))
    have hpos : c.toNat ≠ 0 := fun h0 => hc (UInt8.toNat_inj.1 h0)
    rw [hd] at hpeso
    simp only [peso] at hpeso
    omega

/-- A variable is created in a sector, and the sector is asked whether it holds a variable. -/
def creaYPregunta (s : UInt16) (t₁ : TipoVar) (n₁ : Nombre) (p : Nat → UInt8) (t₂ : TipoVar) (n₂ : Nombre) :
    SpiM Bool := do
  initVarFlash s t₁ n₁ p
  let chkSumStr ← checksumDe n₂
  coincidenciaDatosVar s t₂ n₂ chkSumStr

section

variable {b : Bus} {s : UInt16} {t₁ t₂ : TipoVar} {n₁ n₂ : Nombre}

/-- The answer is whether the header kept is the header asked for. -/
theorem creaYPregunta_gives {m : Mem} (hs : s.toNat < 512) (hff : ∀ o < 4096, m (4096 * s.toNat + o) = 0xFF)
    (t₁ t₂ : TipoVar) (h₁ : n₁.chars.length ≤ 255) (h₂ : n₂.chars.length ≤ 255) (p : Nat → UInt8) :
    Gives (creaYPregunta s t₁ n₁ p t₂ n₂) m (decide (t₂ = t₁ ∧ n₂.grabado = n₁.grabado)) (initOrdenes s t₁ n₁ p)
      {s.toNat} := by
  have hi := (initOrdenes_imagen hs (Imagen.blanco hff) t₁ n₁ p).1
  have hc := coincidenciaDatosVar_gives (m := replay w25q16 (initOrdenes s t₁ n₁ p) m) (s := s) (by omega) t₂ n₂ n₂.suma
  have hiff : Coincide _ t₂ n₂ n₂.suma ↔ _ := hi.coincide_iff hs
  rw [← Nombre.grabado_eq_iff] at hiff
  rw [decide_eq_decide.2 hiff] at hc
  rw [← List.append_nil (initOrdenes s t₁ n₁ p)]
  unfold creaYPregunta
  rw [checksumDe_eq h₂]
  exact (initVarFlash_gives (by omega) t₁ h₁ p).bind hc

/-- A header tells its variable from another one exactly where the types differ or the names cannot be confused. -/
theorem creaYPregunta_identifica_iff (hb : b.Listo) (hs : s.toNat < 512)
    (hff : ∀ o < 4096, b.chip.mem (4096 * s.toNat + o) = 0xFF) (h₁ : n₁.chars.length < 256)
    (h₂ : n₂.chars.length < 256) (p : Nat → UInt8) :
    (∃ r b', creaYPregunta s t₁ n₁ p t₂ n₂ b = .ok r b' ∧ (r = true ↔ t₁ = t₂ ∧ n₁ = n₂)) ↔
      t₁ ≠ t₂ ∨ ¬ Nombre.Confundibles n₁ n₂ := by
  have h₁' : n₁.chars.length ≤ 255 := Nat.le_of_lt_succ h₁
  have h₂' : n₂.chars.length ≤ 255 := Nat.le_of_lt_succ h₂
  obtain ⟨b', cs, e, -⟩ := (creaYPregunta_gives hs hff t₁ t₂ h₁' h₂' p).ejecuta hb
  have hr : (∃ r b', creaYPregunta s t₁ n₁ p t₂ n₂ b = .ok r b' ∧ (r = true ↔ t₁ = t₂ ∧ n₁ = n₂)) ↔
      (t₁ = t₂ ∧ n₁.grabado = n₂.grabado ↔ t₁ = t₂ ∧ n₁ = n₂) := by
    constructor
    · rintro ⟨r, b'', e', h⟩
      rw [e'] at e
      cases e
      rw [← h, decide_eq_true_iff, eq_comm (a := t₁), eq_comm (a := n₁.grabado)]
    · intro h
      refine ⟨_, b', e, ?_⟩
      rw [← h, decide_eq_true_iff, eq_comm (a := t₁), eq_comm (a := n₁.grabado)]
  rw [hr, Nombre.confundibles_iff h₁' h₂']
  constructor
  · intro h
    by_cases ht : t₁ = t₂
    · exact .inr fun ⟨hg, hne⟩ => hne (h.1 ⟨ht, hg⟩).2
    · exact .inl ht
  · rintro (ht | hc)
    · exact iff_of_false (fun h => ht h.1) fun h => ht h.1
    · refine and_congr_right fun _ => ⟨fun hg => ?_, fun hn => congrArg _ hn⟩
      by_contra hne
      exact hc ⟨hg, hne⟩

theorem creaYPregunta_identifica_nuevo :
    ∃ r b', creaYPregunta 2 .varU8 Nombre.a (fun _ => 7) .varU16 Nombre.a Bus.nuevo = .ok r b' ∧
      (r = true ↔ TipoVar.varU8 = .varU16 ∧ Nombre.a = Nombre.a) :=
  (creaYPregunta_identifica_iff (b := Bus.nuevo) ⟨rfl, rfl, rfl, rfl, rfl⟩ (by decide) (fun _ _ => rfl) (by decide)
    (by decide) _).2 (.inl (by decide))

end

/-- Two names of 33 characters that end in the same two, in one order and in the other. -/
theorem creaYPregunta_confunde :
    let n₁ : Nombre := ⟨List.replicate 31 0x61 ++ [0x62, 0x63], by decide⟩
    let n₂ : Nombre := ⟨List.replicate 31 0x61 ++ [0x63, 0x62], by decide⟩
    n₁ ≠ n₂ ∧ ∃ b', creaYPregunta 2 .varU8 n₁ (fun _ => 7) .varU8 n₂ Bus.nuevo = .ok true b' := by
  intro n₁ n₂
  refine ⟨by decide, ?_⟩
  have hg : Gives (creaYPregunta 2 .varU8 n₁ (fun _ => 7) .varU8 n₂) Bus.nuevo.chip.mem _ _ _ :=
    creaYPregunta_gives (by decide) (fun _ _ => rfl) _ _ (by decide) (by decide) _
  rw [decide_eq_true (show TipoVar.varU8 = .varU8 ∧ n₂.grabado = n₁.grabado by decide)] at hg
  obtain ⟨b', -, e, -⟩ := hg.ejecuta ⟨rfl, rfl, rfl, rfl, rfl⟩
  exact ⟨b', e⟩

end Wiznet
