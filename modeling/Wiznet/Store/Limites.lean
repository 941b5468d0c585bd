import Wiznet.Store.Corrida

/-!
# The limits of a sector and of the store

A write stays in the sector of its variable exactly when its record does, which only long histories of strings
break.  In a store without a place for a variable the calls say nothing: the return code is that of success, and a
write without a hint goes on in sector 512, which is sector 0.
-/

namespace Wiznet

open NorFlash (Mem Cmd replay)
open W25Q16

variable {b : Bus} {s : UInt16} {t : TipoVar} {n : Nombre} {x : Nat}

/-! ### Isolation of sectors -/

/-- A call with this `sectorParam` finds the variable, in sector `x`. -/
def ViveEn (m : Mem) (s : UInt16) (t : TipoVar) (n : Nombre) (x : Nat) : Prop :=
  localizaSector m s t n = some x ∧ Coincide (sec m x) t n n.suma

/-- The programs of a write to a variable that is there. -/
theorem ViveEn.ordenes {m : Mem} (hv : ViveEn m s t n x) (p : Nat → UInt8) :
    escribeVarOrdenes m s t n p = escribeOrdenes m (UInt16.ofNat x) t n p := by
  have hno : creaOrdenes m t n p (some x) = [] := if_neg hv.2.ne_ff
  unfold escribeVarOrdenes
  rw [hv.1]
  dsimp only
  rw [hno]
  rfl

/-- When the record ends in the sector, nothing outside it changes. -/
theorem escribeVar_aislada (hb : b.Listo) (hs : SectorOk s) (hv : ViveEn b.chip.mem s t n x)
    (hcabe : ∀ k, posFAT (sec b.chip.mem x) = some k → STARTDAT.toNat + (k + 2) * t.long ≤ 4096)
    {p : Nat → UInt8} {r : Int16} {b' : Bus} (e : escribeVar s t n p b = .ok r b') {y o : Nat} (hy : y < 512)
    (hyx : y ≠ x) (ho : o < 4096) : b'.chip.mem (4096 * y + o) = b.chip.mem (4096 * y + o) := by
  obtain ⟨h2, h511⟩ := localizaSector_mem hs hv.1
  have hx : (UInt16.ofNat x).toNat = x := toNat_sector (by omega)
  rcases Nat.lt_or_ge 255 n.chars.length with hn | hn
  · rw [escribeVar_largo hn] at e
    cases e
  · obtain ⟨-, _, he⟩ := (escribeVar_gives hs hn p).resultado hb e
    rw [he.mem, hv.ordenes]
    refine replay_of_sector ho fun c hc => ?_
    rw [addr_escribeOrdenes (by rw [hx]; exact hcabe) hc, hx]
    omega

/-- Every write leaves the rest of the flash alone, and its record ends in the sector, as long as it is not one of a
string with 79 positions used up and some still left. -/
theorem escribeVar_aislada_iff (h : Alcanza (fun _ op => SectorOk op.sectorParam) b) (hs : SectorOk s)
    (hv : ViveEn b.chip.mem s t n x) :
    ((∀ p r b', escribeVar s t n p b = .ok r b' → ∀ y < 512, y ≠ x → ∀ o < 4096,
        b'.chip.mem (4096 * y + o) = b.chip.mem (4096 * y + o)) ∧
      ∀ k, posFAT (sec b.chip.mem x) = some k → STARTDAT.toNat + (k + 2) * t.long ≤ 4096) ↔
    (t ≠ .var50 ∨ ∀ k, posFAT (sec b.chip.mem x) = some k → k + 1 ≤ 79) := by
  have hS51 : STARTDAT.toNat = 51 := rfl
  constructor
  · rintro ⟨-, hcabe⟩
    by_cases ht : t = .var50
    · subst ht
      right
      intro k hk
      have := hcabe k hk
      rw [show TipoVar.var50.long = 50 from rfl] at this
      omega
    · exact .inl ht
  · intro hc
    have hcabe : ∀ k, posFAT (sec b.chip.mem x) = some k → STARTDAT.toNat + (k + 2) * t.long ≤ 4096 := by
      intro k hk
      rcases hc with ht | hle
      · have := posFAT_lt hk
        have : (k + 2) * t.long ≤ (127 + 2) * 8 := Nat.mul_le_mul (by omega) (TipoVar.long_le_of_ne ht)
        omega
      · have := hle k hk
        have : (k + 2) * t.long ≤ (78 + 2) * 50 := Nat.mul_le_mul (by omega) t.long_le
        omega
    exact ⟨fun p r b' e y hy hyx o ho => escribeVar_aislada h.listo hs hv hcabe e hy hyx ho, hcabe⟩

theorem viveEn_of_directorio {m : Mem} {d : Directorio} (h : Representa m d) (hs : SectorOk s)
    (hm : clave t n ∈ d.fichas.map Ficha.clave) (hx : d.sitio t n = some x) : ViveEn m s t n x := by
  refine ⟨(h.localizaSector_eq hs).trans hx, ?_⟩
  obtain ⟨i, hi, he⟩ := Directorio.exists_of_mem hm
  have hcabe := d.cabe
  rw [Directorio.sitio_of_clave hi he] at hx
  cases hx
  refine (h.coincide_iff (by omega) (by omega)).2 ⟨by omega, ?_⟩
  simp only [Nat.add_sub_cancel_left]
  exact he

/-- A variable that a call finds is in the directory. -/
theorem ViveEn.ficha {m : Mem} {d : Directorio} (h : Representa m d) (hs : SectorOk s) (hv : ViveEn m s t n x) :
    ∃ f, d.ficha t n = some f ∧ d.sitio t n = some x := by
  have hsit := hv.1
  obtain ⟨h2, h511⟩ := localizaSector_mem hs hsit
  rw [h.localizaSector_eq hs] at hsit
  obtain ⟨hi, hcl⟩ := (h.coincide_iff h2 h511).1 hv.2
  exact ⟨_, Directorio.ficha_of_clave hi hcl, hsit⟩

/-- A string in sector 2 with `j` positions used up, and a number in sector 3. -/
private theorem cadena_y_numero (j : Nat) (hj : j ≤ 79) : ∃ b d f g, Alcanza EnRegla b ∧ Representa b.chip.mem d ∧
    d.ficha .var50 Nombre.a = some f ∧ f.usadas = j ∧ d.sitio .var50 Nombre.a = some 2 ∧
    d.ficha .varU8 Nombre.a = some g ∧ d.sitio .varU8 Nombre.a = some 3 := by
  induction j with
  | zero =>
    have hr₁ : EnRegla Bus.nuevo.chip.mem (.lee 0 .var50 Nombre.a fun _ => 0) := ⟨.inl rfl, by decide, trivial⟩
    have hd₀ : Representa Bus.nuevo.chip.mem Directorio.vacio := Representa.vacio fun _ _ _ _ _ => rfl
    obtain ⟨hg₁, hd₁, -⟩ := hd₀.paso hr₁
    obtain ⟨b₁, _, e₁, he₁⟩ := hg₁.ejecuta (alcanza_nuevo EnRegla).representa.1
    rw [← he₁.mem] at hd₁
    have hr₂ : EnRegla b₁.chip.mem (.lee 0 .varU8 Nombre.a fun _ => 0) := ⟨.inl rfl, by decide, trivial⟩
    obtain ⟨hg₂, hd₂, -⟩ := hd₁.paso hr₂
    obtain ⟨b₂, _, e₂, he₂⟩ := hg₂.ejecuta he₁.listo
    rw [← he₂.mem] at hd₂
    exact ⟨b₂, _, _, _, ((alcanza_nuevo _).paso hr₁ e₁).paso hr₂ e₂, hd₂, rfl, rfl, rfl, rfl, rfl⟩
  | succ j ih =>
    obtain ⟨b, d, f, g, ha, hd, hf, hj', hx, hg, hy⟩ := ih (by omega)
    have hm : clave .var50 Nombre.a ∈ d.fichas.map Ficha.clave := Directorio.mem_of_ficha hf
    have hm' : clave .varU8 Nombre.a ∈ d.fichas.map Ficha.clave := Directorio.mem_of_ficha hg
    have ht : f.tipo = .var50 := Directorio.tipo_of_ficha hf
    have hesc := f.escrita
    have hr : EnRegla b.chip.mem (.escribe 2 .var50 Nombre.a fun _ => 0) := by
      refine ⟨.inr ⟨by decide, by decide⟩, by decide, fun x k hloc hk => ?_⟩
      rw [hd.localizaSector_eq (.inr ⟨by decide, by decide⟩), hx] at hloc
      cases hloc
      obtain ⟨-, rfl⟩ := (hd.en_sitio hf hx).posFAT_some (by decide) hk
      rw [show TipoVar.var50.long = 50 from rfl, show STARTDAT.toNat = 51 from rfl]
      omega
    have hs : f.Sigue := by
      refine ⟨by omega, ?_⟩
      rw [ht, show TipoVar.var50.long = 50 from rfl]
      unfold Ficha.usadas at hj'
      omega
    obtain ⟨b', e, ha'⟩ := ha.avanza hr
    obtain ⟨hgv, hd', -⟩ := hd.paso hr
    obtain ⟨-, _, he⟩ := hgv.resultado ha.representa.1 e
    rw [← he.mem] at hd'
    have hd'' : d.trasOp (.escribe 2 .var50 Nombre.a fun _ => 0) = d.anota .var50 Nombre.a fun _ => 0 :=
      Directorio.escribe_of_mem hm
    rw [hd''] at hd'
    refine ⟨b', _, f.escribe fun _ => 0, g, ha', hd', ?_, ?_, Directorio.sitio_anota hm hx, ?_,
      Directorio.sitio_anota hm' hy⟩
    · rw [Directorio.ficha_anota, hf]
      rfl
    · unfold Ficha.usadas at hj' ⊢
      rw [(Ficha.escribe_of_sigue hs _).2.2, List.length_append, List.length_singleton]
      omega
    · rw [Directorio.ficha_anota, hg]
      rfl

/-- The write after that clears the type of the variable in the next sector. -/
theorem escribeVar_no_aislada : ∃ b, Alcanza (fun _ op => SectorOk op.sectorParam) b ∧
    ViveEn b.chip.mem 2 .var50 Nombre.a 2 ∧ sec b.chip.mem 3 0 = TipoVar.varU8.codigo ∧
    ∃ r b', escribeVar 2 .var50 Nombre.a (fun _ => 0) b = .ok r b' ∧ sec b'.chip.mem 3 0 = 0 := by
  obtain ⟨b, d, f, g, ha, hd, hf, hj, hx, hg, hy⟩ := cadena_y_numero 79 (Nat.le_refl _)
  have hs : SectorOk 2 := .inr ⟨by decide, by decide⟩
  have hv : ViveEn b.chip.mem 2 .var50 Nombre.a 2 :=
    viveEn_of_directorio hd hs (Directorio.mem_of_ficha hf) hx
  obtain ⟨b', _, e, he⟩ := (escribeVar_gives (t := .var50) (n := Nombre.a) hs (by decide) fun _ => 0).ejecuta
    ha.representa.1
  have htipo : sec b.chip.mem 3 0 = TipoVar.varU8.codigo := by
    rw [Imagen.tipo_eq (hd.en_sitio hg hy) (by decide), Directorio.tipo_of_ficha hg]
  refine ⟨b, ha.mono fun _ _ h => h.1, hv, htipo, 0, b', e, ?_⟩
  have hpos : posFAT (sec b.chip.mem 2) = some 79 := by
    rw [(hd.en_sitio hf hx).posFAT_eq (by decide), if_pos (by omega), hj]
  rw [sec_eq (by decide) (by decide), he.mem, hv.ordenes]
  unfold escribeOrdenes
  rw [show (UInt16.ofNat 2).toNat = 2 from rfl, hpos]
  dsimp only
  rw [NorFlash.replay_cons, replay_bytesOrdenes _ (by decide), if_pos (by decide)]
  exact UInt8.and_zero

theorem escribeVar_aislada_iff_cadena : ∃ b, sec b.chip.mem 2 0 = TipoVar.var50.codigo ∧
    ∀ p r b', escribeVar 2 .var50 Nombre.a p b = .ok r b' → ∀ y < 512, y ≠ 2 → ∀ o < 4096,
      b'.chip.mem (4096 * y + o) = b.chip.mem (4096 * y + o) := by
  obtain ⟨b, d, f, g, ha, hd, hf, hj, hx, -, -⟩ := cadena_y_numero 0 (Nat.zero_le _)
  have hs : SectorOk 2 := .inr ⟨by decide, by decide⟩
  have hv : ViveEn b.chip.mem 2 .var50 Nombre.a 2 :=
    viveEn_of_directorio hd hs (Directorio.mem_of_ficha hf) hx
  have hiff := escribeVar_aislada_iff (ha.mono fun _ _ h => h.1) hs hv
  refine ⟨b, hv.2.tipo, (hiff.2 (.inr fun k hk => ?_)).1⟩
  obtain ⟨-, rfl⟩ := (hd.en_sitio hf hx).posFAT_some (by decide) hk
  omega

/-! ### A full store -/

/-- Every sector of the store is occupied, and none by this variable. -/
def Lleno (m : Mem) (t : TipoVar) (n : Nombre) : Prop :=
  ∀ x ∈ sectoresVars, sec m x 0 ≠ 0xFF ∧ ¬ Coincide (sec m x) t n n.suma

theorem Lleno.localizaSector {m : Mem} (h : Lleno m t n) (hs : SectorOk s) : localizaSector m s t n = none := by
  have hb : buscaSector m t n = none := by
    unfold buscaSector
    rw [List.find?_range'_eq_none]
    intro x h2 hx
    obtain ⟨h0, hc⟩ := h x ⟨h2, by omega⟩
    simp [paraEn, h0, hc]
  refine localizaSector_none.2 ⟨fun hc => ?_, hb⟩
  exact (h _ (hs.resolve_left hc.1)).2 hc.2

/-- The call returns a failure code, the flash is as it was, and no command has gone beyond sector 511. -/
def FallaLimpia {α : Type} (x : SpiM α) (rc : α → Int16) (b : Bus) : Prop :=
  ∃ r b' cs, x b = .ok r b' ∧ rc r ≠ 0 ∧ b'.chip.mem = b.chip.mem ∧ b'.chip.log = b.chip.log ++ cs ∧
    ∀ c ∈ cs, c.addr / 4096 ≤ 511

/-- Reads, and writes that are given a sector, do leave a full store alone. -/
theorem lleno_intacto (hb : b.Listo) (hl : Lleno b.chip.mem t n) (hs : SectorOk s) (hn : n.chars.length ≤ 255)
    (p : Nat → UInt8) :
    (∃ b' cs, leeVariable s t n p b = .ok ⟨0, 512, []⟩ b' ∧ Efecto b b' [] sectoresVars cs) ∧
      (s ≠ 0 → ∃ b' cs, escribeVar s t n p b = .ok 0 b' ∧ Efecto b b' [] sectoresVars cs) :=
  ⟨(leeVariable_none hs hn p (hl.localizaSector hs)).ejecuta hb,
    fun h0 => (escribeVar_none hs h0 hn p (hl.localizaSector hs)).ejecuta hb⟩

/-- No call reports the failure: the code returned is that of success. -/
theorem lleno_nunca_avisa (hb : b.Listo) (hl : Lleno b.chip.mem t n) (hs : SectorOk s) (p : Nat → UInt8) :
    ¬ FallaLimpia (leeVariable s t n p) Lectura.rc b ∧ ¬ FallaLimpia (escribeVar s t n p) id b := by
  rcases Nat.lt_or_ge 255 n.chars.length with hn | hn
  · -- the call does not return
    constructor
    · rintro ⟨r, b', -, e, -⟩
      rw [leeVariable_largo hn] at e
      cases e
    · rintro ⟨r, b', -, e, -⟩
      rw [escribeVar_largo hn] at e
      cases e
  · constructor
    · rintro ⟨r, b', -, e, hrc, -⟩
      obtain ⟨hr, -⟩ := (leeVariable_none hs hn p (hl.localizaSector hs)).resultado hb e
      exact hrc (by rw [hr])
    · rintro ⟨r, b', -, e, hrc, -⟩
      obtain ⟨hr, -⟩ := (escribeVar_gives hs hn p).resultado hb e
      exact hrc hr

/-- A bus whose flash has a variable of another type in every sector. -/
def busLleno : Bus := { Bus.nuevo with chip := { Bus.nuevo.chip with mem := fun a => if a % 4096 = 0 then 5 else 0 } }

private theorem busLleno_listo : busLleno.Listo := ⟨rfl, rfl, rfl, rfl, rfl⟩

private theorem busLleno_lleno : Lleno busLleno.chip.mem .varU16 Nombre.a := by
  rintro x ⟨h2, h511⟩
  have h0 : sec busLleno.chip.mem x 0 = 5 := by
    rw [sec_eq (by omega) (by decide)]
    exact if_pos (by omega)
  rw [h0]
  exact ⟨by decide, fun hc => absurd (hc.tipo.symm.trans h0) (by decide)⟩

/-- The write without a hint erases sector 0 and returns the code of success. -/
theorem lleno_borra_ajustes : busLleno.Listo ∧ Lleno busLleno.chip.mem .varU16 Nombre.a ∧
    ∃ b' cs, escribeVar 0 .varU16 Nombre.a (fun _ => 0) busLleno = .ok 0 b' ∧
      b'.chip.log = busLleno.chip.log ++ cs ∧ (∃ c ∈ cs, 511 < c.addr / 4096) ∧
      busLleno.chip.mem 100 = 0 ∧ b'.chip.mem 100 = 0xFF := by
  obtain ⟨b', cs, e, he⟩ := (escribeVar_gives (t := .varU16) (n := Nombre.a) (.inl rfl) (by decide)
    fun _ => 0).ejecuta busLleno_listo
  have hpos : posFAT (sec busLleno.chip.mem 512) = none := by
    unfold posFAT
    rw [List.find?_range'_eq_none]
    decide
  have hord : escribeVarOrdenes busLleno.chip.mem 0 .varU16 Nombre.a (fun _ => 0) =
      .erase (4096 * 512) :: initOrdenes 512 .varU16 Nombre.a fun _ => 0 := by
    unfold escribeVarOrdenes
    rw [busLleno_lleno.localizaSector (.inl rfl)]
    unfold escribeOrdenes
    rw [show (512 : UInt16).toNat = 512 from rfl, hpos]
    rfl
  rw [hord] at he
  refine ⟨busLleno_listo, busLleno_lleno, b', cs, e, he.log, ⟨.erase (4096 * 512), ?_, by decide⟩, rfl, ?_⟩
  · have : Cmd.erase (4096 * 512) ∈ cs.filter Cmd.modifies := by
      rw [he.ordenes]
      exact List.mem_cons_self ..
    exact (List.mem_filter.1 this).1
  · rw [he.mem]
    decide

theorem lleno_nunca_avisa_busLleno :
    ¬ FallaLimpia (leeVariable 0 .varU16 Nombre.a fun _ => 0) Lectura.rc busLleno ∧
      ¬ FallaLimpia (escribeVar 0 .varU16 Nombre.a fun _ => 0) id busLleno :=
  lleno_nunca_avisa busLleno_listo busLleno_lleno (.inl rfl) _

end Wiznet
