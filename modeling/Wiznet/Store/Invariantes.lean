import Wiznet.Store.Corrida

/-!
# What holds in every run of the store

On the types with records of at most 8 bytes: the occupied sectors are an initial segment without duplicates, every
program reads back as written, and the sector a caller passes as a hint changes nothing.
-/

namespace Wiznet

open NorFlash (Mem Cmd replay ExactAll)
open W25Q16

/-- The variable is in the store, or there is a blank sector for it. -/
def HaySitio (m : Mem) (t : TipoVar) (n : Nombre) : Prop :=
  ∃ x ∈ sectoresVars, sec m x 0 = 0xFF ∨ Coincide (sec m x) t n n.suma

theorem haySitio_iff_buscaSector {m : Mem} {t : TipoVar} {n : Nombre} :
    HaySitio m t n ↔ buscaSector m t n ≠ none := by
  unfold buscaSector
  rw [Ne, List.find?_range'_eq_none]
  constructor
  · rintro ⟨x, ⟨h2, h511⟩, hx⟩ h
    have := h x h2 (by omega)
    simp only [paraEn, Bool.not_eq_true', decide_eq_false_iff_not] at this
    exact this hx
  · intro h
    by_contra hno
    refine h fun x h2 hx => ?_
    simp only [paraEn, Bool.not_eq_true', decide_eq_false_iff_not]
    exact fun hx' => hno ⟨x, ⟨h2, by omega⟩, hx'⟩

theorem Representa.haySitio_iff {m : Mem} {d : Directorio} (h : Representa m d) {t : TipoVar} {n : Nombre} :
    HaySitio m t n ↔ d.sitio t n ≠ none := by
  rw [haySitio_iff_buscaSector, h.buscaSector_eq]

variable {b : Bus}

/-! ### The directory -/

/-- Headers of two sectors never match the same variable, whatever the name and its checksum. -/
theorem Representa.coincide_unico {m : Mem} {d : Directorio} (h : Representa m d) {t : TipoVar} {n : Nombre}
    {c : UInt16} {x y : Nat} (hx : x ∈ sectoresVars) (hy : y ∈ sectoresVars) (hcx : Coincide (sec m x) t n c)
    (hcy : Coincide (sec m y) t n c) : x = y := by
  obtain ⟨hx2, hx511⟩ := hx
  obtain ⟨hy2, hy511⟩ := hy
  have hlt : ∀ z, 2 ≤ z → z ≤ 511 → Coincide (sec m z) t n c → ∃ hi : z - 2 < d.fichas.length,
      d.fichas[z - 2].clave = (t, n.chars.take (LONGNAME - 1), c) := by
    intro z h2 h511 hc
    have hi : z - 2 < d.fichas.length := by
      have := mt (h.sec_cero h2 h511).2 hc.ne_ff
      omega
    have hf := h.fichas (z - 2) hi
    rw [show 2 + (z - 2) = z by omega] at hf
    obtain ⟨h1, h2, h3⟩ := (Imagen.coincide_iff hf (by omega)).1 hc
    exact ⟨hi, by rw [h1, h2, h3]; rfl⟩
  obtain ⟨hi, hcl⟩ := hlt x hx2 hx511 hcx
  obtain ⟨hj, hcl'⟩ := hlt y hy2 hy511 hcy
  have := d.indice_unico hi hj (hcl.trans hcl'.symm)
  omega

theorem directorio_invariante (h : Alcanza Corta b) :
    ∃ m, 2 ≤ m ∧ m ≤ 512 ∧
      (∀ x ∈ sectoresVars, b.chip.mem (4096 * x) ≠ 0xFF ↔ x < m) ∧
      (∀ x, m ≤ x → x ≤ 511 → ∀ o < 4096, b.chip.mem (4096 * x + o) = 0xFF) ∧
      ∀ (t : TipoVar) (n : Nombre) (c x y : UInt16), x.toNat ∈ sectoresVars → y.toNat ∈ sectoresVars →
        ∀ b₁ b₂, coincidenciaDatosVar x t n c b = .ok true b₁ → coincidenciaDatosVar y t n c b = .ok true b₂ →
          x = y := by
  obtain ⟨hb, d, hd⟩ := (h.mono fun _ _ => Corta.enRegla).representa
  have hcabe := d.cabe
  refine ⟨2 + d.fichas.length, by omega, by omega, ?_, ?_, ?_⟩
  · rintro x ⟨h2, h511⟩
    have h0 := hd.sec_cero h2 h511
    rw [sec_eq (by omega) (by decide), Nat.add_zero] at h0
    rw [Ne, h0]
    omega
  · exact fun x h2 h511 o ho => (hd.blancos x h2 h511).blanco_apply ho
  · intro t n c x y hx hy b₁ b₂ ex ey
    have hlt : ∀ z : UInt16, z.toNat ∈ sectoresVars → ∀ b', coincidenciaDatosVar z t n c b = .ok true b' →
        Coincide (sec b.chip.mem z.toNat) t n c := by
      intro z hz b' e
      have h511 : z.toNat ≤ 511 := hz.2
      obtain ⟨hr, -⟩ := (coincidenciaDatosVar_gives (by omega) t n c).resultado hb e
      exact of_decide_eq_true hr.symm
    exact UInt16.toNat_inj.1 (hd.coincide_unico hx hy (hlt x hx b₁ ex) (hlt y hy b₂ ey))

/-- Two variables are created, and one of them is written until its FAT is used up. -/
def usada : List Op :=
  .escribe 0 .varU8 Nombre.a (fun _ => 0) :: .lee 0 .varU16 Nombre.b (fun _ => 5) ::
    (List.range 127).map fun i => .escribe 2 .varU8 Nombre.a fun _ => UInt8.ofNat i

/-- One more write, which erases the sector and creates the variable again. -/
def recrea : Op := .escribe 2 .varU8 Nombre.a fun _ => 7

private theorem sectorOk_dos : SectorOk 2 := .inr ⟨by decide, by decide⟩

private theorem corta_usada (op : Op) (hop : op ∈ usada) (m : Mem) : Corta m op := by
  rcases List.mem_cons.1 hop with rfl | hop
  · exact ⟨.inl rfl, by decide, by decide⟩
  rcases List.mem_cons.1 hop with rfl | hop
  · exact ⟨.inl rfl, by decide, by decide⟩
  · obtain ⟨i, -, rfl⟩ := List.mem_map.1 hop
    exact ⟨sectorOk_dos, show Nombre.a.chars.length ≤ 31 by decide, show TipoVar.varU8 ≠ .var50 by decide⟩

/-- The two variables are in sectors 2 and 3; the first has no free position before the last call and a whole FAT after
it. -/
theorem exists_recreada : ∃ b₀ b d, Op.llamaTodas usada Bus.nuevo = .ok () b₀ ∧ posFAT (sec b₀.chip.mem 2) = none ∧
    recrea.llama b₀ = .ok () b ∧ posFAT (sec b.chip.mem 2) = some 0 ∧ Alcanza Corta b ∧ Representa b.chip.mem d ∧
    d.sitio .varU8 Nombre.a = some 2 ∧ d.sitio .varU16 Nombre.b = some 3 := by
  have hd : Representa Bus.nuevo.chip.mem Directorio.vacio := Representa.vacio fun _ _ _ _ _ => rfl
  obtain ⟨b₀, e₀, h₀, hd₀⟩ := (alcanza_nuevo Corta).corre usada hd corta_usada
  have hrecrea : ∀ m, Corta m recrea := fun _ => ⟨sectorOk_dos, by decide, by decide⟩
  obtain ⟨b, e, h, hd₁⟩ := h₀.corre [recrea] hd₀ fun op hop m => by
    rw [List.mem_singleton.1 hop]
    exact hrecrea m
  have hf₀ := (hd₀.fichas 0 (by decide +kernel)).posFAT_eq (by decide)
  have hf := (hd₁.fichas 0 (by decide +kernel)).posFAT_eq (by decide)
  refine ⟨b₀, b, _, e₀, hf₀.trans (by decide +kernel), ?_, hf.trans (by decide +kernel), h, hd₁, by decide +kernel,
    by decide +kernel⟩
  obtain ⟨b', e', -⟩ := (h₀.mono fun _ _ => Corta.enRegla).avanza (hrecrea _).enRegla
  have hlast : Op.llamaTodas [recrea] b₀ = .ok () b' := Stateful.bind_ok e'
  rw [hlast] at e
  cases e
  exact e'

/-- In the store with the two variables, one of them created twice. -/
theorem directorio_invariante_recreada :
    ∃ b₀ b, Op.llamaTodas usada Bus.nuevo = .ok () b₀ ∧ posFAT (sec b₀.chip.mem 2) = none ∧
      recrea.llama b₀ = .ok () b ∧ posFAT (sec b.chip.mem 2) = some 0 ∧
      ∃ m, 2 ≤ m ∧ m ≤ 512 ∧
        (∀ x ∈ sectoresVars, b.chip.mem (4096 * x) ≠ 0xFF ↔ x < m) ∧
        (∀ x, m ≤ x → x ≤ 511 → ∀ o < 4096, b.chip.mem (4096 * x + o) = 0xFF) ∧
        ∀ (t : TipoVar) (n : Nombre) (c x y : UInt16), x.toNat ∈ sectoresVars → y.toNat ∈ sectoresVars →
          ∀ b₁ b₂, coincidenciaDatosVar x t n c b = .ok true b₁ → coincidenciaDatosVar y t n c b = .ok true b₂ →
            x = y := by
  obtain ⟨b₀, b, -, e₀, h₀, e, h, hb, -⟩ := exists_recreada
  exact ⟨b₀, b, e₀, h₀, e, h, directorio_invariante hb⟩

/-! ### Programs -/

/-- The FAT of a sector is a row of zeros followed by ones, and no record is written beyond it. -/
def FatEnOrden (f : Nat → UInt8) : Prop :=
  ∃ t : TipoVar, f 0 = t.codigo ∧ ∃ k ≤ 128,
    (∀ p < 128, Thermometer.bitAt (fun i => f (STARTFAT.toNat + i)) p = decide (k ≤ p)) ∧
    ∀ o, STARTDAT.toNat + (k + 1) * t.long ≤ o → o < 4096 → f o = 0xFF

theorem Ficha.En.fatEnOrden {f : Ficha} {m : Mem} {x : Nat} (h : f.En m x) (hx : x < 512) :
    FatEnOrden (sec m x) := by
  have hpos := f.posiciones
  have hesc := f.escrita
  refine ⟨f.tipo, Imagen.tipo_eq h hx, f.usadas, by unfold usadas; omega, fun p hp => ?_, fun o ho h4096 => ?_⟩
  · show (sec m x (35 + p / 8)).toNat.testBit (p % 8) = _
    rw [sec_eq hx (by omega), Imagen.fat h _ (by omega), ← Thermometer.bitAt_byte]
    rfl
  · rw [show STARTDAT.toNat = 51 from rfl, show f.usadas + 1 = f.historial.length by unfold usadas; omega,
      ← f.length_flatten] at ho
    rw [show o = 51 + (o - 51) by omega, Imagen.sec_datos h hx (by omega), List.getD_eq_default _ _ (by omega)]

theorem disciplina_nor (h : Alcanza Corta b) :
    (∀ op b', Corta b.chip.mem op → HaySitio b.chip.mem op.tipoVar op.nombVar → op.llama b = .ok () b' →
      ∃ cs, b'.chip.log = b.chip.log ++ cs ∧ b'.chip.mem = replay w25q16 cs b.chip.mem ∧
        ∀ pre a v post, cs = pre ++ .program a v :: post → ∀ i, ∀ _ : i < v.length,
          replay w25q16 pre b.chip.mem (w25q16.byteAddr a i) &&& v[i] = v[i] ∧
          replay w25q16 (pre ++ [.program a v]) b.chip.mem (w25q16.byteAddr a i) = v[i]) ∧
    ∀ x ∈ sectoresVars, sec b.chip.mem x 0 ≠ 0xFF → FatEnOrden (sec b.chip.mem x) := by
  obtain ⟨hb, d, hd⟩ := (h.mono fun _ _ => Corta.enRegla).representa
  constructor
  · intro op b' hop hsitio e
    obtain ⟨hg, -, hex⟩ := hd.paso hop.enRegla
    obtain ⟨-, cs, he⟩ := hg.resultado hb e
    have hall : ExactAll w25q16 cs b.chip.mem := by
      rw [← NorFlash.exactAll_filter_modifies, he.ordenes]
      exact hex ((hd.haySitio_iff).1 hsitio)
    refine ⟨cs, he.log, ?_, ?_⟩
    · rw [he.mem, ← he.ordenes, NorFlash.replay_filter_modifies]
    · rintro pre a v post rfl i hi
      exact hall.program hi
  · rintro x ⟨h2, h511⟩ hx
    have hi : x - 2 < d.fichas.length := by
      have := mt (hd.sec_cero h2 h511).2 hx
      omega
    have hf := hd.fichas (x - 2) hi
    rw [show 2 + (x - 2) = x by omega] at hf
    exact hf.fatEnOrden (by omega)

theorem disciplina_nor_nuevo :
    ∃ b' cs, (Op.escribe 0 .varU8 Nombre.a fun _ => 7).llama Bus.nuevo = .ok () b' ∧ b'.chip.log = cs ∧
      ∀ pre a v post, cs = pre ++ .program a v :: post → ∀ i, ∀ _ : i < v.length,
        replay w25q16 (pre ++ [.program a v]) Bus.nuevo.chip.mem (w25q16.byteAddr a i) = v[i] := by
  have hop : Corta Bus.nuevo.chip.mem (.escribe 0 .varU8 Nombre.a fun _ => 7) :=
    ⟨.inl rfl, by decide, by decide⟩
  obtain ⟨b', e, -⟩ := (alcanza_nuevo EnRegla).avanza hop.enRegla
  obtain ⟨cs, hlog, -, hcs⟩ := (disciplina_nor (alcanza_nuevo Corta)).1 _ b' hop
    ⟨2, ⟨by decide, by decide⟩, .inl rfl⟩ e
  exact ⟨b', cs, e, hlog, fun pre a v post h i hi => (hcs pre a v post h i hi).2⟩

/-! ### Hints -/

theorem sugerencia_indiferente (h : Alcanza Corta b) {t : TipoVar} {n : Nombre} (hn : n.chars.length ≤ 31)
    (hsitio : HaySitio b.chip.mem t n) {s : UInt16} (hs : s.toNat ∈ sectoresVars) :
    (∀ pValorDefault, ∃ r b₁ b₂, leeVariable s t n pValorDefault b = .ok r b₁ ∧
      leeVariable 0 t n pValorDefault b = .ok r b₂ ∧ b₁.chip.mem = b₂.chip.mem) ∧
    ∀ pValor, ∃ r b₁ b₂, escribeVar s t n pValor b = .ok r b₁ ∧ escribeVar 0 t n pValor b = .ok r b₂ ∧
      b₁.chip.mem = b₂.chip.mem := by
  obtain ⟨hb, d, hd⟩ := (h.mono fun _ _ => Corta.enRegla).representa
  have hloc : localizaSector b.chip.mem s t n = localizaSector b.chip.mem 0 t n := by
    rw [hd.localizaSector_eq (.inr hs), hd.localizaSector_eq (.inl rfl)]
  constructor
  · intro p
    obtain ⟨b₁, _, e₁, he₁⟩ := (hd.leeVariable (t := t) (n := n) (.inr hs) (by omega) p).ejecuta hb
    obtain ⟨b₂, _, e₂, he₂⟩ := (hd.leeVariable (t := t) (n := n) (.inl rfl) (by omega) p).ejecuta hb
    exact ⟨_, b₁, b₂, e₁, e₂, he₁.mem.trans he₂.mem.symm⟩
  · intro p
    obtain ⟨b₁, _, e₁, he₁⟩ := (escribeVar_gives (t := t) (n := n) (.inr hs) (by omega) p).ejecuta hb
    obtain ⟨b₂, _, e₂, he₂⟩ := (escribeVar_gives (t := t) (n := n) (.inl rfl) (by omega) p).ejecuta hb
    refine ⟨0, b₁, b₂, e₁, e₂, ?_⟩
    have hne : localizaSector b.chip.mem 0 t n ≠ none := by
      rw [hd.localizaSector_eq (.inl rfl)]
      exact (hd.haySitio_iff).1 hsitio
    rw [he₁.mem, he₂.mem]
    unfold escribeVarOrdenes
    rw [hloc]
    cases hx : localizaSector b.chip.mem 0 t n with
    | some x => rfl
    | none => exact absurd hx hne

/-- A read and a write of the first variable with the sector of the second as hint. -/
theorem sugerencia_indiferente_recreada : ∃ b, Alcanza Corta b ∧
    (∃ r b₁ b₂, leeVariable 3 .varU8 Nombre.a (fun _ => 7) b = .ok r b₁ ∧
      leeVariable 0 .varU8 Nombre.a (fun _ => 7) b = .ok r b₂ ∧ b₁.chip.mem = b₂.chip.mem) ∧
    ∃ r b₁ b₂, escribeVar 3 .varU8 Nombre.a (fun _ => 9) b = .ok r b₁ ∧
      escribeVar 0 .varU8 Nombre.a (fun _ => 9) b = .ok r b₂ ∧ b₁.chip.mem = b₂.chip.mem := by
  obtain ⟨_, b, d, -, -, -, -, h, hd, ha, -⟩ := exists_recreada
  have hsitio : HaySitio b.chip.mem .varU8 Nombre.a := hd.haySitio_iff.2 fun hno => by rw [hno] at ha; cases ha
  obtain ⟨hlee, hescribe⟩ := sugerencia_indiferente h (by decide) hsitio (s := 3) ⟨by decide, by decide⟩
  exact ⟨b, h, hlee _, hescribe _⟩

end Wiznet
