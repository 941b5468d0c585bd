import Wiznet.Store.Invariantes
import Wiznet.Store.Limites

/-!
# Power cuts during a write

A write to a variable is a sequence of programs and erases, and the power can fail between any two of them.  The
store has no means against that: the FAT byte is programmed before the record, so a cut between them leaves a record
that is partly blank, and a cut while the sector is written anew leaves it without its header or its record.
-/

namespace Wiznet

open NorFlash (Mem Cmd replay)
open W25Q16

variable {m m' : Mem} {d : Directorio} {s : UInt16} {t : TipoVar} {n : Nombre} {x : Nat}

/-! ### What a search depends on -/

theorem Coincide.congr {f g : Nat → UInt8} {c : UInt16} (h : ∀ o < 35, f o = g o) (hc : Coincide f t n c) :
    Coincide g t n c where
  tipo := by rw [← h 0 (by decide), hc.tipo]
  chkSum := by rw [← h 1 (by decide), ← h 2 (by decide), hc.chkSum]
  nombre i hi hin := by
    have hL : LONGNAME - 1 = 31 := rfl
    rw [← h (3 + i) (by omega), hc.nombre i hi hin]

/-- Only the headers matter for the search. -/
theorem localizaSector_congr (h : ∀ y ∈ sectoresVars, ∀ o < 35, sec m y o = sec m' y o) (hs : SectorOk s) :
    localizaSector m s t n = localizaSector m' s t n := by
  have hco : ∀ y ∈ sectoresVars, Coincide (sec m y) t n n.suma ↔ Coincide (sec m' y) t n n.suma :=
    fun y hy => ⟨Coincide.congr (h y hy), Coincide.congr fun o ho => (h y hy o ho).symm⟩
  have hb : buscaSector m t n = buscaSector m' t n := by
    refine List.find?_congr fun y hy => ?_
    have hy' : y ∈ sectoresVars := by
      have := List.mem_range'_1.1 hy
      exact ⟨by omega, by omega⟩
    unfold paraEn
    rw [decide_eq_decide, h y hy' 0 (by decide), hco y hy']
  unfold localizaSector
  rw [hb]
  by_cases h0 : s = 0
  · rw [if_neg (fun h' => h'.1 h0), if_neg (fun h' => h'.1 h0)]
  · simp only [hco _ (hs.resolve_left h0)]

/-- The search ends at a blank sector or at a matching one. -/
theorem localizaSector_some (h : localizaSector m s t n = some x) :
    sec m x 0 = 0xFF ∨ Coincide (sec m x) t n n.suma := by
  unfold localizaSector at h
  split at h
  · rename_i hc
    cases h
    exact .inr hc.2
  · have hp : paraEn m t n x = true := List.find?_some h
    exact of_decide_eq_true hp

/-! ### While positions are left -/

/-- The record that a cut after `i` of its bytes leaves. -/
def cortado (v : List UInt8) (i : Nat) : List UInt8 := v.take i ++ List.replicate (v.length - i) 0xFF

/-- A record read from bytes that end before it does. -/
private theorem map_getD_range {v : List UInt8} {w : Nat} (hv : v.length ≤ w) :
    (List.range w).map (fun j => v.getD j 0xFF) = v ++ List.replicate (w - v.length) 0xFF := by
  refine List.ext_getElem (by simp; omega) fun j h1 h2 => ?_
  simp only [List.length_map, List.length_range] at h1
  rw [List.getElem_map, List.getElem_range]
  rcases Nat.lt_or_ge j v.length with hj | hj
  · rw [List.getD_eq_getElem _ _ hj, List.getElem_append_left hj]
  · rw [List.getD_eq_default _ _ hj, List.getElem_append_right hj, List.getElem_replicate]

private theorem cortado_eq (v : List UInt8) (i : Nat) :
    (List.range v.length).map (fun j => (v.take i).getD j 0xFF) = cortado v i := by
  have hle : (v.take i).length ≤ v.length := by
    rw [List.length_take]
    exact Nat.min_le_right ..
  rw [map_getD_range hle, cortado, List.length_take, show v.length - min i v.length = v.length - i by omega]

/-- The first record of a sector. -/
private theorem valorEn_primero {c v : List UInt8} (h : Imagen m x c 0 v) (hx : x < 512) (hv : v.length ≤ t.long) :
    valorEn m x t = v ++ List.replicate (t.long - v.length) 0xFF := by
  have ht := t.long_le
  rw [h.valorEn_eq hx (by rw [if_pos (by decide)]; omega), if_pos (by decide), ← map_getD_range hv]
  refine List.map_congr_left fun j _ => ?_
  rw [Nat.zero_mul, Nat.zero_add]

/-- After the FAT byte and `i` bytes of the record, the variable reads as those bytes followed by blank ones. -/
theorem lee_tras_corte_sigue (h : Representa m d) {f : Ficha} (hf : d.ficha t n = some f) (hx : d.sitio t n = some x)
    (hsig : f.Sigue) (hu : f.usadas < 127) (hs : SectorOk s) (hn : n.chars.length ≤ 255) (p : Nat → UInt8) (i : Nat)
    (pDef : Nat → UInt8) :
    Gives (leeVariable s t n pDef)
      (replay w25q16 ((escribeOrdenes m (UInt16.ofNat x) t n p).take (i + 1)) m)
      ⟨0, UInt16.ofNat x, cortado (bytesDe p t.long) i⟩ [] {y | 2 ≤ y ∧ y ≤ 512} := by
  have hloc := h.localizaSector_eq (t := t) (n := n) hs
  rw [hx] at hloc
  obtain ⟨h2, h511⟩ := localizaSector_mem hs hloc
  have hxn : (UInt16.ofNat x).toNat = x := toNat_sector (by omega)
  have hen := h.en_sitio hf hx
  have ht : f.tipo = t := Directorio.tipo_of_ficha hf
  have hnom : f.nombre.grabado = n.grabado := congrArg Prod.snd (Directorio.clave_of_ficha hf)
  have hfit := hsig.2
  rw [Nat.add_mul, Nat.one_mul] at hfit
  obtain ⟨c₁, hord, -, h1⟩ := Ficha.En.sigue (s := UInt16.ofNat x) (by omega) (by rw [hxn]; exact hen) hsig p
  rw [hxn] at h1 hord
  -- the sector after the cut
  have himg : Imagen (replay w25q16 ((escribeOrdenes m (UInt16.ofNat x) t n p).take (i + 1)) m) x
      (cabeceraDe f.tipo f.nombre) (f.usadas + 1) (f.historial.flatten ++ (bytesDe p f.tipo.long).take i) := by
    rw [← escribeOrdenes_congr hnom, ← ht, hord, List.take_succ_cons, take_bytesOrdenes, NorFlash.replay_cons]
    refine (bytesOrdenes_imagen (by omega) _ h1 ?_).1
    have : ((bytesDe p f.tipo.long).take i).length ≤ f.tipo.long := by
      rw [List.length_take, length_bytesDe]
      exact Nat.min_le_right ..
    rw [f.length_flatten]
    omega
  -- the headers are as before
  have hcab : ∀ y ∈ sectoresVars, ∀ o < 35,
      sec (replay w25q16 ((escribeOrdenes m (UInt16.ofNat x) t n p).take (i + 1)) m) y o = sec m y o := by
    rintro y ⟨hy2, hy511⟩ o ho
    by_cases hyx : y = x
    · subst hyx
      rw [himg.sec_cabecera (by omega) ho, Imagen.sec_cabecera hen (by omega) ho]
    · rw [sec_eq (by omega) (by omega), sec_eq (by omega) (by omega)]
      refine replay_of_sector (by omega) fun c hc => ?_
      have := Ficha.En.addr_escribe (s := UInt16.ofNat x) (p := p) (c := c) (by omega) (by rw [hxn]; exact hen)
        (fun _ => hsig.2) (by rw [ht, escribeOrdenes_congr hnom]; exact List.mem_of_mem_take hc)
      omega
  have hloc' := (localizaSector_congr (t := t) (n := n) hcab hs).trans hloc
  have hno : creaOrdenes (replay w25q16 ((escribeOrdenes m (UInt16.ofNat x) t n p).take (i + 1)) m) t n pDef (some x) =
      [] := by
    refine if_neg ?_
    rw [himg.tipo_eq (by omega)]
    exact f.tipo.codigo_ne_ff
  have hg := leeVariable_some hs hn pDef hloc'
  have hval : valorEn (replay w25q16 ((escribeOrdenes m (UInt16.ofNat x) t n p).take (i + 1)) m) x t =
      cortado (bytesDe p t.long) i := by
    have hescr := f.escrita
    have hlen : (f.usadas + 1) * t.long = f.historial.flatten.length := by
      rw [f.length_flatten, ht, show f.usadas + 1 = f.historial.length by unfold Ficha.usadas; omega]
    have hk : (if f.usadas + 1 < 128 then f.usadas + 1 else 0) = f.usadas + 1 := if_pos (by omega)
    rw [himg.valorEn_eq (by omega), hk, hlen, ht, ← cortado_eq, length_bytesDe]
    · refine List.map_congr_left fun j _ => ?_
      rw [List.getD_append_right _ _ _ _ (Nat.le_add_right ..), Nat.add_sub_cancel_left]
    · rw [hk, Nat.add_mul, Nat.one_mul, hlen, f.length_flatten, ← ht]
      omega
  rw [hno, NorFlash.replay_nil, hval] at hg
  exact hg

/-! ### While the sector is written anew -/

/-- The sector after the erase and at most three of the four programs of `initVarFlash`. -/
private theorem imagen_tras_corte (hx : x < 512) (h : Representa m d) {f : Ficha} (hf : d.ficha t n = some f)
    (hsit : d.sitio t n = some x) (hk : ¬ f.usadas < 128) (p : Nat → UInt8) {j : Nat} (h1 : 1 ≤ j) (h4 : j ≤ 4) :
    ∃ c, Imagen (replay w25q16 ((escribeOrdenes m (UInt16.ofNat x) t n p).take j) m) x c 0 [] ∧
      (c = [] ∨ c.getD 0 0xFF = t.codigo) := by
  have hxn : (UInt16.ofNat x).toNat = x := toNat_sector (by omega)
  have hen := h.en_sitio hf hsit
  have hnom : f.nombre.grabado = n.grabado := congrArg Prod.snd (Directorio.clave_of_ficha hf)
  have hord := Ficha.En.agotada (s := UInt16.ofNat x) (by omega) (by rw [hxn]; exact hen) hk p
  rw [Directorio.tipo_of_ficha hf, escribeOrdenes_congr hnom, initOrdenes_congr hnom] at hord
  have hb := Imagen.borra hx m
  obtain ⟨c₁, c₂, c₃, c₄, hc, -, i1, i2, i3, -⟩ := initOrdenes_pasos (s := UInt16.ofNat x) (by omega)
    (by rw [hxn]; exact hb) t n p
  rw [hord, hc, hxn]
  rw [hxn] at i1 i2 i3
  have hcases : j = 1 ∨ j = 2 ∨ j = 3 ∨ j = 4 := by omega
  rcases hcases with rfl | rfl | rfl | rfl
  · exact ⟨_, hb, .inl rfl⟩
  · exact ⟨_, i1, .inr rfl⟩
  · exact ⟨_, i2, .inr rfl⟩
  · exact ⟨_, i3, .inr rfl⟩

/-- A cut there makes the variable read as the caller's default (it is created again, here or in a blank sector), as
blank bytes, or, in a full store, not at all. -/
theorem lee_tras_corte_agotada (h : Representa m d) {f : Ficha} (hf : d.ficha t n = some f)
    (hx : d.sitio t n = some x) (hk : ¬ f.usadas < 128) (hs : SectorOk s) (hn : n.chars.length ≤ 255)
    (p : Nat → UInt8) {j : Nat} (h1 : 1 ≤ j) (h4 : j ≤ 4) (pDef : Nat → UInt8) :
    ∃ y v mods, Gives (leeVariable s t n pDef)
        (replay w25q16 ((escribeOrdenes m (UInt16.ofNat x) t n p).take j) m) ⟨0, y, v⟩ mods {y | 2 ≤ y ∧ y ≤ 512} ∧
      (v = bytesDe pDef t.long ∨ v = List.replicate t.long 0xFF ∨ v = [] ∧ d.fichas.length = 510) := by
  have hcabe := d.cabe
  obtain ⟨i, hi, rfl, hcl, rfl⟩ := Directorio.exists_of_sitio hf hx
  have hxn : (UInt16.ofNat (2 + i)).toNat = 2 + i := toNat_sector (by omega)
  have hen := h.fichas i hi
  have hnom : d.fichas[i].nombre.grabado = n.grabado := congrArg Prod.snd hcl
  have ht : d.fichas[i].tipo = t := congrArg Prod.fst hcl
  obtain ⟨c, himg, hc⟩ := imagen_tras_corte (by omega) h hf hx hk p h1 h4
  -- the other sectors are as before
  have hotros : ∀ y, y ≤ 511 → y ≠ 2 + i → ∀ o < 4096,
      replay w25q16 ((escribeOrdenes m (UInt16.ofNat (2 + i)) t n p).take j) m (4096 * y + o) = m (4096 * y + o) := by
    intro y hy hyi o ho
    refine replay_of_sector ho fun c hc => ?_
    have := Ficha.En.addr_escribe (s := UInt16.ofNat (2 + i)) (p := p) (c := c) (by omega) (by rw [hxn]; exact hen)
      (fun hlt => absurd hlt hk) (by rw [ht, escribeOrdenes_congr hnom]; exact List.mem_of_mem_take hc)
    omega
  generalize replay w25q16 ((escribeOrdenes m (UInt16.ofNat (2 + i)) t n p).take j) m = m' at himg hotros ⊢
  have hsec : ∀ y, y ≤ 511 → y ≠ 2 + i → ∀ o < 4096, sec m' y o = sec m y o := fun y hy hyi o ho => by
    rw [sec_eq (by omega) ho, sec_eq (by omega) ho, hotros y hy hyi o ho]
  cases hloc : localizaSector m' s t n with
  | none =>
    refine ⟨_, _, _, (leeVariable_none hs hn pDef hloc).mono fun y hy => ⟨hy.1, Nat.le_succ_of_le hy.2⟩,
      .inr (.inr ⟨rfl, ?_⟩)⟩
    -- a blank sector would have been found
    refine Nat.le_antisymm hcabe (Nat.le_of_not_lt fun hlt => ?_)
    refine haySitio_iff_buscaSector.1 ⟨2 + d.fichas.length, ⟨by omega, by omega⟩, .inl ?_⟩
      (localizaSector_none.1 hloc).2
    rw [hsec _ (by omega) (by omega) 0 (by decide)]
    exact (h.sec_cero (by omega) (by omega)).2 (Nat.le_refl _)
  | some y =>
    obtain ⟨hy2, hy511⟩ := localizaSector_mem hs hloc
    have hyn : (UInt16.ofNat y).toNat = y := toNat_sector (by omega)
    have hg := leeVariable_some hs hn pDef hloc
    by_cases hff : sec m' y 0 = 0xFF
    · -- created again in a blank sector
      have hblank : Imagen m' y [] 0 [] := by
        by_cases hyi : y = 2 + i
        · subst hyi
          rcases hc with rfl | hc
          · exact himg
          · rw [himg.sec_cabecera (by omega) (by decide), hc] at hff
            exact absurd hff t.codigo_ne_ff
        · have hle := (h.sec_cero hy2 hy511).1 (by rw [← hsec y hy511 hyi 0 (by decide), hff])
          exact (h.blancos y hle hy511).congr (hotros y hy511 hyi)
      have hcrea : creaOrdenes m' t n pDef (some y) = initOrdenes (UInt16.ofNat y) t n pDef := if_pos hff
      obtain ⟨hini, -⟩ := initOrdenes_imagen (s := UInt16.ofNat y) (by omega) (by rw [hyn]; exact hblank) t n pDef
      rw [hyn] at hini
      refine ⟨_, _, _, hg, .inl ?_⟩
      rw [hcrea, valorEn_primero hini (by omega) (by rw [length_bytesDe]), length_bytesDe, Nat.sub_self,
        List.replicate_zero, List.append_nil]
    · -- found with its header but without its record
      have hco := (localizaSector_some hloc).resolve_left hff
      have hyi : y = 2 + i := by
        by_contra hyi
        have hco' := Coincide.congr (fun o ho => hsec y hy511 hyi o (by omega)) hco
        obtain ⟨hlt, hcl'⟩ := (h.coincide_iff hy2 hy511).1 hco'
        have := d.indice_unico hlt hi (hcl'.trans hcl.symm)
        omega
      subst hyi
      have hcrea : creaOrdenes m' t n pDef (some (2 + i)) = [] := if_neg hff
      refine ⟨_, _, _, hg, .inr (.inl ?_)⟩
      rw [hcrea, NorFlash.replay_nil, valorEn_primero himg (by omega) (Nat.zero_le _)]
      rfl

/-- After all of it the variable reads as the new value. -/
theorem lee_tras_escribir_agotada (h : Representa m d) {f : Ficha} (hf : d.ficha t n = some f)
    (hx : d.sitio t n = some x) (hk : ¬ f.usadas < 128) (hs : SectorOk s) (hn : n.chars.length ≤ 255)
    (p pDef : Nat → UInt8) :
    ∃ mods, Gives (leeVariable s t n pDef) (replay w25q16 (escribeOrdenes m (UInt16.ofNat x) t n p) m)
      ⟨0, UInt16.ofNat x, bytesDe p t.long⟩ mods {y | 2 ≤ y ∧ y ≤ 512} := by
  obtain ⟨i, hi, rfl, hcl, rfl⟩ := Directorio.exists_of_sitio hf hx
  obtain ⟨hd', -⟩ := h.anota hi hcl (fun hlt => absurd hlt hk) p
  have hf' : (d.anota t n p).ficha t n = some (Ficha.nueva d.fichas[i].tipo d.fichas[i].nombre p) := by
    rw [Directorio.ficha_anota, hf, Option.map_some, if_pos rfl, Ficha.escribe_of_not_sigue fun h' => hk h'.1]
  have hx' : (d.anota t n p).sitio t n = some (2 + i) := Directorio.sitio_anota (Directorio.mem_of_ficha hf) hx
  have hlee := hd'.leeVariable (t := t) hs hn pDef
  rw [Directorio.lee_of_ficha hf' hx', Ficha.valor_nueva, Directorio.tipo_of_ficha hf] at hlee
  exact ⟨_, hlee⟩

/-! ### All cuts of a write -/

/-- The programs and erases issued between two states of a bus. -/
def ordenesEntre (b b' : Bus) : List Cmd := (b'.chip.log.drop b.chip.log.length).filter Cmd.modifies

theorem Efecto.ordenesEntre_eq {b b' : Bus} {mods cs : List Cmd} {S : Set Nat} (h : Efecto b b' mods S cs) :
    ordenesEntre b b' = mods := by
  unfold ordenesEntre
  rw [h.log, List.drop_left, h.ordenes]

/-- The bus `c` is up again on the flash that the first `j` of those commands left. -/
structure TrasCorte (b b' : Bus) (j : Nat) (c : Bus) : Prop where
  listo : c.Listo
  mem : c.chip.mem = replay w25q16 ((ordenesEntre b b').take j) b.chip.mem

theorem length_bytesOrdenes (a : Nat) (vs : List UInt8) : (bytesOrdenes a vs).length = vs.length := by
  induction vs generalizing a with
  | nil => rfl
  | cons v vs ih => rw [bytesOrdenes, List.length_cons, List.length_cons, ih]

section Cortes

variable {b b' b₀ c : Bus} {s₀ s' : UInt16} {r : Int16} {r₀ : Lectura} {pDef₀ pValor : Nat → UInt8} {j : Nat}

theorem escribeVar_cortes (h : Alcanza EnRegla b) (ht : t.long ≤ 8) (hs : SectorOk s)
    (hv : ViveEn b.chip.mem s t n x) (hs₀ : SectorOk s₀) (e₀ : leeVariable s₀ t n pDef₀ b = .ok r₀ b₀)
    (e : escribeVar s t n pValor b = .ok r b') (hc : TrasCorte b b' j c) (hs' : SectorOk s') (pDef : Nat → UInt8) :
    ∃ r' c', leeVariable s' t n pDef c = .ok r' c' ∧ r'.rc = 0 ∧ (j = 0 → r'.valor = r₀.valor) ∧
      (∀ k, posFAT (sec b.chip.mem x) = some k → (ordenesEntre b b').length = 1 + t.long ∧
        (k < 127 → 1 ≤ j → r'.valor = cortado (bytesDe pValor t.long) (j - 1))) ∧
      (posFAT (sec b.chip.mem x) = none → (ordenesEntre b b').length = 5 ∧
        (1 ≤ j → j < 5 → r'.valor = bytesDe pDef t.long ∨ r'.valor = List.replicate t.long 0xFF ∨
          r'.valor = [] ∧ ∀ y ∈ sectoresVars, sec b.chip.mem y 0 ≠ 0xFF) ∧
        (5 ≤ j → r'.valor = bytesDe pValor t.long)) := by
  have hn : n.chars.length ≤ 255 := by
    by_contra hlt
    rw [escribeVar_largo (by omega)] at e
    cases e
  obtain ⟨hb, d, hd⟩ := h.representa
  obtain ⟨f, hf, hx⟩ := hv.ficha hd hs
  have hft := Directorio.tipo_of_ficha hf
  have hnom : f.nombre.grabado = n.grabado := congrArg Prod.snd (Directorio.clave_of_ficha hf)
  obtain ⟨h2, h511⟩ := localizaSector_mem hs hv.1
  have hxn : (UInt16.ofNat x).toNat = x := toNat_sector (by omega)
  have hen := hd.en_sitio hf hx
  -- what the write does, and what the read gave before it
  obtain ⟨-, _, he⟩ := (escribeVar_gives hs hn pValor).resultado hb e
  have hord := he.ordenesEntre_eq
  rw [hv.ordenes] at hord
  obtain ⟨hr₀, -⟩ := (hd.leeVariable hs₀ hn pDef₀).resultado hb e₀
  rw [Directorio.lee_of_ficha hf hx] at hr₀
  obtain ⟨r', hrc, hg⟩ := leeVariable_gives (m := c.chip.mem) (t := t) hs' hn pDef
  obtain ⟨c', _, ec, -⟩ := hg.ejecuta hc.listo
  have hmem := hc.mem
  rw [hord] at hmem
  have hunico : ∀ {y v mods}, Gives (leeVariable s' t n pDef) c.chip.mem ⟨0, y, v⟩ mods {y | 2 ≤ y ∧ y ≤ 512} →
      r'.valor = v := fun hg' => by rw [(hg'.resultado hc.listo ec).1]
  refine ⟨r', c', ec, hrc, ?_, fun k hk => ⟨?_, fun hk127 h1 => ?_⟩, fun hk => ⟨?_, fun h1 h5 => ?_, fun h5 => ?_⟩⟩
  · rintro rfl
    have hd' : Representa c.chip.mem d := by rw [hmem]; exact hd
    have hlee := hd'.leeVariable (t := t) hs' hn pDef
    rw [Directorio.lee_of_ficha hf hx] at hlee
    rw [hunico hlee, hr₀]
  · rw [hord]
    unfold escribeOrdenes
    rw [hxn, hk]
    simp only [List.length_cons, length_bytesOrdenes, length_bytesDe]
    omega
  · obtain ⟨i, rfl⟩ : ∃ i, j = i + 1 := ⟨j - 1, by omega⟩
    obtain ⟨hu, rfl⟩ := hen.posFAT_some (by omega) hk
    have hsig : f.Sigue := ⟨hu, Ficha.admite_of_long_le (by rw [hft]; exact ht) hu⟩
    have hlee := lee_tras_corte_sigue hd hf hx hsig hk127 hs' hn pValor i pDef
    rw [← hmem] at hlee
    exact hunico hlee
  · rw [hord]
    unfold escribeOrdenes
    rw [hxn, hk]
    rfl
  · have hu := hen.posFAT_none (by omega) hk
    obtain ⟨y, v, mods, hlee, hval⟩ := lee_tras_corte_agotada hd hf hx hu hs' hn pValor h1 (by omega) pDef
    rw [← hmem] at hlee
    rw [hunico hlee]
    refine hval.imp_right (Or.imp_right fun hlleno => ⟨hlleno.1, ?_⟩)
    rintro z ⟨hz2, hz511⟩ hz
    have := (hd.sec_cero hz2 hz511).1 hz
    omega
  · have hlen : (escribeOrdenes b.chip.mem (UInt16.ofNat x) t n pValor).length = 5 := by
      unfold escribeOrdenes
      rw [hxn, hk]
      rfl
    rw [List.take_of_length_le (by omega)] at hmem
    obtain ⟨mods, hlee⟩ := lee_tras_escribir_agotada hd hf hx (hen.posFAT_none (by omega) hk) hs' hn pValor pDef
    rw [← hmem] at hlee
    exact hunico hlee

end Cortes

/-- A number in sector 2, a write to it that is cut after its first command, and the read that follows. -/
private theorem corte_de_un_numero : ∃ b b' c r₀ b₀, Alcanza EnRegla b ∧ ViveEn b.chip.mem 0 .varU8 Nombre.a 2 ∧
    posFAT (sec b.chip.mem 2) = some 0 ∧ leeVariable 0 .varU8 Nombre.a (fun _ => 5) b = .ok r₀ b₀ ∧ r₀.valor = [7] ∧
    escribeVar 0 .varU8 Nombre.a (fun _ => 9) b = .ok 0 b' ∧ TrasCorte b b' 1 c ∧
    ∃ r' c', leeVariable 0 .varU8 Nombre.a (fun _ => 5) c = .ok r' c' ∧ r'.valor = [0xFF] := by
  obtain ⟨b, d, ha, hb, hd, hf, hx⟩ := alcanza_creada (P := EnRegla) .varU8 (fun _ => 7)
    ⟨.inl rfl, by decide, trivial⟩
  have hv : ViveEn b.chip.mem 0 .varU8 Nombre.a 2 :=
    viveEn_of_directorio hd (.inl rfl) (Directorio.mem_of_ficha hf) hx
  have hpos : posFAT (sec b.chip.mem 2) = some 0 := (hd.en_sitio hf hx).posFAT_eq (by decide)
  have hlee := hd.leeVariable (s := 0) (t := .varU8) (n := Nombre.a) (.inl rfl) (by decide) fun _ => 5
  rw [Directorio.lee_of_ficha hf hx] at hlee
  obtain ⟨b₀, _, e₀, -⟩ := hlee.ejecuta hb
  obtain ⟨b', _, e, he⟩ := (escribeVar_gives (t := .varU8) (n := Nombre.a) (.inl rfl) (by decide) fun _ => 9).ejecuta hb
  have hord := he.ordenesEntre_eq
  rw [hv.ordenes] at hord
  have hcorte := lee_tras_corte_sigue hd hf hx ⟨by decide, by decide⟩ (by decide) (s := 0) (.inl rfl) (by decide)
    (fun _ => 9) 0 fun _ => 5
  rw [← hord] at hcorte
  obtain ⟨c', _, ec, -⟩ := hcorte.ejecuta
    (b := { Bus.nuevo with
      chip := { Bus.nuevo.chip with mem := replay w25q16 ((ordenesEntre b b').take 1) b.chip.mem } })
    ⟨rfl, rfl, rfl, rfl, rfl⟩
  exact ⟨b, b', _, _, b₀, ha, hv, hpos, e₀, rfl, e, ⟨⟨rfl, rfl, rfl, rfl, rfl⟩, rfl⟩, _, c', ec, rfl⟩

/-- The read after the cut delivers neither the old value, 7, nor the new one, 9. -/
theorem escribeVar_corte_tercero : ∃ b b' c r₀ b₀, Alcanza EnRegla b ∧
    leeVariable 0 .varU8 Nombre.a (fun _ => 5) b = .ok r₀ b₀ ∧ r₀.valor = [7] ∧
    escribeVar 0 .varU8 Nombre.a (fun _ => 9) b = .ok 0 b' ∧ TrasCorte b b' 1 c ∧
    ∃ r' c', leeVariable 0 .varU8 Nombre.a (fun _ => 5) c = .ok r' c' ∧ r'.valor = [0xFF] := by
  obtain ⟨b, b', c, r₀, b₀, ha, -, -, h⟩ := corte_de_un_numero
  exact ⟨b, b', c, r₀, b₀, ha, h⟩

theorem escribeVar_cortes_numero : ∃ c r' c', leeVariable 0 .varU8 Nombre.a (fun _ => 5) c = .ok r' c' ∧
    r'.valor = cortado (bytesDe (fun _ => 9) TipoVar.varU8.long) 0 := by
  obtain ⟨b, b', c, r₀, b₀, ha, hv, hpos, e₀, -, e, hc, -⟩ := corte_de_un_numero
  obtain ⟨r', c', e', -, -, hsig, -⟩ := escribeVar_cortes ha (by decide) (.inl rfl) hv (.inl rfl) e₀ e hc (.inl rfl)
    fun _ => 5
  exact ⟨c, r', c', e', (hsig 0 hpos).2 (by decide) (Nat.le_refl 1)⟩

end Wiznet
