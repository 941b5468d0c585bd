import Wiznet.Store.Ficha

/-!
# The store as a directory of variables

The abstract store: the variables in the order of their sectors, which are the sectors from 2 on without a gap, all
different (`Directorio`).  `Representa` ties it to the flash.  The search finds the sector of a variable, or the
first blank one, whatever the hint (`localizaSector_eq`), and each call of the store takes a represented flash to a
represented flash.
-/

namespace Wiznet

open NorFlash (Mem Cmd replay ExactAll)
open W25Q16

/-- What identifies a variable: its type and what the flash keeps of its name. -/
def clave (t : TipoVar) (n : Nombre) : TipoVar × List UInt8 × UInt16 := (t, n.grabado)

def Ficha.clave (f : Ficha) : TipoVar × List UInt8 × UInt16 := Wiznet.clave f.tipo f.nombre

theorem Ficha.clave_escribe (f : Ficha) (p : Nat → UInt8) : (f.escribe p).clave = f.clave := by
  unfold clave
  rw [escribe_tipo, escribe_nombre]

/-- The sector of a variable matches the variables with its key. -/
theorem Ficha.En.coincide_iff {f : Ficha} {m : Mem} {x : Nat} (h : f.En m x) (hx : x < 512) {t : TipoVar}
    {n : Nombre} : Coincide (sec m x) t n n.suma ↔ f.clave = Wiznet.clave t n := by
  rw [Imagen.coincide_iff h hx]
  unfold Ficha.clave Wiznet.clave Nombre.grabado
  rw [Prod.mk.injEq, Prod.mk.injEq]
  exact ⟨fun ⟨h1, h2, h3⟩ => ⟨h1.symm, h3.symm, h2.symm⟩, fun ⟨h1, h2, h3⟩ => ⟨h1.symm, h3.symm, h2.symm⟩⟩

/-- Names that fit their field are told apart. -/
theorem clave_inj {t t' : TipoVar} {n n' : Nombre} (hn : n.chars.length ≤ 31) (hn' : n'.chars.length ≤ 31) :
    clave t n = clave t' n' ↔ t = t' ∧ n = n' := by
  unfold clave
  rw [Prod.mk.injEq, Nombre.grabado_inj hn hn']

structure Directorio where
  fichas : List Ficha
  distintas : (fichas.map Ficha.clave).Nodup
  cabe : fichas.length ≤ 510

namespace Directorio

def vacio : Directorio := ⟨[], List.nodup_nil, Nat.zero_le _⟩

def ficha (d : Directorio) (t : TipoVar) (n : Nombre) : Option Ficha := d.fichas.find? fun f => f.clave = clave t n

/-- Sector of a variable, or the one it would be created in. -/
def sitio (d : Directorio) (t : TipoVar) (n : Nombre) : Option Nat :=
  match d.fichas.findIdx? fun f => f.clave = clave t n with
  | some i => some (2 + i)
  | none => if d.fichas.length < 510 then some (2 + d.fichas.length) else none

/-- The directory once the variable has been looked for: it is created when it is not there and fits. -/
def conVariable (d : Directorio) (t : TipoVar) (n : Nombre) (p : Nat → UInt8) : Directorio :=
  if h : clave t n ∉ d.fichas.map Ficha.clave ∧ d.fichas.length < 510 then
    { fichas := d.fichas ++ [Ficha.nueva t n p]
      distintas := by
        rw [List.map_append, List.map_singleton]
        refine List.nodup_append.2 ⟨d.distintas, by simp, fun a ha b hb he => ?_⟩
        rw [he, List.mem_singleton.1 hb] at ha
        exact h.1 ha
      cabe := by
        rw [List.length_append, List.length_singleton]
        exact h.2 }
  else d

private theorem map_clave_escribe (L : List Ficha) (t : TipoVar) (n : Nombre) (p : Nat → UInt8) :
    (L.map fun f => if f.clave = clave t n then f.escribe p else f).map Ficha.clave = L.map Ficha.clave := by
  rw [List.map_map]
  refine List.map_congr_left fun f _ => ?_
  show (if f.clave = clave t n then f.escribe p else f).clave = f.clave
  split
  · exact f.clave_escribe p
  · rfl

/-- A write to the variable, where it is. -/
def anota (d : Directorio) (t : TipoVar) (n : Nombre) (p : Nat → UInt8) : Directorio where
  fichas := d.fichas.map fun f => if f.clave = clave t n then f.escribe p else f
  distintas := by
    rw [map_clave_escribe]
    exact d.distintas
  cabe := by
    rw [List.length_map]
    exact d.cabe

theorem indice_unico (d : Directorio) {i j : Nat} (hi : i < d.fichas.length) (hj : j < d.fichas.length)
    (h : d.fichas[i].clave = d.fichas[j].clave) : i = j := by
  have hp := List.pairwise_iff_getElem.1 d.distintas
  simp only [List.length_map, List.getElem_map] at hp
  rcases Nat.lt_trichotomy i j with hlt | heq | hgt
  · exact absurd h (hp i j hi hj hlt)
  · exact heq
  · exact absurd h.symm (hp j i hj hi hgt)

variable {d : Directorio} {t : TipoVar} {n : Nombre}

/-- A variable sits in its own sector. -/
theorem sitio_of_clave {i : Nat} (hi : i < d.fichas.length) (h : d.fichas[i].clave = clave t n) :
    d.sitio t n = some (2 + i) := by
  have : (d.fichas.findIdx? fun f => f.clave = clave t n) = some i := by
    refine List.findIdx?_eq_some_iff_getElem.2 ⟨hi, by simpa using h, fun j hj he => ?_⟩
    have he' : d.fichas[j].clave = clave t n := by simpa using he
    have := d.indice_unico hi (Nat.lt_trans hj hi) (h.trans he'.symm)
    omega
  unfold sitio
  rw [this]

theorem sitio_of_not_mem (h : clave t n ∉ d.fichas.map Ficha.clave) :
    d.sitio t n = if d.fichas.length < 510 then some (2 + d.fichas.length) else none := by
  have : (d.fichas.findIdx? fun f => f.clave = clave t n) = none := by
    refine List.findIdx?_eq_none_iff.2 fun f hf => decide_eq_false fun he => h ?_
    exact List.mem_map.2 ⟨f, hf, he⟩
  unfold sitio
  rw [this]

theorem ficha_of_clave {i : Nat} (hi : i < d.fichas.length) (h : d.fichas[i].clave = clave t n) :
    d.ficha t n = some d.fichas[i] := by
  unfold ficha
  refine List.find?_eq_some_iff_getElem.2 ⟨by simpa using h, i, hi, rfl, fun j hj => ?_⟩
  have : d.fichas[j].clave ≠ clave t n := fun he => by
    have := d.indice_unico hi (Nat.lt_trans hj hi) (h.trans he.symm)
    omega
  simpa using this

/-- A key of the directory stands at one place. -/
theorem exists_of_mem (h : clave t n ∈ d.fichas.map Ficha.clave) :
    ∃ i, ∃ hi : i < d.fichas.length, d.fichas[i].clave = clave t n := by
  obtain ⟨i, hi, he⟩ := List.getElem_of_mem h
  rw [List.length_map] at hi
  exact ⟨i, hi, by rw [← he, List.getElem_map]⟩

theorem conVariable_of_mem {p : Nat → UInt8} (h : clave t n ∈ d.fichas.map Ficha.clave) :
    d.conVariable t n p = d := dif_neg fun h' => h'.1 h

theorem conVariable_of_lleno {p : Nat → UInt8} (h : ¬ d.fichas.length < 510) :
    d.conVariable t n p = d := dif_neg fun h' => h h'.2

theorem conVariable_fichas {p : Nat → UInt8} (h : clave t n ∉ d.fichas.map Ficha.clave)
    (hlt : d.fichas.length < 510) : (d.conVariable t n p).fichas = d.fichas ++ [Ficha.nueva t n p] := by
  unfold conVariable
  rw [dif_pos ⟨h, hlt⟩]

/-- With a sector for it, the variable is there after the search, in that sector. -/
theorem conVariable_sitio {x : Nat} (h : d.sitio t n = some x) (p : Nat → UInt8) :
    ∃ i, ∃ hi : i < (d.conVariable t n p).fichas.length,
      (d.conVariable t n p).fichas[i].clave = clave t n ∧ x = 2 + i := by
  by_cases hmem : clave t n ∈ d.fichas.map Ficha.clave
  · obtain ⟨i, hi, he⟩ := exists_of_mem hmem
    rw [sitio_of_clave hi he] at h
    simp only [conVariable_of_mem hmem]
    exact ⟨i, hi, he, (Option.some.inj h).symm⟩
  · rw [sitio_of_not_mem hmem] at h
    by_cases hlt : d.fichas.length < 510
    · rw [if_pos hlt] at h
      have hf := conVariable_fichas (p := p) hmem hlt
      refine ⟨d.fichas.length, by rw [hf]; simp, ?_, (Option.some.inj h).symm⟩
      simp only [hf, List.getElem_append_right (Nat.le_refl _), Nat.sub_self, List.getElem_singleton]
      rfl
    · rw [if_neg hlt] at h
      cases h

theorem sitio_none (h : d.sitio t n = none) : clave t n ∉ d.fichas.map Ficha.clave ∧ ¬ d.fichas.length < 510 := by
  by_cases hmem : clave t n ∈ d.fichas.map Ficha.clave
  · obtain ⟨i, hi, he⟩ := exists_of_mem hmem
    rw [sitio_of_clave hi he] at h
    cases h
  · refine ⟨hmem, fun hlt => ?_⟩
    rw [sitio_of_not_mem hmem, if_pos hlt] at h
    cases h

theorem anota_of_not_mem (h : clave t n ∉ d.fichas.map Ficha.clave) (p : Nat → UInt8) : d.anota t n p = d := by
  obtain ⟨L, hd, hc⟩ := d
  unfold anota
  congr 1
  refine (List.map_congr_left fun f hf => if_neg fun he => h ?_).trans (List.map_id' L)
  exact List.mem_map.2 ⟨f, hf, he⟩

theorem clave_of_ficha {f : Ficha} (h : d.ficha t n = some f) : f.clave = clave t n := by
  simpa using List.find?_some h

theorem tipo_of_ficha {f : Ficha} (h : d.ficha t n = some f) : f.tipo = t := congrArg Prod.fst (clave_of_ficha h)

theorem mem_iff_ficha : clave t n ∈ d.fichas.map Ficha.clave ↔ d.ficha t n ≠ none := by
  unfold ficha
  rw [Ne, List.find?_eq_none, List.mem_map]
  simp

theorem mem_of_ficha {f : Ficha} (h : d.ficha t n = some f) : clave t n ∈ d.fichas.map Ficha.clave :=
  mem_iff_ficha.2 (by rw [h]; exact Option.some_ne_none f)

theorem exists_of_ficha {f : Ficha} (h : d.ficha t n = some f) :
    ∃ i, ∃ hi : i < d.fichas.length, d.fichas[i] = f ∧ d.fichas[i].clave = clave t n := by
  obtain ⟨i, hi, he⟩ := exists_of_mem (mem_of_ficha h)
  rw [ficha_of_clave hi he] at h
  exact ⟨i, hi, Option.some.inj h, he⟩

theorem exists_of_sitio {f : Ficha} {x : Nat} (hf : d.ficha t n = some f) (hx : d.sitio t n = some x) :
    ∃ i, ∃ hi : i < d.fichas.length, d.fichas[i] = f ∧ d.fichas[i].clave = clave t n ∧ x = 2 + i := by
  obtain ⟨i, hi, hfi, hcl⟩ := exists_of_ficha hf
  rw [sitio_of_clave hi hcl] at hx
  cases hx
  exact ⟨i, hi, hfi, hcl, rfl⟩

/-! Lookups after a change. -/

variable {t' : TipoVar} {n' : Nombre} {p : Nat → UInt8}

theorem ficha_anota : (d.anota t n p).ficha t' n' =
    (d.ficha t' n').map fun f => if clave t' n' = clave t n then f.escribe p else f := by
  have hcl : ∀ f : Ficha, (if f.clave = clave t n then f.escribe p else f).clave = f.clave := by
    intro f
    split
    · exact f.clave_escribe p
    · rfl
  unfold ficha anota
  rw [List.find?_map]
  have hp : ((fun f : Ficha => decide (f.clave = clave t' n')) ∘ fun f => if f.clave = clave t n then f.escribe p
      else f) = fun f => decide (f.clave = clave t' n') := by
    funext f
    simp only [Function.comp_apply, hcl]
  rw [hp]
  cases h : d.fichas.find? fun f => f.clave = clave t' n' with
  | none => rfl
  | some f =>
    have hf : f.clave = clave t' n' := by simpa using List.find?_some h
    simp only [Option.map_some, hf]

theorem claves_anota : (d.anota t n p).fichas.map Ficha.clave = d.fichas.map Ficha.clave :=
  map_clave_escribe d.fichas t n p

theorem claves_conVariable {c : TipoVar × List UInt8 × UInt16}
    (h : c ∈ (d.conVariable t n p).fichas.map Ficha.clave) : c ∈ d.fichas.map Ficha.clave ∨ c = clave t n := by
  by_cases hc : clave t n ∉ d.fichas.map Ficha.clave ∧ d.fichas.length < 510
  · rw [conVariable_fichas hc.1 hc.2, List.map_append, List.mem_append] at h
    exact h.imp_right List.mem_singleton.1
  · unfold conVariable at h
    rw [dif_neg hc] at h
    exact .inl h

theorem ficha_conVariable_of_ne (h : clave t' n' ≠ clave t n) :
    (d.conVariable t n p).ficha t' n' = d.ficha t' n' := by
  by_cases hc : clave t n ∉ d.fichas.map Ficha.clave ∧ d.fichas.length < 510
  · unfold ficha
    rw [conVariable_fichas hc.1 hc.2, List.find?_append]
    have : ([Ficha.nueva t n p].find? fun f => f.clave = clave t' n') = none := by
      rw [List.find?_eq_none]
      intro f hf
      rw [List.mem_singleton.1 hf]
      exact fun he => h (of_decide_eq_true he).symm
    rw [this, Option.or_none]
  · unfold conVariable
    rw [dif_neg hc]

theorem ficha_conVariable_of_some {f : Ficha} (h : d.ficha t n = some f) :
    (d.conVariable t n p).ficha t n = some f := by
  rw [conVariable_of_mem (mem_of_ficha h), h]

theorem ficha_conVariable_of_none (h : d.ficha t n = none) (hlt : d.fichas.length < 510) :
    (d.conVariable t n p).ficha t n = some (Ficha.nueva t n p) := by
  have hmem : clave t n ∉ d.fichas.map Ficha.clave := fun hm => mem_iff_ficha.1 hm h
  have h' := h
  unfold ficha at h ⊢
  rw [conVariable_fichas hmem hlt, List.find?_append, h, Option.none_or]
  simp [Ficha.clave, Ficha.nueva]

theorem sitio_anota {x : Nat} (hm : clave t' n' ∈ d.fichas.map Ficha.clave) (h : d.sitio t' n' = some x) :
    (d.anota t n p).sitio t' n' = some x := by
  obtain ⟨i, hi, he⟩ := exists_of_mem hm
  rw [sitio_of_clave hi he] at h
  have hi' : i < (d.anota t n p).fichas.length := by
    simp only [anota, List.length_map]
    exact hi
  refine (sitio_of_clave hi' ?_).trans h
  simp only [anota, List.getElem_map]
  split
  · rw [Ficha.clave_escribe, he]
  · exact he

/-! ### The calls on directories -/

/-- What `leeVariable` gives. -/
def lee (d : Directorio) (t : TipoVar) (n : Nombre) (p : Nat → UInt8) : Lectura :=
  match d.sitio t n with
  | some x => ⟨0, UInt16.ofNat x, (((d.conVariable t n p).ficha t n).map Ficha.valor).getD []⟩
  | none => ⟨0, 512, []⟩

theorem lee_of_ficha {f : Ficha} {x : Nat} (hf : d.ficha t n = some f) (hx : d.sitio t n = some x) :
    d.lee t n p = ⟨0, UInt16.ofNat x, f.valor⟩ := by
  unfold lee
  rw [hx, ficha_conVariable_of_some hf]
  rfl

/-- The directory after `escribeVar`. -/
def escribe (d : Directorio) (t : TipoVar) (n : Nombre) (p : Nat → UInt8) : Directorio :=
  (d.conVariable t n p).anota t n p

theorem escribe_of_mem (h : clave t n ∈ d.fichas.map Ficha.clave) :
    d.escribe t n p = d.anota t n p := by
  unfold escribe
  rw [conVariable_of_mem h]

/-- The next record of the variable, if it is there, stays in its sector. -/
def Admite (d : Directorio) (t : TipoVar) (n : Nombre) : Prop := ∀ f ∈ d.fichas, f.clave = clave t n → f.Admite

/-- A new variable has room for its second record. -/
theorem admite_conVariable (h : d.Admite t n) (p : Nat → UInt8) :
    (d.conVariable t n p).Admite t n := by
  by_cases hc : clave t n ∉ d.fichas.map Ficha.clave ∧ d.fichas.length < 510
  · intro f hf hcl
    rw [conVariable_fichas hc.1 hc.2] at hf
    rcases List.mem_append.1 hf with hf | hf
    · exact h f hf hcl
    · rw [List.mem_singleton.1 hf]
      intro _
      have := t.long_le
      show 51 + (1 + 1) * t.long ≤ 4096
      omega
  · unfold conVariable
    rw [dif_neg hc]
    exact h

end Directorio

/-- The flash holds the directory. -/
structure Representa (m : Mem) (d : Directorio) : Prop where
  fichas : ∀ i, ∀ h : i < d.fichas.length, d.fichas[i].En m (2 + i)
  blancos : ∀ x, 2 + d.fichas.length ≤ x → x ≤ 511 → Imagen m x [] 0 []

namespace Representa

variable {m : Mem} {d : Directorio} {t : TipoVar} {n : Nombre}

/-- Erased sectors hold the empty directory. -/
theorem vacio (h : ∀ x, 2 ≤ x → x ≤ 511 → ∀ o < 4096, m (4096 * x + o) = 0xFF) : Representa m Directorio.vacio where
  fichas i hi := absurd hi (Nat.not_lt_zero i)
  blancos x h2 h511 := Imagen.blanco (h x h2 h511)

theorem sec_cero (h : Representa m d) {x : Nat} (h2 : 2 ≤ x) (h511 : x ≤ 511) :
    sec m x 0 = 0xFF ↔ 2 + d.fichas.length ≤ x := by
  rcases Nat.lt_or_ge x (2 + d.fichas.length) with hlt | hge
  · have hf := h.fichas (x - 2) (by omega)
    rw [show 2 + (x - 2) = x by omega] at hf
    exact ⟨fun he => absurd he (hf.ne_ff (by omega)), fun hle => absurd hle (by omega)⟩
  · refine ⟨fun _ => hge, fun _ => ?_⟩
    rw [sec_eq (by omega) (by decide)]
    exact (h.blancos x hge h511).blanco_apply (by decide)

theorem en_sitio (h : Representa m d) {f : Ficha} {x : Nat} (hf : d.ficha t n = some f) (hx : d.sitio t n = some x) :
    f.En m x := by
  obtain ⟨i, hi, rfl, -, rfl⟩ := Directorio.exists_of_sitio hf hx
  exact h.fichas i hi

/-- A header matches exactly in the sector of the variable. -/
theorem coincide_iff (h : Representa m d) {x : Nat} (h2 : 2 ≤ x) (h511 : x ≤ 511) :
    Coincide (sec m x) t n n.suma ↔ ∃ hi : x - 2 < d.fichas.length, d.fichas[x - 2].clave = clave t n := by
  rcases Nat.lt_or_ge x (2 + d.fichas.length) with hlt | hge
  · have hf := h.fichas (x - 2) (by omega)
    rw [show 2 + (x - 2) = x by omega] at hf
    rw [hf.coincide_iff (by omega)]
    exact ⟨fun he => ⟨by omega, he⟩, fun ⟨_, he⟩ => he⟩
  · constructor
    · intro hc
      exact absurd ((h.sec_cero h2 h511).2 hge) hc.ne_ff
    · rintro ⟨hi, -⟩
      omega

private theorem paraEn_iff (h : Representa m d) {i : Nat} (hi : i < 510) :
    paraEn m t n (2 + i) = true ↔
      d.fichas.length ≤ i ∨ ∃ hi : i < d.fichas.length, d.fichas[i].clave = clave t n := by
  unfold paraEn
  rw [decide_eq_true_iff, h.sec_cero (by omega) (by omega), h.coincide_iff (by omega) (by omega)]
  simp only [Nat.add_sub_cancel_left, Nat.add_le_add_iff_left]

/-- The search ends at the variable or, when there is none, at the first blank sector. -/
theorem buscaSector_eq (h : Representa m d) : buscaSector m t n = d.sitio t n := by
  have hcabe := d.cabe
  unfold buscaSector
  by_cases hmem : clave t n ∈ d.fichas.map Ficha.clave
  · obtain ⟨i, hi, he⟩ := Directorio.exists_of_mem hmem
    rw [Directorio.sitio_of_clave hi he, List.find?_range'_eq_some]
    refine ⟨(h.paraEn_iff (by omega)).2 (.inr ⟨hi, he⟩), List.mem_range'_1.2 (by omega), fun j h2 hj => ?_⟩
    rw [Bool.not_eq_true', ← Bool.not_eq_true, show j = 2 + (j - 2) by omega, h.paraEn_iff (by omega)]
    rintro (hle | ⟨hj', he'⟩)
    · omega
    · have := d.indice_unico hj' hi (by rw [he', he])
      omega
  · have hno : ∀ i, ∀ hi : i < d.fichas.length, d.fichas[i].clave ≠ clave t n :=
      fun i hi he => hmem (List.mem_map.2 ⟨_, List.getElem_mem hi, he⟩)
    rw [Directorio.sitio_of_not_mem hmem]
    split
    · rename_i hlt
      rw [List.find?_range'_eq_some]
      refine ⟨(h.paraEn_iff (by omega)).2 (.inl (Nat.le_refl _)), List.mem_range'_1.2 (by omega), fun j h2 hj => ?_⟩
      rw [Bool.not_eq_true', ← Bool.not_eq_true, show j = 2 + (j - 2) by omega, h.paraEn_iff (by omega)]
      rintro (hle | ⟨hj', he'⟩)
      · omega
      · exact hno _ hj' he'
    · rename_i hge
      rw [List.find?_range'_eq_none]
      intro j h2 hj
      rw [Bool.not_eq_true', ← Bool.not_eq_true, show j = 2 + (j - 2) by omega, h.paraEn_iff (by omega)]
      rintro (hle | ⟨hj', he'⟩)
      · omega
      · exact hno _ hj' he'

/-- The hint makes no difference. -/
theorem localizaSector_eq (h : Representa m d) {s : UInt16} (hs : SectorOk s) :
    localizaSector m s t n = d.sitio t n := by
  unfold localizaSector
  split
  · rename_i hc
    obtain ⟨h2, h511⟩ := hs.resolve_left hc.1
    obtain ⟨hi, he⟩ := (h.coincide_iff h2 h511).1 hc.2
    rw [Directorio.sitio_of_clave hi he, show 2 + (s.toNat - 2) = s.toNat by omega]
  · exact h.buscaSector_eq

/-- Commands for other sectors leave a sector as it is. -/
private theorem imagen_frame {cs : List Cmd} {x k : Nat} {c b : List UInt8} (h : Imagen m x c k b)
    (hcs : ∀ c ∈ cs, c.addr / 4096 % 512 ≠ x) : Imagen (replay w25q16 cs m) x c k b :=
  h.congr fun _ ho => replay_of_sector ho hcs

/-- Commands for sectors the store does not use keep the directory. -/
theorem frame (h : Representa m d) {cs : List Cmd} (hcs : ∀ c ∈ cs, c.addr / 4096 % 512 < 2) :
    Representa (replay w25q16 cs m) d where
  fichas i hi := imagen_frame (h.fichas i hi) fun c hc => by
    have := hcs c hc
    omega
  blancos x h2 h511 := imagen_frame (h.blancos x h2 h511) fun c hc => by
    have := hcs c hc
    omega

/-- The search creates the variable when it is not there. -/
theorem crea (h : Representa m d) (t : TipoVar) (n : Nombre) (p : Nat → UInt8) :
    Representa (replay w25q16 (creaOrdenes m t n p (d.sitio t n)) m) (d.conVariable t n p) ∧
      ExactAll w25q16 (creaOrdenes m t n p (d.sitio t n)) m := by
  have hcabe := d.cabe
  by_cases hmem : clave t n ∈ d.fichas.map Ficha.clave
  · obtain ⟨i, hi, he⟩ := Directorio.exists_of_mem hmem
    rw [Directorio.conVariable_of_mem hmem, Directorio.sitio_of_clave hi he]
    unfold creaOrdenes
    dsimp only
    rw [if_neg ((h.fichas i hi).ne_ff (by omega))]
    exact ⟨h, trivial⟩
  rw [Directorio.sitio_of_not_mem hmem]
  by_cases hlt : d.fichas.length < 510
  · have hx : (UInt16.ofNat (2 + d.fichas.length)).toNat = 2 + d.fichas.length := toNat_sector (by omega)
    have hb := h.blancos (2 + d.fichas.length) (Nat.le_refl _) (by omega)
    rw [if_pos hlt]
    unfold creaOrdenes
    dsimp only
    rw [if_pos ((h.sec_cero (by omega) (by omega)).2 (Nat.le_refl _))]
    obtain ⟨h1, e1⟩ := Ficha.nueva_en (s := UInt16.ofNat (2 + d.fichas.length)) (m := m) (t := t) (n := n) (by omega) p
      (by rw [hx]; exact hb)
    rw [hx] at h1
    have haddr : ∀ c ∈ initOrdenes (UInt16.ofNat (2 + d.fichas.length)) t n p,
        c.addr / 4096 = 2 + d.fichas.length := fun c hc => by rw [addr_initOrdenes hc, hx]
    refine ⟨⟨fun i hi => ?_, fun x h2 h511 => ?_⟩, e1⟩
    · simp only [Directorio.conVariable_fichas (p := p) hmem hlt] at hi ⊢
      rw [List.length_append, List.length_singleton] at hi
      rcases Nat.lt_or_ge i d.fichas.length with hlt' | hge
      · rw [List.getElem_append_left hlt']
        exact imagen_frame (h.fichas i hlt') fun c hc => by
          have := haddr c hc
          omega
      · have hi' : i = d.fichas.length := by omega
        subst hi'
        rw [List.getElem_append_right (Nat.le_refl _)]
        simp only [Nat.sub_self, List.getElem_singleton]
        exact h1
    · rw [Directorio.conVariable_fichas hmem hlt, List.length_append, List.length_singleton] at h2
      exact imagen_frame (h.blancos x (by omega) h511) fun c hc => by
        have := haddr c hc
        omega
  · rw [if_neg hlt, Directorio.conVariable_of_lleno hlt]
    exact ⟨h, trivial⟩

/-- A write to a variable that is there. -/
theorem anota (h : Representa m d) {i : Nat} (hi : i < d.fichas.length) (hc : d.fichas[i].clave = clave t n)
    (ha : d.fichas[i].Admite) (p : Nat → UInt8) :
    Representa (replay w25q16 (escribeOrdenes m (UInt16.ofNat (2 + i)) t n p) m) (d.anota t n p) ∧
      ExactAll w25q16 (escribeOrdenes m (UInt16.ofNat (2 + i)) t n p) m := by
  have hcabe := d.cabe
  have hx : (UInt16.ofNat (2 + i)).toNat = 2 + i := toNat_sector (by omega)
  have hen := h.fichas i hi
  have ht : d.fichas[i].tipo = t := congrArg Prod.fst hc
  have hnom : d.fichas[i].nombre.grabado = n.grabado := congrArg Prod.snd hc
  have hesc := Ficha.En.escribe (s := UInt16.ofNat (2 + i)) (by omega) (by rw [hx]; exact hen) ha p
  have haddr := fun c hc => Ficha.En.addr_escribe (s := UInt16.ofNat (2 + i)) (p := p) (c := c) (by omega)
    (by rw [hx]; exact hen) ha hc
  rw [ht, escribeOrdenes_congr hnom, hx] at hesc haddr
  refine ⟨⟨fun j hj => ?_, fun x h2 h511 => ?_⟩, hesc.2⟩
  · have hj' : j < d.fichas.length := by simpa [Directorio.anota] using hj
    simp only [Directorio.anota, List.getElem_map]
    by_cases hji : j = i
    · subst hji
      rw [if_pos hc]
      exact hesc.1
    · rw [if_neg fun he => hji (d.indice_unico hj' hi (he.trans hc.symm))]
      exact imagen_frame (h.fichas j hj') fun c hc => by
        have := haddr c hc
        omega
  · simp only [Directorio.anota, List.length_map] at h2
    exact imagen_frame (h.blancos x h2 h511) fun c hc => by
      have := haddr c hc
      omega

/-- `leeVariable` on a represented flash. -/
theorem leeVariable (h : Representa m d) {s : UInt16} (hs : SectorOk s) (hn : n.chars.length ≤ 255)
    (p : Nat → UInt8) :
    Gives (Wiznet.leeVariable s t n p) m (d.lee t n p) (creaOrdenes m t n p (d.sitio t n))
      {x | 2 ≤ x ∧ x ≤ 512} := by
  have hloc := h.localizaSector_eq (t := t) (n := n) hs
  have hrep := (h.crea t n p).1
  unfold Directorio.lee
  cases hsit : d.sitio t n with
  | none =>
    refine (leeVariable_none hs hn p (hloc.trans hsit)).mono fun y hy => ⟨hy.1, Nat.le_succ_of_le hy.2⟩
  | some x =>
    rw [hsit] at hrep
    obtain ⟨i, hi, hc, rfl⟩ := Directorio.conVariable_sitio hsit p
    have hcabe := (d.conVariable t n p).cabe
    have hv := (hrep.fichas i hi).valorEn_eq (by omega)
    have ht : (d.conVariable t n p).fichas[i].tipo = t := congrArg Prod.fst hc
    have hg := leeVariable_some hs hn p (hloc.trans hsit)
    rw [ht] at hv
    rw [hv] at hg
    rw [Directorio.ficha_of_clave hi hc]
    exact hg

/-- `escribeVar` on a represented flash.  In a full store the call without a hint writes, but outside the store. -/
theorem escribeVar (h : Representa m d) {s : UInt16} (hs : SectorOk s) (hn : n.chars.length ≤ 255)
    (ha : d.Admite t n) (p : Nat → UInt8) :
    Representa (replay w25q16 (escribeVarOrdenes m s t n p) m) (d.escribe t n p) ∧
      (d.sitio t n ≠ none → ExactAll w25q16 (escribeVarOrdenes m s t n p) m) := by
  have hloc := h.localizaSector_eq (t := t) (n := n) hs
  unfold escribeVarOrdenes
  rw [hloc]
  cases hsit : d.sitio t n with
  | some x =>
    obtain ⟨hrep, hex⟩ := h.crea t n p
    rw [hsit] at hrep hex
    obtain ⟨i, hi, hc, rfl⟩ := Directorio.conVariable_sitio hsit p
    obtain ⟨h1, e1⟩ := hrep.anota hi hc (Directorio.admite_conVariable ha p _ (List.getElem_mem hi) hc) p
    dsimp only
    rw [NorFlash.replay_append]
    exact ⟨h1, fun _ => hex.append e1⟩
  | none =>
    obtain ⟨hmem, hfull⟩ := Directorio.sitio_none hsit
    refine ⟨?_, fun hne => absurd rfl hne⟩
    have hd : d.escribe t n p = d := by
      unfold Directorio.escribe
      rw [Directorio.conVariable_of_lleno hfull]
      exact Directorio.anota_of_not_mem hmem p
    rw [hd]
    dsimp only
    by_cases h0 : s = 0
    · rw [if_pos h0]
      refine h.frame fun c hc => ?_
      have := (escribeEnSector_gives (m := m) (s := 512) (by decide) t hn p).addr_mem hc
      have h1 : 512 ≤ c.addr / 4096 := this.1
      have h2 : c.addr / 4096 ≤ 513 := this.2
      omega
    · rw [if_neg h0]
      exact h

end Representa

end Wiznet
