import Wiznet.Store.Tipadas
import Mathlib.Logic.Function.Basic

/-!
# The store as a map

The typed calls against the map they are meant to keep (`Mapa`): a read of an absent variable stores the default, a
write stores its value.  Each sector also has a life of its own (`Desgaste`): the value it was initialised with and
the number of changes since.  The FAT counts up to 128 changes; when they are used up the reader takes position 0,
the initial value, until the next write erases the sector.  So the store delivers what the map holds exactly where
the current life has seen fewer than 128 changes or has come back to its initial value.
-/

namespace Wiznet

open NorFlash (Mem Cmd replay)
open Stateful (bind_ok)
open W25Q16

/-! ### Numbers of two widths -/

inductive Ancho where
  | u8
  | u16
  deriving DecidableEq

namespace Ancho

abbrev Num : Ancho → Type
  | u8 => UInt8
  | u16 => UInt16

instance : (a : Ancho) → DecidableEq a.Num
  | u8 => inferInstanceAs (DecidableEq UInt8)
  | u16 => inferInstanceAs (DecidableEq UInt16)

instance : (a : Ancho) → LT a.Num
  | u8 => inferInstanceAs (LT UInt8)
  | u16 => inferInstanceAs (LT UInt16)

instance : (a : Ancho) → DecidableLT a.Num
  | u8 => inferInstanceAs (DecidableLT UInt8)
  | u16 => inferInstanceAs (DecidableLT UInt16)

def entero : (a : Ancho) → Entero a.Num
  | u8 => enteroU8
  | u16 => enteroU16

def minimo : (a : Ancho) → a.Num
  | u8 => (0 : UInt8)
  | u16 => (0 : UInt16)

def maximo : (a : Ancho) → a.Num
  | u8 => (0xFF : UInt8)
  | u16 => (0xFFFF : UInt16)

/-- The read of this width. -/
def lee : (a : Ancho) → UInt16 → Nombre → (valorMin valorMax valorDefault valor basura : a.Num) →
    SpiM (LecturaEntera a.Num)
  | u8 => leeVariableU8
  | u16 => leeVariableU16

/-- The write of this width. -/
def escribe : (a : Ancho) → UInt16 → Nombre → (valor valorInt basura : a.Num) → SpiM (Int16 × UInt16)
  | u8 => escribeVarU8
  | u16 => escribeVarU16

theorem lee_eq (a : Ancho) : a.lee = leeEntero a.entero := by cases a <;> rfl

theorem escribe_eq (a : Ancho) : a.escribe = escribeEntero a.entero a.minimo a.maximo := by cases a <;> rfl

theorem no_menor : ∀ (a : Ancho) (v : a.Num), ¬ v < a.minimo
  | u8, _ => fun h => Nat.not_lt_zero _ (UInt8.lt_iff_toNat_lt.1 h)
  | u16, _ => fun h => Nat.not_lt_zero _ (UInt16.lt_iff_toNat_lt.1 h)

theorem no_mayor : ∀ (a : Ancho) (v : a.Num), ¬ a.maximo < v
  | u8, v => fun h => Nat.not_lt_of_le (Nat.le_of_lt_succ v.toNat_lt) (UInt8.lt_iff_toNat_lt.1 h)
  | u16, v => fun h => Nat.not_lt_of_le (Nat.le_of_lt_succ v.toNat_lt) (UInt16.lt_iff_toNat_lt.1 h)

theorem long_le (a : Ancho) : a.entero.tipo.long ≤ 8 := by cases a <;> decide

theorem tipo_inj : ∀ {a a' : Ancho}, a.entero.tipo = a'.entero.tipo → a = a'
  | u8, u8, _ => rfl
  | u8, u16, h => absurd h (by decide)
  | u16, u8, h => absurd h (by decide)
  | u16, u16, _ => rfl

end Ancho

/-! ### Calls, map and wear -/

inductive Llamada where
  | lee (a : Ancho) (sectorParam : UInt16) (nombParam : Nombre)
      (valorMin valorMax valorDefault valor basura : a.Num)
  | escribe (a : Ancho) (sectorParam : UInt16) (nombVar : Nombre) (valor valorInt basura : a.Num)

namespace Llamada

def var : Llamada → Ancho × Nombre
  | lee a _ n _ _ _ _ _ => (a, n)
  | escribe a _ n _ _ _ => (a, n)

def sectorParam : Llamada → UInt16
  | lee _ s _ _ _ _ _ _ => s
  | escribe _ s _ _ _ _ => s

def llama : Llamada → SpiM Unit
  | lee a s n mn mx d v g => do let _ ← a.lee s n mn mx d v g; return
  | escribe a s n v w g => do let _ ← a.escribe s n v w g; return

/-- The calls of a list, in order. -/
def llamaTodas : List Llamada → SpiM Unit
  | [] => return
  | l :: ls => do
    l.llama
    llamaTodas ls

end Llamada

section Tablas

variable {β : Ancho → Type}

/-- A table of values by variable, with one more entry. -/
def pon (g : (a : Ancho) → Nombre → Option (β a)) (a : Ancho) (n : Nombre) (v : β a) :
    (a : Ancho) → Nombre → Option (β a) :=
  Function.update g a (Function.update (g a) n (some v))

theorem pon_self (g : (a : Ancho) → Nombre → Option (β a)) (a : Ancho) (n : Nombre) (v : β a) :
    pon g a n v a n = some v := by
  unfold pon
  rw [Function.update_self, Function.update_self]

theorem pon_pon (g : (a : Ancho) → Nombre → Option (β a)) (a : Ancho) (n : Nombre) (v v' : β a) :
    pon (pon g a n v) a n v' = pon g a n v' := by
  unfold pon
  rw [Function.update_idem, Function.update_self, Function.update_idem]

theorem pon_of_ne (g : (a : Ancho) → Nombre → Option (β a)) {a a' : Ancho} {n n' : Nombre} (v : β a)
    (h : (a', n') ≠ (a, n)) : pon g a n v a' n' = g a' n' := by
  unfold pon
  by_cases ha : a' = a
  · subst ha
    have hn : n' ≠ n := fun hn => h (by rw [hn])
    rw [Function.update_self, Function.update_of_ne hn]
  · rw [Function.update_of_ne ha]

end Tablas

/-- The values the variables are meant to have. -/
abbrev Mapa := (a : Ancho) → Nombre → Option a.Num

/-- The map after a call. -/
def Mapa.tras (g : Mapa) : Llamada → Mapa
  | .lee a _ n _ _ d _ _ => match g a n with
    | some _ => g
    | none => pon g a n d
  | .escribe a _ n v _ _ => pon g a n v

/-- The life of a sector: the value it was initialised with, the changes of value since, and the value last asked
for. -/
structure Desgaste (α : Type) where
  inicial : α
  cambios : Nat
  actual : α

namespace Desgaste

variable {α : Type} [DecidableEq α]

/-- A sector just initialised. -/
def nuevo (v : α) : Desgaste α := ⟨v, 0, v⟩

/-- A write.  After 128 changes the reader sees the initial value: a write of that value does nothing, and another
one starts a new life. -/
def escribe (w : Desgaste α) (v : α) : Desgaste α :=
  if w.cambios < 128 then
    if v = w.actual then w else ⟨w.inicial, w.cambios + 1, v⟩
  else if v = w.inicial then ⟨w.inicial, w.cambios, v⟩
  else nuevo v

omit [DecidableEq α] in
/-- Where a read delivers the current value. -/
def Vigente (w : Desgaste α) : Prop := w.cambios < 128 ∨ w.actual = w.inicial

theorem escribe_actual (w : Desgaste α) (v : α) : (w.escribe v).actual = v := by
  unfold escribe
  split
  · split
    · rename_i h
      exact h.symm
    · rfl
  · split <;> rfl

end Desgaste

abbrev Desgastes := (a : Ancho) → Nombre → Option (Desgaste a.Num)

namespace Desgastes

/-- With the variable, created with a default when it is absent. -/
def con (g : Desgastes) (a : Ancho) (n : Nombre) (d : a.Num) : Desgastes :=
  match g a n with
  | some _ => g
  | none => pon g a n (.nuevo d)

theorem con_of_some {g : Desgastes} {a : Ancho} {n : Nombre} {w : Desgaste a.Num} (h : g a n = some w) (d : a.Num) :
    g.con a n d = g := by
  unfold con
  rw [h]

theorem con_of_none {g : Desgastes} {a : Ancho} {n : Nombre} (h : g a n = none) (d : a.Num) :
    g.con a n d = pon g a n (.nuevo d) := by
  unfold con
  rw [h]

/-- The sector lives after a call. -/
def tras (g : Desgastes) : Llamada → Desgastes
  | .lee a _ n _ _ d _ _ => g.con a n d
  | .escribe a _ n v _ _ => match g a n with
    | some w => pon g a n (w.escribe v)
    | none => pon g a n (.nuevo v)

/-- A write is a creation and a change. -/
theorem tras_escribe {g : Desgastes} {a : Ancho} {n : Nombre} {v : a.Num} {w : Desgaste a.Num}
    (h : g.con a n v a n = some w) (s : UInt16) (valorInt basura : a.Num) :
    g.tras (.escribe a s n v valorInt basura) = pon (g.con a n v) a n (w.escribe v) := by
  unfold tras
  cases hg : g a n with
  | some w' =>
    rw [con_of_some hg] at h ⊢
    rw [hg] at h
    cases h
    simp only [hg]
  | none =>
    rw [con_of_none hg] at h ⊢
    rw [pon_self] at h
    cases h
    have hv : (Desgaste.nuevo v).escribe v = .nuevo v := (if_pos (by decide : 0 < 128)).trans (if_pos rfl)
    simp only [hg, pon_pon, hv]

/-- The map that goes with it. -/
def mapa (g : Desgastes) : Mapa := fun a n => (g a n).map Desgaste.actual

theorem mapa_pon (g : Desgastes) (a : Ancho) (n : Nombre) (w : Desgaste a.Num) :
    mapa (pon g a n w) = pon g.mapa a n w.actual := by
  funext a' n'
  by_cases h : (a', n') = (a, n)
  · cases h
    simp only [mapa, pon_self, Option.map_some]
  · simp only [mapa, pon_of_ne _ _ h]

/-- The wear keeps the map. -/
theorem mapa_tras (g : Desgastes) (l : Llamada) : (g.tras l).mapa = Mapa.tras g.mapa l := by
  cases l with
  | lee a s n mn mx d v u =>
    simp only [tras, con, Mapa.tras, mapa]
    cases h : g a n with
    | some w => rfl
    | none => exact mapa_pon g a n _
  | escribe a s n v u u' =>
    simp only [tras, Mapa.tras]
    cases h : g a n with
    | some w =>
      dsimp only
      rw [mapa_pon, Desgaste.escribe_actual]
    | none => exact mapa_pon g a n _

theorem mapa_foldl (ls : List Llamada) (g : Desgastes) :
    mapa (ls.foldl tras g) = ls.foldl Mapa.tras g.mapa := by
  induction ls generalizing g with
  | nil => rfl
  | cons l ls ih => rw [List.foldl_cons, List.foldl_cons, ih, mapa_tras]

end Desgastes

/-! ### The flash and the wear -/

namespace Desgaste

variable {α : Type}

/-- What a read delivers. -/
def leido (w : Desgaste α) : α := if w.cambios < 128 then w.actual else w.inicial

theorem leido_eq_actual_iff (w : Desgaste α) : w.leido = w.actual ↔ w.Vigente := by
  unfold leido Vigente
  by_cases hc : w.cambios < 128
  · rw [if_pos hc]
    exact ⟨fun _ => .inl hc, fun _ => rfl⟩
  · rw [if_neg hc]
    exact ⟨fun he => .inr he.symm, fun h => (h.resolve_left hc).symm⟩

end Desgaste

/-- The record bytes of a number. -/
def Ancho.registro (a : Ancho) (v : a.Num) : List UInt8 := bytesDe (a.entero.bytes v) a.entero.tipo.long

/-- The records of the variable are those of this life: the initial value first, one for each change, and the current
value last while there are positions left. -/
structure Lleva (a : Ancho) (f : Ficha) (w : Desgaste a.Num) : Prop where
  cambios : f.historial.length = w.cambios + 1
  primero : f.historial[0]? = some (a.registro w.inicial)
  ultimo : w.cambios < 128 → f.historial[w.cambios]? = some (a.registro w.actual)

namespace Lleva

variable {a : Ancho} {f : Ficha} {w : Desgaste a.Num}

theorem nueva (a : Ancho) (n : Nombre) (v : a.Num) :
    Lleva a (Ficha.nueva a.entero.tipo n (a.entero.bytes v)) (.nuevo v) where
  cambios := rfl
  primero := rfl
  ultimo _ := rfl

theorem valor_eq (h : Lleva a f w) (basura : a.Num) : a.entero.deBytes basura f.valor = w.leido := by
  have hu : f.usadas = w.cambios := by
    have := h.cambios
    unfold Ficha.usadas
    omega
  have hval : f.historial[f.leida]? = some f.valor := List.getElem?_eq_getElem f.leida_lt
  have hreg : f.valor = a.registro w.leido := by
    unfold Ficha.leida at hval
    unfold Desgaste.leido
    rw [hu] at hval
    by_cases hc : w.cambios < 128
    · rw [if_pos hc, h.ultimo hc] at hval
      rw [if_pos hc]
      exact (Option.some.inj hval).symm
    · rw [if_neg hc, h.primero] at hval
      rw [if_neg hc]
      exact (Option.some.inj hval).symm
  rw [hreg]
  exact a.entero.deBytes_bytes basura w.leido

/-- A write of the value that is read leaves the records as they are. -/
theorem repite (h : Lleva a f w) : Lleva a f (w.escribe w.leido) := by
  unfold Desgaste.escribe Desgaste.leido
  by_cases hc : w.cambios < 128
  · rw [if_pos hc, if_pos hc, if_pos rfl]
    exact h
  · rw [if_neg hc, if_neg hc, if_pos rfl]
    exact ⟨h.cambios, h.primero, fun hc' => absurd hc' hc⟩

theorem escribe (h : Lleva a f w) (ht : f.tipo = a.entero.tipo) {v : a.Num} (hv : w.leido ≠ v) :
    Lleva a (f.escribe (a.entero.bytes v)) (w.escribe v) := by
  have hcam := h.cambios
  have hlong : f.tipo.long ≤ 8 := by rw [ht]; exact a.long_le
  unfold Desgaste.leido at hv
  unfold Desgaste.escribe
  by_cases hc : w.cambios < 128
  · rw [if_pos hc] at hv
    rw [if_pos hc, if_neg (Ne.symm hv)]
    have hk : f.usadas < 128 := by
      unfold Ficha.usadas
      omega
    obtain ⟨-, -, hh⟩ := Ficha.escribe_of_sigue ⟨hk, Ficha.admite_of_long_le hlong hk⟩ (a.entero.bytes v)
    rw [ht] at hh
    refine ⟨by rw [hh, List.length_append, hcam]; rfl, ?_, fun _ => ?_⟩
    · rw [hh, List.getElem?_append_left (by omega), h.primero]
    · rw [hh, ← hcam, List.getElem?_concat_length]
      rfl
  · -- the positions are used up: a new life
    rw [if_neg hc] at hv
    rw [if_neg hc, if_neg (Ne.symm hv), Ficha.escribe_of_not_sigue fun hs => ?_, ht]
    · exact nueva a f.nombre v
    · have := hs.1
      unfold Ficha.usadas at this
      omega

end Lleva

/-- The flash holds a directory of the variables in `vars` and no others, each with its life. -/
structure Refleja (vars : List (Ancho × Nombre)) (g : Desgastes) (m : Mem) (d : Directorio) : Prop where
  representa : Representa m d
  claves : ∀ c ∈ d.fichas.map Ficha.clave, c ∈ vars.map fun v => clave v.1.entero.tipo v.2
  acuerdo : ∀ v ∈ vars, Option.Rel (Lleva v.1) (d.ficha v.1.entero.tipo v.2) (g v.1 v.2)

namespace Refleja

variable {vars : List (Ancho × Nombre)} {g : Desgastes} {m : Mem} {d : Directorio} {a : Ancho} {n : Nombre}

/-- With fewer variables than sectors there is always room. -/
theorem hay_sitio (h : Refleja vars g m d) (hv : vars.length < 510) : d.fichas.length < 510 := by
  have := d.distintas.length_le_of_subset h.claves
  rw [List.length_map, List.length_map] at this
  omega

theorem sitio_some (h : Refleja vars g m d) (hv : vars.length < 510) (t : TipoVar) (n : Nombre) :
    ∃ x, d.sitio t n = some x := by
  cases hx : d.sitio t n with
  | some x => exact ⟨x, rfl⟩
  | none => exact absurd (h.hay_sitio hv) (Directorio.sitio_none hx).2

theorem distintas (hn : ∀ v ∈ vars, v.2.chars.length ≤ 31) {v : Ancho × Nombre} (ha : (a, n) ∈ vars) (hv : v ∈ vars)
    (hne : v ≠ (a, n)) : clave v.1.entero.tipo v.2 ≠ clave a.entero.tipo n := by
  intro he
  obtain ⟨ht, hnom⟩ := (clave_inj (hn v hv) (hn (a, n) ha)).1 he
  exact hne (Prod.ext (Ancho.tipo_inj ht) hnom)

/-- A change of one variable. -/
theorem pon (h : Refleja vars g m d) {m' : Mem} {d' : Directorio} {f : Ficha} {w : Desgaste a.Num}
    (hrep : Representa m' d') (ha : (a, n) ∈ vars)
    (hcl : ∀ c ∈ d'.fichas.map Ficha.clave, c ∈ d.fichas.map Ficha.clave ∨ c = clave a.entero.tipo n)
    (hmas : ∀ v ∈ vars, v ≠ (a, n) → d'.ficha v.1.entero.tipo v.2 = d.ficha v.1.entero.tipo v.2)
    (hf : d'.ficha a.entero.tipo n = some f) (hw : Lleva a f w) : Refleja vars (Wiznet.pon g a n w) m' d' where
  representa := hrep
  claves c hc := by
    rcases hcl c hc with hc | rfl
    · exact h.claves c hc
    · exact List.mem_map.2 ⟨(a, n), ha, rfl⟩
  acuerdo v hv := by
    by_cases hva : v = (a, n)
    · subst hva
      rw [pon_self, hf]
      exact .some hw
    · rw [pon_of_ne g w hva, hmas v hv hva]
      exact h.acuerdo v hv

/-- The search leaves the variable there, with a life. -/
theorem busca (h : Refleja vars g m d) (hv : vars.length < 510) (hn : ∀ v ∈ vars, v.2.chars.length ≤ 31)
    (ha : (a, n) ∈ vars) (v : a.Num) :
    ∃ x f w, d.sitio a.entero.tipo n = some x ∧
      (d.conVariable a.entero.tipo n (a.entero.bytes v)).ficha a.entero.tipo n = some f ∧
      g.con a n v a n = some w ∧ Lleva a f w ∧
      Refleja vars (g.con a n v) (replay w25q16 (creaOrdenes m a.entero.tipo n (a.entero.bytes v) (some x)) m)
        (d.conVariable a.entero.tipo n (a.entero.bytes v)) := by
  obtain ⟨x, hx⟩ := h.sitio_some hv a.entero.tipo n
  obtain ⟨hrep, -⟩ := h.representa.crea a.entero.tipo n (a.entero.bytes v)
  rw [hx] at hrep
  have hac := h.acuerdo (a, n) ha
  cases hf : d.ficha a.entero.tipo n with
  | some f =>
    simp only [hf] at hac
    cases hg : g a n with
    | none => rw [hg] at hac; cases hac
    | some w =>
      rw [hg] at hac
      have hcon := Desgastes.con_of_some hg v
      have hd : d.conVariable a.entero.tipo n (a.entero.bytes v) = d :=
        Directorio.conVariable_of_mem (Directorio.mem_of_ficha hf)
      cases hac with
      | some hl =>
        refine ⟨x, f, w, hx, by rw [hd, hf], by rw [hcon, hg], hl, ?_⟩
        rw [hcon]
        rw [hd] at hrep ⊢
        exact ⟨hrep, h.claves, h.acuerdo⟩
  | none =>
    simp only [hf] at hac
    cases hg : g a n with
    | some w => rw [hg] at hac; cases hac
    | none =>
      have hcon := Desgastes.con_of_none hg v
      have hnueva := Directorio.ficha_conVariable_of_none (p := a.entero.bytes v) hf (h.hay_sitio hv)
      refine ⟨x, _, _, hx, hnueva, by rw [hcon, pon_self], Lleva.nueva a n v, ?_⟩
      rw [hcon]
      exact h.pon hrep ha (fun c hc => Directorio.claves_conVariable hc)
        (fun u hu hne => Directorio.ficha_conVariable_of_ne (distintas hn ha hu hne)) hnueva (Lleva.nueva a n v)

/-- A read delivers what the life of the sector has left. -/
theorem lee (h : Refleja vars g m d) (hv : vars.length < 510) (hn : ∀ v ∈ vars, v.2.chars.length ≤ 31)
    (ha : (a, n) ∈ vars) {s : UInt16} (hs : SectorOk s) (valorMin valorMax valorDefault valor basura : a.Num) :
    ∃ x w mods, g.con a n valorDefault a n = some w ∧
      Gives (a.lee s n valorMin valorMax valorDefault valor basura) m (acota valorMin valorMax (UInt16.ofNat x) w.leido)
        mods {y | 2 ≤ y ∧ y ≤ 513} ∧
      Refleja vars (g.con a n valorDefault) (replay w25q16 mods m)
        (d.conVariable a.entero.tipo n (a.entero.bytes valorDefault)) := by
  obtain ⟨x, f, w, hx, hf, hw, hl, hr⟩ := h.busca hv hn ha valorDefault
  have hlen : n.chars.length ≤ 255 := Nat.le_trans (hn _ ha) (by decide)
  have hg := leeEntero_gives h.representa hs hlen valorMin valorMax valorDefault valor basura hx hf
  rw [hl.valor_eq, ← a.lee_eq] at hg
  exact ⟨x, w, _, hw, hg.mono fun y hy => ⟨hy.1, Nat.le_succ_of_le hy.2⟩, hr⟩

theorem escribe (h : Refleja vars g m d) (hv : vars.length < 510) (hn : ∀ v ∈ vars, v.2.chars.length ≤ 31)
    (ha : (a, n) ∈ vars) {s : UInt16} (hs : SectorOk s) (valor valorInt basura : a.Num) :
    ∃ x mods d', Gives (a.escribe s n valor valorInt basura) m (0, UInt16.ofNat x) mods {y | 2 ≤ y ∧ y ≤ 513} ∧
      Refleja vars (g.tras (.escribe a s n valor valorInt basura)) (replay w25q16 mods m) d' := by
  obtain ⟨x, f, w, hx, hf, hw, hl, hr⟩ := h.busca hv hn ha valor
  have hlen : n.chars.length ≤ 255 := Nat.le_trans (hn _ ha) (by decide)
  obtain ⟨mods, hg, hrep⟩ := escribeEntero_gives h.representa hs hlen a.no_menor a.no_mayor a.long_le valor valorInt
    basura hx hf
  rw [← a.escribe_eq] at hg
  rw [hl.valor_eq] at hrep
  rw [Desgastes.tras_escribe hw]
  by_cases hval : w.leido = valor
  · rw [if_pos hval] at hrep
    exact ⟨x, mods, _, hg, hr.pon hrep ha (fun c hc => .inl hc) (fun _ _ _ => rfl) hf (hval ▸ hl.repite)⟩
  · rw [if_neg hval] at hrep
    refine ⟨x, mods, _, hg, hr.pon hrep ha (fun c hc => .inl ?_) (fun u hu hne => ?_) ?_
      (hl.escribe (Directorio.tipo_of_ficha hf) hval)⟩
    · rwa [Directorio.claves_anota] at hc
    · rw [Directorio.ficha_anota]
      simp only [if_neg (distintas hn ha hu hne), Option.map_id']
    · rw [Directorio.ficha_anota, hf]
      simp

/-- One call. -/
theorem paso (h : Refleja vars g m d) (hv : vars.length < 510) (hn : ∀ v ∈ vars, v.2.chars.length ≤ 31) {l : Llamada}
    (hl : l.var ∈ vars) (hs : SectorOk l.sectorParam) :
    ∃ mods d', Gives l.llama m () mods {y | 2 ≤ y ∧ y ≤ 513} ∧ Refleja vars (g.tras l) (replay w25q16 mods m) d' := by
  cases l with
  | lee a s n mn mx df v u =>
    obtain ⟨x, w, mods, -, hg, hr⟩ := h.lee hv hn hl hs mn mx df v u
    exact ⟨mods, _, hg.bind_pure fun _ => (), hr⟩
  | escribe a s n v w u =>
    obtain ⟨x, mods, d', hg, hr⟩ := h.escribe hv hn hl hs v w u
    exact ⟨mods, d', hg.bind_pure fun _ => (), hr⟩

/-- Any number of calls. -/
theorem corre (hv : vars.length < 510) (hn : ∀ v ∈ vars, v.2.chars.length ≤ 31) (ls : List Llamada) {b : Bus}
    (hb : b.Listo) (h : Refleja vars g b.chip.mem d) (hls : ∀ l ∈ ls, l.var ∈ vars ∧ SectorOk l.sectorParam) :
    ∃ b' d', Llamada.llamaTodas ls b = .ok () b' ∧ b'.Listo ∧
      Refleja vars (ls.foldl Desgastes.tras g) b'.chip.mem d' := by
  induction ls generalizing b g d with
  | nil => exact ⟨b, d, rfl, hb, h⟩
  | cons l ls ih =>
    obtain ⟨hl, hs⟩ := hls l (List.mem_cons_self ..)
    obtain ⟨mods, d₁, hg, hr⟩ := h.paso hv hn hl hs
    obtain ⟨b₁, log, e₁, he⟩ := hg.ejecuta hb
    rw [← he.mem] at hr
    obtain ⟨b', d', e', hb', hr'⟩ := ih he.listo hr fun l' hl' => hls l' (List.mem_cons_of_mem _ hl')
    refine ⟨b', d', ?_, hb', hr'⟩
    show (l.llama >>= fun _ => Llamada.llamaTodas ls) b = .ok () b'
    rw [bind_ok e₁, e']

end Refleja

/-! ### What reads deliver -/

def Mapa.vacio : Mapa := fun _ _ => none

def Desgastes.vacio : Desgastes := fun _ _ => none

theorem Refleja.vacio {vars : List (Ancho × Nombre)} {m : Mem}
    (h : ∀ x ∈ sectoresVars, ∀ o < 4096, m (4096 * x + o) = 0xFF) :
    Refleja vars Desgastes.vacio m Directorio.vacio where
  representa := Representa.vacio fun x h2 h511 => h x ⟨h2, h511⟩
  claves c hc := by cases hc
  acuerdo v _ := .none

/-- What a read over the full range delivers after any run, and what the map holds. -/
theorem lee_tras_corrida (vars : List (Ancho × Nombre)) (hv : vars.length < 510)
    (hn : ∀ v ∈ vars, v.2.chars.length ≤ 31) {b : Bus} (hb : b.Listo)
    (hblank : ∀ x ∈ sectoresVars, ∀ o < 4096, b.chip.mem (4096 * x + o) = 0xFF) (ls : List Llamada)
    (hls : ∀ l ∈ ls, l.var ∈ vars ∧ SectorOk l.sectorParam) :
    ∃ b₁, Llamada.llamaTodas ls b = .ok () b₁ ∧ ∀ a n, (a, n) ∈ vars → ∀ s, SectorOk s → ∀ valorDefault valor basura,
      ∃ w x b₂, (ls.foldl Desgastes.tras .vacio).con a n valorDefault a n = some w ∧
        a.lee s n a.minimo a.maximo valorDefault valor basura b₁ = .ok ⟨0, UInt16.ofNat x, w.leido⟩ b₂ ∧
        (ls.foldl Mapa.tras .vacio).tras (.lee a s n a.minimo a.maximo valorDefault valor basura) a n =
          some w.actual := by
  obtain ⟨b₁, d, e, hb₁, h⟩ := Refleja.corre hv hn ls hb (Refleja.vacio hblank) hls
  refine ⟨b₁, e, fun a n ha s hs df v u => ?_⟩
  obtain ⟨x, w, mods, hw, hg, -⟩ := h.lee hv hn ha hs a.minimo a.maximo df v u
  rw [acota_dentro (a.no_menor _) (a.no_mayor _)] at hg
  obtain ⟨b₂, -, e₂, -⟩ := hg.ejecuta hb₁
  refine ⟨w, x, b₂, hw, e₂, ?_⟩
  have hmapa : (ls.foldl Desgastes.tras .vacio).mapa = ls.foldl Mapa.tras .vacio := Desgastes.mapa_foldl ls .vacio
  rw [← hmapa, ← Desgastes.mapa_tras]
  show ((ls.foldl Desgastes.tras .vacio).con a n df a n).map Desgaste.actual = _
  rw [hw]
  rfl

/-- A variable created with 0 and then given the values 1, 2, …, `k`. -/
def cambios (k : Nat) : List Llamada :=
  .lee .u8 0 Nombre.a (0 : UInt8) (0xFF : UInt8) (0 : UInt8) (0 : UInt8) (0 : UInt8) ::
    (List.range k).map fun i => .escribe .u8 0 Nombre.a (UInt8.ofNat (i + 1)) (0 : UInt8) (0 : UInt8)

private theorem var_cambios {k : Nat} {l : Llamada} (hl : l ∈ cambios k) :
    l.var = (.u8, Nombre.a) ∧ SectorOk l.sectorParam := by
  rcases List.mem_cons.1 hl with rfl | hl
  · exact ⟨rfl, .inl rfl⟩
  · obtain ⟨i, -, rfl⟩ := List.mem_map.1 hl
    exact ⟨rfl, .inl rfl⟩

/-- After any run a read over the full range returns 0, and it delivers what the map holds exactly where the life of
the sector has changes left or is back at its initial value. -/
theorem almacen_mapa {vars : List (Ancho × Nombre)} (hv : vars.length < 510)
    (hn : ∀ v ∈ vars, v.2.chars.length ≤ 31) {b : Bus} (hb : b.Listo)
    (hblank : ∀ x ∈ sectoresVars, ∀ o < 4096, b.chip.mem (4096 * x + o) = 0xFF) (ls : List Llamada)
    (hls : ∀ l ∈ ls, l.var ∈ vars ∧ SectorOk l.sectorParam) :
    ∃ b₁, Llamada.llamaTodas ls b = .ok () b₁ ∧ ∀ a n, (a, n) ∈ vars → ∀ s, SectorOk s → ∀ valorDefault valor basura,
      ∃ r b₂, a.lee s n a.minimo a.maximo valorDefault valor basura b₁ = .ok r b₂ ∧ r.rc = 0 ∧
        ((ls.foldl Mapa.tras .vacio).tras (.lee a s n a.minimo a.maximo valorDefault valor basura) a n = some r.valor ↔
          ∀ w, ls.foldl Desgastes.tras .vacio a n = some w → w.Vigente) := by
  obtain ⟨b₁, e, h⟩ := lee_tras_corrida vars hv hn hb hblank ls hls
  refine ⟨b₁, e, fun a n ha s hs df v u => ?_⟩
  obtain ⟨w, x, b₂, hw, e₂, hm⟩ := h a n ha s hs df v u
  refine ⟨_, b₂, e₂, rfl, ?_⟩
  rw [hm, Option.some.injEq, eq_comm, w.leido_eq_actual_iff]
  generalize ls.foldl Desgastes.tras .vacio = g at hw ⊢
  cases hg : g a n with
  | some w' =>
    rw [Desgastes.con_of_some hg, hg] at hw
    cases hw
    simp only [Option.some.injEq, forall_eq']
  | none =>
    rw [Desgastes.con_of_none hg, pon_self] at hw
    cases hw
    exact ⟨fun _ w hw => (Option.some_ne_none w hw.symm).elim, fun _ => .inl (by decide : 0 < 128)⟩

theorem almacen_mapa_nuevo : ∃ b₁, Llamada.llamaTodas (cambios 2) Bus.nuevo = .ok () b₁ ∧
    ∀ a n, (a, n) ∈ [(Ancho.u8, Nombre.a)] → ∀ s, SectorOk s → ∀ valorDefault valor basura,
      ∃ r b₂, a.lee s n a.minimo a.maximo valorDefault valor basura b₁ = .ok r b₂ ∧ r.rc = 0 ∧
        (((cambios 2).foldl Mapa.tras .vacio).tras (.lee a s n a.minimo a.maximo valorDefault valor basura) a n =
            some r.valor ↔
          ∀ w, (cambios 2).foldl Desgastes.tras .vacio a n = some w → w.Vigente) :=
  almacen_mapa (by decide) (by decide) ⟨rfl, rfl, rfl, rfl, rfl⟩ (fun _ _ _ _ => rfl) (cambios 2)
    fun _ hl => ⟨List.mem_singleton.2 (var_cambios hl).1, (var_cambios hl).2⟩

private theorem desgaste_cambios {k : Nat} (hk : k ≤ 128) :
    (cambios k).foldl Desgastes.tras .vacio .u8 Nombre.a = some (⟨0, k, UInt8.ofNat k⟩ : Desgaste UInt8) := by
  induction k with
  | zero => exact pon_self Desgastes.vacio .u8 Nombre.a _
  | succ k ih =>
    have hg := ih (by omega)
    have hsucc : cambios (k + 1) =
        cambios k ++ [.escribe .u8 0 Nombre.a (UInt8.ofNat (k + 1)) (0 : UInt8) (0 : UInt8)] := by
      unfold cambios
      rw [List.range_succ, List.map_append]
      rfl
    have hne : UInt8.ofNat (k + 1) ≠ UInt8.ofNat k := fun he => by
      have := congrArg UInt8.toNat he
      rw [UInt8.toNat_ofNat', UInt8.toNat_ofNat'] at this
      omega
    rw [hsucc, List.foldl_append]
    generalize (cambios k).foldl Desgastes.tras .vacio = g at hg ⊢
    rw [List.foldl_cons, List.foldl_nil, Desgastes.tras_escribe (by rw [Desgastes.con_of_some hg, hg]), pon_self]
    unfold Desgaste.escribe
    rw [if_pos (show k < 128 by omega), if_neg hne]

/-- After the 128th change a read delivers the initial value. -/
theorem almacen_olvida : ∃ b₁ r b₂, Llamada.llamaTodas (cambios 128) Bus.nuevo = .ok () b₁ ∧
    leeVariableU8 0 Nombre.a 0 0xFF 0 0 0 b₁ = .ok r b₂ ∧ r.rc = 0 ∧ r.valor = 0 ∧
    ((cambios 128).foldl Mapa.tras .vacio).tras (.lee .u8 0 Nombre.a (0 : UInt8) (0xFF : UInt8) (0 : UInt8)
      (0 : UInt8) (0 : UInt8)) .u8 Nombre.a = some (128 : UInt8) := by
  have hd := desgaste_cambios (Nat.le_refl 128)
  obtain ⟨b₁, e, h⟩ := lee_tras_corrida [(.u8, Nombre.a)] (by decide) (by decide) (b := Bus.nuevo)
    ⟨rfl, rfl, rfl, rfl, rfl⟩ (fun _ _ _ _ => rfl) (cambios 128)
    fun l hl => ⟨List.mem_singleton.2 (var_cambios hl).1, (var_cambios hl).2⟩
  obtain ⟨w, x, b₂, hw, e₂, hm⟩ := h .u8 Nombre.a (List.mem_singleton.2 rfl) 0 (.inl rfl) (0 : UInt8) (0 : UInt8)
    (0 : UInt8)
  rw [Desgastes.con_of_some hd, hd] at hw
  cases hw
  exact ⟨b₁, _, b₂, e, e₂, rfl, rfl, hm⟩

end Wiznet
