import Wiznet.Store.Corrida

/-!
# Typed access to variables

The typed calls of `varsGestion.cpp`.  Those of integers differ in the type of their value only, so each is one
definition at its own type (`leeEntero`, `escribeEntero`).  A value is kept in memory low byte first, as the target
does.  Locals that the source does not initialise are arguments here.

Records of `VAR8` and `VAR32` are longer than the objects behind the pointers of `leeVariable8` and `leeVariable32`.
The bytes fetched from beyond such an object are an argument (`fuera`); those stored beyond it are in what
`leeVariable` returns and change no other variable of the model.
-/

namespace Wiznet

open NorFlash (Mem Cmd replay)
open W25Q16

/-! ### Values in memory -/

/-- A C type whose values are stored as one type of variable.  `deBytes` is what an object holds once the first bytes
of it have been overwritten. -/
structure Entero (α : Type) where
  tipo : TipoVar
  bytes : α → Nat → UInt8
  deBytes : α → List UInt8 → α
  deBytes_bytes : ∀ basura v, deBytes basura (bytesDe (bytes v) tipo.long) = v

def enteroU8 : Entero UInt8 where
  tipo := .varU8
  bytes v _ := v
  deBytes basura vs := vs.getD 0 basura
  deBytes_bytes _ _ := rfl

def enteroU16 : Entero UInt16 where
  tipo := .varU16
  bytes v i := if i = 0 then v.toUInt8 else (v >>> 8).toUInt8
  deBytes basura vs :=
    (vs.getD 0 basura.toUInt8).toUInt16 + ((vs.getD 1 (basura >>> 8).toUInt8).toUInt16 <<< 8)
  deBytes_bytes _ v := (UInt16.add_comm _ _).trans (u16_of_bytes v)

/-! ### Access -/

/-- Return code, final `*sectorParam` and final `*valor`. -/
structure LecturaEntera (α : Type) where
  rc : Int16
  sectorParam : UInt16
  valor : α

section Acceso

variable {α : Type} [LT α] [DecidableLT α] [DecidableEq α]

/-- The value read, brought into the range asked for. -/
def acota (valorMin valorMax : α) (sectorParam : UInt16) (valor : α) : LecturaEntera α :=
  if valor < valorMin then ⟨-4, sectorParam, valorMin⟩
  else if valorMax < valor then ⟨-5, sectorParam, valorMax⟩
  else ⟨0, sectorParam, valor⟩

/-- `valor` is what `*valor` held before and `basura` what the local `valorLeido` holds. -/
def leeEntero (E : Entero α) (sectorParam : UInt16) (nombParam : Nombre) (valorMin valorMax valorDefault : α)
    (valor basura : α) : SpiM (LecturaEntera α) := do
  let r ← leeVariable sectorParam E.tipo nombParam (E.bytes valorDefault)
  let valorLeido := E.deBytes basura r.valor
  if r.rc ≠ 0 then return ⟨r.rc, r.sectorParam, valor⟩
  return acota valorMin valorMax r.sectorParam valorLeido

/-- Return code and final `*sectorParam`.  A value that is read back is not written again. -/
def escribeEntero (E : Entero α) (minimo maximo : α) (sectorParam : UInt16) (nombVar : Nombre) (valor : α)
    (valorInt basura : α) : SpiM (Int16 × UInt16) := do
  let r ← leeEntero E sectorParam nombVar minimo maximo valor valorInt basura
  if r.rc = 0 ∧ r.valor = valor then return (0, r.sectorParam)
  let err ← escribeVar r.sectorParam E.tipo nombVar (E.bytes valor)
  return (err, r.sectorParam)

end Acceso

def leeVariableU8 := leeEntero enteroU8
def leeVariableU16 := leeEntero enteroU16
def escribeVarU8 := escribeEntero enteroU8 0 0xFF
def escribeVarU16 := escribeEntero enteroU16 0 0xFFFF

/-! ### Signed numbers -/

/-- One byte, of records of two. -/
def enteroI8 (fuera : Nat → UInt8) : Entero Int8 where
  tipo := .var8
  bytes v i := if i = 0 then v.toUInt8 else fuera i
  deBytes basura vs := (vs.getD 0 basura.toUInt8).toInt8
  deBytes_bytes _ v := v.toInt8_toUInt8

/-- Byte `i` of a 32-bit number, the low one first. -/
def octeto (v : UInt32) (i : Nat) : UInt8 := UInt8.ofNat (v.toNat / 256 ^ i)

/-- The number with these bytes. -/
def deOctetos (b0 b1 b2 b3 : UInt8) : UInt32 :=
  UInt32.ofNat (b0.toNat + 256 * b1.toNat + 256 ^ 2 * b2.toNat + 256 ^ 3 * b3.toNat)

theorem deOctetos_octeto (v : UInt32) : deOctetos (octeto v 0) (octeto v 1) (octeto v 2) (octeto v 3) = v := by
  have hlt := v.toNat_lt
  apply UInt32.toNat_inj.1
  simp only [deOctetos, octeto, UInt8.toNat_ofNat', UInt32.toNat_ofNat']
  omega

/-- Four bytes, of records of eight. -/
def enteroI32 (fuera : Nat → UInt8) : Entero Int32 where
  tipo := .var32
  bytes v i := if i < 4 then octeto v.toUInt32 i else fuera i
  deBytes basura vs :=
    let byte i := vs.getD i (octeto basura.toUInt32 i)
    (deOctetos (byte 0) (byte 1) (byte 2) (byte 3)).toInt32
  deBytes_bytes _ v := (congrArg UInt32.toInt32 (deOctetos_octeto v.toUInt32)).trans v.toInt32_toUInt32

def leeVariable8 (fuera : Nat → UInt8) := leeEntero (enteroI8 fuera)
def leeVariable32 (fuera : Nat → UInt8) := leeEntero (enteroI32 fuera)

/-- What the calls on signed numbers use and the source does not determine: the memory beyond the default of a read and
beyond the value of a write, and the `leeVariable8` that takes a pointer to its default.  `varsFlash.h` declares that
one, `escribeVar8` calls it, and nothing defines it. -/
structure Entorno where
  trasDefecto : Nat → UInt8
  trasValor : Nat → UInt8
  leeVariable8Ptr : UInt16 → Nombre → (valorMin valorMax : Int8) → (valorDefault : Nat → UInt8) → (valor : Int8) →
    SpiM (LecturaEntera Int8)

def escribeVar8 (e : Entorno) (sectorParam : UInt16) (nombVar : Nombre) (valor valorInt : Int8) :
    SpiM (Int16 × UInt16) := do
  let r ← e.leeVariable8Ptr sectorParam nombVar (-128) 127 ((enteroI8 e.trasValor).bytes valor) valorInt
  if r.rc = 0 ∧ r.valor = valor then return (0, r.sectorParam)
  let err ← escribeVar r.sectorParam .var8 nombVar ((enteroI8 e.trasValor).bytes valor)
  return (err, r.sectorParam)

-- the limits are those of 16 bits without sign
def escribeVar32 (e : Entorno) (sectorParam : UInt16) (nombVar : Nombre) (valor valorInt basura : Int32) :
    SpiM (Int16 × UInt16) := do
  let r ← leeVariable32 e.trasDefecto sectorParam nombVar 0 0xFFFF valor valorInt basura
  if r.rc = 0 ∧ r.valor = valor then return (0, r.sectorParam)
  let err ← escribeVar r.sectorParam .var32 nombVar ((enteroI32 e.trasValor).bytes valor)
  return (err, r.sectorParam)

/-! ### Strings -/

/-- Return code and final `*sectorParam` of `leeVariable`, and the bytes stored at `valor`. -/
def leeStr50 (sectorParam : UInt16) (nombParam : Nombre) (valorDefault : Nat → UInt8) : SpiM Lectura :=
  leeVariable sectorParam .var50 nombParam valorDefault

/-- `!strncmp(a, b, n)`, from byte `i` on. -/
def strncmpIgual (a b : Nat → UInt8) : Nat → Nat → Bool
  | 0, _ => true
  | n + 1, i => if a i ≠ b i then false else if a i = 0 then true else strncmpIgual a b n (i + 1)

/-- `basura` is what the local `buff` holds. -/
def escribeStr50 (sectorParam : UInt16) (nombVar : Nombre) (valor basura : Nat → UInt8) : SpiM (Int16 × UInt16) := do
  let r ← leeStr50 sectorParam nombVar valor
  let buff := fun i => r.valor.getD i (basura i)
  if r.rc = 0 ∧ strncmpIgual valor buff 50 0 then return (0, r.sectorParam)
  let err ← escribeVar r.sectorParam .var50 nombVar valor
  return (err, r.sectorParam)

/-! ### Whole records -/

/-- A whole record leaves nothing of what the object held before. -/
def Entero.Completo {α : Type} (E : Entero α) : Prop :=
  ∀ basura basura' vs, vs.length = E.tipo.long → E.deBytes basura vs = E.deBytes basura' vs

theorem getD_congr {vs : List UInt8} {i : Nat} (h : i < vs.length) (g g' : UInt8) : vs.getD i g = vs.getD i g' := by
  rw [List.getD_eq_getElem _ _ h, List.getD_eq_getElem _ _ h]

theorem enteroU8_completo : enteroU8.Completo := by
  intro g g' vs hvs
  exact getD_congr (show 0 < vs.length by rw [hvs]; decide) _ _

theorem enteroU16_completo : enteroU16.Completo := by
  intro g g' vs hvs
  have hget : ∀ i < 2, ∀ x y, vs.getD i x = vs.getD i y := fun i hi x y => getD_congr (by rw [hvs]; exact hi) x y
  simp only [enteroU16, hget 0 (by decide) g.toUInt8 g'.toUInt8,
    hget 1 (by decide) (g >>> 8).toUInt8 (g' >>> 8).toUInt8]

theorem enteroI32_completo (fuera : Nat → UInt8) : (enteroI32 fuera).Completo := by
  intro g g' vs hvs
  have hget : ∀ i < 4, vs.getD i (octeto g.toUInt32 i) = vs.getD i (octeto g'.toUInt32 i) := fun i hi =>
    getD_congr (by rw [hvs]; exact Nat.lt_of_lt_of_le hi (show 4 ≤ TipoVar.var32.long by decide)) _ _
  simp only [enteroI32, hget 0 (by decide), hget 1 (by decide), hget 2 (by decide), hget 3 (by decide)]

/-! ### On a directory -/

section Efecto

variable {α : Type} [LT α] [DecidableLT α] [DecidableEq α] {E : Entero α} {m : Mem} {d : Directorio} {n : Nombre}
  {s : UInt16} {x : Nat} {f : Ficha}

omit [DecidableEq α] in
theorem acota_dentro {minimo maximo valor : α} (hmin : ¬ valor < minimo) (hmax : ¬ maximo < valor) (s : UInt16) :
    acota minimo maximo s valor = ⟨0, s, valor⟩ := by
  unfold acota
  rw [if_neg hmin, if_neg hmax]

omit [DecidableEq α] in
theorem leeEntero_gives (h : Representa m d) (hs : SectorOk s) (hn : n.chars.length ≤ 255)
    (valorMin valorMax valorDefault valor basura : α) (hx : d.sitio E.tipo n = some x)
    (hf : (d.conVariable E.tipo n (E.bytes valorDefault)).ficha E.tipo n = some f) :
    Gives (leeEntero E s n valorMin valorMax valorDefault valor basura) m
      (acota valorMin valorMax (UInt16.ofNat x) (E.deBytes basura f.valor))
      (creaOrdenes m E.tipo n (E.bytes valorDefault) (some x)) {y | 2 ≤ y ∧ y ≤ 512} := by
  have hg := h.leeVariable (t := E.tipo) hs hn (E.bytes valorDefault)
  have hlee : d.lee E.tipo n (E.bytes valorDefault) = ⟨0, UInt16.ofNat x, f.valor⟩ := by
    unfold Directorio.lee
    rw [hx, hf]
    rfl
  rw [hlee, hx] at hg
  rw [← List.append_nil (creaOrdenes _ _ _ _ _)]
  refine hg.bind ?_
  rw [if_neg (fun h0 => h0 rfl)]
  exact Gives.pure _ _ _

/-- A write either finds its value there already or is one `escribeVar`. -/
theorem escribeEntero_gives (h : Representa m d) (hs : SectorOk s) (hn : n.chars.length ≤ 255) {minimo maximo : α}
    (hmin : ∀ v : α, ¬ v < minimo) (hmax : ∀ v : α, ¬ maximo < v) (hlong : E.tipo.long ≤ 8)
    (valor valorInt basura : α) (hx : d.sitio E.tipo n = some x)
    (hf : (d.conVariable E.tipo n (E.bytes valor)).ficha E.tipo n = some f) :
    ∃ mods, Gives (escribeEntero E minimo maximo s n valor valorInt basura) m (0, UInt16.ofNat x) mods
        {y | 2 ≤ y ∧ y ≤ 513} ∧
      Representa (replay w25q16 mods m)
        (if E.deBytes basura f.valor = valor then d.conVariable E.tipo n (E.bytes valor)
          else (d.conVariable E.tipo n (E.bytes valor)).anota E.tipo n (E.bytes valor)) := by
  have hlee := (leeEntero_gives h hs hn minimo maximo valor valorInt basura hx hf).mono
    (T := {y | 2 ≤ y ∧ y ≤ 513}) fun y hy => ⟨hy.1, Nat.le_succ_of_le hy.2⟩
  rw [acota_dentro (hmin _) (hmax _)] at hlee
  obtain ⟨hcrea, -⟩ := h.crea E.tipo n (E.bytes valor)
  rw [hx] at hcrea
  by_cases hv : E.deBytes basura f.valor = valor
  · refine ⟨creaOrdenes m E.tipo n (E.bytes valor) (some x) ++ [], ?_,
      by rw [if_pos hv, List.append_nil]; exact hcrea⟩
    refine hlee.bind ?_
    rw [if_pos ⟨rfl, hv⟩]
    exact Gives.pure _ _ _
  · -- the sector just read from is the hint of the write
    obtain ⟨i, hi, hc, rfl⟩ := Directorio.conVariable_sitio hx (E.bytes valor)
    have hcabe := (d.conVariable E.tipo n (E.bytes valor)).cabe
    have hx' : (UInt16.ofNat (2 + i)).toNat = 2 + i := toNat_sector (by omega)
    have hs' : SectorOk (UInt16.ofNat (2 + i)) := .inr ⟨by omega, by omega⟩
    have hadm : (d.conVariable E.tipo n (E.bytes valor)).Admite E.tipo n := fun g _ hg =>
      Ficha.admite_of_long_le (by rw [show g.tipo = E.tipo from congrArg Prod.fst hg]; exact hlong)
    obtain ⟨hrep, -⟩ := hcrea.escribeVar hs' hn hadm (E.bytes valor)
    have hmem : clave E.tipo n ∈ (d.conVariable E.tipo n (E.bytes valor)).fichas.map Ficha.clave :=
      List.mem_map.2 ⟨_, List.getElem_mem hi, hc⟩
    rw [Directorio.escribe_of_mem hmem] at hrep
    refine ⟨_, ?_, by rw [if_neg hv, NorFlash.replay_append]; exact hrep⟩
    refine hlee.bind ?_
    rw [if_neg (fun h' => hv h'.2)]
    exact (escribeVar_gives hs' hn (E.bytes valor)).bind_pure fun err => (err, UInt16.ofNat (2 + i))

end Efecto

end Wiznet
