import Wiznet.Store.Layout

/-!
# The variable store

The functions of `varsGestion.cpp`.  Memory behind a pointer (`pValor`, `pValorDefault`) is the function that gives
its bytes from the pointer on; a result written through a pointer is returned.
-/

namespace Wiznet

open W25Q16

/-- `strChecksum`, which may not return. -/
def checksumDe (nombVar : Nombre) : SpiM UInt16 :=
  match strChecksum nombVar with
  | some chkSum => return chkSum
  | none => throw .loop

/-- The `do … while (TRUE)` of `nombreVarEnFlashOk`. -/
def comparaNombre (nombreVar : Nombre) : Nat → Nat → UInt16 → UInt8 → SpiM Bool
  | 0, _, _, _ => throw .loop
  | fuel + 1, i, page, pageAddress => do
    let (byte, page, pageAddress) ← streamRead page pageAddress
    if byte ≠ nombreVar.at' i then return false
    if byte = 0 then return true
    if i + 1 = LONGNAME - 1 then return true
    comparaNombre nombreVar fuel (i + 1) page pageAddress

/-- Compares the name in the sector with `nombreVar`, at most `LONGNAME - 1` characters of it. -/
def nombreVarEnFlashOk (sector : UInt16) (nombreVar : Nombre) : SpiM Bool := do
  let page := 16 * sector
  initStreamRead page 3
  let iguales ← comparaNombre nombreVar (LONGNAME - 1) 0 page 3
  closeStreamRead
  return iguales

/-- The `do … while (TRUE)` of `strChecksumFlash`. -/
def sumaNombre : Nat → Nat → UInt16 → UInt16 → UInt8 → SpiM UInt16
  | 0, _, _, _, _ => throw .loop
  | fuel + 1, i, chkSumStr, page, pageAddress => do
    let (byte, page, pageAddress) ← streamRead page pageAddress
    if byte = 0 then return chkSumStr
    let chkSumStr := chkSumStr + byte.toUInt16
    if i + 1 = LONGNAME - 1 then return chkSumStr
    sumaNombre fuel (i + 1) chkSumStr page pageAddress

/-- Sums the name in the sector, at most `LONGNAME - 1` characters of it. -/
def strChecksumFlash (sector : UInt16) : SpiM UInt16 := do
  let page := 16 * sector
  initStreamRead page 3
  let chkSumStr ← sumaNombre (LONGNAME - 1) 0 0 page 3
  closeStreamRead
  return chkSumStr

def coincidenciaDatosVar (sectorParam : UInt16) (tipoVar : TipoVar) (nombVar : Nombre) (chkSumStr : UInt16) :
    SpiM Bool := do
  let tipoVarFlash ← W25Q16.read (16 * sectorParam) 0
  if tipoVarFlash = 0xFF then return false
  let chkSumFlash ← readU16 (16 * sectorParam) 1
  if tipoVarFlash ≠ tipoVar.codigo ∨ chkSumFlash ≠ chkSumStr then return false
  nombreVarEnFlashOk sectorParam nombVar

/-- The first `n` bytes behind a pointer. -/
def bytesDe (pValor : Nat → UInt8) (n : Nat) : List UInt8 := (List.range n).map pValor

def initVarFlash (sectorParam : UInt16) (tipoVar : TipoVar) (nombVar : Nombre) (pValorDefault : Nat → UInt8) :
    SpiM Unit := do
  let page := 16 * sectorParam
  let chkSum ← checksumDe nombVar
  write page 0 tipoVar.codigo
  writeU16 page 1 chkSum
  initStreamWrite page 3
  let (page, pageAddress) ← streamWriteAll (nombVar.chars.take (LONGNAME - 1)) page 3
  let (page, _) ← streamWrite page pageAddress 0
  closeStreamWrite
  -- the FAT is left at 0xFF
  initStreamWrite page STARTDAT
  let _ ← streamWriteAll (bytesDe pValorDefault tipoVar.long) page STARTDAT
  closeStreamWrite

/-! ### The FAT -/

/-- Results of `leePosEnFAT`. -/
structure PosFAT where
  pos : UInt16
  error : UInt8
  pageByteFat : UInt16
  pageAddressByteFat : UInt8
  byteFat : UInt8
  deriving DecidableEq, Repr

/-- The bit loop: position of the first set bit, `none` when all have been shifted out. -/
def exploraByte : Nat → UInt8 → UInt16 → Option UInt16
  | 0, _, _ => none
  | n + 1, byte, pos => if byte &&& 1 ≠ 0 then some pos else exploraByte n (byte >>> 1) (pos + 1)

/-- The byte loop. -/
def exploraFAT : Nat → UInt16 → UInt8 → UInt16 → UInt8 → SpiM PosFAT
  | 0, _, _, _, _ => throw .loop
  | fuel + 1, pageByteFat, pageAddressByteFat, pos, byteFat =>
    if pageAddressByteFat ≤ MAXFAT then do
      let (byte, pageByteFat, pageAddressByteFat) ← streamRead pageByteFat pageAddressByteFat
      if byte = 0 then exploraFAT fuel pageByteFat pageAddressByteFat (pos + 8) byte
      else match exploraByte 8 byte pos with
        | some pos => do
          closeStreamRead
          -- it was the byte before that held the current position
          return ⟨pos, 0, pageByteFat, pageAddressByteFat - 1, byte⟩
        | none => exploraFAT fuel pageByteFat pageAddressByteFat (pos + 8) byte
    else do
      closeStreamRead
      return ⟨0, 1, pageByteFat, pageAddressByteFat, byteFat⟩

/-- `*byteFat` holds no value before the first byte is read, and the loop reads at least one. -/
def leePosEnFAT (sectorParam : UInt16) : SpiM PosFAT := do
  initStreamRead (16 * sectorParam) STARTFAT
  exploraFAT (LONGFAT + 1) (16 * sectorParam) STARTFAT 0 0

/-! ### Search -/

/-- The search of `encuentraVariable` from `sectorParam` on. -/
def buscaVariable (tipoVar : TipoVar) (pValorDefault : Nat → UInt8) (nombVar : Nombre) (chkSumStr : UInt16) :
    Nat → UInt16 → SpiM (Bool × UInt16)
  | 0, _ => throw .loop
  | fuel + 1, sectorParam => do
    let tipoVarFlash ← W25Q16.read (16 * sectorParam) 0
    if tipoVarFlash = 0xFF then
      -- not found: create it here
      initVarFlash sectorParam tipoVar nombVar pValorDefault
      return (true, sectorParam)
    if ← coincidenciaDatosVar sectorParam tipoVar nombVar chkSumStr then return (true, sectorParam)
    let sectorParam := sectorParam + 1
    if sectorParam < 512 then buscaVariable tipoVar pValorDefault nombVar chkSumStr fuel sectorParam
    else return (false, sectorParam)

/-- Whether there is a sector for the variable, and the final `*sectorParam`. -/
def encuentraVariable (tipoVar : TipoVar) (pValorDefault : Nat → UInt8) (nombVar : Nombre) :
    SpiM (Bool × UInt16) := do
  let chkSumStr ← checksumDe nombVar
  buscaVariable tipoVar pValorDefault nombVar chkSumStr 510 SECTORINICIALVARS

/-! ### Reading and writing -/

/-- Flash address of record `posInPage`. -/
def dirNewPos (sectorParam : UInt16) (posInPage : UInt8) (tipoVar : TipoVar) : UInt32 :=
  (sectorParam.toUInt32 <<< 12) + STARTDAT.toUInt32 + posInPage.toUInt32 * UInt32.ofNat tipoVar.long

/-- `escribeVar` from the point where `sectorParam` is the sector of the variable. -/
def escribeEnSector (sectorParam : UInt16) (tipoVar : TipoVar) (nombVar : Nombre) (pValor : Nat → UInt8) :
    SpiM Int16 := do
  let fat ← leePosEnFAT sectorParam
  let posInPage := fat.pos.toUInt8
  if fat.error ≠ 0 then
    -- most likely the last position has been used up
    sectorErase (16 * sectorParam)
    initVarFlash sectorParam tipoVar nombVar pValor
    return 0
  write fat.pageByteFat fat.pageAddressByteFat (fat.byteFat <<< 1)
  let dir := dirNewPos sectorParam (posInPage + 1) tipoVar
  escribeBytes (bytesDe pValor tipoVar.long) (dir >>> 8).toUInt16 (dir &&& 0xFF).toUInt8
  return 0

def escribeVar (sectorParam : UInt16) (tipoVar : TipoVar) (nombVar : Nombre) (pValor : Nat → UInt8) :
    SpiM Int16 := do
  if sectorParam ≠ 0 then
    let chkSumStr ← checksumDe nombVar
    if ← coincidenciaDatosVar sectorParam tipoVar nombVar chkSumStr then
      escribeEnSector sectorParam tipoVar nombVar pValor
    else
      let (hay, sectorParam) ← encuentraVariable tipoVar pValor nombVar
      if hay then escribeEnSector sectorParam tipoVar nombVar pValor
      else return 0
  else
    -- the result of the search is not looked at here
    let (_, sectorParam) ← encuentraVariable tipoVar pValor nombVar
    escribeEnSector sectorParam tipoVar nombVar pValor

/-- Return code, final `*sectorParam` and the bytes stored at `pValor`. -/
structure Lectura where
  rc : Int16
  sectorParam : UInt16
  valor : List UInt8
  deriving DecidableEq

/-- `leeVariable` from the point where `*sectorParam` is the sector of the variable. -/
def leeEnSector (sectorParam : UInt16) (tipoVar : TipoVar) : SpiM Lectura := do
  let fat ← leePosEnFAT sectorParam
  let dir := dirNewPos sectorParam fat.pos.toUInt8 tipoVar
  let valor ← leeBytes tipoVar.long (dir >>> 8).toUInt16 (dir &&& 0xFF).toUInt8
  return ⟨0, sectorParam, valor⟩

def leeVariable (sectorParam : UInt16) (tipoVar : TipoVar) (nombVar : Nombre) (pValorDefault : Nat → UInt8) :
    SpiM Lectura := do
  if sectorParam ≠ 0 then
    let chkSumStr ← checksumDe nombVar
    if ← coincidenciaDatosVar sectorParam tipoVar nombVar chkSumStr then leeEnSector sectorParam tipoVar
    else
      let (hay, sectorParam) ← encuentraVariable tipoVar pValorDefault nombVar
      if hay then leeEnSector sectorParam tipoVar else return ⟨0, sectorParam, []⟩
  else
    let (hay, sectorParam) ← encuentraVariable tipoVar pValorDefault nombVar
    if hay then leeEnSector sectorParam tipoVar else return ⟨0, sectorParam, []⟩

end Wiznet
