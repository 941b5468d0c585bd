import Wiznet.Flash.Driver

/-!
# The device settings

The functions of `variables.cpp`: the eleven settings in RAM and their copy in sector 0 of the flash.  The settings
are global variables in the source; here each call takes them and returns them.  `leeVariables`, `reseteaEeprom` and
`escribeVariables` call one another without a bound, so each takes the depth of calls that is left; a call with none
left is one that has not come to an end.
-/

namespace Wiznet

open W25Q16

structure Ajustes where
  modoRadio : UInt16
  sBeacon : UInt16
  idLlamador : UInt16
  dsMaxEntreMsgsLlamador : UInt16
  dsMinEntreMsgsLlamador : UInt16
  bloqueoAbusones : UInt16
  avisaAbuso : UInt16
  tiempoAbuso : UInt16
  dsMaxEntreMsgsPozo : UInt16
  dsMinEntreMsgsPozo : UInt16
  idVacon : UInt16
  deriving DecidableEq

def POSMODORADIO : UInt8 := 2
def POSSBEACON : UInt8 := 4
def POSIDLLAMADOR : UInt8 := 10
def POSDSMAXENTREMSGSLLAMADOR : UInt8 := 12
def POSDSMINENTREMSGSLLAMADOR : UInt8 := 14
def POSBLOQUEOABUSONES : UInt8 := 20
def POSAVISAABUSO : UInt8 := 22
def POSTIEMPOABUSOMINUTOS : UInt8 := 24
def POSDSMAXENTREMSGSPOZO : UInt8 := 26
def POSDSMINENTREMSGSPOZO : UInt8 := 28
def POSIDVACON : UInt8 := 30

/-- The first two bytes of a valid block. -/
def CLAVE : UInt16 := 0x7851

/-- The values `leeVariables` takes without a flash. -/
def Ajustes.porDefecto : Ajustes where
  modoRadio := 1
  sBeacon := 500
  idLlamador := 6
  dsMaxEntreMsgsLlamador := 600
  dsMinEntreMsgsLlamador := 20
  bloqueoAbusones := 1
  avisaAbuso := 1
  tiempoAbuso := 600
  dsMaxEntreMsgsPozo := 600
  dsMinEntreMsgsPozo := 20
  idVacon := 1

/-- The reads of `leeVariables`. -/
def leeCampos : SpiM Ajustes := do
  let modoRadio ← readU16 0 POSMODORADIO
  let sBeacon ← readU16 0 POSSBEACON
  let idLlamador ← readU16 0 POSIDLLAMADOR
  let dsMaxEntreMsgsLlamador ← readU16 0 POSDSMAXENTREMSGSLLAMADOR
  let dsMinEntreMsgsLlamador ← readU16 0 POSDSMINENTREMSGSLLAMADOR
  let bloqueoAbusones ← readU16 0 POSBLOQUEOABUSONES
  let avisaAbuso ← readU16 0 POSAVISAABUSO
  let tiempoAbuso ← readU16 0 POSTIEMPOABUSOMINUTOS
  let dsMaxEntreMsgsPozo ← readU16 0 POSDSMAXENTREMSGSPOZO
  let dsMinEntreMsgsPozo ← readU16 0 POSDSMINENTREMSGSPOZO
  let idVacon ← readU16 0 POSIDVACON
  return ⟨modoRadio, sBeacon, idLlamador, dsMaxEntreMsgsLlamador, dsMinEntreMsgsLlamador, bloqueoAbusones, avisaAbuso,
    tiempoAbuso, dsMaxEntreMsgsPozo, dsMinEntreMsgsPozo, idVacon⟩

/-- The erase and the writes of `escribeVariables`. -/
def escribeCampos (a : Ajustes) : SpiM Unit := do
  sectorErase 0
  writeU16 0 POSMODORADIO a.modoRadio
  writeU16 0 POSSBEACON a.sBeacon
  writeU16 0 POSIDLLAMADOR a.idLlamador
  writeU16 0 POSDSMAXENTREMSGSLLAMADOR a.dsMaxEntreMsgsLlamador
  writeU16 0 POSDSMINENTREMSGSLLAMADOR a.dsMinEntreMsgsLlamador
  writeU16 0 POSBLOQUEOABUSONES a.bloqueoAbusones
  writeU16 0 POSAVISAABUSO a.avisaAbuso
  writeU16 0 POSTIEMPOABUSOMINUTOS a.tiempoAbuso
  writeU16 0 POSDSMAXENTREMSGSPOZO a.dsMaxEntreMsgsPozo
  writeU16 0 POSDSMINENTREMSGSPOZO a.dsMinEntreMsgsPozo
  writeU16 0 POSIDVACON a.idVacon
  writeU16 0 0 CLAVE

mutual

/-- Its result is the identification of the chip cut to eight bits. -/
def leeVariables : Nat → Ajustes → SpiM (UInt8 × Ajustes)
  | 0, _ => throw .loop
  | fuel + 1, a => do
    let hayW25q16 ← start
    let a ← if hayW25q16 ≠ 0 then do
        let claveEEprom ← readU16 0 0
        if claveEEprom ≠ CLAVE then
          let _ ← reseteaEeprom fuel a
        leeCampos
      else pure .porDefecto
    spiStop
    return (hayW25q16.toUInt8, a)

def reseteaEeprom : Nat → Ajustes → SpiM (UInt16 × Ajustes)
  | 0, _ => throw .loop
  | fuel + 1, a => do
    sectorErase 0
    let a ← escribeVariables fuel a
    return (0, a)

def escribeVariables : Nat → Ajustes → SpiM Ajustes
  | 0, _ => throw .loop
  | fuel + 1, a => do
    let hayW25q16 ← start
    if hayW25q16 ≠ 0 then escribeCampos a
    spiStop
    let (_, a) ← leeVariables fuel a
    return a

end

end Wiznet
