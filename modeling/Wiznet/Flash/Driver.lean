import Wiznet.Flash.Spi

/-!
# The W25Q16 driver

The functions of `w25q16.cpp`, one SPI transaction each.  Pages are 16-bit and addresses inside a page 8-bit, so an
address counts up from the last byte of a page to the first byte of the next one only where the source says so
(`streamRead`, `streamWrite`).
-/

namespace Wiznet

namespace W25Q16

/-- First four bytes of an addressed command. -/
def command (op : UInt8) (page : UInt16) (pageAddress : UInt8) : List UInt8 :=
  [op, ((page >>> 8) &&& 0xFF).toUInt8, (page &&& 0xFF).toUInt8, pageAddress]

/-- The `do … while (rxbf[0]&1)` of `W25Q16_notBusy`.  The chip answers busy at most `busy` times. -/
def pollStatus : Nat → SpiM Unit
  | 0 => throw .loop
  | n + 1 => do
    let rxbf ← spiExchange [0]
    if rxbf.getD 0 0 &&& 1 ≠ 0 then pollStatus n

def notBusy : SpiM Unit := do
  spiAcquireBus
  spiSelect
  let _ ← spiExchange [READ_STATUS_REGISTER_1]
  pollStatus ((← get).chip.busy + 1)
  spiUnselect
  spiReleaseBus

def writeEnable : SpiM Unit := do
  spiAcquireBus
  spiSelect
  let _ ← spiExchange [WRITE_ENABLE]
  spiUnselect
  spiReleaseBus
  notBusy

def writeDisable : SpiM Unit := do
  spiAcquireBus
  spiSelect
  let _ ← spiExchange [WRITE_DISABLE]
  spiUnselect
  spiReleaseBus
  notBusy

-- the bytes sent while the chip answers are not initialised in the source; the chip does not look at them
def read (page : UInt16) (pageAddress : UInt8) : SpiM UInt8 := do
  spiAcquireBus
  spiSelect
  let rxbf ← spiExchange (command READ_DATA page pageAddress ++ [0])
  spiUnselect
  spiReleaseBus
  notBusy
  return rxbf.getD 4 0

def readU16 (page : UInt16) (pageAddress : UInt8) : SpiM UInt16 := do
  spiAcquireBus
  spiSelect
  let rxbf ← spiExchange (command READ_DATA page pageAddress ++ [0, 0])
  spiUnselect
  spiReleaseBus
  notBusy
  return ((rxbf.getD 4 0).toUInt16 <<< 8) + (rxbf.getD 5 0).toUInt16

/-- The bytes that `memcpy` takes from an `int16_t`; the core keeps the low one first. -/
def bytesI16 (val : Int16) : List UInt8 := [val.toUInt16.toUInt8, (val.toUInt16 >>> 8).toUInt8]

/-- The `int16_t` that `memcpy` makes of two bytes. -/
def i16DeBytes (b0 b1 : UInt8) : Int16 := ((b1.toUInt16 <<< 8) + b0.toUInt16).toInt16

def readI16 (page : UInt16) (pageAddress : UInt8) : SpiM Int16 := do
  spiAcquireBus
  spiSelect
  let rxbf ← spiExchange (command READ_DATA page pageAddress ++ [0, 0])
  spiUnselect
  spiReleaseBus
  notBusy
  return i16DeBytes (rxbf.getD 4 0) (rxbf.getD 5 0)

def write (page : UInt16) (pageAddress val : UInt8) : SpiM Unit := do
  writeEnable
  spiAcquireBus
  spiSelect
  let _ ← spiExchange (command PAGE_PROGRAM page pageAddress ++ [val])
  spiUnselect
  spiReleaseBus
  notBusy
  writeDisable

def writeU16 (page : UInt16) (pageAddress : UInt8) (val : UInt16) : SpiM Unit := do
  writeEnable
  spiAcquireBus
  spiSelect
  let _ ← spiExchange (command PAGE_PROGRAM page pageAddress ++ [(val >>> 8).toUInt8, (val &&& 0xFF).toUInt8])
  spiUnselect
  spiReleaseBus
  notBusy
  writeDisable

def writeI16 (page : UInt16) (pageAddress : UInt8) (val : Int16) : SpiM Unit := do
  writeEnable
  spiAcquireBus
  spiSelect
  let _ ← spiExchange (command PAGE_PROGRAM page pageAddress ++ bytesI16 val)
  spiUnselect
  spiReleaseBus
  notBusy
  writeDisable

def initStreamWrite (page : UInt16) (pageAddress : UInt8) : SpiM Unit := do
  writeEnable
  spiAcquireBus
  spiSelect
  let _ ← spiExchange (command PAGE_PROGRAM page pageAddress)

def closeStreamWrite : SpiM Unit := do
  spiUnselect
  spiReleaseBus
  notBusy
  writeDisable

/-- `page` and `pageAddress` are passed by reference in the source; here they come back as results. -/
def streamWrite (page : UInt16) (pageAddress val : UInt8) : SpiM (UInt16 × UInt8) := do
  let _ ← spiExchange [val]
  let pageAddress := pageAddress + 1
  if pageAddress = 0 then
    let page := page + 1
    closeStreamWrite
    initStreamWrite page pageAddress
    return (page, pageAddress)
  return (page, pageAddress)

def initStreamRead (page : UInt16) (pageAddress : UInt8) : SpiM Unit := do
  spiAcquireBus
  spiSelect
  let _ ← spiExchange (command READ_DATA page pageAddress)

def closeStreamRead : SpiM Unit := do
  spiUnselect
  spiReleaseBus
  notBusy

def streamRead (page : UInt16) (pageAddress : UInt8) : SpiM (UInt8 × UInt16 × UInt8) := do
  let rxbf ← spiExchange [0]
  let pageAddress := pageAddress + 1
  if pageAddress = 0 then
    let page := page + 1
    closeStreamRead
    initStreamRead page pageAddress
    return (rxbf.getD 0 0, page, pageAddress)
  return (rxbf.getD 0 0, page, pageAddress)

def releasePowerDown : SpiM Unit := do
  spiAcquireBus
  spiSelect
  let _ ← spiExchange [RELEASE_POWER_DOWN]
  spiUnselect
  spiReleaseBus
  notBusy

def sectorErase (page : UInt16) : SpiM Unit := do
  writeEnable
  spiAcquireBus
  spiSelect
  let _ ← spiExchange (command SECTOR_ERASE page 0)
  spiUnselect
  spiReleaseBus
  notBusy
  writeDisable

def manufacturerID : SpiM UInt16 := do
  spiAcquireBus
  spiSelect
  let rxbf ← spiExchange (command MANUFACTURER_ID 0 0 ++ [0, 0])
  spiUnselect
  spiReleaseBus
  notBusy
  return ((rxbf.getD 4 0).toUInt16 <<< 8) + (rxbf.getD 5 0).toUInt16

/-- The pins of the bus are set up here as well; they are not part of the model. -/
def start : SpiM UInt16 := do
  spiStart
  releasePowerDown
  let idManuf ← manufacturerID
  writeDisable
  if idManuf &&& 0xFF00 ≠ 0xEF00 then return 0
  else return idManuf

end W25Q16

end Wiznet
