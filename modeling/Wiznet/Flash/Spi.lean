import Wiznet.Library.NorFlash

/-!
# The SPI bus and the W25Q16 chip

`SPID1` as the firmware sees it (the ChibiOS calls `spiStart`, `spiStop`, `spiAcquireBus`, `spiReleaseBus`,
`spiSelect`, `spiUnselect`, `spiExchange`) with a W25Q16 behind it.  The chip decodes the bytes it is sent between a
select and an unselect, executes programs and erases when it is deselected and the write latch is set, and then stays
busy for a number of status polls chosen by the environment (`ChipEnv`).

A call that never returns ends in `Stuck`, with the bus as it was left: the mutex of the bus is not recursive, an
exchange on a stopped driver fails the assertion of the HAL, and a loop may not end.
-/

namespace Wiznet

open NorFlash (Geometry Mem Cmd)

/-- 8192 pages of 256 bytes, erased in 512 sectors of 16 pages; 24-bit addresses alias beyond that. -/
def w25q16 : Geometry where
  pageSize := 256
  sectorSize := 4096
  capacity := 2097152
  page_pos := by decide
  page_dvd := by decide
  sector_dvd := by decide
  capacity_pos := by decide

/-! ### The chip -/

namespace W25Q16

def WRITE_ENABLE : UInt8 := 0x06
def WRITE_DISABLE : UInt8 := 0x04
def PAGE_PROGRAM : UInt8 := 0x02
def READ_STATUS_REGISTER_1 : UInt8 := 0x05
def READ_DATA : UInt8 := 0x03
def SECTOR_ERASE : UInt8 := 0x20
def RELEASE_POWER_DOWN : UInt8 := 0xAB
def MANUFACTURER_ID : UInt8 := 0x90

end W25Q16

open W25Q16

/-- Where the chip is in the command it is being sent. -/
inductive Phase where
  | deselected
  | opcode
  | address (op : UInt8) (got : List UInt8)
  | reading (addr n : Nat)
  | programming (addr : Nat) (data : List UInt8)
  | erasing (addr : Nat)
  | status
  | ident (n : Nat)
  | enabling
  | disabling
  | ignored
  deriving DecidableEq

/-- What the chip does on its own account: how many status polls answer busy after each program or erase (numbered
by the commands logged before it), and what it answers to the requests of its identification still to come. -/
structure ChipEnv where
  latency : Nat → Nat
  idAnswers : Nat → UInt16

def ChipEnv.nextId (e : ChipEnv) : ChipEnv := { e with idAnswers := fun i => e.idAnswers (i + 1) }

structure Chip where
  mem : Mem
  phase : Phase
  wel : Bool
  busy : Nat
  log : List Cmd
  env : ChipEnv

namespace Chip

/-- Level read on the data line while the chip does not drive it. -/
def floating : UInt8 := 0xFF

def addr24 (b2 b1 b0 : UInt8) : Nat := b2.toNat * 65536 + b1.toNat * 256 + b0.toNat

/-- First byte of a command.  A busy chip answers status reads only. -/
def startCommand (c : Chip) (op : UInt8) : Phase :=
  if op = READ_STATUS_REGISTER_1 then .status
  else if 0 < c.busy then .ignored
  else if op = WRITE_ENABLE then .enabling
  else if op = WRITE_DISABLE then .disabling
  else if op = READ_DATA ∨ op = PAGE_PROGRAM ∨ op = SECTOR_ERASE ∨ op = MANUFACTURER_ID then .address op []
  else .ignored

/-- Phase once the three address bytes are in. -/
def addressed (op : UInt8) (a : Nat) : Phase :=
  if op = READ_DATA then .reading a 0
  else if op = PAGE_PROGRAM then .programming a []
  else if op = SECTOR_ERASE then .erasing a
  else .ident 0

/-- Bit 0 is the busy bit, bit 1 the write enable latch. -/
def statusByte (c : Chip) : UInt8 :=
  (if 0 < c.busy then 1 else 0) ||| (if c.wel then 2 else 0)

/-- One byte in, one byte out. -/
def exchange (c : Chip) (tx : UInt8) : UInt8 × Chip :=
  match c.phase with
  | .opcode => (floating, { c with phase := c.startCommand tx })
  | .address op [b2, b1] => (floating, { c with phase := addressed op (addr24 b2 b1 tx) })
  | .address op got => (floating, { c with phase := .address op (got ++ [tx]) })
  | .reading a n => (c.mem ((a + n) % w25q16.capacity), { c with phase := .reading a (n + 1) })
  | .programming a d => (floating, { c with phase := .programming a (d ++ [tx]) })
  | .status => (c.statusByte, { c with busy := c.busy - 1 })
  | .ident n =>
    let answer := c.env.idAnswers 0
    (if n % 2 = 0 then (answer >>> 8).toUInt8 else answer.toUInt8, { c with phase := .ident (n + 1) })
  | .erasing _ => (floating, { c with phase := .ignored })
  | .enabling => (floating, { c with phase := .ignored })
  | .disabling => (floating, { c with phase := .ignored })
  | .deselected => (floating, c)
  | .ignored => (floating, c)

def exchangeAll (c : Chip) : List UInt8 → List UInt8 × Chip
  | [] => ([], c)
  | tx :: txs =>
    let (rx, c) := c.exchange tx
    let (rxs, c) := c.exchangeAll txs
    (rx :: rxs, c)

/-- A program or erase takes effect, clears the latch and keeps the chip busy. -/
def execute (c : Chip) (cmd : Cmd) : Chip :=
  { c with
    mem := cmd.apply w25q16 c.mem
    phase := .deselected
    wel := false
    busy := c.env.latency c.log.length
    log := c.log ++ [cmd] }

/-- Commands act when the chip is deselected.  A page program without data is ignored. -/
def deselect (c : Chip) : Chip :=
  match c.phase with
  | .reading a n => { c with phase := .deselected, log := c.log ++ [.read a n] }
  | .programming a d => if c.wel && !d.isEmpty then c.execute (.program a d) else { c with phase := .deselected }
  | .erasing a => if c.wel then c.execute (.erase a) else { c with phase := .deselected }
  | .enabling => { c with phase := .deselected, wel := true }
  | .disabling => { c with phase := .deselected, wel := false }
  | .ident _ => { c with phase := .deselected, env := c.env.nextId }
  | _ => { c with phase := .deselected }

end Chip

/-! ### The bus -/

inductive Event where
  | spiStart
  | spiStop
  | spiAcquireBus
  | spiReleaseBus
  | spiSelect
  | spiUnselect
  | spiExchange (tx rx : List UInt8)
  deriving DecidableEq

structure Bus where
  chip : Chip
  started : Bool
  held : Bool
  trace : List Event

/-- A bus with an erased chip, ready for use. -/
def Bus.nuevo : Bus where
  chip := ⟨fun _ => 0xFF, .deselected, false, 0, [], ⟨fun _ => 0, fun _ => 0xEF14⟩⟩
  started := true
  held := false
  trace := []

/-- Why a call does not return. -/
inductive Stuck where
  | mutex
  | stopped
  | loop
  deriving DecidableEq, Repr

abbrev SpiM := EStateM Stuck Bus

def Bus.record (b : Bus) (e : Event) : Bus := { b with trace := b.trace ++ [e] }

def spiStart : SpiM Unit := modify fun b => { b.record .spiStart with started := true }

def spiStop : SpiM Unit := modify fun b => { b.record .spiStop with started := false }

def spiAcquireBus : SpiM Unit := do
  if (← get).held then throw .mutex
  modify fun b => { b.record .spiAcquireBus with held := true }

def spiReleaseBus : SpiM Unit := modify fun b => { b.record .spiReleaseBus with held := false }

def spiSelect : SpiM Unit := modify fun b =>
  { b.record .spiSelect with
    chip := if b.chip.phase = .deselected then { b.chip with phase := .opcode } else b.chip }

def spiUnselect : SpiM Unit := modify fun b => { b.record .spiUnselect with chip := b.chip.deselect }

/-- Full duplex exchange.  On a stopped driver the bytes do not reach the chip and the call does not return. -/
def spiExchange (txbf : List UInt8) : SpiM (List UInt8) := do
  let b ← get
  if b.started then
    let (rxbf, chip) := b.chip.exchangeAll txbf
    set { b.record (.spiExchange txbf rxbf) with chip := chip }
    return rxbf
  else
    set (b.record (.spiExchange txbf []))
    throw .stopped

end Wiznet
