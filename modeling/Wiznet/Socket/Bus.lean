import Wiznet.Socket.Chip
import Wiznet.Library.Stateful

/-!
# The accesses to the chip

The host as `w5500.c` and `socket.c` see it: the chip, the events still to come before each of its accesses (`agenda`)
and the variables of `socket.c`.  The functions of `w5500.c` and the macros of `w5500.h` for the registers of a
socket.  A loop that polls the chip has no bound in the source, and takes here the rounds that are left.
-/

namespace Wiznet

namespace W5500

open Stateful

/-- The variables of `socket.c`. -/
structure Vars where
  sockAnyPort : UInt16 := 0xC000
  sockIoMode : UInt16 := 0
  sockIsSending : UInt16 := 0
  sockRemainedSize : Nat → UInt16 := fun _ => 0
  sockPackInfo : Nat → UInt8 := fun _ => 0

/-- The host and the chip.  Before each access come the events of the next list of the agenda, each for the socket of
its number. -/
structure Anfitrion where
  comunes : Nat → UInt8
  zocalos : Nat → Zocalo
  agenda : List (List (Nat × Evento))
  vars : Vars
  rondas : Nat

abbrev SocketM := EStateM Parada Anfitrion

/-! ### The bus -/

/-- Blocks of the chip: the common registers, and of each socket its registers and its two buffers. -/
def WIZCHIP_CREG_BLOCK : Nat := 0x00
def WIZCHIP_SREG_BLOCK (n : Nat) : Nat := 1 + 4 * n
def WIZCHIP_TXBUF_BLOCK (n : Nat) : Nat := 2 + 4 * n
def WIZCHIP_RXBUF_BLOCK (n : Nat) : Nat := 3 + 4 * n

/-- The address on the bus: the offset in two bytes, and the block in the upper bits of the third. -/
def direccion (off bloque : Nat) : Nat := off * 256 + bloque * 8

def WIZCHIP_OFFSET_INC (addr n : Nat) : Nat := addr + n * 256

namespace Anfitrion

/-- What the chip answers to a read of the byte at this offset of the block. -/
def leeByte (s : Anfitrion) (bloque off : Nat) : UInt8 :=
  let z := s.zocalos (bloque / 4)
  if bloque = WIZCHIP_CREG_BLOCK then s.comunes off
  else if bloque % 4 = 1 then z.leeReg off
  else if bloque % 4 = 2 then z.tx (off % z.txMax.toNat)
  else if bloque % 4 = 3 then z.rx (off % z.rxMax.toNat)
  else 0

/-- What a write of the byte at this offset of the block does to a socket. -/
def escribeZocalo (bloque off : Nat) (b : UInt8) (z : Zocalo) : Zocalo :=
  if bloque % 4 = 1 then z.escribeReg off b
  else if bloque % 4 = 2 then { z with tx := Function.update z.tx (off % z.txMax.toNat) b }
  else if bloque % 4 = 3 then { z with rx := Function.update z.rx (off % z.rxMax.toNat) b }
  else z

def escribeByte (bloque off : Nat) (b : UInt8) (s : Anfitrion) : Anfitrion :=
  if bloque = WIZCHIP_CREG_BLOCK then { s with comunes := Function.update s.comunes off b }
  else
    { s with zocalos := Function.update s.zocalos (bloque / 4) (escribeZocalo bloque off b (s.zocalos (bloque / 4))) }

/-- Consecutive offsets, which the chip counts with sixteen bits. -/
def leeBytes (s : Anfitrion) (bloque off len : Nat) : List UInt8 :=
  (List.range len).map fun i => s.leeByte bloque ((off + i) % 65536)

def escribeBytes (bloque : Nat) : Nat → List UInt8 → Anfitrion → Anfitrion
  | _, [], s => s
  | off, b :: bs, s => escribeBytes bloque ((off + 1) % 65536) bs (escribeByte bloque off b s)

/-- The offset and the block of an address. -/
def offset (addrSel : Nat) : Nat := addrSel / 256 % 65536

def bloque (addrSel : Nat) : Nat := addrSel / 8 % 32

/-- The events that come before the next access. -/
def avanza (s : Anfitrion) : Anfitrion :=
  { s with zocalos := Interference.run Zocalo.paso s.zocalos (s.agenda.headD []), agenda := s.agenda.tail }

/-- Socket `k` after its own events among those that come before the next `n` accesses, and nothing else. -/
def tras (s : Anfitrion) (n k : Nat) : Zocalo :=
  Interference.evolve Zocalo.paso (s.zocalos k) (Interference.own k (s.agenda.take n).flatten)

end Anfitrion

open Anfitrion (offset bloque)

/-- A chip that starts with this address: eight sockets with buffers of two kilobytes. -/
def Anfitrion.inicial (sipr : List UInt8) (agenda : List (List (Nat × Evento))) (rondas : Nat) : Anfitrion where
  comunes off := if 0x0F ≤ off ∧ off < 0x13 then sipr.getD (off - 0x0F) 0 else 0
  zocalos _ := Zocalo.inicial
  agenda := agenda
  vars := {}
  rondas := rondas

/-- An access to the chip, after the events that come before it. -/
def acceso {α : Type} (f : Anfitrion → α × Anfitrion) : SocketM α := modifyGet fun s => f s.avanza

def WIZCHIP_READ (addrSel : Nat) : SocketM UInt8 :=
  acceso fun s => (s.leeByte (bloque addrSel) (offset addrSel), s)

def WIZCHIP_WRITE (addrSel : Nat) (wb : UInt8) : SocketM Unit :=
  acceso fun s => ((), Anfitrion.escribeByte (bloque addrSel) (offset addrSel) wb s)

def WIZCHIP_READ_BUF (addrSel : Nat) (len : UInt16) : SocketM (List UInt8) :=
  acceso fun s => (s.leeBytes (bloque addrSel) (offset addrSel) len.toNat, s)

def WIZCHIP_WRITE_BUF (addrSel : Nat) (bs : List UInt8) : SocketM Unit :=
  acceso fun s => ((), Anfitrion.escribeBytes (bloque addrSel) (offset addrSel) bs s)

/-- What a program returns. -/
def devuelto {α : Type} : EStateM.Result Parada Anfitrion α → Option α
  | .ok a _ => some a
  | .error _ _ => none

theorem ok_of_devuelto {α : Type} {r : EStateM.Result Parada Anfitrion α} {a : α} (h : devuelto r = some a) :
    ∃ s, r = .ok a s := by
  cases r with
  | ok b s =>
    cases h
    exact ⟨s, rfl⟩
  | error e s => cases h

/-! ### Registers of a socket -/

/-- The address of a register of socket `sn`. -/
def reg (off : Nat) (sn : UInt8) : Nat := direccion off (WIZCHIP_SREG_BLOCK sn.toNat)

/-- A register of two bytes, the upper one first. -/
def leeReg16 (off : Nat) (sn : UInt8) : SocketM UInt16 := do
  let hi ← WIZCHIP_READ (reg off sn)
  let lo ← WIZCHIP_READ (WIZCHIP_OFFSET_INC (reg off sn) 1)
  return palabra hi lo

def poneReg16 (off : Nat) (sn : UInt8) (x : UInt16) : SocketM Unit := do
  WIZCHIP_WRITE (reg off sn) (alto x)
  WIZCHIP_WRITE (WIZCHIP_OFFSET_INC (reg off sn) 1) (bajo x)

def getSnMR (sn : UInt8) : SocketM UInt8 := WIZCHIP_READ (reg SN_MR sn)
def setSnMR (sn mr : UInt8) : SocketM Unit := WIZCHIP_WRITE (reg SN_MR sn) mr
def getSnCR (sn : UInt8) : SocketM UInt8 := WIZCHIP_READ (reg SN_CR sn)
def setSnCR (sn cr : UInt8) : SocketM Unit := WIZCHIP_WRITE (reg SN_CR sn) cr
def getSnIR (sn : UInt8) : SocketM UInt8 := do return (← WIZCHIP_READ (reg SN_IR sn)) &&& 0x1F
def setSnIR (sn ir : UInt8) : SocketM Unit := WIZCHIP_WRITE (reg SN_IR sn) (ir &&& 0x1F)
def getSnSR (sn : UInt8) : SocketM UInt8 := WIZCHIP_READ (reg SN_SR sn)
def setSnPORT (sn : UInt8) (port : UInt16) : SocketM Unit := poneReg16 SN_PORT sn port
def setSnDIPR (sn : UInt8) (dipr : IP) : SocketM Unit := WIZCHIP_WRITE_BUF (reg SN_DIPR sn) dipr.bytes
def setSnDPORT (sn : UInt8) (dport : UInt16) : SocketM Unit := poneReg16 SN_DPORT sn dport
def getSnTXWR (sn : UInt8) : SocketM UInt16 := leeReg16 SN_TX_WR sn
def setSnTXWR (sn : UInt8) (txwr : UInt16) : SocketM Unit := poneReg16 SN_TX_WR sn txwr
def getSnRXRD (sn : UInt8) : SocketM UInt16 := leeReg16 SN_RX_RD sn
def setSnRXRD (sn : UInt8) (rxrd : UInt16) : SocketM Unit := poneReg16 SN_RX_RD sn rxrd

def getSnRxMAX (sn : UInt8) : SocketM UInt16 := do return (← WIZCHIP_READ (reg SN_RXBUF_SIZE sn)).toUInt16 <<< 10

def getSnTxMAX (sn : UInt8) : SocketM UInt16 := do return (← WIZCHIP_READ (reg SN_TXBUF_SIZE sn)).toUInt16 <<< 10

/-- `getSIPR`, the four bytes. -/
def getSIPR : SocketM (List UInt8) := WIZCHIP_READ_BUF (direccion 0x0F WIZCHIP_CREG_BLOCK) 4

/-! ### The functions of `w5500.c` -/

/-- The loop of `getSn_TX_FSR` and of `getSn_RX_RSR`: a value that is not zero has to be read twice. -/
def dosVeces (lee : SocketM UInt16) : Nat → UInt16 → SocketM UInt16
  | 0, _ => throw .loop
  | n + 1, val => do
    let val1 ← lee
    let val ← if val1 ≠ 0 then lee else pure val
    if val ≠ val1 then dosVeces lee n val else return val

def getSnTXFSR (sn : UInt8) : SocketM UInt16 := do dosVeces (leeReg16 SN_TX_FSR sn) (← get).rondas 0

def getSnRXRSR (sn : UInt8) : SocketM UInt16 := do dosVeces (leeReg16 SN_RX_RSR sn) (← get).rondas 0

def wizSendData (sn : UInt8) (wizdata : List UInt8) (len : UInt16) : SocketM Unit := do
  if len = 0 then return
  else do
    let ptr ← getSnTXWR sn
    WIZCHIP_WRITE_BUF (direccion ptr.toNat (WIZCHIP_TXBUF_BLOCK sn.toNat)) (wizdata.take len.toNat)
    setSnTXWR sn (ptr + len)

/-- The bytes read. -/
def wizRecvData (sn : UInt8) (len : UInt16) : SocketM (List UInt8) := do
  if len = 0 then return []
  else do
    let ptr ← getSnRXRD sn
    let wizdata ← WIZCHIP_READ_BUF (direccion ptr.toNat (WIZCHIP_RXBUF_BLOCK sn.toNat)) len
    setSnRXRD sn (ptr + len)
    return wizdata

def wizRecvIgnore (sn : UInt8) (len : UInt16) : SocketM Unit := do
  let ptr ← getSnRXRD sn
  setSnRXRD sn (ptr + len)

end W5500

end Wiznet
