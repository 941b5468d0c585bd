import Wiznet.Library.RingBuffer
import Wiznet.Library.Interference
import Wiznet.Dhcp.Cliente

/-!
# The W5500

The chip as `w5500.h` describes it: eight sockets, each with its registers and the memory of its two buffers, moved by
the commands of the host and by what comes from the network (`Evento`).  And the functions of `w5500.c`, with the
registers that `socket.c` goes through: each access of the bus comes after any events, so that what is read in two
accesses may have changed between them.
-/

namespace Wiznet

namespace W5500

open RingBuffer

/-! ### Registers of sixteen bits -/

def palabra (hi lo : UInt8) : UInt16 := (hi.toUInt16 <<< 8) + lo.toUInt16

def alto (x : UInt16) : UInt8 := (x >>> 8).toUInt8

def bajo (x : UInt16) : UInt8 := x.toUInt8

theorem toNat_palabra (hi lo : UInt8) : (palabra hi lo).toNat = hi.toNat * 256 + lo.toNat := by
  have := hi.toNat_lt
  have := lo.toNat_lt
  simp only [palabra, UInt16.toNat_add, UInt16.toNat_shiftLeft, UInt8.toNat_toUInt16, Nat.shiftLeft_eq]
  simp
  omega

theorem toNat_alto (x : UInt16) : (alto x).toNat = x.toNat / 256 := by
  have := x.toNat_lt
  simp only [alto, UInt16.toNat_toUInt8, UInt16.toNat_shiftRight, Nat.shiftRight_eq_div_pow]
  simp
  omega

theorem toNat_bajo (x : UInt16) : (bajo x).toNat = x.toNat % 256 := by simp [bajo]

@[simp] theorem palabra_alto_bajo (x : UInt16) : palabra (alto x) (bajo x) = x := by
  rw [← UInt16.toNat_inj, toNat_palabra, toNat_alto, toNat_bajo]
  omega

theorem alto_palabra (hi lo : UInt8) : alto (palabra hi lo) = hi := by
  have := lo.toNat_lt
  rw [← UInt8.toNat_inj, toNat_alto, toNat_palabra]
  omega

/-! ### A socket of the chip -/

def SOCK_INIT : UInt8 := 0x13
def SOCK_LISTEN : UInt8 := 0x14
def SOCK_SYNSENT : UInt8 := 0x15
def SOCK_FIN_WAIT : UInt8 := 0x18
def SOCK_TIME_WAIT : UInt8 := 0x1B
def SOCK_LAST_ACK : UInt8 := 0x1D
def SOCK_IPRAW : UInt8 := 0x32
def SOCK_MACRAW : UInt8 := 0x42

def SN_MR_IPRAW : UInt8 := 0x03
def SN_MR_MACRAW : UInt8 := 0x04

def SN_CR_OPEN : UInt8 := 0x01
def SN_CR_LISTEN : UInt8 := 0x02
def SN_CR_CONNECT : UInt8 := 0x04
def SN_CR_DISCON : UInt8 := 0x08
def SN_CR_CLOSE : UInt8 := 0x10
def SN_CR_SEND : UInt8 := 0x20
def SN_CR_SEND_KEEP : UInt8 := 0x22
def SN_CR_RECV : UInt8 := 0x40

def SN_IR_SENDOK : UInt8 := 0x10
def SN_IR_TIMEOUT : UInt8 := 0x08
def SN_IR_RECV : UInt8 := 0x04
def SN_IR_DISCON : UInt8 := 0x02
def SN_IR_CON : UInt8 := 0x01

/-- The offsets of the registers in the block of their socket. -/
def SN_MR : Nat := 0x00
def SN_CR : Nat := 0x01
def SN_IR : Nat := 0x02
def SN_SR : Nat := 0x03
def SN_PORT : Nat := 0x04
def SN_DIPR : Nat := 0x0C
def SN_DPORT : Nat := 0x10
def SN_MSSR : Nat := 0x12
def SN_TOS : Nat := 0x15
def SN_TTL : Nat := 0x16
def SN_RXBUF_SIZE : Nat := 0x1E
def SN_TXBUF_SIZE : Nat := 0x1F
def SN_TX_FSR : Nat := 0x20
def SN_TX_RD : Nat := 0x22
def SN_TX_WR : Nat := 0x24
def SN_RX_RSR : Nat := 0x26
def SN_RX_RD : Nat := 0x28
def SN_RX_WR : Nat := 0x2A
def SN_IMR : Nat := 0x2C
def SN_KPALVTR : Nat := 0x2F

/-- The registers the host writes, byte by byte, those the chip keeps, and the memory of the two buffers.  `txFin` and
`rxVisto` are the pointers that the last SEND and the last RECV have told the chip of, and `enviando` is whether a
SEND is still to be completed.

The last five fields are histories, which nobody reads: of the connection, the bytes its peer has confirmed and those
that have come from it; the SENDs given before the last one was complete; the datagrams sent and those that have
come. -/
structure Zocalo where
  regs : Nat → UInt8
  cr : UInt8
  ir : UInt8
  sr : UInt8
  txRd : UInt16
  txFin : UInt16
  rxVisto : UInt16
  rxWr : UInt16
  enviando : Bool
  tx : Nat → UInt8
  rx : Nat → UInt8
  confirmado : List UInt8
  recibido : List UInt8
  adelantados : Nat
  enviados : List Datagrama
  llegados : List Datagrama

/-- What comes to a socket of the chip from the network or from the chip itself. -/
inductive Evento where
  /-- The chip accepts the command in `Sn_CR`; an OPEN leaves the pointers at these two. -/
  | atiende (tx rx : UInt16)
  /-- The connection is made, and the pointers are left at these two. -/
  | conecta (tx rx : UInt16)
  | llega (bs : List UInt8)
  | datagrama (d : Datagrama)
  /-- The peer confirms so many more bytes. -/
  | confirma (k : Nat)
  /-- The SEND is complete. -/
  | termina
  | fin
  | cierra
  /-- The time is over: the end of a connection, and of a SEND of a datagram, which is then taken to be no longer in
  the ring. `w5500.h` does not say this. -/
  | vence

namespace Zocalo

/-- After a reset. -/
def inicial : Zocalo where
  regs off := if off = SN_RXBUF_SIZE ∨ off = SN_TXBUF_SIZE then 2 else 0
  cr := 0
  ir := 0
  sr := SOCK_CLOSED
  txRd := 0
  txFin := 0
  rxVisto := 0
  rxWr := 0
  enviando := false
  tx _ := 0
  rx _ := 0
  confirmado := []
  recibido := []
  adelantados := 0
  enviados := []
  llegados := []

variable (z : Zocalo)

def reg16 (off : Nat) : UInt16 := palabra (z.regs off) (z.regs (off + 1))

def pon16 (off : Nat) (x : UInt16) (regs : Nat → UInt8) : Nat → UInt8 :=
  Function.update (Function.update regs off (alto x)) (off + 1) (bajo x)

def mr : UInt8 := z.regs SN_MR

/-- `getSn_TxMAX`. -/
def txMax : UInt16 := (z.regs SN_TXBUF_SIZE).toUInt16 <<< 10

/-- `getSn_RxMAX`. -/
def rxMax : UInt16 := (z.regs SN_RXBUF_SIZE).toUInt16 <<< 10

/-- What the chip is to send and its peer has not confirmed. -/
def colaTx : List UInt8 := window z.txMax.toNat z.tx z.txRd.toNat (gap z.txRd z.txFin)

/-- What has come and the host has not taken. -/
def colaRx : List UInt8 := window z.rxMax.toNat z.rx z.rxVisto.toNat (gap z.rxVisto z.rxWr)

def txFsr : UInt16 := z.txMax - (z.reg16 SN_TX_WR - z.txRd)

def rxRsr : UInt16 := z.rxWr - z.rxVisto

/-! ### What the chip does -/

/-- An OPEN or a new connection. -/
def empieza (tx rx : UInt16) : Zocalo :=
  { z with
    regs := pon16 SN_RX_RD rx (pon16 SN_TX_WR tx z.regs), txRd := tx, txFin := tx, rxVisto := rx, rxWr := rx,
    enviando := false, confirmado := [], recibido := [], adelantados := 0, enviados := [], llegados := [] }

/-- `Sn_SR` after an OPEN. -/
def srAbierto : UInt8 :=
  if z.mr &&& 0x0F = SN_MR_TCP then SOCK_INIT
  else if z.mr &&& 0x0F = SN_MR_UDP then SOCK_UDP
  else if z.mr &&& 0x0F = SN_MR_IPRAW then SOCK_IPRAW
  else if z.mr &&& 0x0F = SN_MR_MACRAW then SOCK_MACRAW
  else SOCK_CLOSED

/-- What the command in `Sn_CR` does, apart from clearing it. -/
def manda (tx rx : UInt16) : Zocalo :=
  if z.cr = SN_CR_OPEN then { z.empieza tx rx with sr := z.srAbierto }
  else if z.cr = SN_CR_LISTEN then { z with sr := if z.sr = SOCK_INIT then SOCK_LISTEN else z.sr }
  else if z.cr = SN_CR_CONNECT then { z with sr := if z.sr = SOCK_INIT then SOCK_SYNSENT else z.sr }
  else if z.cr = SN_CR_DISCON then
    { z with sr :=
      if z.sr = SOCK_ESTABLISHED then SOCK_FIN_WAIT else if z.sr = SOCK_CLOSE_WAIT then SOCK_LAST_ACK else z.sr }
  else if z.cr = SN_CR_CLOSE then { z with sr := SOCK_CLOSED }
  else if z.cr = SN_CR_SEND then
    { z with
      txFin := z.reg16 SN_TX_WR, enviando := true,
      adelantados := if z.enviando then z.adelantados + 1 else z.adelantados }
  else if z.cr = SN_CR_RECV then { z with rxVisto := z.reg16 SN_RX_RD }
  else z

/-- Bytes that come after those not taken yet, when there is room for them. -/
def guarda (bs : List UInt8) : Zocalo :=
  { z with
    rx := put z.rxMax.toNat z.rx z.rxWr.toNat bs, rxWr := z.rxWr + bs.length.toUInt16, ir := z.ir ||| SN_IR_RECV }

def cabe (bs : List UInt8) : Bool := gap z.rxVisto z.rxWr + bs.length ≤ z.rxMax.toNat

/-- A datagram as the host finds it. -/
def marco (mr : UInt8) (d : Datagrama) : List UInt8 :=
  let largo := d.bytes.length.toUInt16
  if mr &&& 0x0F = SN_MR_UDP then d.addr.bytes ++ [alto d.port, bajo d.port, alto largo, bajo largo] ++ d.bytes
  else if mr &&& 0x0F = SN_MR_IPRAW then d.addr.bytes ++ [alto largo, bajo largo] ++ d.bytes
  else [alto (largo + 2), bajo (largo + 2)] ++ d.bytes

/-- The connection of the socket can carry data from its peer. -/
def recibeDatos : Bool := z.sr == SOCK_ESTABLISHED || z.sr == SOCK_FIN_WAIT

/-- The connection of the socket can carry data to its peer. -/
def enviaDatos : Bool :=
  z.sr == SOCK_ESTABLISHED || z.sr == SOCK_CLOSE_WAIT || z.sr == SOCK_FIN_WAIT || z.sr == SOCK_LAST_ACK

/-- The socket is open for datagrams. -/
def deDatagramas : Bool := z.sr == SOCK_UDP || z.sr == SOCK_IPRAW || z.sr == SOCK_MACRAW

/-- The datagram a SEND is sending. -/
def enCurso : Datagrama where
  bytes := z.colaTx
  addr := ⟨z.regs SN_DIPR, z.regs (SN_DIPR + 1), z.regs (SN_DIPR + 2), z.regs (SN_DIPR + 3)⟩
  port := z.reg16 SN_DPORT

def paso : Evento → Zocalo → Zocalo
  | .atiende tx rx, z => { z.manda tx rx with cr := 0 }
  | .conecta tx rx, z =>
    if z.sr = SOCK_SYNSENT ∨ z.sr = SOCK_LISTEN then
      { z.empieza tx rx with sr := SOCK_ESTABLISHED, ir := z.ir ||| SN_IR_CON }
    else z
  | .llega bs, z => if z.recibeDatos && z.cabe bs then { z.guarda bs with recibido := z.recibido ++ bs } else z
  | .datagrama d, z =>
    if z.deDatagramas && z.cabe (marco z.mr d) then { z.guarda (marco z.mr d) with llegados := z.llegados ++ [d] }
    else z
  | .confirma k, z =>
    if z.enviaDatos then
      let k := min k (gap z.txRd z.txFin)
      { z with txRd := z.txRd + k.toUInt16, confirmado := z.confirmado ++ z.colaTx.take k }
    else z
  | .termina, z =>
    if z.enviando then
      -- a SEND of a connection is complete when all it has sent is confirmed
      if z.deDatagramas then
        { z with
          txRd := z.txFin, enviando := false, ir := z.ir ||| SN_IR_SENDOK, enviados := z.enviados ++ [z.enCurso] }
      else if z.sr ≠ SOCK_CLOSED ∧ z.txRd = z.txFin then { z with enviando := false, ir := z.ir ||| SN_IR_SENDOK }
      else z
    else z
  | .fin, z =>
    if z.sr = SOCK_ESTABLISHED then { z with sr := SOCK_CLOSE_WAIT, ir := z.ir ||| SN_IR_DISCON }
    else if z.sr = SOCK_FIN_WAIT then { z with sr := SOCK_TIME_WAIT, ir := z.ir ||| SN_IR_DISCON }
    else z
  | .cierra, z =>
    if z.deDatagramas ∨ z.sr = SOCK_CLOSED then z else { z with sr := SOCK_CLOSED, ir := z.ir ||| SN_IR_DISCON }
  | .vence, z =>
    -- a datagram whose destination does not answer is lost, a connection comes to its end
    if z.deDatagramas then
      if z.enviando then { z with txRd := z.txFin, enviando := false, ir := z.ir ||| SN_IR_TIMEOUT } else z
    else if z.sr = SOCK_CLOSED then z
    else { z with sr := SOCK_CLOSED, ir := z.ir ||| SN_IR_TIMEOUT }

/-! ### Its registers on the bus -/

def leeReg (off : Nat) : UInt8 :=
  if off = SN_CR then z.cr
  else if off = SN_IR then z.ir
  else if off = SN_SR then z.sr
  else if off = SN_TX_FSR then alto z.txFsr
  else if off = SN_TX_FSR + 1 then bajo z.txFsr
  else if off = SN_TX_RD then alto z.txRd
  else if off = SN_TX_RD + 1 then bajo z.txRd
  else if off = SN_RX_RSR then alto z.rxRsr
  else if off = SN_RX_RSR + 1 then bajo z.rxRsr
  else if off = SN_RX_WR then alto z.rxWr
  else if off = SN_RX_WR + 1 then bajo z.rxWr
  else z.regs off

/-- Writing a one to a bit of `Sn_IR` clears it; the registers the chip keeps cannot be written. -/
def escribeReg (off : Nat) (b : UInt8) : Zocalo :=
  if off = SN_CR then { z with cr := b }
  else if off = SN_IR then { z with ir := z.ir &&& ~~~b }
  else if off = SN_SR ∨ (SN_TX_FSR ≤ off ∧ off < SN_TX_WR) ∨ off = SN_RX_RSR ∨ off = SN_RX_RSR + 1 ∨ off = SN_RX_WR ∨
    off = SN_RX_WR + 1 then z
  else { z with regs := Function.update z.regs off b }

end Zocalo

end W5500

end Wiznet
