import Wiznet.Socket.Bus

/-!
# The sockets

The functions of `socket.c` as built for the W5500 (`_WIZCHIP_` is 5500, so without what is for other chips or for
IPv6), with addresses of four bytes.  A buffer to be sent comes with its length, and a buffer to be filled is
returned.
-/

namespace Wiznet

namespace W5500

def WIZCHIP_SOCK_NUM : UInt8 := 8

def SOCK_BUSY : Int := 0
def SOCKERR_SOCKNUM : Int := -1
def SOCKERR_SOCKOPT : Int := -2
def SOCKERR_SOCKINIT : Int := -3
def SOCKERR_SOCKCLOSED : Int := -4
def SOCKERR_SOCKMODE : Int := -5
def SOCKERR_SOCKFLAG : Int := -6
def SOCKERR_SOCKSTATUS : Int := -7
def SOCKERR_ARG : Int := -10
def SOCKERR_PORTZERO : Int := -11
def SOCKERR_IPINVALID : Int := -12
def SOCKERR_DATALEN : Int := -14
def SOCKFATAL_PACKLEN : Int := -1001

def SN_MR_TCP6 : UInt8 := 0x09
def SN_MR_UDP6 : UInt8 := 0x0A
def SN_MR_IPRAW6 : UInt8 := 0x0B
def SN_MR_UDPD : UInt8 := 0x0E

def SF_IO_NONBLOCK : UInt8 := 0x01
def SF_UNI_BLOCK : UInt8 := 0x10
def SF_TCP_NODELAY : UInt8 := 0x20
def SF_IGMP_VER2 : UInt8 := 0x20
def SF_MULTI_ENABLE : UInt8 := 0x80

def PACK_FIRST : UInt8 := 0x80
def PACK_REMAINED : UInt8 := 0x01
def PACK_COMPLETED : UInt8 := 0x00
def PACK_NONE : UInt8 := 0x00

def SOCK_ANY_PORT_NUM : UInt16 := 0xC000

/-! ### The variables -/

/-- The bit of a socket in `sock_io_mode` and `sock_is_sending`. -/
def bit (sn : UInt8) : UInt16 := 1 <<< sn.toUInt16

namespace Vars

variable (v : Vars)

def nonblock (sn : UInt8) : Bool := v.sockIoMode &&& bit sn != 0

def sending (sn : UInt8) : Bool := v.sockIsSending &&& bit sn != 0

def remained (sn : UInt8) : UInt16 := v.sockRemainedSize sn.toNat

def packInfo (sn : UInt8) : UInt8 := v.sockPackInfo sn.toNat

def sinModo (sn : UInt8) : Vars := { v with sockIoMode := v.sockIoMode &&& ~~~bit sn }

def conModo (sn flag : UInt8) : Vars :=
  { v with sockIoMode := v.sockIoMode ||| (flag &&& SF_IO_NONBLOCK).toUInt16 <<< sn.toUInt16 }

def libera (sn : UInt8) : Vars := { v with sockIsSending := v.sockIsSending &&& ~~~bit sn }

def ocupa (sn : UInt8) : Vars := { v with sockIsSending := v.sockIsSending ||| bit sn }

def ponRemained (sn : UInt8) (n : UInt16) : Vars :=
  { v with sockRemainedSize := Function.update v.sockRemainedSize sn.toNat n }

def ponPackInfo (sn info : UInt8) : Vars := { v with sockPackInfo := Function.update v.sockPackInfo sn.toNat info }

/-- The port that comes next when the caller asks for any. -/
def siguientePort : Vars :=
  let next := v.sockAnyPort + 1
  { v with sockAnyPort := if next = 0xFFF0 then SOCK_ANY_PORT_NUM else next }

end Vars

def enVars (f : Vars → Vars) : SocketM Unit := modify fun s => { s with vars := f s.vars }

/-! ### Waiting for the chip -/

/-- `while (cond);` -/
def mientras (cond : SocketM Bool) : Nat → SocketM Unit
  | 0 => throw .loop
  | n + 1 => do if (← cond) then mientras cond n else return

/-- A command, and the wait until the chip has taken it. -/
def ordena (sn cr : UInt8) : SocketM Unit := do
  setSnCR sn cr
  mientras (do return (← getSnCR sn) != 0) (← get).rondas

/-! ### Opening and closing -/

def close (sn : UInt8) : SocketM Int := do
  if sn ≥ WIZCHIP_SOCK_NUM then return SOCKERR_SOCKNUM
  else do
    ordena sn SN_CR_CLOSE
    setSnIR sn 0xFF
    enVars (·.sinModo sn)
    enVars (·.libera sn)
    enVars (·.ponRemained sn 0)
    enVars (·.ponPackInfo sn PACK_NONE)
    mientras (do return (← getSnSR sn) != SOCK_CLOSED) (← get).rondas
    return SOCK_OK

/-- The flags `socket` refuses for a protocol. -/
def flagMalo (protocol flag : UInt8) : Bool :=
  flag &&& 0x04 != 0 ||
  (flag != 0 &&
    (protocol == SN_MR_TCP && flag &&& (SF_TCP_NODELAY ||| SF_IO_NONBLOCK) == 0 ||
    protocol == SN_MR_UDP && flag &&& SF_IGMP_VER2 != 0 && flag &&& SF_MULTI_ENABLE == 0 ||
    protocol == SN_MR_UDP && flag &&& SF_UNI_BLOCK != 0 && flag &&& SF_MULTI_ENABLE == 0))

/-- The `switch` on the protocol: the error, if any. -/
def protocoloMalo (protocol : UInt8) : SocketM (Option Int) := do
  if protocol &&& 0x0F = SN_MR_TCP then do
    let taddr ← getSIPR
    return if taddr.all (· == 0) then some SOCKERR_SOCKINIT else none
  else
    return if protocol &&& 0x0F ∈ [SN_MR_UDP, SN_MR_UDP6, SN_MR_UDPD, SN_MR_MACRAW, SN_MR_IPRAW, SN_MR_IPRAW6] then none
      else some SOCKERR_SOCKMODE

/-- `port`, or the next one when it is zero. -/
def elijePort (port : UInt16) : SocketM UInt16 := do
  if port = 0 then do
    let port := (← get).vars.sockAnyPort
    enVars (·.siguientePort)
    return port
  else return port

def socket (sn protocol : UInt8) (port : UInt16) (flag : UInt8) : SocketM Int := do
  if sn ≥ WIZCHIP_SOCK_NUM then return SOCKERR_SOCKNUM
  else do
    match ← protocoloMalo protocol with
    | some e => return e
    | none =>
      if flagMalo protocol flag then return SOCKERR_SOCKFLAG
      else do
        let _ ← close sn
        setSnMR sn (protocol ||| (flag &&& 0xF0))
        let port ← elijePort port
        setSnPORT sn port
        ordena sn SN_CR_OPEN
        enVars (·.sinModo sn)
        enVars (·.conModo sn flag)
        enVars (·.libera sn)
        enVars (·.ponRemained sn 0)
        enVars (·.ponPackInfo sn PACK_COMPLETED)
        mientras (do return (← getSnSR sn) == SOCK_CLOSED) (← get).rondas
        return sn.toNat

/-! ### Connections -/

/-- `CHECK_TCPMODE`, on the value of `Sn_MR`. -/
def esTcp (mr : UInt8) : Bool := mr &&& 0x03 == 0x01

def listen (sn : UInt8) : SocketM Int := do
  if sn ≥ WIZCHIP_SOCK_NUM then return SOCKERR_SOCKNUM
  else if !esTcp (← getSnMR sn) then return SOCKERR_SOCKMODE
  else if (← getSnSR sn) ≠ SOCK_INIT then return SOCKERR_SOCKINIT
  else do
    ordena sn SN_CR_LISTEN
    if (← getSnSR sn) ≠ SOCK_LISTEN then do
      let _ ← close sn
      return SOCKERR_SOCKCLOSED
    else return SOCK_OK

/-- The wait of `connect` for the connection. -/
def esperaConexion (sn : UInt8) : Nat → SocketM Int
  | 0 => throw .loop
  | n + 1 => do
    if (← getSnSR sn) = SOCK_ESTABLISHED then return SOCK_OK
    else if (← getSnIR sn) &&& SN_IR_TIMEOUT ≠ 0 then do
      setSnIR sn SN_IR_TIMEOUT
      return Wiznet.SOCKERR_TIMEOUT
    else if (← getSnSR sn) = SOCK_CLOSED then return SOCKERR_SOCKCLOSED
    else esperaConexion sn n

def connect (sn : UInt8) (addr : IP) (port : UInt16) : SocketM Int := do
  if sn ≥ WIZCHIP_SOCK_NUM then return SOCKERR_SOCKNUM
  else if !esTcp (← getSnMR sn) then return SOCKERR_SOCKMODE
  else if (← getSnSR sn) ≠ SOCK_INIT then return SOCKERR_SOCKINIT
  else if addr = IP.difusion ∨ addr = {} then return SOCKERR_IPINVALID
  else if port = 0 then return SOCKERR_PORTZERO
  else do
    setSnDPORT sn port
    if (← getSnMR sn) = SN_MR_TCP6 then return SOCKERR_SOCKMODE
    else do
      setSnDIPR sn addr
      ordena sn SN_CR_CONNECT
      if (← get).vars.nonblock sn then return SOCK_BUSY else esperaConexion sn (← get).rondas

/-- The wait of `disconnect` for the end of the connection. -/
def esperaDesconexion (sn : UInt8) : Nat → SocketM Int
  | 0 => throw .loop
  | n + 1 => do
    if (← getSnSR sn) = SOCK_CLOSED then return SOCK_OK
    else if (← getSnIR sn) &&& SN_IR_TIMEOUT ≠ 0 then do
      let _ ← close sn
      return Wiznet.SOCKERR_TIMEOUT
    else esperaDesconexion sn n

def disconnect (sn : UInt8) : SocketM Int := do
  if sn ≥ WIZCHIP_SOCK_NUM then return SOCKERR_SOCKNUM
  else if !esTcp (← getSnMR sn) then return SOCKERR_SOCKMODE
  else if (← getSnSR sn) = SOCK_CLOSED then return SOCK_OK
  else do
    ordena sn SN_CR_DISCON
    enVars (·.libera sn)
    if (← get).vars.nonblock sn then return SOCK_BUSY else esperaDesconexion sn (← get).rondas

/-! ### The stream -/

/-- The socket can send. -/
def abierto (sr : UInt8) : Bool := sr == SOCK_ESTABLISHED || sr == SOCK_CLOSE_WAIT

/-- What `send` does about the last SEND, when it has not seen its end: its result, if it goes no further. -/
def acabaSend (sn : UInt8) : SocketM (Option Int) := do
  if (← get).vars.sending sn then do
    let tmp ← getSnIR sn
    if tmp &&& SN_IR_SENDOK ≠ 0 then do
      setSnIR sn SN_IR_SENDOK
      enVars (·.libera sn)
      return none
    else if tmp &&& SN_IR_TIMEOUT ≠ 0 then do
      let _ ← close sn
      return some Wiznet.SOCKERR_TIMEOUT
    else return some SOCK_BUSY
  else return none

/-- The wait of `send` for room: its result, if it goes no further. -/
def esperaHueco (sn : UInt8) (len : UInt16) : Nat → SocketM (Option Int)
  | 0 => throw .loop
  | n + 1 => do
    let freesize ← getSnTXFSR sn
    let tmp ← getSnSR sn
    if !abierto tmp then do
      if tmp = SOCK_CLOSED then do
        let _ ← close sn
      return some SOCKERR_SOCKSTATUS
    else if (← get).vars.nonblock sn && len > freesize then return some SOCK_BUSY
    else if len ≤ freesize then return none
    else esperaHueco sn len n

/-- The wait of `send` for the end of the last SEND, when it is still under way. -/
def esperaSendok (sn : UInt8) : Nat → SocketM (Option Int)
  | 0 => throw .loop
  | n + 1 => do
    if (← getSnIR sn) &&& SN_IR_SENDOK ≠ 0 then do
      setSnIR sn SN_IR_SENDOK
      return none
    else do
      let tmp ← getSnSR sn
      if !abierto tmp then do
        if tmp = SOCK_CLOSED then do
          let _ ← close sn
        else if (← getSnIR sn) &&& SN_IR_TIMEOUT ≠ 0 then do
          let _ ← close sn
        return some SOCKERR_SOCKSTATUS
      else if (← get).vars.nonblock sn then return some SOCK_BUSY
      else esperaSendok sn n

def send (sn : UInt8) (buf : List UInt8) : SocketM Int := do
  let len := buf.length.toUInt16
  if sn ≥ WIZCHIP_SOCK_NUM then return SOCKERR_SOCKNUM
  else if (← getSnMR sn) &&& 0x0F ≠ SN_MR_TCP then return SOCKERR_SOCKMODE
  else if len = 0 then return SOCKERR_DATALEN
  else if !abierto (← getSnSR sn) then return SOCKERR_SOCKSTATUS
  else do
    match ← acabaSend sn with
    | some r => return r
    | none =>
      let freesize ← getSnTxMAX sn
      let len := if len > freesize then freesize else len
      match ← esperaHueco sn len (← get).rondas with
      | some r => return r
      | none =>
        wizSendData sn buf len
        match ← (do if (← get).vars.sending sn then esperaSendok sn (← get).rondas else return none) with
        | some r => return r
        | none =>
          ordena sn SN_CR_SEND
          enVars (·.ocupa sn)
          return len.toNat

/-- All that the socket has sent is confirmed. -/
def todoEnviado (sn : UInt8) : SocketM Bool := do return (← getSnTXFSR sn) == (← getSnTxMAX sn)

/-- The wait of `recv` for data: the bytes there are, or its result. -/
def esperaDatos (sn : UInt8) : Nat → SocketM (Except Int UInt16)
  | 0 => throw .loop
  | n + 1 => do
    let recvsize ← getSnRXRSR sn
    let tmp ← getSnSR sn
    if tmp ≠ SOCK_ESTABLISHED && tmp ≠ SOCK_CLOSE_WAIT then do
      let _ ← close sn
      return .error SOCKERR_SOCKSTATUS
    else if tmp = SOCK_CLOSE_WAIT && recvsize ≠ 0 then return .ok recvsize
    else do
      let acabado ← if tmp = SOCK_CLOSE_WAIT then todoEnviado sn else pure false
      if acabado then do
        let _ ← close sn
        return .error SOCKERR_SOCKSTATUS
      else if (← get).vars.nonblock sn then return .error SOCK_BUSY
      else if recvsize ≠ 0 then return .ok recvsize
      else esperaDatos sn n

/-- The bytes received, or the code. -/
def recv (sn : UInt8) (len : UInt16) : SocketM (Except Int (List UInt8)) := do
  if sn ≥ WIZCHIP_SOCK_NUM then return .error SOCKERR_SOCKNUM
  else if (← getSnMR sn) &&& 0x0F ≠ SN_MR_TCP then return .error SOCKERR_SOCKMODE
  else if len = 0 then return .error SOCKERR_DATALEN
  else do
    let recvsize ← getSnRxMAX sn
    let len := if recvsize < len then recvsize else len
    match ← esperaDatos sn (← get).rondas with
    | .error r => return .error r
    | .ok recvsize =>
      let len := if recvsize < len then recvsize else len
      let buf ← wizRecvData sn len
      ordena sn SN_CR_RECV
      return .ok buf

/-! ### Datagrams -/

/-- The modes of a socket for datagrams, on the value of `Sn_MR`. -/
def deDatagrama (mr : UInt8) : Bool := mr &&& 0x0F ∈ [SN_MR_UDP, SN_MR_MACRAW, SN_MR_IPRAW, SN_MR_IPRAW6]

/-- The wait of `sendto` for room: its result, if it goes no further. -/
def esperaHuecoTo (sn : UInt8) (len : UInt16) : Nat → SocketM (Option Int)
  | 0 => throw .loop
  | n + 1 => do
    let freesize ← getSnTXFSR sn
    if (← getSnSR sn) = SOCK_CLOSED then return some SOCKERR_SOCKCLOSED
    else if (← get).vars.nonblock sn && len > freesize then return some SOCK_BUSY
    else if len ≤ freesize then return none
    else esperaHuecoTo sn len n

/-- The wait of `sendto` for the end of its SEND: its result. -/
def esperaEnviado (sn : UInt8) (len : UInt16) : Nat → SocketM Int
  | 0 => throw .loop
  | n + 1 => do
    let tmp ← getSnIR sn
    if tmp &&& SN_IR_SENDOK ≠ 0 then do
      setSnIR sn SN_IR_SENDOK
      return len.toNat
    else if tmp &&& SN_IR_TIMEOUT ≠ 0 then do
      setSnIR sn SN_IR_TIMEOUT
      return Wiznet.SOCKERR_TIMEOUT
    else esperaEnviado sn len n

/-- `sendto` asks for the mode again only where an argument is zero. -/
def faltaArg (sn : UInt8) (cero : Bool) : SocketM Bool := do
  if cero then return (← getSnMR sn) &&& SN_MR_MACRAW != SN_MR_MACRAW else return false

/-- The part of `sendto` after its checks. -/
def mandaDatagrama (sn : UInt8) (buf : List UInt8) (len : UInt16) : SocketM Int := do
  let freesize ← getSnTxMAX sn
  let len := if len > freesize then freesize else len
  match ← esperaHuecoTo sn len (← get).rondas with
  | some r => return r
  | none =>
    wizSendData sn buf len
    ordena sn SN_CR_SEND
    esperaEnviado sn len (← get).rondas

/-- The part of `sendto` after the registers of its mode. -/
def compruebaArgs (sn : UInt8) (buf : List UInt8) (addr : IP) (port : UInt16) : SocketM Int := do
  let len := buf.length.toUInt16
  if len = 0 then return SOCKERR_DATALEN
  else if (← faltaArg sn (addr = {})) then return SOCKERR_IPINVALID
  else if (← faltaArg sn (port = 0)) then return SOCKERR_PORTZERO
  else if (← getSnSR sn) ∉ [SOCK_MACRAW, SOCK_UDP, SOCK_IPRAW] then return SOCKERR_SOCKSTATUS
  else do
    setSnDIPR sn addr
    setSnDPORT sn port
    mandaDatagrama sn buf len

def sendto (sn : UInt8) (buf : List UInt8) (addr : IP) (port : UInt16) : SocketM Int := do
  if sn ≥ WIZCHIP_SOCK_NUM then return SOCKERR_SOCKNUM
  else if !deDatagrama (← getSnMR sn) then return SOCKERR_SOCKMODE
  else do
    let mr ← getSnMR sn
    if mr = SN_MR_UDP6 ∨ mr = SN_MR_IPRAW6 then return SOCKERR_SOCKMODE
    else do
      if mr ≠ SN_MR_MACRAW then setSnDIPR sn addr
      if mr &&& 0x03 = 0x02 ∧ port = 0 then return SOCKERR_PORTZERO
      else do
        if mr &&& 0x03 = 0x02 then setSnDPORT sn port
        compruebaArgs sn buf addr port

/-- The wait of `recvfrom` for a datagram: the bytes there are, or its result. -/
def esperaDatagrama (sn : UInt8) : Nat → SocketM (Except Int UInt16)
  | 0 => throw .loop
  | n + 1 => do
    let packLen ← getSnRXRSR sn
    if (← getSnSR sn) = SOCK_CLOSED then return .error SOCKERR_SOCKCLOSED
    else if (← get).vars.nonblock sn && packLen = 0 then return .error SOCK_BUSY
    else if packLen ≠ 0 then return .ok packLen
    else esperaDatagrama sn n

/-- Bytes `i` and `i + 1` of the header of a datagram. -/
def deCabeza (head : List UInt8) (i : Nat) : UInt16 := palabra (head.getD i 0) (head.getD (i + 1) 0)

def ipCabeza (head : List UInt8) : IP := ⟨head.getD 0 0, head.getD 1 0, head.getD 2 0, head.getD 3 0⟩

/-- The header of a datagram. -/
def leeCabeza (sn : UInt8) (largo : UInt16) : SocketM (List UInt8) := do
  let head ← wizRecvData sn largo
  ordena sn SN_CR_RECV
  return head

/-- A piece of the datagram under way: as many bytes as fit of those that remain. -/
def leeTrozo (sn : UInt8) (len : UInt16) : SocketM (List UInt8) := do
  let remained := (← get).vars.remained sn
  wizRecvData sn (if len < remained then len else remained)

/-- The end of `recvfrom`, after a piece. -/
def acabaTrozo (sn : UInt8) (packLen : UInt16) : SocketM Unit := do
  ordena sn SN_CR_RECV
  enVars fun v => v.ponRemained sn (v.remained sn - packLen)
  enVars fun v =>
    if v.remained sn ≠ 0 then v.ponPackInfo sn (v.packInfo sn ||| PACK_REMAINED) else v.ponPackInfo sn PACK_COMPLETED

/-- The part of `recvfrom` that depends on the mode; `nueva` is whether the datagram is a new one.  The error, or what
the address, the port and the buffer are left with. -/
def leeDatagrama (sn mr : UInt8) (len packLen : UInt16) (addr : IP) (port : UInt16) :
    SocketM (Except Int (List UInt8 × UInt16 × IP × UInt16)) := do
  let nueva := (← get).vars.remained sn == 0
  if mr &&& 0x07 = SN_MR_UDP then do
    if nueva then do
      let head ← leeCabeza sn 8
      enVars (·.ponRemained sn (deCabeza head 6))
      enVars (·.ponPackInfo sn PACK_FIRST)
      let buf ← leeTrozo sn len
      return .ok (buf, buf.length.toUInt16, ipCabeza head, deCabeza head 4)
    else do
      let buf ← leeTrozo sn len
      return .ok (buf, buf.length.toUInt16, addr, port)
  else if mr &&& 0x07 = SN_MR_MACRAW then do
    if nueva then do
      let head ← leeCabeza sn 2
      enVars (·.ponRemained sn (deCabeza head 0 - 2))
      if (← get).vars.remained sn > 1514 then do
        let _ ← close sn
        return .error SOCKFATAL_PACKLEN
      else do
        enVars (·.ponPackInfo sn PACK_FIRST)
        let buf ← leeTrozo sn len
        return .ok (buf, buf.length.toUInt16, addr, port)
    else do
      let buf ← leeTrozo sn len
      return .ok (buf, buf.length.toUInt16, addr, port)
  else if mr &&& 0x07 = SN_MR_IPRAW then do
    if nueva then do
      let head ← leeCabeza sn 6
      enVars (·.ponRemained sn (deCabeza head 4))
      enVars (·.ponPackInfo sn PACK_FIRST)
      let buf ← leeTrozo sn len
      return .ok (buf, buf.length.toUInt16, ipCabeza head, port)
    else return .ok ([], packLen, addr, port)
  else do
    wizRecvIgnore sn packLen
    enVars (·.ponRemained sn packLen)
    return .ok ([], packLen, addr, port)

def recvfrom (sn : UInt8) (len : UInt16) (addr : IP) (port : UInt16) : SocketM Recibido := do
  if sn ≥ WIZCHIP_SOCK_NUM then return ⟨SOCKERR_SOCKNUM, [], addr, port⟩
  else do
    let mr ← getSnMR sn
    if !deDatagrama mr then return ⟨SOCKERR_SOCKMODE, [], addr, port⟩
    else if len = 0 then return ⟨SOCKERR_DATALEN, [], addr, port⟩
    else do
      match ← (do if (← get).vars.remained sn = 0 then esperaDatagrama sn (← get).rondas else return .ok 0) with
      | .error r => return ⟨r, [], addr, port⟩
      | .ok packLen =>
        match ← leeDatagrama sn mr len packLen addr port with
        | .error r => return ⟨r, [], addr, port⟩
        | .ok (buf, packLen, addr, port) =>
          acabaTrozo sn packLen
          return ⟨packLen.toNat, buf, addr, port⟩

end W5500

end Wiznet
