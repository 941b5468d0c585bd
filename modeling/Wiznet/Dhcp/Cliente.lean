import Wiznet.Dhcp.Mensaje
import Wiznet.Mqtt.Interface

/-!
# The DHCP client

The functions of `dhcp.c`.  They work on a board: the variables of the client, the registers of the chip, the variables
of the application and what lies below (`Red`), which may do anything.  The callbacks are the application's
(`Aplicacion`).  The ticks of `DHCP_time_handler` come from whoever calls it (`TimeHandler`), any number of them between
two readings of `dhcp_tick_1s`.

`diario`, `enviados` and `ultimoAck` are not in the source and nothing reads them: the calls to the client and their
results, the datagrams handed to `sendto`, whether it sends them or not, and the time of the last ACK taken.
-/

namespace Wiznet

/-- What `recvfrom` comes to: its result, the bytes it puts in the buffer, and what the address and the port it is given
hold after it, which is anything when it does not set them. -/
structure Recibido where
  rc : Int
  bytes : List UInt8
  addr : IP
  port : UInt16

/-- The chip and all below it.  `ctlwizchip` is its call with `CW_INIT_WIZCHIP`; `tiempo` is the true time in system
ticks, which no function reads. -/
class Red (E : Type) where
  ctlwizchip : E → Int × E
  getVERSIONR : E → UInt8 × E
  getPHYCFGR : E → UInt8 × E
  getSnSR : UInt8 → E → UInt8 × E
  getSnRXRSR : UInt8 → E → UInt16 × E
  socket : UInt8 → UInt8 → UInt16 → UInt8 → E → Int × E
  connect : UInt8 → List UInt8 → UInt16 → E → Int × E
  disconnect : UInt8 → E → Int × E
  close : UInt8 → E → Int × E
  send : UInt8 → List UInt8 → E → Int × E
  recv : UInt8 → UInt16 → E → Except Int (List UInt8) × E
  sendto : UInt8 → List UInt8 → IP → UInt16 → E → Int × E
  recvfrom : UInt8 → UInt16 → E → Recibido × E
  chVTGetSystemTime : E → UInt32 × E
  chThdSleepMilliseconds : UInt32 → E → Unit × E
  tickLed : UInt16 → E → Unit × E
  ledControl : Int → E → Unit × E
  tiempo : E → Nat

/-- The calls of `DHCP_time_handler` since the last time they were asked for. -/
class TimeHandler (E : Type) where
  ticks : E → UInt32 × E

/-- The registers of the network configuration, and the DNS server, which the library keeps in a variable. -/
structure Registros where
  shar : Mac := {}
  gar : IP := {}
  subr : IP := {}
  sipr : IP := {}
  rcr : UInt8 := 8
  dns : IP := {}

/-- A reset of the chip. -/
def Registros.reset (r : Registros) : Registros := { dns := r.dns }

/-- The functions an application registers as callbacks, over its variables. -/
class Aplicacion (A : Type) where
  Fn : Type
  llama : Fn → DhcpVars Fn → Registros → A → Registros × A

inductive HechoDhcp where
  | init (socket : UInt8) (tam : Nat)
  | run (socket : UInt8) (pDHCPMSG : Option Nat)
  | fin (ret : UInt8)
  | w5500Init (ret : Int)
  deriving DecidableEq

structure Datagrama where
  bytes : List UInt8
  addr : IP
  port : UInt16

structure Placa (A E : Type) [Aplicacion A] where
  dhcp : DhcpVars (Aplicacion.Fn A)
  regs : Registros
  app : A
  entorno : E
  diario : List HechoDhcp
  enviados : List Datagrama
  ultimoAck : Option Nat

abbrev PlacaM (A E : Type) [Aplicacion A] := EStateM Parada (Placa A E)

def SOCK_UDP : UInt8 := 0x22
def SN_MR_UDP : UInt8 := 0x02
def SOCKERR_TIMEOUT : Int := -13

namespace DHCP

variable {A E : Type} [Aplicacion A] [Red E] [TimeHandler E] {α : Type}

open Aplicacion (Fn)

/-- What a call to what lies below does to the board. -/
def enRed (f : E → α × E) (p : Placa A E) : α × Placa A E :=
  match f p.entorno with
  | (a, entorno) => (a, { p with entorno := entorno })

def red (f : E → α × E) : PlacaM A E α := modifyGet (enRed f)

def modificaDhcp (f : DhcpVars (Fn A) → DhcpVars (Fn A)) : PlacaM A E Unit :=
  modify fun p => { p with dhcp := f p.dhcp }

/-! ### Callbacks -/

def defaultIpAssign (d : DhcpVars (Fn A)) (r : Registros) : Registros :=
  { r with sipr := d.allocatedIp, subr := d.allocatedSn, gar := d.allocatedGw }

def defaultIpUpdate (d : DhcpVars (Fn A)) (r : Registros) : Registros :=
  { defaultIpAssign d r.reset with shar := d.dhcpChaddr }

def defaultIpConflict (d : DhcpVars (Fn A)) (r : Registros) : Registros := { r.reset with shar := d.dhcpChaddr }

/-- A call through one of the callback pointers. -/
def llamaFn (fn : DhcpVars (Fn A) → Option (Fn A)) (porDefecto : DhcpVars (Fn A) → Registros → Registros) :
    PlacaM A E Unit :=
  modify fun p => match fn p.dhcp with
    | none => { p with regs := porDefecto p.dhcp p.regs }
    | some f => match Aplicacion.llama f p.dhcp p.regs p.app with
      | (regs, app) => { p with regs := regs, app := app }

def dhcpIpAssign : PlacaM A E Unit := llamaFn (·.dhcpIpAssign) defaultIpAssign

def dhcpIpUpdate : PlacaM A E Unit := llamaFn (·.dhcpIpUpdate) defaultIpUpdate

def dhcpIpConflict : PlacaM A E Unit := llamaFn (·.dhcpIpConflict) defaultIpConflict

/-- `reg_dhcp_cbfunc`. -/
def regCbfunc (ipAssign ipUpdate ipConflict : Option (Fn A)) : PlacaM A E Unit :=
  modificaDhcp fun d => { d with dhcpIpAssign := ipAssign, dhcpIpUpdate := ipUpdate, dhcpIpConflict := ipConflict }

/-! ### Sending -/

def sendto (bytes : List UInt8) (addr : IP) (port : UInt16) : PlacaM A E Int := do
  let ret ← red (Red.sendto (← get).dhcp.dhcpSocket bytes addr port)
  modify fun p => { p with enviados := ⟨bytes, addr, port⟩ :: p.enviados }
  return ret

/-- A message made in the buffer and sent to the server. -/
def envia (mensaje : DhcpVars (Fn A) → List UInt8) (addr : DhcpVars (Fn A) → IP) : PlacaM A E Unit := do
  let d := (← get).dhcp
  match d.pDHCPMSG with
  | none => throw .indefinido
  | some tam =>
    if tam < RIP_MSG_SIZE then throw .indefinido
    else do
      modificaDhcp fun d => { d with mensaje := d.mensaje.escribe 0 (mensaje d) }
      let _ ← sendto (mensaje d) (addr d) DHCP_SERVER_PORT

def sendDISCOVER : PlacaM A E Unit := do
  modificaDhcp fun d => { d with dhcpSip := {}, dhcpRealSip := {} }
  envia mensajeDiscover fun _ => .difusion

def sendREQUEST : PlacaM A E Unit := envia mensajeRequest destinoRequest

def sendDECLINE : PlacaM A E Unit := envia mensajeDecline fun _ => .difusion

/-! ### Receiving -/

section Parse

variable {Fn : Type}

/-- A byte of the buffer, which has `tam` of them. -/
def leeByte (tam : Nat) (d : DhcpVars Fn) (p : Nat) : Option UInt8 := if p < tam then some (d.mensaje p) else none

def leeIP (tam : Nat) (d : DhcpVars Fn) (p : Nat) : Option IP := do
  return ⟨← leeByte tam d p, ← leeByte tam d (p + 1), ← leeByte tam d (p + 2), ← leeByte tam d (p + 3)⟩

/-- The `while` of `parseDHCPMSG` from `p` to `e`, with the type found so far; `none` when it reads outside the buffer.
Only some of the options have their length looked at. -/
def opciones (tam : Nat) (svr : IP) (e : Nat) : Nat → Nat → UInt8 → DhcpVars Fn → Option (UInt8 × DhcpVars Fn)
  | 0, _, type, d => some (type, d)
  | n + 1, p, type, d =>
    if p < e then do
      let option ← leeByte tam d p
      if option = endOption then some (type, d)
      else if option = padOption then opciones tam svr e n (p + 1) type d
      else if option = dhcpMessageType then do
        let type ← leeByte tam d (p + 2)
        opciones tam svr e n (p + 3) type d
      else if option = subnetMask then do
        let sn ← leeIP tam d (p + 2)
        opciones tam svr e n (p + 6) type { d with allocatedSn := sn }
      else if option = routersOnSubnet then do
        let optLen ← leeByte tam d (p + 1)
        let gw ← leeIP tam d (p + 2)
        opciones tam svr e n (p + 2 + optLen.toNat) type { d with allocatedGw := gw }
      else if option = dns then do
        let optLen ← leeByte tam d (p + 1)
        let ip ← leeIP tam d (p + 2)
        opciones tam svr e n (p + 2 + optLen.toNat) type { d with allocatedDns := ip }
      else if option = dhcpIPaddrLeaseTime then do
        let t ← leeIP tam d (p + 2)
        let leaseTime := ((t.a.toUInt32 <<< 8 + t.b.toUInt32) <<< 8 + t.c.toUInt32) <<< 8 + t.d.toUInt32
        opciones tam svr e n (p + 6) type { d with dhcpLeaseTime := leaseTime }
      else if option = dhcpServerIdentifier then do
        let sip ← leeIP tam d (p + 2)
        opciones tam svr e n (p + 6) type { d with dhcpSip := sip, dhcpRealSip := svr }
      else do
        let optLen ← leeByte tam d (p + 1)
        opciones tam svr e n (p + 2 + optLen.toNat) type d
    else some (type, d)

/-- What a datagram does to the variables, and its type, 0 for none. -/
def leeDatagrama (d : DhcpVars Fn) (r : Recibido) : Option (UInt8 × DhcpVars Fn) :=
  match d.pDHCPMSG with
  | none => none
  | some tam =>
    if tam < r.bytes.length ∨ tam < 34 then none
    else
      let d := { d with mensaje := d.mensaje.escribe 0 r.bytes }
      if r.port ≠ DHCP_SERVER_PORT then some (0, d)
      else if d.mensaje.lee 28 6 ≠ d.dhcpChaddr.bytes then some (0, d)
      else if d.dhcpSip ≠ {} ∧ r.addr ≠ d.dhcpSip ∧ r.addr ≠ d.dhcpRealSip then some (0, d)
      else
        -- the length is a `uint16_t`, also when `recvfrom` has failed
        let len := (UInt16.ofInt r.rc).toNat
        opciones tam r.addr len len 240 0 d

end Parse

/-- A datagram is taken. -/
def tomaDatagrama (r : Recibido) : PlacaM A E UInt8 := fun p =>
  match leeDatagrama p.dhcp r with
  | none => .error .indefinido p
  | some (type, d) => .ok type { p with dhcp := d }

def parseDHCPMSG : PlacaM A E UInt8 := do
  let len ← red (Red.getSnRXRSR (← get).dhcp.dhcpSocket)
  if len = 0 then return 0
  else do
    let r ← red (Red.recvfrom (← get).dhcp.dhcpSocket len)
    tomaDatagrama r

/-! ### Timeouts -/

def resetTimeout : PlacaM A E Unit :=
  modificaDhcp fun d => { d with dhcpTick1s := 0, dhcpTickNext := DHCP_WAIT_TIME, dhcpRetryCount := 0 }

/-- `dhcp_tick_1s` is read. -/
def leeTick : PlacaM A E UInt32 := do
  let ticks ← red TimeHandler.ticks
  modificaDhcp fun d => { d with dhcpTick1s := d.dhcpTick1s + ticks }
  return (← get).dhcp.dhcpTick1s

def ponEstado (state : StateDhcp) : PlacaM A E Unit := modificaDhcp fun d => { d with dhcpState := state }

/-- What `check_DHCP_timeout` sends again. -/
def reenvia : PlacaM A E Unit := do
  match (← get).dhcp.dhcpState with
  | .discover => sendDISCOVER
  | .request | .rerequest => sendREQUEST
  | _ => pure ()

/-- What `check_DHCP_timeout` does when there are no retries left. -/
def abandona : PlacaM A E UInt8 := do
  match (← get).dhcp.dhcpState with
  | .discover => do
    ponEstado .init
    return DHCP_FAILED
  | .request | .rerequest => do
    sendDISCOVER
    ponEstado .discover
    return DHCP_RUNNING
  | _ => return DHCP_RUNNING

def checkTimeout : PlacaM A E UInt8 := do
  let d := (← get).dhcp
  if d.dhcpRetryCount < MAX_DHCP_RETRY then do
    if d.dhcpTickNext < (← leeTick) then do
      reenvia
      modificaDhcp fun d => { d with dhcpTick1s := 0 }
      let tick ← leeTick
      modificaDhcp fun d => { d with dhcpTickNext := tick + DHCP_WAIT_TIME, dhcpRetryCount := d.dhcpRetryCount + 1 }
    return DHCP_RUNNING
  else do
    let ret ← abandona
    resetTimeout
    return ret

/-- The `while` of `check_DHCP_leasedIP`. -/
def esperaTicks (desde : UInt32) : Nat → PlacaM A E Unit
  | 0 => throw .loop
  | n + 1 => do
    if (← leeTick) - desde < 2 then esperaTicks desde n

def ponRCR (rcr : UInt8) : PlacaM A E Unit := modify fun p => { p with regs := { p.regs with rcr := rcr } }

def CHECK_IP_CONFLICT : List UInt8 :=
  literal ['C', 'H', 'E', 'C', 'K', '_', 'I', 'P', '_', 'C', 'O', 'N', 'F', 'L', 'I', 'C', 'T']

/-- `check_DHCP_leasedIP`: nobody answers to the address. -/
def checkLeasedIP (fuel : Nat) : PlacaM A E Bool := do
  let p ← get
  ponRCR 0x03
  let ret ← sendto CHECK_IP_CONFLICT p.dhcp.allocatedIp 5000
  ponRCR p.regs.rcr
  if ret = SOCKERR_TIMEOUT then return true
  else do
    sendDECLINE
    esperaTicks (← leeTick) fuel
    return false

/-! ### The state machine -/

def anotaAck : PlacaM A E Unit := modify fun p => { p with ultimoAck := some (Red.tiempo p.entorno) }

def caseInit : PlacaM A E UInt8 := do
  modificaDhcp fun d => { d with allocatedIp := {} }
  sendDISCOVER
  ponEstado .discover
  return DHCP_RUNNING

/-- The address offered, in the field `yiaddr` of the message. -/
def yiaddr (d : DhcpVars (Fn A)) : IP := ⟨d.mensaje 16, d.mensaje 17, d.mensaje 18, d.mensaje 19⟩

def caseDiscover (type : UInt8) : PlacaM A E UInt8 := do
  if type = DHCP_OFFER then do
    modificaDhcp fun d => { d with allocatedIp := yiaddr d }
    sendREQUEST
    ponEstado .request
    return DHCP_RUNNING
  else checkTimeout

def caseRequest (fuel : Nat) (type : UInt8) : PlacaM A E UInt8 := do
  if type = DHCP_ACK then
    if ← checkLeasedIP fuel then do
      dhcpIpAssign
      resetTimeout
      ponEstado .leased
      anotaAck
      return DHCP_RUNNING
    else do
      resetTimeout
      dhcpIpConflict
      ponEstado .init
      return DHCP_RUNNING
  else if type = DHCP_NAK then do
    resetTimeout
    ponEstado .discover
    return DHCP_RUNNING
  else checkTimeout

/-- The renewal of a lease half of which is over. -/
def renueva : PlacaM A E Unit := do
  modificaDhcp fun d => { d with oldAllocatedIp := d.allocatedIp, dhcpXid := d.dhcpXid + 1 }
  sendREQUEST
  resetTimeout
  ponEstado .rerequest

def caseLeased : PlacaM A E UInt8 := do
  let leaseTime := (← get).dhcp.dhcpLeaseTime
  if leaseTime ≠ INFINITE_LEASETIME then
    if leaseTime / 2 < (← leeTick) then renueva
  return DHCP_IP_LEASED

def caseRerequest (type : UInt8) : PlacaM A E UInt8 := do
  if type = DHCP_ACK then do
    modificaDhcp fun d => { d with dhcpRetryCount := 0 }
    let d := (← get).dhcp
    let ret := if d.oldAllocatedIp ≠ d.allocatedIp then DHCP_IP_CHANGED else DHCP_IP_LEASED
    if d.oldAllocatedIp ≠ d.allocatedIp then dhcpIpUpdate
    resetTimeout
    ponEstado .leased
    anotaAck
    return ret
  else if type = DHCP_NAK then do
    resetTimeout
    ponEstado .discover
    return DHCP_IP_LEASED
  else checkTimeout

/-- `DHCP_run` down to its `switch`: the socket is opened and a message read. -/
def recibe : PlacaM A E UInt8 := do
  let sn := (← get).dhcp.dhcpSocket
  if (← red (Red.getSnSR sn)) ≠ SOCK_UDP then
    let _ ← red (Red.socket sn SN_MR_UDP DHCP_CLIENT_PORT 0)
  parseDHCPMSG

def switch (fuel : Nat) (type : UInt8) : PlacaM A E UInt8 := do
  match (← get).dhcp.dhcpState with
  | .init => caseInit
  | .discover => caseDiscover type
  | .request => caseRequest fuel type
  | .leased => caseLeased
  | .rerequest => caseRerequest type
  | _ => return DHCP_RUNNING

def anota (h : HechoDhcp) : PlacaM A E Unit := modify fun p => { p with diario := h :: p.diario }

/-- `DHCP_run`. -/
def runCuerpo (fuel : Nat) : PlacaM A E UInt8 := do
  if (← get).dhcp.dhcpState = .stop then return DHCP_STOPPED
  else do
    let type ← recibe
    switch fuel type

/-- `DHCP_run` and its entries in `diario`. -/
def run (fuel : Nat) : PlacaM A E UInt8 := do
  let d := (← get).dhcp
  anota (.run d.dhcpSocket d.pDHCPMSG)
  let ret ← runCuerpo fuel
  anota (.fin ret)
  return ret

def detenida (p : Placa A E) : Placa A E :=
  { p with
    entorno := (Red.close p.dhcp.dhcpSocket p.entorno).2
    dhcp := { p.dhcp with dhcpState := .stop } }

def stop : PlacaM A E Unit := modify detenida

/-- The board after `DHCP_init` with a buffer of `tam` bytes that holds `mensaje`. -/
def iniciada (s : UInt8) (tam : Nat) (mensaje : Buffer) (p : Placa A E) : Placa A E :=
  let chaddr : Mac := if p.regs.shar = {} then ⟨0x00, 0x08, 0xdc, 0x00, 0x00, 0x00⟩ else p.regs.shar
  { p with
    diario := .init s tam :: p.diario
    dhcp := { p.dhcp with
      dhcpChaddr := chaddr
      dhcpSocket := s
      pDHCPMSG := some tam
      mensaje := mensaje
      dhcpXid := 0x12345678 + chaddr.m₃.toUInt32 + chaddr.m₄.toUInt32 + chaddr.m₅.toUInt32 +
        (chaddr.m₃ ^^^ chaddr.m₄ ^^^ chaddr.m₅).toUInt32
      dhcpTick1s := 0
      dhcpTickNext := DHCP_WAIT_TIME
      dhcpRetryCount := 0
      dhcpState := .init }
    regs := { p.regs with shar := chaddr, sipr := {}, gar := {} } }

def init (s : UInt8) (tam : Nat) (mensaje : Buffer) : PlacaM A E Unit := modify (iniciada s tam mensaje)

end DHCP

end Wiznet
