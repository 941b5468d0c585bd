import Wiznet.Dhcp.Cliente
import Wiznet.Mqtt.Example

/-!
# The start-up of the chip

The functions of `wizchip_port.c`, and the board that `threadYield` runs on: the DHCP client and the chip's registers
over a network that may do anything.
-/

namespace Wiznet

structure NetInfo where
  mac : Mac
  ip : IP
  sn : IP
  gw : IP
  dns : IP

/-- The variables of `wizchip_port.c`. -/
structure PortVars where
  ipAssigned : Bool := false
  netInfo : NetInfo :=
    { mac := ⟨0x00, 0x11, 0x33, 0x47, 0x09, 0x7D⟩
      ip := ⟨192, 168, 1, 210⟩
      sn := ⟨255, 255, 255, 0⟩
      gw := ⟨192, 168, 1, 1⟩
      dns := ⟨8, 8, 8, 8⟩ }

inductive CallbackPort where
  | ipAssigned
  | ipConflict
  deriving DecidableEq

/-- The callbacks tell that there is an address or that there is none.  Neither touches the chip. -/
instance : Aplicacion PortVars where
  Fn := CallbackPort
  llama fn _ regs app := match fn with
    | .ipAssigned => (regs, { app with ipAssigned := true })
    | .ipConflict => (regs, { app with ipAssigned := false })

/-- The size of `DHCP_buffer`. -/
def DHCP_BUFFER_SIZE : Nat := 548

variable {E : Type} [Red E] [TimeHandler E]

open DHCP

/-- The board as the program starts with it. -/
def Placa.inicial (entorno : E) : Placa PortVars E where
  dhcp := {}
  regs := {}
  app := {}
  entorno := entorno
  diario := []
  enviados := []
  ultimoAck := none

namespace Port

/-- `ctlnetwork` with `CN_SET_NETINFO`. -/
def setNetInfo (info : NetInfo) (p : Placa PortVars E) : Placa PortVars E :=
  { p with regs := { p.regs with shar := info.mac, gar := info.gw, subr := info.sn, sipr := info.ip, dns := info.dns } }

/-- The `while` that waits for the link. -/
def esperaLink : Nat → PlacaM PortVars E Bool
  | 0 => return false
  | retries + 1 => do
    let phyReg ← red Red.getPHYCFGR
    red (Red.chThdSleepMilliseconds 500)
    if phyReg &&& 0x01 ≠ 0 then return true else esperaLink retries

/-- The `while` that waits for an address. -/
def esperaIP (fuel : Nat) : Nat → PlacaM PortVars E Unit
  | 0 => return
  | retries + 1 => do
    if (← get).app.ipAssigned then return
    else do
      let _ ← run fuel
      red (Red.chThdSleepMilliseconds 500)
      esperaIP fuel retries

/-- The address in use: that of the lease, or else the fixed one. -/
def aplicaNetInfo (p : Placa PortVars E) : Placa PortVars E :=
  let info := p.app.netInfo
  let info :=
    if p.app.ipAssigned then
      { info with
        ip := p.dhcp.allocatedIp
        gw := p.dhcp.allocatedGw
        sn := p.dhcp.allocatedSn
        dns := p.dhcp.allocatedDns }
    else info
  setNetInfo info { p with app := { p.app with netInfo := info } }

/-- `W5500_Init` from its call of `setSHAR` on. -/
def configuraRed (fuel : Nat) : PlacaM PortVars E Int := do
  modify fun p => { p with regs := { p.regs with shar := p.app.netInfo.mac } }
  init DHCP_SOCKET_NUM DHCP_BUFFER_SIZE fun _ => 0
  regCbfunc (some CallbackPort.ipAssigned) (some CallbackPort.ipAssigned) (some CallbackPort.ipConflict)
  esperaIP fuel 20
  modify aplicaNetInfo
  red (Red.chThdSleepMilliseconds 500)
  return 0

/-- `W5500_Init`, less its callbacks for the bus and `DNS_init`. -/
def w5500InitRet (fuel : Nat) : PlacaM PortVars E Int := do
  red (Red.chThdSleepMilliseconds 100)
  modify fun p => { p with regs := p.regs.reset }
  red (Red.chThdSleepMilliseconds 400)
  if (← red Red.ctlwizchip) = -1 then return -1
  else if (← red Red.getVERSIONR) ≠ 0x04 then return -2
  else if ← esperaLink 10 then configuraRed fuel
  else return 3

def w5500Init (fuel : Nat) : PlacaM PortVars E Int := do
  let ret ← w5500InitRet fuel
  DHCP.anota (.w5500Init ret)
  return ret

end Port

instance : Wizchip (Placa PortVars E) where
  w5500Init := Port.w5500Init
  getPHYCFGR := enRed Red.getPHYCFGR
  getSnSR sn := enRed (Red.getSnSR sn)
  getSnRXRSR sn := enRed (Red.getSnRXRSR sn)
  socket sn protocol port flag := enRed (Red.socket sn protocol port flag)
  connect sn addr port := enRed (Red.connect sn addr port)
  disconnect sn := enRed (Red.disconnect sn)
  close sn := enRed (Red.close sn)
  send sn bs := enRed (Red.send sn bs)
  recv sn len := enRed (Red.recv sn len)
  dhcpInit sn tam p := ((), iniciada sn tam (fun _ => 0) p)
  dhcpRun := DHCP.run
  dhcpStop p := ((), detenida p)
  chVTGetSystemTime := enRed Red.chVTGetSystemTime
  chThdSleepMilliseconds n := enRed (Red.chThdSleepMilliseconds n)
  tickLed n := enRed (Red.tickLed n)
  ledControl state := enRed (Red.ledControl state)

end Wiznet
