import Wiznet.Mqtt.Packet

/-!
# DHCP messages

The variables of `dhcp.c` and the messages its client sends: each fills the whole of a `RIP_MSG`, 236 bytes of fixed
fields and 312 of options.
-/

namespace Wiznet

/-- An IP address. -/
structure IP where
  a : UInt8 := 0
  b : UInt8 := 0
  c : UInt8 := 0
  d : UInt8 := 0
  deriving DecidableEq

def IP.bytes (ip : IP) : List UInt8 := [ip.a, ip.b, ip.c, ip.d]

def IP.difusion : IP := ⟨255, 255, 255, 255⟩

/-- A MAC address. -/
structure Mac where
  m₀ : UInt8 := 0
  m₁ : UInt8 := 0
  m₂ : UInt8 := 0
  m₃ : UInt8 := 0
  m₄ : UInt8 := 0
  m₅ : UInt8 := 0
  deriving DecidableEq

def Mac.bytes (mac : Mac) : List UInt8 := [mac.m₀, mac.m₁, mac.m₂, mac.m₃, mac.m₄, mac.m₅]

/-- The states of the DHCP client, `STATE_DHCP_*`. -/
inductive StateDhcp where
  | init
  | discover
  | request
  | leased
  | rerequest
  | release
  | stop
  deriving DecidableEq

def DHCP_DISCOVER : UInt8 := 1
def DHCP_OFFER : UInt8 := 2
def DHCP_REQUEST : UInt8 := 3
def DHCP_DECLINE : UInt8 := 4
def DHCP_ACK : UInt8 := 5
def DHCP_NAK : UInt8 := 6

def INFINITE_LEASETIME : UInt32 := 0xffffffff
def OPT_SIZE : Nat := 312
def RIP_MSG_SIZE : Nat := 236 + OPT_SIZE
def MAX_DHCP_RETRY : Nat := 2
def DHCP_WAIT_TIME : UInt32 := 10
def DHCP_SERVER_PORT : UInt16 := 67
def DHCP_CLIENT_PORT : UInt16 := 68
def DHCP_SOCKET_NUM : UInt8 := 7

/-- The values `DHCP_run` may return. -/
def DHCP_FAILED : UInt8 := 0
def DHCP_RUNNING : UInt8 := 1
def DHCP_IP_ASSIGN : UInt8 := 2
def DHCP_IP_CHANGED : UInt8 := 3
def DHCP_IP_LEASED : UInt8 := 4
def DHCP_STOPPED : UInt8 := 5

/-- The global variables of `dhcp.c`.  `Fn` are the functions of the application a callback may point to; `none` points
to the default one.  `pDHCPMSG` is the size of the buffer it points to, and `mensaje` what is in it. -/
structure DhcpVars (Fn : Type) where
  dhcpSocket : UInt8 := 0
  dhcpSip : IP := {}
  dhcpRealSip : IP := {}
  oldAllocatedIp : IP := {}
  allocatedIp : IP := {}
  allocatedGw : IP := {}
  allocatedSn : IP := {}
  allocatedDns : IP := {}
  dhcpState : StateDhcp := .init
  dhcpRetryCount : Nat := 0
  dhcpLeaseTime : UInt32 := INFINITE_LEASETIME
  dhcpTick1s : UInt32 := 0
  dhcpTickNext : UInt32 := DHCP_WAIT_TIME
  dhcpXid : UInt32 := 0
  pDHCPMSG : Option Nat := none
  mensaje : Buffer := fun _ => 0
  dhcpChaddr : Mac := {}
  dhcpIpAssign : Option Fn := none
  dhcpIpUpdate : Option Fn := none
  dhcpIpConflict : Option Fn := none

namespace DHCP

variable {Fn : Type}

/-- The options of a message the client looks at or sends. -/
def padOption : UInt8 := 0
def subnetMask : UInt8 := 1
def routersOnSubnet : UInt8 := 3
def dns : UInt8 := 6
def hostName : UInt8 := 12
def domainName : UInt8 := 15
def performRouterDiscovery : UInt8 := 31
def staticRoute : UInt8 := 33
def dhcpRequestedIPaddr : UInt8 := 50
def dhcpIPaddrLeaseTime : UInt8 := 51
def dhcpMessageType : UInt8 := 53
def dhcpServerIdentifier : UInt8 := 54
def dhcpParamRequest : UInt8 := 55
def dhcpT1value : UInt8 := 58
def dhcpT2value : UInt8 := 59
def dhcpClientIdentifier : UInt8 := 61
def endOption : UInt8 := 255

/-- The bytes of a 32-bit number, the highest first. -/
def bytes32 (n : UInt32) : List UInt8 :=
  [(n >>> 24).toUInt8, (n >>> 16).toUInt8, (n >>> 8).toUInt8, n.toUInt8]

def nibbleToHex (nibble : UInt8) : UInt8 :=
  let nibble := nibble &&& 0x0F
  if nibble ≤ 9 then nibble + '0'.toNat.toUInt8 else nibble + ('A'.toNat.toUInt8 - 0x0A)

/-- What the fixed fields of a message and the magic cookie are made to be; `flags` and `ciaddr` change from one message
to another. -/
def makeDHCPMSG (d : DhcpVars Fn) (flags : List UInt8) (ciaddr : IP) : List UInt8 :=
  [1, 1, 6, 0] ++ bytes32 d.dhcpXid ++ [0, 0] ++ flags ++ ciaddr.bytes ++ List.replicate 12 0 ++
    (d.dhcpChaddr.bytes ++ List.replicate 10 0) ++ List.replicate 64 0 ++ List.replicate 128 0 ++
    [0x63, 0x82, 0x53, 0x63]

def DHCP_FLAGSBROADCAST : List UInt8 := [0x80, 0x00]
def DHCP_FLAGSUNICAST : List UInt8 := [0x00, 0x00]

/-- A message with its options, the rest filled with zeros. -/
def conOpciones (fijo opciones : List UInt8) : List UInt8 :=
  fijo ++ opciones ++ List.replicate (RIP_MSG_SIZE - (fijo.length + opciones.length)) 0

def opcionTipo (type : UInt8) : List UInt8 := [dhcpMessageType, 1, type]

def opcionCliente (d : DhcpVars Fn) : List UInt8 := [dhcpClientIdentifier, 7, 1] ++ d.dhcpChaddr.bytes

/-- `DCHP_HOST_NAME` and the last three bytes of the MAC address in hexadecimal. -/
def opcionNombre (d : DhcpVars Fn) : List UInt8 :=
  let m := d.dhcpChaddr
  [hostName, 12] ++ literal ['W', 'I', 'Z', 'n', 'e', 't'] ++
    [nibbleToHex (m.m₃ >>> 4), nibbleToHex m.m₃, nibbleToHex (m.m₄ >>> 4), nibbleToHex m.m₄,
      nibbleToHex (m.m₅ >>> 4), nibbleToHex m.m₅]

/-- The address asked for and the server it is asked of. -/
def opcionesLease (d : DhcpVars Fn) : List UInt8 :=
  [dhcpRequestedIPaddr, 4] ++ d.allocatedIp.bytes ++ [dhcpServerIdentifier, 4] ++ d.dhcpSip.bytes

/-- The message of `send_DHCP_DISCOVER`. -/
def mensajeDiscover (d : DhcpVars Fn) : List UInt8 :=
  conOpciones (makeDHCPMSG d DHCP_FLAGSBROADCAST {}) <|
    opcionTipo DHCP_DISCOVER ++ opcionCliente d ++ opcionNombre d ++
    [dhcpParamRequest, 6, subnetMask, routersOnSubnet, dns, domainName, dhcpT1value, dhcpT2value, endOption]

/-- Who a REQUEST goes to: the server that gave the lease, or everybody. -/
def destinoRequest (d : DhcpVars Fn) : IP :=
  if d.dhcpState = .leased ∨ d.dhcpState = .rerequest then d.dhcpSip else .difusion

/-- The message of `send_DHCP_REQUEST`.  Whether it asks for an address is decided by the last byte of its
destination. -/
def mensajeRequest (d : DhcpVars Fn) : List UInt8 :=
  let fijo :=
    if d.dhcpState = .leased ∨ d.dhcpState = .rerequest then makeDHCPMSG d DHCP_FLAGSUNICAST d.allocatedIp
    else makeDHCPMSG d DHCP_FLAGSBROADCAST {}
  conOpciones fijo <|
    opcionTipo DHCP_REQUEST ++ opcionCliente d ++
    (if (destinoRequest d).d = 255 then opcionesLease d else []) ++ opcionNombre d ++
    [dhcpParamRequest, 8, subnetMask, routersOnSubnet, dns, domainName, dhcpT1value, dhcpT2value,
      performRouterDiscovery, staticRoute, endOption]

/-- The message of `send_DHCP_DECLINE`. -/
def mensajeDecline (d : DhcpVars Fn) : List UInt8 :=
  conOpciones (makeDHCPMSG d DHCP_FLAGSUNICAST {}) <|
    opcionTipo DHCP_DECLINE ++ opcionCliente d ++ opcionesLease d ++ [endOption]

/-- A datagram that asks for a lease, or asks for it again. -/
def EsRequest (datagrama : List UInt8) : Prop :=
  (datagrama.drop 240).take 3 = opcionTipo DHCP_REQUEST

end DHCP

end Wiznet
