import Wiznet.Mqtt.Client
import Wiznet.Kernel.Time

/-!
# The port of the client to the W5500

The functions of `mqtt_interface.c`, over a chip, a network and a clock that may do anything: `Wizchip` has one field
for each call the example thread makes below the MQTT client, from the state of all that lies there to its result and
the next state.
-/

namespace Wiznet

/-- What lies below the client.  `recv` returns the bytes it puts in the buffer or an error code, which is not
positive; `DHCP_init` is given the size of the buffer.  `W5500_Init` and `DHCP_run` have loops that may not end, and
memory to go wrong with, so they take the rounds that are left. -/
class Wizchip (W : Type) where
  w5500Init : Nat → EStateM Parada W Int
  getPHYCFGR : W → UInt8 × W
  getSnSR : UInt8 → W → UInt8 × W
  getSnRXRSR : UInt8 → W → UInt16 × W
  socket : UInt8 → UInt8 → UInt16 → UInt8 → W → Int × W
  connect : UInt8 → List UInt8 → UInt16 → W → Int × W
  disconnect : UInt8 → W → Int × W
  close : UInt8 → W → Int × W
  send : UInt8 → List UInt8 → W → Int × W
  recv : UInt8 → UInt16 → W → Except Int (List UInt8) × W
  dhcpInit : UInt8 → Nat → W → Unit × W
  dhcpRun : Nat → EStateM Parada W UInt8
  dhcpStop : W → Unit × W
  chVTGetSystemTime : W → UInt32 × W
  chThdSleepMilliseconds : UInt32 → W → Unit × W
  tickLed : UInt16 → W → Unit × W
  ledControl : Int → W → Unit × W

def MQTT_SOCKET : UInt8 := 0
def SOCK_OK : Int := 1
def SOCK_ERROR : Int := 0
def SOCK_CLOSED : UInt8 := 0x00
def SOCK_ESTABLISHED : UInt8 := 0x17
def SOCK_CLOSE_WAIT : UInt8 := 0x1C
def SN_MR_TCP : UInt8 := 0x01

/-- The topic the commands come in. -/
def STM32_SUB : List UInt8 := literal ['s', 't', 'm', '3', '2', '/', 's', 'u', 'b']

/-- The message handlers of the application. -/
inductive Manejador where
  | messageArrived
  deriving DecidableEq

namespace Wizchip

variable {W : Type} [Wizchip W]

/-- `end_time` less the time of the clock, as a `long`. -/
def left (endTime : UInt32) (w : W) : Int × W :=
  match chVTGetSystemTime w with
  | (now, w) => ((endTime - now).toInt32.toInt, w)

def timerIsExpired (endTime : UInt32) (w : W) : Bool × W :=
  match left endTime w with
  | (left, w) => (left < 0, w)

def timerCountdownMS (timeout : UInt32) (w : W) : UInt32 × W :=
  match chVTGetSystemTime w with
  | (now, w) => (now + timeout, w)

def timerCountdown (timeout : UInt32) (w : W) : UInt32 × W :=
  match chVTGetSystemTime w with
  | (now, w) => (now + timeout * 1000, w)

def timerLeftMS (endTime : UInt32) (w : W) : Int × W :=
  match left endTime w with
  | (left, w) => (if left < 0 then 0 else left, w)

/-- The length goes to `recv` as a `uint16_t`; the time is not used. -/
def w5x00Read (len : Nat) (_time : Int) : EStateM Parada W (Except Int (List UInt8)) := do
  if (← modifyGet (getSnSR MQTT_SOCKET)) = SOCK_ESTABLISHED then
    if (← modifyGet (getSnRXRSR MQTT_SOCKET)) > 0 then do
      let leido ← modifyGet (recv MQTT_SOCKET len.toUInt16)
      return leido.map fun bs => bs.take len.toUInt16.toNat
    else return .error SOCK_ERROR
  else return .error SOCK_ERROR

/-- The length goes to `send` as a `uint16_t`; the time is not used. -/
def w5x00Write (bs : List UInt8) (_time : Int) : EStateM Parada W Int := do
  if (← modifyGet (getSnSR MQTT_SOCKET)) = SOCK_ESTABLISHED then
    modifyGet (send MQTT_SOCKET (bs.take bs.length.toUInt16.toNat))
  else return SOCK_ERROR

/-- `memcmp` of all of `text` with as many bytes of a literal; `none` when the literal has fewer, which `memcmp` may
read past even if the two differ before its end. -/
def memcmp (text lit : List UInt8) : Option Bool :=
  if text.length ≤ lit.length then some (text.isPrefixOf lit) else none

/-- The `strcmp` with a command.  What `mBuffer` holds ends at its first zero. -/
def esOrden (payload orden : List UInt8) : Bool := payload.takeWhile (· ≠ 0) == orden

/-- The body of `messageArrived`, less its messages to the console. -/
def messageArrived (md : MessageData) : EStateM Parada W Unit := do
  match memcmp md.topicName.text (STM32_SUB ++ [0]) with
  | none => throw .indefinido
  | some false => return
  | some true =>
    -- the payload and the final zero have to fit in `mBuffer[128]`
    if md.message.payloadlen < 0 ∨ 128 ≤ md.message.payloadlen then throw .indefinido
    else do
      if esOrden md.message.payload (literal ['O', 'N']) then modifyGet (ledControl 1)
      if esOrden md.message.payload (literal ['O', 'F', 'F']) then modifyGet (ledControl 0)

instance : Puerto W where
  Timer := UInt32
  Handler := Manejador
  timerInit := 0
  timerIsExpired := timerIsExpired
  timerCountdownMS := timerCountdownMS
  timerCountdown := timerCountdown
  timerLeftMS := timerLeftMS
  mqttread := w5x00Read
  mqttwrite := w5x00Write
  messageHandler h md := match h with
    | .messageArrived => messageArrived md

end Wizchip

end Wiznet
