import Wiznet.Dhcp.Puerto

/-!
# The port of the client in one file

The platform half of `mqttTest.c`: timers in system ticks, network functions that wait for all they are asked for while
their time lasts, and the handler of the commands, over a chip, a network and a clock that may do anything (`Ethernet`).
The loops of the network functions have no bound but their timer, so the state keeps how many rounds each may take.

`llamadas` and `enviados` are not in the source and nothing reads them: the messages that `incoming_message_handler` has
been called with, and what the socket has taken.
-/

namespace Wiznet

/-- What lies below the automaton: the calls it makes, from the state of all that lies there to their result and the
next state.  `recv` returns the bytes it puts in the buffer or an error code, which is not positive; `DHCP_init` is
given the size of the buffer; `getphystatus` tells whether the link is on. -/
class Ethernet (W : Type) where
  wizchipInit : W → Unit × W
  setnetinfo : NetInfo → W → Unit × W
  dhcpInit : UInt8 → Nat → W → Unit × W
  regDhcpCbfunc : W → Unit × W
  dhcpRun : Nat → EStateM Parada W UInt8
  dhcpTimeHandler : W → Unit × W
  getphystatus : W → Bool × W
  getSnSR : UInt8 → W → UInt8 × W
  getSnRXRSR : UInt8 → W → UInt16 × W
  socket : UInt8 → UInt8 → UInt16 → UInt8 → W → Int × W
  connect : UInt8 → List UInt8 → UInt16 → W → Int × W
  close : UInt8 → W → Int × W
  send : UInt8 → List UInt8 → W → Int × W
  recv : UInt8 → UInt16 → W → Except Int (List UInt8) × W
  chVTGetSystemTime : W → UInt32 × W
  chThdYield : W → Unit × W
  chThdSleepMilliseconds : UInt32 → W → Unit × W
  palSetLine : W → Unit × W
  palClearLine : W → Unit × W

/-- The program of `mqttTest.c` over what lies below. -/
structure Test (W : Type) where
  base : W
  rondas : Nat
  llamadas : List MessageData
  enviados : List (List UInt8)

namespace Automata

open Ethernet

def MQTT_SOCKET_NUM : UInt8 := 1
def DHCP_SOCKET_NUM : UInt8 := 0
def SOCK_BUSY : Int := 0

structure TimerPaho where
  startTime : UInt32
  timeoutTicks : UInt32

/-- The message handlers of the application. -/
inductive Manejador where
  | incomingMessageHandler
  deriving DecidableEq

variable {W : Type} {α : Type}

/-- A call to what lies below. -/
def enBase (f : W → α × W) (t : Test W) : α × Test W :=
  match f t.base with
  | (a, base) => (a, { t with base := base })

theorem enBase_eq (f : W → α × W) (t : Test W) : enBase f t = ((f t.base).1, { t with base := (f t.base).2 }) := rfl

variable [Ethernet W]

/-! ### Timers -/

def timerIsExpired (timer : TimerPaho) (t : Test W) : Bool × Test W :=
  match enBase chVTGetSystemTime t with
  | (now, t) => (now - timer.startTime ≥ timer.timeoutTicks, t)

def timerCountdownMS (timeoutMs : UInt32) (t : Test W) : TimerPaho × Test W :=
  match enBase chVTGetSystemTime t with
  | (now, t) => (⟨now, ms2i timeoutMs⟩, t)

def timerCountdown (timeoutSeconds : UInt32) : Test W → TimerPaho × Test W := timerCountdownMS (timeoutSeconds * 1000)

def timerLeftMS (timer : TimerPaho) (t : Test W) : Int × Test W :=
  match enBase chVTGetSystemTime t with
  | (now, t) =>
    let elapsed := now - timer.startTime
    (if elapsed ≥ timer.timeoutTicks then 0 else (i2ms (timer.timeoutTicks - elapsed)).toInt32.toInt, t)

/-! ### The network -/

/-- The `while` of `w5500_paho_read`, with the bytes read so far.  When it fails, what it has put in the buffer is not
looked at. -/
def leeResto (timer : TimerPaho) (len : Nat) : Nat → List UInt8 → EStateM Parada (Test W) (Except Int (List UInt8))
  | 0, _ => throw .loop
  | n + 1, leidos => do
    if leidos.length < len then
      if ← modifyGet (timerIsExpired timer) then return .ok leidos
      else do
        let ret ← modifyGet (enBase (getSnRXRSR MQTT_SOCKET_NUM))
        if ret > 0 then do
          let wanted := min (len - leidos.length) ret.toNat
          match ← modifyGet (enBase (recv MQTT_SOCKET_NUM wanted.toUInt16)) with
          | .ok bs => leeResto timer len n (leidos ++ bs.take wanted)
          | .error received => if received < 0 then return .error (-1) else leeResto timer len n leidos
        else do
          modifyGet (enBase chThdYield)
          leeResto timer len n leidos
    else return .ok leidos

def w5500PahoRead (len : Nat) (timeoutMs : Int) : EStateM Parada (Test W) (Except Int (List UInt8)) := do
  let timer ← modifyGet (timerCountdownMS (UInt32.ofInt timeoutMs))
  leeResto timer len (← get).rondas []

/-- The `while` of `w5500_paho_write`, with how many bytes it has written.  `send` is given their number in 16 bits. -/
def escribeResto (timer : TimerPaho) (bs : List UInt8) : Nat → Nat → EStateM Parada (Test W) Int
  | 0, _ => throw .loop
  | n + 1, escritos => do
    if escritos < bs.length then
      if ← modifyGet (timerIsExpired timer) then return escritos
      else do
        let resto := (bs.drop escritos).take (bs.length - escritos).toUInt16.toNat
        let ret ← modifyGet (enBase (send MQTT_SOCKET_NUM resto))
        if ret = SOCK_BUSY then do
          modifyGet (enBase chThdYield)
          escribeResto timer bs n escritos
        else if ret < 0 then return -1
        else do
          modify fun t => { t with enviados := resto.take ret.toNat :: t.enviados }
          escribeResto timer bs n (escritos + ret.toNat)
    else return escritos

def w5500PahoWrite (bs : List UInt8) (timeoutMs : Int) : EStateM Parada (Test W) Int := do
  let timer ← modifyGet (timerCountdownMS (UInt32.ofInt timeoutMs))
  escribeResto timer bs (← get).rondas 0

/-! ### The commands -/

/-- The copy of a payload has 63 bytes when its length, which has no sign, is more; the source reads them also when the
packet has not got them. -/
def incomingMessageHandler (data : MessageData) : EStateM Parada (Test W) Unit := do
  modify fun t => { t with llamadas := data :: t.llamadas }
  let len := if 0 ≤ data.message.payloadlen ∧ data.message.payloadlen < 63 then data.message.payloadlen.toNat else 63
  if data.message.payload.length < len then throw .indefinido
  else
    let payloadString := (data.message.payload.take len).takeWhile (· ≠ 0)
    if payloadString = literal ['L', 'E', 'D', '_', 'O', 'N'] then modifyGet (enBase palSetLine)
    else if payloadString = literal ['L', 'E', 'D', '_', 'O', 'F', 'F'] then modifyGet (enBase palClearLine)

instance : Puerto (Test W) where
  Timer := TimerPaho
  Handler := Manejador
  timerInit := ⟨0, 0⟩
  timerIsExpired := timerIsExpired
  timerCountdownMS := timerCountdownMS
  timerCountdown := timerCountdown
  timerLeftMS := timerLeftMS
  mqttread := w5500PahoRead
  mqttwrite := w5500PahoWrite
  messageHandler h data := match h with
    | .incomingMessageHandler => incomingMessageHandler data

end Automata

end Wiznet
