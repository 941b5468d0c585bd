import Wiznet.Automata.Puerto

/-!
# The automaton

`W5500MqttThread` brings the client up (`arranque`) and then goes round its `while (true)` for ever, `vuelta` each time,
with the variables that outlive a round handed from one to the next (`Maquina`).
-/

namespace Wiznet

namespace Automata

open Ethernet

def BACKOFF_MIN_DELAY_MS : UInt32 := 1000
def BACKOFF_MAX_DELAY_MS : UInt32 := 60000
def BACKOFF_MULTIPLIER : UInt32 := 2
def MQTT_BUFFER_SIZE : Nat := 256
/-- The size of `dhcp_rx_buffer`. -/
def DHCP_RX_BUFFER_SIZE : Nat := 548

def BROKER_IP : List UInt8 := [192, 168, 1, 10]
def BROKER_PORT : UInt16 := 1883

inductive MqttState where
  | initNetwork
  | connectBroker
  | mqttOperational
  deriving DecidableEq

structure Maquina where
  currentState : MqttState := .initNetwork
  currentBackoffDelay : UInt32 := BACKOFF_MIN_DELAY_MS
  lastDhcpTick : UInt32

/-- `increase_backoff_delay`. -/
def Maquina.increaseBackoffDelay (m : Maquina) : Maquina :=
  let delay := m.currentBackoffDelay * BACKOFF_MULTIPLIER
  { m with currentBackoffDelay := if delay > BACKOFF_MAX_DELAY_MS then BACKOFF_MAX_DELAY_MS else delay }

/-- `reset_backoff_delay`. -/
def Maquina.resetBackoffDelay (m : Maquina) : Maquina := { m with currentBackoffDelay := BACKOFF_MIN_DELAY_MS }

/-- `dummy_net`. -/
def dummyNet : NetInfo where
  mac := ⟨0x00, 0x08, 0xDC, 0xAA, 0xBB, 0xCC⟩
  ip := {}
  sn := {}
  gw := {}
  dns := {}

/-- The topic of the commands. -/
def COMMANDS : List UInt8 :=
  literal ['d', 'e', 'v', 'i', 'c', 'e', '/', 'c', 'o', 'm', 'm', 'a', 'n', 'd', 's']

/-- The topic of the heartbeat. -/
def STATUS : List UInt8 := literal ['d', 'e', 'v', 'i', 'c', 'e', '/', 's', 't', 'a', 't', 'u', 's']

def connectData : MQTTPacketConnectData where
  MQTTVersion := 3
  clientID := { cstring := some (literal ['C', 'h', 'i', 'b', 'i', 'O', 'S', '_', 'S', 'i', 'n', 'g', 'l', 'e', 'F',
    'i', 'l', 'e']) }
  keepAliveInterval := 60

/-- The heartbeat.  Its other fields are not set; at quality 0 nothing reads them. -/
def heartbeat : MQTTMessage :=
  let payload := literal ['A', 'l', 'i', 'v', 'e']
  ⟨0, 0, 0, 0, payload, payload.length⟩

variable {W : Type} [Ethernet W]

/-- A call of the thread to what lies below. -/
def baja {α : Type} (f : W → α × W) : MqttM (Test W) α := llama (enBase f)

/-- `DHCP_run`. -/
def corre (fuel : Nat) : MqttM (Test W) UInt8 := puerto fun t =>
  match dhcpRun fuel t.base with
  | .ok ret base => .ok ret { t with base := base }
  | .error e base => .error e { t with base := base }

/-- The thread down to its loop. -/
def arranque : MqttM (Test W) Maquina := do
  baja wizchipInit
  MQTT.clientInit 1000 MQTT_BUFFER_SIZE MQTT_BUFFER_SIZE
  let lastDhcpTick ← baja chVTGetSystemTime
  baja (setnetinfo dummyNet)
  baja (dhcpInit DHCP_SOCKET_NUM DHCP_RX_BUFFER_SIZE)
  baja regDhcpCbfunc
  return { lastDhcpTick := lastDhcpTick }

/-- The DHCP tick of every second, in the background. -/
def tickDhcp (fuel : Nat) (m : Maquina) : MqttM (Test W) Maquina := do
  let now ← baja chVTGetSystemTime
  if now - m.lastDhcpTick ≥ ms2i 1000 then do
    baja dhcpTimeHandler
    let _ ← corre fuel
    return { m with lastDhcpTick := ← baja chVTGetSystemTime }
  else return m

/-- The cable is out. -/
def sinCable (m : Maquina) : MqttM (Test W) Maquina := do
  if m.currentState ≠ .initNetwork then do
    let _ ← baja (close MQTT_SOCKET_NUM)
    baja (dhcpInit DHCP_SOCKET_NUM DHCP_RX_BUFFER_SIZE)
  baja (chThdSleepMilliseconds 500)
  return { m with currentState := .initNetwork }

def caseInitNetwork (fuel : Nat) (m : Maquina) : MqttM (Test W) Maquina := do
  let dhcpState ← corre fuel
  let m := if dhcpState = DHCP_IP_ASSIGN ∨ dhcpState = DHCP_IP_CHANGED then { m with currentState := .connectBroker }
    else m
  baja (chThdSleepMilliseconds 100)
  return m

/-- The first half of `case STATE_CONNECT_BROKER`, down to the result of `MQTTConnect`. -/
def abreConexion (fuel : Nat) : MqttM (Test W) Bool := do
  let _ ← baja (close MQTT_SOCKET_NUM)
  if (← baja (socket MQTT_SOCKET_NUM SN_MR_TCP BROKER_PORT 0)) = MQTT_SOCKET_NUM.toNat then
    if (← baja (connect MQTT_SOCKET_NUM BROKER_IP BROKER_PORT)) = SOCK_OK then
      return (← MQTT.connect fuel connectData) = 0
    else return false
  else return false

/-- The `while` of the backoff. -/
def esperaBackoff (fuel : Nat) (backoffStart : UInt32) : Nat → Maquina → MqttM (Test W) Maquina
  | 0, _ => throw .loop
  | n + 1, m => do
    if (← baja chVTGetSystemTime) - backoffStart < ms2i m.currentBackoffDelay then do
      let m ← tickDhcp fuel m
      if ← baja getphystatus then do
        baja (chThdSleepMilliseconds 100)
        esperaBackoff fuel backoffStart n m
      else return m
    else return m

def caseConnectBroker (fuel : Nat) (m : Maquina) : MqttM (Test W) Maquina := do
  if ← abreConexion fuel then do
    let m := { m with currentState := .mqttOperational }.resetBackoffDelay
    let _ ← MQTT.subscribe fuel COMMANDS 0 Manejador.incomingMessageHandler
    return m
  else do
    let m := m.increaseBackoffDelay
    let backoffStart ← baja chVTGetSystemTime
    esperaBackoff fuel backoffStart fuel m

/-- `MQTTYield` returns 0 and the socket is open after it. -/
def sigueConectado (fuel : Nat) : MqttM (Test W) Bool := do
  if (← MQTT.yield fuel 100) ≠ 0 then return false
  else return (← baja (getSnSR MQTT_SOCKET_NUM)) = SOCK_ESTABLISHED

def caseMqttOperational (fuel : Nat) (m : Maquina) : MqttM (Test W) Maquina := do
  if ← sigueConectado fuel then do
    let m := if (← MQTT.publish fuel STATUS heartbeat) ≠ 0 then { m with currentState := .connectBroker } else m
    baja (chThdSleepMilliseconds 2000)
    return m
  else return { m with currentState := .connectBroker }.resetBackoffDelay

def «switch» (fuel : Nat) (m : Maquina) : MqttM (Test W) Maquina :=
  match m.currentState with
  | .initNetwork => caseInitNetwork fuel m
  | .connectBroker => caseConnectBroker fuel m
  | .mqttOperational => caseMqttOperational fuel m

/-- A round down to its `switch`: the DHCP tick and whether the cable is in. -/
def hastaSwitch (fuel : Nat) (m : Maquina) : MqttM (Test W) (Maquina × Bool) := do
  let m ← tickDhcp fuel m
  return (m, ← baja getphystatus)

/-- A round of the loop. -/
def vuelta (fuel : Nat) (m : Maquina) : MqttM (Test W) Maquina := do
  let (m, cable) ← hastaSwitch fuel m
  if cable then «switch» fuel m else sinCable m

/-- The thread before its first statement, with zeros in the client, which is on its stack and may hold anything. -/
def inicial (base : W) (rondas : Nat) : Sistema (Test W) where
  mundo := ⟨base, rondas, [], []⟩
  client :=
    { nextPacketid := 0, commandTimeoutMs := 0, bufSize := 0, readbufSize := 0, keepAliveInterval := 0,
      pingOutstanding := 0, isconnected := 0,
      messageHandlers := ⟨List.replicate MAX_MESSAGE_HANDLERS ⟨none, none⟩, rfl⟩, defaultMessageHandler := none,
      pingTimer := (⟨0, 0⟩ : TimerPaho) }
  buf := fun _ => 0
  readbuf := fun _ => 0
  sucesos := []

end Automata

end Wiznet
