import Wiznet.Dhcp.Mensaje
import Wiznet.Mqtt.Interface

/-!
# The example thread

The functions of `MQTT_Example.c`.  `threadYield` brings the network and the client up (`threadYieldArranque`) and then
goes round its `while (1)` for ever, `threadYieldVuelta` each time; the local variables that outlive a round are handed
from one to the next.
-/

namespace Wiznet

open Wizchip

/-- The local variables of `threadYield`. -/
structure Locales where
  ms : UInt16 := 0
  count : UInt16 := 0
  ipAssigned : Bool := false

def MQTT_BUF_SIZE : Nat := 1024
def MQTT_KEEPALIVE : UInt16 := 60
def MQTT_BROKER_IP : List UInt8 := [192, 168, 1, 61]
def MQTT_BROKER_PORT : UInt16 := 1883
def MQTT_CLIENT_ID : List UInt8 := literal ['j', 'o', 'a', 'q', 'u', 'i', 'n']

/-- The size of `DNS_buffer`. -/
def DNS_BUFFER_SIZE : Nat := 512

/-- The topic the count goes out in. -/
def STM32_PUB : List UInt8 := literal ['s', 't', 'm', '3', '2', '/', 'p', 'u', 'b']

/-- What the `snprintf` of `threadYield` puts in `buffer[30]`, which has room for any count. -/
def mensaje (count : UInt16) : List UInt8 :=
  literal ['S', 'T', 'M', '3', '2', ' ', 'W', '5', '5', '0', '0', ' ', '-', '>', ' '] ++
    literal (Nat.toDigits 10 count.toNat)

def opcionesConnect : MQTTPacketConnectData where
  MQTTVersion := 3
  keepAliveInterval := MQTT_KEEPALIVE
  cleansession := 1
  clientID := { cstring := some MQTT_CLIENT_ID }
  username := { cstring := some (literal ['j', 'o', 'a', 'q', 'u', 'i', 'n']) }
  password := { cstring := some (literal ['J', 'e', 'W', '3', '1', 'Z', 'T', '9', 'R', 'd', 'x']) }

variable {W : Type} [Wizchip W]

def mqttNetworkInit : MqttM W Int := do
  let _ ← llama (socket MQTT_SOCKET SN_MR_TCP 0 0)
  if (← llama (connect MQTT_SOCKET MQTT_BROKER_IP MQTT_BROKER_PORT)) ≠ SOCK_OK then return -2 else return 0

def mqttConnectBroker (fuel : Nat) : MqttM W Int := do
  MQTT.clientInit 30000 MQTT_BUF_SIZE MQTT_BUF_SIZE
  if (← MQTT.connect fuel opcionesConnect) ≠ SUCCESSS then return -1 else return 0

def mqttSubscribe (fuel : Nat) (topic : List UInt8) : MqttM W Int := do
  if (← MQTT.subscribe fuel topic 0 Manejador.messageArrived) ≠ SUCCESSS then return -1 else return 0

/-- The identifier of the message is not set; at quality 0 nothing reads it. -/
def mqttPublish (fuel : Nat) (topic payload : List UInt8) : MqttM W Int := do
  let msg : MQTTMessage := ⟨0, 0, 0, 0, payload, payload.length⟩
  if (← MQTT.publish fuel topic msg) = SUCCESSS then do
    llama (tickLed 1)
    return 0
  else return 1

def mqttYield (fuel : Nat) : MqttM W Int := MQTT.yield fuel 0

/-- `threadYield` down to its loop. -/
def threadYieldArranque (fuel : Nat) : MqttM W Unit := do
  let _ ← puerto (w5500Init fuel)
  let _ ← mqttNetworkInit
  let _ ← mqttConnectBroker fuel
  if (← mqttSubscribe fuel STM32_SUB) ≠ 0 then llama (tickLed 100)

/-- The cable is out. -/
def sinCable (l : Locales) : MqttM W Locales := do
  if l.ipAssigned then llama dhcpStop
  llama (chThdSleepMilliseconds 100)
  return { l with ipAssigned := false }

/-- The DHCP step of a round. -/
def pasoDHCP (fuel : Nat) (l : Locales) : MqttM W Locales := do
  if (← puerto (dhcpRun fuel)) = DHCP_FAILED then do
    llama (chThdSleepMilliseconds 100)
    llama (dhcpInit DHCP_SOCKET_NUM DNS_BUFFER_SIZE)
    return { l with ipAssigned := false }
  else return l

/-- The question to the chip whether the connection is still there. -/
def compruebaSocket : MqttM W Unit := do
  let sStatus ← llama (getSnSR MQTT_SOCKET)
  if sStatus = SOCK_CLOSED ∨ sStatus = SOCK_CLOSE_WAIT then do
    modificaCliente fun c => { c with isconnected := 0 }
    let _ ← llama (close MQTT_SOCKET)

/-- The recovery of the connection, or a time with the client. -/
def recuperaOAtiende (fuel : Nat) : MqttM W Unit := do
  if (← get).client.isconnected = 0 then do
    let _ ← llama (disconnect MQTT_SOCKET)
    let _ ← mqttNetworkInit
    let _ ← mqttConnectBroker fuel
  else
    let _ ← MQTT.yield fuel 150

/-- The message every five seconds. -/
def publicaCuenta (fuel : Nat) (l : Locales) : MqttM W Locales := do
  if l.ms ≥ 5000 then do
    let _ ← mqttPublish fuel STM32_PUB (mensaje l.count)
    return { l with count := l.count + 1, ms := 0 }
  else return l

/-- The end of a round, whatever has become of the connection. -/
def acabaVuelta (fuel : Nat) (l : Locales) : MqttM W Locales := do
  let _ ← mqttYield fuel
  let l ← publicaCuenta fuel l
  llama (chThdSleepMilliseconds 50)
  return { l with ms := l.ms + 50 }

/-- A round of the loop. -/
def threadYieldVuelta (fuel : Nat) (l : Locales) : MqttM W Locales := do
  let phyReg ← llama getPHYCFGR
  if phyReg &&& 0x01 = 0 then sinCable l
  else do
    let l ← pasoDHCP fuel l
    compruebaSocket
    recuperaOAtiende fuel
    acabaVuelta fuel l

/-- The static variables as the program starts with them. -/
def Sistema.inicial (mundo : W) : Sistema W where
  mundo := mundo
  client :=
    { nextPacketid := 0, commandTimeoutMs := 0, bufSize := 0, readbufSize := 0, keepAliveInterval := 0,
      pingOutstanding := 0, isconnected := 0,
      messageHandlers := ⟨List.replicate MAX_MESSAGE_HANDLERS ⟨none, none⟩, rfl⟩, defaultMessageHandler := none,
      pingTimer := (0 : UInt32) }
  buf := fun _ => 0
  readbuf := fun _ => 0
  sucesos := []

end Wiznet
