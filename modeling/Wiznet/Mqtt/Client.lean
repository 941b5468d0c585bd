import Wiznet.Mqtt.Packet

/-!
# The MQTT client

The functions of `MQTTClient.c`, over the platform the client is ported to: its timers, its network functions and the
message handlers of the application.  The loops of the source have no bound of their own, only the timers', so each
call takes the number of rounds that are left; a call with none left is one that has not come to an end.

`sucesos` is not in the source and nothing reads it: it keeps what the broker has answered to the CONNECT and SUBSCRIBE
packets, the last answer first.
-/

namespace Wiznet

/-- Why a call does not return. -/
inductive Parada where
  | loop
  /-- The source reads or writes outside its memory, or uses a variable nobody has written. -/
  | indefinido
  deriving DecidableEq

structure MQTTMessage where
  qos : UInt8
  retained : UInt8
  dup : UInt8
  id : UInt16
  payload : List UInt8
  payloadlen : Int

structure MessageData where
  message : MQTTMessage
  topicName : MQTTString

/-- The port of the client to a platform whose state is `W`.  `mqttread` returns the bytes it puts in the buffer, at
most as many as it is asked for, or an error code, which is not positive. -/
class Puerto (W : Type) where
  Timer : Type
  Handler : Type
  timerInit : Timer
  timerIsExpired : Timer → W → Bool × W
  timerCountdownMS : UInt32 → W → Timer × W
  timerCountdown : UInt32 → W → Timer × W
  timerLeftMS : Timer → W → Int × W
  mqttread : Nat → Int → EStateM Parada W (Except Int (List UInt8))
  mqttwrite : List UInt8 → Int → EStateM Parada W Int
  messageHandler : Handler → MessageData → EStateM Parada W Unit

def MAX_PACKET_ID : UInt32 := 65535

def MAX_MESSAGE_HANDLERS : Nat := 5

def FAILURE : Int := -1

def SUCCESSS : Int := 0

def MQTTPACKET_BUFFER_TOO_SHORT : Int := -2

variable (W : Type) [Puerto W]

structure MessageHandlers where
  topicFilter : Option (List UInt8)
  fp : Option (Puerto.Handler W)

/-- The array `messageHandlers`. -/
structure TablaHandlers where
  entradas : List (MessageHandlers W)
  lleva : entradas.length = MAX_MESSAGE_HANDLERS

structure MQTTClient where
  nextPacketid : UInt32
  commandTimeoutMs : UInt32
  bufSize : Nat
  readbufSize : Nat
  keepAliveInterval : UInt32
  pingOutstanding : UInt8
  isconnected : Int
  messageHandlers : TablaHandlers W
  defaultMessageHandler : Option (Puerto.Handler W)
  pingTimer : Puerto.Timer W

/-- An answer of the broker: the return code of the CONNACK to a CONNECT; the identifier and the granted quality of the
SUBACK to a SUBSCRIBE, beside the filter and the identifier of that SUBSCRIBE. -/
inductive Suceso where
  | connack (returnCode : UInt8)
  | suback (topicFilter : List UInt8) (enviado recibido : UInt16) (grantedQoS : Int)
  deriving DecidableEq

/-- The client and the platform it runs on. -/
structure Sistema where
  mundo : W
  client : MQTTClient W
  buf : Buffer
  readbuf : Buffer
  sucesos : List Suceso

abbrev MqttM := EStateM Parada (Sistema W)

variable {W}

namespace TablaHandlers

/-- The loop of `MQTTClientInit`. -/
def vacia (t : TablaHandlers W) : TablaHandlers W where
  entradas := t.entradas.map fun h => { h with topicFilter := none }
  lleva := by rw [List.length_map, t.lleva]

/-- The first free entry taken, `none` without one. -/
def ocupa (topicFilter : List UInt8) (fp : Option (Puerto.Handler W)) :
    List (MessageHandlers W) → Option (List (MessageHandlers W))
  | [] => none
  | h :: hs =>
    if h.topicFilter.isNone then some (⟨some topicFilter, fp⟩ :: hs)
    else (ocupa topicFilter fp hs).map (h :: ·)

theorem length_ocupa {topicFilter : List UInt8} {fp : Option (Puerto.Handler W)} {hs hs' : List (MessageHandlers W)}
    (h : ocupa topicFilter fp hs = some hs') : hs'.length = hs.length := by
  induction hs generalizing hs' with
  | nil => cases h
  | cons a hs ih =>
    unfold ocupa at h
    split at h
    · cases h
      rfl
    · cases hr : ocupa topicFilter fp hs with
      | none => simp [hr] at h
      | some r =>
        simp only [hr, Option.map_some, Option.some.injEq] at h
        rw [← h, List.length_cons, List.length_cons, ih hr]

/-- The loop of `MQTTSubscribe`. -/
def registra (t : TablaHandlers W) (topicFilter : List UInt8) (fp : Option (Puerto.Handler W)) :
    Option (TablaHandlers W) :=
  match h : ocupa topicFilter fp t.entradas with
  | none => none
  | some entradas => some ⟨entradas, by rw [length_ocupa h, t.lleva]⟩

end TablaHandlers

/-- A call to the platform. -/
def llama {α : Type} (f : W → α × W) : MqttM W α :=
  modifyGet fun s => match f s.mundo with
    | (a, mundo) => (a, { s with mundo := mundo })

def puerto {α : Type} (x : EStateM Parada W α) : MqttM W α := fun s =>
  match x s.mundo with
  | .ok a mundo => .ok a { s with mundo := mundo }
  | .error e mundo => .error e { s with mundo := mundo }

def modificaCliente (f : MQTTClient W → MQTTClient W) : MqttM W Unit := modify fun s => { s with client := f s.client }

/-- A packet put in the buffer that is sent from, with the code of its serializer. -/
def serializa (packet : Option (List UInt8)) : MqttM W Int :=
  match packet with
  | none => pure MQTTPACKET_BUFFER_TOO_SHORT
  | some bs => do
    modify fun s => { s with buf := s.buf.escribe 0 bs }
    return bs.length

def anota (e : Suceso) : MqttM W Unit := modify fun s => { s with sucesos := e :: s.sucesos }

namespace MQTT

open Puerto

def getNextPacketId : MqttM W UInt32 := do
  let c := (← get).client
  let nextPacketid := if c.nextPacketid = MAX_PACKET_ID then 1 else c.nextPacketid + 1
  modificaCliente fun c => { c with nextPacketid := nextPacketid }
  return nextPacketid

/-- The `while` of `sendPacket`, which gives the whole length again at each round.  It returns `sent`. -/
def sendRest (length : Nat) (timer : Timer W) : Nat → Nat → MqttM W Nat
  | 0, _ => throw .loop
  | fuel + 1, sent => do
    if sent < length then
      if ← llama (timerIsExpired timer) then return sent
      else do
        let s ← get
        if sent + length > s.client.bufSize then throw .indefinido
        else do
          let left ← llama (timerLeftMS timer)
          let rc ← puerto (mqttwrite (s.buf.lee sent length) left)
          if rc < 0 then return sent
          else sendRest length timer fuel (sent + rc.toNat)
    else return sent

def sendPacket (fuel : Nat) (length : Nat) (timer : Timer W) : MqttM W Int := do
  let sent ← sendRest length timer fuel 0
  if sent = length then do
    let pingTimer ← llama (timerCountdown (← get).client.keepAliveInterval)
    modificaCliente fun c => { c with pingTimer := pingTimer }
    return SUCCESSS
  else return FAILURE

def clientInit (commandTimeoutMs : UInt32) (sendbufSize readbufSize : Nat) : MqttM W Unit :=
  modificaCliente fun c =>
    { c with
      messageHandlers := c.messageHandlers.vacia
      commandTimeoutMs := commandTimeoutMs
      bufSize := sendbufSize
      readbufSize := readbufSize
      isconnected := 0
      pingOutstanding := 0
      defaultMessageHandler := none
      nextPacketid := 1
      pingTimer := timerInit }

/-- The `do … while` of `decodePacket`: the length bytes that may still come, those read, the weight of the next one,
the value. -/
def decodeRest (timeout : Int) : Nat → Nat → Nat → Nat → MqttM W (Nat × Nat)
  | 0, len, _, value => return (len + 1, value)
  | n + 1, len, multiplier, value => do
    match ← puerto (mqttread 1 timeout) with
    | .ok [i] =>
      let value := value + (i &&& 127).toNat * multiplier
      if i &&& 128 ≠ 0 then decodeRest timeout n (len + 1) (multiplier * 128) value
      else return (len + 1, value)
    | _ => return (len + 1, value)

def decodePacket (timeout : Int) : MqttM W (Nat × Nat) := decodeRest timeout 4 0 1 0

def escribeReadbuf (p : Nat) (bs : List UInt8) : MqttM W Unit := do
  if p + bs.length > (← get).client.readbufSize then throw .indefinido
  else modify fun s => { s with readbuf := s.readbuf.escribe p bs }

def tipoLeido : MqttM W Int := do return (MQTTHeader.ofByte ((← get).readbuf 0)).type.toNat

/-- The packet type, or `FAILURE`.  How many length bytes there were, or whether the last of them came at all, is not
looked at. -/
def readPacket (timer : Timer W) : MqttM W Int := do
  let left ← llama (timerLeftMS timer)
  match ← puerto (mqttread 1 left) with
  | .ok [byte] => do
    escribeReadbuf 0 [byte]
    let left ← llama (timerLeftMS timer)
    let (_, remLen) ← decodePacket left
    escribeReadbuf 1 (MQTTPacket.encode remLen)
    if remLen > 0 then do
      let left ← llama (timerLeftMS timer)
      match ← puerto (mqttread remLen left) with
      | .ok bs => do
        escribeReadbuf (1 + (MQTTPacket.encode remLen).length) bs
        if bs.length ≠ remLen then return FAILURE else tipoLeido
      | .error _ => return FAILURE
    else tipoLeido
  | _ => return FAILURE

/-- The filter is followed character by character, as in the source. -/
def isTopicMatched : List UInt8 → List UInt8 → Bool
  | [], curn => curn.isEmpty
  | _ :: _, [] => false
  | f :: curf, n :: curn =>
    if n = '/'.toNat.toUInt8 ∧ f ≠ '/'.toNat.toUInt8 then false
    else if f ≠ '+'.toNat.toUInt8 ∧ f ≠ '#'.toNat.toUInt8 ∧ f ≠ n then false
    else if f = '+'.toNat.toUInt8 then isTopicMatched curf (curn.dropWhile (· ≠ '/'.toNat.toUInt8))
    else if f = '#'.toNat.toUInt8 then isTopicMatched curf []
    else isTopicMatched curf curn

/-- The loop of `deliverMessage`. -/
def deliverTo (md : MessageData) : List (MessageHandlers W) → Int → MqttM W Int
  | [], rc => return rc
  | h :: hs, rc => do
    match h.topicFilter, h.fp with
    | some topicFilter, some fp =>
      if MQTTPacket.equals md.topicName topicFilter ∨ isTopicMatched topicFilter md.topicName.text then do
        puerto (messageHandler fp md)
        deliverTo md hs SUCCESSS
      else deliverTo md hs rc
    | _, _ => deliverTo md hs rc

def deliverMessage (topicName : MQTTString) (message : MQTTMessage) : MqttM W Int := do
  let c := (← get).client
  let rc ← deliverTo ⟨message, topicName⟩ c.messageHandlers.entradas FAILURE
  match c.defaultMessageHandler with
  | some fp =>
    if rc = FAILURE then do
      puerto (messageHandler fp ⟨message, topicName⟩)
      return SUCCESSS
    else return rc
  | none => return rc

def keepalive (fuel : Nat) : MqttM W Int := do
  let c := (← get).client
  if c.keepAliveInterval = 0 then return SUCCESSS
  else do
    let expired ← llama (timerIsExpired c.pingTimer)
    if expired ∧ c.pingOutstanding = 0 then do
      let timer ← llama (timerCountdownMS 1000)
      let len ← serializa (MQTTSerialize.pingreq c.bufSize)
      if len > 0 then do
        let rc ← sendPacket fuel len.toNat timer
        if rc = SUCCESSS then modificaCliente fun c => { c with pingOutstanding := 1 }
        return rc
      else return FAILURE
    else return FAILURE

/-- Answer to a packet: the code and whether `cycle` goes on to the keep-alive. -/
def responde (fuel : Nat) (timer : Timer W) (packet : Option (List UInt8)) : MqttM W (Int × Bool) := do
  let len ← serializa packet
  if len ≤ 0 then return (FAILURE, false)
  else do
    let rc ← sendPacket fuel len.toNat timer
    return (rc, rc ≠ FAILURE)

/-- `case PUBLISH`.  When the topic does not fit in the packet the deserializer still says 1, for the length byte it
has read, and the client goes on with arguments nobody has written. -/
def casePublish (fuel : Nat) (timer : Timer W) : MqttM W (Int × Bool) := do
  let (rc, datos) := MQTTDeserialize.publish (← get).readbuf
  if rc ≠ 1 then return (SUCCESSS, false)
  else
    match datos with
    | none => throw .indefinido
    | some msg => do
      let _ ← deliverMessage msg.topicName ⟨msg.qos, msg.retained, msg.dup, msg.packetid, msg.payload, msg.payloadlen⟩
      let c := (← get).client
      if msg.qos = 0 then return (SUCCESSS, true)
      else if msg.qos = 1 then responde fuel timer (MQTTSerialize.ack c.bufSize PUBACK 0 msg.packetid)
      else if msg.qos = 2 then responde fuel timer (MQTTSerialize.ack c.bufSize PUBREC 0 msg.packetid)
      else return (FAILURE, false)

def casePubrec (fuel : Nat) (timer : Timer W) : MqttM W (Int × Bool) := do
  let s ← get
  let (rc, _, _, datos) := MQTTDeserialize.ack s.readbuf
  if rc ≠ 1 then return (FAILURE, false)
  else
    match datos with
    | none => throw .indefinido
    | some mypacketid => responde fuel timer (MQTTSerialize.ack s.client.bufSize PUBREL 0 mypacketid)

/-- The `switch` of `cycle`: its code and whether `cycle` goes on to the keep-alive. -/
def trataPaquete (fuel : Nat) (timer : Timer W) (packetType : Int) : MqttM W (Int × Bool) := do
  if packetType = PUBLISH.toNat then casePublish fuel timer
  else if packetType = PUBREC.toNat then casePubrec fuel timer
  else if packetType = PINGRESP.toNat then do
    modificaCliente fun c => { c with pingOutstanding := 0 }
    return (SUCCESSS, true)
  else return (SUCCESSS, true)

/-- The result is the packet type as an `unsigned short`, 65535 for none, or `FAILURE`. -/
def cycle (fuel : Nat) (timer : Timer W) : MqttM W Int := do
  let packetType := (← readPacket timer) % 65536
  let (rc, sigue) ← trataPaquete fuel timer packetType
  if sigue then
    let _ ← keepalive fuel
  if rc = SUCCESSS then return packetType else return rc

def yield (fuel : Nat) (timeoutMs : UInt32) : MqttM W Int := do
  let timer ← llama (timerCountdownMS timeoutMs)
  if (← cycle fuel timer) = FAILURE then return FAILURE else return SUCCESSS

/-- The `do … while` of `waitfor`: the rounds left and the result of the last one. -/
def waitRest (fuel : Nat) (packetType : Int) (timer : Timer W) : Nat → Int → MqttM W Int
  | 0, _ => throw .loop
  | n + 1, rc => do
    if ← llama (timerIsExpired timer) then return rc
    else do
      let rc ← cycle fuel timer
      if rc = packetType then return rc else waitRest fuel packetType timer n rc

def waitfor (fuel : Nat) (packetType : UInt8) (timer : Timer W) : MqttM W Int :=
  waitRest fuel packetType.toNat timer fuel FAILURE

/-- What `MQTTConnect` does with a CONNACK. -/
def leeConnack : MqttM W Int := do
  let (rc, datos) := MQTTDeserialize.connack (← get).readbuf
  if rc = 1 then
    match datos with
    | some (_, connackRc) => do
      anota (.connack connackRc)
      return connackRc.toNat
    -- `connack_rc` as it was set before the call
    | none => return 255
  else return FAILURE

/-- `MQTTConnect` up to its label `exit`. -/
def connectRc (fuel : Nat) (options : MQTTPacketConnectData) : MqttM W Int := do
  let c := (← get).client
  if c.isconnected ≠ 0 then return FAILURE
  else do
    let connectTimer ← llama (timerCountdownMS c.commandTimeoutMs)
    modificaCliente fun c => { c with keepAliveInterval := options.keepAliveInterval.toUInt32 }
    let pingTimer ← llama (timerCountdown options.keepAliveInterval.toUInt32)
    modificaCliente fun c => { c with pingTimer := pingTimer }
    let len ← serializa (MQTTSerialize.connect c.bufSize options)
    if len ≤ 0 then return FAILURE
    else do
      let rc ← sendPacket fuel len.toNat connectTimer
      if rc ≠ SUCCESSS then return rc
      else do
        let rc ← waitfor fuel CONNACK connectTimer
        if rc = CONNACK.toNat then leeConnack else return FAILURE

def connect (fuel : Nat) (options : MQTTPacketConnectData) : MqttM W Int := do
  let rc ← connectRc fuel options
  modificaCliente fun c => { c with isconnected := if rc = SUCCESSS then 1 else 0 }
  return rc

/-- The `if (rc != 0x80)` of `MQTTSubscribe`. -/
def registraHandler (topicFilter : List UInt8) (fp : Handler W) (rc : Int) : MqttM W Int := do
  if rc ≠ 0x80 then
    match (← get).client.messageHandlers.registra topicFilter (some fp) with
    | some messageHandlers => do
      modificaCliente fun c => { c with messageHandlers := messageHandlers }
      return 0
    | none => return rc
  else return rc

/-- What `MQTTSubscribe` does with a SUBACK.  `granted` may hold more than the one quality there is room for. -/
def leeSuback (topicFilter : List UInt8) (packetid : UInt16) : MqttM W Int := do
  let (code, datos) := MQTTDeserialize.suback (← get).readbuf 1
  match datos with
  | some (mypacketid, granted) =>
    if granted.length > 1 then throw .indefinido
    else do
      let grantedQoS : Int := match granted.head? with
        | some q => q.toNat
        | none => -1
      anota (.suback topicFilter packetid mypacketid grantedQoS)
      if code = 1 then return grantedQoS else return SUCCESSS
  | none => if code = 1 then return -1 else return SUCCESSS

def subscribe (fuel : Nat) (topicFilter : List UInt8) (qos : UInt8) (fp : Handler W) : MqttM W Int := do
  let c := (← get).client
  if c.isconnected = 0 then return FAILURE
  else do
    let timer ← llama (timerCountdownMS c.commandTimeoutMs)
    let packetid ← getNextPacketId
    let len ← serializa
      (MQTTSerialize.subscribe c.bufSize 0 packetid.toUInt16 [({ cstring := some topicFilter }, qos)])
    if len ≤ 0 then return FAILURE
    else do
      let rc ← sendPacket fuel len.toNat timer
      if rc ≠ SUCCESSS then return rc
      else do
        let rc ← waitfor fuel SUBACK timer
        if rc = SUBACK.toNat then do
          let rc ← leeSuback topicFilter packetid.toUInt16
          registraHandler topicFilter fp rc
        else return FAILURE

/-- `MQTTSubscribe` down to its `waitfor`: the code it ends with before that, or the timer it waits with and the
identifier it has sent. -/
def hastaSuback (fuel : Nat) (topicFilter : List UInt8) (qos : UInt8) : MqttM W (Except Int (Timer W × UInt16)) := do
  let c := (← get).client
  if c.isconnected = 0 then return .error FAILURE
  else do
    let timer ← llama (timerCountdownMS c.commandTimeoutMs)
    let packetid ← getNextPacketId
    let len ← serializa
      (MQTTSerialize.subscribe c.bufSize 0 packetid.toUInt16 [({ cstring := some topicFilter }, qos)])
    if len ≤ 0 then return .error FAILURE
    else do
      let rc ← sendPacket fuel len.toNat timer
      if rc ≠ SUCCESSS then return .error rc else return .ok (timer, packetid.toUInt16)

/-- `MQTTSubscribe` down to its `if (rc != 0x80)`: the code it ends with before that, or the one it looks at there. -/
def subscribeRc (fuel : Nat) (topicFilter : List UInt8) (qos : UInt8) : MqttM W (Except Int Int) := do
  match ← hastaSuback fuel topicFilter qos with
  | .error rc => return .error rc
  | .ok (timer, packetid) =>
    let rc ← waitfor fuel SUBACK timer
    if rc = SUBACK.toNat then return .ok (← leeSuback topicFilter packetid) else return .error FAILURE

theorem subscribe_eq (fuel : Nat) (topicFilter : List UInt8) (qos : UInt8) (fp : Handler W) :
    subscribe fuel topicFilter qos fp = (do
      match ← subscribeRc fuel topicFilter qos with
      | .error rc => return rc
      | .ok rc => registraHandler topicFilter fp rc) := by
  have hite : ∀ {α β : Type} {p : Prop} [Decidable p] {x y : MqttM W α} {f : α → MqttM W β},
      (if p then x else y) >>= f = if p then x >>= f else y >>= f := by
    intro α β p _ x y f
    split <;> rfl
  simp only [subscribe, subscribeRc, hastaSuback, bind_assoc, hite, pure_bind]

/-- The acknowledgement `MQTTPublish` waits for. -/
def esperaAck (fuel : Nat) (packetType : UInt8) (timer : Timer W) (rc : Int) : MqttM W Int := do
  let recibido ← waitfor fuel packetType timer
  if recibido = packetType.toNat then
    if (MQTTDeserialize.ack (← get).readbuf).1 ≠ 1 then return FAILURE else return rc
  else return FAILURE

/-- `MQTTPublish` from its serializer on. -/
def enviaPublish (fuel : Nat) (topicName : List UInt8) (message : MQTTMessage) (timer : Timer W) (id : UInt16) :
    MqttM W Int := do
  let len ← serializa (MQTTSerialize.publish (← get).client.bufSize 0 message.qos message.retained id
    { cstring := some topicName } message.payload)
  if len ≤ 0 then return FAILURE
  else do
    let rc ← sendPacket fuel len.toNat timer
    if rc ≠ SUCCESSS then return rc
    else if message.qos = 1 then esperaAck fuel PUBACK timer rc
    else if message.qos = 2 then esperaAck fuel PUBCOMP timer rc
    else return rc

def publish (fuel : Nat) (topicName : List UInt8) (message : MQTTMessage) : MqttM W Int := do
  let c := (← get).client
  if c.isconnected = 0 then return FAILURE
  else do
    let timer ← llama (timerCountdownMS c.commandTimeoutMs)
    if message.qos = 1 ∨ message.qos = 2 then do
      let id ← getNextPacketId
      enviaPublish fuel topicName message timer id.toUInt16
    else enviaPublish fuel topicName message timer message.id

end MQTT

end Wiznet
