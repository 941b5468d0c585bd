import Wiznet.Library.Wire
import Wiznet.Mqtt.Packet

/-!
# The packets of the other side

The functions of `MQTTPacket/src` that the client does not call: what a server reads (`MQTTDeserialize_connect`,
`MQTTDeserialize_subscribe`, `MQTTDeserialize_unsubscribe`) and writes (`MQTTSerialize_connack`,
`MQTTSerialize_suback`, `MQTTSerialize_unsuback`), and the packets of `UNSUBSCRIBE` and `DISCONNECT`.  They follow the
conventions of the packets of the client.  The arrays of filters have no end here: `maxcount` is not used by the
functions that fill them.
-/

namespace Wiznet

def UNSUBSCRIBE : UInt8 := 10
def UNSUBACK : UInt8 := 11
def DISCONNECT : UInt8 := 14

/-- The bit fields of the flags of CONNECT. -/
structure MQTTConnectFlags where
  cleansession : UInt8
  will : UInt8
  willQoS : UInt8
  willRetain : UInt8
  password : UInt8
  username : UInt8

def MQTTConnectFlags.ofByte (all : UInt8) : MQTTConnectFlags where
  cleansession := (all >>> 1) &&& 1
  will := (all >>> 2) &&& 1
  willQoS := (all >>> 3) &&& 3
  willRetain := (all >>> 5) &&& 1
  password := (all >>> 6) &&& 1
  username := (all >>> 7) &&& 1

namespace MQTTPacket

/-- `memcmp` over as many bytes as the shorter of both has. -/
def igualHasta (a b : List UInt8) : Bool := a.take (min b.length a.length) == b.take (min b.length a.length)

def checkVersion (protocol : List UInt8) (version : UInt8) : Bool :=
  if version = 3 ∧ igualHasta protocol (literal ['M', 'Q', 'I', 's', 'd', 'p']) then true
  else if version = 4 ∧ igualHasta protocol (literal ['M', 'Q', 'T', 'T']) then true
  else false

end MQTTPacket

namespace MQTTSerialize

open MQTTPacket

def disconnect (buflen : Nat) : Option (List UInt8) := zero buflen DISCONNECT

def puback (buflen : Nat) (packetid : UInt16) : Option (List UInt8) := ack buflen PUBACK 0 packetid

def pubrel (buflen : Nat) (dup : UInt8) (packetid : UInt16) : Option (List UInt8) := ack buflen PUBREL dup packetid

def pubcomp (buflen : Nat) (packetid : UInt16) : Option (List UInt8) := ack buflen PUBCOMP 0 packetid

def unsubscribeLength (topicFilters : List MQTTString) : Nat :=
  topicFilters.foldl (fun len topic => len + (2 + topic.text.length)) 2

def unsubscribe (buflen : Nat) (dup : UInt8) (packetid : UInt16) (topicFilters : List MQTTString) :
    Option (List UInt8) :=
  if MQTTPacket.len (unsubscribeLength topicFilters) > buflen then none
  else some <|
    [MQTTHeader.byte ⟨UNSUBSCRIBE, dup, 1, 0⟩] ++ encode (unsubscribeLength topicFilters) ++
    writeInt packetid.toNat ++ topicFilters.flatMap writeMQTTString

/-- The checks of these three are of less than what they write. -/
def connack (buflen : Nat) (connackRc sessionPresent : UInt8) : Option (List UInt8) :=
  if buflen < 2 then none
  else some <| [MQTTHeader.byte ⟨CONNACK, 0, 0, 0⟩] ++ encode 2 ++ [(sessionPresent &&& 1) <<< 7, connackRc]

def suback (buflen : Nat) (packetid : UInt16) (grantedQoSs : List UInt8) : Option (List UInt8) :=
  if buflen < 2 + grantedQoSs.length then none
  else some <|
    [MQTTHeader.byte ⟨SUBACK, 0, 0, 0⟩] ++ encode (2 + grantedQoSs.length) ++ writeInt packetid.toNat ++ grantedQoSs

def unsuback (buflen : Nat) (packetid : UInt16) : Option (List UInt8) :=
  if buflen < 2 then none
  else some <| [MQTTHeader.byte ⟨UNSUBACK, 0, 0, 0⟩] ++ encode 2 ++ writeInt packetid.toNat

end MQTTSerialize

namespace MQTTDeserialize

open MQTTPacket Wire

/-- The password of `connect`. -/
def connectPassword (flags : MQTTConnectFlags) (data : MQTTPacketConnectData) (buf : Buffer) (curdata enddata : Nat) :
    Nat × MQTTPacketConnectData :=
  if flags.password ≠ 0 then
    if enddata < curdata + 3 then (0, data)
    else
      match readMQTTLenString buf curdata enddata with
      | none => (0, data)
      | some (password, _) => (1, { data with password := { lenstring := some password } })
  else (1, data)

/-- The user name of `connect`, and what follows it. -/
def connectUsername (flags : MQTTConnectFlags) (data : MQTTPacketConnectData) (buf : Buffer) (curdata enddata : Nat) :
    Nat × MQTTPacketConnectData :=
  if flags.username ≠ 0 then
    if enddata < curdata + 3 then (0, data)
    else
      match readMQTTLenString buf curdata enddata with
      | none => (0, data)
      | some (username, curdata) =>
        connectPassword flags { data with username := { lenstring := some username } } buf curdata enddata
  else if flags.password ≠ 0 then (0, data)
  else (1, data)

/-- The will of `connect`, and what follows it. -/
def connectWill (flags : MQTTConnectFlags) (data : MQTTPacketConnectData) (buf : Buffer) (curdata enddata : Nat) :
    Nat × MQTTPacketConnectData :=
  let data := { data with willFlag := flags.will }
  if flags.will ≠ 0 then
    let data := { data with will := { data.will with qos := flags.willQoS, retained := flags.willRetain } }
    match readMQTTLenString buf curdata enddata with
    | none => (0, data)
    | some (topicName, curdata) =>
      let data := { data with will := { data.will with topicName := { lenstring := some topicName } } }
      match readMQTTLenString buf curdata enddata with
      | none => (0, data)
      | some (message, curdata) =>
        connectUsername flags { data with will := { data.will with message := { lenstring := some message } } }
          buf curdata enddata
  else connectUsername flags data buf curdata enddata

/-- Code and `data`, of which a string that cannot be read keeps its text. -/
def connect (data : MQTTPacketConnectData) (buf : Buffer) (len : Nat) : Nat × MQTTPacketConnectData :=
  if (MQTTHeader.ofByte (buf 0)).type ≠ CONNECT then (0, data)
  else
    match readMQTTLenString buf (1 + (decodeBuf buf 1).1) len with
    | none => (0, data)
    | some (protocol, curdata) =>
      if checkVersion protocol (buf curdata) then
        let flags := MQTTConnectFlags.ofByte (buf (curdata + 1))
        let data := { data with cleansession := flags.cleansession, keepAliveInterval := readInt buf (curdata + 2) }
        match readMQTTLenString buf (curdata + 4) len with
        | none => (0, data)
        | some (clientID, curdata) =>
          connectWill flags { data with clientID := { lenstring := some clientID } } buf curdata len
      else (0, data)

/-- A topic filter and its quality. -/
def filtroConQoS : Reader UInt8 (List UInt8 × UInt8) := fun buf curdata enddata =>
  match readMQTTLenString buf curdata enddata with
  | none => none
  | some (topicFilter, curdata) => if curdata ≥ enddata then none else some ((topicFilter, buf curdata), curdata + 1)

/-- Dup flag, packet identifier and the filters read.  A filter that cannot be read leaves the code that the remaining
length has left, which is the number of its bytes. -/
def subscribe (buf : Buffer) : Int × Option (UInt8 × UInt16 × List (List UInt8 × UInt8)) :=
  let header := MQTTHeader.ofByte (buf 0)
  if header.type ≠ SUBSCRIBE then (-1, none)
  else
    let (rc, mylen) := decodeBuf buf 1
    let (topicFilters, hastaFin) := many filtroConQoS buf (1 + rc + mylen) mylen (1 + rc + 2)
    (if hastaFin then 1 else rc, some (header.dup, readInt buf (1 + rc), topicFilters))

def unsubscribe (buf : Buffer) : Int × Option (UInt8 × UInt16 × List (List UInt8)) :=
  let header := MQTTHeader.ofByte (buf 0)
  if header.type ≠ UNSUBSCRIBE then (0, none)
  else
    let (rc, mylen) := decodeBuf buf 1
    let (topicFilters, hastaFin) := many readMQTTLenString buf (1 + rc + mylen) mylen (1 + rc + 2)
    (if hastaFin then 1 else rc, some (header.dup, readInt buf (1 + rc), topicFilters))

/-- Packet identifier, when there is one.  The code is that of an ack, of whatever type, unless the type is the right
one. -/
def unsuback (buf : Buffer) : Nat × Option UInt16 :=
  let (rc, type, _, packetid) := ack buf
  (if type = UNSUBACK then 1 else rc, packetid)

end MQTTDeserialize

end Wiznet
