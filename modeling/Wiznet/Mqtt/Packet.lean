import Mathlib.Data.List.GetD
import Mathlib.Data.Nat.Init

/-!
# MQTT packets

The functions of `MQTTPacket/src` that the client calls.  Here what a serializer writes from the start of its buffer is
a list, `none` when the buffer is too short; a deserializer reads the buffer and returns its code and, apart from it,
what it stored in its arguments, `none` where it leaves before storing anything.  C strings come without their final
zero, and `char` is unsigned, as it is on the target.
-/

namespace Wiznet

/-- Memory behind a pointer of the source. -/
abbrev Buffer := Nat → UInt8

namespace Buffer

/-- `bs` copied to `p`. -/
def escribe (m : Buffer) (p : Nat) (bs : List UInt8) : Buffer := fun i => if p ≤ i then bs.getD (i - p) (m i) else m i

/-- The `n` bytes from `p`. -/
def lee (m : Buffer) (p n : Nat) : List UInt8 := (List.range n).map fun i => m (p + i)

variable {m : Buffer} {p n : Nat} {bs cs : List UInt8}

theorem escribe_nil : m.escribe p [] = m := by
  funext i
  simp [escribe]

theorem escribe_escribe (m : Buffer) (p : Nat) (bs cs : List UInt8) :
    (m.escribe p bs).escribe (p + bs.length) cs = m.escribe p (bs ++ cs) := by
  funext i
  unfold escribe
  by_cases h1 : p ≤ i
  · by_cases h2 : i - p < bs.length
    · have h3 : ¬ p + bs.length ≤ i := by omega
      rw [if_neg h3, if_pos h1, if_pos h1, List.getD_append _ _ _ _ h2]
    · have h3 : p + bs.length ≤ i := by omega
      rw [if_pos h3, if_pos h1, List.getD_append_right _ _ _ _ (by omega), if_pos h1,
        List.getD_eq_default _ _ (by omega : bs.length ≤ i - p)]
      congr 1
      omega
  · have h3 : ¬ p + bs.length ≤ i := by omega
    simp [h1, h3]

theorem escribe_apply (h : n < bs.length) : m.escribe p bs (p + n) = bs[n] := by
  rw [escribe, if_pos (by omega), Nat.add_sub_cancel_left, List.getD_eq_getElem _ _ h]

/-- What stands amid the bytes written is read back. -/
theorem lee_escribe_append (m : Buffer) (p : Nat) (as bs cs : List UInt8) :
    (m.escribe p (as ++ (bs ++ cs))).lee (p + as.length) bs.length = bs := by
  refine List.ext_getElem (by simp [lee]) fun i h1 h2 => ?_
  have hi : as.length + i < (as ++ (bs ++ cs)).length := by
    simp only [List.length_append]
    omega
  simp only [lee, List.getElem_map, List.getElem_range]
  rw [Nat.add_assoc, escribe_apply hi, List.getElem_append_right (by omega), List.getElem_append_left (by omega)]
  simp

theorem lee_escribe : (m.escribe p bs).lee p bs.length = bs := by
  simpa using lee_escribe_append m p [] bs []

end Buffer

/-- A string literal. -/
def literal (cs : List Char) : List UInt8 := cs.map fun c => c.toNat.toUInt8

def CONNECT : UInt8 := 1
def CONNACK : UInt8 := 2
def PUBLISH : UInt8 := 3
def PUBACK : UInt8 := 4
def PUBREC : UInt8 := 5
def PUBREL : UInt8 := 6
def PUBCOMP : UInt8 := 7
def SUBSCRIBE : UInt8 := 8
def SUBACK : UInt8 := 9
def PINGREQ : UInt8 := 12
def PINGRESP : UInt8 := 13

/-- The bit fields of the first byte. -/
structure MQTTHeader where
  type : UInt8
  dup : UInt8 := 0
  qos : UInt8 := 0
  retain : UInt8 := 0

namespace MQTTHeader

def byte (header : MQTTHeader) : UInt8 :=
  header.type <<< 4 ||| (header.dup &&& 1) <<< 3 ||| (header.qos &&& 3) <<< 1 ||| (header.retain &&& 1)

def ofByte (byte : UInt8) : MQTTHeader where
  type := byte >>> 4
  dup := (byte >>> 3) &&& 1
  qos := (byte >>> 1) &&& 3
  retain := byte &&& 1

end MQTTHeader

/-- Null pointers are `none`. -/
structure MQTTString where
  cstring : Option (List UInt8) := none
  lenstring : Option (List UInt8) := none

/-- The text a `cstring` or, without one, a `lenstring` points to. -/
def MQTTString.text (s : MQTTString) : List UInt8 := (s.cstring.or s.lenstring).getD []

def MQTTString.presente (s : MQTTString) : Bool := s.cstring.isSome || s.lenstring.isSome

namespace MQTTPacket

/-- The `do … while` of `encode`: an `int` has at most five digits of seven bits. -/
def digitos : Nat → Nat → List UInt8
  | 0, _ => []
  | n + 1, length =>
    let d := (length % 128).toUInt8
    if length / 128 > 0 then (d ||| 0x80) :: digitos n (length / 128) else [d]

def encode (length : Nat) : List UInt8 := digitos 5 length

/-- The `do … while` of `decode`: the digits that may still come, those read, the weight of the next one, the value. -/
def decode (m : Buffer) (p : Nat) : Nat → Nat → Nat → Nat → Nat × Nat
  | 0, len, _, value => (len + 1, value)
  | n + 1, len, multiplier, value =>
    let c := m (p + len)
    let value := value + (c &&& 127).toNat * multiplier
    if c &&& 128 ≠ 0 then decode m p n (len + 1) (multiplier * 128) value else (len + 1, value)

/-- Bytes read and value; a fifth byte is counted and not read. -/
def decodeBuf (m : Buffer) (p : Nat) : Nat × Nat := decode m p 4 0 1 0

def len (remLen : Nat) : Nat :=
  let remLen := remLen + 1
  if remLen < 128 then remLen + 1
  else if remLen < 16384 then remLen + 2
  else if remLen < 2097151 then remLen + 3
  else remLen + 4

def readInt (m : Buffer) (p : Nat) : UInt16 := 256 * (m p).toUInt16 + (m (p + 1)).toUInt16

def writeInt (anInt : Nat) : List UInt8 := [(anInt / 256).toUInt8, (anInt % 256).toUInt8]

def writeCString (string : List UInt8) : List UInt8 := writeInt string.length ++ string

def writeMQTTString (s : MQTTString) : List UInt8 :=
  if (s.lenstring.getD []).length > 0 then
    writeInt (s.lenstring.getD []).length ++ s.lenstring.getD []
  else
    match s.cstring with
    | some cstring => writeCString cstring
    | none => writeInt 0

/-- The string and the place after it. -/
def readMQTTLenString (m : Buffer) (p enddata : Nat) : Option (List UInt8 × Nat) :=
  if enddata > p + 1 then
    let len := (readInt m p).toNat
    if p + 2 + len ≤ enddata then some (m.lee (p + 2) len, p + 2 + len) else none
  else none

-- `bptr` has no zero before its end, so comparing up to the first zero compares it all
def equals (a : MQTTString) (bptr : List UInt8) : Bool := a.text == bptr

end MQTTPacket

structure MQTTPacketWillOptions where
  topicName : MQTTString := {}
  message : MQTTString := {}
  retained : UInt8 := 0
  qos : UInt8 := 0

/-- The values of `MQTTPacket_connectData_initializer`. -/
structure MQTTPacketConnectData where
  MQTTVersion : UInt8 := 4
  clientID : MQTTString := {}
  keepAliveInterval : UInt16 := 60
  cleansession : UInt8 := 1
  willFlag : UInt8 := 0
  will : MQTTPacketWillOptions := {}
  username : MQTTString := {}
  password : MQTTString := {}

namespace MQTTSerialize

open MQTTPacket

def connectLength (options : MQTTPacketConnectData) : Nat :=
  (if options.MQTTVersion = 3 then 12 else if options.MQTTVersion = 4 then 10 else 0) +
    (options.clientID.text.length + 2) +
    (if options.willFlag ≠ 0 then
      options.will.topicName.text.length + 2 + options.will.message.text.length + 2 else 0) +
    (if options.username.presente then options.username.text.length + 2 else 0) +
    (if options.password.presente then options.password.text.length + 2 else 0)

def connectFlags (options : MQTTPacketConnectData) : UInt8 :=
  (options.cleansession &&& 1) <<< 1 |||
    (if options.willFlag ≠ 0 then
      (0x04 : UInt8) ||| (options.will.qos &&& 3) <<< 3 ||| (options.will.retained &&& 1) <<< 5 else 0) |||
    (if options.password.presente then 0x40 else 0) |||
    (if options.username.presente then 0x80 else 0)

def connect (buflen : Nat) (options : MQTTPacketConnectData) : Option (List UInt8) :=
  if MQTTPacket.len (connectLength options) > buflen then none
  else some <|
    [MQTTHeader.byte ⟨CONNECT, 0, 0, 0⟩] ++ encode (connectLength options) ++
    (if options.MQTTVersion = 4 then writeCString (literal ['M', 'Q', 'T', 'T']) ++ [4]
      else writeCString (literal ['M', 'Q', 'I', 's', 'd', 'p']) ++ [3]) ++
    [connectFlags options] ++
    writeInt options.keepAliveInterval.toNat ++
    writeMQTTString options.clientID ++
    (if options.willFlag ≠ 0 then
      writeMQTTString options.will.topicName ++ writeMQTTString options.will.message else []) ++
    (if options.username.presente then writeMQTTString options.username else []) ++
    (if options.password.presente then writeMQTTString options.password else [])

def zero (buflen : Nat) (packettype : UInt8) : Option (List UInt8) :=
  if buflen < 2 then none else some ([MQTTHeader.byte ⟨packettype, 0, 0, 0⟩] ++ encode 0)

def pingreq (buflen : Nat) : Option (List UInt8) := zero buflen PINGREQ

def subscribeLength (topicFilters : List MQTTString) : Nat :=
  topicFilters.foldl (fun len topic => len + (2 + topic.text.length + 1)) 2

def subscribe (buflen : Nat) (dup : UInt8) (packetid : UInt16) (topicFilters : List (MQTTString × UInt8)) :
    Option (List UInt8) :=
  if MQTTPacket.len (subscribeLength (topicFilters.map Prod.fst)) > buflen then none
  else some <|
    [MQTTHeader.byte ⟨SUBSCRIBE, dup, 1, 0⟩] ++ encode (subscribeLength (topicFilters.map Prod.fst)) ++
    writeInt packetid.toNat ++ topicFilters.flatMap fun t => writeMQTTString t.1 ++ [t.2]

def publishLength (qos : UInt8) (topicName : MQTTString) (payloadlen : Nat) : Nat :=
  2 + topicName.text.length + payloadlen + if qos > 0 then 2 else 0

def publish (buflen : Nat) (dup qos retained : UInt8) (packetid : UInt16) (topicName : MQTTString)
    (payload : List UInt8) : Option (List UInt8) :=
  if MQTTPacket.len (publishLength qos topicName payload.length) > buflen then none
  else some <|
    [MQTTHeader.byte ⟨PUBLISH, dup, qos, retained⟩] ++ encode (publishLength qos topicName payload.length) ++
    writeMQTTString topicName ++ (if qos > 0 then writeInt packetid.toNat else []) ++ payload

def ack (buflen : Nat) (packettype dup : UInt8) (packetid : UInt16) : Option (List UInt8) :=
  if buflen < 4 then none
  else some <|
    [MQTTHeader.byte ⟨packettype, dup, if packettype = PUBREL then 1 else 0, 0⟩] ++ encode 2 ++ writeInt packetid.toNat

end MQTTSerialize

namespace MQTTDeserialize

open MQTTPacket

/-- Session present flag and return code.  A packet too short to have them gives the number of its length bytes, which
is 1, the code of success. -/
def connack (buf : Buffer) : Nat × Option (UInt8 × UInt8) :=
  if (MQTTHeader.ofByte (buf 0)).type ≠ CONNACK then (0, none)
  else
    let (rc, mylen) := decodeBuf buf 1
    if mylen < 2 then (rc, none) else (1, some (buf (1 + rc) >>> 7, buf (2 + rc)))

/-- The loop of `suback`: bytes left, place of the next one, the ones stored. -/
def grantedQoSs (buf : Buffer) (maxcount : Nat) : Nat → Nat → List UInt8 → Int × List UInt8
  | 0, _, granted => (1, granted)
  | n + 1, p, granted =>
    if granted.length > maxcount then (-1, granted) else grantedQoSs buf maxcount n (p + 1) (granted ++ [buf p])

/-- Packet identifier and granted qualities, all those stored whether the caller's array has room for them or not. -/
def suback (buf : Buffer) (maxcount : Nat) : Int × Option (UInt16 × List UInt8) :=
  if (MQTTHeader.ofByte (buf 0)).type ≠ SUBACK then (0, none)
  else
    let (rc, mylen) := decodeBuf buf 1
    if mylen < 2 then (rc, none)
    else
      let (code, granted) := grantedQoSs buf maxcount (mylen - 2) (1 + rc + 2) []
      (code, some (readInt buf (1 + rc), granted))

/-- What `publish` stores.  The length of the payload is negative when the identifier does not fit in the packet. -/
structure Publish where
  dup : UInt8
  qos : UInt8
  retained : UInt8
  packetid : UInt16
  topicName : MQTTString
  payload : List UInt8
  payloadlen : Int

def publish (buf : Buffer) : Nat × Option Publish :=
  let header := MQTTHeader.ofByte (buf 0)
  if header.type ≠ PUBLISH then (0, none)
  else
    let (rc, mylen) := decodeBuf buf 1
    let enddata := 1 + rc + mylen
    match readMQTTLenString buf (1 + rc) enddata with
    | none => (rc, none)
    | some (topic, curdata) =>
      let packetid := if header.qos > 0 then readInt buf curdata else 0
      let curdata := if header.qos > 0 then curdata + 2 else curdata
      (1, some ⟨header.dup, header.qos, header.retain, packetid, { lenstring := some topic },
        buf.lee curdata (enddata - curdata), enddata - curdata⟩)

/-- Packet type, dup flag and, when the packet has one, packet identifier. -/
def ack (buf : Buffer) : Nat × UInt8 × UInt8 × Option UInt16 :=
  let header := MQTTHeader.ofByte (buf 0)
  let (rc, mylen) := decodeBuf buf 1
  if mylen < 2 then (rc, header.type, header.dup, none)
  else (1, header.type, header.dup, some (readInt buf (1 + rc)))

end MQTTDeserialize

end Wiznet
