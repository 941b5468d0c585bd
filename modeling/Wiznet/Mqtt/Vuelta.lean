import Mathlib.Algebra.Order.BigOperators.Group.List
import Mathlib.Algebra.Order.Ring.Nat
import Wiznet.Mqtt.Server
import Wiznet.Mqtt.Segmentos

/-!
# What one side writes, the other reads

A packet stands at the start of a buffer of which nothing else is known.  The strings of a packet are written by
`writeMQTTString` and read by `readMQTTLenString`, which is exact for them.
-/

namespace Wiznet

open Wire

namespace MQTTPacket

variable {m : Buffer} {p e n : Nat}

theorem lee_of_at {bs : List UInt8} (h : At m p bs) : m.lee p bs.length = bs := h.map_range

theorem at_lee : At m p (m.lee p n) := at_range

theorem length_lee : (m.lee p n).length = n := by simp [Buffer.lee]

/-! ### Numbers -/

theorem byte_of_lt (h : n < 256) : n.toUInt8.toNat = n := Nat.mod_eq_of_lt h

theorem toNat_readInt : (readInt m p).toNat = 256 * (m p).toNat + (m (p + 1)).toNat := by
  have h0 := (m p).toNat_lt
  have h1 := (m (p + 1)).toNat_lt
  simp only [readInt, UInt16.toNat_add, UInt16.toNat_mul, UInt8.toNat_toUInt16]
  rw [show (256 : UInt16).toNat = 256 from rfl]
  omega

theorem length_writeInt : (writeInt n).length = 2 := rfl

theorem at_writeInt (hn : n < 65536) : At m p (writeInt n) ↔ (readInt m p).toNat = n := by
  rw [toNat_readInt, writeInt, at_cons, at_cons]
  have h0 := (m p).toNat_lt
  have h1 := (m (p + 1)).toNat_lt
  rw [← UInt8.toNat_inj, ← UInt8.toNat_inj, byte_of_lt (by omega), byte_of_lt (by omega)]
  simp only [at_nil, and_true]
  constructor
  · rintro ⟨ha, hb⟩
    omega
  · intro h
    constructor <;> omega

theorem readInt_eq {x : UInt16} (h : At m p (writeInt x.toNat)) : readInt m p = x :=
  UInt16.toNat_inj.mp ((at_writeInt x.toNat_lt).mp h)

/-- The remaining length, when it fits in four bytes. -/
theorem decodeBuf_eq (hn : n < 128 ^ 4) (h : At m p (encode n)) : decodeBuf m p = ((encode n).length, n) := by
  obtain ⟨hdig, hlen⟩ := digitos_digitos (m := 3) (k := 4) hn (by decide)
  have : decode m p 4 0 1 0 = (0 + (digitos 5 n).length, 0 + n * 1) := decode_digitos hdig hlen (lee_of_at h)
  simpa [decodeBuf, encode] using this

/-! ### Strings -/

theorem length_writeCString {bs : List UInt8} : (writeCString bs).length = bs.length + 2 := by
  simp [writeCString, length_writeInt, Nat.add_comm]

theorem exact_readMQTTLenString : Exact readMQTTLenString (fun bs => bs.length < 65536) writeCString := by
  intro m p e x q
  rw [writeCString, at_append, length_writeInt, List.length_append, length_writeInt]
  unfold readMQTTLenString
  have hlt := (readInt m p).toNat_lt
  constructor
  · intro h
    by_cases hlong : e > p + 1
    case neg =>
      rw [if_neg hlong] at h
      cases h
    rw [if_pos hlong] at h
    dsimp only at h
    by_cases hcabe : p + 2 + (readInt m p).toNat ≤ e
    case neg =>
      rw [if_neg hcabe] at h
      cases h
    rw [if_pos hcabe] at h
    cases h
    show (_ < 65536 ∧ _) ∧ _
    rw [length_lee, at_writeInt hlt]
    exact ⟨⟨hlt, rfl, at_lee⟩, by omega, hcabe⟩
  · rintro ⟨⟨hx, hlen, hat⟩, rfl, he⟩
    have hlen := (at_writeInt hx).mp hlen
    rw [if_pos (by omega)]
    dsimp only
    rw [hlen, if_pos (by omega), lee_of_at hat, Nat.add_assoc]

/-- A string of which both sides have one text: not with two, of which one is measured and the other one written. -/
structure Escrita (s : MQTTString) : Prop where
  uno : s.cstring = none ∨ s.lenstring.getD [] = []
  corto : s.text.length < 65536

theorem Escrita.write {s : MQTTString} (h : Escrita s) : writeMQTTString s = writeCString s.text := by
  obtain ⟨c, l⟩ := s
  rcases h.uno with hc | hl
  · subst hc
    cases l with
    | none => rfl
    | some bs => cases bs <;> rfl
  · dsimp only at hl
    rw [writeMQTTString, hl, if_neg (by simp)]
    cases c with
    | none =>
      rw [MQTTString.text, Option.none_or, hl]
      rfl
    | some bs => rfl

/-! ### The fixed header and the flags -/

/-- Two bytes with the same bits. -/
theorem octeto_ext {a b : UInt8} (h0 : a.toBitVec[0] = b.toBitVec[0]) (h1 : a.toBitVec[1] = b.toBitVec[1])
    (h2 : a.toBitVec[2] = b.toBitVec[2]) (h3 : a.toBitVec[3] = b.toBitVec[3]) (h4 : a.toBitVec[4] = b.toBitVec[4])
    (h5 : a.toBitVec[5] = b.toBitVec[5]) (h6 : a.toBitVec[6] = b.toBitVec[6]) (h7 : a.toBitVec[7] = b.toBitVec[7]) :
    a = b := by
  apply UInt8.eq_of_toBitVec_eq
  ext i hi
  match i with
  | 0 => exact h0
  | 1 => exact h1
  | 2 => exact h2
  | 3 => exact h3
  | 4 => exact h4
  | 5 => exact h5
  | 6 => exact h6
  | 7 => exact h7

theorem ofByte_byte (type dup qos retain : UInt8) :
    MQTTHeader.ofByte (MQTTHeader.byte ⟨type, dup, qos, retain⟩) =
      ⟨type &&& 15, dup &&& 1, qos &&& 3, retain &&& 1⟩ := by
  simp only [MQTTHeader.ofByte, MQTTHeader.byte, MQTTHeader.mk.injEq]
  refine ⟨?_, ?_, ?_, ?_⟩ <;> apply octeto_ext <;> simp

theorem ofByte_flags (clean will qos retain password username : UInt8) :
    MQTTConnectFlags.ofByte
      ((clean &&& 1) <<< 1 ||| ((will &&& 1) <<< 2 ||| (qos &&& 3) <<< 3 ||| (retain &&& 1) <<< 5) |||
      (password &&& 1) <<< 6 ||| (username &&& 1) <<< 7) =
      ⟨clean &&& 1, will &&& 1, qos &&& 3, retain &&& 1, password &&& 1, username &&& 1⟩ := by
  simp only [MQTTConnectFlags.ofByte, MQTTConnectFlags.mk.injEq]
  refine ⟨?_, ?_, ?_, ?_, ?_, ?_⟩ <;> apply octeto_ext <;> simp

theorem ofByte_connectFlags (options : MQTTPacketConnectData) :
    MQTTConnectFlags.ofByte (MQTTSerialize.connectFlags options) =
      ⟨options.cleansession &&& 1, if options.willFlag ≠ 0 then 1 else 0,
        if options.willFlag ≠ 0 then options.will.qos &&& 3 else 0,
        if options.willFlag ≠ 0 then options.will.retained &&& 1 else 0,
        if options.password.presente then 1 else 0, if options.username.presente then 1 else 0⟩ := by
  unfold MQTTSerialize.connectFlags
  generalize options.password.presente = password
  generalize options.username.presente = username
  have h := ofByte_flags options.cleansession (if options.willFlag ≠ 0 then 1 else 0)
    (if options.willFlag ≠ 0 then options.will.qos else 0) (if options.willFlag ≠ 0 then options.will.retained else 0)
    (if password then 1 else 0) (if username then 1 else 0)
  have h2 : (1 : UInt8) <<< 2 = 4 := rfl
  have h6 : (1 : UInt8) <<< 6 = 64 := rfl
  have h7 : (1 : UInt8) <<< 7 = 128 := rfl
  by_cases hw : options.willFlag ≠ 0 <;> cases password <;> cases username <;> simpa [hw, h2, h6, h7] using h

/-- A packet at the start of the buffer. -/
theorem paquete_at {header : MQTTHeader} {cuerpo : List UInt8} (hn : cuerpo.length < 128 ^ 4)
    (h : At m 0 ([header.byte] ++ encode cuerpo.length ++ cuerpo)) :
    m 0 = header.byte ∧ decodeBuf m 1 = ((encode cuerpo.length).length, cuerpo.length) ∧
      At m (1 + (encode cuerpo.length).length) cuerpo := by
  rw [List.append_assoc, List.singleton_append, at_cons, at_append, Nat.zero_add] at h
  exact ⟨h.1, decodeBuf_eq hn h.2.1, h.2.2⟩

end MQTTPacket

open MQTTPacket

variable {m : Buffer}

/-! ### Topic filters -/

/-- What `filtroConQoS` reads. -/
def escribeFiltro (f : List UInt8 × UInt8) : List UInt8 := writeCString f.1 ++ [f.2]

theorem exact_filtroConQoS :
    Exact MQTTDeserialize.filtroConQoS (fun f => f.1.length < 65536 ∧ True) escribeFiltro := by
  have heq : MQTTDeserialize.filtroConQoS = pair readMQTTLenString cell := by
    funext buf p e
    unfold MQTTDeserialize.filtroConQoS pair cell
    cases readMQTTLenString buf p e with
    | none => rfl
    | some v =>
      dsimp only
      split <;> rfl
  rw [heq]
  exact exact_readMQTTLenString.pair exact_cell

theorem writeCString_pos (bs : List UInt8) : 0 < (writeCString bs).length := by
  rw [length_writeCString]
  omega

theorem escribeFiltro_pos (f : List UInt8 × UInt8) : 0 < (escribeFiltro f).length := by simp [escribeFiltro]

theorem foldl_suma {α : Type} (f : α → Nat) (xs : List α) (n : Nat) :
    xs.foldl (fun len x => len + f x) n = n + (xs.map f).sum := by
  induction xs generalizing n with
  | nil => simp
  | cons x xs ih => simp [ih, Nat.add_assoc]

theorem subscribe_cuerpo {fs : List (MQTTString × UInt8)} (hs : ∀ f ∈ fs, Escrita f.1) :
    (fs.flatMap fun f => writeMQTTString f.1 ++ [f.2]) = (fs.map fun f => (f.1.text, f.2)).flatMap escribeFiltro := by
  rw [List.flatMap_map]
  refine List.flatMap_congr fun f hf => ?_
  rw [(hs f hf).write]
  rfl

theorem subscribeLength_eq (fs : List (MQTTString × UInt8)) :
    MQTTSerialize.subscribeLength (fs.map Prod.fst) =
      2 + ((fs.map fun f => (f.1.text, f.2)).flatMap escribeFiltro).length := by
  refine (foldl_suma (fun topic : MQTTString => 2 + topic.text.length + 1) _ _).trans ?_
  rw [List.length_flatMap, List.map_map, List.map_map]
  congr 2
  refine List.map_congr_left fun f _ => ?_
  simp only [Function.comp_apply, escribeFiltro, List.length_append, length_writeCString, List.length_singleton]
  omega

theorem unsubscribe_cuerpo {fs : List MQTTString} (hs : ∀ f ∈ fs, Escrita f) :
    fs.flatMap writeMQTTString = (fs.map MQTTString.text).flatMap writeCString := by
  rw [List.flatMap_map]
  exact List.flatMap_congr fun f hf => (hs f hf).write

theorem unsubscribeLength_eq (fs : List MQTTString) :
    MQTTSerialize.unsubscribeLength fs = 2 + ((fs.map MQTTString.text).flatMap writeCString).length := by
  refine (foldl_suma (fun topic : MQTTString => 2 + topic.text.length) _ _).trans ?_
  rw [List.length_flatMap, List.map_map]
  congr 2
  refine List.map_congr_left fun f _ => ?_
  simp only [Function.comp_apply, length_writeCString]
  omega

/-- A packet of an identifier and values to its end. -/
theorem lista_at {β : Type} {read : Reader UInt8 β} {ok : β → Prop} {write : β → List UInt8} {header : MQTTHeader}
    {packetid : UInt16} {xs : List β} (h : Exact read ok write) (hpos : ∀ x, 0 < (write x).length)
    (hok : ∀ x ∈ xs, ok x) (hn : 2 + (xs.flatMap write).length < 128 ^ 4)
    (hat : At m 0 ([header.byte] ++ encode (2 + (xs.flatMap write).length) ++
      (writeInt packetid.toNat ++ xs.flatMap write))) :
    m 0 = header.byte ∧ ∃ rc, decodeBuf m 1 = (rc, 2 + (xs.flatMap write).length) ∧ readInt m (1 + rc) = packetid ∧
      many read m (1 + rc + (2 + (xs.flatMap write).length)) (2 + (xs.flatMap write).length) (1 + rc + 2) =
        (xs, true) := by
  have hlen : (writeInt packetid.toNat ++ xs.flatMap write).length = 2 + (xs.flatMap write).length := by
    rw [List.length_append, length_writeInt]
  obtain ⟨h0, hdec, hbody⟩ := paquete_at (by rwa [hlen]) (by rwa [hlen])
  rw [hlen] at hdec hbody
  rw [at_append, length_writeInt] at hbody
  refine ⟨h0, _, hdec, readInt_eq hbody.1, ?_⟩
  exact h.many_reads (fun x _ => hpos x) hok hbody.2 (by omega) (by omega)

theorem subscribe_vuelta {buflen : Nat} {dup : UInt8} {packetid : UInt16} {fs : List (MQTTString × UInt8)}
    {bytes : List UInt8} (hs : ∀ f ∈ fs, Escrita f.1)
    (hn : MQTTSerialize.subscribeLength (fs.map Prod.fst) < 128 ^ 4)
    (h : MQTTSerialize.subscribe buflen dup packetid fs = some bytes) (hat : At m 0 bytes) :
    MQTTDeserialize.subscribe m = (1, some (dup &&& 1, packetid, fs.map fun f => (f.1.text, f.2))) := by
  unfold MQTTSerialize.subscribe at h
  split at h
  case isTrue => cases h
  cases h
  rw [subscribe_cuerpo hs, subscribeLength_eq, List.append_assoc] at hat
  rw [subscribeLength_eq] at hn
  have hok : ∀ x ∈ fs.map fun f => (f.1.text, f.2), x.1.length < 65536 ∧ True := by
    intro x hx
    obtain ⟨f, hf, rfl⟩ := List.mem_map.mp hx
    exact ⟨(hs f hf).corto, trivial⟩
  obtain ⟨h0, rc, hdec, hid, hmany⟩ := lista_at exact_filtroConQoS escribeFiltro_pos hok hn hat
  unfold MQTTDeserialize.subscribe
  rw [h0, ofByte_byte]
  simp only [hdec, hmany, hid]
  rfl

theorem unsubscribe_vuelta {buflen : Nat} {dup : UInt8} {packetid : UInt16} {fs : List MQTTString} {bytes : List UInt8}
    (hs : ∀ f ∈ fs, Escrita f) (hn : MQTTSerialize.unsubscribeLength fs < 128 ^ 4)
    (h : MQTTSerialize.unsubscribe buflen dup packetid fs = some bytes) (hat : At m 0 bytes) :
    MQTTDeserialize.unsubscribe m = (1, some (dup &&& 1, packetid, fs.map MQTTString.text)) := by
  unfold MQTTSerialize.unsubscribe at h
  split at h
  case isTrue => cases h
  cases h
  rw [unsubscribe_cuerpo hs, unsubscribeLength_eq, List.append_assoc] at hat
  rw [unsubscribeLength_eq] at hn
  have hok : ∀ x ∈ fs.map MQTTString.text, x.length < 65536 := by
    intro x hx
    obtain ⟨f, hf, rfl⟩ := List.mem_map.mp hx
    exact (hs f hf).corto
  obtain ⟨h0, rc, hdec, hid, hmany⟩ := lista_at exact_readMQTTLenString writeCString_pos hok hn hat
  unfold MQTTDeserialize.unsubscribe
  rw [h0, ofByte_byte]
  simp only [hdec, hmany, hid]
  rfl

/-- What the client subscribes to, or leaves, is what the server reads: every filter, with its quality, in order, and
the identifier. -/
theorem filtros_vuelta {buflen : Nat} {dup : UInt8} {packetid : UInt16} {fs : List (MQTTString × UInt8)}
    {bytes : List UInt8} (hs : ∀ f ∈ fs, Escrita f.1)
    (hn : MQTTSerialize.subscribeLength (fs.map Prod.fst) < 128 ^ 4) (hat : At m 0 bytes) :
    (MQTTSerialize.subscribe buflen dup packetid fs = some bytes →
      MQTTDeserialize.subscribe m = (1, some (dup &&& 1, packetid, fs.map fun f => (f.1.text, f.2)))) ∧
    (MQTTSerialize.unsubscribe buflen dup packetid (fs.map Prod.fst) = some bytes →
      MQTTDeserialize.unsubscribe m = (1, some (dup &&& 1, packetid, fs.map fun f => f.1.text))) := by
  refine ⟨fun h => subscribe_vuelta hs hn h hat, fun h => ?_⟩
  have hs' : ∀ f ∈ fs.map Prod.fst, Escrita f := by
    intro f hf
    obtain ⟨g, hg, rfl⟩ := List.mem_map.mp hf
    exact hs g hg
  have hle : MQTTSerialize.unsubscribeLength (fs.map Prod.fst) ≤ MQTTSerialize.subscribeLength (fs.map Prod.fst) := by
    have hun := foldl_suma (fun topic : MQTTString => 2 + topic.text.length) (fs.map Prod.fst) 2
    have hsub := foldl_suma (fun topic : MQTTString => 2 + topic.text.length + 1) (fs.map Prod.fst) 2
    have hsum : ((fs.map Prod.fst).map fun topic => 2 + topic.text.length).sum ≤
        ((fs.map Prod.fst).map fun topic => 2 + topic.text.length + 1).sum :=
      List.sum_le_sum fun f _ => Nat.le_succ _
    rw [MQTTSerialize.unsubscribeLength, MQTTSerialize.subscribeLength]
    omega
  rw [unsubscribe_vuelta hs' (Nat.lt_of_le_of_lt hle hn) h hat, List.map_map]
  rfl

theorem filtros_vuelta_dos : ∃ m : Buffer,
    MQTTDeserialize.subscribe m = (1, some (1, 9, [([97, 47, 98], 1), ([99], 0)])) := by
  have hbytes : (MQTTSerialize.subscribe 100 1 9
      [({ cstring := some [97, 47, 98] }, 1), ({ lenstring := some [99] }, 0)]).isSome := by decide
  obtain ⟨bytes, h⟩ := Option.isSome_iff_exists.mp hbytes
  refine ⟨fun i => bytes.getD i 0, (filtros_vuelta (fun f hf => ?_) (by decide) at_getD).1 h⟩
  simp only [List.mem_cons, List.not_mem_nil, or_false] at hf
  rcases hf with rfl | rfl
  · exact ⟨by decide, by decide⟩
  · exact ⟨by decide, by decide⟩

theorem lista_lee {β : Type} {read : Reader UInt8 β} {ok : β → Prop} {write : β → List UInt8} {xs : List β} {b : Bool}
    {rc mylen : Nat} (h : Exact read ok write) (hpos : ∀ x, 0 < (write x).length)
    (hr : many read m (1 + rc + mylen) mylen (1 + rc + 2) = (xs, b)) :
    At m (1 + rc) (writeInt (readInt m (1 + rc)).toNat ++ xs.flatMap write) ∧
      ((if b then 1 else (rc : Int)) = 1 ↔ rc = 1 ∨ mylen ≤ 2 + (xs.flatMap write).length) := by
  obtain ⟨⟨-, hat⟩, hb⟩ := h.of_many (fun x _ => hpos x) (by omega) hr
  refine ⟨at_append.mpr ⟨(at_writeInt (UInt16.toNat_lt _)).mpr rfl, hat⟩, ?_⟩
  have hb' : b = true ↔ mylen ≤ 2 + (xs.flatMap write).length := by
    rw [hb]
    omega
  rw [← hb']
  cases b with
  | false =>
    simp only [Bool.false_eq_true, if_false, or_false]
    omega
  | true => simp

/-- What is read of any packet of filters stands in it from its identifier on, and the code is that of success when it
is all of the packet or, whatever comes after it, when the remaining length has a single byte. -/
theorem filtros_lee {code : Int} {dup : UInt8} {packetid : UInt16} :
    (∀ fs, MQTTDeserialize.subscribe m = (code, some (dup, packetid, fs)) →
      At m (1 + (decodeBuf m 1).1) (writeInt packetid.toNat ++ fs.flatMap escribeFiltro) ∧
        (code = 1 ↔ (decodeBuf m 1).1 = 1 ∨ (decodeBuf m 1).2 ≤ 2 + (fs.flatMap escribeFiltro).length)) ∧
    (∀ fs, MQTTDeserialize.unsubscribe m = (code, some (dup, packetid, fs)) →
      At m (1 + (decodeBuf m 1).1) (writeInt packetid.toNat ++ fs.flatMap writeCString) ∧
        (code = 1 ↔ (decodeBuf m 1).1 = 1 ∨ (decodeBuf m 1).2 ≤ 2 + (fs.flatMap writeCString).length)) := by
  constructor
  · intro fs h
    unfold MQTTDeserialize.subscribe at h
    by_cases ht : (MQTTHeader.ofByte (m 0)).type ≠ SUBSCRIBE
    · simp [ht] at h
    · simp only [ht, if_false, Prod.mk.injEq, Option.some.injEq] at h
      obtain ⟨rfl, -, rfl, rfl⟩ := h
      exact lista_lee exact_filtroConQoS escribeFiltro_pos rfl
  · intro fs h
    unfold MQTTDeserialize.unsubscribe at h
    by_cases ht : (MQTTHeader.ofByte (m 0)).type ≠ UNSUBSCRIBE
    · simp [ht] at h
    · simp only [ht, if_false, Prod.mk.injEq, Option.some.injEq] at h
      obtain ⟨rfl, -, rfl, rfl⟩ := h
      exact lista_lee exact_readMQTTLenString writeCString_pos rfl

end Wiznet
