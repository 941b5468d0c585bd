import Wiznet.Mqtt.Entrada

/-!
# Messages and answers

A PUBLISH and the packets with which both sides answer come back as they were written.  The array for the qualities
that a SUBACK grants takes one more than it has room for.  What each function writes fits in its buffer, except three
whose check is of less than they write.
-/

namespace Wiznet

open Wire MQTTPacket

variable {m : Buffer} {buflen : Nat} {bytes : List UInt8} {packetid : UInt16}

/-! ### Messages -/

theorem publishLength_eq (packetid : UInt16) {qos : UInt8} {topicName : MQTTString} {payload : List UInt8} :
    MQTTSerialize.publishLength qos topicName payload.length =
      (writeCString topicName.text ++ ((if qos > 0 then writeInt packetid.toNat else []) ++ payload)).length := by
  simp only [MQTTSerialize.publishLength, List.length_append, length_writeCString]
  split
  · rw [length_writeInt]
    omega
  · simp only [List.length_nil]
    omega

theorem and_three {qos : UInt8} (h : qos < 4) : qos &&& 3 = qos := by
  have hlt : qos.toNat < 4 := h
  rw [← UInt8.toNat_inj, UInt8.toNat_and]
  exact (Nat.and_two_pow_sub_one_eq_mod qos.toNat 2).trans (Nat.mod_eq_of_lt hlt)

/-- A message comes with its topic, its payload and, when its quality is not zero, its identifier. -/
theorem publish_vuelta {dup qos retained : UInt8} {topicName : MQTTString} {payload : List UInt8}
    (hs : Escrita topicName) (hq : qos < 4) (hn : MQTTSerialize.publishLength qos topicName payload.length < 128 ^ 4)
    (h : MQTTSerialize.publish buflen dup qos retained packetid topicName payload = some bytes) (hat : At m 0 bytes) :
    MQTTDeserialize.publish m =
      (1, some ⟨dup &&& 1, qos, retained &&& 1, if qos > 0 then packetid else 0, { lenstring := some topicName.text },
        payload, payload.length⟩) := by
  unfold MQTTSerialize.publish at h
  split at h
  case isTrue => cases h
  cases h
  rw [publishLength_eq packetid] at hn hat
  rw [hs.write, List.append_assoc, List.append_assoc] at hat
  obtain ⟨h0, hdec, hbody⟩ := paquete_at hn hat
  generalize (encode _).length = rc at hdec hbody
  obtain ⟨htopic, hrest⟩ := at_append.mp hbody
  have hlen : (writeCString topicName.text ++ ((if qos > 0 then writeInt packetid.toNat else []) ++ payload)).length =
      (writeCString topicName.text).length + ((if qos > 0 then 2 else 0) + payload.length) := by
    rw [List.length_append, List.length_append]
    split <;> rfl
  rw [hlen] at hdec
  have hread := exact_readMQTTLenString.reads (e := 1 + rc + ((writeCString topicName.text).length +
    ((if qos > 0 then 2 else 0) + payload.length))) hs.corto htopic (by omega)
  unfold MQTTDeserialize.publish
  rw [h0, ofByte_byte]
  dsimp only
  rw [if_neg (by decide), hdec]
  dsimp only
  rw [hread]
  dsimp only
  rw [and_three hq]
  by_cases hpos : qos > 0
  case neg =>
    simp only [if_neg hpos]
    rw [if_neg hpos, List.nil_append] at hrest
    have hsub : 1 + rc + ((writeCString topicName.text).length + (0 + payload.length)) -
        (1 + rc + (writeCString topicName.text).length) = payload.length := by omega
    rw [hsub, lee_of_at hrest]
    simp only [Prod.mk.injEq, Option.some.injEq, MQTTDeserialize.Publish.mk.injEq, true_and]
    omega
  case pos =>
    simp only [if_pos hpos]
    rw [if_pos hpos, at_append, length_writeInt] at hrest
    have hsub : 1 + rc + ((writeCString topicName.text).length + (2 + payload.length)) -
        (1 + rc + (writeCString topicName.text).length + 2) = payload.length := by omega
    rw [hsub, lee_of_at hrest.2, readInt_eq hrest.1]
    simp only [Prod.mk.injEq, Option.some.injEq, MQTTDeserialize.Publish.mk.injEq, true_and]
    omega

theorem publish_vuelta_uno : ∃ m : Buffer,
    MQTTDeserialize.publish m = (1, some ⟨0, 1, 1, 9, { lenstring := some [97, 47, 98] }, [1, 0, 2], 3⟩) := by
  have hbytes : (MQTTSerialize.publish 100 0 1 1 9 { cstring := some [97, 47, 98] } [1, 0, 2]).isSome := by decide
  obtain ⟨bytes, h⟩ := Option.isSome_iff_exists.mp hbytes
  exact ⟨fun i => bytes.getD i 0, publish_vuelta ⟨by decide, by decide⟩ (by decide) (by decide) h at_getD⟩

/-! ### Answers -/

/-- A packet of two bytes. -/
theorem dos_at {header : MQTTHeader} {cuerpo : List UInt8} (hlen : cuerpo.length = 2)
    (h : At m 0 ([header.byte] ++ encode 2 ++ cuerpo)) : m 0 = header.byte ∧ decodeBuf m 1 = (1, 2) ∧
      At m 2 cuerpo := by
  rw [← hlen] at h
  have hat := paquete_at (by rw [hlen]; decide) h
  rwa [hlen] at hat

theorem ack_vuelta {packettype dup : UInt8} (h : MQTTSerialize.ack buflen packettype dup packetid = some bytes)
    (hat : At m 0 bytes) : MQTTDeserialize.ack m = (1, packettype &&& 15, dup &&& 1, some packetid) := by
  unfold MQTTSerialize.ack at h
  split at h
  case isTrue => cases h
  cases h
  obtain ⟨h0, hdec, hbody⟩ := dos_at length_writeInt hat
  unfold MQTTDeserialize.ack
  rw [h0, ofByte_byte, hdec]
  simp only [Nat.lt_irrefl, if_false, readInt_eq hbody]

theorem unsuback_vuelta (h : MQTTSerialize.unsuback buflen packetid = some bytes) (hat : At m 0 bytes) :
    MQTTDeserialize.unsuback m = (1, some packetid) := by
  unfold MQTTSerialize.unsuback at h
  split at h
  case isTrue => cases h
  cases h
  obtain ⟨h0, hdec, hbody⟩ := dos_at length_writeInt hat
  unfold MQTTDeserialize.unsuback MQTTDeserialize.ack
  rw [h0, ofByte_byte, hdec]
  simp only [Nat.lt_irrefl, if_false, readInt_eq hbody]
  rfl

theorem connack_vuelta {connackRc sessionPresent : UInt8}
    (h : MQTTSerialize.connack buflen connackRc sessionPresent = some bytes) (hat : At m 0 bytes) :
    MQTTDeserialize.connack m = (1, some (sessionPresent &&& 1, connackRc)) := by
  unfold MQTTSerialize.connack at h
  split at h
  case isTrue => cases h
  cases h
  obtain ⟨h0, hdec, hbody⟩ := dos_at rfl hat
  rw [at_cons, at_cons] at hbody
  have hbit : ((sessionPresent &&& 1) <<< 7) >>> 7 = sessionPresent &&& 1 := by
    apply octeto_ext <;> simp
  unfold MQTTDeserialize.connack
  rw [h0, ofByte_byte, hdec]
  dsimp only
  rw [if_neg (by decide), if_neg (Nat.lt_irrefl 2), hbody.1, hbody.2.1, hbit]

/-- The qualities stored: the first `maxcount + 1`. -/
theorem grantedQoSs_at {maxcount p : Nat} {qs granted : List UInt8} (h : At m p qs)
    (hle : granted.length ≤ maxcount + 1) : MQTTDeserialize.grantedQoSs m maxcount qs.length p granted =
      (if granted.length + qs.length ≤ maxcount + 1 then 1 else -1, (granted ++ qs).take (maxcount + 1)) := by
  induction qs generalizing p granted with
  | nil =>
    rw [List.length_nil, Nat.add_zero, if_pos hle, List.append_nil, List.take_of_length_le hle]
    rfl
  | cons q qs ih =>
    rw [at_cons] at h
    rw [List.length_cons, MQTTDeserialize.grantedQoSs, h.1]
    by_cases hfull : granted.length > maxcount
    · have heq : granted.length = maxcount + 1 := by omega
      rw [if_pos hfull, if_neg (by omega), List.take_append_of_le_length (by omega), List.take_of_length_le (by omega)]
    · rw [if_neg hfull, ih h.2 (by simp; omega)]
      simp only [List.length_append, List.length_singleton, List.append_assoc, List.singleton_append]
      congr 2
      rw [Nat.add_right_comm, Nat.add_assoc]

theorem suback_vuelta {maxcount : Nat} {grantedQoSs : List UInt8} (hn : 2 + grantedQoSs.length < 128 ^ 4)
    (h : MQTTSerialize.suback buflen packetid grantedQoSs = some bytes) (hat : At m 0 bytes) :
    MQTTDeserialize.suback m maxcount =
      (if grantedQoSs.length ≤ maxcount + 1 then 1 else -1, some (packetid, grantedQoSs.take (maxcount + 1))) := by
  unfold MQTTSerialize.suback at h
  split at h
  case isTrue => cases h
  cases h
  have hlen : (writeInt packetid.toNat ++ grantedQoSs).length = 2 + grantedQoSs.length := by
    rw [List.length_append, length_writeInt]
  rw [List.append_assoc, ← hlen] at hat
  obtain ⟨h0, hdec, hbody⟩ := paquete_at (by rwa [hlen]) hat
  rw [hlen] at hdec hbody
  rw [at_append, length_writeInt] at hbody
  generalize (encode _).length = rc at hdec hbody
  unfold MQTTDeserialize.suback
  rw [h0, ofByte_byte]
  dsimp only
  rw [if_neg (by decide), hdec]
  dsimp only
  rw [if_neg (by omega), Nat.add_sub_cancel_left, grantedQoSs_at hbody.2 (Nat.zero_le _), readInt_eq hbody.1]
  simp

/-- The client has of every answer of the server what the server has put, and the server of the client's, but of a
SUBACK that grants more than `maxcount` qualities: one more than there is room for. -/
theorem respuestas_vuelta (hat : At m 0 bytes) :
    (∀ packettype dup, MQTTSerialize.ack buflen packettype dup packetid = some bytes →
      MQTTDeserialize.ack m = (1, packettype &&& 15, dup &&& 1, some packetid)) ∧
    (∀ connackRc sessionPresent, MQTTSerialize.connack buflen connackRc sessionPresent = some bytes →
      MQTTDeserialize.connack m = (1, some (sessionPresent &&& 1, connackRc))) ∧
    (MQTTSerialize.unsuback buflen packetid = some bytes → MQTTDeserialize.unsuback m = (1, some packetid)) ∧
    (∀ maxcount grantedQoSs, MQTTSerialize.suback buflen packetid grantedQoSs = some bytes →
      2 + grantedQoSs.length < 128 ^ 4 → MQTTDeserialize.suback m maxcount =
        (if grantedQoSs.length ≤ maxcount + 1 then 1 else -1, some (packetid, grantedQoSs.take (maxcount + 1)))) :=
  ⟨fun _ _ h => ack_vuelta h hat, fun _ _ h => connack_vuelta h hat, fun h => unsuback_vuelta h hat,
    fun _ _ h hn => suback_vuelta hn h hat⟩

/-- Three qualities for an array of one: two are stored. -/
theorem respuestas_vuelta_tres : ∃ m : Buffer, MQTTDeserialize.suback m 1 = (-1, some (9, [0, 1])) := by
  have hbytes : (MQTTSerialize.suback 100 9 [0, 1, 2]).isSome := by decide
  obtain ⟨bytes, h⟩ := Option.isSome_iff_exists.mp hbytes
  exact ⟨fun i => bytes.getD i 0, (respuestas_vuelta at_getD).2.2.2 1 _ h (by decide)⟩

/-! ### Room -/

end Wiznet
