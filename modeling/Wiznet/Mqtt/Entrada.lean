import Wiznet.Mqtt.Vuelta

/-!
# The CONNECT that the server reads

A CONNECT is accepted when a password comes with a user name, and is not empty, and when the user name is not the last
string and empty; then the server has what the client has given, and what it had before where the client gives nothing.
-/

namespace Wiznet

open Wire MQTTPacket MQTTDeserialize

variable {m : Buffer} {p e : Nat} {options data : MQTTPacketConnectData} {flags : MQTTConnectFlags}

/-- A string that is written only when it is there. -/
def opcional (presente : Bool) (s : MQTTString) : List UInt8 := if presente then writeCString s.text else []

/-- Options whose strings are measured as they are written. -/
structure MQTTPacketConnectData.Cadenas (options : MQTTPacketConnectData) : Prop where
  clientID : Escrita options.clientID
  topicName : Escrita options.will.topicName
  message : Escrita options.will.message
  username : Escrita options.username
  password : Escrita options.password

/-- Options that are measured as they are written: with another version the protocol's name is written and not
measured. -/
structure MQTTPacketConnectData.Escritas (options : MQTTPacketConnectData) : Prop extends options.Cadenas where
  version : options.MQTTVersion = 3 ∨ options.MQTTVersion = 4

/-- The options that the server accepts. -/
def MQTTPacketConnectData.Admitida (options : MQTTPacketConnectData) : Prop :=
  (options.password.presente → options.username.presente ∧ options.password.text ≠ []) ∧
    (options.username.presente → options.username.text ≠ [] ∨ options.password.presente)

instance : Decidable options.Admitida := inferInstanceAs (Decidable (_ ∧ _))

/-- What the server makes of its `data` with each part of the options.  A password, a user name and the texts of a will
that are not given leave those it had. -/
def conPassword (options data : MQTTPacketConnectData) : MQTTPacketConnectData :=
  if options.password.presente then { data with password := { lenstring := some options.password.text } } else data

def conUsername (options data : MQTTPacketConnectData) : MQTTPacketConnectData :=
  if options.username.presente then { data with username := { lenstring := some options.username.text } } else data

def conWill (options data : MQTTPacketConnectData) : MQTTPacketConnectData :=
  if options.willFlag ≠ 0 then
    { data with
      willFlag := 1
      will := {
        topicName := { lenstring := some options.will.topicName.text }
        message := { lenstring := some options.will.message.text }
        retained := options.will.retained &&& 1
        qos := options.will.qos &&& 3 } }
  else { data with willFlag := 0 }

/-- The version stays as it was, and of `cleansession` there is one bit. -/
def recibida (options data : MQTTPacketConnectData) : MQTTPacketConnectData :=
  conPassword options <| conUsername options <| conWill options
    { data with
      cleansession := options.cleansession &&& 1
      keepAliveInterval := options.keepAliveInterval
      clientID := { lenstring := some options.clientID.text } }

/-- Accepted under a condition, and then with these data. -/
def Resulta (r : Nat × MQTTPacketConnectData) (P : Prop) (data : MQTTPacketConnectData) : Prop :=
  (P → r = (1, data)) ∧ (¬ P → r.1 = 0)

theorem resulta_fin {P : Prop} (h : P) : Resulta (1, data) P data := ⟨fun _ => rfl, fun hno => absurd h hno⟩

theorem resulta_falla {P : Prop} {data' : MQTTPacketConnectData} (h : ¬ P) : Resulta (0, data') P data :=
  ⟨fun hp => absurd hp h, fun _ => rfl⟩

theorem Resulta.of_iff {r : Nat × MQTTPacketConnectData} {P Q : Prop} (h : Resulta r P data) (hPQ : P ↔ Q) :
    Resulta r Q data := by
  rwa [← propext hPQ]

theorem length_pos_iff_ne_nil {bs : List UInt8} : 0 < bs.length ↔ bs ≠ [] := List.length_pos_iff

theorem connectPassword_at (data : MQTTPacketConnectData) (hs : options.password.text.length < 65536)
    (hf : flags.password = if options.password.presente then 1 else 0)
    (hat : At m p (opcional options.password.presente options.password))
    (he : p + (opcional options.password.presente options.password).length = e) :
    Resulta (connectPassword flags data m p e) (options.password.presente → options.password.text ≠ [])
      (conPassword options data) := by
  unfold connectPassword conPassword opcional at *
  cases hp : options.password.presente with
  | false =>
    rw [hf, hp]
    exact resulta_fin (by simp)
  | true =>
    simp only [hp, if_true] at hf hat he ⊢
    rw [hf, if_pos (by decide)]
    rw [length_writeCString] at he
    by_cases hnil : options.password.text = []
    · rw [hnil, List.length_nil] at he
      rw [if_pos (by omega)]
      exact resulta_falla (by simp [hnil])
    · have hpos := length_pos_iff_ne_nil.mpr hnil
      rw [if_neg (by omega), exact_readMQTTLenString.reads hs hat (by rw [length_writeCString]; omega)]
      exact resulta_fin fun _ => hnil

theorem connectUsername_at (data : MQTTPacketConnectData) (hu : options.username.text.length < 65536)
    (hp : options.password.text.length < 65536) (hfu : flags.username = if options.username.presente then 1 else 0)
    (hfp : flags.password = if options.password.presente then 1 else 0)
    (hat : At m p (opcional options.username.presente options.username ++
      opcional options.password.presente options.password))
    (he : p + (opcional options.username.presente options.username ++
      opcional options.password.presente options.password).length = e) :
    Resulta (connectUsername flags data m p e) options.Admitida (conPassword options (conUsername options data)) := by
  rw [at_append] at hat
  rw [List.length_append, ← Nat.add_assoc] at he
  unfold connectUsername conUsername MQTTPacketConnectData.Admitida
  cases hpu : options.username.presente with
  | false =>
    rw [hfu, hpu, if_neg (by simp)]
    cases hpp : options.password.presente with
    | false =>
      rw [hfp, hpp, conPassword, hpp, if_neg (by simp)]
      exact resulta_fin (by simp)
    | true =>
      rw [hfp, hpp, if_pos (by decide)]
      exact resulta_falla (by simp)
  | true =>
    have huser : opcional true options.username = writeCString options.username.text := rfl
    rw [hpu, huser] at hat he
    rw [hfu, hpu, if_pos (by decide), if_pos rfl]
    rw [length_writeCString] at hat he
    have hend : p + (writeCString options.username.text).length ≤ e := by
      rw [length_writeCString]
      omega
    have hread := exact_readMQTTLenString.reads hu hat.1 hend
    rw [length_writeCString] at hread
    have hnext := connectPassword_at { data with username := { lenstring := some options.username.text } } hp
      hfp hat.2 he
    rw [hread]
    by_cases hlast : options.username.text = [] ∧ options.password.presente = false
    · obtain ⟨hnil, hpp⟩ := hlast
      have hshort : e < p + 3 := by
        rw [hnil, hpp] at he
        simp only [opcional, List.length_nil, Bool.false_eq_true, if_false] at he
        omega
      rw [if_pos hshort]
      exact resulta_falla (by simp [hnil, hpp])
    · have hlong : ¬ e < p + 3 := by
        cases hpp : options.password.presente with
        | false =>
          have hpos := length_pos_iff_ne_nil.mpr fun hnil => hlast ⟨hnil, hpp⟩
          omega
        | true =>
          rw [hpp, opcional, if_pos rfl, length_writeCString] at he
          omega
      rw [if_neg hlong]
      refine hnext.of_iff ⟨fun h => ⟨fun hpp => ⟨rfl, h hpp⟩, fun _ => ?_⟩, fun h hpp => (h.1 hpp).2⟩
      by_cases hnil : options.username.text = []
      · exact .inr (by simpa [hnil] using hlast)
      · exact .inl hnil

/-- The will, as it is written. -/
def voluntad (options : MQTTPacketConnectData) : List UInt8 :=
  if options.willFlag ≠ 0 then writeCString options.will.topicName.text ++
    writeCString options.will.message.text else []

/-- The user name and the password, as they are written. -/
def credenciales (options : MQTTPacketConnectData) : List UInt8 :=
  opcional options.username.presente options.username ++ opcional options.password.presente options.password

theorem connectWill_at (data : MQTTPacketConnectData) (h : options.Escritas)
    (hf : flags = MQTTConnectFlags.ofByte (MQTTSerialize.connectFlags options))
    (hat : At m p (voluntad options ++ credenciales options))
    (he : p + (voluntad options ++ credenciales options).length = e) :
    Resulta (connectWill flags data m p e) options.Admitida
      (conPassword options (conUsername options (conWill options data))) := by
  rw [ofByte_connectFlags] at hf
  subst hf
  rw [at_append] at hat
  rw [List.length_append, ← Nat.add_assoc] at he
  unfold connectWill conWill
  by_cases hw : options.willFlag ≠ 0
  case neg =>
    rw [voluntad, if_neg hw] at hat he
    simp only [hw, if_false]
    exact connectUsername_at _ h.username.corto h.password.corto rfl rfl hat.2 he
  case pos =>
    rw [voluntad, if_pos hw] at hat he
    rw [at_append] at hat
    rw [List.length_append, ← Nat.add_assoc] at hat he
    have htopic := exact_readMQTTLenString.reads (e := e) h.topicName.corto hat.1.1 (by omega)
    have hmessage := exact_readMQTTLenString.reads (e := e) h.message.corto hat.1.2 (by omega)
    simp only [if_pos hw]
    rw [if_pos (by decide), htopic]
    dsimp only
    rw [hmessage]
    exact connectUsername_at _ h.username.corto h.password.corto rfl rfl hat.2 he

/-- The protocol's name and version, as they are written. -/
def protocolo (options : MQTTPacketConnectData) : List UInt8 :=
  if options.MQTTVersion = 4 then writeCString (literal ['M', 'Q', 'T', 'T']) ++ [4]
  else writeCString (literal ['M', 'Q', 'I', 's', 'd', 'p']) ++ [3]

/-- The packet after its remaining length. -/
def cuerpoConnect (options : MQTTPacketConnectData) : List UInt8 :=
  protocolo options ++ ([MQTTSerialize.connectFlags options] ++ (writeInt options.keepAliveInterval.toNat ++
    (writeCString options.clientID.text ++ (voluntad options ++ credenciales options))))

theorem length_opcional (presente : Bool) (s : MQTTString) :
    (opcional presente s).length = if presente then s.text.length + 2 else 0 := by
  cases presente with
  | false => rfl
  | true => exact length_writeCString

/-- What the measure has for the protocol, its version, the flags and the interval. -/
def medidaProtocolo (options : MQTTPacketConnectData) : Nat :=
  if options.MQTTVersion = 3 then 12 else if options.MQTTVersion = 4 then 10 else 0

theorem length_protocolo (h : options.MQTTVersion = 3 ∨ options.MQTTVersion = 4) :
    (protocolo options).length + 3 = medidaProtocolo options := by
  unfold protocolo medidaProtocolo
  rcases h with h | h <;> rw [h] <;> rfl

theorem length_cuerpoConnect (options : MQTTPacketConnectData) :
    (cuerpoConnect options).length + medidaProtocolo options =
    MQTTSerialize.connectLength options + ((protocolo options).length + 3) := by
  have hvol : (voluntad options).length = if options.willFlag ≠ 0 then
      options.will.topicName.text.length + 2 + options.will.message.text.length + 2 else 0 := by
    unfold voluntad
    split
    · rw [List.length_append, length_writeCString, length_writeCString]
      omega
    · rfl
  have hcred : (credenciales options).length =
      (if options.username.presente then options.username.text.length + 2 else 0) +
        if options.password.presente then options.password.text.length + 2 else 0 := by
    rw [credenciales, List.length_append, length_opcional, length_opcional]
  unfold medidaProtocolo
  simp only [MQTTSerialize.connectLength, cuerpoConnect, List.length_append, ← hvol, hcred, length_writeCString,
    length_writeInt, List.length_singleton]
  omega

theorem connectLength_eq (h : options.MQTTVersion = 3 ∨ options.MQTTVersion = 4) :
    MQTTSerialize.connectLength options = (cuerpoConnect options).length := by
  have := length_cuerpoConnect options
  have := length_protocolo h
  omega

theorem connect_cuerpo {buflen : Nat} {bytes : List UInt8} (h : options.Cadenas)
    (hs : MQTTSerialize.connect buflen options = some bytes) :
    bytes = [MQTTHeader.byte ⟨CONNECT, 0, 0, 0⟩] ++ encode (MQTTSerialize.connectLength options) ++
      cuerpoConnect options := by
  unfold MQTTSerialize.connect at hs
  split at hs
  case isTrue => cases hs
  rw [h.clientID.write, h.topicName.write, h.message.write, h.username.write, h.password.write] at hs
  cases hs
  simp only [cuerpoConnect, protocolo, voluntad, credenciales, opcional, List.append_assoc]

theorem protocolo_eq (h : options.MQTTVersion = 3 ∨ options.MQTTVersion = 4) :
    ∃ protocol version, protocolo options = writeCString protocol ++ [version] ∧ protocol.length < 65536 ∧
      checkVersion protocol version = true := by
  unfold protocolo
  rcases h with h | h <;> rw [h]
  · exact ⟨_, _, rfl, by decide, by decide⟩
  · exact ⟨_, _, rfl, by decide, by decide⟩

/-- The server accepts a CONNECT of the client exactly when its options are such that it can, and then has all those
that are given. -/
theorem connect_vuelta {buflen : Nat} {bytes : List UInt8} (h : options.Escritas)
    (hn : MQTTSerialize.connectLength options < 128 ^ 4) (hs : MQTTSerialize.connect buflen options = some bytes)
    (hat : At m 0 bytes) :
    Resulta (MQTTDeserialize.connect data m bytes.length) options.Admitida (recibida options data) := by
  have hbytes := connect_cuerpo h.toCadenas hs
  rw [connectLength_eq h.version] at hn hbytes
  rw [hbytes] at hat
  obtain ⟨h0, hdec, hbody⟩ := paquete_at hn hat
  have hend : 1 + (encode (cuerpoConnect options).length).length + (cuerpoConnect options).length = bytes.length := by
    rw [hbytes, List.length_append, List.length_append, List.length_singleton]
  obtain ⟨protocol, version, hprot, hcorto, hversion⟩ := protocolo_eq h.version
  generalize (encode (cuerpoConnect options).length).length = rc at hdec hbody hend
  rw [cuerpoConnect, hprot, List.append_assoc] at hbody hend
  simp only [List.length_append, length_writeInt, List.length_singleton] at hend
  obtain ⟨hname, hbody⟩ := at_append.mp hbody
  have hread := exact_readMQTTLenString.reads (e := bytes.length) hcorto hname (by omega)
  obtain ⟨q, hq⟩ : ∃ q, 1 + rc + (writeCString protocol).length = q := ⟨_, rfl⟩
  rw [hq] at hread hbody
  rw [List.singleton_append, List.singleton_append, at_cons, at_cons, at_append, at_append, length_writeInt] at hbody
  obtain ⟨hv, hflags, hkeep, hid, hrest⟩ := hbody
  have hclient := exact_readMQTTLenString.reads (e := bytes.length) h.clientID.corto hid (by omega)
  have hfin : q + 1 + 1 + 2 + (writeCString options.clientID.text).length +
      (voluntad options ++ credenciales options).length = bytes.length := by
    rw [List.length_append]
    omega
  unfold MQTTDeserialize.connect
  rw [h0, ofByte_byte, hdec, if_neg (by decide)]
  dsimp only
  rw [hread]
  dsimp only
  rw [hv, if_pos hversion, hflags, hclient]
  dsimp only
  rw [show readInt m (q + 2) = _ from readInt_eq hkeep]
  have hwill := fun data => connectWill_at data h rfl hrest hfin
  rw [ofByte_connectFlags] at hwill ⊢
  exact hwill _

/-- A client with a will that gives a user name and a password. -/
def opciones : MQTTPacketConnectData where
  clientID := { cstring := some (literal ['p', 'o', 'z', 'o']) }
  willFlag := 1
  will :=
    { topicName := { cstring := some (literal ['f', 'i', 'n']) }, message := { lenstring := some [1, 0, 2] }, qos := 1 }
  username := { cstring := some (literal ['j']) }
  password := { lenstring := some [7, 7] }

theorem escritas_opciones : opciones.Escritas where
  version := .inr rfl
  clientID := ⟨by decide, by decide⟩
  topicName := ⟨by decide, by decide⟩
  message := ⟨by decide, by decide⟩
  username := ⟨by decide, by decide⟩
  password := ⟨by decide, by decide⟩

theorem connect_vuelta_opciones : ∃ m : Buffer,
    Resulta (MQTTDeserialize.connect {} m 35) opciones.Admitida (recibida opciones {}) := by
  have hbytes : (MQTTSerialize.connect 100 opciones).map List.length = some 35 := by decide
  obtain ⟨bytes, hs, hlen⟩ := Option.map_eq_some_iff.mp hbytes
  rw [← hlen]
  exact ⟨fun i => bytes.getD i 0, connect_vuelta escritas_opciones (by decide) hs at_getD⟩

end Wiznet
