import Wiznet.Mqtt.Ajena

/-!
# What the client knows of its connection

`vista` is the part of the state the subscriptions depend on: whether the client is connected, its table of handlers
and the answers of the broker.  Only `MQTTClientInit`, `MQTTConnect` and `MQTTSubscribe` change it; all the rest of the
client, and whatever goes on below it, leaves it alone.
-/

namespace Wiznet

open Stateful

variable {W : Type} [Puerto W] {α : Type}

@[ext]
structure Vista (W : Type) [Puerto W] where
  isconnected : Int
  messageHandlers : TablaHandlers W
  sucesos : List Suceso

def vista (s : Sistema W) : Vista W := ⟨s.client.isconnected, s.client.messageHandlers, s.sucesos⟩

theorem keeps_llama (f : W → α × W) : Keeps vista (llama f) := keeps_modifyGet fun _ => rfl

theorem keeps_puerto (x : EStateM Parada W α) : Keeps vista (puerto x) :=
  (intact_puerto_cliente (fun _ _ => rfl) x).keeps

theorem keeps_modificaCliente {f : MQTTClient W → MQTTClient W} (hc : ∀ c, (f c).isconnected = c.isconnected)
    (hm : ∀ c, (f c).messageHandlers = c.messageHandlers) : Keeps vista (modificaCliente f) := by
  refine keeps_modify fun s => ?_
  simp only [vista, hc, hm]

theorem ajena_vista : AjenaCliente (vista (W := W)) where
  toAjena := ajena_cliente (fun _ _ => rfl) (fun _ _ => rfl) fun _ _ => rfl
  mqttread _ _ := intact_puerto_cliente (fun _ _ => rfl) _
  readbuf _ _ := rfl
  messageHandler _ _ := intact_puerto_cliente (fun _ _ => rfl) _
  pingOutstanding _ _ := rfl
  nextPacketid _ _ := rfl
  keepAliveInterval _ _ := rfl

theorem keeps_serializa (packet : Option (List UInt8)) : Keeps vista (serializa (W := W) packet) :=
  (MQTT.intact_serializa ajena_vista.toAjena packet).keeps

namespace MQTT

theorem keeps_getNextPacketId : Keeps vista (getNextPacketId (W := W)) := (intact_getNextPacketId ajena_vista).keeps

theorem keeps_sendPacket (fuel length : Nat) (timer : Puerto.Timer W) :
    Keeps vista (sendPacket fuel length timer) := (intact_sendPacket ajena_vista.toAjena _ _ _).keeps

theorem keeps_yield (fuel : Nat) (timeoutMs : UInt32) : Keeps vista (yield (W := W) fuel timeoutMs) :=
  (intact_yield ajena_vista _ _).keeps

theorem keeps_waitRest (fuel : Nat) (packetType : Int) (timer : Puerto.Timer W) (n : Nat) (rc : Int) :
    Keeps vista (waitRest fuel packetType timer n rc) := (intact_waitRest ajena_vista _ _ _ _ _).keeps

theorem keeps_publish (fuel : Nat) (topicName : List UInt8) (message : MQTTMessage) :
    Keeps vista (publish (W := W) fuel topicName message) := (intact_publish ajena_vista _ _ _).keeps

end MQTT

/-! ### The table of handlers -/

namespace TablaHandlers

variable {t t' : TablaHandlers W} {topicFilter : List UInt8} {fp : Option (Puerto.Handler W)}

theorem topicFilter_vacia {h : MessageHandlers W} (hh : h ∈ t.vacia.entradas) : h.topicFilter = none := by
  obtain ⟨a, -, rfl⟩ := List.mem_map.mp hh
  rfl

theorem mem_ocupa {hs hs' : List (MessageHandlers W)} (h : ocupa topicFilter fp hs = some hs') :
    ⟨some topicFilter, fp⟩ ∈ hs' := by
  induction hs generalizing hs' with
  | nil => cases h
  | cons a hs ih =>
    unfold ocupa at h
    split at h
    · cases h
      exact List.mem_cons_self
    · obtain ⟨r, hr, rfl⟩ := Option.map_eq_some_iff.mp h
      exact List.mem_cons_of_mem _ (ih hr)

theorem mem_registra (h : t.registra topicFilter fp = some t') : ⟨some topicFilter, fp⟩ ∈ t'.entradas := by
  unfold registra at h
  split at h
  · cases h
  · rename_i entradas hr
    cases h
    exact mem_ocupa hr

/-- An empty table has room. -/
theorem registra_vacia (t : TablaHandlers W) (topicFilter : List UInt8) (fp : Option (Puerto.Handler W)) :
    ∃ t', t.vacia.registra topicFilter fp = some t' := by
  have hpos : 0 < t.vacia.entradas.length := by
    rw [t.vacia.lleva]
    decide
  obtain ⟨a, hs, hcons⟩ := List.exists_cons_of_length_pos hpos
  have ha : a.topicFilter = none := topicFilter_vacia (t := t) (by rw [hcons]; exact List.mem_cons_self)
  have hocupa : ocupa topicFilter fp t.vacia.entradas = some (⟨some topicFilter, fp⟩ :: hs) := by
    rw [hcons, ocupa, ha]
    rfl
  unfold registra
  split
  · rename_i hnone
    rw [hocupa] at hnone
    cases hnone
  · exact ⟨_, rfl⟩

end TablaHandlers

/-! ### The calls that change it -/

/-- A CONNECT without an answer, or with one. -/
def Contesta (v : Vista W) (rc : Int) (v' : Vista W) : Prop :=
  (rc ≠ SUCCESSS ∧ v' = v) ∨ ∃ c : UInt8, rc = c.toNat ∧ v' = { v with sucesos := .connack c :: v.sucesos }

/-- A connection not made or made, after which the client knows which. -/
inductive Conecta (v v' : Vista W) : Prop where
  | callado (hc : v'.isconnected = 0) (hs : v'.sucesos = v.sucesos)
  | rechazado (c : UInt8) (hne : c ≠ 0) (hc : v'.isconnected = 0) (hs : v'.sucesos = .connack c :: v.sucesos)
  | aceptado (hc : v'.isconnected = 1) (hs : v'.sucesos = .connack 0 :: v.sucesos)

/-- A SUBSCRIBE without an answer or with one; unless the answer is a refusal the handler takes a free entry. -/
inductive Suscribe (topicFilter : List UInt8) (fp : Puerto.Handler W) (v v' : Vista W) : Prop where
  | callado (hc : v'.isconnected = v.isconnected) (hs : v'.sucesos = v.sucesos)
  | contestado (enviado recibido : UInt16) (q : Int) (hc : v'.isconnected = v.isconnected)
      (hs : v'.sucesos = .suback topicFilter enviado recibido q :: v.sucesos)
      (hm : q ≠ 0x80 → v'.messageHandlers = (v.messageHandlers.registra topicFilter (some fp)).getD v.messageHandlers)

namespace MQTT

theorem leads_clientInit (commandTimeoutMs : UInt32) (sendbufSize readbufSize : Nat) :
    Leads vista (fun v _ v' => v' = ⟨0, v.messageHandlers.vacia, v.sucesos⟩)
      (clientInit (W := W) commandTimeoutMs sendbufSize readbufSize) :=
  leads_modify fun _ => rfl

theorem leads_leeConnack : Leads vista Contesta (leeConnack (W := W)) := by
  have hfallo : ∀ rc : Int, rc ≠ SUCCESSS → Leads vista Contesta (pure rc : MqttM W Int) :=
    fun rc h => leads_pure fun _ => .inl ⟨h, rfl⟩
  refine Keeps.bind_leads keeps_get fun s => leads_ite (fun _ => ?_) fun _ => hfallo _ (by decide)
  split
  · rename_i connackRc _
    intro s a s' h
    cases h
    exact .inr ⟨connackRc, rfl, rfl⟩
  · exact hfallo _ (by decide)

theorem leads_connectRc (fuel : Nat) (options : MQTTPacketConnectData) :
    Leads vista Contesta (connectRc (W := W) fuel options) := by
  have hfallo : Leads vista Contesta (pure FAILURE : MqttM W Int) := leads_pure fun _ => .inl ⟨by decide, rfl⟩
  refine Keeps.bind_leads keeps_get fun s => leads_ite (fun _ => hfallo) fun _ => ?_
  refine (keeps_llama _).bind_leads fun connectTimer => ?_
  refine Keeps.bind_leads (keeps_modificaCliente (fun _ => rfl) fun _ => rfl) fun _ => ?_
  refine (keeps_llama _).bind_leads fun pingTimer => ?_
  refine Keeps.bind_leads (keeps_modificaCliente (fun _ => rfl) fun _ => rfl) fun _ => ?_
  refine (keeps_serializa _).bind_leads fun len => leads_ite (fun _ => hfallo) fun _ => ?_
  refine (keeps_sendPacket _ _ _).bind_leads fun rc => leads_ite (fun hrc => ?_) fun _ => ?_
  · exact leads_pure fun _ => .inl ⟨hrc, rfl⟩
  · refine (keeps_waitRest _ _ _ _ _).bind_leads fun rc => ?_
    exact leads_ite (fun _ => leads_leeConnack) fun _ => hfallo

theorem leads_connect (fuel : Nat) (options : MQTTPacketConnectData) :
    Leads vista (fun v _ v' => Conecta v v' ∧ v'.messageHandlers = v.messageHandlers)
      (connect (W := W) fuel options) := by
  refine (leads_connectRc fuel options).bind (T := fun rc v _ v' =>
    v' = { v with isconnected := if rc = SUCCESSS then 1 else 0 }) (fun rc => ?_) ?_
  · intro s a s' h
    cases h
    rfl
  · rintro v rc v' _ _ (⟨hrc, rfl⟩ | ⟨c, rfl, rfl⟩) rfl
    · exact ⟨.callado (if_neg hrc) rfl, rfl⟩
    · by_cases hc : c = 0
      · subst hc
        exact ⟨.aceptado rfl rfl, rfl⟩
      · have hne : (c.toNat : Int) ≠ SUCCESSS := fun h => hc (UInt8.toNat_inj.mp (Int.natCast_eq_zero.mp h))
        exact ⟨.rechazado c hc (if_neg hne) rfl, rfl⟩

theorem leads_leeSuback (topicFilter : List UInt8) (packetid : UInt16) :
    Leads vista (fun v rc v' => v' = v ∨ ∃ recibido q,
      v' = { v with sucesos := .suback topicFilter packetid recibido q :: v.sucesos } ∧ (q ≠ 0x80 → rc ≠ 0x80))
      (leeSuback (W := W) topicFilter packetid) := by
  refine Keeps.bind_leads keeps_get fun s => ?_
  rcases MQTTDeserialize.suback s.readbuf 1 with ⟨code, _ | ⟨mypacketid, granted⟩⟩
  · exact leads_ite (fun _ => leads_pure fun _ => .inl rfl) fun _ => leads_pure fun _ => .inl rfl
  · refine leads_ite (fun _ => leads_throw _) fun _ => ?_
    intro s a s' h
    obtain ⟨_, _, h1, h⟩ := ok_of_bind h
    cases h1
    split at h
    · cases h
      exact .inr ⟨_, _, rfl, id⟩
    · cases h
      exact .inr ⟨_, _, rfl, fun _ => by decide⟩

theorem leads_registraHandler (topicFilter : List UInt8) (fp : Puerto.Handler W) (rc : Int) :
    Leads vista (fun v _ v' => v'.isconnected = v.isconnected ∧ v'.sucesos = v.sucesos ∧
      (rc ≠ 0x80 → v'.messageHandlers = (v.messageHandlers.registra topicFilter (some fp)).getD v.messageHandlers))
      (registraHandler topicFilter fp rc) := by
  refine leads_ite (fun _ => ?_) fun hrc => leads_pure fun _ => ⟨rfl, rfl, fun h => absurd h hrc⟩
  intro s a s' h
  obtain ⟨_, _, h1, h⟩ := ok_of_bind h
  cases h1
  cases hr : s.client.messageHandlers.registra topicFilter (some fp) with
  | none =>
    rw [hr] at h
    cases h
    exact ⟨rfl, rfl, fun _ => by simp [vista, hr]⟩
  | some t =>
    rw [hr] at h
    cases h
    exact ⟨rfl, rfl, fun _ => by simp [vista, hr]⟩

theorem leads_subscribe (fuel : Nat) (topicFilter : List UInt8) (qos : UInt8) (fp : Puerto.Handler W) :
    Leads vista (fun v _ v' => Suscribe topicFilter fp v v') (subscribe fuel topicFilter qos fp) := by
  have hcallado : ∀ rc : Int, Leads vista (fun v _ v' => Suscribe topicFilter fp v v') (pure rc : MqttM W Int) :=
    fun rc => leads_pure fun _ => .callado rfl rfl
  refine Keeps.bind_leads keeps_get fun s => leads_ite (fun _ => hcallado _) fun _ => ?_
  refine (keeps_llama _).bind_leads fun timer => keeps_getNextPacketId.bind_leads fun packetid => ?_
  refine (keeps_serializa _).bind_leads fun len => leads_ite (fun _ => hcallado _) fun _ => ?_
  refine (keeps_sendPacket _ _ _).bind_leads fun rc => leads_ite (fun _ => hcallado _) fun _ => ?_
  refine (keeps_waitRest _ _ _ _ _).bind_leads fun rc => leads_ite (fun _ => ?_) fun _ => hcallado _
  refine (leads_leeSuback _ _).bind (fun rc => leads_registraHandler _ _ rc) ?_
  rintro v rc v' _ v'' (rfl | ⟨recibido, q, rfl, hq⟩) ⟨hc, hs, hm⟩
  · exact .callado hc hs
  · exact .contestado _ recibido q hc hs fun h => hm (hq h)

end MQTT

end Wiznet
