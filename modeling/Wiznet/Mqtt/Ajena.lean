import Wiznet.Library.Stateful
import Wiznet.Mqtt.Client

/-!
# What the client has no business with

Parts of the state that the functions of the client leave alone, whatever comes of them, as long as the platform does:
`Ajena` for what a sender has to do with, `AjenaLectura` for a reader too, `AjenaReparto` for the delivery of a message,
`AjenaPing` for the keep-alive, `AjenaCliente` for all the client does between one connection and the next, and
`AjenaConexion` and `AjenaSuscripcion` for connecting and subscribing too.
-/

namespace Wiznet

open Stateful Puerto

variable {W : Type} [Puerto W] {γ : Type}

/-- Neither the timers nor what goes out have to do with this part of the state. -/
structure Ajena (v : Sistema W → γ) : Prop where
  timerIsExpired : ∀ timer, Intact v (llama (timerIsExpired timer))
  timerCountdownMS : ∀ n, Intact v (llama (timerCountdownMS n))
  timerCountdown : ∀ n, Intact v (llama (timerCountdown n))
  timerLeftMS : ∀ timer, Intact v (llama (timerLeftMS timer))
  mqttwrite : ∀ bs left, Intact v (puerto (mqttwrite bs left))
  buf : ∀ s b, v { s with buf := b } = v s
  pingTimer : ∀ s t, v { s with client := { s.client with pingTimer := t } } = v s

/-- Nor does what comes in. -/
structure AjenaLectura (v : Sistema W → γ) : Prop extends Ajena v where
  mqttread : ∀ n left, Intact v (puerto (mqttread n left))
  readbuf : ∀ s b, v { s with readbuf := b } = v s

/-- Nor, what comes in apart, do the handlers. -/
structure AjenaReparto (v : Sistema W → γ) : Prop extends Ajena v where
  messageHandler : ∀ h md, Intact v (puerto (messageHandler h md))

/-- Nor, what comes in and the handlers apart, does the keep-alive. -/
structure AjenaPing (v : Sistema W → γ) : Prop extends Ajena v where
  pingOutstanding : ∀ s n, v { s with client := { s.client with pingOutstanding := n } } = v s

/-- Nor do all these or the client's own accounts. -/
structure AjenaCliente (v : Sistema W → γ) : Prop extends AjenaLectura v, AjenaReparto v, AjenaPing v where
  nextPacketid : ∀ s n, v { s with client := { s.client with nextPacketid := n } } = v s
  keepAliveInterval : ∀ s n, v { s with client := { s.client with keepAliveInterval := n } } = v s

/-- Nor does what the broker answers. -/
structure AjenaConexion (v : Sistema W → γ) : Prop extends AjenaCliente v where
  isconnected : ∀ s n, v { s with client := { s.client with isconnected := n } } = v s
  sucesos : ∀ s l, v { s with sucesos := l } = v s

/-- Nor does the table of handlers. -/
structure AjenaSuscripcion (v : Sistema W → γ) : Prop extends AjenaConexion v where
  messageHandlers : ∀ s t, v { s with client := { s.client with messageHandlers := t } } = v s

section Cliente

variable {v : Sistema W → γ} (h : ∀ s w, v { s with mundo := w } = v s)
include h

theorem intact_llama_cliente {α : Type} (f : W → α × W) : Intact v (llama f) := intact_modifyGet fun s => h s _

theorem intact_puerto_cliente {α : Type} (x : EStateM Parada W α) : Intact v (puerto x) := by
  intro s
  unfold puerto
  split
  · exact h s _
  · exact h s _

/-- What the platform cannot change. -/
theorem ajena_cliente (hbuf : ∀ s b, v { s with buf := b } = v s)
    (hping : ∀ s t, v { s with client := { s.client with pingTimer := t } } = v s) : Ajena v where
  timerIsExpired _ := intact_llama_cliente h _
  timerCountdownMS _ := intact_llama_cliente h _
  timerCountdown _ := intact_llama_cliente h _
  timerLeftMS _ := intact_llama_cliente h _
  mqttwrite _ _ := intact_puerto_cliente h _
  buf := hbuf
  pingTimer := hping

end Cliente

namespace MQTT

/-- `cycle` with the packet dealt with. -/
def cycleFin (fuel : Nat) (packetType : Int) (x : Int × Bool) : MqttM W Int := do
  if x.2 then
    let _ ← keepalive fuel
  if x.1 = SUCCESSS then return packetType else return x.1

/-- The steps of a call of `cycle` that returns. -/
theorem cycle_ok {fuel : Nat} {timer : Timer W} {s s' : Sistema W} {rc : Int} (h : cycle fuel timer s = .ok rc s') :
    ∃ type s₁ x s₂, readPacket timer s = .ok type s₁ ∧ trataPaquete fuel timer (type % 65536) s₁ = .ok x s₂ ∧
      cycleFin fuel (type % 65536) x s₂ = .ok rc s' := by
  obtain ⟨type, s₁, h1, h⟩ := ok_of_bind h
  obtain ⟨x, s₂, h2, h⟩ := ok_of_bind h
  exact ⟨type, s₁, x, s₂, h1, h2, h⟩

/-- The steps of a call of `MQTTYield` that returns. -/
theorem yield_ok {fuel : Nat} {timeoutMs : UInt32} {s s' : Sistema W} {rc : Int}
    (h : yield fuel timeoutMs s = .ok rc s') : ∃ timer s₁ type s₂ x s₃ rc',
      llama (timerCountdownMS timeoutMs) s = .ok timer s₁ ∧ readPacket timer s₁ = .ok type s₂ ∧
      trataPaquete fuel timer (type % 65536) s₂ = .ok x s₃ ∧ cycleFin fuel (type % 65536) x s₃ = .ok rc' s' := by
  obtain ⟨timer, s₁, h1, h⟩ := ok_of_bind h
  obtain ⟨rc', s₄, h2, h⟩ := ok_of_bind h
  have hs' : s₄ = s' := by
    split at h
    · cases h
      rfl
    · cases h
      rfl
  obtain ⟨type, s₂, x, s₃, h3, h4, h5⟩ := cycle_ok (hs' ▸ h2)
  exact ⟨timer, s₁, type, s₂, x, s₃, rc', h1, h3, h4, h5⟩

variable {v : Sistema W → γ}

section Ajena

variable (hv : Ajena v)
include hv

theorem intact_serializa (packet : Option (List UInt8)) : Intact v (serializa packet) := by
  cases packet with
  | none => exact intact_pure _
  | some bs => exact Intact.bind (intact_modify fun s => hv.buf s _) fun _ => intact_pure _

theorem intact_sendRest (length : Nat) (timer : Timer W) (fuel sent : Nat) :
    Intact v (sendRest length timer fuel sent) := by
  induction fuel generalizing sent with
  | zero => exact intact_throw _
  | succ fuel ih =>
    unfold sendRest
    refine intact_ite ?_ (intact_pure _)
    refine (hv.timerIsExpired _).bind fun expired => intact_ite (intact_pure _) ?_
    refine intact_get.bind fun s => intact_ite (intact_throw _) ?_
    refine (hv.timerLeftMS _).bind fun left => (hv.mqttwrite _ _).bind fun rc => ?_
    exact intact_ite (intact_pure _) (ih _)

theorem intact_sendPacket (fuel length : Nat) (timer : Timer W) : Intact v (sendPacket fuel length timer) := by
  refine (intact_sendRest hv _ _ _ _).bind fun sent => intact_ite ?_ (intact_pure _)
  refine Intact.bind intact_get fun s => (hv.timerCountdown _).bind fun pingTimer => ?_
  exact Intact.bind (intact_modify fun s => hv.pingTimer s _) fun _ => intact_pure _

theorem intact_responde (fuel : Nat) (timer : Timer W) (packet : Option (List UInt8)) :
    Intact v (responde fuel timer packet) :=
  (intact_serializa hv _).bind fun _ =>
    intact_ite (intact_pure _) ((intact_sendPacket hv _ _ _).bind fun _ => intact_pure _)

theorem intact_casePubrec (fuel : Nat) (timer : Timer W) : Intact v (casePubrec fuel timer) := by
  refine Intact.bind intact_get fun s => intact_ite (intact_pure _) ?_
  split
  · exact intact_throw _
  · exact intact_responde hv _ _ _

/-- A message at quality 0 is sent and no more. -/
theorem intact_publish_qos0 (fuel : Nat) (topicName : List UInt8) {message : MQTTMessage} (hqos : message.qos = 0) :
    Intact v (publish fuel topicName message) := by
  have h1 : ¬ message.qos = 1 := by simp [hqos]
  have h2 : ¬ message.qos = 2 := by simp [hqos]
  have henvia : ∀ timer id, Intact v (enviaPublish fuel topicName message timer id) := by
    intro timer id
    unfold enviaPublish
    simp only [if_neg h1, if_neg h2]
    refine Intact.bind intact_get fun s => (intact_serializa hv _).bind fun len => intact_ite (intact_pure _) ?_
    exact (intact_sendPacket hv _ _ _).bind fun rc => intact_ite (intact_pure _) (intact_pure _)
  unfold publish
  simp only [h1, h2, or_self, if_false]
  refine Intact.bind intact_get fun s => intact_ite (intact_pure _) ?_
  exact (hv.timerCountdownMS _).bind fun timer => henvia _ _

end Ajena

section Reparto

variable (hv : AjenaReparto v)
include hv

theorem intact_deliverTo (md : MessageData) (hs : List (MessageHandlers W)) (rc : Int) :
    Intact v (deliverTo md hs rc) := by
  induction hs generalizing rc with
  | nil => exact intact_pure _
  | cons h hs ih =>
    unfold deliverTo
    split
    · exact intact_ite ((hv.messageHandler _ _).bind fun _ => ih _) (ih _)
    · exact ih _

theorem intact_deliverMessage (topicName : MQTTString) (message : MQTTMessage) :
    Intact v (deliverMessage topicName message) := by
  refine intact_get.bind fun s => (intact_deliverTo hv _ _ _).bind fun rc => ?_
  split
  · exact intact_ite ((hv.messageHandler _ _).bind fun _ => intact_pure _) (intact_pure _)
  · exact intact_pure _

theorem intact_casePublish (fuel : Nat) (timer : Timer W) : Intact v (casePublish fuel timer) := by
  refine Intact.bind intact_get fun s => intact_ite (intact_pure _) ?_
  split
  · exact intact_throw _
  · refine (intact_deliverMessage hv _ _).bind fun _ => Intact.bind intact_get fun s => intact_ite (intact_pure _) ?_
    exact intact_ite (intact_responde hv.toAjena _ _ _) (intact_ite (intact_responde hv.toAjena _ _ _) (intact_pure _))

/-- Of the packets only a PINGRESP has to do with the keep-alive. -/
theorem intact_trataPaquete_ne {packetType : Int} (h : packetType ≠ PINGRESP.toNat) (fuel : Nat) (timer : Timer W) :
    Intact v (trataPaquete fuel timer packetType) := by
  unfold trataPaquete
  rw [if_neg h]
  exact intact_ite (intact_casePublish hv _ _) (intact_ite (intact_casePubrec hv.toAjena _ _) (intact_pure _))

end Reparto

section Lectura

variable (hv : AjenaLectura v)
include hv

theorem intact_decodeRest (timeout : Int) (n len multiplier value : Nat) :
    Intact v (decodeRest timeout n len multiplier value) := by
  induction n generalizing len multiplier value with
  | zero => exact intact_pure _
  | succ n ih =>
    unfold decodeRest
    refine (hv.mqttread _ _).bind fun leido => ?_
    split
    · exact intact_ite (ih _ _ _) (intact_pure _)
    · exact intact_pure _

theorem intact_escribeReadbuf (p : Nat) (bs : List UInt8) : Intact v (escribeReadbuf p bs) :=
  intact_get.bind fun _ => intact_ite (intact_throw _) (intact_modify fun s => hv.readbuf s _)

theorem intact_readPacket (timer : Timer W) : Intact v (readPacket timer) := by
  refine (hv.timerLeftMS _).bind fun left => (hv.mqttread _ _).bind fun leido => ?_
  have htipo : Intact v (tipoLeido (W := W)) := intact_get.bind fun _ => intact_pure _
  split
  · refine (intact_escribeReadbuf hv _ _).bind fun _ => (hv.timerLeftMS _).bind fun left => ?_
    refine (intact_decodeRest hv _ _ _ _ _).bind fun remLen => (intact_escribeReadbuf hv _ _).bind fun _ => ?_
    refine intact_ite ((hv.timerLeftMS _).bind fun left => (hv.mqttread _ _).bind fun leido => ?_) htipo
    split
    · exact (intact_escribeReadbuf hv _ _).bind fun _ => intact_ite (intact_pure _) htipo
    · exact intact_pure _
  · exact intact_pure _

end Lectura

section Ping

variable (hv : AjenaPing v)
include hv

theorem intact_keepalive (fuel : Nat) : Intact v (keepalive fuel) := by
  refine intact_get.bind fun s => intact_ite (intact_pure _) ?_
  refine (hv.timerIsExpired _).bind fun expired => intact_ite ?_ (intact_pure _)
  refine (hv.timerCountdownMS _).bind fun timer => (intact_serializa hv.toAjena _).bind fun len => ?_
  refine intact_ite ((intact_sendPacket hv.toAjena _ _ _).bind fun rc => intact_ite ?_ (intact_pure _)) (intact_pure _)
  exact Intact.bind (intact_modify fun s => hv.pingOutstanding s _) fun _ => intact_pure _

theorem intact_cycleFin (fuel : Nat) (packetType : Int) (x : Int × Bool) : Intact v (cycleFin fuel packetType x) := by
  have hfin : Intact v (if x.1 = SUCCESSS then pure packetType else pure x.1 : MqttM W Int) :=
    intact_ite (intact_pure _) (intact_pure _)
  exact intact_ite ((intact_keepalive hv _).bind fun _ => hfin) hfin

variable (hr : AjenaReparto v)
include hr

theorem intact_trataPaquete (fuel : Nat) (timer : Timer W) (packetType : Int) :
    Intact v (trataPaquete fuel timer packetType) := by
  refine intact_ite (intact_casePublish hr _ _) (intact_ite (intact_casePubrec hv.toAjena _ _) ?_)
  refine intact_ite ?_ (intact_pure _)
  exact Intact.bind (intact_modify fun s => hv.pingOutstanding s _) fun _ => intact_pure _

end Ping

section Cliente

variable (hv : AjenaCliente v)
include hv

theorem intact_getNextPacketId : Intact v (getNextPacketId (W := W)) := by
  refine Intact.bind intact_get fun s => ?_
  exact Intact.bind (intact_modify fun s => hv.nextPacketid s _) fun _ => intact_pure _

theorem intact_cycle (fuel : Nat) (timer : Timer W) : Intact v (cycle fuel timer) :=
  (intact_readPacket hv.toAjenaLectura _).bind fun _ =>
    (intact_trataPaquete hv.toAjenaPing hv.toAjenaReparto _ _ _).bind fun _ => intact_cycleFin hv.toAjenaPing _ _ _

theorem intact_yield (fuel : Nat) (timeoutMs : UInt32) : Intact v (yield fuel timeoutMs) :=
  (hv.timerCountdownMS _).bind fun _ =>
    (intact_cycle hv _ _).bind fun _ => intact_ite (intact_pure _) (intact_pure _)

theorem intact_waitRest (fuel : Nat) (packetType : Int) (timer : Timer W) (n : Nat) (rc : Int) :
    Intact v (waitRest fuel packetType timer n rc) := by
  induction n generalizing rc with
  | zero => exact intact_throw _
  | succ n ih =>
    refine (hv.timerIsExpired _).bind fun expired => intact_ite (intact_pure _) ?_
    exact (intact_cycle hv _ _).bind fun rc => intact_ite (intact_pure _) (ih _)

theorem intact_esperaAck (fuel : Nat) (packetType : UInt8) (timer : Timer W) (rc : Int) :
    Intact v (esperaAck fuel packetType timer rc) := by
  refine (intact_waitRest hv _ _ _ _ _).bind fun recibido => intact_ite ?_ (intact_pure _)
  exact Intact.bind intact_get fun _ => intact_ite (intact_pure _) (intact_pure _)

theorem intact_enviaPublish (fuel : Nat) (topicName : List UInt8) (message : MQTTMessage) (timer : Timer W)
    (id : UInt16) : Intact v (enviaPublish fuel topicName message timer id) := by
  refine Intact.bind intact_get fun s => (intact_serializa hv.toAjena _).bind fun len => ?_
  refine intact_ite (intact_pure _) ((intact_sendPacket hv.toAjena _ _ _).bind fun rc => ?_)
  refine intact_ite (intact_pure _) (intact_ite (intact_esperaAck hv _ _ _ _) ?_)
  exact intact_ite (intact_esperaAck hv _ _ _ _) (intact_pure _)

theorem intact_publish (fuel : Nat) (topicName : List UInt8) (message : MQTTMessage) :
    Intact v (publish fuel topicName message) := by
  refine Intact.bind intact_get fun s => intact_ite (intact_pure _) ?_
  refine (hv.timerCountdownMS _).bind fun timer => intact_ite ?_ (intact_enviaPublish hv _ _ _ _ _)
  exact (intact_getNextPacketId hv).bind fun id => intact_enviaPublish hv _ _ _ _ _

end Cliente

section Conexion

variable (hv : AjenaConexion v)
include hv

theorem intact_leeConnack : Intact v (leeConnack (W := W)) := by
  refine Intact.bind intact_get fun s => intact_ite ?_ (intact_pure _)
  split
  · exact Intact.bind (intact_modify fun s => hv.sucesos s _) fun _ => intact_pure _
  · exact intact_pure _

theorem intact_connect (fuel : Nat) (options : MQTTPacketConnectData) : Intact v (connect fuel options) := by
  have hconectado : ∀ n, Intact v (modificaCliente (W := W) fun c => { c with isconnected := n }) :=
    fun n => intact_modify fun s => hv.isconnected s n
  refine Intact.bind ?_ fun rc => (hconectado _).bind fun _ => intact_pure _
  refine Intact.bind intact_get fun s => intact_ite (intact_pure _) ?_
  refine (hv.timerCountdownMS _).bind fun connectTimer => ?_
  refine Intact.bind (intact_modify fun s => hv.keepAliveInterval s _) fun _ => ?_
  refine (hv.timerCountdown _).bind fun pingTimer => ?_
  refine Intact.bind (intact_modify fun s => hv.pingTimer s _) fun _ => ?_
  refine (intact_serializa hv.toAjena _).bind fun len => intact_ite (intact_pure _) ?_
  refine (intact_sendPacket hv.toAjena _ _ _).bind fun rc => intact_ite (intact_pure _) ?_
  refine (intact_waitRest hv.toAjenaCliente _ _ _ _ _).bind fun rc => ?_
  exact intact_ite (intact_leeConnack hv) (intact_pure _)

theorem intact_leeSuback (topicFilter : List UInt8) (packetid : UInt16) :
    Intact v (leeSuback (W := W) topicFilter packetid) := by
  refine Intact.bind intact_get fun s => ?_
  rcases MQTTDeserialize.suback s.readbuf 1 with ⟨code, _ | ⟨mypacketid, granted⟩⟩
  · exact intact_ite (intact_pure _) (intact_pure _)
  · refine intact_ite (intact_throw _) ?_
    exact Intact.bind (intact_modify fun s => hv.sucesos s _) fun _ => intact_ite (intact_pure _) (intact_pure _)

theorem intact_hastaSuback (fuel : Nat) (topicFilter : List UInt8) (qos : UInt8) :
    Intact v (hastaSuback fuel topicFilter qos) := by
  refine Intact.bind intact_get fun s => intact_ite (intact_pure _) ?_
  refine (hv.timerCountdownMS _).bind fun timer => (intact_getNextPacketId hv.toAjenaCliente).bind fun id => ?_
  refine (intact_serializa hv.toAjena _).bind fun len => intact_ite (intact_pure _) ?_
  exact (intact_sendPacket hv.toAjena _ _ _).bind fun rc => intact_ite (intact_pure _) (intact_pure _)

theorem intact_subscribeRc (fuel : Nat) (topicFilter : List UInt8) (qos : UInt8) :
    Intact v (subscribeRc fuel topicFilter qos) := by
  refine (intact_hastaSuback hv _ _ _).bind fun r => ?_
  cases r with
  | error rc => exact intact_pure _
  | ok x =>
    refine (intact_waitRest hv.toAjenaCliente _ _ _ _ _).bind fun rc => intact_ite ?_ (intact_pure _)
    exact (intact_leeSuback hv _ _).bind fun rc => intact_pure _

end Conexion

theorem intact_registraHandler (hv : AjenaSuscripcion v) (topicFilter : List UInt8) (fp : Handler W) (rc : Int) :
    Intact v (registraHandler topicFilter fp rc) := by
  refine intact_ite (Intact.bind intact_get fun s => ?_) (intact_pure _)
  split
  · exact Intact.bind (intact_modify fun s => hv.messageHandlers s _) fun _ => intact_pure _
  · exact intact_pure _

theorem intact_subscribe (hv : AjenaSuscripcion v) (fuel : Nat) (topicFilter : List UInt8) (qos : UInt8)
    (fp : Handler W) : Intact v (subscribe fuel topicFilter qos fp) := by
  rw [subscribe_eq]
  refine (intact_subscribeRc hv.toAjenaConexion _ _ _).bind fun rc => ?_
  cases rc with
  | error rc => exact intact_pure _
  | ok rc => exact intact_registraHandler hv _ _ _

end MQTT

/-! ### The world below -/

section Mundo

variable {u : W → γ}

theorem intact_llama {α : Type} {f : W → α × W} (h : ∀ w, u (f w).2 = u w) :
    Intact (fun s : Sistema W => u s.mundo) (llama f) := fun s => h s.mundo

theorem intact_puerto {α : Type} {x : EStateM Parada W α} (h : Intact u x) :
    Intact (fun s : Sistema W => u s.mundo) (puerto x) := by
  intro s
  have hs := h s.mundo
  unfold puerto
  split
  · rename_i hx
    rwa [hx] at hs
  · rename_i hx
    rwa [hx] at hs

theorem triple_puerto {α : Type} {x : EStateM Parada W α} {P F : W → Prop} {Q : α → W → Prop} (hx : Triple P x Q F) :
    Triple (fun s : Sistema W => P s.mundo) (puerto x) (fun a s => Q a s.mundo) fun s => F s.mundo := by
  intro s hs
  have hx' := hx s.mundo hs
  unfold puerto
  cases h : x s.mundo with
  | ok a w => rwa [h] at hx'
  | error e w => rwa [h] at hx'

/-- A part of the world the port leaves alone. -/
structure AjenaPuerto (u : W → γ) : Prop where
  timerIsExpired : ∀ timer w, u (timerIsExpired timer w).2 = u w
  timerCountdownMS : ∀ n w, u (timerCountdownMS n w).2 = u w
  timerCountdown : ∀ n w, u (timerCountdown n w).2 = u w
  timerLeftMS : ∀ timer w, u (timerLeftMS timer w).2 = u w
  mqttread : ∀ n left, Intact u (mqttread n left)
  mqttwrite : ∀ bs left, Intact u (mqttwrite bs left)
  messageHandler : ∀ h md, Intact u (messageHandler h md)

variable (hu : AjenaPuerto u)
include hu

theorem AjenaPuerto.ajena : AjenaSuscripcion (fun s : Sistema W => u s.mundo) where
  timerIsExpired t := intact_llama (hu.timerIsExpired t)
  timerCountdownMS n := intact_llama (hu.timerCountdownMS n)
  timerCountdown n := intact_llama (hu.timerCountdown n)
  timerLeftMS t := intact_llama (hu.timerLeftMS t)
  mqttread n l := intact_puerto (hu.mqttread n l)
  mqttwrite bs l := intact_puerto (hu.mqttwrite bs l)
  messageHandler h md := intact_puerto (hu.messageHandler h md)
  buf _ _ := rfl
  readbuf _ _ := rfl
  pingTimer _ _ := rfl
  pingOutstanding _ _ := rfl
  nextPacketid _ _ := rfl
  keepAliveInterval _ _ := rfl
  isconnected _ _ := rfl
  messageHandlers _ _ := rfl
  sucesos _ _ := rfl

end Mundo

end Wiznet
