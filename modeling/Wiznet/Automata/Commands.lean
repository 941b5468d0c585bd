import Wiznet.Automata.Ajena
import Wiznet.Mqtt.Vista

/-!
# How many times a command is heard

The client is set up once and subscribed at each connection.  Each subscription that the broker does not refuse takes
one more entry of its table, as long as there is one, and a message is handed to every entry with its topic.  Messages
are read in two places while the state is `STATE_MQTT_OPERATIONAL`: by the `MQTTYield` of its case, and by the
`MQTTSubscribe` that follows a connection, which has changed the state before it and takes its entry after the SUBACK.
-/

namespace Wiznet

namespace Automata

open Stateful Ethernet

variable {W : Type} [Ethernet W]

/-- The subscription of `case STATE_CONNECT_BROKER`, whether the broker grants it. -/
def concedeCase (fuel : Nat) : MqttM (Test W) Bool := do
  if ← abreConexion fuel then
    match ← MQTT.subscribeRc fuel COMMANDS 0 with
    | .ok rc => return rc ≠ 0x80
    | .error _ => return false
  else return false

/-- A round down to the answer to its SUBSCRIBE, and whether it gets one that is not a refusal. -/
def concede (fuel : Nat) (m : Maquina) : MqttM (Test W) Bool := do
  let (m, cable) ← hastaSwitch fuel m
  if cable ∧ m.currentState = .connectBroker then concedeCase fuel else return false

/-- How many subscriptions the broker grants in a round. -/
def concedidas (fuel : Nat) (t : Maquina × Sistema (Test W)) : Nat :=
  match concede fuel t.1 t.2 with
  | .ok true _ => 1
  | _ => 0

/-- What is read with this timer is a message on the topic of the commands. -/
def leeOrden (timer : TimerPaho) (s : Sistema (Test W)) : Bool :=
  match MQTT.readPacket timer s with
  | .ok type s' => type % 65536 == PUBLISH.toNat && match MQTTDeserialize.publish s'.readbuf with
    | (1, some msg) => msg.topicName.text == COMMANDS
    | _ => false
  | .error _ _ => false

/-- The calls of `incoming_message_handler` for the command that a call of `cycle` reads, if it reads one. -/
def oidasCycle (fuel : Nat) (timer : TimerPaho) (s : Sistema (Test W)) : List Nat :=
  if leeOrden timer s then
    match MQTT.cycle fuel timer s with
    | .ok _ s' => [s'.mundo.llamadas.length - s.mundo.llamadas.length]
    | .error _ _ => []
  else []

/-- What is heard after a step that returns. -/
def tras {α : Type} (x : MqttM (Test W) α) (f : α → Sistema (Test W) → List Nat) (s : Sistema (Test W)) : List Nat :=
  match x s with
  | .ok a s' => f a s'
  | .error _ _ => []

/-- The calls for each command read by the rounds of `waitfor` that are left. -/
def oidasEspera (fuel : Nat) (packetType : Int) (timer : TimerPaho) : Nat → Sistema (Test W) → List Nat
  | 0, _ => []
  | n + 1, s => tras (llama (Puerto.timerIsExpired timer)) (fun expired s =>
      if expired then []
      else oidasCycle fuel timer s ++ tras (MQTT.cycle fuel timer) (fun rc s =>
        if rc = packetType then [] else oidasEspera fuel packetType timer n s) s) s

/-- The calls for each command read in a round while the state is `STATE_MQTT_OPERATIONAL`. -/
def oidas (fuel : Nat) (t : Maquina × Sistema (Test W)) : List Nat :=
  tras (hastaSwitch fuel t.1) (fun (m, cable) s =>
    if cable then
      match m.currentState with
      | .initNetwork => []
      -- the state is changed before `MQTTSubscribe`
      | .connectBroker => tras (abreConexion fuel) (fun abierta =>
          if abierta then tras (MQTT.hastaSuback fuel COMMANDS 0) fun
            | .ok (timer, _) => oidasEspera fuel SUBACK.toNat timer fuel
            | .error _ => fun _ => []
          else fun _ => []) s
      | .mqttOperational => tras (llama (Puerto.timerCountdownMS 100)) (fun timer => oidasCycle fuel timer) s
    else []) t.2

/-- The subscriptions granted, and for each command heard how many of them there were and the calls it made. -/
structure Recuento where
  concedidas : Nat
  oidas : List (Nat × Nat)

/-- A run from the first top of the loop, with what has been granted and heard in it. -/
inductive Marcha (t₀ : Maquina × Sistema (Test W)) : Recuento → Maquina × Sistema (Test W) → Prop
  | inicio : Marcha t₀ ⟨0, []⟩ t₀
  | vuelta {c : Recuento} {t t' : Maquina × Sistema (Test W)} (fuel : Nat) (h : Marcha t₀ c t)
      (hs : vuelta fuel t.1 t.2 = .ok t'.1 t'.2) :
      Marcha t₀ ⟨c.concedidas + concedidas fuel t, (oidas fuel t).map (c.concedidas, ·) ++ c.oidas⟩ t'

theorem Marcha.corrida {t₀ t : Maquina × Sistema (Test W)} {c : Recuento} (h : Marcha t₀ c t) :
    ∃ tops, Corrida t₀ (t :: tops) := by
  induction h with
  | inicio => exact ⟨[], .start⟩
  | vuelta fuel _ hs ih =>
    obtain ⟨tops, hrun⟩ := ih
    exact ⟨_, .next hrun ⟨fuel, hs⟩⟩

def esOrdenes (h : MessageHandlers (Test W)) : Bool := h.topicFilter == some COMMANDS

/-- The entries of the table for the commands. -/
def entradas (s : Sistema (Test W)) : Nat := s.client.messageHandlers.entradas.countP esOrdenes

/-- There is one entry for the commands, each one heard has made one call of `incoming_message_handler`, and so does
each one of the next round. -/
def UnaVez (c : Recuento) (t : Maquina × Sistema (Test W)) : Prop :=
  entradas t.2 = 1 ∧ (∀ x ∈ c.oidas, x.2 = 1) ∧ ∀ fuel, ∀ n ∈ oidas fuel t, n = 1

/-! ### The table -/

section Tabla

/-- The entry of a subscription. -/
def ordenes : MessageHandlers (Test W) := ⟨some COMMANDS, some Manejador.incomingMessageHandler⟩

/-- The table with one more, if there is room for it. -/
def conEntrada (t : TablaHandlers (Test W)) : TablaHandlers (Test W) :=
  (t.registra COMMANDS (some Manejador.incomingMessageHandler)).getD t

/-- Nothing else has been subscribed. -/
def SoloOrdenes (hs : List (MessageHandlers (Test W))) : Prop := ∀ h ∈ hs, h.topicFilter = none ∨ h = ordenes

/-- A full table stays as it is; another gets one entry more. -/
theorem ocupa_ordenes {hs : List (MessageHandlers (Test W))} (h : SoloOrdenes hs) :
    match TablaHandlers.ocupa COMMANDS (some Manejador.incomingMessageHandler) hs with
    | none => hs.countP esOrdenes = hs.length
    | some hs' => SoloOrdenes hs' ∧ hs'.countP esOrdenes = hs.countP esOrdenes + 1 := by
  induction hs with
  | nil => rfl
  | cons a hs ih =>
    obtain ⟨ha, hs'⟩ := List.forall_mem_cons.mp h
    have ih := ih hs'
    unfold TablaHandlers.ocupa
    by_cases hlibre : a.topicFilter.isNone
    · rw [if_pos hlibre]
      have hno : ¬ esOrdenes a = true := by simp [esOrdenes, Option.isNone_iff_eq_none.mp hlibre]
      refine ⟨List.forall_mem_cons.mpr ⟨.inr rfl, hs'⟩, ?_⟩
      rw [List.countP_cons_of_pos (by simp [esOrdenes]), List.countP_cons_of_neg hno]
    · rw [if_neg hlibre]
      have hsi : a = ordenes := ha.resolve_left fun hnone => hlibre (by simp [hnone])
    -- it goes on counting, and the entry is looked for in the rest
      have hes : esOrdenes a = true := by simp [hsi, esOrdenes, ordenes]
      cases hr : TablaHandlers.ocupa COMMANDS (some Manejador.incomingMessageHandler) hs with
      | none =>
        rw [hr] at ih
        simpa [List.countP_cons, hes] using ih
      | some r =>
        rw [hr] at ih
        refine ⟨List.forall_mem_cons.mpr ⟨.inr hsi, ih.1⟩, ?_⟩
        simp [hes, ih.2]

/-- A table with as many entries for the commands as subscriptions there have been, as far as it has room, and nothing
for any other message. -/
structure Lleva (k : Nat) (t : TablaHandlers (Test W) × Option Manejador) : Prop where
  solo : SoloOrdenes t.1.entradas
  cuantas : t.1.entradas.countP esOrdenes = min k MAX_MESSAGE_HANDLERS
  sinDefecto : t.2 = none

theorem lleva_vacia (t : TablaHandlers (Test W)) : Lleva 0 (t.vacia, none) where
  solo _ hh := .inl (TablaHandlers.topicFilter_vacia hh)
  cuantas := List.countP_eq_zero.mpr fun h hh => by simp [esOrdenes, TablaHandlers.topicFilter_vacia hh]
  sinDefecto := rfl

theorem Lleva.conEntrada {k : Nat} {t : TablaHandlers (Test W) × Option Manejador} (h : Lleva k t) :
    Lleva (k + 1) (conEntrada t.1, t.2) := by
  have hocupa := ocupa_ordenes h.solo
  have hk := h.cuantas
  unfold Automata.conEntrada TablaHandlers.registra
  split
  · rename_i hnone
    rw [hnone] at hocupa
    have hlen := t.1.lleva
    exact ⟨h.solo, by simp only [Option.getD_none]; omega, h.sinDefecto⟩
  · rename_i hsome
    rw [hsome] at hocupa
    have hle : t.1.entradas.countP esOrdenes + 1 ≤ MAX_MESSAGE_HANDLERS := by
      rw [← hocupa.2, ← t.1.lleva, ← TablaHandlers.length_ocupa hsome]
      exact List.countP_le_length
    exact ⟨hocupa.1, by simp only [Option.getD_some, hocupa.2]; omega, h.sinDefecto⟩

end Tabla

/-! ### A round -/

/-- The handlers of the client. -/
def tabla (s : Sistema (Test W)) : TablaHandlers (Test W) × Option Manejador :=
  (s.client.messageHandlers, s.client.defaultMessageHandler)

theorem ajenaConexion_tabla : AjenaConexion (tabla (W := W)) where
  toAjena := ajena_cliente (fun _ _ => rfl) (fun _ _ => rfl) fun _ _ => rfl
  mqttread _ _ := intact_puerto_cliente (fun _ _ => rfl) _
  readbuf _ _ := rfl
  messageHandler _ _ := intact_puerto_cliente (fun _ _ => rfl) _
  pingOutstanding _ _ := rfl
  nextPacketid _ _ := rfl
  keepAliveInterval _ _ := rfl
  isconnected _ _ := rfl
  sucesos _ _ := rfl

/-- A subscription granted takes an entry. -/
theorem registraHandler_tabla {rc rc' : Int} {s s' : Sistema (Test W)}
    (h : MQTT.registraHandler COMMANDS Manejador.incomingMessageHandler rc s = .ok rc' s') :
    tabla s' = if rc ≠ 0x80 then (conEntrada (tabla s).1, (tabla s).2) else tabla s := by
  unfold MQTT.registraHandler at h
  split at h
  case isFalse hrc =>
    cases h
    rw [if_neg hrc]
  case isTrue hrc =>
    rw [if_pos hrc]
    obtain ⟨_, _, h1, h⟩ := ok_of_bind h
    cases h1
    cases hr : s.client.messageHandlers.registra COMMANDS (some Manejador.incomingMessageHandler) with
    | none =>
      rw [hr] at h
      cases h
      simp [tabla, conEntrada, hr]
    | some t =>
      rw [hr] at h
      cases h
      simp [tabla, conEntrada, hr]

theorem caseConnectBroker_tabla {fuel : Nat} {m m' : Maquina} {s s' : Sistema (Test W)}
    (h : caseConnectBroker fuel m s = .ok m' s') : ∃ b s₁, concedeCase fuel s = .ok b s₁ ∧
      tabla s' = if b then (conEntrada (tabla s).1, (tabla s).2) else tabla s := by
  obtain ⟨abierta, s₁, h1, h⟩ := ok_of_bind h
  have hs₁ := (intact_abreConexion (fun _ _ => rfl) ajenaConexion_tabla fuel).keeps _ _ _ h1
  unfold concedeCase
  rw [bind_ok h1]
  cases abierta with
  | false =>
    obtain ⟨start, s₂, h2, h⟩ := ok_of_bind h
    have hs₂ := (intact_baja (v := tabla) (fun _ _ => rfl) _).keeps _ _ _ h2
    have hs' := (intact_esperaBackoff (v := tabla) (fun _ _ => rfl) _ _ _ _).keeps _ _ _ h
    exact ⟨false, s₁, rfl, by rw [hs', hs₂, hs₁]; rfl⟩
  | true =>
    obtain ⟨rc, s₂, h2, h⟩ := ok_of_bind h
    cases h
    rw [MQTT.subscribe_eq] at h2
    obtain ⟨r, s₃, h3, h2⟩ := ok_of_bind h2
    have hs₃ := (MQTT.intact_subscribeRc ajenaConexion_tabla _ _ _).keeps _ _ _ h3
    simp only [if_true, bind_ok h3]
    cases r with
    | error rc =>
      cases h2
      exact ⟨false, _, rfl, by rw [hs₃, hs₁]; rfl⟩
    | ok rc =>
      refine ⟨decide (rc ≠ 0x80), s₃, rfl, ?_⟩
      rw [registraHandler_tabla h2, hs₃, hs₁]
      simp

theorem intact_switch_tabla {fuel : Nat} {m : Maquina} (hm : m.currentState ≠ .connectBroker) :
    Intact (tabla (W := W)) («switch» fuel m) := by
  unfold «switch»
  cases hst : m.currentState with
  | initNetwork => exact intact_caseInitNetwork (fun _ _ => rfl) fuel m
  | connectBroker => exact absurd hst hm
  | mqttOperational =>
    exact intact_caseMqttOperational (fun _ _ => rfl) ajenaConexion_tabla.toAjenaCliente fuel m

/-- A round takes an entry for each subscription granted in it. -/
theorem vuelta_tabla {fuel : Nat} {t t' : Maquina × Sistema (Test W)} (h : vuelta fuel t.1 t.2 = .ok t'.1 t'.2) :
    (concedidas fuel t = 0 ∧ tabla t'.2 = tabla t.2) ∨
      (concedidas fuel t = 1 ∧ tabla t'.2 = (conEntrada (tabla t.2).1, (tabla t.2).2)) := by
  obtain ⟨⟨m, cable⟩, s, h1, h⟩ := ok_of_bind h
  have hs := (intact_hastaSwitch (v := tabla) (fun _ _ => rfl) fuel t.1).keeps _ _ _ h1
  by_cases hcase : cable = true ∧ m.currentState = .connectBroker
  · -- the only case that subscribes
    obtain ⟨rfl, hm⟩ := hcase
    simp only [if_true, «switch», hm] at h
    obtain ⟨b, s₁, hb, htabla⟩ := caseConnectBroker_tabla h
    have hconcede : concede fuel t.1 t.2 = .ok b s₁ := by
      unfold concede
      rw [bind_ok h1]
      simp only [hm, and_self, if_true]
      exact hb
    rw [hs] at htabla
    unfold concedidas
    rw [hconcede]
    cases b with
    | true => exact .inr ⟨rfl, htabla⟩
    | false => exact .inl ⟨rfl, htabla⟩
  · have hconcede : concede fuel t.1 t.2 = .ok false s := by
      unfold concede
      rw [bind_ok h1]
      simp only [if_neg hcase]
      rfl
    have hresto : tabla t'.2 = tabla s := by
      cases cable with
      | false => exact (intact_sinCable (v := tabla) (fun _ _ => rfl) m).keeps _ _ _ h
      | true => exact (intact_switch_tabla fun hm => hcase ⟨rfl, hm⟩).keeps _ _ _ h
    refine .inl ⟨?_, hresto.trans hs⟩
    unfold concedidas
    rw [hconcede]

/-! ### Runs -/

theorem arranque_tabla {s s₀ : Sistema (Test W)} {m₀ : Maquina} (h : arranque s = .ok m₀ s₀) :
    ∃ t, tabla s₀ = (TablaHandlers.vacia t, none) := by
  obtain ⟨s₁, _, hinit, htabla⟩ := arranque_clientInit (v := tabla) (fun _ _ => rfl) h
  cases hinit
  exact ⟨s₁.client.messageHandlers, htabla⟩

/-- In every run there are as many entries as subscriptions granted, as far as the table has room. -/
theorem Marcha.lleva {s s₀ : Sistema (Test W)} {m₀ : Maquina} {c : Recuento} {t : Maquina × Sistema (Test W)}
    (h₀ : arranque s = .ok m₀ s₀) (hrun : Marcha (m₀, s₀) c t) : Lleva c.concedidas (tabla t.2) := by
  induction hrun with
  | inicio =>
    obtain ⟨t, ht⟩ := arranque_tabla h₀
    rw [ht]
    exact lleva_vacia t
  | vuelta fuel _ hs ih =>
    rcases vuelta_tabla hs with ⟨hcero, htabla⟩ | ⟨huna, htabla⟩
    · rwa [hcero, htabla]
    · rw [huna, htabla]
      exact ih.conEntrada

/-! ### The delivery of a message -/

theorem intact_leeResto (timer : TimerPaho) (len n : Nat) (leidos : List UInt8) :
    Intact Test.llamadas (leeResto (W := W) timer len n leidos) := by
  induction n generalizing leidos with
  | zero => exact intact_throw _
  | succ n ih =>
    refine intact_ite ?_ (intact_pure _)
    refine Intact.bind (intact_modifyGet fun _ => rfl) fun expired => intact_ite (intact_pure _) ?_
    refine Intact.bind (intact_modifyGet fun _ => rfl) fun ret => intact_ite ?_ ?_
    · refine Intact.bind (intact_modifyGet fun _ => rfl) fun leido => ?_
      split
      · exact ih _
      · exact intact_ite (intact_pure _) (ih _)
    · exact Intact.bind (intact_modifyGet fun _ => rfl) fun _ => ih _

theorem intact_escribeResto (timer : TimerPaho) (bs : List UInt8) (n escritos : Nat) :
    Intact Test.llamadas (escribeResto (W := W) timer bs n escritos) := by
  induction n generalizing escritos with
  | zero => exact intact_throw _
  | succ n ih =>
    refine intact_ite ?_ (intact_pure _)
    refine Intact.bind (intact_modifyGet fun _ => rfl) fun expired => intact_ite (intact_pure _) ?_
    refine Intact.bind (intact_modifyGet fun _ => rfl) fun ret => intact_ite ?_ (intact_ite (intact_pure _) ?_)
    · exact Intact.bind (intact_modifyGet fun _ => rfl) fun _ => ih _
    · exact Intact.bind (intact_modify fun _ => rfl) fun _ => ih _

theorem intact_w5500PahoRead (len : Nat) (timeoutMs : Int) :
    Intact Test.llamadas (w5500PahoRead (W := W) len timeoutMs) :=
  Intact.bind (intact_modifyGet fun _ => rfl) fun timer => intact_get.bind fun _ => intact_leeResto timer len _ _

theorem intact_w5500PahoWrite (bs : List UInt8) (timeoutMs : Int) :
    Intact Test.llamadas (w5500PahoWrite (W := W) bs timeoutMs) :=
  Intact.bind (intact_modifyGet fun _ => rfl) fun timer => intact_get.bind fun _ => intact_escribeResto timer bs _ _

/-- Only the handlers make calls. -/
theorem ajena_llamadas : Ajena (fun s : Sistema (Test W) => s.mundo.llamadas) where
  timerIsExpired _ := intact_llama fun _ => rfl
  timerCountdownMS _ := intact_llama fun _ => rfl
  timerCountdown _ := intact_llama fun _ => rfl
  timerLeftMS _ := intact_llama fun _ => rfl
  mqttwrite bs left := intact_puerto (intact_w5500PahoWrite bs left)
  buf _ _ := rfl
  pingTimer _ _ := rfl

theorem ajenaLectura_llamadas : AjenaLectura (fun s : Sistema (Test W) => s.mundo.llamadas) where
  toAjena := ajena_llamadas
  mqttread n left := intact_puerto (intact_w5500PahoRead n left)
  readbuf _ _ := rfl

theorem ajenaPing_llamadas : AjenaPing (fun s : Sistema (Test W) => s.mundo.llamadas) where
  toAjena := ajena_llamadas
  pingOutstanding _ _ := rfl

theorem triple_messageHandler (h : Manejador) (md : MessageData) (l : List MessageData) :
    Triple (fun s : Sistema (Test W) => s.mundo.llamadas = l) (puerto (Puerto.messageHandler h md))
      (fun _ s => s.mundo.llamadas = md :: l) fun _ => True := by
  have hmundo : Triple (fun t : Test W => t.llamadas = l) (incomingMessageHandler md) (fun _ t => t.llamadas = md :: l)
      fun _ => True := by
    refine Triple.bind (Q := fun _ t => t.llamadas = md :: l) (triple_modify fun t ht => congrArg (md :: ·) ht) ?_
    intro _
    refine Triple.weaken (Intact.triple (v := Test.llamadas) ?_ (· = md :: l)) (fun _ h => h) (fun _ _ h => h)
      fun _ _ => trivial
    refine intact_ite (intact_throw _) (intact_ite (intact_modifyGet fun _ => rfl) ?_)
    exact intact_ite (intact_modifyGet fun _ => rfl) (intact_pure _)
  cases h
  exact triple_puerto hmundo

/-- A command is handed to each of the entries. -/
theorem deliverTo_llamadas {md : MessageData} (hmd : md.topicName.text = COMMANDS)
    {hs : List (MessageHandlers (Test W))} (hsolo : SoloOrdenes hs) {rc rc' : Int} {s s' : Sistema (Test W)}
    (h : MQTT.deliverTo md hs rc s = .ok rc' s') :
    s'.mundo.llamadas.length = s.mundo.llamadas.length + hs.countP esOrdenes := by
  induction hs generalizing rc s with
  | nil =>
    cases h
    rfl
  | cons a hs ih =>
    obtain ⟨ha, hs'⟩ := List.forall_mem_cons.mp hsolo
    unfold MQTT.deliverTo at h
    rcases ha with hnone | rfl
    · have hno : ¬ esOrdenes a = true := by simp [esOrdenes, hnone]
      rw [List.countP_cons_of_neg hno]
      simp only [hnone] at h
      exact ih hs' h
    · have hsi : esOrdenes (W := W) ordenes = true := by simp [esOrdenes, ordenes]
      have hequals : MQTTPacket.equals md.topicName COMMANDS = true := by simp [MQTTPacket.equals, hmd]
      rw [List.countP_cons_of_pos hsi]
      simp only [ordenes, hequals, true_or, if_true] at h
      obtain ⟨_, s₁, h1, h⟩ := ok_of_bind h
      rw [ih hs' h, (triple_messageHandler _ md _).ok rfl h1, List.length_cons]
      omega

section Lleva

variable {k : Nat} {s s' : Sistema (Test W)}

theorem deliverMessage_llamadas {topicName : MQTTString} {message : MQTTMessage} {rc : Int}
    (hlleva : Lleva k (tabla s)) (htopic : topicName.text = COMMANDS)
    (h : MQTT.deliverMessage topicName message s = .ok rc s') :
    s'.mundo.llamadas.length = s.mundo.llamadas.length + min k MAX_MESSAGE_HANDLERS := by
  obtain ⟨_, _, h0, h⟩ := ok_of_bind h
  cases h0
  obtain ⟨rc', s₁, h1, h⟩ := ok_of_bind h
  have hdef : s.client.defaultMessageHandler = none := hlleva.sinDefecto
  rw [hdef] at h
  cases h
  rw [deliverTo_llamadas htopic hlleva.solo h1]
  exact congrArg _ hlleva.cuantas

/-- What the client does with a message once it is delivered makes no calls. -/
theorem casePublish_llamadas {fuel : Nat} {timer : TimerPaho} {msg : MQTTDeserialize.Publish} {x : Int × Bool}
    (hlleva : Lleva k (tabla s)) (hmsg : MQTTDeserialize.publish s.readbuf = (1, some msg))
    (htopic : msg.topicName.text = COMMANDS) (h : MQTT.casePublish fuel timer s = .ok x s') :
    s'.mundo.llamadas.length = s.mundo.llamadas.length + min k MAX_MESSAGE_HANDLERS := by
  obtain ⟨_, _, h0, h⟩ := ok_of_bind h
  cases h0
  simp only [hmsg, ne_eq, not_true_eq_false, if_false] at h
  obtain ⟨_, s₁, h1, h⟩ := ok_of_bind h
  obtain ⟨_, _, h0, h⟩ := ok_of_bind h
  cases h0
  have hresponde := MQTT.intact_responde (ajena_llamadas (W := W)) fuel timer
  have hfin : s'.mundo.llamadas = s₁.mundo.llamadas :=
    (intact_ite (intact_pure _) (intact_ite (hresponde _) (intact_ite (hresponde _) (intact_pure _)))).keeps _ _ _ h
  rw [hfin, deliverMessage_llamadas hlleva htopic h1]

/-- A call of `cycle` that reads a command makes as many calls as there are entries. -/
theorem oidasCycle_eq {fuel : Nat} {timer : TimerPaho} (hlleva : Lleva k (tabla s)) :
    ∀ n ∈ oidasCycle fuel timer s, n = min k MAX_MESSAGE_HANDLERS := by
  intro n hn
  unfold oidasCycle at hn
  split at hn
  case isFalse => cases hn
  case isTrue horden =>
    split at hn
    case h_2 => cases hn
    case h_1 rc s' hcycle =>
      obtain ⟨type, s₁, x, s₂, h1, h2, h3⟩ := MQTT.cycle_ok hcycle
      have htabla : tabla s₁ = tabla s :=
        (MQTT.intact_readPacket ajenaConexion_tabla.toAjenaLectura timer).keeps _ _ _ h1
      have hantes : s₁.mundo.llamadas = s.mundo.llamadas :=
        (MQTT.intact_readPacket ajenaLectura_llamadas timer).keeps _ _ _ h1
      have hfin : s'.mundo.llamadas = s₂.mundo.llamadas :=
        (MQTT.intact_cycleFin ajenaPing_llamadas fuel _ x).keeps _ _ _ h3
      unfold leeOrden at horden
      rw [h1] at horden
      simp only [Bool.and_eq_true, beq_iff_eq] at horden
      obtain ⟨htype, horden⟩ := horden
      split at horden
      case h_2 => cases horden
      case h_1 msg hmsg =>
        rw [htype] at h2
        rw [List.mem_singleton.mp hn, hfin,
          casePublish_llamadas (htabla ▸ hlleva) hmsg (beq_iff_eq.mp horden) h2, hantes]
        omega

theorem mem_tras {α : Type} {x : MqttM (Test W) α} {f : α → Sistema (Test W) → List Nat} {n : Nat}
    (h : n ∈ tras x f s) : ∃ a s', x s = .ok a s' ∧ n ∈ f a s' := by
  unfold tras at h
  split at h
  · exact ⟨_, _, ‹_›, h⟩
  · cases h

/-- So does every command read while a SUBACK is waited for: the table is the same until it comes. -/
theorem oidasEspera_eq {fuel rondas : Nat} {packetType : Int} {timer : TimerPaho} (hlleva : Lleva k (tabla s)) :
    ∀ n ∈ oidasEspera fuel packetType timer rondas s, n = min k MAX_MESSAGE_HANDLERS := by
  induction rondas generalizing s with
  | zero => exact fun n hn => by cases hn
  | succ rondas ih =>
    intro n hn
    obtain ⟨expired, s₁, h1, hn⟩ := mem_tras hn
    have hs₁ : tabla s₁ = tabla s := (ajenaConexion_tabla.timerIsExpired timer).keeps _ _ _ h1
    split at hn
    · cases hn
    rcases List.mem_append.mp hn with hn | hn
    · exact oidasCycle_eq (hs₁ ▸ hlleva) n hn
    · obtain ⟨rc, s₂, h2, hn⟩ := mem_tras hn
      have hs₂ : tabla s₂ = tabla s₁ := (MQTT.intact_cycle ajenaConexion_tabla.toAjenaCliente fuel timer).keeps _ _ _ h2
      split at hn
      · cases hn
      · exact ih (by rw [hs₂, hs₁]; exact hlleva) n hn

/-- And every one of a round. -/
theorem oidas_eq {fuel : Nat} {t : Maquina × Sistema (Test W)} (hlleva : Lleva k (tabla t.2)) :
    ∀ n ∈ oidas fuel t, n = min k MAX_MESSAGE_HANDLERS := by
  intro n hn
  obtain ⟨⟨m, cable⟩, s, h1, hn⟩ := mem_tras hn
  have hs : tabla s = tabla t.2 := (intact_hastaSwitch (v := tabla) (fun _ _ => rfl) fuel t.1).keeps _ _ _ h1
  cases cable with
  | false => cases hn
  | true =>
    simp only [if_true] at hn
    split at hn
    · cases hn
    · obtain ⟨abierta, s₁, h2, hn⟩ := mem_tras hn
      have hs₁ := (intact_abreConexion (fun _ _ => rfl) ajenaConexion_tabla fuel).keeps _ _ _ h2
      cases abierta with
      | false => cases hn
      | true =>
        obtain ⟨r, s₂, h3, hn⟩ := mem_tras hn
        have hs₂ := (MQTT.intact_hastaSuback ajenaConexion_tabla _ _ _).keeps _ _ _ h3
        cases r with
        | error rc => cases hn
        | ok x => exact oidasEspera_eq (by rw [hs₂, hs₁, hs]; exact hlleva) n hn
    · obtain ⟨timer, s₁, h2, hn⟩ := mem_tras hn
      have hs₁ := (ajenaConexion_tabla (W := W).timerCountdownMS 100).keeps _ _ _ h2
      exact oidasCycle_eq (by rw [hs₁, hs]; exact hlleva) n hn

end Lleva

/-- Every command heard so far has made as many calls as there were entries. -/
theorem Marcha.oidas {s s₀ : Sistema (Test W)} {m₀ : Maquina} {c : Recuento} {t : Maquina × Sistema (Test W)}
    (h₀ : arranque s = .ok m₀ s₀) (hrun : Marcha (m₀, s₀) c t) :
    ∀ x ∈ c.oidas, x.2 = min x.1 MAX_MESSAGE_HANDLERS := by
  induction hrun with
  | inicio => exact List.forall_mem_nil _
  | vuelta fuel h hs ih =>
    refine List.forall_mem_append.mpr ⟨fun x hx => ?_, ih⟩
    obtain ⟨n, hn, rfl⟩ := List.mem_map.mp hx
    exact oidas_eq (h.lleva h₀) n hn

/-- In every run, whatever the network and the broker do, there is one entry for the commands and each command heard
makes one call just when the broker has granted one subscription since the start, and every command has been heard after
its SUBACK. -/
theorem w5500MqttThread_una_vez {s s₀ : Sistema (Test W)} {m₀ : Maquina} {c : Recuento}
    {t : Maquina × Sistema (Test W)} (h₀ : arranque s = .ok m₀ s₀) (hrun : Marcha (m₀, s₀) c t) :
    UnaVez c t ↔ c.concedidas = 1 ∧ ∀ x ∈ c.oidas, x.1 = 1 := by
  have hlleva := hrun.lleva h₀
  have hentradas : entradas t.2 = min c.concedidas MAX_MESSAGE_HANDLERS := hlleva.cuantas
  have huna : ∀ k, min k MAX_MESSAGE_HANDLERS = 1 ↔ k = 1 := fun k => by
    unfold MAX_MESSAGE_HANDLERS
    omega
  have hoidas : (∀ x ∈ c.oidas, x.2 = 1) ↔ ∀ x ∈ c.oidas, x.1 = 1 :=
    forall₂_congr fun x hx => by rw [hrun.oidas h₀ x hx, huna]
  unfold UnaVez
  rw [hentradas, huna, hoidas]
  constructor
  · exact fun h => ⟨h.1, h.2.1⟩
  · rintro ⟨h1, h2⟩
    refine ⟨h1, h2, fun fuel n hn => ?_⟩
    rw [oidas_eq hlleva n hn, huna, h1]

/-! ### A broker from a script -/

/-- A broker that takes every connection and grants every subscription, after which it sends the last command.  Each
sleep lasts a minute, and the first look at the socket finds it closed. -/
structure Broker where
  ahora : Nat := 0
  llegado : List UInt8 := []
  estados : List UInt8 := [SOCK_CLOSED]

/-- A message on the topic of the commands. -/
def ledOn : List UInt8 := [0x30, 23, 0, 15] ++ COMMANDS ++ literal ['L', 'E', 'D', '_', 'O', 'N']

/-- What the broker answers to a packet. -/
def Broker.contesta (bs : List UInt8) : List UInt8 :=
  if bs.headD 0 = 0x10 then [0x20, 2, 0, 0]
  else if bs.headD 0 = 0x82 then [0x90, 3] ++ (bs.drop 2).take 2 ++ [0] ++ ledOn
  else []

instance : Ethernet Broker where
  wizchipInit w := ((), w)
  setnetinfo _ w := ((), w)
  dhcpInit _ _ w := ((), w)
  regDhcpCbfunc w := ((), w)
  dhcpRun _ := pure DHCP_IP_ASSIGN
  dhcpTimeHandler w := ((), w)
  getphystatus w := (true, w)
  getSnSR _ w := (w.estados.headD SOCK_ESTABLISHED, { w with estados := w.estados.tail })
  getSnRXRSR _ w := (w.llegado.length.toUInt16, w)
  socket sn _ _ _ w := (sn.toNat, w)
  connect _ _ _ w := (SOCK_OK, w)
  close _ w := (SOCK_OK, w)
  send _ bs w := (bs.length, { w with llegado := w.llegado ++ Broker.contesta bs })
  recv _ len w := (.ok (w.llegado.take len.toNat), { w with llegado := w.llegado.drop len.toNat })
  chVTGetSystemTime w := (w.ahora.toUInt32, w)
  chThdYield w := ((), { w with ahora := w.ahora + 100000 })
  chThdSleepMilliseconds _ w := ((), { w with ahora := w.ahora + 60 * CH_CFG_ST_FREQUENCY })
  palSetLine w := ((), w)
  palClearLine w := ((), w)

namespace Broker

/-- A top that a run reaches, with the run. -/
structure Llega where
  m₀ : Maquina
  s₀ : Sistema (Test Broker)
  c : Recuento
  t : Maquina × Sistema (Test Broker)
  arranque : arranque (inicial ({} : Broker) 4) = .ok m₀ s₀
  marcha : Marcha (m₀, s₀) c t

/-- The top after so many rounds. -/
def vueltas : Nat → Option Llega
  | 0 => match h : Automata.arranque (inicial ({} : Broker) 4) with
    | .ok m₀ s₀ => some ⟨m₀, s₀, ⟨0, []⟩, (m₀, s₀), h, .inicio⟩
    | .error _ _ => none
  | n + 1 => match vueltas n with
    | some a => match h : vuelta 4 a.t.1 a.t.2 with
      | .ok m s => some ⟨a.m₀, a.s₀, _, (m, s), a.arranque, .vuelta 4 a.marcha h⟩
      | .error _ _ => none
    | none => none

end Broker

/-- The first command after the first connection is heard once. -/
theorem w5500MqttThread_una_vez_broker : ∃ a : Broker.Llega, a.c.concedidas = 1 ∧ a.c.oidas = [(1, 1)] ∧
    UnaVez a.c a.t := by
  have hres : (Broker.vueltas 3).map (fun a => (a.c.concedidas, a.c.oidas)) = some (1, [(1, 1)]) := by decide +kernel
  obtain ⟨a, -, ha⟩ := Option.map_eq_some_iff.mp hres
  obtain ⟨huna, hoidas⟩ := Prod.mk.inj ha
  exact ⟨a, huna, hoidas, (w5500MqttThread_una_vez a.arranque a.marcha).mpr ⟨huna, by simp [hoidas]⟩⟩

/-- After the second connection there are two entries and the command is heard twice. -/
theorem Broker.dos_veces : ∃ a : Broker.Llega, a.t.1.currentState = .mqttOperational ∧ entradas a.t.2 = 2 ∧
    oidas 4 a.t = [2] := by
  have hres : (Broker.vueltas 5).map (fun a => (a.t.1.currentState, entradas a.t.2, oidas 4 a.t)) =
      some (.mqttOperational, 2, [2]) := by decide +kernel
  obtain ⟨a, -, ha⟩ := Option.map_eq_some_iff.mp hres
  simp only [Prod.mk.injEq] at ha
  exact ⟨a, ha⟩

theorem w5500MqttThread_dos_veces : ¬ ∀ (s s₀ : Sistema (Test Broker)) (m₀ : Maquina) (c : Recuento)
    (t : Maquina × Sistema (Test Broker)), arranque s = .ok m₀ s₀ → Marcha (m₀, s₀) c t →
    t.1.currentState = .mqttOperational → UnaVez c t := by
  intro h
  obtain ⟨a, hop, hdos, -⟩ := Broker.dos_veces
  have huna := (h _ a.s₀ a.m₀ a.c a.t a.arranque a.marcha hop).1
  omega

end Automata

end Wiznet
