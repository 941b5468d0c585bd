import Wiznet.Mqtt.Ajena
import Wiznet.Mqtt.Example

/-!
# What the example thread has no business with

The runs of `threadYield` (`Corrida`), the calls of `MQTTYield` in a round (`yields`), the parts of the world that only
its DHCP steps may change (`AjenaWizchip`), and what a round does to them (`triple_threadYieldVuelta`): no more than its
DHCP step does.
-/

namespace Wiznet

open Stateful Wizchip

variable {W : Type} [Wizchip W] {γ : Type}

/-- The tops of the loop that a run of `threadYield` goes through, from the one its start-up leaves. -/
def Corrida (s₀ : Sistema W) (tops : List (Locales × Sistema W)) : Prop :=
  Trace (fun t t' => ∃ fuel, threadYieldVuelta fuel t.1 t.2 = .ok t'.1 t'.2) ({}, s₀) tops

/-! ### The calls of `MQTTYield` -/

/-- A round down to its first call of `MQTTYield`, and whether it gets there. -/
def hastaYield (fuel : Nat) (l : Locales) : MqttM W Bool := do
  let phyReg ← llama getPHYCFGR
  if phyReg &&& 0x01 = 0 then return false
  else do
    let _ ← pasoDHCP fuel l
    compruebaSocket
    return (← get).client.isconnected ≠ 0

/-- The calls of `MQTTYield` of a round with the client connected: the time they are given, and where they start. -/
def yields (fuel : Nat) (l : Locales) (s : Sistema W) : List (UInt32 × Sistema W) :=
  match hastaYield fuel l s with
  | .ok true s₁ =>
    match MQTT.yield fuel 150 s₁ with
    | .ok _ s₂ => [(150, s₁), (0, s₂)]
    | .error _ _ => [(150, s₁)]
  | _ => []

/-- A round, part by part. -/
theorem vuelta_cases {fuel : Nat} {l l' : Locales} {s s' : Sistema W} (h : threadYieldVuelta fuel l s = .ok l' s') :
    ∃ phyReg s₀, llama getPHYCFGR s = .ok phyReg s₀ ∧
      ((phyReg &&& 0x01 = 0 ∧ yields fuel l s = [] ∧ sinCable l s₀ = .ok l' s') ∨
      (phyReg &&& 0x01 ≠ 0 ∧ ∃ l₁ s₁ s₂, pasoDHCP fuel l s₀ = .ok l₁ s₁ ∧ compruebaSocket s₁ = .ok () s₂ ∧
        (s₂.client.isconnected ≠ 0 → hastaYield fuel l s = .ok true s₂ ∧
          ∃ s₃ s₄ l₅ s₅ rc rc', yields fuel l s = [(150, s₂), (0, s₃)] ∧ MQTT.yield fuel 150 s₂ = .ok rc s₃ ∧
            MQTT.yield fuel 0 s₃ = .ok rc' s₄ ∧ publicaCuenta fuel l₁ s₄ = .ok l₅ s₅ ∧
            llama (chThdSleepMilliseconds 50) s₅ = .ok () s'))) := by
  obtain ⟨phyReg, s₀, h0, h⟩ := ok_of_bind h
  refine ⟨phyReg, s₀, h0, ?_⟩
  by_cases hlink : phyReg &&& 0x01 = 0
  · rw [if_pos hlink] at h
    refine .inl ⟨hlink, ?_, h⟩
    unfold yields hastaYield
    rw [bind_ok h0, if_pos hlink]
    rfl
  rw [if_neg hlink] at h
  obtain ⟨l₁, s₁, h1, h⟩ := ok_of_bind h
  obtain ⟨_, s₂, h2, h⟩ := ok_of_bind h
  refine .inr ⟨hlink, l₁, s₁, s₂, h1, h2, fun hconn => ?_⟩
  have hhasta : hastaYield fuel l s = .ok true s₂ := by
    unfold hastaYield
    rw [bind_ok h0, if_neg hlink, bind_ok h1, bind_ok h2]
    show EStateM.Result.ok (decide (s₂.client.isconnected ≠ 0)) s₂ = _
    rw [decide_eq_true hconn]
  obtain ⟨_, s₃, h3, h⟩ := ok_of_bind h
  obtain ⟨rc', s₄, h4, h⟩ := ok_of_bind h
  obtain ⟨l₅, s₅, h5, h⟩ := ok_of_bind h
  obtain ⟨_, s₆, h6, h⟩ := ok_of_bind h
  cases h
  obtain ⟨_, _, hget, h3⟩ := ok_of_bind h3
  cases hget
  rw [if_neg hconn] at h3
  obtain ⟨rc, _, hy, h3⟩ := ok_of_bind h3
  cases h3
  refine ⟨hhasta, s₃, s₄, l₅, s₅, rc, rc', ?_, hy, h4, h5, h6⟩
  unfold yields
  rw [hhasta]
  simp only [hy]

theorem intact_publicaCuenta {v : Sistema W → γ} (hv : Ajena v) (htick : ∀ n, Intact v (llama (tickLed n)))
    (fuel : Nat) (l : Locales) : Intact v (publicaCuenta (W := W) fuel l) := by
  refine intact_ite (Intact.bind ?_ fun _ => intact_pure _) (intact_pure _)
  refine (MQTT.intact_publish_qos0 hv _ _ rfl).bind fun _ => intact_ite ?_ (intact_pure _)
  exact (htick _).bind fun _ => intact_pure _

/-! ### Parts of the world -/

/-- A part of the world that has to do with nothing but what comes in and the DHCP client. -/
structure AjenaSalida (u : W → γ) : Prop where
  getPHYCFGR : ∀ w, u (getPHYCFGR w).2 = u w
  getSnSR : ∀ sn w, u (getSnSR sn w).2 = u w
  socket : ∀ sn protocol port flag w, u (socket sn protocol port flag w).2 = u w
  connect : ∀ sn addr port w, u (connect sn addr port w).2 = u w
  disconnect : ∀ sn w, u (disconnect sn w).2 = u w
  close : ∀ sn w, u (close sn w).2 = u w
  send : ∀ sn bs w, u (send sn bs w).2 = u w
  chVTGetSystemTime : ∀ w, u (chVTGetSystemTime w).2 = u w
  chThdSleepMilliseconds : ∀ n w, u (chThdSleepMilliseconds n w).2 = u w
  tickLed : ∀ n w, u (tickLed n w).2 = u w
  ledControl : ∀ state w, u (ledControl state w).2 = u w

/-- A part of the world that has to do with the DHCP client only. -/
structure AjenaWizchip (u : W → γ) : Prop extends AjenaSalida u where
  getSnRXRSR : ∀ sn w, u (getSnRXRSR sn w).2 = u w
  recv : ∀ sn len w, u (recv sn len w).2 = u w

variable {u : W → γ}

section Salida

variable (hu : AjenaSalida u)
include hu

theorem intact_messageArrived (md : MessageData) : Intact u (messageArrived md) := by
  have hoff : Intact u (if esOrden md.message.payload (literal ['O', 'F', 'F']) then modifyGet (ledControl 0)
      else pure () : EStateM Parada W Unit) := intact_ite (intact_modifyGet (hu.ledControl 0)) (intact_pure _)
  unfold messageArrived
  split
  · exact intact_throw _
  · exact intact_pure _
  · refine intact_ite (intact_throw _) (intact_ite ?_ hoff)
    exact (intact_modifyGet (hu.ledControl 1)).bind fun _ => hoff

theorem intact_w5x00Write (bs : List UInt8) (time : Int) : Intact u (w5x00Write (W := W) bs time) := by
  unfold w5x00Write
  refine (intact_modifyGet (hu.getSnSR _)).bind fun sr => intact_ite ?_ (intact_pure _)
  exact intact_modifyGet (hu.send _ _)

end Salida

variable (hu : AjenaWizchip u)
include hu

theorem intact_w5x00Read (len : Nat) (time : Int) : Intact u (w5x00Read (W := W) len time) := by
  unfold w5x00Read
  refine (intact_modifyGet (hu.getSnSR _)).bind fun sr => intact_ite ?_ (intact_pure _)
  refine (intact_modifyGet (hu.getSnRXRSR _)).bind fun rsr => intact_ite ?_ (intact_pure _)
  exact (intact_modifyGet (hu.recv _ _)).bind fun _ => intact_pure _

theorem AjenaWizchip.ajenaPuerto : AjenaPuerto u where
  timerIsExpired _ w := hu.chVTGetSystemTime w
  timerCountdownMS _ w := hu.chVTGetSystemTime w
  timerCountdown _ w := hu.chVTGetSystemTime w
  timerLeftMS _ w := hu.chVTGetSystemTime w
  mqttread := intact_w5x00Read hu
  mqttwrite := intact_w5x00Write hu.toAjenaSalida
  messageHandler h md := match h with
    | .messageArrived => intact_messageArrived hu.toAjenaSalida md

theorem AjenaWizchip.ajena : AjenaSuscripcion (fun s : Sistema W => u s.mundo) := hu.ajenaPuerto.ajena

theorem intact_mqttNetworkInit : Intact (fun s : Sistema W => u s.mundo) (mqttNetworkInit (W := W)) :=
  (intact_llama (hu.socket _ _ _ _)).bind fun _ =>
    (intact_llama (hu.connect _ _ _)).bind fun _ => intact_ite (intact_pure _) (intact_pure _)

theorem intact_mqttConnectBroker (fuel : Nat) :
    Intact (fun s : Sistema W => u s.mundo) (mqttConnectBroker (W := W) fuel) :=
  Intact.bind (intact_modify fun _ => rfl) fun _ =>
    (MQTT.intact_connect hu.ajena.toAjenaConexion fuel _).bind fun _ => intact_ite (intact_pure _) (intact_pure _)

theorem intact_mqttSubscribe (fuel : Nat) (topic : List UInt8) :
    Intact (fun s : Sistema W => u s.mundo) (mqttSubscribe (W := W) fuel topic) :=
  (MQTT.intact_subscribe hu.ajena fuel _ _ _).bind fun _ => intact_ite (intact_pure _) (intact_pure _)

theorem intact_compruebaSocket : Intact (fun s : Sistema W => u s.mundo) (compruebaSocket (W := W)) := by
  refine (intact_llama (hu.getSnSR _)).bind fun sStatus => intact_ite ?_ (intact_pure _)
  exact Intact.bind (intact_modify fun _ => rfl) fun _ => (intact_llama (hu.close _)).bind fun _ => intact_pure _

theorem intact_recuperaOAtiende (fuel : Nat) :
    Intact (fun s : Sistema W => u s.mundo) (recuperaOAtiende (W := W) fuel) := by
  refine Intact.bind intact_get fun s => intact_ite ?_ ?_
  · refine (intact_llama (hu.disconnect _)).bind fun _ => (intact_mqttNetworkInit hu).bind fun _ => ?_
    exact (intact_mqttConnectBroker hu fuel).bind fun _ => intact_pure _
  · exact (MQTT.intact_yield hu.ajena.toAjenaCliente _ _).bind fun _ => intact_pure _

theorem intact_acabaVuelta (fuel : Nat) (l : Locales) :
    Intact (fun s : Sistema W => u s.mundo) (acabaVuelta (W := W) fuel l) := by
  refine (MQTT.intact_yield hu.ajena.toAjenaCliente _ _).bind fun _ => ?_
  refine (intact_publicaCuenta hu.ajena.toAjena (fun n => intact_llama (hu.tickLed n)) fuel l).bind fun l => ?_
  exact (intact_llama (hu.chThdSleepMilliseconds _)).bind fun _ => intact_pure _

/-- `threadYield` from its call of `mqtt_network_init` on. -/
theorem intact_threadYieldArranque_resto (fuel : Nat) : Intact (fun s : Sistema W => u s.mundo) (do
    let _ ← mqttNetworkInit
    let _ ← mqttConnectBroker fuel
    if (← mqttSubscribe fuel STM32_SUB) ≠ 0 then llama (tickLed 100) : MqttM W Unit) := by
  refine (intact_mqttNetworkInit hu).bind fun _ => (intact_mqttConnectBroker hu fuel).bind fun _ => ?_
  exact (intact_mqttSubscribe hu fuel _).bind fun _ => intact_ite (intact_llama (hu.tickLed _)) (intact_pure _)

/-! ### A round -/

section Vuelta

variable {P : W → Prop} {I H J F : γ → Prop}

theorem triple_sinCable (l : Locales) (hquieto : ∀ g, H g → I g) (hstop : ∀ w, H (u w) → I (u (dhcpStop w).2))
    (hF : ∀ g, I g → F g) :
    Triple (fun s : Sistema W => H (u s.mundo)) (sinCable l) (fun _ s => I (u s.mundo)) fun s => F (u s.mundo) := by
  have hduerme : Triple (fun s : Sistema W => I (u s.mundo)) (llama (chThdSleepMilliseconds 100))
      (fun _ s => I (u s.mundo)) fun s => F (u s.mundo) :=
    ((intact_llama (hu.chThdSleepMilliseconds 100)).triple I).weaken (fun _ h => h) (fun _ _ h => h) fun _ h => hF _ h
  have hpara : Triple (fun s : Sistema W => H (u s.mundo)) (llama dhcpStop) (fun _ s => I (u s.mundo))
      fun s => F (u s.mundo) := triple_modifyGet fun s hs => hstop _ hs
  refine triple_ite (fun _ => ?_) fun _ => ?_
  · exact hpara.bind fun _ => hduerme.bind fun _ => triple_pure fun _ h => h
  · exact (hduerme.weaken (fun _ h => hquieto _ h) (fun _ _ h => h) fun _ h => h).bind fun _ => triple_pure fun _ h => h

theorem triple_pasoDHCP {fuel : Nat} (l : Locales)
    (hrun : Triple P (dhcpRun fuel) (fun ret w => if ret = DHCP_FAILED then J (u w) else I (u w)) fun w => F (u w))
    (hinit : ∀ w, J (u w) → I (u (dhcpInit DHCP_SOCKET_NUM DNS_BUFFER_SIZE w).2)) :
    Triple (fun s : Sistema W => P s.mundo) (pasoDHCP fuel l) (fun _ s => I (u s.mundo)) fun s => F (u s.mundo) := by
  refine (triple_puerto hrun).bind fun ret => triple_ite (fun hret => ?_) fun hret => triple_pure fun s hs => ?_
  · have hduerme : Triple (fun s : Sistema W => if ret = DHCP_FAILED then J (u s.mundo) else I (u s.mundo))
        (llama (chThdSleepMilliseconds 100)) (fun _ s => J (u s.mundo)) fun s => F (u s.mundo) := by
      refine triple_modifyGet fun s hs => ?_
      rw [if_pos hret] at hs
      exact (hu.chThdSleepMilliseconds 100 s.mundo).symm ▸ hs
    refine hduerme.bind fun _ => ?_
    have hcomienza : Triple (fun s : Sistema W => J (u s.mundo)) (llama (dhcpInit DHCP_SOCKET_NUM DNS_BUFFER_SIZE))
        (fun _ s => I (u s.mundo)) fun s => F (u s.mundo) := triple_modifyGet fun s hs => hinit _ hs
    exact hcomienza.bind fun _ => triple_pure fun _ h => h
  · rwa [if_neg hret] at hs

/-- A round does what its DHCP step does, or what it does without the cable. -/
theorem triple_threadYieldVuelta {B : W → Prop} (fuel : Nat) (l : Locales)
    (hfuera : ∀ w, B w → (getPHYCFGR w).1 &&& 0x01 = 0 → H (u w)) (hquieto : ∀ g, H g → I g)
    (hstop : ∀ w, H (u w) → I (u (dhcpStop w).2))
    (hdentro : ∀ w, B w → (getPHYCFGR w).1 &&& 0x01 ≠ 0 → P (getPHYCFGR w).2)
    (hrun : Triple P (dhcpRun fuel) (fun ret w => if ret = DHCP_FAILED then J (u w) else I (u w)) fun w => F (u w))
    (hinit : ∀ w, J (u w) → I (u (dhcpInit DHCP_SOCKET_NUM DNS_BUFFER_SIZE w).2)) (hF : ∀ g, I g → F g) :
    Triple (fun s : Sistema W => B s.mundo) (threadYieldVuelta fuel l) (fun _ s => I (u s.mundo))
      fun s => F (u s.mundo) := by
  have hcable : Triple (fun s : Sistema W => B s.mundo) (llama getPHYCFGR)
      (fun phyReg s => if phyReg &&& 0x01 = 0 then H (u s.mundo) else P s.mundo) fun s => F (u s.mundo) := by
    refine triple_modifyGet fun s hs => ?_
    show if (getPHYCFGR s.mundo).1 &&& 0x01 = 0 then H (u (getPHYCFGR s.mundo).2) else P (getPHYCFGR s.mundo).2
    split
    case isTrue h => exact (hu.getPHYCFGR s.mundo).symm ▸ hfuera _ hs h
    case isFalse h => exact hdentro _ hs h
  refine hcable.bind fun phyReg => triple_ite (fun h => ?_) fun h => ?_
  · exact (triple_sinCable hu l hquieto hstop hF).weaken (fun s hs => by rwa [if_pos h] at hs) (fun _ _ h => h)
      fun _ h => h
  have hpaso : Triple (fun s : Sistema W => if phyReg &&& 0x01 = 0 then H (u s.mundo) else P s.mundo)
      (pasoDHCP fuel l) (fun _ s => I (u s.mundo)) fun s => F (u s.mundo) :=
    (triple_pasoDHCP hu l hrun hinit).weaken (fun s hs => by rwa [if_neg h] at hs) (fun _ _ h => h) fun _ h => h
  refine hpaso.bind fun l => ?_
  have hresto : Intact (fun s : Sistema W => u s.mundo) (do
      compruebaSocket
      recuperaOAtiende fuel
      acabaVuelta fuel l : MqttM W Locales) :=
    (intact_compruebaSocket hu).bind fun _ =>
      (intact_recuperaOAtiende hu fuel).bind fun _ => intact_acabaVuelta hu fuel l
  exact (hresto.triple I).weaken (fun _ h => h) (fun _ _ h => h) fun _ h => hF _ h

end Vuelta

/-- The start-up keeps what `W5500_Init` keeps. -/
theorem triple_threadYieldArranque {P : W → Prop} {I F : γ → Prop} {fuel : Nat}
    (hinit : Triple P (w5500Init fuel) (fun _ w => I (u w)) fun w => F (u w)) (hF : ∀ g, I g → F g) :
    Triple (fun s : Sistema W => P s.mundo) (threadYieldArranque fuel) (fun _ s => I (u s.mundo))
      fun s => F (u s.mundo) := by
  refine (triple_puerto hinit).bind fun _ => ?_
  exact ((intact_threadYieldArranque_resto hu fuel).triple I).weaken (fun _ h => h) (fun _ _ h => h) fun _ h => hF _ h

end Wiznet
