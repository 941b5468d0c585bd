import Wiznet.Mqtt.Ajena
import Wiznet.Automata.Thread

/-!
# The parts of a round that do not touch the client

What a property of the state has to withstand for the DHCP tick, the look at the cable and the wait after a failed
connection to keep it, and the runs of `W5500MqttThread` (`Corrida`).
-/

namespace Wiznet

namespace Automata

open Stateful Ethernet

variable {W : Type} [Ethernet W]

/-- The tops of the loop that a run goes through, from the one its start-up leaves. -/
def Corrida (t₀ : Maquina × Sistema (Test W)) (tops : List (Maquina × Sistema (Test W))) : Prop :=
  Trace (fun t t' => ∃ fuel, vuelta fuel t.1 t.2 = .ok t'.1 t'.2) t₀ tops

section Base

variable {P : W → Prop}

theorem triple_baja {α : Type} {f : W → α × W} {Q : α → W → Prop} {F : Sistema (Test W) → Prop}
    (h : ∀ w, P w → Q (f w).1 (f w).2) :
    Triple (fun s => P s.mundo.base) (baja f) (fun a s => Q a s.mundo.base) F :=
  triple_modifyGet fun s hs => h s.mundo.base hs

theorem preserves_baja {α : Type} {f : W → α × W} (h : ∀ w, P w → P (f w).2) :
    Preserves (fun s => P s.mundo.base) (baja f) := triple_baja h

theorem triple_corre {fuel : Nat} {Q : UInt8 → W → Prop} {F : W → Prop} (h : Triple P (dhcpRun fuel) Q F) :
    Triple (fun s => P s.mundo.base) (corre fuel) (fun ret s => Q ret s.mundo.base) fun s => F s.mundo.base := by
  intro s hs
  have hs' := h s.mundo.base hs
  unfold corre puerto
  cases hrun : dhcpRun fuel s.mundo.base with
  | ok ret w =>
    rw [hrun] at hs'
    simpa only [hrun] using hs'
  | error e w =>
    rw [hrun] at hs'
    simpa only [hrun] using hs'

end Base

section Vuelta

variable {P : Sistema (Test W) → Prop} {fuel : Nat}

/-- The tick changes no variable of the thread but its own. -/
theorem triple_tickDhcp (hreloj : Preserves P (baja chVTGetSystemTime)) (htick : Preserves P (baja dhcpTimeHandler))
    (hrun : Preserves P (corre fuel)) (m : Maquina) :
    Triple P (tickDhcp fuel m) (fun m' s => (∃ tick, m' = { m with lastDhcpTick := tick }) ∧ P s) P := by
  refine Triple.bind hreloj fun now => triple_ite (fun _ => ?_) fun _ => triple_pure fun s hs => ⟨⟨_, rfl⟩, hs⟩
  refine Triple.bind htick fun _ => Triple.bind hrun fun _ => Triple.bind hreloj fun tick => ?_
  exact triple_pure fun s hs => ⟨⟨tick, rfl⟩, hs⟩

theorem triple_hastaSwitch (hreloj : Preserves P (baja chVTGetSystemTime)) (htick : Preserves P (baja dhcpTimeHandler))
    (hrun : Preserves P (corre fuel)) (hcable : Preserves P (baja getphystatus)) (m : Maquina) :
    Triple P (hastaSwitch fuel m) (fun x s => (∃ tick, x.1 = { m with lastDhcpTick := tick }) ∧ P s) P := by
  refine (triple_tickDhcp hreloj htick hrun m).bind fun m' => triple_of_and fun hm => ?_
  exact Triple.bind hcable fun cable => triple_pure fun s hs => ⟨hm, hs⟩

end Vuelta

/-! ### Parts of the state with nothing below the client in them -/

section Cliente

variable {γ : Type} {v : Sistema (Test W) → γ} (h : ∀ s w, v { s with mundo := w } = v s)
include h

theorem intact_baja {α : Type} (f : W → α × W) : Intact v (baja f) := intact_llama_cliente h _

theorem intact_tickDhcp (fuel : Nat) (m : Maquina) : Intact v (tickDhcp fuel m) := by
  refine (intact_baja h _).bind fun now => intact_ite ?_ (intact_pure _)
  refine (intact_baja h _).bind fun _ => (intact_puerto_cliente h _).bind fun _ => ?_
  exact (intact_baja h _).bind fun _ => intact_pure _

theorem intact_hastaSwitch (fuel : Nat) (m : Maquina) : Intact v (hastaSwitch fuel m) :=
  (intact_tickDhcp h fuel m).bind fun _ => (intact_baja h _).bind fun _ => intact_pure _

/-- After the client is brought up the start-up leaves it alone. -/
theorem arranque_clientInit {s s₀ : Sistema (Test W)} {m₀ : Maquina} (hok : arranque s = .ok m₀ s₀) :
    ∃ s₁ s₂, MQTT.clientInit 1000 MQTT_BUFFER_SIZE MQTT_BUFFER_SIZE s₁ = .ok ⟨⟩ s₂ ∧ v s₀ = v s₂ := by
  have hbaja : ∀ {α : Type} (f : W → α × W), Intact v (baja f) := intact_baja h
  obtain ⟨_, s₁, h1, hok⟩ := ok_of_bind hok
  obtain ⟨_, s₂, h2, hok⟩ := ok_of_bind hok
  have hresto : Intact v (do
      let lastDhcpTick ← baja chVTGetSystemTime
      baja (setnetinfo dummyNet)
      baja (dhcpInit DHCP_SOCKET_NUM DHCP_RX_BUFFER_SIZE)
      baja regDhcpCbfunc
      return ({ lastDhcpTick := lastDhcpTick } : Maquina)) := by
    refine (hbaja _).bind fun tick => (hbaja _).bind fun _ => (hbaja _).bind fun _ => ?_
    exact (hbaja _).bind fun _ => intact_pure _
  exact ⟨s₁, s₂, h2, hresto.keeps _ _ _ hok⟩

theorem intact_sinCable (m : Maquina) : Intact v (sinCable m) := by
  have hduerme := (intact_baja h (chThdSleepMilliseconds 500)).bind fun _ =>
    intact_pure (v := v) (ε := Parada) { m with currentState := .initNetwork }
  exact intact_ite ((intact_baja h _).bind fun _ => (intact_baja h _).bind fun _ => hduerme) hduerme

theorem intact_caseInitNetwork (fuel : Nat) (m : Maquina) : Intact v (caseInitNetwork fuel m) :=
  (intact_puerto_cliente h _).bind fun _ => (intact_baja h _).bind fun _ => intact_pure _

theorem intact_esperaBackoff (fuel : Nat) (backoffStart : UInt32) (n : Nat) (m : Maquina) :
    Intact v (esperaBackoff fuel backoffStart n m) := by
  induction n generalizing m with
  | zero => exact intact_throw _
  | succ n ih =>
    refine (intact_baja h _).bind fun now => intact_ite ?_ (intact_pure _)
    refine (intact_tickDhcp h fuel m).bind fun m => (intact_baja h _).bind fun cable => ?_
    exact intact_ite ((intact_baja h _).bind fun _ => ih m) (intact_pure _)

theorem intact_abreConexion (hv : AjenaConexion v) (fuel : Nat) : Intact v (abreConexion (W := W) fuel) := by
  refine (intact_baja h _).bind fun _ => (intact_baja h _).bind fun sn => intact_ite ?_ (intact_pure _)
  refine (intact_baja h _).bind fun ret => intact_ite ?_ (intact_pure _)
  exact (MQTT.intact_connect hv _ _).bind fun rc => intact_pure _

theorem intact_caseMqttOperational (hv : AjenaCliente v) (fuel : Nat) (m : Maquina) :
    Intact v (caseMqttOperational (W := W) fuel m) := by
  have hsigue : Intact v (sigueConectado (W := W) fuel) :=
    (MQTT.intact_yield hv _ _).bind fun rc =>
      intact_ite (intact_pure _) ((intact_baja h _).bind fun sr => intact_pure _)
  refine hsigue.bind fun sigue => intact_ite ?_ (intact_pure _)
  exact (MQTT.intact_publish_qos0 hv.toAjena _ _ rfl).bind fun rc => (intact_baja h _).bind fun _ => intact_pure _

theorem intact_caseConnectBroker (hv : AjenaSuscripcion v) (fuel : Nat) (m : Maquina) :
    Intact v (caseConnectBroker (W := W) fuel m) := by
  refine (intact_abreConexion h hv.toAjenaConexion fuel).bind fun abierta => intact_ite ?_ ?_
  · exact (MQTT.intact_subscribe hv _ _ _ _).bind fun _ => intact_pure _
  · exact (intact_baja h _).bind fun start => intact_esperaBackoff h _ _ _ _

theorem intact_vuelta (hv : AjenaSuscripcion v) (fuel : Nat) (m : Maquina) : Intact v (vuelta (W := W) fuel m) := by
  have hswitch : ∀ m, Intact v («switch» (W := W) fuel m) := by
    intro m
    unfold «switch»
    split
    · exact intact_caseInitNetwork h fuel m
    · exact intact_caseConnectBroker h hv fuel m
    · exact intact_caseMqttOperational h hv.toAjenaCliente fuel m
  exact (intact_hastaSwitch h fuel m).bind fun x => intact_ite (hswitch _) (intact_sinCable h _)

end Cliente

end Automata

end Wiznet
