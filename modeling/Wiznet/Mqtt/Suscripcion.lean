import Wiznet.Mqtt.Hilo
import Wiznet.Mqtt.Vista

/-!
# The subscription to the commands

Whether the client, when it is connected, hears the commands of `stm32/sub`.  The start-up of `threadYield` subscribes;
its recovery of a lost connection empties the table of handlers, connects with a clean session and does not subscribe
again.  So the subscription holds at the top of every round just when the broker acknowledged it at the start-up, if it
took the connection there, and has taken no other connection since.
-/

namespace Wiznet

open Stateful Wizchip

def Suceso.esConnack : Suceso → Bool
  | .connack _ => true
  | .suback .. => false

/-- The answers on the last connection the broker answered to. -/
def enConexion (sucesos : List Suceso) : List Suceso := sucesos.takeWhile fun e => !e.esConnack

/-- Among the answers there is a SUBACK to a SUBSCRIBE for the commands that grants it. -/
def Confirmada (sucesos : List Suceso) : Prop :=
  ∃ packetid q, 0 ≤ q ∧ q ≤ 2 ∧ Suceso.suback STM32_SUB packetid packetid q ∈ sucesos

variable {W : Type} [Wizchip W]

/-- A client that is connected has a handler for the commands, and the broker has acknowledged the subscription. -/
def Vista.Suscrita (v : Vista W) : Prop :=
  v.isconnected = 1 →
    ⟨some STM32_SUB, some Manejador.messageArrived⟩ ∈ v.messageHandlers.entradas ∧ Confirmada (enConexion v.sucesos)

def Suscrito (s : Sistema W) : Prop := (vista s).Suscrita

/-! ### The start-up -/

theorem keeps_mqttNetworkInit : Keeps vista (mqttNetworkInit (W := W)) :=
  (keeps_llama _).bind fun _ => (keeps_llama _).bind fun _ => keeps_ite (keeps_pure _) (keeps_pure _)

theorem leads_mqttConnectBroker (fuel : Nat) :
    Leads vista (fun v _ v' => Conecta v v' ∧ v'.messageHandlers = v.messageHandlers.vacia)
      (mqttConnectBroker (W := W) fuel) := by
  have hconnect := MQTT.leads_connect (W := W) fuel opcionesConnect
  refine (MQTT.leads_clientInit _ _ _).bind (fun _ => hconnect.bind_keeps (fun rc => ?_) fun _ _ _ _ h => h) ?_
  · exact keeps_ite (keeps_pure _) (keeps_pure _)
  · rintro v _ _ _ v'' rfl ⟨hc, hm⟩
    refine ⟨?_, hm⟩
    cases hc with
    | callado hc hs => exact .callado hc hs
    | rechazado c hne hc hs => exact .rechazado c hne hc hs
    | aceptado hc hs => exact .aceptado hc hs

theorem leads_mqttSubscribe (fuel : Nat) (topic : List UInt8) :
    Leads vista (fun v _ v' => Suscribe topic Manejador.messageArrived v v') (mqttSubscribe (W := W) fuel topic) :=
  (MQTT.leads_subscribe _ _ _ _).bind_keeps (fun _ => keeps_ite (keeps_pure _) (keeps_pure _)) fun _ _ _ _ h => h

theorem leads_threadYieldArranque (fuel : Nat) :
    Leads vista (fun v _ v'' => ∃ v', Conecta v v' ∧ v'.messageHandlers = v.messageHandlers.vacia ∧
      Suscribe STM32_SUB Manejador.messageArrived v' v'') (threadYieldArranque (W := W) fuel) := by
  refine (keeps_puerto _).bind_leads fun _ => keeps_mqttNetworkInit.bind_leads fun _ => ?_
  have hsubscribe := leads_mqttSubscribe (W := W) fuel STM32_SUB
  refine (leads_mqttConnectBroker fuel).bind
    (fun _ => hsubscribe.bind_keeps (fun rc => keeps_ite (keeps_llama _) (keeps_pure _)) fun _ _ _ _ h => h) ?_
  rintro v _ v' _ v'' ⟨hc, hm⟩ hs
  exact ⟨v', hc, hm, hs⟩

theorem Vista.suscrita_of_isconnected {v : Vista W} (h : v.isconnected = 0) : v.Suscrita := by
  intro h1
  rw [h] at h1
  cases h1

theorem not_confirmada_nil : ¬ Confirmada [] := by
  rintro ⟨_, _, _, _, h⟩
  cases h

theorem confirmada_cons_connack {c : UInt8} {τ : List Suceso} : Confirmada (.connack c :: τ) ↔ Confirmada τ := by
  simp [Confirmada]

/-- Without a connection there is nothing to acknowledge; with one, the acknowledgement comes with the handler. -/
theorem Conecta.suscrita {v v' v'' : Vista W} (hv : v.sucesos = []) (hc : Conecta v v')
    (hm : v'.messageHandlers = v.messageHandlers.vacia) (hs : Suscribe STM32_SUB Manejador.messageArrived v' v'') :
    v''.Suscrita ↔ (.connack 0 ∈ v''.sucesos → Confirmada v''.sucesos) := by
  have hisc : v''.isconnected = v'.isconnected := by
    cases hs with
    | callado hc _ => exact hc
    | contestado _ _ _ hc _ _ => exact hc
  have hmem : .connack 0 ∈ v''.sucesos ↔ .connack 0 ∈ v'.sucesos := by
    cases hs with
    | callado _ hs => rw [hs]
    | contestado _ _ _ _ hs _ => simp [hs]
  cases hc with
  | callado hc hs' =>
    have hno : .connack 0 ∉ v''.sucesos := by simp [hmem, hs', hv]
    exact iff_of_true (Vista.suscrita_of_isconnected (hisc.trans hc)) fun h => absurd h hno
  | rechazado c hne hc hs' =>
    have hno : .connack 0 ∉ v''.sucesos := by simp [hmem, hs', hv, Ne.symm hne]
    exact iff_of_true (Vista.suscrita_of_isconnected (hisc.trans hc)) fun h => absurd h hno
  | aceptado hc hs' =>
    have hsi : .connack 0 ∈ v''.sucesos := by simp [hmem, hs']
    have h1 : v''.isconnected = 1 := hisc.trans hc
    simp only [Vista.Suscrita, h1, hsi, forall_const]
    cases hs with
    | callado _ hs =>
      simp [hs, hs', hv, enConexion, Suceso.esConnack, confirmada_cons_connack, not_confirmada_nil]
    | contestado e r q _ hs hreg =>
      rw [hs, hs', hv]
      have hconf : Confirmada (enConexion [.suback STM32_SUB e r q, .connack 0]) ↔
          Confirmada [.suback STM32_SUB e r q, .connack 0] := by
        simp [enConexion, Suceso.esConnack, Confirmada]
      rw [hconf]
      refine ⟨And.right, fun h => ⟨?_, h⟩⟩
      obtain ⟨packetid, q', hq0, hq2, hin⟩ := h
      have hq : q ≠ 0x80 := by
        simp at hin
        omega
      obtain ⟨t, ht⟩ := v.messageHandlers.registra_vacia STM32_SUB (some Manejador.messageArrived)
      rw [hreg hq, hm, ht]
      exact TablaHandlers.mem_registra ht

theorem arranque_suscrito {fuel : Nat} {w : W} {s : Sistema W}
    (h : threadYieldArranque fuel (Sistema.inicial w) = .ok () s) :
    Suscrito s ↔ (.connack 0 ∈ s.sucesos → Confirmada s.sucesos) := by
  obtain ⟨v', hc, hm, hs⟩ := leads_threadYieldArranque fuel _ _ _ h
  exact hc.suscrita rfl hm hs

/-! ### A round -/

/-- What a round does to the connection: nothing; it goes down, or stays down after an attempt; it comes back. -/
inductive Ronda (v v' : Vista W) : Prop where
  | igual (h : v' = v)
  | caida (hc : v'.isconnected = 0) (hs : v'.sucesos.count (.connack 0) = v.sucesos.count (.connack 0))
  | reconexion (hc : v'.isconnected = 1) (hm : v'.messageHandlers = v.messageHandlers.vacia)
      (hs : v'.sucesos = .connack 0 :: v.sucesos)

theorem keeps_sinCable (l : Locales) : Keeps vista (sinCable (W := W) l) := by
  have hduerme : Keeps vista (llama (W := W) (chThdSleepMilliseconds 100)) := keeps_llama _
  exact keeps_ite ((keeps_llama _).bind fun _ => hduerme.bind fun _ => keeps_pure _)
    (hduerme.bind fun _ => keeps_pure _)

theorem keeps_pasoDHCP (fuel : Nat) (l : Locales) : Keeps vista (pasoDHCP (W := W) fuel l) := by
  refine (keeps_puerto _).bind fun dhcpStatus => keeps_ite ?_ (keeps_pure _)
  exact (keeps_llama _).bind fun _ => (keeps_llama _).bind fun _ => keeps_pure _

theorem leads_compruebaSocket :
    Leads vista (fun v _ v' => v' = v ∨ v' = { v with isconnected := 0 }) (compruebaSocket (W := W)) := by
  refine (keeps_llama _).bind_leads fun sStatus => leads_ite (fun _ => ?_) fun _ => leads_pure fun _ => .inl rfl
  have hpone : Leads vista (fun v _ v' => v' = { v with isconnected := 0 })
      (modificaCliente (W := W) fun c => { c with isconnected := 0 }) := leads_modify fun _ => rfl
  exact hpone.bind_keeps (fun _ => (keeps_llama _).bind fun _ => keeps_pure _) fun _ _ _ _ h => .inr h

theorem leads_recuperaOAtiende (fuel : Nat) :
    Leads vista (fun v _ v' => v' = v ∨ (Conecta v v' ∧ v'.messageHandlers = v.messageHandlers.vacia))
      (recuperaOAtiende (W := W) fuel) := by
  refine Keeps.bind_leads keeps_get fun s => leads_ite (fun _ => ?_) fun _ => ?_
  · refine (keeps_llama _).bind_leads fun _ => keeps_mqttNetworkInit.bind_leads fun _ => ?_
    exact (leads_mqttConnectBroker fuel).bind_keeps (fun _ => keeps_pure _) fun _ _ _ _ h => .inr h
  · exact ((MQTT.keeps_yield _ _).bind fun _ => keeps_pure _).leads fun _ _ => .inl rfl

theorem keeps_publicaCuenta (fuel : Nat) (l : Locales) : Keeps vista (publicaCuenta (W := W) fuel l) := by
  refine keeps_ite ?_ (keeps_pure _)
  refine Keeps.bind ((MQTT.keeps_publish _ _ _).bind fun rc => keeps_ite ?_ (keeps_pure _)) fun _ => keeps_pure _
  exact (keeps_llama _).bind fun _ => keeps_pure _

theorem keeps_acabaVuelta (fuel : Nat) (l : Locales) : Keeps vista (acabaVuelta (W := W) fuel l) := by
  refine (MQTT.keeps_yield _ _).bind fun _ => (keeps_publicaCuenta _ _).bind fun _ => ?_
  exact (keeps_llama _).bind fun _ => keeps_pure _

theorem leads_threadYieldVuelta (fuel : Nat) (l : Locales) :
    Leads vista (fun v _ v' => Ronda v v') (threadYieldVuelta (W := W) fuel l) := by
  refine (keeps_llama _).bind_leads fun phyReg => leads_ite (fun _ => ?_) fun _ => ?_
  · exact (keeps_sinCable l).leads fun _ _ => .igual rfl
  refine (keeps_pasoDHCP fuel l).bind_leads fun l => leads_compruebaSocket.bind (fun _ =>
    (leads_recuperaOAtiende fuel).bind_keeps (fun _ => keeps_acabaVuelta fuel l) fun _ _ _ _ h => h) ?_
  rintro v _ v' _ v'' hcaida hrec
  have hs : v'.sucesos = v.sucesos := by rcases hcaida with rfl | rfl <;> rfl
  have hm : v'.messageHandlers = v.messageHandlers := by rcases hcaida with rfl | rfl <;> rfl
  rcases hrec with rfl | ⟨hc, hm'⟩
  · rcases hcaida with rfl | rfl
    · exact .igual rfl
    · exact .caida rfl rfl
  · rw [hm] at hm'
    cases hc with
    | callado hc hs' => exact .caida hc (by rw [hs', hs])
    | rechazado c hne hc hs' => exact .caida hc (by rw [hs', hs, List.count_cons_of_ne (by simpa using hne)])
    | aceptado hc hs' => exact .reconexion hc hm' (by rw [hs', hs])

/-! ### Runs -/

/-- An empty table hears nothing. -/
theorem Vista.not_suscrita {v : Vista W} {t : TablaHandlers W} (hc : v.isconnected = 1)
    (hm : v.messageHandlers = t.vacia) : ¬ v.Suscrita := by
  intro h
  have hin := (h hc).1
  rw [hm] at hin
  cases TablaHandlers.topicFilter_vacia hin

namespace Ronda

variable {v v' : Vista W}

theorem count_le (h : Ronda v v') : v.sucesos.count (.connack 0) ≤ v'.sucesos.count (.connack 0) := by
  cases h with
  | igual h => exact Nat.le_of_eq (by rw [h])
  | caida _ hs => exact Nat.le_of_eq hs.symm
  | reconexion _ _ hs =>
    rw [hs, List.count_cons_self]
    exact Nat.le_succ _

theorem suscrita (h : Ronda v v') (hn : v'.sucesos.count (.connack 0) = v.sucesos.count (.connack 0))
    (hv : v.Suscrita) : v'.Suscrita := by
  cases h with
  | igual h => rwa [h]
  | caida hc _ => exact Vista.suscrita_of_isconnected hc
  | reconexion _ _ hs =>
    rw [hs, List.count_cons_self] at hn
    exact absurd hn (Nat.succ_ne_self _)

theorem not_suscrita (h : Ronda v v') (hn : v'.sucesos.count (.connack 0) ≠ v.sucesos.count (.connack 0)) :
    ¬ v'.Suscrita := by
  cases h with
  | igual h => exact absurd (by rw [h]) hn
  | caida _ hs => exact absurd hs hn
  | reconexion hc hm _ => exact Vista.not_suscrita hc hm

end Ronda

/-- A run of `threadYield` whose tops end with `(l, s)`: the client has been subscribed whenever it has been connected
just when the start-up, if the broker took its connection, got the subscription acknowledged, and the broker has taken
no connection after that. -/
theorem threadYield_suscrito {fuel : Nat} {w : W} {s₀ s : Sistema W} {l : Locales} {tops : List (Locales × Sistema W)}
    (h₀ : threadYieldArranque fuel (Sistema.inicial w) = .ok () s₀) (hrun : Corrida s₀ ((l, s) :: tops)) :
    (∀ t ∈ (l, s) :: tops, Suscrito t.2) ↔
      (.connack 0 ∈ s₀.sucesos → Confirmada s₀.sucesos) ∧
        s.sucesos.count (.connack 0) = s₀.sucesos.count (.connack 0) := by
  rw [← arranque_suscrito h₀]
  refine hrun.forall_iff (P := fun t => Suscrito t.2) (n := fun t => t.2.sucesos.count (.connack 0)) ?_ ?_ ?_
  all_goals
    rintro ⟨l, s⟩ ⟨l', s'⟩ ⟨fuel, hs⟩
    have hronda : Ronda (vista s) (vista s') := leads_threadYieldVuelta fuel l _ _ _ hs
  · exact hronda.count_le
  · exact hronda.suscrita
  · exact hronda.not_suscrita

/-! ### A broker that answers from a script -/

/-- The cable is in and the clock stands still; each connection brings the next of `respuestas`, and the DHCP steps that
`caidas` marks find the connection lost. -/
structure Guion where
  estado : UInt8
  llegado : List UInt8
  respuestas : List (List UInt8)
  caidas : List Bool

instance : Wizchip Guion where
  w5500Init _ := pure 0
  getPHYCFGR w := (1, w)
  getSnSR _ w := (w.estado, w)
  getSnRXRSR _ w := (w.llegado.length.toUInt16, w)
  socket sn _ _ _ w := (sn.toNat, w)
  connect _ _ _ w :=
    (SOCK_OK, { w with
      estado := SOCK_ESTABLISHED, llegado := w.respuestas.headD [], respuestas := w.respuestas.tail })
  disconnect _ w := (SOCK_OK, w)
  close _ w := (SOCK_OK, w)
  send _ bs w := (bs.length, w)
  recv _ len w := (.ok (w.llegado.take len.toNat), { w with llegado := w.llegado.drop len.toNat })
  dhcpInit _ _ w := ((), w)
  dhcpRun _ := modifyGet fun w =>
    (4, { w with estado := if w.caidas.headD false then SOCK_CLOSED else w.estado, caidas := w.caidas.tail })
  dhcpStop w := ((), w)
  chVTGetSystemTime w := (0, w)
  chThdSleepMilliseconds _ w := ((), w)
  tickLed _ w := ((), w)
  ledControl _ w := ((), w)

/-- The broker takes the connection and the subscription; `caida` says whether the first round finds the connection
lost, and then the broker takes the next one too. -/
def guion (caida : Bool) : Guion where
  estado := SOCK_CLOSED
  llegado := []
  respuestas := [[0x20, 2, 0, 0, 0x90, 3, 0, 2, 0], [0x20, 2, 0, 0]]
  caidas := [caida]

/-- The start-up and a round. -/
def Guion.dosTops (w : Guion) : Option (Sistema Guion × Locales × Sistema Guion) :=
  match threadYieldArranque 4 (Sistema.inicial w) with
  | .ok _ s₀ =>
    match threadYieldVuelta 4 {} s₀ with
    | .ok l s => some (s₀, l, s)
    | .error _ _ => none
  | .error _ _ => none

theorem Guion.corrida_dosTops {w : Guion} {s₀ s : Sistema Guion} {l : Locales} (h : w.dosTops = some (s₀, l, s)) :
    threadYieldArranque 4 (Sistema.inicial w) = .ok () s₀ ∧ Corrida s₀ [(l, s), ({}, s₀)] := by
  unfold dosTops at h
  split at h
  · rename_i h₀
    split at h
    · rename_i hs
      cases h
      exact ⟨h₀, .next .start ⟨4, hs⟩⟩
    · cases h
  · cases h

/-- What the broker has answered after the start-up and after the round, and whether the client ends up connected with
nothing in its table. -/
def Guion.resumen (w : Guion) : Option (List Suceso × List Suceso × Bool) :=
  w.dosTops.map fun (s₀, _, s) => (s₀.sucesos, s.sucesos,
    decide (s.client.isconnected = 1) && s.client.messageHandlers.entradas.all fun h => h.topicFilter.isNone)

theorem threadYield_suscrito_guion : ∃ (s₀ s : Sistema Guion) (l : Locales),
    threadYieldArranque 4 (Sistema.inicial (guion false)) = .ok () s₀ ∧ Corrida s₀ [(l, s), ({}, s₀)] ∧
      ∀ t ∈ [(l, s), ({}, s₀)], Suscrito t.2 := by
  have hres : (guion false).resumen =
      some ([.suback STM32_SUB 2 2 0, .connack 0], [.suback STM32_SUB 2 2 0, .connack 0], false) := by decide +kernel
  obtain ⟨⟨s₀, l, s⟩, hdos, heq⟩ := Option.map_eq_some_iff.mp hres
  simp only [Prod.mk.injEq] at heq
  obtain ⟨h₀, hrun⟩ := Guion.corrida_dosTops hdos
  refine ⟨s₀, s, l, h₀, hrun, (threadYield_suscrito h₀ hrun).mpr ⟨fun _ => ⟨2, 0, ?_⟩, ?_⟩⟩
  · simp [heq.1]
  · rw [heq.1, heq.2.1]

theorem threadYield_sordo : ¬ ∀ (fuel : Nat) (w : Guion) (s₀ : Sistema Guion) (tops : List (Locales × Sistema Guion)),
    threadYieldArranque fuel (Sistema.inicial w) = .ok () s₀ → Corrida s₀ tops → ∀ t ∈ tops, Suscrito t.2 := by
  intro h
  have hres : (guion true).resumen =
      some ([.suback STM32_SUB 2 2 0, .connack 0], [.connack 0, .suback STM32_SUB 2 2 0, .connack 0], true) := by
    decide +kernel
  obtain ⟨⟨s₀, l, s⟩, hdos, heq⟩ := Option.map_eq_some_iff.mp hres
  simp only [Prod.mk.injEq, Bool.and_eq_true, decide_eq_true_eq, List.all_eq_true] at heq
  obtain ⟨h₀, hrun⟩ := Guion.corrida_dosTops hdos
  obtain ⟨hin, -⟩ := h 4 _ s₀ _ h₀ hrun (l, s) List.mem_cons_self heq.2.2.1
  have hnone := heq.2.2.2 _ hin
  cases hnone

end Wiznet
