import Wiznet.Mqtt.Hilo

/-!
# A broker that says nothing

What becomes of a connection whose broker does not answer a PINGREQ while the socket stays open.  The keep-alive does
fail, and nobody looks at how it ends: the loop never goes through its reconnection branch.
-/

namespace Wiznet

open Stateful Wizchip

section Hilo

variable {W : Type} [Wizchip W]

/-- The `packet_type` of the call of `cycle` in a call of `MQTTYield`. -/
def tipoPaquete (y : UInt32 × Sistema W) : Option Int :=
  match (llama (Puerto.timerCountdownMS (W := W) y.1) >>= MQTT.readPacket) y.2 with
  | .ok type _ => some (type % 65536)
  | .error _ _ => none

/-- The status of the socket that a round reads, with the cable in. -/
def estadoSocket (fuel : Nat) (t : Locales × Sistema W) : Option UInt8 :=
  match (do
    if (← llama getPHYCFGR) &&& 0x01 = 0 then return none
    else do
      let _ ← pasoDHCP fuel t.1
      return some (← llama (getSnSR MQTT_SOCKET)) : MqttM W (Option UInt8)) t.2 with
  | .ok sr _ => sr
  | .error _ _ => none

/-- In the round that starts here the socket is found open and no PINGRESP is processed. -/
def Callada (fuel : Nat) (t : Locales × Sistema W) : Prop :=
  (∀ sr ∈ estadoSocket fuel t, sr = SOCK_ESTABLISHED) ∧
    ∀ y ∈ yields fuel t.1 t.2, tipoPaquete y ≠ some PINGRESP.toNat

instance (fuel : Nat) (t : Locales × Sistema W) : Decidable (Callada fuel t) := inferInstanceAs (Decidable (_ ∧ _))

/-- A round without an answer to the PINGREQ. -/
def VueltaCallada (t t' : Locales × Sistema W) : Prop :=
  ∃ fuel, Callada fuel t ∧ threadYieldVuelta fuel t.1 t.2 = .ok t'.1 t'.2

/-- The client thinks it is connected and waits for a PINGRESP. -/
def Espera (s : Sistema W) : Prop := s.client.isconnected = 1 ∧ s.client.pingOutstanding = 1

instance (s : Sistema W) : Decidable (Espera s) := inferInstanceAs (Decidable (_ ∧ _))

/-! ### A call of `MQTTYield` -/

def latido (s : Sistema W) : Int × UInt8 := (s.client.isconnected, s.client.pingOutstanding)

theorem ajena_latido : Ajena (latido (W := W)) := ajena_cliente (fun _ _ => rfl) (fun _ _ => rfl) fun _ _ => rfl

theorem ajenaLectura_latido : AjenaLectura (latido (W := W)) where
  toAjena := ajena_latido
  mqttread _ _ := intact_puerto_cliente (fun _ _ => rfl) _
  readbuf _ _ := rfl

theorem ajenaReparto_latido : AjenaReparto (latido (W := W)) where
  toAjena := ajena_latido
  messageHandler _ _ := intact_puerto_cliente (fun _ _ => rfl) _

/-- What neither flag has to do with goes on waiting. -/
theorem preserves_espera {α : Type} {x : MqttM W α} (hx : Intact latido x) : Preserves Espera x :=
  hx.preserves fun g => g.1 = 1 ∧ g.2 = 1

/-- While a PINGRESP is awaited the keep-alive does nothing but fail. -/
theorem preserves_keepalive (fuel : Nat) : Preserves Espera (MQTT.keepalive (W := W) fuel) := by
  refine triple_get_bind fun s hs => triple_ite (fun _ => triple_pure fun s' h => h ▸ hs) fun _ => ?_
  have hno : ∀ expired : Bool, ¬ (expired = true ∧ s.client.pingOutstanding = 0) := by
    intro expired h
    rw [hs.2] at h
    exact absurd h.2 (by decide)
  refine Triple.bind (Q := fun _ => Espera) (triple_modifyGet fun s' h => h ▸ hs) fun expired => ?_
  rw [if_neg (hno expired)]
  exact preserves_pure _

theorem yield_espera {fuel : Nat} {ms : UInt32} {s s' : Sistema W} {rc : Int} (h : MQTT.yield fuel ms s = .ok rc s')
    (hs : Espera s) (hno : tipoPaquete (ms, s) ≠ some PINGRESP.toNat) : Espera s' := by
  obtain ⟨timer, s₁, type, s₂, x, s₃, rc', h1, h2, h3, h4⟩ := MQTT.yield_ok h
  have htipo : tipoPaquete (ms, s) = some (type % 65536) := by
    unfold tipoPaquete
    rw [bind_ok h1, h2]
  have hne : type % 65536 ≠ PINGRESP.toNat := fun heq => hno (htipo.trans (congrArg some heq))
  have hs₁ := (preserves_espera (ajena_latido.timerCountdownMS ms)).ok hs h1
  have hs₂ := (preserves_espera (MQTT.intact_readPacket ajenaLectura_latido timer)).ok hs₁ h2
  have hs₃ := (preserves_espera (MQTT.intact_trataPaquete_ne ajenaReparto_latido hne fuel timer)).ok hs₂ h3
  have hfin : ∀ rc : Int, Preserves Espera (if rc = SUCCESSS then pure (type % 65536) else pure rc : MqttM W Int) :=
    fun rc => preserves_ite (preserves_pure _) (preserves_pure _)
  exact Triple.ok (preserves_ite ((preserves_keepalive fuel).bind fun _ => hfin _) (hfin _)) hs₃ h4

/-! ### A round -/

theorem preserves_sinCable (l : Locales) : Preserves Espera (sinCable (W := W) l) := by
  have hllama : ∀ {α : Type} (f : W → α × W), Preserves Espera (llama f) :=
    fun f => preserves_espera (intact_llama_cliente (fun _ _ => rfl) f)
  refine preserves_ite ?_ ((hllama _).bind fun _ => preserves_pure _)
  exact (hllama _).bind fun _ => (hllama _).bind fun _ => preserves_pure _

theorem vuelta_espera {fuel : Nat} {t t' : Locales × Sistema W} (hcallada : Callada fuel t) (ht : Espera t.2)
    (h : threadYieldVuelta fuel t.1 t.2 = .ok t'.1 t'.2) :
    Espera t'.2 ∧ ((getPHYCFGR t.2.mundo).1 &&& 0x01 ≠ 0 → ∃ s₁, hastaYield fuel t.1 t.2 = .ok true s₁) := by
  have hllama : ∀ {α : Type} (f : W → α × W), Preserves Espera (llama f) :=
    fun f => preserves_espera (intact_llama_cliente (fun _ _ => rfl) f)
  obtain ⟨phyReg, s₀, h0, hcases⟩ := vuelta_cases h
  have hphy : phyReg = (getPHYCFGR t.2.mundo).1 := by
    cases h0
    rfl
  have hs₀ := (hllama _).ok ht h0
  rcases hcases with ⟨hfuera, -, hsin⟩ | ⟨hdentro, l₁, s₁, s₂, h1, h2, hsigue⟩
  · exact ⟨(preserves_sinCable _).ok hs₀ hsin, fun hdentro => absurd (hphy ▸ hfuera) hdentro⟩
  · have hpaso : Preserves Espera (pasoDHCP (W := W) fuel t.1) := by
      have hrun := preserves_espera (intact_puerto_cliente (v := latido (W := W)) (fun _ _ => rfl) (dhcpRun fuel))
      exact hrun.bind fun ret => preserves_ite ((hllama _).bind fun _ => (hllama _).bind fun _ => preserves_pure _)
        (preserves_pure _)
    have hs₁ := hpaso.ok hs₀ h1
    -- the socket is open, so the flag stays up
    have hs₂ : Espera s₂ := by
      obtain ⟨sr, s, hsr, h2⟩ := ok_of_bind h2
      have hest : sr = SOCK_ESTABLISHED := by
        refine hcallada.1 sr ?_
        unfold estadoSocket
        rw [bind_ok h0, if_neg hdentro, bind_ok h1, bind_ok hsr]
        rfl
      subst hest
      cases h2
      exact (hllama _).ok hs₁ hsr
    have hne : s₂.client.isconnected ≠ 0 := by
      rw [hs₂.1]
      decide
    obtain ⟨hhasta, s₃, s₄, l₅, s₅, rc, rc', hys, h3, h4, h5, h6⟩ := hsigue hne
    have hno := hcallada.2
    rw [hys] at hno
    have hs₃ := yield_espera h3 hs₂ (hno _ List.mem_cons_self)
    have hs₄ := yield_espera h4 hs₃ (hno _ (List.mem_cons_of_mem _ List.mem_cons_self))
    have hpublica : Preserves Espera (publicaCuenta (W := W) fuel l₁) := preserves_espera
      (intact_publicaCuenta ajena_latido (fun _ => intact_llama_cliente (fun _ _ => rfl) _) fuel l₁)
    exact ⟨(hllama _).ok (hpublica.ok hs₄ h5) h6, fun _ => ⟨s₂, hhasta⟩⟩

/-! ### Runs -/

/-- In every run from a top where a PINGRESP is awaited, as long as none comes and the socket stays open, the client
goes on waiting for it and no round with the cable in goes through the reconnection branch, however many there have
been. -/
theorem threadYield_no_reconecta {t₀ : Locales × Sistema W} {tops : List (Locales × Sistema W)}
    (hrun : Trace VueltaCallada t₀ tops) (hespera : Espera t₀.2) : ∀ t ∈ tops, Espera t.2 ∧
      ∀ (fuel : Nat) (t' : Locales × Sistema W), Callada fuel t → threadYieldVuelta fuel t.1 t.2 = .ok t'.1 t'.2 →
        (getPHYCFGR t.2.mundo).1 &&& 0x01 ≠ 0 → ∃ s₁, hastaYield fuel t.1 t.2 = .ok true s₁ := by
  have hall : ∀ t ∈ tops, Espera t.2 := by
    refine hrun.forall (P := fun t => Espera t.2) hespera ?_
    rintro t t' ⟨fuel, hcallada, hs⟩ ht
    exact (vuelta_espera hcallada ht hs).1
  exact fun t ht => ⟨hall t ht, fun fuel t' hcallada hs => (vuelta_espera hcallada (hall t ht) hs).2⟩

end Hilo

/-! ### A broker from a script -/

/-- A clock that every sleep puts 70 s on, the socket's status and buffer, and what the broker answers to each packet
sent. -/
structure Mudo where
  ahora : Nat := 0
  estado : UInt8 := SOCK_CLOSED
  llegado : List UInt8 := []
  respuestas : List (List UInt8) := [[0x20, 2, 0, 0], [0x90, 3, 0, 2, 0]]

instance : Wizchip Mudo where
  w5500Init _ := pure 0
  getPHYCFGR w := (1, w)
  getSnSR _ w := (w.estado, w)
  getSnRXRSR _ w := (w.llegado.length.toUInt16, w)
  socket sn _ _ _ w := (sn.toNat, w)
  connect _ _ _ w := (SOCK_OK, { w with estado := SOCK_ESTABLISHED })
  disconnect _ w := (SOCK_OK, w)
  close _ w := (SOCK_OK, w)
  send _ bs w :=
    (bs.length, { w with llegado := w.llegado ++ w.respuestas.headD [], respuestas := w.respuestas.tail })
  recv _ len w := (.ok (w.llegado.take len.toNat), { w with llegado := w.llegado.drop len.toNat })
  dhcpInit _ _ w := ((), w)
  dhcpRun _ := pure 4
  dhcpStop w := ((), w)
  chVTGetSystemTime w := (w.ahora.toUInt32, w)
  chThdSleepMilliseconds _ w := ((), { w with ahora := w.ahora + 70 * CH_CFG_ST_FREQUENCY })
  tickLed _ w := ((), w)
  ledControl _ w := ((), w)

namespace Mudo

def arranque : Option (Sistema Mudo) :=
  match threadYieldArranque 4 (Sistema.inicial ({} : Mudo)) with
  | .ok _ s₀ => some s₀
  | .error _ _ => none

def ronda (t : Locales × Sistema Mudo) : Option (Locales × Sistema Mudo) :=
  match threadYieldVuelta 4 t.1 t.2 with
  | .ok l s => some (l, s)
  | .error _ _ => none

theorem arranque_ok {s₀ : Sistema Mudo} (h : arranque = some s₀) :
    threadYieldArranque 4 (Sistema.inicial ({} : Mudo)) = .ok () s₀ := by
  unfold arranque at h
  split at h
  · cases h
    assumption
  · cases h

theorem ronda_ok {t t' : Locales × Sistema Mudo} (h : ronda t = some t') :
    threadYieldVuelta 4 t.1 t.2 = .ok t'.1 t'.2 := by
  unfold ronda at h
  split at h
  · cases h
    assumption
  · cases h

/-- Four rounds: a PINGREQ goes out in the second and nothing is heard of it. -/
theorem cuatro : ∃ s₀ a u t t', threadYieldArranque 4 (Sistema.inicial ({} : Mudo)) = .ok () s₀ ∧
    Corrida s₀ [u, a, ({}, s₀)] ∧ Trace VueltaCallada u [t', t, u] ∧ Espera u.2 ∧
    (getPHYCFGR t.2.mundo).1 &&& 0x01 ≠ 0 ∧ MQTT_KEEPALIVE.toNat * CH_CFG_ST_FREQUENCY <
      ((chVTGetSystemTime t.2.mundo).1 - (chVTGetSystemTime u.2.mundo).1).toNat ∧ Espera t.2 ∧ Espera t'.2 := by
  have hres : (do
      let s₀ ← arranque
      let a ← ronda ({}, s₀)
      let u ← ronda a
      let t ← ronda u
      let t' ← ronda t
      return decide ((Callada 4 u ∧ Callada 4 t) ∧ Espera u.2 ∧ (getPHYCFGR t.2.mundo).1 &&& 0x01 ≠ 0 ∧
        MQTT_KEEPALIVE.toNat * CH_CFG_ST_FREQUENCY <
          ((chVTGetSystemTime t.2.mundo).1 - (chVTGetSystemTime u.2.mundo).1).toNat ∧ Espera t.2 ∧ Espera t'.2)) =
      some true := by decide +kernel
  obtain ⟨s₀, h₀, hres⟩ := Option.bind_eq_some_iff.mp hres
  obtain ⟨a, ha, hres⟩ := Option.bind_eq_some_iff.mp hres
  obtain ⟨u, hu, hres⟩ := Option.bind_eq_some_iff.mp hres
  obtain ⟨t, ht, hres⟩ := Option.bind_eq_some_iff.mp hres
  obtain ⟨t', ht', hres⟩ := Option.bind_eq_some_iff.mp hres
  obtain ⟨⟨hcu, hct⟩, hrest⟩ := of_decide_eq_true (Option.some.inj hres)
  refine ⟨s₀, a, u, t, t', arranque_ok h₀, ?_, ?_, hrest⟩
  · exact .next (.next .start ⟨4, ronda_ok ha⟩) ⟨4, ronda_ok hu⟩
  · exact .next (.next .start ⟨4, hcu, ronda_ok ht⟩) ⟨4, hct, ronda_ok ht'⟩

end Mudo

theorem threadYield_no_reconecta_mudo : ∃ (u t t' : Locales × Sistema Mudo), Trace VueltaCallada u [t', t, u] ∧
    Espera u.2 ∧ Espera t'.2 := by
  obtain ⟨_, _, u, t, t', -, -, hrun, hespera, -⟩ := Mudo.cuatro
  exact ⟨u, t, t', hrun, hespera, (threadYield_no_reconecta hrun hespera t' List.mem_cons_self).1⟩

/-- A broker that dies is not noticed. -/
theorem threadYield_ping_perdido : ¬ ∀ (fuel : Nat) (w : Mudo) (s₀ : Sistema Mudo) (u t t' : Locales × Sistema Mudo)
    (us ts : List (Locales × Sistema Mudo)), threadYieldArranque fuel (Sistema.inicial w) = .ok () s₀ →
    Corrida s₀ (u :: us) → Trace VueltaCallada u (t' :: t :: ts) → Espera u.2 →
    (getPHYCFGR t.2.mundo).1 &&& 0x01 ≠ 0 → MQTT_KEEPALIVE.toNat * CH_CFG_ST_FREQUENCY <
      ((chVTGetSystemTime t.2.mundo).1 - (chVTGetSystemTime u.2.mundo).1).toNat → ¬ (Espera t.2 ∧ Espera t'.2) := by
  intro h
  obtain ⟨s₀, a, u, t, t', h₀, hcorrida, hrun, hespera, hlink, hreloj, ht, ht'⟩ := Mudo.cuatro
  exact h 4 {} s₀ u t t' _ _ h₀ hcorrida hrun hespera hlink hreloj ⟨ht, ht'⟩

end Wiznet
