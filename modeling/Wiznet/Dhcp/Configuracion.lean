import Wiznet.Dhcp.Ajena
import Wiznet.Dhcp.Puerto
import Wiznet.Mqtt.Hilo

/-!
# The DHCP client is never run unconfigured

Which calls of `DHCP_run` find a client that `DHCP_init` has made ready, on a socket of its own and with room for a
message: all of those before the end of `W5500_Init`, and then as long as it has ended well and no call has failed.
-/

namespace Wiznet

open Stateful Wizchip

/-! ### Runs of the example -/

section Alcanzado

variable {E : Type} [Red E] [TimeHandler E]

/-- Where a run of `threadYield` may be after any number of rounds, the last one ended or not. -/
inductive Alcanzado (entorno : E) : Sistema (Placa PortVars E) → Prop
  | arranque (fuel : Nat) : Alcanzado entorno (final (threadYieldArranque fuel (.inicial (.inicial entorno))))
  | vuelta {fuel₀ : Nat} {s₀ s : Sistema (Placa PortVars E)} {l : Locales}
      {tops : List (Locales × Sistema (Placa PortVars E))}
      (h₀ : threadYieldArranque fuel₀ (.inicial (.inicial entorno)) = .ok () s₀) (hrun : Corrida s₀ ((l, s) :: tops))
      (fuel : Nat) : Alcanzado entorno (final (threadYieldVuelta fuel l s))

/-- What holds after the start-up and is kept by the rounds holds at the tops, and what follows from it always. -/
theorem Alcanzado.induccion {entorno : E} {I F : Sistema (Placa PortVars E) → Prop}
    (harr : ∀ fuel, Triple (· = .inicial (.inicial entorno)) (threadYieldArranque fuel) (fun _ => I) F)
    (hvuelta : ∀ fuel l, Triple I (threadYieldVuelta fuel l) (fun _ => I) F) (hF : ∀ s, I s → F s)
    {s : Sistema (Placa PortVars E)} (h : Alcanzado entorno s) : F s := by
  cases h with
  | arranque fuel => exact (harr fuel).final (fun _ _ => hF _) rfl
  | @vuelta fuel₀ s₀ s l tops h₀ hrun fuel =>
    have htop := hrun.forall (P := fun t => I t.2) ((harr fuel₀).ok rfl h₀) fun _ _ ⟨fuel, hs⟩ ht =>
      (hvuelta fuel _).ok ht hs
    exact (hvuelta fuel l).final (fun _ _ => hF _) (htop _ List.mem_cons_self)

/-- What the network below has nothing to do with is the DHCP client's business only. -/
theorem Placa.ajenaWizchip {γ : Type} {v : Placa PortVars E → γ} (h : ∀ p e, v { p with entorno := e } = v p) :
    AjenaWizchip v where
  getPHYCFGR p := h p _
  getSnSR _ p := h p _
  getSnRXRSR _ p := h p _
  socket _ _ _ _ p := h p _
  connect _ _ _ p := h p _
  disconnect _ p := h p _
  close _ p := h p _
  send _ _ p := h p _
  recv _ _ p := h p _
  chVTGetSystemTime p := h p _
  chThdSleepMilliseconds _ p := h p _
  tickLed _ p := h p _
  ledControl _ p := h p _

end Alcanzado

/-! ### Calls -/

/-- The client on this socket and with this buffer is ready, after what has happened. -/
def Preparado (sn : UInt8) (pDHCPMSG : Option Nat) (diario : List HechoDhcp) : Prop :=
  (∃ s n, .init s n ∈ diario) ∧ sn ≠ MQTT_SOCKET ∧ ∃ n, pDHCPMSG = some n ∧ RIP_MSG_SIZE ≤ n

/-- Every call of `DHCP_run` found the client ready. -/
def Configurado (diario : List HechoDhcp) : Prop :=
  ∀ sn pDHCPMSG antes, .run sn pDHCPMSG :: antes <:+ diario → Preparado sn pDHCPMSG antes

def HechoDhcp.esW5500Init : HechoDhcp → Bool
  | .w5500Init _ => true
  | .init _ _ | .run _ _ | .fin _ => false

/-- `W5500_Init` has not ended, or has ended well and no call of `DHCP_run` has failed since. -/
def Arrancado (diario : List HechoDhcp) : Prop :=
  ∀ ret, .w5500Init ret ∈ diario → ret = 0 ∧ .fin DHCP_FAILED ∉ diario.takeWhile (!·.esW5500Init)

/-- So it was at every call of `DHCP_run`. -/
def SiempreArrancado (diario : List HechoDhcp) : Prop :=
  ∀ sn pDHCPMSG antes, .run sn pDHCPMSG :: antes <:+ diario → Arrancado antes

def HechoDhcp.esRun : HechoDhcp → Bool
  | .run _ _ => true
  | .init _ _ | .fin _ | .w5500Init _ => false

section Llamadas

variable {sn : UInt8} {buf : Option Nat} {h : HechoDhcp} {diario : List HechoDhcp}

theorem run_suffix_cons (hh : h.esRun = false) {antes : List HechoDhcp} :
    .run sn buf :: antes <:+ h :: diario ↔ .run sn buf :: antes <:+ diario := by
  rw [List.suffix_cons_iff]
  refine or_iff_right fun heq => ?_
  cases heq
  cases hh

theorem configurado_cons (hh : h.esRun = false) : Configurado (h :: diario) ↔ Configurado diario := by
  simp only [Configurado, run_suffix_cons hh]

theorem siempreArrancado_cons (hh : h.esRun = false) : SiempreArrancado (h :: diario) ↔ SiempreArrancado diario := by
  simp only [SiempreArrancado, run_suffix_cons hh]

theorem configurado_nil : Configurado [] := fun _ _ _ h => by cases List.suffix_nil.mp h

theorem siempreArrancado_nil : SiempreArrancado [] := fun _ _ _ h => by cases List.suffix_nil.mp h

/-- What every call found, when the last thing is a call. -/
private theorem encontrado_run {Q : UInt8 → Option Nat → List HechoDhcp → Prop} :
    (∀ sn' buf' antes, .run sn' buf' :: antes <:+ .run sn buf :: diario → Q sn' buf' antes) ↔
      Q sn buf diario ∧ ∀ sn' buf' antes, .run sn' buf' :: antes <:+ diario → Q sn' buf' antes := by
  refine ⟨fun h => ⟨h sn buf diario List.suffix_rfl, fun sn' buf' antes hs => ?_⟩, ?_⟩
  · exact h sn' buf' antes (List.suffix_cons_iff.mpr (.inr hs))
  · rintro ⟨h, hd⟩ sn' buf' antes hs
    rcases List.suffix_cons_iff.mp hs with heq | hs
    · cases heq
      exact h
    · exact hd sn' buf' antes hs

theorem configurado_run : Configurado (.run sn buf :: diario) ↔ Preparado sn buf diario ∧ Configurado diario :=
  encontrado_run

theorem siempreArrancado_run :
    SiempreArrancado (.run sn buf :: diario) ↔ Arrancado diario ∧ SiempreArrancado diario :=
  encontrado_run (Q := fun _ _ antes => Arrancado antes)

/-- Neither a call nor a return that is no failure has to do with how `W5500_Init` went. -/
theorem arrancado_cons (h₁ : h.esW5500Init = false) (h₂ : h ≠ .fin DHCP_FAILED) :
    Arrancado (h :: diario) ↔ Arrancado diario := by
  have hne : ∀ ret, .w5500Init ret ≠ h := by
    rintro ret rfl
    cases h₁
  simp only [Arrancado, List.mem_cons, hne, false_or, List.takeWhile_cons, h₁, Bool.not_false, if_true, h₂.symm]

theorem preparado_cons (hh : ∀ s n, h ≠ .init s n) : Preparado sn buf (h :: diario) ↔ Preparado sn buf diario := by
  have hne : ∀ s n, HechoDhcp.init s n ≠ h := fun s n => (hh s n).symm
  simp only [Preparado, List.mem_cons, hne, false_or]

end Llamadas

/-! ### The account -/

/-- What the calls of `DHCP_run` are judged by. -/
structure Cuenta where
  diario : List HechoDhcp
  dhcpSocket : UInt8
  pDHCPMSG : Option Nat

variable {A E : Type} [Aplicacion A]

def cuenta (p : Placa A E) : Cuenta := ⟨p.diario, p.dhcp.dhcpSocket, p.dhcp.pDHCPMSG⟩

theorem ajenaDhcp_cuenta : AjenaDhcp (cuenta (A := A) (E := E)) where
  entorno _ _ := rfl
  enviados _ _ := rfl
  mensaje _ _ := rfl
  servidor _ _ _ := rfl
  opciones _ _ _ _ _ := rfl
  tick _ _ := rfl
  retry _ _ _ := rfl
  rcr _ _ := rfl
  estado _ _ := rfl
  direccion _ _ _ _ := rfl
  callback _ _ _ := rfl
  ultimoAck _ _ := rfl

/-- The calls made so far are as they should be, or W5500_Init or a call has failed. -/
def Cuenta.Coherente (g : Cuenta) : Prop := Configurado g.diario ↔ SiempreArrancado g.diario

/-- So will the next one. -/
def Cuenta.Dispuesta (g : Cuenta) : Prop := Preparado g.dhcpSocket g.pDHCPMSG g.diario ↔ Arrancado g.diario

variable [Red E] [TimeHandler E]

/-- A call is entered in the account, and its return. -/
theorem triple_run (fuel : Nat) (g : Cuenta) :
    Triple (fun p : Placa A E => cuenta p = g) (DHCP.run fuel)
      (fun ret p => cuenta p = { g with diario := .fin ret :: .run g.dhcpSocket g.pDHCPMSG :: g.diario })
      fun p => cuenta p = { g with diario := .run g.dhcpSocket g.pDHCPMSG :: g.diario } := by
  refine triple_get_bind fun p hp => ?_
  subst hp
  have hentra : Triple (· = p) (DHCP.anota (E := E) (.run p.dhcp.dhcpSocket p.dhcp.pDHCPMSG))
      (fun _ p' => cuenta p' = { cuenta p with diario := .run p.dhcp.dhcpSocket p.dhcp.pDHCPMSG :: p.diario })
      fun p' => cuenta p' = { cuenta p with diario := .run p.dhcp.dhcpSocket p.dhcp.pDHCPMSG :: p.diario } := by
    refine triple_modify fun p' hp' => ?_
    subst hp'
    rfl
  refine hentra.bind fun _ => ?_
  refine ((DHCP.intact_runCuerpo ajenaDhcp_cuenta fuel).triple (· = _)).bind fun ret => ?_
  refine Triple.bind ?_ fun _ => triple_pure fun _ h => h
  refine triple_modify fun p' hp' => ?_
  show ({ cuenta p' with diario := .fin ret :: (cuenta p').diario } : Cuenta) = _
  rw [hp']
  rfl

namespace Cuenta

variable {g : Cuenta}

/-- In the loop. -/
structure EnBucle (g : Cuenta) : Prop where
  coherente : g.Coherente
  dispuesta : g.Dispuesta
  terminada : ∃ ret, .w5500Init ret ∈ g.diario

/-- In `W5500_Init`, from its call of `DHCP_init` on. -/
structure Arrancando (g : Cuenta) : Prop where
  coherente : g.Coherente
  preparada : Preparado g.dhcpSocket g.pDHCPMSG g.diario
  sinTerminar : ∀ ret, .w5500Init ret ∉ g.diario

theorem Coherente.run (h : g.Coherente) (hd : g.Dispuesta) :
    Coherente { g with diario := .run g.dhcpSocket g.pDHCPMSG :: g.diario } := by
  unfold Coherente
  rw [configurado_run, siempreArrancado_run]
  exact and_congr hd h

theorem Coherente.cons (hg : g.Coherente) {h : HechoDhcp} (hh : h.esRun = false) :
    Coherente { g with diario := h :: g.diario } := by
  unfold Coherente
  rwa [configurado_cons hh, siempreArrancado_cons hh]

theorem Arrancando.arrancado (h : g.Arrancando) : Arrancado g.diario := fun ret hret => absurd hret (h.sinTerminar ret)

theorem Arrancando.dispuesta (h : g.Arrancando) : g.Dispuesta := iff_of_true h.preparada h.arrancado

theorem Arrancando.run (h : g.Arrancando) (ret : UInt8) :
    Arrancando { g with diario := .fin ret :: .run g.dhcpSocket g.pDHCPMSG :: g.diario } where
  coherente := (h.coherente.run h.dispuesta).cons rfl
  preparada := by
    show Preparado g.dhcpSocket g.pDHCPMSG (.fin ret :: .run g.dhcpSocket g.pDHCPMSG :: g.diario)
    rw [preparado_cons (by simp), preparado_cons (by simp)]
    exact h.preparada
  sinTerminar r := by simpa using h.sinTerminar r

/-- `W5500_Init` ends well. -/
theorem Arrancando.enBucle (h : g.Arrancando) : EnBucle { g with diario := .w5500Init 0 :: g.diario } where
  coherente := h.coherente.cons rfl
  dispuesta := by
    have hp : Preparado g.dhcpSocket g.pDHCPMSG (.w5500Init 0 :: g.diario) := (preparado_cons (by simp)).mpr h.preparada
    refine iff_of_true hp fun ret hret => ⟨?_, by simp [HechoDhcp.esW5500Init]⟩
    rcases List.mem_cons.mp hret with heq | hret
    · exact (HechoDhcp.w5500Init.inj heq)
    · exact absurd hret (h.sinTerminar ret)
  terminada := ⟨0, List.mem_cons_self⟩

theorem coherente_of_nil (h : g.diario = []) : g.Coherente := by
  unfold Coherente
  rw [h]
  exact iff_of_true configurado_nil siempreArrancado_nil

/-- `W5500_Init` gives up before its call of `DHCP_init`. -/
theorem enBucle_of_nil (h : g.diario = []) {ret : Int} (hret : ret ≠ 0) :
    EnBucle { g with diario := .w5500Init ret :: g.diario } where
  coherente := (coherente_of_nil h).cons rfl
  dispuesta := by
    refine iff_of_false ?_ fun hn => hret (hn ret List.mem_cons_self).1
    rintro ⟨⟨s, n, hin⟩, -⟩
    simp [h] at hin
  terminada := ⟨ret, List.mem_cons_self⟩

/-- A call that does not fail. -/
theorem EnBucle.run (h : g.EnBucle) {ret : UInt8} (hret : ret ≠ DHCP_FAILED) :
    EnBucle { g with diario := .fin ret :: .run g.dhcpSocket g.pDHCPMSG :: g.diario } where
  coherente := (h.coherente.run h.dispuesta).cons rfl
  dispuesta := by
    unfold Dispuesta
    rw [preparado_cons (by simp), preparado_cons (by simp), arrancado_cons rfl (by simpa using hret),
      arrancado_cons rfl (by simp)]
    exact h.dispuesta
  terminada := h.terminada.imp fun r hr => by simpa using hr

/-- A call that fails, and the `DHCP_init` that follows it: the buffer is too small from then on. -/
theorem EnBucle.init (h : g.EnBucle) : EnBucle
    ⟨.init DHCP_SOCKET_NUM DNS_BUFFER_SIZE :: .fin DHCP_FAILED :: .run g.dhcpSocket g.pDHCPMSG :: g.diario,
      DHCP_SOCKET_NUM, some DNS_BUFFER_SIZE⟩ where
  coherente := ((h.coherente.run h.dispuesta).cons rfl).cons rfl
  dispuesta := by
    obtain ⟨r, hr⟩ := h.terminada
    refine iff_of_false ?_ fun hn => (hn r (by simpa using hr)).2 (by simp [HechoDhcp.esW5500Init])
    rintro ⟨-, -, n, hn, hle⟩
    cases hn
    revert hle
    decide
  terminada := h.terminada.imp fun r hr => by simpa using hr

end Cuenta

/-! ### Runs -/

section Corridas

open Cuenta

theorem ajenaWizchip_cuenta : AjenaWizchip (cuenta (A := PortVars) (E := E)) := Placa.ajenaWizchip fun _ _ => rfl

theorem triple_esperaIP (fuel retries : Nat) :
    Triple (fun p : Placa PortVars E => (cuenta p).Arrancando) (Port.esperaIP fuel retries)
      (fun _ p => (cuenta p).Arrancando) fun p => (cuenta p).Coherente := by
  induction retries with
  | zero => exact triple_pure fun _ h => h
  | succ retries ih =>
    refine triple_get_bind fun p hp => triple_ite (fun _ => ?_) fun _ => ?_
    · exact triple_pure fun p' hp' => hp' ▸ hp
    have hrun : Triple (· = p) (DHCP.run fuel) (fun _ p => (cuenta p).Arrancando) fun p => (cuenta p).Coherente := by
      refine (triple_run fuel (cuenta p)).weaken (fun p' hp' => congrArg cuenta hp') (fun ret p' hp' => ?_)
        fun p' hp' => ?_
      · exact hp' ▸ hp.run ret
      · exact hp' ▸ hp.coherente.run hp.dispuesta
    refine hrun.bind fun _ => Triple.bind ?_ fun _ => ih
    exact ((DHCP.intact_red (v := cuenta) (fun _ _ => rfl) _).triple Arrancando).weaken (fun _ h => h)
      (fun _ _ h => h) fun _ h => h.coherente

omit [Red E] [TimeHandler E] in
/-- A step that leaves the account alone. -/
theorem triple_cuenta {α : Type} {x : PlacaM PortVars E α} (hx : Intact cuenta x) {I : Cuenta → Prop}
    (hI : ∀ g, I g → g.Coherente) :
    Triple (fun p => I (cuenta p)) x (fun _ p => I (cuenta p)) fun p => (cuenta p).Coherente :=
  (hx.triple I).weaken (fun _ h => h) (fun _ _ h => h) fun _ h => hI _ h

theorem triple_configuraRed (fuel : Nat) :
    Triple (fun p : Placa PortVars E => (cuenta p).diario = []) (Port.configuraRed fuel)
      (fun ret p => ret = 0 ∧ (cuenta p).Arrancando) fun p => (cuenta p).Coherente := by
  have hvacio : ∀ g : Cuenta, g.diario = [] → g.Coherente := fun g => coherente_of_nil
  have hcoh : ∀ g : Cuenta, g.Arrancando → g.Coherente := fun g h => h.coherente
  refine Triple.bind (Q := fun _ p => (cuenta p).diario = []) (triple_modify fun _ h => h) fun _ => ?_
  have hinit : Triple (fun p : Placa PortVars E => (cuenta p).diario = [])
      (DHCP.init DHCP_SOCKET_NUM DHCP_BUFFER_SIZE fun _ => 0) (fun _ p => (cuenta p).Arrancando)
      fun p => (cuenta p).Coherente := by
    refine triple_modify fun p hp => ?_
    have hd : p.diario = [] := hp
    have hg : cuenta (DHCP.iniciada DHCP_SOCKET_NUM DHCP_BUFFER_SIZE (fun _ => 0) p) =
        ⟨[.init DHCP_SOCKET_NUM DHCP_BUFFER_SIZE], DHCP_SOCKET_NUM, some DHCP_BUFFER_SIZE⟩ := by
      simp only [cuenta, DHCP.iniciada, hd]
    rw [hg]
    have hprep : Preparado DHCP_SOCKET_NUM (some DHCP_BUFFER_SIZE) [.init DHCP_SOCKET_NUM DHCP_BUFFER_SIZE] :=
      ⟨⟨_, _, List.mem_cons_self⟩, by decide, _, rfl, by decide⟩
    exact ⟨(coherente_of_nil (g := ⟨[], _, _⟩) rfl).cons rfl, hprep, by simp⟩
  refine hinit.bind fun _ => ?_
  refine Triple.bind (Q := fun _ p => (cuenta p).Arrancando) (triple_modify fun _ h => h) fun _ => ?_
  refine (triple_esperaIP fuel 20).bind fun _ => ?_
  refine Triple.bind (Q := fun _ p => (cuenta p).Arrancando) (triple_modify fun _ h => h) fun _ => ?_
  refine (triple_cuenta (DHCP.intact_red (fun _ _ => rfl) _) hcoh).bind fun _ => triple_pure fun p hp => ⟨rfl, hp⟩

/-- How the account stands when `W5500_Init` is about to return this. -/
def Cuenta.Devuelta (ret : Int) (g : Cuenta) : Prop := ret = 0 ∧ g.Arrancando ∨ ret ≠ 0 ∧ g.diario = []

theorem triple_w5500InitRet (fuel : Nat) :
    Triple (fun p : Placa PortVars E => (cuenta p).diario = []) (Port.w5500InitRet fuel)
      (fun ret p => (cuenta p).Devuelta ret) fun p => (cuenta p).Coherente := by
  have hvacio : ∀ g : Cuenta, g.diario = [] → g.Coherente := fun g => coherente_of_nil
  have hred : ∀ {α : Type} (f : E → α × E), Intact cuenta (DHCP.red (A := PortVars) f) :=
    fun f => DHCP.intact_red (fun _ _ => rfl) f
  have hlink : ∀ retries, Intact cuenta (Port.esperaLink (E := E) retries) := by
    intro retries
    induction retries with
    | zero => exact intact_pure _
    | succ retries ih =>
      exact (hred _).bind fun _ => (hred _).bind fun _ => intact_ite (intact_pure _) ih
  have hfallo : ∀ ret : Int, ret ≠ 0 → Triple (fun p : Placa PortVars E => (cuenta p).diario = [])
      (pure ret : PlacaM PortVars E Int) (fun ret p => (cuenta p).Devuelta ret) fun p => (cuenta p).Coherente :=
    fun ret hret => triple_pure fun p hp => .inr ⟨hret, hp⟩
  refine (triple_cuenta (hred _) hvacio).bind fun _ => ?_
  refine Triple.bind (Q := fun _ p => (cuenta p).diario = []) (triple_modify fun _ h => h) fun _ => ?_
  refine (triple_cuenta (hred _) hvacio).bind fun _ => (triple_cuenta (hred _) hvacio).bind fun _ => ?_
  -- -1, -2 and 3, before `DHCP_init`
  refine triple_ite (fun _ => hfallo _ (by decide)) fun _ => (triple_cuenta (hred _) hvacio).bind fun _ => ?_
  refine triple_ite (fun _ => hfallo _ (by decide)) fun _ => (triple_cuenta (hlink 10) hvacio).bind fun _ => ?_
  refine triple_ite (fun _ => ?_) fun _ => hfallo _ (by decide)
  exact (triple_configuraRed fuel).weaken (fun _ h => h) (fun _ _ h => .inl h) fun _ h => h

theorem triple_w5500Init (fuel : Nat) :
    Triple (fun p : Placa PortVars E => (cuenta p).diario = []) (Port.w5500Init fuel)
      (fun _ p => (cuenta p).EnBucle) fun p => (cuenta p).Coherente := by
  refine (triple_w5500InitRet fuel).bind fun ret => Triple.bind ?_ fun _ => triple_pure fun _ h => h
  refine triple_modify fun p hp => ?_
  rcases hp with ⟨rfl, hp⟩ | ⟨hne, hp⟩
  · exact hp.enBucle
  · exact enBucle_of_nil hp hne

theorem triple_vuelta_cuenta (fuel : Nat) (l : Locales) :
    Triple (fun s : Sistema (Placa PortVars E) => (cuenta s.mundo).EnBucle) (threadYieldVuelta fuel l)
      (fun _ s => (cuenta s.mundo).EnBucle) fun s => (cuenta s.mundo).Coherente := by
  refine triple_threadYieldVuelta ajenaWizchip_cuenta (P := fun p => (cuenta p).EnBucle)
    (J := fun g' => ∃ g : Cuenta, g.EnBucle ∧
      g' = { g with diario := .fin DHCP_FAILED :: .run g.dhcpSocket g.pDHCPMSG :: g.diario })
    fuel l (fun _ h _ => h) (fun _ h => h) (fun _ h => h) (fun _ h _ => h) ?_ ?_ fun _ h => h.coherente
  · intro p hp
    refine (triple_run fuel (cuenta p)).weaken (fun _ h => h) (fun ret p' hp' => ?_) (fun p' hp' => ?_) p rfl
    · split
      · rename_i hret
        exact ⟨_, hp, hret ▸ hp'⟩
      · rename_i hret
        exact hp' ▸ hp.run hret
    · exact hp' ▸ hp.coherente.run hp.dispuesta
  · -- the loop calls `DHCP_init` with the smaller buffer
    rintro p ⟨g, hg, hp⟩
    have hd : p.diario = .fin DHCP_FAILED :: .run g.dhcpSocket g.pDHCPMSG :: g.diario := congrArg Cuenta.diario hp
    have hinit : cuenta (DHCP.iniciada DHCP_SOCKET_NUM DNS_BUFFER_SIZE (fun _ => 0) p) =
        ⟨.init DHCP_SOCKET_NUM DNS_BUFFER_SIZE :: p.diario, DHCP_SOCKET_NUM, some DNS_BUFFER_SIZE⟩ := rfl
    show (cuenta (DHCP.iniciada DHCP_SOCKET_NUM DNS_BUFFER_SIZE (fun _ => 0) p)).EnBucle
    rw [hinit, hd]
    exact hg.init

end Corridas

/-- In every run every call of `DHCP_run` has found the client ready just when, at every call, `W5500_Init` had not
ended or had ended well, and no call had failed since. -/
theorem dhcpRun_configurado_iff {entorno : E} {s : Sistema (Placa PortVars E)} (h : Alcanzado entorno s) :
    Configurado s.mundo.diario ↔ SiempreArrancado s.mundo.diario := by
  refine h.induccion (I := fun s => (cuenta s.mundo).EnBucle) (F := fun s => (cuenta s.mundo).Coherente)
    (fun fuel => ?_) triple_vuelta_cuenta fun _ h => h.coherente
  refine Triple.weaken (triple_threadYieldArranque ajenaWizchip_cuenta (triple_w5500Init fuel) fun _ h => h.coherente)
    (fun s hs => ?_) (fun _ _ h => h) fun _ h => h
  rw [hs]
  rfl

/-! ### A network from a script -/

/-- The reading of the link, 1 when there are no more, what each look at the DHCP socket finds, whether somebody
answers to the check of an address, and the ticks between two readings of their counter.  Nobody answers on the other
sockets and every reading of the clock takes 4 s. -/
structure Ensayo where
  ahora : Nat := 0
  links : List UInt8 := []
  llegadas : List (List UInt8) := []
  ocupada : Bool := false
  tics : UInt32 := 0

namespace Ensayo

/-- The DHCP server, and what it leases for 20 s. -/
def servidor : IP := ⟨192, 168, 1, 1⟩
def direccion : IP := ⟨192, 168, 1, 50⟩
def mascara : IP := ⟨255, 255, 255, 0⟩

/-- A message of the server. -/
def respuesta (type : UInt8) : List UInt8 :=
  List.replicate 16 0 ++ direccion.bytes ++ List.replicate 8 0 ++ [0x00, 0x11, 0x33, 0x47, 0x09, 0x7D] ++
    List.replicate 206 0 ++ [53, 1, type, 54, 4] ++ servidor.bytes ++ [51, 4, 0, 0, 0, 20, 1, 4] ++ mascara.bytes ++
    [3, 4] ++ servidor.bytes ++ [255]

instance : Red Ensayo where
  ctlwizchip e := (0, e)
  getVERSIONR e := (4, e)
  getPHYCFGR e := (e.links.headD 1, { e with links := e.links.tail })
  getSnSR sn e := (if sn = MQTT_SOCKET then SOCK_CLOSED else SOCK_UDP, e)
  getSnRXRSR _ e := match e.llegadas with
    | [] => (0, e)
    | [] :: llegadas => (0, { e with llegadas := llegadas })
    | bs :: _ => (bs.length.toUInt16, e)
  socket _ _ _ _ e := (SOCK_OK, e)
  connect _ _ _ e := (SOCK_ERROR, e)
  disconnect _ e := (SOCK_OK, e)
  close _ e := (SOCK_OK, e)
  send _ _ e := (SOCK_ERROR, e)
  recv _ _ e := (.error SOCK_ERROR, e)
  sendto _ bs _ port e := (if port = 5000 ∧ !e.ocupada then SOCKERR_TIMEOUT else bs.length, e)
  recvfrom _ _ e :=
    let bs := e.llegadas.headD []
    (⟨bs.length, bs, servidor, DHCP_SERVER_PORT⟩, { e with llegadas := e.llegadas.tail })
  chVTGetSystemTime e := (e.ahora.toUInt32, { e with ahora := e.ahora + 40000 })
  chThdSleepMilliseconds n e := ((), { e with ahora := e.ahora + 10 * n.toNat })
  tickLed _ e := ((), e)
  ledControl _ e := ((), e)
  tiempo e := e.ahora

instance : TimeHandler Ensayo where
  ticks e := (e.tics, e)

/-- The start-up and a round, ended or not. -/
def unaVuelta (e : Ensayo) : Option (Sistema (Placa PortVars Ensayo)) :=
  match threadYieldArranque 4 (.inicial (.inicial e)) with
  | .ok _ s₀ => some (final (threadYieldVuelta 4 {} s₀))
  | .error _ _ => none

theorem alcanzado_unaVuelta {e : Ensayo} {s : Sistema (Placa PortVars Ensayo)} (h : e.unaVuelta = some s) :
    Alcanzado e s := by
  unfold unaVuelta at h
  split at h
  · rename_i h₀
    cases h
    exact .vuelta h₀ .start 4
  · cases h

/-- The server answers at once. -/
def pronto : Ensayo where
  llegadas := [[], respuesta DHCP_OFFER, respuesta DHCP_ACK]

/-- The cable is put in after `W5500_Init`. -/
def tarde : Ensayo where
  links := List.replicate 10 0

end Ensayo

theorem dhcpRun_configurado_pronto : ∃ s, Alcanzado Ensayo.pronto s ∧ Configurado s.mundo.diario := by
  have hd : Ensayo.pronto.unaVuelta.map (·.mundo.diario) = some
      [.fin 4, .run 7 (some 548), .w5500Init 0, .fin 1, .run 7 (some 548), .fin 1, .run 7 (some 548), .fin 1,
        .run 7 (some 548), .init 7 548] := by decide +kernel
  obtain ⟨s, hs, hd⟩ := Option.map_eq_some_iff.mp hd
  have h := Ensayo.alcanzado_unaVuelta hs
  refine ⟨s, h, (dhcpRun_configurado_iff h).mpr ?_⟩
  have hfin : ∀ ret τ, SiempreArrancado (.fin ret :: τ) ↔ SiempreArrancado τ := fun _ _ => siempreArrancado_cons rfl
  have hinit : ∀ sn n τ, SiempreArrancado (.init sn n :: τ) ↔ SiempreArrancado τ :=
    fun _ _ _ => siempreArrancado_cons rfl
  have hw : ∀ ret τ, SiempreArrancado (.w5500Init ret :: τ) ↔ SiempreArrancado τ := fun _ _ => siempreArrancado_cons rfl
  rw [hd]
  simp [siempreArrancado_run, hfin, hinit, hw, siempreArrancado_nil, Arrancado, HechoDhcp.esW5500Init]

theorem dhcpRun_sin_configurar : ¬ ∀ (e : Ensayo) (s : Sistema (Placa PortVars Ensayo)), Alcanzado e s →
    Configurado s.mundo.diario := by
  intro h
  have hd : Ensayo.tarde.unaVuelta.map (·.mundo.diario) = some [.run 0 none, .w5500Init 3] := by decide +kernel
  obtain ⟨s, hs, hd⟩ := Option.map_eq_some_iff.mp hd
  have hconf := h _ _ (Ensayo.alcanzado_unaVuelta hs)
  rw [hd] at hconf
  exact (hconf 0 none _ List.suffix_rfl).2.1 rfl

end Wiznet
