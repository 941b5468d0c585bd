import Wiznet.Automata.Ajena
import Wiznet.Dhcp.Configuracion

/-!
# The way out of `STATE_INIT_NETWORK`

The automaton over the DHCP client of `dhcp.c`.  It waits for one of two codes of `DHCP_run`: the client never returns
the first, and returns the second only when an ACK brings another address than the one it asked to renew, which no
message can change in the meantime.  So the automaton never leaves its first state.
-/

namespace Wiznet

/-- What lies below the automaton, less the DHCP client. -/
class RedTest (E : Type) extends Red E where
  wizchipInit : E → Unit × E
  getphystatus : E → Bool × E
  chThdYield : E → Unit × E
  palSetLine : E → Unit × E
  palClearLine : E → Unit × E

namespace Automata

/-- The callbacks of `mqttTest.c` share no variables. -/
structure SinVariables where

inductive CallbackTest where
  | cbDhcpIpAssign
  | cbDhcpIpConflict
  deriving DecidableEq

/-- `wizchip_setnetinfo`. -/
def setnetinfo (info : NetInfo) (r : Registros) : Registros :=
  { r with shar := info.mac, gar := info.gw, subr := info.sn, sipr := info.ip, dns := info.dns }

def cbDhcpIpAssign {Fn : Type} (d : DhcpVars Fn) (r : Registros) : Registros :=
  setnetinfo ⟨r.shar, d.allocatedIp, d.allocatedSn, d.allocatedGw, d.allocatedDns⟩ r

instance : Aplicacion SinVariables where
  Fn := CallbackTest
  llama fn d r app := match fn with
    | .cbDhcpIpAssign => (cbDhcpIpAssign d r, app)
    | .cbDhcpIpConflict => (r, app)

variable {E : Type} [RedTest E] [TimeHandler E]

open DHCP

/-- The reset in `wizchip_init` keeps the addresses of the chip.  The buffer of the DHCP client is always the same. -/
instance : Ethernet (Placa SinVariables E) where
  wizchipInit p := ((), { p with
    entorno := (RedTest.wizchipInit p.entorno).2
    regs := { p.regs with rcr := ({} : Registros).rcr } })
  setnetinfo info p := ((), { p with regs := setnetinfo info p.regs })
  dhcpInit sn tam p := ((), iniciada sn tam p.dhcp.mensaje p)
  regDhcpCbfunc p := ((), { p with dhcp := { p.dhcp with
    dhcpIpAssign := some .cbDhcpIpAssign
    dhcpIpUpdate := some .cbDhcpIpAssign
    dhcpIpConflict := some .cbDhcpIpConflict } })
  dhcpRun := DHCP.run
  dhcpTimeHandler p := ((), { p with dhcp := { p.dhcp with dhcpTick1s := p.dhcp.dhcpTick1s + 1 } })
  getphystatus := enRed RedTest.getphystatus
  getSnSR sn := enRed (Red.getSnSR sn)
  getSnRXRSR sn := enRed (Red.getSnRXRSR sn)
  socket sn protocol port flag := enRed (Red.socket sn protocol port flag)
  connect sn addr port := enRed (Red.connect sn addr port)
  close sn := enRed (Red.close sn)
  send sn bs := enRed (Red.send sn bs)
  recv sn len := enRed (Red.recv sn len)
  chVTGetSystemTime := enRed Red.chVTGetSystemTime
  chThdYield := enRed RedTest.chThdYield
  chThdSleepMilliseconds n := enRed (Red.chThdSleepMilliseconds n)
  palSetLine := enRed RedTest.palSetLine
  palClearLine := enRed RedTest.palClearLine

end Automata

/-! ### The codes of `DHCP_run` -/

namespace DHCP

open Stateful

variable {A E : Type} [Aplicacion A]

/-- The state of the client and the addresses it has had and has. -/
def direcciones (p : Placa A E) : StateDhcp × IP × IP := (p.dhcp.dhcpState, p.dhcp.oldAllocatedIp, p.dhcp.allocatedIp)

/-- An address that is being renewed is the one the client has. -/
def Fija (p : Placa A E) : Prop := p.dhcp.dhcpState = .rerequest → p.dhcp.oldAllocatedIp = p.dhcp.allocatedIp

/-- Not one of the codes the automaton waits for. -/
def SinSalida (ret : UInt8) : Prop := ret ≠ DHCP_IP_ASSIGN ∧ ret ≠ DHCP_IP_CHANGED

instance (ret : UInt8) : Decidable (SinSalida ret) := inferInstanceAs (Decidable (_ ∧ _))

/-- A part of `DHCP_run` that returns none of them. -/
def Encierra (x : PlacaM A E UInt8) : Prop := Triple Fija x (fun ret p => Fija p ∧ SinSalida ret) Fija

theorem ajenaMensaje_direcciones : AjenaMensaje (direcciones (A := A) (E := E)) where
  entorno _ _ := rfl
  mensaje _ _ := rfl
  servidor _ _ _ := rfl
  opciones _ _ _ _ _ := rfl

theorem ajenaEspera_direcciones : AjenaEspera (direcciones (A := A) (E := E)) where
  entorno _ _ := rfl
  mensaje _ _ := rfl
  servidor _ _ _ := rfl
  enviados _ _ := rfl
  tick _ _ := rfl
  retry _ _ _ := rfl
  rcr _ _ := rfl

theorem preserves_fija {α : Type} {x : PlacaM A E α} (hx : Intact direcciones x) : Preserves Fija x :=
  hx.preserves fun g => g.1 = .rerequest → g.2.1 = g.2.2

theorem preserves_ponEstado_fija {st : StateDhcp} (h : st ≠ .rerequest) :
    Preserves Fija (ponEstado (A := A) (E := E) st) := preserves_modify fun _ _ hst => absurd hst h

theorem encierra_pure {ret : UInt8} (h : SinSalida ret) : Encierra (pure ret : PlacaM A E UInt8) :=
  triple_pure fun _ hp => ⟨hp, h⟩

theorem Encierra.after {α : Type} {x : PlacaM A E α} {f : α → PlacaM A E UInt8} (hx : Preserves Fija x)
    (hf : ∀ a, Encierra (f a)) : Encierra (x >>= f) := Triple.bind hx hf

/-- A case that ends in a state without renewal. -/
theorem encierra_ponEstado {st : StateDhcp} {ret : UInt8} (h : st ≠ .rerequest) (hret : SinSalida ret) :
    Encierra (A := A) (E := E) (do
      ponEstado st
      return ret) := Encierra.after (preserves_ponEstado_fija h) fun _ => encierra_pure hret

variable [Red E] [TimeHandler E]

theorem encierra_checkTimeout : Encierra (checkTimeout (A := A) (E := E)) := by
  have henvio := ajenaEspera_direcciones (A := A) (E := E)
  have htick := preserves_fija (intact_leeTick henvio)
  have habandona : Encierra (abandona (A := A) (E := E)) := by
    have hdiscover : Encierra (A := A) (E := E) (do
        sendDISCOVER
        ponEstado .discover
        return DHCP_RUNNING) :=
      Encierra.after (preserves_fija (intact_sendDISCOVER henvio.toAjenaEnvio)) fun _ =>
        encierra_ponEstado (by decide) (by decide)
    refine Encierra.after preserves_get fun p => ?_
    split
    · exact encierra_ponEstado (by decide) (by decide)
    · exact hdiscover
    · exact hdiscover
    · exact encierra_pure (by decide)
  refine Encierra.after preserves_get fun p => triple_ite (fun _ => ?_) fun _ => ?_
  · refine Encierra.after htick fun tick => triple_ite (fun _ => ?_) fun _ => encierra_pure (by decide)
    refine Encierra.after (preserves_fija (intact_reenvia henvio.toAjenaEnvio)) fun _ => ?_
    refine Encierra.after (preserves_modify fun _ hp => hp) fun _ => Encierra.after htick fun tick => ?_
    exact Encierra.after (preserves_modify fun _ hp => hp) fun _ => encierra_pure (by decide)
  · refine Triple.bind habandona fun ret => Triple.bind (Q := fun _ p => Fija p ∧ SinSalida ret) ?_ fun _ => ?_
    · exact triple_modify fun _ hp => hp
    · exact triple_pure fun _ hp => hp

omit [Red E] [TimeHandler E] in
/-- The address may change when none is being renewed. -/
theorem triple_direccion (ip : DhcpVars (Aplicacion.Fn A) → IP) :
    Triple (fun p : Placa A E => p.dhcp.dhcpState ≠ .rerequest) (modificaDhcp fun d => { d with allocatedIp := ip d })
      (fun _ => Fija) Fija := triple_modify fun _ hp hst => absurd hst hp

omit [TimeHandler E] in
theorem triple_caseInit : Triple (fun p : Placa A E => p.dhcp.dhcpState ≠ .rerequest) caseInit
    (fun ret p => Fija p ∧ SinSalida ret) Fija := by
  have henvio := (ajenaEspera_direcciones (A := A) (E := E)).toAjenaEnvio
  refine Triple.bind (triple_direccion fun _ => {}) fun _ => ?_
  refine Encierra.after (preserves_fija (intact_sendDISCOVER henvio)) fun _ => ?_
  exact encierra_ponEstado (by decide) (by decide)

theorem triple_caseDiscover (type : UInt8) : Triple (fun p : Placa A E => p.dhcp.dhcpState ≠ .rerequest)
    (caseDiscover type) (fun ret p => Fija p ∧ SinSalida ret) Fija := by
  have henvio := (ajenaEspera_direcciones (A := A) (E := E)).toAjenaEnvio
  refine triple_ite (fun _ => ?_) fun _ => ?_
  · refine Triple.bind (triple_direccion yiaddr) fun _ => ?_
    refine Encierra.after (preserves_fija (intact_envia henvio _ _)) fun _ => ?_
    exact encierra_ponEstado (by decide) (by decide)
  · exact encierra_checkTimeout.weaken (fun p hp hst => absurd hst hp) (fun _ _ h => h) fun _ h => h

omit [TimeHandler E] in
/-- The renewal is of the address held. -/
theorem preserves_renueva : Preserves Fija (renueva (A := A) (E := E)) := by
  have henvio := ajenaEspera_direcciones (A := A) (E := E)
  have hmisma : ∀ {α : Type} {x : PlacaM A E α}, Intact direcciones x →
      Triple (fun p => p.dhcp.oldAllocatedIp = p.dhcp.allocatedIp) x
        (fun _ p => p.dhcp.oldAllocatedIp = p.dhcp.allocatedIp) Fija :=
    fun hx => (hx.triple fun g => g.2.1 = g.2.2).weaken (fun _ h => h) (fun _ _ h => h) fun _ h _ => h
  refine Triple.bind (Q := fun _ p => p.dhcp.oldAllocatedIp = p.dhcp.allocatedIp) (triple_modify fun _ _ => rfl) ?_
  intro _
  refine Triple.bind (hmisma (intact_envia henvio.toAjenaEnvio _ _)) fun _ => ?_
  refine Triple.bind (hmisma (intact_resetTimeout henvio)) fun _ => ?_
  exact triple_modify fun p hp _ => hp

theorem encierra_caseLeased : Encierra (caseLeased (A := A) (E := E)) := by
  have hleased : Encierra (A := A) (E := E) (pure DHCP_IP_LEASED) := encierra_pure (by decide)
  refine Encierra.after preserves_get fun p => triple_ite (fun _ => ?_) fun _ => hleased
  refine Encierra.after (preserves_fija (intact_leeTick ajenaEspera_direcciones)) fun tick => ?_
  exact triple_ite (fun _ => Encierra.after preserves_renueva fun _ => hleased) fun _ => hleased

theorem encierra_caseRequest (fuel : Nat) (type : UInt8) : Encierra (caseRequest (A := A) (E := E) fuel type) := by
  have henvio := ajenaEspera_direcciones (A := A) (E := E)
  have hreset := preserves_fija (intact_resetTimeout henvio)
  have hfn : ∀ (fn : DhcpVars (Aplicacion.Fn A) → Option (Aplicacion.Fn A))
      (porDefecto : DhcpVars (Aplicacion.Fn A) → Registros → Registros),
      Preserves Fija (llamaFn (E := E) fn porDefecto) := by
    intro fn porDefecto
    refine preserves_modify fun p hp => ?_
    split <;> exact hp
  refine triple_ite (fun _ => ?_) fun _ => triple_ite (fun _ => ?_) fun _ => encierra_checkTimeout
  · -- an ACK, which the source gives no code of its own
    refine Encierra.after (preserves_fija (intact_checkLeasedIP henvio fuel)) fun libre => ?_
    refine triple_ite (fun _ => ?_) fun _ => ?_
    · refine Encierra.after (hfn _ _) fun _ => Encierra.after hreset fun _ => ?_
      refine Encierra.after (preserves_ponEstado_fija (by decide)) fun _ => ?_
      exact Encierra.after (preserves_modify fun _ hp => hp) fun _ => encierra_pure (by decide)
    · exact Encierra.after hreset fun _ => Encierra.after (hfn _ _) fun _ => encierra_ponEstado (by decide) (by decide)
  · exact Encierra.after hreset fun _ => encierra_ponEstado (by decide) (by decide)

/-- An ACK to a renewal brings the address that was held. -/
theorem triple_caseRerequest (type : UInt8) :
    Triple (fun p : Placa A E => p.dhcp.dhcpState = .rerequest ∧ Fija p) (caseRerequest type)
      (fun ret p => Fija p ∧ SinSalida ret) Fija := by
  have hreset := preserves_fija (intact_resetTimeout (ajenaEspera_direcciones (A := A) (E := E)))
  refine triple_ite (fun _ => ?_) fun _ => ?_
  · refine Triple.bind (Q := fun _ p => p.dhcp.dhcpState = .rerequest ∧ Fija p) (triple_modify fun _ hp => hp) ?_
    intro _
    refine triple_get_bind fun p hp => ?_
    -- with the same address there is no `DHCP_IP_CHANGED`
    have hmisma : ¬ p.dhcp.oldAllocatedIp ≠ p.dhcp.allocatedIp := fun hne => hne (hp.2 hp.1)
    simp only [if_neg hmisma]
    have hfin : Encierra (A := A) (E := E) (do
        resetTimeout
        ponEstado .leased
        anotaAck
        return DHCP_IP_LEASED) := by
      refine Encierra.after hreset fun _ => Encierra.after (preserves_ponEstado_fija (by decide)) fun _ => ?_
      exact Encierra.after (preserves_modify fun _ hp => hp) fun _ => encierra_pure (by decide)
    refine hfin.weaken ?_ (fun _ _ h => h) fun _ h => h
    rintro _ rfl
    exact hp.2
  · refine Triple.weaken (P := Fija) ?_ (fun _ hp => hp.2) (fun _ _ h => h) fun _ h => h
    refine triple_ite (fun _ => ?_) fun _ => encierra_checkTimeout
    exact Encierra.after hreset fun _ => encierra_ponEstado (by decide) (by decide)

theorem encierra_switch (fuel : Nat) (type : UInt8) : Encierra (switch (A := A) (E := E) fuel type) := by
  refine triple_get_bind fun p hp => ?_
  have hentra : ∀ {x : PlacaM A E UInt8}, Encierra x → Triple (· = p) x (fun ret p => Fija p ∧ SinSalida ret) Fija :=
    fun hx => hx.weaken (fun _ h => h ▸ hp) (fun _ _ h => h) fun _ h => h
  cases hst : p.dhcp.dhcpState with
  | init => exact triple_caseInit.weaken (fun _ h => h ▸ by rw [hst]; decide) (fun _ _ h => h) fun _ h => h
  | discover =>
    exact (triple_caseDiscover type).weaken (fun _ h => h ▸ by rw [hst]; decide) (fun _ _ h => h) fun _ h => h
  | request => exact hentra (encierra_caseRequest fuel type)
  | leased => exact hentra encierra_caseLeased
  | rerequest => exact (triple_caseRerequest type).weaken (fun _ h => h ▸ ⟨hst, hp⟩) (fun _ _ h => h) fun _ h => h
  | release => exact hentra (encierra_pure (by decide))
  | stop => exact hentra (encierra_pure (by decide))

/-- Whatever the network does, `DHCP_run` returns neither `DHCP_IP_ASSIGN` nor `DHCP_IP_CHANGED`. -/
theorem encierra_run (fuel : Nat) : Encierra (DHCP.run (A := A) (E := E) fuel) := by
  have hcuerpo : Encierra (runCuerpo (A := A) (E := E) fuel) := by
    refine Encierra.after preserves_get fun p => triple_ite (fun _ => encierra_pure (by decide)) fun _ => ?_
    exact Encierra.after (preserves_fija (intact_recibe ajenaMensaje_direcciones)) fun type => encierra_switch fuel type
  refine Encierra.after preserves_get fun p => Encierra.after (preserves_modify fun _ hp => hp) fun _ => ?_
  refine Triple.bind hcuerpo fun ret => Triple.bind (Q := fun _ p => Fija p ∧ SinSalida ret) ?_ fun _ => ?_
  · exact triple_modify fun _ hp => hp
  · exact triple_pure fun _ hp => hp

end DHCP

/-! ### Rounds -/

namespace Automata

open Stateful Ethernet DHCP

variable {E : Type} [RedTest E] [TimeHandler E]

/-- Nothing that goes on below the DHCP client changes its addresses. -/
theorem preserves_enRed {α : Type} (f : E → α × E) :
    Preserves (fun s : Sistema (Test (Placa SinVariables E)) => Fija s.mundo.base) (baja (enRed f)) :=
  preserves_baja fun _ hp => hp

theorem triple_corre_fija (fuel : Nat) : Triple (fun s : Sistema (Test (Placa SinVariables E)) => Fija s.mundo.base)
    (corre fuel) (fun ret s => Fija s.mundo.base ∧ SinSalida ret) fun s => Fija s.mundo.base :=
  triple_corre (W := Placa SinVariables E) (P := Fija) (Q := fun ret p => Fija p ∧ SinSalida ret) (F := Fija)
    (encierra_run fuel)

theorem triple_hastaSwitch_fija (fuel : Nat) (m : Maquina) :
    Triple (fun s : Sistema (Test (Placa SinVariables E)) => Fija s.mundo.base) (hastaSwitch fuel m)
      (fun x s => (∃ tick, x.1 = { m with lastDhcpTick := tick }) ∧ Fija s.mundo.base) fun s => Fija s.mundo.base := by
  refine triple_hastaSwitch (preserves_enRed _) (preserves_baja fun _ hp => hp) ?_ (preserves_enRed _) m
  exact (triple_corre_fija fuel).weaken (fun _ h => h) (fun _ _ h => h.1) fun _ h => h

/-- The case waits for a code that does not come. -/
theorem triple_caseInitNetwork (fuel : Nat) (m : Maquina) :
    Triple (fun s : Sistema (Test (Placa SinVariables E)) => Fija s.mundo.base) (caseInitNetwork fuel m)
      (fun m' s => m' = m ∧ Fija s.mundo.base) fun s => Fija s.mundo.base := by
  refine (triple_corre_fija fuel).bind fun ret => ?_
  have hduerme : Triple (fun s : Sistema (Test (Placa SinVariables E)) => Fija s.mundo.base) (do
      baja (chThdSleepMilliseconds 100)
      return m) (fun m' s => m' = m ∧ Fija s.mundo.base) fun s => Fija s.mundo.base :=
    Triple.bind (preserves_enRed _) fun _ => triple_pure fun _ h => ⟨rfl, h⟩
  intro s hs
  have hno : ¬ (ret = DHCP_IP_ASSIGN ∨ ret = DHCP_IP_CHANGED) := not_or.mpr hs.2
  simp only [if_neg hno]
  exact hduerme s hs.1

/-- Without the cable the automaton stays where it is. -/
theorem triple_sinCable_init (m : Maquina) (hm : m.currentState = .initNetwork) :
    Triple (fun s : Sistema (Test (Placa SinVariables E)) => Fija s.mundo.base) (sinCable m)
      (fun m' s => m'.currentState = .initNetwork ∧ Fija s.mundo.base) fun s => Fija s.mundo.base := by
  have hno : ¬ m.currentState ≠ .initNetwork := fun hne => hne hm
  unfold sinCable
  simp only [if_neg hno]
  exact Triple.bind (preserves_enRed _) fun _ => triple_pure fun _ h => ⟨rfl, h⟩

theorem triple_vuelta_init (fuel : Nat) (m : Maquina) (hm : m.currentState = .initNetwork) :
    Triple (fun s : Sistema (Test (Placa SinVariables E)) => Fija s.mundo.base) (vuelta fuel m)
      (fun m' s => m'.currentState = .initNetwork ∧ Fija s.mundo.base) fun s => Fija s.mundo.base := by
  refine (triple_hastaSwitch_fija fuel m).bind fun x => triple_of_and ?_
  rintro ⟨tick, hx⟩
  have hm' : x.1.currentState = .initNetwork := by rw [hx]; exact hm
  refine triple_ite (fun _ => ?_) fun _ => triple_sinCable_init x.1 hm'
  unfold «switch»
  rw [hm']
  exact (triple_caseInitNetwork fuel x.1).weaken (fun _ h => h) (fun m' _ h => ⟨h.1 ▸ hm', h.2⟩) fun _ h => h

theorem triple_arranque : Triple (fun _ : Sistema (Test (Placa SinVariables E)) => True) arranque
    (fun m s => m.currentState = .initNetwork ∧ Fija s.mundo.base) fun _ => True := by
  have hbaja : ∀ {α : Type} (f : Placa SinVariables E → α × Placa SinVariables E),
      Triple (fun _ : Sistema (Test (Placa SinVariables E)) => True) (baja f) (fun _ _ => True) fun _ => True :=
    fun f => triple_modifyGet fun _ _ => trivial
  refine (hbaja _).bind fun _ => Triple.bind (Q := fun _ _ => True) (triple_modify fun _ _ => trivial) fun _ => ?_
  refine (hbaja _).bind fun tick => (hbaja _).bind fun _ => ?_
  -- `DHCP_init` puts the client in its first state
  have hinit : Triple (fun _ : Sistema (Test (Placa SinVariables E)) => True)
      (baja (dhcpInit DHCP_SOCKET_NUM DHCP_RX_BUFFER_SIZE)) (fun _ s => Fija s.mundo.base) fun _ => True :=
    triple_modifyGet fun _ _ hst => nomatch hst
  refine hinit.bind fun _ => Triple.bind (Q := fun _ s => Fija s.mundo.base) ?_ fun _ => triple_pure fun _ h => ⟨rfl, h⟩
  exact triple_modifyGet fun _ h => h

/-- In every run, lease or no lease, the case leaves the automaton in `STATE_INIT_NETWORK`, and so does every round. -/
theorem w5500MqttThread_sin_salida {s s₀ : Sistema (Test (Placa SinVariables E))} {m₀ : Maquina}
    {tops : List (Maquina × Sistema (Test (Placa SinVariables E)))} (h₀ : arranque s = .ok m₀ s₀)
    (hrun : Corrida (m₀, s₀) tops) : ∀ t ∈ tops, t.1.currentState = .initNetwork ∧
      ∀ (fuel : Nat) (m m' : Maquina) (s s' : Sistema (Test (Placa SinVariables E))),
        hastaSwitch fuel t.1 t.2 = .ok (m, true) s → caseInitNetwork fuel m s = .ok m' s' →
          m'.currentState = .initNetwork := by
  have hall : ∀ t ∈ tops, t.1.currentState = .initNetwork ∧ Fija t.2.mundo.base := by
    refine hrun.forall (P := fun t => t.1.currentState = .initNetwork ∧ Fija t.2.mundo.base) ?_ ?_
    · exact triple_arranque.ok trivial h₀
    · rintro t t' ⟨fuel, hs⟩ ⟨hm, hp⟩
      exact (triple_vuelta_init fuel t.1 hm).ok hp hs
  intro t ht
  obtain ⟨hm, hp⟩ := hall t ht
  refine ⟨hm, fun fuel m m' s s' hhasta hcase => ?_⟩
  obtain ⟨⟨tick, rfl⟩, hp⟩ := (triple_hastaSwitch_fija fuel t.1).ok hp hhasta
  rw [((triple_caseInitNetwork fuel _).ok hp hcase).1]
  exact hm

/-! ### From a script -/

instance : RedTest Ensayo where
  toRed := inferInstance
  wizchipInit e := ((), e)
  getphystatus e := (true, e)
  chThdYield e := ((), e)
  palSetLine e := ((), e)
  palClearLine e := ((), e)

/-- A message of the server to `dummyNet`. -/
def respuesta (type : UInt8) : List UInt8 :=
  (Ensayo.respuesta type).take 28 ++ dummyNet.mac.bytes ++ (Ensayo.respuesta type).drop 34

/-- The server answers at once. -/
def pronto : Sistema (Test (Placa SinVariables Ensayo)) :=
  inicial ⟨{}, {}, {}, { llegadas := [[], respuesta DHCP_OFFER, respuesta DHCP_ACK] }, [], [], none⟩ 4

/-- The start-up, a round, and the next one down to its `switch` and through its case. -/
structure HastaCase where
  m₀ : Maquina
  s₀ : Sistema (Test (Placa SinVariables Ensayo))
  t : Maquina × Sistema (Test (Placa SinVariables Ensayo))
  m : Maquina
  s : Sistema (Test (Placa SinVariables Ensayo))
  m' : Maquina
  s' : Sistema (Test (Placa SinVariables Ensayo))
  arranque : arranque pronto = .ok m₀ s₀
  corrida : Corrida (m₀, s₀) [t, (m₀, s₀)]
  hastaSwitch : hastaSwitch 4 t.1 t.2 = .ok (m, true) s
  caseInitNetwork : caseInitNetwork 4 m s = .ok m' s'

def hastaCase : Option HastaCase :=
  match h₀ : arranque pronto with
  | .error _ _ => none
  | .ok m₀ s₀ =>
    match h₁ : vuelta 4 m₀ s₀ with
    | .error _ _ => none
    | .ok m₁ s₁ =>
      match h₂ : hastaSwitch 4 m₁ s₁ with
      | .error _ _ | .ok (_, false) _ => none
      | .ok (m, true) s =>
        match h₃ : caseInitNetwork 4 m s with
        | .error _ _ => none
        | .ok m' s' => some ⟨m₀, s₀, (m₁, s₁), m, s, m', s', h₀, .next .start ⟨4, h₁⟩, h₂, h₃⟩

/-- The case is reached with the lease taken, and is left as it was reached. -/
theorem pronto_leased : ∃ c : HastaCase, c.m.currentState = .initNetwork ∧
    c.s.mundo.base.dhcp.dhcpState = .leased ∧ c.m'.currentState = .initNetwork := by
  have hres : hastaCase.map (fun c => (c.m.currentState, c.s.mundo.base.dhcp.dhcpState, c.m'.currentState)) =
      some (.initNetwork, .leased, .initNetwork) := by decide +kernel
  obtain ⟨c, -, hc⟩ := Option.map_eq_some_iff.mp hres
  simp only [Prod.mk.injEq] at hc
  exact ⟨c, hc⟩

theorem w5500MqttThread_sin_salida_pronto : ∃ c : HastaCase, c.s.mundo.base.dhcp.dhcpState = .leased ∧
    c.m'.currentState = .initNetwork := by
  obtain ⟨c, -, hleased, -⟩ := pronto_leased
  have hsin := (w5500MqttThread_sin_salida c.arranque c.corrida c.t List.mem_cons_self).2
  exact ⟨c, hleased, hsin 4 _ _ _ _ c.hastaSwitch c.caseInitNetwork⟩

/-- The lease is there and the automaton does not move. -/
theorem w5500MqttThread_encerrado : ¬ ∀ (s s₀ : Sistema (Test (Placa SinVariables Ensayo))) (m₀ : Maquina)
    (tops : List (Maquina × Sistema (Test (Placa SinVariables Ensayo)))), arranque s = .ok m₀ s₀ →
    Corrida (m₀, s₀) tops → ∀ t ∈ tops, ∀ (fuel : Nat) (m m' : Maquina)
      (s s' : Sistema (Test (Placa SinVariables Ensayo))), hastaSwitch fuel t.1 t.2 = .ok (m, true) s →
      m.currentState = .initNetwork → s.mundo.base.dhcp.dhcpState = .leased →
      caseInitNetwork fuel m s = .ok m' s' → m'.currentState = .connectBroker := by
  intro h
  obtain ⟨c, hinit, hleased, hfin⟩ := pronto_leased
  have hsale := h pronto c.s₀ c.m₀ _ c.arranque c.corrida c.t List.mem_cons_self 4 c.m c.m' c.s c.s' c.hastaSwitch hinit
    hleased c.caseInitNetwork
  rw [hfin] at hsale
  cases hsale

end Automata

end Wiznet
