import Wiznet.Dhcp.Opciones

/-!
# What the DHCP client sends

In every run of `threadYield`, whatever comes from the network: all that the client has handed to `sendto` is in the
format, the text that looks for an address conflict apart, and an address leased is one that it has asked everybody
for.
-/

namespace Wiznet

namespace DHCP

open Stateful

/-! ### Datagrams -/

/-- A message of the client. -/
def Emitido (d : Datagrama) : Prop :=
  d.port = DHCP_SERVER_PORT ∧ ∃ opts type, Formato d.bytes opts ∧ ultima dhcpMessageType opts = some [type] ∧
    (type = DHCP_DISCOVER ∨ type = DHCP_REQUEST ∨ type = DHCP_DECLINE)

/-- What is sent to the address itself, to see if somebody has it. -/
def Comprueba (d : Datagrama) : Prop := d.bytes = CHECK_IP_CONFLICT ∧ d.port = 5000

/-- A REQUEST for this address to everybody. -/
def Pide (ip : IP) (d : Datagrama) : Prop :=
  d.addr = .difusion ∧ d.port = DHCP_SERVER_PORT ∧ ∃ opts, Formato d.bytes opts ∧
    ultima dhcpMessageType opts = some [DHCP_REQUEST] ∧ ultima dhcpRequestedIPaddr opts = some ip.bytes

section

variable {Fn : Type} (d : DhcpVars Fn)

theorem emitido_discover (addr : IP) : Emitido ⟨mensajeDiscover d, addr, DHCP_SERVER_PORT⟩ :=
  ⟨rfl, _, _, mensajeDiscover_formato d, rfl, .inl rfl⟩

theorem emitido_request (addr : IP) : Emitido ⟨mensajeRequest d, addr, DHCP_SERVER_PORT⟩ := by
  refine ⟨rfl, _, DHCP_REQUEST, mensajeRequest_formato d, ?_, .inr (.inl rfl)⟩
  unfold opcionesRequest
  split <;> rfl

theorem emitido_decline (addr : IP) : Emitido ⟨mensajeDecline d, addr, DHCP_SERVER_PORT⟩ :=
  ⟨rfl, _, _, mensajeDecline_formato d, rfl, .inr (.inr rfl)⟩

theorem pide_request {d : DhcpVars Fn} (h : destinoRequest d = .difusion) :
    Pide d.allocatedIp ⟨mensajeRequest d, destinoRequest d, DHCP_SERVER_PORT⟩ :=
  ⟨h, rfl, _, mensajeRequest_formato d, (ultima_request h).1, (ultima_request h).2.1⟩

end

/-! ### The dealings with the servers -/

/-- The state, the address, and what has been handed to `sendto`. -/
structure Trato where
  estado : StateDhcp
  allocatedIp : IP
  enviados : List Datagrama

def trato {A E : Type} [Aplicacion A] (p : Placa A E) : Trato := ⟨p.dhcp.dhcpState, p.dhcp.allocatedIp, p.enviados⟩

namespace Trato

/-- One more datagram. -/
def envio (t : Trato) (d : Datagrama) : Trato := { t with enviados := d :: t.enviados }

def Formal (t : Trato) : Prop := ∀ d ∈ t.enviados, Emitido d ∨ Comprueba d

def Pedido (t : Trato) : Prop := ∃ d ∈ t.enviados, Pide t.allocatedIp d

/-- The address is one that has been asked for. -/
def Debido (t : Trato) : Prop := t.Formal ∧ t.Pedido

/-- The states in which the address is one that has been asked for. -/
def Compromete (estado : StateDhcp) : Prop := estado = .request ∨ estado = .leased ∨ estado = .rerequest

instance (estado : StateDhcp) : Decidable (Compromete estado) := inferInstanceAs (Decidable (_ ∨ _ ∨ _))

/-- The invariant. -/
def Correcto (t : Trato) : Prop := t.Formal ∧ (Compromete t.estado → t.Pedido)

/-- A property of the dealings that lasts whatever the client sends. -/
def Dura (P : Trato → Prop) : Prop := ∀ t d, P t → Emitido d ∨ Comprueba d → P (t.envio d)

theorem Formal.envio {t : Trato} {d : Datagrama} (h : t.Formal) (hd : Emitido d ∨ Comprueba d) : (t.envio d).Formal :=
  List.forall_mem_cons.mpr ⟨hd, h⟩

theorem Pedido.envio {t : Trato} (h : t.Pedido) (d : Datagrama) : (t.envio d).Pedido := by
  obtain ⟨d', hmem, hd'⟩ := h
  exact ⟨d', List.mem_cons_of_mem _ hmem, hd'⟩

theorem dura_correcto : Dura Correcto := fun _ d h hd => ⟨h.1.envio hd, fun hst => (h.2 hst).envio d⟩

theorem dura_debido : Dura Debido := fun _ d h hd => ⟨h.1.envio hd, h.2.envio d⟩

theorem not_compromete_init : ¬ Compromete .init := by decide

theorem not_compromete_stop : ¬ Compromete .stop := by decide

theorem correcto_of_debido {t : Trato} (h : t.Debido) : t.Correcto := ⟨h.1, fun _ => h.2⟩

theorem correcto_of_estado {t : Trato} {estado : StateDhcp} (he : ¬ Compromete estado)
    (h : t.Formal ∧ t.estado = estado) : t.Correcto := ⟨h.1, fun hst => absurd (h.2 ▸ hst) he⟩

theorem dura_estado (estado : StateDhcp) : Dura fun t => t.Formal ∧ t.estado = estado :=
  fun _ _ h hd => ⟨h.1.envio hd, h.2⟩

end Trato

open Trato

section

variable {A E : Type} [Aplicacion A]

theorem ajenaMensaje_trato : AjenaMensaje (trato (A := A) (E := E)) where
  entorno _ _ := rfl
  mensaje _ _ := rfl
  servidor _ _ _ := rfl
  opciones _ _ _ _ _ := rfl

variable [Red E] [TimeHandler E]

omit [Red E] in
theorem intact_leeTick_trato : Intact trato (leeTick (A := A) (E := E)) :=
  (intact_red (fun _ _ => rfl) _).bind fun _ => Intact.bind (intact_modify fun _ => rfl) fun _ =>
    Intact.bind intact_get fun _ => intact_pure _

omit [Red E] [TimeHandler E] in
theorem intact_resetTimeout_trato : Intact trato (resetTimeout (A := A) (E := E)) := intact_modify fun _ => rfl

omit [Red E] [TimeHandler E] in
theorem intact_llamaFn_trato (fn : DhcpVars (Aplicacion.Fn A) → Option (Aplicacion.Fn A))
    (porDefecto : DhcpVars (Aplicacion.Fn A) → Registros → Registros) :
      Intact trato (llamaFn (E := E) fn porDefecto) := by
  refine intact_modify fun p => ?_
  split <;> rfl

omit [Red E] in
theorem intact_esperaTicks_trato (desde : UInt32) (n : Nat) : Intact trato (esperaTicks (A := A) (E := E) desde n) := by
  induction n with
  | zero => exact intact_throw _
  | succ n ih => exact intact_leeTick_trato.bind fun _ => intact_ite ih (intact_pure _)

/-! ### What lasts through the parts of `DHCP_run` -/

section Dura

variable {P : Trato → Prop} (hP : Dura P)
include hP

omit [TimeHandler E] in
theorem preserves_sendto_trato {bytes : List UInt8} {addr : IP} {port : UInt16}
    (h : Emitido ⟨bytes, addr, port⟩ ∨ Comprueba ⟨bytes, addr, port⟩) :
    Preserves (fun p : Placa A E => P (trato p)) (sendto bytes addr port) := by
  refine preserves_get.bind fun p => ((intact_red (fun _ _ => rfl) _).preserves P).bind fun ret => ?_
  exact Preserves.bind (preserves_modify fun p hp => hP _ _ hp h) fun _ => preserves_pure _

omit [TimeHandler E] in
theorem preserves_envia_trato {mensaje : DhcpVars (Aplicacion.Fn A) → List UInt8}
    {addr : DhcpVars (Aplicacion.Fn A) → IP} (h : ∀ d, Emitido ⟨mensaje d, addr d, DHCP_SERVER_PORT⟩) :
    Preserves (fun p : Placa A E => P (trato p)) (envia mensaje addr) := by
  refine preserves_get.bind fun p => ?_
  dsimp only
  split
  · exact preserves_throw _
  · refine preserves_ite (preserves_throw _) (Preserves.bind (preserves_modify fun _ hp => hp) fun _ => ?_)
    exact (preserves_sendto_trato hP (.inl (h _))).bind fun _ => preserves_pure _

omit [TimeHandler E] in
theorem preserves_sendDISCOVER_trato : Preserves (fun p : Placa A E => P (trato p)) sendDISCOVER :=
  Preserves.bind (preserves_modify fun _ hp => hp) fun _ => preserves_envia_trato hP fun d => emitido_discover d _

omit [TimeHandler E] in
theorem preserves_sendREQUEST_trato : Preserves (fun p : Placa A E => P (trato p)) sendREQUEST :=
  preserves_envia_trato hP fun d => emitido_request d _

theorem preserves_checkLeasedIP_trato (fuel : Nat) :
    Preserves (fun p : Placa A E => P (trato p)) (checkLeasedIP fuel) := by
  have hrcr : ∀ rcr, Preserves (fun p : Placa A E => P (trato p)) (ponRCR rcr) :=
    fun rcr => preserves_modify fun _ hp => hp
  refine preserves_get.bind fun p => (hrcr _).bind fun _ => ?_
  refine (preserves_sendto_trato hP (.inr ⟨rfl, rfl⟩)).bind fun ret => ?_
  refine (hrcr _).bind fun _ => preserves_ite (preserves_pure _) ?_
  refine (preserves_envia_trato hP fun d => emitido_decline d _).bind fun _ => ?_
  refine (intact_leeTick_trato.preserves P).bind fun tick => ?_
  exact ((intact_esperaTicks_trato _ _).preserves P).bind fun _ => preserves_pure _

omit [TimeHandler E] in
theorem preserves_reenvia_trato : Preserves (fun p : Placa A E => P (trato p)) reenvia := by
  refine preserves_get.bind fun p => ?_
  split
  · exact preserves_sendDISCOVER_trato hP
  · exact preserves_sendREQUEST_trato hP
  · exact preserves_sendREQUEST_trato hP
  · exact preserves_pure _

end Dura

/-! ### The invariant, case by case -/

omit [Red E] [TimeHandler E] in
theorem preserves_ponEstado_trato {estado : StateDhcp} (h : ¬ Compromete estado) :
    Preserves (fun p : Placa A E => (trato p).Correcto) (ponEstado estado) :=
  preserves_modify fun _ hp => ⟨hp.1, fun hst => absurd hst h⟩

omit [Red E] [TimeHandler E] in
/-- With an address asked for, any state will do. -/
theorem triple_ponEstado_trato (estado : StateDhcp) :
    Triple (fun p : Placa A E => (trato p).Debido) (ponEstado estado) (fun _ p => (trato p).Correcto)
      fun p => (trato p).Correcto :=
  triple_modify fun _ hp => ⟨hp.1, fun _ => hp.2⟩

omit [Red E] [TimeHandler E] in
theorem triple_debido {α : Type} {x : PlacaM A E α}
    (hx : Preserves (fun p => (trato p).Debido) x) :
    Triple (fun p => (trato p).Debido) x (fun _ p => (trato p).Debido)
      fun p => (trato p).Correcto :=
  hx.weaken (fun _ h => h) (fun _ _ h => h) fun _ h => correcto_of_debido h

omit [Red E] [TimeHandler E] in
theorem triple_intact_debido {α : Type} {x : PlacaM A E α} (hx : Intact trato x) :
    Triple (fun p => (trato p).Debido) x (fun _ p => (trato p).Debido)
      fun p => (trato p).Correcto :=
  triple_debido (hx.preserves Debido)

theorem preserves_checkTimeout_trato : Preserves (fun p : Placa A E => (trato p).Correcto) checkTimeout := by
  have htick := (intact_leeTick_trato (A := A) (E := E)).preserves Correcto
  have habandona : Preserves (fun p : Placa A E => (trato p).Correcto) abandona := by
    have hdiscover := (preserves_sendDISCOVER_trato (A := A) (E := E) dura_correcto).bind fun _ =>
      (preserves_ponEstado_trato (show ¬ Compromete .discover by decide)).bind fun _ => preserves_pure DHCP_RUNNING
    refine preserves_get.bind fun p => ?_
    split
    · exact (preserves_ponEstado_trato (by decide)).bind fun _ => preserves_pure _
    · exact hdiscover
    · exact hdiscover
    · exact preserves_pure _
  refine preserves_get.bind fun p => preserves_ite ?_ ?_
  · refine htick.bind fun tick => preserves_ite ?_ (preserves_pure _)
    refine (preserves_reenvia_trato dura_correcto).bind fun _ => ?_
    refine Preserves.bind (preserves_modify fun _ hp => hp) fun _ => ?_
    exact htick.bind fun tick => Preserves.bind (preserves_modify fun _ hp => hp) fun _ => preserves_pure _
  · exact habandona.bind fun ret => (intact_resetTimeout_trato.preserves Correcto).bind fun _ => preserves_pure _

omit [TimeHandler E] in
theorem triple_caseInit_trato : Triple (fun p : Placa A E => (trato p).Formal ∧ (trato p).estado = .init) caseInit
    (fun _ p => (trato p).Correcto) fun p => (trato p).Correcto := by
  have hinit : ∀ p : Placa A E, (trato p).Formal ∧ (trato p).estado = .init → (trato p).Correcto :=
    fun p => correcto_of_estado (by decide)
  refine Triple.bind (Q := fun _ p => (trato p).Formal ∧ (trato p).estado = .init)
    (triple_modify fun _ h => h) fun _ => ?_
  have hdiscover := (preserves_sendDISCOVER_trato (A := A) (E := E) (dura_estado .init)).weaken (fun _ h => h)
    (fun _ p h => hinit p h) hinit
  refine hdiscover.bind fun _ => ?_
  exact (preserves_ponEstado_trato (by decide)).bind fun _ => preserves_pure _

omit [TimeHandler E] in
/-- A REQUEST from the state DISCOVER goes to everybody. -/
theorem triple_sendREQUEST_trato :
    Triple (fun p : Placa A E => (trato p).Formal ∧ (trato p).estado = .discover) sendREQUEST
      (fun _ p => (trato p).Debido) fun p => (trato p).Correcto := by
  rintro p ⟨hformal, hst⟩
  have hdest : destinoRequest p.dhcp = .difusion := by
    have hst' : p.dhcp.dhcpState = .discover := hst
    simp [destinoRequest, hst']
  rcases envia_cases mensajeRequest destinoRequest p with h | h
  · rw [sendREQUEST, h]
    exact ⟨hformal.envio (.inl (emitido_request _ _)), _, List.mem_cons_self, pide_request hdest⟩
  · rw [sendREQUEST, h]
    exact correcto_of_estado (by decide) ⟨hformal, hst⟩

theorem triple_caseDiscover_trato (type : UInt8) :
    Triple (fun p : Placa A E => (trato p).Formal ∧ (trato p).estado = .discover) (caseDiscover type)
      (fun _ p => (trato p).Correcto) fun p => (trato p).Correcto := by
  have hdiscover : ∀ p : Placa A E, (trato p).Formal ∧ (trato p).estado = .discover → (trato p).Correcto :=
    fun p => correcto_of_estado (by decide)
  refine triple_ite (fun _ => ?_) fun _ => preserves_checkTimeout_trato.weaken hdiscover (fun _ _ h => h) fun _ h => h
  refine Triple.bind (Q := fun _ p => (trato p).Formal ∧ (trato p).estado = .discover) (triple_modify fun _ h => h)
    fun _ => ?_
  exact triple_sendREQUEST_trato.bind fun _ => (triple_ponEstado_trato _).bind fun _ => preserves_pure _

theorem triple_caseRequest_trato (fuel : Nat) (type : UInt8) :
    Triple (fun p : Placa A E => (trato p).Debido) (caseRequest fuel type)
      (fun _ p => (trato p).Correcto) fun p => (trato p).Correcto := by
  have hack : Preserves (fun p : Placa A E => (trato p).Correcto) anotaAck := preserves_modify fun _ hp => hp
  have hreset := triple_intact_debido (intact_resetTimeout_trato (A := A) (E := E))
  refine triple_ite (fun _ => ?_) fun _ => triple_ite (fun _ => ?_) fun _ =>
    preserves_checkTimeout_trato.weaken (fun _ h => correcto_of_debido h) (fun _ _ h => h) fun _ h => h
  · refine (triple_debido (preserves_checkLeasedIP_trato dura_debido fuel)).bind fun libre =>
      triple_ite (fun _ => ?_) fun _ => ?_
    · refine (triple_intact_debido (intact_llamaFn_trato _ _)).bind fun _ => hreset.bind fun _ => ?_
      exact (triple_ponEstado_trato _).bind fun _ => hack.bind fun _ => preserves_pure _
    · refine hreset.bind fun _ => (triple_intact_debido (intact_llamaFn_trato _ _)).bind fun _ => ?_
      exact (triple_ponEstado_trato _).bind fun _ => preserves_pure _
  · exact hreset.bind fun _ => (triple_ponEstado_trato _).bind fun _ => preserves_pure _

theorem triple_caseLeased_trato : Triple (fun p : Placa A E => (trato p).Debido) caseLeased
    (fun _ p => (trato p).Correcto) fun p => (trato p).Correcto := by
  have hret : Triple (fun p : Placa A E => (trato p).Debido) (pure DHCP_IP_LEASED : PlacaM A E UInt8)
      (fun _ p => (trato p).Correcto) fun p => (trato p).Correcto := triple_pure fun _ h => correcto_of_debido h
  have hrenueva : Triple (fun p : Placa A E => (trato p).Debido) renueva (fun _ p => (trato p).Correcto)
      fun p => (trato p).Correcto := by
    refine Triple.bind (Q := fun _ p => (trato p).Debido) (triple_modify fun _ h => h) fun _ => ?_
    refine (triple_debido (preserves_sendREQUEST_trato dura_debido)).bind fun _ => ?_
    exact (triple_intact_debido intact_resetTimeout_trato).bind fun _ => triple_ponEstado_trato _
  refine (triple_debido preserves_get).bind fun p => triple_ite (fun _ => ?_) fun _ => hret
  refine (triple_intact_debido intact_leeTick_trato).bind fun tick => triple_ite (fun _ => ?_) fun _ => hret
  exact hrenueva.bind fun _ => preserves_pure _

theorem triple_caseRerequest_trato (type : UInt8) :
    Triple (fun p : Placa A E => (trato p).Debido) (caseRerequest type)
      (fun _ p => (trato p).Correcto) fun p => (trato p).Correcto := by
  have hack : Preserves (fun p : Placa A E => (trato p).Correcto) anotaAck := preserves_modify fun _ hp => hp
  have hreset := triple_intact_debido (intact_resetTimeout_trato (A := A) (E := E))
  refine triple_ite (fun _ => ?_) fun _ => triple_ite (fun _ => ?_) fun _ =>
    preserves_checkTimeout_trato.weaken (fun _ h => correcto_of_debido h) (fun _ _ h => h) fun _ h => h
  · refine Triple.bind (Q := fun _ p => (trato p).Debido) (triple_modify fun _ h => h) fun _ => ?_
    refine (triple_debido preserves_get).bind fun p => ?_
    have hfin : Triple (fun p : Placa A E => (trato p).Debido) (do
        resetTimeout
        ponEstado .leased
        anotaAck
        return if p.dhcp.oldAllocatedIp ≠ p.dhcp.allocatedIp then DHCP_IP_CHANGED else DHCP_IP_LEASED
        : PlacaM A E UInt8) (fun _ p => (trato p).Correcto) fun p => (trato p).Correcto :=
      hreset.bind fun _ => (triple_ponEstado_trato _).bind fun _ => hack.bind fun _ => preserves_pure _
    exact triple_ite (fun _ => (triple_intact_debido (intact_llamaFn_trato _ _)).bind fun _ => hfin) fun _ => hfin
  · exact hreset.bind fun _ => (triple_ponEstado_trato _).bind fun _ => preserves_pure _

theorem preserves_run_trato (fuel : Nat) : Preserves (fun p : Placa A E => (trato p).Correcto) (DHCP.run fuel) := by
  have hanota : ∀ h, Preserves (fun p : Placa A E => (trato p).Correcto) (anota h) :=
    fun h => preserves_modify fun _ hp => hp
  have hswitch : ∀ type, Preserves (fun p : Placa A E => (trato p).Correcto) (switch fuel type) := by
    intro type
    refine triple_get_bind fun p hp => ?_
    split
    · rename_i hst
      exact triple_caseInit_trato.weaken (fun s hs => hs ▸ ⟨hp.1, hst⟩) (fun _ _ h => h) fun _ h => h
    · rename_i hst
      exact (triple_caseDiscover_trato type).weaken (fun s hs => hs ▸ ⟨hp.1, hst⟩) (fun _ _ h => h) fun _ h => h
    · rename_i hst
      exact (triple_caseRequest_trato fuel type).weaken (fun s hs => hs ▸ ⟨hp.1, hp.2 (.inl hst)⟩) (fun _ _ h => h)
        fun _ h => h
    · rename_i hst
      exact triple_caseLeased_trato.weaken (fun s hs => hs ▸ ⟨hp.1, hp.2 (.inr (.inl hst))⟩)
        (fun _ _ h => h) fun _ h => h
    · rename_i hst
      exact (triple_caseRerequest_trato type).weaken (fun s hs => hs ▸ ⟨hp.1, hp.2 (.inr (.inr hst))⟩) (fun _ _ h => h)
        fun _ h => h
    · exact triple_pure fun s hs => hs ▸ hp
  have hcuerpo : Preserves (fun p : Placa A E => (trato p).Correcto) (runCuerpo fuel) := by
    refine preserves_get.bind fun p => preserves_ite (preserves_pure _) ?_
    exact ((intact_recibe ajenaMensaje_trato).preserves Correcto).bind hswitch
  refine preserves_get.bind fun p => (hanota _).bind fun _ => ?_
  exact hcuerpo.bind fun ret => (hanota _).bind fun _ => preserves_pure _

end

/-! ### Over the runs of `threadYield` -/

section

variable {E : Type} [Red E] [TimeHandler E]

theorem preserves_w5500Init_trato (fuel : Nat) :
    Preserves (fun p : Placa PortVars E => (trato p).Correcto) (Port.w5500Init fuel) := by
  have hred : ∀ {α : Type} (f : E → α × E), Preserves (fun p : Placa PortVars E => (trato p).Correcto) (red f) :=
    fun f => (intact_red (fun _ _ => rfl) f).preserves Correcto
  have hlink : ∀ retries, Preserves (fun p : Placa PortVars E => (trato p).Correcto) (Port.esperaLink retries) := by
    intro retries
    induction retries with
    | zero => exact preserves_pure _
    | succ retries ih => exact (hred _).bind fun _ => (hred _).bind fun _ => preserves_ite (preserves_pure _) ih
  have hip : ∀ retries, Preserves (fun p : Placa PortVars E => (trato p).Correcto) (Port.esperaIP fuel retries) := by
    intro retries
    induction retries with
    | zero => exact preserves_pure _
    | succ retries ih =>
      refine preserves_get.bind fun p => preserves_ite (preserves_pure _) ?_
      exact (preserves_run_trato fuel).bind fun _ => (hred _).bind fun _ => ih
  have hred' : Preserves (fun p : Placa PortVars E => (trato p).Correcto) (Port.configuraRed fuel) := by
    refine Preserves.bind (preserves_modify fun _ hp => hp) fun _ => ?_
    -- `DHCP_init` leaves the client in the state INIT
    refine Preserves.bind (preserves_modify fun p hp => correcto_of_estado not_compromete_init ⟨hp.1, rfl⟩) fun _ => ?_
    refine Preserves.bind (preserves_modify fun _ hp => hp) fun _ => (hip 20).bind fun _ => ?_
    exact Preserves.bind (preserves_modify fun _ hp => hp) fun _ => (hred _).bind fun _ => preserves_pure _
  refine Preserves.bind ?_ fun ret => Preserves.bind (preserves_modify fun _ hp => hp) fun _ => preserves_pure _
  refine (hred _).bind fun _ => Preserves.bind (preserves_modify fun _ hp => hp) fun _ => (hred _).bind fun _ => ?_
  refine (hred _).bind fun _ => preserves_ite (preserves_pure _) ((hred _).bind fun _ => ?_)
  exact preserves_ite (preserves_pure _) ((hlink 10).bind fun _ => preserves_ite hred' (preserves_pure _))

/-- In every run, wherever it is: all that the client has handed to `sendto` is in the format or looks for a conflict,
and the address of a lease, or of one being asked for, is in a REQUEST to everybody among it. -/
theorem dhcpRun_pide {entorno : E} {s : Sistema (Placa PortVars E)} (h : Alcanzado entorno s) :
    (∀ d ∈ s.mundo.enviados, Emitido d ∨ Comprueba d) ∧
      (s.mundo.dhcp.dhcpState = .request ∨ s.mundo.dhcp.dhcpState = .leased ∨ s.mundo.dhcp.dhcpState = .rerequest →
        ∃ d ∈ s.mundo.enviados, Pide s.mundo.dhcp.allocatedIp d) := by
  have hajena : AjenaWizchip (trato (A := PortVars) (E := E)) := Placa.ajenaWizchip fun _ _ => rfl
  have hinit : ∀ p : Placa PortVars E, (trato p).Correcto →
      (trato (iniciada DHCP_SOCKET_NUM DNS_BUFFER_SIZE (fun _ => 0) p)).Correcto :=
    fun p hp => correcto_of_estado not_compromete_init ⟨hp.1, rfl⟩
  refine h.induccion (I := fun s => (trato s.mundo).Correcto) (F := fun s => (trato s.mundo).Correcto) (fun fuel => ?_)
    (fun fuel l => ?_) fun _ h => h
  · refine Triple.weaken (triple_threadYieldArranque hajena (preserves_w5500Init_trato fuel) fun _ h => h)
      (fun s hs => ?_) (fun _ _ h => h) fun _ h => h
    rw [hs]
    exact correcto_of_estado not_compromete_init ⟨List.forall_mem_nil _, rfl⟩
  · refine triple_threadYieldVuelta hajena (P := fun p => (trato p).Correcto) (J := Correcto) fuel l (fun _ h _ => h)
      (fun _ h => h) (fun p hp => correcto_of_estado not_compromete_stop ⟨hp.1, rfl⟩) (fun _ h _ => h) ?_ hinit
      fun _ h => h
    refine (preserves_run_trato fuel).weaken (fun _ h => h) (fun ret p hp => ?_) fun _ h => h
    split <;> exact hp

theorem dhcpRun_pide_pronto : ∃ s, Alcanzado Ensayo.pronto s ∧ s.mundo.dhcp.dhcpState = .leased ∧
    ∃ d ∈ s.mundo.enviados, Pide Ensayo.direccion d := by
  have hd : Ensayo.pronto.unaVuelta.map (fun s => (s.mundo.dhcp.dhcpState, s.mundo.dhcp.allocatedIp)) =
      some (.leased, Ensayo.direccion) := by decide +kernel
  obtain ⟨s, hs, hd⟩ := Option.map_eq_some_iff.mp hd
  obtain ⟨hst, hip⟩ := Prod.mk.inj hd
  have halc := Ensayo.alcanzado_unaVuelta hs
  exact ⟨s, halc, hst, hip ▸ (dhcpRun_pide halc).2 (.inr (.inl hst))⟩

end

end DHCP

end Wiznet
