import Wiznet.Dhcp.Opciones

/-!
# The address in use

Whether the chip uses the address, the mask and the gateway that the client holds a lease on.  `W5500_Init` writes them
on the chip; nobody does when a lease is taken later, or when a message changes its mask or its gateway.
-/

namespace Wiznet

open Stateful Wizchip

variable {E : Type} [Red E] [TimeHandler E]

/-- With a lease, the chip uses it. -/
def EnUso {A : Type} [Aplicacion A] (p : Placa A E) : Prop :=
  p.dhcp.dhcpState = .leased →
    p.regs.sipr = p.dhcp.allocatedIp ∧ p.regs.subr = p.dhcp.allocatedSn ∧ p.regs.gar = p.dhcp.allocatedGw

instance {A E : Type} [Aplicacion A] (p : Placa A E) : Decidable (EnUso p) := inferInstanceAs (Decidable (_ → _))

section Condicion

variable {A : Type} [Aplicacion A]

/-- Nobody answers to the address offered. -/
def NadieResponde (p : Placa A E) : Prop :=
  (Red.sendto p.dhcp.dhcpSocket DHCP.CHECK_IP_CONFLICT p.dhcp.allocatedIp 5000 p.entorno).1 = SOCKERR_TIMEOUT

/-- Half of the lease is over. -/
def MediaVida (p : Placa A E) : Prop :=
  p.dhcp.dhcpLeaseTime ≠ INFINITE_LEASETIME ∧
    p.dhcp.dhcpLeaseTime / 2 < p.dhcp.dhcpTick1s + (TimeHandler.ticks p.entorno).1

/-- After a message of this type the client holds a lease. -/
def TomaLease (type : UInt8) (p : Placa A E) : Prop :=
  match p.dhcp.dhcpState with
  | .request => type = DHCP_ACK ∧ NadieResponde p
  | .leased => ¬ MediaVida p
  | .rerequest => type = DHCP_ACK
  | _ => False

/-- What a call of `DHCP_run` made here has to go by: the type of the datagram that comes, zero for none, and the
client's variables with what its options say; `none` when it overruns the buffer. -/
def noticia (p : Placa A E) : Option (UInt8 × DhcpVars (Aplicacion.Fn A)) :=
  match (DHCP.llega p).1 with
  | none => some (0, p.dhcp)
  | some r => DHCP.leeDatagrama p.dhcp r

/-- The datagrams that make a lease, or come while there is one, leave the client with the mask and the gateway of the
chip, and those that make a new one come when the address asked for is the chip's too. -/
def Conforme (p : Placa A E) : Prop :=
  ∀ type d, noticia p = some (type, d) → TomaLease type { (DHCP.llega p).2 with dhcp := d } →
    d.allocatedSn = p.regs.subr ∧ d.allocatedGw = p.regs.gar ∧
      (p.dhcp.dhcpState = .request → p.dhcp.allocatedIp = p.regs.sipr)

/-- The call of `DHCP_run` entered in `diario`. -/
def entra (p : Placa A E) : Placa A E :=
  { p with diario := .run p.dhcp.dhcpSocket p.dhcp.pDHCPMSG :: p.diario }

omit [TimeHandler E] in
/-- What comes has nothing to do with the entry. -/
theorem llega_entra (p : Placa A E) : DHCP.llega (entra p) = ((DHCP.llega p).1, entra (DHCP.llega p).2) := by
  have hsocket : DHCP.conSocket (entra p) = entra (DHCP.conSocket p) := by
    have hsn : (DHCP.enRed (Red.getSnSR (entra p).dhcp.dhcpSocket) (entra p)).1 =
        (DHCP.enRed (Red.getSnSR p.dhcp.dhcpSocket) p).1 := rfl
    unfold DHCP.conSocket
    dsimp only
    rw [hsn, apply_ite entra]
    rfl
  have hlen : (DHCP.enRed (Red.getSnRXRSR (DHCP.conSocket (entra p)).dhcp.dhcpSocket) (DHCP.conSocket (entra p))).1 =
      (DHCP.enRed (Red.getSnRXRSR (DHCP.conSocket p).dhcp.dhcpSocket) (DHCP.conSocket p)).1 := by
    rw [hsocket]
    rfl
  unfold DHCP.llega
  dsimp only
  rw [hlen, hsocket]
  split <;> rfl

omit [TimeHandler E] in
theorem recibe_entra {p p₁ : Placa A E} {type : UInt8} : DHCP.recibe (entra p) = .ok type p₁ ↔
    ∃ d, noticia p = some (type, d) ∧ p₁ = { entra (DHCP.llega p).2 with dhcp := d } := by
  have hllega := llega_entra p
  obtain ⟨e, he⟩ : ∃ e, (DHCP.llega p).2 = { p with entorno := e } := DHCP.llega_eq rfl
  unfold noticia
  rw [he] at hllega ⊢
  cases hr : (DHCP.llega p).1 with
  | none =>
    rw [hr] at hllega
    rw [DHCP.recibe_nada hllega]
    constructor
    · rintro ⟨⟩
      exact ⟨p.dhcp, rfl, rfl⟩
    · rintro ⟨d, hd, rfl⟩
      cases hd
      rfl
  | some r =>
    rw [hr] at hllega
    rw [DHCP.recibe_llega hllega]
    have hdhcp : (entra { p with entorno := e }).dhcp = p.dhcp := rfl
    unfold DHCP.tomaDatagrama
    rw [hdhcp]
    cases hlee : DHCP.leeDatagrama p.dhcp r with
    | none => simp [hlee]
    | some x =>
      obtain ⟨type', d⟩ := x
      simp only [hlee]
      constructor
      · rintro ⟨⟩
        exact ⟨d, rfl, rfl⟩
      · rintro ⟨d', hd, rfl⟩
        cases hd
        rfl

end Condicion

/-- So it is in the round that starts here, unless the cable is out. -/
def VueltaConforme (s : Sistema (Placa PortVars E)) : Prop :=
  (getPHYCFGR s.mundo).1 &&& 0x01 ≠ 0 → Conforme (getPHYCFGR s.mundo).2

/-! ### What the lease and the chip show -/

structure Tarjeta where
  estado : StateDhcp
  allocatedIp : IP
  allocatedSn : IP
  allocatedGw : IP
  sipr : IP
  subr : IP
  gar : IP
  ipAssigned : Bool
  pDHCPMSG : Option Nat
  dhcpIpAssign : Option CallbackPort
  dhcpIpUpdate : Option CallbackPort
  dhcpIpConflict : Option CallbackPort

def tarjeta (p : Placa PortVars E) : Tarjeta where
  estado := p.dhcp.dhcpState
  allocatedIp := p.dhcp.allocatedIp
  allocatedSn := p.dhcp.allocatedSn
  allocatedGw := p.dhcp.allocatedGw
  sipr := p.regs.sipr
  subr := p.regs.subr
  gar := p.regs.gar
  ipAssigned := p.app.ipAssigned
  pDHCPMSG := p.dhcp.pDHCPMSG
  dhcpIpAssign := p.dhcp.dhcpIpAssign
  dhcpIpUpdate := p.dhcp.dhcpIpUpdate
  dhcpIpConflict := p.dhcp.dhcpIpConflict

omit [Red E] [TimeHandler E] in
theorem ajenaEspera_tarjeta : AjenaEspera (tarjeta (E := E)) where
  entorno _ _ := rfl
  enviados _ _ := rfl
  mensaje _ _ := rfl
  servidor _ _ _ := rfl
  tick _ _ := rfl
  retry _ _ _ := rfl
  rcr _ _ := rfl

/-- All but what the options of a message set. -/
def Tarjeta.sinOpciones (t : Tarjeta) : Tarjeta := { t with allocatedSn := {}, allocatedGw := {} }

omit [Red E] [TimeHandler E] in
theorem ajenaMensaje_sinOpciones : AjenaMensaje (fun p : Placa PortVars E => (tarjeta p).sinOpciones) where
  entorno _ _ := rfl
  mensaje _ _ := rfl
  servidor _ _ _ := rfl
  opciones _ _ _ _ _ := rfl

namespace Tarjeta

/-- The callbacks are those of `wizchip_port.c`. -/
structure Registrada (t : Tarjeta) : Prop where
  ipAssign : t.dhcpIpAssign = some .ipAssigned
  ipUpdate : t.dhcpIpUpdate = some .ipAssigned
  ipConflict : t.dhcpIpConflict = some .ipConflict

/-- What `DHCP_run` leaves alone on the chip, and in how it is called. -/
structure Conserva (t t' : Tarjeta) : Prop where
  sipr : t'.sipr = t.sipr
  subr : t'.subr = t.subr
  gar : t'.gar = t.gar
  pDHCPMSG : t'.pDHCPMSG = t.pDHCPMSG
  ipAssign : t'.dhcpIpAssign = t.dhcpIpAssign
  ipUpdate : t'.dhcpIpUpdate = t.dhcpIpUpdate
  ipConflict : t'.dhcpIpConflict = t.dhcpIpConflict

theorem Conserva.refl (t : Tarjeta) : Conserva t t := ⟨rfl, rfl, rfl, rfl, rfl, rfl, rfl⟩

theorem Conserva.trans {t t' t'' : Tarjeta} (h : Conserva t t') (h' : Conserva t' t'') : Conserva t t'' where
  sipr := h'.sipr.trans h.sipr
  subr := h'.subr.trans h.subr
  gar := h'.gar.trans h.gar
  pDHCPMSG := h'.pDHCPMSG.trans h.pDHCPMSG
  ipAssign := h'.ipAssign.trans h.ipAssign
  ipUpdate := h'.ipUpdate.trans h.ipUpdate
  ipConflict := h'.ipConflict.trans h.ipConflict

theorem Registrada.of_conserva {t t' : Tarjeta} (h : t.Registrada) (hc : Conserva t t') : t'.Registrada where
  ipAssign := hc.ipAssign.trans h.ipAssign
  ipUpdate := hc.ipUpdate.trans h.ipUpdate
  ipConflict := hc.ipConflict.trans h.ipConflict

/-- The outcomes of the `switch` of `DHCP_run`: a lease, the same or a new one; a lease asked for again; no lease. -/
inductive Paso (toma : Prop) (t t' : Tarjeta) (ret : UInt8) : Prop where
  | lease (h : toma) (hestado : t'.estado = .leased) (hip : t'.allocatedIp = t.allocatedIp)
      (hsn : t'.allocatedSn = t.allocatedSn) (hgw : t'.allocatedGw = t.allocatedGw)
      (hflag : t.estado = .request ∨ t.ipAssigned = true → t'.ipAssigned = true) (hret : ret ≠ DHCP_FAILED)
  | renueva (h : ¬ toma) (hprev : t.estado = .leased ∨ t.estado = .rerequest) (hestado : t'.estado = .rerequest)
      (hip : t'.allocatedIp = t.allocatedIp) (hflag : t'.ipAssigned = t.ipAssigned) (hret : ret ≠ DHCP_FAILED)
  | otro (h : ¬ toma) (hleased : t'.estado ≠ .leased) (hrerequest : t'.estado ≠ .rerequest)

/-- There is no lease any more, nor is one asked for again. -/
def Suelta (t : Tarjeta) (_ : UInt8) (t' : Tarjeta) : Prop :=
  ∃ ip flag st, t' = { t with allocatedIp := ip, ipAssigned := flag, estado := st } ∧ st ≠ .leased ∧ st ≠ .rerequest

theorem Suelta.paso {t t' : Tarjeta} {ret : UInt8} (h : Suelta t ret t') {toma : Prop} (htoma : ¬ toma) :
    Conserva t t' ∧ Paso toma t t' ret := by
  obtain ⟨ip, flag, st, rfl, h₁, h₂⟩ := h
  exact ⟨⟨rfl, rfl, rfl, rfl, rfl, rfl, rfl⟩, .otro htoma h₁ h₂⟩

end Tarjeta

namespace DHCP

open Tarjeta

omit [TimeHandler E] in
theorem keeps_envia (mensaje : DhcpVars CallbackPort → List UInt8) (addr : DhcpVars CallbackPort → IP) :
    Keeps tarjeta (envia (E := E) mensaje addr) := (intact_envia ajenaEspera_tarjeta.toAjenaEnvio mensaje addr).keeps

omit [TimeHandler E] in
theorem keeps_sendDISCOVER : Keeps tarjeta (sendDISCOVER (A := PortVars) (E := E)) :=
  (intact_sendDISCOVER ajenaEspera_tarjeta.toAjenaEnvio).keeps

omit [Red E] [TimeHandler E] in
theorem keeps_resetTimeout : Keeps tarjeta (resetTimeout (A := PortVars) (E := E)) :=
  (intact_resetTimeout ajenaEspera_tarjeta).keeps

omit [Red E] in
theorem keeps_leeTick : Keeps tarjeta (leeTick (A := PortVars) (E := E)) := (intact_leeTick ajenaEspera_tarjeta).keeps

omit [Red E] [TimeHandler E] in
theorem leads_ponEstado (st : StateDhcp) :
    Leads tarjeta (fun t _ t' => t' = { t with estado := st }) (ponEstado (A := PortVars) (E := E) st) :=
  leads_modify fun _ => rfl

omit [TimeHandler E] in
theorem leads_caseInit : Leads tarjeta Suelta (caseInit (A := PortVars) (E := E)) := by
  have hip : Leads tarjeta (fun t _ t' => t' = { t with allocatedIp := {} })
      (modificaDhcp (A := PortVars) (E := E) fun d => { d with allocatedIp := {} }) := leads_modify fun _ => rfl
  refine hip.bind (fun _ => keeps_sendDISCOVER.bind_leads fun _ =>
    (leads_ponEstado .discover).bind_keeps (fun _ => keeps_pure _) fun _ _ _ _ h => h) ?_
  rintro t _ _ _ _ rfl rfl
  exact ⟨_, _, _, rfl, by decide, by decide⟩

theorem leads_checkTimeout :
    Leads tarjeta (fun t ret t' => (t' = t ∧ ret = DHCP_RUNNING) ∨ Suelta t ret t')
      (checkTimeout (A := PortVars) (E := E)) := by
  have hreenvia : Keeps tarjeta (reenvia (A := PortVars) (E := E)) :=
    (intact_reenvia ajenaEspera_tarjeta.toAjenaEnvio).keeps
  have hsuelta : ∀ st ret, st ≠ .leased → st ≠ .rerequest →
      Leads tarjeta (fun t ret t' => (t' = t ∧ ret = DHCP_RUNNING) ∨ Suelta t ret t') (do
        ponEstado st
        return ret : PlacaM PortVars E UInt8) := by
    intro st ret h₁ h₂
    refine (leads_ponEstado st).bind_keeps (fun _ => keeps_pure _) ?_
    rintro t _ _ _ rfl
    exact .inr ⟨_, _, _, rfl, h₁, h₂⟩
  have habandona : Leads tarjeta (fun t ret t' => (t' = t ∧ ret = DHCP_RUNNING) ∨ Suelta t ret t')
      (abandona (A := PortVars) (E := E)) := by
    refine Keeps.bind_leads keeps_get fun p => ?_
    have hdiscover := keeps_sendDISCOVER.bind_leads fun _ => hsuelta .discover DHCP_RUNNING (by decide) (by decide)
    split
    · exact hsuelta _ _ (by decide) (by decide)
    · exact hdiscover
    · exact hdiscover
    · exact leads_pure fun _ => .inl ⟨rfl, rfl⟩
  refine Keeps.bind_leads keeps_get fun p => leads_ite (fun _ => ?_) fun _ => ?_
  · have hsigue : Leads tarjeta (fun t ret t' => (t' = t ∧ ret = DHCP_RUNNING) ∨ Suelta t ret t')
        (pure DHCP_RUNNING : PlacaM PortVars E UInt8) := leads_pure fun _ => .inl ⟨rfl, rfl⟩
    refine keeps_leeTick.bind_leads fun tick => leads_ite (fun _ => ?_) fun _ => hsigue
    refine hreenvia.bind_leads fun _ => Keeps.bind_leads (keeps_modify fun _ => rfl) fun _ => ?_
    exact keeps_leeTick.bind_leads fun tick => Keeps.bind_leads (keeps_modify fun _ => rfl) fun _ => hsigue
  · refine habandona.bind (T := fun ret t b t' => b = ret ∧ t' = t) (fun ret => ?_) ?_
    · exact keeps_resetTimeout.bind_leads fun _ => leads_pure fun _ => ⟨rfl, rfl⟩
    · rintro t ret t' _ _ h ⟨rfl, rfl⟩
      exact h

/-! ### Callbacks -/

omit [Red E] [TimeHandler E] in
theorem leads_dhcpIpAssign : Leads tarjeta (fun t _ t' => t.Registrada → t' = { t with ipAssigned := true })
    (dhcpIpAssign (A := PortVars) (E := E)) := by
  refine leads_modify fun p hreg => ?_
  have hp : p.dhcp.dhcpIpAssign = some .ipAssigned := hreg.ipAssign
  simp only [hp]
  rfl

omit [Red E] [TimeHandler E] in
theorem leads_dhcpIpUpdate : Leads tarjeta (fun t _ t' => t.Registrada → t' = { t with ipAssigned := true })
    (dhcpIpUpdate (A := PortVars) (E := E)) := by
  refine leads_modify fun p hreg => ?_
  have hp : p.dhcp.dhcpIpUpdate = some .ipAssigned := hreg.ipUpdate
  simp only [hp]
  rfl

omit [Red E] [TimeHandler E] in
theorem leads_dhcpIpConflict : Leads tarjeta (fun t _ t' => t.Registrada → t' = { t with ipAssigned := false })
    (dhcpIpConflict (A := PortVars) (E := E)) := by
  refine leads_modify fun p hreg => ?_
  have hp : p.dhcp.dhcpIpConflict = some .ipConflict := hreg.ipConflict
  simp only [hp]
  rfl

/-! ### The cases of `DHCP_run` -/

omit [Red E] in
theorem leeTick_ok {p p' : Placa PortVars E} {tick : UInt32} (h : leeTick p = .ok tick p') :
    tick = p.dhcp.dhcpTick1s + (TimeHandler.ticks p.entorno).1 ∧ tarjeta p' = tarjeta p := by
  refine ⟨?_, keeps_leeTick _ _ _ h⟩
  cases h
  rfl

theorem checkLeasedIP_ok {fuel : Nat} {p p' : Placa PortVars E} {libre : Bool}
    (h : checkLeasedIP fuel p = .ok libre p') : (libre = true ↔ NadieResponde p) ∧ tarjeta p' = tarjeta p := by
  refine ⟨?_, (intact_checkLeasedIP ajenaEspera_tarjeta fuel).keeps _ _ _ h⟩
  have hsend : ∀ p' : Placa PortVars E, (∃ a, ponRCR 0x03 p = .ok a p') → ∃ q,
      sendto CHECK_IP_CONFLICT p.dhcp.allocatedIp 5000 p' = .ok
        (Red.sendto p.dhcp.dhcpSocket CHECK_IP_CONFLICT p.dhcp.allocatedIp 5000 p.entorno).1 q := by
    rintro p' ⟨a, h⟩
    cases h
    exact ⟨_, rfl⟩
  obtain ⟨_, _, h0, h⟩ := ok_of_bind h
  cases h0
  obtain ⟨a, p₁, h1, h⟩ := ok_of_bind h
  obtain ⟨ret, p₂, h2, h⟩ := ok_of_bind h
  obtain ⟨q, hq⟩ := hsend p₁ ⟨a, h1⟩
  rw [hq] at h2
  cases h2
  obtain ⟨_, p₃, h3, h⟩ := ok_of_bind h
  unfold NadieResponde
  split at h
  · rename_i hret
    cases h
    exact iff_of_true rfl hret
  · rename_i hret
    obtain ⟨_, _, -, h⟩ := ok_of_bind h
    obtain ⟨_, _, -, h⟩ := ok_of_bind h
    obtain ⟨_, _, -, h⟩ := ok_of_bind h
    cases h
    exact iff_of_false (by decide) hret

/-- A message that asks for nothing, in a state without a lease. -/
theorem suelta_checkTimeout {p p' : Placa PortVars E} {ret : UInt8} (h : checkTimeout p = .ok ret p')
    (h₁ : (tarjeta p).estado ≠ .leased) (h₂ : (tarjeta p).estado ≠ .rerequest) :
    Suelta (tarjeta p) ret (tarjeta p') := by
  rcases leads_checkTimeout _ _ _ h with ⟨heq, -⟩ | h
  · exact ⟨_, _, _, heq, h₁, h₂⟩
  · exact h

theorem suelta_caseDiscover {type : UInt8} {p p' : Placa PortVars E} {ret : UInt8}
    (hst : p.dhcp.dhcpState = .discover) (h : caseDiscover type p = .ok ret p') :
    Suelta (tarjeta p) ret (tarjeta p') := by
  unfold caseDiscover at h
  split at h
  · obtain ⟨_, p₁, h1, h⟩ := ok_of_bind h
    cases h1
    obtain ⟨_, p₂, h2, h⟩ := ok_of_bind h
    obtain ⟨_, p₃, h3, h⟩ := ok_of_bind h
    cases h
    have h2 := keeps_envia _ _ _ _ _ h2
    have h3 := leads_ponEstado _ _ _ _ h3
    rw [h3, h2]
    exact ⟨_, _, _, rfl, by decide, by decide⟩
  · have hne : (tarjeta p).estado = .discover := hst
    exact suelta_checkTimeout h (by rw [hne]; decide) (by rw [hne]; decide)

omit [Red E] [TimeHandler E] in
/-- The end of a state, after which there is no lease. -/
theorem suelta_ponEstado {st : StateDhcp} (h₁ : st ≠ .leased) (h₂ : st ≠ .rerequest) {p p' : Placa PortVars E}
    {ret ret' : UInt8} {t : Tarjeta} (ht : ∃ ip flag, tarjeta p = { t with allocatedIp := ip, ipAssigned := flag })
    (h : (do
      ponEstado st
      return ret : PlacaM PortVars E UInt8) p = .ok ret' p') : Suelta t ret' (tarjeta p') := by
  obtain ⟨ip, flag, ht⟩ := ht
  obtain ⟨_, p₁, h1, h⟩ := ok_of_bind h
  cases h
  rw [leads_ponEstado _ _ _ _ h1, ht]
  exact ⟨ip, flag, st, rfl, h₁, h₂⟩

theorem paso_caseRequest {fuel : Nat} {type : UInt8} {p p' : Placa PortVars E} {ret : UInt8}
    (hreg : (tarjeta p).Registrada) (hst : p.dhcp.dhcpState = .request) (h : caseRequest fuel type p = .ok ret p') :
    Conserva (tarjeta p) (tarjeta p') ∧ Paso (type = DHCP_ACK ∧ NadieResponde p) (tarjeta p) (tarjeta p') ret := by
  have hne : (tarjeta p).estado = .request := hst
  unfold caseRequest at h
  split at h
  case isFalse hack =>
    have hno : ¬ (type = DHCP_ACK ∧ NadieResponde p) := fun h => hack h.1
    split at h
    · obtain ⟨_, p₁, h1, h⟩ := ok_of_bind h
      have h1 := keeps_resetTimeout _ _ _ h1
      exact (suelta_ponEstado (by decide) (by decide) ⟨_, _, h1⟩ h).paso hno
    · exact (suelta_checkTimeout h (by rw [hne]; decide) (by rw [hne]; decide)).paso hno
  case isTrue hack =>
    obtain ⟨libre, p₁, h1, h⟩ := ok_of_bind h
    obtain ⟨hlibre, ht⟩ := checkLeasedIP_ok h1
    split at h
    · rename_i hl
      obtain ⟨_, p₂, h2, h⟩ := ok_of_bind h
      obtain ⟨_, p₃, h3, h⟩ := ok_of_bind h
      obtain ⟨_, p₄, h4, h⟩ := ok_of_bind h
      obtain ⟨_, p₅, h5, h⟩ := ok_of_bind h
      cases h
      cases h5
      have h2 := leads_dhcpIpAssign _ _ _ h2 (ht ▸ hreg)
      have h3 := keeps_resetTimeout _ _ _ h3
      have h4 := leads_ponEstado _ _ _ _ h4
      have hfin : tarjeta p₄ = { tarjeta p with ipAssigned := true, estado := .leased } := by rw [h4, h3, h2, ht]
      show Conserva (tarjeta p) (tarjeta p₄) ∧ Paso _ (tarjeta p) (tarjeta p₄) _
      rw [hfin]
      exact ⟨⟨rfl, rfl, rfl, rfl, rfl, rfl, rfl⟩,
        .lease ⟨hack, hlibre.mp hl⟩ rfl rfl rfl rfl (fun _ => rfl) (by decide)⟩
    · rename_i hl
      obtain ⟨_, p₂, h2, h⟩ := ok_of_bind h
      obtain ⟨_, p₃, h3, h⟩ := ok_of_bind h
      have h2 := keeps_resetTimeout _ _ _ h2
      have h3 := leads_dhcpIpConflict _ _ _ h3 (h2 ▸ ht ▸ hreg)
      have hfin : tarjeta p₃ = { tarjeta p with ipAssigned := false } := by rw [h3, h2, ht]
      exact (suelta_ponEstado (by decide) (by decide) ⟨_, _, hfin⟩ h).paso fun hn => hl (hlibre.mpr hn.2)

theorem paso_caseLeased {p p' : Placa PortVars E} {ret : UInt8} (hst : p.dhcp.dhcpState = .leased)
    (h : caseLeased p = .ok ret p') :
    Conserva (tarjeta p) (tarjeta p') ∧ Paso (¬ MediaVida p) (tarjeta p) (tarjeta p') ret := by
  have hne : (tarjeta p).estado = .leased := hst
  have hsigue : ¬ MediaVida p → tarjeta p' = tarjeta p → ret = DHCP_IP_LEASED →
      Conserva (tarjeta p) (tarjeta p') ∧ Paso (¬ MediaVida p) (tarjeta p) (tarjeta p') ret := by
    intro hno ht hret
    rw [ht, hret]
    refine ⟨.refl _, .lease hno hne rfl rfl rfl (fun hor => ?_) (by decide)⟩
    rcases hor with hreq | hflag
    · rw [hne] at hreq
      cases hreq
    · exact hflag
  obtain ⟨_, _, h0, h⟩ := ok_of_bind h
  cases h0
  dsimp only at h
  split at h
  case isFalse hinf =>
    cases h
    exact hsigue (fun hm => hinf hm.1) rfl rfl
  case isTrue hfin =>
    obtain ⟨tick, p₁, h1, h⟩ := ok_of_bind h
    obtain ⟨htick, ht⟩ := leeTick_ok h1
    split at h
    case isFalse hpronto =>
      cases h
      exact hsigue (fun hm => hpronto (htick ▸ hm.2)) ht rfl
    case isTrue hmedia =>
      obtain ⟨_, p₅, h2, h⟩ := ok_of_bind h
      cases h
      obtain ⟨_, p₂, h3, h2⟩ := ok_of_bind h2
      cases h3
      obtain ⟨_, p₃, h4, h2⟩ := ok_of_bind h2
      obtain ⟨_, p₄, h5, h2⟩ := ok_of_bind h2
      have h4 := keeps_envia _ _ _ _ _ h4
      have h5 := keeps_resetTimeout _ _ _ h5
      have h2 := leads_ponEstado _ _ _ _ h2
      have hfin' : tarjeta p' = { tarjeta p with estado := .rerequest } := by
        rw [h2, h5, h4]
        show ({ tarjeta p₁ with estado := .rerequest } : Tarjeta) = _
        rw [ht]
      rw [hfin']
      exact ⟨⟨rfl, rfl, rfl, rfl, rfl, rfl, rfl⟩,
        .renueva (fun hno => hno ⟨hfin, htick ▸ hmedia⟩) (.inl hne) rfl rfl rfl (by decide)⟩

theorem paso_caseRerequest {type : UInt8} {p p' : Placa PortVars E} {ret : UInt8} (hreg : (tarjeta p).Registrada)
    (hst : p.dhcp.dhcpState = .rerequest) (h : caseRerequest type p = .ok ret p') :
    Conserva (tarjeta p) (tarjeta p') ∧ Paso (type = DHCP_ACK) (tarjeta p) (tarjeta p') ret := by
  have hne : (tarjeta p).estado = .rerequest := hst
  unfold caseRerequest at h
  split at h
  case isFalse hack =>
    split at h
    · obtain ⟨_, p₁, h1, h⟩ := ok_of_bind h
      have h1 := keeps_resetTimeout _ _ _ h1
      exact (suelta_ponEstado (by decide) (by decide) ⟨_, _, h1⟩ h).paso hack
    · rcases leads_checkTimeout _ _ _ h with ⟨ht, hret⟩ | hs
      · rw [ht, hret]
        exact ⟨.refl _, .renueva hack (.inr hne) hne rfl rfl (by decide)⟩
      · exact hs.paso hack
  case isTrue hack =>
    obtain ⟨_, p₁, h1, h⟩ := ok_of_bind h
    cases h1
    obtain ⟨_, _, h0, h⟩ := ok_of_bind h
    cases h0
    -- the same end for an address that is kept and for another one, after its callback
    have hfin : ∀ {ret' : UInt8} {q : Placa PortVars E}, ret' ≠ DHCP_FAILED →
        (∃ flag, tarjeta q = { tarjeta p with ipAssigned := flag } ∧ ((tarjeta p).ipAssigned = true → flag = true)) →
        (do
          resetTimeout
          ponEstado .leased
          anotaAck
          return ret' : PlacaM PortVars E UInt8) q = .ok ret p' →
        Conserva (tarjeta p) (tarjeta p') ∧ Paso (type = DHCP_ACK) (tarjeta p) (tarjeta p') ret := by
      rintro ret' q hret ⟨flag, hq, hflag⟩ h
      obtain ⟨_, p₃, h3, h⟩ := ok_of_bind h
      obtain ⟨_, p₄, h4, h⟩ := ok_of_bind h
      obtain ⟨_, p₅, h5, h⟩ := ok_of_bind h
      cases h
      cases h5
      have h3 := keeps_resetTimeout _ _ _ h3
      have h4 := leads_ponEstado _ _ _ _ h4
      have ht : tarjeta p₄ = { tarjeta p with ipAssigned := flag, estado := .leased } := by rw [h4, h3, hq]
      show Conserva (tarjeta p) (tarjeta p₄) ∧ Paso _ (tarjeta p) (tarjeta p₄) _
      rw [ht]
      refine ⟨⟨rfl, rfl, rfl, rfl, rfl, rfl, rfl⟩, .lease hack rfl rfl rfl rfl (fun hor => ?_) hret⟩
      rcases hor with hreq | hf
      · rw [hne] at hreq
        cases hreq
      · exact hflag hf
    dsimp only at h
    split at h
    · obtain ⟨_, p₂, h2, h⟩ := ok_of_bind h
      have h2 := leads_dhcpIpUpdate _ _ _ h2 hreg
      exact hfin (by decide) ⟨true, h2, fun _ => rfl⟩ h
    · exact hfin (by decide) ⟨_, rfl, id⟩ h

theorem paso_switch {fuel : Nat} {type : UInt8} {p p' : Placa PortVars E} {ret : UInt8}
    (hreg : (tarjeta p).Registrada) (h : switch fuel type p = .ok ret p') :
    Conserva (tarjeta p) (tarjeta p') ∧ Paso (TomaLease type p) (tarjeta p) (tarjeta p') ret := by
  obtain ⟨_, _, h0, h⟩ := ok_of_bind h
  cases h0
  unfold TomaLease
  cases hst : p.dhcp.dhcpState with
  | init =>
    rw [hst] at h
    exact (leads_caseInit _ _ _ h).paso id
  | discover =>
    rw [hst] at h
    exact (suelta_caseDiscover hst h).paso id
  | request =>
    rw [hst] at h
    exact paso_caseRequest hreg hst h
  | leased =>
    rw [hst] at h
    exact paso_caseLeased hst h
  | rerequest =>
    rw [hst] at h
    exact paso_caseRerequest hreg hst h
  | release =>
    rw [hst] at h
    cases h
    have hne : (tarjeta p).estado = .release := hst
    exact ⟨.refl _, .otro id (by rw [hne]; decide) (by rw [hne]; decide)⟩
  | stop =>
    rw [hst] at h
    cases h
    have hne : (tarjeta p).estado = .stop := hst
    exact ⟨.refl _, .otro id (by rw [hne]; decide) (by rw [hne]; decide)⟩

/-- A call of `DHCP_run` that returns. -/
theorem run_ok {fuel : Nat} {p p' : Placa PortVars E} {ret : UInt8} (h : DHCP.run fuel p = .ok ret p') :
    (p.dhcp.dhcpState = .stop ∧ tarjeta p' = tarjeta p ∧ ret ≠ DHCP_FAILED) ∨
      (p.dhcp.dhcpState ≠ .stop ∧ ∃ type p₁ q, recibe (entra p) = .ok type p₁ ∧ switch fuel type p₁ = .ok ret q ∧
        tarjeta p' = tarjeta q) := by
  obtain ⟨_, _, h0, h⟩ := ok_of_bind h
  cases h0
  obtain ⟨_, _, h1, h⟩ := ok_of_bind h
  cases h1
  obtain ⟨_, q, h2, h⟩ := ok_of_bind h
  obtain ⟨_, _, h3, h⟩ := ok_of_bind h
  cases h3
  cases h
  obtain ⟨_, _, h0, h2⟩ := ok_of_bind h2
  cases h0
  split at h2
  · rename_i hst
    cases h2
    exact .inl ⟨hst, rfl, by decide⟩
  · rename_i hst
    obtain ⟨type, p₁, h1, h2⟩ := ok_of_bind h2
    exact .inr ⟨hst, type, p₁, q, h1, h2, rfl⟩

omit [TimeHandler E] in
theorem recibe_ok {p p₁ : Placa PortVars E} {type : UInt8} (h : recibe p = .ok type p₁) :
    (tarjeta p₁).sinOpciones = (tarjeta p).sinOpciones := (intact_recibe ajenaMensaje_sinOpciones).keeps _ _ _ h

omit [TimeHandler E] in
/-- A message needs its buffer. -/
theorem envia_ok {mensaje : DhcpVars CallbackPort → List UInt8} {addr : DhcpVars CallbackPort → IP}
    {p p' : Placa PortVars E} {a : Unit} (h : envia mensaje addr p = .ok a p') :
    ∃ n, p.dhcp.pDHCPMSG = some n ∧ RIP_MSG_SIZE ≤ n := by
  obtain ⟨_, _, h0, h⟩ := ok_of_bind h
  cases h0
  dsimp only at h
  cases hbuf : p.dhcp.pDHCPMSG with
  | none =>
    rw [hbuf] at h
    cases h
  | some tam =>
    rw [hbuf] at h
    dsimp only at h
    split at h
    · cases h
    · exact ⟨tam, rfl, by omega⟩

omit [TimeHandler E] in
theorem caseInit_ok {p p' : Placa PortVars E} {ret : UInt8} (h : caseInit p = .ok ret p') :
    ∃ n, p.dhcp.pDHCPMSG = some n ∧ RIP_MSG_SIZE ≤ n := by
  obtain ⟨_, _, h0, h⟩ := ok_of_bind h
  cases h0
  obtain ⟨_, _, h, -⟩ := ok_of_bind h
  obtain ⟨_, _, h0, h⟩ := ok_of_bind h
  cases h0
  obtain ⟨n, hn, hle⟩ := envia_ok h
  exact ⟨n, hn, hle⟩

end DHCP

/-! ### Rounds -/

namespace Tarjeta

def EnUso (t : Tarjeta) : Prop :=
  t.estado = .leased → t.sipr = t.allocatedIp ∧ t.subr = t.allocatedSn ∧ t.gar = t.allocatedGw

/-- No message can be made, and the client cannot do without one. -/
structure Muda (t : Tarjeta) : Prop where
  estado : t.estado = .init ∨ t.estado = .stop
  pDHCPMSG : ∀ n, t.pDHCPMSG = some n → n < RIP_MSG_SIZE

/-- With the callbacks of `wizchip_port.c` the address leased is on the chip. -/
structure Firme (t : Tarjeta) : Prop where
  registrada : t.Registrada
  direccion : t.estado = .leased ∨ t.estado = .rerequest → t.sipr = t.allocatedIp

def Asentada (t : Tarjeta) : Prop := t.Muda ∨ t.Firme

/-- Stopped or begun anew the client has no lease. -/
theorem Asentada.sinLease {t t' : Tarjeta} (h : t.Asentada)
    (hc : Conserva { t with sipr := t'.sipr, gar := t'.gar, pDHCPMSG := t'.pDHCPMSG } t')
    (hestado : t'.estado = .init ∨ t'.estado = .stop)
    (hbuf : t'.pDHCPMSG = t.pDHCPMSG ∨ t'.pDHCPMSG = some DNS_BUFFER_SIZE) : t'.Asentada ∧ t'.EnUso := by
  refine ⟨?_, fun hl => ?_⟩
  · rcases h with ⟨-, hmuda⟩ | ⟨hreg, -⟩
    · refine .inl ⟨hestado, fun n hn => ?_⟩
      rcases hbuf with hbuf | hbuf
      · exact hmuda n (hbuf ▸ hn)
      · rw [hbuf] at hn
        cases hn
        decide
    · refine .inr ⟨⟨hc.ipAssign.trans hreg.ipAssign, hc.ipUpdate.trans hreg.ipUpdate,
        hc.ipConflict.trans hreg.ipConflict⟩, ?_⟩
      rintro (hl | hl) <;> rcases hestado with he | he <;> rw [he] at hl <;> cases hl
  · rcases hestado with he | he <;> rw [he] at hl <;> cases hl

/-- What the options of a message say does not come in. -/
theorem Firme.of_sinOpciones {t t' : Tarjeta} (h : t.Firme) (heq : t'.sinOpciones = t.sinOpciones) : t'.Firme where
  registrada := ⟨(congrArg Tarjeta.dhcpIpAssign heq).trans h.registrada.ipAssign,
    (congrArg Tarjeta.dhcpIpUpdate heq).trans h.registrada.ipUpdate,
    (congrArg Tarjeta.dhcpIpConflict heq).trans h.registrada.ipConflict⟩
  direccion hor := by
    have hestado : t'.estado = t.estado := (congrArg Tarjeta.estado heq :)
    have hsipr : t'.sipr = t.sipr := (congrArg Tarjeta.sipr heq :)
    have hip : t'.allocatedIp = t.allocatedIp := (congrArg Tarjeta.allocatedIp heq :)
    rw [hsipr, hip]
    exact h.direccion (hestado ▸ hor)

/-- The outcome of the `switch` is in use just when there is no lease or it is what the chip has. -/
theorem Paso.enUso_iff {toma : Prop} {t t' : Tarjeta} {ret : UInt8} (hpaso : Paso toma t t' ret) (hfirme : t.Firme)
    (hc : Conserva t t') (htoma : toma → t.estado ≠ .request → t.estado = .leased ∨ t.estado = .rerequest) :
    (t'.EnUso ↔ (toma → t.allocatedSn = t.subr ∧ t.allocatedGw = t.gar ∧
      (t.estado = .request → t.allocatedIp = t.sipr))) ∧ (t'.EnUso → t'.Asentada) ∧
      (ret = DHCP_FAILED → t'.EnUso) := by
  have hreg := hfirme.registrada.of_conserva hc
  cases hpaso with
  | lease h hleased hip hsn hgw _ hret =>
    have huso : t'.EnUso ↔ t.sipr = t.allocatedIp ∧ t.subr = t.allocatedSn ∧ t.gar = t.allocatedGw := by
      simp only [Tarjeta.EnUso, hleased, hip, hsn, hgw, hc.sipr, hc.subr, hc.gar, forall_const]
    refine ⟨?_, fun huso' => .inr ⟨hreg, fun _ => (huso' hleased).1⟩, fun hf => absurd hf hret⟩
    rw [huso, forall_prop_of_true h]
    constructor
    · rintro ⟨h1, h2, h3⟩
      exact ⟨h2.symm, h3.symm, fun _ => h1.symm⟩
    · rintro ⟨h2, h3, h1⟩
      refine ⟨?_, h2.symm, h3.symm⟩
      by_cases hreq : t.estado = .request
      · exact (h1 hreq).symm
      · -- the address of a lease that goes on is that of the chip
        exact hfirme.direccion (htoma h hreq)
  | renueva hno hprev hrer hip _ hret =>
    have huso : t'.EnUso := fun hl => by rw [hrer] at hl; cases hl
    refine ⟨iff_of_true huso fun h => absurd h hno, fun _ => .inr ⟨hreg, fun _ => ?_⟩, fun _ => huso⟩
    rw [hc.sipr, hip]
    exact hfirme.direccion hprev
  | otro hno hleased hrer =>
    have huso : t'.EnUso := fun hl => absurd hl hleased
    refine ⟨iff_of_true huso fun h => absurd h hno, fun _ => .inr ⟨hreg, ?_⟩, fun _ => huso⟩
    rintro (hl | hl)
    · exact absurd hl hleased
    · exact absurd hl hrer

end Tarjeta

open Tarjeta

/-- A lease is taken in one of three states. -/
theorem estado_of_tomaLease {type : UInt8} {p : Placa PortVars E} (h : TomaLease type p)
    (hne : (tarjeta p).estado ≠ .request) : (tarjeta p).estado = .leased ∨ (tarjeta p).estado = .rerequest := by
  unfold TomaLease at h
  split at h
  · exact absurd ‹_› hne
  · exact .inl ‹_›
  · exact .inr ‹_›
  · exact h.elim

omit [Red E] [TimeHandler E] in
/-- What a message does not change. -/
theorem noticia_conserva [Red E] {p : Placa PortVars E} {type : UInt8} {d : DhcpVars CallbackPort}
    (h : noticia p = some (type, d)) : d.dhcpState = p.dhcp.dhcpState ∧ d.allocatedIp = p.dhcp.allocatedIp := by
  obtain ⟨e, he⟩ : ∃ e, (DHCP.llega p).2 = { p with entorno := e } := DHCP.llega_eq rfl
  have hrec := DHCP.recibe_ok (recibe_entra.2 ⟨d, h, rfl⟩)
  exact ⟨(congrArg Tarjeta.estado hrec :), (congrArg Tarjeta.allocatedIp hrec :)⟩

/-- In the terms of the call. -/
theorem conforme_iff {p p₁ : Placa PortVars E} {type : UInt8} (h : DHCP.recibe (entra p) = .ok type p₁) :
    Conforme p ↔ (TomaLease type p₁ → p₁.dhcp.allocatedSn = p₁.regs.subr ∧ p₁.dhcp.allocatedGw = p₁.regs.gar ∧
      (p₁.dhcp.dhcpState = .request → p₁.dhcp.allocatedIp = p₁.regs.sipr)) := by
  obtain ⟨d, hd, rfl⟩ := recibe_entra.1 h
  obtain ⟨hst, hip⟩ := noticia_conserva hd
  obtain ⟨e, he⟩ : ∃ e, (DHCP.llega p).2 = { p with entorno := e } := DHCP.llega_eq rfl
  have huno : Conforme p ↔ (TomaLease type { (DHCP.llega p).2 with dhcp := d } → d.allocatedSn = p.regs.subr ∧
      d.allocatedGw = p.regs.gar ∧ (p.dhcp.dhcpState = .request → p.dhcp.allocatedIp = p.regs.sipr)) := by
    refine ⟨fun h => h type d hd, fun h type' d' hd' => ?_⟩
    rw [hd] at hd'
    cases hd'
    exact h
  rw [huno, ← hst, ← hip, he]
  rfl

/-- The DHCP step of a round leaves the address in use just when it conforms. -/
theorem run_enUso_iff {fuel : Nat} {p p' : Placa PortVars E} {ret : UInt8} (hp : (tarjeta p).Asentada)
    (huso : (tarjeta p).EnUso) (h : DHCP.run fuel p = .ok ret p') :
    ((tarjeta p').EnUso ↔ Conforme p) ∧ ((tarjeta p').EnUso → (tarjeta p').Asentada) ∧
      (ret = DHCP_FAILED → (tarjeta p').EnUso) := by
  rcases DHCP.run_ok h with ⟨hst, ht, hret⟩ | ⟨hst, type, p₁, q, hrec, hsw, hq⟩
  · -- a client that is stopped takes no lease
    have hconf : Conforme p := by
      intro type d hd htoma
      have hst₁ : d.dhcpState = .stop := (noticia_conserva hd).1.trans hst
      unfold TomaLease at htoma
      simp only [hst₁] at htoma
    rw [ht]
    exact ⟨iff_of_true huso hconf, fun _ => hp, fun hf => absurd hf hret⟩
  have hrec' := DHCP.recibe_ok hrec
  rw [hq]
  rcases hp with hmuda | hfirme
  · -- without room for a message `send_DHCP_DISCOVER` does not return
    have hini : p₁.dhcp.dhcpState = .init :=
      (congrArg Tarjeta.estado hrec' :).trans (hmuda.estado.resolve_right hst)
    obtain ⟨_, _, h0, hsw⟩ := ok_of_bind hsw
    cases h0
    rw [hini] at hsw
    obtain ⟨n, hn, hle⟩ := DHCP.caseInit_ok hsw
    have hlt := hmuda.pDHCPMSG n ((congrArg Tarjeta.pDHCPMSG hrec').symm.trans hn)
    omega
  have hfirme₁ : (tarjeta p₁).Firme := hfirme.of_sinOpciones hrec'
  obtain ⟨hc, hpaso⟩ := DHCP.paso_switch hfirme₁.registrada hsw
  rw [conforme_iff hrec]
  exact hpaso.enUso_iff hfirme₁ hc estado_of_tomaLease

omit [Red E] [TimeHandler E] in
theorem ajenaEntorno_tarjeta (p : Placa PortVars E) (e : E) : tarjeta { p with entorno := e } = tarjeta p := rfl

theorem vuelta_enUso_iff {fuel : Nat} {l l' : Locales} {s s' : Sistema (Placa PortVars E)}
    (hs : (tarjeta s.mundo).Asentada) (huso : (tarjeta s.mundo).EnUso) (h : threadYieldVuelta fuel l s = .ok l' s') :
    ((tarjeta s'.mundo).EnUso ↔ VueltaConforme s) ∧ ((tarjeta s'.mundo).EnUso → (tarjeta s'.mundo).Asentada) := by
  -- `DHCP_stop` and `DHCP_init` leave no lease, so nothing that the chip should be using
  have hsin : ∀ {t t' : Tarjeta}, t.Asentada → VueltaConforme s →
      Conserva { t with sipr := t'.sipr, gar := t'.gar, pDHCPMSG := t'.pDHCPMSG } t' →
      (t'.estado = .init ∨ t'.estado = .stop) →
      (t'.pDHCPMSG = t.pDHCPMSG ∨ t'.pDHCPMSG = some DNS_BUFFER_SIZE) →
      (t'.EnUso ↔ VueltaConforme s) ∧ (t'.EnUso → t'.Asentada) := by
    intro t t' ht hC hc hestado hbuf
    obtain ⟨ha, hu⟩ := ht.sinLease hc hestado hbuf
    exact ⟨iff_of_true hu hC, fun _ => ha⟩
  have hvuelta := triple_threadYieldVuelta (Placa.ajenaWizchip ajenaEntorno_tarjeta) (B := fun p => p = s.mundo)
    (P := fun p => p = (getPHYCFGR s.mundo).2 ∧ (getPHYCFGR s.mundo).1 &&& 0x01 ≠ 0)
    (I := fun t => (t.EnUso ↔ VueltaConforme s) ∧ (t.EnUso → t.Asentada))
    (H := fun t => (t.Asentada ∧ t.EnUso) ∧ VueltaConforme s) (J := fun t => t.Asentada ∧ VueltaConforme s)
    (F := fun _ => True) fuel l ?_ ?_ ?_ ?_ ?_ ?_ fun _ _ => trivial
  · exact hvuelta.ok rfl h
  · rintro _ rfl hfuera
    exact ⟨⟨hs, huso⟩, fun hdentro => absurd hfuera hdentro⟩
  · exact fun t ht => ⟨iff_of_true ht.1.2 ht.2, fun _ => ht.1.1⟩
  · exact fun p hp => hsin hp.1.1 hp.2 ⟨rfl, rfl, rfl, rfl, rfl, rfl, rfl⟩ (.inr rfl) (.inl rfl)
  · rintro _ rfl hdentro
    exact ⟨rfl, hdentro⟩
  · refine triple_of_ok ?_
    rintro p ret p' ⟨rfl, hdentro⟩ hrun
    have hp : tarjeta (getPHYCFGR s.mundo).2 = tarjeta s.mundo := rfl
    obtain ⟨hiff, hasentada, hfallo⟩ := run_enUso_iff (hp ▸ hs) (hp ▸ huso) hrun
    have hC : Conforme (getPHYCFGR s.mundo).2 ↔ VueltaConforme s := by
      unfold VueltaConforme
      rw [forall_prop_of_true hdentro]
    rw [hC] at hiff
    split
    · rename_i hret
      exact ⟨hasentada (hfallo hret), hiff.mp (hfallo hret)⟩
    · exact ⟨hiff, hasentada⟩
  · exact fun p hp => hsin hp.1 hp.2 ⟨rfl, rfl, rfl, rfl, rfl, rfl, rfl⟩ (.inl rfl) (.inr rfl)

/-! ### The start-up -/

namespace Tarjeta

/-- Before the call of `DHCP_init`. -/
def SinInit (t : Tarjeta) : Prop := t.estado = .init ∧ t.pDHCPMSG = none

/-- While `W5500_Init` waits for an address. -/
structure Espera (t : Tarjeta) : Prop where
  registrada : t.Registrada
  flag : t.estado = .leased ∨ t.estado = .rerequest → t.ipAssigned = true

theorem SinInit.asentada {t : Tarjeta} (h : t.SinInit) : t.Asentada ∧ t.EnUso := by
  refine ⟨.inl ⟨.inl h.1, fun n hn => ?_⟩, fun hl => ?_⟩
  · rw [h.2] at hn
    cases hn
  · rw [h.1] at hl
    cases hl

end Tarjeta

theorem espera_run {fuel : Nat} {p p' : Placa PortVars E} {ret : UInt8} (hp : (tarjeta p).Espera)
    (hflag : p.app.ipAssigned = false) (h : DHCP.run fuel p = .ok ret p') : (tarjeta p').Espera := by
  have hno : ¬ ((tarjeta p).estado = .leased ∨ (tarjeta p).estado = .rerequest) := by
    intro hor
    have hsi : p.app.ipAssigned = true := hp.flag hor
    rw [hflag] at hsi
    cases hsi
  rcases DHCP.run_ok h with ⟨hst, ht, hret⟩ | ⟨hst, type, p₁, q, hrec, hsw, hq⟩
  · rwa [ht]
  have hrec' := DHCP.recibe_ok hrec
  have hestado : (tarjeta p₁).estado = (tarjeta p).estado := (congrArg Tarjeta.estado hrec' :)
  have hreg : (tarjeta p₁).Registrada :=
    ⟨(congrArg Tarjeta.dhcpIpAssign hrec').trans hp.registrada.ipAssign,
      (congrArg Tarjeta.dhcpIpUpdate hrec').trans hp.registrada.ipUpdate,
      (congrArg Tarjeta.dhcpIpConflict hrec').trans hp.registrada.ipConflict⟩
  obtain ⟨hc, hpaso⟩ := DHCP.paso_switch hreg hsw
  rw [hq]
  refine ⟨hreg.of_conserva hc, fun hor => ?_⟩
  cases hpaso with
  | lease htoma _ _ _ _ hasigna _ =>
    have hreq : p₁.dhcp.dhcpState = .request := by
      unfold TomaLease at htoma
      split at htoma
      · assumption
      · exact absurd (.inl (hestado.symm.trans ‹_›)) hno
      · exact absurd (.inr (hestado.symm.trans ‹_›)) hno
      · exact htoma.elim
    exact hasigna (.inl hreq)
  | renueva _ hprev _ _ _ _ => exact absurd (hestado ▸ hprev) hno
  | otro _ hleased hrer => exact absurd hor (not_or.mpr ⟨hleased, hrer⟩)

theorem espera_esperaIP {fuel retries : Nat} {p p' : Placa PortVars E} {a : Unit} (hp : (tarjeta p).Espera)
    (h : Port.esperaIP fuel retries p = .ok a p') : (tarjeta p').Espera := by
  induction retries generalizing p with
  | zero =>
    cases h
    exact hp
  | succ retries ih =>
    obtain ⟨_, _, h0, h⟩ := ok_of_bind h
    cases h0
    split at h
    · cases h
      exact hp
    · rename_i hflag
      obtain ⟨_, p₁, h1, h⟩ := ok_of_bind h
      obtain ⟨_, p₂, h2, h⟩ := ok_of_bind h
      have hp₁ := espera_run hp (by simpa using hflag) h1
      have hp₂ := (DHCP.intact_red ajenaEntorno_tarjeta _).keeps _ _ _ h2
      exact ih (hp₂ ▸ hp₁) h

omit [Red E] [TimeHandler E] in
/-- What `W5500_Init` leaves on the chip. -/
theorem asentada_aplicaNetInfo {p : Placa PortVars E} (hp : (tarjeta p).Espera) :
    (tarjeta (Port.aplicaNetInfo p)).Asentada ∧ (tarjeta (Port.aplicaNetInfo p)).EnUso := by
  have hreg : (tarjeta (Port.aplicaNetInfo p)).Registrada := ⟨hp.registrada.ipAssign, hp.registrada.ipUpdate,
    hp.registrada.ipConflict⟩
  have hinfo : p.app.ipAssigned = true → (Port.aplicaNetInfo p).regs.sipr = p.dhcp.allocatedIp ∧
      (Port.aplicaNetInfo p).regs.subr = p.dhcp.allocatedSn ∧ (Port.aplicaNetInfo p).regs.gar = p.dhcp.allocatedGw := by
    intro hflag
    simp only [Port.aplicaNetInfo, hflag]
    exact ⟨rfl, rfl, rfl⟩
  exact ⟨.inr ⟨hreg, fun hor => (hinfo (hp.flag hor)).1⟩, fun hl => hinfo (hp.flag (.inl hl))⟩

theorem asentada_configuraRed {fuel : Nat} {p p' : Placa PortVars E} {ret : Int}
    (h : Port.configuraRed fuel p = .ok ret p') : (tarjeta p').Asentada ∧ (tarjeta p').EnUso := by
  obtain ⟨_, p₁, h1, h⟩ := ok_of_bind h
  cases h1
  obtain ⟨_, p₂, h2, h⟩ := ok_of_bind h
  cases h2
  obtain ⟨_, p₃, h3, h⟩ := ok_of_bind h
  cases h3
  obtain ⟨_, p₄, h4, h⟩ := ok_of_bind h
  obtain ⟨_, p₅, h5, h⟩ := ok_of_bind h
  cases h5
  obtain ⟨_, p₆, h6, h⟩ := ok_of_bind h
  cases h
  have h6 := (DHCP.intact_red ajenaEntorno_tarjeta _).keeps _ _ _ h6
  rw [h6]
  refine asentada_aplicaNetInfo (espera_esperaIP ⟨⟨rfl, rfl, rfl⟩, ?_⟩ h4)
  rintro (hl | hl) <;> cases hl

theorem asentada_w5500Init {fuel : Nat} {p p' : Placa PortVars E} {ret : Int} (hp : (tarjeta p).SinInit)
    (h : Port.w5500Init fuel p = .ok ret p') : (tarjeta p').Asentada ∧ (tarjeta p').EnUso := by
  have hred : ∀ {α : Type} (f : E → α × E), Keeps tarjeta (DHCP.red (A := PortVars) f) :=
    fun f => (DHCP.intact_red ajenaEntorno_tarjeta f).keeps
  have hlink : ∀ retries, Keeps tarjeta (Port.esperaLink (E := E) retries) := by
    intro retries
    induction retries with
    | zero => exact keeps_pure _
    | succ retries ih => exact (hred _).bind fun _ => (hred _).bind fun _ => keeps_ite (keeps_pure _) ih
  obtain ⟨ret', q, hret, h⟩ := ok_of_bind h
  cases h
  show (tarjeta q).Asentada ∧ (tarjeta q).EnUso
  obtain ⟨_, p₁, h1, h⟩ := ok_of_bind hret
  obtain ⟨_, p₂, h2, h⟩ := ok_of_bind h
  cases h2
  obtain ⟨_, p₃, h3, h⟩ := ok_of_bind h
  obtain ⟨_, p₄, h4, h⟩ := ok_of_bind h
  have hp₄ : (tarjeta p₄).SinInit := by
    rw [hred _ _ _ _ h4, hred _ _ _ _ h3]
    have hp₁ := hred _ _ _ _ h1 ▸ hp
    exact hp₁
  split at h
  · cases h
    exact hp₄.asentada
  obtain ⟨_, p₅, h5, h⟩ := ok_of_bind h
  have hp₅ := hred _ _ _ _ h5 ▸ hp₄
  split at h
  · cases h
    exact hp₅.asentada
  obtain ⟨_, p₆, h6, h⟩ := ok_of_bind h
  have hp₆ := hlink _ _ _ _ h6 ▸ hp₅
  split at h
  · exact asentada_configuraRed h
  · cases h
    exact hp₆.asentada

theorem asentada_arranque {fuel : Nat} {entorno : E} {s : Sistema (Placa PortVars E)}
    (h : threadYieldArranque fuel (.inicial (.inicial entorno)) = .ok () s) :
    (tarjeta s.mundo).Asentada ∧ (tarjeta s.mundo).EnUso := by
  have hinit : Triple (fun p : Placa PortVars E => (tarjeta p).SinInit) (w5500Init fuel)
      (fun _ p => (tarjeta p).Asentada ∧ (tarjeta p).EnUso) fun _ => True :=
    triple_of_ok fun p ret p' hp h => asentada_w5500Init hp h
  exact (triple_threadYieldArranque (Placa.ajenaWizchip ajenaEntorno_tarjeta) (I := fun t => t.Asentada ∧ t.EnUso)
    (F := fun _ => True) hinit fun _ _ => trivial).ok ⟨rfl, rfl⟩ h

/-- In every run of `threadYield` the chip has used the address leased at every top of the loop just when every round
has conformed. -/
theorem threadYield_enUso_iff {fuel : Nat} {entorno : E} {s₀ : Sistema (Placa PortVars E)}
    {tops : List (Locales × Sistema (Placa PortVars E))}
    (h₀ : threadYieldArranque fuel (.inicial (.inicial entorno)) = .ok () s₀) (hrun : Corrida s₀ tops) :
    (∀ t ∈ tops, EnUso t.2.mundo) ↔ ∀ t ∈ tops.tail, VueltaConforme t.2 := by
  have key : ((∀ t ∈ tops, EnUso t.2.mundo) ↔ ∀ t ∈ tops.tail, VueltaConforme t.2) ∧
      ((∀ t ∈ tops, EnUso t.2.mundo) → ∀ t ∈ tops.head?, (tarjeta t.2.mundo).Asentada) := by
    induction hrun with
    | start =>
      obtain ⟨ha, hu⟩ := asentada_arranque h₀
      have huso : EnUso s₀.mundo := hu
      simp [huso, ha]
    | @next t t' ts hts hs ih =>
      obtain ⟨hiff, hasentada⟩ := ih
      obtain ⟨fuel, hs⟩ := hs
      have hstep : (∀ u ∈ t :: ts, EnUso u.2.mundo) →
          (EnUso t'.2.mundo ↔ VueltaConforme t.2) ∧ (EnUso t'.2.mundo → (tarjeta t'.2.mundo).Asentada) :=
        fun huso => vuelta_enUso_iff (hasentada huso t rfl) (huso t List.mem_cons_self) hs
      refine ⟨⟨fun hall => ?_, fun hall => ?_⟩, fun hall u hu => ?_⟩
      · obtain ⟨huso', huso⟩ := List.forall_mem_cons.mp hall
        exact List.forall_mem_cons.mpr ⟨(hstep huso).1.mp huso', hiff.mp huso⟩
      · obtain ⟨hconf, hconfs⟩ := List.forall_mem_cons.mp hall
        have huso := hiff.mpr hconfs
        exact List.forall_mem_cons.mpr ⟨(hstep huso).1.mpr hconf, huso⟩
      · obtain ⟨huso', huso⟩ := List.forall_mem_cons.mp hall
        cases hu
        exact (hstep huso).2 huso'
  exact key.1

/-! ### From a script -/

namespace Ensayo

/-- The start-up and a round. -/
def dosTops (e : Ensayo) : Option (Sistema (Placa PortVars Ensayo) × Locales × Sistema (Placa PortVars Ensayo)) :=
  match threadYieldArranque 4 (.inicial (.inicial e)) with
  | .ok _ s₀ =>
    match threadYieldVuelta 4 {} s₀ with
    | .ok l s => some (s₀, l, s)
    | .error _ _ => none
  | .error _ _ => none

theorem corrida_dosTops {e : Ensayo} {s₀ s : Sistema (Placa PortVars Ensayo)} {l : Locales}
    (h : e.dosTops = some (s₀, l, s)) :
    threadYieldArranque 4 (.inicial (.inicial e)) = .ok () s₀ ∧ Corrida s₀ [(l, s), ({}, s₀)] := by
  unfold dosTops at h
  split at h
  · rename_i h₀
    split at h
    · rename_i hs
      cases h
      exact ⟨h₀, .next .start ⟨4, hs⟩⟩
    · cases h
  · cases h

/-- The server answers the last call of `W5500_Init`, and then the first of the loop. -/
def justo : Ensayo where
  llegadas := List.replicate 19 [] ++ [respuesta DHCP_OFFER, respuesta DHCP_ACK]

end Ensayo

theorem threadYield_enUso_pronto : ∃ (s₀ s : Sistema (Placa PortVars Ensayo)) (l : Locales),
    Corrida s₀ [(l, s), ({}, s₀)] ∧ s₀.mundo.dhcp.dhcpState = .leased ∧
      ∀ t ∈ [(l, s), ({}, s₀)].tail, VueltaConforme t.2 := by
  have hres : Ensayo.pronto.dosTops.map (fun (s₀, _, s) => (s₀.mundo.dhcp.dhcpState, decide (EnUso s₀.mundo),
      decide (EnUso s.mundo))) = some (.leased, true, true) := by decide +kernel
  obtain ⟨⟨s₀, l, s⟩, hdos, heq⟩ := Option.map_eq_some_iff.mp hres
  simp only [Prod.mk.injEq, decide_eq_true_eq] at heq
  obtain ⟨h₀, hrun⟩ := Ensayo.corrida_dosTops hdos
  refine ⟨s₀, s, l, hrun, heq.1, (threadYield_enUso_iff h₀ hrun).mp ?_⟩
  exact List.forall_mem_cons.mpr ⟨heq.2.2, List.forall_mem_singleton.mpr heq.2.1⟩

theorem threadYield_direccion_tardia : ¬ ∀ (fuel : Nat) (e : Ensayo) (s₀ : Sistema (Placa PortVars Ensayo))
    (tops : List (Locales × Sistema (Placa PortVars Ensayo))),
    threadYieldArranque fuel (.inicial (.inicial e)) = .ok () s₀ → Corrida s₀ tops → ∀ t ∈ tops, EnUso t.2.mundo := by
  intro h
  have hres : Ensayo.justo.dosTops.map (fun (_, _, s) => decide (EnUso s.mundo)) = some false := by decide +kernel
  obtain ⟨⟨s₀, l, s⟩, hdos, heq⟩ := Option.map_eq_some_iff.mp hres
  obtain ⟨h₀, hrun⟩ := Ensayo.corrida_dosTops hdos
  exact of_decide_eq_false heq (h 4 _ s₀ _ h₀ hrun (l, s) List.mem_cons_self)

end Wiznet
