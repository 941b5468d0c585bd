import Wiznet.Dhcp.Direccion
import Wiznet.Dhcp.Peticiones

/-!
# The end of an agreement

What `DHCP_run` makes of the ACK to its REQUEST.  The address is the one that the OFFER had: nothing reads it in the
ACK, which only gives the mask, the gateway, the DNS server and the time.
-/

namespace Wiznet

namespace DHCP

open Stateful Trato

variable {A E : Type} [Aplicacion A] [Red E] [TimeHandler E] {fuel tam : Nat} {opts : List Opcion}

/-- What `dhcp_ip_assign` makes of the chip and the application. -/
def asignado (d : DhcpVars (Aplicacion.Fn A)) (regs : Registros) (app : A) : Registros × A :=
  match d.dhcpIpAssign with
  | none => (defaultIpAssign d regs, app)
  | some f => Aplicacion.llama f d regs app

/-- The board once it has looked for a conflict. -/
def comprobada (p : Placa A E) : Placa A E :=
  { p with
    entorno := (Red.sendto p.dhcp.dhcpSocket CHECK_IP_CONFLICT p.dhcp.allocatedIp 5000 p.entorno).2
    enviados := ⟨CHECK_IP_CONFLICT, p.dhcp.allocatedIp, 5000⟩ :: p.enviados }

/-- The board once the lease is taken. -/
def arrendada (p : Placa A E) : Placa A E :=
  let q := comprobada p
  { q with
    regs := (asignado p.dhcp p.regs p.app).1
    app := (asignado p.dhcp p.regs p.app).2
    dhcp := { p.dhcp with dhcpTick1s := 0, dhcpTickNext := DHCP_WAIT_TIME, dhcpRetryCount := 0, dhcpState := .leased }
    ultimoAck := some (Red.tiempo q.entorno) }

omit [TimeHandler E] in
instance (p : Placa A E) : Decidable (NadieResponde p) := inferInstanceAs (Decidable (_ = _))

/-- The first half of the check. -/
theorem checkLeasedIP_eq (p : Placa A E) :
    checkLeasedIP fuel p = if NadieResponde p then .ok true (comprobada p) else
      (sendDECLINE >>= fun _ => leeTick >>= fun tick => esperaTicks tick fuel >>= fun _ => pure false)
        (comprobada p) := by
  have hsend : sendto CHECK_IP_CONFLICT p.dhcp.allocatedIp 5000 { p with regs := { p.regs with rcr := 0x03 } } = .ok
      (Red.sendto p.dhcp.dhcpSocket CHECK_IP_CONFLICT p.dhcp.allocatedIp 5000 p.entorno).1
      { comprobada p with regs := { p.regs with rcr := 0x03 } } := rfl
  have hrcr : ponRCR 0x03 p = .ok () { p with regs := { p.regs with rcr := 0x03 } } := rfl
  have hvuelve : ponRCR p.regs.rcr { comprobada p with regs := { p.regs with rcr := 0x03 } } =
      .ok () (comprobada p) := rfl
  rw [checkLeasedIP, get_bind, bind_ok hrcr, bind_ok hsend, bind_ok hvuelve]
  by_cases h : NadieResponde p
  · rw [if_pos h, if_pos (show _ = SOCKERR_TIMEOUT from h)]
    rfl
  · rw [if_neg h, if_neg (show ¬ _ = SOCKERR_TIMEOUT from h)]

theorem caseRequest_libre {p : Placa A E} (h : NadieResponde p) :
    caseRequest fuel DHCP_ACK p = .ok DHCP_RUNNING (arrendada p) := by
  have hlibre : checkLeasedIP fuel p = .ok true (comprobada p) := by rw [checkLeasedIP_eq, if_pos h]
  have hasigna : dhcpIpAssign (comprobada p) = .ok () { comprobada p with
      regs := (asignado p.dhcp p.regs p.app).1, app := (asignado p.dhcp p.regs p.app).2 } := by
    unfold dhcpIpAssign llamaFn asignado
    show EStateM.Result.ok () _ = _
    congr 1
    cases hfn : p.dhcp.dhcpIpAssign with
    | none => simp [comprobada, hfn]
    | some f => simp [comprobada, hfn]
  rw [caseRequest, if_pos rfl, bind_ok hlibre, if_pos rfl, bind_ok hasigna]
  rfl

/-- With somebody at the address the lease is given back. -/
theorem caseRequest_ocupada {p p' : Placa A E} {ret : UInt8} (h : ¬ NadieResponde p) (hbuf : p.dhcp.pDHCPMSG = some tam)
    (htam : RIP_MSG_SIZE ≤ tam) (hok : caseRequest fuel DHCP_ACK p = .ok ret p') :
    trato p' = { estado := .init, allocatedIp := p.dhcp.allocatedIp, enviados :=
      ⟨mensajeDecline p.dhcp, .difusion, DHCP_SERVER_PORT⟩ ::
        ⟨CHECK_IP_CONFLICT, p.dhcp.allocatedIp, 5000⟩ :: p.enviados } := by
  have hdecline : sendDECLINE (comprobada p) = .ok () (enviada mensajeDecline (fun _ => .difusion) (comprobada p)) :=
    envia_eq hbuf htam
  rw [caseRequest, if_pos rfl] at hok
  obtain ⟨libre, p₁, h₁, hok⟩ := ok_of_bind hok
  rw [checkLeasedIP_eq, if_neg h, bind_ok hdecline] at h₁
  obtain ⟨tick, p₂, h₂, h₁⟩ := ok_of_bind h₁
  obtain ⟨_, p₃, h₃, h₁⟩ := ok_of_bind h₁
  cases h₁
  obtain ⟨_, p₄, h₄, hok⟩ := ok_of_bind hok
  obtain ⟨_, p₅, h₅, hok⟩ := ok_of_bind hok
  have htrato : trato p₅ = trato (enviada mensajeDecline (fun _ => .difusion) (comprobada p)) := by
    rw [(intact_llamaFn_trato _ _).keeps _ _ _ h₅, intact_resetTimeout_trato.keeps _ _ _ h₄,
      (intact_esperaTicks_trato _ _).keeps _ _ _ h₃, intact_leeTick_trato.keeps _ _ _ h₂]
  cases hok
  show { trato p₅ with estado := .init } = _
  rw [htrato]
  rfl

/-- An ACK of the server it listens to ends the agreement.  With nobody at the address it is leased, and it is the one
that was asked for; the mask, the gateway, the DNS server, the time and the server are those of the ACK, where it says
them, and the callback gets them.  With somebody there the client hands a DECLINE to `sendto`, in the format, for that
address to that server, and starts again. -/
theorem run_ack {p q : Placa A E} {r : Recibido} (hst : p.dhcp.dhcpState = .request) (hbuf : p.dhcp.pDHCPMSG = some tam)
    (htam : RIP_MSG_SIZE ≤ tam)
    (hr : llega { p with diario := .run p.dhcp.dhcpSocket p.dhcp.pDHCPMSG :: p.diario } = (some r, q))
    (hf : Formato r.bytes opts) (hrc : r.rc = r.bytes.length) (hcabe : r.bytes.length ≤ tam)
    (h16 : r.bytes.length < 65536)
    (hsuyo : Suyo p.dhcp r) (htipo : ultima dhcpMessageType opts = some [DHCP_ACK]) :
    let d := (dice r.addr (0, recibido p.dhcp r) opts).2
    (NadieResponde q → ∃ p', DHCP.run fuel p = .ok DHCP_RUNNING p' ∧ p'.dhcp.allocatedIp = p.dhcp.allocatedIp ∧
        p'.dhcp = { d with
          dhcpTick1s := 0, dhcpTickNext := DHCP_WAIT_TIME, dhcpRetryCount := 0, dhcpState := .leased } ∧
        (p'.regs, p'.app) = asignado d p.regs p.app ∧
        p'.enviados = ⟨CHECK_IP_CONFLICT, p.dhcp.allocatedIp, 5000⟩ :: p.enviados) ∧
      (¬ NadieResponde q → ∀ ret p', DHCP.run fuel p = .ok ret p' → p'.dhcp.dhcpState = .init ∧
        ∃ bytes opts', p'.enviados = ⟨bytes, .difusion, DHCP_SERVER_PORT⟩ ::
            ⟨CHECK_IP_CONFLICT, p.dhcp.allocatedIp, 5000⟩ :: p.enviados ∧ Formato bytes opts' ∧
          ultima dhcpMessageType opts' = some [DHCP_DECLINE] ∧
          ultima dhcpRequestedIPaddr opts' = some p.dhcp.allocatedIp.bytes ∧
          ultima dhcpServerIdentifier opts' = some d.dhcpSip.bytes) := by
  intro d
  obtain ⟨e, rfl⟩ := llega_eq hr
  have hlee : leeDatagrama p.dhcp r = some (DHCP_ACK, d) := by
    rw [leeDatagrama_suyo hbuf hf hrc hcabe h16 hsuyo]
    have hack : (dice r.addr (0, recibido p.dhcp r) opts).1 = DHCP_ACK := by simp [dice, htipo]
    rw [← hack]
  have hrun : DHCP.run fuel p = _ := run_eq (by rw [hst]; decide) hr hlee
  obtain ⟨p₁, hp₁⟩ : ∃ p₁ : Placa A E, p₁ = { p with
    diario := .run p.dhcp.dhcpSocket p.dhcp.pDHCPMSG :: p.diario, entorno := e, dhcp := d } := ⟨_, rfl⟩
  have hst₁ : p₁.dhcp.dhcpState = .request := by rw [hp₁, ← hst]; rfl
  have hbuf₁ : p₁.dhcp.pDHCPMSG = some tam := by rw [hp₁, ← hbuf]; rfl
  have hswitch : switch fuel DHCP_ACK p₁ = caseRequest fuel DHCP_ACK p₁ := by rw [switch, get_bind, hst₁]
  -- the datagram changes neither the address nor the socket, so the check is the same
  have hnadie : NadieResponde { p with
      diario := .run p.dhcp.dhcpSocket p.dhcp.pDHCPMSG :: p.diario, entorno := e } ↔ NadieResponde p₁ := by
    rw [hp₁]
    rfl
  have hrun₁ : DHCP.run fuel p = (switch fuel DHCP_ACK >>= fun ret => anota (.fin ret) >>= fun _ => pure ret) p₁ := by
    rw [hrun, hp₁]
  rw [hnadie]
  constructor
  · intro h
    refine ⟨{ arrendada p₁ with diario := .fin DHCP_RUNNING :: (arrendada p₁).diario }, ?_, ?_, ?_, ?_, ?_⟩
    · rw [hrun₁, bind_ok (hswitch.trans (caseRequest_libre h))]
      rfl
    all_goals
      rw [hp₁]
      rfl
  · intro h ret p' hok
    rw [hrun₁] at hok
    obtain ⟨ret', p₂, h₂, hok⟩ := ok_of_bind hok
    cases hok
    have htrato := caseRequest_ocupada h hbuf₁ htam (hswitch.symm.trans h₂)
    refine ⟨congrArg Trato.estado htrato, mensajeDecline p₁.dhcp, opcionesDecline p₁.dhcp, ?_, mensajeDecline_formato _,
      rfl, ?_, ?_⟩
    · have henv : p₂.enviados = _ := congrArg Trato.enviados htrato
      show p₂.enviados = _
      rw [henv, hp₁]
      rfl
    all_goals
      rw [hp₁]
      rfl

/-- The board of the script, which asks for another address than the ACK has; somebody may have it. -/
def placaAck (ocupada : Bool) : Placa PortVars Ensayo :=
  { Placa.inicial { llegadas := [Ensayo.respuesta DHCP_ACK], ocupada := ocupada, tics := 2 : Ensayo } with
    dhcp := { buscando with dhcpState := .request, allocatedIp := ⟨192, 168, 1, 77⟩, dhcpSip := Ensayo.servidor } }

theorem run_ack_otra : yiaddrDe (Ensayo.respuesta DHCP_ACK) = ⟨192, 168, 1, 50⟩ ∧
    (∃ p', DHCP.run 4 (placaAck false) = .ok DHCP_RUNNING p' ∧ p'.dhcp.dhcpState = .leased ∧
      p'.dhcp.allocatedIp = ⟨192, 168, 1, 77⟩ ∧ p'.dhcp.dhcpLeaseTime = 20) ∧
    ∃ p' bytes opts', DHCP.run 4 (placaAck true) = .ok DHCP_RUNNING p' ∧ p'.dhcp.dhcpState = .init ∧
      p'.enviados.head? = some ⟨bytes, .difusion, DHCP_SERVER_PORT⟩ ∧ Formato bytes opts' ∧
      ultima dhcpMessageType opts' = some [DHCP_DECLINE] ∧
      ultima dhcpRequestedIPaddr opts' = some [192, 168, 1, 77] := by
  refine ⟨by decide +kernel, ?_, ?_⟩
  · obtain ⟨p', hrun, hip, hdhcp, -⟩ := (@run_ack PortVars Ensayo _ _ _ 4 _
      (opcionesRespuesta DHCP_ACK) (placaAck false) _
      ⟨268, Ensayo.respuesta DHCP_ACK, Ensayo.servidor, DHCP_SERVER_PORT⟩ rfl rfl (by decide) (llega_ensayo rfl rfl)
      (formato_respuesta _) (by decide +kernel) (by decide +kernel) (by decide +kernel) (by decide +kernel) rfl).1 rfl
    refine ⟨p', hrun, ?_, hip, ?_⟩
    · rw [hdhcp]
    · rw [hdhcp]
      decide +kernel
  · have hres : (match DHCP.run 4 (placaAck true) with
        | .ok ret _ => some ret
        | .error _ _ => none) = some DHCP_RUNNING := by decide +kernel
    split at hres
    case h_2 => cases hres
    case h_1 ret p' hrun =>
      cases hres
      obtain ⟨hst, bytes, opts', henv, hf, htipo, hip, -⟩ := (@run_ack PortVars Ensayo _ _ _ 4 _
        (opcionesRespuesta DHCP_ACK) (placaAck true) _
        ⟨268, Ensayo.respuesta DHCP_ACK, Ensayo.servidor, DHCP_SERVER_PORT⟩ rfl rfl (by decide) (llega_ensayo rfl rfl)
        (formato_respuesta _) (by decide +kernel) (by decide +kernel) (by decide +kernel) (by decide +kernel) rfl).2
        (by decide +kernel) _ p' hrun
      exact ⟨p', bytes, opts', hrun, hst, congrArg List.head? henv, hf, htipo, hip⟩

end DHCP

end Wiznet
