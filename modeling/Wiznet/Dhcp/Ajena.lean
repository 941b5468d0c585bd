import Wiznet.Library.Stateful
import Wiznet.Dhcp.Cliente

/-!
# What the DHCP client has no business with

Parts of the board that the functions of the DHCP client leave alone, whatever comes of them: `AjenaEnvio` for sending a
message, `AjenaMensaje` for taking one, `AjenaEspera` for the time and the retries too, and `AjenaDhcp` for all that
`DHCP_run` does.  The longer functions are gone through once, for any property that their parts keep (`Aguanta`).
-/

namespace Wiznet

open Stateful Aplicacion

variable {A E : Type} [Aplicacion A] {γ : Type}

/-- The buffer and the servers have nothing to do with this part of the board. -/
structure AjenaRed (v : Placa A E → γ) : Prop where
  entorno : ∀ p e, v { p with entorno := e } = v p
  mensaje : ∀ p m, v { p with dhcp := { p.dhcp with mensaje := m } } = v p
  servidor : ∀ p sip real, v { p with dhcp := { p.dhcp with dhcpSip := sip, dhcpRealSip := real } } = v p

/-- Nor have the datagrams sent. -/
structure AjenaEnvio (v : Placa A E → γ) : Prop extends AjenaRed v where
  enviados : ∀ p l, v { p with enviados := l } = v p

/-- Nor have the options of a message. -/
structure AjenaMensaje (v : Placa A E → γ) : Prop extends AjenaRed v where
  opciones : ∀ p sn gw dns leaseTime, v { p with dhcp := { p.dhcp with
    allocatedSn := sn, allocatedGw := gw, allocatedDns := dns, dhcpLeaseTime := leaseTime } } = v p

/-- Nor has the time, or the check of an address. -/
structure AjenaEspera (v : Placa A E → γ) : Prop extends AjenaEnvio v where
  tick : ∀ p t, v { p with dhcp := { p.dhcp with dhcpTick1s := t } } = v p
  retry : ∀ p next n, v { p with dhcp := { p.dhcp with dhcpTickNext := next, dhcpRetryCount := n } } = v p
  rcr : ∀ p rcr, v { p with regs := { p.regs with rcr := rcr } } = v p

/-- Nor has anything else in `DHCP_run` but its own call and return. -/
structure AjenaDhcp (v : Placa A E → γ) : Prop extends AjenaMensaje v, AjenaEspera v where
  estado : ∀ p st, v { p with dhcp := { p.dhcp with dhcpState := st } } = v p
  direccion : ∀ p ip old xid, v { p with dhcp := { p.dhcp with
    allocatedIp := ip, oldAllocatedIp := old, dhcpXid := xid } } = v p
  callback : ∀ p regs app, v { p with regs := regs, app := app } = v p
  ultimoAck : ∀ p t, v { p with ultimoAck := t } = v p

namespace DHCP

variable {v : Placa A E → γ}

theorem intact_red {α : Type} (h : ∀ p e, v { p with entorno := e } = v p) (f : E → α × E) : Intact v (red f) :=
  intact_modifyGet fun p => h p _

section Envio

variable [Red E] (hv : AjenaEnvio v)
include hv

theorem intact_sendto (bytes : List UInt8) (addr : IP) (port : UInt16) : Intact v (sendto bytes addr port) := by
  refine Intact.bind intact_get fun p => (intact_red hv.entorno _).bind fun ret => ?_
  exact Intact.bind (intact_modify fun p => hv.enviados p _) fun _ => intact_pure _

theorem intact_envia (mensaje : DhcpVars (Fn A) → List UInt8) (addr : DhcpVars (Fn A) → IP) :
    Intact v (envia mensaje addr) := by
  refine Intact.bind intact_get fun p => ?_
  dsimp only
  split
  · exact intact_throw _
  · refine intact_ite (intact_throw _) (Intact.bind (intact_modify fun p => hv.mensaje p _) fun _ => ?_)
    exact (intact_sendto hv _ _ _).bind fun _ => intact_pure _

theorem intact_sendDISCOVER : Intact v (sendDISCOVER (A := A) (E := E)) :=
  Intact.bind (intact_modify fun p => hv.servidor p _ _) fun _ => intact_envia hv _ _

theorem intact_reenvia : Intact v (reenvia (A := A) (E := E)) := by
  refine Intact.bind intact_get fun p => ?_
  split
  · exact intact_sendDISCOVER hv
  · exact intact_envia hv _ _
  · exact intact_envia hv _ _
  · exact intact_pure _

end Envio

/-! ### Messages -/

section Opciones

variable {F : Type}

/-- The variables that the options of a message may change. -/
def ConOpciones (d d' : DhcpVars F) : Prop :=
  ∃ sn gw dns leaseTime sip real, d' = { d with
    allocatedSn := sn, allocatedGw := gw, allocatedDns := dns, dhcpLeaseTime := leaseTime, dhcpSip := sip,
    dhcpRealSip := real }

theorem ConOpciones.refl (d : DhcpVars F) : ConOpciones d d := ⟨_, _, _, _, _, _, rfl⟩

theorem ConOpciones.trans {d d' d'' : DhcpVars F} (h : ConOpciones d d') (h' : ConOpciones d' d'') :
    ConOpciones d d'' := by
  obtain ⟨_, _, _, _, _, _, rfl⟩ := h
  obtain ⟨_, _, _, _, _, _, rfl⟩ := h'
  exact ⟨_, _, _, _, _, _, rfl⟩

theorem conOpciones_opciones {tam : Nat} {svr : IP} {e n p : Nat} {type t : UInt8} {d d' : DhcpVars F}
    (h : opciones tam svr e n p type d = some (t, d')) : ConOpciones d d' := by
  induction n generalizing p type d with
  | zero =>
    cases h
    exact .refl _
  | succ n ih =>
    unfold opciones at h
    rcases ite_eq_iff.1 h with ⟨-, h⟩ | ⟨-, h⟩
    case inr =>
      cases h
      exact .refl _
    obtain ⟨option, -, h⟩ := Option.bind_eq_some_iff.mp h
    rcases ite_eq_iff.1 h with ⟨-, h⟩ | ⟨-, h⟩
    · cases h
      exact .refl _
    rcases ite_eq_iff.1 h with ⟨-, h⟩ | ⟨-, h⟩
    · exact ih h
    rcases ite_eq_iff.1 h with ⟨-, h⟩ | ⟨-, h⟩
    · obtain ⟨type, -, h⟩ := Option.bind_eq_some_iff.mp h
      exact ih h
    rcases ite_eq_iff.1 h with ⟨-, h⟩ | ⟨-, h⟩
    · obtain ⟨sn, -, h⟩ := Option.bind_eq_some_iff.mp h
      exact ConOpciones.trans ⟨_, _, _, _, _, _, rfl⟩ (ih h)
    rcases ite_eq_iff.1 h with ⟨-, h⟩ | ⟨-, h⟩
    · obtain ⟨optLen, -, h⟩ := Option.bind_eq_some_iff.mp h
      obtain ⟨gw, -, h⟩ := Option.bind_eq_some_iff.mp h
      exact ConOpciones.trans ⟨_, _, _, _, _, _, rfl⟩ (ih h)
    rcases ite_eq_iff.1 h with ⟨-, h⟩ | ⟨-, h⟩
    · obtain ⟨optLen, -, h⟩ := Option.bind_eq_some_iff.mp h
      obtain ⟨ip, -, h⟩ := Option.bind_eq_some_iff.mp h
      exact ConOpciones.trans ⟨_, _, _, _, _, _, rfl⟩ (ih h)
    rcases ite_eq_iff.1 h with ⟨-, h⟩ | ⟨-, h⟩
    · obtain ⟨t, -, h⟩ := Option.bind_eq_some_iff.mp h
      exact ConOpciones.trans ⟨_, _, _, _, _, _, rfl⟩ (ih h)
    rcases ite_eq_iff.1 h with ⟨-, h⟩ | ⟨-, h⟩
    · obtain ⟨sip, -, h⟩ := Option.bind_eq_some_iff.mp h
      exact ConOpciones.trans ⟨_, _, _, _, _, _, rfl⟩ (ih h)
    · obtain ⟨optLen, -, h⟩ := Option.bind_eq_some_iff.mp h
      exact ih h

theorem conOpciones_leeDatagrama {d d' : DhcpVars F} {r : Recibido} {t : UInt8}
    (h : leeDatagrama d r = some (t, d')) : ∃ m, ConOpciones { d with mensaje := m } d' := by
  unfold leeDatagrama at h
  split at h
  · cases h
  split at h
  · cases h
  dsimp only at h
  split at h
  · cases h
    exact ⟨_, .refl _⟩
  split at h
  · cases h
    exact ⟨_, .refl _⟩
  split at h
  · cases h
    exact ⟨_, .refl _⟩
  · exact ⟨_, conOpciones_opciones h⟩

end Opciones

section Mensaje

variable [Red E] (hv : AjenaMensaje v)
include hv

omit [Red E] in
theorem intact_conOpciones {p : Placa A E} {m : Buffer} {d : DhcpVars (Fn A)}
    (h : ConOpciones { p.dhcp with mensaje := m } d) : v { p with dhcp := d } = v p := by
  obtain ⟨sn, gw, dns, leaseTime, sip, real, rfl⟩ := h
  let p₁ : Placa A E := { p with dhcp := { p.dhcp with mensaje := m } }
  let p₂ : Placa A E := { p₁ with dhcp := { p₁.dhcp with
    allocatedSn := sn, allocatedGw := gw, allocatedDns := dns, dhcpLeaseTime := leaseTime } }
  calc v { p₂ with dhcp := { p₂.dhcp with dhcpSip := sip, dhcpRealSip := real } } = v p₂ := hv.servidor p₂ sip real
    _ = v p₁ := hv.opciones p₁ sn gw dns leaseTime
    _ = v p := hv.mensaje p m

theorem intact_parseDHCPMSG : Intact v (parseDHCPMSG (A := A) (E := E)) := by
  refine Intact.bind intact_get fun p => (intact_red hv.entorno _).bind fun len => intact_ite (intact_pure _) ?_
  refine Intact.bind intact_get fun p => (intact_red hv.entorno _).bind fun r => ?_
  intro p
  unfold tomaDatagrama
  split
  · rfl
  · rename_i h
    obtain ⟨m, hm⟩ := conOpciones_leeDatagrama h
    exact intact_conOpciones hv hm

theorem intact_recibe : Intact v (recibe (A := A) (E := E)) := by
  refine Intact.bind intact_get fun p => (intact_red hv.entorno _).bind fun sr => ?_
  exact intact_ite ((intact_red hv.entorno _).bind fun _ => intact_parseDHCPMSG hv) (intact_parseDHCPMSG hv)

end Mensaje

section Espera

variable [Red E] [TimeHandler E] (hv : AjenaEspera v)
include hv

omit [Red E] in
theorem intact_leeTick : Intact v (leeTick (A := A) (E := E)) := by
  refine (intact_red hv.entorno _).bind fun ticks => Intact.bind (intact_modify fun p => hv.tick p _) fun _ => ?_
  exact Intact.bind intact_get fun _ => intact_pure _

omit [Red E] [TimeHandler E] in
theorem intact_resetTimeout : Intact v (resetTimeout (A := A) (E := E)) := by
  refine intact_modify fun p => ?_
  let p₁ : Placa A E := { p with dhcp := { p.dhcp with dhcpTick1s := 0 } }
  calc v { p₁ with dhcp := { p₁.dhcp with dhcpTickNext := DHCP_WAIT_TIME, dhcpRetryCount := 0 } } = v p₁ :=
        hv.retry p₁ _ _
    _ = v p := hv.tick p 0

end Espera

/-! ### What a property has to withstand -/

section Aguanta

variable [Red E] [TimeHandler E]

/-- A property that the parts of the check of an address keep. -/
structure AguantaEspera (P : Placa A E → Prop) : Prop where
  sendto : ∀ bytes addr port, Preserves P (sendto bytes addr port)
  envia : ∀ mensaje addr, Preserves P (envia mensaje addr)
  leeTick : Preserves P leeTick
  rcr : ∀ p rcr, P p → P { p with regs := { p.regs with rcr := rcr } }

/-- And the rest of `DHCP_run` too. -/
structure Aguanta (P : Placa A E → Prop) : Prop extends AguantaEspera P where
  sendDISCOVER : Preserves P sendDISCOVER
  reenvia : Preserves P reenvia
  recibe : Preserves P recibe
  resetTimeout : Preserves P resetTimeout
  tick : ∀ p, P p → P { p with dhcp := { p.dhcp with dhcpTick1s := 0 } }
  retry : ∀ p next n, P p → P { p with dhcp := { p.dhcp with dhcpTickNext := next, dhcpRetryCount := n } }
  estado : ∀ p st, P p → P { p with dhcp := { p.dhcp with dhcpState := st } }
  direccion : ∀ p ip old xid, P p → P { p with dhcp := { p.dhcp with
    allocatedIp := ip, oldAllocatedIp := old, dhcpXid := xid } }
  callback : ∀ p regs app, P p → P { p with regs := regs, app := app }
  ultimoAck : ∀ p t, P p → P { p with ultimoAck := t }

variable {P : Placa A E → Prop}

theorem preserves_esperaTicks (h : AguantaEspera P) (desde : UInt32) (n : Nat) : Preserves P (esperaTicks desde n) := by
  induction n with
  | zero => exact preserves_throw _
  | succ n ih => exact h.leeTick.bind fun tick => preserves_ite ih (preserves_pure _)

theorem preserves_checkLeasedIP (h : AguantaEspera P) (fuel : Nat) : Preserves P (checkLeasedIP fuel) := by
  have hrcr : ∀ rcr, Preserves P (ponRCR rcr) := fun rcr => preserves_modify fun p hp => h.rcr p rcr hp
  refine preserves_get.bind fun p => (hrcr _).bind fun _ => (h.sendto _ _ _).bind fun ret => ?_
  refine (hrcr _).bind fun _ => preserves_ite (preserves_pure _) ?_
  refine (h.envia _ _).bind fun _ => h.leeTick.bind fun tick => ?_
  exact (preserves_esperaTicks h _ _).bind fun _ => preserves_pure _

section Dhcp

variable (h : Aguanta P)
include h

theorem preserves_ponEstado (state : StateDhcp) : Preserves P (ponEstado state) :=
  preserves_modify fun p hp => h.estado p state hp

theorem preserves_abandona : Preserves P (abandona (A := A) (E := E)) := by
  have hestado := preserves_ponEstado h
  have hdiscover := h.sendDISCOVER.bind fun _ => (hestado .discover).bind fun _ => preserves_pure DHCP_RUNNING
  refine preserves_get.bind fun p => ?_
  split
  · exact (hestado _).bind fun _ => preserves_pure _
  · exact hdiscover
  · exact hdiscover
  · exact preserves_pure _

theorem preserves_checkTimeout : Preserves P (checkTimeout (A := A) (E := E)) := by
  refine preserves_get.bind fun p => preserves_ite ?_ ?_
  · refine h.leeTick.bind fun tick => preserves_ite ?_ (preserves_pure _)
    refine h.reenvia.bind fun _ => Preserves.bind (preserves_modify h.tick) fun _ => h.leeTick.bind fun tick => ?_
    refine Preserves.bind (preserves_modify fun p hp => ?_) fun _ => preserves_pure _
    exact h.retry p (tick + DHCP_WAIT_TIME) (p.dhcp.dhcpRetryCount + 1) hp
  · exact (preserves_abandona h).bind fun ret => h.resetTimeout.bind fun _ => preserves_pure _

theorem preserves_llamaFn (fn : DhcpVars (Fn A) → Option (Fn A))
    (porDefecto : DhcpVars (Fn A) → Registros → Registros) : Preserves P (llamaFn fn porDefecto) := by
  refine preserves_modify fun p hp => ?_
  split
  · exact h.callback p _ p.app hp
  · exact h.callback p _ _ hp

theorem preserves_switch (fuel : Nat) (type : UInt8) : Preserves P (switch fuel type) := by
  have hestado := preserves_ponEstado h
  have hack : Preserves P (anotaAck (A := A) (E := E)) := preserves_modify fun p hp => h.ultimoAck p _ hp
  have hdir : ∀ ip : DhcpVars (Fn A) → IP,
      Preserves P (modificaDhcp (E := E) fun d => { d with allocatedIp := ip d }) :=
    fun ip => preserves_modify fun p hp => h.direccion p (ip p.dhcp) _ _ hp
  refine preserves_get.bind fun p => ?_
  split
  · refine (hdir _).bind fun _ => h.sendDISCOVER.bind fun _ => ?_
    exact (hestado _).bind fun _ => preserves_pure _
  · refine preserves_ite ((hdir _).bind fun _ => ?_) (preserves_checkTimeout h)
    exact (h.envia _ _).bind fun _ => (hestado _).bind fun _ => preserves_pure _
  · have hlibre := preserves_checkLeasedIP h.toAguantaEspera fuel
    refine preserves_ite (hlibre.bind fun libre => preserves_ite ?_ ?_) ?_
    · refine (preserves_llamaFn h _ _).bind fun _ => h.resetTimeout.bind fun _ => (hestado _).bind fun _ => ?_
      exact hack.bind fun _ => preserves_pure _
    · refine h.resetTimeout.bind fun _ => (preserves_llamaFn h _ _).bind fun _ => ?_
      exact (hestado _).bind fun _ => preserves_pure _
    · refine preserves_ite ?_ (preserves_checkTimeout h)
      exact h.resetTimeout.bind fun _ => (hestado _).bind fun _ => preserves_pure _
  · have hrenueva : Preserves P (renueva (A := A) (E := E)) := by
      refine Preserves.bind (preserves_modify fun p hp => h.direccion p _ _ _ hp) fun _ => ?_
      exact (h.envia _ _).bind fun _ => h.resetTimeout.bind fun _ => hestado _
    refine preserves_get.bind fun p => preserves_ite (h.leeTick.bind fun tick => ?_) (preserves_pure _)
    exact preserves_ite (hrenueva.bind fun _ => preserves_pure _) (preserves_pure _)
  · refine preserves_ite ?_ (preserves_ite ?_ (preserves_checkTimeout h))
    · refine Preserves.bind (preserves_modify fun p hp => h.retry p _ 0 hp) fun _ => preserves_get.bind fun p => ?_
      have hfin : Preserves P (do
          resetTimeout
          ponEstado .leased
          anotaAck
          return if p.dhcp.oldAllocatedIp ≠ p.dhcp.allocatedIp then DHCP_IP_CHANGED else DHCP_IP_LEASED
          : PlacaM A E UInt8) :=
        h.resetTimeout.bind fun _ => (hestado _).bind fun _ => hack.bind fun _ => preserves_pure _
      exact preserves_ite ((preserves_llamaFn h _ _).bind fun _ => hfin) hfin
    · exact h.resetTimeout.bind fun _ => (hestado _).bind fun _ => preserves_pure _
  · exact preserves_pure _

theorem preserves_runCuerpo (fuel : Nat) : Preserves P (runCuerpo fuel) := by
  refine preserves_get.bind fun p => preserves_ite (preserves_pure _) ?_
  exact h.recibe.bind fun type => preserves_switch h fuel type

end Dhcp

theorem aguantaEspera_of_ajena (hv : AjenaEspera v) (c : γ) : AguantaEspera (fun p : Placa A E => v p = c) where
  sendto _ _ _ := (intact_sendto hv.toAjenaEnvio _ _ _).preserves (· = c)
  envia _ _ := (intact_envia hv.toAjenaEnvio _ _).preserves (· = c)
  leeTick := (intact_leeTick hv).preserves (· = c)
  rcr p rcr hp := (hv.rcr p rcr).trans hp

theorem aguanta_of_ajena (hv : AjenaDhcp v) (c : γ) : Aguanta (fun p : Placa A E => v p = c) where
  toAguantaEspera := aguantaEspera_of_ajena hv.toAjenaEspera c
  sendDISCOVER := (intact_sendDISCOVER hv.toAjenaEnvio).preserves (· = c)
  reenvia := (intact_reenvia hv.toAjenaEnvio).preserves (· = c)
  recibe := (intact_recibe hv.toAjenaMensaje).preserves (· = c)
  resetTimeout := (intact_resetTimeout hv.toAjenaEspera).preserves (· = c)
  tick p hp := (hv.tick p 0).trans hp
  retry p next n hp := (hv.retry p next n).trans hp
  estado p st hp := (hv.estado p st).trans hp
  direccion p ip old xid hp := (hv.direccion p ip old xid).trans hp
  callback p regs app hp := (hv.callback p regs app).trans hp
  ultimoAck p t hp := (hv.ultimoAck p t).trans hp

theorem intact_checkLeasedIP (hv : AjenaEspera v) (fuel : Nat) : Intact v (checkLeasedIP (A := A) (E := E) fuel) :=
  intact_of_preserves fun c => preserves_checkLeasedIP (aguantaEspera_of_ajena hv c) fuel

theorem intact_runCuerpo (hv : AjenaDhcp v) (fuel : Nat) : Intact v (runCuerpo (A := A) (E := E) fuel) :=
  intact_of_preserves fun c => preserves_runCuerpo (aguanta_of_ajena hv c) fuel

end Aguanta

end DHCP

end Wiznet
