import Wiznet.Dhcp.Configuracion

/-!
# The renewal of the lease

The client asks for its lease again when `dhcp_tick_1s` says that half of it is over.  Only `DHCP_time_handler` makes
that count go up, and no file of the firmware calls it: the lease is never asked for again.
-/

namespace Wiznet

open Stateful Wizchip

/-- The network of the firmware as its `Makefile` links it: no file of it calls `DHCP_time_handler`. -/
def Firmware (E : Type) : Type := E

variable {E : Type} [Red E]

instance : Red (Firmware E) := inferInstanceAs (Red E)

instance : TimeHandler (Firmware E) where
  ticks e := (0, e)

section Lease

variable {A : Type} [Aplicacion A] [TimeHandler E]

/-- There is a finite lease, and more than half of it is over since the last ACK. -/
def Vencida (p : Placa A E) : Prop :=
  p.dhcp.dhcpState = .leased ∧ p.dhcp.dhcpLeaseTime ≠ INFINITE_LEASETIME ∧
    ∃ t ∈ p.ultimoAck, p.dhcp.dhcpLeaseTime.toNat * CH_CFG_ST_FREQUENCY < 2 * (Red.tiempo p.entorno - t)

instance (p : Placa A E) : Decidable (Vencida p) := inferInstanceAs (Decidable (_ ∧ _ ∧ _))

/-- The next call of `DHCP_run` sends a REQUEST. -/
def PideLease (fuel : Nat) (p : Placa A E) : Prop :=
  ∃ nuevos, (final (DHCP.run fuel p)).enviados = nuevos ++ p.enviados ∧ ∃ d ∈ nuevos, DHCP.EsRequest d.bytes

end Lease

/-! ### Without ticks -/

namespace DHCP

variable {A : Type} [Aplicacion A]

/-- The count of seconds has not moved. -/
def SinTicks {E : Type} (p : Placa A E) : Prop := p.dhcp.dhcpTick1s = 0

omit [Red E] in
theorem ajenaEnvio_tick : AjenaEnvio (fun p : Placa A (Firmware E) => p.dhcp.dhcpTick1s) where
  entorno _ _ := rfl
  enviados _ _ := rfl
  mensaje _ _ := rfl
  servidor _ _ _ := rfl

omit [Red E] in
theorem ajenaMensaje_tick : AjenaMensaje (fun p : Placa A (Firmware E) => p.dhcp.dhcpTick1s) where
  entorno _ _ := rfl
  mensaje _ _ := rfl
  servidor _ _ _ := rfl
  opciones _ _ _ _ _ := rfl

omit [Red E] in
theorem preserves_red {α : Type} (f : Firmware E → α × Firmware E) : Preserves SinTicks (red (A := A) f) :=
  (intact_red (fun _ _ => rfl) f).preserves (· = 0)

omit [Red E] in
theorem leeTick_sinTicks {p : Placa A (Firmware E)} (hp : SinTicks p) : leeTick p = .ok 0 p := by
  have htick : p.dhcp.dhcpTick1s + 0 = p.dhcp.dhcpTick1s := UInt32.add_zero _
  show EStateM.Result.ok (p.dhcp.dhcpTick1s + 0)
    { p with dhcp := { p.dhcp with dhcpTick1s := p.dhcp.dhcpTick1s + 0 } } = _
  rw [htick, hp.symm]

omit [Red E] in
/-- A change of the variables that leaves the count alone. -/
theorem preserves_modificaDhcp {f : DhcpVars (Aplicacion.Fn A) → DhcpVars (Aplicacion.Fn A)}
    (hf : ∀ d, (f d).dhcpTick1s = d.dhcpTick1s) : Preserves SinTicks (modificaDhcp (E := Firmware E) f) :=
  preserves_modify fun p hp => (hf p.dhcp).trans hp

/-- The count is put to zero, and nothing else is done to it. -/
theorem aguanta_sinTicks : Aguanta (SinTicks (A := A) (E := Firmware E)) where
  sendto _ _ _ := (intact_sendto ajenaEnvio_tick _ _ _).preserves (· = 0)
  envia _ _ := (intact_envia ajenaEnvio_tick _ _).preserves (· = 0)
  leeTick := by
    intro p hp
    rw [leeTick_sinTicks hp]
    exact hp
  rcr _ _ hp := hp
  sendDISCOVER := (intact_sendDISCOVER ajenaEnvio_tick).preserves (· = 0)
  reenvia := (intact_reenvia ajenaEnvio_tick).preserves (· = 0)
  recibe := (intact_recibe ajenaMensaje_tick).preserves (· = 0)
  resetTimeout := preserves_modify fun _ _ => rfl
  tick _ _ := rfl
  retry _ _ _ hp := hp
  estado _ _ hp := hp
  direccion _ _ _ _ hp := hp
  callback _ _ _ hp := hp
  ultimoAck _ _ hp := hp

theorem preserves_run (fuel : Nat) : Preserves SinTicks (DHCP.run (A := A) (E := Firmware E) fuel) := by
  have hanota : ∀ h, Preserves SinTicks (DHCP.anota (A := A) (E := Firmware E) h) :=
    fun h => preserves_modify fun _ h => h
  refine preserves_get.bind fun p => (hanota _).bind fun _ => ?_
  exact (preserves_runCuerpo aguanta_sinTicks fuel).bind fun ret => (hanota _).bind fun _ => preserves_pure _

/-- What is sent and what decides whether to send, with a lease. -/
def Callada (l : List Datagrama) (p : Placa A (Firmware E)) : Prop :=
  (p.enviados, p.dhcp.dhcpState, p.dhcp.dhcpTick1s) = (l, .leased, 0)

/-- A client with a lease and no ticks sends nothing. -/
theorem triple_run_callada (fuel : Nat) (l : List Datagrama) :
    Triple (Callada (A := A) (E := E) l) (DHCP.run fuel) (fun _ p => p.enviados = l) fun p => p.enviados = l := by
  have hmensaje : AjenaMensaje (fun p : Placa A (Firmware E) => (p.enviados, p.dhcp.dhcpState, p.dhcp.dhcpTick1s)) :=
    { entorno := fun _ _ => rfl, mensaje := fun _ _ => rfl, servidor := fun _ _ _ => rfl
      opciones := fun _ _ _ _ _ => rfl }
  have henviados : ∀ p : Placa A (Firmware E), Callada l p → p.enviados = l := fun p hp => congrArg Prod.fst hp
  have hleased : Triple (Callada (A := A) (E := E) l) caseLeased (fun _ p => p.enviados = l)
      fun p => p.enviados = l := by
    refine triple_get_bind fun p hp => triple_ite (fun _ => ?_) fun _ => triple_pure fun q hq => henviados q (hq ▸ hp)
    rintro p rfl
    have htick : SinTicks p := congrArg (Prod.snd ∘ Prod.snd) hp
    -- no lease has a half shorter than the no seconds that have been counted
    have hno : ¬ p.dhcp.dhcpLeaseTime / 2 < 0 := fun h => Nat.not_lt_zero _ (UInt32.lt_iff_toNat_lt.mp h)
    rw [bind_ok (leeTick_sinTicks htick), if_neg hno]
    exact henviados p hp
  have hswitch : ∀ type, Triple (Callada (A := A) (E := E) l) (switch fuel type) (fun _ p => p.enviados = l)
      fun p => p.enviados = l := by
    intro type
    refine triple_get_bind fun p hp => ?_
    have hst : p.dhcp.dhcpState = .leased := congrArg (Prod.fst ∘ Prod.snd) hp
    rw [hst]
    exact hleased.weaken (fun _ h => h ▸ hp) (fun _ _ h => h) fun _ h => h
  have hcuerpo : Triple (Callada (A := A) (E := E) l) (runCuerpo fuel) (fun _ p => p.enviados = l)
      fun p => p.enviados = l := by
    refine triple_get_bind fun p hp => triple_ite (fun _ => ?_) fun _ => ?_
    · exact triple_pure fun q hq => henviados q (hq ▸ hp)
    have hrecibe : Triple (· = p) recibe (fun _ => Callada l) fun p => p.enviados = l :=
      ((intact_recibe hmensaje).triple (· = (l, .leased, 0))).weaken (fun _ h => h ▸ hp) (fun _ _ h => h) henviados
    exact hrecibe.bind fun type => hswitch type
  refine triple_get_bind fun p hp => Triple.bind (Q := fun _ => Callada l) ?_ fun _ => hcuerpo.bind fun ret =>
    Triple.bind (Q := fun _ p => p.enviados = l) (triple_modify fun _ h => h) fun _ => triple_pure fun _ h => h
  rintro _ rfl
  exact hp

end DHCP

theorem no_pideLease {A : Type} [Aplicacion A] {p : Placa A (Firmware E)} {l : List Datagrama} (hp : DHCP.Callada l p)
    (n : Nat) : ¬ PideLease n p := by
  rintro ⟨nuevos, hnuevos, d, hd, -⟩
  have hl : p.enviados = l := congrArg Prod.fst hp
  have hfin : (final (DHCP.run n p)).enviados = l := (DHCP.triple_run_callada n l).final (fun _ _ h => h) hp
  rw [hl, hfin] at hnuevos
  rw [List.self_eq_append_left.mp hnuevos] at hd
  cases hd

/-! ### Runs -/

namespace Port

theorem preserves_esperaLink (retries : Nat) : Preserves DHCP.SinTicks (esperaLink (E := Firmware E) retries) := by
  induction retries with
  | zero => exact preserves_pure _
  | succ retries ih =>
    refine (DHCP.preserves_red _).bind fun phyReg => (DHCP.preserves_red _).bind fun _ => ?_
    exact preserves_ite (preserves_pure _) ih

theorem preserves_esperaIP (fuel retries : Nat) :
    Preserves DHCP.SinTicks (esperaIP (E := Firmware E) fuel retries) := by
  induction retries with
  | zero => exact preserves_pure _
  | succ retries ih =>
    refine preserves_get.bind fun p => preserves_ite (preserves_pure _) ?_
    exact (DHCP.preserves_run fuel).bind fun _ => (DHCP.preserves_red _).bind fun _ => ih

theorem preserves_w5500Init (fuel : Nat) : Preserves DHCP.SinTicks (w5500Init (E := Firmware E) fuel) := by
  have hred : ∀ {α : Type} (f : Firmware E → α × Firmware E), Preserves DHCP.SinTicks (DHCP.red (A := PortVars) f) :=
    DHCP.preserves_red
  have hconfigura : Preserves DHCP.SinTicks (configuraRed (E := Firmware E) fuel) := by
    refine Preserves.bind (preserves_modify fun _ h => h) fun _ => ?_
    refine Preserves.bind (preserves_modify fun _ _ => rfl) fun _ => ?_
    refine Preserves.bind (DHCP.preserves_modificaDhcp fun _ => rfl) fun _ => ?_
    refine (preserves_esperaIP fuel _).bind fun _ => ?_
    exact Preserves.bind (preserves_modify fun _ h => h) fun _ => (hred _).bind fun _ => preserves_pure _
  have hret : Preserves DHCP.SinTicks (w5500InitRet (E := Firmware E) fuel) := by
    refine (hred _).bind fun _ => Preserves.bind (preserves_modify fun _ h => h) fun _ => (hred _).bind fun _ => ?_
    refine (hred _).bind fun ctl => preserves_ite (preserves_pure _) ((hred _).bind fun version => ?_)
    refine preserves_ite (preserves_pure _) ((preserves_esperaLink _).bind fun link => ?_)
    exact preserves_ite hconfigura (preserves_pure _)
  exact hret.bind fun ret => Preserves.bind (preserves_modify fun _ h => h) fun _ => preserves_pure _

end Port

/-- In every run the count of seconds stays where `DHCP_init` puts it. -/
theorem sinTicks_tops {fuel : Nat} {entorno : Firmware E} {s₀ : Sistema (Placa PortVars (Firmware E))}
    {tops : List (Locales × Sistema (Placa PortVars (Firmware E)))}
    (h₀ : threadYieldArranque fuel (.inicial (.inicial entorno)) = .ok () s₀) (hrun : Corrida s₀ tops) :
    ∀ t ∈ tops, DHCP.SinTicks t.2.mundo := by
  have hajena : AjenaWizchip fun p : Placa PortVars (Firmware E) => p.dhcp.dhcpTick1s :=
    Placa.ajenaWizchip fun _ _ => rfl
  have harranque : Triple (fun s : Sistema (Placa PortVars (Firmware E)) => DHCP.SinTicks s.mundo)
      (threadYieldArranque fuel) (fun _ s => DHCP.SinTicks s.mundo) fun s => DHCP.SinTicks s.mundo :=
    triple_threadYieldArranque hajena (I := (· = 0)) (F := (· = 0)) (Port.preserves_w5500Init fuel) fun _ h => h
  have hinicial : DHCP.SinTicks (A := PortVars) (.inicial entorno) := rfl
  refine hrun.forall (P := fun t => DHCP.SinTicks t.2.mundo) (harranque.ok hinicial h₀) ?_
  rintro ⟨l, s⟩ ⟨l', s'⟩ ⟨n, hs⟩ hp
  have hdhcp : Triple (DHCP.SinTicks (A := PortVars) (E := Firmware E)) (dhcpRun n)
      (fun ret p => if ret = DHCP_FAILED then p.dhcp.dhcpTick1s = 0 else p.dhcp.dhcpTick1s = 0)
      fun p => p.dhcp.dhcpTick1s = 0 :=
    (DHCP.preserves_run n).weaken (fun _ h => h) (fun ret p h => by rwa [ite_self]) fun _ h => h
  exact (triple_threadYieldVuelta hajena (I := (· = 0)) (H := (· = 0)) (J := (· = 0)) (F := (· = 0)) n l
    (fun _ h _ => h) (fun _ h => h) (fun _ h => h) (fun _ h _ => h) hdhcp (fun _ _ => rfl) fun _ h => h).ok hp hs

/-- In no run does a lease half of which is over make the next call of `DHCP_run` ask for it again. -/
theorem threadYield_sin_renovar {fuel : Nat} {entorno : Firmware E} {s₀ : Sistema (Placa PortVars (Firmware E))}
    {tops : List (Locales × Sistema (Placa PortVars (Firmware E)))}
    (h₀ : threadYieldArranque fuel (.inicial (.inicial entorno)) = .ok () s₀) (hrun : Corrida s₀ tops)
    {t : Locales × Sistema (Placa PortVars (Firmware E))} (ht : t ∈ tops) (hv : Vencida t.2.mundo) (n : Nat) :
    ¬ PideLease n (getPHYCFGR t.2.mundo).2 := by
  refine no_pideLease (l := t.2.mundo.enviados) ?_ n
  show (t.2.mundo.enviados, t.2.mundo.dhcp.dhcpState, t.2.mundo.dhcp.dhcpTick1s) = _
  rw [hv.1, sinTicks_tops h₀ hrun t ht]

/-! ### From a script -/

namespace Ensayo

/-- The first top of the loop, on the firmware. -/
def primerTop (e : Ensayo) : Option (Sistema (Placa PortVars (Firmware Ensayo))) :=
  match threadYieldArranque 4 (.inicial (.inicial (E := Firmware Ensayo) e)) with
  | .ok _ s₀ => some s₀
  | .error _ _ => none

theorem arranque_primerTop {e : Ensayo} {s₀ : Sistema (Placa PortVars (Firmware Ensayo))}
    (h : e.primerTop = some s₀) :
    threadYieldArranque 4 (.inicial (.inicial (E := Firmware Ensayo) e)) = .ok () s₀ := by
  unfold primerTop at h
  split at h
  · cases h
    assumption
  · cases h

end Ensayo

theorem threadYield_sin_renovar_pronto : ∃ s₀ : Sistema (Placa PortVars (Firmware Ensayo)),
    Corrida s₀ [({}, s₀)] ∧ Vencida s₀.mundo ∧ ¬ PideLease 4 (getPHYCFGR s₀.mundo).2 := by
  have hres : Ensayo.pronto.primerTop.map (fun s => decide (Vencida s.mundo)) = some true := by decide +kernel
  obtain ⟨s₀, h₀, hv⟩ := Option.map_eq_some_iff.mp hres
  have hv := of_decide_eq_true hv
  exact ⟨s₀, .start, hv, threadYield_sin_renovar (Ensayo.arranque_primerTop h₀) .start List.mem_cons_self hv 4⟩

theorem threadYield_lease_vencida : ¬ ∀ (fuel : Nat) (e : Ensayo) (s₀ : Sistema (Placa PortVars (Firmware Ensayo)))
    (tops : List (Locales × Sistema (Placa PortVars (Firmware Ensayo)))),
    threadYieldArranque fuel (.inicial (.inicial (E := Firmware Ensayo) e)) = .ok () s₀ → Corrida s₀ tops →
    ∀ t ∈ tops, Vencida t.2.mundo → (getPHYCFGR t.2.mundo).1 &&& 0x01 ≠ 0 →
      ∃ n, PideLease n (getPHYCFGR t.2.mundo).2 := by
  intro h
  have hres : Ensayo.pronto.primerTop.map (fun s => decide (Vencida s.mundo ∧ (getPHYCFGR s.mundo).1 &&& 0x01 ≠ 0 ∧
      s.mundo.dhcp.dhcpTick1s = 0)) = some true := by decide +kernel
  obtain ⟨s₀, h₀, heq⟩ := Option.map_eq_some_iff.mp hres
  obtain ⟨hv, hlink, htick⟩ := of_decide_eq_true heq
  obtain ⟨n, hn⟩ := h 4 _ s₀ _ (Ensayo.arranque_primerTop h₀) .start _ List.mem_cons_self hv hlink
  refine no_pideLease (l := s₀.mundo.enviados) ?_ n hn
  show (s₀.mundo.enviados, s₀.mundo.dhcp.dhcpState, s₀.mundo.dhcp.dhcpTick1s) = _
  rw [hv.1, htick]

end Wiznet
