import Wiznet.Socket.Flujo
import Wiznet.Socket.Aparte

/-!
# Conversations

`recv` and `disconnect` on a connection, and any calls one after another: whatever the chip and the network do in
between, what the calls have accepted is what the peer has confirmed and what the chip still has to send, and what
they have returned is the start of what has come.
-/

namespace Wiznet

namespace W5500

open Stateful Interference RingBuffer Zocalo

variable {sn : UInt8} {v : Vars} {r : Nat → UInt8} {fin visto : UInt16} {sal nuevo leido tomado bs : List UInt8}
  {A : Zocalo → Prop} {z z' : Zocalo} {len : UInt16}

/-! ### Receiving -/

/-- A call of `recv` that has come to its code, or that has found bytes. -/
def Hallado (sn : UInt8) (v : Vars) (r : Nat → UInt8) (sal leido : List UInt8) (o : Except Int UInt16) (s : Anfitrion) :
    Prop :=
  match o with
  | .error n => n ≤ 0 ∧ EnCharla sn sal leido s
  | .ok k => k ≠ 0 ∧
    En sn v (fun z => (Pausa r sal leido z ∧ Anotado sn v z) ∧ k.toNat ≤ gap z.rxVisto z.rxWr) s

theorem va_getSnRxMAX (hA : ∀ z z', Reposo r fin visto sal nuevo leido tomado z → Mueve z z' → A z → A z')
    (hsn : sn < 8) :
    Va sn v (fun z => Reposo r fin visto sal nuevo leido tomado z ∧ A z) (getSnRxMAX sn) fun x z =>
      x = (r SN_RXBUF_SIZE).toUInt16 <<< 10 ∧ Reposo r fin visto sal nuevo leido tomado z ∧ A z := by
  unfold getSnRxMAX
  refine (va_mira _ hA hsn (by decide)).bind fun b => va_pure ?_
  rintro z ⟨h, rfl⟩
  refine ⟨?_, h⟩
  rw [← h.1.sesion.regs]
  rfl

theorem todoEnviado_charla (hA : ∀ z z', Pausa r sal leido z → Mueve z z' → A z → A z') (hsn : sn < 8) :
    Va sn v (fun z => Pausa r sal leido z ∧ A z) (todoEnviado sn) fun _ z => Pausa r sal leido z ∧ A z := by
  unfold todoEnviado
  refine (va_getSnTXFSR hA hsn).bind fun _ => ?_
  refine Va.bind (Q := fun _ z => Pausa r sal leido z ∧ A z) ?_ fun _ => va_pure fun _ h => h
  refine (va_getSnTxMAX hA hsn).weaken (fun _ hs => hs.weaken fun _ h => h.1) (fun _ _ hs => hs.weaken fun _ h => h.2)
    fun _ h => h

theorem esperaDatos_charla (hsn : sn < 8) (n : Nat) :
    Triple (En sn v fun z => Pausa r sal leido z ∧ Anotado sn v z) (esperaDatos sn n) (Hallado sn v r sal leido)
      fun _ => True := by
  induction n with
  | zero => exact fun _ _ => trivial
  | succ n ih =>
    have hmas : ∀ k z z', Pausa r sal leido z → Mueve z z' → Anotado sn v z ∧ k ≤ gap z.rxVisto z.rxWr →
        Anotado sn v z' ∧ k ≤ gap z'.rxVisto z'.rxWr := fun k z z' h hm hq =>
      ⟨hq.1.sigue hm, Nat.le_trans hq.2 (h.sesion.cuentas hm).2⟩
    have hcierra : ∀ P : Zocalo → Prop, (∀ z, P z → Pausa r sal leido z) → Triple (En sn v P)
        (do
          let _ ← close sn
          return .error SOCKERR_SOCKSTATUS : SocketM (Except Int UInt16)) (Hallado sn v r sal leido) fun _ => True := by
      intro P hP
      refine Triple.bind ((close_charla hsn).weaken (fun s hs => hs.weaken hP) (fun _ _ h => h) fun _ h => h) fun _ =>
        triple_pure fun s hs => ⟨by decide, ?_⟩
      exact En.charla rfl rfl (hs.weaken fun z hz => hz.anotado)
    unfold esperaDatos
    refine (va_getSnRXRSR (fun _ _ _ hm h => h.sigue hm) hsn).bind fun recvsize => ?_
    refine Triple.bind (Q := fun _ => En sn v fun z => Pausa r sal leido z ∧ Anotado sn v z ∧
      recvsize.toNat ≤ gap z.rxVisto z.rxWr) ?_ fun tmp => ?_
    · refine (va_mira SN_SR (hmas _) hsn (by decide)).weaken (fun s hs => hs.weaken fun z hz => ⟨hz.1.1, hz.1.2, hz.2⟩)
        (fun _ s hs => hs.weaken fun z hz => hz.1) fun _ h => h
    · have hhay : recvsize ≠ 0 → Triple (En sn v fun z => Pausa r sal leido z ∧ Anotado sn v z ∧
          recvsize.toNat ≤ gap z.rxVisto z.rxWr) (pure (.ok recvsize) : SocketM (Except Int UInt16))
          (Hallado sn v r sal leido) fun _ => True := fun h0 =>
        triple_pure fun s hs => ⟨h0, hs.weaken fun z hz => ⟨⟨hz.1, hz.2.1⟩, hz.2.2⟩⟩
      refine triple_ite (fun _ => hcierra _ fun z hz => hz.1) fun _ => triple_ite (fun hcw => hhay ?_) fun _ => ?_
      · simp only [Bool.and_eq_true, decide_eq_true_eq] at hcw
        exact hcw.2
      · have hresto : ∀ acabado : Bool, Triple (En sn v fun z => Pausa r sal leido z ∧ Anotado sn v z ∧
            recvsize.toNat ≤ gap z.rxVisto z.rxWr)
            (do
              if acabado then do
                let _ ← close sn
                return .error SOCKERR_SOCKSTATUS
              else if (← get).vars.nonblock sn then return .error SOCK_BUSY
              else if recvsize ≠ 0 then return .ok recvsize
              else esperaDatos sn n) (Hallado sn v r sal leido) fun _ => True := by
          intro acabado
          refine triple_ite (fun _ => hcierra _ fun z hz => hz.1) fun _ => triple_vars fun s _ => triple_ite
            (fun _ => ?_) fun _ => triple_ite hhay fun _ => ?_
          · refine triple_pure fun s hs => ⟨by decide, ?_⟩
            exact En.charla rfl rfl (hs.weaken fun z hz => ⟨hz.1, hz.2.1⟩)
          · exact ih.weaken (fun s hs => hs.weaken fun z hz => ⟨hz.1, hz.2.1⟩) (fun _ _ h => h) fun _ h => h
        refine triple_ite (fun _ => ?_) fun _ => ?_
        · exact (todoEnviado_charla (hmas _) hsn).bind hresto
        · exact (va_pure (Q := fun (_ : Bool) z => _) fun _ h => h).bind hresto

/-- The data read, before its RECV. -/
theorem wizRecvData_charla (hsn : sn < 8) (hlen : len ≠ 0) :
    Triple (En sn v fun z => (Pausa r sal leido z ∧ Anotado sn v z) ∧ len.toNat ≤ gap z.rxVisto z.rxWr)
      (wizRecvData sn len) (fun buf => En sn v fun z => buf.length = len.toNat ∧ ∃ r',
        (Reposo r' (word r' SN_TX_WR) (word r SN_RX_RD) sal [] leido buf z ∧ Anotado sn v z) ∧
        word r' SN_RX_RD = word r SN_RX_RD + len) fun _ => True := by
  have hstable : Stable Zocalo.paso fun z => (Pausa r sal leido z ∧ Anotado sn v z) ∧
      len.toNat ≤ gap z.rxVisto z.rxWr := by
    rintro e z ⟨⟨h, ha⟩, hle⟩
    have hm := Reposo.paso h e
    exact ⟨⟨h.sigue hm, ha.sigue hm⟩, Nat.le_trans hle (h.sesion.cuentas hm).2⟩
  unfold wizRecvData
  rw [if_neg hlen]
  refine (va_leeReg16 (x := word r SN_RX_RD) hsn (by decide) hstable ?_).bind fun ptr => triple_en_and fun hptr => ?_
  · rintro z ⟨⟨h, -⟩, -⟩
    rw [word, ← h.sesion.regs]
    rfl
  · subst hptr
    refine (va_leeRx (Q := fun buf z => buf.length = len.toNat ∧
      Reposo r (word r SN_TX_WR) (word r SN_RX_RD) sal [] leido buf z ∧ Anotado sn v z) hsn hstable
      (fun z h => h.1.1.sesion.rxDvd) ?_).bind fun buf => triple_en_and fun hbuf => ?_
    · rintro z ⟨⟨h, ha⟩, hle⟩
      rw [← h.visto]
      exact ⟨length_window, ⟨h.sesion.leeRx hle, h.cr, h.fin, rfl⟩, ha⟩
    · refine (va_poneReg16 (x := word r SN_RX_RD + len) (fun _ _ _ _ hm h => h.sigue hm) (fun _ _ h => h) hsn
        (by decide)
        (by decide)).bind fun _ => va_pure fun z hz => ⟨hbuf, pon16 SN_RX_RD (word r SN_RX_RD + len) r, ?_, word_pon16⟩
      rw [word_pon16_of_ne (by decide)]
      exact hz

theorem Mando.atiendeRecv (h : Mando SN_CR_RECV r fin visto sal [] leido bs z)
    (hrd : word r SN_RX_RD = visto + bs.length.toUInt16) (tx rx : UInt16) :
    Reposo r fin (word r SN_RX_RD) sal [] (leido ++ bs) [] (z.paso (.atiende tx rx)) ∧
      (Anotado sn v z → Anotado sn v (z.paso (.atiende tx rx))) := by
  have hreg : z.reg16 SN_RX_RD = word r SN_RX_RD := by rw [reg16, h.sesion.regs, word]
  have hz : z.paso (.atiende tx rx) = { z with rxVisto := z.reg16 SN_RX_RD, cr := 0 } := by
    simp [Zocalo.paso, manda, h.cr, SN_CR_RECV, SN_CR_SEND, SN_CR_OPEN, SN_CR_LISTEN, SN_CR_CONNECT, SN_CR_DISCON,
      SN_CR_CLOSE]
  have hsesion := h.sesion.atiendeRecv h.cr (by rw [hreg, hrd, h.visto]) tx rx
  rw [hz] at hsesion ⊢
  exact ⟨⟨hsesion, rfl, h.fin, hreg⟩, fun ha => ha⟩

/-- A RECV of what has been read. -/
theorem ordenaRecv_charla (hsn : sn < 8) (hrd : word r SN_RX_RD = visto + bs.length.toUInt16) :
    Va sn v (fun z => Reposo r fin visto sal [] leido bs z ∧ Anotado sn v z) (ordena sn SN_CR_RECV) fun _ z =>
      Reposo r fin (word r SN_RX_RD) sal [] (leido ++ bs) [] z ∧ Anotado sn v z := by
  refine va_ordena (R := fun z => (Mando SN_CR_RECV r fin visto sal [] leido bs z ∧ Anotado sn v z) ∨
    (Reposo r fin (word r SN_RX_RD) sal [] (leido ++ bs) [] z ∧ Anotado sn v z)) hsn ?_ ?_ ?_ ?_
  · exact Reposo.stable fun _ _ _ hm h => h.sigue hm
  · refine Mando.stable (fun _ _ _ hm h => h.sigue hm)
      (Reposo.stable fun _ _ _ hm h => h.sigue hm) fun z tx rx h ha => ?_
    obtain ⟨hreposo, hanotado⟩ := h.atiendeRecv hrd tx rx
    exact ⟨hreposo, hanotado ha⟩
  · rintro z ⟨h, ha⟩
    exact .inl ⟨⟨h.sesion.cambia SN_CR_RECV h.sesion.sr id, rfl, h.fin, h.visto⟩, ha⟩
  · rintro z (⟨h, -⟩ | h) hcr
    · rw [h.cr] at hcr
      cases hcr
    · exact h

/-- After a `recv` of up to `len` bytes: those returned have been taken, and no others. -/
def Tomado (sn : UInt8) (sal leido : List UInt8) (len : UInt16) (o : Except Int (List UInt8)) (s : Anfitrion) : Prop :=
  match o with
  | .error n => n ≤ 0 ∧ EnCharla sn sal leido s
  | .ok buf => buf ≠ [] ∧ buf.length ≤ len.toNat ∧ EnCharla sn sal (leido ++ buf) s

theorem recv_charla (hsn : sn < 8) :
    Triple (EnCharla sn sal leido) (recv sn len) (Tomado sn sal leido len) fun _ => True := by
  have hnum : ¬ sn ≥ WIZCHIP_SOCK_NUM := by simpa [WIZCHIP_SOCK_NUM] using hsn
  refine triple_of_exists fun r => ?_
  intro s₀ hs₀
  -- the variables at the start
  refine (show Triple (En sn s₀.vars fun z => Pausa r sal leido z ∧ Anotado sn s₀.vars z) (recv sn len)
    (Tomado sn sal leido len) fun _ => True from ?_) s₀ ⟨rfl, hs₀⟩
  have hconfig := hs₀.1.sesion.config
  generalize s₀.vars = v
  clear hs₀ s₀
  have hpara : ∀ n ≤ 0, Triple (En sn v fun z => Pausa r sal leido z ∧ Anotado sn v z)
      (pure (.error n) : SocketM (Except Int (List UInt8))) (Tomado sn sal leido len) fun _ => True := fun n hn =>
    triple_pure fun s hs => ⟨hn, En.charla rfl rfl hs⟩
  unfold recv
  simp only [if_neg hnum]
  refine Triple.bind (Q := fun _ => En sn v fun z => Pausa r sal leido z ∧ Anotado sn v z) ?_ fun mr =>
    triple_ite (fun _ => hpara _ (by decide)) fun _ => triple_ite (fun _ => hpara _ (by decide)) fun hlen => ?_
  · exact (va_mira SN_MR (fun _ _ _ hm h => h.sigue hm) hsn (by decide)).weaken (fun _ h => h)
      (fun _ _ hs => hs.weaken fun _ h => h.1) fun _ h => h
  · refine (va_getSnRxMAX (fun _ _ _ hm h => h.sigue hm) hsn).bind fun recvsize => triple_en_and fun hmax =>
      triple_vars fun s _ => Triple.bind (esperaDatos_charla hsn s.rondas) fun o => ?_
    cases o with
    | error n => exact triple_pure fun s hs => hs
    | ok k =>
      refine triple_of_and fun hk => ?_
      have hpos : recvsize ≠ 0 := by
        have := pos_of_tamanos hconfig.rx
        rw [← hmax] at this
        rintro rfl
        exact absurd this (by decide)
      obtain ⟨l, hl, hle, hlk, heq⟩ : ∃ l : UInt16, l ≠ 0 ∧ l.toNat ≤ len.toNat ∧ l.toNat ≤ k.toNat ∧
          (if k < (if recvsize < len then recvsize else len) then k else if recvsize < len then recvsize else len) =
            l := by
        simp only [UInt16.lt_iff_toNat_lt]
        refine ⟨_, ?_, ?_, ?_, rfl⟩
        · split
          all_goals split <;> assumption
        all_goals split <;> split <;> omega
      simp only [heq]
      refine Triple.bind ((wizRecvData_charla hsn hl).weaken (fun s hs => hs.weaken fun z hz =>
        ⟨hz.1, Nat.le_trans hlk hz.2⟩) (fun _ _ h => h) fun _ h => h) fun buf => triple_en_and fun hbuf =>
        triple_en_exists fun r' => ?_
      have hlargo : buf.length.toUInt16 = l := by
        rw [hbuf]
        simp
      intro s hs
      have hrd := hs.2.2
      refine (Triple.bind (ordenaRecv_charla hsn (by rw [hrd, hlargo])) fun _ => triple_pure fun s hs => ?_) s
        (hs.weaken fun z hz => hz.1)
      refine ⟨?_, by omega, En.charla rfl rfl hs⟩
      rintro rfl
      rw [← hlargo] at hl
      exact hl rfl

/-! ### The end of a connection -/

theorem Mando.atiendeDiscon (h : Mando SN_CR_DISCON r fin visto sal nuevo leido tomado z) (tx rx : UInt16) :
    Cerrada r fin visto sal nuevo leido tomado (z.paso (.atiende tx rx)) := by
  obtain ⟨sr, hsr, hpaso, -, hab, -⟩ := h.sesion.atiendeOtro (by simp [h.cr]) tx rx
  rw [hpaso]
  exact ⟨⟨h.sesion.cambia 0 hsr id, rfl, h.fin, h.visto⟩, hab (.inr h.cr)⟩

theorem esperaDesconexion_charla (hsn : sn < 8) (n : Nat) :
    Triple (En sn v (Cerrada r (word r SN_TX_WR) (word r SN_RX_RD) sal [] leido [])) (esperaDesconexion sn n)
      (fun _ => EnCharla sn sal leido) fun _ => True := by
  have hmira : ∀ off < 65536, Va sn v (Cerrada r (word r SN_TX_WR) (word r SN_RX_RD) sal [] leido [])
      (WIZCHIP_READ (reg off sn)) fun _ => Cerrada r (word r SN_TX_WR) (word r SN_RX_RD) sal [] leido [] :=
        fun off hoff =>
    va_lee off hsn hoff Cerrada.stable fun _ h => h
  induction n with
  | zero => exact fun _ _ => trivial
  | succ n ih =>
    unfold esperaDesconexion
    refine (hmira SN_SR (by decide)).bind fun sr => triple_ite (fun _ => ?_) fun _ => ?_
    · exact triple_pure fun s hs => En.charla rfl rfl (hs.weaken fun z hz => hz.anotado)
    · refine ((hmira SN_IR (by decide)).bind fun b =>
        va_pure (Q := fun _ => Cerrada r (word r SN_TX_WR) (word r SN_RX_RD) sal
        [] leido []) fun _ h => h).bind fun ir => triple_ite (fun _ => ?_) fun _ => ih
      refine Triple.bind ((close_charla hsn).weaken (fun s hs => hs.weaken fun z hz => hz.1) (fun _ _ h => h)
        fun _ h => h) fun _ => triple_pure fun s hs => ?_
      exact En.charla rfl rfl (hs.weaken fun z hz => hz.anotado)

theorem disconnect_charla (hsn : sn < 8) :
    Triple (EnCharla sn sal leido) (disconnect sn) (fun _ => EnCharla sn sal leido) fun _ => True := by
  have hnum : ¬ sn ≥ WIZCHIP_SOCK_NUM := by simpa [WIZCHIP_SOCK_NUM] using hsn
  refine triple_of_exists fun r => ?_
  intro s₀ hs₀
  refine (show Triple (En sn s₀.vars fun z => Pausa r sal leido z ∧ Anotado sn s₀.vars z) (disconnect sn)
    (fun _ => EnCharla sn sal leido) fun _ => True from ?_) s₀ ⟨rfl, hs₀⟩
  generalize s₀.vars = v
  clear hs₀ s₀
  have hmira : ∀ off < 65536, Va sn v (fun z => Pausa r sal leido z ∧ Anotado sn v z) (WIZCHIP_READ (reg off sn))
      fun _ z => Pausa r sal leido z ∧ Anotado sn v z := fun off hoff =>
    (va_mira off (fun _ _ _ hm h => h.sigue hm) hsn hoff).weaken (fun _ h => h) (fun _ _ hs => hs.weaken fun _ h => h.1)
      fun _ h => h
  have hpara : ∀ n : Int, Triple (En sn v fun z => Pausa r sal leido z ∧ Anotado sn v z) (pure n : SocketM Int)
      (fun _ => EnCharla sn sal leido) fun _ => True := fun n => triple_pure fun s hs => En.charla rfl rfl hs
  unfold disconnect
  rw [if_neg hnum]
  refine (hmira SN_MR (by decide)).bind fun mr => triple_ite (fun _ => hpara _) fun _ => (hmira SN_SR (by decide)).bind
    fun sr => triple_ite (fun _ => hpara _) fun _ => ?_
  refine (va_ordena (R := fun z => (Mando SN_CR_DISCON r (word r SN_TX_WR) (word r SN_RX_RD) sal [] leido [] z ∧ True) ∨
    Cerrada r (word r SN_TX_WR) (word r SN_RX_RD) sal [] leido [] z)
    (Q := Cerrada r (word r SN_TX_WR) (word r SN_RX_RD) sal [] leido []) hsn ?_ ?_ ?_ ?_).bind fun _ => ?_
  · exact Reposo.stable fun _ _ _ hm h => h.sigue hm
  · exact Mando.stable (fun _ _ _ _ h => h) Cerrada.stable fun z tx rx h _ => h.atiendeDiscon tx rx
  · exact fun z h => .inl ⟨⟨h.1.sesion.cambia SN_CR_DISCON h.1.sesion.sr id, rfl, h.1.fin, h.1.visto⟩, trivial⟩
  · rintro z (⟨h, -⟩ | h) hcr
    · rw [h.cr] at hcr
      cases hcr
    · exact h
  · refine Triple.bind (triple_enVars _) fun _ => triple_vars fun s _ => triple_ite (fun _ => ?_) fun _ =>
      triple_vars fun s _ => esperaDesconexion_charla hsn s.rondas
    exact triple_pure fun s hs => En.charla rfl rfl (hs.weaken fun z hz => hz.anotado)

/-! ### Any calls -/

/-- The calls a program makes on the connection of socket `sn`, and those that it makes on other sockets in between. -/
inductive Uso (sn : UInt8) where
  | send (buf : List UInt8)
  | recv (len : UInt16)
  | disconnect
  | close
  | otra (p : Peticion) (h : p.zocalo ≠ sn)

/-- What a call has accepted and what it has returned. -/
def llama (sn : UInt8) : Uso sn → SocketM (List UInt8 × List UInt8)
  | .send buf => do
    let n ← send sn buf
    return (buf.take n.toNat, [])
  | .recv len => do
    match ← recv sn len with
    | .ok buf => return ([], buf)
    | .error _ => return ([], [])
  | .disconnect => do
    let _ ← disconnect sn
    return ([], [])
  | .close => do
    let _ ← close sn
    return ([], [])
  | .otra p _ => do
    pide p
    return ([], [])

/-- Calls one after another: all that they have accepted and all that they have returned. -/
def conversa (sn : UInt8) : List (Uso sn) → SocketM (List UInt8 × List UInt8)
  | [] => return ([], [])
  | c :: cs => do
    let p ← llama sn c
    let q ← conversa sn cs
    return (p.1 ++ q.1, p.2 ++ q.2)

/-- A connection is not touched by the calls on other sockets. -/
theorem EnCharla.ajeno {s s' : Anfitrion} (h : EnCharla sn sal leido s) (ha : Ajeno sn s s') :
    EnCharla sn sal leido s' := by
  obtain ⟨r, hz⟩ := h
  have hstable : Stable Zocalo.paso fun z => Pausa r sal leido z ∧ Anotado sn s.vars z :=
    Reposo.stable fun _ _ _ hm h => h.sigue hm
  obtain ⟨hpausa, hanotado⟩ := ha.stable hstable hz
  exact ⟨r, hpausa, fun hno => hanotado (ha.vars.sending ▸ hno)⟩

theorem pide_charla {p : Peticion} (hsn : sn < 8) (hp : p.zocalo ≠ sn) :
    Triple (EnCharla sn sal leido) (pide p) (fun _ => EnCharla sn sal leido) fun _ => True := fun s hs =>
  ((pide_aparte hsn hp s).weaken (fun _ h => h) (fun _ _ ht => hs.ajeno ht) fun _ _ => trivial) s .refl

theorem llama_charla (hsn : sn < 8) (c : Uso sn) :
    Triple (EnCharla sn sal leido) (llama sn c) (fun p => EnCharla sn (sal ++ p.1) (leido ++ p.2)) fun _ => True := by
  cases c with
  | send buf =>
    refine Triple.bind (send_charla hsn) fun n => triple_pure fun s hs => ?_
    rw [List.append_nil]
    exact hs.2
  | recv len =>
    refine Triple.bind (recv_charla hsn) fun o => ?_
    cases o with
    | error n =>
      refine triple_pure fun s hs => ?_
      rw [List.append_nil, List.append_nil]
      exact hs.2
    | ok buf =>
      refine triple_pure fun s hs => ?_
      rw [List.append_nil]
      exact hs.2.2
  | disconnect =>
    refine Triple.bind (disconnect_charla hsn) fun _ => triple_pure fun s hs => ?_
    rw [List.append_nil, List.append_nil]
    exact hs
  | close =>
    refine triple_of_exists fun r => ?_
    intro s hs
    refine Triple.bind (close_charla (v := s.vars) hsn) (fun _ => triple_pure fun s hs => ?_) s ⟨rfl, hs.1⟩
    rw [List.append_nil, List.append_nil]
    exact En.charla rfl rfl (hs.weaken fun z hz => hz.anotado)
  | otra p hp =>
    refine Triple.bind (pide_charla hsn hp) fun _ => triple_pure fun s hs => ?_
    rw [List.append_nil, List.append_nil]
    exact hs

/-- Any calls, in any order. -/
theorem conversa_charla (hsn : sn < 8) (cs : List (Uso sn)) :
    Triple (EnCharla sn sal leido) (conversa sn cs) (fun p => EnCharla sn (sal ++ p.1) (leido ++ p.2)) fun _ =>
      True := by
  induction cs generalizing sal leido with
  | nil =>
    refine triple_pure fun s hs => ?_
    rw [List.append_nil, List.append_nil]
    exact hs
  | cons c cs ih =>
    unfold conversa
    refine Triple.bind (llama_charla hsn c) fun p => Triple.bind ih fun q => triple_pure fun s hs => ?_
    rw [← List.append_assoc, ← List.append_assoc]
    exact hs

end W5500

end Wiznet
