import Wiznet.Socket.Correo

/-!
# A mailbox

What `recvfrom` makes of a socket in UDP mode, whatever comes in between: it opens the datagrams in the order in which
they have come, gives each with its own sender, a piece in each call when the buffer is smaller, and no piece of one
datagram with another.
-/

namespace Wiznet

namespace W5500

open Stateful Interference RingBuffer Zocalo

variable {sn : UInt8} {v : Vars} {r : Nat → UInt8} {cr : UInt8} {visto fin k len : UInt16}
  {abiertos env : List Datagrama}
  {resto buf : List UInt8} {A P : Zocalo → Prop} {z z' : Zocalo} {e : Evento} {d : Datagrama} {addr : IP}
  {port : UInt16}

/-! ### At rest -/

/-- A socket for datagrams with this command in `Sn_CR`; `visto` is the pointer of the last RECV taken. -/
structure Carta (cr : UInt8) (r : Nat → UInt8) (visto : UInt16) (abiertos : List Datagrama) (resto : List UInt8)
    (z : Zocalo) : Prop where
  correo : Correo r abiertos resto z
  cr : z.cr = cr
  visto : z.rxVisto = visto

theorem Pasa.mando (hp : Pasa z z') : z'.cr = z.cr ∧ z'.rxVisto = z.rxVisto ∧ z'.txFin = z.txFin := by
  cases hp <;> exact ⟨rfl, rfl, rfl⟩

theorem Correo.crece (h : Correo r abiertos resto z) (hp : Pasa z z') :
    gap z.rxVisto z.rxWr ≤ gap z'.rxVisto z'.rxWr := by
  cases hp with
  | @datagrama d hc =>
    have hle := h.rxLe
    simp only [cabe, decide_eq_true_eq] at hc
    show gap z.rxVisto z.rxWr ≤ gap z.rxVisto (z.rxWr + _)
    rw [gap_add_right (by omega)]
    omega
  | _ => exact Nat.le_refl _

namespace Carta

theorem sigue (h : Carta cr r visto abiertos resto z) (hp : Pasa z z') : Carta cr r visto abiertos resto z' :=
  ⟨h.correo.sigue hp, hp.mando.1.trans h.cr, hp.mando.2.1.trans h.visto⟩

theorem pasa (h : Carta 0 r visto abiertos resto z) (e : Evento) : Pasa z (z.paso e) := by
  by_cases he : ∃ tx rx, e = .atiende tx rx
  · obtain ⟨tx, rx, rfl⟩ := he
    rw [atiende_cero h.cr]
    exact .nada
  · exact h.correo.pasa fun tx rx heq => he ⟨tx, rx, heq⟩

theorem stable (hA : ∀ z z', Carta 0 r visto abiertos resto z → Pasa z z' → A z → A z') :
    Stable Zocalo.paso fun z => Carta 0 r visto abiertos resto z ∧ A z :=
  fun e z h => ⟨h.1.sigue (h.1.pasa e), hA z _ h.1 (h.1.pasa e) h.2⟩

/-- A command under way: as it is before the chip takes it, or as it is after. -/
theorem pende (hA : ∀ z z', Carta cr r visto abiertos resto z → Pasa z z' → A z → A z') (hP : Stable Zocalo.paso P)
    (hat : ∀ z tx rx, Carta cr r visto abiertos resto z → A z → P (z.paso (.atiende tx rx))) :
    Stable Zocalo.paso fun z => (Carta cr r visto abiertos resto z ∧ A z) ∨ P z := by
  rintro e z (⟨h, ha⟩ | hp)
  · by_cases he : ∃ tx rx, e = .atiende tx rx
    · obtain ⟨tx, rx, rfl⟩ := he
      exact .inr (hat z tx rx h ha)
    · have hm := h.correo.pasa fun tx rx heq => he ⟨tx, rx, heq⟩
      exact .inl ⟨h.sigue hm, hA z _ h hm ha⟩
  · exact .inr (hP e z hp)

end Carta

/-- The interrupts with which a SEND ends. -/
def finales : UInt8 := SN_IR_SENDOK ||| SN_IR_TIMEOUT

/-- Nothing is being sent, and these are the interrupts of the last SEND; `env` are the datagrams sent. -/
structure Ocioso (avisos : UInt8) (fin : UInt16) (env : List Datagrama) (z : Zocalo) : Prop where
  enviando : z.enviando = false
  txRd : z.txRd = fin
  txFin : z.txFin = fin
  avisos : z.ir &&& finales = avisos
  enviados : z.enviados = env

theorem Ocioso.sigue {avisos : UInt8} (h : Ocioso avisos fin env z) (hp : Pasa z z') : Ocioso avisos fin env z' := by
  obtain ⟨hen, hrd, hfin, hir, henv⟩ := h
  cases hp with
  | nada => exact ⟨hen, hrd, hfin, hir, henv⟩
  | datagrama hc => exact ⟨hen, hrd, hfin, (or_and_of_and_eq_zero (by decide)).trans hir, henv⟩
  | termina h' =>
    rw [hen] at h'
    cases h'
  | vence h' =>
    rw [hen] at h'
    cases h'

/-- A socket for datagrams between two calls. -/
abbrev Atento (r : Nat → UInt8) (abiertos : List Datagrama) (resto : List UInt8) (env : List Datagrama) (z : Zocalo) :=
  Carta 0 r (word r SN_RX_RD) abiertos resto z ∧ Ocioso 0 (word r SN_TX_WR) env z

theorem Atento.stable : Stable Zocalo.paso (Atento r abiertos resto env) := Carta.stable fun _ _ _ hp h => h.sigue hp

/-- `sock_remained_size` says how much remains of the datagram under way. -/
def Restan (sn : UInt8) (resto : List UInt8) (v : Vars) : Prop :=
  v.remained sn = resto.length.toUInt16 ∧ resto.length < 65536

/-- A mailbox between two calls: the datagrams opened, what remains of the last one, and the datagrams sent. -/
def EnBuzon (sn : UInt8) (env abiertos : List Datagrama) (resto : List UInt8) (s : Anfitrion) : Prop :=
  Restan sn resto s.vars ∧ ∃ r, Atento r abiertos resto env (s.zocalos sn.toNat)

theorem Restan.eq_nil (h : Restan sn resto v) : v.remained sn = 0 ↔ resto = [] := by
  obtain ⟨heq, hlt⟩ := h
  rw [heq, ← UInt16.toNat_inj, toNat_toUInt16 hlt]
  exact List.length_eq_zero_iff

/-! ### Reading -/

/-- A write of one of the pointers. -/
theorem va_puntero {off : Nat} {x : UInt16}
    (hA : ∀ r z z', Carta 0 r visto abiertos resto z → Pasa z z' → A z → A z')
    (hA' : ∀ z, ∀ off ∈ punteros, ∀ b, A z → A { z with regs := Function.update z.regs off b }) (hsn : sn < 8)
    (hoff : off ∈ punteros) (hoff' : off + 1 ∈ punteros) :
    Va sn v (fun z => Carta 0 r visto abiertos resto z ∧ A z) (poneReg16 off sn x) fun _ z =>
      Carta 0 (pon16 off x r) visto abiertos resto z ∧ A z := by
  have hlt : ∀ off ∈ punteros, off < 65536 ∧ SN_MR ≠ off ∧ SN_TXBUF_SIZE ≠ off ∧ SN_RXBUF_SIZE ≠ off := by decide
  have hpone : ∀ r, ∀ off ∈ punteros, ∀ b, Va sn v (fun z => Carta 0 r visto abiertos resto z ∧ A z)
      (WIZCHIP_WRITE (reg off sn) b) fun _ z => Carta 0 (Function.update r off b) visto abiertos resto z ∧ A z := by
    intro r off hoff b
    obtain ⟨hlt', hmr, htx, hrx⟩ := hlt off hoff
    refine va_escribe off hsn hlt' (Carta.stable (hA r)) ?_
    rintro z ⟨h, ha⟩
    rw [escribeReg_puntero hoff]
    exact ⟨⟨h.correo.escribe hmr htx hrx, h.cr, h.visto⟩, hA' z off hoff b ha⟩
  unfold poneReg16
  refine (hpone r off hoff _).bind fun _ => ?_
  rw [direccion_inc]
  exact hpone _ _ hoff' _

theorem wizRecvData_atento (hsn : sn < 8) (hk : k.toNat ≤ resto.length) :
    Va sn v (Atento r abiertos resto env) (wizRecvData sn k) fun bs z => bs = resto.take k.toNat ∧ ∃ r',
      (Carta 0 r' (word r SN_RX_RD) abiertos resto z ∧ Ocioso 0 (word r' SN_TX_WR) env z) ∧
      word r' SN_RX_RD = word r SN_RX_RD + k := by
  unfold wizRecvData
  split
  case isTrue h0 =>
    subst h0
    exact va_pure fun z hz => ⟨by simp, r, hz, by simp⟩
  case isFalse h0 =>
    refine (va_leeReg16 (x := word r SN_RX_RD) hsn (by decide) Atento.stable ?_).bind fun ptr =>
      triple_en_and fun hptr => ?_
    · rintro z ⟨h, -⟩
      rw [word, ← h.correo.regs]
      rfl
    · subst hptr
      refine (va_leeRx (Q := fun bs z => bs = resto.take k.toNat ∧ Atento r abiertos resto env z) hsn Atento.stable
        (fun z h => h.1.correo.rxDvd) ?_).bind fun bs => triple_en_and fun hbs => ?_
      · rintro z ⟨h, ho⟩
        refine ⟨?_, h, ho⟩
        rw [← h.visto]
        exact (h.correo.window_eq hk).1
      · refine (va_puntero (x := word r SN_RX_RD + k) (fun _ _ _ _ hp h => h.sigue hp)
          (fun _ _ _ _ h => ⟨h.enviando, h.txRd, h.txFin, h.avisos, h.enviados⟩) hsn (by decide) (by decide)).bind
          fun _ => va_pure fun z hz => ⟨hbs, pon16 SN_RX_RD (word r SN_RX_RD + k) r, ?_, word_pon16⟩
        rw [word_pon16_of_ne (by decide)]
        exact hz

/-- A RECV of what has been read. -/
theorem ordenaRecv_atento (hsn : sn < 8) (hk : k.toNat ≤ resto.length) (hrd : word r SN_RX_RD = visto + k) :
    Va sn v (fun z => Carta 0 r visto abiertos resto z ∧ Ocioso 0 (word r SN_TX_WR) env z)
      (ordena sn SN_CR_RECV) fun _ =>
      Atento r abiertos (resto.drop k.toNat) env := by
  have hstable : Stable Zocalo.paso fun z => Carta 0 r visto abiertos resto z ∧ Ocioso 0 (word r SN_TX_WR) env z :=
    Carta.stable fun _ _ _ hp h => h.sigue hp
  refine va_ordena (R := fun z => (Carta SN_CR_RECV r visto abiertos resto z ∧ Ocioso 0 (word r SN_TX_WR) env z) ∨
    Atento r abiertos (resto.drop k.toNat) env z) hsn hstable ?_ ?_ ?_
  · refine Carta.pende (fun _ _ _ hp h => h.sigue hp) Atento.stable fun z tx rx h ho => ?_
    have hreg : z.reg16 SN_RX_RD = word r SN_RX_RD := by rw [reg16, h.correo.regs, word]
    have hz : z.paso (.atiende tx rx) = { z with rxVisto := z.rxVisto + k.toNat.toUInt16, cr := 0 } := by
      have hvisto : z.rxVisto + k = word r SN_RX_RD := by rw [h.visto, hrd]
      simp [paso, manda, h.cr, hreg, hvisto, SN_CR_RECV, SN_CR_SEND, SN_CR_OPEN, SN_CR_LISTEN, SN_CR_CONNECT,
        SN_CR_DISCON, SN_CR_CLOSE]
    rw [hz]
    refine ⟨⟨h.correo.toma hk, rfl, ?_⟩, ho.enviando, ho.txRd, ho.txFin, ho.avisos, ho.enviados⟩
    show z.rxVisto + k.toNat.toUInt16 = word r SN_RX_RD
    rw [h.visto, hrd]
    simp
  · rintro z ⟨h, ho⟩
    exact .inl ⟨⟨⟨h.correo.regs, h.correo.udp, h.correo.tx, h.correo.rx, h.correo.sr, h.correo.cabeRx, h.correo.entra,
      h.correo.largos⟩, rfl, h.visto⟩, ho.enviando, ho.txRd, ho.txFin, ho.avisos, ho.enviados⟩
  · rintro z (⟨h, -⟩ | h) hcr
    · rw [h.cr] at hcr
      cases hcr
    · exact h

/-- After a piece has been read, before its RECV. -/
def Trozo (sn : UInt8) (env abiertos : List Datagrama) (resto : List UInt8) (len : UInt16) (buf : List UInt8)
    (s : Anfitrion) : Prop :=
  (Restan sn resto s.vars ∧ buf = resto.take len.toNat) ∧ ∃ r visto,
    (Carta 0 r visto abiertos resto (s.zocalos sn.toNat) ∧ Ocioso 0 (word r SN_TX_WR) env (s.zocalos sn.toNat)) ∧
    word r SN_RX_RD = visto + buf.length.toUInt16

theorem leeTrozo_trozo (hsn : sn < 8) :
    Triple (EnBuzon sn env abiertos resto) (leeTrozo sn len) (Trozo sn env abiertos resto len) fun _ => True := by
  rintro s ⟨hrest, r, hz⟩
  have hlt : (s.vars.remained sn).toNat = resto.length := by rw [hrest.1, toNat_toUInt16 hrest.2]
  have hmin : (if len < s.vars.remained sn then len else s.vars.remained sn).toNat = min len.toNat resto.length := by
    rw [← hlt]
    split
    case isTrue h => exact (Nat.min_eq_left (Nat.le_of_lt h)).symm
    case isFalse h => exact (Nat.min_eq_right (Nat.not_lt.mp h)).symm
  have hle := hmin.trans_le (Nat.min_le_right len.toNat resto.length)
  refine Triple.weaken (P := En sn s.vars (Atento r abiertos resto env)) (wizRecvData_atento hsn hle)
    (fun _ h => h) (fun bs t ht => ?_) (fun _ h => h) s ⟨rfl, hz⟩
  obtain ⟨hv, hbs, r', hz', hrd⟩ := ht
  have hbuf : bs = resto.take len.toNat := by
    rw [hbs, hmin, ← List.take_eq_take_min]
  refine ⟨⟨hv ▸ hrest, hbuf⟩, r', _, hz', ?_⟩
  rw [hrd]
  congr 1
  rw [← UInt16.toNat_inj, hmin, hbuf, List.length_take, toNat_toUInt16]
  have := len.toNat_lt
  omega

theorem acabaTrozo_trozo (hsn : sn < 8) :
    Triple (Trozo sn env abiertos resto len buf) (acabaTrozo sn buf.length.toUInt16)
      (fun _ => EnBuzon sn env abiertos (resto.drop len.toNat)) fun _ => True := by
  rintro s ⟨⟨hrest, hbuf⟩, r, visto, hz, hrd⟩
  have hlargo : buf.length.toUInt16.toNat = buf.length := toNat_toUInt16 (by
    have := hrest.2
    rw [hbuf, List.length_take]
    omega)
  have hdrop : resto.drop buf.length = resto.drop len.toNat := by
    rw [hbuf, List.length_take]
    rcases Nat.le_total len.toNat resto.length with h | h
    · rw [Nat.min_eq_left h]
    · rw [Nat.min_eq_right h, List.drop_length, List.drop_eq_nil_of_le h]
  have hle : buf.length ≤ resto.length := by
    rw [hbuf, List.length_take]
    omega
  refine (show Triple (En sn s.vars fun z => Carta 0 r visto abiertos resto z ∧ Ocioso 0 (word r SN_TX_WR) env z)
    (acabaTrozo sn buf.length.toUInt16) (fun _ => EnBuzon sn env abiertos (resto.drop len.toNat)) fun _ =>
      True from ?_) s
    ⟨rfl, hz⟩
  unfold acabaTrozo
  refine Triple.bind (ordenaRecv_atento hsn (hlargo.trans_le hle) hrd) fun _ => Triple.bind (triple_enVars _) fun _ =>
    (triple_enVars _).weaken (fun _ h => h) (fun _ t ht => ?_) fun _ h => h
  obtain ⟨hv, hz'⟩ := ht
  rw [hlargo, hdrop] at hz'
  have hqueda : (s.vars.remained sn - buf.length.toUInt16).toNat = (resto.drop len.toNat).length := by
    rw [← hdrop, hrest.1, UInt16.toNat_sub, hlargo, toNat_toUInt16 hrest.2, List.length_drop]
    have := hrest.2
    omega
  refine ⟨⟨?_, ?_⟩, r, hz'⟩
  · have hrem : t.vars.remained sn = s.vars.remained sn - buf.length.toUInt16 := by
      rw [hv]
      split <;> exact Function.update_self _ _ _
    rw [hrem, ← UInt16.toNat_inj, hqueda, toNat_toUInt16]
    have := hrest.2
    rw [List.length_drop]
    omega
  · have := hrest.2
    rw [List.length_drop]
    omega

/-! ### `recvfrom` -/

/-- What a call of `recvfrom` takes from a mailbox: no more than its code; the start of the next datagram, with its
sender; or more of the datagram under way. -/
inductive Saca (len : UInt16) (addr : IP) (port : UInt16) (abiertos : List Datagrama) (resto : List UInt8) :
    Recibido → List Datagrama → List UInt8 → Prop
  | nada {rc : Int} (hrc : rc ≤ 0) (h : len = 0 ∨ resto = []) :
    Saca len addr port abiertos resto ⟨rc, [], addr, port⟩ abiertos resto
  | abre (d : Datagrama) (h : resto = []) :
    Saca len addr port abiertos resto ⟨(d.bytes.take len.toNat).length, d.bytes.take len.toNat, d.addr, d.port⟩
      (abiertos ++ [d]) (d.bytes.drop len.toNat)
  | sigue (h : resto ≠ []) :
    Saca len addr port abiertos resto ⟨(resto.take len.toNat).length, resto.take len.toNat, addr, port⟩ abiertos
      (resto.drop len.toNat)

/-- What is in the header of a datagram. -/
theorem cabeza_marcoUdp : ipCabeza ((marcoUdp d).take 8) = d.addr ∧ deCabeza ((marcoUdp d).take 8) 4 = d.port ∧
    deCabeza ((marcoUdp d).take 8) 6 = d.bytes.length.toUInt16 ∧ (marcoUdp d).drop 8 = d.bytes := by
  simp [ipCabeza, deCabeza, marcoUdp, IP.bytes]

/-- The mode as `recvfrom` looks at it. -/
theorem mode_udp {mr : UInt8} (h : mr &&& 0x0F = SN_MR_UDP) : deDatagrama mr ∧ mr &&& 0x07 = SN_MR_UDP := by
  refine ⟨by simp [deDatagrama, h], ?_⟩
  rw [show (0x07 : UInt8) = 0x0F &&& 0x07 by decide, ← UInt8.and_assoc, h]
  decide

theorem leeCabeza_atento (hsn : sn < 8) (hk : k.toNat ≤ resto.length) :
    Va sn v (Atento r abiertos resto env) (leeCabeza sn k) fun head z =>
      head = resto.take k.toNat ∧ ∃ r', Atento r' abiertos (resto.drop k.toNat) env z := by
  unfold leeCabeza
  refine (wizRecvData_atento hsn hk).bind fun bs => triple_en_and fun hbs => triple_en_exists fun r' => ?_
  intro s hs
  refine ((ordenaRecv_atento hsn hk hs.2.2).bind fun _ => va_pure fun z hz => ⟨hbs, r', hz⟩) s
    (hs.weaken fun z hz => hz.1)

/-- The bytes found, in two halves or twice, are there. -/
theorem getSnRXRSR_atento (hsn : sn < 8) : Va sn v (Atento r abiertos resto env) (getSnRXRSR sn) fun x z =>
    Atento r abiertos resto env z ∧ x.toNat ≤ gap z.rxVisto z.rxWr := by
  refine triple_vars fun s _ => ?_
  refine (va_dosVeces (f := Zocalo.rxRsr) (fun m => ?_) s.rondas 0).weaken
    (fun s hs => hs.weaken fun z hz => ⟨hz, Nat.zero_le _⟩) (fun _ _ hs => hs) fun _ h => h
  refine va_leeReg16_le hsn (by decide) (fun z => ⟨rfl, rfl⟩) fun n => ?_
  rintro e z ⟨⟨⟨h, ho⟩, hm⟩, hn⟩
  have hp := h.pasa e
  have hle : z.rxRsr.toNat ≤ (z.paso e).rxRsr.toNat := h.correo.crece hp
  exact ⟨⟨⟨h.sigue hp, ho.sigue hp⟩, Nat.le_trans hm hle⟩, Nat.le_trans hn hle⟩

/-- What the wait of `recvfrom` has found. -/
def Aviso (o : Except Int UInt16) (z : Zocalo) : Prop :=
  match o with
  | .error rc => rc ≤ 0
  | .ok _ => 0 < gap z.rxVisto z.rxWr

theorem esperaDatagrama_atento (hsn : sn < 8) (n : Nat) :
    Va sn v (Atento r abiertos resto env) (esperaDatagrama sn n) fun o z => Atento r abiertos resto env z ∧
      Aviso o z := by
  induction n with
  | zero => exact fun _ _ => trivial
  | succ n ih =>
    unfold esperaDatagrama
    have hstable : ∀ k, Stable Zocalo.paso fun z => Atento r abiertos resto env z ∧ k ≤ gap z.rxVisto z.rxWr := by
      rintro k e z ⟨⟨h, ho⟩, hk⟩
      have hp := h.pasa e
      exact ⟨⟨h.sigue hp, ho.sigue hp⟩, Nat.le_trans hk (h.correo.crece hp)⟩
    refine (getSnRXRSR_atento hsn).bind fun packLen => (va_lee SN_SR (Q := fun _ z => Atento r abiertos resto env z ∧
      packLen.toNat ≤ gap z.rxVisto z.rxWr) hsn (by decide) (hstable _) fun _ h => h).bind fun sr =>
      triple_ite (fun _ => va_pure fun z hz => ⟨hz.1, (by decide : SOCKERR_SOCKCLOSED ≤ 0)⟩) fun _ => triple_vars
      fun s _ => triple_ite (fun _ => va_pure fun z hz => ⟨hz.1, (by decide : SOCK_BUSY ≤ 0)⟩) fun _ =>
        triple_ite (fun hne => va_pure fun z hz =>
      ⟨hz.1, ?_⟩) fun _ => ih.weaken (fun s hs => hs.weaken fun z hz => hz.1) (fun _ _ h => h) fun _ h => h
    have hpos : packLen.toNat ≠ 0 := fun h0 => hne (by rwa [← UInt16.toNat_inj])
    show 0 < gap z.rxVisto z.rxWr
    omega

/-- After the wait, a new datagram is opened, or the one under way goes on. -/
def Dispuesto (sn : UInt8) (env abiertos : List Datagrama) (resto : List UInt8) (s : Anfitrion) : Prop :=
  (resto ≠ [] ∧ EnBuzon sn env abiertos resto s) ∨
    (resto = [] ∧ s.vars.remained sn = 0 ∧ ∃ r d, d.bytes.length < 65536 ∧
      Atento r (abiertos ++ [d]) (marcoUdp d) env (s.zocalos sn.toNat))

/-- A call of `recvfrom` after its wait. -/
def Visto (sn : UInt8) (v : Vars) (r : Nat → UInt8) (env abiertos : List Datagrama) (resto : List UInt8)
    (o : Except Int UInt16) (s : Anfitrion) : Prop :=
  match o with
  | .error rc => rc ≤ 0 ∧ resto = [] ∧ En sn v (Atento r abiertos resto env) s
  | .ok _ => Dispuesto sn env abiertos resto s

/-- A piece of what there is, and what the caller's address and port are left with. -/
def Servido (sn : UInt8) (env abiertos : List Datagrama) (resto : List UInt8) (len : UInt16) (addr : IP) (port : UInt16)
    (o : Except Int (List UInt8 × UInt16 × IP × UInt16)) (s : Anfitrion) : Prop :=
  ∃ buf a p, o = .ok (buf, buf.length.toUInt16, a, p) ∧
    ((resto ≠ [] ∧ a = addr ∧ p = port ∧ Trozo sn env abiertos resto len buf s) ∨
      (resto = [] ∧ ∃ d : Datagrama, a = d.addr ∧ p = d.port ∧ Trozo sn env (abiertos ++ [d]) d.bytes len buf s))

theorem leeDatagrama_servido {mr : UInt8} {packLen : UInt16} (hsn : sn < 8) (hmr : mr &&& 0x0F = SN_MR_UDP) :
    Triple (Dispuesto sn env abiertos resto) (leeDatagrama sn mr len packLen addr port)
      (Servido sn env abiertos resto len addr port) fun _ => True := by
  unfold leeDatagrama
  refine triple_get_bind fun s hs => ?_
  simp only [if_pos (mode_udp hmr).2]
  rcases hs with ⟨hne, hbuzon⟩ | ⟨rfl, hcero, r, d, hlt, hz⟩
  · have hno : ¬ (s.vars.remained sn == 0) = true := by
      rw [beq_iff_eq]
      exact fun h0 => hne (hbuzon.1.eq_nil.mp h0)
    rw [if_neg hno]
    refine (Triple.bind (P := EnBuzon sn env abiertos resto) (leeTrozo_trozo hsn) fun buf => triple_pure fun t ht =>
      ?_).weaken (fun t ht => ht ▸ hbuzon) (fun _ _ h => h) fun _ h => h
    exact ⟨buf, addr, port, rfl, .inl ⟨hne, rfl, rfl, ht⟩⟩
  · obtain ⟨hip, hport, hlargo, hdrop⟩ := cabeza_marcoUdp (d := d)
    rw [if_pos (by rw [hcero]; rfl)]
    have hcabe : (8 : UInt16).toNat ≤ (marcoUdp d).length := by
      rw [length_marcoUdp]
      exact Nat.le_add_right _ _
    refine Triple.weaken (P := En sn s.vars (Atento r (abiertos ++ [d]) (marcoUdp d) env)) ?_
      (by rintro _ rfl; exact ⟨rfl, hz⟩) (fun _ _ h => h) fun _ h => h
    refine Triple.bind (leeCabeza_atento hsn hcabe) fun head => triple_en_and fun hhead => triple_en_exists fun r' => ?_
    rw [show (8 : UInt16).toNat = 8 from rfl] at hhead ⊢
    subst hhead
    rw [hip, hport, hlargo, hdrop]
    refine Triple.bind (triple_enVars _) fun _ => Triple.bind (triple_enVars _) fun _ => ?_
    refine (Triple.bind (P := EnBuzon sn env (abiertos ++ [d]) d.bytes) (leeTrozo_trozo hsn)
      fun buf => triple_pure fun t ht => ?_).weaken (fun t ht => ?_) (fun _ _ h => h) fun _ h => h
    · exact ⟨buf, d.addr, d.port, rfl, .inr ⟨rfl, d, rfl, rfl, ht⟩⟩
    · refine ⟨⟨?_, hlt⟩, r', ht.2⟩
      rw [ht.1]
      exact Function.update_self _ _ _

/-- What a call of `recvfrom` gives and leaves. -/
def Sacado (sn : UInt8) (env abiertos : List Datagrama) (resto : List UInt8) (len : UInt16) (addr : IP) (port : UInt16)
    (q : Recibido) (s : Anfitrion) : Prop :=
  ∃ abiertos' resto', Saca len addr port abiertos resto q abiertos' resto' ∧ EnBuzon sn env abiertos' resto' s

/-- The end of a call, after a piece. -/
theorem acabaTrozo_sacado {a : IP} {p : UInt16} (hsn : sn < 8) :
    Triple (fun s => (resto ≠ [] ∧ a = addr ∧ p = port ∧ Trozo sn env abiertos resto len buf s) ∨
        (resto = [] ∧ ∃ d : Datagrama, a = d.addr ∧ p = d.port ∧ Trozo sn env (abiertos ++ [d]) d.bytes len buf s))
      (do
        acabaTrozo sn buf.length.toUInt16
        return ⟨buf.length.toUInt16.toNat, buf, a, p⟩)
      (Sacado sn env abiertos resto len addr port) fun _ => True := by
  have hlargo : ∀ {xs : List UInt8}, xs.length < 65536 → (xs.take len.toNat).length.toUInt16.toNat =
      (xs.take len.toNat).length := by
    intro xs hlt
    refine toNat_toUInt16 ?_
    rw [List.length_take]
    omega
  rintro s (⟨hne, rfl, rfl, htrozo⟩ | ⟨rfl, d, rfl, rfl, htrozo⟩)
  · refine (Triple.bind (acabaTrozo_trozo hsn) fun _ => triple_pure fun t ht => ?_) s htrozo
    obtain ⟨⟨hrest, rfl⟩, -⟩ := htrozo
    rw [hlargo hrest.2]
    exact ⟨_, _, .sigue hne, ht⟩
  · refine (Triple.bind (acabaTrozo_trozo hsn) fun _ => triple_pure fun t ht => ?_) s htrozo
    obtain ⟨⟨hrest, rfl⟩, -⟩ := htrozo
    rw [hlargo hrest.2]
    exact ⟨_, _, .abre d rfl, ht⟩

/-- `recvfrom` on a mailbox. -/
theorem recvfrom_saca (hsn : sn < 8) : Triple (EnBuzon sn env abiertos resto) (recvfrom sn len addr port)
    (Sacado sn env abiertos resto len addr port) fun _ => True := by
  have hnum : ¬ sn ≥ WIZCHIP_SOCK_NUM := by simpa [WIZCHIP_SOCK_NUM] using hsn
  rintro s₀ ⟨hrest, r, hz₀⟩
  refine (show Triple (En sn s₀.vars (Atento r abiertos resto env)) (recvfrom sn len addr port)
    (Sacado sn env abiertos resto len addr port) fun _ => True from ?_) s₀ ⟨rfl, hz₀⟩
  generalize s₀.vars = v at hrest
  clear hz₀ s₀
  have hnada : ∀ {s : Anfitrion} {rc : Int}, rc ≤ 0 → (len = 0 ∨ resto = []) → En sn v (Atento r abiertos resto env) s →
      Sacado sn env abiertos resto len addr port ⟨rc, [], addr, port⟩ s := fun hrc h hs =>
    ⟨abiertos, resto, .nada hrc h, hs.1 ▸ hrest, r, hs.2⟩
  unfold recvfrom
  rw [if_neg hnum]
  refine Va.bind (Q := fun mr z => mr &&& 0x0F = SN_MR_UDP ∧ Atento r abiertos resto env z) ?_ fun mr =>
    triple_en_and fun hmr => ?_
  · refine va_lee SN_MR hsn (by decide) Atento.stable fun z hz => ⟨?_, hz⟩
    show z.regs SN_MR &&& 0x0F = SN_MR_UDP
    rw [hz.1.correo.regs]
    exact hz.1.correo.udp
  simp only [(mode_udp hmr).1, Bool.not_true, Bool.false_eq_true, if_false]
  refine triple_ite (fun h0 => triple_pure fun s hs => hnada (by decide) (.inl h0) hs) fun _ => ?_
  refine Triple.bind (Q := Visto sn v r env abiertos resto) ?_ fun o => ?_
  · refine triple_vars fun s hv => triple_ite (fun h0 => ?_) fun hne => ?_
    · rw [hv, hrest.eq_nil] at h0
      subst h0
      refine triple_vars fun s _ => (esperaDatagrama_atento hsn s.rondas).weaken (fun _ h => h) (fun o t ht => ?_)
        fun _ h => h
      obtain ⟨htv, hz, haviso⟩ := ht
      cases o with
      | error rc => exact ⟨haviso, rfl, htv, hz⟩
      | ok packLen =>
        obtain ⟨d, hlt, hd⟩ := hz.1.correo.abre haviso
        refine .inr ⟨rfl, ?_, r, d, hlt, ⟨hd, hz.1.cr, hz.1.visto⟩, hz.2⟩
        rw [htv]
        exact hrest.eq_nil.mpr rfl
    · refine triple_pure fun t ht => .inl ⟨fun h0 => hne ?_, ht.1 ▸ hrest, r, ht.2⟩
      rw [hv]
      exact hrest.eq_nil.mpr h0
  · cases o with
    | error rc => exact triple_pure fun s hs => hnada hs.1 (.inr hs.2.1) hs.2.2
    | ok packLen =>
      refine Triple.bind (leeDatagrama_servido hsn hmr) fun o => ?_
      rintro s ⟨buf, a, p, rfl, h⟩
      exact acabaTrozo_sacado hsn s h

end W5500

end Wiznet
