import Wiznet.Socket.Buzon

/-!
# Sending datagrams

What `sendto` makes of a socket in UDP mode, whatever comes in between: when it gives the length, that datagram has been
sent, once, to that address and port; when it gives a code, none has.
-/

namespace Wiznet

namespace W5500

open Stateful Interference RingBuffer Zocalo

variable {sn : UInt8} {v : Vars} {r : Nat → UInt8} {cr : UInt8} {visto fin len : UInt16} {abiertos env : List Datagrama}
  {resto buf bs : List UInt8} {A P : Zocalo → Prop} {z z' : Zocalo} {e : Evento} {d : Datagrama} {addr : IP}
  {port : UInt16}

/-! ### A SEND under way -/

/-- The datagram is written and told to the chip. -/
structure Escrito (fin : UInt16) (env : List Datagrama) (bs : List UInt8) (z : Zocalo) : Prop where
  ocioso : Ocioso 0 fin env z
  escrito : window z.txMax.toNat z.tx fin.toNat bs.length = bs
  cabe : bs.length ≤ z.txMax.toNat

theorem Escrito.sigue (h : Escrito fin env bs z) (hp : Pasa z z') : Escrito fin env bs z' := by
  have ho := h.ocioso.sigue hp
  cases hp <;> exact ⟨ho, h.escrito, h.cabe⟩

/-- The datagram is being sent. -/
structure Enviando (wr : UInt16) (env : List Datagrama) (d : Datagrama) (z : Zocalo) : Prop where
  enviando : z.enviando = true
  txFin : z.txFin = wr
  enCurso : z.enCurso = d
  avisos : z.ir &&& finales = 0
  enviados : z.enviados = env

/-- A SEND that has been taken: under way, or at one of its two ends. -/
def EnVuelo (wr : UInt16) (env : List Datagrama) (d : Datagrama) (z : Zocalo) : Prop :=
  Enviando wr env d z ∨ Ocioso SN_IR_SENDOK wr (env ++ [d]) z ∨ Ocioso SN_IR_TIMEOUT wr env z

theorem or_and (a b c : UInt8) : (a ||| b) &&& c = a &&& c ||| b &&& c := by
  rw [← UInt8.toBitVec_inj]
  simp only [UInt8.toBitVec_and, UInt8.toBitVec_or]
  ext i hi
  simp [Bool.and_or_distrib_right]

theorem EnVuelo.sigue {wr : UInt16} (h : EnVuelo wr env d z) (hp : Pasa z z') : EnVuelo wr env d z' := by
  rcases h with h | h | h
  · obtain ⟨hen, hfin, hcurso, hir, henv⟩ := h
    cases hp with
    | nada => exact .inl ⟨hen, hfin, hcurso, hir, henv⟩
    | datagrama hc => exact .inl ⟨hen, hfin, hcurso, (or_and_of_and_eq_zero (by decide)).trans hir, henv⟩
    | termina _ =>
      refine .inr (.inl ⟨rfl, hfin, hfin, ?_, ?_⟩)
      · show (z.ir ||| SN_IR_SENDOK) &&& finales = SN_IR_SENDOK
        rw [or_and, hir]
        decide
      · show z.enviados ++ [z.enCurso] = env ++ [d]
        rw [henv, hcurso]
    | vence _ =>
      refine .inr (.inr ⟨rfl, hfin, hfin, ?_, henv⟩)
      show (z.ir ||| SN_IR_TIMEOUT) &&& finales = SN_IR_TIMEOUT
      rw [or_and, hir]
      decide
  · exact .inr (.inl (h.sigue hp))
  · exact .inr (.inr (h.sigue hp))

/-- Where the socket sends to. -/
def Dirigido (addr : IP) (port : UInt16) (r : Nat → UInt8) : Prop :=
  (⟨r SN_DIPR, r (SN_DIPR + 1), r (SN_DIPR + 2), r (SN_DIPR + 3)⟩ : IP) = addr ∧ word r SN_DPORT = port

/-- The SEND is taken. -/
theorem Escrito.atiende {tx rx : UInt16} (h : Escrito fin env bs z) (hc : Carta SN_CR_SEND r visto abiertos resto z)
    (hdir : Dirigido addr port r) (hwr : word r SN_TX_WR = fin + bs.length.toUInt16) :
    Carta 0 r visto abiertos resto (z.paso (.atiende tx rx)) ∧
      EnVuelo (word r SN_TX_WR) env ⟨bs, addr, port⟩ (z.paso (.atiende tx rx)) := by
  obtain ⟨ho, hescrito, hcabe⟩ := h
  have hle := hc.correo.txLe
  have hreg : z.reg16 SN_TX_WR = word r SN_TX_WR := by rw [reg16, hc.correo.regs, word]
  have hz : z.paso (.atiende tx rx) = { z with txFin := word r SN_TX_WR, enviando := true, cr := 0 } := by
    simp [paso, manda, hc.cr, hreg, ho.enviando, SN_CR_SEND, SN_CR_OPEN, SN_CR_LISTEN, SN_CR_CONNECT, SN_CR_DISCON,
      SN_CR_CLOSE]
  rw [hz]
  refine ⟨⟨⟨hc.correo.regs, hc.correo.udp, hc.correo.tx, hc.correo.rx, hc.correo.sr, hc.correo.cabeRx, hc.correo.entra,
    hc.correo.largos⟩, rfl, hc.visto⟩, .inl ⟨rfl, rfl, ?_, ho.avisos, ho.enviados⟩⟩
  have hcola : window z.txMax.toNat z.tx z.txRd.toNat (gap z.txRd (word r SN_TX_WR)) = bs := by
    rw [ho.txRd, hwr, gap_add (by omega), hescrito]
  obtain ⟨haddr, hport⟩ := hdir
  show (⟨window z.txMax.toNat z.tx z.txRd.toNat (gap z.txRd (word r SN_TX_WR)),
    ⟨z.regs SN_DIPR, z.regs (SN_DIPR + 1), z.regs (SN_DIPR + 2), z.regs (SN_DIPR + 3)⟩, word z.regs SN_DPORT⟩ :
      Datagrama)
    = ⟨bs, addr, port⟩
  rw [hcola, hc.correo.regs, haddr, hport]

/-! ### Where it goes -/

/-- The registers after an address has been written. -/
def conDipr (addr : IP) (r : Nat → UInt8) : Nat → UInt8 :=
  Function.update (Function.update (Function.update (Function.update r SN_DIPR addr.a) (SN_DIPR + 1) addr.b)
    (SN_DIPR + 2) addr.c) (SN_DIPR + 3) addr.d

theorem Atento.escribe {off : Nat} {b : UInt8} (h : Atento r abiertos resto env z) (hoff : off ∈ senas) :
    Atento (Function.update r off b) abiertos resto env (z.escribeReg off b) := by
  have hne : ∀ off ∈ senas, SN_MR ≠ off ∧ SN_TXBUF_SIZE ≠ off ∧ SN_RXBUF_SIZE ≠ off := by decide
  obtain ⟨hmr, htx, hrx⟩ := hne off hoff
  obtain ⟨-, -, -, hwr, hrd⟩ := update_sena (g := r) (b := b) hoff
  obtain ⟨hc, ho⟩ := h
  rw [escribeReg_sena hoff]
  exact ⟨⟨hc.correo.escribe hmr htx hrx, hc.cr, hc.visto.trans hrd.symm⟩, ho.enviando, ho.txRd.trans hwr.symm,
    ho.txFin.trans hwr.symm, ho.avisos, ho.enviados⟩

theorem setSnDIPR_atento (hsn : sn < 8) : Va sn v (Atento r abiertos resto env) (setSnDIPR sn addr) fun _ =>
    Atento (conDipr addr r) abiertos resto env :=
  va_setSnDIPR hsn Atento.stable fun _ h =>
    (((h.escribe (by decide)).escribe (by decide)).escribe (by decide)).escribe (by decide)

theorem setSnDPORT_atento (hsn : sn < 8) : Va sn v (Atento r abiertos resto env) (setSnDPORT sn port) fun _ =>
    Atento (pon16 SN_DPORT port r) abiertos resto env := by
  unfold setSnDPORT poneReg16
  refine (va_escribe SN_DPORT hsn (by decide) Atento.stable fun z h => h.escribe (by decide)).bind fun _ => ?_
  rw [direccion_inc]
  exact va_escribe (SN_DPORT + 1) hsn (by decide) Atento.stable fun z h => h.escribe (by decide)

theorem dirigido_senas : Dirigido addr port (pon16 SN_DPORT port (conDipr addr r)) := by
  refine ⟨?_, word_pon16⟩
  simp [pon16, conDipr, SN_DIPR, SN_DPORT]

/-! ### `sendto` -/

theorem getSnTXFSR_atento (hsn : sn < 8) : Va sn v (Atento r abiertos resto env) (getSnTXFSR sn) fun _ =>
    Atento r abiertos resto env :=
  triple_vars fun s _ => va_dosVeces_deja (va_leeReg16_deja hsn (by decide) Atento.stable) s.rondas 0

theorem esperaHuecoTo_atento (hsn : sn < 8) (n : Nat) :
    Va sn v (Atento r abiertos resto env) (esperaHuecoTo sn len n) fun o z => (∀ n ∈ o, n ≤ 0) ∧
      Atento r abiertos resto env z := by
  induction n with
  | zero => exact fun _ _ => trivial
  | succ n ih =>
    unfold esperaHuecoTo
    refine (getSnTXFSR_atento hsn).bind fun freesize => (va_lee SN_SR (Q := fun _ => Atento r abiertos resto env) hsn
      (by decide) Atento.stable fun _ h => h).bind fun sr => triple_ite (fun _ => va_pure fun z hz => ⟨?_, hz⟩) fun _ =>
      triple_vars fun s _ => triple_ite (fun _ => va_pure fun z hz => ⟨?_, hz⟩) fun _ => triple_ite
      (fun _ => va_pure fun z hz => ⟨?_, hz⟩) fun _ => ih
    all_goals
      intro n hn
      cases hn
    · decide
    · decide

/-- The data written and told to the chip, before its SEND. -/
theorem wizSendData_escrito (hsn : sn < 8) (hlen : len ≠ 0) (hbuf : len.toNat ≤ buf.length)
    (hmax : len ≤ (r SN_TXBUF_SIZE).toUInt16 <<< 10) (hdir : Dirigido addr port r) :
    Va sn v (Atento r abiertos resto env) (wizSendData sn buf len) fun _ z => ∃ r' fin,
      (Carta 0 r' (word r' SN_RX_RD) abiertos resto z ∧ Escrito fin env (buf.take len.toNat) z) ∧
      Dirigido addr port r' ∧ word r' SN_TX_WR = fin + len := by
  unfold wizSendData
  rw [if_neg hlen]
  refine (va_leeReg16 (x := word r SN_TX_WR) hsn (by decide) Atento.stable ?_).bind fun ptr =>
    triple_en_and fun hptr => ?_
  · rintro z ⟨h, -⟩
    rw [word, ← h.correo.regs]
    rfl
  · subst hptr
    refine (va_escribeTx (buf.take len.toNat) (Q := fun z => Carta 0 r (word r SN_RX_RD) abiertos resto z ∧
      Escrito (word r SN_TX_WR) env (buf.take len.toNat) z) hsn Atento.stable (fun z h => h.1.correo.txDvd) ?_).bind
      fun _ => ?_
    · rintro z ⟨h, ho⟩
      have hcabe : (buf.take len.toNat).length ≤ z.txMax.toNat := by
        rw [List.length_take, Nat.min_eq_left hbuf, txMax, h.correo.regs]
        exact hmax
      exact ⟨⟨⟨h.correo.regs, h.correo.udp, h.correo.tx, h.correo.rx, h.correo.sr, h.correo.cabeRx, h.correo.entra,
        h.correo.largos⟩, h.cr, h.visto⟩, ⟨ho.enviando, ho.txRd, ho.txFin, ho.avisos, ho.enviados⟩,
          window_put hcabe, hcabe⟩
    · refine (va_puntero (x := word r SN_TX_WR + len) (fun _ _ _ _ hp h => h.sigue hp) (fun z off hoff b h => ?_) hsn
        (by decide) (by decide)).weaken (fun _ h => h) (fun _ s hs => hs.weaken fun z hz => ?_) fun _ h => h
      · obtain ⟨ho, hescrito, hcabe⟩ := h
        have hne : ∀ off ∈ punteros, SN_TXBUF_SIZE ≠ off := by decide
        have hmax : { z with regs := Function.update z.regs off b }.txMax = z.txMax := by
          simp only [txMax, Function.update_of_ne (hne off hoff)]
        refine ⟨⟨ho.enviando, ho.txRd, ho.txFin, ho.avisos, ho.enviados⟩, ?_, ?_⟩
        · rw [hmax]
          exact hescrito
        · rw [hmax]
          exact hcabe
      · refine ⟨pon16 SN_TX_WR (word r SN_TX_WR + len) r, word r SN_TX_WR, ?_, ?_, word_pon16⟩
        · rw [word_pon16_of_ne (by decide)]
          exact hz
        · obtain ⟨haddr, hport⟩ := hdir
          refine ⟨?_, ?_⟩
          · rw [← haddr]
            simp [pon16, SN_DIPR, SN_TX_WR]
          · rw [word_pon16_of_ne (by decide), hport]

theorem ordenaSend_enVuelo (hsn : sn < 8) (hdir : Dirigido addr port r)
    (hwr : word r SN_TX_WR = fin + bs.length.toUInt16) :
    Va sn v (fun z => Carta 0 r visto abiertos resto z ∧ Escrito fin env bs z) (ordena sn SN_CR_SEND) fun _ z =>
      Carta 0 r visto abiertos resto z ∧ EnVuelo (word r SN_TX_WR) env ⟨bs, addr, port⟩ z := by
  refine va_ordena (R := fun z => (Carta SN_CR_SEND r visto abiertos resto z ∧ Escrito fin env bs z) ∨
    (Carta 0 r visto abiertos resto z ∧ EnVuelo (word r SN_TX_WR) env ⟨bs, addr, port⟩ z)) hsn ?_ ?_ ?_ ?_
  · exact Carta.stable fun _ _ _ hp h => h.sigue hp
  · exact Carta.pende (fun _ _ _ hp h => h.sigue hp) (Carta.stable fun _ _ _ hp h => h.sigue hp)
      fun z tx rx h he => he.atiende h hdir hwr
  · rintro z ⟨h, ho, hescrito, hcabe⟩
    exact .inl ⟨⟨⟨h.correo.regs, h.correo.udp, h.correo.tx, h.correo.rx, h.correo.sr, h.correo.cabeRx, h.correo.entra,
      h.correo.largos⟩, rfl, h.visto⟩, ⟨ho.enviando, ho.txRd, ho.txFin, ho.avisos, ho.enviados⟩, hescrito, hcabe⟩
  · rintro z (⟨h, -⟩ | h) hcr
    · rw [h.cr] at hcr
      cases hcr
    · exact h

/-- After a `sendto` that gives `n`: it has sent a datagram of so many bytes, or none. -/
def Mandado (sn : UInt8) (env abiertos : List Datagrama) (resto buf : List UInt8) (addr : IP) (port : UInt16) (n : Int)
    (s : Anfitrion) : Prop :=
  (n ≤ 0 ∧ EnBuzon sn env abiertos resto s) ∨
    (0 < n ∧ n ≤ buf.length ∧ EnBuzon sn (env ++ [⟨buf.take n.toNat, addr, port⟩]) abiertos resto s)

theorem clear_avisos {a f b : UInt8} (h : a &&& f = b) : (a &&& ~~~b) &&& f = 0 := by
  rw [UInt8.and_assoc, UInt8.and_comm (~~~b) f, ← UInt8.and_assoc, h, UInt8.and_not_self]

/-- The interrupt with which the SEND has ended is cleared. -/
theorem setSnIR_atento (avisos : UInt8) (hsn : sn < 8) (ha : avisos &&& 0x1F = avisos) :
    Va sn v (fun z => Carta 0 r (word r SN_RX_RD) abiertos resto z ∧ Ocioso avisos (word r SN_TX_WR) env z)
      (setSnIR sn avisos) fun _ => Atento r abiertos resto env := by
  unfold setSnIR
  rw [ha]
  refine va_escribe SN_IR hsn (by decide) (Carta.stable fun _ _ _ hp h => h.sigue hp) ?_
  rintro z ⟨h, ho⟩
  exact ⟨⟨⟨h.correo.regs, h.correo.udp, h.correo.tx, h.correo.rx, h.correo.sr, h.correo.cabeRx, h.correo.entra,
    h.correo.largos⟩, h.cr, h.visto⟩, ho.enviando, ho.txRd, ho.txFin, clear_avisos ho.avisos, ho.enviados⟩

/-- What `Sn_IR` says of a SEND taken. -/
theorem EnVuelo.mira {wr : UInt16} (h : EnVuelo wr env d z) :
    ((z.ir &&& 0x1F) &&& SN_IR_SENDOK ≠ 0 → Ocioso SN_IR_SENDOK wr (env ++ [d]) z) ∧
      ((z.ir &&& 0x1F) &&& SN_IR_SENDOK = 0 → (z.ir &&& 0x1F) &&& SN_IR_TIMEOUT ≠ 0 →
        Ocioso SN_IR_TIMEOUT wr env z) := by
  have hok : (z.ir &&& 0x1F) &&& SN_IR_SENDOK = (z.ir &&& finales) &&& SN_IR_SENDOK := by
    rw [UInt8.and_assoc, UInt8.and_assoc]
    rfl
  have htime : (z.ir &&& 0x1F) &&& SN_IR_TIMEOUT = (z.ir &&& finales) &&& SN_IR_TIMEOUT := by
    rw [UInt8.and_assoc, UInt8.and_assoc]
    rfl
  rw [hok, htime]
  rcases h with h | h | h
  · rw [h.avisos]
    exact ⟨fun hne => absurd (by decide) hne, fun _ hne => absurd (by decide) hne⟩
  · rw [h.avisos]
    exact ⟨fun _ => h, fun heq => absurd heq (by decide)⟩
  · rw [h.avisos]
    exact ⟨fun hne => absurd (by decide) hne, fun _ _ => h⟩

theorem esperaEnviado_mandado (hsn : sn < 8) (hv : Restan sn resto v) (hlen : len ≠ 0) (hbuf : len.toNat ≤ buf.length)
    (n : Nat) :
    Triple (En sn v fun z => Carta 0 r (word r SN_RX_RD) abiertos resto z ∧
      EnVuelo (word r SN_TX_WR) env ⟨buf.take len.toNat, addr, port⟩ z) (esperaEnviado sn len n)
      (Mandado sn env abiertos resto buf addr port) fun _ => True := by
  have hpos : 0 < len.toNat := by
    rw [Nat.pos_iff_ne_zero, ne_eq, ← UInt16.toNat_zero, UInt16.toNat_inj]
    exact hlen
  induction n with
  | zero => exact fun _ _ => trivial
  | succ n ih =>
    unfold esperaEnviado getSnIR
    refine Triple.bind (Q := fun tmp => En sn v fun z => (Carta 0 r (word r SN_RX_RD) abiertos resto z ∧
      EnVuelo (word r SN_TX_WR) env ⟨buf.take len.toNat, addr, port⟩ z) ∧ tmp = z.ir &&& 0x1F) ?_ fun tmp =>
      triple_ite (fun hok => ?_) fun hno => triple_ite (fun htime => ?_) fun _ => ?_
    · refine (va_lee SN_IR (Q := fun b z => (Carta 0 r (word r SN_RX_RD) abiertos resto z ∧
        EnVuelo (word r SN_TX_WR) env ⟨buf.take len.toNat, addr, port⟩ z) ∧ b = z.ir) hsn (by decide)
        (Carta.stable fun _ _ _ hp h => h.sigue hp) fun z hz => ⟨hz, rfl⟩).bind fun b => va_pure ?_
      rintro z ⟨hz, rfl⟩
      exact ⟨hz, rfl⟩
    · refine Triple.bind ((setSnIR_atento SN_IR_SENDOK hsn (by decide)).weaken (fun s hs => hs.weaken ?_)
        (fun _ _ h => h) fun _ h => h) fun _ => triple_pure fun s hs => .inr ⟨?_, ?_, hs.1 ▸ hv, r, hs.2⟩
      · rintro z ⟨⟨hc, he⟩, rfl⟩
        exact ⟨hc, he.mira.1 hok⟩
      · exact Int.natCast_pos.mpr hpos
      · exact Int.ofNat_le.mpr hbuf
    · refine Triple.bind ((setSnIR_atento SN_IR_TIMEOUT hsn (by decide)).weaken (fun s hs => hs.weaken ?_)
        (fun _ _ h => h) fun _ h => h) fun _ => triple_pure fun s hs => .inl ⟨by decide, hs.1 ▸ hv, r, hs.2⟩
      rintro z ⟨⟨hc, he⟩, rfl⟩
      exact ⟨hc, he.mira.2 (not_not.mp hno) htime⟩
    · exact ih.weaken (fun s hs => hs.weaken fun z hz => hz.1) (fun _ _ h => h) fun _ h => h

/-- The part of `sendto` after its checks. -/
theorem mandaDatagrama_mandado (hsn : sn < 8) (hv : Restan sn resto v) (hlen : len ≠ 0) (hbuf : len.toNat ≤ buf.length)
    (hdir : Dirigido addr port r) :
    Triple (En sn v (Atento r abiertos resto env)) (mandaDatagrama sn buf len)
      (Mandado sn env abiertos resto buf addr port) fun _ => True := by
  unfold mandaDatagrama
  refine Va.bind (Q := fun freesize z => (freesize = (r SN_TXBUF_SIZE).toUInt16 <<< 10 ∧ freesize ≠ 0) ∧
    Atento r abiertos resto env z) ?_ fun freesize => triple_en_and fun hfree => triple_vars fun s _ => ?_
  · unfold getSnTxMAX
    refine (va_lee SN_TXBUF_SIZE (Q := fun b z => b = r SN_TXBUF_SIZE ∧ Atento r abiertos resto env z) hsn (by decide)
      Atento.stable fun z hz => ⟨?_, hz⟩).bind fun b => va_pure ?_
    · rw [← hz.1.correo.regs]
      rfl
    · rintro z ⟨rfl, hz⟩
      have hpos := pos_of_tamanos hz.1.correo.tx
      exact ⟨⟨rfl, fun h0 => by rw [h0] at hpos; exact absurd hpos (by decide)⟩, hz⟩
  · obtain ⟨l, hl, hlb, hmax, heq⟩ : ∃ l : UInt16, l ≠ 0 ∧ l.toNat ≤ buf.length ∧
        l ≤ (r SN_TXBUF_SIZE).toUInt16 <<< 10 ∧ (if len > freesize then freesize else len) = l := by
      refine ⟨_, ?_, ?_, ?_, rfl⟩
      · split
        · exact hfree.2
        · exact hlen
      · split
        · next hgt => exact Nat.le_trans (Nat.le_of_lt hgt) hbuf
        · exact hbuf
      · rw [← hfree.1]
        split
        · exact UInt16.le_refl _
        · next hle => exact UInt16.not_lt.mp hle
    simp only [heq]
    refine (esperaHuecoTo_atento hsn s.rondas).bind fun o => triple_en_and fun ho => ?_
    cases o with
    | some n => exact triple_pure fun s hs => .inl ⟨ho n rfl, hs.1 ▸ hv, r, hs.2⟩
    | none =>
      refine (wizSendData_escrito hsn hl hlb hmax hdir).bind fun _ => triple_en_exists fun r' => triple_en_exists
        fun fin => ?_
      intro s hs
      obtain ⟨hdir', hwr⟩ := hs.2.2
      have hlargo : (buf.take l.toNat).length.toUInt16 = l := by
        rw [List.length_take, Nat.min_eq_left hlb]
        simp
      refine ((ordenaSend_enVuelo hsn hdir' (by rw [hwr, hlargo])).bind fun _ => triple_vars fun t _ =>
        esperaEnviado_mandado hsn hv hl hlb t.rondas) s (hs.weaken fun z hz => hz.1)

theorem compruebaArgs_mandado (hsn : sn < 8) (hv : Restan sn resto v) :
    Triple (En sn v (Atento r abiertos resto env)) (compruebaArgs sn buf addr port)
      (Mandado sn env abiertos resto buf addr port) fun _ => True := by
  have hno : ∀ n ≤ 0, Triple (En sn v (Atento r abiertos resto env)) (pure n : SocketM Int)
      (Mandado sn env abiertos resto buf addr port) fun _ => True := fun n hn =>
    triple_pure fun s hs => .inl ⟨hn, hs.1 ▸ hv, r, hs.2⟩
  have hmira : ∀ off < 65536, Va sn v (Atento r abiertos resto env) (WIZCHIP_READ (reg off sn)) fun _ =>
      Atento r abiertos resto env := fun off hoff => va_lee off hsn hoff Atento.stable fun _ h => h
  have hfalta : ∀ b, Va sn v (Atento r abiertos resto env) (faltaArg sn b) fun _ => Atento r abiertos resto env := by
    intro b
    unfold faltaArg
    exact triple_ite (fun _ => (hmira SN_MR (by decide)).bind fun _ => va_pure fun _ h => h) fun _ =>
      va_pure fun _ h => h
  have hle : buf.length.toUInt16.toNat ≤ buf.length := by
    rw [Nat.toUInt16, UInt16.toNat_ofNat']
    exact Nat.mod_le _ _
  unfold compruebaArgs
  refine triple_ite (fun _ => hno _ (by decide)) fun hlen => (hfalta _).bind fun _ =>
    triple_ite (fun _ => hno _ (by decide)) fun _ => (hfalta _).bind fun _ => triple_ite (fun _ => hno _ (by decide))
    fun _ => (hmira SN_SR (by decide)).bind fun _ => triple_ite (fun _ => hno _ (by decide)) fun _ =>
    (setSnDIPR_atento hsn).bind fun _ => (setSnDPORT_atento hsn).bind fun _ => ?_
  exact mandaDatagrama_mandado hsn hv hlen hle dirigido_senas

/-- `sendto` on a mailbox. -/
theorem sendto_manda (hsn : sn < 8) : Triple (EnBuzon sn env abiertos resto) (sendto sn buf addr port)
    (Mandado sn env abiertos resto buf addr port) fun _ => True := by
  have hnum : ¬ sn ≥ WIZCHIP_SOCK_NUM := by simpa [WIZCHIP_SOCK_NUM] using hsn
  rintro s₀ ⟨hrest, r, hz₀⟩
  refine (show Triple (En sn s₀.vars (Atento r abiertos resto env)) (sendto sn buf addr port)
    (Mandado sn env abiertos resto buf addr port) fun _ => True from ?_) s₀ ⟨rfl, hz₀⟩
  generalize s₀.vars = v at hrest
  clear hz₀ s₀
  have hno : ∀ r, ∀ n ≤ 0, Triple (En sn v (Atento r abiertos resto env)) (pure n : SocketM Int)
      (Mandado sn env abiertos resto buf addr port) fun _ => True := fun r n hn =>
    triple_pure fun s hs => .inl ⟨hn, hs.1 ▸ hrest, r, hs.2⟩
  have hmr : Va sn v (Atento r abiertos resto env) (getSnMR sn) fun _ => Atento r abiertos resto env :=
    va_lee SN_MR hsn (by decide) Atento.stable fun _ h => h
  unfold sendto
  rw [if_neg hnum]
  refine hmr.bind fun mr => triple_ite (fun _ => hno r _ (by decide)) fun _ => hmr.bind fun mr =>
    triple_ite (fun _ => hno r _ (by decide)) fun _ => ?_
  refine triple_ite (fun _ => (setSnDIPR_atento hsn).bind fun _ => triple_ite (fun _ => hno _ _ (by decide)) fun _ =>
    triple_ite (fun _ => (setSnDPORT_atento hsn).bind fun _ => ?_) fun _ => ?_) fun _ => triple_ite
    (fun _ => hno r _ (by decide)) fun _ => triple_ite (fun _ => (setSnDPORT_atento hsn).bind fun _ => ?_) fun _ => ?_
  all_goals exact compruebaArgs_mandado hsn hrest

end W5500

end Wiznet
