import Wiznet.Socket.Charla

/-!
# Opening a connection

`socket` and `connect` from whatever a socket was before: `close` leaves nothing of it, an OPEN starts empty, and when
`connect` says that there is a connection, nothing has been sent on it and nothing taken from it.  With what the calls
make of a connection, the whole life of one.
-/

namespace Wiznet

namespace W5500

open Stateful Interference RingBuffer Zocalo

variable {sn : UInt8} {v : Vars} {r : Nat → UInt8} {cr m b : UInt8} {off : Nat} {srs : List UInt8} {P : Zocalo → Prop}
  {z : Zocalo} {e : Evento}

/-! ### Any socket -/

/-- The buffers of the socket have sizes the chip has. -/
def Medida (z : Zocalo) : Prop := z.regs SN_TXBUF_SIZE ∈ tamanos ∧ z.regs SN_RXBUF_SIZE ∈ tamanos

namespace Zocalo

theorem empieza_regs {tx rx : UInt16} (hoff : off ∉ punteros) : (z.empieza tx rx).regs off = z.regs off := by
  simp only [punteros, List.mem_cons, List.not_mem_nil, or_false, not_or] at hoff
  obtain ⟨h1, h2, h3, h4⟩ := hoff
  simp [empieza, pon16, h1, h2, h3, h4]

/-- The chip writes no register of the host but the pointers. -/
theorem paso_regs (hoff : off ∉ punteros) : (z.paso e).regs off = z.regs off := by
  cases e with
  | atiende tx rx =>
    show (z.manda tx rx).regs off = _
    unfold manda
    split
    · exact empieza_regs hoff
    · repeat' split
      all_goals rfl
  | conecta tx rx =>
    simp only [paso]
    split
    · exact empieza_regs hoff
    · rfl
  | _ =>
    simp only [paso]
    repeat' split
    all_goals rfl

/-- Only when it takes the command does the chip clear it. -/
theorem paso_cr (he : ∀ tx rx, e ≠ .atiende tx rx) : (z.paso e).cr = z.cr := by
  cases e with
  | atiende tx rx => exact absurd rfl (he tx rx)
  | _ =>
    simp only [paso]
    repeat' split
    all_goals rfl

/-- A closed socket stays as it is until a command is taken. -/
theorem paso_cerrado (he : ∀ tx rx, e ≠ .atiende tx rx) (hsr : z.sr = SOCK_CLOSED) : z.paso e = z := by
  have hdat : z.deDatagramas = false := by simp [deDatagramas, hsr, SOCK_CLOSED, SOCK_UDP, SOCK_IPRAW, SOCK_MACRAW]
  cases e with
  | atiende tx rx => exact absurd rfl (he tx rx)
  | conecta tx rx => simp [paso, hsr, SOCK_CLOSED, SOCK_SYNSENT, SOCK_LISTEN]
  | llega bs => simp [paso, recibeDatos, hsr, SOCK_CLOSED, SOCK_ESTABLISHED, SOCK_FIN_WAIT]
  | datagrama d => simp [paso, hdat]
  | confirma k =>
    simp [paso, enviaDatos, hsr, SOCK_CLOSED, SOCK_ESTABLISHED, SOCK_CLOSE_WAIT, SOCK_FIN_WAIT, SOCK_LAST_ACK]
  | termina => simp [paso, hdat, hsr]
  | fin => simp [paso, hsr, SOCK_CLOSED, SOCK_ESTABLISHED, SOCK_FIN_WAIT]
  | cierra => simp [paso, hsr]
  | vence => simp [paso, hdat, hsr]

theorem atiende_cero {tx rx : UInt16} (h : z.cr = 0) : z.paso (.atiende tx rx) = z := by
  have hm : z.manda tx rx = z := by
    simp [manda, h, SN_CR_RECV, SN_CR_SEND, SN_CR_OPEN, SN_CR_LISTEN, SN_CR_CONNECT, SN_CR_DISCON, SN_CR_CLOSE]
  show { z.manda tx rx with cr := 0 } = z
  rw [hm, ← h]

theorem atiende_close {tx rx : UInt16} (h : z.cr = SN_CR_CLOSE) :
    z.paso (.atiende tx rx) = { z with sr := SOCK_CLOSED, cr := 0 } := by
  simp [paso, manda, h, SN_CR_OPEN, SN_CR_LISTEN, SN_CR_CONNECT, SN_CR_DISCON, SN_CR_CLOSE]

theorem atiende_open {tx rx : UInt16} (h : z.cr = SN_CR_OPEN) :
    z.paso (.atiende tx rx) = { z.empieza tx rx with sr := z.srAbierto, cr := 0 } := by simp [paso, manda, h]

end Zocalo

theorem medida_stable : Stable Zocalo.paso Medida := by
  intro e z h
  unfold Medida
  rw [paso_regs (by decide), paso_regs (by decide)]
  exact h

/-! ### After a CLOSE -/

/-- A closed socket with nothing under way. -/
structure Apagado (m : UInt8) (z : Zocalo) : Prop where
  medida : Medida z
  mr : z.regs SN_MR = m
  cr : z.cr = 0
  sr : z.sr = SOCK_CLOSED
  ir : z.ir &&& 0x1F = 0

theorem Apagado.stable : Stable Zocalo.paso (Apagado m) := by
  intro e z h
  by_cases he : ∃ tx rx, e = .atiende tx rx
  · obtain ⟨tx, rx, rfl⟩ := he
    rwa [atiende_cero h.cr]
  · have hno : ∀ tx rx, e ≠ .atiende tx rx := fun tx rx heq => he ⟨tx, rx, heq⟩
    rwa [paso_cerrado hno h.sr]

theorem apagado_stable : Stable Zocalo.paso fun z => ∃ m, Apagado m z := by
  rintro e z ⟨m, h⟩
  exact ⟨m, h.stable e z⟩

/-- A socket that has taken its CLOSE. -/
def Cerrado (z : Zocalo) : Prop := Medida z ∧ z.cr = 0 ∧ z.sr = SOCK_CLOSED

theorem Cerrado.stable : Stable Zocalo.paso Cerrado := by
  rintro e z ⟨hm, hcr, hsr⟩
  by_cases he : ∃ tx rx, e = .atiende tx rx
  · obtain ⟨tx, rx, rfl⟩ := he
    rw [atiende_cero hcr]
    exact ⟨hm, hcr, hsr⟩
  · have hno : ∀ tx rx, e ≠ .atiende tx rx := fun tx rx heq => he ⟨tx, rx, heq⟩
    rw [paso_cerrado hno hsr]
    exact ⟨hm, hcr, hsr⟩

/-- The CLOSE is still to be taken, or it has been. -/
def Cerrando (z : Zocalo) : Prop := (Medida z ∧ z.cr = SN_CR_CLOSE) ∨ Cerrado z

theorem Cerrando.stable : Stable Zocalo.paso Cerrando := by
  rintro e z (⟨hm, h⟩ | h)
  · by_cases he : ∃ tx rx, e = .atiende tx rx
    · obtain ⟨tx, rx, rfl⟩ := he
      rw [atiende_close h]
      exact .inr ⟨hm, rfl, rfl⟩
    · exact .inl ⟨medida_stable e z hm, (paso_cr fun tx rx heq => he ⟨tx, rx, heq⟩).trans h⟩
  · exact .inr (Cerrado.stable e z h)

/-- `close`, from whatever the socket was. -/
theorem close_apaga (hsn : sn < 8) : Triple (En sn v Medida) (close sn)
    (fun _ => En sn (v.cerrado sn) fun z => ∃ m, Apagado m z) fun _ => True := by
  have hnum : ¬ sn ≥ WIZCHIP_SOCK_NUM := by simpa [WIZCHIP_SOCK_NUM] using hsn
  unfold close
  rw [if_neg hnum]
  refine (va_ordena (R := Cerrando) (Q := Cerrado) hsn medida_stable Cerrando.stable ?_ ?_).bind fun _ => ?_
  · exact fun z h => .inl ⟨h, rfl⟩
  · rintro z (⟨-, h⟩ | h) hcr
    · rw [h] at hcr
      cases hcr
    · exact h
  refine (va_escribe SN_IR (Q := fun z => ∃ m, Apagado m z) hsn (by decide) Cerrado.stable ?_).bind fun _ => ?_
  · rintro z ⟨hm, hcr, hsr⟩
    exact ⟨_, hm, rfl, hcr, hsr, and_not_and (by decide)⟩
  refine Triple.bind (triple_enVars _) fun _ => Triple.bind (triple_enVars _) fun _ =>
    Triple.bind (triple_enVars _) fun _ => Triple.bind (triple_enVars _) fun _ => triple_vars fun s _ => ?_
  refine Triple.bind (triple_mientras (I := En sn (v.cerrado sn) fun z => ∃ m, Apagado m z)
    (O := En sn (v.cerrado sn) fun z => ∃ m, Apagado m z) ?_ _) fun _ => triple_pure fun _ hs => hs
  refine (va_lee SN_SR (Q := fun _ z => ∃ m, Apagado m z) hsn (by decide) apagado_stable fun _ h => h).bind fun sr =>
    triple_pure fun s hs => ?_
  split <;> exact hs

/-! ### A socket that is not connected yet -/

/-- The states before a connection. -/
def antes : List UInt8 := [SOCK_INIT, SOCK_LISTEN, SOCK_SYNSENT, SOCK_CLOSED]

/-- A socket in TCP mode in one of these states, that has sent nothing and received nothing. -/
structure Nueva (cr : UInt8) (srs : List UInt8) (z : Zocalo) : Prop where
  config : Config z.regs
  cr : z.cr = cr
  sr : z.sr ∈ srs
  enviando : z.enviando = false
  ir : z.ir &&& SN_IR_SENDOK = 0
  txRd : z.txRd = z.reg16 SN_TX_WR
  txFin : z.txFin = z.reg16 SN_TX_WR
  rxVisto : z.rxVisto = z.reg16 SN_RX_RD
  rxWr : z.rxWr = z.reg16 SN_RX_RD
  historia : z.confirmado = [] ∧ z.recibido = [] ∧ z.adelantados = 0

/-- What an event does to it: nothing, or the end of its attempt, unless a connection comes. -/
theorem Nueva.paso (h : Nueva cr srs z) (hsrs : srs ⊆ antes) (he : ∀ tx rx, e ≠ .atiende tx rx)
    (hco : ∀ tx rx, e = .conecta tx rx → z.sr ≠ SOCK_SYNSENT ∧ z.sr ≠ SOCK_LISTEN) :
    ∃ b sr, b &&& SN_IR_SENDOK = 0 ∧ (sr = z.sr ∨ sr = SOCK_CLOSED) ∧
      z.paso e = { z with ir := z.ir ||| b, sr := sr } := by
  have key : ∀ sr ∈ antes, (sr == SOCK_UDP || sr == SOCK_IPRAW || sr == SOCK_MACRAW) = false ∧
      (sr == SOCK_ESTABLISHED || sr == SOCK_FIN_WAIT) = false ∧
      (sr == SOCK_ESTABLISHED || sr == SOCK_CLOSE_WAIT || sr == SOCK_FIN_WAIT || sr == SOCK_LAST_ACK) = false ∧
      sr ≠ SOCK_ESTABLISHED ∧ sr ≠ SOCK_FIN_WAIT := by decide +kernel
  obtain ⟨hdat, hrec, henv, hest, hfin⟩ := key z.sr (hsrs h.sr)
  have hnada : z.paso e = z → ∃ b sr, b &&& SN_IR_SENDOK = 0 ∧ (sr = z.sr ∨ sr = SOCK_CLOSED) ∧
      z.paso e = { z with ir := z.ir ||| b, sr := sr } := fun heq => ⟨0, z.sr, by decide, .inl rfl, by rw [heq]; simp⟩
  cases e with
  | atiende tx rx => exact absurd rfl (he tx rx)
  | conecta tx rx =>
    obtain ⟨h1, h2⟩ := hco tx rx rfl
    exact hnada (by simp [Zocalo.paso, h1, h2])
  | llega bs => exact hnada (by simp [Zocalo.paso, recibeDatos, hrec])
  | datagrama d => exact hnada (by simp [Zocalo.paso, deDatagramas, hdat])
  | confirma k => exact hnada (by simp [Zocalo.paso, enviaDatos, henv])
  | termina => exact hnada (by simp [Zocalo.paso, h.enviando])
  | fin => exact hnada (by simp [Zocalo.paso, hest, hfin])
  | cierra =>
    by_cases hsr : z.sr = SOCK_CLOSED
    · exact hnada (by simp [Zocalo.paso, hsr])
    · exact ⟨SN_IR_DISCON, SOCK_CLOSED, by decide, .inr rfl, by simp [Zocalo.paso, deDatagramas, hdat, hsr]⟩
  | vence =>
    by_cases hsr : z.sr = SOCK_CLOSED
    · exact hnada (by simp [Zocalo.paso, deDatagramas, hsr, SOCK_CLOSED, SOCK_UDP, SOCK_IPRAW, SOCK_MACRAW])
    · exact ⟨SN_IR_TIMEOUT, SOCK_CLOSED, by decide, .inr rfl, by simp [Zocalo.paso, deDatagramas, hdat, hsr]⟩

theorem Nueva.cambia {sr : UInt8} (h : Nueva cr srs z) (hb : b &&& SN_IR_SENDOK = 0) (hsr : sr ∈ srs) :
    Nueva cr srs { z with ir := z.ir ||| b, sr := sr } :=
  { h with
    sr := hsr
    ir := by
      show (z.ir ||| b) &&& SN_IR_SENDOK = 0
      rw [or_and_of_and_eq_zero hb, h.ir] }

theorem Nueva.sigue (h : Nueva cr srs z) (hsrs : srs ⊆ antes) (hcl : SOCK_CLOSED ∈ srs)
    (he : ∀ tx rx, e ≠ .atiende tx rx)
    (hco : ∀ tx rx, e = .conecta tx rx → z.sr ≠ SOCK_SYNSENT ∧ z.sr ≠ SOCK_LISTEN) : Nueva cr srs (z.paso e) := by
  obtain ⟨b, sr, hb, hsr, heq⟩ := h.paso hsrs he hco
  rw [heq]
  rcases hsr with rfl | rfl
  · exact h.cambia hb h.sr
  · exact h.cambia hb hcl

/-- The states in which no connection can come. -/
def sordos : List UInt8 := [SOCK_INIT, SOCK_CLOSED]

theorem Nueva.sorda (h : Nueva cr sordos z) (he : ∀ tx rx, e ≠ .atiende tx rx) : Nueva cr sordos (z.paso e) := by
  have key : ∀ sr ∈ sordos, sr ≠ SOCK_SYNSENT ∧ sr ≠ SOCK_LISTEN := by decide +kernel
  exact h.sigue (by decide) (by decide) he fun _ _ _ => key z.sr h.sr

theorem Nueva.stable : Stable Zocalo.paso (Nueva 0 sordos) := by
  intro e z h
  by_cases he : ∃ tx rx, e = .atiende tx rx
  · obtain ⟨tx, rx, rfl⟩ := he
    rwa [atiende_cero h.cr]
  · exact h.sorda fun tx rx heq => he ⟨tx, rx, heq⟩

/-- A connection on which nothing has been done. -/
def Conectada (z : Zocalo) : Prop := ∃ r, Pausa r [] [] z ∧ z.Quieto

theorem Conectada.stable : Stable Zocalo.paso Conectada :=
  fun e z ⟨r, h⟩ => ⟨r, Reposo.stable (A := Quieto) (fun _ _ _ hm hq => hm.quieto hq) e z h⟩

theorem config_empieza {tx rx : UInt16} (h : Config z.regs) : Config (z.empieza tx rx).regs := by
  constructor
  · rw [empieza_regs (by decide)]
    exact h.tcp
  · rw [empieza_regs (by decide)]
    exact h.tx
  · rw [empieza_regs (by decide)]
    exact h.rx

theorem reg16_empieza {tx rx : UInt16} :
    (z.empieza tx rx).reg16 SN_TX_WR = tx ∧ (z.empieza tx rx).reg16 SN_RX_RD = rx := by
  refine ⟨?_, word_pon16⟩
  show word (pon16 SN_RX_RD rx (pon16 SN_TX_WR tx z.regs)) SN_TX_WR = tx
  rw [word_pon16_of_ne (by decide), word_pon16]

/-- A connection comes. -/
theorem Nueva.conecta {tx rx : UInt16} (h : Nueva 0 srs z) :
    Conectada { z.empieza tx rx with sr := SOCK_ESTABLISHED, ir := z.ir ||| SN_IR_CON } := by
  obtain ⟨htx, hrx⟩ := reg16_empieza (z := z)
  have hir : (z.ir ||| SN_IR_CON) &&& SN_IR_SENDOK = 0 := by rw [or_and_of_and_eq_zero (by decide), h.ir]
  refine ⟨(z.empieza tx rx).regs, ⟨?_, h.cr, htx.symm, hrx.symm⟩, rfl, hir⟩
  refine ⟨rfl, config_empieza h.config, (by decide : SOCK_ESTABLISHED ∈ vivos), ?_, ?_, ?_, rfl, ?_, List.nil_prefix,
    fun _ => rfl, fun _ => rfl, rfl⟩
  · show gap tx tx + 0 ≤ _
    rw [gap_self]
    exact Nat.zero_le _
  · show gap rx rx ≤ _
    rw [gap_self]
    exact Nat.zero_le _
  · show [] ++ window _ _ _ (gap tx tx) = []
    rw [gap_self]
    rfl
  · show [] = [] ++ window _ _ _ (gap rx rx)
    rw [gap_self]
    rfl

/-! ### `socket` -/

/-- The registers of a socket that say where it sends and from where, and no more. -/
def senas : List Nat :=
  [SN_PORT, SN_PORT + 1, SN_DIPR, SN_DIPR + 1, SN_DIPR + 2, SN_DIPR + 3, SN_DPORT, SN_DPORT + 1]

theorem escribeReg_sena (hoff : off ∈ senas) :
    z.escribeReg off b = { z with regs := Function.update z.regs off b } := by
  have key : ∀ off ∈ senas, off ≠ SN_CR ∧ off ≠ SN_IR ∧ ¬ (off = SN_SR ∨ (SN_TX_FSR ≤ off ∧ off < SN_TX_WR) ∨
      off = SN_RX_RSR ∨ off = SN_RX_RSR + 1 ∨ off = SN_RX_WR ∨ off = SN_RX_WR + 1) := by decide
  obtain ⟨h1, h2, h3⟩ := key off hoff
  rw [escribeReg, if_neg h1, if_neg h2, if_neg h3]

theorem update_sena {g : Nat → UInt8} (hoff : off ∈ senas) :
    Function.update g off b SN_MR = g SN_MR ∧ Function.update g off b SN_TXBUF_SIZE = g SN_TXBUF_SIZE ∧
      Function.update g off b SN_RXBUF_SIZE = g SN_RXBUF_SIZE ∧
      word (Function.update g off b) SN_TX_WR = word g SN_TX_WR ∧
      word (Function.update g off b) SN_RX_RD = word g SN_RX_RD := by
  have key : ∀ off ∈ senas, SN_MR ≠ off ∧ SN_TXBUF_SIZE ≠ off ∧ SN_RXBUF_SIZE ≠ off ∧ SN_TX_WR ≠ off ∧
      SN_TX_WR + 1 ≠ off ∧ SN_RX_RD ≠ off ∧ SN_RX_RD + 1 ≠ off := by decide
  obtain ⟨h1, h2, h3, h4, h5, h6, h7⟩ := key off hoff
  simp only [word, Function.update_of_ne h1, Function.update_of_ne h2, Function.update_of_ne h3,
    Function.update_of_ne h4, Function.update_of_ne h5, Function.update_of_ne h6, Function.update_of_ne h7, and_self]

theorem Apagado.escribe (h : Apagado m z) (hoff : off ∈ senas) : Apagado m (z.escribeReg off b) := by
  obtain ⟨hmr, htx, hrx, -, -⟩ := update_sena (g := z.regs) (b := b) hoff
  rw [escribeReg_sena hoff]
  refine ⟨⟨?_, ?_⟩, hmr.trans h.mr, h.cr, h.sr, h.ir⟩
  · show Function.update z.regs off b SN_TXBUF_SIZE ∈ tamanos
    rw [htx]
    exact h.medida.1
  · show Function.update z.regs off b SN_RXBUF_SIZE ∈ tamanos
    rw [hrx]
    exact h.medida.2

/-- A closed socket with an OPEN in its register. -/
structure PorAbrir (m : UInt8) (z : Zocalo) : Prop where
  medida : Medida z
  mr : z.regs SN_MR = m
  cr : z.cr = SN_CR_OPEN
  sr : z.sr = SOCK_CLOSED
  ir : z.ir &&& 0x1F = 0

/-- The OPEN is still to be taken, or what comes of it. -/
theorem PorAbrir.stable (hP : Stable Zocalo.paso P)
    (hopen : ∀ z tx rx, PorAbrir m z → P (z.paso (.atiende tx rx))) :
    Stable Zocalo.paso fun z => PorAbrir m z ∨ P z := by
  rintro e z (h | h)
  · by_cases he : ∃ tx rx, e = .atiende tx rx
    · obtain ⟨tx, rx, rfl⟩ := he
      exact .inr (hopen z tx rx h)
    · rw [paso_cerrado (fun tx rx heq => he ⟨tx, rx, heq⟩) h.sr]
      exact .inl h
  · exact .inr (hP e z h)

/-- A socket that has just been opened: the variables have nothing of it. -/
def Recien (sn : UInt8) (P : Zocalo → Prop) (s : Anfitrion) : Prop :=
  s.vars.sending sn = false ∧ s.vars.remained sn = 0 ∧ P (s.zocalos sn.toNat)

theorem elijePort_deja (port : UInt16) : Triple (En sn v P) (elijePort port)
    (fun _ => En sn (if port = 0 then v.siguientePort else v) P) fun _ => True := by
  unfold elijePort
  split
  · exact triple_vars fun s _ => Triple.bind (triple_enVars _) fun _ => triple_pure fun _ hs => hs
  · exact triple_pure fun _ hs => hs

theorem protocoloMalo_deja (hP : Stable Zocalo.paso P) (protocol : UInt8) :
    Va sn v P (protocoloMalo protocol) fun o z => (∀ n ∈ o, n < 0) ∧ P z := by
  unfold protocoloMalo getSIPR WIZCHIP_READ_BUF
  refine triple_ite (fun _ => ?_) fun _ => va_pure fun z h => ⟨?_, h⟩
  · refine (va_acceso (Q := fun _ => P) hP fun _ hs => hs).bind fun taddr => va_pure fun z h => ⟨?_, h⟩
    split <;> simp [SOCKERR_SOCKINIT]
  · split <;> simp [SOCKERR_SOCKMODE]

theorem va_senas (hP : ∀ z off b, off ∈ senas → P z → P (z.escribeReg off b)) (hs : Stable Zocalo.paso P) (hsn : sn < 8)
    {x : UInt16} (hoff : off ∈ senas) (hoff' : off + 1 ∈ senas) : Va sn v P (poneReg16 off sn x) fun _ => P := by
  have hlt : ∀ off ∈ senas, off < 65536 := by decide
  unfold poneReg16
  refine (va_escribe off hsn (hlt _ hoff) hs fun z h => hP z _ _ hoff h).bind fun _ => ?_
  rw [direccion_inc]
  exact va_escribe _ hsn (hlt _ hoff') hs fun z h => hP z _ _ hoff' h

/-- `socket`, from whatever the socket was before to what an OPEN makes of it. -/
theorem socket_abre {protocol flag : UInt8} {port : UInt16} (hsn : sn < 8) (hP : Stable Zocalo.paso P)
    (hopen : ∀ z tx rx, PorAbrir (protocol ||| (flag &&& 0xF0)) z → P (z.paso (.atiende tx rx))) :
    Triple (En sn v Medida) (socket sn protocol port flag) (fun n s => n = sn.toNat → Recien sn P s) fun _ => True := by
  have hnum : ¬ sn ≥ WIZCHIP_SOCK_NUM := by simpa [WIZCHIP_SOCK_NUM] using hsn
  have hmalo : ∀ n : Int, n < 0 → ∀ s, n = sn.toNat → Recien sn P s := fun n hn s h => by omega
  unfold socket
  rw [if_neg hnum]
  refine (protocoloMalo_deja medida_stable protocol).bind fun o => triple_en_and fun ho => ?_
  cases o with
  | some n => exact triple_pure fun s _ => hmalo n (ho n rfl) s
  | none =>
    refine triple_ite (fun _ => triple_pure fun s _ => hmalo _ (by decide) s) fun _ => Triple.bind (close_apaga hsn)
      fun _ => ?_
    generalize v.cerrado sn = v
    generalize protocol ||| (flag &&& 0xF0) = m at hopen
    -- the registers
    refine (va_escribe SN_MR (Q := Apagado m) hsn (by decide) apagado_stable ?_).bind fun _ => ?_
    · rintro z ⟨_, h⟩
      exact ⟨⟨h.medida.1, h.medida.2⟩, rfl, h.cr, h.sr, h.ir⟩
    refine Triple.bind (elijePort_deja port) fun p => ?_
    generalize (if port = 0 then v.siguientePort else v) = v
    refine (va_senas (fun z _ _ hoff h => h.escribe hoff) Apagado.stable hsn (by decide) (by decide)).bind fun _ => ?_
    -- the command
    refine (va_ordena (R := fun z => PorAbrir m z ∨ P z) (Q := P) hsn Apagado.stable (PorAbrir.stable hP hopen) ?_
      ?_).bind fun _ => ?_
    · exact fun z h => .inl ⟨h.medida, h.mr, rfl, h.sr, h.ir⟩
    · rintro z (h | h) hcr
      · rw [h.cr] at hcr
        cases hcr
      · exact h
    -- the variables
    refine Triple.bind (triple_enVars _) fun _ => Triple.bind (triple_enVars _) fun _ =>
      Triple.bind (triple_enVars _) fun _ => Triple.bind (triple_enVars _) fun _ =>
        Triple.bind (triple_enVars _) fun _ =>
      triple_vars fun s _ => ?_
    have hlibre : (((((v.sinModo sn).conModo sn flag).libera sn).ponRemained sn 0).ponPackInfo sn
        PACK_COMPLETED).sending sn = false := sending_libera (v := (v.sinModo sn).conModo sn flag)
    have hcero : (((((v.sinModo sn).conModo sn flag).libera sn).ponRemained sn 0).ponPackInfo sn
        PACK_COMPLETED).remained sn = 0 := Function.update_self _ _ _
    revert hlibre hcero
    generalize ((((v.sinModo sn).conModo sn flag).libera sn).ponRemained sn 0).ponPackInfo sn PACK_COMPLETED = v
    intro hlibre hcero
    refine Triple.bind (triple_mientras (I := En sn v P) (O := En sn v P) ?_ _) fun _ => triple_pure fun s hs _ => ?_
    · refine (va_lee SN_SR (Q := fun _ => P) hsn (by decide) hP fun _ h => h).bind fun sr => triple_pure fun s hs => ?_
      split <;> exact hs
    · obtain ⟨rfl, hz⟩ := hs
      exact ⟨hlibre, hcero, hz⟩

/-- An OPEN in TCP mode. -/
theorem PorAbrir.nueva {tx rx : UInt16} (h : PorAbrir m z) (hm : m &&& 0x0F = SN_MR_TCP) :
    Nueva 0 sordos (z.paso (.atiende tx rx)) := by
  have hmr : z.mr &&& 0x0F = SN_MR_TCP := by rw [Zocalo.mr, h.mr, hm]
  have hconfig : Config z.regs := ⟨hmr, h.medida.1, h.medida.2⟩
  have hsr : z.srAbierto = SOCK_INIT := by rw [srAbierto, if_pos hmr]
  have hir : z.ir &&& SN_IR_SENDOK = 0 := by
    rw [show SN_IR_SENDOK = 0x1F &&& SN_IR_SENDOK by decide, ← UInt8.and_assoc, h.ir, UInt8.zero_and]
  obtain ⟨htx, hrx⟩ : (z.empieza tx rx).reg16 SN_TX_WR = tx ∧ (z.empieza tx rx).reg16 SN_RX_RD = rx := reg16_empieza
  rw [atiende_open h.cr, hsr]
  exact ⟨config_empieza hconfig, rfl, (by decide : SOCK_INIT ∈ sordos), rfl, hir, htx.symm, htx.symm, hrx.symm,
    hrx.symm, rfl, rfl, rfl⟩

/-- The mode that `socket` writes is that of the protocol. -/
theorem mode_protocol {protocol flag : UInt8} : (protocol ||| (flag &&& 0xF0)) &&& 0x0F = protocol &&& 0x0F := by
  rw [or_and_of_and_eq_zero]
  rw [UInt8.and_assoc, show (0xF0 : UInt8) &&& 0x0F = 0 by decide, UInt8.and_zero]

/-! ### `connect` -/

theorem Nueva.escribe (h : Nueva cr srs z) (hoff : off ∈ senas) : Nueva cr srs (z.escribeReg off b) := by
  obtain ⟨hmr, htx, hrx, hwr, hrd⟩ := update_sena (g := z.regs) (b := b) hoff
  have hconfig : Config (Function.update z.regs off b) :=
    ⟨by rw [hmr]; exact h.config.tcp, by rw [htx]; exact h.config.tx, by rw [hrx]; exact h.config.rx⟩
  rw [escribeReg_sena hoff]
  exact ⟨hconfig, h.cr, h.sr, h.enviando, h.ir, h.txRd.trans hwr.symm, h.txFin.trans hwr.symm,
    h.rxVisto.trans hrd.symm, h.rxWr.trans hrd.symm, h.historia⟩

/-- The states after a CONNECT, until there is a connection. -/
def llamando : List UInt8 := [SOCK_SYNSENT, SOCK_CLOSED]

/-- After a CONNECT: there is a connection or not. -/
def Contesta (z : Zocalo) : Prop := Nueva 0 llamando z ∨ Conectada z

theorem Contesta.stable : Stable Zocalo.paso Contesta := by
  rintro e z (h | h)
  · by_cases he : ∃ tx rx, e = .atiende tx rx
    · obtain ⟨tx, rx, rfl⟩ := he
      rw [atiende_cero h.cr]
      exact .inl h
    · by_cases hco : (∃ tx rx, e = .conecta tx rx) ∧ (z.sr = SOCK_SYNSENT ∨ z.sr = SOCK_LISTEN)
      · obtain ⟨⟨tx, rx, rfl⟩, hsr⟩ := hco
        simp only [Zocalo.paso, if_pos hsr]
        exact .inr h.conecta
      · refine .inl (h.sigue (by decide) (by decide) (fun tx rx heq => he ⟨tx, rx, heq⟩) fun tx rx heq => ?_)
        rw [← not_or]
        exact fun hsr => hco ⟨⟨tx, rx, heq⟩, hsr⟩
  · exact .inr (Conectada.stable e z h)

/-- The CONNECT is still to be taken, or it has been. -/
def Conectando (z : Zocalo) : Prop := Nueva SN_CR_CONNECT sordos z ∨ Contesta z

theorem Conectando.stable : Stable Zocalo.paso Conectando := by
  rintro e z (h | h)
  · by_cases he : ∃ tx rx, e = .atiende tx rx
    · obtain ⟨tx, rx, rfl⟩ := he
      have hz : z.paso (.atiende tx rx) =
          { z with sr := if z.sr = SOCK_INIT then SOCK_SYNSENT else z.sr, cr := 0 } := by
        simp [Zocalo.paso, manda, h.cr, SN_CR_OPEN, SN_CR_LISTEN, SN_CR_CONNECT]
      have hsr : (if z.sr = SOCK_INIT then SOCK_SYNSENT else z.sr) ∈ llamando := by
        have := h.sr
        revert this
        generalize z.sr = sr
        revert sr
        decide +kernel
      rw [hz]
      exact .inr (.inl { h with cr := rfl, sr := hsr })
    · exact .inl (h.sorda fun tx rx heq => he ⟨tx, rx, heq⟩)
  · exact .inr (Contesta.stable e z h)

/-- The four bytes of an address, one after the other. -/
def Zocalo.ponDipr (addr : IP) (z : Zocalo) : Zocalo :=
  (((z.escribeReg SN_DIPR addr.a).escribeReg (SN_DIPR + 1) addr.b).escribeReg (SN_DIPR + 2) addr.c).escribeReg
    (SN_DIPR + 3) addr.d

theorem va_setSnDIPR {addr : IP} {Q : Zocalo → Prop} (hsn : sn < 8) (hP : Stable Zocalo.paso P)
    (hQ : ∀ z, P z → Q (z.ponDipr addr)) : Va sn v P (setSnDIPR sn addr) fun _ => Q := by
  obtain ⟨hb, ho⟩ := direccion_sreg hsn (show SN_DIPR < 65536 by decide)
  unfold setSnDIPR WIZCHIP_WRITE_BUF
  refine va_acceso hP fun s h => ?_
  show En sn v Q (Anfitrion.escribeBytes _ _ _ s)
  rw [hb, ho, show Anfitrion.escribeBytes (1 + 4 * sn.toNat) SN_DIPR addr.bytes s =
    Anfitrion.escribeByte (1 + 4 * sn.toNat) (SN_DIPR + 3) addr.d
      (Anfitrion.escribeByte (1 + 4 * sn.toNat) (SN_DIPR + 2)
      addr.c (Anfitrion.escribeByte (1 + 4 * sn.toNat) (SN_DIPR + 1) addr.b (Anfitrion.escribeByte (1 + 4 * sn.toNat)
      SN_DIPR addr.a s))) from rfl]
  simp only [escribeByte_sreg, Function.update_self, Function.update_idem]
  refine ⟨h.1, ?_⟩
  show Q (Function.update s.zocalos sn.toNat _ sn.toNat)
  rw [Function.update_self]
  exact hQ _ h.2

theorem Nueva.ponDipr {addr : IP} (h : Nueva cr srs z) : Nueva cr srs (z.ponDipr addr) :=
  (((h.escribe (by decide)).escribe (by decide)).escribe (by decide)).escribe (by decide)

/-- What `connect` returns says whether there is a connection. -/
def Conecta (sn : UInt8) (n : Int) (s : Anfitrion) : Prop := n = SOCK_OK → EnCharla sn [] [] s

theorem esperaConexion_conecta (hsn : sn < 8) (n : Nat) :
    Triple (En sn v Contesta) (esperaConexion sn n) (Conecta sn) fun _ => True := by
  have hmira : ∀ off < 65536, Va sn v Contesta (WIZCHIP_READ (reg off sn)) fun _ => Contesta :=
    fun off hoff => va_lee off hsn hoff Contesta.stable fun _ h => h
  induction n with
  | zero => exact fun _ _ => trivial
  | succ n ih =>
    unfold esperaConexion
    refine (va_lee SN_SR (Q := fun sr z => Contesta z ∧ sr = z.sr) hsn (by decide) Contesta.stable
      fun _ h => ⟨h, rfl⟩).bind fun sr => triple_ite (fun hsr => ?_) fun _ => ?_
    · subst hsr
      refine triple_pure fun s hs _ => ?_
      obtain ⟨hv, h | ⟨r, h, hq⟩, hsr⟩ := hs
      · have := h.sr
        rw [← hsr] at this
        exact absurd this (by decide)
      · exact ⟨r, h, fun _ => .inl hq⟩
    · refine Triple.weaken (P := En sn v Contesta) ?_ (fun s hs => hs.weaken fun z hz => hz.1)
        (fun _ _ h => h) fun _ h => h
      refine ((hmira SN_IR (by decide)).bind fun b => va_pure (Q := fun _ => Contesta) fun _ h => h).bind fun ir =>
        triple_ite (fun _ => ?_) fun _ => (hmira SN_SR (by decide)).bind fun sr => triple_ite (fun _ => ?_) fun _ => ih
      · refine (Va.bind (Q := fun _ _ => True) ?_ fun _ => triple_pure fun s _ h => absurd h (by decide))
        exact va_escribe SN_IR hsn (by decide) Contesta.stable fun _ _ => trivial
      · exact triple_pure fun s _ h => absurd h (by decide)

theorem connect_conecta {addr : IP} {port : UInt16} (hsn : sn < 8) :
    Triple (Recien sn (Nueva 0 sordos)) (connect sn addr port) (Conecta sn) fun _ => True := by
  have hnum : ¬ sn ≥ WIZCHIP_SOCK_NUM := by simpa [WIZCHIP_SOCK_NUM] using hsn
  intro s₀ hs₀
  refine (show Triple (En sn s₀.vars (Nueva 0 sordos)) (connect sn addr port) (Conecta sn) fun _ => True from ?_) s₀
    ⟨rfl, hs₀.2.2⟩
  generalize s₀.vars = v
  have hno : ∀ n : Int, n ≠ SOCK_OK → Triple (En sn v (Nueva 0 sordos)) (pure n : SocketM Int)
      (Conecta sn) fun _ => True :=
    fun n hn => triple_pure fun s _ h => absurd h hn
  have hmira : ∀ off < 65536, Va sn v (Nueva 0 sordos) (WIZCHIP_READ (reg off sn)) fun _ => Nueva 0 sordos :=
    fun off hoff => va_lee off hsn hoff Nueva.stable fun _ h => h
  unfold connect
  rw [if_neg hnum]
  refine (hmira SN_MR (by decide)).bind fun mr => triple_ite (fun _ => hno _ (by decide)) fun _ =>
    (hmira SN_SR (by decide)).bind fun sr => triple_ite (fun _ => hno _ (by decide)) fun _ =>
    triple_ite (fun _ => hno _ (by decide)) fun _ => triple_ite (fun _ => hno _ (by decide)) fun _ =>
    (va_senas (fun z _ _ hoff h => h.escribe hoff) Nueva.stable hsn (by decide) (by decide)).bind fun _ =>
    (hmira SN_MR (by decide)).bind fun mr => triple_ite (fun _ => hno _ (by decide)) fun _ =>
    (va_setSnDIPR hsn Nueva.stable fun z h => h.ponDipr).bind fun _ => ?_
  refine (va_ordena (R := Conectando) (Q := Contesta) hsn Nueva.stable Conectando.stable
    ?_ ?_).bind fun _ => triple_vars fun s _ => triple_ite (fun _ => ?_) fun _ => triple_vars fun s _ =>
    esperaConexion_conecta hsn s.rondas
  · exact fun z h => .inl { h with cr := rfl }
  · rintro z (h | h) hcr
    · rw [h.cr] at hcr
      cases hcr
    · exact h
  · exact triple_pure fun s _ h => absurd h (by decide)

/-! ### The life of a connection -/

/-- A connection from its socket on: opened, made, and used by these calls. -/
def sesion (sn : UInt8) (port : UInt16) (flag : UInt8) (addr : IP) (dport : UInt16) (cs : List (Uso sn)) :
    SocketM (Option (List UInt8 × List UInt8)) := do
  if (← socket sn SN_MR_TCP port flag) ≠ sn.toNat then return none
  else if (← connect sn addr dport) ≠ SOCK_OK then return none
  else return some (← conversa sn cs)

theorem sesion_charla {port dport : UInt16} {flag : UInt8} {addr : IP} {cs : List (Uso sn)} {s s' : Anfitrion}
    {p : List UInt8 × List UInt8} (hsn : sn < 8) (hm : Medida (s.zocalos sn.toNat))
    (h : sesion sn port flag addr dport cs s = .ok (some p) s') : EnCharla sn p.1 p.2 s' := by
  have htriple : Triple (En sn s.vars Medida) (sesion sn port flag addr dport cs)
      (fun o t => ∀ p ∈ o, EnCharla sn p.1 p.2 t) fun _ => True := by
    unfold sesion
    refine Triple.bind (socket_abre hsn Nueva.stable fun z tx rx h => h.nueva (by rw [mode_protocol]; decide)) fun n =>
      triple_ite (fun _ => ?_) fun hn => ?_
    · exact triple_pure fun _ _ p hp => by cases hp
    · refine Triple.bind ((connect_conecta hsn).weaken (fun t ht => ht (not_not.mp hn)) (fun _ _ h => h) fun _ h => h)
        fun n => triple_ite (fun _ => ?_) fun hn => ?_
      · exact triple_pure fun _ _ p hp => by cases hp
      · refine Triple.bind ((conversa_charla hsn cs).weaken (fun t ht => ht (not_not.mp hn))
          (fun _ _ h => h) fun _ h => h) fun q => triple_pure fun t ht p hp => ?_
        cases hp
        exact ht
  exact htriple.ok ⟨rfl, hm⟩ h p rfl

/-- Whatever the socket was before, whatever calls are made on other sockets and whatever comes between the accesses,
all that the calls have accepted is what the peer has confirmed and what the chip still has to send, in this order,
all that has come is what they have returned and what the chip still keeps, and no SEND has been given before the last
one was complete. -/
theorem sesion_fiel {port dport : UInt16} {flag : UInt8} {addr : IP} {cs : List (Uso sn)} {s s' : Anfitrion}
    {salida entrada : List UInt8} (hsn : sn < 8) (hm : Medida (s.zocalos sn.toNat))
    (h : sesion sn port flag addr dport cs s = .ok (some (salida, entrada)) s') :
    let z := s'.zocalos sn.toNat
    z.confirmado ++ z.colaTx = salida ∧ z.recibido = entrada ++ z.colaRx ∧ z.adelantados = 0 := by
  obtain ⟨r, hpausa, -⟩ := sesion_charla hsn hm h
  exact ⟨hpausa.sesion.sale, hpausa.sesion.entra, hpausa.sesion.orden⟩

/-- A connection whose rings start six bytes before the counters wrap; the peer confirms four bytes at a time and sends
three. -/
theorem sesion_fiel_vuelta : ∃ s' : Anfitrion,
    (s'.zocalos 0).confirmado ++ (s'.zocalos 0).colaTx = [1, 2, 3, 4, 5, 6, 7, 8, 9, 10, 11] ∧
      (s'.zocalos 0).recibido = [7, 8, 9] ++ (s'.zocalos 0).colaRx ∧ (s'.zocalos 0).adelantados = 0 := by
  have hrun : devuelto (sesion 0 0 0 ⟨10, 0, 0, 1⟩ 1883 [.send [1, 2, 3, 4, 5, 6, 7, 8, 9, 10], .send [11],
      .otra (.send 1 [5]) (by decide), .recv 5]
      (Anfitrion.inicial [10, 0, 0, 2]
        (List.replicate 30 [(0, .atiende 65530 65530), (0, .conecta 65530 65530)] ++ [(0, .llega [7, 8, 9])] ::
          List.replicate 60 [(0, .atiende 0 0), (0, .confirma 4), (0, .termina)]) 50)) =
      some (some ([1, 2, 3, 4, 5, 6, 7, 8, 9, 10, 11], [7, 8, 9])) := by decide +kernel
  obtain ⟨s', h⟩ := ok_of_devuelto hrun
  exact ⟨s', sesion_fiel (by decide) ⟨by decide, by decide⟩ h⟩

/-! ### The room and the data found -/

section

variable {s t : Anfitrion} {n k : Nat} {f : Zocalo → UInt16}

/-- A read of a register finds it as the socket is after one more access. -/
theorem lee_paso (hsn : sn < 8) (hoff : off < 65536) (h : EnPaso s n sn.toNat t) :
    ∃ t', WIZCHIP_READ (reg off sn) t = .ok ((s.tras (n + 1) sn.toNat).leeReg off) t' ∧
      EnPaso s (n + 1) sn.toNat t' := by
  obtain ⟨hb, ho⟩ := direccion_sreg hsn hoff
  refine ⟨t.avanza, ?_, h.avanza⟩
  show EStateM.Result.ok (t.avanza.leeByte (Anfitrion.bloque (reg off sn)) (Anfitrion.offset (reg off sn))) t.avanza = _
  rw [hb, ho, leeByte_sreg, h.avanza.zocalo]

theorem leeReg16_paso (hsn : sn < 8) (hoff : off < 65535)
    (hf : ∀ z : Zocalo, z.leeReg off = alto (f z) ∧ z.leeReg (off + 1) = bajo (f z)) (h : EnPaso s n sn.toNat t) :
    ∃ t', leeReg16 off sn t =
        .ok (palabra (alto (f (s.tras (n + 1) sn.toNat))) (bajo (f (s.tras (n + 2) sn.toNat)))) t' ∧
      EnPaso s (n + 2) sn.toNat t' := by
  obtain ⟨t₁, hhi, h₁⟩ := lee_paso hsn (by omega : off < 65536) h
  obtain ⟨t₂, hlo, h₂⟩ := lee_paso hsn (by omega : off + 1 < 65536) h₁
  refine ⟨t₂, ?_, h₂⟩
  rw [leeReg16, bind_ok hhi, direccion_inc, bind_ok hlo, (hf _).1, (hf _).2]
  rfl

/-- The halves of a count that has grown may make a value that it never had; found twice, it had it. -/
theorem palabra_repetida {a b c d : UInt16} (hab : a ≤ b) (hbc : b ≤ c)
    (h : palabra (alto c) (bajo d) = palabra (alto a) (bajo b)) : b = palabra (alto a) (bajo b) := by
  have halto : alto c = alto a := by rw [← alto_palabra (alto c), h, alto_palabra]
  rw [← UInt8.toNat_inj, toNat_alto, toNat_alto] at halto
  rw [UInt16.le_iff_toNat_le] at hab hbc
  rw [← UInt16.toNat_inj, toNat_palabra, toNat_alto, toNat_bajo]
  omega

/-- What the two reads find, unless it is zero, is what the register was at one of them. -/
theorem dosVeces_paso {m : Nat} {val x : UInt16} {t' : Anfitrion} (hsn : sn < 8)
    (hrun : dosVeces (leeReg16 off sn) m val t = .ok x t') (hoff : off < 65535)
    (hf : ∀ z : Zocalo, z.leeReg off = alto (f z) ∧ z.leeReg (off + 1) = bajo (f z))
    (hmas : ∀ i j, i ≤ j → f (s.tras i sn.toNat) ≤ f (s.tras j sn.toNat)) (h : EnPaso s n sn.toNat t) :
    ∃ n', EnPaso s n' sn.toNat t' ∧ (x ≠ 0 → ∃ i ≤ n', f (s.tras i sn.toNat) = x) := by
  induction m generalizing val n t with
  | zero => cases hrun
  | succ m ih =>
    obtain ⟨t₁, hlee, h₁⟩ := leeReg16_paso hsn hoff hf h
    obtain ⟨t₂, hlee', h₂⟩ := leeReg16_paso hsn hoff hf h₁
    rw [dosVeces, bind_ok hlee] at hrun
    by_cases h0 : palabra (alto (f (s.tras (n + 1) sn.toNat))) (bajo (f (s.tras (n + 2) sn.toNat))) = 0
    · rw [if_neg (not_not_intro h0), pure_bind] at hrun
      dsimp only at hrun
      split at hrun
      case isTrue hne => exact ih hrun h₁
      case isFalse heq =>
        cases hrun
        exact ⟨n + 2, h₁, fun hx => absurd ((not_not.mp heq).trans h0) hx⟩
    · rw [if_pos h0, bind_ok hlee'] at hrun
      dsimp only at hrun
      split at hrun
      case isTrue hne => exact ih hrun h₂
      case isFalse heq =>
        cases hrun
        refine ⟨n + 4, h₂, fun _ => ⟨n + 2, by omega, ?_⟩⟩
        have hdos := not_not.mp heq
        rw [hdos]
        exact palabra_repetida (hmas _ _ (by omega)) (hmas _ _ (by omega)) hdos

/-- A count that no event makes smaller. -/
theorem tras_mas (hP : Stable Zocalo.paso P) (hf : ∀ e z, P z → f z ≤ f (z.paso e)) (h : P (s.zocalos k)) {i j : Nat}
    (hij : i ≤ j) : f (s.tras i k) ≤ f (s.tras j k) := by
  have hstable : Stable Zocalo.paso fun z => P z ∧ f (s.tras i k) ≤ f z := fun e z hz =>
    ⟨hP e z hz.1, UInt16.le_trans hz.2 (hf e z hz.1)⟩
  have hinicio : P (s.tras i k) := hP.evolve h
  obtain ⟨d, rfl⟩ := Nat.exists_eq_add_of_le hij
  refine (?_ : P (s.tras (i + d) k) ∧ f (s.tras i k) ≤ f (s.tras (i + d) k)).2
  induction d with
  | zero => exact ⟨hinicio, UInt16.le_refl _⟩
  | succ d ih =>
    rw [← Nat.add_assoc, Anfitrion.tras_succ]
    exact hstable.evolve (ih (Nat.le_add_right i d))

end

/-- What `getSn_RX_RSR` and `getSn_TX_FSR` find, byte by byte and however the registers change between the reads, is
there: no more bytes than the chip keeps, and no more room than the bytes to be sent leave.  Unless it is zero, it is
also just what there was at one of the accesses: reading twice leaves no value with one half from before a change and
the other from after it. -/
theorem cuentas_seguras {sal leido : List UInt8} {s s' : Anfitrion} {x : UInt16} (hsn : sn < 8)
    (h : EnCharla sn sal leido s) :
    (getSnRXRSR sn s = .ok x s' → x.toNat ≤ (s'.zocalos sn.toNat).colaRx.length ∧
      ∃ n, EnPaso s n sn.toNat s' ∧ (x ≠ 0 → ∃ i ≤ n, (s.tras i sn.toNat).colaRx.length = x.toNat)) ∧
    (getSnTXFSR sn s = .ok x s' →
      (s'.zocalos sn.toNat).colaTx.length + x.toNat ≤ (s'.zocalos sn.toNat).txMax.toNat ∧
      ∃ n, EnPaso s n sn.toNat s' ∧ (x ≠ 0 → ∃ i ≤ n,
        (s.tras i sn.toNat).colaTx.length + x.toNat = (s.tras i sn.toNat).txMax.toNat)) := by
  obtain ⟨r, hpausa, -⟩ := h
  have hs : En sn s.vars (fun z => Pausa r sal leido z ∧ True) s := ⟨rfl, hpausa, trivial⟩
  have hstable : Stable Zocalo.paso (Pausa r sal leido) := fun e z h => Mando.sigue h (Reposo.paso h e)
  constructor
  · intro hrun
    obtain ⟨-, -, hx⟩ := (va_getSnRXRSR (fun _ _ _ _ h => h) hsn).ok hs hrun
    refine ⟨by rw [colaRx, length_window]; exact hx, ?_⟩
    obtain ⟨n, hn, hvisto⟩ := dosVeces_paso (f := rxRsr) hsn hrun (by decide) (fun z => ⟨rfl, rfl⟩)
      (fun i j => tras_mas hstable (fun e z h => (h.sesion.cuentas (Reposo.paso h e)).2) hpausa) .inicio
    refine ⟨n, hn, fun h0 => ?_⟩
    obtain ⟨i, hi, rfl⟩ := hvisto h0
    exact ⟨i, hi, by rw [colaRx, length_window]; rfl⟩
  · intro hrun
    obtain ⟨-, ⟨hz, -⟩, hx⟩ := (va_getSnTXFSR (fun _ _ _ _ h => h) hsn).ok hs hrun
    have hcuenta : ∀ z, Pausa r sal leido z → z.colaTx.length + z.txFsr.toNat = z.txMax.toNat := by
      intro z hz
      have := hz.sesion.cabeTx
      rw [hz.txFsr, colaTx, length_window]
      simp only [List.length_nil] at this
      omega
    refine ⟨by rw [← hcuenta _ hz]; omega, ?_⟩
    obtain ⟨n, hn, hvisto⟩ := dosVeces_paso (f := txFsr) hsn hrun (by decide) (fun z => ⟨rfl, rfl⟩)
      (fun i j => tras_mas hstable (fun e z h => h.txFsr_le (Reposo.paso h e)) hpausa) .inicio
    refine ⟨n, hn, fun h0 => ?_⟩
    obtain ⟨i, hi, rfl⟩ := hvisto h0
    exact ⟨i, hi, hcuenta _ (hstable.evolve hpausa)⟩

/-- A connection to which 511 bytes come when it is made, and one more later. -/
def conDatos : Anfitrion :=
  Anfitrion.inicial [10, 0, 0, 2]
    (List.replicate 20 [(0, .atiende 65530 65530), (0, .conecta 65530 65530)] ++
      [[(0, .llega (List.replicate 511 0))], [(0, .llega [0])]]) 50

/-- One read of the register finds what it never was: 0x01 of 511 and 0x00 of 512. -/
example : devuelto ((sesion 0 0 0 ⟨10, 0, 0, 1⟩ 1883 [] >>= fun _ => leeReg16 SN_RX_RSR 0) conDatos) = some 256 := by
  decide +kernel

/-- The last byte comes between the two halves of the first read of `Sn_RX_RSR`. -/
theorem cuentas_seguras_entre : ∃ t s' : Anfitrion, 512 ≤ (s'.zocalos 0).colaRx.length ∧
    ∃ n, EnPaso t n 0 s' ∧ ∃ i ≤ n, (t.tras i 0).colaRx.length = 512 := by
  have hrun : devuelto ((sesion 0 0 0 ⟨10, 0, 0, 1⟩ 1883 [] >>= fun _ => getSnRXRSR 0) conDatos) = some 512 := by
    decide +kernel
  have hopen : devuelto (sesion 0 0 0 ⟨10, 0, 0, 1⟩ 1883 [] conDatos) = some (some ([], [])) := by decide +kernel
  obtain ⟨s', h⟩ := ok_of_devuelto hrun
  obtain ⟨p, t, hp, ht⟩ := ok_of_bind h
  obtain ⟨t', ht'⟩ := ok_of_devuelto hopen
  rw [hp] at ht'
  cases ht'
  obtain ⟨hle, n, hn, hvisto⟩ :=
    (cuentas_seguras (by decide) (sesion_charla (by decide) ⟨by decide, by decide⟩ hp)).1 ht
  exact ⟨t, s', hle, n, hn, hvisto (by decide)⟩

end W5500

end Wiznet
