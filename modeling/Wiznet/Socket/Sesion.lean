import Wiznet.Socket.Api

/-!
# A connection through its rings

What the chip may do by itself with a connection (`Sesion`): the bytes to be sent and the bytes received stand in the
two rings of the socket, and no event loses, repeats or moves any.  A SEND adds what the host has written after the
last one, and a RECV takes what it has read.
-/

namespace Wiznet

namespace W5500

open RingBuffer Interference

/-! ### Bits -/

theorem or_and_of_and_eq_zero {a b c : UInt8} (h : b &&& c = 0) : (a ||| b) &&& c = a &&& c := by
  rw [← UInt8.toBitVec_inj] at *
  simp only [UInt8.toBitVec_and, UInt8.toBitVec_or] at *
  ext i hi
  have := congrArg (fun x => x.getLsbD i) h
  simp at this ⊢
  grind

theorem and_not_and {a b c : UInt8} (h : c &&& b = c) : (a &&& ~~~b) &&& c = 0 := by
  rw [← UInt8.toBitVec_inj] at *
  simp only [UInt8.toBitVec_and, UInt8.toBitVec_not] at *
  ext i hi
  have := congrArg (fun x => x.getLsbD i) h
  simp at this ⊢
  grind

/-! ### The sizes of the rings -/

/-- The sizes a buffer may have, in kilobytes. -/
def tamanos : List UInt8 := [1, 2, 4, 8, 16]

/-- The registers of a socket in TCP mode with buffers of sizes the chip has. -/
structure Config (r : Nat → UInt8) : Prop where
  tcp : r SN_MR &&& 0x0F = SN_MR_TCP
  tx : r SN_TXBUF_SIZE ∈ tamanos
  rx : r SN_RXBUF_SIZE ∈ tamanos

theorem dvd_of_tamanos {kb : UInt8} (h : kb ∈ tamanos) : (kb.toUInt16 <<< 10).toNat ∣ 65536 := by
  revert h
  revert kb
  decide +kernel

theorem le_of_tamanos {kb : UInt8} (h : kb ∈ tamanos) : (kb.toUInt16 <<< 10).toNat ≤ 16384 := by
  revert h
  revert kb
  decide +kernel

theorem pos_of_tamanos {kb : UInt8} (h : kb ∈ tamanos) : 0 < (kb.toUInt16 <<< 10).toNat := by
  revert h
  revert kb
  decide +kernel

namespace Zocalo

variable {z : Zocalo} {r : Nat → UInt8} {sal nuevo leido tomado bs : List UInt8} {e : Evento}

/-! ### The rings -/

/-- What comes in goes to the end of the queue. -/
theorem colaRx_guarda (hc : z.rxMax.toNat ∣ 65536) (hl : z.rxMax.toNat ≤ 16384) (h : z.cabe bs) :
    (z.guarda bs).colaRx = z.colaRx ++ bs ∧ gap (z.guarda bs).rxVisto (z.guarda bs).rxWr ≤ z.rxMax.toNat := by
  simp only [cabe, decide_eq_true_eq] at h
  have hgap : gap z.rxVisto (z.rxWr + bs.length.toUInt16) = gap z.rxVisto z.rxWr + bs.length :=
    gap_add_right (by omega)
  constructor
  · show window z.rxMax.toNat (put z.rxMax.toNat z.rx z.rxWr.toNat bs) z.rxVisto.toNat
      (gap z.rxVisto (z.rxWr + bs.length.toUInt16)) = _
    rw [hgap, put_congr (toNat_mod (a := z.rxVisto) hc), window_put_append h, colaRx]
  · show gap z.rxVisto (z.rxWr + bs.length.toUInt16) ≤ _
    omega

/-- What is taken is the start of the queue. -/
theorem colaRx_drop {k : Nat} (hc : z.rxMax.toNat ∣ 65536) (hk : k ≤ gap z.rxVisto z.rxWr) :
    window z.rxMax.toNat z.rx (z.rxVisto + k.toUInt16).toNat (gap (z.rxVisto + k.toUInt16) z.rxWr) =
      z.colaRx.drop k := by
  rw [colaRx, drop_window hk, gap_add_left hk]
  exact window_congr (add_mod hc)

/-- What is confirmed is the start of the queue. -/
theorem colaTx_drop {k : Nat} (hc : z.txMax.toNat ∣ 65536) (hk : k ≤ gap z.txRd z.txFin) :
    window z.txMax.toNat z.tx (z.txRd + k.toUInt16).toNat (gap (z.txRd + k.toUInt16) z.txFin) = z.colaTx.drop k := by
  rw [colaTx, drop_window hk, gap_add_left hk]
  exact window_congr (add_mod hc)

/-- What has been written after the queue joins it. -/
theorem colaTx_append {k : Nat} (hc : z.txMax.toNat ∣ 65536) (hk : gap z.txRd z.txFin + k < 65536) :
    window z.txMax.toNat z.tx z.txRd.toNat (gap z.txRd (z.txFin + k.toUInt16)) =
      z.colaTx ++ window z.txMax.toNat z.tx z.txFin.toNat k := by
  rw [gap_add_right hk, window_add, colaTx]
  congr 1
  exact (window_congr (toNat_mod hc)).symm

/-! ### The connection -/

/-- The states from a connection on. -/
def vivos : List UInt8 := [SOCK_ESTABLISHED, SOCK_FIN_WAIT, SOCK_TIME_WAIT, SOCK_CLOSE_WAIT, SOCK_LAST_ACK, SOCK_CLOSED]

/-- A connection: `sal` is all that the chip has been told to send, `nuevo` what is written after it, `leido` what the
host has received and `tomado` what it has read after that. -/
structure Sesion (r : Nat → UInt8) (sal nuevo leido tomado : List UInt8) (z : Zocalo) : Prop where
  regs : z.regs = r
  config : Config r
  sr : z.sr ∈ vivos
  cabeTx : gap z.txRd z.txFin + nuevo.length ≤ z.txMax.toNat
  cabeRx : gap z.rxVisto z.rxWr ≤ z.rxMax.toNat
  sale : z.confirmado ++ z.colaTx = sal
  nuevo : window z.txMax.toNat z.tx z.txFin.toNat nuevo.length = nuevo
  entra : z.recibido = leido ++ z.colaRx
  tomado : tomado <+: z.colaRx
  sendok : z.ir &&& SN_IR_SENDOK ≠ 0 → z.enviando = false
  hecho : z.enviando = false → z.txRd = z.txFin
  orden : z.adelantados = 0

/-- No SEND is under way nor has its end to be seen. -/
def Quieto (z : Zocalo) : Prop := z.enviando = false ∧ z.ir &&& SN_IR_SENDOK = 0

theorem Sesion.txDvd (h : z.Sesion r sal nuevo leido tomado) : z.txMax.toNat ∣ 65536 := by
  rw [txMax, h.regs]
  exact dvd_of_tamanos h.config.tx

theorem Sesion.txLe (h : z.Sesion r sal nuevo leido tomado) : z.txMax.toNat ≤ 16384 := by
  rw [txMax, h.regs]
  exact le_of_tamanos h.config.tx

theorem Sesion.rxDvd (h : z.Sesion r sal nuevo leido tomado) : z.rxMax.toNat ∣ 65536 := by
  rw [rxMax, h.regs]
  exact dvd_of_tamanos h.config.rx

theorem Sesion.rxLe (h : z.Sesion r sal nuevo leido tomado) : z.rxMax.toNat ≤ 16384 := by
  rw [rxMax, h.regs]
  exact le_of_tamanos h.config.rx

/-- A connection is not a socket for datagrams nor one that waits for a connection. -/
theorem Sesion.otros (h : z.Sesion r sal nuevo leido tomado) :
    z.deDatagramas = false ∧ z.sr ≠ SOCK_SYNSENT ∧ z.sr ≠ SOCK_LISTEN := by
  have key : ∀ sr ∈ vivos, (sr == SOCK_UDP || sr == SOCK_IPRAW || sr == SOCK_MACRAW) = false ∧ sr ≠ SOCK_SYNSENT ∧
      sr ≠ SOCK_LISTEN := by decide +kernel
  exact key z.sr h.sr

/-- What an event may do to a connection, unless it is a command taken. -/
inductive Mueve (z : Zocalo) : Zocalo → Prop
  | nada : Mueve z z
  | llega {bs : List UInt8} (h : z.cabe bs) : Mueve z { z.guarda bs with recibido := z.recibido ++ bs }
  | confirma {k : Nat} (h : k ≤ gap z.txRd z.txFin) :
    Mueve z { z with txRd := z.txRd + k.toUInt16, confirmado := z.confirmado ++ z.colaTx.take k }
  | termina (h : z.enviando = true) (heq : z.txRd = z.txFin) :
    Mueve z { z with enviando := false, ir := z.ir ||| SN_IR_SENDOK }
  | cambia {ir sr : UInt8} (hsr : sr ∈ vivos) (hir : ir &&& SN_IR_SENDOK = z.ir &&& SN_IR_SENDOK)
    (hab : abierto z.sr = false → abierto sr = false) : Mueve z { z with ir := ir, sr := sr }

theorem Sesion.mueve (h : z.Sesion r sal nuevo leido tomado) (he : ∀ tx rx, e ≠ .atiende tx rx) :
    Mueve z (z.paso e) := by
  obtain ⟨hdat, hsyn, hlis⟩ := h.otros
  have hir : ∀ b, b &&& SN_IR_SENDOK = 0 → (z.ir ||| b) &&& SN_IR_SENDOK = z.ir &&& SN_IR_SENDOK :=
    fun b hb => or_and_of_and_eq_zero hb
  cases e with
  | atiende tx rx => exact absurd rfl (he tx rx)
  | conecta tx rx =>
    simp only [paso, hsyn, hlis, or_self, if_false]
    exact .nada
  | llega bs =>
    simp only [paso]
    split
    · next hc =>
      rw [Bool.and_eq_true] at hc
      exact .llega hc.2
    · exact .nada
  | datagrama d =>
    simp only [paso, hdat, Bool.false_and]
    exact .nada
  | confirma k =>
    simp only [paso]
    split
    · exact .confirma (Nat.min_le_right _ _)
    · exact .nada
  | termina =>
    simp only [paso, hdat]
    split
    · next hen =>
      split
      · next hf => exact absurd hf (by decide)
      · split
        · next heq => exact .termina hen heq.2
        · exact .nada
    · exact .nada
  | fin =>
    simp only [paso]
    split
    · next heq => exact .cambia (by decide) (hir _ (by decide)) fun hno => absurd hno (by rw [heq]; decide)
    · split
      · exact .cambia (by decide) (hir _ (by decide)) fun _ => rfl
      · exact .nada
  | cierra =>
    simp only [paso, hdat]
    split
    · exact .nada
    · exact .cambia (by decide) (hir _ (by decide)) fun _ => rfl
  | vence =>
    simp only [paso, hdat]
    split
    · next hf => exact absurd hf (by decide)
    · split
      · exact .nada
      · exact .cambia (by decide) (hir _ (by decide)) fun _ => rfl

theorem Sesion.llega (h : z.Sesion r sal nuevo leido tomado) (hc : z.cabe bs) :
    { z.guarda bs with recibido := z.recibido ++ bs }.Sesion r sal nuevo leido tomado where
  regs := h.regs
  config := h.config
  sr := h.sr
  cabeTx := h.cabeTx
  cabeRx := (colaRx_guarda h.rxDvd h.rxLe hc).2
  sale := h.sale
  nuevo := h.nuevo
  entra := by
    show z.recibido ++ bs = leido ++ (z.guarda bs).colaRx
    rw [(colaRx_guarda h.rxDvd h.rxLe hc).1, h.entra, List.append_assoc]
  tomado := by
    show tomado <+: (z.guarda bs).colaRx
    rw [(colaRx_guarda h.rxDvd h.rxLe hc).1]
    exact h.tomado.trans (List.prefix_append _ _)
  sendok hok := by
    have hok' : (z.ir ||| SN_IR_RECV) &&& SN_IR_SENDOK ≠ 0 := hok
    rw [or_and_of_and_eq_zero (by decide)] at hok'
    exact h.sendok hok'
  hecho := h.hecho
  orden := h.orden

theorem Sesion.confirma {k : Nat} (h : z.Sesion r sal nuevo leido tomado) (hk : k ≤ gap z.txRd z.txFin) :
    { z with txRd := z.txRd + k.toUInt16, confirmado := z.confirmado ++ z.colaTx.take k }.Sesion r sal nuevo leido
      tomado where
  regs := h.regs
  config := h.config
  sr := h.sr
  cabeTx := by
    show gap (z.txRd + k.toUInt16) z.txFin + nuevo.length ≤ _
    have := h.cabeTx
    rw [gap_add_left hk]
    exact Nat.le_trans (by omega) this
  cabeRx := h.cabeRx
  sale := by
    refine Eq.trans ?_ h.sale
    show (z.confirmado ++ z.colaTx.take k) ++ window z.txMax.toNat z.tx (z.txRd + k.toUInt16).toNat
      (gap (z.txRd + k.toUInt16) z.txFin) = _
    rw [colaTx_drop h.txDvd hk, List.append_assoc, List.take_append_drop]
  nuevo := h.nuevo
  entra := h.entra
  tomado := h.tomado
  sendok := h.sendok
  hecho hno := by
    have heq := h.hecho hno
    have hk0 : k = 0 := by simpa [heq] using hk
    show z.txRd + k.toUInt16 = z.txFin
    rw [hk0, heq]
    simp
  orden := h.orden

theorem Sesion.termina (h : z.Sesion r sal nuevo leido tomado) (heq : z.txRd = z.txFin) :
    { z with enviando := false, ir := z.ir ||| SN_IR_SENDOK }.Sesion r sal nuevo leido tomado where
  regs := h.regs
  config := h.config
  sr := h.sr
  cabeTx := h.cabeTx
  cabeRx := h.cabeRx
  sale := h.sale
  nuevo := h.nuevo
  entra := h.entra
  tomado := h.tomado
  sendok _ := rfl
  hecho _ := heq
  orden := h.orden

theorem Sesion.cambia {ir sr : UInt8} (cr : UInt8) (h : z.Sesion r sal nuevo leido tomado) (hsr : sr ∈ vivos)
    (hir : ir &&& SN_IR_SENDOK ≠ 0 → z.ir &&& SN_IR_SENDOK ≠ 0) :
    { z with cr := cr, ir := ir, sr := sr }.Sesion r sal nuevo leido tomado where
  regs := h.regs
  config := h.config
  sr := hsr
  cabeTx := h.cabeTx
  cabeRx := h.cabeRx
  sale := h.sale
  nuevo := h.nuevo
  entra := h.entra
  tomado := h.tomado
  sendok hok := h.sendok (hir hok)
  hecho := h.hecho
  orden := h.orden

variable {z' : Zocalo}

/-- Nothing that the chip does by itself changes what there is to be sent, what has been written, received or read. -/
theorem Sesion.sigue (h : z.Sesion r sal nuevo leido tomado) (hm : Mueve z z') :
    z'.Sesion r sal nuevo leido tomado := by
  cases hm with
  | nada => exact h
  | llega hc => exact h.llega hc
  | confirma hk => exact h.confirma hk
  | termina hen heq => exact h.termina heq
  | cambia hsr hir hab => exact h.cambia z.cr hsr (by rw [hir]; exact id)

theorem Mueve.mando (hm : Mueve z z') : z'.cr = z.cr ∧ z'.txFin = z.txFin ∧ z'.rxVisto = z.rxVisto := by
  cases hm <;> exact ⟨rfl, rfl, rfl⟩

theorem Mueve.quieto (hm : Mueve z z') (hq : z.Quieto) : z'.Quieto := by
  obtain ⟨hno, hok⟩ := hq
  cases hm with
  | nada => exact ⟨hno, hok⟩
  | llega hc =>
    refine ⟨hno, ?_⟩
    show (z.ir ||| SN_IR_RECV) &&& SN_IR_SENDOK = 0
    rw [or_and_of_and_eq_zero (by decide), hok]
  | confirma hk => exact ⟨hno, hok⟩
  | termina hen heq =>
    rw [hno] at hen
    cases hen
  | cambia hsr hir hab => exact ⟨hno, hir.trans hok⟩

/-- A connection that cannot send any more does not come back to it. -/
theorem Mueve.cerrado (hm : Mueve z z') (hc : abierto z.sr = false) : abierto z'.sr = false := by
  cases hm with
  | cambia hsr hir hab => exact hab hc
  | _ => exact hc

/-- The end of a SEND, once there, stays. -/
theorem Mueve.completo (hm : Mueve z z') (hc : z.enviando = false) : z'.enviando = false := by
  cases hm with
  | termina hen heq => rfl
  | _ => exact hc

theorem Sesion.cuentas (h : z.Sesion r sal nuevo leido tomado) (hm : Mueve z z') :
    gap z'.txRd z'.txFin ≤ gap z.txRd z.txFin ∧ gap z.rxVisto z.rxWr ≤ gap z'.rxVisto z'.rxWr := by
  cases hm with
  | llega hc =>
    refine ⟨Nat.le_refl _, ?_⟩
    have hle := h.rxLe
    simp only [cabe, decide_eq_true_eq] at hc
    show gap z.rxVisto z.rxWr ≤ gap z.rxVisto (z.rxWr + _)
    rw [gap_add_right (by omega)]
    omega
  | confirma hk =>
    refine ⟨?_, Nat.le_refl _⟩
    show gap (z.txRd + _) z.txFin ≤ gap z.txRd z.txFin
    rw [gap_add_left hk]
    omega
  | _ => exact ⟨Nat.le_refl _, Nat.le_refl _⟩

/-! ### What the host writes and reads -/

/-- Writing a register that is not of the configuration. -/
theorem Sesion.escribe {off : Nat} {b : UInt8} (h : z.Sesion r sal nuevo leido tomado) (hmr : SN_MR ≠ off)
    (htx : SN_TXBUF_SIZE ≠ off) (hrx : SN_RXBUF_SIZE ≠ off) :
    { z with regs := Function.update z.regs off b }.Sesion (Function.update r off b) sal nuevo leido tomado := by
  have htxMax : { z with regs := Function.update z.regs off b }.txMax = z.txMax := by
    simp only [txMax, Function.update_of_ne htx]
  have hrxMax : { z with regs := Function.update z.regs off b }.rxMax = z.rxMax := by
    simp only [rxMax, Function.update_of_ne hrx]
  have hcolaTx : { z with regs := Function.update z.regs off b }.colaTx = z.colaTx := by simp only [colaTx, htxMax]
  have hcolaRx : { z with regs := Function.update z.regs off b }.colaRx = z.colaRx := by simp only [colaRx, hrxMax]
  constructor
  case regs => rw [h.regs]
  case config =>
    have hc := h.config
    constructor
    · rw [Function.update_of_ne hmr]
      exact hc.tcp
    · rw [Function.update_of_ne htx]
      exact hc.tx
    · rw [Function.update_of_ne hrx]
      exact hc.rx
  case sr => exact h.sr
  case cabeTx =>
    rw [htxMax]
    exact h.cabeTx
  case cabeRx =>
    rw [hrxMax]
    exact h.cabeRx
  case sale =>
    rw [hcolaTx]
    exact h.sale
  case nuevo =>
    rw [htxMax]
    exact h.nuevo
  case entra =>
    rw [hcolaRx]
    exact h.entra
  case tomado =>
    rw [hcolaRx]
    exact h.tomado
  case sendok => exact h.sendok
  case hecho => exact h.hecho
  case orden => exact h.orden

/-- Bytes written after those of the last SEND, where there is room. -/
theorem Sesion.escribeTx (h : z.Sesion r sal [] leido tomado) (hbs : gap z.txRd z.txFin + bs.length ≤ z.txMax.toNat) :
    { z with tx := put z.txMax.toNat z.tx z.txFin.toNat bs }.Sesion r sal bs leido tomado where
  regs := h.regs
  config := h.config
  sr := h.sr
  cabeTx := hbs
  cabeRx := h.cabeRx
  sale := by
    refine Eq.trans ?_ h.sale
    show z.confirmado ++ window z.txMax.toNat (put z.txMax.toNat z.tx z.txFin.toNat bs) z.txRd.toNat
      (gap z.txRd z.txFin) = _
    rw [put_congr (toNat_mod (a := z.txRd) h.txDvd), window_put_of_le (Nat.le_refl _) (by omega), colaTx]
  nuevo := window_put (Nat.le_trans (Nat.le_add_left _ _) hbs)
  entra := h.entra
  tomado := h.tomado
  sendok := h.sendok
  hecho := h.hecho
  orden := h.orden

/-- Bytes read from the start of the queue. -/
theorem Sesion.leeRx {k : Nat} (h : z.Sesion r sal nuevo leido []) (hk : k ≤ gap z.rxVisto z.rxWr) :
    z.Sesion r sal nuevo leido (window z.rxMax.toNat z.rx z.rxVisto.toNat k) :=
  { h with
    tomado := by
      rw [colaRx, ← take_window hk]
      exact List.take_prefix _ _ }

/-! ### The commands -/

/-- A SEND takes what has been written. -/
theorem Sesion.atiendeSend (h : z.Sesion r sal nuevo leido tomado) (hq : z.Quieto) (hcr : z.cr = SN_CR_SEND)
    (hwr : z.reg16 SN_TX_WR = z.txFin + nuevo.length.toUInt16) (tx rx : UInt16) :
    (z.paso (.atiende tx rx)).Sesion r (sal ++ nuevo) [] leido tomado := by
  have hle := h.txLe
  have hcabe := h.cabeTx
  have hz : z.paso (.atiende tx rx) =
      { z with txFin := z.txFin + nuevo.length.toUInt16, enviando := true, adelantados := z.adelantados, cr := 0 } := by
    simp [paso, manda, hcr, hwr, hq.1, SN_CR_SEND, SN_CR_OPEN, SN_CR_LISTEN, SN_CR_CONNECT, SN_CR_DISCON, SN_CR_CLOSE]
  rw [hz]
  refine ⟨h.regs, h.config, h.sr, ?_, h.cabeRx, ?_, rfl, h.entra, h.tomado, ?_, ?_, h.orden⟩
  · show gap z.txRd (z.txFin + nuevo.length.toUInt16) + 0 ≤ z.txMax.toNat
    rw [gap_add_right (by omega)]
    exact hcabe
  · show z.confirmado ++ window z.txMax.toNat z.tx z.txRd.toNat (gap z.txRd (z.txFin + nuevo.length.toUInt16)) = _
    rw [colaTx_append h.txDvd (by omega), h.nuevo, ← List.append_assoc, h.sale]
  · intro hok
    exact absurd hq.2 hok
  · intro hno
    cases hno

/-- A RECV takes what has been read. -/
theorem Sesion.atiendeRecv (h : z.Sesion r sal nuevo leido tomado) (hcr : z.cr = SN_CR_RECV)
    (hrd : z.reg16 SN_RX_RD = z.rxVisto + tomado.length.toUInt16) (tx rx : UInt16) :
    (z.paso (.atiende tx rx)).Sesion r sal nuevo (leido ++ tomado) [] := by
  have hz : z.paso (.atiende tx rx) = { z with rxVisto := z.rxVisto + tomado.length.toUInt16, cr := 0 } := by
    simp [paso, manda, hcr, hrd, SN_CR_RECV, SN_CR_SEND, SN_CR_OPEN, SN_CR_LISTEN, SN_CR_CONNECT, SN_CR_DISCON,
      SN_CR_CLOSE]
  obtain ⟨resto, hresto⟩ := h.tomado
  have hlen : tomado.length ≤ gap z.rxVisto z.rxWr := by
    have := congrArg List.length hresto
    simp only [List.length_append, colaRx, length_window] at this
    omega
  have hcola : window z.rxMax.toNat z.rx (z.rxVisto + tomado.length.toUInt16).toNat
      (gap (z.rxVisto + tomado.length.toUInt16) z.rxWr) = resto := by
    rw [colaRx_drop h.rxDvd hlen, ← hresto, List.drop_left]
  rw [hz]
  refine ⟨h.regs, h.config, h.sr, h.cabeTx, ?_, h.sale, h.nuevo, ?_, List.nil_prefix, h.sendok, h.hecho, h.orden⟩
  · show gap (z.rxVisto + tomado.length.toUInt16) z.rxWr ≤ z.rxMax.toNat
    have := h.cabeRx
    rw [gap_add_left hlen]
    exact Nat.le_trans (Nat.sub_le _ _) this
  · show z.recibido = (leido ++ tomado) ++ window z.rxMax.toNat z.rx (z.rxVisto + tomado.length.toUInt16).toNat
      (gap (z.rxVisto + tomado.length.toUInt16) z.rxWr)
    rw [hcola, h.entra, ← hresto, List.append_assoc]

/-- The other commands of a connection touch its state only. -/
theorem Sesion.atiendeOtro (h : z.Sesion r sal nuevo leido tomado) (hcr : z.cr ∈ [0, SN_CR_DISCON, SN_CR_CLOSE])
    (tx rx : UInt16) :
    ∃ sr ∈ vivos, z.paso (.atiende tx rx) = { z with cr := 0, sr := sr } ∧ (z.cr = SN_CR_CLOSE → sr = SOCK_CLOSED) ∧
      (abierto z.sr = false ∨ z.cr = SN_CR_DISCON → abierto sr = false) ∧ (z.cr = 0 → sr = z.sr) := by
  simp only [List.mem_cons, List.not_mem_nil, or_false] at hcr
  rcases hcr with hcr | hcr | hcr
  · refine ⟨z.sr, h.sr, ?_, ?_, ?_, fun _ => rfl⟩
    · simp [paso, manda, hcr, SN_CR_RECV, SN_CR_SEND, SN_CR_OPEN, SN_CR_LISTEN, SN_CR_CONNECT, SN_CR_DISCON,
        SN_CR_CLOSE]
    · intro hclose
      rw [hcr] at hclose
      cases hclose
    · rintro (hno | hdis)
      · exact hno
      · rw [hcr] at hdis
        cases hdis
  · refine ⟨if z.sr = SOCK_ESTABLISHED then SOCK_FIN_WAIT else if z.sr = SOCK_CLOSE_WAIT then SOCK_LAST_ACK else z.sr,
      ?_, ?_, ?_, ?_, ?_⟩
    · split
      · decide
      · split
        · decide
        · exact h.sr
    · simp [paso, manda, hcr, SN_CR_OPEN, SN_CR_LISTEN, SN_CR_CONNECT, SN_CR_DISCON]
    · intro hclose
      rw [hcr] at hclose
      cases hclose
    · rintro -
      split
      · rfl
      · split
        · rfl
        · next h1 h2 => simp [abierto, h1, h2]
    · intro h0
      rw [hcr] at h0
      cases h0
  · refine ⟨SOCK_CLOSED, by decide, ?_, fun _ => rfl, fun _ => rfl, ?_⟩
    · simp [paso, manda, hcr, SN_CR_OPEN, SN_CR_LISTEN, SN_CR_CONNECT, SN_CR_DISCON, SN_CR_CLOSE]
    · intro h0
      rw [hcr] at h0
      cases h0

end Zocalo

end W5500

end Wiznet
