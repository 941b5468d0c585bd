import Wiznet.Socket.Apertura

/-!
# A socket for datagrams

What the chip may do by itself with a socket in UDP mode (`Correo`): each datagram that comes goes whole to the end of
the ring, behind a header with its sender and its length.  The host has opened the first ones, and has still to take
`resto` of the last of these.
-/

namespace Wiznet

namespace W5500

open Stateful Interference RingBuffer Zocalo

variable {sn : UInt8} {v : Vars} {r : Nat → UInt8} {cr : UInt8} {visto fin k : UInt16} {abiertos env : List Datagrama}
  {resto : List UInt8} {A P : Zocalo → Prop} {z z' : Zocalo} {e : Evento} {d : Datagrama}

/-- A datagram in the ring. -/
def marcoUdp (d : Datagrama) : List UInt8 :=
  d.addr.bytes ++ [alto d.port, bajo d.port, alto d.bytes.length.toUInt16, bajo d.bytes.length.toUInt16] ++ d.bytes

theorem marco_udp {mr : UInt8} (h : mr &&& 0x0F = SN_MR_UDP) : marco mr = marcoUdp := by
  funext d
  rw [marco, if_pos h]
  rfl

theorem length_marcoUdp : (marcoUdp d).length = 8 + d.bytes.length := by
  simp [marcoUdp, IP.bytes]
  omega

/-! ### What comes -/

/-- A socket in UDP mode whose host has opened these datagrams and has to take these bytes of the last one. -/
structure Correo (r : Nat → UInt8) (abiertos : List Datagrama) (resto : List UInt8) (z : Zocalo) : Prop where
  regs : z.regs = r
  udp : r SN_MR &&& 0x0F = SN_MR_UDP
  tx : r SN_TXBUF_SIZE ∈ tamanos
  rx : r SN_RXBUF_SIZE ∈ tamanos
  sr : z.sr = SOCK_UDP
  cabeRx : gap z.rxVisto z.rxWr ≤ z.rxMax.toNat
  entra : ∃ pend, z.llegados = abiertos ++ pend ∧ z.colaRx = resto ++ pend.flatMap marcoUdp
  largos : ∀ d ∈ z.llegados, d.bytes.length < 65536

/-- What an event may do to a socket for datagrams, unless it is a command taken. -/
inductive Pasa (z : Zocalo) : Zocalo → Prop
  | nada : Pasa z z
  | datagrama {d : Datagrama} (h : z.cabe (marco z.mr d)) :
    Pasa z { z.guarda (marco z.mr d) with llegados := z.llegados ++ [d] }
  | termina (h : z.enviando = true) :
    Pasa z
      { z with txRd := z.txFin, enviando := false, ir := z.ir ||| SN_IR_SENDOK, enviados := z.enviados ++ [z.enCurso] }
  | vence (h : z.enviando = true) :
    Pasa z { z with txRd := z.txFin, enviando := false, ir := z.ir ||| SN_IR_TIMEOUT }

theorem pasa_datagramas (h : z.sr ∈ [SOCK_UDP, SOCK_IPRAW]) (he : ∀ tx rx, e ≠ .atiende tx rx) :
    Pasa z (z.paso e) := by
  obtain ⟨hdat, hsyn, hlisten, hest, hfinw, hclosew, hlast⟩ :
      (z.sr == SOCK_UDP || z.sr == SOCK_IPRAW || z.sr == SOCK_MACRAW) = true ∧ z.sr ≠ SOCK_SYNSENT ∧
        z.sr ≠ SOCK_LISTEN ∧ z.sr ≠ SOCK_ESTABLISHED ∧ z.sr ≠ SOCK_FIN_WAIT ∧ z.sr ≠ SOCK_CLOSE_WAIT ∧
        z.sr ≠ SOCK_LAST_ACK := by
    rw [List.mem_cons, List.mem_singleton] at h
    rcases h with h | h <;> rw [h] <;> decide
  replace hdat : z.deDatagramas = true := hdat
  cases e with
  | atiende tx rx => exact absurd rfl (he tx rx)
  | conecta tx rx =>
    have hz : z.paso (.conecta tx rx) = z := by simp [paso, hsyn, hlisten]
    rw [hz]
    exact .nada
  | llega bs =>
    have hz : z.paso (.llega bs) = z := by simp [paso, recibeDatos, hest, hfinw]
    rw [hz]
    exact .nada
  | datagrama d =>
    simp only [paso, hdat, Bool.true_and]
    split
    · next hc => exact .datagrama hc
    · exact .nada
  | confirma k =>
    have hz : z.paso (.confirma k) = z := by
      simp [paso, enviaDatos, hest, hclosew, hfinw, hlast]
    rw [hz]
    exact .nada
  | termina =>
    simp only [paso, hdat, if_true]
    split
    · next hen => exact .termina hen
    · exact .nada
  | fin =>
    have hz : z.paso .fin = z := by simp [paso, hest, hfinw]
    rw [hz]
    exact .nada
  | cierra =>
    simp only [paso, hdat, true_or, if_true]
    exact .nada
  | vence =>
    simp only [paso, hdat, if_true]
    split
    · next hen => exact .vence hen
    · exact .nada

namespace Correo

theorem rxDvd (h : Correo r abiertos resto z) : z.rxMax.toNat ∣ 65536 := by
  rw [rxMax, h.regs]
  exact dvd_of_tamanos h.rx

theorem rxLe (h : Correo r abiertos resto z) : z.rxMax.toNat ≤ 16384 := by
  rw [rxMax, h.regs]
  exact le_of_tamanos h.rx

theorem txDvd (h : Correo r abiertos resto z) : z.txMax.toNat ∣ 65536 := by
  rw [txMax, h.regs]
  exact dvd_of_tamanos h.tx

theorem txLe (h : Correo r abiertos resto z) : z.txMax.toNat ≤ 16384 := by
  rw [txMax, h.regs]
  exact le_of_tamanos h.tx

theorem pasa (h : Correo r abiertos resto z) (he : ∀ tx rx, e ≠ .atiende tx rx) : Pasa z (z.paso e) :=
  pasa_datagramas (by simp [h.sr]) he

theorem marco_eq (h : Correo r abiertos resto z) : marco z.mr = marcoUdp := marco_udp (by rw [mr, h.regs, h.udp])

/-- A datagram comes. -/
theorem llega (h : Correo r abiertos resto z) (hc : z.cabe (marcoUdp d)) :
    Correo r abiertos resto { z.guarda (marcoUdp d) with llegados := z.llegados ++ [d] } := by
  have hlargo : (marcoUdp d).length = 8 + d.bytes.length := length_marcoUdp
  have hd : [d].flatMap marcoUdp = marcoUdp d := List.flatMap_singleton _ _
  generalize marcoUdp d = m at hc hlargo hd
  obtain ⟨hcola, hcabe⟩ := colaRx_guarda h.rxDvd h.rxLe hc
  refine ⟨h.regs, h.udp, h.tx, h.rx, h.sr, hcabe, ?_, ?_⟩
  · obtain ⟨pend, hlleg, hrx⟩ := h.entra
    refine ⟨pend ++ [d], ?_, ?_⟩
    · show z.llegados ++ [d] = _
      rw [hlleg, List.append_assoc]
    · show (z.guarda m).colaRx = _
      rw [hcola, hrx, List.flatMap_append, List.append_assoc, hd]
  · show ∀ d' ∈ z.llegados ++ [d], d'.bytes.length < 65536
    have hle := h.rxLe
    simp only [cabe, decide_eq_true_eq] at hc
    rw [List.forall_mem_append, List.forall_mem_singleton]
    exact ⟨h.largos, by omega⟩

theorem sigue (h : Correo r abiertos resto z) (hp : Pasa z z') : Correo r abiertos resto z' := by
  cases hp with
  | nada => exact h
  | datagrama hc =>
    rw [h.marco_eq] at hc ⊢
    exact h.llega hc
  | termina hen => exact ⟨h.regs, h.udp, h.tx, h.rx, h.sr, h.cabeRx, h.entra, h.largos⟩
  | vence hen => exact ⟨h.regs, h.udp, h.tx, h.rx, h.sr, h.cabeRx, h.entra, h.largos⟩

/-- The start of the ring is what remains of the last datagram opened. -/
theorem window_eq {n : Nat} (h : Correo r abiertos resto z) (hn : n ≤ resto.length) :
    window z.rxMax.toNat z.rx z.rxVisto.toNat n = resto.take n ∧ n ≤ gap z.rxVisto z.rxWr := by
  obtain ⟨pend, -, hrx⟩ := h.entra
  have hle : n ≤ gap z.rxVisto z.rxWr := by
    have := congrArg List.length hrx
    simp only [colaRx, length_window, List.length_append] at this
    omega
  rw [← take_window hle, ← colaRx, hrx, List.take_append_of_le_length hn]
  exact ⟨rfl, hle⟩

/-- The next datagram is opened when there is one. -/
theorem abre (h : Correo r abiertos [] z) (hhay : 0 < gap z.rxVisto z.rxWr) :
    ∃ d : Datagrama, d.bytes.length < 65536 ∧ Correo r (abiertos ++ [d]) (marcoUdp d) z := by
  obtain ⟨pend, hlleg, hrx⟩ := h.entra
  cases pend with
  | nil =>
    have := congrArg List.length hrx
    simp only [colaRx, length_window, List.flatMap_nil, List.append_nil, List.length_nil] at this
    omega
  | cons d pend =>
    refine ⟨d, h.largos d (by simp [hlleg]), h.regs, h.udp, h.tx, h.rx, h.sr, h.cabeRx, ⟨pend, ?_, ?_⟩, h.largos⟩
    · rw [hlleg, List.append_assoc, List.singleton_append]
    · rw [hrx, List.nil_append, List.flatMap_cons]

/-- A RECV of the bytes read. -/
theorem toma {n : Nat} (h : Correo r abiertos resto z) (hn : n ≤ resto.length) :
    Correo r abiertos (resto.drop n) { z with rxVisto := z.rxVisto + n.toUInt16, cr := cr } := by
  have hle := (h.window_eq hn).2
  refine ⟨h.regs, h.udp, h.tx, h.rx, h.sr, ?_, ?_, h.largos⟩
  · show gap (z.rxVisto + n.toUInt16) z.rxWr ≤ _
    rw [gap_add_left hle]
    exact Nat.le_trans (Nat.sub_le _ _) h.cabeRx
  · obtain ⟨pend, hlleg, hrx⟩ := h.entra
    refine ⟨pend, hlleg, ?_⟩
    show window z.rxMax.toNat z.rx (z.rxVisto + n.toUInt16).toNat (gap (z.rxVisto + n.toUInt16) z.rxWr) = _
    rw [colaRx_drop h.rxDvd hle, hrx, List.drop_append_of_le_length hn]

/-- Writing a register that is not of the configuration. -/
theorem escribe {off : Nat} {b : UInt8} (h : Correo r abiertos resto z) (hmr : SN_MR ≠ off) (htx : SN_TXBUF_SIZE ≠ off)
    (hrx : SN_RXBUF_SIZE ≠ off) :
    Correo (Function.update r off b) abiertos resto { z with regs := Function.update z.regs off b } := by
  have hmax : { z with regs := Function.update z.regs off b }.rxMax = z.rxMax := by
    simp only [rxMax, Function.update_of_ne hrx]
  have hcola : { z with regs := Function.update z.regs off b }.colaRx = z.colaRx := by simp only [colaRx, hmax]
  constructor
  case regs => rw [h.regs]
  case udp =>
    rw [Function.update_of_ne hmr]
    exact h.udp
  case tx =>
    rw [Function.update_of_ne htx]
    exact h.tx
  case rx =>
    rw [Function.update_of_ne hrx]
    exact h.rx
  case sr => exact h.sr
  case cabeRx =>
    rw [hmax]
    exact h.cabeRx
  case entra =>
    rw [hcola]
    exact h.entra
  case largos => exact h.largos

end Correo

end W5500

end Wiznet
