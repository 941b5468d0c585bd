import Wiznet.Tty.Gets
import Mathlib.Data.List.GetD

/-!
# Lines

A line is what arrives while a reader has the patience to wait for it (`linea`); each reader has a patience of its own.
The readers without echo store the line up to the size they are given (`Memoria.guarda`) and a terminator after it.
-/

namespace Wiznet

open Stateful (bind_ok get_bind bind_error)

/-! ### Lines -/

/-- How a line ends: with its line feed, because nothing else comes in time, or never. -/
inductive Cierre where
  | salto
  | silencio
  | nunca
  deriving DecidableEq

/-- The characters of a line, carriage returns left out, how it ends, and what is left of the arrivals so many ticks
later. -/
structure Linea where
  cars : List UInt8
  cierre : Cierre
  queda : List (Nat × UInt8)
  dura : Nat

/-- The same, with some ticks more before it. -/
def Linea.mas (k : Nat) (x : Linea) : Linea := { x with dura := k + x.dura }

/-- A patience that changes as bytes come: `espera p d` is what is left of it once a byte has come after `d` ticks, if
it has lasted that long, `agota p` how long it lasts without one, and `seca` how a line ends when no more bytes come. -/
structure Paciencia (τ : Type) where
  espera : τ → Nat → Option τ
  agota : τ → Nat
  seca : Cierre

section

variable {τ : Type} (P : Paciencia τ)

/-- The line that arrives. -/
def linea : τ → List (Nat × UInt8) → Linea
  | p, [] => ⟨[], P.seca, [], P.agota p⟩
  | p, (d, c) :: l =>
    match P.espera p d with
    | none => ⟨[], .silencio, (d - P.agota p, c) :: l, P.agota p⟩
    | some p' =>
      if c = 0x0D then (linea p' l).mas d
      else if c = 0x0A then ⟨[], .salto, l, d⟩
      else { (linea p' l).mas d with cars := c :: (linea p' l).cars }

variable {P} {p p' : τ} {d : Nat}

theorem linea_corta (h : P.espera p d = none) (c : UInt8) (l : List (Nat × UInt8)) :
    linea P p ((d, c) :: l) = ⟨[], .silencio, (d - P.agota p, c) :: l, P.agota p⟩ := by
  simp [linea, h]

theorem linea_cr (h : P.espera p d = some p') (l : List (Nat × UInt8)) :
    linea P p ((d, 0x0D) :: l) = (linea P p' l).mas d := by
  simp [linea, h]

theorem linea_lf (h : P.espera p d = some p') (l : List (Nat × UInt8)) :
    linea P p ((d, 0x0A) :: l) = ⟨[], .salto, l, d⟩ := by
  simp [linea, h]

theorem linea_car {c : UInt8} (h : P.espera p d = some p') (hr : c ≠ 0x0D) (hn : c ≠ 0x0A) (l : List (Nat × UInt8)) :
    linea P p ((d, c) :: l) = { (linea P p' l).mas d with cars := c :: (linea P p' l).cars } := by
  simp [linea, h, hr, hn]

end

/-! ### Buffers -/

namespace Memoria

/-- The characters of a line are stored from `pos` on while there is room. -/
def guarda (n : Nat) : Nat → Memoria → List UInt8 → Memoria
  | _, b, [] => b
  | pos, b, c :: cs => if pos < n then guarda n (pos + 1) (b.pon pos c) cs else guarda n pos b cs

variable {n : Nat}

theorem guarda_escritos (cs : List UInt8) : ∀ {pos : Nat} {b : Memoria}, pos ≤ n →
    (guarda n pos b cs).escritos = b.escritos ++ List.range' pos (min (pos + cs.length) n - pos) := by
  induction cs with
  | nil =>
    intro pos b h
    have h0 : min (pos + ([] : List UInt8).length) n - pos = 0 := by
      rw [List.length_nil]
      omega
    rw [h0, guarda, List.range'_zero, List.append_nil]
  | cons c cs ih =>
    intro pos b h
    unfold guarda
    by_cases hlt : pos < n
    · rw [if_pos hlt, ih (by omega), List.length_cons, show min (pos + (cs.length + 1)) n - pos =
        (min (pos + 1 + cs.length) n - (pos + 1)) + 1 by omega, List.range'_succ]
      simp [pon]
    · rw [if_neg hlt, ih h, List.length_cons, show min (pos + (cs.length + 1)) n - pos = 0 by omega,
        show min (pos + cs.length) n - pos = 0 by omega]

theorem guarda_mem (cs : List UInt8) : ∀ {pos : Nat} {b : Memoria} (i : Nat),
    (guarda n pos b cs).mem i = if pos ≤ i ∧ i < min (pos + cs.length) n then cs.getD (i - pos) 0 else b.mem i := by
  induction cs with
  | nil =>
    intro pos b i
    rw [if_neg (by simp; omega)]
    rfl
  | cons c cs ih =>
    intro pos b i
    unfold guarda
    by_cases hlt : pos < n
    · rw [if_pos hlt, ih, List.length_cons]
      by_cases hi : i = pos
      · subst hi
        rw [if_neg (by omega), if_pos (by omega), Nat.sub_self, List.getD_cons_zero]
        simp [pon]
      · by_cases hin : pos + 1 ≤ i ∧ i < min (pos + 1 + cs.length) n
        · rw [if_pos hin, if_pos (by omega), show i - pos = i - (pos + 1) + 1 by omega, List.getD_cons_succ]
        · rw [if_neg hin, if_neg (by omega)]
          simp [pon, hi]
    · rw [if_neg hlt, ih, List.length_cons, if_neg (by omega), if_neg (by omega)]

end Memoria

/-- The position after one character more, if there is room for it. -/
def posTrasUno (n pos : UInt16) : UInt16 := if pos < n then pos + 1 else pos

/-- The buffer with one character more, if there is room for it. -/
def Memoria.guardaUno (n pos : UInt16) (b : Memoria) (c : UInt8) : Memoria := if pos < n then b.pon pos.toNat c else b

theorem posTrasUno_toNat {n pos : UInt16} (h : pos.toNat ≤ n.toNat) :
    (posTrasUno n pos).toNat = min (pos.toNat + 1) n.toNat := by
  have hn := n.toNat_lt
  unfold posTrasUno
  by_cases hlt : pos < n
  · have hlt' : pos.toNat < n.toNat := UInt16.lt_iff_toNat_lt.1 hlt
    rw [if_pos hlt, UInt16.toNat_add, show (1 : UInt16).toNat = 1 from rfl]
    omega
  · have hge : ¬ pos.toNat < n.toNat := fun h => hlt (UInt16.lt_iff_toNat_lt.2 h)
    rw [if_neg hlt]
    omega

theorem Memoria.guarda_cons {n pos : UInt16} (h : pos.toNat ≤ n.toNat) (b : Memoria) (c : UInt8) (cs : List UInt8) :
    guarda n.toNat pos.toNat b (c :: cs) =
      guarda n.toNat (posTrasUno n pos).toNat (guardaUno n pos b c) cs := by
  rw [posTrasUno_toNat h, guarda]
  unfold guardaUno
  by_cases hlt : pos < n
  · have hlt' : pos.toNat < n.toNat := UInt16.lt_iff_toNat_lt.1 hlt
    rw [if_pos hlt', if_pos hlt, Nat.min_eq_left hlt']
  · have hge : ¬ pos.toNat < n.toNat := fun h => hlt (UInt16.lt_iff_toNat_lt.2 h)
    rw [if_neg hge, if_neg hlt, show min (pos.toNat + 1) n.toNat = pos.toNat by omega]

/-- The position after so many characters. -/
def posTras (n pos : UInt16) (k : Nat) : UInt16 := UInt16.ofNat (min (pos.toNat + k) n.toNat)

theorem posTras_toNat (n pos : UInt16) (k : Nat) : (posTras n pos k).toNat = min (pos.toNat + k) n.toNat := by
  have := n.toNat_lt
  unfold posTras
  rw [UInt16.toNat_ofNat']
  omega

theorem posTras_zero {n pos : UInt16} (h : pos.toNat ≤ n.toNat) : posTras n pos 0 = pos := by
  apply UInt16.toNat_inj.1
  rw [posTras_toNat, Nat.add_zero, Nat.min_eq_left h]

theorem posTras_succ {n pos : UInt16} (h : pos.toNat ≤ n.toNat) (k : Nat) :
    posTras n pos (k + 1) = posTras n (posTrasUno n pos) k := by
  apply UInt16.toNat_inj.1
  rw [posTras_toNat, posTras_toNat, posTrasUno_toNat h]
  omega

/-! ### One byte -/

section

variable {s : Tty} {d : Nat} {c : UInt8} {l : List (Nat × UInt8)} {timeout : UInt32}

private theorem chgetchTimeOut_ok {r : Option UInt8} {s₁ : Tty} (h : chnGetTimeout timeout s = .ok r s₁) :
    chgetchTimeOut timeout s = .ok (r.getD 0, if r.isSome then 0 else 1) s₁ := by
  unfold chgetchTimeOut
  rw [bind_ok h]
  cases r <;> rfl

theorem chgetchTimeOut_llega (h : s.llegadas = (d, c) :: l) (hd : timeout = TIME_INFINITE ∨ d ≤ timeout.toNat) :
    chgetchTimeOut timeout s = .ok (c, 0) { s with llegadas := l, reloj := s.reloj + d } := by
  refine chgetchTimeOut_ok (r := some c) ?_
  unfold chnGetTimeout
  rw [get_bind, h]
  dsimp only
  rw [if_pos hd]
  rfl

theorem chgetchTimeOut_tarda (h : s.llegadas = (d, c) :: l)
    (hd : ¬ (timeout = TIME_INFINITE ∨ d ≤ timeout.toNat)) :
    chgetchTimeOut timeout s =
      .ok (0, 1) { s with llegadas := (d - timeout.toNat, c) :: l, reloj := s.reloj + timeout.toNat } := by
  refine chgetchTimeOut_ok (r := none) ?_
  unfold chnGetTimeout
  rw [get_bind, h]
  dsimp only
  rw [if_neg hd]
  rfl

theorem chgetchTimeOut_calla (h : s.llegadas = []) (ht : timeout ≠ TIME_INFINITE) :
    chgetchTimeOut timeout s = .ok (0, 1) { s with reloj := s.reloj + timeout.toNat } := by
  refine chgetchTimeOut_ok (r := none) ?_
  unfold chnGetTimeout
  rw [get_bind, h]
  dsimp only
  rw [if_neg ht]
  rfl

theorem chgetchTimeOut_nunca (h : s.llegadas = []) : chgetchTimeOut TIME_INFINITE s = .error .espera s := by
  have hg : chnGetTimeout TIME_INFINITE s = .error .espera s := by
    unfold chnGetTimeout
    rw [get_bind, h]
    rfl
  unfold chgetchTimeOut
  rw [bind_error hg]

end

/-! ### The reader with one time limit for each byte -/

/-- The same limit for each byte. -/
def pacienciaFija (timeout : UInt32) : Paciencia Unit where
  espera _ d := if timeout = TIME_INFINITE ∨ d ≤ timeout.toNat then some () else none
  agota _ := if timeout = TIME_INFINITE then 0 else timeout.toNat
  seca := if timeout = TIME_INFINITE then .nunca else .silencio

/-- The line as `chgetsNoEchoTimeOut` waits for it. -/
def lineaFija (timeout : UInt32) (l : List (Nat × UInt8)) : Linea := linea (pacienciaFija timeout) () l

/-- What the loop of a reader comes to. -/
def Cierre.resultado (pos : UInt16) (s : Tty) : Cierre → EStateM.Result Detenido Tty (UInt16 × UInt8)
  | salto => .ok (pos, 0) s
  | silencio => .ok (pos, 1) s
  | nunca => .error .espera s

/-- The line has been read, and the buffer is this. -/
def Tty.tras (s : Tty) (x : Linea) (b : Memoria) : Tty where
  llegadas := x.queda
  reloj := s.reloj + x.dura
  stHM10 := s.stHM10
  salida := s.salida
  buffer := b

/-- A round of the loop that gets a byte. -/
theorem noEchoLoop_llega {n : UInt16} {timeout : UInt32} {s s₁ : Tty} {c : UInt8}
    (h : chgetchTimeOut timeout s = .ok (c, 0) s₁) (fuel : Nat) (pos : UInt16) :
    noEchoLoop n timeout (fuel + 1) pos s =
      if c = 0x0D then noEchoLoop n timeout fuel pos s₁
      else if c = 0x0A then .ok (pos, 0) s₁
      else noEchoLoop n timeout fuel (posTrasUno n pos) { s₁ with buffer := s₁.buffer.guardaUno n pos c } := by
  rw [noEchoLoop, bind_ok h]
  dsimp only
  rw [if_neg (fun h => h rfl)]
  unfold posTrasUno Memoria.guardaUno
  split
  · rfl
  · split
    · rfl
    · split <;> rfl

theorem noEchoLoop_vence {n : UInt16} {timeout : UInt32} {s s₁ : Tty}
    (h : chgetchTimeOut timeout s = .ok (0, 1) s₁) (fuel : Nat) (pos : UInt16) :
    noEchoLoop n timeout (fuel + 1) pos s = .ok (pos, 1) s₁ := by
  rw [noEchoLoop, bind_ok h]
  dsimp only
  rw [if_pos (by decide)]
  rfl

theorem noEchoLoop_eq (n : UInt16) (timeout : UInt32) (fuel : Nat) : ∀ {s : Tty} {pos : UInt16},
    s.llegadas.length < fuel → pos.toNat ≤ n.toNat →
    noEchoLoop n timeout fuel pos s =
      (lineaFija timeout s.llegadas).cierre.resultado (posTras n pos (lineaFija timeout s.llegadas).cars.length)
        (s.tras (lineaFija timeout s.llegadas)
          (s.buffer.guarda n.toNat pos.toNat (lineaFija timeout s.llegadas).cars)) := by
  induction fuel with
  | zero =>
    intro s pos h
    exact absurd h (Nat.not_lt_zero _)
  | succ fuel ih =>
    intro s pos hfuel hpos
    cases hl : s.llegadas with
    | nil =>
      by_cases ht : timeout = TIME_INFINITE
      · subst ht
        rw [noEchoLoop, bind_error (chgetchTimeOut_nunca hl)]
        obtain ⟨l, r, st, o, b⟩ := s
        cases hl
        rfl
      · rw [noEchoLoop_vence (chgetchTimeOut_calla hl ht)]
        simp only [lineaFija, linea, pacienciaFija, if_neg ht, List.length_nil, posTras_zero hpos]
        rw [← hl]
        rfl
    | cons e l =>
      obtain ⟨d, c⟩ := e
      rw [hl, List.length_cons] at hfuel
      by_cases hd : timeout = TIME_INFINITE ∨ d ≤ timeout.toNat
      · have hesp : (pacienciaFija timeout).espera () d = some () := if_pos hd
        have hlen : l.length < fuel := Nat.lt_of_succ_lt_succ hfuel
        rw [noEchoLoop_llega (chgetchTimeOut_llega hl hd)]
        unfold lineaFija
        by_cases hr : c = 0x0D
        · subst hr
          rw [if_pos rfl, linea_cr hesp, @ih { s with llegadas := l, reloj := s.reloj + d } pos hlen hpos]
          simp only [Tty.tras, Linea.mas, Nat.add_assoc]
          rfl
        rw [if_neg hr]
        by_cases hn : c = 0x0A
        · subst hn
          rw [if_pos rfl, linea_lf hesp, List.length_nil, posTras_zero hpos]
          rfl
        rw [if_neg hn, linea_car hesp hr hn, List.length_cons, posTras_succ hpos, Memoria.guarda_cons hpos,
          @ih { s with llegadas := l, reloj := s.reloj + d, buffer := s.buffer.guardaUno n pos c } (posTrasUno n pos)
            hlen (by rw [posTrasUno_toNat hpos]; omega)]
        simp only [Tty.tras, Linea.mas, Nat.add_assoc]
        rfl
      · have hesp : (pacienciaFija timeout).espera () d = none := if_neg hd
        have hag : (pacienciaFija timeout).agota () = timeout.toNat := if_neg fun ht => hd (.inl ht)
        rw [noEchoLoop_vence (chgetchTimeOut_tarda hl hd), lineaFija, linea_corta hesp, hag, List.length_nil,
          posTras_zero hpos]
        rfl

/-! ### The reader that looks at the connection -/

/-- Ticks of one part of the wait. -/
def parte : Nat := (ms2i 100).toNat

theorem parte_eq : parte = 1000 := rfl

/-- The parts that pass before the byte must be in the time that is left, with somebody connected at the end of each. -/
def esperaHM10 (st : Nat → Bool) (p : Nat × Nat) (d : Nat) : Option (Nat × Nat) :=
  if parte * ((d - 1) / parte) ≤ p.1 ∧ ∀ i < (d - 1) / parte, st (p.2 + parte * (i + 1)) = true then
    some (p.1 - parte * ((d - 1) / parte), p.2 + d)
  else none

/-- How many parts pass when no byte comes and there is time for so many and one more. -/
def partes (st : Nat → Bool) : Nat → Nat → Nat
  | 0, _ => 1
  | k + 1, reloj => if st (reloj + parte) = true then partes st k (reloj + parte) + 1 else 1

/-- The time left and the clock. -/
def pacienciaHM10 (st : Nat → Bool) : Paciencia (Nat × Nat) where
  espera := esperaHM10 st
  agota p := parte * partes st (p.1 / parte) p.2
  seca := .silencio

/-- The line as `chgetsNoEchoTimeOutHM10` waits for it. -/
def lineaHM10 (st : Nat → Bool) (timeout reloj : Nat) (l : List (Nat × UInt8)) : Linea :=
  linea (pacienciaHM10 st) (timeout, reloj) l

section

variable {st : Nat → Bool} {t r d : Nat}

theorem esperaHM10_pronto (h : d ≤ parte) : (pacienciaHM10 st).espera (t, r) d = some (t, r + d) := by
  rw [parte_eq] at h
  have hk : (d - 1) / parte = 0 := by rw [parte_eq]; omega
  show esperaHM10 st (t, r) d = _
  unfold esperaHM10
  rw [hk]
  simp

/-- One part more. -/
theorem esperaHM10_parte (h : parte < d) :
    (pacienciaHM10 st).espera (t, r) d =
      if parte ≤ t ∧ st (r + parte) = true then (pacienciaHM10 st).espera (t - parte, r + parte) (d - parte)
      else none := by
  have hp := parte_eq
  have hk : (d - 1) / parte = (d - parte - 1) / parte + 1 := by rw [hp] at h ⊢; omega
  have hr : r + parte + (d - parte) = r + d := by omega
  show esperaHM10 st (t, r) d = if _ then esperaHM10 st (t - parte, r + parte) (d - parte) else none
  unfold esperaHM10
  dsimp only
  rw [hk, hr]
  generalize (d - parte - 1) / parte = k
  have hall : (∀ i < k + 1, st (r + parte * (i + 1)) = true) ↔
      st (r + parte) = true ∧ ∀ i < k, st (r + parte + parte * (i + 1)) = true := by
    have hshift : ∀ i, r + parte + parte * (i + 1) = r + parte * (i + 1 + 1) := fun i => by
      rw [Nat.mul_add parte (i + 1), Nat.mul_one]
      omega
    simp only [hshift]
    constructor
    · intro hi
      have := hi 0 (Nat.zero_lt_succ k)
      rw [Nat.zero_add, Nat.mul_one] at this
      exact ⟨this, fun i hk => hi (i + 1) (Nat.succ_lt_succ hk)⟩
    · rintro ⟨h0, hi⟩ i hk
      cases i with
      | zero => rwa [Nat.zero_add, Nat.mul_one]
      | succ i => exact hi i (Nat.lt_of_succ_lt_succ hk)
  have hmul : parte * (k + 1) = parte * k + parte := by rw [Nat.mul_add, Nat.mul_one]
  rw [if_congr (and_congr Iff.rfl hall) rfl rfl, hmul]
  by_cases h1 : parte ≤ t ∧ st (r + parte) = true
  · rw [if_pos h1, show t - (parte * k + parte) = t - parte - parte * k by omega]
    refine if_congr ?_ rfl rfl
    constructor
    · exact fun h2 => ⟨by omega, h2.2.2⟩
    · exact fun h2 => ⟨by have := h1.1; omega, h1.2, h2.2⟩
  · rw [if_neg h1, if_neg]
    exact fun h2 => h1 ⟨by omega, h2.2.1⟩

theorem agotaHM10_parte :
    (pacienciaHM10 st).agota (t, r) =
      if parte ≤ t ∧ st (r + parte) = true then parte + (pacienciaHM10 st).agota (t - parte, r + parte)
      else parte := by
  have hp := parte_eq
  show parte * partes st (t / parte) r =
    if _ then parte + parte * partes st ((t - parte) / parte) (r + parte) else parte
  by_cases ht : parte ≤ t
  · have hk : t / parte = (t - parte) / parte + 1 := by rw [hp] at ht ⊢; omega
    rw [hk, partes]
    by_cases hst : st (r + parte) = true
    · rw [if_pos hst, if_pos ⟨ht, hst⟩, Nat.mul_add, Nat.mul_one, Nat.add_comm]
    · rw [if_neg hst, if_neg fun h => hst h.2, Nat.mul_one]
  · have hk : t / parte = 0 := by rw [hp] at ht ⊢; omega
    rw [hk, partes, if_neg fun h => ht h.1, Nat.mul_one]

end

/-- No byte comes in the next part. -/
def Callado (l : List (Nat × UInt8)) : Prop := ∀ e ∈ l.head?, parte < e.1

/-- The arrivals one part later. -/
def descuenta : List (Nat × UInt8) → List (Nat × UInt8)
  | [] => []
  | (d, c) :: l => (d - parte, c) :: l

theorem length_descuenta (l : List (Nat × UInt8)) : (descuenta l).length = l.length := by
  cases l <;> simp [descuenta]

theorem chgetchTimeOut_callado {s : Tty} (h : Callado s.llegadas) :
    chgetchTimeOut (ms2i 100) s = .ok (0, 1) { s with llegadas := descuenta s.llegadas, reloj := s.reloj + parte } := by
  have hms : ms2i 100 ≠ TIME_INFINITE := by decide
  cases hl : s.llegadas with
  | nil =>
    rw [chgetchTimeOut_calla hl hms]
    simp only [hl, descuenta]
    rfl
  | cons e l =>
    obtain ⟨d, c⟩ := e
    have hd : parte < d := h (d, c) (by simp [hl])
    rw [chgetchTimeOut_tarda hl fun h => h.elim hms (Nat.not_le_of_lt hd)]
    rfl

/-- A part without a byte ends the line or comes off the time. -/
theorem lineaHM10_callado {l : List (Nat × UInt8)} (h : Callado l) (st : Nat → Bool) (t r : Nat) :
    lineaHM10 st t r l =
      if parte ≤ t ∧ st (r + parte) = true then (lineaHM10 st (t - parte) (r + parte) (descuenta l)).mas parte
      else ⟨[], .silencio, descuenta l, parte⟩ := by
  unfold lineaHM10
  cases l with
  | nil =>
    rw [linea, agotaHM10_parte]
    split <;> rfl
  | cons e l =>
    obtain ⟨d, c⟩ := e
    have hd : parte < d := h (d, c) (by simp)
    have hesp := @esperaHM10_parte st t r d hd
    have hag := @agotaHM10_parte st t r
    by_cases hs : parte ≤ t ∧ st (r + parte) = true
    · rw [if_pos hs] at hesp hag ⊢
      rw [descuenta]
      cases he : (pacienciaHM10 st).espera (t - parte, r + parte) (d - parte) with
      | none =>
        rw [linea_corta (hesp.trans he), linea_corta he, hag, Linea.mas, Nat.sub_sub]
      | some p' =>
        have hmas : ∀ x : Linea, x.mas d = (x.mas (d - parte)).mas parte := by
          intro x
          simp only [Linea.mas, ← Nat.add_assoc, Nat.add_sub_cancel' (Nat.le_of_lt hd)]
        by_cases hr : c = 0x0D
        · subst hr
          rw [linea_cr (hesp.trans he), linea_cr he, hmas]
        by_cases hn : c = 0x0A
        · subst hn
          rw [linea_lf (hesp.trans he), linea_lf he, Linea.mas, Nat.add_sub_cancel' (Nat.le_of_lt hd)]
        rw [linea_car (hesp.trans he) hr hn, linea_car he hr hn, hmas]
        rfl
    · rw [if_neg hs] at hesp hag ⊢
      rw [linea_corta hesp, hag]
      rfl

section

variable {n : UInt16} {s s₁ : Tty} {c : UInt8}

theorem noEchoHM10Loop_llega (h : chgetchTimeOut (ms2i 100) s = .ok (c, 0) s₁) (fuel : Nat) (pos : UInt16)
    (timeout : UInt32) :
    noEchoHM10Loop n (fuel + 1) pos timeout s =
      if c = 0x0D then noEchoHM10Loop n fuel pos timeout s₁
      else if c = 0x0A then .ok (pos, 0) s₁
      else noEchoHM10Loop n fuel (posTrasUno n pos) timeout { s₁ with buffer := s₁.buffer.guardaUno n pos c } := by
  rw [noEchoHM10Loop, bind_ok h]
  dsimp only
  rw [if_neg (fun h => h rfl)]
  unfold posTrasUno Memoria.guardaUno
  split
  · rfl
  · split
    · rfl
    · split <;> rfl

/-- A round that gets none: the end, or one part of the time less. -/
theorem noEchoHM10Loop_vence (h : chgetchTimeOut (ms2i 100) s = .ok (0, 1) s₁) (fuel : Nat) (pos : UInt16)
    (timeout : UInt32) :
    noEchoHM10Loop n (fuel + 1) pos timeout s =
      if timeout.toNat < parte then .ok (pos, 1) s₁
      else if s₁.stHM10 s₁.reloj = true then noEchoHM10Loop n fuel pos (timeout - ms2i 100) s₁
      else .ok (pos, 1) { s₁ with buffer := s₁.buffer.pon 0 0 } := by
  rw [noEchoHM10Loop, bind_ok h]
  dsimp only
  rw [if_pos (by decide)]
  by_cases ht : timeout < ms2i 100
  · have ht' : timeout.toNat < parte := UInt32.lt_iff_toNat_lt.1 ht
    rw [if_pos ht, if_pos ht']
    rfl
  · have ht' : ¬ timeout.toNat < parte := fun h => ht (UInt32.lt_iff_toNat_lt.2 h)
    rw [if_neg ht, if_neg ht', bind_ok (show palReadLineSTHM10 s₁ = .ok (s₁.stHM10 s₁.reloj) s₁ from rfl)]
    cases s₁.stHM10 s₁.reloj <;> rfl

end

/-- The line is stored; where the connection has been lost, a terminator goes to the start as well. -/
theorem noEchoHM10Loop_eq (n : UInt16) (fuel : Nat) : ∀ {s : Tty} {pos : UInt16} {timeout : UInt32},
    s.llegadas.length + timeout.toNat / parte < fuel → pos.toNat ≤ n.toNat →
    let x := lineaHM10 s.stHM10 timeout.toNat s.reloj s.llegadas
    ∃ b, (b = s.buffer.guarda n.toNat pos.toNat x.cars ∨
        x.cierre = .silencio ∧ b = (s.buffer.guarda n.toNat pos.toNat x.cars).pon 0 0) ∧
      noEchoHM10Loop n fuel pos timeout s = x.cierre.resultado (posTras n pos x.cars.length) (s.tras x b) := by
  have hp := parte_eq
  have hparte : (ms2i 100).toNat = parte := rfl
  induction fuel with
  | zero =>
    intro s pos timeout h
    exact absurd h (Nat.not_lt_zero _)
  | succ fuel ih =>
    intro s pos timeout hfuel hpos x
    by_cases hcal : Callado s.llegadas
    · have hx : x = _ := lineaHM10_callado hcal s.stHM10 timeout.toNat s.reloj
      rw [noEchoHM10Loop_vence (chgetchTimeOut_callado hcal)]
      by_cases ht : timeout.toNat < parte
      · rw [if_neg fun h => absurd ht (Nat.not_lt_of_le h.1)] at hx
        rw [if_pos ht, hx, List.length_nil, posTras_zero hpos]
        exact ⟨_, .inl rfl, rfl⟩
      rw [if_neg ht]
      dsimp only
      by_cases hst : s.stHM10 (s.reloj + parte) = true
      · have hsub : (timeout - ms2i 100).toNat = timeout.toNat - parte :=
          UInt32.toNat_sub_of_le _ _ (UInt32.le_iff_toNat_le.2 (by rw [hparte]; omega))
        rw [if_pos ⟨Nat.le_of_not_lt ht, hst⟩] at hx
        obtain ⟨b, hb, e⟩ := @ih { s with llegadas := descuenta s.llegadas, reloj := s.reloj + parte } pos
          (timeout - ms2i 100) (by simp only [length_descuenta, hsub]; rw [hp] at hfuel ht ⊢; omega) hpos
        rw [hsub] at hb e
        rw [if_pos hst, e, hx]
        refine ⟨b, hb, ?_⟩
        simp only [Tty.tras, Linea.mas, Nat.add_assoc]
      · rw [if_neg fun h => hst h.2] at hx
        rw [if_neg hst, hx, List.length_nil, posTras_zero hpos]
        exact ⟨_, .inr ⟨rfl, rfl⟩, rfl⟩
    · obtain ⟨d, c, l, hl, hd⟩ : ∃ d c l, s.llegadas = (d, c) :: l ∧ d ≤ parte := by
        unfold Callado at hcal
        cases hl : s.llegadas with
        | nil => simp [hl] at hcal
        | cons e l => exact ⟨e.1, e.2, l, rfl, by simpa [hl] using hcal⟩
      have hesp := @esperaHM10_pronto s.stHM10 timeout.toNat s.reloj d hd
      rw [hl, List.length_cons] at hfuel
      have hx : x = lineaHM10 s.stHM10 timeout.toNat s.reloj ((d, c) :: l) := by rw [← hl]
      rw [noEchoHM10Loop_llega (chgetchTimeOut_llega hl (.inr hd)), hx]
      unfold lineaHM10
      by_cases hr : c = 0x0D
      · subst hr
        rw [if_pos rfl, linea_cr hesp]
        obtain ⟨b, hb, e⟩ := @ih { s with llegadas := l, reloj := s.reloj + d } pos timeout
          (by show l.length + _ < _; omega) hpos
        refine ⟨b, hb, ?_⟩
        rw [e]
        simp only [Tty.tras, Linea.mas, lineaHM10, Nat.add_assoc]
      rw [if_neg hr]
      by_cases hn : c = 0x0A
      · subst hn
        rw [if_pos rfl, linea_lf hesp, List.length_nil, posTras_zero hpos]
        exact ⟨_, .inl rfl, rfl⟩
      rw [if_neg hn, linea_car hesp hr hn, List.length_cons, posTras_succ hpos, Memoria.guarda_cons hpos]
      obtain ⟨b, hb, e⟩ := @ih { s with llegadas := l, reloj := s.reloj + d, buffer := s.buffer.guardaUno n pos c }
        (posTrasUno n pos) timeout (by show l.length + _ < _; omega) (by rw [posTrasUno_toNat hpos]; omega)
      refine ⟨b, hb, ?_⟩
      rw [e]
      simp only [Tty.tras, Linea.mas, lineaHM10, Nat.add_assoc]

/-! ### The two readers without echo -/

/-- `*huboTimeout` after the line. -/
def Cierre.hubo : Cierre → UInt8
  | salto => 0
  | _ => 1

theorem Cierre.resultado_ok {c : Cierre} (h : c ≠ .nunca) (pos : UInt16) (s : Tty) :
    c.resultado pos s = .ok (pos, c.hubo) s := by
  cases c with
  | salto => rfl
  | silencio => rfl
  | nunca => exact absurd rfl h

theorem linea_ne_nunca {τ : Type} {P : Paciencia τ} (h : P.seca ≠ .nunca) (l : List (Nat × UInt8)) :
    ∀ p, (linea P p l).cierre ≠ .nunca := by
  induction l with
  | nil => intro p; exact h
  | cons e l ih =>
    intro p
    obtain ⟨d, c⟩ := e
    cases he : P.espera p d with
    | none =>
      rw [linea_corta he]
      exact nofun
    | some p' =>
      by_cases hr : c = 0x0D
      · subst hr
        rw [linea_cr he]
        exact ih p'
      by_cases hn : c = 0x0A
      · subst hn
        rw [linea_lf he]
        exact nofun
      rw [linea_car he hr hn]
      exact ih p'

theorem lineaHM10_ne_nunca (st : Nat → Bool) (timeout reloj : Nat) (l : List (Nat × UInt8)) :
    (lineaHM10 st timeout reloj l).cierre ≠ .nunca := linea_ne_nunca (by simp [pacienciaHM10]) l _

section

variable (n : UInt16) (timeout : UInt32) (s : Tty)

theorem chgetsNoEchoTimeOut_ok (h : (lineaFija timeout s.llegadas).cierre ≠ .nunca) :
    let x := lineaFija timeout s.llegadas
    chgetsNoEchoTimeOut n timeout s =
      .ok x.cierre.hubo (s.tras x ((s.buffer.guarda n.toNat 0 x.cars).pon (min x.cars.length n.toNat) 0)) := by
  intro x
  have e := @noEchoLoop_eq n timeout (s.llegadas.length + 1) s 0 (Nat.lt_succ_self _) (Nat.zero_le _)
  have hpos := posTras_toNat n 0 x.cars.length
  rw [show (0 : UInt16).toNat = 0 from rfl, Nat.zero_add] at hpos
  rw [Cierre.resultado_ok h] at e
  unfold chgetsNoEchoTimeOut
  rw [get_bind, bind_ok e]
  dsimp only
  rw [hpos]
  rfl

theorem chgetsNoEchoTimeOut_nunca (h : (lineaFija timeout s.llegadas).cierre = .nunca) :
    let x := lineaFija timeout s.llegadas
    chgetsNoEchoTimeOut n timeout s = .error .espera (s.tras x (s.buffer.guarda n.toNat 0 x.cars)) := by
  intro x
  have e := @noEchoLoop_eq n timeout (s.llegadas.length + 1) s 0 (Nat.lt_succ_self _) (Nat.zero_le _)
  rw [h] at e
  unfold chgetsNoEchoTimeOut
  rw [get_bind, bind_error e]
  rfl

theorem chgetsNoEchoTimeOutHM10_ok :
    let x := lineaHM10 s.stHM10 timeout.toNat s.reloj s.llegadas
    ∃ b, (b = s.buffer.guarda n.toNat 0 x.cars ∨
        x.cierre = .silencio ∧ b = (s.buffer.guarda n.toNat 0 x.cars).pon 0 0) ∧
      chgetsNoEchoTimeOutHM10 n timeout s =
        .ok x.cierre.hubo (s.tras x (b.pon (min x.cars.length n.toNat) 0)) := by
  intro x
  obtain ⟨b, hb, e⟩ := @noEchoHM10Loop_eq n (s.llegadas.length + timeout.toNat / (ms2i 100).toNat + 1)
    s 0 timeout (Nat.lt_succ_self _) (Nat.zero_le _)
  have hpos := posTras_toNat n 0 x.cars.length
  rw [show (0 : UInt16).toNat = 0 from rfl, Nat.zero_add] at hpos
  rw [Cierre.resultado_ok (lineaHM10_ne_nunca _ _ _ _)] at e
  refine ⟨b, hb, ?_⟩
  unfold chgetsNoEchoTimeOutHM10
  rw [get_bind, bind_ok e]
  dsimp only
  rw [hpos]
  rfl

end

/-! ### What `limpiaBuffer` leaves -/

/-- The arrivals that come after a pause of 10 ms, and the time until the end of that pause. -/
def trasPausa : List (Nat × UInt8) → List (Nat × UInt8) × Nat
  | [] => ([], (ms2i 10).toNat)
  | (d, c) :: l =>
    if d ≤ (ms2i 10).toNat then ((trasPausa l).1, d + (trasPausa l).2)
    else ((d - (ms2i 10).toNat, c) :: l, (ms2i 10).toNat)

/-- The console once there has been such a pause. -/
def Tty.trasPausa (s : Tty) : Tty where
  llegadas := (Wiznet.trasPausa s.llegadas).1
  reloj := s.reloj + (Wiznet.trasPausa s.llegadas).2
  stHM10 := s.stHM10
  salida := s.salida
  buffer := s.buffer

theorem limpiaBufferLoop_eq (fuel : Nat) : ∀ {s : Tty}, s.llegadas.length < fuel →
    limpiaBufferLoop fuel s = .ok () s.trasPausa := by
  have hms : ms2i 10 ≠ TIME_INFINITE := by decide
  induction fuel with
  | zero =>
    intro s h
    exact absurd h (Nat.not_lt_zero _)
  | succ fuel ih =>
    intro s hfuel
    unfold Tty.trasPausa
    cases hl : s.llegadas with
    | nil =>
      rw [limpiaBufferLoop, bind_ok (chgetchTimeOut_calla hl hms)]
      dsimp only
      rw [if_pos (by decide), hl]
      rfl
    | cons e l =>
      obtain ⟨d, c⟩ := e
      rw [hl, List.length_cons] at hfuel
      by_cases hd : d ≤ (ms2i 10).toNat
      · rw [limpiaBufferLoop, bind_ok (chgetchTimeOut_llega hl (.inr hd))]
        dsimp only
        rw [if_neg (fun h => h rfl), @ih { s with llegadas := l, reloj := s.reloj + d } (Nat.lt_of_succ_lt_succ hfuel)]
        simp only [Tty.trasPausa, Wiznet.trasPausa, if_pos hd, Nat.add_assoc]
      · rw [limpiaBufferLoop, bind_ok (chgetchTimeOut_tarda hl fun h => h.elim hms hd)]
        dsimp only
        rw [if_pos (by decide)]
        simp only [Wiznet.trasPausa, if_neg hd]
        rfl

theorem limpiaBuffer_eq (s : Tty) : limpiaBuffer s = .ok () s.trasPausa := by
  unfold limpiaBuffer
  rw [get_bind]
  exact limpiaBufferLoop_eq _ (Nat.lt_succ_self _)

end Wiznet
