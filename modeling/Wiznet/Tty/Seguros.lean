import Wiznet.Tty.Lineas

/-!
# What the readers do to their buffers

The terminator is written after what has been kept, so a line that fills the buffer puts it behind the buffer.
-/

namespace Wiznet

open Stateful (bind_ok get_bind bind_error final)

/-! ### Inside the buffer -/

/-- Since `b`, only indexes below `n` have been written. -/
def Dentro (n : Nat) (b b' : Memoria) : Prop := ∃ w, b'.escritos = b.escritos ++ w ∧ ∀ i ∈ w, i < n

namespace Dentro

variable {n : Nat} {b b' b'' : Memoria}

theorem refl (n : Nat) (b : Memoria) : Dentro n b b := ⟨[], by simp, by simp⟩

theorem trans (h : Dentro n b b') (h' : Dentro n b' b'') : Dentro n b b'' := by
  obtain ⟨w, hw, hn⟩ := h
  obtain ⟨w', hw', hn'⟩ := h'
  refine ⟨w ++ w', by rw [hw', hw, List.append_assoc], fun i hi => ?_⟩
  rcases List.mem_append.1 hi with hi | hi
  · exact hn i hi
  · exact hn' i hi

theorem pon (b : Memoria) {i : Nat} (hi : i < n) (v : UInt8) : Dentro n b (b.pon i v) :=
  ⟨[i], rfl, fun j hj => by rw [List.mem_singleton.1 hj]; exact hi⟩

theorem guarda (b : Memoria) (cs : List UInt8) : Dentro n b (b.guarda n 0 cs) := by
  refine ⟨_, Memoria.guarda_escritos cs (Nat.zero_le n), fun i hi => ?_⟩
  simp only [List.mem_range'_1] at hi
  omega

/-- A last write in its place. -/
theorem pon_iff {i : Nat} {v : UInt8} (h : Dentro n b b') : Dentro n b (b'.pon i v) ↔ i < n := by
  constructor
  · rintro ⟨w, hw, hn⟩
    obtain ⟨w', hw', -⟩ := h
    have hcat : b.escritos ++ (w' ++ [i]) = b.escritos ++ w := by
      rw [← List.append_assoc, ← hw', ← hw]
      rfl
    exact hn i (List.append_cancel_left hcat ▸ by simp)
  · exact fun hi => h.trans (pon b' hi v)

end Dentro

/-- A reader that writes inside its buffer only, and either waits for ever or returns with this. -/
structure Contenido {α : Type} (n : Nat) (Q : α → Tty → Prop) (x : TtyM α) (s : Tty) : Prop where
  dentro : Dentro n s.buffer (final (x s)).buffer
  vuelve : ∀ a s', x s = .ok a s' → Q a s'
  espera : ∀ e s', x s = .error e s' → e = .espera

/-- A reader of lines that stays in its buffer and ends the line there. -/
def Seguro {α : Type} (n : Nat) : TtyM α → Tty → Prop := Contenido n fun _ s' => ∃ i < n, s'.buffer.mem i = 0

/-- The same for the reader of the display: its buffer holds a message of so many bytes, and no terminator. -/
def SeguroNextion (n : Nat) : TtyM (UInt16 × UInt8) → Tty → Prop := Contenido n fun a _ => a.1.toNat ≤ n

section

variable {α : Type} {n : Nat} {Q : α → Tty → Prop} {x y : TtyM α} {s s' : Tty}

theorem contenido_ok {a : α} (hx : x s = .ok a s') (hb : Dentro n s.buffer s'.buffer) (hQ : Q a s') :
    Contenido n Q x s := by
  refine ⟨?_, ?_, ?_⟩
  · rw [hx]
    exact hb
  · intro a' s'' e
    rw [hx] at e
    cases e
    exact hQ
  · intro e s'' h
    rw [hx] at h
    cases h

theorem contenido_de_espera (hx : x s = .error .espera s') (hb : Dentro n s.buffer s'.buffer) : Contenido n Q x s := by
  refine ⟨?_, ?_, ?_⟩
  · rw [hx]
    exact hb
  · intro a s'' e
    rw [hx] at e
    cases e
  · intro e s'' h
    rw [hx] at h
    cases h
    rfl

/-- A step inside the buffer before the rest. -/
theorem Contenido.tras (h : Contenido n Q y s') (hx : x s = y s') (hb : Dentro n s.buffer s'.buffer) :
    Contenido n Q x s := by
  refine ⟨?_, ?_, ?_⟩
  · rw [hx]
    exact hb.trans h.dentro
  · intro a s'' e
    rw [hx] at e
    exact h.vuelve a s'' e
  · intro e s'' he
    rw [hx] at he
    exact h.espera e s'' he

/-- The one terminator goes behind what has been kept. -/
theorem seguro_iff {a : α} {b : Memoria} {k : Nat} (hx : x s = .ok a s') (hb : Dentro n s.buffer b)
    (hs' : s'.buffer = b.pon k 0) : Seguro n x s ↔ k < n := by
  constructor
  · intro h
    have hd := h.dentro
    rw [hx, Stateful.final_ok, hs'] at hd
    exact hb.pon_iff.1 hd
  · intro hk
    refine contenido_ok hx ?_ ⟨k, hk, ?_⟩
    · rw [hs']
      exact hb.pon_iff.2 hk
    · rw [hs']
      simp [Memoria.pon]

end

/-! ### The two readers without echo -/

theorem seguro_chgetsNoEchoTimeOut (n : UInt16) (timeout : UInt32) (s : Tty) :
    Seguro n.toNat (chgetsNoEchoTimeOut n timeout) s ↔
      (lineaFija timeout s.llegadas).cierre = .nunca ∨ (lineaFija timeout s.llegadas).cars.length < n.toNat := by
  have hb : Dentro n.toNat s.buffer (s.buffer.guarda n.toNat 0 (lineaFija timeout s.llegadas).cars) := .guarda _ _
  by_cases h : (lineaFija timeout s.llegadas).cierre = .nunca
  · exact iff_of_true (contenido_de_espera (chgetsNoEchoTimeOut_nunca n timeout s h) hb) (.inl h)
  · rw [seguro_iff (chgetsNoEchoTimeOut_ok n timeout s h) hb rfl]
    simp only [h, false_or]
    omega

theorem seguro_chgetsNoEchoTimeOutHM10 (n : UInt16) (timeout : UInt32) (s : Tty) :
    Seguro n.toNat (chgetsNoEchoTimeOutHM10 n timeout) s ↔
      (lineaHM10 s.stHM10 timeout.toNat s.reloj s.llegadas).cars.length < n.toNat := by
  obtain ⟨b, hor, e⟩ := chgetsNoEchoTimeOutHM10_ok n timeout s
  have hg : Dentro n.toNat s.buffer
      (s.buffer.guarda n.toNat 0 (lineaHM10 s.stHM10 timeout.toNat s.reloj s.llegadas).cars) := .guarda _ _
  rcases hor with rfl | ⟨-, rfl⟩
  · rw [seguro_iff e hg rfl]
    omega
  · -- somebody has gone: the start of the buffer gets a terminator first
    by_cases hn : 0 < n.toNat
    · rw [seguro_iff e (hg.trans (.pon _ hn 0)) rfl]
      omega
    · refine iff_of_false (fun h => ?_) (by omega)
      obtain ⟨i, hi, -⟩ := h.vuelve _ _ e
      omega

/-! ### The reader of the display -/

section

variable {n : UInt16} {timeout : UInt32} {s s₁ : Tty} {c : UInt8}

theorem Dentro.guardaUno {numBytes : UInt16} (b : Memoria) (c : UInt8) :
    Dentro n.toNat b (b.guardaUno n numBytes c) := by
  unfold Memoria.guardaUno
  by_cases hlt : numBytes < n
  · rw [if_pos hlt]
    exact .pon b (UInt16.lt_iff_toNat_lt.1 hlt) c
  · rw [if_neg hlt]
    exact .refl _ b

theorem nextionLoop_llega (h : chgetchTimeOut timeout s = .ok (c, 0) s₁) (fuel : Nat) (numBytes : UInt16) :
    nextionLoop n timeout (fuel + 1) numBytes s =
      if 1 < posTrasUno n numBytes ∧ (s₁.buffer.guardaUno n numBytes c).mem 0 = 0x40 ∧ c = 0 then
        .ok (posTrasUno n numBytes, 0) { s₁ with buffer := s₁.buffer.guardaUno n numBytes c }
      else nextionLoop n timeout fuel (posTrasUno n numBytes)
        { s₁ with buffer := s₁.buffer.guardaUno n numBytes c } := by
  rw [nextionLoop, bind_ok h]
  dsimp only
  rw [if_neg (fun h => h rfl)]
  unfold posTrasUno Memoria.guardaUno
  by_cases hlt : numBytes < n
  · simp only [if_pos hlt]
    rw [bind_ok (show ponByte numBytes.toNat c s₁ =
        .ok () { s₁ with buffer := s₁.buffer.pon numBytes.toNat c } from rfl),
      pure_bind, get_bind]
    split <;> rfl
  · simp only [if_neg hlt]
    rw [pure_bind, get_bind]
    split <;> rfl

theorem nextionLoop_vence (h : chgetchTimeOut timeout s = .ok (0, 1) s₁) (fuel : Nat) (numBytes : UInt16) :
    nextionLoop n timeout (fuel + 1) numBytes s = .ok (numBytes, 1) s₁ := by
  rw [nextionLoop, bind_ok h]
  dsimp only
  rw [if_pos (by decide)]
  rfl

end

theorem seguro_nextionLoop (n : UInt16) (timeout : UInt32) (fuel : Nat) : ∀ {s : Tty} {numBytes : UInt16},
    s.llegadas.length < fuel → numBytes.toNat ≤ n.toNat →
    SeguroNextion n.toNat (nextionLoop n timeout fuel numBytes) s := by
  induction fuel with
  | zero =>
    intro s numBytes h
    exact absurd h (Nat.not_lt_zero _)
  | succ fuel ih =>
    intro s numBytes hfuel hn
    cases hl : s.llegadas with
    | nil =>
      by_cases ht : timeout = TIME_INFINITE
      · subst ht
        refine contenido_de_espera ?_ (.refl _ _)
        rw [nextionLoop, bind_error (chgetchTimeOut_nunca hl)]
      · exact contenido_ok (nextionLoop_vence (chgetchTimeOut_calla hl ht) fuel numBytes) (.refl _ _) hn
    | cons e l =>
      obtain ⟨d, c⟩ := e
      rw [hl, List.length_cons] at hfuel
      by_cases hd : timeout = TIME_INFINITE ∨ d ≤ timeout.toNat
      · have hpos : (posTrasUno n numBytes).toNat ≤ n.toNat := by
          rw [posTrasUno_toNat hn]
          exact Nat.min_le_right ..
        have hstep := nextionLoop_llega (n := n) (chgetchTimeOut_llega hl hd) fuel numBytes
        split at hstep
        · exact contenido_ok hstep (.guardaUno _ _) hpos
        · exact (ih (by exact Nat.lt_of_succ_lt_succ hfuel) hpos).tras hstep (.guardaUno _ _)
      · exact contenido_ok (nextionLoop_vence (chgetchTimeOut_tarda hl hd) fuel numBytes) (.refl _ _) hn

theorem seguro_chgetNextionNoEchoTimeOut (n : UInt16) (timeout : UInt32) (s : Tty) :
    SeguroNextion n.toNat (chgetNextionNoEchoTimeOut n timeout) s :=
  (seguro_nextionLoop n timeout (s.llegadas.length + 1) (Nat.lt_succ_self _) (Nat.zero_le _)).tras
    (x := chgetNextionNoEchoTimeOut n timeout) rfl (.refl _ _)

/-! ### The reader with echo -/

/-- What the keys do to the line being typed. -/
inductive Tecla where
  | fin
  | caracter
  | borra
  | nada
  deriving DecidableEq

def teclaDe (c : UInt8) : Tecla :=
  if c = 0x0A ∨ c = 0x0D then .fin else if c = 8 then .borra else if 0x20 ≤ c then .caracter else .nada

/-- The bytes of an arrow are one key; the last key may be incomplete. -/
def teclas : List UInt8 → List Tecla
  | [] => []
  | c :: l =>
    if c ≠ 0x1b then teclaDe c :: teclas l
    else match l with
      | [] => []
      | c1 :: l1 =>
        if c1 ≠ 0x5b then .nada :: teclas l1
        else match l1 with
          | [] => []
          | c2 :: l2 => (if c2 = 0x44 then .borra else .nada) :: teclas l2

/-- Where a key leaves the cursor. -/
def Tecla.mueve (pos : Nat) : Tecla → Nat
  | caracter => pos + 1
  | borra => pos - 1
  | _ => pos

/-- From this position the cursor comes to `n` before the line ends. -/
def LlegaDesde (n pos : Nat) (ks : List Tecla) : Prop :=
  ∃ k, Tecla.fin ∉ ks.take k ∧ (ks.take k).foldl Tecla.mueve pos = n

/-- The line as it is typed gets `n` characters long. -/
def LlegaA (n : Nat) (bytes : List UInt8) : Prop := LlegaDesde n 0 (teclas bytes)

/-- Where the loop ends, if it does: at the size or at the end of the line. -/
def edita (n : Nat) : Nat → List Tecla → Option Nat
  | pos, [] => if n ≤ pos then some pos else none
  | pos, k :: ks => if n ≤ pos then some pos else if k = .fin then some pos else edita n (k.mueve pos) ks

theorem edita_iff {n : Nat} (ks : List Tecla) : ∀ {pos : Nat}, pos ≤ n →
    (∀ p, edita n pos ks = some p → p ≤ n) ∧ (edita n pos ks = some n ↔ LlegaDesde n pos ks) := by
  induction ks with
  | nil =>
    intro pos h
    unfold edita LlegaDesde
    by_cases hn : n ≤ pos
    · have : pos = n := by omega
      subst this
      simp
    · rw [if_neg hn]
      refine ⟨by simp, iff_of_false (by simp) ?_⟩
      rintro ⟨k, -, hk⟩
      simp at hk
      omega
  | cons t ks ih =>
    intro pos h
    unfold edita
    by_cases hn : n ≤ pos
    · have : pos = n := by omega
      subst this
      rw [if_pos hn]
      exact ⟨by simp, iff_of_true rfl ⟨0, by simp, rfl⟩⟩
    rw [if_neg hn]
    by_cases hf : t = .fin
    · subst hf
      rw [if_pos rfl]
      refine ⟨fun p hp => by cases hp; exact h, iff_of_false (fun hp => by cases hp; omega) ?_⟩
      rintro ⟨k, hk, hpos⟩
      cases k with
      | zero => exact hn (Nat.le_of_eq (Eq.symm hpos))
      | succ k => exact hk (by simp)
    · have hm : t.mueve pos ≤ n := by
        cases t <;> simp only [Tecla.mueve] <;> omega
      rw [if_neg hf]
      refine ⟨(ih hm).1, (ih hm).2.trans ⟨?_, ?_⟩⟩
      · rintro ⟨k, hk, hpos⟩
        exact ⟨k + 1, by simp [hk, Ne.symm hf], hpos⟩
      · rintro ⟨k, hk, hpos⟩
        cases k with
        | zero => exact absurd (Nat.le_of_eq (Eq.symm hpos)) hn
        | succ k =>
          rw [List.take_succ_cons, List.mem_cons, not_or] at hk
          exact ⟨k, hk.2, hpos⟩

theorem edita_lleno {n pos : Nat} (h : n ≤ pos) (ks : List Tecla) : edita n pos ks = some pos := by
  cases ks <;> simp [edita, h]

theorem edita_fin {n pos : Nat} (h : ¬ n ≤ pos) (ks : List Tecla) : edita n pos (.fin :: ks) = some pos := by
  simp [edita, h]

theorem edita_sigue {n pos : Nat} (h : ¬ n ≤ pos) {k : Tecla} (hk : k ≠ .fin) (ks : List Tecla) :
    edita n pos (k :: ks) = edita n (k.mueve pos) ks := by
  simp [edita, h, hk]

section

variable {c : UInt8} {l : List UInt8}

theorem teclas_otra (hc : c ≠ 0x1b) : teclas (c :: l) = teclaDe c :: teclas l := by
  rw [teclas.eq_def]
  simp [hc]

theorem teclas_escape : teclas [0x1b] = [] := rfl

theorem teclas_escape_otra (hc : c ≠ 0x5b) : teclas (0x1b :: c :: l) = .nada :: teclas l := by
  rw [teclas.eq_def]
  simp [hc]

theorem teclas_flecha_corta : teclas [0x1b, 0x5b] = [] := rfl

theorem teclas_flecha : teclas (0x1b :: 0x5b :: c :: l) = (if c = 0x44 then .borra else .nada) :: teclas l := by
  rw [teclas.eq_def]
  simp

end

theorem streamGet_llega {s : Tty} {d : Nat} {c : UInt8} {l : List (Nat × UInt8)} (h : s.llegadas = (d, c) :: l) :
    chgetch s = .ok c { s with llegadas := l, reloj := s.reloj + d } := by
  unfold chgetch streamGet
  rw [get_bind, h]
  rfl

theorem streamGet_calla {s : Tty} (h : s.llegadas = []) : chgetch s = .error .espera s := by
  unfold chgetch streamGet
  rw [get_bind, h]
  rfl

/-- What the loop comes to: without an end of the line it waits for ever. -/
def resultadoEdicion (s : Tty) : Option Nat → EStateM.Result Detenido Tty Nat
  | some pos => .ok pos s
  | none => .error .espera s

section

variable {n : UInt8} {s : Tty} {pos d : Nat} {c : UInt8} {l : List (Nat × UInt8)}

/-- A round of the loop, once it has its first byte. -/
theorem chgetsLoop_llega (hl : s.llegadas = (d, c) :: l) (hn : ¬ n.toNat ≤ pos) (fuel : Nat) :
    chgetsLoop n (fuel + 1) pos s =
      let s₁ : Tty := { s with llegadas := l, reloj := s.reloj + d }
      if c = 0x0A ∨ c = 0x0D then .ok pos { s₁ with salida := s₁.salida ++ [.byte c] }
      else if c = 8 ∧ 0 < pos then chgetsLoop n fuel (pos - 1) { s₁ with salida := s₁.salida ++ [.byte c] }
      else if 0x20 ≤ c then
        chgetsLoop n fuel (pos + 1) { s₁ with salida := s₁.salida ++ [.byte c], buffer := s₁.buffer.pon pos c }
      else if c = 0x1b then
        (do
          let ch1 ← chgetch
          if ch1 ≠ 0x5b then chgetsLoop n fuel pos
          else
            let ch2 ← chgetch
            if ch2 = 0x44 ∧ 0 < pos then
              streamPut 8
              chgetsLoop n fuel (pos - 1)
            else chgetsLoop n fuel pos : TtyM Nat) s₁
      else chgetsLoop n fuel pos s₁ := by
  rw [chgetsLoop, if_neg hn, bind_ok (streamGet_llega hl)]
  dsimp only
  split
  · rfl
  · split
    · rfl
    · split
      · rfl
      · split <;> rfl

/-- What a round of the loop does with the next key. -/
inductive Pulsacion (n : UInt8) (fuel pos : Nat) (s : Tty) : Prop
  | calla (s₁ : Tty) (eq : chgetsLoop n (fuel + 1) pos s = .error .espera s₁) (buffer_eq : s₁.buffer = s.buffer)
      (teclas_eq : teclas s.bytes = [])
  | fin (s₁ : Tty) (eq : chgetsLoop n (fuel + 1) pos s = .ok pos s₁) (buffer_eq : s₁.buffer = s.buffer)
      (ks : List Tecla) (teclas_eq : teclas s.bytes = .fin :: ks)
  | sigue (k : Tecla) (s₁ : Tty) (eq : chgetsLoop n (fuel + 1) pos s = chgetsLoop n fuel (k.mueve pos) s₁)
      (dentro : Dentro n.toNat s.buffer s₁.buffer) (menos : s₁.llegadas.length < s.llegadas.length)
      (ne_fin : k ≠ .fin) (teclas_eq : teclas s.bytes = k :: teclas s₁.bytes)

theorem pulsacion_byte (hl : s.llegadas = (d, c) :: l) (hc : c ≠ 0x1b) (hn : ¬ n.toNat ≤ pos) (fuel : Nat) :
    Pulsacion n fuel pos s := by
  have hround := chgetsLoop_llega hl hn fuel
  have hks : teclas s.bytes = teclaDe c :: teclas (l.map Prod.snd) := by
    rw [Tty.bytes, hl, List.map_cons, teclas_otra hc]
  have hlen : l.length < s.llegadas.length := by simp [hl]
  unfold teclaDe at hks
  dsimp only at hround
  by_cases hfin : c = 0x0A ∨ c = 0x0D
  · rw [if_pos hfin] at hround hks
    exact .fin _ hround rfl _ hks
  rw [if_neg hfin] at hround hks
  by_cases hbs : c = 8
  · rw [if_pos hbs] at hks
    by_cases hp : 0 < pos
    · rw [if_pos ⟨hbs, hp⟩] at hround
      exact .sigue .borra _ hround (.refl _ _) hlen (by decide) hks
    · -- nothing to rub out
      obtain rfl : pos = 0 := by omega
      rw [if_neg (fun h => hp h.2), if_neg (by rw [hbs]; decide), if_neg hc] at hround
      exact .sigue .borra _ hround (.refl _ _) hlen (by decide) hks
  rw [if_neg hbs] at hks
  rw [if_neg (fun h => hbs h.1)] at hround
  by_cases hcar : 0x20 ≤ c
  · rw [if_pos hcar] at hround hks
    exact .sigue .caracter _ hround (.pon _ (by omega) c) hlen (by decide) hks
  · rw [if_neg hcar] at hks
    rw [if_neg hcar, if_neg hc] at hround
    exact .sigue .nada _ hround (.refl _ _) hlen (by decide) hks

theorem pulsacion_escape (hl : s.llegadas = (d, 0x1b) :: l) (hn : ¬ n.toNat ≤ pos) (fuel : Nat) :
    Pulsacion n fuel pos s := by
  have hround := chgetsLoop_llega hl hn fuel
  rw [if_neg (by decide), if_neg (fun h => absurd h.1 (by decide)), if_neg (by decide), if_pos rfl] at hround
  have hbytes : s.bytes = 0x1b :: l.map Prod.snd := by rw [Tty.bytes, hl, List.map_cons]
  cases l with
  | nil =>
    rw [bind_error (streamGet_calla rfl)] at hround
    exact .calla _ hround rfl (by rw [hbytes, List.map_nil, teclas_escape])
  | cons e1 l1 =>
    obtain ⟨d1, c1⟩ := e1
    rw [bind_ok (streamGet_llega rfl)] at hround
    rw [List.map_cons] at hbytes
    by_cases h1 : c1 = 0x5b
    · subst h1
      rw [if_neg (by decide)] at hround
      cases l1 with
      | nil =>
        rw [bind_error (streamGet_calla rfl)] at hround
        exact .calla _ hround rfl (by rw [hbytes, List.map_nil, teclas_flecha_corta])
      | cons e2 l2 =>
        obtain ⟨d2, c2⟩ := e2
        rw [bind_ok (streamGet_llega rfl)] at hround
        rw [List.map_cons] at hbytes
        have hlen : l2.length < s.llegadas.length := by
          simp only [hl, List.length_cons]
          omega
        have hks : teclas s.bytes = (if c2 = 0x44 then .borra else .nada) :: teclas (l2.map Prod.snd) := by
          rw [hbytes, teclas_flecha]
        by_cases h2 : c2 = 0x44
        · rw [if_pos h2] at hks
          by_cases hp : 0 < pos
          · rw [if_pos ⟨h2, hp⟩] at hround
            exact .sigue .borra _ hround (.refl _ _) hlen (by decide) hks
          · obtain rfl : pos = 0 := by omega
            rw [if_neg (fun h => hp h.2)] at hround
            exact .sigue .borra _ hround (.refl _ _) hlen (by decide) hks
        · rw [if_neg h2] at hks
          rw [if_neg (fun h => h2 h.1)] at hround
          exact .sigue .nada _ hround (.refl _ _) hlen (by decide) hks
    · rw [if_pos h1] at hround
      exact .sigue .nada _ hround (.refl _ _) (by simp only [hl, List.length_cons]; omega) (by decide)
        (by rw [hbytes, teclas_escape_otra h1]; rfl)

theorem pulsacion (hn : ¬ n.toNat ≤ pos) (fuel : Nat) : Pulsacion n fuel pos s := by
  cases hl : s.llegadas with
  | nil =>
    refine .calla s ?_ rfl (by rw [Tty.bytes, hl, List.map_nil, teclas])
    rw [chgetsLoop, if_neg hn, bind_error (streamGet_calla hl)]
  | cons e l =>
    obtain ⟨d, c⟩ := e
    by_cases hc : c = 0x1b
    · subst hc
      exact pulsacion_escape hl hn fuel
    · exact pulsacion_byte hl hc hn fuel

end

/-- The loop follows the keys. -/
theorem chgetsLoop_eq (n : UInt8) (fuel : Nat) : ∀ {s : Tty} {pos : Nat},
    s.llegadas.length < fuel → pos ≤ n.toNat →
    ∃ s', Dentro n.toNat s.buffer s'.buffer ∧
      chgetsLoop n fuel pos s = resultadoEdicion s' (edita n.toNat pos (teclas s.bytes)) := by
  induction fuel with
  | zero =>
    intro s pos h
    exact absurd h (Nat.not_lt_zero _)
  | succ fuel ih =>
    intro s pos hfuel hpos
    by_cases hn : n.toNat ≤ pos
    · exact ⟨s, .refl _ _, by rw [chgetsLoop, if_pos hn, edita_lleno hn]; rfl⟩
    cases pulsacion (s := s) hn fuel with
    | calla s₁ e hb hks =>
      refine ⟨s₁, by rw [hb]; exact .refl _ _, ?_⟩
      rw [e, hks, edita, if_neg hn]
      rfl
    | fin s₁ e hb ks hks =>
      refine ⟨s₁, by rw [hb]; exact .refl _ _, ?_⟩
      rw [e, hks, edita_fin hn]
      rfl
    | sigue k s₁ e hb hlen hk hks =>
      have hpos' : k.mueve pos ≤ n.toNat := by
        cases k <;> simp only [Tecla.mueve] <;> omega
      obtain ⟨s', hb', e'⟩ := ih (s := s₁) (by omega) hpos'
      exact ⟨s', hb.trans hb', by rw [e, e', hks, edita_sigue hn hk]⟩

/-- `chgets` waits for ever or ends with a terminator after what has been typed. -/
theorem chgets_resultado (n : UInt8) (s : Tty) :
    (∃ (s₁ : Tty) (pos : Nat), edita n.toNat 0 (teclas s.bytes) = some pos ∧ Dentro n.toNat s.buffer s₁.buffer ∧
      chgets n s = .ok () { s₁ with buffer := s₁.buffer.pon pos 0 }) ∨
    (∃ s₁ : Tty, edita n.toNat 0 (teclas s.bytes) = none ∧ Dentro n.toNat s.buffer s₁.buffer ∧
      chgets n s = .error .espera s₁) := by
  obtain ⟨s₁, hb, e⟩ := @chgetsLoop_eq n (s.llegadas.length + 1) s 0 (Nat.lt_succ_self _) (Nat.zero_le _)
  unfold chgets
  rw [get_bind]
  cases hed : edita n.toNat 0 (teclas s.bytes) with
  | some pos =>
    rw [hed] at e
    exact .inl ⟨s₁, pos, rfl, hb, by rw [bind_ok e]; rfl⟩
  | none =>
    rw [hed] at e
    exact .inr ⟨s₁, rfl, hb, by rw [bind_error e]⟩

theorem seguro_chgets (n : UInt8) (s : Tty) : Seguro n.toNat (chgets n) s ↔ ¬ LlegaA n.toNat s.bytes := by
  obtain ⟨hle, hiff⟩ := edita_iff (n := n.toNat) (teclas s.bytes) (Nat.zero_le _)
  unfold LlegaA
  rw [← hiff]
  rcases chgets_resultado n s with ⟨s₁, pos, hed, hb, e⟩ | ⟨s₁, hed, hb, e⟩
  · rw [seguro_iff e hb rfl, hed]
    have := hle pos hed
    simp only [Option.some.injEq]
    omega
  · rw [hed]
    exact iff_of_true (contenido_de_espera e hb) (by simp)

/-- Each reader of lines keeps to its buffer exactly when the line leaves room for the terminator; the reader of the
display always does. -/
theorem lectores_seguros_iff (s : Tty) :
    (∀ n : UInt8, Seguro n.toNat (chgets n) s ↔ ¬ LlegaA n.toNat s.bytes) ∧
    (∀ (n : UInt16) (timeout : UInt32), Seguro n.toNat (chgetsNoEchoTimeOut n timeout) s ↔
      (lineaFija timeout s.llegadas).cierre = .nunca ∨ (lineaFija timeout s.llegadas).cars.length < n.toNat) ∧
    (∀ (n : UInt16) (timeout : UInt32), Seguro n.toNat (chgetsNoEchoTimeOutHM10 n timeout) s ↔
      (lineaHM10 s.stHM10 timeout.toNat s.reloj s.llegadas).cars.length < n.toNat) ∧
    ∀ (n : UInt16) (timeout : UInt32), SeguroNextion n.toNat (chgetNextionNoEchoTimeOut n timeout) s :=
  ⟨fun n => seguro_chgets n s, fun n timeout => seguro_chgetsNoEchoTimeOut n timeout s,
    fun n timeout => seguro_chgetsNoEchoTimeOutHM10 n timeout s,
    fun n timeout => seguro_chgetNextionNoEchoTimeOut n timeout s⟩

/-- A name of fifteen characters, in the buffer of fifteen that `cambiaNombreModulo` gives. -/
theorem lectores_desbordan :
    let s := consola (List.replicate 15 0x41 ++ [0x0A])
    ¬ Seguro 15 (chgets 15) s ∧ ¬ Seguro 15 (chgetsNoEchoTimeOut 15 (ms2i 20000)) s ∧
      ¬ Seguro 15 (chgetsNoEchoTimeOutHM10 15 (ms2i 20000)) s := by
  intro s
  refine ⟨fun h => ?_, fun h => ?_, fun h => ?_⟩
  · exact (seguro_chgets 15 s).1 h ⟨15, by decide, by decide⟩
  · rcases (seguro_chgetsNoEchoTimeOut 15 (ms2i 20000) s).1 h with h | h
    · exact absurd h (by decide)
    · exact absurd h (by decide)
  · exact absurd ((seguro_chgetsNoEchoTimeOutHM10 15 (ms2i 20000) s).1 h) (by decide)

end Wiznet
