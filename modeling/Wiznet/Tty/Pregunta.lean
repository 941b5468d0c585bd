import Wiznet.Tty.Lineas
import Wiznet.Tty.Numeros

/-!
# Numeric prompts

`preguntaNumero` and `preguntaNumeroHM10` of `gets.cpp` read a line each and make the same of it (`Linea.respuesta`): a
number in the bounds, or an error code and the number of before.
-/

namespace Wiznet

open Stateful (bind_ok get_bind)

/-! ### The two prompts -/

/-- What a prompt prints of its own: once the line has been read (with `*huboTimeout`), for each error, and at the
end. -/
structure Avisos where
  leida : UInt8 → List Salida
  invalido : String
  alto : String
  bajo : String
  aceptado : UInt32 → List Salida

/-- The code and the final `*numeroPtr`.  `mem` and `resultado` are what the locals hold at the start. -/
def preguntaCon (lee : TtyM UInt8) (a : Avisos) (msg : String) (mem : Nat → UInt8)
    (resultado numero valorMin valorMax : UInt32) : TtyM (Int16 × UInt32) := do
  nuevoBuffer mem
  chprintf msg []
  chprintf " [%d...%d]:" [.num valorMin, .num valorMax]
  let huboTimeout ← lee
  imprime (a.leida huboTimeout)
  if huboTimeout ≠ 0 then return (2, numero)
  let s ← get
  -- strncmp("", buffer, 10) looks at the first character
  let (error, resultado) := if s.buffer.mem 0 = 0 then (0, numero) else Str2Int s.buffer.mem resultado
  if error ≠ 0 then
    chprintf a.invalido []
    return (3, numero)
  if valorMax < resultado then
    chprintf a.alto []
    return (4, numero)
  if resultado < valorMin then
    chprintf a.bajo []
    return (5, numero)
  imprime (a.aceptado resultado)
  return (0, resultado)

def preguntaNumero : String → (Nat → UInt8) → UInt32 → UInt32 → UInt32 → UInt32 → TtyM (Int16 × UInt32) :=
  preguntaCon (chgetsNoEchoTimeOut 50 (ms2i 20000)) {
    leida := fun _ => [.formato "\n\r" []]
    invalido := "Numero invalido!!\n\r"
    alto := "Demasiado alto!!\n\r"
    bajo := "Demasiado bajo!!\n\r"
    aceptado := fun _ => [] }

def preguntaNumeroHM10 : String → (Nat → UInt8) → UInt32 → UInt32 → UInt32 → UInt32 → TtyM (Int16 × UInt32) :=
  preguntaCon (chgetsNoEchoTimeOutHM10 50 (ms2i 20000)) {
    leida := fun huboTimeout => if huboTimeout ≠ 0 then [.formato "\n" []] else []
    invalido := "Numero invalido!!\n"
    alto := "Demasiado alto!!\n"
    bajo := "Demasiado bajo!!\n"
    aceptado := fun resultado => [.formato "%d\n" [.num resultado]] }

/-! ### What the parser sees of a buffer -/

/-- The same string, as far as the first so many characters go. -/
def MismaCadena (k : Nat) (s s' : Nat → UInt8) : Prop := ∀ j < k, (∀ m < j, s m ≠ 0) → s j = s' j

theorem recorre_congr {b : Cifra} {s s' : Nat → UInt8} (k : Nat) : ∀ {i : Nat} {esp : Bool} {val : UInt32},
    (∀ m < i, s m ≠ 0) → MismaCadena (i + k) s s' → recorre b s k i esp val = recorre b s' k i esp val := by
  induction k with
  | zero => intros; rfl
  | succ k ih =>
    intro i esp val hno h
    unfold recorre
    rw [← h i (by omega) hno]
    by_cases h0 : s i = 0
    · rw [if_pos h0, if_pos h0]
    · have hno' : ∀ m < i + 1, s m ≠ 0 := by
        intro m hm
        rcases Nat.lt_succ_iff_lt_or_eq.1 hm with hm | rfl
        · exact hno m hm
        · exact h0
      have h' : MismaCadena (i + 1 + k) s s' := by
        rwa [Nat.add_assoc, Nat.add_comm 1]
      simp only [ih hno' h']

theorem Str2Int_congr {s s' : Nat → UInt8} (h : MismaCadena 11 s s') (intnum : UInt32) :
    Str2Int s intnum = Str2Int s' intnum := by
  unfold Str2Int
  rw [recorre_congr 11 (fun m hm => absurd hm (Nat.not_lt_zero m)) (by simpa using h)]

/-- The loop ends with an error, at the terminator, or with its rounds over. -/
theorem recorre_final {b : Cifra} {s : Nat → UInt8} (k : Nat) : ∀ {i : Nat} {esp : Bool} {val : UInt32},
    (recorre b s k i esp val).res = -1 ∨ (recorre b s k i esp val).res = 0 ∧
      ((recorre b s k i esp val).nul = true ∨ (recorre b s k i esp val).i = i + k) := by
  induction k with
  | zero =>
    intros
    exact .inr ⟨rfl, .inr rfl⟩
  | succ k ih =>
    intro i esp val
    unfold recorre
    split
    · exact .inr ⟨rfl, .inl rfl⟩
    · split
      · rw [← Nat.add_assoc, Nat.add_right_comm]
        exact ih
      · split
        · rw [← Nat.add_assoc, Nat.add_right_comm]
          exact ih
        · exact .inl rfl

/-- An accepted string gives its number whatever was there before. -/
theorem Str2Int_cero {s : Nat → UInt8} {intnum : UInt32} (h : (Str2Int s intnum).1 = 0) (intnum' : UInt32) :
    Str2Int s intnum' = Str2Int s intnum := by
  have hnul : (recorre .dec s 11 0 true 0).nul = true := by
    unfold Str2Int Recorrido.codigo at h
    dsimp only at h
    by_cases hi : (recorre .dec s 11 0 true 0).i ≥ 11
    · rw [if_pos hi] at h
      exact absurd h (by decide)
    rw [if_neg hi] at h
    rcases @recorre_final .dec s 11 0 true 0 with hres | ⟨-, hn | hn⟩
    · rw [hres] at h
      exact absurd h (by decide)
    · exact hn
    · omega
  unfold Str2Int
  dsimp only
  rw [hnul]
  rfl

/-! ### What comes of a line -/

/-- Empty, or starting with a NUL. -/
def EnBlanco (cars : List UInt8) : Prop := memoriaDe cars 0 = 0

instance (cars : List UInt8) : Decidable (EnBlanco cars) := inferInstanceAs (Decidable (_ = _))

/-- The number that a line stands for; a blank one stands for that of before. -/
def valorLinea (numero : UInt32) (cars : List UInt8) : Option UInt32 :=
  if EnBlanco cars then some numero
  else if (Str2Int (memoriaDe cars) numero).1 = 0 then some (Str2Int (memoriaDe cars) numero).2
  else none

/-- The code and the number after the prompt. -/
def Linea.respuesta (x : Linea) (numero valorMin valorMax : UInt32) : Int16 × UInt32 :=
  if x.cierre ≠ .salto then (2, numero)
  else match valorLinea numero x.cars with
    | none => (3, numero)
    | some v => if valorMax < v then (4, numero) else if v < valorMin then (5, numero) else (0, v)

/-- The line is in time and stands for a number in the bounds. -/
def Linea.Da (x : Linea) (numero valorMin valorMax v : UInt32) : Prop :=
  x.cierre = .salto ∧ valorLinea numero x.cars = some v ∧ valorMin ≤ v ∧ v ≤ valorMax

theorem Linea.respuesta_cases (x : Linea) (numero valorMin valorMax : UInt32) :
    (∃ v, x.Da numero valorMin valorMax v ∧ x.respuesta numero valorMin valorMax = (0, v)) ∨
    ((∀ v, ¬ x.Da numero valorMin valorMax v) ∧ (x.respuesta numero valorMin valorMax).1 ≠ 0 ∧
      (x.respuesta numero valorMin valorMax).2 = numero) := by
  unfold respuesta
  by_cases hc : x.cierre = .salto
  · rw [if_neg fun h => h hc]
    cases hv : valorLinea numero x.cars with
    | none => exact .inr ⟨fun v h => by simp [Da, hv] at h, show (3 : Int16) ≠ 0 by decide, rfl⟩
    | some v =>
      dsimp only
      by_cases hmax : valorMax < v
      · rw [if_pos hmax]
        refine .inr ⟨fun w h => ?_, show (4 : Int16) ≠ 0 by decide, rfl⟩
        obtain rfl : v = w := Option.some.inj (hv.symm.trans h.2.1)
        exact UInt32.not_lt.2 h.2.2.2 hmax
      rw [if_neg hmax]
      by_cases hmin : v < valorMin
      · rw [if_pos hmin]
        refine .inr ⟨fun w h => ?_, show (5 : Int16) ≠ 0 by decide, rfl⟩
        obtain rfl : v = w := Option.some.inj (hv.symm.trans h.2.1)
        exact UInt32.not_lt.2 h.2.2.1 hmin
      · rw [if_neg hmin]
        exact .inl ⟨v, ⟨hc, hv, UInt32.not_lt.1 hmin, UInt32.not_lt.1 hmax⟩, rfl⟩
  · rw [if_pos hc]
    exact .inr ⟨fun v h => hc h.1, show (2 : Int16) ≠ 0 by decide, rfl⟩

/-- The buffer after a line: what has been kept and the terminator. -/
theorem mismaCadena_guarda (b : Memoria) (cars : List UInt8) :
    MismaCadena 11 ((b.guarda 50 0 cars).pon (min cars.length 50) 0).mem (memoriaDe cars) := by
  intro j hj hno
  have hlen : j ≤ cars.length := by
    by_contra hlt
    refine hno cars.length (by omega) ?_
    show (if cars.length = min cars.length 50 then (0 : UInt8) else _) = 0
    rw [if_pos (by omega)]
  show (if j = min cars.length 50 then (0 : UInt8) else (b.guarda 50 0 cars).mem j) = cars.getD j 0
  rw [Memoria.guarda_mem]
  by_cases hjl : j = cars.length
  · rw [if_pos (by omega), hjl, List.getD_eq_default _ _ (Nat.le_refl _)]
  · rw [if_neg (by omega), if_pos (by omega), Nat.sub_zero]

/-- A reader that reads the line makes the prompt answer it. -/
theorem preguntaCon_eq {lee : TtyM UInt8} {a : Avisos} {msg : String} {mem : Nat → UInt8}
    {resultado numero valorMin valorMax : UInt32} {s s₁ : Tty} {x : Linea}
    (hlee : lee { s with
      salida := s.salida ++ [.formato msg []] ++ [.formato " [%d...%d]:" [.num valorMin, .num valorMax]]
      buffer := ⟨mem, []⟩ } = .ok x.cierre.hubo s₁)
    (hmem : x.cierre = .salto → MismaCadena 11 s₁.buffer.mem (memoriaDe x.cars)) :
    ∃ salida, preguntaCon lee a msg mem resultado numero valorMin valorMax s =
      .ok (x.respuesta numero valorMin valorMax) { s₁ with salida } := by
  unfold preguntaCon
  rw [bind_ok (show nuevoBuffer mem s = .ok () _ from rfl), bind_ok (show chprintf msg [] _ = .ok () _ from rfl),
    bind_ok (show chprintf " [%d...%d]:" [.num valorMin, .num valorMax] _ = .ok () _ from rfl), bind_ok hlee,
    bind_ok (show imprime (a.leida x.cierre.hubo) s₁ = .ok () _ from rfl)]
  unfold Linea.respuesta
  by_cases hc : x.cierre = .salto
  · rw [if_neg (by rw [hc]; decide), if_neg (fun h => h hc), get_bind]
    have hm := hmem hc
    have h0 : (s₁.buffer.mem 0 = 0) = EnBlanco x.cars :=
      congrArg (· = 0) (hm 0 (by decide) fun m hm => absurd hm (Nat.not_lt_zero m))
    unfold valorLinea
    dsimp only
    simp only [h0, Str2Int_congr hm]
    have hrango : ∀ v, ∃ salida,
        (if valorMax < v then do
            chprintf a.alto []
            pure (4, numero)
          else if v < valorMin then do
            chprintf a.bajo []
            pure (5, numero)
          else do
            imprime (a.aceptado v)
            pure (0, v) : TtyM (Int16 × UInt32)) { s₁ with salida := s₁.salida ++ a.leida x.cierre.hubo } =
          .ok (if valorMax < v then (4, numero) else if v < valorMin then (5, numero) else (0, v))
            { s₁ with salida } := by
      intro v
      split
      · exact ⟨_, rfl⟩
      · split
        · exact ⟨_, rfl⟩
        · exact ⟨_, rfl⟩
    by_cases hb : EnBlanco x.cars
    · simp only [if_pos hb]
      exact hrango numero
    simp only [if_neg hb]
    by_cases hs : (Str2Int (memoriaDe x.cars) numero).1 = 0
    · rw [Str2Int_cero hs]
      simp only [hs]
      exact hrango _
    · have hs' : (Str2Int (memoriaDe x.cars) resultado).1 ≠ 0 := fun h => hs (by rw [Str2Int_cero h]; exact h)
      rw [if_pos hs', if_neg hs]
      exact ⟨_, rfl⟩
  · have hh : x.cierre.hubo ≠ 0 := by
      cases hx : x.cierre with
      | salto => exact absurd hx hc
      | silencio => decide
      | nunca => decide
    rw [if_pos hh, if_pos hc]
    exact ⟨_, rfl⟩

/-- The line with which `preguntaNumeroHM10` is answered. -/
def Tty.lineaPregunta (s : Tty) : Linea := lineaHM10 s.stHM10 (ms2i 20000).toNat s.reloj s.llegadas

section

variable (msg : String) (mem : Nat → UInt8) (resultado numero valorMin valorMax : UInt32) (s : Tty)

theorem preguntaNumero_eq :
    let x := lineaFija (ms2i 20000) s.llegadas
    ∃ salida b, preguntaNumero msg mem resultado numero valorMin valorMax s =
      .ok (x.respuesta numero valorMin valorMax) { s.tras x b with salida } := by
  intro x
  have hx : x.cierre ≠ .nunca := linea_ne_nunca (by decide) _ _
  obtain ⟨salida, e⟩ := @preguntaCon_eq _ _ msg mem resultado numero valorMin valorMax s _ x
    (chgetsNoEchoTimeOut_ok 50 (ms2i 20000) _ hx) fun _ => mismaCadena_guarda _ _
  exact ⟨salida, _, e⟩

theorem preguntaNumeroHM10_eq :
    ∃ salida b, preguntaNumeroHM10 msg mem resultado numero valorMin valorMax s =
      .ok (s.lineaPregunta.respuesta numero valorMin valorMax) { s.tras s.lineaPregunta b with salida } := by
  obtain ⟨b, hb, hlee⟩ := chgetsNoEchoTimeOutHM10_ok 50 (ms2i 20000) { s with
      salida := s.salida ++ [.formato msg []] ++ [.formato " [%d...%d]:" [.num valorMin, .num valorMax]]
      buffer := ⟨mem, []⟩ }
  obtain ⟨salida, e⟩ := @preguntaCon_eq _ _ msg mem resultado numero valorMin valorMax s _ s.lineaPregunta hlee (by
    intro hc
    rcases hb with rfl | ⟨hsil, -⟩
    · exact mismaCadena_guarda _ _
    · exact absurd (hc.symm.trans hsil) (by decide))
  exact ⟨salida, _, e⟩

end

/-! ### The same line for both readers -/

/-- Lines that a prompt does not tell apart. -/
def Iguales (x y : Linea) : Prop := x.cars = y.cars ∧ (x.cierre = .salto ↔ y.cierre = .salto)

theorem Iguales.respuesta {x y : Linea} (h : Iguales x y) (numero valorMin valorMax : UInt32) :
    x.respuesta numero valorMin valorMax = y.respuesta numero valorMin valorMax := by
  unfold Linea.respuesta
  rw [if_congr (not_congr h.2) rfl rfl, h.1]

section

variable {τ υ : Type} {P : Paciencia τ} {Q : Paciencia υ}

theorem iguales_cons {p p' : τ} {q q' : υ} {d d' : Nat} {c : UInt8} {l l' : List (Nat × UInt8)}
    (hp : P.espera p d = some p') (hq : Q.espera q d' = some q') (h : Iguales (linea P p' l) (linea Q q' l')) :
    Iguales (linea P p ((d, c) :: l)) (linea Q q ((d', c) :: l')) := by
  by_cases hr : c = 0x0D
  · subst hr
    rw [linea_cr hp, linea_cr hq]
    exact h
  by_cases hn : c = 0x0A
  · subst hn
    rw [linea_lf hp, linea_lf hq]
    exact ⟨rfl, Iff.rfl⟩
  rw [linea_car hp hr hn, linea_car hq hr hn]
  exact ⟨congrArg (c :: ·) h.1, h.2⟩

/-- Readers that wait one part for any byte read the same line when the bytes are the same. -/
theorem iguales_seguidas (hP : ∀ p, ∀ d ≤ parte, ∃ p', P.espera p d = some p')
    (hQ : ∀ q, ∀ d ≤ parte, ∃ q', Q.espera q d = some q') (hs : P.seca ≠ .salto) (hs' : Q.seca ≠ .salto)
    (l : List (Nat × UInt8)) : ∀ {l' : List (Nat × UInt8)} (p : τ) (q : υ), (∀ e ∈ l, e.1 ≤ parte) →
    (∀ e ∈ l', e.1 ≤ parte) → l.map Prod.snd = l'.map Prod.snd → Iguales (linea P p l) (linea Q q l') := by
  induction l with
  | nil =>
    intro l' p q _ _ h
    obtain rfl : l' = [] := List.map_eq_nil_iff.1 h.symm
    exact ⟨rfl, iff_of_false hs hs'⟩
  | cons e l ih =>
    intro l' p q hl hl' h
    cases l' with
    | nil => cases h
    | cons e' l' =>
      obtain ⟨d, c⟩ := e
      obtain ⟨d', c'⟩ := e'
      obtain ⟨rfl, hmap⟩ := List.cons.inj h
      obtain ⟨p', hp⟩ := hP p d (hl _ (List.mem_cons_self ..))
      obtain ⟨q', hq⟩ := hQ q d' (hl' _ (List.mem_cons_self ..))
      exact iguales_cons hp hq (ih p' q' (fun e he => hl e (List.mem_cons_of_mem _ he))
        (fun e he => hl' e (List.mem_cons_of_mem _ he)) hmap)

end

/-- The bytes come while the prompt waits, and then one right after the other. -/
def SinHuecos (l : List (Nat × UInt8)) : Prop :=
  (∀ e ∈ l.head?, e.1 ≤ (ms2i 20000).toNat) ∧ ∀ e ∈ l.tail, e.1 ≤ parte

/-- Without gaps, and with the connection up, the line is the same for both readers. -/
theorem iguales_sinHuecos {l l' : List (Nat × UInt8)} (h : SinHuecos l) (h' : SinHuecos l')
    (hl : l.map Prod.snd = l'.map Prod.snd) {st : Nat → Bool} (hst : ∀ r, st r = true) (r : Nat) :
    Iguales (lineaFija (ms2i 20000) l) (lineaHM10 st (ms2i 20000).toNat r l') := by
  have hP : ∀ p, ∀ d ≤ (ms2i 20000).toNat, ∃ p', (pacienciaFija (ms2i 20000)).espera p d = some p' :=
    fun p d hd => ⟨(), if_pos (.inr hd)⟩
  have hparte : parte ≤ (ms2i 20000).toNat := by decide
  unfold lineaFija lineaHM10
  cases l with
  | nil =>
    obtain rfl : l' = [] := List.map_eq_nil_iff.1 hl.symm
    exact ⟨rfl, iff_of_false (show Cierre.silencio ≠ _ by decide) (show Cierre.silencio ≠ _ by decide)⟩
  | cons e l =>
    cases l' with
    | nil => cases hl
    | cons e' l' =>
      obtain ⟨d, c⟩ := e
      obtain ⟨d', c'⟩ := e'
      obtain ⟨rfl, hmap⟩ := List.cons.inj hl
      obtain ⟨p', hp⟩ := hP () d (h.1 _ rfl)
      have hd' : parte * ((d' - 1) / parte) ≤ (ms2i 20000).toNat := by
        have := Nat.mul_div_le (d' - 1) parte
        have := h'.1 _ rfl
        omega
      have hq : (pacienciaHM10 st).espera ((ms2i 20000).toNat, r) d' = some _ := if_pos ⟨hd', fun _ _ => hst _⟩
      exact iguales_cons hp hq (iguales_seguidas (fun p d hd => hP p d (Nat.le_trans hd hparte))
        (fun q d hd => ⟨_, esperaHM10_pronto hd⟩) (by decide) (by simp [pacienciaHM10]) l p' _ h.2 h'.2 hmap)

/-! ### All or nothing -/

/-- A prompt gives the number of its line, in the bounds, or an error and the number of before. -/
structure Atomica (x : Linea) (numero valorMin valorMax : UInt32) (r : Int16 × UInt32) : Prop where
  codigo : (r.1 = 0 ∧ valorMin ≤ r.2 ∧ r.2 ≤ valorMax ∧ x.cierre = .salto ∧
      (EnBlanco x.cars ∧ r.2 = numero ∨ ¬ EnBlanco x.cars ∧ Str2Int (memoriaDe x.cars) numero = (0, r.2))) ∨
    (r.1 ≠ 0 ∧ r.2 = numero)
  enBlanco : x.cierre = .salto → EnBlanco x.cars → (r.1 = 0 ↔ valorMin ≤ numero ∧ numero ≤ valorMax)
  aceptada : x.cierre = .salto → ¬ EnBlanco x.cars → ∀ v, Str2Int (memoriaDe x.cars) numero = (0, v) →
    valorMin ≤ v → v ≤ valorMax → r.1 = 0

theorem atomica_respuesta (x : Linea) (numero valorMin valorMax : UInt32) :
    Atomica x numero valorMin valorMax (x.respuesta numero valorMin valorMax) := by
  rcases x.respuesta_cases numero valorMin valorMax with ⟨v, ⟨hc, hv, hmin, hmax⟩, e⟩ | ⟨hno, hcod, hnum⟩
  · rw [e]
    unfold valorLinea at hv
    by_cases hb : EnBlanco x.cars
    · rw [if_pos hb] at hv
      cases hv
      exact ⟨.inl ⟨rfl, hmin, hmax, hc, .inl ⟨hb, rfl⟩⟩, fun _ _ => iff_of_true rfl ⟨hmin, hmax⟩,
        fun _ hno => absurd hb hno⟩
    rw [if_neg hb] at hv
    by_cases hs : (Str2Int (memoriaDe x.cars) numero).1 = 0
    · rw [if_pos hs] at hv
      cases hv
      exact ⟨.inl ⟨rfl, hmin, hmax, hc, .inr ⟨hb, Prod.ext hs rfl⟩⟩, fun _ h => absurd h hb, fun _ _ _ _ _ _ => rfl⟩
    · rw [if_neg hs] at hv
      cases hv
  · refine ⟨.inr ⟨hcod, hnum⟩, fun hc hb => iff_of_false hcod fun h => ?_, fun hc hb v hv hmin hmax => ?_⟩
    · exact hno numero ⟨hc, if_pos hb, h.1, h.2⟩
    · refine absurd ⟨hc, ?_, hmin, hmax⟩ (hno v)
      unfold valorLinea
      rw [if_neg hb, hv]
      rfl

/-- Both prompts are all or nothing, and without gaps, with the connection up, they do the same. -/
theorem preguntas_atomicas (msg msg' : String) (mem mem' : Nat → UInt8)
    (resultado resultado' numero valorMin valorMax : UInt32) (s s' : Tty) :
    ∃ r r' s₁ s₁', preguntaNumero msg mem resultado numero valorMin valorMax s = .ok r s₁ ∧
      preguntaNumeroHM10 msg' mem' resultado' numero valorMin valorMax s' = .ok r' s₁' ∧
      Atomica (lineaFija (ms2i 20000) s.llegadas) numero valorMin valorMax r ∧
      Atomica s'.lineaPregunta numero valorMin valorMax r' ∧
      (SinHuecos s.llegadas → SinHuecos s'.llegadas → s.bytes = s'.bytes → (∀ t, s'.stHM10 t = true) → r = r') := by
  obtain ⟨salida, b, e⟩ := preguntaNumero_eq msg mem resultado numero valorMin valorMax s
  obtain ⟨salida', b', e'⟩ := preguntaNumeroHM10_eq msg' mem' resultado' numero valorMin valorMax s'
  exact ⟨_, _, _, _, e, e', atomica_respuesta _ _ _ _, atomica_respuesta _ _ _ _,
    fun h h' hl hst => (iguales_sinHuecos h h' hl hst _).respuesta numero valorMin valorMax⟩

/-- The parser takes an empty line for a zero, but the prompt does not ask it: here it answers that the nine of before
is too high. -/
theorem pregunta_vacia_alta :
    Str2Int (memoriaDe []) 9 = (0, 0) ∧
      (∃ s', preguntaNumero "" (fun _ => 0) 0 9 0 5 (consola [0x0A]) = .ok (4, 9) s') ∧
      ∃ s', preguntaNumeroHM10 "" (fun _ => 0) 0 9 0 5 (consola [0x0A]) = .ok (4, 9) s' := by
  refine ⟨by decide, ?_, ?_⟩
  · obtain ⟨salida, b, e⟩ := preguntaNumero_eq "" (fun _ => 0) 0 9 0 5 (consola [0x0A])
    exact ⟨_, e⟩
  · obtain ⟨salida, b, e⟩ := preguntaNumeroHM10_eq "" (fun _ => 0) 0 9 0 5 (consola [0x0A])
    exact ⟨_, e⟩

end Wiznet
