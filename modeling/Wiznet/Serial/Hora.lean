import Wiznet.Tty.Pregunta
import Mathlib.Logic.Function.Iterate

/-!
# Setting the clock from the console

`ajustaHora` of `serial.cpp` asks for six numbers, one after the other, and looks at two of the six codes.  The calendar
is a parameter: all that is known of it is what it does to the clock.
-/

namespace Wiznet

open Stateful (bind_ok)

/-! ### The calendar -/

/-- `struct tm`, its fields as 32 bits. -/
structure Tm where
  tm_year : UInt32
  tm_mon : UInt32
  tm_mday : UInt32
  tm_hour : UInt32
  tm_min : UInt32
  tm_sec : UInt32

/-- The arguments of `cambiaFechaTM`, less the last one, which is always 0. -/
structure Fecha where
  ano : UInt32
  mes : UInt32
  dia : UInt32
  hora : UInt32
  min : UInt32
  sec : UInt32
  deriving DecidableEq

/-- The functions of `calendar` on its state, and what they do to the clock. -/
structure Calendar (κ δ : Type) where
  rtcGetFecha : κ → κ
  gettm : κ → Tm
  cambiaFechaTM : Fecha → κ → κ
  printFecha : κ → String
  reloj : κ → δ
  puesto : Fecha → δ
  reloj_rtcGetFecha : ∀ k, reloj (rtcGetFecha k) = reloj k
  reloj_cambiaFechaTM : ∀ f k, reloj (cambiaFechaTM f k) = puesto f

/-! ### The dialogue -/

/-- The calendar afterwards, and the calls of `cambiaFechaTM`.  `mem` and `resultado` are the locals of each prompt. -/
def ajustaHora {κ δ : Type} (C : Calendar κ δ) (mem : Nat → Nat → UInt8) (resultado : Nat → UInt32) (k : κ) :
    TtyM (κ × List Fecha) := do
  let k := C.rtcGetFecha k
  let tim := C.gettm k
  let (result, ano) ← preguntaNumeroHM10 "Anyo" (mem 0) (resultado 0) (tim.tm_year + 100) 2023 2060
  if result ≠ 0 then return (k, [])
  let (_, mes) ← preguntaNumeroHM10 "Mes" (mem 1) (resultado 1) (tim.tm_mon + 1) 1 12
  let (_, dia) ← preguntaNumeroHM10 "Dia" (mem 2) (resultado 2) tim.tm_mday 1 31
  let (_, hora) ← preguntaNumeroHM10 "Hora" (mem 3) (resultado 3) tim.tm_hour 0 23
  let (_, min) ← preguntaNumeroHM10 "Minutos" (mem 4) (resultado 4) tim.tm_min 0 59
  let (result, sec) ← preguntaNumeroHM10 "Segundos" (mem 5) (resultado 5) tim.tm_sec 0 59
  if result ≠ 0 then return (k, [])
  let fecha : Fecha := ⟨ano - 1900, mes - 1, dia, hora, min, sec⟩
  let k := C.cambiaFechaTM fecha k
  chprintf "Fecha actual UTC: %s\n" [.texto (C.printFecha k)]
  return (k, [fecha])

/-! ### The answers -/

/-- The console once the next line has been read, as far as the lines after it go. -/
def Tty.siguiente (s : Tty) : Tty := s.tras s.lineaPregunta s.buffer

/-- The line that answers the prompt after so many. -/
def Tty.lineaN (s : Tty) (i : Nat) : Linea := (Tty.siguiente^[i] s).lineaPregunta

/-- Consoles from which the same lines are read. -/
def MismasLineas (s s' : Tty) : Prop := s.llegadas = s'.llegadas ∧ s.reloj = s'.reloj ∧ s.stHM10 = s'.stHM10

/-- Codes and numbers of the six prompts. -/
structure Respuestas where
  ano : Int16 × UInt32
  mes : Int16 × UInt32
  dia : Int16 × UInt32
  hora : Int16 × UInt32
  min : Int16 × UInt32
  sec : Int16 × UInt32

/-- What the lines make of the prompts. -/
def respuestas (tim : Tm) (s : Tty) : Respuestas where
  ano := (s.lineaN 0).respuesta (tim.tm_year + 100) 2023 2060
  mes := (s.lineaN 1).respuesta (tim.tm_mon + 1) 1 12
  dia := (s.lineaN 2).respuesta tim.tm_mday 1 31
  hora := (s.lineaN 3).respuesta tim.tm_hour 0 23
  min := (s.lineaN 4).respuesta tim.tm_min 0 59
  sec := (s.lineaN 5).respuesta tim.tm_sec 0 59

namespace Respuestas

variable (a : Respuestas)

def Aceptadas : Prop :=
  a.ano.1 = 0 ∧ a.mes.1 = 0 ∧ a.dia.1 = 0 ∧ a.hora.1 = 0 ∧ a.min.1 = 0 ∧ a.sec.1 = 0

instance : Decidable a.Aceptadas := inferInstanceAs (Decidable (_ ∧ _))

/-- The date of the six numbers, as `cambiaFechaTM` takes it. -/
def fecha : Fecha where
  ano := a.ano.2 - 1900
  mes := a.mes.2 - 1
  dia := a.dia.2
  hora := a.hora.2
  min := a.min.2
  sec := a.sec.2

end Respuestas

/-- The clock is set by one call when the six answers are accepted, and otherwise left alone. -/
structure HoraBien {κ δ : Type} (C : Calendar κ δ) (a : Respuestas) (k : κ) (r : κ × List Fecha) : Prop where
  puesta : a.Aceptadas → r.2 = [a.fecha] ∧ C.reloj r.1 = C.puesto a.fecha
  intacta : ¬ a.Aceptadas → r.2 = [] ∧ C.reloj r.1 = C.reloj k

/-! ### What the dialogue does -/

theorem MismasLineas.linea {s s' : Tty} (h : MismasLineas s s') : s.lineaPregunta = s'.lineaPregunta := by
  unfold Tty.lineaPregunta
  rw [h.1, h.2.1, h.2.2]

theorem MismasLineas.siguiente {s s' : Tty} (h : MismasLineas s s') (salida : List Salida) (b : Memoria) :
    MismasLineas { s.tras s.lineaPregunta b with salida } s'.siguiente := by
  unfold Tty.siguiente
  rw [← h.linea]
  exact ⟨rfl, congrArg (· + _) h.2.1, h.2.2⟩

/-- A prompt of the dialogue. -/
theorem pregunta_mismas {s s' : Tty} (h : MismasLineas s s') (msg : String) (mem : Nat → UInt8)
    (resultado numero valorMin valorMax : UInt32) :
    ∃ s₁, MismasLineas s₁ s'.siguiente ∧ preguntaNumeroHM10 msg mem resultado numero valorMin valorMax s =
      .ok (s'.lineaPregunta.respuesta numero valorMin valorMax) s₁ := by
  obtain ⟨salida, b, e⟩ := preguntaNumeroHM10_eq msg mem resultado numero valorMin valorMax s
  exact ⟨_, h.siguiente salida b, by rw [e, h.linea]⟩

section

variable {κ δ : Type} (C : Calendar κ δ) (mem : Nat → Nat → UInt8) (resultado : Nat → UInt32) (k : κ) (s : Tty)

theorem ajustaHora_eq :
    let a := respuestas (C.gettm (C.rtcGetFecha k)) s
    ∃ s', ajustaHora C mem resultado k s =
      .ok (if a.ano.1 = 0 ∧ a.sec.1 = 0 then (C.cambiaFechaTM a.fecha (C.rtcGetFecha k), [a.fecha])
        else (C.rtcGetFecha k, [])) s' := by
  generalize htim : C.gettm (C.rtcGetFecha k) = tim
  intro a
  -- each prompt reads the next line
  have hsig : ∀ (i : Nat) {s' : Tty}, MismasLineas s' (Tty.siguiente^[i] s) →
      ∀ (msg : String) (numero valorMin valorMax : UInt32), ∃ y s₁,
        y = (s.lineaN i).respuesta numero valorMin valorMax ∧ MismasLineas s₁ (Tty.siguiente^[i + 1] s) ∧
        preguntaNumeroHM10 msg (mem i) (resultado i) numero valorMin valorMax s' = .ok (y.1, y.2) s₁ := by
    intro i s' h msg numero valorMin valorMax
    rw [Function.iterate_succ_apply']
    obtain ⟨s₁, h₁, e⟩ := pregunta_mismas h msg (mem i) (resultado i) numero valorMin valorMax
    exact ⟨_, s₁, rfl, h₁, e⟩
  obtain ⟨ano, s₁, hano, h₁, e₁⟩ := @hsig 0 s ⟨rfl, rfl, rfl⟩ "Anyo" (tim.tm_year + 100) 2023 2060
  obtain ⟨mes, s₂, hmes, h₂, e₂⟩ := hsig 1 h₁ "Mes" (tim.tm_mon + 1) 1 12
  obtain ⟨dia, s₃, hdia, h₃, e₃⟩ := hsig 2 h₂ "Dia" tim.tm_mday 1 31
  obtain ⟨hora, s₄, hhora, h₄, e₄⟩ := hsig 3 h₃ "Hora" tim.tm_hour 0 23
  obtain ⟨min, s₅, hmin, h₅, e₅⟩ := hsig 4 h₄ "Minutos" tim.tm_min 0 59
  obtain ⟨sec, s₆, hsec, -, e₆⟩ := hsig 5 h₅ "Segundos" tim.tm_sec 0 59
  have ha : a = ⟨ano, mes, dia, hora, min, sec⟩ := by
    rw [hano, hmes, hdia, hhora, hmin, hsec]
    rfl
  clear_value a
  subst ha
  unfold ajustaHora
  dsimp only
  rw [htim, bind_ok e₁]
  dsimp only
  by_cases ha : ano.1 = 0
  · rw [if_neg (fun h => h ha), bind_ok e₂, bind_ok e₃, bind_ok e₄, bind_ok e₅, bind_ok e₆]
    dsimp only
    by_cases hs : sec.1 = 0
    · rw [if_neg (fun h => h hs), if_pos ⟨ha, hs⟩]
      exact ⟨_, rfl⟩
    · rw [if_pos hs, if_neg fun h => hs h.2]
      exact ⟨_, rfl⟩
  · rw [if_pos ha, if_neg fun h => ha h.1]
    exact ⟨_, rfl⟩

/-- The clock is set from a full dialogue only, exactly when no answer is rejected between two accepted ones: that of
the year and that of the seconds, the ones that are looked at. -/
theorem ajustaHora_iff :
    let a := respuestas (C.gettm (C.rtcGetFecha k)) s
    ∃ r s', ajustaHora C mem resultado k s = .ok r s' ∧
      (HoraBien C a k r ↔ (a.ano.1 = 0 → a.sec.1 = 0 → a.Aceptadas)) := by
  intro a
  obtain ⟨s', e⟩ := ajustaHora_eq C mem resultado k s
  refine ⟨_, s', e, ?_⟩
  by_cases h : a.ano.1 = 0 ∧ a.sec.1 = 0
  · rw [if_pos h]
    constructor
    · intro hb _ _
      by_contra hno
      cases (hb.intacta hno).1
    · intro hall
      exact ⟨fun _ => ⟨rfl, C.reloj_cambiaFechaTM _ _⟩, fun hno => absurd (hall h.1 h.2) hno⟩
  · rw [if_neg h]
    refine iff_of_true ⟨fun hall => absurd ⟨hall.1, hall.2.2.2.2.2⟩ h, fun _ => ⟨rfl, C.reloj_rtcGetFecha k⟩⟩ ?_
    exact fun ha hs => absurd ⟨ha, hs⟩ h

end

/-- A calendar that is its clock, as a date. -/
def calendarioFecha : Calendar Fecha Fecha where
  rtcGetFecha k := k
  gettm k := ⟨k.ano, k.mes, k.dia, k.hora, k.min, k.sec⟩
  cambiaFechaTM f _ := f
  printFecha _ := ""
  reloj k := k
  puesto f := f
  reloj_rtcGetFecha _ := rfl
  reloj_cambiaFechaTM _ _ := rfl

/-- The answers 2024, 13, 10, 8, 5 and 0. -/
def dialogoTrece : Tty :=
  consola [0x32, 0x30, 0x32, 0x34, 0x0A, 0x31, 0x33, 0x0A, 0x31, 0x30, 0x0A, 0x38, 0x0A, 0x35, 0x0A, 0x30, 0x0A]

/-- A month 13 is rejected, and the clock is set all the same, with the month of before. -/
theorem ajustaHora_sin_mes :
    ∃ r s', ajustaHora calendarioFecha (fun _ _ => 0) (fun _ => 0) ⟨123, 4, 1, 0, 0, 0⟩ dialogoTrece = .ok r s' ∧
      r.2 = [⟨124, 4, 10, 8, 5, 0⟩] ∧
      ¬ HoraBien calendarioFecha (respuestas ⟨123, 4, 1, 0, 0, 0⟩ dialogoTrece) ⟨123, 4, 1, 0, 0, 0⟩ r := by
  obtain ⟨s', e⟩ := ajustaHora_eq calendarioFecha (fun _ _ => 0) (fun _ => 0) ⟨123, 4, 1, 0, 0, 0⟩ dialogoTrece
  have htim : calendarioFecha.gettm (calendarioFecha.rtcGetFecha ⟨123, 4, 1, 0, 0, 0⟩) = ⟨123, 4, 1, 0, 0, 0⟩ := rfl
  rw [htim] at e
  generalize ha : respuestas ⟨123, 4, 1, 0, 0, 0⟩ dialogoTrece = a at e ⊢
  have h0 : a.ano.1 = 0 ∧ a.sec.1 = 0 := by
    rw [← ha]
    decide +kernel
  rw [if_pos h0] at e
  refine ⟨_, s', e, ?_, fun h => ?_⟩
  · rw [← ha]
    decide +kernel
  · have hno : ¬ a.Aceptadas := by
      rw [← ha]
      decide +kernel
    cases (h.intacta hno).1

end Wiznet
