import Wiznet.Tty.Pregunta

/-!
# Settings changed from the console

`ajustaNumero`, `ajustaSeleccion` and `ajustaSeleccionInt2Ext` of `serial.cpp` ask for a number and store it in a
register.  The registers are parameters: getters, and a setter that stores its argument.  `opcion`, the variable behind
the pointer that the prompt is given, has no initial value in the source; what it holds is an argument here.  The menus
clear the channel of the HM-10 module, which is the one they are called with.
-/

namespace Wiznet

open Stateful (bind_ok bind_error)

/-! ### Registers -/

/-- `holdingRegisterInt`, with its bounds as the prompt takes them. -/
structure HoldingRegisterInt (ρ : Type) where
  getNombre : ρ → String
  getValorMin : ρ → UInt32
  getValorMax : ρ → UInt32
  getValor : ρ → UInt16
  setValorInterno : UInt16 → ρ → ρ
  getValor_setValorInterno : ∀ v r, getValor (setValorInterno v r) = v

/-- `holdingRegisterOpciones`: the value is the place of an option in a list of descriptions. -/
structure HoldingRegisterOpciones (ρ : Type) where
  getNumOpciones : ρ → UInt32
  getDescripcion : ρ → UInt32 → String
  getValor : ρ → UInt32
  setValor : UInt32 → ρ → ρ
  getValor_setValor : ∀ v r, getValor (setValor v r) = v

/-- `holdingRegisterInt2Ext`: the value is one of a list of numbers. -/
structure HoldingRegisterInt2Ext (ρ : Type) where
  getNumOpciones : ρ → UInt32
  getValorDe : ρ → UInt32 → UInt32
  getValor : ρ → UInt32
  setValor : UInt32 → ρ → ρ
  getValor_setValor : ∀ v r, getValor (setValor v r) = v

/-! ### The functions -/

section

variable {ρ : Type}

def ajustaNumero (R : HoldingRegisterInt ρ) (desc : String) (mem : Nat → UInt8) (resultado opcion : UInt32)
    (holdReg : ρ) : TtyM ρ := do
  let (result, opcion) ← preguntaNumeroHM10 desc mem resultado opcion (R.getValorMin holdReg) (R.getValorMax holdReg)
  if result ≠ 0 then return holdReg
  return R.setValorInterno opcion.toUInt16 holdReg

/-- The overload that asks with the name of the register. -/
def ajustaNumeroNombre (R : HoldingRegisterInt ρ) (mem : Nat → UInt8) (resultado opcion : UInt32) (holdReg : ρ) :
    TtyM ρ :=
  ajustaNumero R (R.getNombre holdReg) mem resultado opcion holdReg

/-- The loop that prints the options.  With 65535 of them or more its 16-bit counter never gets past the last one. -/
def menuLoop (numOpciones : UInt32) (texto : UInt32 → Salida) : Nat → UInt16 → TtyM Unit
  | 0, _ => throw .loop
  | fuel + 1, pos => do
    if pos.toUInt32 ≤ numOpciones then
      imprime [texto (pos.toUInt32 - 1)]
      menuLoop numOpciones texto fuel (pos + 1)

/-- A menu, the code that it returns and the register. -/
def seleccionCon (numOpciones : UInt32) (texto : UInt32 → Salida) (pone : UInt32 → ρ → ρ) (mem : Nat → UInt8)
    (resultado opcion : UInt32) (regOpcHR : ρ) : TtyM (UInt8 × ρ) := do
  menuLoop numOpciones texto 65536 1
  chprintf "%d Volver\n" [.num numOpciones]
  limpiaBuffer
  let (result, opcion) ← preguntaNumeroHM10 "Dime opcion" mem resultado opcion 0 numOpciones
  if result ≠ 0 ∨ result = 0 ∧ opcion = numOpciones then return (1, regOpcHR)
  return (0, pone opcion regOpcHR)

def ajustaSeleccionInt2Ext (R : HoldingRegisterInt2Ext ρ) (mem : Nat → UInt8) (resultado opcion : UInt32)
    (regOpcHR : ρ) : TtyM (UInt8 × ρ) :=
  seleccionCon (R.getNumOpciones regOpcHR)
    (fun pos => .formato "%d: %d\n" [.num pos, .num (R.getValorDe regOpcHR pos)])
    (fun opcion reg => R.setValor (R.getValorDe reg opcion) reg) mem resultado opcion regOpcHR

def ajustaSeleccion (R : HoldingRegisterOpciones ρ) (mem : Nat → UInt8) (resultado opcion : UInt32) (regOpcHR : ρ) :
    TtyM (UInt8 × ρ) :=
  seleccionCon (R.getNumOpciones regOpcHR)
    (fun pos => .formato "%d: %s\n" [.num pos, .texto (R.getDescripcion regOpcHR pos)])
    R.setValor mem resultado opcion regOpcHR

end

/-! ### Answers -/

/-- A blank answer. -/
def Linea.EnBlanco (x : Linea) : Prop := x.cierre = .salto ∧ Wiznet.EnBlanco x.cars

/-- The answer is a numeral with this value, and the prompt accepts it. -/
def Linea.Numeral (x : Linea) (numero valorMin valorMax : UInt32) (v : Nat) : Prop :=
  x.cierre = .salto ∧ Cifra.dec.base.Reads x.cars v ∧ (x.respuesta numero valorMin valorMax).1 = 0

section

variable {x : Linea} {numero valorMin valorMax : UInt32}

/-- A blank answer is what the variable holds, if that is in the bounds. -/
theorem Linea.EnBlanco.da_iff (h : x.EnBlanco) {v : UInt32} :
    x.Da numero valorMin valorMax v ↔ v = numero ∧ valorMin ≤ numero ∧ numero ≤ valorMax := by
  have hv : valorLinea numero x.cars = some numero := if_pos h.2
  constructor
  · rintro ⟨-, hd, hmin, hmax⟩
    obtain rfl : numero = v := Option.some.inj (hv.symm.trans hd)
    exact ⟨rfl, hmin, hmax⟩
  · rintro ⟨rfl, hmin, hmax⟩
    exact ⟨h.1, hv, hmin, hmax⟩

theorem reads_noNul {l : List UInt8} {v : Nat} (h : Cifra.dec.base.Reads l v) : 0 ∉ l ∧ l ≠ [] := by
  obtain ⟨s, ds, rfl, hs, hne, hds, -⟩ := h
  refine ⟨fun h0 => ?_, fun hnil => hne (List.append_eq_nil_iff.1 hnil).2⟩
  rcases List.mem_append.1 h0 with h0 | h0
  · exact absurd (hs 0 h0) (by decide)
  · exact absurd (hds 0 h0) (by decide)

/-- A numeral that is accepted comes through modulo the 32 bits of the parser. -/
theorem Linea.Numeral.respuesta_eq {v : Nat} (h : x.Numeral numero valorMin valorMax v) :
    x.respuesta numero valorMin valorMax = (0, UInt32.ofNat v) := by
  obtain ⟨-, hr, hcod⟩ := h
  obtain ⟨hno, hne⟩ := reads_noNul hr
  rcases x.respuesta_cases numero valorMin valorMax with ⟨w, ⟨-, hw, -, -⟩, e⟩ | ⟨-, hno, -⟩
  · rw [e]
    have hcad := esCadena_memoriaDe hno
    have hb : ¬ Wiznet.EnBlanco x.cars := fun hb => hne (hcad.primero_iff.1 hb)
    unfold valorLinea at hw
    rw [if_neg hb] at hw
    by_cases hs : (Str2Int (memoriaDe x.cars) numero).1 = 0
    · rw [if_pos hs, Str2Int_eq hcad] at hw
      rw [Str2Int_eq hcad] at hs
      rw [if_pos ((Cifra.dec.codigo_cero x.cars).1.1 hs)] at hw
      cases hw
      unfold Cifra.valorLeido
      rw [(Numeral.Base.reads_iff.1 hr).2.2]
    · rw [if_neg hs] at hw
      cases hw
  · exact absurd hcod hno

end

/-! ### What the functions do -/

section

variable {ρ : Type} (mem : Nat → UInt8) (resultado opcion : UInt32)

theorem ajustaNumero_eq (R : HoldingRegisterInt ρ) (desc : String) (r : ρ) (s : Tty) :
    let y := s.lineaPregunta.respuesta opcion (R.getValorMin r) (R.getValorMax r)
    ∃ s', ajustaNumero R desc mem resultado opcion r s =
      .ok (if y.1 ≠ 0 then r else R.setValorInterno y.2.toUInt16 r) s' := by
  intro y
  obtain ⟨salida, b, e⟩ := preguntaNumeroHM10_eq desc mem resultado opcion (R.getValorMin r) (R.getValorMax r) s
  have e' : preguntaNumeroHM10 desc mem resultado opcion (R.getValorMin r) (R.getValorMax r) s = .ok (y.1, y.2) _ := e
  unfold ajustaNumero
  rw [bind_ok e']
  dsimp only
  by_cases h : y.1 ≠ 0
  · rw [if_pos h, if_pos h]
    exact ⟨_, rfl⟩
  · rw [if_neg h, if_neg h]
    exact ⟨_, rfl⟩

variable {numOpciones : UInt32} (texto : UInt32 → Salida)

theorem menuLoop_ok (hnum : numOpciones.toNat < 65535) (fuel : Nat) : ∀ {pos : UInt16} (s : Tty),
    numOpciones.toNat + 1 - pos.toNat < fuel →
    ∃ salida, menuLoop numOpciones texto fuel pos s = .ok () { s with salida } := by
  induction fuel with
  | zero =>
    intro pos s h
    exact absurd h (Nat.not_lt_zero _)
  | succ fuel ih =>
    intro pos s h
    unfold menuLoop
    by_cases hpos : pos.toUInt32 ≤ numOpciones
    · have hle : pos.toNat ≤ numOpciones.toNat := UInt32.le_iff_toNat_le.1 hpos
      have hadd : (pos + 1).toNat = pos.toNat + 1 := by
        rw [UInt16.toNat_add, show (1 : UInt16).toNat = 1 from rfl]
        omega
      rw [if_pos hpos, bind_ok (show imprime _ s = .ok () _ from rfl)]
      obtain ⟨salida, e⟩ := @ih (pos + 1) { s with salida := s.salida ++ [texto (pos.toUInt32 - 1)] } (by omega)
      exact ⟨salida, e⟩
    · rw [if_neg hpos]
      exact ⟨s.salida, rfl⟩

theorem menuLoop_sinFin (hnum : ¬ numOpciones.toNat < 65535) (fuel : Nat) : ∀ {pos : UInt16} (s : Tty),
    ∃ s', menuLoop numOpciones texto fuel pos s = .error .loop s' := by
  induction fuel with
  | zero => exact fun s => ⟨s, rfl⟩
  | succ fuel ih =>
    intro pos s
    have hpos : pos.toUInt32 ≤ numOpciones := by
      have := pos.toNat_lt
      exact UInt32.le_iff_toNat_le.2 (by rw [UInt16.toNat_toUInt32]; omega)
    unfold menuLoop
    rw [if_pos hpos, bind_ok (show imprime _ s = .ok () _ from rfl)]
    exact ih _

/-- The line with which a menu is answered. -/
def Tty.lineaMenu (s : Tty) : Linea := s.trasPausa.lineaPregunta

variable (pone : UInt32 → ρ → ρ) (r : ρ) (s : Tty)

theorem seleccionCon_eq (hnum : numOpciones.toNat < 65535) :
    let y := s.lineaMenu.respuesta opcion 0 numOpciones
    ∃ s', seleccionCon numOpciones texto pone mem resultado opcion r s =
      .ok (if y.1 ≠ 0 ∨ y.2 = numOpciones then (1, r) else (0, pone y.2 r)) s' := by
  intro y
  obtain ⟨salida, hmenu⟩ := @menuLoop_ok numOpciones texto hnum 65536 1 s
    (by rw [show (1 : UInt16).toNat = 1 from rfl]; omega)
  obtain ⟨salida', b, e⟩ := preguntaNumeroHM10_eq "Dime opcion" mem resultado opcion 0 numOpciones
    (Tty.trasPausa { s with salida := salida ++ [.formato "%d Volver\n" [.num numOpciones]] })
  have e' : preguntaNumeroHM10 "Dime opcion" mem resultado opcion 0 numOpciones
    (Tty.trasPausa { s with salida := salida ++ [.formato "%d Volver\n" [.num numOpciones]] }) = .ok (y.1, y.2) _ := e
  unfold seleccionCon
  rw [bind_ok hmenu, bind_ok (show chprintf "%d Volver\n" [.num numOpciones] _ = .ok () _ from rfl),
    bind_ok (limpiaBuffer_eq _), bind_ok e']
  dsimp only
  have hcond : (y.1 ≠ 0 ∨ y.1 = 0 ∧ y.2 = numOpciones) ↔ (y.1 ≠ 0 ∨ y.2 = numOpciones) := by
    by_cases h : y.1 = 0 <;> simp [h]
  by_cases h : y.1 ≠ 0 ∨ y.2 = numOpciones
  · rw [if_pos h, if_pos (hcond.2 h)]
    exact ⟨_, rfl⟩
  · rw [if_neg h, if_neg fun h' => h (hcond.1 h')]
    exact ⟨_, rfl⟩

theorem seleccionCon_sinFin (hnum : ¬ numOpciones.toNat < 65535) :
    ∃ s', seleccionCon numOpciones texto pone mem resultado opcion r s = .error .loop s' := by
  obtain ⟨s', e⟩ := @menuLoop_sinFin numOpciones texto hnum 65536 1 s
  exact ⟨s', by unfold seleccionCon; rw [bind_error e]⟩

end

/-! ### When a blank answer keeps the setting -/

section

variable {ρ : Type} (mem : Nat → UInt8) (resultado opcion : UInt32) (r : ρ) (s : Tty)

/-- The answers of `ajustaNumero`: what it takes for a blank one to keep the value, and for a numeral to be stored. -/
structure AjusteNumero (x : Linea) (valorMin valorMax opcion : UInt32) (valor valor' : UInt16) : Prop where
  enBlanco : x.EnBlanco → (valor' = valor ↔ ¬ (valorMin ≤ opcion ∧ opcion ≤ valorMax) ∨ opcion.toUInt16 = valor)
  numeral : ∀ v, x.Numeral opcion valorMin valorMax v → (valor'.toNat = v ↔ v < 65536)

theorem ajustaNumero_iff (R : HoldingRegisterInt ρ) (desc : String) :
    ∃ r' s', ajustaNumero R desc mem resultado opcion r s = .ok r' s' ∧
      AjusteNumero s.lineaPregunta (R.getValorMin r) (R.getValorMax r) opcion (R.getValor r) (R.getValor r') := by
  obtain ⟨s', e⟩ := ajustaNumero_eq mem resultado opcion R desc r s
  refine ⟨_, s', e, fun hb => ?_, fun v hv => ?_⟩
  · rcases s.lineaPregunta.respuesta_cases opcion (R.getValorMin r) (R.getValorMax r) with
      ⟨v, hd, hy⟩ | ⟨hno, hcod, -⟩
    · obtain ⟨rfl, hmin, hmax⟩ := hb.da_iff.1 hd
      rw [hy, if_neg (fun h => h rfl), R.getValor_setValorInterno]
      simp only [hmin, hmax, and_self, not_true, false_or]
    · rw [if_pos hcod]
      exact iff_of_true rfl (.inl fun h => hno opcion (hb.da_iff.2 ⟨rfl, h⟩))
  · rw [hv.respuesta_eq, if_neg (fun h => h rfl), R.getValor_setValorInterno]
    dsimp only
    rw [UInt32.toNat_toUInt16, UInt32.toNat_ofNat']
    omega

/-- The answers of a menu: what it takes for a blank one to keep the value, and for a numeral to choose its option; the
last number goes back. -/
structure AjusteMenu (x : Linea) (numOpciones opcion : UInt32) (valorDe : UInt32 → UInt32) (valor valor' : UInt32) :
    Prop where
  enBlanco : x.EnBlanco → (valor' = valor ↔ numOpciones ≤ opcion ∨ valorDe opcion = valor)
  numeral : ∀ v, x.Numeral opcion 0 numOpciones v → UInt32.ofNat v ≠ numOpciones →
    ((∃ i : UInt32, i.toNat = v ∧ valor' = valorDe i) ↔ v < 4294967296)
  volver : ∀ v, x.Numeral opcion 0 numOpciones v → UInt32.ofNat v = numOpciones → valor' = valor

theorem seleccionCon_iff (numOpciones : UInt32) (texto : UInt32 → Salida) {pone : UInt32 → ρ → ρ}
    {getValor : ρ → UInt32} {valorDe : UInt32 → UInt32} (hpone : ∀ i, getValor (pone i r) = valorDe i) :
    (numOpciones.toNat < 65535 →
      ∃ a s', seleccionCon numOpciones texto pone mem resultado opcion r s = .ok a s') ∧
    ∀ a s', seleccionCon numOpciones texto pone mem resultado opcion r s = .ok a s' →
      AjusteMenu s.lineaMenu numOpciones opcion valorDe (getValor r) (getValor a.2) := by
  by_cases hnum : numOpciones.toNat < 65535
  · obtain ⟨s₁, e⟩ := seleccionCon_eq mem resultado opcion texto pone r s hnum
    refine ⟨fun _ => ⟨_, _, e⟩, fun a s' ha => ?_⟩
    obtain ⟨rfl, -⟩ := EStateM.Result.ok.inj (e.symm.trans ha)
    refine ⟨fun hb => ?_, fun v hv hne => ?_, fun v hv heq => ?_⟩
    · rcases s.lineaMenu.respuesta_cases opcion 0 numOpciones with ⟨v, hd, hy⟩ | ⟨hno, hcod, -⟩
      · obtain ⟨rfl, -, hmax⟩ := hb.da_iff.1 hd
        rw [hy]
        by_cases hv : v = numOpciones
        · rw [if_pos (.inr hv)]
          exact iff_of_true rfl (.inl (by rw [hv]; exact UInt32.le_refl _))
        · have hlt : ¬ numOpciones ≤ v := fun h => hv (UInt32.le_antisymm hmax h)
          rw [if_neg (by simpa using hv)]
          dsimp only
          rw [hpone]
          simp only [hlt, false_or]
      · rw [if_pos (.inl hcod)]
        refine iff_of_true rfl (.inl ?_)
        have hgt : ¬ opcion ≤ numOpciones := fun h => hno opcion (hb.da_iff.2 ⟨rfl, UInt32.zero_le, h⟩)
        exact UInt32.le_of_lt (UInt32.not_le.1 hgt)
    · rw [hv.respuesta_eq, if_neg (by simpa using hne)]
      dsimp only
      rw [hpone]
      constructor
      · rintro ⟨i, rfl, -⟩
        exact i.toNat_lt
      · intro hlt
        exact ⟨UInt32.ofNat v, by rw [UInt32.toNat_ofNat', Nat.mod_eq_of_lt hlt], rfl⟩
    · rw [hv.respuesta_eq, if_pos (.inr heq)]
  · obtain ⟨s₁, e⟩ := seleccionCon_sinFin mem resultado opcion texto pone r s hnum
    refine ⟨fun h => absurd h hnum, fun a s' ha => ?_⟩
    rw [e] at ha
    cases ha

/-- A blank answer keeps the setting exactly when what `opcion` happens to hold is refused or stands for the setting
itself; a numeral that is accepted is stored exactly when it fits. -/
theorem ajustes_iff {σ υ : Type} (R : HoldingRegisterInt ρ) (O : HoldingRegisterOpciones σ)
    (E : HoldingRegisterInt2Ext υ) (o : σ) (e : υ) (desc : String) :
    (∃ r' s', ajustaNumero R desc mem resultado opcion r s = .ok r' s' ∧
      AjusteNumero s.lineaPregunta (R.getValorMin r) (R.getValorMax r) opcion (R.getValor r) (R.getValor r')) ∧
    (∃ r' s', ajustaNumeroNombre R mem resultado opcion r s = .ok r' s' ∧
      AjusteNumero s.lineaPregunta (R.getValorMin r) (R.getValorMax r) opcion (R.getValor r) (R.getValor r')) ∧
    ((O.getNumOpciones o).toNat < 65535 → ∃ a s', ajustaSeleccion O mem resultado opcion o s = .ok a s') ∧
    (∀ a s', ajustaSeleccion O mem resultado opcion o s = .ok a s' →
      AjusteMenu s.lineaMenu (O.getNumOpciones o) opcion (fun i => i) (O.getValor o) (O.getValor a.2)) ∧
    ((E.getNumOpciones e).toNat < 65535 → ∃ a s', ajustaSeleccionInt2Ext E mem resultado opcion e s = .ok a s') ∧
    ∀ a s', ajustaSeleccionInt2Ext E mem resultado opcion e s = .ok a s' →
      AjusteMenu s.lineaMenu (E.getNumOpciones e) opcion (E.getValorDe e) (E.getValor e) (E.getValor a.2) := by
  have hO := seleccionCon_iff mem resultado opcion o s (O.getNumOpciones o)
    (fun pos => .formato "%d: %s\n" [.num pos, .texto (O.getDescripcion o pos)]) (fun i => O.getValor_setValor i o)
  have hE := seleccionCon_iff mem resultado opcion e s (E.getNumOpciones e)
    (fun pos => .formato "%d: %d\n" [.num pos, .num (E.getValorDe e pos)])
    (fun i => E.getValor_setValor (E.getValorDe e i) e)
  exact ⟨ajustaNumero_iff mem resultado opcion r s R desc, ajustaNumero_iff mem resultado opcion r s R _,
    hO.1, hO.2, hE.1, hE.2⟩

end

/-- A register from 0 to 10, and two with ten options. -/
def registroDiez : HoldingRegisterInt UInt16 where
  getNombre _ := "Id"
  getValorMin _ := 0
  getValorMax _ := 10
  getValor r := r
  setValorInterno v _ := v
  getValor_setValorInterno _ _ := rfl

def opcionesDiez : HoldingRegisterOpciones UInt32 where
  getNumOpciones _ := 10
  getDescripcion _ _ := "modo"
  getValor r := r
  setValor v _ := v
  getValor_setValor _ _ := rfl

def numerosDiez : HoldingRegisterInt2Ext UInt32 where
  getNumOpciones _ := 10
  getValorDe _ i := 1200 * (i + 1)
  getValor r := r
  setValor v _ := v
  getValor_setValor _ _ := rfl

/-- With a seven in `opcion`, a line feed 100 ms later changes each of them. -/
theorem ajustes_pierden :
    let s : Tty := { consola [] with llegadas := [((ms2i 100).toNat, 0x0A)] }
    (∃ r' s', ajustaNumero registroDiez "Id" (fun _ => 0) 0 7 3 s = .ok r' s' ∧ r' ≠ 3) ∧
      (∃ a s', ajustaSeleccion opcionesDiez (fun _ => 0) 0 7 3 s = .ok a s' ∧ a.2 ≠ 3) ∧
      ∃ a s', ajustaSeleccionInt2Ext numerosDiez (fun _ => 0) 0 7 1200 s = .ok a s' ∧ a.2 ≠ 1200 := by
  intro s
  have hb : s.lineaPregunta.EnBlanco := ⟨by decide, by decide⟩
  have hm : s.lineaMenu.EnBlanco := ⟨by decide, by decide⟩
  refine ⟨?_, ?_, ?_⟩
  · obtain ⟨r', s', e, h⟩ := ajustaNumero_iff (fun _ => 0) 0 7 3 s registroDiez "Id"
    exact ⟨r', s', e, fun heq => absurd ((h.enBlanco hb).1 heq) (by decide)⟩
  · obtain ⟨hret, hmenu⟩ := seleccionCon_iff (fun _ => 0) 0 7 3 s 10
      (fun pos => .formato "%d: %s\n" [.num pos, .texto "modo"]) (fun i => opcionesDiez.getValor_setValor i 3)
    obtain ⟨a, s', e⟩ := hret (by decide)
    exact ⟨a, s', e, fun heq => absurd (((hmenu a s' e).enBlanco hm).1 heq) (by decide)⟩
  · obtain ⟨hret, hmenu⟩ := seleccionCon_iff (fun _ => 0) 0 7 1200 s 10
      (fun pos => .formato "%d: %d\n" [.num pos, .num (1200 * (pos + 1))])
      (fun i => numerosDiez.getValor_setValor (1200 * (i + 1)) 1200)
    obtain ⟨a, s', e⟩ := hret (by decide)
    exact ⟨a, s', e, fun heq => absurd (((hmenu a s' e).enBlanco hm).1 heq) (by decide)⟩

end Wiznet
