import Wiznet.Store.Effects
import Wiznet.Tty.Canal

/-!
# The dump of the flash

The functions of `volcarFlash.cpp`.  What they print and the arrays they use on the way are returned (`Volcado`): the
indexes at which `defTipoVar` is read, and the array `nombVar` as it is when it is printed.

`volcarFlash` ends on any flash, and fills and ends `nombVar` inside the array.  It takes the index into `defTipoVar`
unchecked from the flash.
-/

namespace Wiznet

open NorFlash (Mem Cmd)
open Stateful (Returns returns_pure)
open W25Q16

/-! ### The functions -/

def defTipoVar : List String :=
  ["0 (error)", "No/Si", "No/si/Auto", "Baud", "ModoPozo", "uint8", "int8", "uint16_t", "int16", "int32", "str50"]

/-- What the functions find in memory that has no value of theirs: the text that `%s` makes of the memory past
`defTipoVar`, and the bytes of `nombVar`. -/
structure Basura where
  defTipoVar : Nat → String
  nombVar : Nat → UInt8

structure Volcado where
  salida : List Salida := []
  tipos : List Nat := []
  nombres : List Memoria := []

def Volcado.mas (v w : Volcado) : Volcado := ⟨v.salida ++ w.salida, v.tipos ++ w.tipos, v.nombres ++ w.nombres⟩

/-- The `while` of `printPlcDeFlash`. -/
def printBytes (longPLC : UInt16) : Nat → UInt16 → UInt16 → UInt8 → SpiM (List Salida)
  | 0, _, _, _ => throw .loop
  | fuel + 1, i, page, pageAddress => do
    if i < longPLC then
      let (byte, page, pageAddress) ← streamRead page pageAddress
      let texto := if byte = 0 then Salida.formato "\n\r" [] else .formato "%c" [.num byte.toUInt32]
      let resto ← printBytes longPLC fuel (i + 1) page pageAddress
      return texto :: resto
    else return []

def printPlcDeFlash (sector : UInt16) : SpiM (UInt8 × List Salida) := do
  if 1 < sector then
    return (1, [.formato "Error: sector %d no puede tener datos PLC\n\r" [.num sector.toUInt32]])
  let page := 16 * sector
  let varCheck ← readU16 page 0
  if varCheck = 0xFFFF then return (0, [.formato "Sector PLC #%d sin grabar\n\r" [.num sector.toUInt32]])
  if varCheck ≠ 0x1234 then
    return (3, [.formato "Error: sector PLC #%d no es valida\n\r" [.num sector.toUInt32]])
  let longPLC ← readU16 page 2
  let cabecera := Salida.formato "PLC#%d.  #bytes:%d\n\r" [.num sector.toUInt32, .num longPLC.toUInt32]
  if longPLC = 0 then return (0, [cabecera])
  initStreamRead page 4
  let bytes ← printBytes longPLC (longPLC.toNat + 1) 0 page 4
  closeStreamRead
  return (0, cabecera :: bytes ++ [.formato "\n\r" []])

/-- The `do … while (TRUE)` of `printVar`. -/
def leeNombre : Nat → Nat → UInt16 → Memoria → UInt16 → UInt8 → SpiM (Memoria × UInt16)
  | 0, _, _, _, _, _ => throw .loop
  | fuel + 1, i, chkSumStr, nombVar, page, pageAddress => do
    let (byte, page, pageAddress) ← streamRead page pageAddress
    let nombVar := nombVar.pon i byte
    if byte = 0 then return (nombVar, chkSumStr)
    let chkSumStr := chkSumStr + byte.toUInt16
    if i + 1 = LONGNAME - 1 then return (nombVar.pon (i + 1) 0, chkSumStr)
    leeNombre fuel (i + 1) chkSumStr nombVar page pageAddress

/-- The text in an array of `LONGNAME` bytes. -/
def textoDe (nombVar : Nat → UInt8) : String :=
  String.ofList ((((List.range LONGNAME).map nombVar).takeWhile (· ≠ 0)).map fun c => Char.ofNat c.toNat)

def printVar (basura : Basura) (sector : UInt16) : SpiM (UInt8 × Volcado) := do
  if sector < SECTORINICIALVARS then
    return (1, { salida := [.formato "Error: sector %d reservado a PLC\n\r" [.num sector.toUInt32]] })
  let page := 16 * sector
  let tipoVariable ← W25Q16.read page 0
  if tipoVariable = 0xFF then return (2, {})
  let chkSum ← readU16 page 1
  let fat ← leePosEnFAT sector
  let tipo := tipoVariable.toNat
  let cabecera := Salida.formato "sector: %d, tipo: %d (%s), chkSum: %X, pos: %d"
    [.num sector.toUInt32, .num tipoVariable.toUInt32, .texto (defTipoVar.getD tipo (basura.defTipoVar tipo)),
      .num chkSum.toUInt32, .num fat.pos.toUInt32]
  initStreamRead page 3
  let (nombVar, chkSumStr) ← leeNombre (LONGNAME - 1) 0 0 ⟨basura.nombVar, []⟩ page 3
  closeStreamRead
  let nombre := Salida.formato ", nombre:%s\n\r" [.texto (textoDe nombVar.mem)]
  if chkSumStr ≠ chkSum then
    let aviso := Salida.formato "\n\rNo coincide checkSum de flash (%4x) con el del nombre /%4X)\n\r"
      [.num chkSumStr.toUInt32, .num chkSum.toUInt32]
    return (3, ⟨[cabecera, nombre, aviso], [tipo], [nombVar]⟩)
  return (0, ⟨[cabecera, nombre], [tipo], [nombVar]⟩)

/-- The `for` over the PLC sectors. -/
def printPlcs : Nat → UInt8 → SpiM Volcado
  | 0, _ => throw .loop
  | fuel + 1, sectorPlc => do
    if sectorPlc ≤ 1 then
      let (_, salida) ← printPlcDeFlash sectorPlc.toUInt16
      let resto ← printPlcs fuel (sectorPlc + 1)
      return Volcado.mas { salida := salida } resto
    else return {}

/-- The `for` over the variables. -/
def printVars (basura : Basura) : Nat → UInt16 → SpiM Volcado
  | 0, _ => throw .loop
  | fuel + 1, sectorVar => do
    if sectorVar < 512 then
      let (_, v) ← printVar basura sectorVar
      let resto ← printVars basura fuel (sectorVar + 1)
      return v.mas resto
    else return {}

def volcarFlash (basura : Basura) : SpiM Volcado := do
  let plcs ← printPlcs 3 0
  let vars ← printVars basura 511 SECTORINICIALVARS
  return plcs.mas vars

/-- The `for` of `dumpFlash`. -/
def dumpBytes (longitud : UInt16) : Nat → UInt16 → UInt16 → UInt16 → UInt8 → SpiM (List Salida)
  | 0, _, _, _, _ => throw .loop
  | fuel + 1, i, contFila, page, pageAddress => do
    if i < longitud then
      let direccion := (page.toUInt32 <<< 8) + pageAddress.toUInt32
      let fila := if 15 < contFila then [Salida.formato "\n\r%6X: " [.num direccion]] else []
      let contFila := if 15 < contFila then 0 else contFila
      let (byte, page, pageAddress) ← streamRead page pageAddress
      let letra := if 0x20 ≤ byte ∧ byte ≤ 0x7F then Salida.formato "%c" [.num byte.toUInt32] else .formato " " []
      let resto ← dumpBytes longitud fuel (i + 1) (contFila + 1) page pageAddress
      return fila ++ [.formato "%2X" [.num byte.toUInt32], letra] ++ resto
    else return []

def dumpFlash (page : UInt16) (pageAddress : UInt8) (longitud : UInt16) : SpiM (List Salida) := do
  let cabecera := Salida.formato "\n\rVolcado pagina %d, pageStart:%d, long:%d\n\r"
    [.num page.toUInt32, .num pageAddress.toUInt32, .num longitud.toUInt32]
  initStreamRead page pageAddress
  let bytes ← dumpBytes longitud (longitud.toNat + 1) 0 999 page pageAddress
  closeStreamRead
  return cabecera :: bytes ++ [.formato "\n\r" []]

/-! ### Names -/

/-- The characters of a name that are in the field, `n` bytes from character `i` on. -/
def nombreEn (f : Nat → UInt8) (i n : Nat) : List UInt8 := ((List.range' i n).map fun j => f (3 + j)).takeWhile (· ≠ 0)

theorem nombreEn_succ (f : Nat → UInt8) (i n : Nat) :
    nombreEn f i (n + 1) = if f (3 + i) = 0 then [] else f (3 + i) :: nombreEn f (i + 1) n := by
  unfold nombreEn
  rw [List.range'_succ, List.map_cons, List.takeWhile_cons]
  by_cases h : f (3 + i) = 0
  · simp [h]
  · simp [h]

theorem length_nombreEn_le (f : Nat → UInt8) (i n : Nat) : (nombreEn f i n).length ≤ n := by
  have h := (List.takeWhile_prefix (l := (List.range' i n).map fun j => f (3 + j)) (· ≠ 0)).length_le
  simpa [nombreEn] using h

/-- Sum of the characters, modulo `2 ^ 16`. -/
def sumaDe (cs : List UInt8) (chkSumStr : UInt16) : UInt16 := cs.foldl (fun s c => s + c.toUInt16) chkSumStr

/-- Consecutive places from `i` on. -/
def Memoria.ponTodos (b : Memoria) (i : Nat) : List UInt8 → Memoria
  | [] => b
  | v :: vs => (b.pon i v).ponTodos (i + 1) vs

theorem Memoria.escritos_ponTodos (vs : List UInt8) : ∀ (b : Memoria) (i : Nat),
    (b.ponTodos i vs).escritos = b.escritos ++ List.range' i vs.length := by
  induction vs with
  | nil => simp [ponTodos]
  | cons v vs ih =>
    intro b i
    simp [ponTodos, ih, pon, List.range'_succ]

/-- The last byte is in its place. -/
theorem Memoria.mem_ponTodos_snoc (vs : List UInt8) (v : UInt8) : ∀ (b : Memoria) (i : Nat),
    (b.ponTodos i (vs ++ [v])).mem (i + vs.length) = v := by
  induction vs with
  | nil => simp [ponTodos, pon]
  | cons w vs ih =>
    intro b i
    have h := ih (b.pon i w) (i + 1)
    rwa [Nat.add_assoc, Nat.add_comm 1] at h

/-- The array ends up with the name and its terminator. -/
private theorem leeNombre_runs {m : Mem} {f : Nat → UInt8} (page : UInt16) {a : Nat}
    (hf : ∀ j, f (3 + j) = m ((a + j) % w25q16.capacity)) (fuel : Nat) :
    ∀ (i : Nat) (pa : UInt8) (s : UInt16) (nombVar : Memoria), i + fuel = LONGNAME - 1 → 0 < fuel → pa.toNat = 3 + i →
    ∃ k, ∀ l e, Runs (leeNombre fuel i s nombVar page pa) (Chip.inside (.reading a i) m false l e, true)
      (nombVar.ponTodos i (nombreEn f i fuel ++ [0]), sumaDe (nombreEn f i fuel) s)
      (Chip.inside (.reading a k) m false l e, true) := by
  induction fuel with
  | zero => intro i pa s nombVar _ h; omega
  | succ fuel ih =>
    intro i pa s nombVar hi _ hpa
    obtain ⟨hpa1, hne⟩ := sucesor_nombre hpa (by omega)
    have hstep := fun l e => streamRead_runs (m := m) (l := l) (e := e) page pa a i hne
    rw [← hf] at hstep
    unfold leeNombre
    rw [nombreEn_succ]
    by_cases hz : f (3 + i) = 0
    · refine ⟨i + 1, fun l e => (hstep l e).bind ?_⟩
      simp only [hz, if_true]
      exact Runs.pure _ _
    by_cases hlast : i + 1 = LONGNAME - 1
    · obtain rfl : fuel = 0 := by omega
      refine ⟨i + 1, fun l e => (hstep l e).bind ?_⟩
      dsimp only
      rw [if_neg hz, if_pos hlast, if_neg hz]
      exact Runs.pure _ _
    · obtain ⟨k, hk⟩ := ih (i + 1) (pa + 1) (s + (f (3 + i)).toUInt16) (nombVar.pon i (f (3 + i))) (by omega)
        (by omega) hpa1
      refine ⟨k, fun l e => (hstep l e).bind ?_⟩
      simp only [hz, hlast, if_false]
      exact hk l e

/-- The array `nombVar` of a name. -/
def nombVarDe (basura : Basura) (f : Nat → UInt8) : Memoria :=
  Memoria.ponTodos ⟨basura.nombVar, []⟩ 0 (nombreEn f 0 (LONGNAME - 1) ++ [0])

/-- It is written in its bounds and ends in them. -/
theorem nombVarDe_dentro (basura : Basura) (f : Nat → UInt8) :
    (∀ i ∈ (nombVarDe basura f).escritos, i < LONGNAME) ∧ ∃ i < LONGNAME, (nombVarDe basura f).mem i = 0 := by
  have hlen := length_nombreEn_le f 0 (LONGNAME - 1)
  have hL : LONGNAME = 32 := rfl
  constructor
  · intro i hi
    have hi : i < (nombreEn f 0 (LONGNAME - 1)).length + 1 := by
      simpa [nombVarDe, Memoria.escritos_ponTodos] using hi
    omega
  · refine ⟨_, ?_, Memoria.mem_ponTodos_snoc (nombreEn f 0 (LONGNAME - 1)) 0 _ 0⟩
    omega

section Sector

variable {m : Mem} {s : UInt16} (hs : s.toNat < 4096)
include hs

/-- The name of a sector, read through a stream. -/
theorem leeNombre_gives {α : Type} (nombVar : Memoria) {r : α} {f : Memoria × UInt16 → SpiM α}
    (hf : f (nombVar.ponTodos 0 (nombreEn (sec m s.toNat) 0 (LONGNAME - 1) ++ [0]),
      sumaDe (nombreEn (sec m s.toNat) 0 (LONGNAME - 1)) 0) = pure r) :
    Gives (do
      initStreamRead (16 * s) 3
      let x ← leeNombre (LONGNAME - 1) 0 0 nombVar (16 * s) 3
      closeStreamRead
      f x) m r [] {s.toNat} := by
  have ha : flashAddr (16 * s) 3 = 4096 * s.toNat + 3 := flashAddr_sector hs 3
  obtain ⟨k, hk⟩ := leeNombre_runs (f := sec m s.toNat) (16 * s) (a := 4096 * s.toNat + 3) (fun j => by
    rw [sec, Nat.add_assoc]) (LONGNAME - 1) 0 3 0 nombVar rfl (by decide) rfl
  refine ⟨[.read (4096 * s.toNat + 3) k], fun l e => ?_, rfl, ?_⟩
  · have h0 := initStreamRead_runs (m := m) (l := l) (e := e) (16 * s) 3
    rw [ha] at h0
    refine h0.bind ((hk l e).bind ((closeStreamRead_runs _ _).bind ?_))
    rw [hf]
    exact Runs.pure _ _
  · simp only [List.mem_singleton, forall_eq, Cmd.addr, Set.mem_singleton_iff]
    omega

/-- `printVar` on any sector of variables: its code, where it reads `defTipoVar`, and the array that it prints. -/
theorem printVar_gives (h2 : 2 ≤ s.toNat) (basura : Basura) : ∃ salida, Gives (printVar basura s) m
    (if sec m s.toNat 0 = 0xFF then 2
      else if sumaDe (nombreEn (sec m s.toNat) 0 (LONGNAME - 1)) 0 ≠ secU16 m s.toNat 1 then 3 else 0,
      if sec m s.toNat 0 = 0xFF then {}
      else ⟨salida, [(sec m s.toNat 0).toNat], [nombVarDe basura (sec m s.toNat)]⟩) [] {s.toNat} := by
  have hini : ¬ s < SECTORINICIALVARS := by
    rw [UInt16.lt_iff_toNat_lt, show SECTORINICIALVARS.toNat = 2 from rfl]
    omega
  have h0 : Gives (W25Q16.read (16 * s) 0) m (sec m s.toNat 0) [] {s.toNat} := read_gives hs 0
  have h1 : Gives (readU16 (16 * s) 1) m (secU16 m s.toNat 1) [] {s.toNat} := readU16_gives hs 1
  by_cases hff : sec m s.toNat 0 = 0xFF
  · refine ⟨[], ?_⟩
    unfold printVar
    rw [if_neg hini, if_pos hff, if_pos hff]
    refine h0.bind_read ?_
    rw [if_pos hff]
    exact Gives.pure _ _ _
  simp only [if_neg hff]
  by_cases hsum : sumaDe (nombreEn (sec m s.toNat) 0 (LONGNAME - 1)) 0 ≠ secU16 m s.toNat 1
  · apply Exists.intro
    unfold printVar
    rw [if_neg hini]
    refine h0.bind_read ?_
    rw [if_neg hff]
    refine h1.bind_read ((leePosEnFAT_gives hs).bind_read (leeNombre_gives hs _ ?_))
    dsimp only
    rw [if_pos hsum, if_pos hsum]
    rfl
  · apply Exists.intro
    unfold printVar
    rw [if_neg hini]
    refine h0.bind_read ?_
    rw [if_neg hff]
    refine h1.bind_read ((leePosEnFAT_gives hs).bind_read (leeNombre_gives hs _ ?_))
    dsimp only
    rw [if_neg hsum, if_neg hsum]
    rfl

end Sector

/-! ### Calls that only read -/

/-- Between commands, on contents `m`, the call returns with `P` and leaves them. -/
def Mira {α : Type} (x : SpiM α) (m : Mem) (P : α → Prop) : Prop :=
  ∀ b : Bus, b.Listo → b.chip.mem = m → Returns x b fun a b' => P a ∧ b'.Listo ∧ b'.chip.mem = m

section Mira

variable {α β : Type} {m : Mem} {P : α → Prop} {Q : β → Prop}

theorem Mira.bind {x : SpiM α} {f : α → SpiM β} (hx : Mira x m P) (hf : ∀ a, P a → Mira (f a) m Q) :
    Mira (x >>= f) m Q := fun b hb hm =>
  (hx b hb hm).bind fun a b' h => hf a h.1 b' h.2.1 h.2.2

theorem mira_pure {a : α} (h : P a) : Mira (pure a) m P := fun _ hb hm => returns_pure ⟨h, hb, hm⟩

theorem mira_ite {p : Prop} [Decidable p] {x y : SpiM α} (hx : p → Mira x m P) (hy : ¬ p → Mira y m P) :
    Mira (if p then x else y) m P := by
  split
  case isTrue hp => exact hx hp
  case isFalse hp => exact hy hp

theorem Gives.mira {x : SpiM α} {r : α} {S : Set Nat} (h : Gives x m r [] S) : Mira x m (· = r) := by
  intro b hb hm
  obtain ⟨log, hd, hmods, -⟩ := h
  subst hm
  obtain ⟨b', e, hb', hmem⟩ := hd.ejecuta hb
  refine ⟨r, b', e, rfl, hb', ?_⟩
  rw [hmem, ← NorFlash.replay_filter_modifies, hmods]
  rfl

/-- A call that opens a stream and closes it. -/
theorem mira_of_runs {x : SpiM α} (h : ∀ l e, ∃ a l' e', P a ∧
    Runs x (Chip.idle m false l e, false) a (Chip.idle m false l' e', false)) : Mira x m P := by
  intro b hb hm
  subst hm
  obtain ⟨a, l', e', ha, hr⟩ := h b.chip.log b.chip.env
  obtain ⟨b', e, hb', -⟩ := hr b hb.is
  exact ⟨a, b', e, ha, hb'.listo, by rw [hb'.chip]; rfl⟩

/-- Every round reads one byte, across page ends, and the counter does not overflow. -/
private theorem printBytes_runs (longPLC : UInt16) {fuel : Nat} : ∀ {i page : UInt16} {pa : UInt8} {c : Chip},
    LeeEn c m (flashAddr page pa) → flashAddr page pa + (longPLC.toNat - i.toNat) ≤ w25q16.capacity →
    longPLC.toNat - i.toNat < fuel →
    ∃ ss c' a, Runs (printBytes longPLC fuel i page pa) (c, true) ss (c', true) ∧ LeeEn c' m a := by
  induction fuel with
  | zero => intro i page pa c _ _ h; omega
  | succ fuel ih =>
    intro i page pa c hc hcap hfuel
    have hlong := longPLC.toNat_lt
    have hlt : i < longPLC ↔ i.toNat < longPLC.toNat := UInt16.lt_iff_toNat_lt
    unfold printBytes
    by_cases hi : i < longPLC
    · have hi' := hlt.1 hi
      have hi1 : (i + 1).toNat = i.toNat + 1 := by
        rw [UInt16.toNat_add, show (1 : UInt16).toNat = 1 from rfl, Nat.mod_eq_of_lt (by omega)]
      obtain ⟨page₁, pa₁, c₁, hr₁, ha₁, h₁⟩ := hc.streamRead (by omega)
      obtain ⟨ss, c₂, a, hr₂, h₂⟩ := ih (i := i + 1) h₁ (by omega) (by omega)
      rw [if_pos hi]
      exact ⟨_, c₂, a, hr₁.bind (hr₂.bind (Runs.pure _ _)), h₂⟩
    · refine ⟨[], c, _, ?_, hc⟩
      rw [if_neg hi]
      exact Runs.pure _ _

/-- `printPlcDeFlash` on any contents. -/
theorem printPlcDeFlash_mira {s : UInt16} : Mira (printPlcDeFlash s) m fun _ => True := by
  unfold printPlcDeFlash
  refine mira_ite (fun _ => mira_pure trivial) fun hs => ?_
  have hs1 : s.toNat ≤ 1 := by
    rw [UInt16.lt_iff_toNat_lt, show (1 : UInt16).toNat = 1 from rfl] at hs
    omega
  have hs : s.toNat < 4096 := by omega
  refine (readU16_gives hs 0).mira.bind fun varCheck _ => mira_ite (fun _ => mira_pure trivial) fun _ => ?_
  refine mira_ite (fun _ => mira_pure trivial) fun _ => (readU16_gives hs 2).mira.bind fun longPLC _ => ?_
  refine mira_ite (fun _ => mira_pure trivial) fun _ => mira_of_runs fun l e => ?_
  have ha : flashAddr (16 * s) 4 = 4096 * s.toNat + 4 := flashAddr_sector hs 4
  have hlong := longPLC.toNat_lt
  obtain ⟨ss, c, a, hr, hc⟩ := printBytes_runs longPLC (i := 0)
    (show LeeEn (Chip.inside (.reading (flashAddr (16 * s) 4) 0) m false l e) m _ from
      ⟨l, e, _, 0, rfl, Nat.add_zero _⟩)
    (by rw [ha]; show _ ≤ 2097152; omega) (Nat.lt_succ_of_le (Nat.sub_le ..))
  obtain ⟨l', e', hcierra⟩ := hc.cierra
  exact ⟨_, l', e', trivial, (initStreamRead_runs (16 * s) 4).bind (hr.bind (hcierra.bind (Runs.pure _ _)))⟩

/-! ### The whole dump -/

/-- Every access is in the bounds of its array, and `nombVar` ends in its bounds. -/
structure Volcado.Dentro (v : Volcado) : Prop where
  tipos : ∀ i ∈ v.tipos, i < defTipoVar.length
  nombres : ∀ nombVar ∈ v.nombres, (∀ i ∈ nombVar.escritos, i < LONGNAME) ∧ ∃ i < LONGNAME, nombVar.mem i = 0

theorem Volcado.dentro_mas {v w : Volcado} : (v.mas w).Dentro ↔ v.Dentro ∧ w.Dentro := by
  constructor
  · rintro ⟨ht, hn⟩
    simp only [mas, List.mem_append] at ht hn
    exact ⟨⟨fun i hi => ht i (.inl hi), fun b hb => hn b (.inl hb)⟩, fun i hi => ht i (.inr hi), fun b hb =>
      hn b (.inr hb)⟩
  · rintro ⟨⟨ht, hn⟩, ht', hn'⟩
    refine ⟨fun i hi => ?_, fun b hb => ?_⟩
    · exact (List.mem_append.1 hi).elim (ht i) (ht' i)
    · exact (List.mem_append.1 hb).elim (hn b) (hn' b)

theorem Volcado.dentro_salida (salida : List Salida) : Volcado.Dentro { salida := salida } := ⟨by simp, by simp⟩

/-- The type of the sector has a name, or the sector is blank. -/
def TipoConNombre (m : Mem) (s : Nat) : Prop := sec m s 0 = 0xFF ∨ (sec m s 0).toNat < defTipoVar.length

instance (m : Mem) (s : Nat) : Decidable (TipoConNombre m s) := inferInstanceAs (Decidable (_ ∨ _))

/-- A sector is dumped inside the arrays exactly when its type has a name. -/
theorem printVar_mira {s : UInt16} (hs : s.toNat < 4096) (h2 : 2 ≤ s.toNat) (basura : Basura) :
    Mira (printVar basura s) m fun x => x.2.Dentro ↔ TipoConNombre m s.toNat := by
  obtain ⟨salida, h⟩ := printVar_gives (m := m) hs h2 basura
  refine fun b hb hm => (h.mira b hb hm).weaken fun x b' ⟨hx, hb'⟩ => ⟨?_, hb'⟩
  subst hx
  by_cases hff : sec m s.toNat 0 = 0xFF
  · simp only [if_pos hff]
    exact iff_of_true (Volcado.dentro_salida []) (.inl hff)
  · simp only [if_neg hff]
    have hnom := nombVarDe_dentro basura (sec m s.toNat)
    constructor
    · exact fun h => .inr (h.tipos _ (List.mem_singleton_self _))
    · intro h
      refine ⟨fun i hi => ?_, fun nombVar hn => ?_⟩
      · rw [List.mem_singleton.1 hi]
        exact h.resolve_left hff
      · rw [List.mem_singleton.1 hn]
        exact hnom

private theorem printVars_mira (basura : Basura) {fuel : Nat} : ∀ {x : Nat}, 2 ≤ x → x ≤ 512 → x + fuel = 513 →
    Mira (printVars basura fuel (UInt16.ofNat x)) m fun v => v.Dentro ↔ ∀ s, x ≤ s → s < 512 → TipoConNombre m s := by
  induction fuel with
  | zero => intro x _ _ h; omega
  | succ fuel ih =>
    intro x h2 h512 hf
    have hx : (UInt16.ofNat x).toNat = x := toNat_sector (by omega)
    have hlt : UInt16.ofNat x < 512 ↔ x < 512 := by
      rw [UInt16.lt_iff_toNat_lt, hx]
      exact Iff.rfl
    have hsucc : UInt16.ofNat x + 1 = UInt16.ofNat (x + 1) := by rw [UInt16.ofNat_add]; rfl
    unfold printVars
    refine mira_ite (fun h => ?_) fun h => mira_pure ?_
    · have h := hlt.1 h
      rw [hsucc]
      refine (printVar_mira (by omega) (by omega) basura).bind fun v hv => ?_
      refine (ih (by omega) (by omega) (by omega)).bind fun w hw => mira_pure ?_
      rw [hx] at hv
      rw [Volcado.dentro_mas, hv, hw]
      constructor
      · rintro ⟨h₁, h₂⟩ s hs hs'
        rcases Nat.eq_or_lt_of_le hs with rfl | hs
        · exact h₁
        · exact h₂ s hs hs'
      · exact fun h' => ⟨h' x (Nat.le_refl x) h, fun s hs => h' s (by omega)⟩
    · have h : ¬ x < 512 := fun h' => h (hlt.2 h')
      exact iff_of_true (Volcado.dentro_salida []) fun s hs hs' => by omega

private theorem printPlcs_mira : Mira (printPlcs 3 0) m Volcado.Dentro := by
  have hplc : ∀ fuel sectorPlc, sectorPlc.toNat + fuel = 3 → sectorPlc.toNat ≤ 2 →
      Mira (printPlcs fuel sectorPlc) m Volcado.Dentro := by
    intro fuel
    induction fuel with
    | zero => intro sectorPlc h h2; omega
    | succ fuel ih =>
      intro sectorPlc hf h2
      unfold printPlcs
      refine mira_ite (fun h => ?_) fun _ => mira_pure (Volcado.dentro_salida [])
      rw [UInt8.le_iff_toNat_le, show (1 : UInt8).toNat = 1 from rfl] at h
      have hsucc : (sectorPlc + 1).toNat = sectorPlc.toNat + 1 := by
        rw [UInt8.toNat_add, show (1 : UInt8).toNat = 1 from rfl, Nat.mod_eq_of_lt (by omega)]
      refine printPlcDeFlash_mira.bind fun x _ => (ih (sectorPlc + 1) (by omega) (by omega)).bind fun w hw => ?_
      exact mira_pure (Volcado.dentro_mas.2 ⟨Volcado.dentro_salida _, hw⟩)
  exact hplc 3 0 rfl (by decide)

theorem volcarFlash_mira (basura : Basura) :
    Mira (volcarFlash basura) m fun v => v.Dentro ↔ ∀ s, 2 ≤ s → s < 512 → TipoConNombre m s := by
  refine printPlcs_mira.bind fun v hv => ?_
  refine (printVars_mira basura (x := 2) (Nat.le_refl 2) (by decide) rfl).bind fun w hw => mira_pure ?_
  rw [Volcado.dentro_mas, and_iff_right hv]
  exact hw

end Mira

/-- The dump ends, with every access in the bounds of its array. -/
def VolcadoSeguro (basura : Basura) (b : Bus) : Prop := ∃ v b', volcarFlash basura b = .ok v b' ∧ v.Dentro

/-- The dump ends on any flash, and it stays inside its arrays exactly when every sector of variables is blank or has a
type with a name. -/
theorem volcadoSeguro_iff {b : Bus} (hb : b.Listo) (basura : Basura) :
    (∃ v b', volcarFlash basura b = .ok v b') ∧
    (VolcadoSeguro basura b ↔ ∀ s, 2 ≤ s → s < 512 → TipoConNombre b.chip.mem s) := by
  obtain ⟨v, b', e, hv, -⟩ := volcarFlash_mira basura b hb rfl
  refine ⟨⟨v, b', e⟩, ?_⟩
  rw [← hv]
  constructor
  · rintro ⟨w, b'', e', hw⟩
    rw [e] at e'
    injection e' with hvw
    rwa [hvw]
  · exact fun h => ⟨v, b', e, h⟩

/-- A damaged flash: every sector has a type with a name, and then the same byte in its checksum, its name and its
FAT. -/
def Bus.danada : Bus :=
  { Bus.nuevo with chip := { Bus.nuevo.chip with
      mem := fun a => if a % 4096 = 0 then UInt8.ofNat (a / 4096 % 11) else 0x61 } }

theorem volcadoSeguro_danada : VolcadoSeguro ⟨fun _ => "", fun _ => 0xFF⟩ Bus.danada := by
  refine (volcadoSeguro_iff (b := Bus.danada) ⟨rfl, rfl, rfl, rfl, rfl⟩ _).2.2 fun s _ hs => .inr ?_
  have hcap : w25q16.capacity = 2097152 := rfl
  have h0 : sec Bus.danada.chip.mem s 0 = UInt8.ofNat (4096 * s / 4096 % 11) := by
    unfold sec
    rw [hcap, Nat.add_zero, Nat.mod_eq_of_lt (by omega)]
    exact if_pos (Nat.mul_mod_right 4096 s)
  rw [h0, UInt8.toNat_ofNat', show defTipoVar.length = 11 from rfl]
  omega

/-- The first sector of variables has a type that is not in the table, the rest of the flash is blank. -/
def Bus.tipo11 : Bus :=
  { Bus.nuevo with chip := { Bus.nuevo.chip with mem := fun a => if a = 8192 then 11 else 0xFF } }

theorem volcadoSeguro_tipo11 : ¬ VolcadoSeguro ⟨fun _ => "", fun _ => 0xFF⟩ Bus.tipo11 := by
  obtain ⟨v, b', e, hv, -⟩ := volcarFlash_mira ⟨fun _ => "", fun _ => 0xFF⟩ Bus.tipo11 ⟨rfl, rfl, rfl, rfl, rfl⟩ rfl
  rintro ⟨w, b'', e', hw⟩
  rw [e] at e'
  injection e' with hvw
  exact absurd (hv.1 (hvw ▸ hw) 2 (Nat.le_refl 2) (by decide)) (by decide)

end Wiznet
