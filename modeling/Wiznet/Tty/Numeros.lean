import Wiznet.Library.Numeral
import Mathlib.Data.List.GetD

/-!
# The number parsers

`Str2Int`, `HexStr2Int` and `HexStrN2Int` of `gets.cpp`.  They go through the string with one loop (`recorre`), up to 11
characters or as many as they are told, and differ in what they store and when.  `*intnum` is an argument, its value
before, and comes back as a result.
-/

namespace Wiznet

open Numeral (Base)

/-! ### The loop -/

def IS_AF (c : UInt8) : Bool := 0x41 ≤ c && c ≤ 0x46

def IS_af (c : UInt8) : Bool := 0x61 ≤ c && c ≤ 0x66

def IS_09 (c : UInt8) : Bool := 0x30 ≤ c && c ≤ 0x39

def ISVALIDHEX (c : UInt8) : Bool := IS_AF c || IS_af c || IS_09 c

def ISVALIDDEC (c : UInt8) : Bool := IS_09 c

def CONVERTDEC (c : UInt8) : UInt32 := (c - 0x30).toUInt32

def CONVERTHEX_alpha (c : UInt8) : UInt32 := if IS_AF c then (c - 0x41 + 10).toUInt32 else (c - 0x61 + 10).toUInt32

def CONVERTHEX (c : UInt8) : UInt32 := if IS_09 c then (c - 0x30).toUInt32 else CONVERTHEX_alpha c

/-- The two bases of the parsers. -/
inductive Cifra where
  | dec
  | hex

namespace Cifra

def valida : Cifra → UInt8 → Bool
  | dec => ISVALIDDEC
  | hex => ISVALIDHEX

def acumula : Cifra → UInt32 → UInt8 → UInt32
  | dec, val, c => val * 10 + CONVERTDEC c
  | hex, val, c => (val <<< 4) + CONVERTHEX c

end Cifra

/-- How the loop ends: the final `i`, `res` and `val`, and whether it has come to the terminator. -/
structure Recorrido where
  i : Nat
  res : UInt32
  val : UInt32
  nul : Bool
  deriving DecidableEq

/-- The `for` loop with so many rounds left. -/
def recorre (b : Cifra) (inputstr : Nat → UInt8) : Nat → Nat → Bool → UInt32 → Recorrido
  | 0, i, _, val => ⟨i, 0, val, false⟩
  | k + 1, i, enEspacioInicial, val =>
    if inputstr i = 0 then ⟨i, 0, val, true⟩
    else if enEspacioInicial && inputstr i == 0x20 then recorre b inputstr k (i + 1) enEspacioInicial val
    else if b.valida (inputstr i) then recorre b inputstr k (i + 1) false (b.acumula val (inputstr i))
    else ⟨i, -1, val, false⟩

/-- The last test of the three functions: a string that is too long. -/
def Recorrido.codigo (r : Recorrido) : UInt32 := if r.i ≥ 11 then -2 else r.res

/-- Return code and final `*intnum`. -/
def Str2Int (inputstr : Nat → UInt8) (intnum : UInt32) : Int16 × UInt32 :=
  let r := recorre .dec inputstr 11 0 true 0
  (r.codigo.toUInt16.toInt16, if r.nul then r.val else intnum)

def HexStr2Int (inputstr : Nat → UInt8) (intnum : UInt32) : Int32 × UInt32 :=
  if inputstr 0 = 0 then (0, intnum)
  else
    let r := recorre .hex inputstr 11 0 true 0
    (r.codigo.toInt32, if r.nul then r.val else intnum)

def HexStrN2Int (inputstr : Nat → UInt8) (numDigits : UInt32) (intnum : UInt32) : Int32 × UInt32 :=
  if inputstr 0 = 0 then (0, intnum)
  else
    -- the test for i > numDigits in the loop is never true
    let r := recorre .hex inputstr numDigits.toNat 0 true 0
    (r.codigo.toInt32, r.val)

/-! ### Strings and bases -/

/-- The memory holds the string, with its terminator. -/
structure EsCadena (s : Nat → UInt8) (l : List UInt8) : Prop where
  car : ∀ i, (_ : i < l.length) → s i = l[i]
  fin : s l.length = 0
  noNul : 0 ∉ l

/-- A memory that does. -/
def memoriaDe (l : List UInt8) (i : Nat) : UInt8 := l.getD i 0

theorem esCadena_memoriaDe {l : List UInt8} (h : 0 ∉ l) : EsCadena (memoriaDe l) l where
  car _ hi := List.getD_eq_getElem _ _ hi
  fin := List.getD_eq_default _ _ (Nat.le_refl _)
  noNul := h

theorem EsCadena.primero_iff {s : Nat → UInt8} {l : List UInt8} (h : EsCadena s l) : s 0 = 0 ↔ l = [] := by
  cases l with
  | nil => exact iff_of_true h.fin rfl
  | cons c l =>
    refine iff_of_false (fun h0 => ?_) (List.cons_ne_nil c l)
    rw [h.car 0 (Nat.zero_lt_succ _)] at h0
    exact h.noNul (h0 ▸ List.mem_cons_self ..)

namespace Cifra

/-- The numerals of the base. -/
def base (b : Cifra) : Base UInt8 where
  radix := match b with
    | dec => 10
    | hex => 16
  blank c := c == 0x20
  valid := b.valida
  digit c := match b with
    | dec => (CONVERTDEC c).toNat
    | hex => (CONVERTHEX c).toNat
  not_valid {c} h := by
    have hc : c = 0x20 := by simpa using h
    subst hc
    cases b <;> decide

theorem acumula_toNat (b : Cifra) (val : UInt32) (c : UInt8) :
    (b.acumula val c).toNat = (val.toNat * b.base.radix + b.base.digit c) % 4294967296 := by
  cases b with
  | dec =>
    show (val * 10 + CONVERTDEC c).toNat = (val.toNat * 10 + (CONVERTDEC c).toNat) % 4294967296
    rw [UInt32.toNat_add, UInt32.toNat_mul, show (10 : UInt32).toNat = 10 from rfl]
    omega
  | hex =>
    show ((val <<< 4) + CONVERTHEX c).toNat = (val.toNat * 16 + (CONVERTHEX c).toNat) % 4294967296
    rw [UInt32.toNat_add, UInt32.toNat_shiftLeft, show (4 : UInt32).toNat % 32 = 4 from rfl, Nat.shiftLeft_eq]
    omega

/-- The accumulator wraps. -/
theorem foldl_acumula (b : Cifra) (ds : List UInt8) (val : UInt32) {v : Nat} (h : val.toNat = v % 4294967296) :
    (ds.foldl b.acumula val).toNat = b.base.extend v ds % 4294967296 := by
  induction ds generalizing val v with
  | nil => exact h
  | cons c ds ih =>
    refine ih (b.acumula val c) ?_
    rw [acumula_toNat, h, Nat.add_mod, Nat.mod_mul_mod, ← Nat.add_mod]

/-- The value of the first digits of a string, as 32 bits hold it. -/
def valorLeido (b : Cifra) (l : List UInt8) : UInt32 := UInt32.ofNat (b.base.value (b.base.digits l))

theorem foldl_acumula_zero (b : Cifra) (l : List UInt8) : (b.base.digits l).foldl b.acumula 0 = b.valorLeido l := by
  apply UInt32.toNat_inj.1
  rw [foldl_acumula b _ 0 (v := 0) rfl, valorLeido, UInt32.toNat_ofNat']
  rfl

end Cifra

/-! ### What the loop does -/

section

variable {s : Nat → UInt8} {b : Cifra}

private theorem EsCadena.cola {i : Nat} {c : UInt8} {l : List UInt8} (h : EsCadena (fun j => s (i + j)) (c :: l)) :
    s i = c ∧ c ≠ 0 ∧ EsCadena (fun j => s (i + 1 + j)) l := by
  have hmem : ∀ x, x ∈ l → x ∈ c :: l := fun x hx => List.mem_cons_of_mem c hx
  refine ⟨h.car 0 (Nat.zero_lt_succ _), fun h0 => h.noNul (h0 ▸ List.mem_cons_self ..), ?_, ?_, ?_⟩
  · intro j hj
    have := h.car (j + 1) (Nat.succ_lt_succ hj)
    rwa [Nat.add_assoc, Nat.add_comm 1 j]
  · have := h.fin
    rwa [Nat.add_assoc, Nat.add_comm 1]
  · exact fun h0 => h.noNul (hmem 0 h0)

/-- After the blanks. -/
private theorem recorre_cifras (k : Nat) : ∀ {l : List UInt8} {i : Nat} (val : UInt32),
    EsCadena (fun j => s (i + j)) l → recorre b s k i false val =
      if ((l.take k).takeWhile b.valida).length < (l.take k).length then
        ⟨i + ((l.take k).takeWhile b.valida).length, -1, ((l.take k).takeWhile b.valida).foldl b.acumula val, false⟩
      else ⟨i + (l.take k).length, 0, ((l.take k).takeWhile b.valida).foldl b.acumula val, decide (l.length < k)⟩ := by
  induction k with
  | zero =>
    intro l i val _
    simp [recorre]
  | succ k ih =>
    intro l i val hl
    cases l with
    | nil =>
      have h0 : s i = 0 := hl.fin
      simp [recorre, h0]
    | cons c l =>
      obtain ⟨hc, h0, hl'⟩ := hl.cola
      unfold recorre
      rw [hc, if_neg h0, Bool.false_and, if_neg Bool.false_ne_true, List.take_succ_cons]
      by_cases hv : b.valida c = true
      · rw [if_pos hv, ih _ hl', List.takeWhile_cons_of_pos hv]
        simp only [List.length_cons, Nat.succ_lt_succ_iff, List.foldl_cons, Nat.add_assoc, Nat.add_comm 1]
      · rw [if_neg hv, List.takeWhile_cons_of_neg hv, if_pos (by simp)]
        rfl

/-- The loop over the characters it may look at: it stops where a numeral would, or with all of them read. -/
theorem recorre_eq (k : Nat) : ∀ {l : List UInt8} {i : Nat} (val : UInt32),
    EsCadena (fun j => s (i + j)) l → recorre b s k i true val =
      if b.base.stop (l.take k) < (l.take k).length then
        ⟨i + b.base.stop (l.take k), -1, (b.base.digits (l.take k)).foldl b.acumula val, false⟩
      else ⟨i + (l.take k).length, 0, (b.base.digits (l.take k)).foldl b.acumula val, decide (l.length < k)⟩ := by
  induction k with
  | zero =>
    intro l i val _
    simp [recorre, Base.stop, Base.digits]
  | succ k ih =>
    intro l i val hl
    cases l with
    | nil =>
      have h0 : s i = 0 := hl.fin
      simp [recorre, h0, Base.stop, Base.digits]
    | cons c l =>
      obtain ⟨hc, h0, hl'⟩ := hl.cola
      by_cases hb : c = 0x20
      · obtain ⟨hdig, hstop⟩ := Base.digits_cons_blank (b := b.base) (l.take k) (beq_iff_eq.2 hb)
        unfold recorre
        rw [hc, if_neg h0, if_pos (by simp [hb]), ih _ hl', List.take_succ_cons, hdig, hstop]
        simp only [List.length_cons, Nat.succ_lt_succ_iff, Nat.add_assoc, Nat.add_comm 1]
      · have hnb : ¬ b.base.blank c = true := fun h => hb (beq_iff_eq.1 h)
        obtain ⟨hdig, hstop⟩ := Base.digits_cons_of_not_blank (l.take k) hnb
        have hesp : recorre b s (k + 1) i true val = recorre b s (k + 1) i false val := by
          unfold recorre
          rw [hc]
          simp [hb]
        rw [hesp, recorre_cifras _ _ hl, List.take_succ_cons, hdig, hstop]
        rfl

end

/-! ### What the parsers accept -/

/-- Blanks and digits, in at most 10 characters. -/
def Cifra.Acepta (b : Cifra) (l : List UInt8) : Prop := l.length ≤ 10 ∧ b.base.stop l = l.length

instance (b : Cifra) (l : List UInt8) : Decidable (b.Acepta l) := inferInstanceAs (Decidable (_ ∧ _))

/-- The code of the loop over 11 characters. -/
def Cifra.codigo (b : Cifra) (l : List UInt8) : UInt32 :=
  if b.base.stop l < min 11 l.length then -1 else if 11 ≤ l.length then -2 else 0

theorem Cifra.codigo_eq_zero_iff {b : Cifra} {l : List UInt8} : b.codigo l = 0 ↔ b.Acepta l := by
  have hle := Base.stop_le (b := b.base) l
  unfold codigo Acepta
  by_cases h1 : b.base.stop l < min 11 l.length
  · rw [if_pos h1]
    exact iff_of_false (by decide) (by omega)
  · rw [if_neg h1]
    by_cases h2 : 11 ≤ l.length
    · rw [if_pos h2]
      exact iff_of_false (by decide) (by omega)
    · rw [if_neg h2]
      exact iff_of_true rfl (by omega)

section

variable {s s' : Nat → UInt8} {b : Cifra} {l : List UInt8}

/-- What the functions look at when the loop is over. -/
theorem recorre_fin (h : EsCadena s l) (k : Nat) :
    (recorre b s k 0 true 0).codigo = b.codigo (l.take k) ∧
      (recorre b s k 0 true 0).val = b.valorLeido (l.take k) ∧
      (recorre b s k 0 true 0).nul = decide (b.base.stop l = l.length ∧ l.length < k) := by
  have hle := Base.stop_le (b := b.base) l
  have hr := recorre_eq (s := s) (b := b) k (i := 0) 0 (by simpa using h)
  rw [Cifra.foldl_acumula_zero, Base.stop_take, List.length_take] at hr
  rw [hr]
  unfold Cifra.codigo Recorrido.codigo
  rw [Base.stop_take, List.length_take]
  by_cases h1 : min k (b.base.stop l) < min k l.length
  · rw [if_pos h1]
    refine ⟨?_, rfl, (decide_eq_false (by omega)).symm⟩
    dsimp only
    by_cases h2 : 11 ≤ min k (b.base.stop l)
    · rw [if_pos (by omega), if_neg (by omega), if_pos (by omega)]
    · rw [if_neg (by omega), if_pos (by omega)]
  · rw [if_neg h1]
    refine ⟨?_, rfl, decide_eq_decide.2 (by omega)⟩
    dsimp only
    rw [if_neg (show ¬ min k (b.base.stop l) < min 11 (min k l.length) by omega), Nat.zero_add]

theorem recorre_once (h : EsCadena s l) (intnum : UInt32) :
    (recorre b s 11 0 true 0).codigo = b.codigo l ∧
      (if (recorre b s 11 0 true 0).nul then (recorre b s 11 0 true 0).val else intnum) =
        if b.Acepta l then b.valorLeido l else intnum := by
  obtain ⟨hc, hv, hn⟩ := recorre_fin (b := b) h 11
  rw [hc, hv, hn]
  constructor
  · unfold Cifra.codigo
    rw [Base.stop_take, List.length_take]
    have := Base.stop_le (b := b.base) l
    by_cases h1 : b.base.stop l < min 11 l.length
    · rw [if_pos (by omega), if_pos h1]
    · rw [if_neg (by omega), if_neg h1, if_congr (show 11 ≤ min 11 l.length ↔ 11 ≤ l.length by omega) rfl rfl]
  · by_cases ha : b.Acepta l
    · rw [if_pos ha, if_pos (decide_eq_true ⟨ha.2, Nat.lt_succ_of_le ha.1⟩),
        List.take_of_length_le (Nat.le_succ_of_le ha.1)]
    · rw [if_neg ha, if_neg]
      exact fun hd => ha ⟨Nat.le_of_lt_succ (of_decide_eq_true hd).2, (of_decide_eq_true hd).1⟩

theorem Str2Int_eq (h : EsCadena s l) (intnum : UInt32) :
    Str2Int s intnum = ((Cifra.dec.codigo l).toUInt16.toInt16,
      if Cifra.dec.Acepta l then Cifra.dec.valorLeido l else intnum) := by
  obtain ⟨hc, hv⟩ := recorre_once (b := .dec) h intnum
  unfold Str2Int
  dsimp only
  rw [hc, hv]

theorem HexStr2Int_eq (h : EsCadena s l) (intnum : UInt32) :
    HexStr2Int s intnum = if l = [] then (0, intnum) else ((Cifra.hex.codigo l).toInt32,
      if Cifra.hex.Acepta l then Cifra.hex.valorLeido l else intnum) := by
  obtain ⟨hc, hv⟩ := recorre_once (b := .hex) h intnum
  unfold HexStr2Int
  rw [if_congr h.primero_iff rfl rfl]
  dsimp only
  rw [hc, hv]

theorem HexStrN2Int_eq (h : EsCadena s l) (n intnum : UInt32) :
    HexStrN2Int s n intnum = if l = [] then (0, intnum) else ((Cifra.hex.codigo (l.take n.toNat)).toInt32,
      Cifra.hex.valorLeido (l.take n.toNat)) := by
  obtain ⟨hc, hv, -⟩ := recorre_fin (b := .hex) h n.toNat
  unfold HexStrN2Int
  rw [if_congr h.primero_iff rfl rfl]
  dsimp only
  rw [hc, hv]

/-! ### The number written -/

/-- The string is a numeral of at most 10 characters with this value. -/
def Cifra.Escrito (b : Cifra) (l : List UInt8) (v : UInt32) : Prop := l.length ≤ 10 ∧ b.base.Reads l v.toNat

/-- A parser that gives the number written, or an error and nothing else. -/
structure Cifra.Cumple (b : Cifra) (l : List UInt8) (cero : Prop) (intnum intnum' : UInt32) : Prop where
  codigo : cero ↔ ∃ v, b.Escrito l v
  valor : ∀ v, b.Escrito l v → intnum' = v
  intacto : (¬ ∃ v, b.Escrito l v) → intnum' = intnum

/-- Not a short string of blanks, nor a short numeral whose value has no place in 32 bits. -/
def Cifra.Bien (b : Cifra) (l : List UInt8) : Prop :=
  l.length ≤ 10 → (∃ c ∈ l, c ≠ 0x20) ∧ ∀ v, b.base.Reads l v → v < 4294967296

theorem Cifra.Acepta.escrito_iff (h : b.Acepta l) {v : UInt32} :
    b.Escrito l v ↔ b.base.digits l ≠ [] ∧ b.base.value (b.base.digits l) = v.toNat :=
  ⟨fun hv => (Base.reads_iff.1 hv.2).2, fun hv => ⟨h.1, Base.reads_iff.2 ⟨h.2, hv⟩⟩⟩

theorem Cifra.Escrito.acepta {v : UInt32} (h : b.Escrito l v) : b.Acepta l := ⟨h.1, (Base.reads_iff.1 h.2).1⟩

/-- An accepted string has a number written in it unless it is one of those. -/
theorem Cifra.Acepta.bien_iff (h : b.Acepta l) : b.Bien l ↔ ∃ v, b.Escrito l v := by
  have hnil := Base.digits_eq_nil_iff h.2
  constructor
  · intro hb
    obtain ⟨⟨c, hc, hne⟩, hlt⟩ := hb h.1
    have hd : b.base.digits l ≠ [] := fun hd => hne (beq_iff_eq.1 (hnil.1 hd c hc))
    have := hlt _ (Base.reads_iff.2 ⟨h.2, hd, rfl⟩)
    exact ⟨UInt32.ofNat (b.base.value (b.base.digits l)), h.escrito_iff.2 ⟨hd, by
      rw [UInt32.toNat_ofNat', Nat.mod_eq_of_lt this]⟩⟩
  · rintro ⟨v, hv⟩ -
    have hd := (h.escrito_iff.1 hv).1
    constructor
    · by_contra hall
      exact hd (hnil.2 fun c hc => beq_iff_eq.2 (not_not.1 fun hne => hall ⟨c, hc, hne⟩))
    · intro w hw
      rw [hw.unique hv.2]
      exact v.toNat_lt

theorem Cifra.bien_of_not_acepta (h : ¬ b.Acepta l) : b.Bien l := by
  intro hlen
  have hstop : b.base.stop l ≠ l.length := fun hs => h ⟨hlen, hs⟩
  constructor
  · by_contra hall
    refine hstop ?_
    have hblank : l.takeWhile b.base.blank = l := List.takeWhile_eq_self_iff.2 fun c hc =>
      beq_iff_eq.2 (not_not.1 fun hne => hall ⟨c, hc, hne⟩)
    have := Base.stop_le (b := b.base) l
    unfold Base.stop at this ⊢
    rw [hblank] at this ⊢
    omega
  · intro v hv
    exact absurd (Base.reads_iff.1 hv).1 hstop

/-- A parser that accepts what the loop accepts, and stores what it has read. -/
theorem Cifra.cumple_iff {cero : Prop} (h : cero ↔ b.Acepta l) (intnum : UInt32) :
    b.Cumple l cero intnum (if b.Acepta l then b.valorLeido l else intnum) ↔ b.Bien l := by
  by_cases ha : b.Acepta l
  · rw [ha.bien_iff, if_pos ha]
    constructor
    · exact fun hc => hc.codigo.1 (h.2 ha)
    · intro he
      refine ⟨iff_of_true (h.2 ha) he, fun v hv => ?_, fun hne => absurd he hne⟩
      unfold valorLeido
      rw [(ha.escrito_iff.1 hv).2, UInt32.ofNat_toNat]
  · rw [if_neg ha]
    have hno : ¬ ∃ v, b.Escrito l v := fun ⟨v, hv⟩ => ha hv.acepta
    refine iff_of_true ⟨iff_of_false (fun hc => ha (h.1 hc)) hno, fun v hv => absurd ⟨v, hv⟩ hno, fun _ => rfl⟩
      (bien_of_not_acepta ha)

theorem Cifra.codigo_cases (b : Cifra) (l : List UInt8) : b.codigo l = 0 ∨ b.codigo l = -1 ∨ b.codigo l = -2 := by
  unfold codigo
  split
  · exact .inr (.inl rfl)
  · split
    · exact .inr (.inr rfl)
    · exact .inl rfl

/-- The codes are told apart in 16 bits and in 32. -/
theorem Cifra.codigo_cero (b : Cifra) (l : List UInt8) :
    ((b.codigo l).toUInt16.toInt16 = 0 ↔ b.Acepta l) ∧ ((b.codigo l).toInt32 = 0 ↔ b.Acepta l) := by
  rw [← codigo_eq_zero_iff]
  rcases b.codigo_cases l with h | h | h
  · rw [h]; decide
  · rw [h]; decide
  · rw [h]; decide

/-- The parsers give the number written exactly on the strings that are not blank and have no numeral beyond 32 bits;
the one with a count agrees with the other one exactly on empty strings, where the prefix is accepted, and where the
number that it has read by the end is the one that was there. -/
theorem parsers_iff (h : EsCadena s l) (n : UInt32) (h' : EsCadena s' (l.take n.toNat)) (intnum : UInt32) :
    (Cifra.dec.Cumple l ((Str2Int s intnum).1 = 0) intnum (Str2Int s intnum).2 ↔ Cifra.dec.Bien l) ∧
    (Cifra.hex.Cumple l ((HexStr2Int s intnum).1 = 0) intnum (HexStr2Int s intnum).2 ↔ Cifra.hex.Bien l) ∧
    (HexStrN2Int s n intnum = HexStr2Int s' intnum ↔
      l = [] ∨ (l.take n.toNat ≠ [] ∧ Cifra.hex.Acepta (l.take n.toNat)) ∨
        intnum = Cifra.hex.valorLeido (l.take n.toNat)) := by
  refine ⟨?_, ?_, ?_⟩
  · rw [Str2Int_eq h]
    exact Cifra.cumple_iff (Cifra.dec.codigo_cero l).1 intnum
  · rw [HexStr2Int_eq h]
    by_cases hl : l = []
    · have hb : ¬ Cifra.hex.Bien l := by
        intro hb
        obtain ⟨⟨c, hc, -⟩, -⟩ := hb (by rw [hl]; exact Nat.zero_le _)
        rw [hl] at hc
        cases hc
      rw [if_pos hl]
      refine iff_of_false (fun hc => ?_) hb
      obtain ⟨v, hv⟩ := hc.codigo.1 rfl
      exact hb (hv.acepta.bien_iff.2 ⟨v, hv⟩)
    · rw [if_neg hl]
      exact Cifra.cumple_iff (Cifra.hex.codigo_cero l).2 intnum
  · rw [HexStrN2Int_eq h, HexStr2Int_eq h']
    by_cases hl : l = []
    · refine iff_of_true ?_ (.inl hl)
      rw [if_pos hl, if_pos (by rw [hl, List.take_nil])]
    rw [if_neg hl]
    by_cases ht : l.take n.toNat = []
    · rw [if_pos ht, ht]
      simp only [hl, ne_eq, not_true, false_and, false_or]
      exact ⟨fun he => (congrArg Prod.snd he).symm, fun he => Prod.ext rfl he.symm⟩
    · rw [if_neg ht]
      simp only [hl, ht, ne_eq, not_false_iff, true_and, false_or, Prod.mk.injEq]
      by_cases ha : Cifra.hex.Acepta (l.take n.toNat)
      · simp only [ha, if_true, true_or]
      · simp only [ha, if_false, false_or]
        exact eq_comm

end

/-- The string 12. -/
theorem parsers_doce : Cifra.dec.Cumple [0x31, 0x32] ((Str2Int (memoriaDe [0x31, 0x32]) 7).1 = 0) 7
    (Str2Int (memoriaDe [0x31, 0x32]) 7).2 :=
  (parsers_iff (l := [0x31, 0x32]) (esCadena_memoriaDe (by decide)) 1 (esCadena_memoriaDe (by decide)) 7).1.2
    ((Cifra.Acepta.bien_iff (by decide)).2 ⟨12, (Cifra.Acepta.escrito_iff (by decide)).2 (by decide)⟩)

/-- The string 4294967296 is accepted, with value 0, and so is the empty one; and 1G leaves its first digit behind. -/
theorem parsers_fallan :
    let s := memoriaDe [0x34, 0x32, 0x39, 0x34, 0x39, 0x36, 0x37, 0x32, 0x39, 0x36]
    ¬ Cifra.dec.Cumple [0x34, 0x32, 0x39, 0x34, 0x39, 0x36, 0x37, 0x32, 0x39, 0x36] ((Str2Int s 7).1 = 0) 7
      (Str2Int s 7).2 ∧
    ¬ Cifra.dec.Cumple [] ((Str2Int (memoriaDe []) 7).1 = 0) 7 (Str2Int (memoriaDe []) 7).2 ∧
    ¬ Cifra.hex.Cumple [] ((HexStr2Int (memoriaDe []) 7).1 = 0) 7 (HexStr2Int (memoriaDe []) 7).2 ∧
    HexStrN2Int (memoriaDe [0x31, 0x47]) 2 7 ≠ HexStr2Int (memoriaDe [0x31, 0x47]) 7 := by
  intro s
  refine ⟨fun h => ?_, fun h => ?_, fun h => ?_, by decide⟩
  · obtain ⟨v, hv⟩ := h.codigo.1 (by decide)
    have hval := (hv.acepta.escrito_iff.1 hv).2
    have hlt := v.toNat_lt
    rw [← hval] at hlt
    exact absurd hlt (by decide)
  · obtain ⟨v, hv⟩ := h.codigo.1 (by decide)
    exact (hv.acepta.escrito_iff.1 hv).1 rfl
  · obtain ⟨v, hv⟩ := h.codigo.1 (by decide)
    exact (hv.acepta.escrito_iff.1 hv).1 rfl

end Wiznet
