import Wiznet.Flash.Flujo

/-!
# Layout of a variable sector

`varsFlash.h` and the table `longParam`: the type tags, the record lengths and the positions of the parts of a sector
(type, checksum, name, FAT, records), and the names of variables with their checksum.
-/

namespace Wiznet

/-! ### Types and positions -/

/-- Type tags of variables. -/
inductive TipoVar where
  | varNosi
  | varNosiAuto
  | varBaud
  | varModoPozo
  | varU8
  | var8
  | varU16
  | var16
  | var32
  | var50
  deriving DecidableEq, Repr

namespace TipoVar

/-- The byte that stands for the tag in flash. -/
def codigo : TipoVar → UInt8
  | varNosi => 1
  | varNosiAuto => 2
  | varBaud => 3
  | varModoPozo => 4
  | varU8 => 5
  | var8 => 6
  | varU16 => 7
  | var16 => 8
  | var32 => 9
  | var50 => 10

end TipoVar

def longParam : List UInt8 := [1, 1, 1, 1, 1, 1, 2, 2, 4, 8, 50]

/-- Record length of a type, `longParam[tipoVar]`. -/
def TipoVar.long (t : TipoVar) : Nat := (longParam.getD t.codigo.toNat 0).toNat

def SECTORINICIALVARS : UInt16 := 2
def LONGNAME : Nat := 32
def LONGFAT : Nat := 16
def STARTFAT : UInt8 := 35
def MAXFAT : UInt8 := 50
def STARTDAT : UInt8 := 51

example : STARTFAT.toNat = 3 + LONGNAME ∧ MAXFAT.toNat = STARTFAT.toNat + LONGFAT - 1 ∧
    STARTDAT = MAXFAT + 1 := by decide

theorem TipoVar.codigo_inj {t t' : TipoVar} : t.codigo = t'.codigo ↔ t = t' := by
  constructor
  · cases t <;> cases t' <;> first | (intro _; rfl) | (intro h; exact absurd h (by decide))
  · rintro rfl; rfl

theorem TipoVar.codigo_ne_ff (t : TipoVar) : t.codigo ≠ 0xFF := by cases t <;> decide

theorem TipoVar.long_pos (t : TipoVar) : 0 < t.long := by cases t <;> decide

theorem TipoVar.long_le (t : TipoVar) : t.long ≤ 50 := by cases t <;> decide

/-- Only strings have records longer than 8 bytes. -/
theorem TipoVar.long_le_of_ne {t : TipoVar} (h : t ≠ var50) : t.long ≤ 8 := by
  cases t <;> first | decide | exact absurd rfl h

/-! ### Names -/

/-- A C string: its characters up to the terminating NUL. -/
structure Nombre where
  chars : List UInt8
  noNul : 0 ∉ chars
  deriving DecidableEq

namespace Nombre

theorem eq_of_chars : ∀ {n n' : Nombre}, n.chars = n'.chars → n = n'
  | ⟨_, _⟩, ⟨_, _⟩, rfl => rfl

/-- `nombVar[i]`, the terminator included. -/
def at' (n : Nombre) (i : Nat) : UInt8 := n.chars.getD i 0

/-- Names of one letter. -/
def a : Nombre := ⟨[0x61], by decide⟩

def b : Nombre := ⟨[0x62], by decide⟩

/-- Sum of the characters, modulo `2 ^ 16`. -/
def suma (n : Nombre) : UInt16 := n.chars.foldl (fun s c => s + c.toUInt16) 0

/-- What the flash keeps of a name: its first `LONGNAME - 1` characters and its checksum. -/
def grabado (n : Nombre) : List UInt8 × UInt16 := (n.chars.take (LONGNAME - 1), n.suma)

/-- Names that fit the field are kept whole. -/
theorem grabado_inj {n n' : Nombre} (hn : n.chars.length ≤ 31) (hn' : n'.chars.length ≤ 31) :
    n.grabado = n'.grabado ↔ n = n' := by
  refine ⟨fun h => eq_of_chars ?_, fun h => h ▸ rfl⟩
  have := congrArg Prod.fst h
  unfold grabado at this
  rwa [List.take_of_length_le (show _ ≤ LONGNAME - 1 from hn),
    List.take_of_length_le (show _ ≤ LONGNAME - 1 from hn')] at this

end Nombre

/-- The loop of `strChecksum`; its index is an 8-bit variable. -/
def strChecksumLoop (nombVar : Nombre) : Nat → UInt8 → UInt16 → Option UInt16
  | 0, _, _ => none
  | fuel + 1, i, chkSumStr =>
    if i.toNat < nombVar.chars.length then
      strChecksumLoop nombVar fuel (i + 1) (chkSumStr + (nombVar.at' i.toNat).toUInt16)
    else some chkSumStr

/-- `none` when the loop does not end.  After 256 rounds the index is back at its first value, so a loop that is
still running then runs forever (`strChecksumLoop_none`). -/
def strChecksum (nombVar : Nombre) : Option UInt16 := strChecksumLoop nombVar 256 0 0

theorem strChecksumLoop_some {n : Nombre} (hn : n.chars.length ≤ 255) {fuel : Nat} : ∀ {i : UInt8} {s : UInt16},
    i.toNat ≤ n.chars.length → n.chars.length < i.toNat + fuel →
    strChecksumLoop n fuel i s = some ((n.chars.drop i.toNat).foldl (fun s c => s + c.toUInt16) s) := by
  induction fuel with
  | zero => intro i s h1 h2; omega
  | succ fuel ih =>
    intro i s h1 h2
    unfold strChecksumLoop
    by_cases h : i.toNat < n.chars.length
    · have hi : (i + 1).toNat = i.toNat + 1 := by
        rw [UInt8.toNat_add, show (1 : UInt8).toNat = 1 from rfl, Nat.mod_eq_of_lt (by omega)]
      rw [if_pos h, ih (by omega) (by omega), hi, List.drop_eq_getElem_cons h, List.foldl_cons]
      simp only [Nombre.at', List.getD_eq_getElem _ _ h]
    · rw [if_neg h, List.drop_eq_nil_of_le (by omega), List.foldl_nil]

/-- On names of at most 255 characters `strChecksum` ends with the sum of the characters. -/
theorem strChecksum_eq {n : Nombre} (hn : n.chars.length ≤ 255) : strChecksum n = some n.suma := by
  unfold strChecksum
  rw [strChecksumLoop_some hn (by simp) (by show _ < 0 + 256; omega)]
  rfl

/-- On longer names it runs forever. -/
theorem strChecksumLoop_none {n : Nombre} (hn : 256 ≤ n.chars.length) (fuel : Nat) :
    ∀ (i : UInt8) (s : UInt16), strChecksumLoop n fuel i s = none := by
  induction fuel with
  | zero => intro i s; rfl
  | succ fuel ih =>
    intro i s
    have hi := i.toNat_lt
    unfold strChecksumLoop
    rw [if_pos (by omega), ih]

end Wiznet
