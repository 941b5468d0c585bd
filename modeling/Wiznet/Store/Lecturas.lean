import Wiznet.Store.Ficha
import Wiznet.Store.Volcado

/-!
# What a sector says of itself

Two things that the store and the dump read off a sector whatever it holds: the position in its FAT
(`leePosEnFAT_primerBit`) and the checksum of its name (`strChecksumFlash_gives`).  The checksum in the header of a
variable is that of its whole name, while the sector keeps the first `LONGNAME - 1` characters; the two agree exactly
for the names that fit (`sumasConcuerdan_iff`).
-/

namespace Wiznet

open NorFlash (Mem Cmd replay)
open Stateful (bind_ok bind_error)
open W25Q16

/-! ### The FAT -/

/-- Bit `q` of the FAT, in address order and each byte from its lowest bit. -/
def bitFAT (f : Nat → UInt8) (q : Nat) : Bool := (f (STARTFAT.toNat + q / 8)).toNat.testBit (q % 8)

/-- Bit `p` is set and none before it is. -/
structure PrimerBit (f : Nat → UInt8) (p : Nat) : Prop where
  lt : p < 8 * LONGFAT
  puesto : bitFAT f p = true
  antes : ∀ q < p, bitFAT f q = false

private theorem bitAt_fat (f : Nat → UInt8) (q : Nat) :
    Thermometer.bitAt (fun i => f (STARTFAT.toNat + i)) q = bitFAT f q := rfl

theorem posFAT_eq_some {f : Nat → UInt8} {p : Nat} : posFAT f = some p ↔ PrimerBit f p := by
  unfold posFAT
  rw [List.find?_range'_eq_some]
  simp only [bitAt_fat]
  constructor
  · rintro ⟨hp, hmem, hantes⟩
    have hlt : p < 128 := by simpa using hmem
    exact ⟨hlt, hp, fun q hq => by simpa using hantes q (Nat.zero_le q) hq⟩
  · rintro ⟨hlt, hp, hantes⟩
    have hmem : p ∈ List.range' 0 128 := by simpa using show p < 128 from hlt
    exact ⟨hp, hmem, fun q _ hq => by simp [hantes q hq]⟩

theorem posFAT_eq_none {f : Nat → UInt8} : posFAT f = none ↔ ∀ q < 8 * LONGFAT, bitFAT f q = false := by
  unfold posFAT
  rw [List.find?_range'_eq_none]
  simp only [bitAt_fat]
  constructor
  · intro h q hq
    simpa using h q (Nat.zero_le q) (by rw [Nat.zero_add]; exact hq)
  · intro h q _ hq
    rw [Nat.zero_add] at hq
    simp [h q hq]

/-- On any contents `leePosEnFAT` finds the first set bit, with its byte and the address of this byte, or tells that
there is none; and it reads no byte but those of the FAT. -/
theorem leePosEnFAT_primerBit {b : Bus} (hb : b.Listo) {s : UInt16} (hs : s.toNat < 4096) :
    ∃ r b' k, leePosEnFAT s b = .ok r b' ∧
      b'.chip.log = b.chip.log ++ [.read (4096 * s.toNat + STARTFAT.toNat) k] ∧ k ≤ LONGFAT ∧
      (∀ p, PrimerBit (sec b.chip.mem s.toNat) p → r.error = 0 ∧ r.pos.toNat = p ∧
        flashAddr r.pageByteFat r.pageAddressByteFat = 4096 * s.toNat + (STARTFAT.toNat + p / 8) ∧
        r.byteFat = sec b.chip.mem s.toNat (STARTFAT.toNat + p / 8)) ∧
      (r.error = 1 ↔ ∀ q < 8 * LONGFAT, bitFAT (sec b.chip.mem s.toNat) q = false) := by
  obtain ⟨k, hk, hdoes⟩ := leePosEnFAT_does (m := b.chip.mem) hs
  obtain ⟨b', e, hb', -⟩ := hdoes b.chip.log b.chip.env b hb.is
  refine ⟨_, b', k, e, by rw [hb'.chip]; rfl, hk, fun p hp => ?_, ?_⟩
  · have hlt : p < 128 := hp.lt
    have hoff : (UInt8.ofNat (STARTFAT.toNat + p / 8)).toNat = STARTFAT.toNat + p / 8 := by
      rw [UInt8.toNat_ofNat', show STARTFAT.toNat = 35 from rfl]
      omega
    rw [posFAT_eq_some.2 hp]
    refine ⟨rfl, toNat_sector (by omega), ?_, rfl⟩
    rw [show (fatDe (16 * s) (sec b.chip.mem s.toNat) (some p)).pageByteFat = 16 * s from rfl, flashAddr_sector hs]
    exact congrArg (4096 * s.toNat + ·) hoff
  · rw [← posFAT_eq_none]
    cases posFAT (sec b.chip.mem s.toNat) with
    | none => exact iff_of_true rfl rfl
    | some p => exact iff_of_false (by simp [fatDe]) (by simp)

/-- Twenty positions of the FAT of sector 2 have been used. -/
def Bus.veinte : Bus :=
  { Bus.nuevo with chip := { Bus.nuevo.chip with
      mem := fun a => if a = 8192 + 35 ∨ a = 8192 + 36 then 0 else if a = 8192 + 37 then 0xF0 else 0xFF } }

/-- The next free one is in the third byte. -/
theorem leePosEnFAT_veinte : ∃ r b', leePosEnFAT 2 Bus.veinte = .ok r b' ∧ r.error = 0 ∧ r.pos.toNat = 20 ∧
    flashAddr r.pageByteFat r.pageAddressByteFat = 8192 + 37 ∧ r.byteFat = 0xF0 := by
  obtain ⟨r, b', k, e, -, -, h, -⟩ := leePosEnFAT_primerBit (b := Bus.veinte) (s := 2) ⟨rfl, rfl, rfl, rfl, rfl⟩
    (by decide)
  have hp : PrimerBit (sec Bus.veinte.chip.mem (2 : UInt16).toNat) 20 := ⟨by decide, by decide, by decide⟩
  exact ⟨r, b', e, h 20 hp⟩

/-! ### Checksums -/

/-- The loop of `strChecksumFlash` sums as that of `printVar` does. -/
private theorem sumaNombre_eq (nombVar : Memoria) (fuel : Nat) : ∀ (i : Nat) (chkSumStr page : UInt16) (pa : UInt8),
    sumaNombre fuel i chkSumStr page pa = (do
      let x ← leeNombre fuel i chkSumStr nombVar page pa
      return x.2) := by
  induction fuel generalizing nombVar with
  | zero => intro i chkSumStr page pa; rfl
  | succ fuel ih =>
    intro i chkSumStr page pa
    unfold sumaNombre leeNombre
    rw [bind_assoc]
    congr 1
    funext x
    rcases x with ⟨byte, page, pa⟩
    dsimp only
    split
    · rfl
    split
    · rfl
    · exact ih _ _ _ _ _

theorem strChecksumFlash_gives {m : Mem} {s : UInt16} (hs : s.toNat < 4096) :
    Gives (strChecksumFlash s) m (sumaDe (nombreEn (sec m s.toNat) 0 (LONGNAME - 1)) 0) [] {s.toNat} := by
  have h := leeNombre_gives (m := m) hs ⟨fun _ => 0, []⟩ (f := fun x => pure x.2) rfl
  unfold strChecksumFlash
  simp only [sumaNombre_eq ⟨fun _ => 0, []⟩, bind_assoc, pure_bind]
  exact h

/-- Characters that are not NUL change a sum, as long as there are not too many of them. -/
private theorem sumaDe_toNat (cs : List UInt8) : 0 ∉ cs → ∀ x : UInt16, ∃ d, cs.length ≤ d ∧ d ≤ 255 * cs.length ∧
    (sumaDe cs x).toNat = (x.toNat + d) % 65536 := by
  induction cs with
  | nil =>
    intro _ x
    have := x.toNat_lt
    exact ⟨0, by simp, by simp, by show x.toNat = _; omega⟩
  | cons c cs ih =>
    intro h0 x
    simp only [List.mem_cons, not_or] at h0
    obtain ⟨d, hd, hd', hsum⟩ := ih h0.2 (x + c.toUInt16)
    have hc : c.toNat ≠ 0 := fun h => h0.1 (UInt8.toNat_inj.1 h).symm
    have hlt := c.toNat_lt
    refine ⟨c.toNat + d, ?_, ?_, ?_⟩
    · rw [List.length_cons]
      omega
    · rw [List.length_cons]
      omega
    · show (sumaDe cs (x + c.toUInt16)).toNat = _
      rw [hsum, UInt16.toNat_add, UInt8.toNat_toUInt16]
      omega

theorem sumaDe_append (cs ds : List UInt8) (x : UInt16) : sumaDe (cs ++ ds) x = sumaDe ds (sumaDe cs x) :=
  List.foldl_append

/-- Leaving out the characters past the field changes the checksum. -/
theorem sumaDe_take_ne {n : Nombre} (hn : n.chars.length ≤ 255) (h : LONGNAME - 1 < n.chars.length) :
    sumaDe (n.chars.take (LONGNAME - 1)) 0 ≠ n.suma := by
  have hnul : 0 ∉ n.chars.drop (LONGNAME - 1) := fun h0 => n.noNul (List.mem_of_mem_drop h0)
  obtain ⟨d, hd, hd', hsum⟩ := sumaDe_toNat _ hnul (sumaDe (n.chars.take (LONGNAME - 1)) 0)
  rw [← sumaDe_append, List.take_append_drop] at hsum
  rw [List.length_drop] at hd hd'
  intro heq
  have heq : (sumaDe (n.chars.take (LONGNAME - 1)) 0).toNat = (sumaDe n.chars 0).toNat := congrArg UInt16.toNat heq
  have hL : LONGNAME - 1 = 31 := rfl
  omega

/-- The characters in the field are the name up to its first NUL. -/
theorem nombreEn_eq {f : Nat → UInt8} {cs : List UInt8} (h0 : 0 ∉ cs) : ∀ {i k : Nat}, cs.length ≤ k →
    (∀ j < k, j ≤ cs.length → f (3 + (i + j)) = cs.getD j 0) → nombreEn f i k = cs := by
  induction cs with
  | nil =>
    intro i k _ h
    cases k with
    | zero => rfl
    | succ k =>
      have hz : f (3 + i) = 0 := h 0 (by omega) (Nat.le_refl 0)
      rw [nombreEn_succ, if_pos hz]
  | cons c cs ih =>
    intro i k hk h
    simp only [List.mem_cons, not_or] at h0
    rw [List.length_cons] at hk
    obtain ⟨k, rfl⟩ := Nat.exists_eq_add_of_le' (show 1 ≤ k by omega)
    have hc : f (3 + i) = c := h 0 (by omega) (Nat.zero_le _)
    have hcs := ih h0.2 (i := i + 1) (k := k) (by omega) fun j hj hjc => by
      have := h (j + 1) (by omega) (by rw [List.length_cons]; omega)
      rwa [List.getD_cons_succ, show i + (j + 1) = i + 1 + j by omega] at this
    rw [nombreEn_succ, hc, if_neg (Ne.symm h0.1), hcs]

/-- The name in the sector of a variable is cut to the field. -/
theorem Imagen.nombreEn_eq {m : Mem} {x k : Nat} {t : TipoVar} {n : Nombre} {d : List UInt8}
    (h : Imagen m x (cabeceraDe t n) k d) (hx : x < 512) :
    nombreEn (sec m x) 0 (LONGNAME - 1) = n.chars.take (LONGNAME - 1) := by
  have hok : NombreOk (sec m x) n := (h.nombreOk_iff hx).2 rfl
  have hlen : (n.chars.take (LONGNAME - 1)).length = min (LONGNAME - 1) n.chars.length := List.length_take
  refine Wiznet.nombreEn_eq (fun h0 => n.noNul (List.mem_of_mem_take h0)) (by omega) fun j hj hjc => ?_
  rw [Nat.zero_add, hok j hj (by omega)]
  unfold Nombre.at'
  rcases Nat.lt_or_ge j n.chars.length with hlt | hge
  · rw [List.getD_eq_getElem _ _ hlt, List.getD_eq_getElem _ _ (by omega), List.getElem_take]
  · rw [List.getD_eq_default _ _ hge, List.getD_eq_default _ _ (by omega)]

/-- Once the sector of a variable is initialised, `strChecksum` ends with the sum of the name, `strChecksumFlash` gives
the checksum of the header, and `printVar` finds the two equal. -/
structure SumasConcuerdan (b : Bus) (s : UInt16) (t : TipoVar) (n : Nombre) (p : Nat → UInt8) : Prop where
  suma : strChecksum n = some n.suma
  flash : ∃ b₁, initVarFlash s t n p b = .ok () b₁ ∧
    (∃ b₂, strChecksumFlash s b₁ = .ok (secU16 b₁.chip.mem s.toNat 1) b₂) ∧
    ∀ basura, ∃ r b₂, printVar basura s b₁ = .ok r b₂ ∧ r.1 ≠ 3

section Creada

variable {b : Bus} {s : UInt16} (hb : b.Listo) (hs : s.toNat < 512)
  (hblanco : ∀ o < 4096, sec b.chip.mem s.toNat o = 0xFF) (t : TipoVar) {n : Nombre} (p : Nat → UInt8)
include hb hs hblanco

/-- What the two functions find in a sector that has just been initialised. -/
private theorem initVarFlash_sumas (hn : n.chars.length ≤ 255) : ∃ b₁, initVarFlash s t n p b = .ok () b₁ ∧ b₁.Listo ∧
    secU16 b₁.chip.mem s.toNat 1 = n.suma ∧ sec b₁.chip.mem s.toNat 0 ≠ 0xFF ∧
    nombreEn (sec b₁.chip.mem s.toNat) 0 (LONGNAME - 1) = n.chars.take (LONGNAME - 1) := by
  have hs4 : s.toNat < 4096 := by omega
  have hini : Imagen b.chip.mem s.toNat [] 0 [] := .blanco fun o ho => (sec_eq hs ho).symm.trans (hblanco o ho)
  have himg := (initOrdenes_imagen hs hini t n p).1
  obtain ⟨b₁, e, hb₁, hmem⟩ := (initVarFlash_does (m := b.chip.mem) hs4 t hn p).ejecuta hb
  rw [← hmem] at himg
  refine ⟨b₁, e, hb₁, himg.chkSum_eq hs, ?_, himg.nombreEn_eq hs⟩
  rw [himg.tipo_eq hs]
  exact t.codigo_ne_ff

/-- The checksums agree exactly for the names that fit in their field. -/
theorem sumasConcuerdan_iff (h2 : 2 ≤ s.toNat) : SumasConcuerdan b s t n p ↔ n.chars.length ≤ LONGNAME - 1 := by
  have hs4 : s.toNat < 4096 := by omega
  have hL : LONGNAME - 1 = 31 := rfl
  constructor
  · rintro ⟨hsuma, b₁, e, ⟨b₂, hflash⟩, -⟩
    rcases Nat.lt_or_ge 255 n.chars.length with hlargo | hn
    · rw [strChecksum, strChecksumLoop_none hlargo] at hsuma
      cases hsuma
    obtain ⟨b₁', e', hb₁, hchk, -, hnombre⟩ := initVarFlash_sumas hb hs hblanco t p hn
    rw [e] at e'
    cases e'
    obtain ⟨r, b₃, e₃, rfl, -⟩ := (strChecksumFlash_gives (m := b₁.chip.mem) hs4).mira b₁ hb₁ rfl
    rw [hflash] at e₃
    injection e₃ with hr
    rw [hchk, hnombre] at hr
    exact Nat.le_of_not_lt fun h => sumaDe_take_ne hn h hr.symm
  · intro hn
    obtain ⟨b₁, e, hb₁, hchk, hff, hnombre⟩ := initVarFlash_sumas hb hs hblanco t p (n := n) (by omega)
    have hsuma : sumaDe (nombreEn (sec b₁.chip.mem s.toNat) 0 (LONGNAME - 1)) 0 = secU16 b₁.chip.mem s.toNat 1 := by
      rw [hnombre, List.take_of_length_le hn, hchk]
      rfl
    refine ⟨strChecksum_eq (by omega), b₁, e, ?_, fun basura => ?_⟩
    · obtain ⟨r, b₂, e₂, rfl, -⟩ := (strChecksumFlash_gives (m := b₁.chip.mem) hs4).mira b₁ hb₁ rfl
      rw [hsuma] at e₂
      exact ⟨b₂, e₂⟩
    · obtain ⟨salida, h⟩ := printVar_gives (m := b₁.chip.mem) hs4 h2 basura
      obtain ⟨r, b₂, e₂, rfl, -⟩ := h.mira b₁ hb₁ rfl
      refine ⟨_, b₂, e₂, ?_⟩
      simp [hff, hsuma]

end Creada

theorem sumasConcuerdan_nuevo : SumasConcuerdan Bus.nuevo 2 .varU8 .a fun _ => 0 :=
  (sumasConcuerdan_iff (b := Bus.nuevo) (s := 2) ⟨rfl, rfl, rfl, rfl, rfl⟩ (by decide) (fun _ _ => rfl) .varU8
    (fun _ => 0) (by decide)).2 (by decide)

/-- `k` times the letter `a`. -/
def Nombre.as (k : Nat) : Nombre := ⟨List.replicate k 0x61, by simp⟩

/-- A name of 32 characters has another checksum in flash, and one of 256 none in memory. -/
theorem sumasConcuerdan_largo : ¬ SumasConcuerdan Bus.nuevo 2 .varU8 (.as 32) (fun _ => 0) ∧
    strChecksum (.as 256) = none := by
  constructor
  · rintro ⟨-, b₁, e, ⟨b₂, hflash⟩, -⟩
    obtain ⟨b₁', e', hb₁, hchk, -, hnombre⟩ := initVarFlash_sumas (b := Bus.nuevo) (s := 2) (n := .as 32)
      ⟨rfl, rfl, rfl, rfl, rfl⟩ (by decide) (fun _ _ => rfl) .varU8 (fun _ => 0) (by decide)
    rw [e] at e'
    cases e'
    obtain ⟨r, b₃, e₃, rfl, -⟩ := (strChecksumFlash_gives (m := b₁.chip.mem) (s := 2) (by decide)).mira b₁ hb₁ rfl
    rw [hflash] at e₃
    injection e₃ with hr
    rw [hchk, hnombre] at hr
    exact absurd hr (by decide)
  · exact strChecksumLoop_none (Nat.le_of_eq List.length_replicate.symm) _ _ _

end Wiznet
