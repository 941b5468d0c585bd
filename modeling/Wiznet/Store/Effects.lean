import Wiznet.Store.Gestion
import Wiznet.Library.Thermometer
import Mathlib.Data.List.Find
import Mathlib.Data.Set.Insert

/-!
# What the store functions do to any flash

One lemma per function of `varsGestion.cpp`, for every content of the flash, whether the store wrote it or not.
`Gives x m r mods S`: on contents `m` the call returns `r`, its programs and erases are `mods`, and every command it
issues, reads included, addresses a sector of `S`.  A sector is read through `sec`; nothing later unfolds a loop of
the source.
-/

namespace Wiznet

open NorFlash (Mem Cmd replay)
open Stateful (bind_error)
open W25Q16

/-! ### Calls by their programs and erases -/

def Gives {α : Type} (x : SpiM α) (m : Mem) (r : α) (mods : List Cmd) (S : Set Nat) : Prop :=
  ∃ log, Does x m r log ∧ log.filter Cmd.modifies = mods ∧ ∀ c ∈ log, c.addr / 4096 ∈ S

namespace Gives

variable {α β : Type} {m : Mem} {r : α} {r' : β} {mods mods' : List Cmd} {S : Set Nat}

theorem pure (r : α) (m : Mem) (S : Set Nat) : Gives (Pure.pure r) m r [] S :=
  ⟨[], Does.pure r m, rfl, by simp⟩

theorem bind {x : SpiM α} {f : α → SpiM β} (h : Gives x m r mods S)
    (h' : Gives (f r) (replay w25q16 mods m) r' mods' S) : Gives (x >>= f) m r' (mods ++ mods') S := by
  obtain ⟨log, hd, rfl, hs⟩ := h
  obtain ⟨log', hd', rfl, hs'⟩ := h'
  rw [NorFlash.replay_filter_modifies] at hd'
  refine ⟨log ++ log', hd.bind hd', List.filter_append .., fun c hc => ?_⟩
  rcases List.mem_append.1 hc with hc | hc
  · exact hs c hc
  · exact hs' c hc

/-- After a call that only reads. -/
theorem bind_read {x : SpiM α} {f : α → SpiM β} (h : Gives x m r [] S) (h' : Gives (f r) m r' mods' S) :
    Gives (x >>= f) m r' mods' S :=
  h.bind h'

/-- Before a result that issues no command. -/
theorem bind_pure {x : SpiM α} (h : Gives x m r mods S) (f : α → β) :
    Gives (x >>= fun a => Pure.pure (f a)) m (f r) mods S := by
  have := h.bind (f := fun a => Pure.pure (f a)) (Gives.pure (f r) _ S)
  rwa [List.append_nil] at this

theorem mono {x : SpiM α} {T : Set Nat} (h : Gives x m r mods S) (hS : S ⊆ T) : Gives x m r mods T := by
  obtain ⟨log, hd, hm, hs⟩ := h
  exact ⟨log, hd, hm, fun c hc => hS (hs c hc)⟩

theorem addr_mem {x : SpiM α} (h : Gives x m r mods S) {c : Cmd} (hc : c ∈ mods) : c.addr / 4096 ∈ S := by
  obtain ⟨log, -, rfl, hs⟩ := h
  exact hs c (List.mem_filter.1 hc).1

theorem of_does {x : SpiM α} {log : List Cmd} (h : Does x m r log) (hs : ∀ c ∈ log, c.addr / 4096 ∈ S) :
    Gives x m r (log.filter Cmd.modifies) S :=
  ⟨log, h, rfl, hs⟩

end Gives

/-! ### Addresses -/

/-- Byte `o` of sector `s`. -/
def sec (m : Mem) (s o : Nat) : UInt8 := m ((4096 * s + o) % w25q16.capacity)

theorem page_toNat {s : UInt16} (hs : s.toNat < 4096) : (16 * s).toNat = 16 * s.toNat := by
  rw [UInt16.toNat_mul, show (16 : UInt16).toNat = 16 from rfl, Nat.mod_eq_of_lt (by omega)]

theorem flashAddr_sector {s : UInt16} (hs : s.toNat < 4096) (pageAddress : UInt8) :
    flashAddr (16 * s) pageAddress = 4096 * s.toNat + pageAddress.toNat := by
  unfold flashAddr
  rw [page_toNat hs]
  omega

private theorem div_sector {s o : Nat} (h : o < 4096) : (4096 * s + o) / 4096 = s := by omega

/-- Reading one byte of a sector. -/
theorem read_gives {m : Mem} {s : UInt16} (hs : s.toNat < 4096) (pageAddress : UInt8) :
    Gives (W25Q16.read (16 * s) pageAddress) m (sec m s.toNat pageAddress.toNat) [] {s.toNat} := by
  have h := read_does (m := m) (16 * s) pageAddress
  rw [flashAddr_sector hs] at h
  have hp := pageAddress.toNat_lt
  exact Gives.of_does h (by simp [Cmd.addr, div_sector (show pageAddress.toNat < 4096 by omega)])

/-- Bytes `o`, `o + 1` of a sector, high byte first. -/
def secU16 (m : Mem) (s o : Nat) : UInt16 := ((sec m s o).toUInt16 <<< 8) + (sec m s (o + 1)).toUInt16

theorem readU16_gives {m : Mem} {s : UInt16} (hs : s.toNat < 4096) (pageAddress : UInt8) :
    Gives (readU16 (16 * s) pageAddress) m (secU16 m s.toNat pageAddress.toNat) [] {s.toNat} := by
  have h := readU16_does (m := m) (16 * s) pageAddress
  rw [flashAddr_sector hs] at h
  have hp := pageAddress.toNat_lt
  exact Gives.of_does h (by simp [Cmd.addr, div_sector (show pageAddress.toNat < 4096 by omega)])

/-! ### Names -/

namespace Nombre

theorem at'_ne_zero {n : Nombre} {i : Nat} (h : i < n.chars.length) : n.at' i ≠ 0 := by
  unfold at'
  rw [List.getD_eq_getElem _ _ h]
  intro e
  exact n.noNul (e ▸ List.getElem_mem h)

theorem at'_of_le {n : Nombre} {i : Nat} (h : n.chars.length ≤ i) : n.at' i = 0 := by
  unfold at'
  rw [List.getD_eq_default _ _ h]

end Nombre

/-- The bytes from offset 3 on are those of the name up to its terminator, or up to `LONGNAME - 1` characters. -/
def NombreOk (f : Nat → UInt8) (n : Nombre) : Prop :=
  ∀ i < LONGNAME - 1, i ≤ n.chars.length → f (3 + i) = n.at' i

instance (f : Nat → UInt8) (n : Nombre) : Decidable (NombreOk f n) :=
  inferInstanceAs (Decidable (∀ i < LONGNAME - 1, i ≤ n.chars.length → f (3 + i) = n.at' i))

/-- Inside the field of the name the address of a byte in its page does not wrap. -/
theorem sucesor_nombre {i : Nat} {pa : UInt8} (hpa : pa.toNat = 3 + i) (hi : i < LONGNAME - 1) :
    (pa + 1).toNat = 3 + (i + 1) ∧ pa + 1 ≠ 0 := by
  have hL : LONGNAME - 1 = 31 := rfl
  have hpa1 : (pa + 1).toNat = 3 + (i + 1) := by
    rw [UInt8.toNat_add, show (1 : UInt8).toNat = 1 from rfl, Nat.mod_eq_of_lt (by omega)]
    omega
  refine ⟨hpa1, fun h => ?_⟩
  rw [h] at hpa1
  simp at hpa1

/-- The comparison from character `i` on, `fuel` characters before the end of the field. -/
private theorem comparaNombre_runs {m : Mem} (n : Nombre) (page : UInt16) (a : Nat) {fuel : Nat} :
    ∀ {i : Nat} {pa : UInt8}, i + fuel = LONGNAME - 1 → i ≤ n.chars.length → pa.toNat = 3 + i → 0 < fuel →
    ∃ k, ∀ l e, Runs (comparaNombre n fuel i page pa) (Chip.inside (.reading a i) m false l e, true)
      (decide (∀ j < LONGNAME - 1, i ≤ j → j ≤ n.chars.length → m ((a + j) % w25q16.capacity) = n.at' j))
      (Chip.inside (.reading a k) m false l e, true) := by
  induction fuel with
  | zero => intro i pa _ _ _ h; omega
  | succ fuel ih =>
    intro i pa hf hi hpa _
    obtain ⟨hpa1, hne⟩ := sucesor_nombre hpa (by omega)
    have hstep := fun l e => streamRead_runs (m := m) (l := l) (e := e) page pa a i hne
    unfold comparaNombre
    by_cases hdiff : m ((a + i) % w25q16.capacity) ≠ n.at' i
    · refine ⟨i + 1, fun l e => (hstep l e).bind ?_⟩
      dsimp only
      rw [if_pos hdiff, decide_eq_false (fun h => hdiff (h i (by omega) (Nat.le_refl _) hi))]
      exact Runs.pure _ _
    have heq : m ((a + i) % w25q16.capacity) = n.at' i := by simpa using hdiff
    by_cases hz : m ((a + i) % w25q16.capacity) = 0
    · -- the terminator: the name ends here
      have hlen : n.chars.length ≤ i := Nat.le_of_not_lt fun h => Nombre.at'_ne_zero h (heq ▸ hz)
      refine ⟨i + 1, fun l e => (hstep l e).bind ?_⟩
      dsimp only
      rw [if_neg hdiff, if_pos hz, decide_eq_true]
      · exact Runs.pure _ _
      · intro j _ hij hj
        rw [show j = i by omega, heq]
    have hlen : i < n.chars.length := Nat.lt_of_not_le fun h => hz (by rw [heq, Nombre.at'_of_le h])
    by_cases hlast : i + 1 = LONGNAME - 1
    · refine ⟨i + 1, fun l e => (hstep l e).bind ?_⟩
      dsimp only
      rw [if_neg hdiff, if_neg hz, if_pos hlast, decide_eq_true]
      · exact Runs.pure _ _
      · intro j hj hij _
        rw [show j = i by omega, heq]
    · obtain ⟨k, hk⟩ := @ih (i + 1) (pa + 1) (by omega) hlen hpa1 (by omega)
      refine ⟨k, fun l e => (hstep l e).bind ?_⟩
      dsimp only
      rw [if_neg hdiff, if_neg hz, if_neg hlast]
      have hiff : (∀ j < LONGNAME - 1, i ≤ j → j ≤ n.chars.length → m ((a + j) % w25q16.capacity) = n.at' j) ↔
          ∀ j < LONGNAME - 1, i + 1 ≤ j → j ≤ n.chars.length → m ((a + j) % w25q16.capacity) = n.at' j := by
        constructor
        · exact fun h j hj hij => h j hj (by omega)
        · intro h j hj hij hjn
          rcases Nat.eq_or_lt_of_le hij with rfl | hlt
          · exact heq
          · exact h j hj hlt hjn
      rw [decide_eq_decide.2 hiff]
      exact hk l e

theorem nombreVarEnFlashOk_gives {m : Mem} {s : UInt16} (hs : s.toNat < 4096) (n : Nombre) :
    Gives (nombreVarEnFlashOk s n) m (decide (NombreOk (sec m s.toNat) n)) [] {s.toNat} := by
  have ha : flashAddr (16 * s) 3 = 4096 * s.toNat + 3 := flashAddr_sector hs 3
  obtain ⟨k, hk⟩ := @comparaNombre_runs m n (16 * s) (4096 * s.toNat + 3) (LONGNAME - 1) 0 3 rfl (Nat.zero_le _) rfl
    (by decide)
  refine ⟨[.read (4096 * s.toNat + 3) k], fun l e => ?_, rfl, ?_⟩
  · have hiff : (∀ j < LONGNAME - 1, 0 ≤ j → j ≤ n.chars.length →
        m ((4096 * s.toNat + 3 + j) % w25q16.capacity) = n.at' j) ↔ NombreOk (sec m s.toNat) n := by
      simp only [NombreOk, sec, Nat.zero_le, true_implies, Nat.add_assoc]
    have h0 := initStreamRead_runs (m := m) (l := l) (e := e) (16 * s) 3
    rw [ha] at h0
    have hk' := hk l e
    rw [decide_eq_decide.2 hiff] at hk'
    exact h0.bind (hk'.bind ((closeStreamRead_runs _ _).bind (Runs.pure _ _)))
  · simp [Cmd.addr, div_sector (show 3 < 4096 by decide)]

/-! ### Headers -/

/-- The header of a variable: type, checksum of the name, name. -/
structure Coincide (f : Nat → UInt8) (t : TipoVar) (n : Nombre) (chkSumStr : UInt16) : Prop where
  tipo : f 0 = t.codigo
  chkSum : ((f 1).toUInt16 <<< 8) + (f 2).toUInt16 = chkSumStr
  nombre : NombreOk f n

instance (f : Nat → UInt8) (t : TipoVar) (n : Nombre) (chkSumStr : UInt16) :
    Decidable (Coincide f t n chkSumStr) :=
  decidable_of_iff (f 0 = t.codigo ∧ ((f 1).toUInt16 <<< 8) + (f 2).toUInt16 = chkSumStr ∧ NombreOk f n)
    ⟨fun h => ⟨h.1, h.2.1, h.2.2⟩, fun h => ⟨h.tipo, h.chkSum, h.nombre⟩⟩

theorem Coincide.ne_ff {f : Nat → UInt8} {t : TipoVar} {n : Nombre} {c : UInt16} (h : Coincide f t n c) :
    f 0 ≠ 0xFF := by
  rw [h.tipo]
  exact t.codigo_ne_ff

theorem coincidenciaDatosVar_gives {m : Mem} {s : UInt16} (hs : s.toNat < 4096) (t : TipoVar) (n : Nombre)
    (c : UInt16) :
    Gives (coincidenciaDatosVar s t n c) m (decide (Coincide (sec m s.toNat) t n c)) [] {s.toNat} := by
  unfold coincidenciaDatosVar
  refine (read_gives hs 0).bind_read ?_
  show Gives (if sec m s.toNat 0 = 0xFF then _ else _) _ _ _ _
  by_cases hff : sec m s.toNat 0 = 0xFF
  · rw [if_pos hff, decide_eq_false (fun h => h.ne_ff hff)]
    exact Gives.pure _ _ _
  rw [if_neg hff]
  refine (readU16_gives hs 1).bind_read ?_
  show Gives (if sec m s.toNat 0 ≠ t.codigo ∨ secU16 m s.toNat 1 ≠ c then _ else _) _ _ _ _
  by_cases hd : sec m s.toNat 0 ≠ t.codigo ∨ secU16 m s.toNat 1 ≠ c
  · rw [if_pos hd, decide_eq_false]
    · exact Gives.pure _ _ _
    · rintro ⟨h1, h2, -⟩
      exact hd.elim (fun h => h h1) (fun h => h h2)
  · rw [if_neg hd]
    simp only [not_or, Decidable.not_not] at hd
    have hiff : Coincide (sec m s.toNat) t n c ↔ NombreOk (sec m s.toNat) n :=
      ⟨fun h => h.nombre, fun h => ⟨hd.1, hd.2, h⟩⟩
    rw [decide_eq_decide.2 hiff]
    exact nombreVarEnFlashOk_gives hs n

/-! ### The FAT -/

/-- Position of the first set bit of the FAT. -/
def posFAT (f : Nat → UInt8) : Option Nat :=
  (List.range' 0 128).find? (Thermometer.bitAt fun i => f (STARTFAT.toNat + i))

/-- What `leePosEnFAT` returns when the first set bit is this one. -/
def fatDe (page : UInt16) (f : Nat → UInt8) : Option Nat → PosFAT
  | some p => ⟨UInt16.ofNat p, 0, page, UInt8.ofNat (STARTFAT.toNat + p / 8), f (STARTFAT.toNat + p / 8)⟩
  | none => ⟨0, 1, page, STARTDAT, 0⟩

private theorem exploraByte_eq (n : Nat) : ∀ (byte : UInt8) (pos : UInt16), exploraByte n byte pos =
    ((List.range' 0 n).find? fun i => byte.toNat.testBit i).map fun i => pos + UInt16.ofNat i := by
  induction n with
  | zero => intro byte pos; rfl
  | succ n ih =>
    intro byte pos
    have hbit : byte &&& 1 ≠ 0 ↔ byte.toNat.testBit 0 = true := by
      rw [Nat.testBit_zero, decide_eq_true_iff, ← Nat.and_one_is_mod, ← UInt8.toNat_inj.ne, UInt8.toNat_and]
      have : byte.toNat &&& 1 = byte.toNat % 2 := Nat.and_one_is_mod _
      simp only [show (1 : UInt8).toNat = 1 from rfl, show (0 : UInt8).toNat = 0 from rfl, this]
      omega
    unfold exploraByte
    rw [List.range'_succ, List.find?_cons]
    by_cases h : byte &&& 1 ≠ 0
    · rw [if_pos h, hbit.1 h]
      simp
    · rw [if_neg h, Bool.eq_false_iff.2 (fun hb => h (hbit.2 hb)), ih,
        show 0 + 1 = 1 + 0 from rfl, ← List.map_add_range', List.find?_map, Option.map_map]
      congr 1
      · funext i
        simp only [Function.comp_apply, UInt16.ofNat_add, UInt16.add_assoc]
        rfl
      · congr 1
        funext i
        simp only [Function.comp_apply, UInt8.toNat_shiftRight, show (1 : UInt8).toNat % 8 = 1 from rfl,
          Nat.testBit_shiftRight]

private theorem find_byte_none {byte : UInt8} :
    ((List.range' 0 8).find? fun i => byte.toNat.testBit i) = none ↔ byte = 0 := by
  rw [List.find?_range'_eq_none]
  constructor
  · intro h
    have h0 : byte.toNat = 0 := by
      refine Nat.eq_of_testBit_eq fun i => ?_
      rw [Nat.zero_testBit]
      rcases Nat.lt_or_ge i 8 with hi | hi
      · simpa using h i (Nat.zero_le _) (by omega)
      · exact Nat.testBit_lt_two_pow (Nat.lt_of_lt_of_le byte.toNat_lt (Nat.pow_le_pow_right (by decide) hi))
    exact UInt8.toNat_inj.1 h0
  · rintro rfl i _ _
    simp

/-- The bits of byte `j`, then the bits of the bytes after it. -/
private theorem find_chunk (g : Nat → UInt8) {j : Nat} (hj : j < 16) :
    (List.range' (8 * j) (128 - 8 * j)).find? (Thermometer.bitAt g) =
      (((List.range' 0 8).find? fun i => (g j).toNat.testBit i).map (8 * j + ·)).or
        ((List.range' (8 * (j + 1)) (128 - 8 * (j + 1))).find? (Thermometer.bitAt g)) := by
  have hsplit : List.range' (8 * j) (128 - 8 * j) =
      List.range' (8 * j) 8 ++ List.range' (8 * (j + 1)) (128 - 8 * (j + 1)) := by
    have := List.range'_append_1 (s := 8 * j) (m := 8) (n := 128 - 8 * (j + 1))
    rw [show 8 + (128 - 8 * (j + 1)) = 128 - 8 * j by omega, show 8 * j + 8 = 8 * (j + 1) by omega] at this
    exact this.symm
  have hmap : List.range' (8 * j) 8 = (List.range' 0 8).map (8 * j + ·) := by
    rw [List.map_add_range', Nat.add_zero]
  rw [hsplit, List.find?_append, hmap, List.find?_map]
  congr 2
  apply List.find?_congr
  intro i hi
  have hi8 : i < 8 := by simpa using hi
  simp only [Function.comp_apply, Thermometer.bitAt]
  rw [Nat.mul_add_div (by decide), Nat.div_eq_of_lt hi8, Nat.add_zero, Nat.mul_add_mod, Nat.mod_eq_of_lt hi8]

/-- The scan from byte `j` on, the bytes before it being zero. -/
private theorem exploraFAT_runs {m : Mem} (page : UInt16) (a : Nat) {fuel : Nat} : ∀ {j : Nat} {pa : UInt8},
    j + fuel = LONGFAT + 1 → 0 < fuel → pa.toNat = STARTFAT.toNat + j →
    ∃ k ≤ LONGFAT, ∀ l e, Runs (exploraFAT fuel page pa (UInt16.ofNat (8 * j)) 0)
      (Chip.inside (.reading a j) m false l e, true)
      (fatDe page (fun o => m ((a + (o - STARTFAT.toNat)) % w25q16.capacity))
        ((List.range' (8 * j) (128 - 8 * j)).find? (Thermometer.bitAt fun i => m ((a + i) % w25q16.capacity))))
      (Chip.idle m false (l ++ [.read a k]) e, false) := by
  induction fuel with
  | zero => intro j pa _ h; omega
  | succ fuel ih =>
    intro j pa hf _ hpa
    have hL : LONGFAT + 1 = 17 := rfl
    have hS : STARTFAT.toNat = 35 := rfl
    have hle : pa ≤ MAXFAT ↔ j < 16 := by
      rw [UInt8.le_iff_toNat_le, show MAXFAT.toNat = 50 from rfl]
      omega
    unfold exploraFAT
    rcases Nat.lt_or_ge j 16 with hj | hj
    · have hpa1 : (pa + 1).toNat = STARTFAT.toNat + (j + 1) := by
        rw [UInt8.toNat_add, show (1 : UInt8).toNat = 1 from rfl, Nat.mod_eq_of_lt (by omega)]
        omega
      have hne : pa + 1 ≠ 0 := fun h => by rw [h] at hpa1; simp at hpa1
      have hstep := fun l e => streamRead_runs (m := m) (l := l) (e := e) page pa a j hne
      rw [if_pos (hle.2 hj), find_chunk _ hj]
      by_cases hz : m ((a + j) % w25q16.capacity) = 0
      · -- no free position in this byte
        obtain ⟨k, hk16, hk⟩ := @ih (j + 1) (pa + 1) (by omega) (by omega) hpa1
        refine ⟨k, hk16, fun l e => (hstep l e).bind ?_⟩
        dsimp only
        rw [if_pos hz, find_byte_none.2 hz, Option.map_none, Option.none_or]
        have hpos : UInt16.ofNat (8 * j) + 8 = UInt16.ofNat (8 * (j + 1)) := by
          rw [Nat.mul_add, UInt16.ofNat_add]; rfl
        rw [hpos, hz]
        exact hk l e
      · obtain ⟨r, hr⟩ := Option.ne_none_iff_exists'.1 (fun h => hz (find_byte_none.1 h))
        have hr8 : r < 8 := by simpa using List.mem_of_find?_eq_some hr
        refine ⟨j + 1, hj, fun l e => (hstep l e).bind ?_⟩
        dsimp only
        rw [if_neg hz, exploraByte_eq, hr]
        have hdiv : (8 * j + r) / 8 = j := by omega
        have hoff : UInt8.ofNat (STARTFAT.toNat + j) = pa + 1 - 1 := by
          rw [UInt8.add_sub_cancel, ← hpa, UInt8.ofNat_toNat]
        simp only [Option.map_some, Option.some_or, fatDe, hdiv, hoff, Nat.add_sub_cancel_left, UInt16.ofNat_add]
        exact (closeStreamRead_runs _ _).bind (Runs.pure _ _)
    · have hj16 : j = 16 := by omega
      subst hj16
      refine ⟨16, Nat.le_refl 16, fun l e => ?_⟩
      rw [if_neg (fun h => absurd (hle.1 h) (by omega))]
      have hpaS : pa = STARTDAT := UInt8.toNat_inj.1 (by rw [hpa]; rfl)
      rw [hpaS]
      exact (closeStreamRead_runs _ _).bind (Runs.pure _ _)

/-- The scan reads bytes of the FAT only. -/
theorem leePosEnFAT_does {m : Mem} {s : UInt16} (hs : s.toNat < 4096) : ∃ k ≤ LONGFAT,
    Does (leePosEnFAT s) m (fatDe (16 * s) (sec m s.toNat) (posFAT (sec m s.toNat)))
      [.read (4096 * s.toNat + STARTFAT.toNat) k] := by
  have ha : flashAddr (16 * s) STARTFAT = 4096 * s.toNat + STARTFAT.toNat := flashAddr_sector hs STARTFAT
  obtain ⟨k, hk16, hk⟩ := @exploraFAT_runs m (16 * s) (4096 * s.toNat + STARTFAT.toNat) (LONGFAT + 1) 0 STARTFAT rfl
    (by decide) rfl
  refine ⟨k, hk16, fun l e => ?_⟩
  have h0 := initStreamRead_runs (m := m) (l := l) (e := e) (16 * s) STARTFAT
  rw [ha] at h0
  have hr : fatDe (16 * s) (sec m s.toNat) (posFAT (sec m s.toNat)) =
      fatDe (16 * s) (fun o => m ((4096 * s.toNat + STARTFAT.toNat + (o - STARTFAT.toNat)) % w25q16.capacity))
        ((List.range' (8 * 0) (128 - 8 * 0)).find? (Thermometer.bitAt fun i =>
          m ((4096 * s.toNat + STARTFAT.toNat + i) % w25q16.capacity))) := by
    simp only [posFAT, sec, Nat.add_assoc]
    cases List.find? _ (List.range' 0 128) <;> simp [fatDe, sec]
  rw [hr]
  exact h0.bind (hk l e)

theorem leePosEnFAT_gives {m : Mem} {s : UInt16} (hs : s.toNat < 4096) :
    Gives (leePosEnFAT s) m (fatDe (16 * s) (sec m s.toNat) (posFAT (sec m s.toNat))) [] {s.toNat} := by
  obtain ⟨k, -, h⟩ := leePosEnFAT_does (m := m) hs
  refine ⟨_, h, rfl, ?_⟩
  simp [Cmd.addr, div_sector (show STARTFAT.toNat < 4096 by decide)]

/-! ### Creation -/

/-- The programs of `initVarFlash`: type, checksum, name, first record. -/
def initOrdenes (s : UInt16) (t : TipoVar) (n : Nombre) (pValor : Nat → UInt8) : List Cmd :=
  [.program (4096 * s.toNat) [t.codigo],
   .program (4096 * s.toNat + 1) [(n.suma >>> 8).toUInt8, (n.suma &&& 0xFF).toUInt8],
   .program (4096 * s.toNat + 3) (n.chars.take (LONGNAME - 1) ++ [0]),
   .program (4096 * s.toNat + STARTDAT.toNat) (bytesDe pValor t.long)]

/-- Names that are kept as the same bytes are written alike. -/
theorem initOrdenes_congr {n n' : Nombre} (h : n.grabado = n'.grabado) (s : UInt16) (t : TipoVar) (p : Nat → UInt8) :
    initOrdenes s t n p = initOrdenes s t n' p := by
  have h1 : n.chars.take (LONGNAME - 1) = n'.chars.take (LONGNAME - 1) := congrArg Prod.fst h
  have h2 : n.suma = n'.suma := congrArg Prod.snd h
  unfold initOrdenes
  rw [h1, h2]

theorem length_bytesDe (p : Nat → UInt8) (n : Nat) : (bytesDe p n).length = n := by simp [bytesDe]

private theorem streamWriteAll_runs {m : Mem} {l : List Cmd} {e : ChipEnv} (page : UInt16) (a : Nat)
    (vs : List UInt8) : ∀ (pa : UInt8) (d : List UInt8), pa.toNat + vs.length < 256 →
    Runs (streamWriteAll vs page pa) (Chip.inside (.programming a d) m true l e, true)
      (page, pa + UInt8.ofNat vs.length) (Chip.inside (.programming a (d ++ vs)) m true l e, true) := by
  induction vs with
  | nil =>
    intro pa d _
    rw [List.append_nil, List.length_nil, show UInt8.ofNat 0 = 0 from rfl, UInt8.add_zero]
    exact Runs.pure _ _
  | cons v vs ih =>
    intro pa d h
    rw [List.length_cons] at h
    have hpa1 : (pa + 1).toNat = pa.toNat + 1 := by
      rw [UInt8.toNat_add, show (1 : UInt8).toNat = 1 from rfl, Nat.mod_eq_of_lt (by omega)]
    have hne : pa + 1 ≠ 0 := fun h => by rw [h] at hpa1; simp at hpa1
    have hrest := ih (pa + 1) (d ++ [v]) (by omega)
    rw [List.append_assoc, List.singleton_append] at hrest
    rw [List.length_cons, Nat.add_comm vs.length 1, UInt8.ofNat_add, ← UInt8.add_assoc]
    exact (streamWrite_runs page pa a d v hne).bind hrest

theorem checksumDe_eq {n : Nombre} (hn : n.chars.length ≤ 255) : checksumDe n = pure n.suma := by
  unfold checksumDe
  rw [strChecksum_eq hn]

theorem initVarFlash_does {m : Mem} {s : UInt16} (hs : s.toNat < 4096) (t : TipoVar) {n : Nombre}
    (hn : n.chars.length ≤ 255) (pValor : Nat → UInt8) :
    Does (initVarFlash s t n pValor) m () (initOrdenes s t n pValor) := by
  intro l e
  unfold initVarFlash
  rw [checksumDe_eq hn]
  have h0 := write_does (m := m) (16 * s) 0 t.codigo
  rw [flashAddr_sector hs, show (0 : UInt8).toNat = 0 from rfl, Nat.add_zero] at h0
  have h1 := fun m => writeU16_does (m := m) (16 * s) 1 n.suma
  simp only [flashAddr_sector hs, show (1 : UInt8).toNat = 1 from rfl] at h1
  refine (h0 l e).bind ((h1 _ _ e).bind ?_)
  have ha3 : flashAddr (16 * s) 3 = 4096 * s.toNat + 3 := flashAddr_sector hs 3
  have haD : flashAddr (16 * s) STARTDAT = 4096 * s.toNat + STARTDAT.toNat := flashAddr_sector hs STARTDAT
  have hlen : (n.chars.take (LONGNAME - 1)).length ≤ 31 := by
    rw [List.length_take]
    exact Nat.min_le_left ..
  -- the name and its terminator are one page program, the first record another
  refine (initStreamWrite_runs (16 * s) 3).bind ?_
  rw [ha3]
  refine (streamWriteAll_runs (16 * s) _ _ 3 [] (by show 3 + _ < 256; omega)).bind ?_
  rw [List.nil_append]
  refine (streamWrite_runs (16 * s) _ _ _ 0 ?_).bind ?_
  · intro h
    have h' := congrArg UInt8.toNat h
    rw [UInt8.toNat_add, UInt8.toNat_add, UInt8.toNat_ofNat'] at h'
    simp only [show (3 : UInt8).toNat = 3 from rfl, show (1 : UInt8).toNat = 1 from rfl,
      show (0 : UInt8).toNat = 0 from rfl] at h'
    omega
  refine (closeStreamWrite_runs _ (by simp)).bind ((initStreamWrite_runs (16 * s) STARTDAT).bind ?_)
  rw [haD]
  have ht := t.long_le
  have htp := t.long_pos
  refine (streamWriteAll_runs (16 * s) _ _ STARTDAT []
    (by rw [length_bytesDe]; show 51 + _ < 256; omega)).bind ?_
  rw [List.nil_append]
  have hb : bytesDe pValor t.long ≠ [] := fun h => by
    have := length_bytesDe pValor t.long
    rw [h] at this
    simp at this; omega
  rw [show l ++ initOrdenes s t n pValor = l ++ [.program (4096 * s.toNat) [t.codigo]] ++
      [.program (4096 * s.toNat + 1) [(n.suma >>> 8).toUInt8, (n.suma &&& 0xFF).toUInt8]] ++
      [.program (4096 * s.toNat + 3) (n.chars.take (LONGNAME - 1) ++ [0])] ++
      [.program (4096 * s.toNat + STARTDAT.toNat) (bytesDe pValor t.long)] by simp [initOrdenes]]
  exact closeStreamWrite_runs _ hb

theorem addr_initOrdenes {s : UInt16} {t : TipoVar} {n : Nombre} {p : Nat → UInt8} {c : Cmd}
    (hc : c ∈ initOrdenes s t n p) : c.addr / 4096 = s.toNat := by
  simp only [initOrdenes, List.mem_cons, List.not_mem_nil, or_false] at hc
  rcases hc with rfl | rfl | rfl | rfl
  · exact Nat.mul_div_cancel_left _ (by decide)
  · exact div_sector (by decide)
  · exact div_sector (by decide)
  · exact div_sector (by decide)

theorem initVarFlash_gives {m : Mem} {s : UInt16} (hs : s.toNat < 4096) (t : TipoVar) {n : Nombre}
    (hn : n.chars.length ≤ 255) (pValor : Nat → UInt8) :
    Gives (initVarFlash s t n pValor) m () (initOrdenes s t n pValor) {s.toNat} :=
  Gives.of_does (initVarFlash_does hs t hn pValor) fun _ hc => addr_initOrdenes hc

/-! ### Search -/

/-- The search stops at a blank sector and at the header looked for. -/
def paraEn (m : Mem) (t : TipoVar) (n : Nombre) (x : Nat) : Bool :=
  decide (sec m x 0 = 0xFF ∨ Coincide (sec m x) t n n.suma)

/-- Where the search for a variable ends. -/
def buscaSector (m : Mem) (t : TipoVar) (n : Nombre) : Option Nat := (List.range' 2 510).find? (paraEn m t n)

/-- The sector numbers of the store. -/
def sectoresVars : Set Nat := {x | 2 ≤ x ∧ x ≤ 511}

theorem toNat_sector {x : Nat} (hx : x < 65536) : (UInt16.ofNat x).toNat = x := by
  rw [UInt16.toNat_ofNat', Nat.mod_eq_of_lt hx]

/-- What `encuentraVariable` returns. -/
def hallado : Option Nat → Bool × UInt16
  | some x => (true, UInt16.ofNat x)
  | none => (false, 512)

/-- The programs of the search: a variable that is not there is created in the blank sector reached. -/
def creaOrdenes (m : Mem) (t : TipoVar) (n : Nombre) (p : Nat → UInt8) : Option Nat → List Cmd
  | some x => if sec m x 0 = 0xFF then initOrdenes (UInt16.ofNat x) t n p else []
  | none => []

private theorem buscaVariable_gives {m : Mem} (t : TipoVar) (p : Nat → UInt8) {n : Nombre}
    (hn : n.chars.length ≤ 255) {fuel : Nat} : ∀ {x : Nat}, 2 ≤ x → x < 512 → x + fuel = 512 →
    Gives (buscaVariable t p n n.suma fuel (UInt16.ofNat x)) m
      (hallado ((List.range' x fuel).find? (paraEn m t n)))
      (creaOrdenes m t n p ((List.range' x fuel).find? (paraEn m t n))) sectoresVars := by
  induction fuel with
  | zero => intro x _ h _; omega
  | succ fuel ih =>
    intro x h2 h512 hf
    have hx : (UInt16.ofNat x).toNat = x := toNat_sector (by omega)
    have hs : (UInt16.ofNat x).toNat < 4096 := by omega
    have hS : ({(UInt16.ofNat x).toNat} : Set Nat) ⊆ sectoresVars := by
      rintro y rfl
      exact ⟨by omega, by omega⟩
    unfold buscaVariable
    rw [List.range'_succ, List.find?_cons]
    refine ((read_gives hs 0).mono hS).bind_read ?_
    rw [hx, show (0 : UInt8).toNat = 0 from rfl]
    by_cases hff : sec m x 0 = 0xFF
    · -- a blank sector
      have hp : paraEn m t n x = true := decide_eq_true (.inl hff)
      rw [if_pos hff, hp]
      have hi := (initVarFlash_gives (m := m) hs t hn p).mono hS
      simp only [creaOrdenes, hff, if_true, hallado]
      exact hi.bind_pure fun _ => (true, UInt16.ofNat x)
    rw [if_neg hff]
    have hc := (coincidenciaDatosVar_gives (m := m) hs t n n.suma).mono hS
    rw [hx] at hc
    refine hc.bind_read ?_
    by_cases hco : Coincide (sec m x) t n n.suma
    · have hp : paraEn m t n x = true := decide_eq_true (.inr hco)
      rw [decide_eq_true hco, hp]
      simp only [creaOrdenes, hff, if_false, hallado]
      exact Gives.pure _ _ _
    · have hp : paraEn m t n x = false := decide_eq_false (by simp [hff, hco])
      rw [decide_eq_false hco, hp]
      have hsucc : UInt16.ofNat x + 1 = UInt16.ofNat (x + 1) := by rw [UInt16.ofNat_add]; rfl
      have hlt : UInt16.ofNat (x + 1) < 512 ↔ x + 1 < 512 := by
        rw [UInt16.lt_iff_toNat_lt, UInt16.toNat_ofNat', show (512 : UInt16).toNat = 512 from rfl]
        omega
      simp only [Bool.false_eq_true, if_false, hsucc]
      by_cases hlast : x + 1 < 512
      · rw [if_pos (hlt.2 hlast)]
        exact ih (by omega) hlast (by omega)
      · have hf0 : fuel = 0 := by omega
        subst hf0
        rw [if_neg (fun h => hlast (hlt.1 h)), show x + 1 = 512 by omega]
        exact Gives.pure _ _ _

theorem encuentraVariable_gives {m : Mem} (t : TipoVar) (p : Nat → UInt8) {n : Nombre}
    (hn : n.chars.length ≤ 255) :
    Gives (encuentraVariable t p n) m (hallado (buscaSector m t n)) (creaOrdenes m t n p (buscaSector m t n))
      sectoresVars := by
  unfold encuentraVariable
  rw [checksumDe_eq hn]
  exact buscaVariable_gives t p hn (Nat.le_refl 2) (by decide) rfl

/-! ### Records -/

theorem dirNewPos_toNat {s : UInt16} (hs : s.toNat < 4096) (q : UInt8) (t : TipoVar) :
    (dirNewPos s q t).toNat = 4096 * s.toNat + STARTDAT.toNat + q.toNat * t.long := by
  have hq := q.toNat_lt
  have ht := t.long_le
  have hmul : q.toNat * t.long ≤ 255 * 50 := Nat.mul_le_mul (by omega) ht
  unfold dirNewPos
  rw [UInt32.toNat_add, UInt32.toNat_add, UInt32.toNat_mul, UInt32.toNat_shiftLeft, UInt32.toNat_ofNat',
    UInt16.toNat_toUInt32, UInt8.toNat_toUInt32, UInt8.toNat_toUInt32, show (12 : UInt32).toNat % 32 = 12 from rfl,
    Nat.shiftLeft_eq, show STARTDAT.toNat = 51 from rfl]
  rw [Nat.mod_eq_of_lt (show t.long < 2 ^ 32 by omega), Nat.mod_eq_of_lt (show q.toNat * t.long < 2 ^ 32 by omega),
    Nat.mod_eq_of_lt (show s.toNat * 2 ^ 12 < 2 ^ 32 by omega)]
  omega

/-- Page and address in the page give the address back. -/
theorem flashAddr_dir {d : UInt32} (h : d.toNat < 16777216) :
    flashAddr (d >>> 8).toUInt16 (d &&& 0xFF).toUInt8 = d.toNat := by
  have e1 : (255 : UInt32).toNat = 2 ^ 8 - 1 := rfl
  have e2 : (8 : UInt32).toNat % 32 = 8 := rfl
  simp only [flashAddr, UInt32.toNat_toUInt16, UInt32.toNat_toUInt8, UInt32.toNat_and, UInt32.toNat_shiftRight, e1, e2,
    Nat.and_two_pow_sub_one_eq_mod, Nat.shiftRight_eq_div_pow]
  omega

theorem modifies_bytesOrdenes (a : Nat) (vs : List UInt8) :
    (bytesOrdenes a vs).filter Cmd.modifies = bytesOrdenes a vs := by
  induction vs generalizing a with
  | nil => rfl
  | cons v vs ih => exact congrArg (List.cons _) (ih (a + 1))

theorem addr_bytesOrdenes {a : Nat} {vs : List UInt8} {c : Cmd} (hc : c ∈ bytesOrdenes a vs) :
    a ≤ c.addr ∧ c.addr < a + vs.length := by
  induction vs generalizing a with
  | nil => cases hc
  | cons v vs ih =>
    rw [List.length_cons]
    rcases List.mem_cons.1 hc with rfl | hc
    · simp [Cmd.addr]
    · have := ih hc
      omega

theorem posFAT_lt {f : Nat → UInt8} {p : Nat} (h : posFAT f = some p) : p < 128 := by
  have := List.mem_of_find?_eq_some h
  simpa using this

/-- The programs and erases of a write to sector `s`: the FAT byte and the next record or, when no position is left,
the whole sector anew. -/
def escribeOrdenes (m : Mem) (s : UInt16) (t : TipoVar) (n : Nombre) (pValor : Nat → UInt8) : List Cmd :=
  match posFAT (sec m s.toNat) with
  | some p =>
    .program (4096 * s.toNat + (STARTFAT.toNat + p / 8)) [sec m s.toNat (STARTFAT.toNat + p / 8) <<< 1] ::
      bytesOrdenes (4096 * s.toNat + STARTDAT.toNat + (p + 1) * t.long) (bytesDe pValor t.long)
  | none => .erase (4096 * s.toNat) :: initOrdenes s t n pValor

theorem escribeOrdenes_congr {n n' : Nombre} (h : n.grabado = n'.grabado) (m : Mem) (s : UInt16) (t : TipoVar)
    (p : Nat → UInt8) : escribeOrdenes m s t n p = escribeOrdenes m s t n' p := by
  unfold escribeOrdenes
  rw [initOrdenes_congr h]

/-- A write addresses its sector only, as long as its record ends there. -/
theorem addr_escribeOrdenes {m : Mem} {s : UInt16} {t : TipoVar} {n : Nombre} {p : Nat → UInt8}
    (h : ∀ k, posFAT (sec m s.toNat) = some k → STARTDAT.toNat + (k + 2) * t.long ≤ 4096) {c : Cmd}
    (hc : c ∈ escribeOrdenes m s t n p) : c.addr / 4096 = s.toNat := by
  unfold escribeOrdenes at hc
  cases hp : posFAT (sec m s.toNat) with
  | none =>
    rw [hp] at hc
    rcases List.mem_cons.1 hc with rfl | hc
    · exact Nat.mul_div_cancel_left _ (by decide)
    · exact addr_initOrdenes hc
  | some k =>
    have hk := posFAT_lt hp
    have hfit := h k hp
    rw [show k + 2 = k + 1 + 1 from rfl, Nat.add_mul (k + 1), Nat.one_mul] at hfit
    have hS35 : STARTFAT.toNat = 35 := rfl
    rw [hp] at hc
    rcases List.mem_cons.1 hc with rfl | hc
    · simp only [Cmd.addr]
      omega
    · have := addr_bytesOrdenes hc
      rw [length_bytesDe] at this
      omega

theorem escribeEnSector_gives {m : Mem} {s : UInt16} (hs : s.toNat < 4000) (t : TipoVar) {n : Nombre}
    (hn : n.chars.length ≤ 255) (pValor : Nat → UInt8) :
    Gives (escribeEnSector s t n pValor) m 0 (escribeOrdenes m s t n pValor) {x | s.toNat ≤ x ∧ x ≤ s.toNat + 1} := by
  have hs' : s.toNat < 4096 := by omega
  have hS : ({s.toNat} : Set Nat) ⊆ {x | s.toNat ≤ x ∧ x ≤ s.toNat + 1} := by
    rintro y rfl
    exact ⟨Nat.le_refl _, Nat.le_succ _⟩
  unfold escribeEnSector escribeOrdenes
  refine ((leePosEnFAT_gives hs').mono hS).bind_read ?_
  cases hp : posFAT (sec m s.toNat) with
  | none =>
    rw [if_pos (show (fatDe (16 * s) (sec m s.toNat) none).error ≠ 0 by simp [fatDe])]
    have he := sectorErase_does (m := m) (16 * s)
    rw [flashAddr_sector hs', show (0 : UInt8).toNat = 0 from rfl, Nat.add_zero] at he
    have he' : Gives (sectorErase (16 * s)) m () [.erase (4096 * s.toNat)] {s.toNat} :=
      Gives.of_does he (by simp [Cmd.addr])
    have hi := ((initVarFlash_gives (m := replay w25q16 [.erase (4096 * s.toNat)] m) hs' t hn pValor).mono
      hS).bind_pure fun _ => (0 : Int16)
    exact (he'.mono hS).bind hi
  | some p =>
    have hp128 := posFAT_lt hp
    have ht := t.long_le
    have hmul : (p + 1) * t.long ≤ 128 * 50 := Nat.mul_le_mul (by omega) ht
    have hoff : (UInt8.ofNat (STARTFAT.toNat + p / 8)).toNat = STARTFAT.toNat + p / 8 := by
      rw [UInt8.toNat_ofNat', show STARTFAT.toNat = 35 from rfl]
      omega
    have hpos : ((UInt16.ofNat p).toUInt8 + 1).toNat = p + 1 := by
      rw [UInt8.toNat_add, UInt16.toNat_toUInt8, UInt16.toNat_ofNat', show (1 : UInt8).toNat = 1 from rfl]
      omega
    have hdir := dirNewPos_toNat hs' ((UInt16.ofNat p).toUInt8 + 1) t
    rw [hpos] at hdir
    have hS51 : STARTDAT.toNat = 51 := rfl
    have hS35 : STARTFAT.toNat = 35 := rfl
    rw [if_neg (show ¬ (fatDe (16 * s) (sec m s.toNat) (some p)).error ≠ 0 from fun h => h rfl)]
    dsimp only [fatDe]
    -- first the FAT byte, then the record
    have hw := write_does (m := m) (16 * s) (UInt8.ofNat (STARTFAT.toNat + p / 8))
      (sec m s.toNat (STARTFAT.toNat + p / 8) <<< 1)
    rw [flashAddr_sector hs', hoff] at hw
    have hw' : Gives (write (16 * s) (UInt8.ofNat (STARTFAT.toNat + p / 8))
        (sec m s.toNat (STARTFAT.toNat + p / 8) <<< 1)) m ()
        [.program (4096 * s.toNat + (STARTFAT.toNat + p / 8)) [sec m s.toNat (STARTFAT.toNat + p / 8) <<< 1]]
        {x | s.toNat ≤ x ∧ x ≤ s.toNat + 1} := by
      refine Gives.of_does hw ?_
      simp only [List.mem_singleton, forall_eq, Cmd.addr]
      rw [div_sector (by omega)]
      exact hS rfl
    have hb := @escribeBytes_does (bytesDe pValor t.long)
      (replay w25q16 [.program (4096 * s.toNat + (STARTFAT.toNat + p / 8))
        [sec m s.toNat (STARTFAT.toNat + p / 8) <<< 1]] m)
      (dirNewPos s ((UInt16.ofNat p).toUInt8 + 1) t >>> 8).toUInt16
      (dirNewPos s ((UInt16.ofNat p).toUInt8 + 1) t &&& 0xFF).toUInt8
    rw [flashAddr_dir (by omega), hdir, length_bytesDe] at hb
    have hb' := Gives.of_does (S := {x | s.toNat ≤ x ∧ x ≤ s.toNat + 1}) (hb (by omega)) (by
      intro c hc
      have := addr_bytesOrdenes hc
      rw [length_bytesDe] at this
      have h1 : 4096 * s.toNat ≤ c.addr := by omega
      have h2 : c.addr < 4096 * s.toNat + 8192 := by omega
      constructor <;> omega)
    rw [modifies_bytesOrdenes] at hb'
    exact hw'.bind (hb'.bind_pure fun _ => (0 : Int16))

/-- The bytes `leeVariable` reads in sector `s`.  When no position is left the position is taken to be 0. -/
def valorEn (m : Mem) (s : Nat) (t : TipoVar) : List UInt8 :=
  (List.range t.long).map fun i => sec m s (STARTDAT.toNat + (posFAT (sec m s)).getD 0 * t.long + i)

theorem leeEnSector_gives {m : Mem} {s : UInt16} (hs : s.toNat < 4000) (t : TipoVar) :
    Gives (leeEnSector s t) m ⟨0, s, valorEn m s.toNat t⟩ [] {x | s.toNat ≤ x ∧ x ≤ s.toNat + 1} := by
  have hs' : s.toNat < 4096 := by omega
  have hS : ({s.toNat} : Set Nat) ⊆ {x | s.toNat ≤ x ∧ x ≤ s.toNat + 1} := by
    rintro y rfl
    exact ⟨Nat.le_refl _, Nat.le_succ _⟩
  have hp : (posFAT (sec m s.toNat)).getD 0 < 128 := by
    cases h : posFAT (sec m s.toNat) with
    | none => decide
    | some p => exact posFAT_lt h
  have hpos : (fatDe (16 * s) (sec m s.toNat) (posFAT (sec m s.toNat))).pos.toUInt8.toNat =
      (posFAT (sec m s.toNat)).getD 0 := by
    cases h : posFAT (sec m s.toNat) with
    | none => rfl
    | some p =>
      have := posFAT_lt h
      simp only [fatDe, Option.getD_some, UInt16.toNat_toUInt8, UInt16.toNat_ofNat']
      omega
  have hmul : (posFAT (sec m s.toNat)).getD 0 * t.long ≤ 127 * 50 := Nat.mul_le_mul (by omega) t.long_le
  have hdir := dirNewPos_toNat hs' (fatDe (16 * s) (sec m s.toNat) (posFAT (sec m s.toNat))).pos.toUInt8 t
  rw [hpos, show STARTDAT.toNat = 51 from rfl] at hdir
  have ht := t.long_le
  unfold leeEnSector
  refine ((leePosEnFAT_gives hs').mono hS).bind_read ?_
  have hd := @leeBytes_does m t.long
    (dirNewPos s (fatDe (16 * s) (sec m s.toNat) (posFAT (sec m s.toNat))).pos.toUInt8 t >>> 8).toUInt16
    (dirNewPos s (fatDe (16 * s) (sec m s.toNat) (posFAT (sec m s.toNat))).pos.toUInt8 t &&& 0xFF).toUInt8
  rw [flashAddr_dir (by omega), hdir] at hd
  have hg := Gives.of_does (S := {x | s.toNat ≤ x ∧ x ≤ s.toNat + 1}) (hd (by omega)) (by
    intro c hc
    obtain ⟨a, ha, rfl⟩ := List.mem_map.1 hc
    have := List.mem_range'_1.1 ha
    simp only [Cmd.addr]
    constructor <;> omega)
  have hmod : ((List.range' (4096 * s.toNat + 51 + (posFAT (sec m s.toNat)).getD 0 * t.long) t.long).map
      fun a => Cmd.read a 1).filter Cmd.modifies = [] := by
    simp [List.filter_map, Function.comp_def, Cmd.modifies]
  have hval : ((List.range' (4096 * s.toNat + 51 + (posFAT (sec m s.toNat)).getD 0 * t.long) t.long).map
      fun a => m (a % w25q16.capacity)) = valorEn m s.toNat t := by
    rw [List.range'_eq_map_range, List.map_map]
    simp only [valorEn, sec, Function.comp_def, show STARTDAT.toNat = 51 from rfl, Nat.add_assoc]
  rw [hmod, hval] at hg
  exact hg.bind_pure fun valor => Lectura.mk 0 s valor

/-! ### Reading and writing -/

/-- The sector `leeVariable` and `escribeVar` settle on: the hint when its header matches, the one found by the
search otherwise. -/
def localizaSector (m : Mem) (h : UInt16) (t : TipoVar) (n : Nombre) : Option Nat :=
  if h ≠ 0 ∧ Coincide (sec m h.toNat) t n n.suma then some h.toNat else buscaSector m t n

/-- A sector number a caller may pass: none yet, or one of the store. -/
def SectorOk (h : UInt16) : Prop := h = 0 ∨ h.toNat ∈ sectoresVars

theorem buscaSector_mem {m : Mem} {t : TipoVar} {n : Nombre} {x : Nat} (hx : buscaSector m t n = some x) :
    x ∈ sectoresVars := by
  have := List.mem_range'_1.1 (List.mem_of_find?_eq_some hx)
  exact ⟨by omega, by omega⟩

theorem localizaSector_mem {m : Mem} {h : UInt16} {t : TipoVar} {n : Nombre} {x : Nat} (hh : SectorOk h)
    (hx : localizaSector m h t n = some x) : x ∈ sectoresVars := by
  unfold localizaSector at hx
  split at hx
  · rename_i hc
    cases hx
    exact hh.resolve_left hc.1
  · exact buscaSector_mem hx

theorem localizaSector_none {m : Mem} {h : UInt16} {t : TipoVar} {n : Nombre} :
    localizaSector m h t n = none ↔
      ¬ (h ≠ 0 ∧ Coincide (sec m h.toNat) t n n.suma) ∧ buscaSector m t n = none := by
  unfold localizaSector
  split <;> simp_all

theorem localizaSector_zero (m : Mem) (t : TipoVar) (n : Nombre) : localizaSector m 0 t n = buscaSector m t n := by
  unfold localizaSector
  rw [if_neg (fun h => h.1 rfl)]

variable {m : Mem} {h : UInt16} {t : TipoVar} {n : Nombre}

/-- The hint's header decides whether the search is needed. -/
private theorem coincidencia_hint (hh : SectorOk h) (h0 : h ≠ 0) :
    Gives (coincidenciaDatosVar h t n n.suma) m (decide (Coincide (sec m h.toNat) t n n.suma)) [] sectoresVars := by
  have hm : h.toNat ∈ sectoresVars := hh.resolve_left h0
  have hlt : h.toNat ≤ 511 := hm.2
  exact (coincidenciaDatosVar_gives (by omega) t n n.suma).mono fun y hy => by rw [Set.mem_singleton_iff.1 hy]; exact hm

/-- With no sector for the variable and none to create it in, a read leaves the flash alone. -/
theorem leeVariable_none (hh : SectorOk h) (hn : n.chars.length ≤ 255) (p : Nat → UInt8)
    (hx : localizaSector m h t n = none) : Gives (leeVariable h t n p) m ⟨0, 512, []⟩ [] sectoresVars := by
  obtain ⟨hc, hb⟩ := localizaSector_none.1 hx
  have hbus := encuentraVariable_gives (m := m) t p hn
  rw [hb] at hbus
  have htail := hbus.bind (f := fun r => if r.1 then leeEnSector r.2 t else Pure.pure ⟨0, r.2, []⟩)
    (Gives.pure (Lectura.mk 0 512 []) _ sectoresVars)
  unfold leeVariable
  by_cases h0 : h = 0
  · rw [if_neg (fun h' => h' h0)]
    exact htail
  · rw [if_pos h0, checksumDe_eq hn]
    refine (coincidencia_hint hh h0).bind_read ?_
    rw [decide_eq_false (fun h' => hc ⟨h0, h'⟩)]
    exact htail

/-- A write with a hint finds out that there is no sector. -/
theorem escribeVar_none (hh : SectorOk h) (h0 : h ≠ 0) (hn : n.chars.length ≤ 255) (p : Nat → UInt8)
    (hx : localizaSector m h t n = none) : Gives (escribeVar h t n p) m 0 [] sectoresVars := by
  obtain ⟨hc, hb⟩ := localizaSector_none.1 hx
  have hbus := encuentraVariable_gives (m := m) t p hn
  rw [hb] at hbus
  unfold escribeVar
  rw [if_pos h0, checksumDe_eq hn]
  refine (coincidencia_hint hh h0).bind_read ?_
  rw [decide_eq_false (fun h' => hc ⟨h0, h'⟩)]
  exact hbus.bind (f := fun r => if r.1 then escribeEnSector r.2 t n p else Pure.pure 0) (Gives.pure 0 _ sectoresVars)

/-- A write without a hint does not, and goes on in sector 512. -/
theorem escribeVar_zero_none (hn : n.chars.length ≤ 255) (p : Nat → UInt8) (hx : buscaSector m t n = none) :
    Gives (escribeVar 0 t n p) m 0 (escribeOrdenes m 512 t n p) {x | 2 ≤ x ∧ x ≤ 513} := by
  have hbus := encuentraVariable_gives (m := m) t p hn
  rw [hx] at hbus
  unfold escribeVar
  rw [if_neg (fun h => h rfl)]
  have he := escribeEnSector_gives (m := m) (s := 512) (by decide) t hn p
  refine (hbus.mono ?_).bind_read (he.mono ?_)
  · exact fun y hy => ⟨hy.1, Nat.le_succ_of_le (Nat.le_succ_of_le hy.2)⟩
  · rintro y ⟨h1, h2⟩
    exact ⟨Nat.le_trans (by decide) h1, h2⟩

private theorem creaOrdenes_hint {p : Nat → UInt8} (hc : Coincide (sec m h.toNat) t n n.suma) :
    creaOrdenes m t n p (some h.toNat) = [] :=
  if_neg hc.ne_ff

/-- A call with a hint: in the sector of the hint if that is the variable's, after a search otherwise. -/
private theorem sugerencia_gives {α : Type} {r : α} {cs : List Cmd} {T : Set Nat} {enSitio busca : SpiM α}
    (hh : SectorOk h) (h0 : h ≠ 0) (hn : n.chars.length ≤ 255) (hT : sectoresVars ⊆ T) {x : Nat}
    (hx : localizaSector m h t n = some x)
    (hc : Coincide (sec m h.toNat) t n n.suma → x = h.toNat → Gives enSitio m r cs T)
    (hb : buscaSector m t n = some x → Gives busca m r cs T) :
    Gives (checksumDe n >>= fun c => coincidenciaDatosVar h t n c >>= fun ok => if ok then enSitio else busca) m r cs
      T := by
  rw [checksumDe_eq hn]
  refine ((coincidencia_hint hh h0).mono hT).bind_read ?_
  unfold localizaSector at hx
  by_cases hcoin : Coincide (sec m h.toNat) t n n.suma
  · rw [if_pos ⟨h0, hcoin⟩] at hx
    rw [decide_eq_true hcoin]
    exact hc hcoin (Option.some.inj hx).symm
  · rw [if_neg (fun h' => hcoin h'.2)] at hx
    rw [decide_eq_false hcoin]
    exact hb hx

theorem leeVariable_some (hh : SectorOk h) (hn : n.chars.length ≤ 255) (p : Nat → UInt8) {x : Nat}
    (hx : localizaSector m h t n = some x) :
    Gives (leeVariable h t n p) m
      ⟨0, UInt16.ofNat x, valorEn (replay w25q16 (creaOrdenes m t n p (some x)) m) x t⟩
      (creaOrdenes m t n p (some x)) {x | 2 ≤ x ∧ x ≤ 512} := by
  have hmem := localizaSector_mem hh hx
  have hxn := toNat_sector (Nat.lt_of_le_of_lt hmem.2 (by decide))
  have hx2 : 2 ≤ x := hmem.1
  have hx511 : x ≤ 511 := hmem.2
  have hlee := fun m => (leeEnSector_gives (m := m) (s := UInt16.ofNat x) (by omega) t).mono
    (T := {x | 2 ≤ x ∧ x ≤ 512}) (by rintro y ⟨h1, h2⟩; exact ⟨by omega, by omega⟩)
  rw [hxn] at hlee
  have hS : sectoresVars ⊆ {x | 2 ≤ x ∧ x ≤ 512} := fun y hy => ⟨hy.1, Nat.le_succ_of_le hy.2⟩
  have htail : buscaSector m t n = some x →
      Gives (encuentraVariable t p n >>= fun r => if r.1 then leeEnSector r.2 t else Pure.pure ⟨0, r.2, []⟩) m
        ⟨0, UInt16.ofNat x, valorEn (replay w25q16 (creaOrdenes m t n p (some x)) m) x t⟩
        (creaOrdenes m t n p (some x)) {x | 2 ≤ x ∧ x ≤ 512} := by
    intro hb
    have hbus := (encuentraVariable_gives (m := m) t p hn).mono hS
    rw [hb] at hbus
    have := hbus.bind (f := fun r => if r.1 then leeEnSector r.2 t else Pure.pure ⟨0, r.2, []⟩) (hlee _)
    rwa [List.append_nil] at this
  unfold leeVariable
  by_cases h0 : h = 0
  · subst h0
    rw [localizaSector_zero] at hx
    rw [if_neg (fun h' => h' rfl)]
    exact htail hx
  · rw [if_pos h0]
    refine sugerencia_gives hh h0 hn hS hx (fun hc hxh => ?_) htail
    subst hxh
    rw [creaOrdenes_hint hc]
    have hl := hlee m
    rw [UInt16.ofNat_toNat] at hl ⊢
    exact hl

/-- The programs and erases of `escribeVar`. -/
def escribeVarOrdenes (m : Mem) (h : UInt16) (t : TipoVar) (n : Nombre) (p : Nat → UInt8) : List Cmd :=
  match localizaSector m h t n with
  | some x =>
    creaOrdenes m t n p (some x) ++
      escribeOrdenes (replay w25q16 (creaOrdenes m t n p (some x)) m) (UInt16.ofNat x) t n p
  | none => if h = 0 then escribeOrdenes m 512 t n p else []

private theorem escribeVar_some (hh : SectorOk h) (hn : n.chars.length ≤ 255) (p : Nat → UInt8) {x : Nat}
    (hx : localizaSector m h t n = some x) :
    Gives (escribeVar h t n p) m 0
      (creaOrdenes m t n p (some x) ++
        escribeOrdenes (replay w25q16 (creaOrdenes m t n p (some x)) m) (UInt16.ofNat x) t n p)
      {x | 2 ≤ x ∧ x ≤ 512} := by
  have hmem := localizaSector_mem hh hx
  have hxn := toNat_sector (Nat.lt_of_le_of_lt hmem.2 (by decide))
  have hx2 : 2 ≤ x := hmem.1
  have hx511 : x ≤ 511 := hmem.2
  have hesc := fun m => (escribeEnSector_gives (m := m) (s := UInt16.ofNat x) (by omega) t hn p).mono
    (T := {x | 2 ≤ x ∧ x ≤ 512}) (by rintro y ⟨h1, h2⟩; exact ⟨by omega, by omega⟩)
  have hS : sectoresVars ⊆ {x | 2 ≤ x ∧ x ≤ 512} := fun y hy => ⟨hy.1, Nat.le_succ_of_le hy.2⟩
  unfold escribeVar
  by_cases h0 : h = 0
  · subst h0
    rw [localizaSector_zero] at hx
    rw [if_neg (fun h' => h' rfl)]
    have hbus := (encuentraVariable_gives (m := m) t p hn).mono hS
    rw [hx] at hbus
    exact hbus.bind (hesc _)
  · rw [if_pos h0]
    refine sugerencia_gives hh h0 hn hS hx (fun hc hxh => ?_) fun hb => ?_
    · subst hxh
      rw [creaOrdenes_hint hc]
      have hl := hesc m
      rw [UInt16.ofNat_toNat] at hl ⊢
      exact hl
    · have hbus := (encuentraVariable_gives (m := m) t p hn).mono hS
      rw [hb] at hbus
      exact hbus.bind (f := fun r => if r.1 then escribeEnSector r.2 t n p else Pure.pure 0) (hesc _)

theorem escribeVar_gives (hh : SectorOk h) (hn : n.chars.length ≤ 255) (p : Nat → UInt8) :
    Gives (escribeVar h t n p) m 0 (escribeVarOrdenes m h t n p) {x | 2 ≤ x ∧ x ≤ 513} := by
  unfold escribeVarOrdenes
  cases hx : localizaSector m h t n with
  | some x => exact (escribeVar_some hh hn p hx).mono fun y hy => ⟨hy.1, Nat.le_succ_of_le hy.2⟩
  | none =>
    dsimp only
    by_cases h0 : h = 0
    · subst h0
      rw [localizaSector_zero] at hx
      rw [if_pos rfl]
      exact escribeVar_zero_none hn p hx
    · rw [if_neg h0]
      exact (escribeVar_none hh h0 hn p hx).mono fun y hy =>
        ⟨hy.1, Nat.le_succ_of_le (Nat.le_succ_of_le hy.2)⟩

/-! ### Names that are too long

The checksum of a name of 256 characters or more is never found, so the calls do not return. -/

theorem checksumDe_largo (hn : 256 ≤ n.chars.length) : checksumDe n = throw .loop := by
  unfold checksumDe strChecksum
  rw [strChecksumLoop_none hn]

private theorem encuentraVariable_largo (hn : 256 ≤ n.chars.length) (p : Nat → UInt8) (b : Bus) :
    encuentraVariable t p n b = .error .loop b := by
  unfold encuentraVariable
  rw [checksumDe_largo hn]
  rfl

theorem leeVariable_largo (hn : 256 ≤ n.chars.length) (s : UInt16) (p : Nat → UInt8) (b : Bus) :
    leeVariable s t n p b = .error .loop b := by
  unfold leeVariable
  by_cases hs : s = 0
  · rw [if_neg (fun h => h hs)]
    exact bind_error (encuentraVariable_largo hn p b)
  · rw [if_pos hs, checksumDe_largo hn]
    rfl

theorem escribeVar_largo (hn : 256 ≤ n.chars.length) (s : UInt16) (p : Nat → UInt8) (b : Bus) :
    escribeVar s t n p b = .error .loop b := by
  unfold escribeVar
  by_cases hs : s = 0
  · rw [if_neg (fun h => h hs)]
    exact bind_error (encuentraVariable_largo hn p b)
  · rw [if_pos hs, checksumDe_largo hn]
    rfl

theorem leeVariable_gives (hh : SectorOk h) (hn : n.chars.length ≤ 255) (p : Nat → UInt8) :
    ∃ r, r.rc = 0 ∧
      Gives (leeVariable h t n p) m r (creaOrdenes m t n p (localizaSector m h t n)) {x | 2 ≤ x ∧ x ≤ 512} := by
  cases hx : localizaSector m h t n with
  | some x => exact ⟨_, rfl, leeVariable_some hh hn p hx⟩
  | none => exact ⟨_, rfl, (leeVariable_none hh hn p hx).mono fun y hy => ⟨hy.1, Nat.le_succ_of_le hy.2⟩⟩

end Wiznet
