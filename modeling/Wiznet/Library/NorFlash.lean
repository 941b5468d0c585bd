import Mathlib.Data.Nat.Init
import Mathlib.Data.List.GetD

/-!
# NOR flash memory

A serial NOR flash as its command set sees it.  A page program ANDs the loaded page buffer into one page (and wraps
inside it), a sector erase sets one sector to `0xFF`, and addresses beyond the capacity alias.  The facts used by a
driver's proof are the frame rules (`Cmd.apply_of_sector_ne`), the exact effect of a program that stays in its page
(`Cmd.apply_program`), and the program discipline (`Cmd.Exact`): a byte reads back as written when its set bits are
set already.
-/

namespace NorFlash

/-- Contents of the array.  Only the addresses below the capacity are reached by commands. -/
abbrev Mem := Nat → UInt8

/-- Page, sector and array sizes; pages tile sectors and sectors tile the array. -/
structure Geometry where
  pageSize : Nat
  sectorSize : Nat
  capacity : Nat
  page_pos : 0 < pageSize
  page_dvd : pageSize ∣ sectorSize
  sector_dvd : sectorSize ∣ capacity
  capacity_pos : 0 < capacity

/-- The commands that address the array. -/
inductive Cmd where
  | read (addr len : Nat)
  | program (addr : Nat) (data : List UInt8)
  | erase (addr : Nat)
  deriving DecidableEq, Repr

namespace Cmd

def addr : Cmd → Nat
  | .read a _ => a
  | .program a _ => a
  | .erase a => a

def modifies : Cmd → Bool
  | .read _ _ => false
  | .program _ _ => true
  | .erase _ => true

end Cmd

variable (g : Geometry)

namespace Geometry

/-- Loading data bytes into the page buffer from offset `off`; the offset wraps at the page end and a later byte
replaces an earlier one. -/
def load (off : Nat) : List UInt8 → (Nat → UInt8) → Nat → UInt8
  | [], buf => buf
  | b :: bs, buf => load ((off + 1) % g.pageSize) bs (fun o => if o = off then b else buf o)

/-- Address that receives byte `i` of a page program at `a`. -/
def byteAddr (a i : Nat) : Nat :=
  a % g.capacity / g.pageSize * g.pageSize + (a % g.capacity % g.pageSize + i) % g.pageSize

/-- Sector of an address as the chip sees it. -/
def sectorOf (a : Nat) : Nat := a % g.capacity / g.sectorSize

end Geometry

/-- Effect of a command on the array. -/
def Cmd.apply : Cmd → Mem → Mem
  | .read _ _, m => m
  | .program a d, m => fun x =>
      if x / g.pageSize = a % g.capacity / g.pageSize then
        m x &&& g.load (a % g.capacity % g.pageSize) d (fun _ => 0xFF) (x % g.pageSize)
      else m x
  | .erase a, m => fun x => if x / g.sectorSize = g.sectorOf a then 0xFF else m x

/-- Contents after a sequence of commands. -/
def replay (cs : List Cmd) (m : Mem) : Mem := cs.foldl (fun m c => c.apply g m) m

/-- A program command is exact when it stays in its page and every data byte keeps only bits that are still set. -/
def Cmd.Exact (m : Mem) : Cmd → Prop
  | .program a d => a % g.capacity % g.pageSize + d.length ≤ g.pageSize ∧
      ∀ i, ∀ h : i < d.length, m (g.byteAddr a i) &&& d[i] = d[i]
  | _ => True

variable {g}

theorem ff_and (v : UInt8) : 0xFF &&& v = v := UInt8.neg_one_and

theorem and_ff (v : UInt8) : v &&& 0xFF = v := UInt8.and_neg_one

@[simp] theorem replay_nil (m : Mem) : replay g [] m = m := rfl

@[simp] theorem replay_cons (c : Cmd) (cs : List Cmd) (m : Mem) :
    replay g (c :: cs) m = replay g cs (c.apply g m) := rfl

theorem replay_append (cs ds : List Cmd) (m : Mem) : replay g (cs ++ ds) m = replay g ds (replay g cs m) :=
  List.foldl_append

/-- Reads do not matter for the contents. -/
theorem replay_filter_modifies (cs : List Cmd) (m : Mem) : replay g (cs.filter Cmd.modifies) m = replay g cs m := by
  induction cs generalizing m with
  | nil => rfl
  | cons c cs ih =>
    cases c with
    | read a n => exact ih m
    | program a d => exact ih _
    | erase a => exact ih _

/-! ### Sectors -/

/-- Addresses of one page lie in one sector. -/
theorem sector_of_page_eq {x y : Nat} (h : x / g.pageSize = y / g.pageSize) :
    x / g.sectorSize = y / g.sectorSize := by
  obtain ⟨k, hk⟩ := g.page_dvd
  rw [hk, ← Nat.div_div_eq_div_mul, ← Nat.div_div_eq_div_mul, h]

/-- A command changes nothing outside the sector it addresses. -/
theorem Cmd.apply_of_sector_ne {c : Cmd} {m : Mem} {x : Nat} (h : x / g.sectorSize ≠ g.sectorOf c.addr) :
    c.apply g m x = m x := by
  cases c with
  | read a n => rfl
  | program a d =>
    have hp : x / g.pageSize ≠ a % g.capacity / g.pageSize := fun e => h (sector_of_page_eq e)
    simp only [Cmd.apply, hp, if_false]
  | erase a =>
    have hs : x / g.sectorSize ≠ g.sectorOf a := h
    simp only [Cmd.apply, hs, if_false]

theorem replay_of_sector_ne {cs : List Cmd} {m : Mem} {x : Nat}
    (h : ∀ c ∈ cs, x / g.sectorSize ≠ g.sectorOf c.addr) : replay g cs m x = m x := by
  induction cs generalizing m with
  | nil => rfl
  | cons c cs ih =>
    rw [replay_cons, ih (fun d hd => h d (List.mem_cons_of_mem _ hd)),
      Cmd.apply_of_sector_ne (h c (List.mem_cons_self ..))]

/-! ### Programs that stay in their page -/

private theorem load_eq {off : Nat} {d : List UInt8} {buf : Nat → UInt8} {o : Nat}
    (h : off + d.length ≤ g.pageSize) :
    g.load off d buf o = if off ≤ o ∧ o < off + d.length then d.getD (o - off) 0xFF else buf o := by
  induction d generalizing off buf with
  | nil =>
    have : ¬ (off ≤ o ∧ o < off + ([] : List UInt8).length) := by simp
    rw [if_neg this]; rfl
  | cons b bs ih =>
    simp only [List.length_cons] at h
    unfold Geometry.load
    rcases Nat.lt_or_ge (off + 1) g.pageSize with hlt | hge
    · rw [Nat.mod_eq_of_lt hlt, ih (by omega), List.length_cons]
      by_cases ho : o = off
      · subst ho
        rw [if_neg (by omega), if_pos rfl, if_pos (by omega), Nat.sub_self, List.getD_cons_zero]
      · by_cases hr : off + 1 ≤ o ∧ o < off + 1 + bs.length
        · have hr' : off ≤ o ∧ o < off + (bs.length + 1) := by omega
          have e : o - off = (o - (off + 1)) + 1 := by omega
          rw [if_pos hr, if_pos hr', e, List.getD_cons_succ]
        · have hr' : ¬ (off ≤ o ∧ o < off + (bs.length + 1)) := by omega
          rw [if_neg hr, if_neg hr', if_neg ho]
    · -- the buffer is full, so no byte is left
      have hbs : bs = [] := List.eq_nil_of_length_eq_zero (by omega)
      subst hbs
      by_cases ho : o = off
      · subst ho; simp [Geometry.load]
      · have : ¬ (off ≤ o ∧ o < off + [b].length) := by
          rw [List.length_singleton]
          omega
        rw [if_neg this]
        exact if_neg ho

theorem byteAddr_eq {a i : Nat} (h : a % g.capacity % g.pageSize + i < g.pageSize) :
    g.byteAddr a i = a % g.capacity + i := by
  have := Nat.div_add_mod (a % g.capacity) g.pageSize
  rw [Nat.mul_comm] at this
  unfold Geometry.byteAddr
  rw [Nat.mod_eq_of_lt h]
  omega

/-- A program that does not run past its page end. -/
theorem Cmd.apply_program {a : Nat} {d : List UInt8} {m : Mem} {x : Nat}
    (h : a % g.capacity % g.pageSize + d.length ≤ g.pageSize) :
    Cmd.apply g (.program a d) m x =
      if a % g.capacity ≤ x ∧ x < a % g.capacity + d.length then
        m x &&& d.getD (x - a % g.capacity) 0xFF else m x := by
  simp only [Cmd.apply]
  generalize a % g.capacity = b at h ⊢
  have hb := Nat.div_add_mod b g.pageSize
  have hx := Nat.div_add_mod x g.pageSize
  have hxm := Nat.mod_lt x g.page_pos
  by_cases hp : x / g.pageSize = b / g.pageSize
  · rw [hp] at hx
    rw [if_pos hp, load_eq h]
    by_cases hr : b ≤ x ∧ x < b + d.length
    · have hr' : b % g.pageSize ≤ x % g.pageSize ∧ x % g.pageSize < b % g.pageSize + d.length := by omega
      have e : x % g.pageSize - b % g.pageSize = x - b := by omega
      rw [if_pos hr, if_pos hr', e]
    · have hr' : ¬ (b % g.pageSize ≤ x % g.pageSize ∧ x % g.pageSize < b % g.pageSize + d.length) := by omega
      rw [if_neg hr, if_neg hr', and_ff]
  · have hr : ¬ (b ≤ x ∧ x < b + d.length) := by
      rintro ⟨h1, h2⟩
      apply hp
      have hlt : b % g.pageSize + (x - b) < g.pageSize := by omega
      have e : x = g.pageSize * (b / g.pageSize) + (b % g.pageSize + (x - b)) := by omega
      rw [e, Nat.mul_add_div g.page_pos, Nat.div_eq_of_lt hlt, Nat.add_zero]
    rw [if_neg hp, if_neg hr]

theorem Cmd.apply_program_of_out {a : Nat} {d : List UInt8} {m : Mem} {x : Nat}
    (h : a % g.capacity % g.pageSize + d.length ≤ g.pageSize)
    (hx : x < a % g.capacity ∨ a % g.capacity + d.length ≤ x) : Cmd.apply g (.program a d) m x = m x := by
  rw [Cmd.apply_program h, if_neg (by omega)]

/-- One byte. -/
theorem Cmd.apply_program_byte {a : Nat} {v : UInt8} {m : Mem} {x : Nat} :
    Cmd.apply g (.program a [v]) m x = if x = a % g.capacity then m x &&& v else m x := by
  have hlt := Nat.mod_lt (a % g.capacity) g.page_pos
  rw [Cmd.apply_program (by simp only [List.length_singleton]; omega)]
  by_cases hx : x = a % g.capacity
  · subst hx; simp
  · rw [List.length_singleton, if_neg (by omega), if_neg hx]

/-- No data, no effect. -/
@[simp] theorem Cmd.apply_program_nil (a : Nat) (m : Mem) : Cmd.apply g (.program a []) m = m := by
  funext x
  simp [Cmd.apply, Geometry.load, and_ff]

/-- The last byte of a program may as well be programmed on its own. -/
theorem Cmd.apply_program_snoc {a : Nat} {d : List UInt8} {v : UInt8} {m : Mem} (hcap : a + d.length < g.capacity)
    (hpage : a % g.pageSize + d.length < g.pageSize) :
    Cmd.apply g (.program a (d ++ [v])) m =
      Cmd.apply g (.program (a + d.length) [v]) (Cmd.apply g (.program a d) m) := by
  have ha : a % g.capacity = a := Nat.mod_eq_of_lt (by omega)
  have had : (a + d.length) % g.capacity = a + d.length := Nat.mod_eq_of_lt hcap
  have hlen : (d ++ [v]).length = d.length + 1 := List.length_append
  funext x
  rw [Cmd.apply_program_byte, Cmd.apply_program (d := d ++ [v]) (by rw [ha, hlen]; omega),
    Cmd.apply_program (by rw [ha]; omega), ha, had, hlen]
  by_cases hlast : x = a + d.length
  · subst hlast
    rw [if_pos (by omega), if_pos rfl, if_neg (by omega), Nat.add_sub_cancel_left,
      List.getD_append_right _ _ _ _ (Nat.le_refl _), Nat.sub_self, List.getD_cons_zero]
  · rw [if_neg hlast]
    by_cases hin : a ≤ x ∧ x < a + d.length
    · rw [if_pos hin, if_pos (by omega), List.getD_append _ _ _ _ (by omega)]
    · rw [if_neg hin, if_neg (by omega)]

/-- Two bytes; the second one may be in the first place of the page. -/
theorem Cmd.apply_program_pair {a : Nat} {v w : UInt8} {m : Mem} {x : Nat} :
    Cmd.apply g (.program a [v, w]) m x =
      if x = g.byteAddr a 1 then m x &&& w else if x = g.byteAddr a 0 then m x &&& v else m x := by
  have hoff : ∀ i, x = g.byteAddr a i ↔
      x / g.pageSize = a % g.capacity / g.pageSize ∧
        x % g.pageSize = (a % g.capacity % g.pageSize + i) % g.pageSize := by
    intro i
    have hlt := Nat.mod_lt (a % g.capacity % g.pageSize + i) g.page_pos
    unfold Geometry.byteAddr
    constructor
    · rintro rfl
      rw [Nat.mul_comm, Nat.mul_add_div g.page_pos, Nat.div_eq_of_lt hlt, Nat.mul_add_mod, Nat.mod_eq_of_lt hlt]
      exact ⟨Nat.add_zero _, rfl⟩
    · rintro ⟨h1, h2⟩
      rw [← h1, ← h2, Nat.mul_comm]
      exact (Nat.div_add_mod x g.pageSize).symm
  have hmod : (a % g.capacity % g.pageSize + 0) % g.pageSize = a % g.capacity % g.pageSize := Nat.mod_mod ..
  rw [if_congr (hoff 1) rfl rfl, if_congr (hoff 0) rfl rfl, hmod]
  simp only [Cmd.apply, Geometry.load]
  by_cases hp : x / g.pageSize = a % g.capacity / g.pageSize
  · simp only [hp, true_and, if_true]
    by_cases h1 : x % g.pageSize = (a % g.capacity % g.pageSize + 1) % g.pageSize
    · rw [if_pos h1, if_pos h1]
    · rw [if_neg h1, if_neg h1]
      split
      · rfl
      · exact and_ff _
  · simp only [hp, false_and, if_false]

theorem Cmd.apply_erase {a : Nat} {m : Mem} {x : Nat} :
    Cmd.apply g (.erase a) m x = if x / g.sectorSize = g.sectorOf a then 0xFF else m x := rfl

/-! ### Program discipline -/

/-- A program is exact on blank bytes. -/
theorem Cmd.exact_of_blank {a : Nat} {d : List UInt8} {m : Mem}
    (hp : a % g.capacity % g.pageSize + d.length ≤ g.pageSize)
    (h : ∀ i, i < d.length → m (g.byteAddr a i) = 0xFF) : Cmd.Exact g m (.program a d) :=
  ⟨hp, fun i hi => by rw [h i hi, ff_and]⟩

/-- An exact program reads back as written. -/
theorem Cmd.Exact.apply_eq {a : Nat} {d : List UInt8} {m : Mem} (hx : Cmd.Exact g m (.program a d)) {i : Nat}
    (hi : i < d.length) : Cmd.apply g (.program a d) m (g.byteAddr a i) = d[i] := by
  obtain ⟨hp, hx⟩ := hx
  have := hx i hi
  rw [byteAddr_eq (by omega)] at this ⊢
  rw [Cmd.apply_program hp, if_pos (by omega), Nat.add_sub_cancel_left, List.getD_eq_getElem _ _ hi, this]

/-- A sequence of commands each of which is exact when it is its turn. -/
def ExactAll (g : Geometry) : List Cmd → Mem → Prop
  | [], _ => True
  | c :: cs, m => c.Exact g m ∧ ExactAll g cs (c.apply g m)

theorem ExactAll.append {cs ds : List Cmd} {m : Mem} (h : ExactAll g cs m) (h' : ExactAll g ds (replay g cs m)) :
    ExactAll g (cs ++ ds) m := by
  induction cs generalizing m with
  | nil => exact h'
  | cons c cs ih => exact ⟨h.1, ih h.2 h'⟩

/-- The programs in such a sequence read back as written. -/
theorem ExactAll.program {pre post : List Cmd} {a : Nat} {d : List UInt8} {m : Mem}
    (h : ExactAll g (pre ++ .program a d :: post) m) {i : Nat} (hi : i < d.length) :
    replay g pre m (g.byteAddr a i) &&& d[i] = d[i] ∧
      replay g (pre ++ [.program a d]) m (g.byteAddr a i) = d[i] := by
  induction pre generalizing m with
  | nil => exact ⟨h.1.2 i hi, h.1.apply_eq hi⟩
  | cons c pre ih => exact ih h.2

/-- Reads are exact. -/
theorem exactAll_filter_modifies {cs : List Cmd} {m : Mem} :
    ExactAll g (cs.filter Cmd.modifies) m ↔ ExactAll g cs m := by
  induction cs generalizing m with
  | nil => exact Iff.rfl
  | cons c cs ih =>
    cases c with
    | read a n => exact ⟨fun h => ⟨trivial, ih.1 h⟩, fun h => ih.2 h.2⟩
    | program a d => exact and_congr_right fun _ => ih
    | erase a => exact and_congr_right fun _ => ih

/-! ### Logs

A region that is filled from its start: it holds the bytes of a list and is blank after them. -/

/-- The region of `n` bytes from `b` on holds `d` and is blank after it. -/
def Holds (m : Mem) (b n : Nat) (d : List UInt8) : Prop := ∀ i < n, m (b + i) = d.getD i 0xFF

/-- Programming the bytes after the last one appends them, exactly. -/
theorem Holds.append {m : Mem} {b n : Nat} {d v : List UInt8} (h : Holds m b n d) (hcap : b + n ≤ g.capacity)
    (hfit : d.length + v.length ≤ n) (hpage : (b + d.length) % g.pageSize + v.length ≤ g.pageSize) :
    Holds (Cmd.apply g (.program (b + d.length) v) m) b n (d ++ v) ∧ Cmd.Exact g m (.program (b + d.length) v) := by
  rcases Nat.eq_zero_or_pos v.length with hv | hv
  · have hv' : v = [] := List.eq_nil_of_length_eq_zero hv
    subst hv'
    refine ⟨fun i hi => ?_, Nat.le_of_lt (Nat.mod_lt _ g.page_pos), fun i hi => absurd hi (by simp)⟩
    rw [List.append_nil, ← h i hi]
    simp [Cmd.apply, Geometry.load, and_ff]
  have hmod : (b + d.length) % g.capacity = b + d.length := Nat.mod_eq_of_lt (by omega)
  have hpage' : (b + d.length) % g.capacity % g.pageSize + v.length ≤ g.pageSize := by rw [hmod]; exact hpage
  constructor
  · intro i hi
    rw [Cmd.apply_program hpage', hmod, h i hi]
    rcases Nat.lt_or_ge i d.length with hlt | hge
    · rw [if_neg (by omega), List.getD_append _ _ _ _ hlt]
    · rw [List.getD_append_right _ _ _ _ hge, List.getD_eq_default _ _ hge]
      by_cases hin : i < d.length + v.length
      · rw [if_pos (by omega), ff_and, show b + i - (b + d.length) = i - d.length by omega]
      · rw [if_neg (by omega), List.getD_eq_default _ _ (by omega)]
  · refine Cmd.exact_of_blank hpage' fun i hi => ?_
    rw [byteAddr_eq (by omega), hmod, Nat.add_assoc, h _ (by omega), List.getD_eq_default _ _ (by omega)]

/-! ### Records at fixed places

Data programmed one after the other, each at an address of its own. -/

/-- One program for each place. -/
def programs (L : List (Nat × List UInt8)) : List Cmd := L.map fun s => .program s.1 s.2

/-- The data of a place ends in its page. -/
def InPage (g : Geometry) (s : Nat × List UInt8) : Prop :=
  s.1 < g.capacity ∧ s.1 % g.pageSize + s.2.length ≤ g.pageSize

/-- The place does not hold the address. -/
def Clear (x : Nat) (s : Nat × List UInt8) : Prop := x < s.1 ∨ s.1 + s.2.length ≤ x

theorem apply_program_of_clear {s : Nat × List UInt8} (hs : InPage g s) {m : Mem} {x : Nat} (hx : Clear x s) :
    Cmd.apply g (.program s.1 s.2) m x = m x := by
  obtain ⟨hcap, hpage⟩ := hs
  refine Cmd.apply_program_of_out ?_ ?_
  · rwa [Nat.mod_eq_of_lt hcap]
  · rwa [Nat.mod_eq_of_lt hcap]

/-- Addresses in none of the places keep their contents. -/
theorem replay_programs_of_clear {L : List (Nat × List UInt8)} (hL : ∀ s ∈ L, InPage g s) {m : Mem} {x : Nat}
    (hx : ∀ s ∈ L, Clear x s) : replay g (programs L) m x = m x := by
  induction L generalizing m with
  | nil => rfl
  | cons s L ih =>
    have hs := apply_program_of_clear (hL s (by simp)) (m := m) (hx s (by simp))
    rw [← hs]
    exact ih (fun t ht => hL t (by simp [ht])) (fun t ht => hx t (by simp [ht]))

/-- Two places that do not overlap. -/
def Apart (s t : Nat × List UInt8) : Prop := s.1 + s.2.length ≤ t.1 ∨ t.1 + t.2.length ≤ s.1

instance (s t : Nat × List UInt8) : Decidable (Apart s t) := inferInstanceAs (Decidable (_ ∨ _))

theorem Apart.clear {s t : Nat × List UInt8} (h : Apart s t) {i : Nat} (hi : i < s.2.length) : Clear (s.1 + i) t := by
  rcases h with h | h
  · exact .inl (by omega)
  · exact .inr (by omega)

theorem Apart.symm {s t : Nat × List UInt8} (h : Apart s t) : Apart t s := h.elim .inr .inl

/-- On blank memory places that do not overlap are all read back. -/
theorem replay_programs_get {L : List (Nat × List UInt8)} (hL : ∀ s ∈ L, InPage g s) (hap : L.Pairwise Apart) {m : Mem}
    (hblank : ∀ s ∈ L, ∀ i < s.2.length, m (s.1 + i) = 0xFF) {s : Nat × List UInt8} (hs : s ∈ L) {i : Nat}
    (hi : i < s.2.length) : replay g (programs L) m (s.1 + i) = s.2[i] := by
  induction L generalizing m with
  | nil => cases hs
  | cons t L ih =>
    obtain ⟨ht, hap'⟩ := List.pairwise_cons.1 hap
    have hL' : ∀ u ∈ L, InPage g u := fun u hu => hL u (by simp [hu])
    rcases List.mem_cons.1 hs with rfl | hs'
    · -- the programs that follow do not touch it
      obtain ⟨hcap, hpage⟩ := hL s (by simp)
      have hpage' : s.1 % g.capacity % g.pageSize + s.2.length ≤ g.pageSize := by rwa [Nat.mod_eq_of_lt hcap]
      have hstay : replay g (programs L) (Cmd.apply g (.program s.1 s.2) m) (s.1 + i) = _ :=
        replay_programs_of_clear hL' fun u hu => (ht u hu).clear hi
      have hb := hblank s (by simp) i hi
      show replay g (programs L) (Cmd.apply g (.program s.1 s.2) m) (s.1 + i) = _
      rw [hstay, Cmd.apply_program hpage', Nat.mod_eq_of_lt hcap, if_pos (by omega), hb, ff_and,
        Nat.add_sub_cancel_left, List.getD_eq_getElem _ _ hi]
    · refine ih hL' hap' (fun u hu j hj => ?_) hs'
      have hstay := apply_program_of_clear (hL t (by simp)) (m := m) ((ht u hu).symm.clear hj)
      exact hstay.trans (hblank u (by simp [hu]) j hj)

end NorFlash
