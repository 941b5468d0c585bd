import Wiznet.Flash.DriverSpec

/-!
# Consecutive addresses

The loops over the bytes of a range, by single calls (`escribeBytes`, `leeBytes`) and by a stream (`escribeFlujo`,
`leeFlujo`).  A stream holds one chip command open and changes it for another at each page end.  `EscribeEn` and
`LeeEn` tie the open command to the page and the address that the caller counts; every call keeps them.
-/

namespace Wiznet

open NorFlash (Mem Cmd replay)
open W25Q16

/-! ### Loops -/

/-- A loop of `W25Q16_streamWrite` calls. -/
def streamWriteAll : List UInt8 → UInt16 → UInt8 → SpiM (UInt16 × UInt8)
  | [], page, pageAddress => return (page, pageAddress)
  | v :: vs, page, pageAddress => do
    let (page, pageAddress) ← streamWrite page pageAddress v
    streamWriteAll vs page pageAddress

/-- A loop of `W25Q16_streamRead` calls. -/
def streamReadAll : Nat → UInt16 → UInt8 → SpiM (List UInt8 × UInt16 × UInt8)
  | 0, page, pageAddress => return ([], page, pageAddress)
  | n + 1, page, pageAddress => do
    let (v, page, pageAddress) ← streamRead page pageAddress
    let (vs, page, pageAddress) ← streamReadAll n page pageAddress
    return (v :: vs, page, pageAddress)

def escribeFlujo (vs : List UInt8) (page : UInt16) (pageAddress : UInt8) : SpiM (UInt16 × UInt8) := do
  initStreamWrite page pageAddress
  let fin ← streamWriteAll vs page pageAddress
  closeStreamWrite
  return fin

def leeFlujo (n : Nat) (page : UInt16) (pageAddress : UInt8) : SpiM (List UInt8 × UInt16 × UInt8) := do
  initStreamRead page pageAddress
  let fin ← streamReadAll n page pageAddress
  closeStreamRead
  return fin

/-- The write loop of `escribeVar`. -/
def escribeBytes : List UInt8 → UInt16 → UInt8 → SpiM Unit
  | [], _, _ => return
  | v :: vs, pageData, pageAddressData => do
    write pageData pageAddressData v
    let pageAddressData := pageAddressData + 1
    if pageAddressData = 0 then escribeBytes vs (pageData + 1) pageAddressData
    else escribeBytes vs pageData pageAddressData

/-- The read loop of `leeVariable`. -/
def leeBytes : Nat → UInt16 → UInt8 → SpiM (List UInt8)
  | 0, _, _ => return []
  | n + 1, pageData, pageAddressData => do
    let v ← W25Q16.read pageData pageAddressData
    let pageAddressData := pageAddressData + 1
    let vs ← if pageAddressData = 0 then leeBytes n (pageData + 1) pageAddressData
      else leeBytes n pageData pageAddressData
    return v :: vs

/-! ### Single calls -/

/-- The address after this one, as the loops over records count it. -/
theorem flashAddr_next (page : UInt16) (pa : UInt8) (h : flashAddr page pa + 1 < 16777216) :
    flashAddr (if pa + 1 = 0 then page + 1 else page) (pa + 1) = flashAddr page pa + 1 := by
  have hp := pa.toNat_lt
  have hpg := page.toNat_lt
  unfold flashAddr at h ⊢
  by_cases hz : pa + 1 = 0
  · have h0 := congrArg UInt8.toNat hz
    rw [UInt8.toNat_add, show (1 : UInt8).toNat = 1 from rfl, show (0 : UInt8).toNat = 0 from rfl] at h0
    have hpa : pa.toNat = 255 := by omega
    rw [if_pos hz, hz, UInt16.toNat_add, show (1 : UInt16).toNat = 1 from rfl, Nat.mod_eq_of_lt (by omega), hpa,
      show (0 : UInt8).toNat = 0 from rfl]
    omega
  · have hpa1 : (pa + 1).toNat = pa.toNat + 1 := by
      rw [UInt8.toNat_add, show (1 : UInt8).toNat = 1 from rfl]
      have : pa.toNat ≠ 255 := fun h => hz (UInt8.toNat_inj.1 (by rw [UInt8.toNat_add, h]; rfl))
      omega
    rw [if_neg hz, hpa1]
    omega

/-- One program for each byte. -/
def bytesOrdenes (a : Nat) : List UInt8 → List Cmd
  | [] => []
  | v :: vs => .program a [v] :: bytesOrdenes (a + 1) vs

theorem escribeBytes_does (vs : List UInt8) : ∀ {m : Mem} {page : UInt16} {pa : UInt8},
    flashAddr page pa + vs.length < 16777216 →
    Does (escribeBytes vs page pa) m () (bytesOrdenes (flashAddr page pa) vs) := by
  induction vs with
  | nil => intro m page pa _; exact Does.pure _ _
  | cons v vs ih =>
    intro m page pa h
    rw [List.length_cons] at h
    have hnext := flashAddr_next page pa (by omega)
    unfold escribeBytes bytesOrdenes
    refine (write_does page pa v).bind ?_
    rw [← hnext]
    by_cases hz : pa + 1 = 0
    · simp only [hz, if_true] at hnext ⊢
      exact ih (by omega)
    · simp only [hz, if_false] at hnext ⊢
      exact ih (by omega)

theorem leeBytes_does {m : Mem} (k : Nat) : ∀ {page : UInt16} {pa : UInt8},
    flashAddr page pa + k < 16777216 →
    Does (leeBytes k page pa) m ((List.range' (flashAddr page pa) k).map fun a => m (a % w25q16.capacity))
      ((List.range' (flashAddr page pa) k).map fun a => .read a 1) := by
  induction k with
  | zero => intro page pa _; exact Does.pure _ _
  | succ k ih =>
    intro page pa h
    have hnext := flashAddr_next page pa (by omega)
    unfold leeBytes
    rw [List.range'_succ, List.map_cons, List.map_cons]
    refine (read_does page pa).bind ?_
    rw [← hnext]
    by_cases hz : pa + 1 = 0
    · simp only [hz, if_true] at hnext ⊢
      exact (ih (by omega)).map _
    · simp only [hz, if_false] at hnext ⊢
      exact (ih (by omega)).map _

/-- Programming bytes one by one clears the bits that they have clear. -/
theorem replay_bytesOrdenes {a : Nat} (vs : List UInt8) {m : Mem} {y : Nat} (h : a + vs.length ≤ w25q16.capacity) :
    replay w25q16 (bytesOrdenes a vs) m y =
      if a ≤ y ∧ y < a + vs.length then m y &&& vs.getD (y - a) 0xFF else m y := by
  induction vs generalizing a m with
  | nil =>
    rw [if_neg (by rw [List.length_nil]; omega)]
    rfl
  | cons v vs ih =>
    rw [List.length_cons] at h ⊢
    unfold bytesOrdenes
    rw [NorFlash.replay_cons, ih (by omega), Cmd.apply_program_byte, Nat.mod_eq_of_lt (by omega)]
    by_cases hy : y = a
    · subst hy
      rw [if_neg (by omega), if_pos rfl, if_pos (by omega), Nat.sub_self, List.getD_cons_zero]
    · rw [if_neg hy]
      by_cases hin : a + 1 ≤ y ∧ y < a + 1 + vs.length
      · rw [if_pos hin, if_pos (by omega), show y - a = y - (a + 1) + 1 by omega, List.getD_cons_succ]
      · rw [if_neg hin, if_neg (by omega)]

/-! ### Streams that write -/

section Escribe

variable {m : Mem} {l : List Cmd} {e : ChipEnv} {c : Chip} {page : UInt16} {pa : UInt8}

/-- At the page end the program is closed and another one opened. -/
theorem streamWrite_cruza (a : Nat) (d : List UInt8) (v : UInt8) (h : pa + 1 = 0) :
    Runs (streamWrite page pa v) (Chip.inside (.programming a d) m true l e, true) (page + 1, pa + 1)
      (Chip.inside (.programming (flashAddr (page + 1) (pa + 1)) []) (Cmd.apply w25q16 (.program a (d ++ [v])) m) true
        (l ++ [.program a (d ++ [v])]) e, true) := by
  refine (spiExchange_runs [v] true).bind ?_
  rw [if_pos h]
  exact (closeStreamWrite_runs a (by simp)).bind ((initStreamWrite_runs (page + 1) (pa + 1)).bind (Runs.pure _ _))

/-- A program that was opened and got no byte is closed without effect. -/
theorem closeStreamWrite_vacio (a : Nat) :
    Runs closeStreamWrite (Chip.inside (.programming a []) m true l e, true) () (Chip.idle m false l e, false) :=
  (spiUnselect_runs true).bind ((spiReleaseBus_runs true).bind ((notBusy_runs 0).bind writeDisable_runs))

/-- A page program is open: closed now, it would leave `m`, and its next byte goes to `a`. -/
def EscribeEn (c : Chip) (m : Mem) (a : Nat) : Prop :=
  ∃ m₀ l e a₀ d, c = Chip.inside (.programming a₀ d) m₀ true l e ∧ Cmd.apply w25q16 (.program a₀ d) m₀ = m ∧
    a₀ + d.length = a ∧ a₀ % 256 + d.length < 256

theorem escribeEn_abre (m : Mem) (l : List Cmd) (e : ChipEnv) (a : Nat) :
    EscribeEn (Chip.inside (.programming a []) m true l e) m a :=
  ⟨m, l, e, a, [], rfl, Cmd.apply_program_nil a m, rfl, Nat.mod_lt _ (by decide)⟩

theorem EscribeEn.cierra {a : Nat} (h : EscribeEn c m a) :
    ∃ l e, Runs closeStreamWrite (c, true) () (Chip.idle m false l e, false) := by
  obtain ⟨m₀, l, e, a₀, d, rfl, rfl, -, -⟩ := h
  by_cases hd : d = []
  · subst hd
    rw [Cmd.apply_program_nil]
    exact ⟨l, e, closeStreamWrite_vacio a₀⟩
  · exact ⟨_, e, closeStreamWrite_runs a₀ hd⟩

/-- One more byte: the caller counts on, and the program takes it. -/
theorem EscribeEn.streamWrite (h : EscribeEn c m (flashAddr page pa)) (hcap : flashAddr page pa < w25q16.capacity)
    (v : UInt8) : ∃ page' pa' c', Runs (streamWrite page pa v) (c, true) (page', pa') (c', true) ∧
      flashAddr page' pa' = flashAddr page pa + 1 ∧
      EscribeEn c' (Cmd.apply w25q16 (.program (flashAddr page pa) [v]) m) (flashAddr page' pa') := by
  have hnext := flashAddr_next page pa (Nat.lt_of_le_of_lt hcap (by decide))
  obtain ⟨m₀, l, e, a₀, d, rfl, rfl, ha, hd⟩ := h
  have hsnoc := Cmd.apply_program_snoc (g := w25q16) (a := a₀) (d := d) (v := v) (m := m₀) (by omega) hd
  rw [ha] at hsnoc
  by_cases hz : pa + 1 = 0
  · rw [if_pos hz] at hnext
    refine ⟨_, _, _, streamWrite_cruza a₀ d v hz, hnext, ?_⟩
    rw [← hsnoc]
    exact escribeEn_abre ..
  · rw [if_neg hz] at hnext
    refine ⟨_, _, _, streamWrite_runs page pa a₀ d v hz, hnext, m₀, l, e, a₀, d ++ [v], rfl, hsnoc, ?_, ?_⟩
    · rw [List.length_append, List.length_singleton, hnext, ← ha]
      omega
    · -- the page has room for one more
      have hpa : pa.toNat ≠ 255 := fun h => hz (UInt8.toNat_inj.1 (by rw [UInt8.toNat_add, h]; rfl))
      have hlt := pa.toNat_lt
      unfold flashAddr at ha
      rw [List.length_append, List.length_singleton]
      omega

/-- All the bytes: the flash is that of one program for each of them. -/
theorem EscribeEn.streamWriteAll (vs : List UInt8) : ∀ {c : Chip} {m : Mem} {page : UInt16} {pa : UInt8},
    EscribeEn c m (flashAddr page pa) → flashAddr page pa + vs.length ≤ w25q16.capacity →
    ∃ page' pa' c', Runs (streamWriteAll vs page pa) (c, true) (page', pa') (c', true) ∧
      flashAddr page' pa' = flashAddr page pa + vs.length ∧
      EscribeEn c' (replay w25q16 (bytesOrdenes (flashAddr page pa) vs) m) (flashAddr page' pa') := by
  induction vs with
  | nil =>
    intro c m page pa h _
    exact ⟨page, pa, c, Runs.pure _ _, (Nat.add_zero _).symm, h⟩
  | cons v vs ih =>
    intro c m page pa h hcap
    rw [List.length_cons] at hcap ⊢
    obtain ⟨page₁, pa₁, c₁, hr₁, ha₁, h₁⟩ := h.streamWrite (by omega) v
    obtain ⟨page₂, pa₂, c₂, hr₂, ha₂, h₂⟩ := ih h₁ (by omega)
    refine ⟨page₂, pa₂, c₂, hr₁.bind hr₂, by omega, ?_⟩
    unfold bytesOrdenes
    rwa [ha₁] at h₂

theorem escribeFlujo_runs (vs : List UInt8) (h : flashAddr page pa + vs.length ≤ w25q16.capacity) (m : Mem)
    (l : List Cmd) (e : ChipEnv) : ∃ page' pa' l' e', Runs (escribeFlujo vs page pa) (Chip.idle m false l e, false)
      (page', pa') (Chip.idle (replay w25q16 (bytesOrdenes (flashAddr page pa) vs) m) false l' e', false) ∧
      flashAddr page' pa' = flashAddr page pa + vs.length := by
  obtain ⟨page', pa', c', hr, ha, h'⟩ := EscribeEn.streamWriteAll vs (escribeEn_abre m l e (flashAddr page pa)) h
  obtain ⟨l', e', hc⟩ := h'.cierra
  exact ⟨page', pa', l', e', (initStreamWrite_runs page pa).bind (hr.bind (hc.bind (Runs.pure _ _))), ha⟩

end Escribe

/-! ### Streams that read -/

section Lee

variable {m : Mem} {l : List Cmd} {e : ChipEnv} {c : Chip} {page : UInt16} {pa : UInt8}

theorem streamRead_cruza (a k : Nat) (h : pa + 1 = 0) :
    Runs (streamRead page pa) (Chip.inside (.reading a k) m false l e, true)
      (m ((a + k) % w25q16.capacity), page + 1, pa + 1)
      (Chip.inside (.reading (flashAddr (page + 1) (pa + 1)) 0) m false (l ++ [.read a (k + 1)]) e, true) := by
  refine (spiExchange_runs [0] true).bind ?_
  rw [if_pos h]
  exact (closeStreamRead_runs a (k + 1)).bind ((initStreamRead_runs (page + 1) (pa + 1)).bind (Runs.pure _ _))

/-- A read is open, and its next byte comes from `a`. -/
def LeeEn (c : Chip) (m : Mem) (a : Nat) : Prop :=
  ∃ l e a₀ k, c = Chip.inside (.reading a₀ k) m false l e ∧ a₀ + k = a

theorem LeeEn.cierra {a : Nat} (h : LeeEn c m a) :
    ∃ l e, Runs closeStreamRead (c, true) () (Chip.idle m false l e, false) := by
  obtain ⟨l, e, a₀, k, rfl, -⟩ := h
  exact ⟨_, e, closeStreamRead_runs a₀ k⟩

theorem LeeEn.streamRead (h : LeeEn c m (flashAddr page pa)) (hcap : flashAddr page pa < w25q16.capacity) :
    ∃ page' pa' c', Runs (streamRead page pa) (c, true) (m (flashAddr page pa % w25q16.capacity), page', pa')
        (c', true) ∧
      flashAddr page' pa' = flashAddr page pa + 1 ∧ LeeEn c' m (flashAddr page' pa') := by
  have hnext := flashAddr_next page pa (Nat.lt_of_le_of_lt hcap (by decide))
  obtain ⟨l, e, a₀, k, rfl, ha⟩ := h
  rw [← ha]
  by_cases hz : pa + 1 = 0
  · rw [if_pos hz, ← ha] at hnext
    exact ⟨_, _, _, streamRead_cruza a₀ k hz, hnext, _, e, _, 0, rfl, Nat.add_zero _⟩
  · rw [if_neg hz, ← ha] at hnext
    exact ⟨_, _, _, streamRead_runs page pa a₀ k hz, hnext, l, e, a₀, k + 1, rfl, hnext.symm⟩

/-- All the bytes are those of the range. -/
theorem LeeEn.streamReadAll (n : Nat) : ∀ {c : Chip} {page : UInt16} {pa : UInt8},
    LeeEn c m (flashAddr page pa) → flashAddr page pa + n ≤ w25q16.capacity →
    ∃ page' pa' c', Runs (streamReadAll n page pa) (c, true)
        ((List.range' (flashAddr page pa) n).map fun a => m (a % w25q16.capacity), page', pa') (c', true) ∧
      flashAddr page' pa' = flashAddr page pa + n ∧ LeeEn c' m (flashAddr page' pa') := by
  induction n with
  | zero =>
    intro c page pa h _
    exact ⟨page, pa, c, Runs.pure _ _, (Nat.add_zero _).symm, h⟩
  | succ n ih =>
    intro c page pa h hcap
    obtain ⟨page₁, pa₁, c₁, hr₁, ha₁, h₁⟩ := h.streamRead (by omega)
    obtain ⟨page₂, pa₂, c₂, hr₂, ha₂, h₂⟩ := ih h₁ (by omega)
    refine ⟨page₂, pa₂, c₂, ?_, by omega, h₂⟩
    rw [List.range'_succ, List.map_cons, ← ha₁]
    exact hr₁.bind (hr₂.bind (Runs.pure _ _))

theorem leeFlujo_runs (n : Nat) (h : flashAddr page pa + n ≤ w25q16.capacity) (m : Mem) (l : List Cmd) (e : ChipEnv) :
    ∃ page' pa' l' e', Runs (leeFlujo n page pa) (Chip.idle m false l e, false)
        ((List.range' (flashAddr page pa) n).map fun a => m (a % w25q16.capacity), page', pa')
        (Chip.idle m false l' e', false) ∧
      flashAddr page' pa' = flashAddr page pa + n := by
  obtain ⟨page', pa', c', hr, ha, h'⟩ := LeeEn.streamReadAll n
    (show LeeEn (Chip.inside (.reading (flashAddr page pa) 0) m false l e) m _ from
      ⟨l, e, _, 0, rfl, Nat.add_zero _⟩) h
  obtain ⟨l', e', hc⟩ := h'.cierra
  exact ⟨page', pa', l', e', (initStreamRead_runs page pa).bind (hr.bind (hc.bind (Runs.pure _ _))), ha⟩

end Lee

/-- A stream leaves the flash that single writes leave and reads what single reads read, and the caller's page and
address end where the range does. -/
theorem flujo_como_bytes {b : Bus} (hb : b.Listo) (page : UInt16) (pa : UInt8) :
    (∀ vs : List UInt8, flashAddr page pa + vs.length ≤ w25q16.capacity → ∃ page' pa' b₁ b₂,
      escribeFlujo vs page pa b = .ok (page', pa') b₁ ∧ escribeBytes vs page pa b = .ok () b₂ ∧
        b₁.chip.mem = b₂.chip.mem ∧ flashAddr page' pa' = flashAddr page pa + vs.length) ∧
    ∀ n, flashAddr page pa + n ≤ w25q16.capacity → ∃ vs page' pa' b₁ b₂,
      leeFlujo n page pa b = .ok (vs, page', pa') b₁ ∧ leeBytes n page pa b = .ok vs b₂ ∧
        flashAddr page' pa' = flashAddr page pa + n := by
  have hcap : w25q16.capacity < 16777216 := by decide
  constructor
  · intro vs h
    obtain ⟨page', pa', l', e', hr, ha⟩ := escribeFlujo_runs vs h b.chip.mem b.chip.log b.chip.env
    obtain ⟨b₁, e₁, hb₁, -⟩ := hr b hb.is
    obtain ⟨b₂, e₂, -, hm₂⟩ := (escribeBytes_does vs (show flashAddr page pa + _ < _ by omega)).ejecuta hb
    refine ⟨page', pa', b₁, b₂, e₁, e₂, ?_, ha⟩
    rw [hm₂, hb₁.chip]
    rfl
  · intro n h
    obtain ⟨page', pa', l', e', hr, ha⟩ := leeFlujo_runs n h b.chip.mem b.chip.log b.chip.env
    obtain ⟨b₁, e₁, -, -⟩ := hr b hb.is
    obtain ⟨b₂, e₂, -, -⟩ := (leeBytes_does n (show flashAddr page pa + _ < _ by omega)).ejecuta hb
    exact ⟨_, page', pa', b₁, b₂, e₁, e₂, ha⟩

theorem flujo_como_bytes_nuevo : ∃ page pa b₁ b₂, escribeFlujo [1, 2, 3] 8191 0xFD Bus.nuevo = .ok (page, pa) b₁ ∧
    escribeBytes [1, 2, 3] 8191 0xFD Bus.nuevo = .ok () b₂ ∧ b₁.chip.mem = b₂.chip.mem ∧
      flashAddr page pa = flashAddr 8191 0xFD + 3 :=
  (flujo_como_bytes (b := Bus.nuevo) ⟨rfl, rfl, rfl, rfl, rfl⟩ 8191 0xFD).1 [1, 2, 3] (by decide)

end Wiznet
