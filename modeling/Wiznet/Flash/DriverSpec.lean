import Wiznet.Flash.Driver
import Wiznet.Library.Stateful

/-!
# What the driver does to the flash

`Runs x (c, h) a (c', h')`: on a running bus with chip `c`, held or not as `h` says, the call `x` returns `a` and
leaves the chip `c'` and the bus as `h'` says; it does not start or stop the driver.  `Does x m a log`: between
commands, on contents `m`, the call returns `a` after the chip commands `log`.  The SPI traffic, the write latch and
the busy polls are gone from `Does`, and everything above the driver is proved with it.
-/

namespace Wiznet

open NorFlash (Mem Cmd replay)
open Stateful (bind_ok)
open W25Q16

/-! ### Calls on a running bus -/

/-- The events `t'` after `t` neither start nor stop the driver. -/
def Quiet (t t' : List Event) : Prop := ∃ u, t' = t ++ u ∧ ∀ e ∈ u, e ≠ .spiStart ∧ e ≠ .spiStop

theorem Quiet.refl (t : List Event) : Quiet t t := ⟨[], by simp, by simp⟩

theorem Quiet.trans {t t' t'' : List Event} (h : Quiet t t') (h' : Quiet t' t'') : Quiet t t'' := by
  obtain ⟨u, rfl, hu⟩ := h
  obtain ⟨v, rfl, hv⟩ := h'
  refine ⟨u ++ v, by simp, fun e he => ?_⟩
  rcases List.mem_append.1 he with he | he
  · exact hu e he
  · exact hv e he

theorem Quiet.snoc {t : List Event} {e : Event} (h : e ≠ .spiStart ∧ e ≠ .spiStop) : Quiet t (t ++ [e]) :=
  ⟨[e], rfl, fun e' he' => by rw [List.mem_singleton.1 he']; exact h⟩

/-- A running bus, held or not, with this chip. -/
structure Bus.Is (b : Bus) (p : Chip × Bool) : Prop where
  chip : b.chip = p.1
  held : b.held = p.2
  started : b.started = true

def Runs {α : Type} (x : SpiM α) (p : Chip × Bool) (a : α) (p' : Chip × Bool) : Prop :=
  ∀ b : Bus, b.Is p → ∃ b', x b = .ok a b' ∧ b'.Is p' ∧ Quiet b.trace b'.trace

namespace Runs

variable {α β : Type} {p p' p'' : Chip × Bool} {a : α} {a' : β}

theorem pure (a : α) (p : Chip × Bool) : Runs (Pure.pure a) p a p :=
  fun b hb => ⟨b, rfl, hb, Quiet.refl _⟩

theorem bind {x : SpiM α} {f : α → SpiM β} (h : Runs x p a p') (h' : Runs (f a) p' a' p'') :
    Runs (x >>= f) p a' p'' := by
  intro b hb
  obtain ⟨b', e, hb', q⟩ := h b hb
  obtain ⟨b'', e', hb'', q'⟩ := h' b' hb'
  exact ⟨b'', by rw [bind_ok e, e'], hb'', q.trans q'⟩

end Runs

theorem Runs.get_bind {α : Type} {p p' : Chip × Bool} {f : Bus → SpiM α} {a : α}
    (h : ∀ b : Bus, b.Is p → Runs (f b) p a p') : Runs (get >>= f) p a p' := by
  intro b hb
  exact h b hb b hb

/-! ### Bus primitives -/

variable {c : Chip}

theorem spiAcquireBus_runs : Runs spiAcquireBus (c, false) () (c, true) := by
  rintro ⟨chip, started, held, trace⟩ ⟨hc, hh, hs⟩
  dsimp only at hc hh hs
  subst hc hh hs
  exact ⟨_, rfl, ⟨rfl, rfl, rfl⟩, Quiet.snoc (by simp)⟩

theorem spiReleaseBus_runs (h : Bool) : Runs spiReleaseBus (c, h) () (c, false) := by
  intro b hb
  exact ⟨_, rfl, ⟨hb.chip, rfl, hb.started⟩, Quiet.snoc (by simp)⟩

theorem spiSelect_runs (h : Bool) (hp : c.phase = .deselected) :
    Runs spiSelect (c, h) () ({ c with phase := .opcode }, h) := by
  intro b hb
  refine ⟨_, rfl, ⟨?_, hb.held, hb.started⟩, Quiet.snoc (by simp)⟩
  show (if b.chip.phase = .deselected then { b.chip with phase := .opcode } else b.chip) = _
  have hc : b.chip = c := hb.chip
  rw [hc, if_pos hp]

theorem spiUnselect_runs (h : Bool) : Runs spiUnselect (c, h) () (c.deselect, h) := by
  intro b hb
  refine ⟨_, rfl, ⟨?_, hb.held, hb.started⟩, Quiet.snoc (by simp)⟩
  exact congrArg Chip.deselect hb.chip

theorem spiExchange_runs (tx : List UInt8) (h : Bool) :
    Runs (spiExchange tx) (c, h) (c.exchangeAll tx).1 ((c.exchangeAll tx).2, h) := by
  rintro ⟨chip, started, held, trace⟩ ⟨hc, hh, hs⟩
  dsimp only at hc hh hs
  subst hc hh hs
  exact ⟨_, rfl, ⟨rfl, rfl, rfl⟩, Quiet.snoc (by simp)⟩

/-- Select, exchange, unselect, under the mutex. -/
theorem transact_runs {α : Type} {f : List UInt8 → SpiM α} {tx rx : List UInt8} {c' : Chip} {a : α}
    {p' : Chip × Bool} (hp : c.phase = .deselected)
    (hx : ({ c with phase := .opcode } : Chip).exchangeAll tx = (rx, c'))
    (hf : Runs (f rx) (c'.deselect, false) a p') :
    Runs (do spiAcquireBus; spiSelect; let r ← spiExchange tx; spiUnselect; spiReleaseBus; f r) (c, false) a p' := by
  refine spiAcquireBus_runs.bind ((spiSelect_runs true hp).bind ?_)
  have h := spiExchange_runs (c := { c with phase := .opcode }) tx true
  rw [hx] at h
  exact h.bind ((spiUnselect_runs true).bind ((spiReleaseBus_runs true).bind hf))

/-! ### What the chip makes of the bytes -/

namespace Chip

/-- The chip between commands, with write latch `w`. -/
def idle (m : Mem) (w : Bool) (l : List Cmd) (e : ChipEnv) : Chip := ⟨m, .deselected, w, 0, l, e⟩

/-- The chip inside a command. -/
def inside (ph : Phase) (m : Mem) (w : Bool) (l : List Cmd) (e : ChipEnv) : Chip := ⟨m, ph, w, 0, l, e⟩

end Chip

/-- 24-bit address of a byte. -/
def flashAddr (page : UInt16) (pageAddress : UInt8) : Nat := page.toNat * 256 + pageAddress.toNat

variable {m : Mem} {w : Bool} {l : List Cmd} {e : ChipEnv}

theorem addr24_command (page : UInt16) (pageAddress : UInt8) :
    Chip.addr24 ((page >>> 8) &&& 0xFF).toUInt8 (page &&& 0xFF).toUInt8 pageAddress = flashAddr page pageAddress := by
  have h := page.toNat_lt
  have e1 : (255 : UInt16).toNat = 2 ^ 8 - 1 := rfl
  have e2 : (8 : UInt16).toNat % 16 = 8 := rfl
  simp only [Chip.addr24, flashAddr, UInt16.toNat_toUInt8, UInt16.toNat_and, UInt16.toNat_shiftRight, e1, e2,
    Nat.and_two_pow_sub_one_eq_mod, Nat.shiftRight_eq_div_pow]
  omega

/-- The four bytes of an addressed command put the chip in the phase of its data. -/
theorem exchangeAll_command {op : UInt8} (hop : op = READ_DATA ∨ op = PAGE_PROGRAM ∨ op = SECTOR_ERASE ∨
    op = MANUFACTURER_ID) (page : UInt16) (pageAddress : UInt8) (tx : List UInt8) :
    (Chip.inside .opcode m w l e).exchangeAll (command op page pageAddress ++ tx) =
      (List.replicate 4 Chip.floating ++
        ((Chip.inside (Chip.addressed op (flashAddr page pageAddress)) m w l e).exchangeAll tx).1,
       ((Chip.inside (Chip.addressed op (flashAddr page pageAddress)) m w l e).exchangeAll tx).2) := by
  have hs : Chip.startCommand ⟨m, .opcode, w, 0, l, e⟩ op = .address op [] := by
    rcases hop with rfl | rfl | rfl | rfl <;> rfl
  rw [← addr24_command]
  simp only [command, List.cons_append, List.nil_append, Chip.exchangeAll, Chip.exchange, hs, Chip.inside,
    List.replicate]

theorem exchangeAll_programming (a : Nat) (d tx : List UInt8) :
    (Chip.inside (.programming a d) m w l e).exchangeAll tx =
      (List.replicate tx.length Chip.floating, Chip.inside (.programming a (d ++ tx)) m w l e) := by
  induction tx generalizing d with
  | nil => simp [Chip.exchangeAll]
  | cons v tx ih =>
    have h := ih (d ++ [v])
    simp only [List.append_assoc, List.singleton_append] at h
    simp only [Chip.inside] at h
    simp only [Chip.exchangeAll, Chip.exchange, Chip.inside, h, List.length_cons, List.replicate_succ]

theorem exchangeAll_reading (a n k : Nat) :
    (Chip.inside (.reading a n) m w l e).exchangeAll (List.replicate k 0) =
      ((List.range' n k).map fun i => m ((a + i) % w25q16.capacity), Chip.inside (.reading a (n + k)) m w l e) := by
  induction k generalizing n with
  | zero => rfl
  | succ k ih =>
    have h := ih (n + 1)
    simp only [Chip.inside] at h
    simp only [List.replicate_succ, Chip.exchangeAll, Chip.exchange, Chip.inside, h, List.range'_succ, List.map_cons,
      Nat.add_assoc, Nat.add_comm 1 k]

theorem deselect_programming {a : Nat} {d : List UInt8} (hd : d ≠ []) :
    (Chip.inside (.programming a d) m true l e).deselect =
      ⟨(Cmd.program a d).apply w25q16 m, .deselected, false, e.latency l.length, l ++ [.program a d], e⟩ := by
  cases d with
  | nil => exact absurd rfl hd
  | cons v d => rfl

/-! ### The busy wait -/

theorem statusByte_busy (m : Mem) (w : Bool) (k : Nat) (l : List Cmd) (e : ChipEnv) :
    (Chip.statusByte ⟨m, .status, w, k, l, e⟩) &&& 1 ≠ 0 ↔ 0 < k := by
  unfold Chip.statusByte
  rcases Nat.eq_zero_or_pos k with rfl | hk <;> cases w <;> simp [*] <;> decide

theorem pollStatus_runs {n : Nat} : ∀ {k : Nat}, k < n →
    Runs (pollStatus n) (⟨m, .status, w, k, l, e⟩, true) () (⟨m, .status, w, 0, l, e⟩, true) := by
  induction n with
  | zero => intro k hk; omega
  | succ n ih =>
    intro k hk
    unfold pollStatus
    refine (spiExchange_runs [0] true).bind ?_
    show Runs (if Chip.statusByte ⟨m, .status, w, k, l, e⟩ &&& 1 ≠ 0 then pollStatus n else pure ())
      (⟨m, .status, w, k - 1, l, e⟩, true) () _
    rcases Nat.eq_zero_or_pos k with rfl | hk0
    · rw [if_neg (by rw [statusByte_busy]; omega)]
      exact Runs.pure _ _
    · rw [if_pos ((statusByte_busy ..).2 hk0)]
      exact ih (by omega)

/-- After `notBusy` the chip is no longer busy; nothing else has changed. -/
theorem notBusy_runs (k : Nat) : Runs notBusy (⟨m, .deselected, w, k, l, e⟩, false) () (Chip.idle m w l e, false) := by
  refine spiAcquireBus_runs.bind ((spiSelect_runs true rfl).bind ((spiExchange_runs _ true).bind ?_))
  refine Runs.get_bind fun b hb => ?_
  have hk : b.chip.busy = k := by rw [hb.chip]; rfl
  rw [hk]
  exact (pollStatus_runs (Nat.lt_succ_self k)).bind ((spiUnselect_runs true).bind (spiReleaseBus_runs true))

theorem writeEnable_runs : Runs writeEnable (Chip.idle m w l e, false) () (Chip.idle m true l e, false) :=
  transact_runs rfl rfl (notBusy_runs 0)

theorem writeDisable_runs : Runs writeDisable (Chip.idle m w l e, false) () (Chip.idle m false l e, false) :=
  transact_runs rfl rfl (notBusy_runs 0)

theorem releasePowerDown_runs : Runs releasePowerDown (Chip.idle m w l e, false) () (Chip.idle m w l e, false) :=
  transact_runs rfl rfl (notBusy_runs 0)

/-! ### Commands on the flash -/

/-- Between commands, on contents `m`, the call returns `a` after the chip commands `log`. -/
def Does {α : Type} (x : SpiM α) (m : Mem) (a : α) (log : List Cmd) : Prop :=
  ∀ l e, Runs x (Chip.idle m false l e, false) a (Chip.idle (replay w25q16 log m) false (l ++ log) e, false)

namespace Does

variable {α β : Type}

theorem pure (a : α) (m : Mem) : Does (Pure.pure a) m a [] := by
  intro l e
  rw [List.append_nil]
  exact Runs.pure _ _

theorem bind {x : SpiM α} {f : α → SpiM β} {a : α} {a' : β} {log log' : List Cmd} (h : Does x m a log)
    (h' : Does (f a) (replay w25q16 log m) a' log') : Does (x >>= f) m a' (log ++ log') := by
  intro l e
  rw [NorFlash.replay_append, ← List.append_assoc]
  exact (h l e).bind (h' (l ++ log) e)

theorem map {x : SpiM α} {a : α} {log : List Cmd} (f : α → β) (h : Does x m a log) :
    Does (x >>= fun r => Pure.pure (f r)) m (f a) log := by
  have := h.bind (f := fun r => Pure.pure (f r)) (Does.pure (f a) _)
  rwa [List.append_nil] at this

end Does

variable (page : UInt16) (pageAddress : UInt8)

/-- A read transaction of `k` data bytes. -/
private theorem read_transact {α : Type} {f : List UInt8 → SpiM α} {r : α} {p' : Chip × Bool} (k : Nat)
    (hf : Runs (f (List.replicate 4 Chip.floating ++
        (List.range' 0 k).map fun i => m ((flashAddr page pageAddress + i) % w25q16.capacity)))
      (Chip.idle m false (l ++ [.read (flashAddr page pageAddress) k]) e, false) r p') :
    Runs (do
      spiAcquireBus; spiSelect
      let rx ← spiExchange (command READ_DATA page pageAddress ++ List.replicate k 0)
      spiUnselect; spiReleaseBus; f rx) (Chip.idle m false l e, false) r p' := by
  have hx := exchangeAll_command (m := m) (w := false) (l := l) (e := e) (.inl rfl) page pageAddress
    (List.replicate k 0)
  rw [show Chip.addressed READ_DATA (flashAddr page pageAddress) = .reading (flashAddr page pageAddress) 0 from rfl,
    exchangeAll_reading, Nat.zero_add] at hx
  exact transact_runs rfl hx hf

/-- A program transaction, once the latch is set. -/
private theorem program_transact {d : List UInt8} (hd : d ≠ []) (l : List Cmd) (e : ChipEnv) :
    Runs (do
      spiAcquireBus; spiSelect
      let _ ← spiExchange (command PAGE_PROGRAM page pageAddress ++ d)
      spiUnselect; spiReleaseBus; notBusy; writeDisable) (Chip.idle m true l e, false) ()
      (Chip.idle ((Cmd.program (flashAddr page pageAddress) d).apply w25q16 m) false
        (l ++ [.program (flashAddr page pageAddress) d]) e, false) := by
  have hx := exchangeAll_command (m := m) (w := true) (l := l) (e := e) (.inr (.inl rfl)) page pageAddress d
  rw [show Chip.addressed PAGE_PROGRAM (flashAddr page pageAddress) = .programming (flashAddr page pageAddress) []
    from rfl, exchangeAll_programming, List.nil_append] at hx
  refine transact_runs rfl hx ?_
  rw [deselect_programming hd]
  exact (notBusy_runs _).bind writeDisable_runs

theorem read_does : Does (read page pageAddress) m (m (flashAddr page pageAddress % w25q16.capacity))
    [.read (flashAddr page pageAddress) 1] := by
  intro l e
  refine read_transact page pageAddress 1 ((notBusy_runs 0).bind ?_)
  simp only [List.range'_succ, List.map_cons, Nat.add_zero]
  exact Runs.pure _ _

/-- The 16-bit value stored high byte first at an address. -/
def beU16 (m : Mem) (a : Nat) : UInt16 :=
  ((m (a % w25q16.capacity)).toUInt16 <<< 8) + (m ((a + 1) % w25q16.capacity)).toUInt16

theorem readU16_does : Does (readU16 page pageAddress) m (beU16 m (flashAddr page pageAddress))
    [.read (flashAddr page pageAddress) 2] := by
  intro l e
  refine read_transact page pageAddress 2 ((notBusy_runs 0).bind ?_)
  simp only [List.range'_succ, List.map_cons, Nat.add_zero, Nat.zero_add]
  exact Runs.pure _ _

/-- The 16-bit value stored low byte first at an address. -/
def leI16 (m : Mem) (a : Nat) : Int16 := i16DeBytes (m (a % w25q16.capacity)) (m ((a + 1) % w25q16.capacity))

theorem readI16_does : Does (readI16 page pageAddress) m (leI16 m (flashAddr page pageAddress))
    [.read (flashAddr page pageAddress) 2] := by
  intro l e
  refine read_transact page pageAddress 2 ((notBusy_runs 0).bind ?_)
  simp only [List.range'_succ, List.map_cons, Nat.add_zero, Nat.zero_add]
  exact Runs.pure _ _

theorem write_does (val : UInt8) : Does (write page pageAddress val) m ()
    [.program (flashAddr page pageAddress) [val]] := by
  intro l e
  exact writeEnable_runs.bind (program_transact page pageAddress (by simp) l e)

theorem writeU16_does (val : UInt16) : Does (writeU16 page pageAddress val) m ()
    [.program (flashAddr page pageAddress) [(val >>> 8).toUInt8, (val &&& 0xFF).toUInt8]] := by
  intro l e
  exact writeEnable_runs.bind (program_transact page pageAddress (by simp) l e)

theorem writeI16_does (val : Int16) : Does (writeI16 page pageAddress val) m ()
    [.program (flashAddr page pageAddress) (bytesI16 val)] := by
  intro l e
  exact writeEnable_runs.bind (program_transact page pageAddress (by simp [bytesI16]) l e)

theorem sectorErase_does : Does (sectorErase page) m () [.erase (flashAddr page 0)] := by
  intro l e
  refine writeEnable_runs.bind ?_
  have hx := exchangeAll_command (m := m) (w := true) (l := l) (e := e) (.inr (.inr (.inl rfl))) page 0 []
  rw [List.append_nil] at hx
  refine transact_runs rfl hx ?_
  exact (notBusy_runs _).bind writeDisable_runs

/-! ### Streams -/

theorem initStreamRead_runs : Runs (initStreamRead page pageAddress) (Chip.idle m false l e, false) ()
    (Chip.inside (.reading (flashAddr page pageAddress) 0) m false l e, true) := by
  refine spiAcquireBus_runs.bind ((spiSelect_runs true rfl).bind ?_)
  have hx := exchangeAll_command (m := m) (w := false) (l := l) (e := e) (.inl rfl) page pageAddress []
  rw [List.append_nil] at hx
  have h := spiExchange_runs (c := Chip.inside .opcode m false l e) (command READ_DATA page pageAddress) true
  rw [hx] at h
  exact h.bind (Runs.pure _ _)

theorem closeStreamRead_runs (a n : Nat) : Runs closeStreamRead (Chip.inside (.reading a n) m false l e, true) ()
    (Chip.idle m false (l ++ [.read a n]) e, false) :=
  (spiUnselect_runs true).bind ((spiReleaseBus_runs true).bind (notBusy_runs 0))

/-- Inside a page a stream read takes the next byte and counts the address up. -/
theorem streamRead_runs (a n : Nat) (h : pageAddress + 1 ≠ 0) :
    Runs (streamRead page pageAddress) (Chip.inside (.reading a n) m false l e, true)
      (m ((a + n) % w25q16.capacity), page, pageAddress + 1)
      (Chip.inside (.reading a (n + 1)) m false l e, true) := by
  refine (spiExchange_runs [0] true).bind ?_
  rw [if_neg h]
  exact Runs.pure _ _

theorem initStreamWrite_runs : Runs (initStreamWrite page pageAddress) (Chip.idle m false l e, false) ()
    (Chip.inside (.programming (flashAddr page pageAddress) []) m true l e, true) := by
  refine writeEnable_runs.bind (spiAcquireBus_runs.bind ((spiSelect_runs true rfl).bind ?_))
  have hx := exchangeAll_command (m := m) (w := true) (l := l) (e := e) (.inr (.inl rfl)) page pageAddress []
  rw [List.append_nil] at hx
  have h := spiExchange_runs (c := Chip.inside .opcode m true l e) (command PAGE_PROGRAM page pageAddress) true
  rw [hx] at h
  exact h.bind (Runs.pure _ _)

theorem streamWrite_runs (a : Nat) (d : List UInt8) (val : UInt8) (h : pageAddress + 1 ≠ 0) :
    Runs (streamWrite page pageAddress val) (Chip.inside (.programming a d) m true l e, true)
      (page, pageAddress + 1) (Chip.inside (.programming a (d ++ [val])) m true l e, true) := by
  refine (spiExchange_runs [val] true).bind ?_
  rw [if_neg h]
  exact Runs.pure _ _

theorem closeStreamWrite_runs (a : Nat) {d : List UInt8} (hd : d ≠ []) :
    Runs closeStreamWrite (Chip.inside (.programming a d) m true l e, true) ()
      (Chip.idle ((Cmd.program a d).apply w25q16 m) false (l ++ [.program a d]) e, false) := by
  refine (spiUnselect_runs true).bind ((spiReleaseBus_runs true).bind ?_)
  rw [deselect_programming hd]
  exact (notBusy_runs _).bind writeDisable_runs

/-! ### Between calls -/

/-- A running bus that nobody holds, with an idle chip. -/
structure Bus.Listo (b : Bus) : Prop where
  started : b.started = true
  held : b.held = false
  phase : b.chip.phase = .deselected
  wel : b.chip.wel = false
  busy : b.chip.busy = 0

theorem Bus.Listo.is {b : Bus} (h : b.Listo) : b.Is (Chip.idle b.chip.mem false b.chip.log b.chip.env, false) where
  chip := by
    obtain ⟨⟨m, ph, w, k, l, e⟩, st, he, tr⟩ := b
    obtain ⟨-, -, rfl, rfl, rfl⟩ := h
    rfl
  held := h.held
  started := h.started

theorem Bus.Is.listo {b : Bus} {m : Mem} {l : List Cmd} {e : ChipEnv} (h : b.Is (Chip.idle m false l e, false)) :
    b.Listo where
  started := h.started
  held := h.held
  phase := by rw [h.chip]; rfl
  wel := by rw [h.chip]; rfl
  busy := by rw [h.chip]; rfl

theorem Does.ejecuta {α : Type} {x : SpiM α} {a : α} {log : List Cmd} {b : Bus} (h : Does x b.chip.mem a log)
    (hb : b.Listo) : ∃ b', x b = .ok a b' ∧ b'.Listo ∧ b'.chip.mem = replay w25q16 log b.chip.mem := by
  obtain ⟨b', e, hb', -⟩ := h _ _ b hb.is
  exact ⟨b', e, hb'.listo, by rw [hb'.chip]; rfl⟩

/-! ### Starting and stopping -/

/-- The two bytes of a 16-bit value, high byte first. -/
theorem u16_of_bytes (v : UInt16) : ((v >>> 8).toUInt8.toUInt16 <<< 8) + v.toUInt8.toUInt16 = v := by
  have e2 : (8 : UInt16).toNat % 16 = 8 := rfl
  have hlt := v.toNat_lt
  apply UInt16.toNat_inj.1
  simp only [UInt16.toNat_add, UInt16.toNat_shiftLeft, UInt8.toNat_toUInt16, UInt16.toNat_toUInt8,
    UInt16.toNat_shiftRight, e2, Nat.shiftRight_eq_div_pow, Nat.shiftLeft_eq]
  omega

theorem low_byte (v : UInt16) : (v &&& 0xFF).toUInt8 = v.toUInt8 := by
  apply UInt8.toNat_inj.1
  simp only [UInt16.toNat_toUInt8, UInt16.toNat_and, show (255 : UInt16).toNat = 2 ^ 8 - 1 from rfl,
    Nat.and_two_pow_sub_one_eq_mod, Nat.mod_mod]

/-- A chip of this manufacturer answers request `i` of its identification. -/
def ChipEnv.Responde (e : ChipEnv) (i : Nat) : Prop := e.idAnswers i &&& 0xFF00 = 0xEF00

instance (e : ChipEnv) (i : Nat) : Decidable (e.Responde i) := inferInstanceAs (Decidable (_ = _))

/-- It answers the next one. -/
abbrev ChipEnv.HayFlash (e : ChipEnv) : Prop := e.Responde 0

/-- The result of the next `W25Q16.start`. -/
def ChipEnv.idManuf (e : ChipEnv) : UInt16 := if e.HayFlash then e.idAnswers 0 else 0

theorem ChipEnv.idManuf_ne_zero (e : ChipEnv) : e.idManuf ≠ 0 ↔ e.HayFlash := by
  unfold idManuf
  by_cases h : e.HayFlash
  · rw [if_pos h]
    refine iff_of_true (fun h0 => ?_) h
    have h' : e.idAnswers 0 &&& 0xFF00 = 0xEF00 := h
    rw [h0] at h'
    exact absurd h' (by decide)
  · rw [if_neg h]
    exact iff_of_false (fun h0 => h0 rfl) h

/-- Nobody holds the bus and no command is under way; the driver may be stopped. -/
structure Bus.Libre (b : Bus) : Prop where
  held : b.held = false
  phase : b.chip.phase = .deselected

theorem manufacturerID_runs : Runs manufacturerID (Chip.idle m w l e, false) (e.idAnswers 0)
    (Chip.idle m w l e.nextId, false) := by
  have hx := exchangeAll_command (m := m) (w := w) (l := l) (e := e) (.inr (.inr (.inr rfl))) 0 0 [0, 0]
  refine transact_runs rfl hx ((notBusy_runs 0).bind ?_)
  have hv := u16_of_bytes (e.idAnswers 0)
  exact hv ▸ Runs.pure _ _

/-- `start` on any free bus: it gives the identification and leaves a running bus and an idle chip. -/
theorem start_ok {b : Bus} (hb : b.Libre) :
    ∃ b', start b = .ok b.chip.env.idManuf b' ∧
      b'.Is (Chip.idle b.chip.mem false b.chip.log b.chip.env.nextId, false) ∧
      Quiet (b.trace ++ [.spiStart]) b'.trace := by
  obtain ⟨⟨m, ph, w, k, l, e⟩, st, he, tr⟩ := b
  obtain ⟨hheld, hphase⟩ := hb
  dsimp only at hheld hphase
  subst hheld hphase
  have hrel : Runs releasePowerDown (⟨m, .deselected, w, k, l, e⟩, false) () (Chip.idle m w l e, false) := by
    rcases Nat.eq_zero_or_pos k with rfl | hk
    · exact releasePowerDown_runs
    · have hs : Chip.startCommand ⟨m, .opcode, w, k, l, e⟩ RELEASE_POWER_DOWN = .ignored :=
        (if_neg (by decide)).trans (if_pos hk)
      have hx : ({ (⟨m, .deselected, w, k, l, e⟩ : Chip) with phase := .opcode }).exchangeAll [RELEASE_POWER_DOWN] =
          ([Chip.floating], ⟨m, .ignored, w, k, l, e⟩) := by
        simp only [Chip.exchangeAll, Chip.exchange, hs]
      exact transact_runs rfl hx (notBusy_runs k)
  have hfin : Runs (if e.idAnswers 0 &&& 0xFF00 ≠ 0xEF00 then return 0 else return e.idAnswers 0 : SpiM UInt16)
      (Chip.idle m false l e.nextId, false) e.idManuf (Chip.idle m false l e.nextId, false) := by
    unfold ChipEnv.idManuf
    by_cases h : e.HayFlash
    · rw [if_pos h, if_neg (fun h' => h' h)]
      exact Runs.pure _ _
    · have h' : e.idAnswers 0 &&& 0xFF00 ≠ 0xEF00 := h
      rw [if_neg h, if_pos h']
      exact Runs.pure _ _
  have hall : Runs (do
      releasePowerDown
      let idManuf ← manufacturerID
      writeDisable
      if idManuf &&& 0xFF00 ≠ 0xEF00 then return 0 else return idManuf : SpiM UInt16)
      (⟨m, .deselected, w, k, l, e⟩, false) e.idManuf (Chip.idle m false l e.nextId, false) :=
    hrel.bind (manufacturerID_runs.bind (writeDisable_runs.bind hfin))
  obtain ⟨b', e', hb', hq⟩ := hall ⟨⟨m, .deselected, w, k, l, e⟩, true, false, tr ++ [.spiStart]⟩ ⟨rfl, rfl, rfl⟩
  refine ⟨b', ?_, hb', hq⟩
  unfold start
  rw [bind_ok (show spiStart _ = .ok () _ from rfl)]
  exact e'

end Wiznet
