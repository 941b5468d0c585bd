import Wiznet.Flash.DriverSpec
import Wiznet.Library.Monitor
import Mathlib.Tactic.Choose

/-!
# The protocol of the flash bus

`Vigia` watches the events of the bus.  It lets the bus be acquired while it is free and released while it is held and
the chip is not selected, bytes be exchanged while it is held and the chip is selected, a program or an erase start with
the permission of a write-enable that no other program, erase or write-disable has come after, and any command but a
status read start only when the last program or erase has been waited for.

The chip goes along with it (`Acorde`): while the bus keeps the rules, the write latch is on only if the last command
on it was a write-enable, and the chip is busy only if the last program or erase has not been waited for.
-/

namespace Wiznet

open Monitor
open W25Q16

/-! ### The rules -/

/-- Where the chip is between a select and an unselect: no byte yet, a status read that has seen the chip free or not,
or a command by its first byte. -/
inductive Curso where
  | fuera
  | elegido
  | estado (libre : Bool)
  | orden (op : UInt8)
  deriving DecidableEq

/-- `permiso`: a write-enable that no program, erase or write-disable has come after.  `pendiente`: a program or erase
that has not been waited for.  `cerrojo`: a write-enable that no write-disable has come after. -/
structure Vigia where
  tomado : Bool
  curso : Curso
  permiso : Bool
  pendiente : Bool
  cerrojo : Bool
  deriving DecidableEq

namespace Vigia

/-- Whether the command may start.  A write-disable is one byte long. -/
def admite (v : Vigia) (op : UInt8) (resto : List UInt8) : Bool :=
  !v.pendiente && (v.permiso || (op != PAGE_PROGRAM && op != SECTOR_ERASE)) && (op != WRITE_DISABLE || resto.isEmpty)

def intercambia (v : Vigia) (tx rx : List UInt8) : Option Vigia :=
  match v.curso, tx with
  | .fuera, _ => none
  | .elegido, [] => some v
  | .elegido, op :: resto =>
    if op = READ_STATUS_REGISTER_1 then some { v with curso := .estado false }
    else if v.admite op resto then some { v with curso := .orden op }
    else none
  | .estado _, tx => some { v with curso := .estado (tx.length == 1 && rx.getD 0 0 &&& 1 == 0) }
  | .orden op, _ => if op = WRITE_DISABLE then none else some v

/-- A status read that ends with the chip free is the wait for what was pending. -/
def deselecciona (v : Vigia) : Option Vigia :=
  match v.curso with
  | .fuera => none
  | .elegido => some { v with curso := .fuera }
  | .estado libre => some { v with curso := .fuera, pendiente := v.pendiente && !libre }
  | .orden op =>
    if op = WRITE_ENABLE then some { v with curso := .fuera, permiso := true, cerrojo := true }
    else if op = WRITE_DISABLE then some { v with curso := .fuera, permiso := false, cerrojo := false }
    else if op = PAGE_PROGRAM ∨ op = SECTOR_ERASE then
      some { v with curso := .fuera, permiso := false, pendiente := true }
    else some { v with curso := .fuera }

def paso (v : Vigia) : Event → Option Vigia
  | .spiStart => none
  | .spiStop => none
  | .spiAcquireBus => if v.tomado then none else some { v with tomado := true }
  | .spiReleaseBus => if v.tomado ∧ v.curso = .fuera then some { v with tomado := false } else none
  | .spiSelect => if v.tomado ∧ v.curso = .fuera then some { v with curso := .elegido } else none
  | .spiUnselect => v.deselecciona
  | .spiExchange tx rx => if v.tomado then v.intercambia tx rx else none

/-- Free bus, nothing under way or pending, latch off. -/
def reposo : Vigia := ⟨false, .fuera, false, false, false⟩

/-- After a write-enable. -/
def armado : Vigia := ⟨false, .fuera, true, false, true⟩

/-- Inside a read. -/
def leyendo : Vigia := ⟨true, .orden READ_DATA, false, false, false⟩

/-- Inside a program. -/
def escribiendo : Vigia := ⟨true, .orden PAGE_PROGRAM, true, false, true⟩

end Vigia

/-- Events that keep the rules from a bus at rest and leave it at rest. -/
def BienFormada (es : List Event) : Prop := run Vigia.paso .reposo es = some .reposo

instance (es : List Event) : Decidable (BienFormada es) :=
  inferInstanceAs (Decidable (run Vigia.paso .reposo es = some .reposo))

example : ¬ BienFormada [.spiAcquireBus, .spiAcquireBus] := by decide

/-- A program without a write-enable. -/
example : ¬ BienFormada [.spiAcquireBus, .spiSelect, .spiExchange [PAGE_PROGRAM, 0, 0, 0, 7] [], .spiUnselect,
    .spiReleaseBus] := by decide

/-! ### The chip goes along -/

/-- The chip inside a command that started with this byte. -/
def Phase.De (op : UInt8) : Phase → Prop
  | .address o _ => o = op ∧ op ≠ WRITE_DISABLE
  | .programming _ _ => op = PAGE_PROGRAM
  | .erasing _ => op = SECTOR_ERASE
  | .enabling => op = WRITE_ENABLE
  | .disabling => op = WRITE_DISABLE
  | .reading _ _ => op ≠ WRITE_DISABLE
  | .ident _ => op ≠ WRITE_DISABLE
  | .ignored => op ≠ WRITE_DISABLE
  | .deselected => False
  | .opcode => False
  | .status => False

theorem Phase.De.no_escribe {op : UInt8} {ph : Phase} (h : ph.De op) (hp : op ≠ PAGE_PROGRAM) (he : op ≠ SECTOR_ERASE) :
    (∀ a d, ph ≠ .programming a d) ∧ ∀ a, ph ≠ .erasing a := by
  refine ⟨?_, ?_⟩
  · rintro a d rfl
    exact hp h
  · rintro a rfl
    exact he h

theorem Phase.De.disabling {ph : Phase} (h : ph.De WRITE_DISABLE) : ph = .disabling := by
  cases ph with
  | disabling => rfl
  | address o got => exact absurd rfl h.2
  | programming a d => exact absurd (show WRITE_DISABLE = PAGE_PROGRAM from h) (by decide)
  | erasing a => exact absurd (show WRITE_DISABLE = SECTOR_ERASE from h) (by decide)
  | enabling => exact absurd (show WRITE_DISABLE = WRITE_ENABLE from h) (by decide)
  | reading a n => exact absurd rfl h
  | ident n => exact absurd rfl h
  | ignored => exact absurd rfl h
  | deselected => exact h.elim
  | opcode => exact h.elim
  | status => exact h.elim

def Curso.De (c : Chip) : Curso → Prop
  | .fuera => c.phase = .deselected
  | .elegido => c.phase = .opcode
  | .estado libre => c.phase = .status ∧ (libre = true → c.busy = 0)
  | .orden op => c.phase.De op

structure Acorde (b : Bus) (v : Vigia) : Prop where
  held : b.held = v.tomado
  curso : v.curso.De b.chip
  wel : b.chip.wel = true → v.cerrojo = true
  busy : v.pendiente = false → b.chip.busy = 0

namespace Chip

variable (c : Chip)

theorem exchange_wel (tx : UInt8) : (c.exchange tx).2.wel = c.wel := by
  unfold exchange
  split <;> rfl

theorem exchange_busy (tx : UInt8) : (c.exchange tx).2.busy ≤ c.busy := by
  unfold exchange
  split <;> simp

/-- A write-disable apart, more bytes leave the chip inside the same command. -/
theorem exchange_de {op : UInt8} (h : c.phase.De op) (hop : op ≠ WRITE_DISABLE) (tx : UInt8) :
    (c.exchange tx).2.phase.De op := by
  unfold exchange
  split
  case h_2 o b2 b1 hp =>
    rw [hp] at h
    obtain ⟨rfl, -⟩ := h
    unfold addressed
    split
    · exact hop
    split
    · assumption
    split
    · assumption
    · exact hop
  all_goals simp_all [Phase.De]

theorem exchangeAll_wel (txs : List UInt8) : (c.exchangeAll txs).2.wel = c.wel := by
  induction txs generalizing c with
  | nil => rfl
  | cons tx txs ih => exact (ih _).trans (c.exchange_wel tx)

theorem exchangeAll_busy (txs : List UInt8) : (c.exchangeAll txs).2.busy ≤ c.busy := by
  induction txs generalizing c with
  | nil => exact Nat.le_refl _
  | cons tx txs ih => exact Nat.le_trans (ih _) (c.exchange_busy tx)

theorem exchangeAll_de {op : UInt8} (h : c.phase.De op) (hop : op ≠ WRITE_DISABLE) (txs : List UInt8) :
    (c.exchangeAll txs).2.phase.De op := by
  induction txs generalizing c with
  | nil => exact h
  | cons tx txs ih => exact ih _ (c.exchange_de h hop tx)

theorem exchangeAll_status (h : c.phase = .status) (txs : List UInt8) : (c.exchangeAll txs).2.phase = .status := by
  induction txs generalizing c with
  | nil => exact h
  | cons tx txs ih => exact ih _ (by simp only [h])

/-- The first byte of a command other than a status read, on a chip that is not busy. -/
theorem startCommand_de (hb : c.busy = 0) {op : UInt8} (hop : op ≠ READ_STATUS_REGISTER_1) :
    (c.startCommand op).De op := by
  unfold startCommand
  rw [if_neg hop, if_neg (by omega)]
  split
  · assumption
  split
  · assumption
  split
  · refine ⟨rfl, ?_⟩
    assumption
  · assumption

theorem busy_of_statusByte (h : c.statusByte &&& 1 = 0) : c.busy = 0 :=
  Nat.eq_zero_of_not_pos fun hpos => (statusByte_busy c.mem c.wel c.busy c.log c.env).2 hpos h

theorem deselect_phase : c.deselect.phase = .deselected := by
  unfold deselect execute
  split
  all_goals first | rfl | (split <;> rfl)

/-- Only a write-enable sets the latch, and a write-disable clears it. -/
theorem deselect_wel (h : c.deselect.wel = true) : c.phase = .enabling ∨ c.wel = true ∧ c.phase ≠ .disabling := by
  unfold deselect execute at h
  split at h
  all_goals try split at h
  all_goals simp_all

/-- Only a program or an erase makes the chip busy. -/
theorem deselect_busy (hp : ∀ a d, c.phase ≠ .programming a d) (he : ∀ a, c.phase ≠ .erasing a) :
    c.deselect.busy = c.busy := by
  unfold deselect
  split
  case h_2 a d h => exact absurd h (hp a d)
  case h_3 a h => exact absurd h (he a)
  all_goals rfl

end Chip

/-! ### Bus calls -/

/-- The call takes the monitor from `v` to `v'` whenever it returns. -/
abbrev Sigue {α : Type} (v : Vigia) (x : SpiM α) (v' : Vigia) : Prop :=
  Follows Vigia.paso Bus.trace Acorde v x fun _ => v'

variable {v v' : Vigia}

theorem spiAcquireBus_sigue (h : v.paso .spiAcquireBus = some v') : Sigue v spiAcquireBus v' := by
  refine follows_event (e := fun _ => .spiAcquireBus) fun b a b' hb hx => ?_
  obtain ⟨chip, started, held, trace⟩ := b
  obtain ⟨htom, hpaso⟩ : v.tomado = false ∧ { v with tomado := true } = v' := by simpa [Vigia.paso] using h
  obtain rfl : held = false := hb.held.trans htom
  cases hx
  subst hpaso
  exact ⟨rfl, h, rfl, hb.curso, hb.wel, hb.busy⟩

theorem spiReleaseBus_sigue (h : v.paso .spiReleaseBus = some v') : Sigue v spiReleaseBus v' := by
  refine follows_event (e := fun _ => .spiReleaseBus) fun b a b' hb hx => ?_
  obtain ⟨-, hpaso⟩ : (v.tomado = true ∧ v.curso = .fuera) ∧ { v with tomado := false } = v' := by
    simpa [Vigia.paso] using h
  cases hx
  subst hpaso
  exact ⟨rfl, h, rfl, hb.curso, hb.wel, hb.busy⟩

theorem spiSelect_sigue (h : v.paso .spiSelect = some v') : Sigue v spiSelect v' := by
  refine follows_event (e := fun _ => .spiSelect) fun b a b' hb hx => ?_
  obtain ⟨⟨htom, hfuera⟩, hpaso⟩ : (v.tomado = true ∧ v.curso = .fuera) ∧ { v with curso := .elegido } = v' := by
    simpa [Vigia.paso] using h
  have hp : b.chip.phase = .deselected := by
    have := hb.curso
    rwa [hfuera] at this
  cases hx
  subst hpaso
  refine ⟨rfl, h, hb.held, ?_, ?_, ?_⟩
  · simp [Curso.De, hp]
  · simpa [hp] using hb.wel
  · simpa [hp] using hb.busy

/-- Deselecting the chip. -/
theorem Acorde.deselect {b : Bus} (hb : Acorde b v) (h : v.deselecciona = some v') :
    Acorde { b.record .spiUnselect with chip := b.chip.deselect } v' := by
  obtain ⟨held, curso, wel, busy⟩ := hb
  unfold Vigia.deselecciona at h
  have hwel := b.chip.deselect_wel
  cases hc : v.curso with
  | fuera => simp [hc] at h
  | elegido =>
    have hp : b.chip.phase = .opcode := by rwa [hc] at curso
    obtain rfl : { v with curso := .fuera } = v' := by simpa [hc] using h
    refine ⟨held, b.chip.deselect_phase, fun hw => ?_, fun hq => ?_⟩
    · exact wel (by simpa [hp] using hwel hw)
    · exact (b.chip.deselect_busy (by simp [hp]) (by simp [hp])).trans (busy hq)
  | estado libre =>
    obtain ⟨hp, hlibre⟩ : b.chip.phase = .status ∧ (libre = true → b.chip.busy = 0) := by rwa [hc] at curso
    obtain rfl : { v with curso := .fuera, pendiente := v.pendiente && !libre } = v' := by simpa [hc] using h
    refine ⟨held, b.chip.deselect_phase, fun hw => ?_, fun hq => ?_⟩
    · exact wel (by simpa [hp] using hwel hw)
    · refine (b.chip.deselect_busy (by simp [hp]) (by simp [hp])).trans ?_
      cases libre with
      | true => exact hlibre rfl
      | false => exact busy (by simpa using hq)
  | orden op =>
    have hde : b.chip.phase.De op := by rwa [hc] at curso
    simp only [hc] at h
    have hbusy : op ≠ PAGE_PROGRAM → op ≠ SECTOR_ERASE → b.chip.deselect.busy = b.chip.busy := fun hpp hse =>
      b.chip.deselect_busy (hde.no_escribe hpp hse).1 (hde.no_escribe hpp hse).2
    rcases ite_eq_iff.1 h with ⟨rfl, h⟩ | ⟨hwe, h⟩
    · cases h
      exact ⟨held, b.chip.deselect_phase, fun _ => rfl, fun hq => (hbusy (by decide) (by decide)).trans (busy hq)⟩
    -- from here on the latch is on only if it was
    have hlatch : b.chip.deselect.wel = true → v.cerrojo = true ∧ b.chip.phase ≠ .disabling := by
      intro hw
      rcases hwel hw with hp | ⟨hw, hp⟩
      · rw [hp] at hde
        exact absurd hde hwe
      · exact ⟨wel hw, hp⟩
    rcases ite_eq_iff.1 h with ⟨rfl, h⟩ | ⟨hwd, h⟩
    · cases h
      refine ⟨held, b.chip.deselect_phase, fun hw => absurd hde.disabling (hlatch hw).2, fun hq => ?_⟩
      exact (hbusy (by decide) (by decide)).trans (busy hq)
    rcases ite_eq_iff.1 h with ⟨hop, h⟩ | ⟨hop, h⟩
    · cases h
      exact ⟨held, b.chip.deselect_phase, fun hw => (hlatch hw).1, fun hq => by simp at hq⟩
    · cases h
      simp only [not_or] at hop
      exact ⟨held, b.chip.deselect_phase, fun hw => (hlatch hw).1, fun hq => (hbusy hop.1 hop.2).trans (busy hq)⟩

theorem spiUnselect_sigue (h : v.paso .spiUnselect = some v') : Sigue v spiUnselect v' := by
  refine follows_event (e := fun _ => .spiUnselect) fun b a b' hb hx => ?_
  cases hx
  exact ⟨rfl, h, hb.deselect h⟩

theorem spiExchange_ok {tx rx : List UInt8} {b b' : Bus} (h : spiExchange tx b = .ok rx b') :
    b.chip.exchangeAll tx = (rx, b'.chip) ∧ b' = { b.record (.spiExchange tx rx) with chip := b'.chip } := by
  obtain ⟨chip, started, held, trace⟩ := b
  cases started
  · cases h
  · cases h
    exact ⟨rfl, rfl⟩

theorem Acorde.exchange {b : Bus} {tx rx : List UInt8} {c : Chip} (hb : Acorde b v)
    (h : v.paso (.spiExchange tx rx) = some v') (hx : b.chip.exchangeAll tx = (rx, c)) :
    Acorde { b.record (.spiExchange tx rx) with chip := c } v' := by
  obtain ⟨held, curso, wel, busy⟩ := hb
  have hrx : (b.chip.exchangeAll tx).1 = rx := by rw [hx]
  have hc : (b.chip.exchangeAll tx).2 = c := by rw [hx]
  have hwel : c.wel = b.chip.wel := hc ▸ b.chip.exchangeAll_wel tx
  have hbusy : c.busy ≤ b.chip.busy := hc ▸ b.chip.exchangeAll_busy tx
  have hacorde : ∀ curso : Curso, curso.De c →
      Acorde { b.record (.spiExchange tx rx) with chip := c } { v with curso := curso } := fun _ h =>
    ⟨held, h, fun hw => wel (hwel ▸ hw), fun hq => Nat.le_zero.mp (busy hq ▸ hbusy)⟩
  obtain ⟨-, h⟩ : v.tomado = true ∧ v.intercambia tx rx = some v' := by simpa [Vigia.paso] using h
  unfold Vigia.intercambia at h
  cases hcu : v.curso with
  | fuera => simp [hcu] at h
  | elegido =>
    have hp : b.chip.phase = .opcode := by rwa [hcu] at curso
    cases tx with
    | nil =>
      obtain rfl : v = v' := by simpa [hcu] using h
      cases hx
      exact ⟨held, curso, wel, busy⟩
    | cons op resto =>
      have hfirst : (b.chip.exchange op).2 = { b.chip with phase := b.chip.startCommand op } := by
        unfold Chip.exchange
        rw [hp]
      replace hc : (Chip.exchangeAll { b.chip with phase := b.chip.startCommand op } resto).2 = c := hfirst ▸ hc
      simp only [hcu] at h
      rcases ite_eq_iff.1 h with ⟨rfl, h⟩ | ⟨hop, h⟩
      · cases h
        refine hacorde _ ⟨?_, by simp⟩
        rw [← hc]
        exact Chip.exchangeAll_status _ rfl resto
      rcases ite_eq_iff.1 h with ⟨hadmite, h⟩ | ⟨-, h⟩
      · cases h
        obtain ⟨⟨hpend, -⟩, hresto⟩ : (v.pendiente = false ∧ _) ∧ (op ≠ WRITE_DISABLE ∨ resto = []) := by
          simpa [Vigia.admite] using hadmite
        have hde : (b.chip.startCommand op).De op := b.chip.startCommand_de (busy hpend) hop
        refine hacorde _ ?_
        rw [← hc]
        rcases hresto with hwd | rfl
        · exact Chip.exchangeAll_de _ hde hwd resto
        · exact hde
      · cases h
  | estado libre =>
    obtain ⟨hp, -⟩ : b.chip.phase = .status ∧ (libre = true → b.chip.busy = 0) := by rwa [hcu] at curso
    simp only [hcu, Option.some.injEq] at h
    subst h
    refine hacorde _ ⟨?_, fun hlibre => ?_⟩
    · rw [← hc]
      exact b.chip.exchangeAll_status hp tx
    · -- the byte received is the status from before it
      obtain ⟨hlen, hbit⟩ : tx.length = 1 ∧ rx.getD 0 0 &&& 1 = 0 := by simpa using hlibre
      obtain ⟨x, rfl⟩ := List.length_eq_one_iff.mp hlen
      have hst : rx.getD 0 0 = b.chip.statusByte := by
        rw [← hrx]
        simp [Chip.exchangeAll, Chip.exchange, hp]
      have hlibre : b.chip.busy = 0 := b.chip.busy_of_statusByte (hst ▸ hbit)
      omega
  | orden op =>
    have hde : b.chip.phase.De op := by rwa [hcu] at curso
    simp only [hcu] at h
    rcases ite_eq_iff.1 h with ⟨-, h⟩ | ⟨hwd, h⟩
    · cases h
    · obtain rfl : v = v' := by simpa using h
      have := hacorde (.orden op) (hc ▸ b.chip.exchangeAll_de hde hwd tx)
      rwa [← hcu] at this

theorem spiExchange_sigue {tx : List UInt8} {t : List UInt8 → Vigia}
    (h : ∀ rx, v.paso (.spiExchange tx rx) = some (t rx)) :
      Follows Vigia.paso Bus.trace Acorde v (spiExchange tx) t := by
  refine follows_event (e := fun rx => .spiExchange tx rx) fun b rx b' hb hx => ?_
  obtain ⟨hchip, hb'⟩ := spiExchange_ok hx
  rw [hb']
  exact ⟨rfl, h rx, hb.exchange (h rx) hchip⟩

/-! ### Driver calls -/

variable {p q c : Bool}

/-- Select, exchange, unselect, under the mutex. -/
theorem transaccion_sigue {α : Type} {tx : List UInt8} {f : List UInt8 → SpiM α} {v₁ v₂ v₃ : Vigia}
    (h₀ : v.paso .spiAcquireBus = some v₁) (h₁ : v₁.paso .spiSelect = some v₂)
    (h₂ : ∀ rx, run Vigia.paso v₂ [.spiExchange tx rx, .spiUnselect, .spiReleaseBus] = some v₃)
    (hf : ∀ rx, Sigue v₃ (f rx) v') :
    Sigue v (do spiAcquireBus; spiSelect; let rx ← spiExchange tx; spiUnselect; spiReleaseBus; f rx) v' := by
  refine (spiAcquireBus_sigue h₀).bind fun _ => (spiSelect_sigue h₁).bind fun _ => ?_
  have hpaso : ∀ rx, ∃ w, v₂.paso (.spiExchange tx rx) = some w ∧ ∃ w', w.paso .spiUnselect = some w' ∧
      w'.paso .spiReleaseBus = some v₃ := by
    intro rx
    obtain ⟨w, hw, h⟩ := run_cons (h₂ rx)
    obtain ⟨w', hw', h⟩ := run_cons h
    exact ⟨w, hw, w', hw', by rwa [run_singleton] at h⟩
  choose w hw w' hw' hw'' using hpaso
  refine (spiExchange_sigue hw).bind fun rx => (spiUnselect_sigue (hw' rx)).bind fun _ => ?_
  exact (spiReleaseBus_sigue (hw'' rx)).bind fun _ => hf rx

/-- The loop ends when it sees the chip free. -/
theorem pollStatus_sigue (n : Nat) : ∀ libre : Bool,
    Sigue ⟨true, .estado libre, p, q, c⟩ (pollStatus n) ⟨true, .estado true, p, q, c⟩ := by
  induction n with
  | zero => exact fun _ => follows_throw _
  | succ n ih =>
    intro libre
    refine (spiExchange_sigue (t := fun rx => ⟨true, .estado (rx.getD 0 0 &&& 1 == 0), p, q, c⟩) fun rx => ?_).bind
      fun rx => follows_ite (fun _ => ih _) fun hbit => follows_pure ?_
    · simp [Vigia.paso, Vigia.intercambia]
    · simpa using hbit

theorem notBusy_sigue : Sigue ⟨false, .fuera, p, q, c⟩ notBusy ⟨false, .fuera, p, false, c⟩ := by
  have hcierra : Vigia.paso ⟨true, .estado true, p, q, c⟩ .spiUnselect = some ⟨true, .fuera, p, false, c⟩ := by
    simp [Vigia.paso, Vigia.deselecciona]
  refine (spiAcquireBus_sigue rfl).bind fun _ => (spiSelect_sigue rfl).bind fun _ => ?_
  refine (spiExchange_sigue (t := fun _ => ⟨true, .estado false, p, q, c⟩) fun _ => rfl).bind fun _ => ?_
  refine follows_get_bind fun b => (pollStatus_sigue _ false).bind fun _ => ?_
  exact (spiUnselect_sigue hcierra).bind fun _ => spiReleaseBus_sigue rfl

theorem writeEnable_sigue : Sigue .reposo writeEnable .armado :=
  transaccion_sigue rfl rfl (fun _ => rfl) fun _ => notBusy_sigue

theorem writeDisable_sigue : Sigue ⟨false, .fuera, p, false, c⟩ writeDisable .reposo := by
  have hapaga : ∀ rx, run Vigia.paso ⟨true, .elegido, p, false, c⟩
      [.spiExchange [WRITE_DISABLE] rx, .spiUnselect, .spiReleaseBus] = some .reposo := by
    intro rx
    cases p <;> rfl
  exact transaccion_sigue rfl rfl hapaga fun _ => notBusy_sigue

/-- After a program or an erase. -/
private theorem espera_sigue : Sigue ⟨false, .fuera, false, true, true⟩ (do notBusy; writeDisable) .reposo :=
  notBusy_sigue.bind fun _ => writeDisable_sigue

variable (page : UInt16) (pageAddress : UInt8)

theorem read_sigue : Sigue .reposo (read page pageAddress) .reposo :=
  transaccion_sigue rfl rfl (fun _ => rfl) fun _ => notBusy_sigue.bind fun _ => follows_pure rfl

theorem readU16_sigue : Sigue .reposo (readU16 page pageAddress) .reposo :=
  transaccion_sigue rfl rfl (fun _ => rfl) fun _ => notBusy_sigue.bind fun _ => follows_pure rfl

theorem write_sigue (val : UInt8) : Sigue .reposo (write page pageAddress val) .reposo :=
  writeEnable_sigue.bind fun _ => transaccion_sigue rfl rfl (fun _ => rfl) fun _ => espera_sigue

theorem writeU16_sigue (val : UInt16) : Sigue .reposo (writeU16 page pageAddress val) .reposo :=
  writeEnable_sigue.bind fun _ => transaccion_sigue rfl rfl (fun _ => rfl) fun _ => espera_sigue

theorem sectorErase_sigue : Sigue .reposo (sectorErase page) .reposo :=
  writeEnable_sigue.bind fun _ => transaccion_sigue rfl rfl (fun _ => rfl) fun _ => espera_sigue

theorem initStreamRead_sigue : Sigue .reposo (initStreamRead page pageAddress) .leyendo := by
  refine (spiAcquireBus_sigue rfl).bind fun _ => (spiSelect_sigue rfl).bind fun _ => ?_
  exact (spiExchange_sigue (t := fun _ => .leyendo) fun _ => rfl).bind fun _ => follows_pure rfl

theorem closeStreamRead_sigue : Sigue .leyendo closeStreamRead .reposo :=
  (spiUnselect_sigue rfl).bind fun _ => (spiReleaseBus_sigue rfl).bind fun _ => notBusy_sigue

/-- At a page end the stream is closed and opened again. -/
theorem streamRead_sigue : Sigue .leyendo (streamRead page pageAddress) .leyendo := by
  refine (spiExchange_sigue (t := fun _ => .leyendo) fun _ => rfl).bind fun _ => follows_ite (fun _ => ?_) fun _ => ?_
  · exact closeStreamRead_sigue.bind fun _ => (initStreamRead_sigue _ _).bind fun _ => follows_pure rfl
  · exact follows_pure rfl

theorem initStreamWrite_sigue : Sigue .reposo (initStreamWrite page pageAddress) .escribiendo := by
  refine writeEnable_sigue.bind fun _ => (spiAcquireBus_sigue rfl).bind fun _ => (spiSelect_sigue rfl).bind fun _ => ?_
  exact (spiExchange_sigue (t := fun _ => .escribiendo) fun _ => rfl).bind fun _ => follows_pure rfl

theorem closeStreamWrite_sigue : Sigue .escribiendo closeStreamWrite .reposo :=
  (spiUnselect_sigue rfl).bind fun _ => (spiReleaseBus_sigue rfl).bind fun _ => espera_sigue

theorem streamWrite_sigue (val : UInt8) : Sigue .escribiendo (streamWrite page pageAddress val) .escribiendo := by
  refine (spiExchange_sigue (t := fun _ => .escribiendo) fun _ => rfl).bind fun _ => ?_
  refine follows_ite (fun _ => ?_) fun _ => follows_pure rfl
  exact closeStreamWrite_sigue.bind fun _ => (initStreamWrite_sigue _ _).bind fun _ => follows_pure rfl

end Wiznet
