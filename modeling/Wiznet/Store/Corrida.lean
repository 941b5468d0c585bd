import Wiznet.Store.Directorio

/-!
# Runs of the store

Calls of `leeVariable` and `escribeVar` on a bus, one after the other, from a flash whose sectors 2 to 511 are
erased (`Alcanza`).  In every bus reached the flash holds a directory (`Alcanza.representa`), as long as every write
keeps its record in its sector (`CabeRegistro`), which writes of all types but strings do.
-/

namespace Wiznet

open NorFlash (Mem Cmd replay ExactAll)
open Stateful (bind_ok bind_error)
open W25Q16

/-! ### From calls to buses -/

/-- What a call did to the bus: its commands, those among them that program or erase, and where they went. -/
structure Efecto (b b' : Bus) (mods : List Cmd) (S : Set Nat) (cs : List Cmd) : Prop where
  listo : b'.Listo
  log : b'.chip.log = b.chip.log ++ cs
  ordenes : cs.filter Cmd.modifies = mods
  mem : b'.chip.mem = replay w25q16 mods b.chip.mem
  sectores : ∀ c ∈ cs, c.addr / 4096 ∈ S

variable {α : Type} {x : SpiM α} {r : α} {mods : List Cmd} {S : Set Nat} {b b' : Bus}

theorem Gives.ejecuta (h : Gives x b.chip.mem r mods S) (hb : b.Listo) :
    ∃ b' cs, x b = .ok r b' ∧ Efecto b b' mods S cs := by
  obtain ⟨log, hd, hm, hs⟩ := h
  obtain ⟨b', e, hb', -⟩ := hd _ _ b hb.is
  refine ⟨b', log, e, hb'.listo, by rw [hb'.chip]; rfl, hm, ?_, hs⟩
  rw [hb'.chip, ← hm, NorFlash.replay_filter_modifies]
  rfl

theorem Gives.resultado {r' : α} (h : Gives x b.chip.mem r mods S) (hb : b.Listo) (e : x b = .ok r' b') :
    r' = r ∧ ∃ cs, Efecto b b' mods S cs := by
  obtain ⟨b'', log, e', he⟩ := h.ejecuta hb
  rw [e] at e'
  injection e' with e1 e2
  subst e1 e2
  exact ⟨rfl, log, he⟩

/-! ### Runs -/

inductive Op where
  | lee (sectorParam : UInt16) (tipoVar : TipoVar) (nombVar : Nombre) (pValorDefault : Nat → UInt8)
  | escribe (sectorParam : UInt16) (tipoVar : TipoVar) (nombVar : Nombre) (pValor : Nat → UInt8)

namespace Op

def sectorParam : Op → UInt16
  | lee s _ _ _ => s
  | escribe s _ _ _ => s

def tipoVar : Op → TipoVar
  | lee _ t _ _ => t
  | escribe _ t _ _ => t

def nombVar : Op → Nombre
  | lee _ _ n _ => n
  | escribe _ _ n _ => n

def llama : Op → SpiM Unit
  | lee s t n p => do let _ ← leeVariable s t n p; return
  | escribe s t n p => do let _ ← escribeVar s t n p; return

def llamaTodas : List Op → SpiM Unit
  | [] => return
  | op :: ops => do
    op.llama
    llamaTodas ops

/-- The programs and erases of a call. -/
def ordenes (m : Mem) : Op → List Cmd
  | lee s t n p => creaOrdenes m t n p (localizaSector m s t n)
  | escribe s t n p => escribeVarOrdenes m s t n p

end Op

/-- Buses reached from erased sectors by calls that satisfy `P` where they are made. -/
inductive Alcanza (P : Mem → Op → Prop) : Bus → Prop
  | inicio {b : Bus} (hb : b.Listo) (h : ∀ x ∈ sectoresVars, ∀ o < 4096, b.chip.mem (4096 * x + o) = 0xFF) :
    Alcanza P b
  | paso {b b' : Bus} {op : Op} (h : Alcanza P b) (hp : P b.chip.mem op) (e : op.llama b = .ok () b') : Alcanza P b'

theorem alcanza_nuevo (P : Mem → Op → Prop) : Alcanza P Bus.nuevo :=
  .inicio ⟨rfl, rfl, rfl, rfl, rfl⟩ fun _ _ _ _ => rfl

theorem Alcanza.mono {P Q : Mem → Op → Prop} (hPQ : ∀ m op, P m op → Q m op) (h : Alcanza P b) : Alcanza Q b := by
  induction h with
  | inicio hb h => exact .inicio hb h
  | paso _ hp e ih => exact .paso ih (hPQ _ _ hp) e

/-- The record that a write to the variable would program ends inside the sector. -/
def CabeRegistro (m : Mem) (s : UInt16) (t : TipoVar) (n : Nombre) : Prop :=
  ∀ x k, localizaSector m s t n = some x → posFAT (sec m x) = some k → STARTDAT.toNat + (k + 2) * t.long ≤ 4096

theorem cabeRegistro_of_long_le {m : Mem} {s : UInt16} {t : TipoVar} {n : Nombre} (h : t.long ≤ 8) :
    CabeRegistro m s t n := by
  intro x k _ hk
  have := posFAT_lt hk
  have : (k + 2) * t.long ≤ (127 + 2) * 8 := Nat.mul_le_mul (by omega) h
  rw [show STARTDAT.toNat = 51 from rfl]
  omega

/-- The calls of the store that the directory describes: on a sector of the store or none, with a name whose checksum
is found, and, if they write, with a record that fits the sector. -/
def EnRegla (m : Mem) (op : Op) : Prop :=
  SectorOk op.sectorParam ∧ op.nombVar.chars.length ≤ 255 ∧
    match op with
    | .lee _ _ _ _ => True
    | .escribe s t n _ => CabeRegistro m s t n

/-- The calls on the types with records of at most 8 bytes, with names that fit their field. -/
def Corta (_ : Mem) (op : Op) : Prop :=
  SectorOk op.sectorParam ∧ op.nombVar.chars.length ≤ 31 ∧ op.tipoVar ≠ .var50

theorem Corta.enRegla {m : Mem} {op : Op} (h : Corta m op) : EnRegla m op := by
  obtain ⟨hs, hn, ht⟩ := h
  refine ⟨hs, Nat.le_trans hn (by decide), ?_⟩
  cases op with
  | lee s t n p => trivial
  | escribe s t n p => exact cabeRegistro_of_long_le (TipoVar.long_le_of_ne ht)

namespace Directorio

/-- The directory after a call. -/
def trasOp (d : Directorio) : Op → Directorio
  | .lee _ t n p => d.conVariable t n p
  | .escribe _ t n p => d.escribe t n p

end Directorio

variable {m : Mem} {d : Directorio}

theorem Representa.admite (h : Representa m d) {s : UInt16} (hs : SectorOk s) {t : TipoVar} {n : Nombre}
    (hc : CabeRegistro m s t n) : d.Admite t n := by
  intro f hf hcl hk
  obtain ⟨i, hi, rfl⟩ := List.getElem_of_mem hf
  have hcabe := d.cabe
  have hloc := h.localizaSector_eq (t := t) (n := n) hs
  rw [Directorio.sitio_of_clave hi hcl] at hloc
  have hpos := (h.fichas i hi).posFAT_eq (by omega)
  rw [if_pos hk] at hpos
  have hfit := hc _ _ hloc hpos
  have he := (d.fichas[i]).escrita
  have ht : d.fichas[i].tipo = t := congrArg Prod.fst hcl
  rw [ht, show d.fichas[i].historial.length + 1 = d.fichas[i].usadas + 2 by unfold Ficha.usadas; omega]
  exact hfit

/-- One call. -/
theorem Representa.paso (h : Representa m d) {op : Op} (hr : EnRegla m op) :
    Gives op.llama m () (op.ordenes m) {x | 2 ≤ x ∧ x ≤ 513} ∧
      Representa (replay w25q16 (op.ordenes m) m) (d.trasOp op) ∧
      (d.sitio op.tipoVar op.nombVar ≠ none → ExactAll w25q16 (op.ordenes m) m) := by
  obtain ⟨hs, hn, hc⟩ := hr
  cases op with
  | lee s t n p =>
    have hg := (h.leeVariable (t := t) hs hn p).mono (T := {x | 2 ≤ x ∧ x ≤ 513})
      fun y hy => ⟨hy.1, Nat.le_succ_of_le hy.2⟩
    have hcrea := h.crea t n p
    have hloc : localizaSector m s t n = d.sitio t n := h.localizaSector_eq hs
    unfold Op.ordenes
    dsimp only
    rw [hloc]
    exact ⟨hg.bind_pure fun _ => (), hcrea.1, fun _ => hcrea.2⟩
  | escribe s t n p =>
    obtain ⟨h1, e1⟩ := h.escribeVar hs hn (h.admite hs hc) p
    exact ⟨(escribeVar_gives hs hn p).bind_pure fun _ => (), h1, e1⟩

/-- A call that returns was made with a name of at most 255 characters. -/
theorem Op.largo_of_llama {op : Op} (e : op.llama b = .ok () b') : op.nombVar.chars.length ≤ 255 := by
  refine Nat.le_of_lt_succ (Nat.lt_of_not_le fun hn => ?_)
  cases op with
  | lee s t n p =>
    have he : (Op.lee s t n p).llama b = .error .loop b := bind_error (leeVariable_largo hn s p b)
    rw [he] at e
    cases e
  | escribe s t n p =>
    have he : (Op.escribe s t n p).llama b = .error .loop b := bind_error (escribeVar_largo hn s p b)
    rw [he] at e
    cases e

/-- Whatever the flash holds, a call that returns leaves the bus ready. -/
theorem Alcanza.listo (h : Alcanza (fun _ op => SectorOk op.sectorParam) b) : b.Listo := by
  induction h with
  | inicio hb _ => exact hb
  | @paso b b' op _ hp e ih =>
    have hn := Op.largo_of_llama e
    cases op with
    | lee s t n p =>
      obtain ⟨r, -, hg⟩ := leeVariable_gives (m := b.chip.mem) (t := t) hp hn p
      obtain ⟨-, _, he⟩ := (hg.bind_pure fun _ => ()).resultado ih e
      exact he.listo
    | escribe s t n p =>
      have hg := escribeVar_gives (m := b.chip.mem) (t := t) hp hn p
      obtain ⟨-, _, he⟩ := (hg.bind_pure fun _ => ()).resultado ih e
      exact he.listo

/-- In every bus reached the flash holds a directory. -/
theorem Alcanza.representa (h : Alcanza EnRegla b) : b.Listo ∧ ∃ d, Representa b.chip.mem d := by
  induction h with
  | inicio hb h =>
    exact ⟨hb, Directorio.vacio, Representa.vacio fun x h2 h511 => h x ⟨h2, h511⟩⟩
  | @paso b b' op _ hp e ih =>
    obtain ⟨hb, d, hd⟩ := ih
    obtain ⟨hg, hrep, -⟩ := hd.paso hp
    obtain ⟨-, log, he⟩ := hg.resultado hb e
    exact ⟨he.listo, d.trasOp op, by rw [he.mem]; exact hrep⟩

/-- No call of a run gets stuck. -/
theorem Alcanza.avanza (h : Alcanza EnRegla b) {op : Op} (hr : EnRegla b.chip.mem op) :
    ∃ b', op.llama b = .ok () b' ∧ Alcanza EnRegla b' := by
  obtain ⟨hb, d, hd⟩ := h.representa
  obtain ⟨b', log, e, -⟩ := (hd.paso hr).1.ejecuta hb
  exact ⟨b', e, h.paso hr e⟩

/-- Any number of calls on the types with records of at most 8 bytes. -/
theorem Alcanza.corre (ops : List Op) (h : Alcanza Corta b) (hd : Representa b.chip.mem d)
    (hops : ∀ op ∈ ops, ∀ m, Corta m op) :
    ∃ b', Op.llamaTodas ops b = .ok () b' ∧ Alcanza Corta b' ∧
      Representa b'.chip.mem (ops.foldl Directorio.trasOp d) := by
  induction ops generalizing b d with
  | nil => exact ⟨b, rfl, h, hd⟩
  | cons op ops ih =>
    have hop := hops op (List.mem_cons_self ..) b.chip.mem
    obtain ⟨hg, hrep, -⟩ := hd.paso hop.enRegla
    obtain ⟨b₁, _, e₁, he⟩ := hg.ejecuta (h.mono fun _ _ => Corta.enRegla).representa.1
    rw [← he.mem] at hrep
    obtain ⟨b', e', hb', hd'⟩ := ih (h.paso hop e₁) hrep fun op' h' => hops op' (List.mem_cons_of_mem _ h')
    refine ⟨b', ?_, hb', hd'⟩
    show (op.llama >>= fun _ => Op.llamaTodas ops) b = .ok () b'
    rw [bind_ok e₁, e']

/-- A store with one variable, just created by a read. -/
theorem alcanza_creada {P : Mem → Op → Prop} (t : TipoVar) (p : Nat → UInt8)
    (hP : P Bus.nuevo.chip.mem (.lee 0 t Nombre.a p)) : ∃ b d, Alcanza P b ∧ b.Listo ∧ Representa b.chip.mem d ∧
      d.ficha t Nombre.a = some (Ficha.nueva t Nombre.a p) ∧ d.sitio t Nombre.a = some 2 := by
  have hr : EnRegla Bus.nuevo.chip.mem (.lee 0 t Nombre.a p) :=
    ⟨.inl rfl, show Nombre.a.chars.length ≤ 255 by decide, trivial⟩
  have hd₀ : Representa Bus.nuevo.chip.mem Directorio.vacio := Representa.vacio fun _ _ _ _ _ => rfl
  obtain ⟨hg, hd, -⟩ := hd₀.paso hr
  obtain ⟨b, _, e, he⟩ := hg.ejecuta (alcanza_nuevo EnRegla).representa.1
  rw [← he.mem] at hd
  have hf : (Directorio.vacio.conVariable t Nombre.a p).ficha t Nombre.a = some (Ficha.nueva t Nombre.a p) :=
    Directorio.ficha_conVariable_of_none rfl (by decide)
  refine ⟨b, Directorio.vacio.conVariable t Nombre.a p, (alcanza_nuevo P).paso hP e, he.listo, hd, hf, ?_⟩
  obtain ⟨i, hi, hcl⟩ := Directorio.exists_of_mem (Directorio.mem_of_ficha hf)
  have hlen : (Directorio.vacio.conVariable t Nombre.a p).fichas.length = 1 := by
    rw [Directorio.conVariable_fichas (fun h => by cases h) (by decide)]
    rfl
  have hi' : i < (Directorio.vacio.conVariable t Nombre.a p).fichas.length := hi
  rw [hlen] at hi'
  rw [Directorio.sitio_of_clave hi hcl, show i = 0 by omega]

end Wiznet
