import Wiznet.Store.Familias
import Wiznet.Store.Limites

/-!
# Writing the value that is there already

The typed writes look first whether the variable holds the value, to spare the flash.  `Valor.Leido` says that it does,
`SinDesgaste` that the call then only reads.  Each write looks through the reader of its type, with limits of its own:
`escribeVar32` asks for a number of 16 bits without sign, so it finds nothing but such numbers there.
-/

namespace Wiznet

open NorFlash (Mem Cmd replay)
open W25Q16

/-! ### A variable that is there -/

section Vive

variable {b : Bus} {m : Mem} {s : UInt16} {t : TipoVar} {n : Nombre} {x : Nat}

/-- A read of a variable that is there reads only. -/
theorem ViveEn.leeVariable (hv : ViveEn m s t n x) (hs : SectorOk s) (hn : n.chars.length ≤ 255) (p : Nat → UInt8) :
    Gives (leeVariable s t n p) m ⟨0, UInt16.ofNat x, valorEn m x t⟩ [] {y | 2 ≤ y ∧ y ≤ 513} := by
  have hg := (leeVariable_some hs hn p hv.1).mono (T := {y | 2 ≤ y ∧ y ≤ 513})
    fun y hy => ⟨hy.1, Nat.le_succ_of_le hy.2⟩
  have hno : creaOrdenes m t n p (some x) = [] := if_neg hv.2.ne_ff
  rwa [hno] at hg

theorem ViveEn.leeEntero {α : Type} [LT α] [DecidableLT α] {E : Entero α} (hv : ViveEn m s E.tipo n x)
    (hs : SectorOk s) (hn : n.chars.length ≤ 255) (mn mx d w g : α) :
    Gives (leeEntero E s n mn mx d w g) m (acota mn mx (UInt16.ofNat x) (E.deBytes g (valorEn m x E.tipo))) []
      {y | 2 ≤ y ∧ y ≤ 513} :=
  (hv.leeVariable hs hn _).bind_read (by
    rw [if_neg (fun h => h rfl)]
    exact Gives.pure _ _ _)

/-- The sector read from is as good a hint as the one that was passed. -/
theorem ViveEn.sugerencia (hv : ViveEn m s t n x) (hs : SectorOk s) :
    SectorOk (UInt16.ofNat x) ∧ ViveEn m (UInt16.ofNat x) t n x := by
  obtain ⟨h2, h511⟩ := localizaSector_mem hs hv.1
  have hx : (UInt16.ofNat x).toNat = x := toNat_sector (by omega)
  refine ⟨.inr ⟨by omega, by omega⟩, ?_, hv.2⟩
  unfold localizaSector
  rw [hx, if_pos]
  refine ⟨fun h0 => ?_, hv.2⟩
  rw [h0] at hx
  have : (0 : UInt16).toNat = 0 := rfl
  omega

/-- A write to a variable that is there programs or erases. -/
theorem escribeOrdenes_modifica (m : Mem) (s : UInt16) (t : TipoVar) (n : Nombre) (p : Nat → UInt8) :
    ∃ c ∈ escribeOrdenes m s t n p, c.modifies = true := by
  unfold escribeOrdenes
  cases posFAT (sec m s.toNat) with
  | none => exact ⟨_, List.mem_cons_self .., rfl⟩
  | some k => exact ⟨_, List.mem_cons_self .., rfl⟩

/-- The call returns 0, issues no program and no erase, and leaves the flash as it is. -/
def SinDesgaste (y : SpiM (Int16 × UInt16)) (b : Bus) : Prop :=
  ∃ s' b' cs, y b = .ok (0, s') b' ∧ b'.chip.log = b.chip.log ++ cs ∧ (∀ c ∈ cs, c.modifies = false) ∧
    b'.chip.mem = b.chip.mem

/-- A read that finds the variable, and a write unless it has found what it wants. -/
theorem sinDesgaste_iff (hb : b.Listo) (hs : SectorOk s) (hv : ViveEn b.chip.mem s t n x) (hn : n.chars.length ≤ 255)
    {ρ : Type} {lee : SpiM ρ} {r : ρ} (hlee : Gives lee b.chip.mem r [] {y | 2 ≤ y ∧ y ≤ 513}) {P : ρ → Prop}
    [DecidablePred P] {f : ρ → UInt16} (hr : f r = UInt16.ofNat x) (p : Nat → UInt8) :
    SinDesgaste (do
      let r ← lee
      if P r then return (0, f r)
      let err ← escribeVar (f r) t n p
      return (err, f r)) b ↔ P r := by
  by_cases h : P r
  · refine iff_of_true ?_ h
    have hg := hlee.bind_read (f := fun r => if P r then pure ((0 : Int16), f r) else do
      let err ← escribeVar (f r) t n p
      return (err, f r)) (by rw [if_pos h]; exact Gives.pure _ _ _)
    obtain ⟨b', cs, e, he⟩ := hg.ejecuta hb
    refine ⟨_, b', cs, e, he.log, fun c hc => ?_, he.mem⟩
    by_contra hm
    have : c ∈ cs.filter Cmd.modifies := List.mem_filter.2 ⟨hc, by simpa using hm⟩
    rw [he.ordenes] at this
    cases this
  · refine iff_of_false ?_ h
    obtain ⟨hs', hv'⟩ := hv.sugerencia hs
    have hw := (escribeVar_gives (m := b.chip.mem) (t := t) hs' hn p).bind_pure fun err => (err, UInt16.ofNat x)
    have hg := hlee.bind_read (f := fun r => if P r then pure ((0 : Int16), f r) else do
      let err ← escribeVar (f r) t n p
      return (err, f r)) (by rw [if_neg h, hr]; exact hw)
    obtain ⟨b', cs, e, he⟩ := hg.ejecuta hb
    rintro ⟨s', b'', cs', e', hlog, hcs, -⟩
    rw [e'] at e
    cases e
    have hcs' : cs' = cs := List.append_cancel_left (hlog.symm.trans he.log)
    obtain ⟨c, hc, hm⟩ := escribeOrdenes_modifica b.chip.mem (UInt16.ofNat x) t n p
    rw [← hv'.ordenes, ← he.ordenes, ← hcs', List.mem_filter] at hc
    rw [hcs c hc.1] at hm
    cases hm

end Vive

/-! ### Values -/

inductive Valor where
  | u8 (v : UInt8)
  | u16 (v : UInt16)
  | i32 (v : Int32)
  | str50 (v : Nat → UInt8)

/-- What the locals of the calls hold before they are assigned. -/
structure LocalesEscribe where
  valorIntU8 : UInt8
  valorLeidoU8 : UInt8
  valorIntU16 : UInt16
  valorLeidoU16 : UInt16
  valorInt32 : Int32
  valorLeido32 : Int32
  buff : Nat → UInt8

/-- Two strings are the same up to their terminators, or in `n` characters. -/
def IgualesHasta (n : Nat) (a b : Nat → UInt8) : Prop := ∀ i < n, (∀ j < i, a j ≠ 0) → a i = b i

theorem strncmpIgual_iff {a b : Nat → UInt8} {n : Nat} : ∀ {i : Nat}, (∀ j < i, a j ≠ 0) →
    (strncmpIgual a b n i = true ↔ ∀ k, i ≤ k → k < i + n → (∀ j < k, a j ≠ 0) → a k = b k) := by
  induction n with
  | zero =>
    intro i _
    exact iff_of_true rfl fun k h1 h2 => by omega
  | succ n ih =>
    intro i hi
    unfold strncmpIgual
    by_cases hd : a i ≠ b i
    · rw [if_pos hd]
      exact iff_of_false Bool.false_ne_true fun h => hd (h i (Nat.le_refl i) (by omega) hi)
    rw [if_neg hd]
    have he : a i = b i := by simpa using hd
    by_cases hz : a i = 0
    · rw [if_pos hz]
      refine iff_of_true rfl fun k h1 _ hk => ?_
      rcases Nat.eq_or_lt_of_le h1 with rfl | hlt
      · exact he
      · exact absurd hz (hk i hlt)
    · rw [if_neg hz, ih (i := i + 1) fun j hj => ?_]
      · constructor
        · intro h k h1 h2 hk
          rcases Nat.eq_or_lt_of_le h1 with rfl | hlt
          · exact he
          · exact h k hlt (by omega) hk
        · exact fun h k h1 h2 hk => h k (by omega) (by omega) hk
      · rcases Nat.lt_succ_iff_lt_or_eq.1 hj with hj | rfl
        · exact hi j hj
        · exact hz

theorem strncmpIgual_zero (a b : Nat → UInt8) (n : Nat) : strncmpIgual a b n 0 = true ↔ IgualesHasta n a b := by
  rw [strncmpIgual_iff (fun j hj => absurd hj (Nat.not_lt_zero j))]
  simp [IgualesHasta]

namespace Valor

def tipo : Valor → TipoVar
  | u8 _ => .varU8
  | u16 _ => .varU16
  | i32 _ => .var32
  | str50 _ => .var50

/-- The call that writes the value. -/
def escribe (e : Entorno) (l : LocalesEscribe) (s : UInt16) (n : Nombre) : Valor → SpiM (Int16 × UInt16)
  | u8 v => escribeVarU8 s n v l.valorIntU8 l.valorLeidoU8
  | u16 v => escribeVarU16 s n v l.valorIntU16 l.valorLeidoU16
  | i32 v => escribeVar32 e s n v l.valorInt32 l.valorLeido32
  | str50 v => escribeStr50 s n v l.buff

/-- The read of its type, over the full range, delivers it. -/
def Leido (e : Entorno) (s : UInt16) (n : Nombre) (b : Bus) : Valor → Prop
  | u8 v => ∃ d w g r b', leeVariableU8 s n 0 0xFF d w g b = .ok r b' ∧ r.rc = 0 ∧ r.valor = v
  | u16 v => ∃ d w g r b', leeVariableU16 s n 0 0xFFFF d w g b = .ok r b' ∧ r.rc = 0 ∧ r.valor = v
  | i32 v => ∃ d w g r b', leeVariable32 e.trasDefecto s n (-2147483648) 2147483647 d w g b = .ok r b' ∧
      r.rc = 0 ∧ r.valor = v
  | str50 v => ∃ d r b', leeStr50 s n d b = .ok r b' ∧ r.rc = 0 ∧ IgualesHasta 50 v fun i => r.valor.getD i 0

/-- The limits the write asks its reader for hold the value. -/
def EnLimites : Valor → Prop
  | i32 v => 0 ≤ v ∧ v ≤ 0xFFFF
  | _ => True

end Valor

theorem Entero.Completo.leido {α : Type} [LT α] [DecidableLT α] {E : Entero α} (hE : E.Completo) {b b' : Bus}
    (hb : b.Listo) {s : UInt16} {n : Nombre} {x : Nat} (hs : SectorOk s) (hv : ViveEn b.chip.mem s E.tipo n x)
    (hn : n.chars.length ≤ 255) {mn mx d w g v : α} {r : LecturaEntera α}
    (e : leeEntero E s n mn mx d w g b = .ok r b') (h0 : r.rc = 0) (hr : r.valor = v) (g' : α) :
    E.deBytes g' (valorEn b.chip.mem x E.tipo) = v := by
  obtain ⟨rfl, -⟩ := (hv.leeEntero hs hn mn mx d w g).resultado hb e
  rw [← hr, hE g' g _ (by simp [valorEn])]
  unfold acota at h0 ⊢
  split at h0
  · cases h0
  · split at h0
    · cases h0
    · rename_i h1 h2
      rw [if_neg h1, if_neg h2]

theorem acota_sectorParam {α : Type} [LT α] [DecidableLT α] (mn mx : α) (x : UInt16) (v : α) :
    (acota mn mx x v).sectorParam = x := by
  unfold acota
  split
  · rfl
  · split <;> rfl

/-- What the reader's limits leave of a value. -/
theorem acota_intacto_iff {α : Type} [LT α] [DecidableLT α] [LE α] [Std.IsLinearOrder α] [Std.LawfulOrderLT α]
    {mn mx v : α} (x : UInt16) : (acota mn mx x v).rc = 0 ∧ (acota mn mx x v).valor = v ↔ mn ≤ v ∧ v ≤ mx := by
  rw [← Std.not_lt, ← Std.not_lt (a := mx)]
  by_cases h1 : v < mn
  · simp [acota, h1]
  · by_cases h2 : mx < v
    · simp [acota, h1, h2]
    · simp [acota, h1, h2]

variable {e : Entorno} {b : Bus} {s : UInt16} {n : Nombre} {x : Nat}

/-- A number that the reader's limits leave alone is not written again, and any other one is. -/
private theorem escribeVar32_sinDesgaste_iff (hb : b.Listo) (hs : SectorOk s) (hv : ViveEn b.chip.mem s .var32 n x)
    (hn : n.chars.length ≤ 255) {v : Int32} (w g : Int32)
    (hval : (enteroI32 e.trasDefecto).deBytes g (valorEn b.chip.mem x .var32) = v) :
    SinDesgaste (escribeVar32 e s n v w g) b ↔ 0 ≤ v ∧ v ≤ 0xFFFF := by
  have hlee := hv.leeEntero (E := enteroI32 e.trasDefecto) hs hn 0 0xFFFF v w g
  rw [show (enteroI32 e.trasDefecto).deBytes g (valorEn b.chip.mem x (enteroI32 e.trasDefecto).tipo) = v from hval]
    at hlee
  exact (sinDesgaste_iff hb hs hv hn hlee (P := fun r => r.rc = 0 ∧ r.valor = v) (f := (·.sectorParam))
    (acota_sectorParam ..) ((enteroI32 e.trasValor).bytes v)).trans (acota_intacto_iff _)

/-- A write of the value that is read spares the flash exactly where the value is within the limits that the write asks
its reader for. -/
theorem escribe_sinDesgaste_iff (h : Alcanza (fun _ op => SectorOk op.sectorParam) b) (hs : SectorOk s) {v : Valor}
    (hv : ViveEn b.chip.mem s v.tipo n x) (hl : v.Leido e s n b) (l : LocalesEscribe) :
    SinDesgaste (v.escribe e l s n) b ↔ v.EnLimites := by
  have hb := h.listo
  cases v with
  | u8 v =>
    obtain ⟨d, w, g, r, b', er, h0, hr⟩ := hl
    have hn := leeEntero_largo er
    have hlee := hv.leeEntero (E := enteroU8) hs hn 0 0xFF v l.valorIntU8 l.valorLeidoU8
    rw [enteroU8_completo.leido hb hs hv hn er h0 hr] at hlee
    refine (sinDesgaste_iff hb hs hv hn hlee (P := fun r => r.rc = 0 ∧ r.valor = v) (f := (·.sectorParam))
      (acota_sectorParam ..) (enteroU8.bytes v)).trans ((acota_intacto_iff _).trans (iff_of_true ?_ trivial))
    have hmin : ¬ v < 0 := Ancho.no_menor .u8 v
    have hmax : ¬ 0xFF < v := Ancho.no_mayor .u8 v
    exact ⟨Std.not_lt.1 hmin, Std.not_lt.1 hmax⟩
  | u16 v =>
    obtain ⟨d, w, g, r, b', er, h0, hr⟩ := hl
    have hn := leeEntero_largo er
    have hlee := hv.leeEntero (E := enteroU16) hs hn 0 0xFFFF v l.valorIntU16 l.valorLeidoU16
    rw [enteroU16_completo.leido hb hs hv hn er h0 hr] at hlee
    refine (sinDesgaste_iff hb hs hv hn hlee (P := fun r => r.rc = 0 ∧ r.valor = v) (f := (·.sectorParam))
      (acota_sectorParam ..) (enteroU16.bytes v)).trans ((acota_intacto_iff _).trans (iff_of_true ?_ trivial))
    have hmin : ¬ v < 0 := Ancho.no_menor .u16 v
    have hmax : ¬ 0xFFFF < v := Ancho.no_mayor .u16 v
    exact ⟨Std.not_lt.1 hmin, Std.not_lt.1 hmax⟩
  | i32 v =>
    obtain ⟨d, w, g, r, b', er, h0, hr⟩ := hl
    have hn := leeEntero_largo er
    exact escribeVar32_sinDesgaste_iff hb hs hv hn _ _ ((enteroI32_completo _).leido hb hs hv hn er h0 hr _)
  | str50 v =>
    obtain ⟨d, r, b', er, h0, hr⟩ := hl
    have hn : n.chars.length ≤ 255 := by
      refine Nat.le_of_lt_succ (Nat.lt_of_not_le fun hn => ?_)
      rw [show leeStr50 s n d b = .error .loop b from leeVariable_largo hn ..] at er
      cases er
    have hlee := fun p => hv.leeVariable hs hn p
    obtain ⟨rfl, -⟩ := (hlee d).resultado hb er
    refine (sinDesgaste_iff hb hs hv hn (hlee v) (f := (·.sectorParam))
      (P := fun r => r.rc = 0 ∧ strncmpIgual v (fun i => r.valor.getD i (l.buff i)) 50 0 = true) rfl v).trans
      (iff_of_true ⟨rfl, ?_⟩ trivial)
    rw [strncmpIgual_zero]
    intro i hi hk
    have hlen : i < (valorEn b.chip.mem x .var50).length := by
      rw [valorEn, List.length_map, List.length_range]
      exact hi
    exact (hr i hi hk).trans (getD_congr hlen _ _)

/-- A variable just created holds its default. -/
private theorem creada {α : Type} (E : Entero α) (v : α) :
    ∃ b, Alcanza (fun _ op => SectorOk op.sectorParam) b ∧ SectorOk 2 ∧ ViveEn b.chip.mem 2 E.tipo Nombre.a 2 ∧
      ∀ g, E.deBytes g (valorEn b.chip.mem 2 E.tipo) = v := by
  obtain ⟨b, d, ha, hb, hd, hf, hx⟩ := alcanza_creada (P := fun _ op => SectorOk op.sectorParam) E.tipo (E.bytes v)
    (.inl rfl)
  have hs : SectorOk 2 := .inr ⟨by decide, by decide⟩
  refine ⟨b, ha, hs, viveEn_of_directorio hd hs (Directorio.mem_of_ficha hf) hx, fun g => ?_⟩
  have hval : valorEn b.chip.mem 2 E.tipo = bytesDe (E.bytes v) E.tipo.long :=
    (hd.en_sitio hf hx).valorEn_eq (by decide)
  rw [hval, E.deBytes_bytes]

theorem escribe_sinDesgaste_iff_creada :
    ∃ b, ∀ e l, SinDesgaste ((Valor.u8 7).escribe e l 2 Nombre.a) b := by
  obtain ⟨b, ha, hs, hv, hval⟩ := creada enteroU8 7
  obtain ⟨b', -, er, -⟩ := (hv.leeEntero hs (by decide) 0 0xFF 7 0 0).ejecuta ha.listo
  rw [hval] at er
  exact ⟨b, fun e l => (escribe_sinDesgaste_iff (v := Valor.u8 7) ha hs hv ⟨7, 0, 0, _, b', er, rfl, rfl⟩ l).2 trivial⟩

/-- The number -1 is written each time. -/
theorem escribeVar32_desgasta : ∃ b, Alcanza (fun _ op => SectorOk op.sectorParam) b ∧
    ViveEn b.chip.mem 2 .var32 Nombre.a 2 ∧ ∀ e l, (Valor.i32 (-1)).Leido e 2 Nombre.a b ∧
      ¬ SinDesgaste ((Valor.i32 (-1)).escribe e l 2 Nombre.a) b := by
  obtain ⟨b, ha, hs, hv, hval⟩ := creada (enteroI32 fun _ => 0) (-1)
  refine ⟨b, ha, hv, fun e l => ⟨?_, ?_⟩⟩
  · obtain ⟨b', -, er, -⟩ :=
      (ViveEn.leeEntero (E := enteroI32 e.trasDefecto) hv hs (by decide) (-2147483648) 2147483647 0
      0 0).ejecuta ha.listo
    rw [show (enteroI32 e.trasDefecto).deBytes 0 (valorEn b.chip.mem 2 (enteroI32 e.trasDefecto).tipo) = -1
      from hval 0] at er
    exact ⟨0, 0, 0, _, b', er, by decide, by decide⟩
  · intro h
    have := (escribeVar32_sinDesgaste_iff ha.listo hs hv (by decide) _ _ (hval _)).1 h
    exact absurd this (by decide)

end Wiznet
