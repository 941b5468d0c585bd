import Wiznet.Store.Mapa
import Wiznet.Store.Invariantes
import Mathlib.Logic.Function.Basic

/-!
# The objects behind the typed accessors

Each family of accessors hands the store the address of an object of its C type and a type tag, and the table
`longParam` gives the number of bytes that go to and from that address.  `Cabal` says that the two agree, in what is
stored, in what is fetched (`Usa`) and in what a read after a write delivers.  They agree for `U8` and `U16` only.
-/

namespace Wiznet

open NorFlash (Mem Cmd replay)
open Stateful (bind_error ok_of_bind)
open W25Q16

/-! ### Bytes fetched -/

/-- The offsets from the pointer on whose byte matters to the call. -/
def Usa {α : Type} (f : (Nat → UInt8) → SpiM α) (p : Nat → UInt8) (b : Bus) : Set Nat :=
  {i | ∃ v, f (Function.update p i v) b ≠ f p b}

theorem bytesDe_inj {p q : Nat → UInt8} {k : Nat} : bytesDe p k = bytesDe q k ↔ ∀ i < k, p i = q i := by
  simp [bytesDe, List.map_inj_left]

/-- A call that uses no more than the first `k` bytes, and keeps them apart, uses these. -/
theorem usa_eq {α : Type} {f : (Nat → UInt8) → SpiM α} {p : Nat → UInt8} {b : Bus} {k : Nat}
    (hcongr : ∀ q, bytesDe q k = bytesDe p k → f q = f p) (hinj : ∀ q, f q b = f p b → bytesDe q k = bytesDe p k) :
    Usa f p b = {i | i < k} := by
  ext i
  constructor
  · rintro ⟨v, hv⟩
    by_contra hi
    refine hv (congrFun (hcongr _ (bytesDe_inj.2 fun j hj => ?_)) b)
    have hji : j ≠ i := fun he => hi (he ▸ hj)
    exact Function.update_of_ne hji v p
  · intro hi
    refine ⟨p i + 1, fun he => ?_⟩
    have hb := bytesDe_inj.1 (hinj _ he) i hi
    rw [Function.update_self] at hb
    simp at hb

section Congr

variable {s : UInt16} {t : TipoVar} {n : Nombre} {p q : Nat → UInt8} (h : bytesDe p t.long = bytesDe q t.long)

include h

theorem initVarFlash_congr : initVarFlash s t n p = initVarFlash s t n q := by
  unfold initVarFlash
  rw [h]

theorem buscaVariable_congr (c : UInt16) (fuel : Nat) :
    ∀ s, buscaVariable t p n c fuel s = buscaVariable t q n c fuel s := by
  induction fuel with
  | zero => intro s; rfl
  | succ fuel ih =>
    intro s
    simp only [buscaVariable, initVarFlash_congr h, ih]

theorem encuentraVariable_congr : encuentraVariable t p n = encuentraVariable t q n := by
  simp only [encuentraVariable, buscaVariable_congr h]

theorem escribeEnSector_congr (s : UInt16) : escribeEnSector s t n p = escribeEnSector s t n q := by
  simp only [escribeEnSector, initVarFlash_congr h, h]

theorem escribeVar_congr : escribeVar s t n p = escribeVar s t n q := by
  simp only [escribeVar, encuentraVariable_congr h, escribeEnSector_congr h]

end Congr

/-- The bytes programmed by a sequence of commands. -/
def programados (cs : List Cmd) : List UInt8 :=
  cs.flatMap fun
    | .program _ d => d
    | _ => []

theorem programados_append (cs ds : List Cmd) : programados (cs ++ ds) = programados cs ++ programados ds :=
  List.flatMap_append

theorem programados_bytesOrdenes (a : Nat) (vs : List UInt8) : programados (bytesOrdenes a vs) = vs := by
  induction vs generalizing a with
  | nil => rfl
  | cons v vs ih => exact congrArg (List.cons v) (ih (a + 1))

theorem programados_initOrdenes (s : UInt16) (t : TipoVar) (n : Nombre) (p : Nat → UInt8) :
    ∃ pre, programados (initOrdenes s t n p) = pre ++ bytesDe p t.long :=
  ⟨cabeceraDe t n, by simp [programados, initOrdenes, cabeceraDe]⟩

theorem programados_escribeOrdenes (m : Mem) (s : UInt16) (t : TipoVar) (n : Nombre) (p : Nat → UInt8) :
    ∃ pre, programados (escribeOrdenes m s t n p) = pre ++ bytesDe p t.long := by
  unfold escribeOrdenes
  cases posFAT (sec m s.toNat) with
  | none => exact programados_initOrdenes s t n p
  | some k => exact ⟨[_], congrArg (List.cons _) (programados_bytesOrdenes _ _)⟩

/-- The commands of two writes differ where their records do. -/
theorem bytesDe_eq_of_programados {cs cs' : List Cmd} {t : TipoVar} {p q : Nat → UInt8}
    (h : ∃ pre, programados cs = pre ++ bytesDe p t.long) (h' : ∃ pre, programados cs' = pre ++ bytesDe q t.long)
    (he : cs = cs') : bytesDe p t.long = bytesDe q t.long := by
  obtain ⟨pre, h⟩ := h
  obtain ⟨pre', h'⟩ := h'
  rw [he, h'] at h
  exact (List.append_inj' h (by simp [length_bytesDe])).2.symm

/-- Calls that end alike have issued the same programs and erases. -/
theorem Gives.ordenes_eq {α : Type} {x y : SpiM α} {r r' : α} {mods mods' : List Cmd} {S S' : Set Nat} {b : Bus}
    (hx : Gives x b.chip.mem r mods S) (hy : Gives y b.chip.mem r' mods' S') (hb : b.Listo) (he : x b = y b) :
    mods = mods' := by
  obtain ⟨b₁, cs, e, h₁⟩ := hx.ejecuta hb
  obtain ⟨b₂, cs', e', h₂⟩ := hy.ejecuta hb
  rw [e, e'] at he
  cases he
  have hcs : cs = cs' := List.append_cancel_left (h₁.log.symm.trans h₂.log)
  rw [← h₁.ordenes, ← h₂.ordenes, hcs]

variable {b : Bus} {s : UInt16} {t : TipoVar} {n : Nombre}

/-- `initVarFlash` fetches a record. -/
theorem usa_initVarFlash (hb : b.Listo) (hs : s.toNat < 512) (hn : n.chars.length ≤ 255) (p : Nat → UInt8) :
    Usa (initVarFlash s t n) p b = {i | i < t.long} := by
  refine usa_eq (fun q hq => initVarFlash_congr hq) fun q he => ?_
  have hg := fun q => initVarFlash_gives (m := b.chip.mem) (by omega : s.toNat < 4096) t hn q
  exact bytesDe_eq_of_programados (programados_initOrdenes s t n q) (programados_initOrdenes s t n p)
    ((hg q).ordenes_eq (hg p) hb he)

theorem HaySitio.localizaSector {m : Mem} (h : HaySitio m t n) (s : UInt16) : ∃ x, localizaSector m s t n = some x := by
  cases hx : Wiznet.localizaSector m s t n with
  | some x => exact ⟨x, rfl⟩
  | none => exact absurd (localizaSector_none.1 hx).2 (haySitio_iff_buscaSector.1 h)

/-- So does `escribeVar`, whether it creates the variable or not. -/
theorem usa_escribeVar (hb : b.Listo) (hs : SectorOk s) (hsitio : HaySitio b.chip.mem t n)
    (hn : n.chars.length ≤ 255) (p : Nat → UInt8) : Usa (escribeVar s t n) p b = {i | i < t.long} := by
  refine usa_eq (fun q hq => escribeVar_congr hq) fun q he => ?_
  have hg := fun q => escribeVar_gives (m := b.chip.mem) (t := t) hs hn q
  obtain ⟨x, hx⟩ := hsitio.localizaSector s
  have hprog : ∀ q, ∃ pre, programados (escribeVarOrdenes b.chip.mem s t n q) = pre ++ bytesDe q t.long := by
    intro q
    unfold escribeVarOrdenes
    rw [hx]
    obtain ⟨pre, hpre⟩ := programados_escribeOrdenes
      (replay w25q16 (creaOrdenes b.chip.mem t n q (some x)) b.chip.mem) (UInt16.ofNat x) t n q
    exact ⟨_ ++ pre, by rw [programados_append, hpre, ← List.append_assoc]⟩
  exact bytesDe_eq_of_programados (hprog q) (hprog p) ((hg q).ordenes_eq (hg p) hb he)

/-- `leeVariable` stores a record. -/
theorem length_leeVariable (hb : b.Listo) (hs : SectorOk s) (hsitio : HaySitio b.chip.mem t n) {p : Nat → UInt8}
    {r : Lectura} {b' : Bus} (e : leeVariable s t n p b = .ok r b') : r.valor.length = t.long := by
  rcases Nat.lt_or_ge 255 n.chars.length with hn | hn
  · rw [leeVariable_largo hn] at e
    cases e
  · obtain ⟨x, hx⟩ := hsitio.localizaSector s
    obtain ⟨rfl, -⟩ := (leeVariable_some hs hn p hx).resultado hb e
    simp [valorEn]

/-! ### Families -/

inductive Familia where
  | u8
  | i8
  | u16
  | i32
  deriving DecidableEq

namespace Familia

abbrev Num : Familia → Type
  | u8 => UInt8
  | i8 => Int8
  | u16 => UInt16
  | i32 => Int32

instance : (f : Familia) → LT f.Num
  | u8 => inferInstanceAs (LT UInt8)
  | i8 => inferInstanceAs (LT Int8)
  | u16 => inferInstanceAs (LT UInt16)
  | i32 => inferInstanceAs (LT Int32)

instance : (f : Familia) → LE f.Num
  | u8 => inferInstanceAs (LE UInt8)
  | i8 => inferInstanceAs (LE Int8)
  | u16 => inferInstanceAs (LE UInt16)
  | i32 => inferInstanceAs (LE Int32)

def tipo : Familia → TipoVar
  | u8 => .varU8
  | i8 => .var8
  | u16 => .varU16
  | i32 => .var32

/-- `sizeof` of the C type. -/
def sizeof : Familia → Nat
  | u8 => 1
  | i8 => 1
  | u16 => 2
  | i32 => 4

/-- The read of the family. -/
def lee (e : Entorno) : (f : Familia) → UInt16 → Nombre → (valorMin valorMax valorDefault valor basura : f.Num) →
    SpiM (LecturaEntera f.Num)
  | u8 => leeVariableU8
  | i8 => leeVariable8 e.trasDefecto
  | u16 => leeVariableU16
  | i32 => leeVariable32 e.trasDefecto

/-- The write of the family. -/
def escribe (e : Entorno) : (f : Familia) → UInt16 → Nombre → (valor valorInt basura : f.Num) →
    SpiM (Int16 × UInt16)
  | u8 => escribeVarU8
  | i8 => fun s n v w _ => escribeVar8 e s n v w
  | u16 => escribeVarU16
  | i32 => escribeVar32 e

/-- The table gives the size of the object to the unsigned families only. -/
theorem long_eq_sizeof_iff (f : Familia) : f.tipo.long = f.sizeof ↔ f = u8 ∨ f = u16 := by
  cases f <;> decide

end Familia

/-- What a read over a range is to deliver when the value is `v`. -/
structure Entrega {α : Type} [LT α] [LE α] (valorMin valorMax v : α) (r : LecturaEntera α) : Prop where
  dentro : valorMin ≤ v → v ≤ valorMax → r.rc = 0 ∧ r.valor = v
  bajo : v < valorMin → r.rc = -4 ∧ r.valor = valorMin
  alto : valorMax < v → r.rc = -5 ∧ r.valor = valorMax

/-- The accessors of the family stay within their objects and deliver what was written. -/
structure Cabal (e : Entorno) (f : Familia) : Prop where
  guarda : ∀ b s n p r b', b.Listo → SectorOk s → HaySitio b.chip.mem f.tipo n →
    leeVariable s f.tipo n p b = .ok r b' → r.valor.length = f.sizeof
  tomaAlCrear : ∀ b s n p b', b.Listo → s.toNat < 512 →
    initVarFlash s f.tipo n p b = .ok () b' → Usa (initVarFlash s f.tipo n) p b = {i | i < f.sizeof}
  tomaAlEscribir : ∀ b s n p r b', b.Listo → SectorOk s → HaySitio b.chip.mem f.tipo n →
    escribeVar s f.tipo n p b = .ok r b' → Usa (escribeVar s f.tipo n) p b = {i | i < f.sizeof}
  vuelta : ∀ b s n v valorInt basura s' b₁, Alcanza EnRegla b → SectorOk s → HaySitio b.chip.mem f.tipo n →
    f.escribe e s n v valorInt basura b = .ok (0, s') b₁ → ∀ s₁, SectorOk s₁ →
    (∀ x, localizaSector b₁.chip.mem s₁ f.tipo n = some x → posFAT (sec b₁.chip.mem x) ≠ none) →
    ∀ valorMin valorMax valorDefault valor basura, valorMin ≤ valorMax →
      ∃ r b₂, f.lee e s₁ n valorMin valorMax valorDefault valor basura b₁ = .ok r b₂ ∧ Entrega valorMin valorMax v r

/-! ### A read after a write -/

/-- A write leaves the value it wrote as the one that is read, unless it used up the last position. -/
theorem Ficha.valor_escribe {f : Ficha} (ha : f.Admite) {p : Nat → UInt8} (h : (f.escribe p).usadas < 128) :
    (f.escribe p).valor = bytesDe p f.tipo.long := by
  by_cases hk : f.usadas < 128
  · obtain ⟨-, -, hh⟩ := escribe_of_sigue ⟨hk, ha hk⟩ p
    have hval : (f.escribe p).historial[(f.escribe p).leida]? = some (f.escribe p).valor :=
      List.getElem?_eq_getElem (f.escribe p).leida_lt
    have hleida : (f.escribe p).leida = f.historial.length := by
      unfold leida
      rw [if_pos h]
      unfold usadas
      rw [hh, List.length_append, List.length_singleton, Nat.add_sub_cancel]
    rw [hleida, hh, List.getElem?_concat_length] at hval
    exact (Option.some.inj hval).symm
  · rw [escribe_of_not_sigue fun hs => hk hs.1]
    rfl

section Vuelta

variable {α : Type} [LT α] [DecidableLT α] [DecidableEq α] {E : Entero α}

omit [DecidableEq α] in
theorem leeEntero_largo {valorMin valorMax d w g : α} {r : LecturaEntera α} {b' : Bus}
    (e : leeEntero E s n valorMin valorMax d w g b = .ok r b') : n.chars.length ≤ 255 := by
  refine Nat.le_of_lt_succ (Nat.lt_of_not_le fun hn => ?_)
  rw [show leeEntero E s n valorMin valorMax d w g b = .error .loop b from bind_error (leeVariable_largo hn ..)] at e
  cases e

theorem escribeEntero_largo {minimo maximo v w g : α} {r : Int16 × UInt16} {b' : Bus}
    (e : escribeEntero E minimo maximo s n v w g b = .ok r b') : n.chars.length ≤ 255 := by
  obtain ⟨r₁, b₁, e₁, -⟩ := ok_of_bind e
  exact leeEntero_largo e₁

/-- What the store holds after a write: the variable, with the value written as long as a position is left. -/
theorem escribeEntero_deja (ha : Alcanza EnRegla b) (hs : SectorOk s) (hsitio : HaySitio b.chip.mem E.tipo n)
    {minimo maximo : α} (hmin : ∀ v : α, ¬ v < minimo) (hmax : ∀ v : α, ¬ maximo < v) (hlong : E.tipo.long ≤ 8)
    {v w g : α} {r : Int16 × UInt16} {b₁ : Bus} (e : escribeEntero E minimo maximo s n v w g b = .ok r b₁) :
    b₁.Listo ∧ ∃ d f x, Representa b₁.chip.mem d ∧ d.ficha E.tipo n = some f ∧ d.sitio E.tipo n = some x ∧
      (f.usadas < 128 → E.deBytes g f.valor = v) := by
  obtain ⟨hb, d, hd⟩ := ha.representa
  have hn := escribeEntero_largo e
  obtain ⟨x, hx⟩ := Option.ne_none_iff_exists'.1 (hd.haySitio_iff.1 hsitio)
  obtain ⟨i, hi, hc, -⟩ := Directorio.conVariable_sitio hx (E.bytes v)
  have hf := Directorio.ficha_of_clave hi hc
  generalize (d.conVariable E.tipo n (E.bytes v)).fichas[i] = f at hf
  obtain ⟨mods, hg, hrep⟩ := escribeEntero_gives hd hs hn hmin hmax hlong v w g hx hf
  obtain ⟨-, cs, he⟩ := hg.resultado hb e
  rw [← he.mem] at hrep
  have hm := Directorio.mem_of_ficha hf
  have hx' : (d.conVariable E.tipo n (E.bytes v)).sitio E.tipo n = some x := by
    obtain ⟨j, hj, hcj, rfl⟩ := Directorio.conVariable_sitio hx (E.bytes v)
    exact Directorio.sitio_of_clave hj hcj
  refine ⟨he.listo, ?_⟩
  by_cases hv : E.deBytes g f.valor = v
  · rw [if_pos hv] at hrep
    exact ⟨_, f, x, hrep, hf, hx', fun _ => hv⟩
  · rw [if_neg hv] at hrep
    refine ⟨_, f.escribe (E.bytes v), x, hrep, ?_, Directorio.sitio_anota hm hx', fun hk => ?_⟩
    · rw [Directorio.ficha_anota, hf]
      simp
    · have ht : f.tipo = E.tipo := Directorio.tipo_of_ficha hf
      have hadm : f.Admite := Ficha.admite_of_long_le (by rw [ht]; exact hlong)
      rw [Ficha.valor_escribe hadm hk, ht, E.deBytes_bytes]

/-- A read after a write delivers the value written, brought into its range. -/
theorem escribeEntero_vuelta (ha : Alcanza EnRegla b) (hs : SectorOk s) (hsitio : HaySitio b.chip.mem E.tipo n)
    {minimo maximo : α} (hmin : ∀ v : α, ¬ v < minimo) (hmax : ∀ v : α, ¬ maximo < v) (hlong : E.tipo.long ≤ 8)
    (hE : E.Completo) {v w g : α} {r : Int16 × UInt16}
    {b₁ : Bus} (e : escribeEntero E minimo maximo s n v w g b = .ok r b₁) {s₁ : UInt16} (hs₁ : SectorOk s₁)
    (hfat : ∀ x, localizaSector b₁.chip.mem s₁ E.tipo n = some x → posFAT (sec b₁.chip.mem x) ≠ none)
    (valorMin valorMax valorDefault valor basura : α) :
    ∃ x b₂, leeEntero E s₁ n valorMin valorMax valorDefault valor basura b₁ = .ok (acota valorMin valorMax x v) b₂ := by
  have hn := escribeEntero_largo e
  obtain ⟨hb₁, d, f, x, hd, hf, hx, hv⟩ := escribeEntero_deja ha hs hsitio hmin hmax hlong e
  obtain ⟨i, hi, -, -, rfl⟩ := Directorio.exists_of_sitio hf hx
  have hcabe := d.cabe
  have hk : f.usadas < 128 := by
    by_contra hk
    refine hfat _ ((hd.localizaSector_eq hs₁).trans hx) ?_
    rw [(hd.en_sitio hf hx).posFAT_eq (by omega), if_neg hk]
  have hval : E.deBytes basura f.valor = v := by
    refine (hE basura g _ ?_).trans (hv hk)
    rw [← Directorio.tipo_of_ficha hf]
    exact f.ancho _ (List.get_mem ..)
  have hg := leeEntero_gives hd hs₁ hn valorMin valorMax valorDefault valor basura hx
    (Directorio.ficha_conVariable_of_some hf)
  rw [hval] at hg
  obtain ⟨b₂, -, e₂, -⟩ := hg.ejecuta hb₁
  exact ⟨_, b₂, e₂⟩

end Vuelta

/-- The values of the type are in a row. -/
theorem entrega_acota {α : Type} [LT α] [DecidableLT α] [LE α] [Std.IsLinearOrder α] [Std.LawfulOrderLT α]
    {valorMin valorMax : α} (h : valorMin ≤ valorMax) (v : α) (x : UInt16) :
    Entrega valorMin valorMax v (acota valorMin valorMax x v) := by
  unfold acota
  constructor
  · intro h1 h2
    rw [if_neg (Std.not_lt.2 h1), if_neg (Std.not_lt.2 h2)]
    exact ⟨rfl, rfl⟩
  · intro h1
    rw [if_pos h1]
    exact ⟨rfl, rfl⟩
  · intro h1
    have h2 : ¬ v < valorMin := fun h2 => Std.lt_irrefl (Std.lt_trans (Std.lt_of_le_of_lt h h1) h2)
    rw [if_neg h2, if_pos h1]
    exact ⟨rfl, rfl⟩

/-! ### Which families agree with the table -/

theorem initVarFlash_largo (hn : 256 ≤ n.chars.length) (p : Nat → UInt8) (b : Bus) :
    initVarFlash s t n p b = .error .loop b := by
  unfold initVarFlash
  rw [checksumDe_largo hn]
  rfl

/-- The counts of bytes are those of the table, for every type. -/
theorem cuentas_eq_long (t : TipoVar) :
    (∀ b s n p r b', b.Listo → SectorOk s → HaySitio b.chip.mem t n → leeVariable s t n p b = .ok r b' →
      r.valor.length = t.long) ∧
    (∀ b s n p b', b.Listo → s.toNat < 512 → initVarFlash s t n p b = .ok () b' →
      Usa (initVarFlash s t n) p b = {i | i < t.long}) ∧
    ∀ b s n p r b', b.Listo → SectorOk s → HaySitio b.chip.mem t n → escribeVar s t n p b = .ok r b' →
      Usa (escribeVar s t n) p b = {i | i < t.long} := by
  refine ⟨fun b s n p r b' hb hs hsitio e => length_leeVariable hb hs hsitio e, fun b s n p b' hb hs e => ?_,
    fun b s n p r b' hb hs hsitio e => ?_⟩
  · rcases Nat.lt_or_ge 255 n.chars.length with hn | hn
    · rw [initVarFlash_largo hn] at e
      cases e
    · exact usa_initVarFlash hb hs hn p
  · rcases Nat.lt_or_ge 255 n.chars.length with hn | hn
    · rw [escribeVar_largo hn] at e
      cases e
    · exact usa_escribeVar hb hs hsitio hn p

/-- The accessors of a family stay within their objects and deliver what was written if and only if the family is one
of the two unsigned ones. -/
theorem cabal_iff (e : Entorno) (f : Familia) : Cabal e f ↔ f = .u8 ∨ f = .u16 := by
  obtain ⟨hguarda, hcrea, hescribe⟩ := cuentas_eq_long f.tipo
  constructor
  · -- one read of the empty store is enough
    intro h
    have hb : Bus.nuevo.Listo := ⟨rfl, rfl, rfl, rfl, rfl⟩
    have hsitio : HaySitio Bus.nuevo.chip.mem f.tipo Nombre.a := ⟨2, ⟨by decide, by decide⟩, .inl rfl⟩
    obtain ⟨r, -, hg⟩ := leeVariable_gives (m := Bus.nuevo.chip.mem) (t := f.tipo) (n := Nombre.a) (.inl rfl)
      (by decide) fun _ => 0
    obtain ⟨b', -, er, -⟩ := hg.ejecuta hb
    rw [← f.long_eq_sizeof_iff, ← hguarda _ _ _ _ _ _ hb (.inl rfl) hsitio er]
    exact h.guarda _ _ _ _ _ _ hb (.inl rfl) hsitio er
  · intro hf
    have hlong : f.tipo.long = f.sizeof := f.long_eq_sizeof_iff.2 hf
    rw [hlong] at hguarda hcrea hescribe
    refine ⟨hguarda, hcrea, hescribe, ?_⟩
    intro b s n v w g s' b₁ ha hs hsitio hw s₁ hs₁ hfat mn mx d w' g' hle
    rcases hf with rfl | rfl
    · obtain ⟨x, b₂, e₂⟩ := escribeEntero_vuelta (E := enteroU8) ha hs hsitio (Ancho.no_menor .u8) (Ancho.no_mayor .u8)
        (by decide) enteroU8_completo hw hs₁ hfat mn mx d w' g'
      exact ⟨_, b₂, e₂, entrega_acota (α := UInt8) hle v x⟩
    · obtain ⟨x, b₂, e₂⟩ := escribeEntero_vuelta (E := enteroU16) ha hs hsitio (Ancho.no_menor .u16)
        (Ancho.no_mayor .u16) (by decide) enteroU16_completo hw hs₁ hfat mn mx d w' g'
      exact ⟨_, b₂, e₂, entrega_acota (α := UInt16) hle v x⟩

/-- A read of a signed variable of an empty store stores two bytes in an object of one, or eight in one of four, and its
creation fetches as many. -/
theorem leeVariable_desborda :
    (Bus.nuevo.Listo ∧ SectorOk 0 ∧ HaySitio Bus.nuevo.chip.mem Familia.i8.tipo Nombre.a ∧
      HaySitio Bus.nuevo.chip.mem Familia.i32.tipo Nombre.a) ∧
    (∃ r b', leeVariable 0 Familia.i8.tipo Nombre.a (fun _ => 5) Bus.nuevo = .ok r b' ∧
      r.valor.length = 2 ∧ Familia.i8.sizeof = 1) ∧
    (∃ r b', leeVariable 0 Familia.i32.tipo Nombre.a (fun _ => 5) Bus.nuevo = .ok r b' ∧
      r.valor.length = 8 ∧ Familia.i32.sizeof = 4) ∧
    Usa (initVarFlash 2 Familia.i8.tipo Nombre.a) (fun _ => 5) Bus.nuevo = {i | i < 2} ∧
    Usa (initVarFlash 2 Familia.i32.tipo Nombre.a) (fun _ => 5) Bus.nuevo = {i | i < 8} := by
  have hb : Bus.nuevo.Listo := ⟨rfl, rfl, rfl, rfl, rfl⟩
  have hsitio : ∀ t, HaySitio Bus.nuevo.chip.mem t Nombre.a := fun t => ⟨2, ⟨by decide, by decide⟩, .inl rfl⟩
  have hlee : ∀ t, ∃ r b', leeVariable 0 t Nombre.a (fun _ => 5) Bus.nuevo = .ok r b' ∧ r.valor.length = t.long := by
    intro t
    obtain ⟨r, -, hg⟩ := leeVariable_gives (m := Bus.nuevo.chip.mem) (t := t) (n := Nombre.a) (.inl rfl) (by decide)
      fun _ => 5
    obtain ⟨b', -, e, -⟩ := hg.ejecuta hb
    exact ⟨r, b', e, length_leeVariable hb (.inl rfl) (hsitio t) e⟩
  obtain ⟨r, b', e, h⟩ := hlee .var8
  obtain ⟨r', b'', e', h'⟩ := hlee .var32
  exact ⟨⟨hb, .inl rfl, hsitio _, hsitio _⟩, ⟨r, b', e, h, rfl⟩, ⟨r', b'', e', h', rfl⟩,
    usa_initVarFlash hb (by decide) (by decide) _, usa_initVarFlash hb (by decide) (by decide) _⟩

end Wiznet
