import Wiznet.Store.Effects

/-!
# One variable in its sector

`Imagen m x c k d`: sector `x` holds the header bytes `c`, a FAT with `k` positions used up and the record bytes `d`,
and is blank elsewhere.  Each command of the store takes one such state to the next one, exactly.  A `Ficha` is a
variable with the values written since its sector was last initialised; `Ficha.En` says that a sector holds it.
-/

namespace Wiznet

open NorFlash (Mem Cmd Holds replay ExactAll)
open W25Q16

/-! ### Sectors -/

theorem sec_eq {m : Mem} {x o : Nat} (hx : x < 512) (ho : o < 4096) : sec m x o = m (4096 * x + o) := by
  unfold sec
  rw [Nat.mod_eq_of_lt (show 4096 * x + o < w25q16.capacity by show _ < 2097152; omega)]

private theorem addr_mod {x o : Nat} (hx : x < 512) (ho : o < 4096) :
    (4096 * x + o) % w25q16.capacity = 4096 * x + o :=
  Nat.mod_eq_of_lt (by show _ < 2097152; omega)

/-- A sector is untouched by commands for other sectors; sector numbers alias from 512 on. -/
theorem replay_of_sector {cs : List Cmd} {m : Mem} {x o : Nat} (ho : o < 4096)
    (h : ∀ c ∈ cs, c.addr / 4096 % 512 ≠ x) : replay w25q16 cs m (4096 * x + o) = m (4096 * x + o) := by
  refine NorFlash.replay_of_sector_ne fun c hc he => h c hc ?_
  have he' : (4096 * x + o) / 4096 = c.addr % 2097152 / 4096 := he
  omega

structure Imagen (m : Mem) (x : Nat) (c : List UInt8) (k : Nat) (d : List UInt8) : Prop where
  cabecera : Holds m (4096 * x) 35 c
  fat : ∀ i < 16, m (4096 * x + (35 + i)) = Thermometer.byte k i
  datos : Holds m (4096 * x + 51) 4045 d

namespace Imagen

variable {m m' : Mem} {x : Nat} {c d v : List UInt8} {k : Nat}

theorem congr (h : Imagen m x c k d) (he : ∀ o < 4096, m' (4096 * x + o) = m (4096 * x + o)) : Imagen m' x c k d where
  cabecera i hi := by rw [he i (by omega), h.cabecera i hi]
  fat i hi := by rw [he (35 + i) (by omega), h.fat i hi]
  datos i hi := by rw [Nat.add_assoc, he (51 + i) (by omega), ← Nat.add_assoc, h.datos i hi]

/-- A blank sector. -/
theorem blanco (h : ∀ o < 4096, m (4096 * x + o) = 0xFF) : Imagen m x [] 0 [] where
  cabecera i hi := by rw [h i (by omega)]; rfl
  fat i hi := by rw [h (35 + i) (by omega), Thermometer.byte_zero]
  datos i hi := by rw [Nat.add_assoc, h (51 + i) (by omega)]; rfl

theorem blanco_apply (h : Imagen m x [] 0 []) {o : Nat} (ho : o < 4096) : m (4096 * x + o) = 0xFF := by
  rcases Nat.lt_or_ge o 35 with h35 | h35
  · rw [h.cabecera o h35]; rfl
  rcases Nat.lt_or_ge o 51 with h51 | h51
  · rw [show o = 35 + (o - 35) by omega, h.fat _ (by omega), Thermometer.byte_zero]
  · rw [show 4096 * x + o = 4096 * x + 51 + (o - 51) by omega, h.datos _ (by omega)]; rfl

variable (hx : x < 512)

include hx

theorem borra (m : Mem) : Imagen (Cmd.apply w25q16 (.erase (4096 * x)) m) x [] 0 [] := by
  refine blanco fun o ho => ?_
  rw [Cmd.apply_erase, if_pos]
  show (4096 * x + o) / 4096 = (4096 * x % 2097152) / 4096
  omega

/-- The next part of the header. -/
theorem escribeCabecera (h : Imagen m x c k d) (hv : c.length + v.length ≤ 35) :
    Imagen (Cmd.apply w25q16 (.program (4096 * x + c.length) v) m) x (c ++ v) k d ∧
      Cmd.Exact w25q16 m (.program (4096 * x + c.length) v) := by
  have hmod := addr_mod (o := c.length) hx (by omega)
  have hpage : (4096 * x + c.length) % 256 + v.length ≤ 256 := by omega
  obtain ⟨h1, h2⟩ := h.cabecera.append (g := w25q16) (by show _ ≤ 2097152; omega) hv hpage
  have hout : ∀ o, 35 ≤ o → Cmd.apply w25q16 (.program (4096 * x + c.length) v) m (4096 * x + o) = m (4096 * x + o) :=
    fun o ho => Cmd.apply_program_of_out (by rw [hmod]; exact hpage) (by rw [hmod]; omega)
  refine ⟨⟨h1, fun i hi => ?_, fun i hi => ?_⟩, h2⟩
  · rw [hout _ (by omega), h.fat i hi]
  · rw [Nat.add_assoc, hout _ (by omega), ← Nat.add_assoc, h.datos i hi]

/-- More record bytes, in one page. -/
theorem escribeDatos (h : Imagen m x c k d) (hv : 51 + d.length + v.length ≤ 4096)
    (hpage : (51 + d.length) % 256 + v.length ≤ 256) :
    Imagen (Cmd.apply w25q16 (.program (4096 * x + 51 + d.length) v) m) x c k (d ++ v) ∧
      Cmd.Exact w25q16 m (.program (4096 * x + 51 + d.length) v) := by
  rcases Nat.eq_zero_or_pos v.length with hv0 | hv0
  · have hv' : v = [] := List.eq_nil_of_length_eq_zero hv0
    subst hv'
    refine ⟨?_, Nat.le_of_lt (Nat.mod_lt _ w25q16.page_pos), fun i hi => absurd hi (by simp)⟩
    rw [List.append_nil]
    exact h.congr fun o _ => by simp [Cmd.apply, NorFlash.Geometry.load, NorFlash.and_ff]
  have hmod : (4096 * x + 51 + d.length) % w25q16.capacity = 4096 * x + 51 + d.length := by
    rw [Nat.add_assoc]; exact addr_mod hx (by omega)
  have hpage' : (4096 * x + 51 + d.length) % 256 + v.length ≤ 256 := by omega
  obtain ⟨h1, h2⟩ := h.datos.append (g := w25q16) (by show _ ≤ 2097152; omega) (by omega) hpage'
  have hout : ∀ o < 51, Cmd.apply w25q16 (.program (4096 * x + 51 + d.length) v) m (4096 * x + o) = m (4096 * x + o) :=
    fun o ho => Cmd.apply_program_of_out (by rw [hmod]; exact hpage') (by rw [hmod]; omega)
  refine ⟨⟨fun i hi => ?_, fun i hi => ?_, h1⟩, h2⟩
  · rw [hout _ (by omega), h.cabecera i hi]
  · rw [hout _ (by omega), h.fat i hi]

/-- One more position of the FAT. -/
theorem avanzaFAT (h : Imagen m x c k d) (hk : k < 128) :
    Imagen (Cmd.apply w25q16 (.program (4096 * x + (35 + k / 8)) [Thermometer.byte k (k / 8) <<< 1]) m) x c (k + 1) d ∧
      Cmd.Exact w25q16 m (.program (4096 * x + (35 + k / 8)) [Thermometer.byte k (k / 8) <<< 1]) := by
  have hmod := addr_mod (o := 35 + k / 8) hx (by omega)
  rw [← Thermometer.byte_succ rfl]
  have hout : ∀ o, o ≠ 35 + k / 8 →
      Cmd.apply w25q16 (.program (4096 * x + (35 + k / 8)) [Thermometer.byte (k + 1) (k / 8)]) m (4096 * x + o) =
        m (4096 * x + o) := fun o ho => by rw [Cmd.apply_program_byte, if_neg (by rw [hmod]; omega)]
  have hpage : (4096 * x + (35 + k / 8)) % w25q16.capacity % w25q16.pageSize + 1 ≤ w25q16.pageSize :=
    Nat.mod_lt _ w25q16.page_pos
  refine ⟨⟨fun i hi => ?_, fun i hi => ?_, fun i hi => ?_⟩, hpage, fun i hi => ?_⟩
  · rw [hout _ (by omega), h.cabecera i hi]
  · by_cases hi8 : k / 8 = i
    · subst hi8
      rw [Cmd.apply_program_byte, if_pos hmod.symm, h.fat _ hi, Thermometer.byte_and_succ]
    · rw [hout _ (by omega), h.fat i hi, Thermometer.byte_succ_of_ne hi8]
  · rw [Nat.add_assoc, hout _ (by omega), ← Nat.add_assoc, h.datos i hi]
  · have hi0 : i = 0 := by simpa using hi
    subst hi0
    have hb : w25q16.byteAddr (4096 * x + (35 + k / 8)) 0 = 4096 * x + (35 + k / 8) := by
      rw [NorFlash.byteAddr_eq, hmod, Nat.add_zero]
      rw [Nat.add_zero]
      exact Nat.mod_lt _ w25q16.page_pos
    rw [hb, h.fat _ (by omega)]
    exact Thermometer.byte_and_succ k _

end Imagen

/-! ### Writing a sector -/

/-- The header of a variable: type, checksum, name and its terminator. -/
def cabeceraDe (t : TipoVar) (n : Nombre) : List UInt8 :=
  [t.codigo] ++ [(n.suma >>> 8).toUInt8, (n.suma &&& 0xFF).toUInt8] ++ (n.chars.take (LONGNAME - 1) ++ [0])

theorem length_cabeceraDe (t : TipoVar) (n : Nombre) : (cabeceraDe t n).length ≤ 35 := by
  have : (n.chars.take (LONGNAME - 1)).length ≤ 31 := by
    rw [List.length_take]
    exact Nat.min_le_left ..
  simp only [cabeceraDe, List.length_append, List.length_cons, List.length_nil]
  omega

/-- The states of a blank sector through the commands of `initVarFlash`. -/
theorem initOrdenes_pasos {m : Mem} {s : UInt16} (hs : s.toNat < 512) (h : Imagen m s.toNat [] 0 []) (t : TipoVar)
    (n : Nombre) (p : Nat → UInt8) :
    ∃ c₁ c₂ c₃ c₄, initOrdenes s t n p = [c₁, c₂, c₃, c₄] ∧ ExactAll w25q16 [c₁, c₂, c₃, c₄] m ∧
      Imagen (replay w25q16 [c₁] m) s.toNat [t.codigo] 0 [] ∧
      Imagen (replay w25q16 [c₁, c₂] m) s.toNat
        ([t.codigo] ++ [(n.suma >>> 8).toUInt8, (n.suma &&& 0xFF).toUInt8]) 0 [] ∧
      Imagen (replay w25q16 [c₁, c₂, c₃] m) s.toNat (cabeceraDe t n) 0 [] ∧
      Imagen (replay w25q16 [c₁, c₂, c₃, c₄] m) s.toNat (cabeceraDe t n) 0 (bytesDe p t.long) := by
  have hlen := length_cabeceraDe t n
  have ht := t.long_le
  obtain ⟨h1, e1⟩ := h.escribeCabecera hs (v := [t.codigo]) (by simp)
  obtain ⟨h2, e2⟩ := h1.escribeCabecera hs (v := [(n.suma >>> 8).toUInt8, (n.suma &&& 0xFF).toUInt8]) (by simp)
  obtain ⟨h3, e3⟩ := h2.escribeCabecera hs (v := n.chars.take (LONGNAME - 1) ++ [0]) (by
    rw [← List.length_append]
    exact hlen)
  obtain ⟨h4, e4⟩ := h3.escribeDatos hs (v := bytesDe p t.long) (by rw [length_bytesDe]; simp; omega)
    (by rw [length_bytesDe]; simp; omega)
  exact ⟨_, _, _, _, rfl, ⟨e1, e2, e3, e4, trivial⟩, h1, h2, h3, h4⟩

theorem initOrdenes_imagen {m : Mem} {s : UInt16} (hs : s.toNat < 512) (h : Imagen m s.toNat [] 0 []) (t : TipoVar)
    (n : Nombre) (p : Nat → UInt8) :
    Imagen (replay w25q16 (initOrdenes s t n p) m) s.toNat (cabeceraDe t n) 0 (bytesDe p t.long) ∧
      ExactAll w25q16 (initOrdenes s t n p) m := by
  obtain ⟨c₁, c₂, c₃, c₄, hc, he, -, -, -, h4⟩ := initOrdenes_pasos hs h t n p
  rw [hc]
  exact ⟨h4, he⟩

/-- The bytes of a record, one program each. -/
theorem bytesOrdenes_imagen {x k : Nat} {c : List UInt8} (hx : x < 512) (vs : List UInt8) : ∀ {m : Mem}
    {d : List UInt8}, Imagen m x c k d → 51 + d.length + vs.length ≤ 4096 →
    Imagen (replay w25q16 (bytesOrdenes (4096 * x + 51 + d.length) vs) m) x c k (d ++ vs) ∧
      ExactAll w25q16 (bytesOrdenes (4096 * x + 51 + d.length) vs) m := by
  induction vs with
  | nil => intro m d h _; rw [List.append_nil]; exact ⟨h, trivial⟩
  | cons v vs ih =>
    intro m d h hfit
    rw [List.length_cons] at hfit
    obtain ⟨h1, e1⟩ := h.escribeDatos hx (v := [v]) (by rw [List.length_singleton]; omega)
      (by rw [List.length_singleton]; omega)
    obtain ⟨h2, e2⟩ := ih h1 (by rw [List.length_append, List.length_singleton]; omega)
    rw [List.length_append, List.length_singleton, ← Nat.add_assoc] at h2 e2
    rw [List.append_assoc, List.singleton_append] at h2
    exact ⟨h2, e1, e2⟩

theorem take_bytesOrdenes (a j : Nat) (vs : List UInt8) : (bytesOrdenes a vs).take j = bytesOrdenes a (vs.take j) := by
  induction vs generalizing a j with
  | nil => simp [bytesOrdenes]
  | cons v vs ih =>
    cases j with
    | zero => simp [bytesOrdenes]
    | succ j => simp [bytesOrdenes, ih]

/-! ### Reading a sector -/

namespace Imagen

variable {m : Mem} {x k : Nat} {c d : List UInt8}

theorem sec_cabecera (h : Imagen m x c k d) (hx : x < 512) {o : Nat} (ho : o < 35) : sec m x o = c.getD o 0xFF := by
  rw [sec_eq hx (by omega), h.cabecera o ho]

theorem sec_datos (h : Imagen m x c k d) (hx : x < 512) {o : Nat} (ho : 51 + o < 4096) :
    sec m x (51 + o) = d.getD o 0xFF := by
  rw [sec_eq hx ho, ← Nat.add_assoc, h.datos o (by omega)]

/-- The FAT is read as it was written. -/
theorem posFAT_eq (h : Imagen m x c k d) (hx : x < 512) :
    posFAT (sec m x) = if k < 128 then some k else none := by
  refine Thermometer.find_first fun p hp => ?_
  show (sec m x (35 + p / 8)).toNat.testBit (p % 8) = _
  rw [sec_eq hx (by omega), h.fat _ (by omega)]
  rfl

theorem valorEn_eq (h : Imagen m x c k d) (hx : x < 512) {t : TipoVar}
    (hfit : 51 + ((if k < 128 then k else 0) + 1) * t.long ≤ 4096) :
    valorEn m x t = (List.range t.long).map fun i => d.getD ((if k < 128 then k else 0) * t.long + i) 0xFF := by
  have hp : (posFAT (sec m x)).getD 0 = if k < 128 then k else 0 := by
    rw [h.posFAT_eq hx]
    split <;> rfl
  unfold valorEn
  rw [hp, show STARTDAT.toNat = 51 from rfl]
  refine List.map_congr_left fun i hi => ?_
  have hi' : i < t.long := List.mem_range.1 hi
  rw [Nat.add_mul, Nat.one_mul] at hfit
  rw [Nat.add_assoc, h.sec_datos hx (by omega)]

theorem tipo_eq {t : TipoVar} {n : Nombre} (h : Imagen m x (cabeceraDe t n) k d) (hx : x < 512) :
    sec m x 0 = t.codigo := h.sec_cabecera hx (by decide)

theorem chkSum_eq {t : TipoVar} {n : Nombre} (h : Imagen m x (cabeceraDe t n) k d) (hx : x < 512) :
    ((sec m x 1).toUInt16 <<< 8) + (sec m x 2).toUInt16 = n.suma := by
  rw [h.sec_cabecera hx (o := 1) (by decide), h.sec_cabecera hx (o := 2) (by decide)]
  show ((n.suma >>> 8).toUInt8.toUInt16 <<< 8) + ((n.suma &&& 0xFF).toUInt8).toUInt16 = n.suma
  rw [low_byte, u16_of_bytes]

/-- The name read back decides which names match: those with the same first `LONGNAME - 1` characters. -/
theorem nombreOk_iff {t : TipoVar} {n n' : Nombre} (h : Imagen m x (cabeceraDe t n) k d) (hx : x < 512) :
    NombreOk (sec m x) n' ↔ n'.chars.take (LONGNAME - 1) = n.chars.take (LONGNAME - 1) := by
  have hL : LONGNAME - 1 = 31 := rfl
  have hnul : 0 ∉ n.chars.take (LONGNAME - 1) := fun h0 => n.noNul (List.mem_of_mem_take h0)
  have hcab : cabeceraDe t n = [t.codigo] ++ [(n.suma >>> 8).toUInt8, (n.suma &&& 0xFF).toUInt8] ++
      (n.chars.take (LONGNAME - 1) ++ [0]) := rfl
  have hle : (n.chars.take (LONGNAME - 1)).length ≤ 31 := by
    rw [List.length_take]
    exact Nat.min_le_left ..
  generalize n.chars.take (LONGNAME - 1) = l at hnul hcab hle ⊢
  have hchar : ∀ i < l.length, sec m x (3 + i) = l.getD i 0 := by
    intro i hi
    have e : (cabeceraDe t n).getD (3 + i) 0xFF = (l ++ [0]).getD i 0xFF := by
      rw [hcab, List.getD_append_right _ _ _ _ (by simp)]
      simp
    rw [h.sec_cabecera hx (by omega), e, List.getD_append _ _ _ _ hi, List.getD_eq_getElem _ _ hi,
      List.getD_eq_getElem _ _ hi]
  have hfin : sec m x (3 + l.length) = 0 := by
    rw [h.sec_cabecera hx (by omega), hcab, List.getD_append_right _ _ _ _ (by simp)]
    simp
  have hpos : ∀ u : List UInt8, 0 ∉ u → ∀ i < u.length, u.getD i 0 ≠ 0 := by
    intro u hu i hi he
    rw [List.getD_eq_getElem _ _ hi] at he
    exact hu (he ▸ List.getElem_mem hi)
  constructor
  · intro hok
    -- both names end at the same character
    have hlen : l.length = min 31 n'.chars.length := by
      rcases Nat.lt_trichotomy l.length (min 31 n'.chars.length) with hlt | heq | hgt
      · have := hok l.length (by omega) (by omega)
        rw [hfin] at this
        exact absurd this.symm (hpos _ n'.noNul _ (by omega))
      · exact heq
      · have := hok n'.chars.length (by omega) (Nat.le_refl _)
        rw [hchar _ (by omega), Nombre.at', List.getD_eq_default _ _ (Nat.le_refl _)] at this
        exact absurd this (hpos _ hnul _ (by omega))
    refine List.ext_getElem (by rw [List.length_take, hL, hlen]) fun i h1 h2 => ?_
    rw [List.length_take] at h1
    have := hok i (by omega) (by omega)
    rw [hchar i h2, Nombre.at', List.getD_eq_getElem _ _ h2, List.getD_eq_getElem _ _ (by omega)] at this
    rw [List.getElem_take, this]
  · intro he i hi hin
    have hlen : l.length = min 31 n'.chars.length := by rw [← he, List.length_take, hL]
    rcases Nat.lt_or_ge i l.length with hlt | hge
    · rw [hchar i hlt, ← he, Nombre.at', List.getD_eq_getElem?_getD, List.getElem?_take_of_lt (by omega),
        ← List.getD_eq_getElem?_getD]
    · rw [show i = l.length by omega, hfin, Nombre.at', List.getD_eq_default _ _ (by omega)]

theorem coincide_iff {t t' : TipoVar} {n n' : Nombre} {chkSumStr : UInt16} (h : Imagen m x (cabeceraDe t n) k d)
    (hx : x < 512) :
    Coincide (sec m x) t' n' chkSumStr ↔
      t' = t ∧ chkSumStr = n.suma ∧ n'.chars.take (LONGNAME - 1) = n.chars.take (LONGNAME - 1) := by
  rw [← h.nombreOk_iff hx]
  constructor
  · intro hc
    refine ⟨TipoVar.codigo_inj.1 ?_, ?_, hc.nombre⟩
    · rw [← hc.tipo, h.tipo_eq hx]
    · rw [← hc.chkSum, h.chkSum_eq hx]
  · rintro ⟨rfl, rfl, hok⟩
    exact ⟨h.tipo_eq hx, h.chkSum_eq hx, hok⟩

end Imagen

/-! ### Variables -/

/-- A variable and the values written to it since its sector was last initialised, the oldest first. -/
structure Ficha where
  tipo : TipoVar
  nombre : Nombre
  historial : List (List UInt8)
  ancho : ∀ v ∈ historial, v.length = tipo.long
  escrita : 0 < historial.length
  posiciones : historial.length ≤ 129
  cabe : 51 + historial.length * tipo.long ≤ 4096

namespace Ficha

/-- Positions of the FAT used up. -/
def usadas (f : Ficha) : Nat := f.historial.length - 1

/-- The sector holds the variable. -/
def En (f : Ficha) (m : Mem) (x : Nat) : Prop :=
  Imagen m x (cabeceraDe f.tipo f.nombre) f.usadas f.historial.flatten

/-- Record that is read: the current one or, once the FAT is used up, the first one. -/
def leida (f : Ficha) : Nat := if f.usadas < 128 then f.usadas else 0

theorem leida_lt (f : Ficha) : f.leida < f.historial.length := by
  have := f.escrita
  unfold leida usadas
  split <;> omega

/-- What `leeVariable` delivers. -/
def valor (f : Ficha) : List UInt8 := f.historial.get ⟨f.leida, f.leida_lt⟩

private theorem getD_flatten {w : Nat} : ∀ {L : List (List UInt8)} {i j : Nat} (_ : ∀ v ∈ L, v.length = w)
    (hi : i < L.length), j < w → L.flatten.getD (i * w + j) 0xFF = (L.get ⟨i, hi⟩).getD j 0xFF
  | [], _, _, _, hi, _ => absurd hi (Nat.not_lt_zero _)
  | v :: L, 0, j, hw, _, hj => by
    have hv := hw v (List.mem_cons_self ..)
    rw [List.flatten_cons, Nat.zero_mul, Nat.zero_add, List.getD_append _ _ _ _ (by omega)]
    rfl
  | v :: L, i + 1, j, hw, hi, hj => by
    have hv := hw v (List.mem_cons_self ..)
    rw [List.flatten_cons, List.getD_append_right _ _ _ _ (by rw [hv, Nat.add_mul]; omega), hv,
      show (i + 1) * w + j - w = i * w + j by rw [Nat.add_mul, Nat.one_mul]; omega,
      getD_flatten (fun u hu => hw u (List.mem_cons_of_mem _ hu)) (Nat.lt_of_succ_lt_succ hi) hj]
    rfl

theorem length_flatten (f : Ficha) : f.historial.flatten.length = f.historial.length * f.tipo.long := by
  rw [List.length_flatten, List.map_congr_left f.ancho, List.map_const', List.sum_replicate_nat]

variable {f : Ficha} {m : Mem} {x : Nat}

theorem En.valorEn_eq (h : f.En m x) (hx : x < 512) : valorEn m x f.tipo = f.valor := by
  have hl := f.leida_lt
  have hfit : 51 + (f.leida + 1) * f.tipo.long ≤ 4096 :=
    Nat.le_trans (Nat.add_le_add_left (Nat.mul_le_mul_right _ hl) _) f.cabe
  rw [Imagen.valorEn_eq h hx hfit]
  have hv : f.valor.length = f.tipo.long := f.ancho _ (List.get_mem ..)
  refine List.ext_getElem (by simp [hv]) fun i h1 h2 => ?_
  have hi : i < f.tipo.long := by simpa using h1
  rw [List.getElem_map, List.getElem_range]
  exact (getD_flatten f.ancho hl hi).trans (List.getD_eq_getElem _ _ h2)

theorem En.posFAT_eq (h : f.En m x) (hx : x < 512) :
    posFAT (sec m x) = if f.usadas < 128 then some f.usadas else none := Imagen.posFAT_eq h hx

theorem En.posFAT_some (h : f.En m x) (hx : x < 512) {k : Nat} (hk : posFAT (sec m x) = some k) :
    f.usadas < 128 ∧ k = f.usadas := by
  rw [h.posFAT_eq hx] at hk
  split at hk
  · rename_i hu
    cases hk
    exact ⟨hu, rfl⟩
  · cases hk

theorem En.posFAT_none (h : f.En m x) (hx : x < 512) (hk : posFAT (sec m x) = none) : ¬ f.usadas < 128 := by
  intro hu
  rw [h.posFAT_eq hx, if_pos hu] at hk
  cases hk

theorem En.ne_ff (h : f.En m x) (hx : x < 512) : sec m x 0 ≠ 0xFF := by
  rw [Imagen.tipo_eq h hx]
  exact f.tipo.codigo_ne_ff

/-! ### Creation and update -/

/-- A variable just created. -/
def nueva (t : TipoVar) (n : Nombre) (p : Nat → UInt8) : Ficha where
  tipo := t
  nombre := n
  historial := [bytesDe p t.long]
  ancho v hv := by rw [List.mem_singleton.1 hv, length_bytesDe]
  escrita := by simp
  posiciones := by simp
  cabe := by
    have := t.long_le
    simp only [List.length_singleton]
    omega

theorem valor_nueva (t : TipoVar) (n : Nombre) (p : Nat → UInt8) : (nueva t n p).valor = bytesDe p t.long := rfl

/-- One more record, in the positions and in the sector. -/
def Sigue (f : Ficha) : Prop := f.usadas < 128 ∧ 51 + (f.historial.length + 1) * f.tipo.long ≤ 4096

instance (f : Ficha) : Decidable f.Sigue :=
  inferInstanceAs (Decidable (f.usadas < 128 ∧ 51 + (f.historial.length + 1) * f.tipo.long ≤ 4096))

/-- The variable after a write. -/
def escribe (f : Ficha) (p : Nat → UInt8) : Ficha :=
  if h : f.Sigue then
    { f with
      historial := f.historial ++ [bytesDe p f.tipo.long]
      ancho := fun v hv => by
        rcases List.mem_append.1 hv with hv | hv
        · exact f.ancho v hv
        · rw [List.mem_singleton.1 hv, length_bytesDe]
      escrita := by simp
      posiciones := by
        have := h.1
        unfold usadas at this
        simp only [List.length_append, List.length_singleton]
        omega
      cabe := by rw [List.length_append, List.length_singleton]; exact h.2 }
  else nueva f.tipo f.nombre p

theorem escribe_of_sigue (h : f.Sigue) (p : Nat → UInt8) :
    (f.escribe p).tipo = f.tipo ∧ (f.escribe p).nombre = f.nombre ∧
      (f.escribe p).historial = f.historial ++ [bytesDe p f.tipo.long] := by
  unfold escribe
  rw [dif_pos h]
  exact ⟨rfl, rfl, rfl⟩

theorem escribe_of_not_sigue (h : ¬ f.Sigue) (p : Nat → UInt8) :
    f.escribe p = nueva f.tipo f.nombre p := dif_neg h

theorem escribe_tipo (f : Ficha) (p : Nat → UInt8) : (f.escribe p).tipo = f.tipo := by
  unfold escribe
  split <;> rfl

theorem escribe_nombre (f : Ficha) (p : Nat → UInt8) : (f.escribe p).nombre = f.nombre := by
  unfold escribe
  split <;> rfl

/-- The next record stays in the sector, if there is one. -/
def Admite (f : Ficha) : Prop := f.usadas < 128 → 51 + (f.historial.length + 1) * f.tipo.long ≤ 4096

/-- Records of at most 8 bytes always do. -/
theorem admite_of_long_le (h : f.tipo.long ≤ 8) : f.Admite := by
  intro _
  have : (f.historial.length + 1) * f.tipo.long ≤ (129 + 1) * 8 := Nat.mul_le_mul (Nat.succ_le_succ f.posiciones) h
  omega

theorem nueva_en {s : UInt16} (hs : s.toNat < 512) {t : TipoVar} {n : Nombre} (p : Nat → UInt8)
    (h : Imagen m s.toNat [] 0 []) :
    (nueva t n p).En (replay w25q16 (initOrdenes s t n p) m) s.toNat ∧ ExactAll w25q16 (initOrdenes s t n p) m := by
  have := initOrdenes_imagen hs h t n p
  unfold En
  rwa [show (nueva t n p).historial.flatten = bytesDe p t.long from List.append_nil _]

/-- The commands of a write while positions are left, cut after the first `j` bytes of the record. -/
theorem En.sigue {s : UInt16} (hs : s.toNat < 512) (h : f.En m s.toNat) (hs' : f.Sigue) (p : Nat → UInt8) :
    ∃ c₁, escribeOrdenes m s f.tipo f.nombre p = c₁ ::
        bytesOrdenes (4096 * s.toNat + 51 + f.historial.flatten.length) (bytesDe p f.tipo.long) ∧
      c₁.Exact w25q16 m ∧
      Imagen (c₁.apply w25q16 m) s.toNat (cabeceraDe f.tipo f.nombre) (f.usadas + 1) f.historial.flatten := by
  have hk := hs'.1
  have hpos : posFAT (sec m s.toNat) = some f.usadas := by rw [h.posFAT_eq hs, if_pos hk]
  have hbyte : sec m s.toNat (STARTFAT.toNat + f.usadas / 8) = Thermometer.byte f.usadas (f.usadas / 8) := by
    rw [show STARTFAT.toNat = 35 from rfl, sec_eq hs (by omega)]
    exact Imagen.fat h _ (by omega)
  have hlen : 4096 * s.toNat + STARTDAT.toNat + (f.usadas + 1) * f.tipo.long =
      4096 * s.toNat + 51 + f.historial.flatten.length := by
    have := f.escrita
    rw [f.length_flatten, show f.usadas + 1 = f.historial.length by unfold usadas; omega]
    rfl
  obtain ⟨h1, e1⟩ := Imagen.avanzaFAT hs h hk
  refine ⟨_, ?_, e1, h1⟩
  unfold escribeOrdenes
  rw [hpos]
  dsimp only
  rw [hbyte, hlen]
  rfl

/-- With the positions used up, the sector is erased and written anew. -/
theorem En.agotada {s : UInt16} (hs : s.toNat < 512) (h : f.En m s.toNat) (hk : ¬ f.usadas < 128) (p : Nat → UInt8) :
    escribeOrdenes m s f.tipo f.nombre p = .erase (4096 * s.toNat) :: initOrdenes s f.tipo f.nombre p := by
  unfold escribeOrdenes
  rw [h.posFAT_eq hs, if_neg hk]

/-- A write to a variable addresses its sector only. -/
theorem En.addr_escribe {s : UInt16} (hs : s.toNat < 512) (h : f.En m s.toNat) (ha : f.Admite) {p : Nat → UInt8}
    {c : Cmd} (hc : c ∈ escribeOrdenes m s f.tipo f.nombre p) : c.addr / 4096 = s.toNat := by
  refine addr_escribeOrdenes (fun k hk => ?_) hc
  obtain ⟨hu, rfl⟩ := h.posFAT_some hs hk
  have := f.escrita
  rw [show f.usadas + 2 = f.historial.length + 1 by unfold usadas; omega]
  exact ha hu

theorem En.escribe {s : UInt16} (hs : s.toNat < 512) (h : f.En m s.toNat) (ha : f.Admite) (p : Nat → UInt8) :
    (f.escribe p).En (replay w25q16 (escribeOrdenes m s f.tipo f.nombre p) m) s.toNat ∧
      ExactAll w25q16 (escribeOrdenes m s f.tipo f.nombre p) m := by
  by_cases hk : f.usadas < 128
  · have hs' : f.Sigue := ⟨hk, ha hk⟩
    obtain ⟨c₁, hc, e1, h1⟩ := h.sigue hs hs' p
    have hfit := hs'.2
    rw [Nat.add_mul, Nat.one_mul] at hfit
    obtain ⟨h2, e2⟩ := bytesOrdenes_imagen hs (bytesDe p f.tipo.long) h1
      (by rw [length_bytesDe, f.length_flatten]; omega)
    obtain ⟨ht, hn, hh⟩ := escribe_of_sigue hs' p
    rw [hc]
    refine ⟨?_, e1, e2⟩
    have hu : (f.escribe p).usadas = f.usadas + 1 := by
      have := f.escrita
      unfold usadas
      rw [hh, List.length_append, List.length_singleton]
      omega
    unfold En
    rw [ht, hn, hu, hh, List.flatten_append, List.flatten_singleton]
    exact h2
  · rw [h.agotada hs hk p, escribe_of_not_sigue (fun h' => hk h'.1)]
    obtain ⟨h1, e1⟩ := nueva_en hs p (Imagen.borra hs m)
    exact ⟨h1, trivial, e1⟩

end Ficha

end Wiznet
