import Wiznet.Dns.Cliente
import Wiznet.Library.Wire
import Mathlib.Data.List.TakeWhile

/-!
# Names in a DNS message

What `dns_makequery` writes and `parse_name` reads, against the format: a name is its labels, each with its length
before it, up to a zero or to a pointer, from which it goes on elsewhere.  `parse_name` reads every name but two
kinds, those of more characters than its array and those in which a pointer leads to a pointer, and it puts its zero
past the array when the characters fill it; `dns_makequery` writes the labels up to the first empty one.
-/

namespace Wiznet

namespace DNS

open Wire

/-! ### The format -/

/-- A name at `p` of a message of `e` bytes: its labels, the bytes it takes there and whether no pointer of it leads to
another one. -/
inductive Nombra (msg : Buffer) (e : Nat) : Nat → List (List UInt8) → Nat → Bool → Prop
  | fin {p : Nat} (he : p < e) (h : msg p = 0) : Nombra msg e p [] 1 true
  | etiqueta {p n : Nat} {x : List UInt8} {ls : List (List UInt8)} {d : Bool} (hx : x ≠ []) (h63 : x.length ≤ 63)
      (hat : At msg p (x.length.toUInt8 :: x)) (hs : Nombra msg e (p + 1 + x.length) ls n d) :
      Nombra msg e p (x :: ls) (x.length + 1 + n) d
  | puntero {p q n : Nat} {ls : List (List UInt8)} {d : Bool} (he : p + 1 < e) (h : msg p &&& 0xc0 = 0xc0)
      (hq : (msg p &&& 0x3f).toNat * 256 + (msg (p + 1)).toNat = q) (hs : Nombra msg e q ls n d) :
      Nombra msg e p ls 2 (d && decide (msg q &&& 0xc0 ≠ 0xc0))

/-- The characters of a name, each label with a dot after it. -/
def texto (ls : List (List UInt8)) : List UInt8 := ls.flatMap (· ++ [PUNTO])

/-- The bytes of a name without pointers. -/
def nombreBytes (ls : List (List UInt8)) : List UInt8 := (ls.flatMap fun l => l.length.toUInt8 :: l) ++ [0]

/-- The labels that a host has before the first empty one. -/
def etiquetas (host : List UInt8) : List (List UInt8) := (host.splitOn PUNTO).takeWhile (· ≠ [])

/-! ### What is copied out -/

/-- The loop of `parse_name` with what it writes to `buf`. -/
def parseNombreResto (msg : Buffer) (cp : Nat) (indirect : Bool) (clen len : Nat) (buf : List UInt8) :
    Option Nat × List UInt8 :=
  match segmento msg cp indirect clen with
  | (slen, cp, indirect, clen) =>
    if slen = 0 then
      -- the root name is a single dot
      (some clen, (if buf = [] then [PUNTO] else buf) ++ [0])
    else if len < slen + 1 then (none, buf)
    else parseNombreResto msg (cp + slen) indirect (if indirect then clen else clen + slen) (len - (slen + 1))
      (buf ++ msg.lee cp slen ++ [PUNTO])
  termination_by len

def parseNombre (msg : Buffer) (compressed : Nat) (len : Nat) : Option Nat × List UInt8 :=
  parseNombreResto msg compressed false 0 len []

variable {msg : Buffer} {e p q n cp clen len : Nat} {indirect d : Bool} {buf : List UInt8} {ls : List (List UInt8)}

/-- No message makes it write more than a byte past the characters there is room for, and that only once it has the
name. -/
theorem length_parseNombreResto (hbuf : buf.length + len = MAXCNAME) :
    (parseNombreResto msg cp indirect clen len buf).2.length ≤ MAXCNAME + 1 ∧
      ((parseNombreResto msg cp indirect clen len buf).1 = none →
        (parseNombreResto msg cp indirect clen len buf).2.length ≤ MAXCNAME) := by
  induction len using Nat.strong_induction_on generalizing cp indirect clen buf with
  | _ len ih =>
    rw [parseNombreResto]
    rcases segmento msg cp indirect clen with ⟨slen, cp, indirect, clen⟩
    dsimp only
    split
    · have hmax : MAXCNAME = 192 := rfl
      refine ⟨?_, fun h => by cases h⟩
      rcases buf with _ | ⟨b, buf⟩
      · simp [hmax]
      · simp only [List.length_cons] at hbuf
        simp
        omega
    · split
      · dsimp only
        omega
      · refine ih _ (by omega) ?_
        simp [Buffer.lee]
        omega

/-- What `parseName` gives is what this gives, which then has room in the array. -/
theorem parseNombreResto_of_some {r : Option Nat} (h : parseNameResto msg cp indirect clen len = some r)
    (hbuf : buf.length + len = MAXCNAME) : (parseNombreResto msg cp indirect clen len buf).1 = r ∧
      (parseNombreResto msg cp indirect clen len buf).2.length ≤ MAXCNAME := by
  have hmax : MAXCNAME = 192 := rfl
  induction len using Nat.strong_induction_on generalizing cp indirect clen buf with
  | _ len ih =>
    rw [parseNameResto, Option.bind_eq_bind, Option.bind_eq_some_iff] at h
    obtain ⟨-, -, h⟩ := h
    rw [parseNombreResto]
    generalize segmento msg cp indirect clen = x at h ⊢
    rcases x with ⟨slen, cp, indirect, clen⟩
    dsimp only at h ⊢
    by_cases h0 : slen = 0
    · rw [if_pos h0] at h ⊢
      split at h
      · cases h
      · cases h
        refine ⟨rfl, ?_⟩
        rcases buf with _ | ⟨b, buf⟩
        · simp [hmax]
        · simp only [List.length_cons] at hbuf
          simp
          omega
    · rw [if_neg h0] at h ⊢
      by_cases hlen : len < slen + 1
      · rw [if_pos hlen] at h ⊢
        cases h
        refine ⟨rfl, ?_⟩
        dsimp only
        omega
      · rw [if_neg hlen] at h ⊢
        obtain ⟨-, -, h⟩ := Option.bind_eq_some_iff.mp h
        refine ih _ (by omega) h ?_
        simp [Buffer.lee]
        omega

theorem parseName_of_some {r : Option Nat} (h : parseName msg p MAXCNAME = some r) :
    (parseNombre msg p MAXCNAME).1 = r ∧ (parseNombre msg p MAXCNAME).2.length ≤ MAXCNAME :=
  parseNombreResto_of_some h (by simp)

/-! ### Reading a name -/

@[simp] theorem texto_nil : texto [] = [] := rfl

@[simp] theorem texto_cons {x : List UInt8} : texto (x :: ls) = x ++ PUNTO :: texto ls := by
  simp [texto]

theorem not_puntero {x : List UInt8} (h : x.length ≤ 63) : x.length.toUInt8 &&& 0xc0 ≠ 0xc0 := by
  have hall : ∀ k : Fin 64, k.val.toUInt8 &&& 0xc0 ≠ 0xc0 := by decide
  exact hall ⟨x.length, by omega⟩

theorem segmento_directo (h : msg p &&& 0xc0 ≠ 0xc0) :
    segmento msg p indirect clen = ((msg p).toNat, p + 1, indirect, if indirect then clen else clen + 1) := by
  rw [segmento, if_neg h]

/-- What stands at the pointer is taken for a length, whatever it is. -/
theorem segmento_puntero (h : msg p &&& 0xc0 = 0xc0) (hq : (msg p &&& 0x3f).toNat * 256 + (msg (p + 1)).toNat = q) :
    segmento msg p indirect clen = ((msg q).toNat, q + 1, true, if indirect then clen else clen + 2) := by
  rw [segmento, if_pos h, ← hq]
  cases indirect <;> rfl

theorem parseNombreResto_puntero (h : msg p &&& 0xc0 = 0xc0)
    (hq : (msg p &&& 0x3f).toNat * 256 + (msg (p + 1)).toNat = q) (hdir : msg q &&& 0xc0 ≠ 0xc0) :
    parseNombreResto msg p indirect clen len buf =
      parseNombreResto msg q true (if indirect then clen else clen + 2) len buf := by
  rw [parseNombreResto, parseNombreResto, segmento_puntero h hq, segmento_directo hdir]
  rfl

theorem le_of_puntero {b : UInt8} (h : b &&& 0xc0 = 0xc0) : 192 ≤ b.toNat := by
  have hle : (b &&& 0xc0).toNat ≤ b.toNat := by
    rw [UInt8.toNat_and]
    exact Nat.and_le_left
  rw [h] at hle
  exact hle

/-- A pointer to a pointer is more than any name has left. -/
theorem parseNombreResto_doble (h : msg p &&& 0xc0 = 0xc0)
    (hq : (msg p &&& 0x3f).toNat * 256 + (msg (p + 1)).toNat = q) (hdoble : msg q &&& 0xc0 = 0xc0)
    (hlen : len ≤ MAXCNAME) :
    parseNombreResto msg p indirect clen len buf = (none, buf) := by
  have h192 := le_of_puntero hdoble
  have hmax : MAXCNAME = 192 := rfl
  rw [parseNombreResto, segmento_puntero h hq]
  dsimp only
  rw [if_neg (by omega), if_pos (by omega)]

/-- A name that fits. -/
theorem Nombra.lee (h : Nombra msg e p ls n d) (hd : d = true) (hlen : (texto ls).length ≤ len) :
    parseNombreResto msg p indirect clen len buf = (some (if indirect then clen else clen + n),
      (if buf ++ texto ls = [] then [PUNTO] else buf ++ texto ls) ++ [0]) := by
  induction h generalizing indirect clen len buf with
  | fin he h =>
    rw [parseNombreResto, segmento_directo (by rw [h]; decide), h]
    simp
  | @etiqueta p n x ls d hx h63 hat hs ih =>
    rw [at_cons] at hat
    have hpos := List.length_pos_of_ne_nil hx
    have hslen : (msg p).toNat = x.length := by
      rw [hat.1]
      simp
      omega
    have hleido : msg.lee (p + 1) x.length = x := hat.2.map_range
    simp only [texto_cons, List.length_append, List.length_cons] at hlen
    rw [parseNombreResto, segmento_directo (by rw [hat.1]; exact not_puntero h63), hslen]
    dsimp only
    rw [if_neg (by omega), if_neg (by omega), ih hd (by omega), hleido]
    cases indirect <;> simp [Nat.add_comm, Nat.add_left_comm]
  | @puntero p q n ls d he h hq hs ih =>
    simp only [Bool.and_eq_true, decide_eq_true_eq] at hd
    rw [parseNombreResto_puntero h hq hd.2, ih hd.1 hlen]
    simp

/-- A name that does not. -/
theorem Nombra.rechaza (h : Nombra msg e p ls n d) (hmax : len ≤ MAXCNAME)
    (hno : ¬ (d = true ∧ (texto ls).length ≤ len)) : (parseNombreResto msg p indirect clen len buf).1 = none := by
  induction h generalizing indirect clen len buf with
  | fin he h => simp at hno
  | @etiqueta p n x ls d hx h63 hat hs ih =>
    rw [at_cons] at hat
    have hpos := List.length_pos_of_ne_nil hx
    have hslen : (msg p).toNat = x.length := by
      rw [hat.1]
      simp
      omega
    simp only [texto_cons, List.length_append, List.length_cons] at hno
    rw [parseNombreResto, segmento_directo (by rw [hat.1]; exact not_puntero h63), hslen]
    dsimp only
    rw [if_neg (by omega)]
    split
    · rfl
    · refine ih (by omega) fun hbien => hno ⟨hbien.1, ?_⟩
      omega
  | @puntero p q n ls d he h hq hs ih =>
    by_cases hdir : msg q &&& 0xc0 = 0xc0
    · rw [parseNombreResto_doble h hq hdir hmax]
    · rw [parseNombreResto_puntero h hq hdir]
      exact ih hmax fun hbien => hno (by simpa [hdir] using hbien)

/-- The names that `parse_name` reads. -/
def Legible (ls : List (List UInt8)) (d : Bool) : Prop := d = true ∧ (texto ls).length ≤ MAXCNAME

instance {ls : List (List UInt8)} {d : Bool} : Decidable (Legible ls d) := inferInstanceAs (Decidable (_ ∧ _))

/-- Those that it reads without room for the zero. -/
def Llena (ls : List (List UInt8)) (d : Bool) : Prop := d = true ∧ (texto ls).length = MAXCNAME

instance {ls : List (List UInt8)} {d : Bool} : Decidable (Llena ls d) := inferInstanceAs (Decidable (_ ∧ _))

theorem Llena.legible (h : Llena ls d) : Legible ls d := ⟨h.1, Nat.le_of_eq h.2⟩

theorem texto_eq_nil : texto ls = [] ↔ ls = [] := by
  cases ls <;> simp

theorem length_parseNombre : (parseNombre msg p MAXCNAME).2.length ≤ MAXCNAME + 1 ∧
    ((parseNombre msg p MAXCNAME).1 = none → (parseNombre msg p MAXCNAME).2.length ≤ MAXCNAME) :=
  length_parseNombreResto (by simp)

theorem Nombra.parseNombre (h : Nombra msg e p ls n d) (hl : Legible ls d) :
    parseNombre msg p MAXCNAME = (some n, (if ls = [] then [PUNTO] else texto ls) ++ [0]) := by
  rw [DNS.parseNombre, h.lee hl.1 hl.2]
  simp [texto_eq_nil]

theorem Nombra.parseNombre_none (h : Nombra msg e p ls n d) (hl : ¬ Legible ls d) :
    (DNS.parseNombre msg p MAXCNAME).1 = none := h.rechaza (Nat.le_refl _) hl

/-! ### What is read for it -/

theorem Nombra.le (h : Nombra msg e p ls n d) : p < e ∧ p + n ≤ e := by
  induction h with
  | fin he h => omega
  | etiqueta hx h63 hat hs ih => omega
  | puntero he h hq hs ih => omega

theorem accesosSegmento_directo (h : msg p &&& 0xc0 ≠ 0xc0) (hp : p < ETH_FRAME_BUFFER_SIZE) :
    accesosSegmento msg p = some () := by
  rw [accesosSegmento, acceso_ok hp, if_neg h]
  rfl

theorem accesosSegmento_puntero (h : msg p &&& 0xc0 = 0xc0)
    (hq : (msg p &&& 0x3f).toNat * 256 + (msg (p + 1)).toNat = q) (hp : p + 1 < ETH_FRAME_BUFFER_SIZE)
    (hqe : q < ETH_FRAME_BUFFER_SIZE) : accesosSegmento msg p = some () := by
  rw [accesosSegmento, acceso_ok (Nat.le_of_lt hp), if_pos h, acceso_ok hp, hq, acceso_ok hqe]
  rfl

theorem parseNameResto_puntero (h : msg p &&& 0xc0 = 0xc0)
    (hq : (msg p &&& 0x3f).toNat * 256 + (msg (p + 1)).toNat = q) (hp : p + 1 < ETH_FRAME_BUFFER_SIZE)
    (hqe : q < ETH_FRAME_BUFFER_SIZE) (hdir : msg q &&& 0xc0 ≠ 0xc0) :
    parseNameResto msg p indirect clen len =
      parseNameResto msg q true (if indirect then clen else clen + 2) len := by
  rw [parseNameResto, parseNameResto, accesosSegmento_puntero h hq hp hqe, accesosSegmento_directo hdir hqe,
    segmento_puntero h hq, segmento_directo hdir]
  rfl

/-- A name in the frame buffer has no result just when its text fills the array. -/
theorem Nombra.sinResultado_iff (h : Nombra msg e p ls n d) (he : e ≤ ETH_FRAME_BUFFER_SIZE) (hmax : len ≤ MAXCNAME) :
    parseNameResto msg p indirect clen len = none ↔ d = true ∧ (texto ls).length = len := by
  induction h generalizing indirect clen len with
  | fin hp h =>
    rw [parseNameResto, accesosSegmento_directo (by rw [h]; decide) (by omega), segmento_directo (by rw [h]; decide), h]
    simp [eq_comm]
  | @etiqueta p n x ls d hx h63 hat hs ih =>
    have hle := hs.le
    rw [at_cons] at hat
    have hpos := List.length_pos_of_ne_nil hx
    have hdir : msg p &&& 0xc0 ≠ 0xc0 := by
      rw [hat.1]
      exact not_puntero h63
    have hslen : (msg p).toNat = x.length := by
      rw [hat.1]
      simp
      omega
    simp only [texto_cons, List.length_append, List.length_cons]
    rw [parseNameResto, accesosSegmento_directo hdir (by omega), segmento_directo hdir, hslen, Option.bind_eq_bind,
      Option.bind_some]
    dsimp only
    rw [if_neg (by omega)]
    split
    case isTrue hlen =>
      simp
      omega
    case isFalse hlen =>
      rw [acceso_ok (by omega), Option.bind_some, ih (by omega)]
      exact and_congr_right fun _ => by omega
  | @puntero p q n ls d hp h hq hs ih =>
    have hle := hs.le
    by_cases hdoble : msg q &&& 0xc0 = 0xc0
    · have h192 := le_of_puntero hdoble
      have hcname : MAXCNAME = 192 := rfl
      rw [parseNameResto, accesosSegmento_puntero h hq (by omega) (by omega), segmento_puntero h hq,
        Option.bind_eq_bind, Option.bind_some]
      dsimp only
      rw [if_neg (by omega), if_pos (by omega)]
      simp [hdoble]
    · rw [parseNameResto_puntero h hq (by omega) (by omega) hdoble, ih hmax]
      simp [hdoble]

/-- A name of a message in the frame buffer. -/
theorem Nombra.parseName (h : Nombra msg e p ls n d) (he : e ≤ ETH_FRAME_BUFFER_SIZE) :
    parseName msg p MAXCNAME =
      if Llena ls d then none else some (if Legible ls d then some n else none) := by
  have hnone : DNS.parseName msg p MAXCNAME = none ↔ Llena ls d := h.sinResultado_iff he (Nat.le_refl _)
  split
  case isTrue hl => exact hnone.mpr hl
  case isFalse hl =>
    obtain ⟨r, hr⟩ := Option.ne_none_iff_exists'.mp fun hno => hl (hnone.mp hno)
    rw [hr, ← (parseName_of_some hr).1]
    split
    case isTrue hleg => rw [h.parseNombre hleg]
    case isFalse hleg => rw [h.parseNombre_none hleg]

/-- Every name in the format is read whole, with its text and the bytes it takes, unless its text is longer than the
array or a pointer of it leads to a pointer.  Whatever the message is, no more is written than a byte past the array,
and with a name that is just when its text fills the array. -/
theorem parseNombre_formato :
    (∀ (msg : Buffer) (e p n : Nat) (ls : List (List UInt8)) (d : Bool), Nombra msg e p ls n d →
      (Legible ls d → parseNombre msg p MAXCNAME = (some n, (if ls = [] then [PUNTO] else texto ls) ++ [0])) ∧
      (¬ Legible ls d → (parseNombre msg p MAXCNAME).1 = none) ∧
      ((parseNombre msg p MAXCNAME).2.length > MAXCNAME ↔ d = true ∧ (texto ls).length = MAXCNAME)) ∧
    ∀ (msg : Buffer) (p : Nat), (parseNombre msg p MAXCNAME).2.length ≤ MAXCNAME + 1 := by
  refine ⟨fun msg e p n ls d h => ⟨h.parseNombre, h.parseNombre_none, ?_⟩, fun msg p => length_parseNombre.1⟩
  by_cases hl : Legible ls d
  · rw [h.parseNombre hl]
    obtain ⟨hd, hlen⟩ := hl
    have hmax : MAXCNAME = 192 := rfl
    by_cases h0 : ls = []
    · simp [h0, hmax]
    · simp only [if_neg h0, List.length_append, List.length_singleton, hd, true_and]
      omega
  · have hle := length_parseNombre.2 (h.parseNombre_none hl)
    constructor
    · intro hgt
      omega
    · rintro ⟨hd, hlen⟩
      exact absurd ⟨hd, Nat.le_of_eq hlen⟩ hl

/-- `b` and a pointer to `a`: two labels, in four bytes. -/
theorem parseNombre_formato_puntero :
    parseNombre (fun i => [1, 97, 0, 1, 98, 0xc0, 0].getD i 0) 3 MAXCNAME = (some 4, [98, PUNTO, 97, PUNTO, 0]) := by
  have ha : Nombra (fun i => [1, 97, 0, 1, 98, 0xc0, 0].getD i 0) 7 0 [[97]] 3 true :=
    .etiqueta (by decide) (by decide) (by simp [at_cons]) (.fin (by decide) (by decide))
  have hp := @Nombra.puntero (fun i => [1, 97, 0, 1, 98, 0xc0, 0].getD i 0) 7 5 0 3 _ _ (by decide) (by decide) rfl ha
  have hb := @Nombra.etiqueta _ 7 3 2 [98] _ _ (by decide) (by decide) (by simp [at_cons]) hp
  exact (parseNombre_formato.1 _ _ _ _ _ _ hb).1 ⟨by decide, by decide⟩

/-! ### Writing a name -/

/-- Hosts by their first dot. -/
theorem host_induction {P : List UInt8 → Prop} (fin : ∀ a, PUNTO ∉ a → P a)
    (sigue : ∀ a r, PUNTO ∉ a → P r → P (a ++ PUNTO :: r)) (host : List UInt8) : P host := by
  induction hn : host.length using Nat.strong_induction_on generalizing host with
  | _ n ih =>
    by_cases h : PUNTO ∈ host
    · obtain ⟨a, r, rfl, ha⟩ := List.eq_append_cons_of_mem h
      exact sigue a r ha (ih r.length (by simp at hn; omega) r rfl)
    · exact fin host h

variable {a r host : List UInt8}

theorem etiquetas_fin (ha : PUNTO ∉ a) : etiquetas a = if a = [] then [] else [a] := by
  rw [etiquetas, List.splitOn_eq_singleton ha]
  split <;> simp_all

theorem etiquetas_sigue (ha : PUNTO ∉ a) :
    etiquetas (a ++ PUNTO :: r) = if a = [] then [] else a :: etiquetas r := by
  rw [etiquetas, List.splitOn_append_cons_self_of_not_mem ha]
  split <;> simp_all [etiquetas]

theorem forall_punto (ha : PUNTO ∉ a) : ∀ c ∈ a, decide (c ≠ PUNTO) = true := by
  intro c hc
  rw [decide_eq_true_iff]
  rintro rfl
  exact ha hc

theorem toNat_toUInt16 {k : Nat} (h : k ≤ 63) : k.toUInt16.toNat = k := by
  simp
  omega

theorem componentes_fin (ha : PUNTO ∉ a) (h63 : a.length ≤ 63) :
    componentes a = if a = [] then [0] else a.length.toUInt8 :: a ++ [0] := by
  have htw : a.takeWhile (· ≠ PUNTO) = a := by
    rw [← List.append_nil a, List.takeWhile_append_of_pos (by simpa using forall_punto ha)]
    simp
  have hcero : a.length.toUInt16 = 0 ↔ a = [] := by
    rw [← UInt16.toNat_inj, toNat_toUInt16 h63]
    simp
  rw [componentes, htw, if_neg (Nat.lt_irrefl _)]
  simp only [hcero, toNat_toUInt16 h63, List.take_length]
  simp

theorem componentes_sigue (ha : PUNTO ∉ a) (h63 : a.length ≤ 63) :
    componentes (a ++ PUNTO :: r) = if a = [] then [0] else a.length.toUInt8 :: a ++ componentes r := by
  have htw : (a ++ PUNTO :: r).takeWhile (· ≠ PUNTO) = a := by
    rw [List.takeWhile_append_of_pos (forall_punto ha)]
    simp
  have hcero : a.length.toUInt16 = 0 ↔ a = [] := by
    rw [← UInt16.toNat_inj, toNat_toUInt16 h63]
    simp
  rw [componentes, htw, if_pos (by simp)]
  simp only [hcero, toNat_toUInt16 h63, List.take_left, List.drop_length_add_append, List.drop_succ_cons,
    List.drop_zero]
  simp

/-- The components that are written are those labels. -/
theorem componentes_etiquetas (h : ∀ l ∈ etiquetas host, l.length ≤ 63) :
    componentes host = nombreBytes (etiquetas host) := by
  induction host using host_induction with
  | fin a ha =>
    rw [etiquetas_fin ha] at h ⊢
    by_cases h0 : a = []
    · rw [componentes_fin ha (by simp [h0]), if_pos h0, if_pos h0]
      rfl
    · rw [if_neg h0] at h ⊢
      rw [componentes_fin ha (h a (by simp)), if_neg h0]
      simp [nombreBytes]
  | sigue a r ha ih =>
    rw [etiquetas_sigue ha] at h ⊢
    by_cases h0 : a = []
    · rw [componentes_sigue ha (by simp [h0]), if_pos h0, if_pos h0]
      rfl
    · rw [if_neg h0, List.forall_mem_cons] at h
      rw [if_neg h0, componentes_sigue ha h.1, if_neg h0, ih h.2]
      simp [nombreBytes]

theorem length_etiquetas : (texto (etiquetas host)).length ≤ host.length + 1 := by
  induction host using host_induction with
  | fin a ha =>
    rw [etiquetas_fin ha]
    split <;> simp
  | sigue a r ha ih =>
    rw [etiquetas_sigue ha]
    split
    · simp
    · simp
      omega

theorem nombra_nombreBytes (h : ∀ l ∈ ls, l ≠ [] ∧ l.length ≤ 63) (hat : At msg p (nombreBytes ls))
    (he : p + (nombreBytes ls).length ≤ e) : Nombra msg e p ls (nombreBytes ls).length true := by
  induction ls generalizing p with
  | nil =>
    rw [nombreBytes, List.flatMap_nil, List.nil_append, at_cons] at hat
    exact .fin he hat.1
  | cons x ls ih =>
    rw [List.forall_mem_cons] at h
    have hcons : nombreBytes (x :: ls) = (x.length.toUInt8 :: x) ++ nombreBytes ls := by
      simp [nombreBytes]
    rw [hcons] at hat he ⊢
    rw [at_append] at hat
    rw [List.length_append] at he
    have hrest := ih (p := p + 1 + x.length) h.2
      (by simpa [Nat.add_assoc, Nat.add_comm, Nat.add_left_comm] using hat.2) (by simp at he; omega)
    have hlen : (x.length.toUInt8 :: x ++ nombreBytes ls).length = x.length + 1 + (nombreBytes ls).length := by
      simp
      omega
    rw [hlen]
    exact .etiqueta h.1.1 h.1.2 hat.1 hrest

theorem Nombra.largos (h : Nombra msg e p ls n d) : ∀ l ∈ ls, l ≠ [] ∧ l.length ≤ 63 := by
  induction h with
  | fin => simp
  | etiqueta hx h63 _ _ ih => simpa using ⟨⟨hx, h63⟩, ih⟩
  | puntero _ _ _ _ ih => exact ih

theorem etiquetas_ne_nil : ∀ l ∈ etiquetas host, l ≠ [] := by
  intro l hl
  simpa using List.mem_takeWhile_imp hl

theorem get16_put16 {i : UInt16} (h : At msg p (put16 i)) : get16 msg p = i := by
  rw [put16, at_cons, at_cons] at h
  have hi := i.toNat_lt
  have h8 : (8 : UInt16).toNat % 16 = 8 := rfl
  rw [get16, h.1, h.2.1, ← UInt16.toNat_inj]
  simp only [UInt16.toNat_add, UInt16.toNat_shiftLeft, UInt8.toNat_toUInt16, UInt16.toNat_toUInt8,
    UInt16.toNat_shiftRight, h8, Nat.shiftRight_eq_div_pow, Nat.shiftLeft_eq]
  omega

@[simp] theorem length_put16 {i : UInt16} : (put16 i).length = 2 := rfl

theorem length_nombreBytes : (nombreBytes ls).length = (texto ls).length + 1 := by
  simp [nombreBytes, texto, List.length_flatMap]

variable {op msgid : UInt16}

/-- The question of the message, when its labels can be written. -/
theorem mensajeConsulta_nombra (hat : At msg 0 (mensajeConsulta op host msgid))
    (h63 : ∀ l ∈ etiquetas host, l.length ≤ 63) :
    Nombra msg (mensajeConsulta op host msgid).length 12 (etiquetas host) (componentes host).length true ∧
      get16 msg (12 + (componentes host).length) = TYPE_A ∧ get16 msg (12 + (componentes host).length + 2) = 1 ∧
      12 + (componentes host).length + 4 = (mensajeConsulta op host msgid).length := by
  have hlen : 12 + (componentes host).length + 4 = (mensajeConsulta op host msgid).length := by
    simp [mensajeConsulta]
    omega
  simp only [mensajeConsulta, at_append, List.length_append, length_put16, Nat.zero_add] at hat
  obtain ⟨⟨⟨-, hnombre⟩, htipo⟩, hclase⟩ := hat
  rw [componentes_etiquetas h63] at hnombre htipo hclase hlen ⊢
  refine ⟨nombra_nombreBytes (fun l hl => ⟨etiquetas_ne_nil l hl, h63 l hl⟩) hnombre (by omega), ?_, ?_, hlen⟩
  · simpa [TYPE_A] using get16_put16 htipo
  · simpa [Nat.add_assoc] using get16_put16 hclase

theorem mensajeConsulta_cabecera (hat : At msg 0 (mensajeConsulta op host msgid)) :
    get16 msg 0 = msgid ∧ get16 msg 2 = op <<< 11 ||| 0x0100 ∧ get16 msg 4 = 1 ∧ get16 msg 6 = 0 ∧
      get16 msg 8 = 0 ∧ get16 msg 10 = 0 := by
  simp only [mensajeConsulta, at_append, List.length_append, length_put16, Nat.zero_add] at hat
  obtain ⟨⟨⟨⟨⟨⟨⟨⟨h0, h2⟩, h4⟩, h6⟩, h8⟩, h10⟩, -⟩, -⟩, -⟩ := hat
  exact ⟨get16_put16 h0, get16_put16 h2, get16_put16 h4, get16_put16 h6, get16_put16 h8, get16_put16 h10⟩

/-- There is a message just when the host has room in `sname`.  Its question is the labels of the host up to the first
empty one just when none of them is longer than a length can say, and then `parse_name` gives them back and
`dns_question` reads to the end of the message, unless the zero has no room there: with dots the host is a character
longer. -/
theorem dnsMakequery_formato (op msgid : UInt16) (host : List UInt8) :
    (dnsMakequery op host msgid = none ↔ MAXCNAME ≤ host.length) ∧
    ∀ (bs : List UInt8) (msg : Buffer), dnsMakequery op host msgid = some bs → At msg 0 bs →
      (get16 msg 0 = msgid ∧ get16 msg 2 = op <<< 11 ||| 0x0100 ∧ get16 msg 4 = 1 ∧ get16 msg 6 = 0 ∧
        get16 msg 8 = 0 ∧ get16 msg 10 = 0) ∧
      ((∃ n, Nombra msg bs.length 12 (etiquetas host) n true ∧ get16 msg (12 + n) = TYPE_A ∧
          get16 msg (12 + n + 2) = 1 ∧ 12 + n + 4 = bs.length) ↔ ∀ l ∈ etiquetas host, l.length ≤ 63) ∧
      ((∀ l ∈ etiquetas host, l.length ≤ 63) →
        dnsQuestion msg 12 = (if (texto (etiquetas host)).length = MAXCNAME then none else some (some bs.length)) ∧
          (parseNombre msg 12 MAXCNAME).2 = (if etiquetas host = [] then [PUNTO] else texto (etiquetas host)) ++
            [0]) := by
  refine ⟨by simp [dnsMakequery], fun bs msg hbs hat => ?_⟩
  obtain ⟨hmax, rfl⟩ : host.length < MAXCNAME ∧ mensajeConsulta op host msgid = bs := by simpa [dnsMakequery] using hbs
  refine ⟨mensajeConsulta_cabecera hat, ⟨?_, fun h63 => ⟨_, mensajeConsulta_nombra hat h63⟩⟩, fun h63 => ?_⟩
  · rintro ⟨n, h, -⟩ l hl
    exact (h.largos l hl).2
  · obtain ⟨h, -, -, hfin⟩ := mensajeConsulta_nombra hat h63
    have htexto := @length_etiquetas host
    have hleg : Legible (etiquetas host) true := ⟨rfl, by omega⟩
    have hmarco : (mensajeConsulta op host msgid).length ≤ ETH_FRAME_BUFFER_SIZE := by
      have hcname : MAXCNAME = 192 := rfl
      have hsize : ETH_FRAME_BUFFER_SIZE = 2048 := rfl
      rw [← hfin, componentes_etiquetas h63, length_nombreBytes]
      omega
    refine ⟨?_, by rw [h.parseNombre hleg]⟩
    rw [dnsQuestion, h.parseName hmarco, if_pos hleg, ← hfin]
    simp only [Llena, true_and]
    split <;> rfl

/-- The query for `wiz.net`, in a message of which it is the start. -/
theorem dnsMakequery_formato_wiz :
    dnsQuestion (fun i => (mensajeConsulta 0 (literal ['w', 'i', 'z', '.', 'n', 'e', 't']) DNS_MSG_ID).getD i 0) 12 =
      some (some 25) := by
  have hbreve : ∀ l ∈ etiquetas (literal ['w', 'i', 'z', '.', 'n', 'e', 't']), l.length ≤ 63 := by decide +kernel
  have h := ((dnsMakequery_formato 0 DNS_MSG_ID (literal ['w', 'i', 'z', '.', 'n', 'e', 't'])).2 _ _
    (if_pos (by decide)) (at_getD (b := 0))).2.2 hbreve
  have hlen : (mensajeConsulta 0 (literal ['w', 'i', 'z', '.', 'n', 'e', 't']) DNS_MSG_ID).length = 25 := by
    decide +kernel
  rw [h.1, hlen, if_neg (by decide +kernel)]

end DNS

end Wiznet
