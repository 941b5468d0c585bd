import Wiznet.Dns.Nombres
import Wiznet.Dns.Espera
import Wiznet.Dns.Numerico

/-!
# Answers to a query

What `parseDNSMSG` takes from an answer in the format, in which each record says how long its data is.  It reads the
data of the types it knows and skips nothing of the others, so an answer is read as it is when at most its last record
is of another type; every address in it is stored over the one before.  Only a name whose text fills the array of
`parse_name` takes it out of its memory.  The address of a query is then the last one of all the answers that came
while it waited, whatever they were asked.
-/

namespace Wiznet

/-- The four bytes that `ip_from_dns` points to. -/
def Memoria.ponIP (b : Memoria) (ip : IP) : Memoria := (((b.pon 0 ip.a).pon 1 ip.b).pon 2 ip.c).pon 3 ip.d

def Memoria.direccion (b : Memoria) : IP := ⟨b.mem 0, b.mem 1, b.mem 2, b.mem 3⟩

namespace DNS

open Wire Stateful

/-! ### The format -/

/-- A record: its type, the names in it, its owner first, and the address it gives. -/
structure Registro where
  tipo : UInt16
  nombres : List (List (List UInt8) × Bool)
  direccion : Option IP

/-- The types whose data is a name. -/
def tiposNombre : List UInt16 := [TYPE_CNAME, TYPE_MB, TYPE_MG, TYPE_MR, TYPE_NS, TYPE_PTR]

/-- The types whose data is read. -/
def tiposLeidos : List UInt16 := TYPE_A :: TYPE_HINFO :: TYPE_MX :: TYPE_SOA :: tiposNombre

/-- The data of a record of type `t`, of `n` bytes at `c`, with its names and its address. -/
inductive Datos (msg : Buffer) (e : Nat) : UInt16 → Nat → Nat → List (List (List UInt8) × Bool) → Option IP → Prop
  | a {c : Nat} {ip : IP} (hat : At msg c ip.bytes) : Datos msg e TYPE_A c 4 [] (some ip)
  | nombre {t : UInt16} {c n : Nat} {ls : List (List UInt8)} {d : Bool} (ht : t ∈ tiposNombre)
      (h : Nombra msg e c ls n d) : Datos msg e t c n [(ls, d)] none
  | hinfo {c k l : Nat} (hk : (msg c).toNat = k) (hl : (msg (c + 1 + k)).toNat = l) :
      Datos msg e TYPE_HINFO c (k + l + 2) [] none
  | mx {c n : Nat} {ls : List (List UInt8)} {d : Bool} (h : Nombra msg e (c + 2) ls n d) :
      Datos msg e TYPE_MX c (n + 2) [(ls, d)] none
  | soa {c n n' : Nat} {ls ls' : List (List UInt8)} {d d' : Bool} (h : Nombra msg e c ls n d)
      (h' : Nombra msg e (c + n) ls' n' d') : Datos msg e TYPE_SOA c (n + n' + 20) [(ls, d), (ls', d')] none
  | otro {t : UInt16} {c n : Nat} (ht : t ∉ tiposLeidos) : Datos msg e t c n [] none

/-- A record from `p` up to `q`. -/
inductive Registra (msg : Buffer) (e p : Nat) : Registro → Nat → Prop
  | mk {t : UInt16} {n k : Nat} {ls : List (List UInt8)} {d : Bool} {ns : List (List (List UInt8) × Bool)}
      {ip : Option IP}
      (h : Nombra msg e p ls n d) (ht : get16 msg (p + n) = t) (hk : (get16 msg (p + n + 8)).toNat = k)
      (hd : Datos msg e t (p + n + 10) k ns ip) (he : p + n + 10 + k ≤ e) :
      Registra msg e p ⟨t, (ls, d) :: ns, ip⟩ (p + n + 10 + k)

/-- Records from `p` up to `q`. -/
inductive Seccion (msg : Buffer) (e : Nat) : Nat → List Registro → Nat → Prop
  | fin {p : Nat} : Seccion msg e p [] p
  | sigue {p q q' : Nat} {r : Registro} {rs : List Registro} (h : Registra msg e p r q) (hs : Seccion msg e q rs q') :
      Seccion msg e p (r :: rs) q'

/-- Questions from `p` up to `q`. -/
inductive Preguntas (msg : Buffer) (e : Nat) : Nat → List (List (List UInt8) × Bool) → Nat → Prop
  | fin {p : Nat} : Preguntas msg e p [] p
  | sigue {p q n : Nat} {ls : List (List UInt8)} {d : Bool} {qs : List (List (List UInt8) × Bool)}
      (h : Nombra msg e p ls n d) (he : p + n + 4 ≤ e) (hs : Preguntas msg e (p + n + 4) qs q) :
      Preguntas msg e p ((ls, d) :: qs) q

/-- An answer: its code, its questions and its records. -/
structure Respuesta where
  rcode : UInt16
  preguntas : List (List (List UInt8) × Bool)
  registros : List Registro

/-- The message says so. -/
def Respuesta.En (r : Respuesta) (msg : Buffer) (e : Nat) : Prop :=
  12 ≤ e ∧ get16 msg 2 &&& 0xf = r.rcode ∧ (get16 msg 4).toNat = r.preguntas.length ∧
    (get16 msg 6).toNat = r.registros.length ∧
    ∃ p q, Preguntas msg e 12 r.preguntas p ∧ Seccion msg e p r.registros q

/-! ### What is taken of it -/

def Registro.Legible (r : Registro) : Prop := ∀ x ∈ r.nombres, DNS.Legible x.1 x.2

instance {r : Registro} : Decidable r.Legible := inferInstanceAs (Decidable (∀ x ∈ _, _))

/-- All the names that are looked at can be read. -/
def Respuesta.Legible (r : Respuesta) : Prop :=
  (∀ x ∈ r.preguntas, DNS.Legible x.1 x.2) ∧ ∀ x ∈ r.registros, x.Legible

instance {r : Respuesta} : Decidable r.Legible := inferInstanceAs (Decidable (_ ∧ _))

/-- One of these names fills the array, and is read: those before it can be. -/
def Desbordan (ns : List (List (List UInt8) × Bool)) : Prop :=
  ∃ x ∈ ns.takeWhile fun x => decide (DNS.Legible x.1 x.2), Llena x.1 x.2

instance {ns : List (List (List UInt8) × Bool)} : Decidable (Desbordan ns) :=
  inferInstanceAs (Decidable (∃ x ∈ _, _))

/-- All its names, in the order in which they are read. -/
def Respuesta.nombres (r : Respuesta) : List (List (List UInt8) × Bool) :=
  r.preguntas ++ r.registros.flatMap Registro.nombres

/-- It takes `parse_name` out of its array. -/
def Respuesta.Desborda (r : Respuesta) : Prop := Desbordan r.nombres

instance {r : Respuesta} : Decidable r.Desborda := inferInstanceAs (Decidable (Desbordan _))

/-- At most the last record is of a type whose data is not read: what follows such a record is read from its data on. -/
def Respuesta.Seguida (r : Respuesta) : Prop := ∀ x ∈ r.registros.dropLast, x.tipo ∈ tiposLeidos

/-- What `parseDNSMSG` returns. -/
def Respuesta.codigo (r : Respuesta) : Int := if r.Legible then if r.rcode = 0 then 1 else 0 else -1

/-- The addresses it stores, up to the first name that cannot be read. -/
def Respuesta.direcciones (r : Respuesta) : List IP :=
  if ∀ x ∈ r.preguntas, DNS.Legible x.1 x.2 then
    (r.registros.takeWhile fun x => decide x.Legible).filterMap Registro.direccion
  else []

variable {msg msg' : Buffer} {e p q n cp : Nat} {d : Bool} {ls : List (List UInt8)} {r : Registro} {rs : List Registro}
  {qs : List (List (List UInt8) × Bool)} {ip : Memoria}

theorem desbordan_nil : ¬ Desbordan [] := by simp [Desbordan]

theorem desbordan_cons {ns : List (List (List UInt8) × Bool)} :
    Desbordan ((ls, d) :: ns) ↔ Llena ls d ∨ DNS.Legible ls d ∧ Desbordan ns := by
  by_cases h : DNS.Legible ls d
  · simp [Desbordan, h]
  · have hno : ¬ Llena ls d := fun hl => h hl.legible
    simp [Desbordan, h, hno]

theorem desbordan_append {ns ns' : List (List (List UInt8) × Bool)} :
    Desbordan (ns ++ ns') ↔ Desbordan ns ∨ (∀ x ∈ ns, DNS.Legible x.1 x.2) ∧ Desbordan ns' := by
  induction ns with
  | nil => simp [desbordan_nil]
  | cons x ns ih =>
    rw [List.cons_append, desbordan_cons, desbordan_cons, ih, List.forall_mem_cons]
    tauto

theorem Preguntas.preguntas (h : Preguntas msg e p qs q) (he : e ≤ ETH_FRAME_BUFFER_SIZE) :
    DNS.preguntas msg qs.length p =
      if Desbordan qs then none else some (if ∀ x ∈ qs, DNS.Legible x.1 x.2 then some q else none) := by
  induction h with
  | fin => rfl
  | @sigue p q n ls d qs h hq hs ih =>
    rw [List.length_cons, DNS.preguntas, dnsQuestion, h.parseName he]
    by_cases hl : Llena ls d
    · rw [if_pos hl, if_pos (desbordan_cons.mpr (.inl hl))]
      rfl
    · rw [if_neg hl]
      by_cases hleg : DNS.Legible ls d
      · rw [if_pos hleg]
        refine ih.trans (if_congr ?_ rfl (congrArg some (if_congr ?_ rfl rfl)))
        · simp [desbordan_cons, hl, hleg]
        · simp [hleg]
      · rw [if_neg hleg, if_neg (by simp [desbordan_cons, hl, hleg]), if_neg]
        · rfl
        · exact fun hall => hleg (hall (ls, d) (by simp))

/-- What is done with the data once the owner is read. -/
def leeDatos (msg : Buffer) (t : UInt16) (cp : Nat) (ip : Memoria) : Option (Option Nat × Memoria) := do
  if t = TYPE_A then
    acceso (cp + 4)
    return (some (cp + 4), ip.ponIP ⟨msg cp, msg (cp + 1), msg (cp + 2), msg (cp + 3)⟩)
  else if t ∈ tiposNombre then return ((← parseName msg cp MAXCNAME).map fun len => cp + len, ip)
  else if t = TYPE_HINFO then
    acceso (cp + 1)
    acceso (cp + 1 + (msg cp).toNat + 1)
    return (some (cp + 1 + (msg cp).toNat + 1 + (msg (cp + 1 + (msg cp).toNat)).toNat), ip)
  else if t = TYPE_MX then return ((← parseName msg (cp + 2) MAXCNAME).map fun len => cp + 2 + len, ip)
  else if t = TYPE_SOA then
    match ← parseName msg cp MAXCNAME with
    | none => return (none, ip)
    | some len => return ((← parseName msg (cp + len) MAXCNAME).map fun len' => cp + len + len' + 20, ip)
  else return (some cp, ip)

theorem dnsAnswer_some (h : parseName msg p MAXCNAME = some (some n)) (hp : p + n + 2 ≤ ETH_FRAME_BUFFER_SIZE) :
    dnsAnswer msg p ip = leeDatos msg (get16 msg (p + n)) (p + n + 10) ip := by
  rw [dnsAnswer, h, Option.bind_eq_bind, Option.bind_some]
  dsimp only
  rw [acceso_ok hp]
  rfl

theorem dnsAnswer_none (h : parseName msg p MAXCNAME = some none) : dnsAnswer msg p ip = some (none, ip) := by
  rw [dnsAnswer, h]
  rfl

theorem dnsAnswer_sinResultado (h : parseName msg p MAXCNAME = none) : dnsAnswer msg p ip = none := by
  rw [dnsAnswer, h]
  rfl

/-- The data is read when the names in it can be. -/
theorem Datos.leeDatos {t : UInt16} {c k : Nat} {ns : List (List (List UInt8) × Bool)} {dir : Option IP}
    (h : Datos msg e t c k ns dir) (hc : c + k ≤ e) (he : e ≤ ETH_FRAME_BUFFER_SIZE) (ip : Memoria) :
    leeDatos msg t c ip = if Desbordan ns then none else
      some (if ∀ x ∈ ns, DNS.Legible x.1 x.2 then some (if t ∈ tiposLeidos then c + k else c) else none,
        dir.toList.foldl Memoria.ponIP ip) := by
  cases h with
  | a hat =>
    rename_i dir
    simp only [IP.bytes, at_cons] at hat
    obtain ⟨h0, h1, h2, h3, -⟩ := hat
    rw [DNS.leeDatos, if_pos rfl, acceso_ok (by omega), if_neg desbordan_nil]
    simp [tiposLeidos, h0, h1, h2, h3]
  | @nombre _ _ _ ls d ht h =>
    have hA : t ≠ TYPE_A := by
      rintro rfl
      exact absurd ht (by decide)
    rw [DNS.leeDatos, if_neg hA, if_pos ht, h.parseName he]
    by_cases hl : Llena ls d
    · simp [hl, desbordan_cons]
    · by_cases hleg : DNS.Legible ls d <;> simp [hl, hleg, desbordan_cons, desbordan_nil, tiposLeidos, ht]
  | hinfo hk hl =>
    rw [DNS.leeDatos, if_neg (by decide), if_neg (by decide), if_pos rfl, hk, hl, acceso_ok (by omega),
      acceso_ok (by omega), if_neg desbordan_nil]
    simp [tiposLeidos]
    omega
  | @mx _ n ls d h =>
    rw [DNS.leeDatos, if_neg (by decide), if_neg (by decide), if_neg (by decide), if_pos rfl, h.parseName he]
    by_cases hl : Llena ls d
    · simp [hl, desbordan_cons]
    · by_cases hleg : DNS.Legible ls d <;> simp [hl, hleg, desbordan_cons, desbordan_nil, tiposLeidos]
      omega
  | @soa _ n n' ls ls' d d' h h' =>
    rw [DNS.leeDatos, if_neg (by decide), if_neg (by decide), if_neg (by decide), if_neg (by decide), if_pos rfl,
      h.parseName he]
    by_cases hl : Llena ls d
    · simp [hl, desbordan_cons]
    · by_cases hleg : DNS.Legible ls d
      · by_cases hl' : Llena ls' d'
        · simp [hl, hleg, h'.parseName he, hl', desbordan_cons]
        · by_cases hleg' : DNS.Legible ls' d' <;>
            simp [hl, hleg, h'.parseName he, hl', hleg', desbordan_cons, desbordan_nil, tiposLeidos]
          omega
      · simp [hl, hleg, desbordan_cons]
  | otro ht =>
    have hno := ht
    simp only [tiposLeidos, List.mem_cons, not_or] at hno
    rw [DNS.leeDatos, if_neg hno.1, if_neg hno.2.2.2.2, if_neg hno.2.1, if_neg hno.2.2.1, if_neg hno.2.2.2.1,
      if_neg desbordan_nil]
    simp [ht]

theorem Datos.direccion {t : UInt16} {c k : Nat} {ns : List (List (List UInt8) × Bool)} {dir : Option IP}
    (h : Datos msg e t c k ns dir) (hns : ns ≠ []) : dir = none := by
  cases h <;> simp_all

/-- A record is read when its names can be, and passed over when its type is known. -/
theorem Registra.dnsAnswer (h : Registra msg e p r q) (hmarco : e ≤ ETH_FRAME_BUFFER_SIZE) (ip : Memoria) :
    ∃ cp, (r.tipo ∈ tiposLeidos → cp = q) ∧ dnsAnswer msg p ip = if Desbordan r.nombres then none else
      some (if r.Legible then (some cp, r.direccion.toList.foldl Memoria.ponIP ip) else (none, ip)) := by
  cases h with
  | @mk t n k ls d ns dir h ht hk hd he =>
    refine ⟨if t ∈ tiposLeidos then p + n + 10 + k else p + n + 10, fun hr => if_pos hr, ?_⟩
    dsimp only
    by_cases hll : Llena ls d
    · rw [dnsAnswer_sinResultado (by rw [h.parseName hmarco, if_pos hll]), if_pos (desbordan_cons.mpr (.inl hll))]
    by_cases hl : DNS.Legible ls d
    · rw [dnsAnswer_some (by rw [h.parseName hmarco, if_neg hll, if_pos hl]) (by omega), ht, hd.leeDatos he hmarco ip]
      refine if_congr (by simp [desbordan_cons, hll, hl]) rfl (congrArg some ?_)
      by_cases hns : ∀ x ∈ ns, DNS.Legible x.1 x.2
      · have hr : Registro.Legible ⟨t, (ls, d) :: ns, dir⟩ := List.forall_mem_cons.mpr ⟨hl, hns⟩
        rw [if_pos hns, if_pos hr]
      · have hr : ¬ Registro.Legible ⟨t, (ls, d) :: ns, dir⟩ := fun hr => hns (List.forall_mem_cons.mp hr).2
        have hdir : dir = none := hd.direccion (by rintro rfl; exact hns (by simp))
        rw [if_neg hns, if_neg hr, hdir]
        rfl
    · rw [dnsAnswer_none (by rw [h.parseName hmarco, if_neg hll, if_neg hl]),
        if_neg (by simp [desbordan_cons, hll, hl]), if_neg]
      exact fun hall => hl (hall (ls, d) (by simp))

/-- The addresses up to the first record that cannot be read. -/
def direccionesDe (rs : List Registro) : List IP :=
  (rs.takeWhile fun x => decide x.Legible).filterMap Registro.direccion

theorem direccionesDe_cons : direccionesDe (r :: rs) =
    if r.Legible then r.direccion.toList ++ direccionesDe rs else [] := by
  by_cases hr : r.Legible
  · cases hdir : r.direccion <;> simp [direccionesDe, hr, hdir]
  · simp [direccionesDe, hr]

theorem Seccion.respuestas (h : Seccion msg e p rs q) (hmarco : e ≤ ETH_FRAME_BUFFER_SIZE)
    (hs : ∀ x ∈ rs.dropLast, x.tipo ∈ tiposLeidos) (ip : Memoria) :
    (Desbordan (rs.flatMap Registro.nombres) → respuestas msg rs.length p ip = none) ∧
      (¬ Desbordan (rs.flatMap Registro.nombres) → ∃ cp : Option Nat, (cp = none ↔ ¬ ∀ x ∈ rs, x.Legible) ∧
        respuestas msg rs.length p ip = some (cp, (direccionesDe rs).foldl Memoria.ponIP ip)) := by
  induction h generalizing ip with
  | @fin p => exact ⟨fun hd => absurd hd desbordan_nil, fun _ => ⟨some p, by simp, rfl⟩⟩
  | @sigue p q q' r rs h hs' ih =>
    obtain ⟨cp, hcp, hans⟩ := h.dnsAnswer hmarco ip
    rw [List.length_cons, DNS.respuestas, hans, direccionesDe_cons, List.flatMap_cons, desbordan_append]
    by_cases hd : Desbordan r.nombres
    · rw [if_pos hd]
      exact ⟨fun _ => rfl, fun hno => absurd (.inl hd) hno⟩
    rw [if_neg hd]
    by_cases hr : r.Legible
    · rw [if_pos hr, if_pos hr, Option.bind_eq_bind, Option.bind_some, List.foldl_append]
      cases hs' with
      | fin =>
        exact ⟨fun h => absurd (h.resolve_left hd).2 desbordan_nil, fun _ => ⟨some cp, by simp [hr], rfl⟩⟩
      | sigue h' hs'' =>
        rw [List.dropLast_cons_of_ne_nil (by simp), List.forall_mem_cons] at hs
        obtain ⟨hnone, hsome⟩ := ih hs.2 (r.direccion.toList.foldl Memoria.ponIP ip)
        rw [hcp hs.1]
        refine ⟨fun h => hnone (h.resolve_left hd).2, fun hno => ?_⟩
        obtain ⟨cp', hcp', heq⟩ := hsome fun h => hno (.inr ⟨hr, h⟩)
        exact ⟨cp', by rw [hcp', List.forall_mem_cons (a := r)]; simp [hr], heq⟩
    · rw [if_neg hr, if_neg hr]
      exact ⟨fun h => absurd (h.resolve_left hd).1 hr, fun _ => ⟨none, by simp [hr], rfl⟩⟩

theorem Respuesta.desborda_iff {r : Respuesta} : r.Desborda ↔ Desbordan r.preguntas ∨
    (∀ x ∈ r.preguntas, DNS.Legible x.1 x.2) ∧ Desbordan (r.registros.flatMap Registro.nombres) := desbordan_append

/-- A question that cannot be read ends the reading. -/
theorem Respuesta.En.parse_ilegible {r : Respuesta} (h : r.En msg e) (he : e ≤ ETH_FRAME_BUFFER_SIZE)
    (hqs : ¬ ∀ x ∈ r.preguntas, DNS.Legible x.1 x.2) (ip : Memoria) :
    parseDNSMSG msg ip = if r.Desborda then none else some (r.codigo, ip) := by
  obtain ⟨-, hrcode, hqd, han, p, q, hq, ha⟩ := h
  have hl : ¬ r.Legible := fun hl => hqs hl.1
  have hdesborda : r.Desborda ↔ Desbordan r.preguntas :=
    desborda_iff.trans ⟨fun h => h.resolve_right fun h => hqs h.1, .inl⟩
  rw [parseDNSMSG, hrcode, hqd, han, hq.preguntas he, if_neg hqs]
  by_cases hd : Desbordan r.preguntas
  · rw [if_pos hd, if_pos (hdesborda.mpr hd)]
    rfl
  · rw [if_neg hd, if_neg (fun h => hd (hdesborda.mp h)), Respuesta.codigo, if_neg hl]
    rfl

theorem Respuesta.En.parse_legible {r : Respuesta} (h : r.En msg e) (he : e ≤ ETH_FRAME_BUFFER_SIZE) (hs : r.Seguida)
    (hqs : ∀ x ∈ r.preguntas, DNS.Legible x.1 x.2) (ip : Memoria) : parseDNSMSG msg ip =
      if r.Desborda then none else some (r.codigo, (direccionesDe r.registros).foldl Memoria.ponIP ip) := by
  obtain ⟨-, hrcode, hqd, han, p, q, hq, ha⟩ := h
  obtain ⟨hdesborda, hlee⟩ := ha.respuestas he hs ip
  rw [parseDNSMSG, hrcode, hqd, han, hq.preguntas he, if_pos hqs]
  by_cases hd : Desbordan r.preguntas
  · rw [if_pos hd, if_pos (desborda_iff.mpr (.inl hd))]
    rfl
  rw [if_neg hd, Option.bind_eq_bind, Option.bind_some]
  dsimp only
  by_cases hd' : Desbordan (r.registros.flatMap Registro.nombres)
  · rw [hdesborda hd', if_pos (desborda_iff.mpr (.inr ⟨hqs, hd'⟩))]
    rfl
  obtain ⟨cp, hnone, hresp⟩ := hlee hd'
  rw [hresp, if_neg fun h => (desborda_iff.mp h).elim hd fun h => hd' h.2]
  cases cp with
  | none =>
    have hl : ¬ r.Legible := fun hl => hnone.1 rfl hl.2
    rw [Respuesta.codigo, if_neg hl]
    rfl
  | some cp =>
    have hl : r.Legible := ⟨hqs, by simpa using hnone⟩
    rw [Respuesta.codigo, if_pos hl]
    rfl

theorem Respuesta.En.parse {r : Respuesta} (h : r.En msg e) (he : e ≤ ETH_FRAME_BUFFER_SIZE) (hs : r.Seguida)
    (ip : Memoria) : parseDNSMSG msg ip =
      if r.Desborda then none else some (r.codigo, r.direcciones.foldl Memoria.ponIP ip) := by
  by_cases hqs : ∀ x ∈ r.preguntas, DNS.Legible x.1 x.2
  · rw [Respuesta.direcciones, if_pos hqs]
    exact h.parse_legible he hs hqs ip
  · rw [Respuesta.direcciones, if_neg hqs]
    exact h.parse_ilegible he hqs ip

/-- An answer in the format is read as it says, as long as what is not read of it is its last record, unless the text
of a name that is read fills the array of `parse_name`. -/
theorem parseDNSMSG_respuesta {r : Respuesta} (h : r.En msg e) (he : e ≤ ETH_FRAME_BUFFER_SIZE) (hs : r.Seguida)
    (ip : Memoria) : parseDNSMSG msg ip =
      if r.Desborda then none else some (r.codigo, r.direcciones.foldl Memoria.ponIP ip) := h.parse he hs ip

/-- An alias of the root and its address. -/
def aliasYDireccion : List UInt8 :=
  [0, 0, 0x80, 0, 0, 0, 0, 2, 0, 0, 0, 0, 0, 0, 5, 0, 1, 0, 0, 0, 9, 0, 2, 0xc0, 12, 0xc0, 12, 0, 1, 0, 1, 0, 0, 0, 9,
    0, 4, 10, 0, 0, 7]

theorem parseDNSMSG_respuesta_dos : parseDNSMSG (fun i => aliasYDireccion.getD i 0) ⟨fun _ => 0, []⟩ =
    some (1, Memoria.ponIP ⟨fun _ => 0, []⟩ ⟨10, 0, 0, 7⟩) := by
  have h0 : Nombra (fun i => aliasYDireccion.getD i 0) 41 12 [] 1 true := .fin (by decide) (by decide)
  have h23 := @Nombra.puntero _ 41 23 12 1 [] true (by decide) (by decide) rfl h0
  have h25 := @Nombra.puntero _ 41 25 12 1 [] true (by decide) (by decide) rfl h0
  have hr1 := @Registra.mk _ 41 12 TYPE_CNAME 1 2 [] true _ none h0 (by decide) (by decide) (.nombre (by decide) h23)
    (by decide)
  have hr2 := @Registra.mk _ 41 25 TYPE_A 2 4 [] _ [] (some ⟨10, 0, 0, 7⟩) h25 (by decide) (by decide)
    (.a (by simp [at_cons, IP.bytes, aliasYDireccion])) (by decide)
  have hen : Respuesta.En ⟨0, [], [_, _]⟩ (fun i => aliasYDireccion.getD i 0) 41 :=
    ⟨by decide, by decide, rfl, rfl, 12, 41, .fin, .sigue hr1 (.sigue hr2 .fin)⟩
  rw [parseDNSMSG_respuesta hen (by decide) (by simp [Respuesta.Seguida, tiposLeidos, tiposNombre]), if_neg (by decide)]
  rfl

/-! ### What an answer depends on -/

section Congruencia

variable (hm : ∀ i < e, msg i = msg' i)
include hm

theorem at_congr {bs : List UInt8} (h : At msg p bs) (he : p + bs.length ≤ e) : At msg' p bs := fun i hi => by
  rw [← hm (p + i) (by omega)]
  exact h i hi

theorem get16_congr (he : p + 2 ≤ e) : get16 msg' p = get16 msg p := by
  rw [get16, get16, hm p (by omega), hm (p + 1) (by omega)]

theorem Nombra.congr (h : Nombra msg e p ls n d) : Nombra msg' e p ls n d := by
  induction h with
  | fin he h => exact .fin he (by rw [← hm _ he, h])
  | etiqueta hx h63 hat hs ih =>
    have hle := hs.le
    exact .etiqueta hx h63 (at_congr hm hat (by simp; omega)) ih
  | puntero he h hq hs ih =>
    have hle := hs.le
    rw [hm _ (by omega)] at h hq
    rw [hm _ he] at hq
    rw [hm _ hle.1]
    exact .puntero he h hq ih

theorem Datos.congr {t : UInt16} {c k : Nat} {ns : List (List (List UInt8) × Bool)} {dir : Option IP}
    (h : Datos msg e t c k ns dir) (he : c + k ≤ e) : Datos msg' e t c k ns dir := by
  cases h with
  | a hat => exact .a (at_congr hm hat (by simpa [IP.bytes] using he))
  | nombre ht h => exact .nombre ht (h.congr hm)
  | hinfo hk hl =>
    rw [hm _ (by omega)] at hk hl
    exact .hinfo hk hl
  | mx h => exact .mx (h.congr hm)
  | soa h h' => exact .soa (h.congr hm) (h'.congr hm)
  | otro ht => exact .otro ht

theorem Preguntas.congr (h : Preguntas msg e p qs q) : Preguntas msg' e p qs q := by
  induction h with
  | fin => exact .fin
  | sigue h he hs ih => exact .sigue (h.congr hm) he ih

theorem Registra.congr (h : Registra msg e p r q) : Registra msg' e p r q := by
  cases h with
  | mk h ht hk hd he =>
    rw [← get16_congr hm (by omega)] at ht hk
    exact .mk (h.congr hm) ht hk (hd.congr hm he) he

theorem Seccion.congr (h : Seccion msg e p rs q) : Seccion msg' e p rs q := by
  induction h with
  | fin => exact .fin
  | sigue h hs ih => exact .sigue (h.congr hm) ih

theorem Respuesta.En.congr {r : Respuesta} (h : r.En msg e) : r.En msg' e := by
  obtain ⟨he, hrcode, hqd, han, p, q, hq, ha⟩ := h
  rw [← get16_congr hm (by omega)] at hrcode hqd han
  exact ⟨he, hrcode, hqd, han, p, q, hq.congr hm, ha.congr hm⟩

end Congruencia

/-! ### The query -/

/-- A datagram with an answer that is read as it says. -/
structure Respuesta.Trae (r : Respuesta) (bs : List UInt8) : Prop where
  dice : r.En (fun i => bs.getD i 0) bs.length
  seguida : r.Seguida
  cabe : ¬ r.Desborda

variable {red : Servidor} {waittimeSec : UInt32} {host : List UInt8} {s : Consulta} {m : Buffer} {j k rondas : Nat}

/-- What was in the buffer before does not matter. -/
theorem Respuesta.Trae.parseDNSMSG {r : Respuesta} (h : r.Trae (red.datagrama j)) (ip : Memoria) :
    parseDNSMSG (mensajeEn red host m (j + 1)) ip = some (r.codigo, r.direcciones.foldl Memoria.ponIP ip) := by
  have hen : r.En (mensajeEn red host m (j + 1)) (red.datagrama j).length := by
    refine h.dice.congr fun i hi => ?_
    rw [List.getD_eq_getElem _ _ hi, mensajeEn]
    simpa using (Buffer.escribe_apply (p := 0) hi).symm
  rw [hen.parse ((red.cabe j).trans (by decide)) h.seguida, if_neg h.cabe]

theorem Respuesta.Trae.bucle {r : Respuesta} (hr : r.Trae (red.datagrama k)) (h : Va host red m k s)
    (hp : EnPlazo red waittimeSec k) (hhost : host.length < MAXCNAME) (hc : Contesta red k) :
    ∃ l, ∀ rondas ≥ l, ∀ n, bucle red rondas waittimeSec host (n + 1) s =
      if r.codigo = 1 then
        .ok .success (respondida red host (r.direcciones.foldl Memoria.ponIP s.ipFromDns) (leido s))
      else bucle red rondas waittimeSec host n (pasada red host (r.direcciones.foldl Memoria.ponIP s.ipFromDns) s) :=
  bucle_parse h hp hhost hc (hr.parseDNSMSG _)

variable {rs : Nat → Respuesta}

/-- The addresses of the answers of the first `k` rounds. -/
def acumuladas (rs : Nat → Respuesta) (k : Nat) : List IP := (List.range k).flatMap fun j => (rs j).direcciones

theorem acumuladas_succ : acumuladas rs (k + 1) = acumuladas rs k ++ (rs k).direcciones := by
  simp [acumuladas, List.range_succ]

/-- A round with an answer that does not resolve the name. -/
def Fallida (red : Servidor) (waittimeSec : UInt32) (r : Respuesta) (j : Nat) : Prop :=
  EnPlazo red waittimeSec j ∧ Contesta red j ∧ r.Trae (red.datagrama j) ∧ r.codigo ≠ 1

/-- The loop goes through such rounds and keeps their addresses. -/
theorem bucle_fallidas {d : DnsVars} {b : Memoria} (hhost : host.length < MAXCNAME)
    (hr : ∀ j < k, Fallida red waittimeSec (rs j) j) :
    ∃ s, Va host red d.pDNSMSG k s ∧ s.ipFromDns = (acumuladas rs k).foldl Memoria.ponIP b ∧
      ∃ l, ∀ rondas ≥ l, ∀ n, bucle red rondas waittimeSec host (n + k) (alEmpezar d b) =
        bucle red rondas waittimeSec host n s := by
  induction k with
  | zero => exact ⟨alEmpezar d b, va_alEmpezar d b, rfl, 0, fun _ _ _ => rfl⟩
  | succ k ih =>
    obtain ⟨s, hva, hip, l, hl⟩ := ih fun j hj => hr j (by omega)
    obtain ⟨hp, hc, htrae, hno⟩ := hr k (by omega)
    obtain ⟨l', hl'⟩ := htrae.bucle hva hp hhost hc
    refine ⟨pasada red host ((rs k).direcciones.foldl Memoria.ponIP s.ipFromDns) s, hva.pasada _, ?_, max l l',
      fun rondas hle n => ?_⟩
    · rw [acumuladas_succ, List.foldl_append, ← hip]
      rfl
    · rw [show n + (k + 1) = n + 1 + k by omega, hl rondas (by omega), hl' rondas (by omega), if_neg hno]

theorem ponIP_direccion (b : Memoria) (ip : IP) : (b.ponIP ip).direccion = ip := by
  simp [Memoria.ponIP, Memoria.direccion, Memoria.pon]

theorem foldl_ponIP_direccion (l : List IP) (b : Memoria) :
    (l.foldl Memoria.ponIP b).direccion = l.getLastD b.direccion := by
  induction l generalizing b with
  | nil => rfl
  | cons a l ih => rw [List.foldl_cons, ih, ponIP_direccion, List.getLastD_cons]

/-- A host that is a name leaves no address before the query. -/
theorem direccion_nombre {ip : Memoria} (h : (wizchipIsDomainName host ip).1 ≠ 0) :
    (wizchipIsDomainName host ip).2.direccion = {} := by
  have hceros := recorreHost_ceros (by decide) _ h
  simp only [Memoria.direccion, wizchipIsDomainName, hceros 0 (by decide), hceros 1 (by decide), hceros 2 (by decide),
    hceros 3 (by decide)]

/-- How a query for a name ends, and with which address: the last one of all the answers that came, whatever they were
asked, also of those with an error and when the time is over; or four zeros, also when it succeeds. -/
theorem wizchipDNSQuery_direccion (d : DnsVars) (ip : Memoria) (hw : waittimeSec ≠ 0) (hhost : host.length < MAXCNAME)
    (hnombre : (wizchipIsDomainName host ip).1 ≠ 0) (hr : ∀ j < k, Fallida red waittimeSec (rs j) j) :
    (¬ EnPlazo red waittimeSec k → ∃ n, ∀ rondas ≥ n, ∃ s, s.ipFromDns.direccion = (acumuladas rs k).getLastD {} ∧
      wizchipDNSQuery red rondas waittimeSec host { dns := d, ipFromDns := ip } = .ok .timeout s) ∧
    (EnPlazo red waittimeSec k → Contesta red k → (rs k).Trae (red.datagrama k) → (rs k).codigo = 1 →
      ∃ n, ∀ rondas ≥ n, ∃ s, s.ipFromDns.direccion = (acumuladas rs (k + 1)).getLastD {} ∧
        wizchipDNSQuery red rondas waittimeSec host { dns := d, ipFromDns := ip } = .ok .success s) := by
  obtain ⟨s, hva, hip, l, hl⟩ := @bucle_fallidas red waittimeSec host k rs d (wizchipIsDomainName host ip).2 hhost hr
  have hini : ∀ rondas, wizchipDNSQuery red rondas waittimeSec host { dns := d, ipFromDns := ip } =
      bucle red rondas waittimeSec host rondas (alEmpezar d (wizchipIsDomainName host ip).2) := by
    intro rondas
    rw [wizchipDNSQuery_eq red rondas host _ hw, if_neg hnombre]
    exact consultaDns_eq d _
  refine ⟨fun hp => ⟨max l (k + 1), fun rondas hle => ?_⟩, fun hp hc htrae hcod => ?_⟩
  · obtain ⟨n, rfl⟩ : ∃ n, rondas = n + 1 + k := ⟨rondas - 1 - k, by omega⟩
    refine ⟨leido s, ?_, ?_⟩
    · rw [← direccion_nombre hnombre, ← foldl_ponIP_direccion, ← hip]
      rfl
    · rw [hini, hl _ (by omega), bucle_succ hva, if_neg hp]
  · obtain ⟨l', hl'⟩ := htrae.bucle hva hp hhost hc
    refine ⟨max (max l l') (k + 1), fun rondas hle => ?_⟩
    obtain ⟨n, rfl⟩ : ∃ n, rondas = n + 1 + k := ⟨rondas - 1 - k, by omega⟩
    refine ⟨respondida red host ((rs k).direcciones.foldl Memoria.ponIP s.ipFromDns) (leido s), ?_, ?_⟩
    · show ((rs k).direcciones.foldl Memoria.ponIP s.ipFromDns).direccion = _
      rw [hip, ← List.foldl_append, ← acumuladas_succ, foldl_ponIP_direccion, direccion_nombre hnombre]
    · rw [hini, hl _ (by omega), hl' _ (by omega), if_pos hcod]

/-- A server that answers the first query with an error and an address, and the second with nothing. -/
def errado : Servidor where
  reloj i := (10001 * i).toUInt32
  llegada j i := if i = j + 2 then 12 else 0
  datagrama j := if j = 0 then [0, 0, 0x80, 3, 0, 0, 0, 1, 0, 0, 0, 0, 0, 0, 1, 0, 1, 0, 0, 0, 9, 0, 4, 10, 0, 0, 7]
    else [0, 0, 0x80, 0, 0, 0, 0, 0, 0, 0, 0, 0]
  cabe j := by
    split <;> simp [MAX_DNS_BUF_SIZE]

def respuestasErrado (j : Nat) : Respuesta :=
  if j = 0 then ⟨3, [], [⟨TYPE_A, [([], true)], some ⟨10, 0, 0, 7⟩⟩]⟩ else ⟨0, [], []⟩

theorem fallida_errado : Fallida errado 5 (respuestasErrado 0) 0 := by
  have h0 : Nombra (fun i => (errado.datagrama 0).getD i 0) 27 12 [] 1 true := .fin (by decide) (by decide)
  have hr := @Registra.mk _ 27 12 TYPE_A 1 4 [] true [] (some ⟨10, 0, 0, 7⟩) h0 (by decide) (by decide)
    (.a (by simp [at_cons, IP.bytes, errado])) (by decide)
  refine ⟨by decide, ⟨2, by decide⟩, ⟨?_, by simp [Respuesta.Seguida, respuestasErrado], by decide⟩, by decide⟩
  exact ⟨by decide, by decide, rfl, rfl, 12, 27, .fin, .sigue hr .fin⟩

/-- The query succeeds with the address of the error. -/
theorem wizchipDNSQuery_direccion_errado : ∃ n, ∀ rondas ≥ n, ∃ s, s.ipFromDns.direccion = ⟨10, 0, 0, 7⟩ ∧
    wizchipDNSQuery errado rondas 5 (literal ['w', 'i', 'z', '.', 'n', 'e', 't'])
      { dns := ⟨0, fun _ => 0, 0, 0, 0⟩, ipFromDns := ⟨fun _ => 0, []⟩ } = .ok .success s := by
  have hvacia : (respuestasErrado 1).Trae (errado.datagrama 1) :=
    ⟨⟨by decide, by decide, rfl, rfl, 12, 12, .fin, .fin⟩, by simp [Respuesta.Seguida, respuestasErrado], by decide⟩
  have hfallida : ∀ j < 1, Fallida errado 5 (respuestasErrado j) j := by
    intro j hj
    obtain rfl : j = 0 := by omega
    exact fallida_errado
  have h := @wizchipDNSQuery_direccion errado 5 (literal ['w', 'i', 'z', '.', 'n', 'e', 't']) 1 respuestasErrado
    ⟨0, fun _ => 0, 0, 0, 0⟩ ⟨fun _ => 0, []⟩ (by decide) (by decide) (by decide) hfallida
  exact h.2 (by decide) ⟨3, by decide⟩ hvacia (by decide)

end DNS

end Wiznet
