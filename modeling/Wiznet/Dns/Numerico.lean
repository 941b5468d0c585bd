import Wiznet.Dns.Cliente
import Wiznet.Dhcp.Mensaje
import Wiznet.Tty.Numeros

/-!
# Numeric hosts

When `wizchipIsDomainName` tells an IP address from a name.  It looks only for a character that is neither a digit nor a
dot, and not beyond the fourth dot: what has none is an address to it, whatever its octets are and however many there
are.
-/

namespace Wiznet

namespace DNS

/-! ### Addresses -/

/-- The digits of an octet. -/
def Octeto (ds : List UInt8) (v : UInt8) : Prop :=
  ds ≠ [] ∧ (∀ c ∈ ds, ISVALIDDEC c = true) ∧ Cifra.dec.base.value ds = v.toNat

/-- Four octets with dots between them. -/
def EsDireccion (host : List UInt8) (ip : IP) : Prop :=
  ∃ d₀ d₁ d₂ d₃, host = d₀ ++ PUNTO :: (d₁ ++ PUNTO :: (d₂ ++ PUNTO :: d₃)) ∧
    Octeto d₀ ip.a ∧ Octeto d₁ ip.b ∧ Octeto d₂ ip.c ∧ Octeto d₃ ip.d

/-- A digit or a dot. -/
def numerico (c : UInt8) : Bool := ISVALIDDEC c || c == PUNTO

/-- What the host has before the first character that is neither a digit nor a dot. -/
def prefijo (host : List UInt8) : List UInt8 := host.takeWhile numerico

def puntos (host : List UInt8) : Nat := (prefijo host).count PUNTO

/-- A character that is neither comes before any fourth dot. -/
def Ajeno (host : List UInt8) : Prop := prefijo host ≠ host ∧ puntos host < 4

instance (host : List UInt8) : Decidable (Ajeno host) := inferInstanceAs (Decidable (_ ∧ _))

variable {host ds : List UInt8} {ip : IP} {b : Memoria} {k : Nat} {c : UInt8}

theorem isvaliddec_iff : ISVALIDDEC c = true ↔ 0x30 ≤ c ∧ c ≤ 0x39 := by
  simp [ISVALIDDEC, IS_09]

theorem not_isvaliddec_punto : ¬ ISVALIDDEC PUNTO = true := by decide

theorem prefijo_cons_of_pos (h : numerico c = true) : prefijo (c :: host) = c :: prefijo host :=
  List.takeWhile_cons_of_pos h

theorem prefijo_cons_of_neg (h : ¬ numerico c = true) : prefijo (c :: host) = [] := List.takeWhile_cons_of_neg h

@[simp] theorem puntos_nil : puntos [] = 0 := rfl

theorem puntos_cons_digito (h : ISVALIDDEC c = true) : puntos (c :: host) = puntos host := by
  have hne : c ≠ PUNTO := fun hc => not_isvaliddec_punto (hc ▸ h)
  rw [puntos, prefijo_cons_of_pos (by simp [numerico, h]), List.count_cons_of_ne hne, puntos]

theorem puntos_cons_punto : puntos (PUNTO :: host) = puntos host + 1 := by
  rw [puntos, prefijo_cons_of_pos (by decide), List.count_cons_self, puntos]

theorem puntos_digitos (h : ∀ c ∈ ds, ISVALIDDEC c = true) : puntos (ds ++ host) = puntos host := by
  induction ds with
  | nil => rfl
  | cons c ds ih =>
    rw [List.forall_mem_cons] at h
    rw [List.cons_append, puntos_cons_digito h.1, ih h.2]

theorem prefijo_digitos (h : ∀ c ∈ ds, ISVALIDDEC c = true) : prefijo (ds ++ host) = ds ++ prefijo host :=
  List.takeWhile_append_of_pos fun c hc => by simp [numerico, h c hc]

theorem EsDireccion.puntos (h : EsDireccion host ip) : puntos host = 3 := by
  obtain ⟨d₀, d₁, d₂, d₃, rfl, ⟨-, h₀, -⟩, ⟨-, h₁, -⟩, ⟨-, h₂, -⟩, ⟨-, h₃, -⟩⟩ := h
  have hfin : DNS.puntos d₃ = 0 := by
    rw [← List.append_nil d₃, puntos_digitos h₃, puntos_nil]
  rw [puntos_digitos h₀, puntos_cons_punto, puntos_digitos h₁, puntos_cons_punto, puntos_digitos h₂, puntos_cons_punto,
    hfin]

theorem EsDireccion.prefijo (h : EsDireccion host ip) : prefijo host = host := by
  obtain ⟨d₀, d₁, d₂, d₃, rfl, ⟨-, h₀, -⟩, ⟨-, h₁, -⟩, ⟨-, h₂, -⟩, ⟨-, h₃, -⟩⟩ := h
  have hpunto : ∀ l, DNS.prefijo (PUNTO :: l) = PUNTO :: DNS.prefijo l := fun l => prefijo_cons_of_pos (by decide)
  have hfin : DNS.prefijo d₃ = d₃ := by
    rw [← List.append_nil d₃, prefijo_digitos h₃]
    rfl
  rw [prefijo_digitos h₀, hpunto, prefijo_digitos h₁, hpunto, prefijo_digitos h₂, hpunto, hfin]

/-! ### The loop -/

/-- A digit read into byte `k`. -/
def conDigito (b : Memoria) (k : Nat) (c : UInt8) : Memoria :=
  (b.pon k (b.mem k * 10)).pon k ((b.pon k (b.mem k * 10)).mem k + (c - 0x30))

/-- The byte keeps 8 bits of its value. -/
theorem conDigito_mem (b : Memoria) (k : Nat) (c : UInt8) :
    ((conDigito b k c).mem k).toNat = ((b.mem k).toNat * 10 + Cifra.dec.base.digit c) % 256 := by
  have hdigit : Cifra.dec.base.digit c = (c - 0x30).toNat := rfl
  simp only [conDigito, Memoria.pon, if_true, UInt8.toNat_add, UInt8.toNat_mul, hdigit]
  rw [show (10 : UInt8).toNat = 10 from rfl]
  omega

theorem conDigito_resto {i : Nat} (b : Memoria) (c : UInt8) (hi : i ≠ k) : (conDigito b k c).mem i = b.mem i := by
  simp [conDigito, Memoria.pon, hi]

theorem conDigito_escritos (b : Memoria) (k : Nat) (c : UInt8) : (conDigito b k c).escritos = b.escritos ++ [k, k] := by
  simp [conDigito, Memoria.pon]

theorem recorreHost_digito (host : List UInt8) (b : Memoria) (hk : k < 4) (h : ISVALIDDEC c = true) :
    recorreHost (c :: host) k k b = recorreHost host k k (conDigito b k c) := by
  rw [recorreHost, if_pos hk, if_pos (isvaliddec_iff.mp h)]
  rfl

theorem recorreHost_punto (host : List UInt8) (b : Memoria) (hk : k < 4) :
    recorreHost (PUNTO :: host) k k b = recorreHost host (k + 1) (k + 1) (b.pon (k + 1) 0) := by
  rw [recorreHost, if_pos hk, if_neg (by decide), if_pos rfl]

theorem recorreHost_ajeno (host : List UInt8) (b : Memoria) (hk : k < 4) (h : ¬ numerico c = true) :
    recorreHost (c :: host) k k b = (1, (((b.pon 0 0).pon 1 0).pon 2 0).pon 3 0) := by
  rw [numerico, Bool.or_eq_true, not_or, beq_iff_eq] at h
  rw [recorreHost, if_pos hk, if_neg (fun hc => h.1 (isvaliddec_iff.mpr hc)), if_neg h.2]

/-- Past the fourth dot nothing is read. -/
theorem recorreHost_cuatro (host : List UInt8) (b : Memoria) : recorreHost host 4 4 b = (0, b) := by
  cases host with
  | nil => rfl
  | cons c host => exact if_neg (by decide)

/-- How a host may go on. -/
theorem casos_caracter (c : UInt8) : ISVALIDDEC c = true ∨ c = PUNTO ∨ ¬ numerico c = true := by
  by_cases h : ISVALIDDEC c = true
  · exact .inl h
  · by_cases hp : c = PUNTO
    · exact .inr (.inl hp)
    · exact .inr (.inr (by simp [numerico, h, hp]))

/-- What the function returns. -/
theorem recorreHost_fst (hk : k < 4) (b : Memoria) :
    (recorreHost host k k b).1 = if prefijo host ≠ host ∧ k + puntos host < 4 then 1 else 0 := by
  induction host generalizing k b with
  | nil => simp [recorreHost, prefijo]
  | cons c host ih =>
    rcases casos_caracter c with hc | rfl | hc
    · rw [recorreHost_digito host b hk hc, ih hk, puntos_cons_digito hc, prefijo_cons_of_pos (by simp [numerico, hc])]
      simp
    · rw [recorreHost_punto host b hk, puntos_cons_punto, prefijo_cons_of_pos (by decide)]
      by_cases hk' : k + 1 < 4
      · rw [ih hk', Nat.add_assoc, Nat.add_comm 1]
        simp
      · obtain rfl : k = 3 := by omega
        rw [recorreHost_cuatro, if_neg (by omega)]
    · rw [recorreHost_ajeno host b hk hc, if_pos]
      rw [puntos, prefijo_cons_of_neg hc]
      exact ⟨(List.cons_ne_nil c host).symm, hk⟩

/-- A host that is taken for a name leaves four zeros. -/
theorem recorreHost_ceros (hk : k < 4) (b : Memoria) (h : (recorreHost host k k b).1 ≠ 0) :
    ∀ i < 4, (recorreHost host k k b).2.mem i = 0 := by
  induction host generalizing k b with
  | nil => exact absurd rfl h
  | cons c host ih =>
    rcases casos_caracter c with hc | rfl | hc
    · rw [recorreHost_digito host b hk hc] at h ⊢
      exact ih hk _ h
    · rw [recorreHost_punto host b hk] at h ⊢
      by_cases hk' : k + 1 < 4
      · exact ih hk' _ h
      · obtain rfl : k = 3 := by omega
        rw [recorreHost_cuatro] at h
        exact absurd rfl h
    · rw [recorreHost_ajeno host b hk hc]
      intro i hi
      have hi' : i = 0 ∨ i = 1 ∨ i = 2 ∨ i = 3 := by omega
      rcases hi' with rfl | rfl | rfl | rfl <;> rfl

/-- The function stays inside the four bytes unless a fourth dot is read. -/
theorem recorreHost_escritos (hk : k < 4) (b : Memoria) (hb : ∀ i ∈ b.escritos, i < 4) :
    (∀ i ∈ (recorreHost host k k b).2.escritos, i < 4) ↔ k + puntos host < 4 := by
  induction host generalizing k b with
  | nil => exact iff_of_true hb hk
  | cons c host ih =>
    rcases casos_caracter c with hc | rfl | hc
    · rw [recorreHost_digito host b hk hc, puntos_cons_digito hc]
      refine ih hk _ fun i hi => ?_
      have hi' : i ∈ b.escritos ∨ i = k := by simpa [conDigito_escritos] using hi
      rcases hi' with hi | rfl
      · exact hb i hi
      · exact hk
    · rw [recorreHost_punto host b hk, puntos_cons_punto]
      by_cases hk' : k + 1 < 4
      · rw [ih hk', Nat.add_assoc, Nat.add_comm 1]
        intro i hi
        rcases List.mem_append.mp hi with hi | hi
        · exact hb i hi
        · rwa [List.mem_singleton.mp hi]
      · obtain rfl : k = 3 := by omega
        rw [recorreHost_cuatro]
        refine iff_of_false (fun h => ?_) (by omega)
        exact absurd (h 4 (by simp [Memoria.pon])) (Nat.lt_irrefl 4)
    · rw [recorreHost_ajeno host b hk hc, puntos, prefijo_cons_of_neg hc]
      refine iff_of_true (fun i hi => ?_) hk
      simp only [Memoria.pon, List.mem_append, List.mem_singleton] at hi
      rcases hi with (((hi | rfl) | rfl) | rfl) | rfl
      · exact hb i hi
      all_goals decide

/-! ### The octets -/

/-- Digits are read into the byte under way, as far as 8 bits hold their value. -/
theorem recorreHost_digitos (host : List UInt8) {v : Nat} (hk : k < 4) (h : ∀ c ∈ ds, ISVALIDDEC c = true)
    (hb : (b.mem k).toNat = v % 256) : ∃ b', recorreHost (ds ++ host) k k b = recorreHost host k k b' ∧
      (b'.mem k).toNat = Cifra.dec.base.extend v ds % 256 ∧ ∀ i, i ≠ k → b'.mem i = b.mem i := by
  induction ds generalizing b v with
  | nil => exact ⟨b, rfl, hb, fun _ _ => rfl⟩
  | cons c ds ih =>
    rw [List.forall_mem_cons] at h
    have hc : ((conDigito b k c).mem k).toNat = (v * 10 + Cifra.dec.base.digit c) % 256 := by
      rw [conDigito_mem, hb]
      omega
    obtain ⟨b', hrun, hmem, hresto⟩ := ih h.2 hc
    refine ⟨b', ?_, hmem, fun i hi => ?_⟩
    · rw [List.cons_append, recorreHost_digito _ b hk h.1, hrun]
    · rw [hresto i hi, conDigito_resto b c hi]

theorem recorreHost_octeto (host : List UInt8) {v : UInt8} (hk : k < 4) (h : Octeto ds v) (hb : b.mem k = 0) :
    ∃ b', recorreHost (ds ++ host) k k b = recorreHost host k k b' ∧ b'.mem k = v ∧
      ∀ i, i ≠ k → b'.mem i = b.mem i := by
  obtain ⟨-, hds, hv⟩ := h
  obtain ⟨b', hrun, hmem, hresto⟩ := recorreHost_digitos host (v := 0) hk hds (by rw [hb]; rfl)
  refine ⟨b', hrun, ?_, hresto⟩
  apply UInt8.toNat_inj.mp
  have hlt := v.toNat_lt
  rw [hmem, ← hv]
  rw [← hv] at hlt
  exact Nat.mod_eq_of_lt hlt

/-- An address is read as it is. -/
theorem EsDireccion.octetos (h : EsDireccion host ip) (b : Memoria) :
    (List.range 4).map (wizchipIsDomainName host b).2.mem = ip.bytes := by
  obtain ⟨d₀, d₁, d₂, d₃, rfl, h₀, h₁, h₂, h₃⟩ := h
  unfold wizchipIsDomainName
  obtain ⟨b₀, hrun₀, hm₀, -⟩ := recorreHost_octeto _ (b := b.pon 0 0) (k := 0) (by decide) h₀ rfl
  rw [hrun₀, recorreHost_punto _ _ (by decide)]
  obtain ⟨b₁, hrun₁, hm₁, hr₁⟩ := recorreHost_octeto _ (b := b₀.pon 1 0) (k := 1) (by decide) h₁ rfl
  rw [hrun₁, recorreHost_punto _ _ (by decide)]
  obtain ⟨b₂, hrun₂, hm₂, hr₂⟩ := recorreHost_octeto _ (b := b₁.pon 2 0) (k := 2) (by decide) h₂ rfl
  rw [hrun₂, recorreHost_punto _ _ (by decide)]
  obtain ⟨b₃, hrun₃, hm₃, hr₃⟩ := recorreHost_octeto [] (b := b₂.pon 3 0) (k := 3) (by decide) h₃ rfl
  rw [← List.append_nil d₃, hrun₃]
  have h0 : b₃.mem 0 = ip.a := by simp [hr₃, hr₂, hr₁, Memoria.pon, hm₀]
  have h1 : b₃.mem 1 = ip.b := by simp [hr₃, hr₂, Memoria.pon, hm₁]
  have h2 : b₃.mem 2 = ip.c := by simp [hr₃, Memoria.pon, hm₂]
  show [b₃.mem 0, b₃.mem 1, b₃.mem 2, b₃.mem 3] = _
  rw [h0, h1, h2, hm₃, IP.bytes]

/-! ### Which hosts are told apart -/

/-- What is asked of the function at a host: `0` for the addresses alone, with their octets, `1` and four zeros for the
rest, which are resolved through DNS, and no write outside the four bytes. -/
structure Reconoce (host : List UInt8) (mem : Nat → UInt8) : Prop where
  cero_iff : (wizchipIsDomainName host ⟨mem, []⟩).1 = 0 ↔ ∃ ip, EsDireccion host ip
  octetos : ∀ ip, EsDireccion host ip → (List.range 4).map (wizchipIsDomainName host ⟨mem, []⟩).2.mem = ip.bytes
  uno : (wizchipIsDomainName host ⟨mem, []⟩).1 ≠ 0 → (wizchipIsDomainName host ⟨mem, []⟩).1 = 1 ∧
    ∀ i < 4, (wizchipIsDomainName host ⟨mem, []⟩).2.mem i = 0
  dentro : ∀ i ∈ (wizchipIsDomainName host ⟨mem, []⟩).2.escritos, i < 4
  resuelve : (¬ ∃ ip, EsDireccion host ip) → ∀ (red : Servidor) (rondas : Nat) (waittimeSec : UInt32) (s : Consulta),
    waittimeSec ≠ 0 → s.ipFromDns = ⟨mem, []⟩ → wizchipDNSQuery red rondas waittimeSec host s =
      consultaDns red rondas waittimeSec host { s with ipFromDns := (wizchipIsDomainName host ⟨mem, []⟩).2 }

theorem wizchipIsDomainName_fst (host : List UInt8) (b : Memoria) :
    (wizchipIsDomainName host b).1 = if Ajeno host then 1 else 0 := by
  rw [wizchipIsDomainName, recorreHost_fst (by decide), Nat.zero_add]
  rfl

theorem EsDireccion.not_ajeno (h : EsDireccion host ip) : ¬ Ajeno host := fun ha => ha.1 h.prefijo

theorem wizchipIsDomainName_escritos (host : List UInt8) (mem : Nat → UInt8) :
    (∀ i ∈ (wizchipIsDomainName host ⟨mem, []⟩).2.escritos, i < 4) ↔ puntos host < 4 := by
  rw [wizchipIsDomainName, recorreHost_escritos (by decide) _ (by simp [Memoria.pon]), Nat.zero_add]

/-- A host is told right just when it is an address or has a character that is neither a digit nor a dot before any
fourth dot. -/
theorem wizchipIsDomainName_reconoce_iff (host : List UInt8) (mem : Nat → UInt8) :
    Reconoce host mem ↔ (∃ ip, EsDireccion host ip) ∨ Ajeno host := by
  have hfst := wizchipIsDomainName_fst host ⟨mem, []⟩
  constructor
  · intro h
    by_cases ha : Ajeno host
    · exact .inr ha
    · rw [if_neg ha] at hfst
      exact .inl (h.cero_iff.mp hfst)
  · intro h
    have hpuntos : puntos host < 4 := by
      rcases h with ⟨ip, h⟩ | h
      · rw [h.puntos]
        decide
      · exact h.2
    refine ⟨?_, fun ip hip => hip.octetos _, ?_, (wizchipIsDomainName_escritos host mem).mpr hpuntos, ?_⟩
    · rcases h with h | h
      · obtain ⟨ip, hip⟩ := h
        exact iff_of_true (hfst.trans (if_neg hip.not_ajeno)) ⟨ip, hip⟩
      · rw [hfst, if_pos h]
        exact iff_of_false (by decide) fun ⟨ip, hip⟩ => hip.not_ajeno h
    · intro hne
      refine ⟨?_, recorreHost_ceros (by decide) _ hne⟩
      by_cases ha : Ajeno host
      · exact hfst.trans (if_pos ha)
      · exact absurd (hfst.trans (if_neg ha)) hne
    · intro hno red rondas waittimeSec s hw hs
      have hret : (wizchipIsDomainName host ⟨mem, []⟩).1 ≠ 0 := by
        rw [hfst, if_pos (h.resolve_left hno)]
        decide
      rw [wizchipDNSQuery_eq red rondas host s hw, hs, if_neg hret]

/-- Three octets are taken for an address. -/
theorem wizchipIsDomainName_tres_octetos : ¬ ∀ (host : List UInt8) (mem : Nat → UInt8), Reconoce host mem := by
  intro h
  have hcero := (h (literal ['1', '0', '.', '0', '.', '1']) fun _ => 0xFF).cero_iff
  obtain ⟨ip, hip⟩ := hcero.mp (by decide)
  exact absurd hip.puntos (by decide)

end DNS

end Wiznet
