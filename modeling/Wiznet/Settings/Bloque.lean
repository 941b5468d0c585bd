import Wiznet.Settings.Variables
import Wiznet.Flash.DriverSpec

/-!
# The settings block in the flash

What the reads and writes of the settings do to sector 0.  `Ajustes.ordenes` are the thirteen commands of a complete
write: the erase, the eleven fields and the key.  The fields and the key lie apart, so a complete write is read back
(`enFlash_ordenes`), and an incomplete one has no key (`clave_ordenes_take`).
-/

namespace Wiznet

open NorFlash (Mem Cmd replay programs InPage Clear Apart)
open W25Q16

/-- The settings a flash holds. -/
def Ajustes.enFlash (m : Mem) : Ajustes where
  modoRadio := beU16 m (flashAddr 0 POSMODORADIO)
  sBeacon := beU16 m (flashAddr 0 POSSBEACON)
  idLlamador := beU16 m (flashAddr 0 POSIDLLAMADOR)
  dsMaxEntreMsgsLlamador := beU16 m (flashAddr 0 POSDSMAXENTREMSGSLLAMADOR)
  dsMinEntreMsgsLlamador := beU16 m (flashAddr 0 POSDSMINENTREMSGSLLAMADOR)
  bloqueoAbusones := beU16 m (flashAddr 0 POSBLOQUEOABUSONES)
  avisaAbuso := beU16 m (flashAddr 0 POSAVISAABUSO)
  tiempoAbuso := beU16 m (flashAddr 0 POSTIEMPOABUSOMINUTOS)
  dsMaxEntreMsgsPozo := beU16 m (flashAddr 0 POSDSMAXENTREMSGSPOZO)
  dsMinEntreMsgsPozo := beU16 m (flashAddr 0 POSDSMINENTREMSGSPOZO)
  idVacon := beU16 m (flashAddr 0 POSIDVACON)

/-- The key a flash holds. -/
def claveEn (m : Mem) : UInt16 := beU16 m (flashAddr 0 0)

/-- The places of the fields, in the order they are read and written. -/
def posiciones : List UInt8 :=
  [ POSMODORADIO, POSSBEACON, POSIDLLAMADOR, POSDSMAXENTREMSGSLLAMADOR, POSDSMINENTREMSGSLLAMADOR, POSBLOQUEOABUSONES,
    POSAVISAABUSO, POSTIEMPOABUSOMINUTOS, POSDSMAXENTREMSGSPOZO, POSDSMINENTREMSGSPOZO, POSIDVACON]

/-- The fields with their places. -/
def Ajustes.campos (a : Ajustes) : List (UInt8 × UInt16) :=
  [( POSMODORADIO, a.modoRadio), (POSSBEACON, a.sBeacon), (POSIDLLAMADOR, a.idLlamador),
    (POSDSMAXENTREMSGSLLAMADOR, a.dsMaxEntreMsgsLlamador), (POSDSMINENTREMSGSLLAMADOR, a.dsMinEntreMsgsLlamador),
    (POSBLOQUEOABUSONES, a.bloqueoAbusones), (POSAVISAABUSO, a.avisaAbuso), (POSTIEMPOABUSOMINUTOS, a.tiempoAbuso),
    (POSDSMAXENTREMSGSPOZO, a.dsMaxEntreMsgsPozo), (POSDSMINENTREMSGSPOZO, a.dsMinEntreMsgsPozo),
    (POSIDVACON, a.idVacon)]

/-- A 16-bit value at a place of sector 0. -/
def lugar (c : UInt8 × UInt16) : Nat × List UInt8 :=
  (flashAddr 0 c.1, [(c.2 >>> 8).toUInt8, (c.2 &&& 0xFF).toUInt8])

/-- The commands of a complete write. -/
def Ajustes.ordenes (a : Ajustes) : List Cmd :=
  .erase (flashAddr 0 0) :: programs ((a.campos ++ [(0, CLAVE)]).map lugar)

/-! ### Reading and writing -/

/-- The reads of the fields. -/
def lecturas : List Cmd := posiciones.map fun p => .read (flashAddr 0 p) 2

theorem leeCampos_does (m : Mem) : Does leeCampos m (Ajustes.enFlash m) lecturas := by
  refine (readU16_does 0 _).bind ((readU16_does 0 _).bind ((readU16_does 0 _).bind ((readU16_does 0 _).bind ?_)))
  refine (readU16_does 0 _).bind ((readU16_does 0 _).bind ((readU16_does 0 _).bind ((readU16_does 0 _).bind ?_)))
  exact (readU16_does 0 _).bind ((readU16_does 0 _).bind ((readU16_does 0 _).bind (Does.pure _ _)))

theorem escribeCampos_does (a : Ajustes) (m : Mem) : Does (escribeCampos a) m () a.ordenes := by
  refine (sectorErase_does 0).bind
    ((writeU16_does 0 _ _).bind ((writeU16_does 0 _ _).bind ((writeU16_does 0 _ _).bind ?_)))
  refine (writeU16_does 0 _ _).bind
    ((writeU16_does 0 _ _).bind ((writeU16_does 0 _ _).bind ((writeU16_does 0 _ _).bind ?_)))
  refine (writeU16_does 0 _ _).bind
    ((writeU16_does 0 _ _).bind ((writeU16_does 0 _ _).bind ((writeU16_does 0 _ _).bind ?_)))
  exact writeU16_does 0 _ _

/-! ### Complete and incomplete writes -/

private theorem flashAddr_zero (p : UInt8) : flashAddr 0 p = p.toNat := Nat.zero_add _

/-- Every place lies in the first page. -/
private theorem lugar_inPage {a : Ajustes} {c : UInt8 × UInt16} (hc : c ∈ a.campos ++ [(0, CLAVE)]) :
    InPage w25q16 (lugar c) := by
  have hpos : ((a.campos ++ [(0, CLAVE)]).map Prod.fst).all fun p => p.toNat ≤ 30 :=
    show (posiciones ++ [0]).all fun p => p.toNat ≤ 30 by decide
  have h30 : c.1.toNat ≤ 30 := by simpa using List.all_eq_true.1 hpos _ (List.mem_map_of_mem hc)
  unfold InPage lugar
  rw [flashAddr_zero]
  constructor
  · show c.1.toNat < 2097152
    omega
  · show c.1.toNat % 256 + 2 ≤ 256
    omega

/-- The places of the fields and of the key do not overlap. -/
private theorem lugares_apart (a : Ajustes) : ((a.campos ++ [(0, CLAVE)]).map lugar).Pairwise Apart := by
  have h : ((a.campos ++ [(0, CLAVE)]).map Prod.fst).Pairwise
      fun p q => flashAddr 0 p + 2 ≤ flashAddr 0 q ∨ flashAddr 0 q + 2 ≤ flashAddr 0 p :=
    show (posiciones ++ [0]).Pairwise
      fun p q => flashAddr 0 p + 2 ≤ flashAddr 0 q ∨ flashAddr 0 q + 2 ≤ flashAddr 0 p by decide
  have h' := List.pairwise_map.1 h
  exact List.pairwise_map.2 h'

private theorem borrado_apply (m : Mem) {x : Nat} (hx : x < 4096) :
    Cmd.apply w25q16 (.erase (flashAddr 0 0)) m x = 0xFF := by
  rw [Cmd.apply_erase, if_pos]
  show x / 4096 = 0 % 2097152 / 4096
  omega

/-- Each value of a complete write is read back at its place. -/
theorem beU16_ordenes (a : Ajustes) (m : Mem) {c : UInt8 × UInt16} (hc : c ∈ a.campos ++ [(0, CLAVE)]) :
    beU16 (replay w25q16 a.ordenes m) (flashAddr 0 c.1) = c.2 := by
  have hin : ∀ s ∈ (a.campos ++ [(0, CLAVE)]).map lugar, InPage w25q16 s := by
    intro s hs
    obtain ⟨c', hc', rfl⟩ := List.mem_map.1 hs
    exact lugar_inPage hc'
  have hblank : ∀ s ∈ (a.campos ++ [(0, CLAVE)]).map lugar, ∀ i < s.2.length,
      Cmd.apply w25q16 (.erase (flashAddr 0 0)) m (s.1 + i) = 0xFF := by
    intro s hs i hi
    obtain ⟨c', -, rfl⟩ := List.mem_map.1 hs
    have hlt := c'.1.toNat_lt
    refine borrado_apply m ?_
    have hi' : i < 2 := hi
    show flashAddr 0 c'.1 + i < 4096
    rw [flashAddr_zero]
    omega
  have hget := fun i (hi : i < 2) => NorFlash.replay_programs_get hin (lugares_apart a) hblank
    (List.mem_map_of_mem hc) (i := i) hi
  have hlt := c.1.toNat_lt
  have h0 := hget 0 (by decide)
  have h1 := hget 1 (by decide)
  simp only [lugar, List.getElem_cons_succ, List.getElem_cons_zero, Nat.add_zero] at h0 h1
  have hcap : ∀ i < 2, (flashAddr 0 c.1 + i) % w25q16.capacity = flashAddr 0 c.1 + i := fun i hi =>
    Nat.mod_eq_of_lt (by rw [flashAddr_zero]; show c.1.toNat + i < 2097152; omega)
  have e0 := hcap 0 (by decide)
  have e1 := hcap 1 (by decide)
  rw [Nat.add_zero] at e0
  calc beU16 (replay w25q16 a.ordenes m) (flashAddr 0 c.1)
      = ((c.2 >>> 8).toUInt8.toUInt16 <<< 8) + (c.2 &&& 0xFF).toUInt8.toUInt16 := by
        unfold beU16
        unfold Ajustes.ordenes
        rw [e0, e1, NorFlash.replay_cons, h0, h1]
    _ = c.2 := by rw [low_byte, u16_of_bytes]

/-- A complete write holds the key and the settings. -/
theorem claveEn_ordenes (a : Ajustes) (m : Mem) : claveEn (replay w25q16 a.ordenes m) = CLAVE :=
  beU16_ordenes a m (c := (0, CLAVE)) (by simp)

theorem enFlash_ordenes (a : Ajustes) (m : Mem) : Ajustes.enFlash (replay w25q16 a.ordenes m) = a := by
  have h : ∀ c ∈ a.campos, beU16 (replay w25q16 a.ordenes m) (flashAddr 0 c.1) = c.2 :=
    fun c hc => beU16_ordenes a m (List.mem_append_left _ hc)
  unfold Ajustes.campos at h
  simp only [List.forall_mem_cons] at h
  obtain ⟨h1, h2, h3, h4, h5, h6, h7, h8, h9, h10, h11, -⟩ := h
  simp only [Ajustes.enFlash, h1, h2, h3, h4, h5, h6, h7, h8, h9, h10, h11]

/-- From the erase on and before the key is written there is no key. -/
theorem claveEn_ordenes_take (a : Ajustes) (m : Mem) {j : Nat} (h0 : 0 < j) (h13 : j < 13) :
    claveEn (replay w25q16 (a.ordenes.take j) m) ≠ CLAVE := by
  obtain ⟨j, rfl⟩ : ∃ i, j = i + 1 := ⟨j - 1, by omega⟩
  have htake : a.ordenes.take (j + 1) = .erase (flashAddr 0 0) :: programs ((a.campos.take j).map lugar) := by
    have hj : j - a.campos.length = 0 := by
      show j - 11 = 0
      omega
    unfold Ajustes.ordenes programs
    rw [List.take_succ_cons, ← List.map_take, ← List.map_take, List.take_append, hj, List.take_zero, List.append_nil]
  have hff : ∀ x < 2, replay w25q16 (a.ordenes.take (j + 1)) m x = 0xFF := by
    intro x hx
    have hmem : ∀ c ∈ a.campos.take j, c ∈ a.campos := fun c hc => List.mem_of_mem_take hc
    have hpos : (a.campos.map Prod.fst).all fun p => 2 ≤ p.toNat :=
      show posiciones.all fun p => 2 ≤ p.toNat by decide
    rw [htake]
    refine (NorFlash.replay_programs_of_clear ?_ ?_).trans (borrado_apply m (by omega))
    · intro s hs
      obtain ⟨c, hc, rfl⟩ := List.mem_map.1 hs
      exact lugar_inPage (List.mem_append_left _ (hmem c hc))
    · intro s hs
      obtain ⟨c, hc, rfl⟩ := List.mem_map.1 hs
      have h2 : 2 ≤ c.1.toNat := by simpa using List.all_eq_true.1 hpos _ (List.mem_map_of_mem (hmem c hc))
      refine .inl ?_
      show x < flashAddr 0 c.1
      rw [flashAddr_zero]
      omega
  unfold claveEn beU16
  rw [hff _ (by decide), hff _ (by decide)]
  decide

end Wiznet
