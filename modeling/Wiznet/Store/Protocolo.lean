import Wiznet.Flash.Protocolo
import Wiznet.Store.Volcado

/-!
# The store and the dump keep the protocol of the bus

Function by function, from the driver up: between streams the monitor is at rest, and every path out of a loop that
reads or writes a stream closes it.  `bus_protocolo` is the result for the four entry points, on any flash and with any
arguments.
-/

namespace Wiznet

open Monitor
open W25Q16

variable (page : UInt16) (pageAddress : UInt8) (sector : UInt16) (t : TipoVar) (n : Nombre)

/-! ### `varsGestion.cpp` -/

theorem comparaNombre_sigue (fuel i : Nat) : Sigue .leyendo (comparaNombre n fuel i page pageAddress) .leyendo := by
  induction fuel generalizing i page pageAddress with
  | zero => exact follows_throw _
  | succ fuel ih =>
    refine (streamRead_sigue page pageAddress).bind fun ⟨byte, page, pageAddress⟩ => ?_
    refine follows_ite (fun _ => follows_pure rfl) fun _ => follows_ite (fun _ => follows_pure rfl) fun _ => ?_
    exact follows_ite (fun _ => follows_pure rfl) fun _ => ih page pageAddress (i + 1)

theorem nombreVarEnFlashOk_sigue : Sigue .reposo (nombreVarEnFlashOk sector n) .reposo := by
  refine (initStreamRead_sigue _ _).bind fun _ => (comparaNombre_sigue _ _ n _ _).bind fun iguales => ?_
  exact closeStreamRead_sigue.bind fun _ => follows_pure rfl

theorem checksumDe_sigue : Sigue .reposo (checksumDe n) .reposo := by
  unfold checksumDe
  split
  · exact follows_pure rfl
  · exact follows_throw _

theorem coincidenciaDatosVar_sigue (chkSumStr : UInt16) :
    Sigue .reposo (coincidenciaDatosVar sector t n chkSumStr) .reposo := by
  refine (read_sigue _ _).bind fun tipo => follows_ite (fun _ => follows_pure rfl) fun _ => ?_
  refine (readU16_sigue _ _).bind fun chkSum => follows_ite (fun _ => follows_pure rfl) fun _ => ?_
  exact nombreVarEnFlashOk_sigue sector n

theorem streamWriteAll_sigue (vs : List UInt8) :
    Sigue .escribiendo (streamWriteAll vs page pageAddress) .escribiendo := by
  induction vs generalizing page pageAddress with
  | nil => exact follows_pure rfl
  | cons v vs ih => exact (streamWrite_sigue page pageAddress v).bind fun ⟨page, pageAddress⟩ => ih page pageAddress

theorem initVarFlash_sigue (p : Nat → UInt8) : Sigue .reposo (initVarFlash sector t n p) .reposo := by
  refine (checksumDe_sigue n).bind fun chkSum => (write_sigue _ _ _).bind fun _ =>
    (writeU16_sigue _ _ _).bind fun _ => ?_
  refine (initStreamWrite_sigue _ _).bind fun _ => (streamWriteAll_sigue _ _ _).bind fun ⟨page, pageAddress⟩ => ?_
  refine (streamWrite_sigue _ _ _).bind fun ⟨page, pageAddress⟩ => closeStreamWrite_sigue.bind fun _ => ?_
  exact (initStreamWrite_sigue _ _).bind fun _ => (streamWriteAll_sigue _ _ _).bind fun _ => closeStreamWrite_sigue

/-- Both ways out of the scan close the stream. -/
theorem exploraFAT_sigue (fuel : Nat) (pos : UInt16) (byteFat : UInt8) :
    Sigue .leyendo (exploraFAT fuel page pageAddress pos byteFat) .reposo := by
  induction fuel generalizing page pageAddress pos byteFat with
  | zero => exact follows_throw _
  | succ fuel ih =>
    refine follows_ite (fun _ => ?_) fun _ => closeStreamRead_sigue.bind fun _ => follows_pure rfl
    refine (streamRead_sigue page pageAddress).bind fun ⟨byte, page, pageAddress⟩ => ?_
    refine follows_ite (fun _ => ih _ _ _ _) fun _ => ?_
    cases exploraByte 8 byte pos with
    | none => exact ih _ _ _ _
    | some pos => exact closeStreamRead_sigue.bind fun _ => follows_pure rfl

theorem leePosEnFAT_sigue : Sigue .reposo (leePosEnFAT sector) .reposo :=
  (initStreamRead_sigue _ _).bind fun _ => exploraFAT_sigue _ _ _ _ _

theorem buscaVariable_sigue (p : Nat → UInt8) (chkSumStr : UInt16) (fuel : Nat) :
    Sigue .reposo (buscaVariable t p n chkSumStr fuel sector) .reposo := by
  induction fuel generalizing sector with
  | zero => exact follows_throw _
  | succ fuel ih =>
    refine (read_sigue _ _).bind fun tipo => follows_ite (fun _ => ?_) fun _ => ?_
    · exact (initVarFlash_sigue sector t n p).bind fun _ => follows_pure rfl
    refine (coincidenciaDatosVar_sigue sector t n chkSumStr).bind fun coincide => ?_
    refine follows_ite (fun _ => follows_pure rfl) fun _ => ?_
    exact follows_ite (fun _ => ih _) fun _ => follows_pure rfl

theorem encuentraVariable_sigue (p : Nat → UInt8) : Sigue .reposo (encuentraVariable t p n) .reposo :=
  (checksumDe_sigue n).bind fun _ => buscaVariable_sigue _ t n p _ _

theorem escribeBytes_sigue (vs : List UInt8) : Sigue .reposo (escribeBytes vs page pageAddress) .reposo := by
  induction vs generalizing page pageAddress with
  | nil => exact follows_pure rfl
  | cons v vs ih =>
    exact (write_sigue page pageAddress v).bind fun _ => follows_ite (fun _ => ih _ _) fun _ => ih _ _

theorem leeBytes_sigue (k : Nat) : Sigue .reposo (leeBytes k page pageAddress) .reposo := by
  induction k generalizing page pageAddress with
  | zero => exact follows_pure rfl
  | succ k ih =>
    refine (read_sigue page pageAddress).bind fun v => follows_ite (fun _ => ?_) fun _ => ?_
    · exact (ih _ _).bind fun vs => follows_pure rfl
    · exact (ih _ _).bind fun vs => follows_pure rfl

theorem escribeEnSector_sigue (p : Nat → UInt8) : Sigue .reposo (escribeEnSector sector t n p) .reposo := by
  refine (leePosEnFAT_sigue sector).bind fun fat => follows_ite (fun _ => ?_) fun _ => ?_
  · refine (sectorErase_sigue _).bind fun _ => (initVarFlash_sigue sector t n p).bind fun _ => follows_pure rfl
  · refine (write_sigue _ _ _).bind fun _ => (escribeBytes_sigue _ _ _).bind fun _ => follows_pure rfl

theorem leeEnSector_sigue : Sigue .reposo (leeEnSector sector t) .reposo :=
  (leePosEnFAT_sigue sector).bind fun _ => (leeBytes_sigue _ _ _).bind fun _ => follows_pure rfl

theorem escribeVar_sigue (p : Nat → UInt8) : Sigue .reposo (escribeVar sector t n p) .reposo := by
  refine follows_ite (fun _ => ?_) fun _ => ?_
  · refine (checksumDe_sigue n).bind fun chkSumStr => (coincidenciaDatosVar_sigue sector t n chkSumStr).bind fun _ => ?_
    refine follows_ite (fun _ => escribeEnSector_sigue sector t n p) fun _ => ?_
    refine (encuentraVariable_sigue t n p).bind fun ⟨hay, sector⟩ => ?_
    exact follows_ite (fun _ => escribeEnSector_sigue sector t n p) fun _ => follows_pure rfl
  · exact (encuentraVariable_sigue t n p).bind fun ⟨_, sector⟩ => escribeEnSector_sigue sector t n p

theorem leeVariable_sigue (p : Nat → UInt8) : Sigue .reposo (leeVariable sector t n p) .reposo := by
  have hbusca : Sigue .reposo (encuentraVariable t p n >>= fun r =>
      if r.1 then leeEnSector r.2 t else pure ⟨0, r.2, []⟩) .reposo :=
    (encuentraVariable_sigue t n p).bind fun r => follows_ite (fun _ => leeEnSector_sigue r.2 t) fun _ =>
      follows_pure rfl
  refine follows_ite (fun _ => ?_) fun _ => hbusca
  refine (checksumDe_sigue n).bind fun chkSumStr => (coincidenciaDatosVar_sigue sector t n chkSumStr).bind fun _ => ?_
  exact follows_ite (fun _ => leeEnSector_sigue sector t) fun _ => hbusca

/-! ### `volcarFlash.cpp` -/

theorem printBytes_sigue (longPLC : UInt16) (fuel : Nat) (i : UInt16) :
    Sigue .leyendo (printBytes longPLC fuel i page pageAddress) .leyendo := by
  induction fuel generalizing i page pageAddress with
  | zero => exact follows_throw _
  | succ fuel ih =>
    refine follows_ite (fun _ => ?_) fun _ => follows_pure rfl
    refine (streamRead_sigue page pageAddress).bind fun ⟨byte, page, pageAddress⟩ => ?_
    exact (ih _ _ _).bind fun _ => follows_pure rfl

theorem printPlcDeFlash_sigue : Sigue .reposo (printPlcDeFlash sector) .reposo := by
  refine follows_ite (fun _ => follows_pure rfl) fun _ => (readU16_sigue _ _).bind fun varCheck => ?_
  refine follows_ite (fun _ => follows_pure rfl) fun _ => follows_ite (fun _ => follows_pure rfl) fun _ => ?_
  refine (readU16_sigue _ _).bind fun longPLC => follows_ite (fun _ => follows_pure rfl) fun _ => ?_
  refine (initStreamRead_sigue _ _).bind fun _ => (printBytes_sigue _ _ _ _ _).bind fun bytes => ?_
  exact closeStreamRead_sigue.bind fun _ => follows_pure rfl

theorem leeNombre_sigue (fuel i : Nat) (chkSumStr : UInt16) (nombVar : Memoria) :
    Sigue .leyendo (leeNombre fuel i chkSumStr nombVar page pageAddress) .leyendo := by
  induction fuel generalizing i chkSumStr nombVar page pageAddress with
  | zero => exact follows_throw _
  | succ fuel ih =>
    refine (streamRead_sigue page pageAddress).bind fun ⟨byte, page, pageAddress⟩ => ?_
    refine follows_ite (fun _ => follows_pure rfl) fun _ => ?_
    exact follows_ite (fun _ => follows_pure rfl) fun _ => ih _ _ _ _ _

theorem printVar_sigue (basura : Basura) : Sigue .reposo (printVar basura sector) .reposo := by
  refine follows_ite (fun _ => follows_pure rfl) fun _ => (read_sigue _ _).bind fun tipoVariable => ?_
  refine follows_ite (fun _ => follows_pure rfl) fun _ => (readU16_sigue _ _).bind fun chkSum => ?_
  refine (leePosEnFAT_sigue sector).bind fun fat => (initStreamRead_sigue _ _).bind fun _ => ?_
  refine (leeNombre_sigue _ _ _ _ _ _).bind fun ⟨nombVar, chkSumStr⟩ => closeStreamRead_sigue.bind fun _ => ?_
  exact follows_ite (fun _ => follows_pure rfl) fun _ => follows_pure rfl

theorem volcarFlash_sigue (basura : Basura) : Sigue .reposo (volcarFlash basura) .reposo := by
  have hplcs : ∀ fuel sectorPlc, Sigue .reposo (printPlcs fuel sectorPlc) .reposo := by
    intro fuel
    induction fuel with
    | zero => exact fun _ => follows_throw _
    | succ fuel ih =>
      intro sectorPlc
      refine follows_ite (fun _ => ?_) fun _ => follows_pure rfl
      exact (printPlcDeFlash_sigue _).bind fun ⟨_, salida⟩ => (ih _).bind fun _ => follows_pure rfl
  have hvars : ∀ fuel sectorVar, Sigue .reposo (printVars basura fuel sectorVar) .reposo := by
    intro fuel
    induction fuel with
    | zero => exact fun _ => follows_throw _
    | succ fuel ih =>
      intro sectorVar
      refine follows_ite (fun _ => ?_) fun _ => follows_pure rfl
      exact (printVar_sigue _ basura).bind fun ⟨_, v⟩ => (ih _).bind fun _ => follows_pure rfl
  exact (hplcs _ _).bind fun _ => (hvars _ _).bind fun _ => follows_pure rfl

theorem dumpBytes_sigue (longitud : UInt16) (fuel : Nat) (i contFila : UInt16) :
    Sigue .leyendo (dumpBytes longitud fuel i contFila page pageAddress) .leyendo := by
  induction fuel generalizing i contFila page pageAddress with
  | zero => exact follows_throw _
  | succ fuel ih =>
    refine follows_ite (fun _ => ?_) fun _ => follows_pure rfl
    refine (streamRead_sigue page pageAddress).bind fun ⟨byte, page, pageAddress⟩ => ?_
    exact (ih _ _ _ _).bind fun _ => follows_pure rfl

theorem dumpFlash_sigue (longitud : UInt16) : Sigue .reposo (dumpFlash page pageAddress longitud) .reposo := by
  refine (initStreamRead_sigue _ _).bind fun _ => (dumpBytes_sigue _ _ _ _ _ _).bind fun bytes => ?_
  exact closeStreamRead_sigue.bind fun _ => follows_pure rfl

/-! ### The entry points -/

/-- From one state to the other the events keep the rules, and at the end the bus is released, the chip is deselected
and its write latch is off. -/
structure GuardaProtocolo (b b' : Bus) : Prop where
  eventos : ∃ u, b'.trace = b.trace ++ u ∧ BienFormada u
  held : b'.held = false
  phase : b'.chip.phase = .deselected
  wel : b'.chip.wel = false

theorem Bus.Listo.acorde {b : Bus} (hb : b.Listo) : Acorde b .reposo :=
  ⟨hb.held, hb.phase, fun h => by rw [hb.wel] at h; exact h, fun _ => hb.busy⟩

theorem Sigue.guarda {α : Type} {x : SpiM α} {a : α} {b b' : Bus} (hx : Sigue .reposo x .reposo) (hb : b.Listo)
    (h : x b = .ok a b') : GuardaProtocolo b b' := by
  obtain ⟨hb', hu⟩ := hx b a b' hb.acorde h
  refine ⟨hu, hb'.held, hb'.curso, ?_⟩
  cases hw : b'.chip.wel with
  | false => rfl
  | true => exact (hb'.wel hw).symm

/-- Every call that returns keeps the protocol of the bus. -/
theorem bus_protocolo {b b' : Bus} (hb : b.Listo) :
    (∀ s t n p r, leeVariable s t n p b = .ok r b' → GuardaProtocolo b b') ∧
    (∀ s t n p r, escribeVar s t n p b = .ok r b' → GuardaProtocolo b b') ∧
    (∀ basura v, volcarFlash basura b = .ok v b' → GuardaProtocolo b b') ∧
    ∀ page pageAddress longitud ss, dumpFlash page pageAddress longitud b = .ok ss b' → GuardaProtocolo b b' :=
  ⟨fun s t n p _ => (leeVariable_sigue s t n p).guarda hb, fun s t n p _ => (escribeVar_sigue s t n p).guarda hb,
    fun basura _ => (volcarFlash_sigue basura).guarda hb,
    fun page pageAddress longitud _ => (dumpFlash_sigue page pageAddress longitud).guarda hb⟩

/-- On a blank flash the first reading creates the variable. -/
theorem bus_protocolo_nuevo : ∃ r b', leeVariable 0 .varU8 Nombre.a (fun _ => 5) Bus.nuevo = .ok r b' ∧
    GuardaProtocolo Bus.nuevo b' := by
  have hb : Bus.nuevo.Listo := ⟨rfl, rfl, rfl, rfl, rfl⟩
  obtain ⟨r, -, hg⟩ := leeVariable_gives (m := Bus.nuevo.chip.mem) (t := .varU8) (n := Nombre.a) (.inl rfl) (by decide)
    fun _ => 5
  obtain ⟨_, hd, -⟩ := hg
  obtain ⟨b', e, -⟩ := hd.ejecuta hb
  exact ⟨r, b', e, (bus_protocolo hb).1 _ _ _ _ _ e⟩

end Wiznet
