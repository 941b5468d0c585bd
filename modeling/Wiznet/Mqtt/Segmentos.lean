import Wiznet.Mqtt.Suscripcion
import Mathlib.Algebra.Group.Nat.Defs

/-!
# Packets and segments

What becomes of the packets of the broker when their bytes come a few at a time.  The connection is a stream (`Tubo`)
of which some bytes are in the buffer of the socket and the rest come as a plan says; `Canal` puts it below the
thread, over a world that may do anything else.  The client takes a packet in several reads, none of which waits, and
keeps nothing of a packet it has not got whole.
-/

namespace Wiznet

open Stateful Wizchip

/-- The buffer of the socket for what comes in. -/
def RX_BUFFER_SIZE : Nat := 2048

/-- The bytes in the buffer, those still to come, and how many of them come before each look at the socket. -/
structure Tubo where
  disponible : List UInt8
  enCamino : List UInt8
  plan : Nat → Nat
  cabe : disponible.length ≤ RX_BUFFER_SIZE

namespace Tubo

variable {t : Tubo} {n : Nat}

/-- All the bytes the client has not read. -/
def pendiente (t : Tubo) : List UInt8 := t.disponible ++ t.enCamino

/-- What comes before a look, as far as there is room. -/
def llega (t : Tubo) : Tubo where
  disponible := t.disponible ++ t.enCamino.take (min (t.plan 0) (RX_BUFFER_SIZE - t.disponible.length))
  enCamino := t.enCamino.drop (min (t.plan 0) (RX_BUFFER_SIZE - t.disponible.length))
  plan k := t.plan (k + 1)
  cabe := by
    have := t.cabe
    simp only [List.length_append, List.length_take]
    omega

def saca (n : Nat) (t : Tubo) : Tubo where
  disponible := t.disponible.drop n
  enCamino := t.enCamino
  plan := t.plan
  cabe := by
    have := t.cabe
    simp only [List.length_drop]
    omega

/-- `w5x00_read` of `n` bytes: a look at how many there are and, when there are any, another that takes them. -/
def lee (n : Nat) (t : Tubo) : List UInt8 × Tubo :=
  if t.llega.disponible = [] then ([], t.llega) else (t.llega.llega.disponible.take n, t.llega.llega.saca n)

@[simp] theorem pendiente_llega : t.llega.pendiente = t.pendiente := by simp [pendiente, llega]

theorem disponible_llega_ne_nil (h : t.disponible ≠ []) : t.llega.disponible ≠ [] := by simp [llega, h]

theorem pendiente_saca : t.disponible.take n ++ (t.saca n).pendiente = t.pendiente := by
  simp [pendiente, saca, ← List.append_assoc]

/-- Nothing is lost. -/
theorem pendiente_lee : (t.lee n).1 ++ (t.lee n).2.pendiente = t.pendiente := by
  unfold lee
  split
  · simp
  · simp [pendiente_saca]

theorem lee_ne_nil (h : t.llega.disponible ≠ []) (hn : 0 < n) : (t.lee n).1 ≠ [] := by
  have h' := disponible_llega_ne_nil h
  simp only [lee, h, if_false, ne_eq, List.take_eq_nil_iff, h', or_false]
  omega

theorem pendiente_lee_nil (h : (t.lee n).1 = []) : (t.lee n).2.pendiente = t.pendiente := by
  have := pendiente_lee (t := t) (n := n)
  rwa [h, List.nil_append] at this

/-- A read that gets all it asks for. -/
theorem lee_entero (h : (t.lee n).1.length = n) :
    (t.lee n).1 = t.pendiente.take n ∧ (t.lee n).2.pendiente = t.pendiente.drop n := by
  have happ := pendiente_lee (t := t) (n := n)
  rw [← happ]
  exact ⟨(List.take_left' h).symm, (List.drop_left' h).symm⟩

/-- Reads of these sizes, one after another, get all they ask for. -/
def Sirve : List Nat → Tubo → Prop
  | [], _ => True
  | n :: ns, t => (t.lee n).1.length = n ∧ Sirve ns (t.lee n).2

instance decidableSirve : (ns : List Nat) → (t : Tubo) → Decidable (Sirve ns t)
  | [], _ => inferInstanceAs (Decidable True)
  | n :: ns, t =>
    have := decidableSirve ns (t.lee n).2
    inferInstanceAs (Decidable (_ ∧ _))

end Tubo

/-- The thread's connection over a world `B` that may do anything with the rest.  The connection is never lost. -/
structure Canal (B : Type) where
  tubo : Tubo
  base : B

namespace Canal

variable {B : Type}

def enBase {α : Type} (f : B → α × B) (w : Canal B) : α × Canal B :=
  match f w.base with
  | (a, base) => (a, { w with base := base })

def enBaseM {α : Type} (x : EStateM Parada B α) : EStateM Parada (Canal B) α := fun w =>
  match x w.base with
  | .ok a base => .ok a { w with base := base }
  | .error e base => .error e { w with base := base }

variable [Wizchip B]

instance : Wizchip (Canal B) where
  w5500Init fuel := enBaseM (w5500Init fuel)
  getPHYCFGR := enBase getPHYCFGR
  getSnSR sn w := if sn = MQTT_SOCKET then (SOCK_ESTABLISHED, w) else enBase (getSnSR sn) w
  getSnRXRSR sn w :=
    if sn = MQTT_SOCKET then (w.tubo.llega.disponible.length.toUInt16, { w with tubo := w.tubo.llega })
    else enBase (getSnRXRSR sn) w
  socket sn protocol port flag := enBase (socket sn protocol port flag)
  connect sn addr port := enBase (connect sn addr port)
  disconnect sn := enBase (disconnect sn)
  close sn := enBase (close sn)
  send sn bs := enBase (send sn bs)
  recv sn len w :=
    if sn = MQTT_SOCKET then
      (.ok (w.tubo.llega.disponible.take len.toNat), { w with tubo := w.tubo.llega.saca len.toNat })
    else enBase (recv sn len) w
  dhcpInit sn tam := enBase (dhcpInit sn tam)
  dhcpRun fuel := enBaseM (dhcpRun fuel)
  dhcpStop := enBase dhcpStop
  chVTGetSystemTime := enBase chVTGetSystemTime
  chThdSleepMilliseconds n := enBase (chThdSleepMilliseconds n)
  tickLed n := enBase (tickLed n)
  ledControl state := enBase (ledControl state)

end Canal

/-! ### The packets -/

/-- A packet of the broker that fits in the client's buffer. -/
structure Trama where
  header : UInt8
  cuerpo : List UInt8
  cabe : 1 + (MQTTPacket.encode cuerpo.length).length + cuerpo.length ≤ MQTT_BUF_SIZE

def Trama.bytes (p : Trama) : List UInt8 := p.header :: (MQTTPacket.encode p.cuerpo.length ++ p.cuerpo)

/-- The packet in the buffer, as its first bytes say. -/
def paquete (m : Buffer) : List UInt8 := m.lee 0 (1 + (MQTTPacket.decodeBuf m 1).1 + (MQTTPacket.decodeBuf m 1).2)

/-- The sizes of the reads with which the client takes the packet at the head of a stream: the length bytes that may
still come, the weight of the next one, the value so far. -/
def trozosLongitud : Nat → Nat → Nat → List UInt8 → List Nat
  | 0, _, value, _ => if value > 0 then [value] else []
  | _ + 1, _, _, [] => []
  | n + 1, multiplier, value, i :: bs =>
    let value := value + (i &&& 127).toNat * multiplier
    1 :: if i &&& 128 ≠ 0 then trozosLongitud n (multiplier * 128) value bs else if value > 0 then [value] else []

def trozos : List UInt8 → List Nat
  | [] => []
  | _ :: bs => 1 :: trozosLongitud 4 1 0 bs

/-- Either nothing is there when the client looks for a packet, or every part of the next one is there when the client
asks for it. -/
def Tubo.Entera (t : Tubo) : Prop := (t.lee 1).1 = [] ∨ t.Sirve (trozos t.pendiente)

instance (t : Tubo) : Decidable t.Entera := inferInstanceAs (Decidable (_ ∨ _))

/-! ### Runs -/

section Hilo

variable {W : Type} [Wizchip W]

/-- A run of rounds from `s₀`, with the calls of `MQTTYield` in it. -/
inductive Sesion (s₀ : Sistema W) : List (UInt32 × Sistema W) → Locales → Sistema W → Prop
  | inicio (l : Locales) : Sesion s₀ [] l s₀
  | vuelta {ys : List (UInt32 × Sistema W)} {l l' : Locales} {s s' : Sistema W} (fuel : Nat) (h : Sesion s₀ ys l s)
      (hs : threadYieldVuelta fuel l s = .ok l' s') : Sesion s₀ (ys ++ yields fuel l s) l' s'

/-- The packet that the call of `cycle` in a call of `MQTTYield` has to process. -/
def leido (y : UInt32 × Sistema W) : Option (List UInt8) :=
  match (llama (Puerto.timerCountdownMS (W := W) y.1) >>= MQTT.readPacket) y.2 with
  | .ok type s => if type = FAILURE then none else some (paquete s.readbuf)
  | .error _ _ => none

end Hilo

/-! ### The remaining length -/

namespace MQTTPacket

/-- The bits of a digit of the remaining length. -/
private theorem bits_digito : ∀ d < 128, (d.toUInt8 &&& 127).toNat = d ∧ d.toUInt8 &&& 128 = 0 ∧
    ((d.toUInt8 ||| 0x80) &&& 127).toNat = d ∧ (d.toUInt8 ||| 0x80) &&& 128 ≠ 0 := by decide

theorem digitos_succ (n length : Nat) : digitos (n + 1) length =
    if length / 128 > 0 then ((length % 128).toUInt8 ||| 0x80) :: digitos n (length / 128)
    else [(length % 128).toUInt8] := rfl

/-- The digits of a length, the lowest first. -/
inductive Digitos : Nat → List UInt8 → Prop
  | ultimo {d : UInt8} (h : d &&& 128 = 0) : Digitos (d &&& 127).toNat [d]
  | sigue {d : UInt8} {length : Nat} {ds : List UInt8} (h : d &&& 128 ≠ 0) (hs : Digitos length ds) :
      Digitos ((d &&& 127).toNat + 128 * length) (d :: ds)

/-- A length of at most `m + 1` digits has these, however many more it could have. -/
theorem digitos_digitos {m k length : Nat} (hlen : length < 128 ^ (m + 1)) (hk : m ≤ k) :
    Digitos length (digitos (k + 1) length) ∧ (digitos (k + 1) length).length ≤ m + 1 := by
  induction m generalizing k length with
  | zero =>
    have hdiv : ¬ length / 128 > 0 := by omega
    obtain ⟨hval, hfin, -, -⟩ := bits_digito length (by omega)
    rw [digitos_succ, if_neg hdiv, Nat.mod_eq_of_lt (by omega)]
    refine ⟨?_, Nat.le_refl _⟩
    have := Digitos.ultimo hfin
    rwa [hval] at this
  | succ m ih =>
    obtain ⟨-, -, hval, hsigue⟩ := bits_digito (length % 128) (Nat.mod_lt _ (by decide))
    rw [digitos_succ]
    by_cases hdiv : length / 128 > 0
    · obtain ⟨k, rfl⟩ : ∃ k', k = k' + 1 := ⟨k - 1, by omega⟩
      obtain ⟨h, hle⟩ := ih (Nat.div_lt_of_lt_mul (by rwa [Nat.pow_succ, Nat.mul_comm] at hlen)) (show m ≤ k by omega)
      have := Digitos.sigue hsigue h
      rw [hval, Nat.mod_add_div] at this
      rw [if_pos hdiv]
      exact ⟨this, by simpa using hle⟩
    · obtain ⟨hval, hfin, -, -⟩ := bits_digito length (by omega)
      rw [if_neg hdiv, Nat.mod_eq_of_lt (by omega)]
      have := Digitos.ultimo hfin
      rw [hval] at this
      exact ⟨this, by simp⟩

theorem Digitos.pos {length : Nat} {ds : List UInt8} (h : Digitos length ds) : 0 < ds.length := by
  cases h <;> simp

theorem suma_digito (value d multiplier length : Nat) :
    value + d * multiplier + length * (multiplier * 128) = value + (d + 128 * length) * multiplier := by
  rw [Nat.add_mul, Nat.add_assoc, Nat.mul_comm multiplier 128, ← Nat.mul_assoc length, Nat.mul_comm length 128]

/-- The digits are decoded where they are. -/
theorem decode_digitos {b : Buffer} {p n len multiplier value length : Nat} {ds : List UInt8} (h : Digitos length ds)
    (hn : ds.length ≤ n) (hb : b.lee (p + len) ds.length = ds) :
    decode b p n len multiplier value = (len + ds.length, value + length * multiplier) := by
  induction h generalizing n len multiplier value with
  | @ultimo d h =>
    obtain ⟨n, rfl⟩ : ∃ n', n = n' + 1 := ⟨n - 1, by simp at hn; omega⟩
    have hd : b (p + len) = d := by simpa [Buffer.lee] using hb
    simp [decode, hd, h]
  | @sigue d length ds h hs ih =>
    obtain ⟨n, rfl⟩ : ∃ n', n = n' + 1 := ⟨n - 1, by simp at hn; omega⟩
    have hcons : b.lee (p + len) (ds.length + 1) = b (p + len) :: b.lee (p + (len + 1)) ds.length := by
      simp [Buffer.lee, List.range_succ_eq_map, Function.comp_def, Nat.add_assoc, Nat.add_comm 1]
    rw [List.length_cons, hcons, List.cons.injEq] at hb
    have hresto : decode b p n (len + 1) (multiplier * 128) (value + (d &&& 127).toNat * multiplier) = _ :=
      ih (by simpa using hn) hb.2
    simp only [decode, hb.1, ne_eq, h, not_false_eq_true, if_true, hresto, List.length_cons, Prod.mk.injEq]
    exact ⟨by omega, suma_digito _ _ _ _⟩

end MQTTPacket

theorem Trama.length_lt (p : Trama) : p.cuerpo.length < 128 ^ 2 := by
  have := p.cabe
  simp only [MQTT_BUF_SIZE] at this
  omega

theorem Trama.digitos (p : Trama) : MQTTPacket.Digitos p.cuerpo.length (MQTTPacket.encode p.cuerpo.length) ∧
    (MQTTPacket.encode p.cuerpo.length).length ≤ 2 := MQTTPacket.digitos_digitos p.length_lt (by decide)

theorem Trama.bytes_append (p : Trama) (resto : List UInt8) :
    p.bytes ++ resto = p.header :: (MQTTPacket.encode p.cuerpo.length ++ (p.cuerpo ++ resto)) := by simp [bytes]

/-- The packet in the buffer is the one put there. -/
theorem paquete_escribe (p : Trama) (m : Buffer) : paquete (m.escribe 0 p.bytes) = p.bytes := by
  obtain ⟨hdig, hlen⟩ := p.digitos
  have hlee : (m.escribe 0 p.bytes).lee (1 + 0) (MQTTPacket.encode p.cuerpo.length).length =
      MQTTPacket.encode p.cuerpo.length := Buffer.lee_escribe_append m 0 [p.header] _ _
  unfold paquete MQTTPacket.decodeBuf
  rw [MQTTPacket.decode_digitos hdig (by omega) hlee]
  have htotal : 1 + (0 + (MQTTPacket.encode p.cuerpo.length).length) + (0 + p.cuerpo.length * 1) = p.bytes.length := by
    simp [Trama.bytes]
    omega
  rw [htotal, Buffer.lee_escribe]

/-! ### A read of the port -/

section Lectura

variable {B : Type} [Wizchip B]

/-- What the reader depends on. -/
structure Lector where
  tubo : Tubo
  readbuf : Buffer
  isconnected : Int
  readbufSize : Nat

def lector (s : Sistema (Canal B)) : Lector := ⟨s.mundo.tubo, s.readbuf, s.client.isconnected, s.client.readbufSize⟩

/-- What `w5x00_read` returns with these bytes read. -/
def resultado (bs : List UInt8) : Except Int (List UInt8) := if bs = [] then .error SOCK_ERROR else .ok bs

theorem w5x00Read_canal {len : Nat} (hpos : 0 < len) (hlen : len < 65536) (time : Int) (w : Canal B) :
    w5x00Read len time w = .ok (resultado (w.tubo.lee len).1) { w with tubo := (w.tubo.lee len).2 } := by
  have hmod : len.toUInt16.toNat = len := by simpa using hlen
  have hcabe := w.tubo.llega.cabe
  have hrsr : w.tubo.llega.disponible.length.toUInt16 > 0 ↔ w.tubo.llega.disponible ≠ [] := by
    rw [gt_iff_lt, UInt16.lt_iff_toNat_lt, ← List.length_pos_iff]
    simp only [RX_BUFFER_SIZE] at hcabe
    simp
    omega
  have hsr : (modifyGet (getSnSR MQTT_SOCKET) : EStateM Parada (Canal B) UInt8) w = .ok SOCK_ESTABLISHED w := rfl
  have hlook : (modifyGet (getSnRXRSR MQTT_SOCKET) : EStateM Parada (Canal B) UInt16) w =
      .ok w.tubo.llega.disponible.length.toUInt16 { w with tubo := w.tubo.llega } := rfl
  have hrecv : (modifyGet (recv MQTT_SOCKET len.toUInt16) : EStateM Parada (Canal B) (Except Int (List UInt8)))
      { w with tubo := w.tubo.llega } = .ok (.ok (w.tubo.llega.llega.disponible.take len.toUInt16.toNat))
        { w with tubo := w.tubo.llega.llega.saca len.toUInt16.toNat } := rfl
  unfold w5x00Read
  rw [bind_ok hsr, if_pos rfl, bind_ok hlook]
  by_cases h : w.tubo.llega.disponible = []
  · rw [if_neg fun hgt => hrsr.mp hgt h]
    simp only [Tubo.lee, if_pos h, resultado]
    rfl
  · have hne := Tubo.lee_ne_nil h hpos
    rw [if_pos (hrsr.mpr h), bind_ok hrecv, hmod]
    simp only [resultado, if_neg hne]
    simp only [Tubo.lee, if_neg h]
    simp only [Except.map, List.take_take, Nat.min_self]
    rfl

/-- Only reading takes from the stream. -/
theorem ajenaSalida_tubo : AjenaSalida (Canal.tubo (B := B)) where
  getPHYCFGR _ := rfl
  getSnSR sn w := by
    show (if sn = MQTT_SOCKET then (SOCK_ESTABLISHED, w) else Canal.enBase (getSnSR sn) w).2.tubo = _
    split <;> rfl
  socket _ _ _ _ _ := rfl
  connect _ _ _ _ := rfl
  disconnect _ _ := rfl
  close _ _ := rfl
  send _ _ _ := rfl
  chVTGetSystemTime _ := rfl
  chThdSleepMilliseconds _ _ := rfl
  tickLed _ _ := rfl
  ledControl _ _ := rfl

theorem intact_puerto_lector {α : Type} {x : EStateM Parada (Canal B) α} (h : Intact Canal.tubo x) :
    Intact lector (puerto x) := by
  intro s
  have hs := h s.mundo
  unfold puerto
  split
  · rename_i hx
    rw [hx] at hs
    simpa [lector] using hs
  · rename_i hx
    rw [hx] at hs
    simpa [lector] using hs

theorem ajena_lector : Ajena (lector (B := B)) where
  timerIsExpired _ := intact_modifyGet fun _ => rfl
  timerCountdownMS _ := intact_modifyGet fun _ => rfl
  timerCountdown _ := intact_modifyGet fun _ => rfl
  timerLeftMS _ := intact_modifyGet fun _ => rfl
  mqttwrite bs left := intact_puerto_lector (intact_w5x00Write ajenaSalida_tubo bs left)
  buf _ _ := rfl
  pingTimer _ _ := rfl

theorem ajenaReparto_lector : AjenaReparto (lector (B := B)) where
  toAjena := ajena_lector
  messageHandler h md := match h with
    | .messageArrived => intact_puerto_lector (intact_messageArrived ajenaSalida_tubo md)

theorem ajenaPing_lector : AjenaPing (lector (B := B)) where
  toAjena := ajena_lector
  pingOutstanding _ _ := rfl

theorem triple_mqttread {len : Nat} (hpos : 0 < len) (hlen : len < 65536) (left : Int) (r : Lector) :
    Triple (fun s : Sistema (Canal B) => lector s = r) (puerto (Puerto.mqttread len left))
      (fun res s => res = resultado (r.tubo.lee len).1 ∧ lector s = { r with tubo := (r.tubo.lee len).2 })
      fun _ => True := by
  rintro s rfl
  have hread : Puerto.mqttread len left s.mundo = _ := w5x00Read_canal hpos hlen left s.mundo
  unfold puerto
  rw [hread]
  exact ⟨rfl, rfl⟩

/-- The calls that leave the reader's view as it is. -/
theorem triple_lector {α : Type} {x : MqttM (Canal B) α} (hx : Intact lector x) (r : Lector) :
    Triple (fun s => lector s = r) x (fun _ s => lector s = r) fun _ => True :=
  (hx.triple (· = r)).weaken (fun _ h => h) (fun _ _ h => h) fun _ _ => trivial

theorem triple_escribeReadbuf {p : Nat} {bs : List UInt8} {r : Lector} (h : p + bs.length ≤ r.readbufSize) :
    Triple (fun s : Sistema (Canal B) => lector s = r) (MQTT.escribeReadbuf p bs)
      (fun _ s => lector s = { r with readbuf := r.readbuf.escribe p bs }) fun _ => True := by
  refine triple_get_bind fun s hs => triple_ite (fun hgt => ?_) fun _ => triple_modify fun s' hs' => ?_
  · have hsize : s.client.readbufSize = r.readbufSize := congrArg Lector.readbufSize hs
    omega
  · rw [← hs, ← hs']
    rfl

theorem triple_tipoLeido (r : Lector) :
    Triple (fun s : Sistema (Canal B) => lector s = r) MQTT.tipoLeido (fun type s => type ≠ FAILURE ∧ lector s = r)
      fun _ => True := by
  refine triple_get_bind fun s hs => triple_pure fun s' hs' => ⟨?_, hs' ▸ hs⟩
  simp only [FAILURE]
  omega

/-! ### A packet -/

theorem triple_readPacket_nada {r : Lector} (h : (r.tubo.lee 1).1 = []) (timer : UInt32) :
    Triple (fun s : Sistema (Canal B) => lector s = r) (MQTT.readPacket timer)
      (fun type s => type = FAILURE ∧ lector s = { r with tubo := (r.tubo.lee 1).2 }) fun _ => True := by
  refine (triple_lector (ajena_lector.timerLeftMS timer) r).bind fun left => ?_
  refine (triple_mqttread (by decide) (by decide) left r).bind fun res => triple_of_and fun hres => ?_
  rw [hres, resultado, if_pos h]
  exact triple_pure fun s hs => ⟨rfl, hs⟩

/-- A byte that is there when it is asked for. -/
theorem resultado_byte {t : Tubo} {b : UInt8} {bs : List UInt8} (hp : t.pendiente = b :: bs)
    (h : (t.lee 1).1.length = 1) : resultado (t.lee 1).1 = .ok [b] ∧ (t.lee 1).2.pendiente = bs := by
  obtain ⟨hlee, hresto⟩ := Tubo.lee_entero h
  rw [hlee, hresto, hp]
  simp [resultado]

/-- The length bytes, all there. -/
theorem triple_decodeRest {length : Nat} {ds : List UInt8} (h : MQTTPacket.Digitos length ds)
    {n len multiplier value : Nat} {resto : List UInt8} {ns : List Nat} {r : Lector} (hn : ds.length ≤ n)
    (hp : r.tubo.pendiente = ds ++ resto)
    (hs : r.tubo.Sirve (List.replicate ds.length 1 ++ ns)) (timeout : Int) :
    Triple (fun s : Sistema (Canal B) => lector s = r) (MQTT.decodeRest timeout n len multiplier value)
      (fun res s => res.2 = value + length * multiplier ∧
        ∃ t : Tubo, (t.pendiente = resto ∧ t.Sirve ns) ∧ lector s = { r with tubo := t }) fun _ => True := by
  induction h generalizing n len multiplier value r with
  | @ultimo d h =>
    obtain ⟨n, rfl⟩ : ∃ n', n = n' + 1 := ⟨n - 1, by simp at hn; omega⟩
    obtain ⟨hres, hresto⟩ := resultado_byte hp hs.1
    refine (triple_mqttread (by decide) (by decide) timeout r).bind fun res => triple_of_and fun h' => ?_
    rw [h', hres]
    simp only [ne_eq, h, not_true_eq_false, if_false]
    exact triple_pure fun s hs' => ⟨rfl, _, ⟨hresto, hs.2⟩, hs'⟩
  | @sigue d length ds h _ ih =>
    obtain ⟨n, rfl⟩ : ∃ n', n = n' + 1 := ⟨n - 1, by simp at hn; omega⟩
    obtain ⟨hres, hresto⟩ := resultado_byte hp hs.1
    refine (triple_mqttread (by decide) (by decide) timeout r).bind fun res => triple_of_and fun h' => ?_
    rw [h', hres]
    simp only [ne_eq, h, not_false_eq_true, if_true]
    refine (ih (by simpa using hn) hresto hs.2).weaken (fun _ h => h) (fun res s hfin => ?_) fun _ h => h
    rwa [MQTTPacket.suma_digito] at hfin

omit [Wizchip B] in
theorem trozosLongitud_digitos {length : Nat} {ds : List UInt8} (h : MQTTPacket.Digitos length ds)
    (n multiplier value : Nat) (hn : ds.length ≤ n) (bs : List UInt8) :
    trozosLongitud n multiplier value (ds ++ bs) = List.replicate ds.length 1 ++
      if value + length * multiplier > 0 then [value + length * multiplier] else [] := by
  induction h generalizing n multiplier value with
  | ultimo h =>
    obtain ⟨n, rfl⟩ : ∃ n', n = n' + 1 := ⟨n - 1, by simp at hn; omega⟩
    simp [trozosLongitud, h]
  | sigue h _ ih =>
    obtain ⟨n, rfl⟩ : ∃ n', n = n' + 1 := ⟨n - 1, by simp at hn; omega⟩
    simp [trozosLongitud, h, ih n _ _ (by simpa using hn), MQTTPacket.suma_digito, List.replicate_succ]

omit [Wizchip B] in
theorem trozos_bytes (p : Trama) (resto : List UInt8) :
    trozos (p.bytes ++ resto) = 1 :: (List.replicate (MQTTPacket.encode p.cuerpo.length).length 1 ++
      if p.cuerpo.length > 0 then [p.cuerpo.length] else []) := by
  obtain ⟨hdig, hlen⟩ := p.digitos
  have := trozosLongitud_digitos hdig 4 1 0 (by omega) (p.cuerpo ++ resto)
  simpa [trozos, Trama.bytes, List.append_assoc] using this

theorem triple_readPacket_entera {r : Lector} {p : Trama} {resto : List UInt8} (hbuf : r.readbufSize = MQTT_BUF_SIZE)
    (hp : r.tubo.pendiente = p.bytes ++ resto) (hs : r.tubo.Sirve (trozos r.tubo.pendiente)) (timer : UInt32) :
    Triple (fun s : Sistema (Canal B) => lector s = r) (MQTT.readPacket timer)
      (fun type s => type ≠ FAILURE ∧ paquete s.readbuf = p.bytes ∧
        ∃ t : Tubo, t.pendiente = resto ∧ lector s = { r with tubo := t, readbuf := r.readbuf.escribe 0 p.bytes })
      fun _ => True := by
  obtain ⟨hdig, hlen⟩ := p.digitos
  rw [hp, trozos_bytes] at hs
  obtain ⟨hres, hresto⟩ := resultado_byte (hp.trans (p.bytes_append resto)) hs.1
  have hleft := ajena_lector (B := B) |>.timerLeftMS timer
  refine (triple_lector hleft r).bind fun left => ?_
  refine (triple_mqttread (by decide) (by decide) left r).bind fun res => triple_of_and fun h' => ?_
  rw [h', hres]
  refine (triple_escribeReadbuf (by simp [hbuf, MQTT_BUF_SIZE])).bind fun _ => ?_
  refine (triple_lector hleft _).bind fun left => ?_
  refine (triple_decodeRest hdig (n := 4) (by omega) hresto hs.2 left).bind fun x => ?_
  obtain ⟨_, remLen⟩ := x
  refine triple_of_and fun hx => triple_of_exists fun t => triple_of_and fun ht => ?_
  obtain rfl : remLen = p.cuerpo.length := by simpa using hx
  obtain ⟨ht, hsirve⟩ := ht
  have hcabe := p.cabe
  refine (triple_escribeReadbuf (by simp only [hbuf]; omega)).bind fun _ => ?_
  have hbytes : ((r.readbuf.escribe 0 [p.header]).escribe 1 (MQTTPacket.encode p.cuerpo.length)).escribe
      (1 + (MQTTPacket.encode p.cuerpo.length).length) p.cuerpo = r.readbuf.escribe 0 p.bytes := by
    rw [Buffer.escribe_escribe]
    exact Buffer.escribe_escribe _ 0 [p.header] _
  -- what is left to do once the body is in its place
  have hfin : ∀ r' : Lector, r'.readbuf = r.readbuf.escribe 0 p.bytes → r'.tubo.pendiente = resto →
      r'.isconnected = r.isconnected → r'.readbufSize = r.readbufSize →
      Triple (fun s : Sistema (Canal B) => lector s = r') MQTT.tipoLeido (fun type s => type ≠ FAILURE ∧
        paquete s.readbuf = p.bytes ∧ ∃ t : Tubo, t.pendiente = resto ∧
          lector s = { r with tubo := t, readbuf := r.readbuf.escribe 0 p.bytes }) fun _ => True := by
    rintro ⟨t', m, c, n⟩ rfl hr rfl rfl
    refine (triple_tipoLeido _).weaken (fun _ h => h) (fun type s h => ⟨h.1, ?_, t', hr, h.2⟩) fun _ h => h
    have hm : s.readbuf = _ := congrArg Lector.readbuf h.2
    rw [hm, paquete_escribe]
  by_cases hpos : p.cuerpo.length > 0
  · rw [if_pos hpos] at hsirve ⊢
    have hlen' : p.cuerpo.length < 65536 := by have := p.length_lt; omega
    obtain ⟨hlee, hresto'⟩ := Tubo.lee_entero hsirve.1
    rw [ht, List.take_left] at hlee
    rw [ht, List.drop_left] at hresto'
    refine (triple_lector hleft _).bind fun left => ?_
    refine (triple_mqttread hpos hlen' left _).bind fun res => triple_of_and fun h' => ?_
    have hne : p.cuerpo ≠ [] := List.length_pos_iff.mp hpos
    rw [h', hlee, resultado, if_neg hne]
    refine (triple_escribeReadbuf (by simp only [hbuf]; omega)).bind fun _ => ?_
    refine triple_ite (fun h => absurd rfl h) fun _ => ?_
    exact hfin _ hbytes hresto' rfl rfl
  · have hnil : p.cuerpo = [] := List.length_eq_zero_iff.mp (by omega)
    rw [if_neg hpos]
    refine hfin _ ?_ (by simpa [hnil] using ht) rfl rfl
    rw [← hbytes, hnil, Buffer.escribe_nil]

/-! ### A call of `MQTTYield` -/

/-- What a call of `MQTTYield` leaves of the packets `ps`: it takes the first, or finds nothing. -/
def Toma (ps : List Trama) (y : UInt32 × Sistema (Canal B)) (pendiente : List UInt8) : Prop :=
  ((y.2.mundo.tubo.lee 1).1 = [] ∧ leido y = none ∧ pendiente = y.2.mundo.tubo.pendiente) ∨
    ∃ p ps', ps = p :: ps' ∧ leido y = some p.bytes ∧ pendiente = (ps'.map Trama.bytes).flatten

theorem yield_toma {fuel : Nat} {ms : UInt32} {s s' : Sistema (Canal B)} {rc : Int} {ps : List Trama}
    (h : MQTT.yield fuel ms s = .ok rc s') (hbuf : s.client.readbufSize = MQTT_BUF_SIZE)
    (hp : s.mundo.tubo.pendiente = (ps.map Trama.bytes).flatten) (hent : s.mundo.tubo.Entera) :
    s'.client.isconnected = s.client.isconnected ∧ s'.client.readbufSize = s.client.readbufSize ∧
      Toma ps (ms, s) s'.mundo.tubo.pendiente := by
  obtain ⟨timer, s₁, type, s₂, x, s₃, rc', h1, h2, h3, h4⟩ := MQTT.yield_ok h
  have hs₁ : lector s₁ = lector s := (ajena_lector.timerCountdownMS ms).keeps _ _ _ h1
  have hs₂ : lector s' = lector s₂ :=
    ((MQTT.intact_cycleFin ajenaPing_lector _ _ _).keeps _ _ _ h4).trans
      ((MQTT.intact_trataPaquete ajenaPing_lector ajenaReparto_lector _ _ _).keeps _ _ _ h3)
  have hleido : leido (ms, s) = if type = FAILURE then none else some (paquete s₂.readbuf) := by
    unfold leido
    rw [bind_ok h1, h2]
  by_cases hnada : (s.mundo.tubo.lee 1).1 = []
  · obtain ⟨rfl, hs₃⟩ := (triple_readPacket_nada (r := lector s) hnada timer).ok hs₁ h2
    rw [if_pos rfl] at hleido
    have hfin := hs₂.trans hs₃
    refine ⟨congrArg Lector.isconnected hfin, congrArg Lector.readbufSize hfin, .inl ⟨hnada, hleido, ?_⟩⟩
    have htubo : s'.mundo.tubo = (s.mundo.tubo.lee 1).2 := congrArg Lector.tubo hfin
    rw [htubo, Tubo.pendiente_lee_nil hnada]
  · cases ps with
    | nil =>
      have := Tubo.pendiente_lee (t := s.mundo.tubo) (n := 1)
      rw [hp] at this
      exact absurd (List.append_eq_nil_iff.mp this).1 hnada
    | cons p ps' =>
      obtain ⟨htype, hpaq, t, ht, hs₃⟩ := (triple_readPacket_entera (r := lector s) hbuf hp
        (hent.resolve_left hnada) timer).ok hs₁ h2
      rw [if_neg htype, hpaq] at hleido
      have hfin := hs₂.trans hs₃
      have htubo : s'.mundo.tubo = t := congrArg Lector.tubo hfin
      exact ⟨congrArg Lector.isconnected hfin, congrArg Lector.readbufSize hfin,
        .inr ⟨p, ps', rfl, hleido, htubo ▸ ht⟩⟩

/-! ### A round -/

theorem intact_llama_lector {α : Type} {f : Canal B → α × Canal B} (h : ∀ w, (f w).2.tubo = w.tubo) :
    Intact lector (llama f) := by
  intro s
  show (⟨(f s.mundo).2.tubo, s.readbuf, s.client.isconnected, s.client.readbufSize⟩ : Lector) = _
  rw [h]
  rfl

theorem intact_pasoDHCP_lector (fuel : Nat) (l : Locales) : Intact lector (pasoDHCP (W := Canal B) fuel l) := by
  have hrun : Intact Canal.tubo (dhcpRun (W := Canal B) fuel) := by
    intro w
    show (final (Canal.enBaseM (dhcpRun fuel) w)).tubo = w.tubo
    unfold Canal.enBaseM
    split <;> rfl
  refine (intact_puerto_lector hrun).bind fun ret => intact_ite ?_ (intact_pure _)
  refine (intact_llama_lector fun _ => rfl).bind fun _ => ?_
  exact (intact_llama_lector fun _ => rfl).bind fun _ => intact_pure _

/-- The socket is never found closed. -/
theorem intact_compruebaSocket_lector : Intact lector (compruebaSocket (W := Canal B)) := fun _ => rfl

theorem intact_sinCable_lector (l : Locales) : Intact lector (sinCable (W := Canal B) l) := by
  have hduerme := intact_llama_lector (B := B) (f := chThdSleepMilliseconds 100) fun _ => rfl
  refine intact_ite ?_ (hduerme.bind fun _ => intact_pure _)
  exact (intact_llama_lector fun _ => rfl).bind fun _ => hduerme.bind fun _ => intact_pure _

theorem intact_publicaCuenta_lector (fuel : Nat) (l : Locales) :
    Intact lector (publicaCuenta (W := Canal B) fuel l) :=
  intact_publicaCuenta ajena_lector (fun _ => intact_llama_lector fun _ => rfl) fuel l

/-- A round with the client connected: the cable is out, or `MQTTYield` is called twice. -/
theorem vuelta_yields {fuel : Nat} {l l' : Locales} {s s' : Sistema (Canal B)}
    (h : threadYieldVuelta fuel l s = .ok l' s') (hconn : s.client.isconnected ≠ 0) :
    (yields fuel l s = [] ∧ lector s' = lector s) ∨ ∃ s₁ s₂ s₃ rc rc', yields fuel l s = [(150, s₁), (0, s₂)] ∧
      lector s₁ = lector s ∧ MQTT.yield fuel 150 s₁ = .ok rc s₂ ∧ MQTT.yield fuel 0 s₂ = .ok rc' s₃ ∧
      lector s' = lector s₃ := by
  obtain ⟨phyReg, s₀, h0, hcases⟩ := vuelta_cases h
  have hs₀ : lector s₀ = lector s := (intact_llama_lector fun _ => rfl).keeps _ _ _ h0
  rcases hcases with ⟨-, hys, hsin⟩ | ⟨-, l₁, s₁, s₂, h1, h2, hsigue⟩
  · exact .inl ⟨hys, ((intact_sinCable_lector l).keeps _ _ _ hsin).trans hs₀⟩
  · have hs₁ := (intact_pasoDHCP_lector fuel l).keeps _ _ _ h1
    have hs₂ : lector s₂ = lector s := (intact_compruebaSocket_lector.keeps _ _ _ h2).trans (hs₁.trans hs₀)
    have hconn₂ : s₂.client.isconnected = s.client.isconnected := congrArg Lector.isconnected hs₂
    obtain ⟨-, s₃, s₄, l₅, s₅, rc, rc', hys, h3, h4, h5, h6⟩ := hsigue (hconn₂ ▸ hconn)
    refine .inr ⟨s₂, s₃, s₄, rc, rc', hys, hs₂, h3, h4, ?_⟩
    rw [(intact_llama_lector fun _ => rfl).keeps _ _ _ h6, (intact_publicaCuenta_lector _ _).keeps _ _ _ h5]

/-! ### Runs -/

/-- The packets processed are the first of those sent, as they were sent; the rest is still to be read; and every call
that has processed none has found no byte. -/
def Recibe (ps : List Trama) (ys : List (UInt32 × Sistema (Canal B))) (pendiente : List UInt8) : Prop :=
  ∃ leidos resto, ps = leidos ++ resto ∧ ys.filterMap leido = leidos.map Trama.bytes ∧
    pendiente = (resto.map Trama.bytes).flatten ∧ ∀ y ∈ ys, leido y = none → (y.2.mundo.tubo.lee 1).1 = []

theorem Recibe.yield {fuel : Nat} {ms : UInt32} {s s' : Sistema (Canal B)} {rc : Int} {ps : List Trama}
    {ys : List (UInt32 × Sistema (Canal B))} (hrec : Recibe ps ys s.mundo.tubo.pendiente)
    (h : MQTT.yield fuel ms s = .ok rc s') (hbuf : s.client.readbufSize = MQTT_BUF_SIZE)
    (hent : s.mundo.tubo.Entera) : s'.client.isconnected = s.client.isconnected ∧
      s'.client.readbufSize = s.client.readbufSize ∧ Recibe ps (ys ++ [(ms, s)]) s'.mundo.tubo.pendiente := by
  obtain ⟨leidos, resto, hps, hys, hp, hnada⟩ := hrec
  obtain ⟨hconn, hsize, htoma⟩ := yield_toma h hbuf hp hent
  refine ⟨hconn, hsize, ?_⟩
  rcases htoma with ⟨hnil, hy, hpend⟩ | ⟨p, resto', rfl, hy, hpend⟩
  · refine ⟨leidos, resto, hps, by simp [hys, hy], hpend.trans hp, fun y hin hnone => ?_⟩
    rcases List.mem_append.mp hin with hin | hin
    · exact hnada y hin hnone
    · rwa [List.mem_singleton.mp hin]
  · refine ⟨leidos ++ [p], resto', by simp [hps], by simp [hys, hy], hpend, fun y hin hnone => ?_⟩
    rcases List.mem_append.mp hin with hin | hin
    · exact hnada y hin hnone
    · rw [List.mem_singleton.mp hin, hy] at hnone
      cases hnone

/-- In every run whose calls of `MQTTYield` have found the packets whole or not at all, the packets processed are those
sent, however their bytes have come. -/
theorem threadYield_recibe {ps : List Trama} {s₀ s : Sistema (Canal B)} {ys : List (UInt32 × Sistema (Canal B))}
    {l : Locales} (hconn : s₀.client.isconnected ≠ 0) (hbuf : s₀.client.readbufSize = MQTT_BUF_SIZE)
    (hps : s₀.mundo.tubo.pendiente = (ps.map Trama.bytes).flatten) (hrun : Sesion s₀ ys l s)
    (hent : ∀ y ∈ ys, y.2.mundo.tubo.Entera) : Recibe ps ys s.mundo.tubo.pendiente := by
  suffices key : s.client.isconnected ≠ 0 ∧ s.client.readbufSize = MQTT_BUF_SIZE ∧
      Recibe ps ys s.mundo.tubo.pendiente from key.2.2
  induction hrun with
  | inicio l => exact ⟨hconn, hbuf, [], ps, rfl, rfl, hps, fun _ hin => absurd hin List.not_mem_nil⟩
  | @vuelta ys l l' s s' fuel _ hs ih =>
    obtain ⟨hconn, hbuf, hrec⟩ := ih fun y hy => hent y (List.mem_append_left _ hy)
    rcases vuelta_yields hs hconn with ⟨hys, hlector⟩ | ⟨s₁, s₂, s₃, rc, rc', hys, h₁, hy₁, hy₂, h₃⟩
    · have htubo : s'.mundo.tubo = s.mundo.tubo := congrArg Lector.tubo hlector
      have hconn' : s'.client.isconnected = s.client.isconnected := congrArg Lector.isconnected hlector
      have hbuf' : s'.client.readbufSize = s.client.readbufSize := congrArg Lector.readbufSize hlector
      rw [hys, List.append_nil, htubo, hconn', hbuf']
      exact ⟨hconn, hbuf, hrec⟩
    · have hin : ∀ y ∈ [((150 : UInt32), s₁), (0, s₂)], y.2.mundo.tubo.Entera :=
        fun y hy => hent y (List.mem_append_right _ (hys ▸ hy))
      have htubo : s₁.mundo.tubo = s.mundo.tubo := congrArg Lector.tubo h₁
      have hbuf₁ : s₁.client.readbufSize = s.client.readbufSize := congrArg Lector.readbufSize h₁
      have hconn₁ : s₁.client.isconnected = s.client.isconnected := congrArg Lector.isconnected h₁
      rw [← htubo] at hrec
      obtain ⟨hconn₂, hbuf₂, hrec⟩ := hrec.yield hy₁ (hbuf₁.trans hbuf) (hin _ List.mem_cons_self)
      obtain ⟨hconn₃, hbuf₃, hrec⟩ := hrec.yield hy₂ (hbuf₂.trans (hbuf₁.trans hbuf))
        (hin _ (List.mem_cons_of_mem _ List.mem_cons_self))
      have htubo' : s'.mundo.tubo = s₃.mundo.tubo := congrArg Lector.tubo h₃
      have hconn' : s'.client.isconnected = s₃.client.isconnected := congrArg Lector.isconnected h₃
      have hbuf' : s'.client.readbufSize = s₃.client.readbufSize := congrArg Lector.readbufSize h₃
      rw [hys, htubo', hconn', hbuf', hconn₃, hbuf₃, hconn₂, hbuf₂, hconn₁, hbuf₁]
      refine ⟨hconn, hbuf, ?_⟩
      rwa [List.append_assoc] at hrec

end Lectura

/-! ### From a script -/

/-- A connected client and a connection with these bytes in the buffer, these to come, and the looks before which two of
them come. -/
def conectado (disponible enCamino : List UInt8) (mirada : Nat) (h : disponible.length ≤ RX_BUFFER_SIZE := by decide) :
    Sistema (Canal Guion) :=
  let s := Sistema.inicial ⟨⟨disponible, enCamino, fun k => if k = mirada then 2 else 0, h⟩, guion false⟩
  { s with client := { s.client with isconnected := 1, readbufSize := MQTT_BUF_SIZE } }

/-- A message and the answer to a PINGREQ. -/
def tramaPublish : Trama := ⟨0x30, [0, 1, 97, 120], by decide⟩
def tramaPingresp : Trama := ⟨0xD0, [], by decide⟩

/-- A round with its calls of `MQTTYield`. -/
def unaVuelta (s₀ : Sistema (Canal Guion)) : Option (List (UInt32 × Sistema (Canal Guion)) × Sistema (Canal Guion)) :=
  match threadYieldVuelta 4 {} s₀ with
  | .ok _ s => some (yields 4 {} s₀, s)
  | .error _ _ => none

theorem sesion_unaVuelta {s₀ s : Sistema (Canal Guion)} {ys : List (UInt32 × Sistema (Canal Guion))}
    (h : unaVuelta s₀ = some (ys, s)) : ∃ l, Sesion s₀ ys l s := by
  unfold unaVuelta at h
  split at h
  · rename_i l _ hs
    cases h
    exact ⟨l, .vuelta 4 (.inicio {}) hs⟩
  · cases h

theorem threadYield_recibe_junto : ∃ ys l s,
    Sesion (conectado (tramaPublish.bytes ++ tramaPingresp.bytes) [] 0) ys l s ∧
    ys.length = 2 ∧ Recibe [tramaPublish, tramaPingresp] ys s.mundo.tubo.pendiente := by
  have hres : (unaVuelta (conectado (tramaPublish.bytes ++ tramaPingresp.bytes) [] 0)).map (fun (ys, _) =>
      (ys.length, ys.all fun y => decide y.2.mundo.tubo.Entera)) = some (2, true) := by decide +kernel
  obtain ⟨⟨ys, s⟩, h, heq⟩ := Option.map_eq_some_iff.mp hres
  simp only [Prod.mk.injEq, List.all_eq_true, decide_eq_true_eq] at heq
  obtain ⟨l, hrun⟩ := sesion_unaVuelta h
  exact ⟨ys, l, s, hrun, heq.1, threadYield_recibe (by decide) rfl (by decide) hrun heq.2⟩

theorem threadYield_partido : ¬ ∀ (ps : List Trama) (s₀ s : Sistema (Canal Guion))
    (ys : List (UInt32 × Sistema (Canal Guion))) (l : Locales), s₀.client.isconnected ≠ 0 →
    s₀.client.readbufSize = MQTT_BUF_SIZE → s₀.mundo.tubo.pendiente = (ps.map Trama.bytes).flatten →
    Sesion s₀ ys l s → Recibe ps ys s.mundo.tubo.pendiente := by
  intro hclaim
  have hres : (unaVuelta (conectado (tramaPublish.bytes.take 4) (tramaPublish.bytes.drop 4) 6)).map (fun (ys, s) =>
      (ys.filterMap leido, s.mundo.tubo.pendiente)) = some ([], []) := by decide +kernel
  obtain ⟨⟨ys, s⟩, h, heq⟩ := Option.map_eq_some_iff.mp hres
  simp only [Prod.mk.injEq] at heq
  obtain ⟨l, hrun⟩ := sesion_unaVuelta h
  -- nothing is left to read and nothing has been processed
  obtain ⟨leidos, resto, hps, hys, hpend, -⟩ := hclaim [tramaPublish] _ s ys l (by decide) rfl (by decide) hrun
  have hleidos : leidos = [] := by simpa [heq.1] using hys.symm
  obtain rfl : resto = [tramaPublish] := by simpa [hleidos] using hps.symm
  rw [heq.2] at hpend
  revert hpend
  decide

end Wiznet
