import Wiznet.Mqtt.Interface
import Mathlib.Algebra.Group.Nat.Defs

/-!
# The timers and the commands of the port

What the client and the broker may rely on in `mqtt_interface.c` and in the message handler of `MQTT_Example.c`: which
times the timers tell, and which messages switch the LED.
-/

namespace Wiznet

open Wizchip

/-! ### A bench -/

/-- A clock set by hand and a LED; everything else is missing. -/
structure Banco where
  reloj : UInt32 := 0
  led : List Int := []

instance : Wizchip Banco where
  w5500Init _ := pure (-1)
  getPHYCFGR w := (0, w)
  getSnSR _ w := (SOCK_CLOSED, w)
  getSnRXRSR _ w := (0, w)
  socket _ _ _ _ w := (SOCK_ERROR, w)
  connect _ _ _ w := (SOCK_ERROR, w)
  disconnect _ w := (SOCK_OK, w)
  close _ w := (SOCK_OK, w)
  send _ _ w := (SOCK_ERROR, w)
  recv _ _ w := (.error SOCK_ERROR, w)
  dhcpInit _ _ w := ((), w)
  dhcpRun _ := pure 1
  dhcpStop w := ((), w)
  chVTGetSystemTime w := (w.reloj, w)
  chThdSleepMilliseconds _ w := ((), w)
  tickLed _ w := ((), w)
  ledControl state w := ((), { w with led := state :: w.led })

/-! ### Timers -/

/-- What a timer armed for `n` milliseconds should say `d` ticks later. -/
structure MideMs (n d : Nat) (expirado : Bool) (resto : Int) : Prop where
  antes : d < ticksMs n → expirado = false
  despues : ticksMs n < d → expirado = true
  resto : resto = ((ticksMs n - d) / ticksMs 1 : Nat)

variable {W : Type} [Wizchip W]

/-- The signed difference undoes the wrap of the clock. -/
private theorem left_eq {t n d : UInt32} (hn : n.toNat < 2 ^ 31) (hd : d.toNat < 2 ^ 31) :
    (t + n - (t + d)).toInt32.toInt = (n.toNat : Int) - d.toNat := by
  have hbmod : (t + n - (t + d)).toInt32.toInt = ((t + n - (t + d)).toNat : Int).bmod (2 ^ 32) := by
    rw [← UInt32.toNat_toBitVec]
    exact BitVec.toInt_eq_toNat_bmod _
  rw [hbmod, Int.bmod_def, UInt32.toNat_sub, UInt32.toNat_add, UInt32.toNat_add]
  have := t.toNat_lt
  omega

/-- The timer that is armed runs out after `n` ticks. -/
theorem left_timerCountdownMS {t₀ n d : UInt32} {w w₁ w' w'' : W} (h₀ : chVTGetSystemTime w = (t₀, w₁))
    (h : chVTGetSystemTime w' = (t₀ + d, w'')) (hn : n.toNat < 2 ^ 31) (hd : d.toNat < 2 ^ 31) :
    left (timerCountdownMS n w).1 w' = ((n.toNat : Int) - d.toNat, w'') := by
  unfold left timerCountdownMS
  rw [h₀, h]
  simp only [left_eq hn hd]

theorem timerCountdown_eq (s : UInt32) (w : W) : timerCountdown s w = timerCountdownMS (1000 * s) w := by
  unfold timerCountdown timerCountdownMS
  rw [UInt32.mul_comm]

/-- A timer tells milliseconds when it has just been armed, and again when they are over. -/
theorem timer_mideMs_iff {t₀ n d : UInt32} {w w₁ w' w'' : W} (h₀ : chVTGetSystemTime w = (t₀, w₁))
    (h : chVTGetSystemTime w' = (t₀ + d, w'')) (hn : 10 * n.toNat < 2 ^ 31) (hd : d.toNat < 2 ^ 31) :
    (MideMs n.toNat d.toNat (timerIsExpired (timerCountdownMS n w).1 w').1
        (timerLeftMS (timerCountdownMS n w).1 w').1 ∧
      ∀ s, timerCountdown s w = timerCountdownMS (1000 * s) w) ↔
      d.toNat ≤ 1 ∨ 10 * n.toNat ≤ d.toNat := by
  have hleft := left_timerCountdownMS (n := n) h₀ h (by omega) hd
  have hexp : (timerIsExpired (timerCountdownMS n w).1 w').1 = decide (n.toNat < d.toNat) := by
    unfold timerIsExpired
    rw [hleft]
    exact decide_eq_decide.mpr (by omega)
  have hrest : (timerLeftMS (timerCountdownMS n w).1 w').1 = (n.toNat - d.toNat : Nat) := by
    unfold timerLeftMS
    rw [hleft]
    simp only
    split <;> omega
  have hms : ticksMs n.toNat = 10 * n.toNat := by
    unfold ticksMs CH_CFG_ST_FREQUENCY
    omega
  have huno : ticksMs 1 = 10 := rfl
  rw [hexp, hrest, and_iff_left fun s => timerCountdown_eq s w]
  constructor
  · rintro ⟨hantes, -, hresto⟩
    rw [hms, huno, Int.natCast_inj] at hresto
    rw [hms] at hantes
    rcases Nat.lt_or_ge d.toNat (10 * n.toNat) with hlt | hge
    · have hle := of_decide_eq_false (hantes hlt)
      omega
    · exact .inr hge
  · intro hd'
    refine ⟨fun hlt => decide_eq_false ?_, fun hlt => decide_eq_true ?_, ?_⟩
    · omega
    · omega
    · rw [hms, huno, Int.natCast_inj]
      omega

/-- A second after a timer of one second is armed. -/
theorem timer_mideMs_segundo :
    MideMs 1000 10000 (timerIsExpired (timerCountdownMS 1000 (W := Banco) { reloj := 4294967295 }).1
        (W := Banco) { reloj := 9999 }).1
      (timerLeftMS (timerCountdownMS 1000 (W := Banco) { reloj := 4294967295 }).1 (W := Banco) { reloj := 9999 }).1 :=
  ((@timer_mideMs_iff Banco _ 4294967295 1000 10000 (Banco.mk 4294967295 []) _ (Banco.mk 9999 []) _ rfl rfl (by decide)
    (by decide)).mpr (.inr (by decide))).1

/-- A timer of one second has run out a tenth of a second later. -/
theorem timer_adelanta : ¬ ∀ (n d : UInt32), 10 * n.toNat < 2 ^ 31 → d.toNat < 2 ^ 31 →
    MideMs n.toNat d.toNat (timerIsExpired (timerCountdownMS n (W := Banco) {}).1 (W := Banco) { reloj := d }).1
      (timerLeftMS (timerCountdownMS n (W := Banco) {}).1 (W := Banco) { reloj := d }).1 := by
  intro h
  have hantes := (h 1000 1001 (by decide) (by decide)).antes (by decide)
  revert hantes
  decide

/-! ### Commands -/

def ON : List UInt8 := literal ['O', 'N']
def OFF : List UInt8 := literal ['O', 'F', 'F']

/-- What a message should do to the LED. -/
def comando (topic payload : List UInt8) : Option Int :=
  if topic = STM32_SUB then
    if payload = ON then some 1 else if payload = OFF then some 0 else none
  else none

def obedece (o : Option Int) (w : W) : W :=
  match o with
  | none => w
  | some state => (ledControl state w).2

/-- A message as `cycle` hands it to its handler. -/
def entregado (qos retained dup : UInt8) (id : UInt16) (topic payload : List UInt8) : MessageData :=
  ⟨⟨qos, retained, dup, id, payload, payload.length⟩, { lenstring := some topic }⟩

/-- On every platform the handler stays in its memory and does to the LED what the message asks for, nothing else. -/
def Cumple (md : MessageData) : Prop :=
  ∀ (W : Type) [Wizchip W] (w : W),
    messageArrived md w = .ok () (obedece (comando md.topicName.text md.message.payload) w)

/-- The text `strcmp` sees. -/
def hastaCero (payload : List UInt8) : List UInt8 := payload.takeWhile (· ≠ 0)

/-- The messages the handler is right about: those whose topic is no longer than the literal with its final zero and
differs from it, and those it can tell from a command. -/
def Segura (topic payload : List UInt8) : Prop :=
  (topic.length ≤ (STM32_SUB ++ [0]).length ∧ ¬ topic <+: STM32_SUB ++ [0]) ∨
    (topic <+: STM32_SUB ++ [0] ∧ payload.length < 128 ∧
      (hastaCero payload = ON ∨ hastaCero payload = OFF → topic = STM32_SUB ∧ payload = hastaCero payload))

theorem memcmp_cases (text lit : List UInt8) :
    memcmp text lit = some true ∧ text <+: lit ∨
      memcmp text lit = some false ∧ text.length ≤ lit.length ∧ ¬ text <+: lit ∨
      memcmp text lit = none ∧ lit.length < text.length := by
  unfold memcmp
  by_cases hlen : text.length ≤ lit.length
  · rw [if_pos hlen]
    by_cases hpre : text <+: lit
    · exact .inl ⟨congrArg some (List.isPrefixOf_iff_prefix.mpr hpre), hpre⟩
    · refine .inr (.inl ⟨congrArg some ?_, hlen, hpre⟩)
      exact Bool.eq_false_iff.mpr fun h => hpre (List.isPrefixOf_iff_prefix.mp h)
  · rw [if_neg hlen]
    exact .inr (.inr ⟨rfl, by omega⟩)

/-- What the handler does to the LED when the topic passes its test. -/
def obedecido (payload : List UInt8) : Option Int :=
  if hastaCero payload = ON then some 1 else if hastaCero payload = OFF then some 0 else none

theorem comando_eq_obedecido_iff {topic payload : List UInt8} :
    comando topic payload = obedecido payload ↔
      (hastaCero payload = ON ∨ hastaCero payload = OFF → topic = STM32_SUB ∧ payload = hastaCero payload) := by
  have hne : OFF ≠ ON := by decide
  constructor
  · rintro heq (h | h)
    · have hcom : comando topic payload = some 1 := by rw [heq, obedecido, if_pos h]
      unfold comando at hcom
      split at hcom
      · split at hcom
        · exact ⟨‹_›, by rw [h]; assumption⟩
        · split at hcom <;> cases hcom
      · cases hcom
    · have hcom : comando topic payload = some 0 := by rw [heq, obedecido, h, if_neg hne, if_pos rfl]
      unfold comando at hcom
      split at hcom
      · split at hcom
        · cases hcom
        · split at hcom
          · exact ⟨‹_›, by rw [h]; assumption⟩
          · cases hcom
      · cases hcom
  · intro h
    by_cases hon : hastaCero payload = ON
    · obtain ⟨ht, hp⟩ := h (.inl hon)
      rw [comando, if_pos ht, if_pos (hp.trans hon), obedecido, if_pos hon]
    · by_cases hoff : hastaCero payload = OFF
      · obtain ⟨ht, hp⟩ := h (.inr hoff)
        have hp' : payload ≠ ON := by rw [hp, hoff]; exact hne
        rw [comando, if_pos ht, if_neg hp', if_pos (hp.trans hoff), obedecido, if_neg hon, if_pos hoff]
      · have h1 : payload ≠ ON := fun hp => hon (by rw [hp]; decide)
        have h2 : payload ≠ OFF := fun hp => hoff (by rw [hp]; decide)
        rw [comando, if_neg h1, if_neg h2, ite_self, obedecido, if_neg hon, if_neg hoff]

section Entregado

variable {qos retained dup : UInt8} {id : UInt16} {topic payload : List UInt8} {w : W}

theorem messageArrived_ajeno (h : memcmp topic (STM32_SUB ++ [0]) = some false) :
    messageArrived (entregado qos retained dup id topic payload) w = .ok () w := by
  have htext : (entregado qos retained dup id topic payload).topicName.text = topic := rfl
  unfold messageArrived
  rw [htext, h]
  rfl

theorem messageArrived_fuera (h : memcmp topic (STM32_SUB ++ [0]) = none) :
    messageArrived (entregado qos retained dup id topic payload) w = .error .indefinido w := by
  have htext : (entregado qos retained dup id topic payload).topicName.text = topic := rfl
  unfold messageArrived
  rw [htext, h]
  rfl

theorem messageArrived_largo (h : memcmp topic (STM32_SUB ++ [0]) = some true) (hlen : 128 ≤ payload.length) :
    messageArrived (entregado qos retained dup id topic payload) w = .error .indefinido w := by
  have htext : (entregado qos retained dup id topic payload).topicName.text = topic := rfl
  have hcond : (entregado qos retained dup id topic payload).message.payloadlen < 0 ∨
      128 ≤ (entregado qos retained dup id topic payload).message.payloadlen := .inr (Int.ofNat_le.mpr hlen)
  unfold messageArrived
  rw [htext, h]
  simp only [if_pos hcond]
  rfl

theorem messageArrived_obedecido (h : memcmp topic (STM32_SUB ++ [0]) = some true) (hlen : payload.length < 128) :
    messageArrived (entregado qos retained dup id topic payload) w = .ok () (obedece (obedecido payload) w) := by
  have htext : (entregado qos retained dup id topic payload).topicName.text = topic := rfl
  have hpay : (entregado qos retained dup id topic payload).message.payload = payload := rfl
  have hcond : ¬ ((entregado qos retained dup id topic payload).message.payloadlen < 0 ∨
      128 ≤ (entregado qos retained dup id topic payload).message.payloadlen) := by
    show ¬ ((payload.length : Int) < 0 ∨ 128 ≤ (payload.length : Int))
    omega
  have hon : esOrden payload (literal ['O', 'N']) = true ↔ hastaCero payload = ON := beq_iff_eq
  have hoff : esOrden payload (literal ['O', 'F', 'F']) = true ↔ hastaCero payload = OFF := beq_iff_eq
  unfold messageArrived
  rw [htext, h]
  simp only [if_neg hcond, hpay, hon, hoff]
  unfold obedecido
  by_cases h1 : hastaCero payload = ON
  · have h2 : ¬ hastaCero payload = OFF := by
      rw [h1]
      decide
    rw [if_pos h1, if_neg h2, if_pos h1]
    rfl
  · rw [if_neg h1, if_neg h1]
    by_cases h2 : hastaCero payload = OFF
    · rw [if_pos h2, if_pos h2]
      rfl
    · rw [if_neg h2, if_neg h2]
      rfl

/-- On the bench every call shows. -/
theorem obedece_banco {o o' : Option Int} (h : obedece o (Banco.mk 0 []) = obedece o' (Banco.mk 0 [])) : o = o' := by
  rcases o with _ | a <;> rcases o' with _ | b
  · rfl
  · cases congrArg Banco.led h
  · cases congrArg Banco.led h
  · cases congrArg Banco.led h
    rfl

theorem cumple_obedecido (h : memcmp topic (STM32_SUB ++ [0]) = some true) (hlen : payload.length < 128) :
    Cumple (entregado qos retained dup id topic payload) ↔ comando topic payload = obedecido payload := by
  constructor
  · intro hcumple
    have hbanco := hcumple Banco { }
    rw [messageArrived_obedecido h hlen] at hbanco
    exact obedece_banco (EStateM.Result.ok.inj hbanco).2.symm
  · intro heq W _ w
    rw [messageArrived_obedecido h hlen]
    show _ = EStateM.Result.ok () (obedece (comando topic payload) w)
    rw [heq]

/-- The handler is right about a message just when the message is one of those. -/
theorem messageArrived_cumple_iff (qos retained dup : UInt8) (id : UInt16) (topic payload : List UInt8) :
    Cumple (entregado qos retained dup id topic payload) ↔ Segura topic payload := by
  rcases memcmp_cases topic (STM32_SUB ++ [0]) with ⟨hm, hpre⟩ | ⟨hm, hle, hpre⟩ | ⟨hm, hlt⟩
  · rcases Nat.lt_or_ge payload.length 128 with hlen | hlen
    · rw [cumple_obedecido hm hlen, comando_eq_obedecido_iff]
      refine ⟨fun h => .inr ⟨hpre, hlen, h⟩, ?_⟩
      rintro (⟨-, hno⟩ | ⟨-, -, h⟩)
      · exact absurd hpre hno
      · exact h
    · refine iff_of_false (fun h => ?_) ?_
      · have h0 := h Banco { }
        rw [messageArrived_largo hm hlen] at h0
        cases h0
      · rintro (⟨-, hno⟩ | ⟨-, hlt, -⟩)
        · exact hno hpre
        · omega
  · refine iff_of_true (fun W _ w => ?_) (.inl ⟨hle, hpre⟩)
    have hne : topic ≠ STM32_SUB := by
      rintro rfl
      exact hpre ⟨_, rfl⟩
    rw [messageArrived_ajeno hm]
    show _ = EStateM.Result.ok () (obedece (comando topic payload) w)
    unfold comando
    rw [if_neg hne]
    rfl
  · refine iff_of_false (fun h => ?_) ?_
    · have h0 := h Banco { }
      rw [messageArrived_fuera hm] at h0
      cases h0
    · rintro (⟨hle, -⟩ | ⟨hyes, -⟩)
      · omega
      · have hle := hyes.length_le
        omega

end Entregado

/-- The beginning of the topic is enough to switch the LED. -/
theorem messageArrived_prefijo :
    ¬ Cumple (entregado 0 0 0 0 (literal ['s', 't', 'm', '3', '2']) ON) := by
  intro h
  have hled := h Banco { }
  rw [messageArrived_obedecido (by decide) (by decide)] at hled
  cases congrArg Banco.led (EStateM.Result.ok.inj hled).2

end Wiznet
