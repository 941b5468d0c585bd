import Wiznet.Automata.Commands

/-!
# The reconnection

An attempt of the automaton to connect with a broker within reach (`BrokerListo`).  It succeeds, however the answer
comes, when the client does not think it is connected already; otherwise `MQTTConnect` refuses before it sends anything.
Only a failed attempt clears the flag, so the first attempt after a connection is lost is lost too.
-/

namespace Wiznet

namespace Automata

open Stateful Ethernet

/-- The packet that opens the connection. -/
def paqueteConnect : List UInt8 := (MQTTSerialize.connect MQTT_BUFFER_SIZE connectData).getD []

/-- The ticks that the client gives a command. -/
def PLAZO : Nat := ticksMs 1000

/-- How many times the client reads the clock, at most, from one look at the socket to the next. -/
def LECTURAS : Nat := 5

/-- How far an attempt to connect has gone: the first reading of the clock and the ticks since then, how many more times
the socket may be found busy or empty, how many more readings of the clock there may be before the next look at it, the
bytes that the last look has found, and those of the answer that have not been read, `none` before the CONNECT. -/
structure Momento where
  t : UInt32
  ticks : Nat
  esperas : Nat
  lecturas : Nat
  vistos : Nat
  pendiente : Option (List UInt8)

/-- What can be said of what lies below from the moment it is connected to a broker that answers in time: it takes the
CONNECT, and the CONNACK comes with code 0, in any pieces and with anything after it, before the time of the command is
over. -/
structure BrokerListo (W : Type) [Ethernet W] where
  conectado : Nat → W → Prop
  en : Momento → W → Prop
  comienza {n : Nat} {w : W} (h : conectado n w) :
    en ⟨(chVTGetSystemTime w).1, 0, n, LECTURAS, 0, none⟩ (chVTGetSystemTime w).2
  reloj {t : UInt32} {e n r v : Nat} {p : Option (List UInt8)} {w : W} (h : en ⟨t, e, n, r + 1, v, p⟩ w) :
    ∃ e', e ≤ e' ∧ e' < PLAZO ∧ (chVTGetSystemTime w).1 = t + e'.toUInt32 ∧
      en ⟨t, e', n, r, v, p⟩ (chVTGetSystemTime w).2
  envia {t : UInt32} {e n r v : Nat} {w : W} (h : en ⟨t, e, n, r, v, none⟩ w) :
    ((send MQTT_SOCKET_NUM paqueteConnect w).1 = paqueteConnect.length ∧ ∃ flags resto,
      en ⟨t, e, n, LECTURAS, 0, some ([0x20, 2, flags, 0] ++ resto)⟩ (send MQTT_SOCKET_NUM paqueteConnect w).2) ∨
    ((send MQTT_SOCKET_NUM paqueteConnect w).1 = SOCK_BUSY ∧ ∃ n' < n,
      en ⟨t, e, n', LECTURAS, v, none⟩ (chThdYield (send MQTT_SOCKET_NUM paqueteConnect w).2).2)
  mira {t : UInt32} {e n r v : Nat} {bs : List UInt8} {w : W} (h : en ⟨t, e, n, r, v, some bs⟩ w) (hne : bs ≠ []) :
    ((getSnRXRSR MQTT_SOCKET_NUM w).1 = 0 ∧ ∃ n' < n,
      en ⟨t, e, n', LECTURAS, 0, some bs⟩ (chThdYield (getSnRXRSR MQTT_SOCKET_NUM w).2).2) ∨
    (0 < (getSnRXRSR MQTT_SOCKET_NUM w).1 ∧ (getSnRXRSR MQTT_SOCKET_NUM w).1.toNat ≤ bs.length ∧
      en ⟨t, e, n, LECTURAS, (getSnRXRSR MQTT_SOCKET_NUM w).1.toNat, some bs⟩ (getSnRXRSR MQTT_SOCKET_NUM w).2)
  recibe {t : UInt32} {e n r v k : Nat} {bs : List UInt8} {w : W} (h : en ⟨t, e, n, r, v, some bs⟩ w) (hpos : 0 < k)
    (hle : k ≤ v) : (recv MQTT_SOCKET_NUM k.toUInt16 w).1 = .ok (bs.take k) ∧
      en ⟨t, e, n, LECTURAS, v - k, some (bs.drop k)⟩ (recv MQTT_SOCKET_NUM k.toUInt16 w).2

variable {W : Type} [Ethernet W]

/-- `socket()` returns the number of the socket and `connect()` returns `SOCK_OK`, and the broker is there. -/
def BrokerListo.Alcanza (R : BrokerListo W) (n : Nat) (w : W) : Prop :=
  let abierto := socket MQTT_SOCKET_NUM SN_MR_TCP BROKER_PORT 0 (close MQTT_SOCKET_NUM w).2
  let conectado := connect MQTT_SOCKET_NUM BROKER_IP BROKER_PORT abierto.2
  abierto.1 = MQTT_SOCKET_NUM.toNat ∧ conectado.1 = SOCK_OK ∧ R.conectado n conectado.2

/-- The `switch` sends a CONNECT and takes the automaton to `STATE_MQTT_OPERATIONAL`, with the backoff delay reset. -/
def Reconecta (fuel : Nat) (m : Maquina) (s : Sistema (Test W)) : Prop :=
  (∃ s', abreConexion fuel s = .ok true s' ∧ s'.mundo.enviados = paqueteConnect :: s.mundo.enviados) ∧
    ∀ m' s', «switch» fuel m s = .ok m' s' →
      m'.currentState = .mqttOperational ∧ m'.currentBackoffDelay = BACKOFF_MIN_DELAY_MS

/-! ### The clock -/

theorem toInt_toInt32_of_lt {x : UInt32} (h : x.toNat < 2147483648) : x.toInt32.toInt = x.toNat :=
  BitVec.toInt_eq_toNat_of_lt (x := x.toBitVec) (by simpa using (by omega : 2 * x.toNat < 4294967296))

theorem toNat_ofInt {n : Nat} (h : n < 4294967296) : (UInt32.ofInt (n : Int)).toNat = n := by
  simp [UInt32.ofInt]
  omega

theorem add_sub_add (t : UInt32) {a b : Nat} (h : b ≤ a) :
    (t + a.toUInt32) - (t + b.toUInt32) = (a - b).toUInt32 := by
  rw [← UInt32.toNat_inj]
  simp [UInt32.toNat_sub]
  omega

/-- A timer that does not expire before the time of the command is over. -/
structure Vigente (t : UInt32) (e : Nat) (timer : TimerPaho) : Prop where
  empieza : ∃ e₀ ≤ e, timer.startTime = t + e₀.toUInt32 ∧ PLAZO ≤ e₀ + timer.timeoutTicks.toNat

theorem Vigente.mono {t : UInt32} {e e' : Nat} {timer : TimerPaho} (h : Vigente t e timer) (hle : e ≤ e') :
    Vigente t e' timer := by
  obtain ⟨e₀, he₀, hstart, hplazo⟩ := h.empieza
  exact ⟨e₀, Nat.le_trans he₀ hle, hstart, hplazo⟩

/-- The time left to a command, in milliseconds, takes a timer to its end or past it. -/
theorem plazo_le_left {e : Nat} (he : e < PLAZO) :
    PLAZO ≤ e + (ms2i (UInt32.ofInt (i2ms (10000 - e.toUInt32)).toInt32.toInt)).toNat := by
  have hplazo : PLAZO = 10000 := rfl
  have hresta : (10000 - e.toUInt32).toNat = 10000 - e := by
    simp [UInt32.toNat_sub]
    omega
  have hleft : (i2ms (10000 - e.toUInt32)).toNat = ((10000 - e) * 1000 + 9999) / 10000 := by
    simp [i2ms, hresta, CH_CFG_ST_FREQUENCY]
    omega
  have hint : (UInt32.ofInt ((i2ms (10000 - e.toUInt32)).toNat : Int)).toNat = ((10000 - e) * 1000 + 9999) / 10000 := by
    rw [toNat_ofInt (by omega), hleft]
  rw [toInt_toInt32_of_lt (by omega)]
  simp only [ms2i, hint, CH_CFG_ST_FREQUENCY]
  simp
  omega

/-! ### The timers -/

section Reloj

variable {R : BrokerListo W} {t : UInt32} {e n r v : Nat} {p : Option (List UInt8)} {s : Test W} {timer : TimerPaho}

theorem enBase_reloj (h : R.en ⟨t, e, n, r + 1, v, p⟩ s.base) :
    ∃ e' w, e ≤ e' ∧ e' < PLAZO ∧ R.en ⟨t, e', n, r, v, p⟩ w ∧
      enBase chVTGetSystemTime s = (t + e'.toUInt32, { s with base := w }) := by
  obtain ⟨e', hle, hlt, hnow, hen⟩ := R.reloj h
  exact ⟨e', _, hle, hlt, hen, by rw [← hnow]; rfl⟩

theorem timerIsExpired_vigente (h : R.en ⟨t, e, n, r + 1, v, p⟩ s.base) (hv : Vigente t e timer) :
    ∃ e' w, e ≤ e' ∧ R.en ⟨t, e', n, r, v, p⟩ w ∧ timerIsExpired timer s = (false, { s with base := w }) := by
  obtain ⟨e', w, hle, hlt, hen, hnow⟩ := enBase_reloj h
  obtain ⟨e₀, he₀, hstart, hplazo⟩ := hv.empieza
  refine ⟨e', w, hle, hen, ?_⟩
  have hdif : (t + e'.toUInt32 - (t + e₀.toUInt32)).toNat = e' - e₀ := by
    rw [add_sub_add t (by omega)]
    simp only [PLAZO, ticksMs, CH_CFG_ST_FREQUENCY] at hlt
    simp
    omega
  have hno : ¬ t + e'.toUInt32 - timer.startTime ≥ timer.timeoutTicks := by
    rw [hstart, ge_iff_le, UInt32.le_iff_toNat_le, hdif]
    omega
  simp only [timerIsExpired, hnow, hno, decide_false]

theorem timerCountdownMS_vigente {ms : UInt32} (h : R.en ⟨t, e, n, r + 1, v, p⟩ s.base)
    (hms : PLAZO ≤ e + (ms2i ms).toNat) : ∃ e' w timer, e ≤ e' ∧ R.en ⟨t, e', n, r, v, p⟩ w ∧ Vigente t e' timer ∧
      timerCountdownMS ms s = (timer, { s with base := w }) := by
  obtain ⟨e', w, hle, -, hen, hnow⟩ := enBase_reloj h
  have hvigente : Vigente t e' ⟨t + e'.toUInt32, ms2i ms⟩ :=
    ⟨e', Nat.le_refl _, rfl, Nat.le_trans hms (Nat.add_le_add_right hle _)⟩
  exact ⟨e', w, _, hle, hen, hvigente, by simp only [timerCountdownMS, hnow]⟩

/-- The timer of the command. -/
def timerPlazo (t : UInt32) : TimerPaho := ⟨t, ms2i 1000⟩

theorem vigente_timerPlazo (t : UInt32) (e : Nat) : Vigente t e (timerPlazo t) := by
  have hms : PLAZO ≤ 0 + (ms2i 1000).toNat := by decide
  exact ⟨0, Nat.zero_le _, by simp [timerPlazo], hms⟩

theorem timerLeftMS_plazo (h : R.en ⟨t, e, n, r + 1, v, p⟩ s.base) : ∃ e' w left, e ≤ e' ∧
    R.en ⟨t, e', n, r, v, p⟩ w ∧ PLAZO ≤ e' + (ms2i (UInt32.ofInt left)).toNat ∧
      timerLeftMS (timerPlazo t) s = (left, { s with base := w }) := by
  obtain ⟨e', w, hle, hlt, hen, hnow⟩ := enBase_reloj h
  refine ⟨e', w, _, hle, hen, plazo_le_left hlt, ?_⟩
  have hms : ms2i 1000 = 10000 := by decide
  have hdif : t + e'.toUInt32 - t = e'.toUInt32 := by rw [UInt32.add_comm, UInt32.add_sub_cancel]
  have hno : ¬ e'.toUInt32 ≥ 10000 := by
    rw [ge_iff_le, UInt32.le_iff_toNat_le]
    simp only [PLAZO, ticksMs, CH_CFG_ST_FREQUENCY] at hlt
    simp
    omega
  simp only [timerLeftMS, timerPlazo, hnow, hms, hdif, if_neg hno]

end Reloj

/-! ### The network -/

section Red

variable {R : BrokerListo W} {t : UInt32} {e n r v : Nat} {s : Test W} {timer : TimerPaho}

theorem leeResto_lleno {len k : Nat} {leidos : List UInt8} (hle : len ≤ leidos.length) (hk : 0 < k) :
    leeResto timer len k leidos s = .ok (.ok leidos) s := by
  obtain ⟨k, rfl⟩ := Nat.exists_eq_add_of_lt hk
  rw [Nat.zero_add, leeResto, if_neg (Nat.not_lt.mpr hle)]
  rfl

/-- While the answer is not over the loop reads what it is asked for, in as many rounds as waits and bytes there may
be. -/
theorem leeResto_returns {len k : Nat} {leidos bs : List UInt8} (h : R.en ⟨t, e, n, r + 1, v, some bs⟩ s.base)
    (hv : Vigente t e timer) (hlt : leidos.length < len) (hbs : len ≤ leidos.length + bs.length)
    (hk : n + (len - leidos.length) < k) : Returns (leeResto timer len k leidos) s fun x s' =>
      x = .ok (leidos ++ bs.take (len - leidos.length)) ∧ ∃ e' n' v' w, e ≤ e' ∧ n' ≤ n ∧
        R.en ⟨t, e', n', LECTURAS, v', some (bs.drop (len - leidos.length))⟩ w ∧ s' = { s with base := w } := by
  -- each round takes one of the waits, or one byte or more
  induction k generalizing e n r v leidos bs s with
  | zero => omega
  | succ k ih =>
    refine returns_ite_pos hlt ?_
    obtain ⟨e₁, w₁, he₁, hen₁, hexp⟩ := timerIsExpired_vigente h hv
    refine returns_modifyGet_bind hexp (returns_ite_neg Bool.false_ne_true ?_)
    refine returns_modifyGet_bind (enBase_eq _ _) ?_
    have hne : bs ≠ [] := by
      rintro rfl
      simp only [List.length_nil] at hbs
      omega
    rcases R.mira hen₁ hne with ⟨hcero, n', hn', hen₂⟩ | ⟨hpos, hvistos, hen₂⟩
    · refine returns_ite_neg (by simp [hcero]) (returns_modifyGet_bind (enBase_eq _ _) ?_)
      refine Returns.weaken (ih hen₂ (hv.mono he₁) hlt hbs (by omega)) ?_
      rintro _ _ ⟨rfl, e', n₁, v', w', he', hn₁, hen', rfl⟩
      exact ⟨rfl, e', n₁, v', w', Nat.le_trans he₁ he', by omega, hen', rfl⟩
    · refine returns_ite_pos hpos (returns_modifyGet_bind (enBase_eq _ _) ?_)
      generalize hw₂ : (getSnRXRSR MQTT_SOCKET_NUM w₁).2 = w₂ at hen₂ ⊢
      generalize hret : (getSnRXRSR MQTT_SOCKET_NUM w₁).1.toNat = ret at hvistos hen₂ ⊢
      have hret0 : 0 < ret := by
        rw [← hret]
        exact hpos
      generalize hwanted : min (len - leidos.length) ret = wanted
      obtain ⟨hrecv, hen₃⟩ := R.recibe hen₂ (show 0 < wanted by omega) (show wanted ≤ ret by omega)
      have hlength : (leidos ++ bs.take wanted).length = leidos.length + wanted := by
        rw [List.length_append, List.length_take]
        omega
      simp only [hrecv, List.take_take, Nat.min_self]
      by_cases hfin : leidos.length + wanted < len
      · have hbs' : len ≤ (leidos ++ bs.take wanted).length + (bs.drop wanted).length := by
          rw [hlength, List.length_drop]
          omega
        refine Returns.weaken (ih hen₃ (hv.mono he₁) (by omega) hbs' (by omega)) ?_
        rintro _ _ ⟨rfl, e', n', v', w', he', hn', hen', rfl⟩
        have hresto : wanted + (len - (leidos ++ bs.take wanted).length) = len - leidos.length := by omega
        rw [List.append_assoc, ← List.take_add, hresto]
        rw [List.drop_drop, hresto] at hen'
        exact ⟨rfl, e', n', v', w', Nat.le_trans he₁ he', hn', hen', rfl⟩
      · have htodo : wanted = len - leidos.length := by omega
        refine ⟨_, _, leeResto_lleno (by omega) (by omega), ?_⟩
        rw [htodo] at hen₃ ⊢
        exact ⟨rfl, e₁, n, _, _, he₁, Nat.le_refl _, hen₃, rfl⟩

theorem w5500PahoRead_returns {len : Nat} {left : Int} {bs : List UInt8} (h : R.en ⟨t, e, n, r + 2, v, some bs⟩ s.base)
    (hleft : PLAZO ≤ e + (ms2i (UInt32.ofInt left)).toNat) (hlen : 0 < len) (hbs : len ≤ bs.length)
    (hrondas : n + len < s.rondas) : Returns (w5500PahoRead len left) s fun x s' =>
      x = .ok (bs.take len) ∧ ∃ e' n' v' w, e ≤ e' ∧ n' ≤ n ∧
        R.en ⟨t, e', n', LECTURAS, v', some (bs.drop len)⟩ w ∧ s' = { s with base := w } := by
  obtain ⟨e₁, w₁, timer, he₁, hen₁, hv, hcd⟩ := timerCountdownMS_vigente h hleft
  refine returns_modifyGet_bind hcd (returns_get_bind ?_)
  refine Returns.weaken (leeResto_returns hen₁ hv hlen (by simpa using hbs) hrondas) ?_
  rintro _ _ ⟨rfl, e', n', v', w', he', hn', hen', rfl⟩
  exact ⟨rfl, e', n', v', w', Nat.le_trans he₁ he', hn', hen', rfl⟩

theorem escribeResto_lleno {bs : List UInt8} {k escritos : Nat} (hle : bs.length ≤ escritos) (hk : 0 < k) :
    escribeResto timer bs k escritos s = .ok escritos s := by
  obtain ⟨k, rfl⟩ := Nat.exists_eq_add_of_lt hk
  rw [Nat.zero_add, escribeResto, if_neg (Nat.not_lt.mpr hle)]
  rfl

theorem escribeResto_returns {k : Nat} (h : R.en ⟨t, e, n, r + 1, v, none⟩ s.base) (hv : Vigente t e timer)
    (hk : n + 1 < k) : Returns (escribeResto timer paqueteConnect k 0) s fun x s' =>
      x = paqueteConnect.length ∧ ∃ e' n' flags resto w, e ≤ e' ∧ n' ≤ n ∧
        R.en ⟨t, e', n', LECTURAS, 0, some ([0x20, 2, flags, 0] ++ resto)⟩ w ∧
        s' = { s with base := w, enviados := paqueteConnect :: s.enviados } := by
  have hlength : paqueteConnect.length = 34 := by decide +kernel
  induction k generalizing e n r v s with
  | zero => omega
  | succ k ih =>
    refine returns_ite_pos (by omega) ?_
    obtain ⟨e₁, w₁, he₁, hen₁, hexp⟩ := timerIsExpired_vigente h hv
    refine returns_modifyGet_bind hexp (returns_ite_neg Bool.false_ne_true ?_)
    refine returns_modifyGet_bind (enBase_eq _ _) ?_
    have htake : paqueteConnect.take (paqueteConnect.length - 0).toUInt16.toNat = paqueteConnect :=
      List.take_of_length_le (by decide +kernel)
    simp only [List.drop_zero, htake]
    rcases R.envia hen₁ with ⟨htodo, flags, resto, hen₂⟩ | ⟨hocupado, n', hn', hen₂⟩
    · refine returns_ite_neg (by rw [htodo, hlength]; decide) (returns_ite_neg (by omega) (returns_modify_bind ?_))
      simp only [htodo, Int.toNat_natCast, List.take_length, Nat.zero_add]
      refine ⟨_, _, escribeResto_lleno (Nat.le_refl _) (by omega), ?_⟩
      exact ⟨rfl, e₁, n, flags, resto, _, he₁, Nat.le_refl _, hen₂, rfl⟩
    · refine returns_ite_pos hocupado (returns_modifyGet_bind (enBase_eq _ _) ?_)
      refine Returns.weaken (ih hen₂ (hv.mono he₁) (by omega)) ?_
      rintro _ _ ⟨rfl, e', n₁, flags, resto, w', he', hn₁, hen', rfl⟩
      exact ⟨rfl, e', n₁, flags, resto, w', Nat.le_trans he₁ he', by omega, hen', rfl⟩

theorem w5500PahoWrite_returns {left : Int} (h : R.en ⟨t, e, n, r + 2, v, none⟩ s.base)
    (hleft : PLAZO ≤ e + (ms2i (UInt32.ofInt left)).toNat) (hrondas : n + 1 < s.rondas) :
    Returns (w5500PahoWrite paqueteConnect left) s fun x s' =>
      x = paqueteConnect.length ∧ ∃ e' n' flags resto w, e ≤ e' ∧ n' ≤ n ∧
        R.en ⟨t, e', n', LECTURAS, 0, some ([0x20, 2, flags, 0] ++ resto)⟩ w ∧
        s' = { s with base := w, enviados := paqueteConnect :: s.enviados } := by
  obtain ⟨e₁, w₁, timer, he₁, hen₁, hv, hcd⟩ := timerCountdownMS_vigente h hleft
  refine returns_modifyGet_bind hcd (returns_get_bind ?_)
  refine Returns.weaken (escribeResto_returns hen₁ hv hrondas) ?_
  rintro _ _ ⟨rfl, e', n', flags, resto, w', he', hn', hen', rfl⟩
  exact ⟨rfl, e', n', flags, resto, w', Nat.le_trans he₁ he', hn', hen', rfl⟩

end Red

/-! ### The client -/

section Cliente

variable {R : BrokerListo W} {t : UInt32} {e n r v : Nat} {s : Sistema (Test W)}

/-- The same system over something else. -/
def sobre (s : Sistema (Test W)) (w : W) : Sistema (Test W) := { s with mundo := { s.mundo with base := w } }

section Bind

variable {β : Type} {p : Option (List UInt8)} {timer : TimerPaho} {T : β → Sistema (Test W) → Prop}

theorem returns_llama_bind {α : Type} {f : Test W → α × Test W} {g : α → MqttM (Test W) β} {a : α} {w : W}
    (hf : f s.mundo = (a, { s.mundo with base := w })) (h : Returns (g a) (sobre s w) T) :
    Returns (llama f >>= g) s T :=
  returns_modifyGet_bind (by simp only [hf]; rfl) h

theorem returns_timerIsExpired_bind {g : Bool → MqttM (Test W) β} (hv : Vigente t e timer)
    (h : R.en ⟨t, e, n, r + 1, v, p⟩ s.mundo.base)
    (hg : ∀ e' w, e ≤ e' → R.en ⟨t, e', n, r, v, p⟩ w → Returns (g false) (sobre s w) T) :
    Returns (llama (timerIsExpired timer) >>= g) s T := by
  obtain ⟨e', w, he', hen, hexp⟩ := timerIsExpired_vigente h hv
  exact returns_llama_bind hexp (hg e' w he' hen)

theorem returns_timerCountdownMS_bind {ms : UInt32} {g : TimerPaho → MqttM (Test W) β}
    (hms : PLAZO ≤ e + (ms2i ms).toNat) (h : R.en ⟨t, e, n, r + 1, v, p⟩ s.mundo.base)
    (hg : ∀ e' w timer, e ≤ e' → R.en ⟨t, e', n, r, v, p⟩ w → Vigente t e' timer → Returns (g timer) (sobre s w) T) :
    Returns (llama (timerCountdownMS ms) >>= g) s T := by
  obtain ⟨e', w, timer, he', hen, hv, hcd⟩ := timerCountdownMS_vigente h hms
  exact returns_llama_bind hcd (hg e' w timer he' hen hv)

theorem returns_timerLeftMS_bind {g : Int → MqttM (Test W) β} (h : R.en ⟨t, e, n, r + 1, v, p⟩ s.mundo.base)
    (hg : ∀ e' w left, e ≤ e' → R.en ⟨t, e', n, r, v, p⟩ w → PLAZO ≤ e' + (ms2i (UInt32.ofInt left)).toNat →
      Returns (g left) (sobre s w) T) : Returns (llama (timerLeftMS (timerPlazo t)) >>= g) s T := by
  obtain ⟨e', w, left, he', hen, hplazo, hleft⟩ := timerLeftMS_plazo h
  exact returns_llama_bind hleft (hg e' w left he' hen hplazo)

theorem returns_escribeReadbuf_bind {p : Nat} {bs : List UInt8} {f : Unit → MqttM (Test W) β}
    (hcabe : p + bs.length ≤ s.client.readbufSize)
    (h : Returns (f ()) { s with readbuf := s.readbuf.escribe p bs } T) :
    Returns (MQTT.escribeReadbuf p bs >>= f) s T := by
  refine Returns.bind (Q := fun _ s' => s' = { s with readbuf := s.readbuf.escribe p bs }) ?_ ?_
  · exact returns_get_bind (returns_ite_neg (Nat.not_lt.mpr hcabe) ⟨_, _, rfl, rfl⟩)
  · rintro _ _ rfl
    exact h

end Bind

theorem returns_puerto {α : Type} {x : EStateM Parada (Test W) α} {Q : α → Test W → Prop} (h : Returns x s.mundo Q) :
    Returns (puerto x) s fun a s' => Q a s'.mundo ∧ s' = { s with mundo := s'.mundo } := by
  obtain ⟨a, m, hx, hQ⟩ := h
  exact ⟨a, { s with mundo := m }, by simp only [puerto, hx], hQ, rfl⟩

theorem mqttread_returns {len : Nat} {left : Int} {bs : List UInt8} (h : R.en ⟨t, e, n, r + 2, v, some bs⟩ s.mundo.base)
    (hleft : PLAZO ≤ e + (ms2i (UInt32.ofInt left)).toNat) (hlen : 0 < len) (hbs : len ≤ bs.length)
    (hrondas : n + len < s.mundo.rondas) : Returns (puerto (Puerto.mqttread len left)) s fun x s' =>
      x = .ok (bs.take len) ∧ ∃ e' n' v' w, e ≤ e' ∧ n' ≤ n ∧
        R.en ⟨t, e', n', LECTURAS, v', some (bs.drop len)⟩ w ∧ s' = sobre s w := by
  refine Returns.weaken (returns_puerto (w5500PahoRead_returns h hleft hlen hbs hrondas)) ?_
  rintro _ s' ⟨⟨rfl, e', n', v', w, he', hn', hen', hmundo⟩, hs'⟩
  refine ⟨rfl, e', n', v', w, he', hn', hen', ?_⟩
  rw [hs', hmundo]
  rfl

/-- A length in one byte. -/
theorem decodePacket_returns {left : Int} {b : UInt8} {len : Nat} {bs : List UInt8}
    (h : R.en ⟨t, e, n, r + 2, v, some (b :: bs)⟩ s.mundo.base) (hleft : PLAZO ≤ e + (ms2i (UInt32.ofInt left)).toNat)
    (hrondas : n + 1 < s.mundo.rondas) (hb : b &&& 128 = 0) (hlen : (b &&& 127).toNat = len) :
    Returns (MQTT.decodePacket left) s fun x s' => x = (1, len) ∧ ∃ e' n' v' w, e ≤ e' ∧ n' ≤ n ∧
      R.en ⟨t, e', n', LECTURAS, v', some bs⟩ w ∧ s' = sobre s w := by
  refine Returns.bind (mqttread_returns h hleft Nat.one_pos (by simp) hrondas) ?_
  rintro _ _ ⟨rfl, e', n', v', w, he', hn', hen', rfl⟩
  refine returns_ite_neg (not_not_intro hb) (returns_pure ?_)
  exact ⟨by simp [hlen], e', n', v', w, he', hn', hen', rfl⟩

/-- The packet of an answer of success, with its session flag. -/
def paqueteConnack (flags : UInt8) : List UInt8 := [0x20, 2, flags, 0]

theorem readPacket_returns {flags : UInt8} {resto : List UInt8}
    (h : R.en ⟨t, e, n, r + 3, v, some (paqueteConnack flags ++ resto)⟩ s.mundo.base)
    (hsize : s.client.readbufSize = MQTT_BUFFER_SIZE) (hrondas : n + 2 < s.mundo.rondas) :
    Returns (MQTT.readPacket (timerPlazo t)) s fun x s' => x = CONNACK.toNat ∧ ∃ e' n' v' w, e ≤ e' ∧
      R.en ⟨t, e', n', LECTURAS, v', some resto⟩ w ∧
      s' = { sobre s w with readbuf := s.readbuf.escribe 0 (paqueteConnack flags) } := by
  -- the type
  refine returns_timerLeftMS_bind h fun e₁ w₁ left he₁ hen₁ hplazo => ?_
  refine Returns.bind (mqttread_returns hen₁ hplazo Nat.one_pos (by simp [paqueteConnack])
    (show n + 1 < s.mundo.rondas by omega)) ?_
  rintro _ _ ⟨rfl, e₂, n₂, v₂, w₂, he₂, hn₂, hen₂, rfl⟩
  refine returns_escribeReadbuf_bind (hsize ▸ by decide) ?_
  -- the length
  refine returns_timerLeftMS_bind hen₂ fun e₃ w₃ left he₃ hen₃ hplazo => ?_
  refine Returns.bind (decodePacket_returns hen₃ hplazo (show n₂ + 1 < s.mundo.rondas by omega) (by decide)
    (show ((2 : UInt8) &&& 127).toNat = 2 from rfl)) ?_
  rintro _ _ ⟨rfl, e₄, n₄, v₄, w₄, he₄, hn₄, hen₄, rfl⟩
  refine returns_escribeReadbuf_bind (hsize ▸ by decide) (returns_ite_pos (by decide) ?_)
  -- the flags and the code
  refine returns_timerLeftMS_bind hen₄ fun e₅ w₅ left he₅ hen₅ hplazo => ?_
  refine Returns.bind (mqttread_returns hen₅ hplazo Nat.two_pos (by simp) (show n₄ + 2 < s.mundo.rondas by omega)) ?_
  rintro _ _ ⟨rfl, e₆, n₆, v₆, w₆, he₆, hn₆, hen₆, rfl⟩
  have htake : ([flags, 0].append resto).take 2 = [flags, 0] := rfl
  rw [htake]
  refine returns_escribeReadbuf_bind (hsize ▸ show 1 + 1 + 2 ≤ MQTT_BUFFER_SIZE by decide) ?_
  refine returns_ite_neg (by simp) (returns_get_bind (returns_pure ?_))
  have hreadbuf : ((s.readbuf.escribe 0 [0x20]).escribe 1 [2]).escribe 2 [flags, 0] =
      s.readbuf.escribe 0 (paqueteConnack flags) :=
    (Buffer.escribe_escribe (s.readbuf.escribe 0 [0x20]) 1 [2] [flags, 0]).trans
      (Buffer.escribe_escribe s.readbuf 0 [0x20] [2, flags, 0])
  have htype : ((s.readbuf.escribe 0 (paqueteConnack flags)) 0) = 0x20 := rfl
  refine ⟨?_, e₆, n₆, v₆, w₆, by omega, hen₆, ?_⟩
  · show ((MQTTHeader.ofByte
      (((s.readbuf.escribe 0 [0x20]).escribe 1 [2]).escribe 2 [flags, 0] 0)).type.toNat : Int) = _
    rw [hreadbuf, htype]
    rfl
  · rw [← hreadbuf]
    rfl

/-- Before the time of the ping is over, none is sent. -/
theorem keepalive_returns {p : Option (List UInt8)} {fuel : Nat} (h : R.en ⟨t, e, n, r + 1, v, p⟩ s.mundo.base)
    (hping : Vigente t e s.client.pingTimer) : Returns (MQTT.keepalive fuel) s fun _ s' => ∃ w, s' = sobre s w := by
  refine returns_get_bind ?_
  by_cases hcero : s.client.keepAliveInterval = 0
  · exact returns_ite_pos hcero (returns_pure ⟨s.mundo.base, rfl⟩)
  · refine returns_ite_neg hcero (returns_timerIsExpired_bind hping h fun e₁ w₁ _ _ => ?_)
    exact returns_ite_neg (by simp) (returns_pure ⟨w₁, rfl⟩)

theorem trataPaquete_connack (fuel : Nat) (timer : TimerPaho) :
    MQTT.trataPaquete (W := Test W) fuel timer (CONNACK.toNat % 65536 : Nat) = pure (SUCCESSS, true) := by
  unfold MQTT.trataPaquete
  rw [if_neg (by decide), if_neg (by decide), if_neg (by decide)]

theorem cycle_returns {flags : UInt8} {resto : List UInt8} {fuel : Nat}
    (h : R.en ⟨t, e, n, r + 3, v, some (paqueteConnack flags ++ resto)⟩ s.mundo.base)
    (hsize : s.client.readbufSize = MQTT_BUFFER_SIZE) (hping : Vigente t e s.client.pingTimer)
    (hrondas : n + 2 < s.mundo.rondas) : Returns (MQTT.cycle fuel (timerPlazo t)) s fun x s' =>
      x = CONNACK.toNat ∧ ∃ w, s' = { sobre s w with readbuf := s.readbuf.escribe 0 (paqueteConnack flags) } := by
  refine Returns.bind (readPacket_returns h hsize hrondas) ?_
  rintro _ _ ⟨rfl, e₁, n₁, v₁, w₁, he₁, hen₁, rfl⟩
  have htrata := trataPaquete_connack (W := W) fuel (timerPlazo t)
  refine Returns.bind (Q := fun x s' => x = (SUCCESSS, true) ∧ s' = _) ⟨_, _, congrFun htrata _, rfl, rfl⟩ ?_
  rintro _ _ ⟨rfl, rfl⟩
  refine Returns.bind (keepalive_returns hen₁ (hping.mono he₁)) ?_
  rintro _ _ ⟨w₂, rfl⟩
  exact returns_ite_pos rfl (returns_pure ⟨rfl, w₂, rfl⟩)

theorem waitfor_returns {flags : UInt8} {resto : List UInt8} {fuel : Nat}
    (h : R.en ⟨t, e, n, r + 4, v, some (paqueteConnack flags ++ resto)⟩ s.mundo.base)
    (hsize : s.client.readbufSize = MQTT_BUFFER_SIZE) (hping : Vigente t e s.client.pingTimer)
    (hrondas : n + 2 < s.mundo.rondas) (hfuel : 0 < fuel) :
    Returns (MQTT.waitfor fuel CONNACK (timerPlazo t)) s fun x s' =>
      x = CONNACK.toNat ∧ ∃ w, s' = { sobre s w with readbuf := s.readbuf.escribe 0 (paqueteConnack flags) } := by
  obtain ⟨fuel, rfl⟩ := Nat.exists_eq_add_of_lt hfuel
  refine returns_timerIsExpired_bind (vigente_timerPlazo t e) h fun e₁ w₁ he₁ hen₁ => ?_
  refine returns_ite_neg Bool.false_ne_true ?_
  refine Returns.bind (cycle_returns hen₁ hsize (hping.mono he₁) hrondas) ?_
  rintro _ _ ⟨rfl, w₂, rfl⟩
  exact returns_ite_pos rfl (returns_pure ⟨rfl, w₂, rfl⟩)

/-- The system once the CONNECT is out. -/
def conConnect (s : Sistema (Test W)) (w : W) : Sistema (Test W) :=
  { s with mundo := { s.mundo with base := w, enviados := paqueteConnect :: s.mundo.enviados } }

theorem mqttwrite_returns {left : Int} (h : R.en ⟨t, e, n, r + 2, v, none⟩ s.mundo.base)
    (hleft : PLAZO ≤ e + (ms2i (UInt32.ofInt left)).toNat) (hrondas : n + 1 < s.mundo.rondas) :
    Returns (puerto (Puerto.mqttwrite paqueteConnect left)) s fun x s' =>
      x = paqueteConnect.length ∧ ∃ e' n' flags resto w, e ≤ e' ∧ n' ≤ n ∧
        R.en ⟨t, e', n', LECTURAS, 0, some (paqueteConnack flags ++ resto)⟩ w ∧ s' = conConnect s w := by
  refine Returns.weaken (returns_puerto (w5500PahoWrite_returns h hleft hrondas)) ?_
  rintro _ s' ⟨⟨rfl, e', n', flags, resto, w, he', hn', hen', hmundo⟩, hs'⟩
  refine ⟨rfl, e', n', flags, resto, w, he', hn', hen', ?_⟩
  rw [hs', hmundo]
  rfl

theorem length_paqueteConnect : paqueteConnect.length = 34 := by decide +kernel

theorem sendRest_returns {fuel : Nat} (h : R.en ⟨t, e, n, r + 4, v, none⟩ s.mundo.base)
    (hbuf : s.buf.lee 0 paqueteConnect.length = paqueteConnect) (hsize : s.client.bufSize = MQTT_BUFFER_SIZE)
    (hrondas : n + 1 < s.mundo.rondas) (hfuel : 2 ≤ fuel) :
    Returns (MQTT.sendRest paqueteConnect.length (timerPlazo t) fuel 0) s fun x s' =>
      x = paqueteConnect.length ∧ ∃ e' n' flags resto w, n' ≤ n ∧
        R.en ⟨t, e', n', LECTURAS, 0, some (paqueteConnack flags ++ resto)⟩ w ∧ s' = conConnect s w := by
  obtain ⟨fuel, rfl⟩ := Nat.exists_eq_add_of_le' hfuel
  refine returns_ite_pos (length_paqueteConnect ▸ by decide) ?_
  refine returns_timerIsExpired_bind (vigente_timerPlazo t e) h fun e₁ w₁ he₁ hen₁ => ?_
  refine returns_ite_neg Bool.false_ne_true (returns_get_bind (returns_ite_neg ?_ ?_))
  · show ¬ 0 + paqueteConnect.length > s.client.bufSize
    rw [hsize, length_paqueteConnect]
    decide
  refine returns_timerLeftMS_bind hen₁ fun e₂ w₂ left he₂ hen₂ hplazo => ?_
  have hlee : (sobre s w₁).buf.lee 0 paqueteConnect.length = paqueteConnect := hbuf
  rw [hlee]
  refine Returns.bind (mqttwrite_returns hen₂ hplazo hrondas) ?_
  rintro _ _ ⟨rfl, e₃, n₃, flags, resto, w₃, -, hn₃, hen₃, rfl⟩
  refine returns_ite_neg (by omega) ?_
  -- the second round finds it all sent
  refine returns_ite_neg (by simp) (returns_pure ?_)
  exact ⟨by simp, e₃, n₃, flags, resto, w₃, hn₃, hen₃, rfl⟩

theorem sendPacket_returns {fuel : Nat} (h : R.en ⟨t, e, n, r + 4, v, none⟩ s.mundo.base)
    (hbuf : s.buf.lee 0 paqueteConnect.length = paqueteConnect) (hsize : s.client.bufSize = MQTT_BUFFER_SIZE)
    (hkeep : s.client.keepAliveInterval = 60) (hrondas : n + 1 < s.mundo.rondas) (hfuel : 2 ≤ fuel) :
    Returns (MQTT.sendPacket fuel paqueteConnect.length (timerPlazo t)) s fun x s' =>
      x = SUCCESSS ∧ ∃ e' n' flags resto w timer, n' ≤ n ∧
        R.en ⟨t, e', n', 4, 0, some (paqueteConnack flags ++ resto)⟩ w ∧ Vigente t e' timer ∧
        s' = { conConnect s w with client := { s.client with pingTimer := timer } } := by
  refine Returns.bind (sendRest_returns h hbuf hsize hrondas hfuel) ?_
  rintro _ _ ⟨rfl, e₁, n₁, flags, resto, w₁, hn₁, hen₁, rfl⟩
  refine returns_ite_pos rfl (returns_get_bind ?_)
  have hms : PLAZO ≤ e₁ + (ms2i ((conConnect s w₁).client.keepAliveInterval * 1000)).toNat := by
    have hping : PLAZO ≤ (ms2i (60 * 1000)).toNat := by decide
    rw [show (conConnect s w₁).client.keepAliveInterval = 60 from hkeep]
    omega
  refine returns_timerCountdownMS_bind hms hen₁ fun e₂ w₂ timer he₂ hen₂ hv => ?_
  exact returns_modify_bind (returns_pure ⟨rfl, e₂, n₁, flags, resto, w₂, timer, hn₁, hen₂, hv, rfl⟩)

theorem connack_paqueteConnack (m : Buffer) (flags : UInt8) :
    MQTTDeserialize.connack (m.escribe 0 (paqueteConnack flags)) = (1, some (flags >>> 7, 0)) := by
  have hcero : (m.escribe 0 (paqueteConnack flags)) 0 = 0x20 := rfl
  have huno : (m.escribe 0 (paqueteConnack flags)) (1 + 0) = 2 := rfl
  have hdecode : MQTTPacket.decodeBuf (m.escribe 0 (paqueteConnack flags)) 1 = (1, 2) := by
    unfold MQTTPacket.decodeBuf MQTTPacket.decode
    rw [huno]
    rfl
  unfold MQTTDeserialize.connack
  rw [hcero, hdecode, if_neg (by decide)]
  rfl

theorem connect_connectData : MQTTSerialize.connect MQTT_BUFFER_SIZE connectData = some paqueteConnect := by
  have hsome : (MQTTSerialize.connect MQTT_BUFFER_SIZE connectData).isSome := by decide +kernel
  obtain ⟨bs, hbs⟩ := Option.isSome_iff_exists.mp hsome
  rw [paqueteConnect, hbs]
  rfl

section Bind

variable {β : Type} {T : β → Sistema (Test W) → Prop}

theorem returns_modificaCliente_bind {f : MQTTClient (Test W) → MQTTClient (Test W)} {g : Unit → MqttM (Test W) β}
    (h : ∀ s', s'.mundo = s.mundo → s'.client = f s.client → Returns (g ()) s' T) :
    Returns (modificaCliente f >>= g) s T :=
  returns_modify_bind (h _ rfl rfl)

theorem returns_serializa_bind {packet : Option (List UInt8)} {bs : List UInt8} {g : Int → MqttM (Test W) β}
    (hp : packet = some bs) (h : ∀ s', s'.mundo = s.mundo → s'.client = s.client →
      s'.buf.lee 0 bs.length = bs → Returns (g bs.length) s' T) : Returns (serializa packet >>= g) s T := by
  subst hp
  refine Returns.bind (Q := fun (len : Int) s' => len = bs.length ∧ s' = { s with buf := s.buf.escribe 0 bs }) ?_ ?_
  · exact ⟨_, _, rfl, rfl, rfl⟩
  · rintro _ _ ⟨rfl, rfl⟩
    have hlee : (s.buf.escribe 0 bs).lee 0 bs.length = bs := Buffer.lee_escribe
    exact h _ rfl rfl hlee

end Bind

theorem leeConnack_returns {m : Buffer} {flags : UInt8} (h : s.readbuf = m.escribe 0 (paqueteConnack flags)) :
    Returns MQTT.leeConnack s fun x s' => x = SUCCESSS ∧ s'.mundo = s.mundo := by
  refine returns_get_bind ?_
  rw [h, connack_paqueteConnack]
  exact returns_ite_pos rfl (returns_modify_bind (returns_pure ⟨rfl, rfl⟩))

/-- What the start-up leaves in the client, and nothing changes. -/
structure ConMedidas (s : Sistema (Test W)) : Prop where
  commandTimeoutMs : s.client.commandTimeoutMs = 1000
  bufSize : s.client.bufSize = MQTT_BUFFER_SIZE
  readbufSize : s.client.readbufSize = MQTT_BUFFER_SIZE

theorem connectRc_returns {fuel : Nat} (hcon : R.conectado n s.mundo.base) (hmed : ConMedidas s)
    (hlibre : s.client.isconnected = 0) (hfuel : 2 ≤ fuel) (hrondas : n + 2 < s.mundo.rondas) :
    Returns (MQTT.connectRc fuel connectData) s fun x s' =>
      x = SUCCESSS ∧ s'.mundo.enviados = paqueteConnect :: s.mundo.enviados := by
  -- the time of the command is counted from the first reading of the clock
  have hen := R.comienza hcon
  generalize ht : (chVTGetSystemTime s.mundo.base).1 = t at hen
  generalize hw : (chVTGetSystemTime s.mundo.base).2 = w at hen
  have hcd : timerCountdownMS s.client.commandTimeoutMs s.mundo = (timerPlazo t, { s.mundo with base := w }) := by
    rw [hmed.commandTimeoutMs, ← ht, ← hw]
    rfl
  refine returns_get_bind (returns_ite_neg (not_not_intro hlibre) (returns_llama_bind hcd ?_))
  refine returns_modificaCliente_bind fun s₁ hm₁ hc₁ => ?_
  have hms : PLAZO ≤ 0 + (ms2i ((60 : UInt16).toUInt32 * 1000)).toNat := by decide
  have hen₁ : R.en ⟨t, 0, n, LECTURAS, 0, none⟩ s₁.mundo.base := by
    rw [hm₁]
    exact hen
  refine returns_timerCountdownMS_bind hms hen₁ fun e₂ w₂ timer _ hen₂ _ => ?_
  refine returns_modificaCliente_bind fun s₂ hm₂ hc₂ => ?_
  refine returns_serializa_bind (hmed.bufSize ▸ connect_connectData) fun s₃ hm₃ hc₃ hbuf => ?_
  have hc : s₃.client = { s.client with keepAliveInterval := 60, pingTimer := timer } :=
    hc₃.trans (hc₂.trans (congrArg (fun c => { c with pingTimer := timer }) hc₁))
  have hm : s₃.mundo = { s.mundo with base := w₂ } := by
    rw [hm₃, hm₂, sobre, hm₁]
    rfl
  have hen₃ : R.en ⟨t, e₂, n, 4, 0, none⟩ s₃.mundo.base := by
    rw [hm]
    exact hen₂
  have hrondas₃ : n + 2 < s₃.mundo.rondas := by
    rw [hm]
    exact hrondas
  refine returns_ite_neg (by rw [length_paqueteConnect]; decide) ?_
  refine Returns.bind (sendPacket_returns hen₃ hbuf (hc ▸ hmed.bufSize) (hc ▸ rfl) (by omega) hfuel) ?_
  rintro _ _ ⟨rfl, e₄, n₄, flags, resto, w₄, timer₄, hn₄, hen₄, hv₄, rfl⟩
  refine returns_ite_neg (not_not_intro rfl) ?_
  have hsize : s₃.client.readbufSize = MQTT_BUFFER_SIZE := hc ▸ hmed.readbufSize
  refine Returns.bind (waitfor_returns hen₄ hsize hv₄ (show n₄ + 2 < s₃.mundo.rondas by omega) (by omega)) ?_
  rintro _ _ ⟨rfl, w₅, rfl⟩
  have henviados : s₃.mundo.enviados = s.mundo.enviados := by rw [hm]
  refine returns_ite_pos rfl (Returns.weaken (leeConnack_returns rfl) ?_)
  rintro _ s' ⟨rfl, hs'⟩
  refine ⟨rfl, ?_⟩
  rw [hs', ← henviados]
  rfl

theorem connect_returns {fuel : Nat} (hcon : R.conectado n s.mundo.base) (hmed : ConMedidas s)
    (hlibre : s.client.isconnected = 0) (hfuel : 2 ≤ fuel) (hrondas : n + 2 < s.mundo.rondas) :
    Returns (MQTT.connect fuel connectData) s fun x s' =>
      x = 0 ∧ s'.mundo.enviados = paqueteConnect :: s.mundo.enviados := by
  refine Returns.bind (connectRc_returns hcon hmed hlibre hfuel hrondas) ?_
  rintro _ s₁ ⟨rfl, henviados⟩
  exact returns_modify_bind (returns_pure ⟨rfl, henviados⟩)

theorem abreConexion_returns {fuel : Nat} (h : R.Alcanza n s.mundo.base) (hmed : ConMedidas s)
    (hlibre : s.client.isconnected = 0) (hfuel : 2 ≤ fuel) (hrondas : n + 2 < s.mundo.rondas) :
    Returns (abreConexion fuel) s fun x s' =>
      x = true ∧ s'.mundo.enviados = paqueteConnect :: s.mundo.enviados := by
  obtain ⟨hsocket, hconnect, hconectado⟩ := h
  refine returns_llama_bind (enBase_eq _ _) (returns_llama_bind (enBase_eq _ _) (returns_ite_pos hsocket ?_))
  refine returns_llama_bind (enBase_eq _ _) (returns_ite_pos hconnect ?_)
  have hmed' : ∀ w, ConMedidas (sobre s w) := fun _ => ⟨hmed.commandTimeoutMs, hmed.bufSize, hmed.readbufSize⟩
  refine Returns.bind (connect_returns hconectado (hmed' _) hlibre hfuel hrondas) ?_
  rintro _ s₁ ⟨rfl, henviados⟩
  exact returns_pure ⟨rfl, henviados⟩

/-- A client that thinks it is connected sends nothing. -/
theorem connect_conectado {fuel : Nat} (hocupado : s.client.isconnected ≠ 0) :
    Returns (MQTT.connect fuel connectData) s fun x s' => x = FAILURE ∧ s'.mundo = s.mundo := by
  refine Returns.bind (Q := fun x s' => x = FAILURE ∧ s' = s) ?_ ?_
  · exact returns_get_bind (returns_ite_pos hocupado (returns_pure ⟨rfl, rfl⟩))
  · rintro _ _ ⟨rfl, rfl⟩
    exact returns_modify_bind (returns_pure ⟨rfl, rfl⟩)

theorem abreConexion_conectado {fuel : Nat} (h : R.Alcanza n s.mundo.base) (hocupado : s.client.isconnected ≠ 0) :
    Returns (abreConexion fuel) s fun x s' => x = false ∧ s'.mundo.enviados = s.mundo.enviados := by
  obtain ⟨hsocket, hconnect, -⟩ := h
  refine returns_llama_bind (enBase_eq _ _) (returns_llama_bind (enBase_eq _ _) (returns_ite_pos hsocket ?_))
  refine returns_llama_bind (enBase_eq _ _) (returns_ite_pos hconnect ?_)
  refine Returns.bind (connect_conectado hocupado) ?_
  rintro _ s₁ ⟨rfl, hmundo⟩
  exact returns_pure ⟨rfl, by rw [hmundo]; rfl⟩

theorem reconecta_iff {fuel : Nat} {m : Maquina} (hm : m.currentState = .connectBroker) (h : R.Alcanza n s.mundo.base)
    (hmed : ConMedidas s) (hfuel : 2 ≤ fuel) (hrondas : n + 2 < s.mundo.rondas) :
    Reconecta fuel m s ↔ s.client.isconnected = 0 := by
  constructor
  · rintro ⟨⟨s', hok, -⟩, -⟩
    refine Decidable.byContradiction fun hocupado => ?_
    have hfalla : Returns (abreConexion fuel) s fun x s' => x = false ∧ s'.mundo.enviados = s.mundo.enviados :=
      abreConexion_conectado h hocupado
    obtain ⟨_, _, hno, rfl, -⟩ := hfalla
    rw [hok] at hno
    cases hno
  · intro hlibre
    obtain ⟨_, s₁, hok, rfl, henviados⟩ := abreConexion_returns h hmed hlibre hfuel hrondas
    refine ⟨⟨s₁, hok, henviados⟩, fun m' s' hcase => ?_⟩
    simp only [«switch», hm] at hcase
    obtain ⟨_, _, hok', hcase⟩ := ok_of_bind hcase
    rw [hok] at hok'
    cases hok'
    obtain ⟨_, _, -, hcase⟩ := ok_of_bind hcase
    cases hcase
    exact ⟨rfl, rfl⟩

end Cliente

/-! ### Runs -/

/-- What the start-up settles in the client. -/
def medidas (s : Sistema (Test W)) : UInt32 × Nat × Nat :=
  (s.client.commandTimeoutMs, s.client.bufSize, s.client.readbufSize)

theorem ajenaSuscripcion_medidas : AjenaSuscripcion (medidas (W := W)) where
  toAjena := ajena_cliente (fun _ _ => rfl) (fun _ _ => rfl) fun _ _ => rfl
  mqttread _ _ := intact_puerto_cliente (fun _ _ => rfl) _
  readbuf _ _ := rfl
  messageHandler _ _ := intact_puerto_cliente (fun _ _ => rfl) _
  pingOutstanding _ _ := rfl
  nextPacketid _ _ := rfl
  keepAliveInterval _ _ := rfl
  isconnected _ _ := rfl
  sucesos _ _ := rfl
  messageHandlers _ _ := rfl

theorem arranque_medidas {s s₀ : Sistema (Test W)} {m₀ : Maquina} (h : arranque s = .ok m₀ s₀) :
    medidas s₀ = (1000, MQTT_BUFFER_SIZE, MQTT_BUFFER_SIZE) := by
  obtain ⟨_, _, hinit, hmedidas⟩ := arranque_clientInit (v := medidas) (fun _ _ => rfl) h
  cases hinit
  exact hmedidas

section Corrida

variable {s₀ s₁ s : Sistema (Test W)} {m₀ m : Maquina} {tops : List (Maquina × Sistema (Test W))}
  {t : Maquina × Sistema (Test W)} {fuel : Nat}

theorem Corrida.conMedidas (h₀ : arranque s₀ = .ok m₀ s₁) (hrun : Corrida (m₀, s₁) tops) (ht : t ∈ tops)
    (hhasta : hastaSwitch fuel t.1 t.2 = .ok (m, true) s) : ConMedidas s := by
  have htop : medidas t.2 = (1000, MQTT_BUFFER_SIZE, MQTT_BUFFER_SIZE) :=
    Trace.forall hrun (P := fun t => medidas t.2 = (1000, MQTT_BUFFER_SIZE, MQTT_BUFFER_SIZE)) (arranque_medidas h₀)
      (fun t t' ⟨fuel, hvuelta⟩ ht =>
        ((intact_vuelta (fun _ _ => rfl) ajenaSuscripcion_medidas fuel t.1).keeps _ _ _ hvuelta).trans ht) t ht
  have hs : medidas s = (1000, MQTT_BUFFER_SIZE, MQTT_BUFFER_SIZE) :=
    ((intact_hastaSwitch (v := medidas) (fun _ _ => rfl) fuel t.1).keeps _ _ _ hhasta).trans htop
  simp only [medidas, Prod.mk.injEq] at hs
  exact ⟨hs.1, hs.2.1, hs.2.2⟩

/-- In every run, each `case STATE_CONNECT_BROKER` with the broker within reach connects just when the client does not
think that it is connected. -/
theorem w5500MqttThread_reconecta {R : BrokerListo W} {fuel₀ n : Nat} (h₀ : arranque s₀ = .ok m₀ s₁)
    (hrun : Corrida (m₀, s₁) tops) (ht : t ∈ tops) (hhasta : hastaSwitch fuel₀ t.1 t.2 = .ok (m, true) s)
    (hcase : m.currentState = .connectBroker) (hlisto : R.Alcanza n s.mundo.base) (hfuel : 2 ≤ fuel)
    (hrondas : n + 2 < s.mundo.rondas) : Reconecta fuel m s ↔ s.client.isconnected = 0 :=
  reconecta_iff hcase hlisto (hrun.conMedidas h₀ ht hhasta) hfuel hrondas

end Corrida

/-! ### The broker from a script -/

namespace Broker

/-- Its clock stands still meanwhile. -/
structure En (μ : Momento) (w : Broker) : Prop where
  reloj : w.ahora.toUInt32 = μ.t + μ.ticks.toUInt32
  ticks : μ.ticks < PLAZO
  llegado : w.llegado = μ.pendiente.getD []
  corto : w.llegado.length < 65536
  vistos : μ.vistos ≤ w.llegado.length

theorem comienza {n : Nat} {w : Broker} (h : w.llegado = []) : En ⟨w.ahora.toUInt32, 0, n, LECTURAS, 0, none⟩ w where
  reloj := by simp
  ticks := show 0 < PLAZO by decide
  llegado := h
  corto := by
    rw [h]
    decide
  vistos := Nat.zero_le _

theorem envia {t : UInt32} {e n r v : Nat} {w : Broker} (h : En ⟨t, e, n, r, v, none⟩ w) :
    (send MQTT_SOCKET_NUM paqueteConnect w).1 = paqueteConnect.length ∧
      En ⟨t, e, n, LECTURAS, 0, some ([0x20, 2, 0, 0] ++ [])⟩ (send MQTT_SOCKET_NUM paqueteConnect w).2 := by
  have hconnect : Broker.contesta paqueteConnect = [0x20, 2, 0, 0] := by decide +kernel
  have hllegado : (send MQTT_SOCKET_NUM paqueteConnect w).2.llegado = [0x20, 2, 0, 0] := by
    show w.llegado ++ Broker.contesta paqueteConnect = _
    rw [h.llegado, hconnect]
    rfl
  refine ⟨rfl, h.reloj, h.ticks, hllegado, ?_, Nat.zero_le _⟩
  rw [hllegado]
  decide

theorem mira {t : UInt32} {e n r v : Nat} {bs : List UInt8} {w : Broker} (h : En ⟨t, e, n, r, v, some bs⟩ w)
    (hne : bs ≠ []) : 0 < (getSnRXRSR MQTT_SOCKET_NUM w).1 ∧ (getSnRXRSR MQTT_SOCKET_NUM w).1.toNat ≤ bs.length ∧
      En ⟨t, e, n, LECTURAS, (getSnRXRSR MQTT_SOCKET_NUM w).1.toNat, some bs⟩ (getSnRXRSR MQTT_SOCKET_NUM w).2 := by
  have hllegado : w.llegado = bs := h.llegado
  have hcorto : bs.length < 65536 := hllegado ▸ h.corto
  have hlen : (getSnRXRSR MQTT_SOCKET_NUM w).1.toNat = bs.length := by
    show w.llegado.length.toUInt16.toNat = _
    rw [hllegado]
    simpa using hcorto
  refine ⟨?_, Nat.le_of_eq hlen, h.reloj, h.ticks, h.llegado, h.corto, ?_⟩
  · rw [UInt16.lt_iff_toNat_lt, hlen]
    exact List.length_pos_iff.mpr hne
  · exact Nat.le_of_eq (hlen.trans (by rw [← hllegado]; rfl))

theorem recibe {t : UInt32} {e n r v k : Nat} {bs : List UInt8} {w : Broker} (h : En ⟨t, e, n, r, v, some bs⟩ w)
    (hle : k ≤ v) : (recv MQTT_SOCKET_NUM k.toUInt16 w).1 = .ok (bs.take k) ∧
      En ⟨t, e, n, LECTURAS, v - k, some (bs.drop k)⟩ (recv MQTT_SOCKET_NUM k.toUInt16 w).2 := by
  have hllegado : w.llegado = bs := h.llegado
  have hcorto := h.corto
  have hvistos : v ≤ w.llegado.length := h.vistos
  have hk : k.toUInt16.toNat = k := by
    simp
    omega
  have hresto : (recv MQTT_SOCKET_NUM k.toUInt16 w).2.llegado = bs.drop k := by
    show w.llegado.drop k.toUInt16.toNat = _
    rw [hk, hllegado]
  refine ⟨?_, h.reloj, h.ticks, hresto, ?_, ?_⟩
  · show Except.ok (w.llegado.take k.toUInt16.toNat) = _
    rw [hk, hllegado]
  · rw [hresto, List.length_drop]
    rw [hllegado] at hcorto
    omega
  · rw [hresto, List.length_drop]
    rw [hllegado] at hvistos
    show v - k ≤ _
    omega

def listo : BrokerListo Broker where
  conectado _ w := w.llegado = []
  en := En
  comienza := comienza
  reloj h := ⟨_, Nat.le_refl _, h.ticks, h.reloj, ⟨h.reloj, h.ticks, h.llegado, h.corto, h.vistos⟩⟩
  envia h := .inl ⟨(envia h).1, 0, [], (envia h).2⟩
  mira h hne := .inr (mira h hne)
  recibe h _ hle := recibe h hle

/-- A `case STATE_CONNECT_BROKER` that a run comes to: the flag of the client, and what else decides there. -/
def alcanza (t : Maquina × Sistema (Test Broker)) : Option (Int × List UInt8 × Nat) :=
  match hastaSwitch 4 t.1 t.2 with
  | .ok (m, true) s =>
    if m.currentState = .connectBroker then some (s.client.isconnected, s.mundo.base.llegado, s.mundo.rondas) else none
  | _ => none

theorem of_alcanza {t : Maquina × Sistema (Test Broker)} {flag : Int} (h : alcanza t = some (flag, [], 4)) :
    ∃ m s, hastaSwitch 4 t.1 t.2 = .ok (m, true) s ∧ m.currentState = .connectBroker ∧ s.client.isconnected = flag ∧
      listo.Alcanza 0 s.mundo.base ∧ 0 + 2 < s.mundo.rondas := by
  unfold alcanza at h
  split at h
  · rename_i m s hhasta
    split at h
    · rename_i hm
      simp only [Option.some.injEq, Prod.mk.injEq] at h
      obtain ⟨hflag, hllegado, hrondas⟩ := h
      exact ⟨m, s, hhasta, hm, hflag, ⟨rfl, rfl, hllegado⟩, by omega⟩
    · cases h
  · cases h

end Broker

/-- The first connection succeeds. -/
theorem w5500MqttThread_reconecta_broker : ∃ (a : Broker.Llega) (m : Maquina) (s : Sistema (Test Broker)),
    hastaSwitch 4 a.t.1 a.t.2 = .ok (m, true) s ∧ Reconecta 4 m s := by
  have hres : (Broker.vueltas 1).map (fun a => Broker.alcanza a.t) = some (some (0, [], 4)) := by decide +kernel
  obtain ⟨a, -, ha⟩ := Option.map_eq_some_iff.mp hres
  obtain ⟨m, s, hhasta, hm, hflag, hlisto, hrondas⟩ := Broker.of_alcanza ha
  obtain ⟨tops, hrun⟩ := a.marcha.corrida
  exact ⟨a, m, s, hhasta, (w5500MqttThread_reconecta a.arranque hrun List.mem_cons_self hhasta hm hlisto (by decide)
    hrondas).mpr hflag⟩

/-- After the first connection is lost, the first attempt to connect again sends nothing. -/
theorem w5500MqttThread_no_reconecta : ¬ ∀ (R : BrokerListo Broker) (s₀ s₁ s : Sistema (Test Broker)) (m₀ m : Maquina)
    (tops : List (Maquina × Sistema (Test Broker))) (t : Maquina × Sistema (Test Broker)) (fuel₀ fuel n : Nat),
    arranque s₀ = .ok m₀ s₁ → Corrida (m₀, s₁) tops → t ∈ tops → hastaSwitch fuel₀ t.1 t.2 = .ok (m, true) s →
    m.currentState = .connectBroker → R.Alcanza n s.mundo.base → 2 ≤ fuel → n + 2 < s.mundo.rondas →
    Reconecta fuel m s := by
  intro h
  have hres : (Broker.vueltas 3).map (fun a => Broker.alcanza a.t) = some (some (1, [], 4)) := by decide +kernel
  obtain ⟨a, -, ha⟩ := Option.map_eq_some_iff.mp hres
  obtain ⟨m, s, hhasta, hm, hflag, hlisto, hrondas⟩ := Broker.of_alcanza ha
  obtain ⟨tops, hrun⟩ := a.marcha.corrida
  obtain ⟨⟨s', hok, -⟩, -⟩ := h Broker.listo _ _ s _ m _ _ 4 4 0 a.arranque hrun List.mem_cons_self hhasta hm hlisto
    (by decide) hrondas
  have hocupado : Returns (abreConexion 4) s fun x s' => x = false ∧ s'.mundo.enviados = s.mundo.enviados :=
    abreConexion_conectado hlisto (by omega)
  obtain ⟨_, _, hno, rfl, -⟩ := hocupado
  rw [hok] at hno
  cases hno

end Automata

end Wiznet
