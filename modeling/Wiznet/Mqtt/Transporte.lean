import Wiznet.Mqtt.Respuestas

/-!
# Packets from a transport

`MQTTPacket_read` reads a packet from a function that waits for its bytes, and `MQTTPacket_readnb` from one that gives
those there are: it is called again while it returns zero and goes on where it was.  Here the function gives, for the
number of bytes asked for, those read, or `none` for an error.
-/

namespace Wiznet

namespace MQTTPacket

/-- The fields of `MQTTTransport` that change. -/
structure MQTTTransport where
  multiplier : Nat := 0
  remLen : Nat := 0
  len : Nat := 0
  state : Nat := 0

section

variable {W : Type} (getfn : Nat → W → Option (List UInt8) × W)

/-- The `do … while` of `MQTTPacket_decode`: the bytes that may still come, the weight of the next one, the value. -/
def decodeFn : Nat → Nat → Nat → W → Nat × W
  | 0, _, value, w => (value, w)
  | n + 1, multiplier, value, w =>
    match getfn 1 w with
    | (some (c :: _), w) =>
      let value := value + (c &&& 127).toNat * multiplier
      if c &&& 128 ≠ 0 then decodeFn n (multiplier * 128) value w else (value, w)
    | (_, w) => (value, w)

/-- The code of `MQTTPacket_decode` is not looked at. -/
def read (buflen : Nat) (buf : Buffer) (w : W) : Int × Buffer × W :=
  match getfn 1 w with
  | (some (header :: _), w) =>
    let buf := buf.escribe 0 [header]
    let (remLen, w) := decodeFn getfn 4 1 0 w
    let buf := buf.escribe 1 (encode remLen)
    let len := 1 + (encode remLen).length
    if remLen + len > buflen then (-1, buf, w)
    else
      match getfn remLen w with
      | (none, w) => (-1, buf, w)
      | (some bs, w) =>
        let buf := buf.escribe len bs
        if bs.length ≠ remLen then (-1, buf, w) else ((MQTTHeader.ofByte (buf 0)).type.toNat, buf, w)
  | (_, w) => (-1, buf, w)

/-- The `do … while` of `MQTTPacket_decodenb`, which `len` ends in five rounds at most. -/
def decodenbRest : Nat → MQTTTransport → W → Int × MQTTTransport × W
  | 0, trp, w => (-1, trp, w)
  | n + 1, trp, w =>
    let trp := { trp with len := trp.len + 1 }
    if trp.len > 4 then (-1, trp, w)
    else
      match getfn 1 w with
      | (none, w) => (-1, trp, w)
      | (some [], w) => (0, trp, w)
      | (some (c :: _), w) =>
        let trp :=
          { trp with
            remLen := trp.remLen + (c &&& 127).toNat * trp.multiplier
            multiplier := trp.multiplier * 128 }
        if c &&& 128 ≠ 0 then decodenbRest n trp w else (trp.len, trp, w)

def decodenb (trp : MQTTTransport) (w : W) : Int × MQTTTransport × W :=
  decodenbRest getfn 5 (if trp.len = 0 then { trp with multiplier := 1, remLen := 0 } else trp) w

/-- Case 2 of `MQTTPacket_readnb`. -/
def readnbRest (trp : MQTTTransport) (buf : Buffer) (w : W) : Int × MQTTTransport × Buffer × W :=
  match getfn trp.remLen w with
  | (none, w) => (-1, { trp with state := 0 }, buf, w)
  | (some [], w) => (0, trp, buf, w)
  | (some (b :: bs), w) =>
    let buf := buf.escribe trp.len (b :: bs)
    let trp := { trp with remLen := trp.remLen - (b :: bs).length, len := trp.len + (b :: bs).length }
    if trp.remLen ≠ 0 then (0, trp, buf, w)
    else ((MQTTHeader.ofByte (buf 0)).type.toNat, { trp with state := 0 }, buf, w)

/-- Case 1 after `MQTTPacket_decodenb`. -/
def readnbLength (buflen : Nat) (r : Int × MQTTTransport × W) (buf : Buffer) : Int × MQTTTransport × Buffer × W :=
  let (frc, trp, w) := r
  if frc = -1 then (-1, { trp with state := 0 }, buf, w)
  else if frc = 0 then (0, trp, buf, w)
  else
    let buf := buf.escribe 1 (encode trp.remLen)
    let trp := { trp with len := 1 + (encode trp.remLen).length }
    if trp.remLen + trp.len > buflen then (-1, { trp with state := 0 }, buf, w)
    else readnbRest getfn { trp with state := 2 } buf w

def readnb (buflen : Nat) (trp : MQTTTransport) (buf : Buffer) (w : W) : Int × MQTTTransport × Buffer × W :=
  match trp.state with
  | 1 => readnbLength getfn buflen (decodenb getfn trp w) buf
  | 2 => readnbRest getfn trp buf w
  | _ =>
    match getfn 1 w with
    | (none, w) => (-1, { trp with state := 0 }, buf, w)
    | (some [], w) => (0, { trp with state := 0 }, buf, w)
    | (some (header :: _), w) =>
      readnbLength getfn buflen (decodenb getfn { trp with len := 0, state := 1 } w) (buf.escribe 0 [header])

/-- Calls of `MQTTPacket_readnb` until one returns something else than zero. -/
inductive Termina (buflen : Nat) : Int × MQTTTransport × Buffer × W → Int × MQTTTransport × Buffer × W → Prop
  | fin {r : Int × MQTTTransport × Buffer × W} (h : r.1 ≠ 0) : Termina buflen r r
  | otra {trp : MQTTTransport} {buf : Buffer} {w : W} {r : Int × MQTTTransport × Buffer × W}
      (h : Termina buflen (readnb getfn buflen trp buf w) r) : Termina buflen (0, trp, buf, w) r

end

/-! ### A stream that comes in pieces -/

/-- The bytes to come and, for each call of the function, how many there are, `none` for an error. -/
structure Fuente where
  stream : List UInt8
  plan : List (Option Nat)

def Fuente.getfn (n : Nat) (f : Fuente) : Option (List UInt8) × Fuente :=
  match f.plan with
  | [] => (some [], f)
  | none :: plan => (none, { f with plan := plan })
  | some k :: plan => (some (f.stream.take (min k n)), ⟨f.stream.drop (min k n), plan⟩)

/-- The plan gives one byte `digitos` times and nothing `ceros` times, and a byte last. -/
inductive Trozos : Nat → Nat → List (Option Nat) → Prop
  | fin {k : Nat} (h : 0 < k) : Trozos 1 0 [some k]
  | nada {digitos ceros : Nat} {plan : List (Option Nat)} (h : Trozos digitos ceros plan) :
      Trozos digitos (ceros + 1) (some 0 :: plan)
  | digito {digitos ceros k : Nat} {plan : List (Option Nat)} (hk : 0 < k) (h : Trozos digitos ceros plan) :
      Trozos (digitos + 1) ceros (some k :: plan)

/-- The plan gives `n` bytes, and the last of them at its end. -/
inductive Cubre : Nat → List (Option Nat) → Prop
  | fin {n k : Nat} (hn : 0 < n) (h : n ≤ k) : Cubre n [some k]
  | sigue {n k : Nat} {plan : List (Option Nat)} (hk : k < n) (h : Cubre (n - k) plan) : Cubre n (some k :: plan)

variable {buflen : Nat} {buf : Buffer} {trp : MQTTTransport} {plan resto : List (Option Nat)} {bs cs : List UInt8}

theorem escribe_zero {p : Nat} (hp : 0 < p) : buf.escribe p bs 0 = buf 0 := by
  rw [Buffer.escribe, if_neg (by omega)]

/-- The body of a packet comes whole, in as many pieces as the plan has. -/
theorem readnbRest_termina {n len multiplier : Nat} (hc : Cubre n plan) (hlen : bs.length = n) (hpos : 0 < len)
    (htype : (MQTTHeader.ofByte (buf 0)).type ≠ 0) :
    Termina Fuente.getfn buflen (readnbRest Fuente.getfn ⟨multiplier, n, len, 2⟩ buf ⟨bs ++ cs, plan ++ resto⟩)
      ((MQTTHeader.ofByte (buf 0)).type.toNat, ⟨multiplier, 0, len + n, 0⟩, buf.escribe len bs, ⟨cs, resto⟩) := by
  induction hc generalizing bs len buf with
  | @fin n k hn hk =>
    have hget : Fuente.getfn n ⟨bs ++ cs, [some k] ++ resto⟩ = (some bs, ⟨cs, resto⟩) := by
      have hmin : min k n = bs.length := by omega
      simp only [Fuente.getfn, List.singleton_append, hmin, List.take_left, List.drop_left]
    obtain ⟨b, bs, rfl⟩ := List.exists_cons_of_length_pos (by omega : 0 < bs.length)
    simp only [readnbRest, hget, hlen, Nat.sub_self, escribe_zero hpos, ne_eq, not_true_eq_false, if_false]
    refine .fin ?_
    simpa [← UInt8.toNat_inj] using htype
  | @sigue n k plan hk h ih =>
    have hget : Fuente.getfn n ⟨bs ++ cs, (some k :: plan) ++ resto⟩ =
        (some (bs.take k), ⟨bs.drop k ++ cs, plan ++ resto⟩) := by
      have hmin : min k n = k := by omega
      simp only [Fuente.getfn, List.cons_append, hmin, List.take_append_of_le_length (by omega : k ≤ bs.length),
        List.drop_append_of_le_length (by omega : k ≤ bs.length)]
    have hdrop : (bs.drop k).length = n - k := by rw [List.length_drop, hlen]
    by_cases hzero : k = 0
    case pos =>
      subst hzero
      simp only [readnbRest, hget, List.take_zero]
      exact .otra (ih hlen hpos htype)
    case neg =>
      have htake : (bs.take k).length = k := by
        rw [List.length_take]
        omega
      obtain ⟨b, bs', hbs⟩ := List.exists_cons_of_length_pos (by omega : 0 < (bs.take k).length)
      have hlong : 0 < len + k := by omega
      have htype' : (MQTTHeader.ofByte (buf.escribe len (bs.take k) 0)).type ≠ 0 := by rwa [escribe_zero hpos]
      have hnext := ih hdrop hlong htype'
      have hbuf := Buffer.escribe_escribe buf len (bs.take k) (bs.drop k)
      rw [htake, List.take_append_drop] at hbuf
      have hlast : len + k + (n - k) = len + n := by omega
      rw [escribe_zero hpos, hbuf, hlast] at hnext
      simp only [readnbRest, hget, hbs]
      rw [← hbs, htake, if_pos (by omega)]
      exact .otra hnext

theorem Trozos.pos {digitos ceros : Nat} (h : Trozos digitos ceros plan) : 0 < digitos := by
  induction h with
  | fin => exact Nat.one_pos
  | nada _ ih => exact ih
  | digito => exact Nat.succ_pos _

theorem getfn_byte {k : Nat} {b : UInt8} (hk : 0 < k) :
    Fuente.getfn 1 ⟨b :: bs, some k :: plan⟩ = (some [b], ⟨bs, plan⟩) := by
  have hmin : min k 1 = 1 := by omega
  simp only [Fuente.getfn, hmin, List.take_succ_cons, List.take_zero, List.drop_succ_cons, List.drop_zero]

theorem getfn_nada {n : Nat} : Fuente.getfn n ⟨bs, some 0 :: plan⟩ = (some [], ⟨bs, plan⟩) := by
  simp [Fuente.getfn]

/-- One round of `MQTTPacket_decodenb` that gets a byte. -/
theorem decodenbRest_byte {n multiplier remLen len k : Nat} {d : UInt8} (hlen : len < 4) (hk : 0 < k) :
    decodenbRest Fuente.getfn (n + 1) ⟨multiplier, remLen, len, 1⟩ ⟨d :: bs, some k :: plan⟩ =
      if d &&& 128 ≠ 0 then
        decodenbRest Fuente.getfn n ⟨multiplier * 128, remLen + (d &&& 127).toNat * multiplier, len + 1, 1⟩ ⟨bs, plan⟩
      else (len + 1, ⟨multiplier * 128, remLen + (d &&& 127).toNat * multiplier, len + 1, 1⟩, ⟨bs, plan⟩) := by
  rw [decodenbRest]
  simp only [getfn_byte hk]
  rw [if_neg (by omega)]
  split <;> simp

/-- One round that gets none, and the call after it. -/
theorem readnbLength_nada {n multiplier remLen len : Nat} (hlen : len < 4) {r : Int × MQTTTransport × Buffer × Fuente}
    (h : Termina Fuente.getfn buflen (readnbLength Fuente.getfn buflen
      (decodenbRest Fuente.getfn 5 ⟨multiplier, remLen, len + 1, 1⟩ ⟨bs, plan⟩) buf) r) :
    Termina Fuente.getfn buflen (readnbLength Fuente.getfn buflen
      (decodenbRest Fuente.getfn (n + 1) ⟨multiplier, remLen, len, 1⟩ ⟨bs, some 0 :: plan⟩) buf) r := by
  have hstep : decodenbRest Fuente.getfn (n + 1) ⟨multiplier, remLen, len, 1⟩ ⟨bs, some 0 :: plan⟩ =
      (0, ⟨multiplier, remLen, len + 1, 1⟩, ⟨bs, plan⟩) := by
    rw [decodenbRest]
    simp only [getfn_nada]
    rw [if_neg (by omega)]
  rw [hstep]
  exact .otra h

theorem readnbLength_termina (cs : List UInt8) (resto : List (Option Nat))
    {digitos ceros rounds len length multiplier remLen : Nat} {ds : List UInt8} {plan' : List (Option Nat)}
    (ht : Trozos digitos ceros plan) (hd : Digitos length ds) (hds : ds.length = digitos)
    (hrounds : 5 ≤ rounds + len) (hle : len + digitos + ceros ≤ 4) (hn : remLen + length * multiplier = bs.length)
    (hbuf : 1 + (encode bs.length).length + bs.length ≤ buflen) (hc : Cubre bs.length plan')
    (htype : (MQTTHeader.ofByte (buf 0)).type ≠ 0) :
    ∃ multiplier', Termina Fuente.getfn buflen
      (readnbLength Fuente.getfn buflen (decodenbRest Fuente.getfn rounds ⟨multiplier, remLen, len, 1⟩
        ⟨ds ++ (bs ++ cs), plan ++ (plan' ++ resto)⟩) buf)
      ((MQTTHeader.ofByte (buf 0)).type.toNat, ⟨multiplier', 0, 1 + (encode bs.length).length + bs.length, 0⟩,
        buf.escribe 1 (encode bs.length ++ bs), ⟨cs, resto⟩) := by
  induction ht generalizing ds length len rounds multiplier remLen with
  | @fin k hk =>
    obtain ⟨rounds, rfl⟩ : ∃ n, rounds = n + 1 := ⟨rounds - 1, by omega⟩
    cases hd with
    | sigue h hs =>
      have := hs.pos
      simp only [List.length_cons] at hds
      omega
    | @ultimo d h =>
      rw [List.singleton_append, List.singleton_append, decodenbRest_byte (by omega) hk, if_neg (by simpa using h), hn]
      have hfirst : buf.escribe 1 (encode bs.length) 0 = buf 0 := escribe_zero Nat.one_pos
      refine ⟨multiplier * 128, ?_⟩
      unfold readnbLength
      dsimp only
      rw [if_neg (by omega), if_neg (by omega), if_neg (by omega), ← Buffer.escribe_escribe, ← hfirst]
      exact readnbRest_termina hc rfl (by omega) (by rwa [hfirst])
  | @nada digitos ceros plan ht ih =>
    obtain ⟨rounds, rfl⟩ : ∃ n, rounds = n + 1 := ⟨rounds - 1, by omega⟩
    have := ht.pos
    have hrounds' : 5 ≤ 5 + (len + 1) := by omega
    obtain ⟨multiplier', hend⟩ := ih hd hds hrounds' (by omega) hn
    exact ⟨multiplier', readnbLength_nada (by omega) hend⟩
  | @digito digitos ceros k plan hk ht ih =>
    obtain ⟨rounds, rfl⟩ : ∃ n, rounds = n + 1 := ⟨rounds - 1, by omega⟩
    have := ht.pos
    cases hd with
    | ultimo h =>
      simp only [List.length_singleton] at hds
      omega
    | @sigue d length ds h hs =>
      rw [List.cons_append, List.cons_append, decodenbRest_byte (by omega) hk, if_pos h]
      refine ih hs (by simpa using hds) (by omega) (by omega) ?_
      rw [suma_digito, hn]

/-- A fifth round gives up, whatever there is to read. -/
theorem readnbLength_agotada {rounds : Nat} (multiplier remLen : Nat) (w : Fuente) (hrounds : 0 < rounds) :
    ∃ trp : MQTTTransport, trp.state = 0 ∧ Termina Fuente.getfn buflen
      (readnbLength Fuente.getfn buflen (decodenbRest Fuente.getfn rounds ⟨multiplier, remLen, 4, 1⟩ w) buf)
      (-1, trp, buf, w) := by
  obtain ⟨rounds, rfl⟩ : ∃ n, rounds = n + 1 := ⟨rounds - 1, by omega⟩
  exact ⟨⟨multiplier, remLen, 5, 0⟩, rfl, .fin (by decide : (-1 : Int) ≠ 0)⟩

theorem readnbLength_falla (buflen : Nat) (buf : Buffer) (bs : List UInt8) (resto : List (Option Nat))
    {digitos ceros rounds len length multiplier remLen : Nat} {ds : List UInt8} (ht : Trozos digitos ceros plan)
    (hd : Digitos length ds) (hds : ds.length = digitos) (hrounds : 5 ≤ rounds + len)
    (hlen : len ≤ 4) (hgt : 4 < len + digitos + ceros) :
    ∃ trp w, trp.state = 0 ∧ (∃ ds', ds' ≠ [] ∧ w.stream = ds' ++ bs) ∧ Termina Fuente.getfn buflen
      (readnbLength Fuente.getfn buflen (decodenbRest Fuente.getfn rounds ⟨multiplier, remLen, len, 1⟩
        ⟨ds ++ bs, plan ++ resto⟩) buf) (-1, trp, buf, w) := by
  have hne : ∀ {l ds}, Digitos l ds → ds ≠ [] := fun h => List.length_pos_iff.mp h.pos
  have hagotada : ∀ {multiplier remLen rounds : Nat} {plan : List (Option Nat)}, 0 < rounds → ∀ {l ds}, Digitos l ds →
      ∃ trp w, trp.state = 0 ∧ (∃ ds', ds' ≠ [] ∧ w.stream = ds' ++ bs) ∧ Termina Fuente.getfn buflen
        (readnbLength Fuente.getfn buflen (decodenbRest Fuente.getfn rounds ⟨multiplier, remLen, 4, 1⟩
          ⟨ds ++ bs, plan⟩) buf) (-1, trp, buf, w) := by
    intro multiplier remLen rounds plan hpos l ds hd
    obtain ⟨trp, hstate, hend⟩ := readnbLength_agotada multiplier remLen ⟨ds ++ bs, plan⟩ hpos
    exact ⟨trp, _, hstate, ⟨ds, hne hd, rfl⟩, hend⟩
  induction ht generalizing ds length len rounds multiplier remLen with
  | @fin k hk =>
    obtain rfl : len = 4 := by omega
    exact hagotada (by omega) hd
  | @nada digitos ceros plan ht ih =>
    by_cases hfour : len = 4
    · subst hfour
      exact hagotada (by omega) hd
    · obtain ⟨rounds, rfl⟩ : ∃ n, rounds = n + 1 := ⟨rounds - 1, by omega⟩
      have hrounds' : 5 ≤ 5 + (len + 1) := by omega
      obtain ⟨trp, w, hstate, hstream, hend⟩ := ih hd hds hrounds' (by omega) (by omega)
      exact ⟨trp, w, hstate, hstream, readnbLength_nada (by omega) hend⟩
  | @digito digitos ceros k plan hk ht ih =>
    by_cases hfour : len = 4
    · subst hfour
      exact hagotada (by omega) hd
    · obtain ⟨rounds, rfl⟩ : ∃ n, rounds = n + 1 := ⟨rounds - 1, by omega⟩
      have := ht.pos
      cases hd with
      | ultimo h =>
        simp only [List.length_singleton] at hds
        omega
      | @sigue d length ds h hs =>
        rw [List.cons_append, List.cons_append, decodenbRest_byte (by omega) hk, if_pos h]
        exact ih hs (by simpa using hds) (by omega) (by omega) (by omega)

/-- A packet of some body, and what the plan does while it is read: `nadas` calls that get nothing before its first
byte, `ceros` of them amid the remaining length. -/
structure Envio where
  header : UInt8
  cuerpo : List UInt8
  nadas : Nat
  primero : Nat
  longitud : List (Option Nat)
  ceros : Nat
  resto : List (Option Nat)
  tipo : (MQTTHeader.ofByte header).type ≠ 0
  corto : cuerpo.length < 128 ^ 4
  hay : 0 < primero
  trozos : Trozos (encode cuerpo.length).length ceros longitud
  cubre : Cubre cuerpo.length resto

namespace Envio

variable (e : Envio)

def bytes : List UInt8 := e.header :: (encode e.cuerpo.length ++ e.cuerpo)

def turnos : List (Option Nat) := List.replicate e.nadas (some 0) ++ some e.primero :: (e.longitud ++ e.resto)

/-- The length and the calls that get nothing amid it are four at most. -/
def Seguido : Prop := (encode e.cuerpo.length).length + e.ceros ≤ 4

instance : Decidable e.Seguido := inferInstanceAs (Decidable (_ ≤ _))

end Envio

theorem readnb_cero (h : trp.state = 0) {b : UInt8} {nadas k : Nat} (hk : 0 < k)
    {r : Int × MQTTTransport × Buffer × Fuente}
    (hr : Termina Fuente.getfn buflen (readnbLength Fuente.getfn buflen
      (decodenbRest Fuente.getfn 5 ⟨1, 0, 0, 1⟩ ⟨bs, plan⟩) (buf.escribe 0 [b])) r) :
    Termina Fuente.getfn buflen
      (readnb Fuente.getfn buflen trp buf ⟨b :: bs, List.replicate nadas (some 0) ++ some k :: plan⟩) r := by
  obtain ⟨multiplier, remLen, len, state⟩ := trp
  cases h
  induction nadas with
  | zero =>
    unfold readnb
    simp only [List.replicate_zero, List.nil_append, getfn_byte hk]
    exact hr
  | succ nadas ih =>
    unfold readnb
    simp only [List.replicate_succ, List.cons_append, getfn_nada]
    exact .otra ih

/-- A packet is read, and nothing after it, when its length is not interrupted too often; if it is, the call that
gives up leaves the rest of the length and the body, for the next one to take for a packet. -/
theorem readnb_envio (buf : Buffer) (cs : List UInt8) (resto : List (Option Nat)) (h : trp.state = 0) (e : Envio)
    (hbuf : e.bytes.length ≤ buflen) : (e.Seguido → ∃ multiplier, Termina Fuente.getfn buflen
      (readnb Fuente.getfn buflen trp buf ⟨e.bytes ++ cs, e.turnos ++ resto⟩)
      ((MQTTHeader.ofByte e.header).type.toNat, ⟨multiplier, 0, e.bytes.length, 0⟩, buf.escribe 0 e.bytes,
        ⟨cs, resto⟩)) ∧
    (¬ e.Seguido → ∃ trp' w, trp'.state = 0 ∧ (∃ ds, ds ≠ [] ∧ w.stream = ds ++ (e.cuerpo ++ cs)) ∧
      Termina Fuente.getfn buflen (readnb Fuente.getfn buflen trp buf ⟨e.bytes ++ cs, e.turnos ++ resto⟩)
        (-1, trp', buf.escribe 0 [e.header], w)) := by
  have hdig : Digitos e.cuerpo.length (encode e.cuerpo.length) := (digitos_digitos (m := 3) e.corto (by decide)).1
  have hlen : e.bytes.length = 1 + (encode e.cuerpo.length).length + e.cuerpo.length := by
    simp only [Envio.bytes, List.length_cons, List.length_append]
    omega
  have hbytes : e.bytes ++ cs = e.header :: (encode e.cuerpo.length ++ (e.cuerpo ++ cs)) := by
    rw [Envio.bytes, List.cons_append, List.append_assoc]
  have hturnos : e.turnos ++ resto =
      List.replicate e.nadas (some 0) ++ some e.primero :: (e.longitud ++ (e.resto ++ resto)) := by
    rw [Envio.turnos, List.append_assoc, List.cons_append, List.append_assoc]
  rw [hbytes, hturnos]
  constructor
  · intro hseguido
    have hle : 0 + (encode e.cuerpo.length).length + e.ceros ≤ 4 := by
      rw [Nat.zero_add]
      exact hseguido
    have hone : 0 + e.cuerpo.length * 1 = e.cuerpo.length := by omega
    have htype : (MQTTHeader.ofByte (buf.escribe 0 [e.header] 0)).type ≠ 0 := e.tipo
    rw [hlen] at hbuf
    obtain ⟨multiplier, hend⟩ :=
      readnbLength_termina cs resto e.trozos hdig rfl (Nat.le_refl 5) hle hone hbuf e.cubre htype
    have hall := Buffer.escribe_escribe buf 0 [e.header] (encode e.cuerpo.length ++ e.cuerpo)
    refine ⟨multiplier, readnb_cero h e.hay ?_⟩
    rw [hlen, show e.bytes = [e.header] ++ (encode e.cuerpo.length ++ e.cuerpo) from rfl, ← hall]
    exact hend
  · intro hno
    have hgt : 4 < 0 + (encode e.cuerpo.length).length + e.ceros := by
      rw [Nat.zero_add]
      exact Nat.not_le.mp hno
    obtain ⟨trp', w, hstate, hstream, hend⟩ := readnbLength_falla buflen (buf.escribe 0 [e.header]) (e.cuerpo ++ cs)
      (e.resto ++ resto) e.trozos hdig rfl (Nat.le_refl 5) (Nat.zero_le 4) hgt
    exact ⟨trp', w, hstate, hstream, readnb_cero h e.hay hend⟩

/-- The results of reading packets one after another, each with what it leaves in the buffer up to `len`. -/
inductive Lecturas {W : Type} (getfn : Nat → W → Option (List UInt8) × W) (buflen : Nat) :
    MQTTTransport → Buffer → W → List (Int × List UInt8) → W → Prop
  | nada {trp : MQTTTransport} {buf : Buffer} {w : W} : Lecturas getfn buflen trp buf w [] w
  | otra {trp trp' : MQTTTransport} {buf buf' : Buffer} {w w' w'' : W} {rc : Int} {rs : List (Int × List UInt8)}
      (h : Termina getfn buflen (readnb getfn buflen trp buf w) (rc, trp', buf', w'))
      (hs : Lecturas getfn buflen trp' buf' w' rs w'') :
      Lecturas getfn buflen trp buf w ((rc, buf'.lee 0 trp'.len) :: rs) w''

/-- The packet and its type. -/
def Envio.leido (e : Envio) : Int × List UInt8 := ((MQTTHeader.ofByte e.header).type.toNat, e.bytes)

/-- However the stream is cut, its packets are read one by one, whole and in order, up to the first one whose length is
interrupted too often. -/
theorem readnb_fiel {es : List Envio} {e : Envio} (h : trp.state = 0)
    (hes : ∀ e ∈ es, e.Seguido ∧ e.bytes.length ≤ buflen) (he : e.bytes.length ≤ buflen) :
    (e.Seguido → Lecturas Fuente.getfn buflen trp buf
      ⟨es.flatMap Envio.bytes ++ (e.bytes ++ cs), es.flatMap Envio.turnos ++ (e.turnos ++ resto)⟩
      (es.map Envio.leido ++ [e.leido]) ⟨cs, resto⟩) ∧
    (¬ e.Seguido → ∃ w leidos, (∃ ds, ds ≠ [] ∧ w.stream = ds ++ (e.cuerpo ++ cs)) ∧
      Lecturas Fuente.getfn buflen trp buf
      ⟨es.flatMap Envio.bytes ++ (e.bytes ++ cs), es.flatMap Envio.turnos ++ (e.turnos ++ resto)⟩
      (es.map Envio.leido ++ [(-1, leidos)]) w) := by
  induction es generalizing trp buf with
  | nil =>
    obtain ⟨hsi, hno⟩ := readnb_envio buf cs resto h e he
    constructor
    · intro hseguido
      obtain ⟨multiplier, hend⟩ := hsi hseguido
      have := Lecturas.otra hend .nada
      rwa [Buffer.lee_escribe] at this
    · intro hseguido
      obtain ⟨trp', w, -, hstream, hend⟩ := hno hseguido
      exact ⟨w, _, hstream, .otra hend .nada⟩
  | cons e' es ih =>
    rw [List.forall_mem_cons] at hes
    simp only [List.flatMap_cons, List.append_assoc, List.map_cons, List.cons_append]
    obtain ⟨multiplier, hend⟩ := (readnb_envio _ _ _ h e' hes.1.2).1 hes.1.1
    have hnext : (⟨multiplier, 0, e'.bytes.length, 0⟩ : MQTTTransport).state = 0 := rfl
    obtain ⟨hsi, hno⟩ := @ih (buf.escribe 0 e'.bytes) _ hnext hes.2
    have hlee : (buf.escribe 0 e'.bytes).lee 0 e'.bytes.length = e'.bytes := Buffer.lee_escribe
    constructor
    · intro hseguido
      have := Lecturas.otra hend (hsi hseguido)
      rwa [hlee] at this
    · intro hseguido
      obtain ⟨w, leidos, hstream, hrest⟩ := hno hseguido
      have := Lecturas.otra hend hrest
      rw [hlee] at this
      exact ⟨w, leidos, hstream, this⟩

/-- A packet in three pieces after a call that gets nothing. -/
def enTres : Envio where
  header := 0x30
  cuerpo := [1, 2, 3]
  nadas := 1
  primero := 5
  longitud := [some 1]
  ceros := 0
  resto := [some 1, some 0, some 2]
  tipo := by decide
  corto := by decide
  hay := by decide
  trozos := .fin (by decide)
  cubre := .sigue (by decide) (.sigue (by decide) (.fin (by decide) (by decide)))

/-- A packet that four calls try in vain to go on with. -/
def interrumpido : Envio where
  header := 0x40
  cuerpo := [0, 7]
  nadas := 0
  primero := 1
  longitud := [some 0, some 0, some 0, some 0, some 1]
  ceros := 4
  resto := [some 2]
  tipo := by decide
  corto := by decide
  hay := by decide
  trozos := .nada (.nada (.nada (.nada (.fin (by decide)))))
  cubre := .fin (by decide) (by decide)

theorem readnb_fiel_interrumpido : ∃ w leidos, (∃ ds, ds ≠ [] ∧ w.stream = ds ++ ([0, 7] ++ [])) ∧
    Lecturas Fuente.getfn 100 {} (fun _ => 0)
      ⟨[enTres].flatMap Envio.bytes ++ (interrumpido.bytes ++ []),
        [enTres].flatMap Envio.turnos ++ (interrumpido.turnos ++ [])⟩
          ([enTres].map Envio.leido ++ [(-1, leidos)]) w := by
  have hes : ∀ e ∈ [enTres], e.Seguido ∧ e.bytes.length ≤ 100 := by decide
  have he : interrumpido.bytes.length ≤ 100 := by decide
  have hno : ¬ interrumpido.Seguido := by decide
  exact (readnb_fiel rfl hes he).2 hno

/-! ### Packets without a body -/

theorem decodeFn_digitos {rounds multiplier value length k : Nat} {ds : List UInt8} (hd : Digitos length ds)
    (hr : ds.length ≤ rounds) (hk : 0 < k) :
    decodeFn Fuente.getfn rounds multiplier value ⟨ds ++ bs, List.replicate ds.length (some k) ++ plan⟩ =
      (value + length * multiplier, ⟨bs, plan⟩) := by
  induction hd generalizing rounds multiplier value with
  | @ultimo d h =>
    obtain ⟨rounds, rfl⟩ : ∃ n, rounds = n + 1 := ⟨rounds - 1, by simp at hr; omega⟩
    simp only [decodeFn, List.length_singleton, List.replicate_one, List.singleton_append, getfn_byte hk, h, ne_eq,
      not_true_eq_false, if_false]
  | @sigue d length ds h hs ih =>
    obtain ⟨rounds, rfl⟩ : ∃ n, rounds = n + 1 := ⟨rounds - 1, by simp at hr; omega⟩
    simp only [decodeFn, List.length_cons, List.replicate_succ, List.cons_append, getfn_byte hk, h, ne_eq,
      not_false_eq_true, if_true]
    rw [ih (by simpa using hr), suma_digito]

/-- `MQTTPacket_read` reads any packet, with a body or without one, from a function that waits for its bytes. -/
theorem read_paquete (cuerpo : List UInt8) {header : UInt8} {k : Nat} (hn : cuerpo.length < 128 ^ 4)
    (hbuf : 1 + (encode cuerpo.length).length + cuerpo.length ≤ buflen) (hk : 0 < k) (hle : cuerpo.length ≤ k) :
    read Fuente.getfn buflen buf ⟨header :: (encode cuerpo.length ++ (cuerpo ++ cs)),
      some k :: (List.replicate (encode cuerpo.length).length (some k) ++ some k :: resto)⟩ =
      (((MQTTHeader.ofByte header).type.toNat : Int), buf.escribe 0 (header :: (encode cuerpo.length ++ cuerpo)),
        ⟨cs, resto⟩) := by
  obtain ⟨hdig, hlen⟩ := digitos_digitos (m := 3) (k := 4) hn (by decide)
  have hdec : decodeFn Fuente.getfn 4 1 0 ⟨encode cuerpo.length ++ (cuerpo ++ cs),
      List.replicate (encode cuerpo.length).length (some k) ++ some k :: resto⟩ =
      (0 + cuerpo.length * 1, ⟨cuerpo ++ cs, some k :: resto⟩) := decodeFn_digitos hdig hlen hk
  have hget : Fuente.getfn cuerpo.length ⟨cuerpo ++ cs, some k :: resto⟩ = (some cuerpo, ⟨cs, resto⟩) := by
    have hmin : min k cuerpo.length = cuerpo.length := by omega
    simp only [Fuente.getfn, hmin, List.take_left, List.drop_left]
  have hall : ((buf.escribe 0 [header]).escribe 1 (encode cuerpo.length)).escribe (1 + (encode cuerpo.length).length)
      cuerpo = buf.escribe 0 (header :: (encode cuerpo.length ++ cuerpo)) := by
    rw [Buffer.escribe_escribe]
    exact Buffer.escribe_escribe buf 0 [header] _
  have hfirst : buf.escribe 0 (header :: (encode cuerpo.length ++ cuerpo)) 0 = header := rfl
  unfold read
  rw [getfn_byte hk]
  dsimp only
  rw [hdec, Nat.zero_add, Nat.mul_one]
  dsimp only
  rw [if_neg (by omega), hget]
  dsimp only
  rw [hall, if_neg (by simp), hfirst]

/-- Amid a packet whose remaining length is zero. -/
def EnVacio (trp : MQTTTransport) (w : Fuente) : Prop :=
  (∀ x ∈ w.plan, x ≠ none) ∧
    (trp.state = 0 ∧ (∃ header cs, w.stream = header :: 0 :: cs) ∨
      trp.state = 1 ∧ (trp.len ≠ 0 → trp.remLen = 0) ∧ (∃ cs, w.stream = 0 :: cs) ∨
      trp.state = 2 ∧ trp.remLen = 0)

/-- A call that gives up, or goes on amid the packet. -/
def Atasco (r : Int × MQTTTransport × Buffer × Fuente) : Prop := r.1 = -1 ∨ r.1 = 0 ∧ EnVacio r.2.1 r.2.2.2

theorem getfn_cases {n : Nat} {w : Fuente} (h : ∀ x ∈ w.plan, x ≠ none) :
    ∃ k w', (∀ x ∈ w'.plan, x ≠ none) ∧ w'.stream = w.stream.drop (min k n) ∧
      Fuente.getfn n w = (some (w.stream.take (min k n)), w') := by
  obtain ⟨stream, plan⟩ := w
  cases plan with
  | nil => exact ⟨0, ⟨stream, []⟩, h, by simp, by simp [Fuente.getfn]⟩
  | cons x plan =>
    rw [List.forall_mem_cons] at h
    cases x with
    | none => exact absurd rfl h.1
    | some k => exact ⟨k, _, h.2, rfl, rfl⟩

theorem readnbRest_vacio {multiplier len : Nat} {w : Fuente} (h : ∀ x ∈ w.plan, x ≠ none) :
    Atasco (readnbRest Fuente.getfn ⟨multiplier, 0, len, 2⟩ buf w) := by
  obtain ⟨k, w', hplan, -, hget⟩ := getfn_cases (n := 0) h
  rw [Nat.min_zero, List.take_zero] at hget
  simp only [readnbRest, hget]
  exact .inr ⟨rfl, hplan, .inr (.inr ⟨rfl, rfl⟩)⟩

theorem readnbLength_vacio {w : Fuente} (h : ∀ x ∈ w.plan, x ≠ none) (hstate : trp.state = 1)
    (hrem : trp.len ≠ 0 → trp.remLen = 0) (hstream : w.stream = 0 :: cs) :
    Atasco (readnbLength Fuente.getfn buflen (decodenb Fuente.getfn trp w) buf) := by
  obtain ⟨multiplier, len, heq⟩ : ∃ multiplier len,
      (if trp.len = 0 then { trp with multiplier := 1, remLen := 0 } else trp) = ⟨multiplier, 0, len, 1⟩ := by
    obtain ⟨multiplier, remLen, len, state⟩ := trp
    cases hstate
    by_cases hlen : len = 0
    · exact ⟨1, len, if_pos hlen⟩
    · rw [show remLen = 0 from hrem hlen]
      exact ⟨multiplier, len, if_neg hlen⟩
  obtain ⟨k, w', hplan, hdrop, hget⟩ := getfn_cases (n := 1) h
  unfold decodenb
  rw [heq, decodenbRest]
  dsimp only
  by_cases hfour : len + 1 > 4
  · rw [if_pos hfour]
    exact .inl rfl
  rw [if_neg hfour, hget, hstream]
  by_cases hk : k = 0
  · subst hk
    rw [hstream] at hdrop
    exact .inr ⟨rfl, hplan, .inr (.inl ⟨rfl, fun _ => rfl, cs, hdrop⟩)⟩
  · rw [show min k 1 = 1 by omega]
    dsimp only [List.take_succ_cons]
    rw [if_neg (by decide)]
    unfold readnbLength
    dsimp only
    rw [if_neg (by omega), if_neg (by omega)]
    split
    · exact .inl rfl
    · rw [show 0 + ((0 : UInt8) &&& 127).toNat * multiplier = 0 by simp]
      exact readnbRest_vacio hplan

theorem readnb_atasco {w : Fuente} (h : EnVacio trp w) : Atasco (readnb Fuente.getfn buflen trp buf w) := by
  obtain ⟨hplan, ⟨hstate, header, cs, hstream⟩ | ⟨hstate, hrem, cs, hstream⟩ | ⟨hstate, hrem⟩⟩ := h
  · obtain ⟨k, w', hplan', hdrop, hget⟩ := getfn_cases (n := 1) hplan
    rw [hstream] at hget hdrop
    unfold readnb
    simp only [hstate, hget]
    by_cases hk : k = 0
    · subst hk
      exact .inr ⟨rfl, hplan', .inl ⟨rfl, header, cs, hdrop⟩⟩
    · rw [show min k 1 = 1 by omega] at hdrop ⊢
      exact readnbLength_vacio hplan' rfl (fun h => absurd rfl h) hdrop
  · unfold readnb
    simp only [hstate]
    exact readnbLength_vacio hplan hstate hrem hstream
  · obtain ⟨multiplier, remLen, len, state⟩ := trp
    cases hstate
    cases hrem
    exact readnbRest_vacio hplan

theorem atasco_termina {r r' : Int × MQTTTransport × Buffer × Fuente} (h : Termina Fuente.getfn buflen r r')
    (hr : Atasco r) : r'.1 = -1 := by
  induction h with
  | fin hne =>
    rcases hr with hfin | ⟨hcero, -⟩
    · exact hfin
    · exact absurd hcero hne
  | otra _ ih =>
    rcases hr with hfin | ⟨-, hvacio⟩
    · cases hfin
    · exact ih (readnb_atasco hvacio)

/-- However many calls of `MQTTPacket_readnb` are made, a packet without a body is never given: the function that is
asked for none of its bytes gives none, which is taken for a packet still to come.  `MQTTPacket_read` gives it. -/
theorem paquete_vacio {header : UInt8} :
    (∀ trp buf plan r, trp.state = 0 → (∀ x ∈ plan, x ≠ none) →
      Termina Fuente.getfn buflen (readnb Fuente.getfn buflen trp buf ⟨header :: 0 :: cs, plan⟩) r → r.1 = -1) ∧
    (∀ buf k resto, 2 ≤ buflen → 0 < k →
      read Fuente.getfn buflen buf ⟨header :: 0 :: cs, some k :: some k :: some k :: resto⟩ =
        (((MQTTHeader.ofByte header).type.toNat : Int), buf.escribe 0 [header, 0], ⟨cs, resto⟩)) := by
  constructor
  · intro trp buf plan r h hplan hr
    exact atasco_termina hr (readnb_atasco ⟨hplan, .inl ⟨h, header, cs, rfl⟩⟩)
  · intro buf k resto hbuf hk
    exact read_paquete [] (by decide) hbuf hk (Nat.zero_le _)

end MQTTPacket

end Wiznet
