import Wiznet.Dns.Cliente

/-!
# The wait for an answer

When a DNS query ends.  The loop of `DNS_run` looks at the socket and at `dns_1s_tick`, which only
`DNS_time_handler` moves, and `wizchipDNSQuery` calls that once the loop is over: so the loop ends when a datagram comes
and not otherwise.  Then `DNS_run` returns when what is in the buffer is parsed within it.
-/

namespace Wiznet

namespace DNS

open Stateful

/-! ### What a query waits for -/

/-- A datagram comes at some look of the `j`-th `DNS_run`. -/
def Contesta (red : Servidor) (j : Nat) : Prop := ∃ i, 0 < red.llegada j i

/-- The `k`-th check of the clock finds it in the window. -/
def EnPlazo (red : Servidor) (waittimeSec : UInt32) (k : Nat) : Prop :=
  chTimeIsInRange (red.reloj (k + 1)) (red.reloj 0) (finDelPlazo (red.reloj 0) waittimeSec) = true

instance (red : Servidor) (waittimeSec : UInt32) (k : Nat) : Decidable (EnPlazo red waittimeSec k) :=
  inferInstanceAs (Decidable (_ = true))

/-- The memory of the message before the `j`-th `DNS_run`, when it was `m` before the query: each writes its query over
it, and then the datagram that comes. -/
def mensajeEn (red : Servidor) (host : List UInt8) (m : Buffer) : Nat → Buffer
  | 0 => m
  | j + 1 => ((mensajeEn red host m j).escribe 0 (mensajeConsulta 0 host (DNS_MSG_ID + (j + 1).toUInt16))).escribe 0
    (red.datagrama j)

/-- What the `j`-th `DNS_run` makes of its datagram, or `none` when that takes it outside an array. -/
def lectura (red : Servidor) (host : List UInt8) (m : Buffer) (j : Nat) : Option Int :=
  (parseDNSMSG (mensajeEn red host m (j + 1)) ⟨fun _ => 0, []⟩).map Prod.fst

/-- The `j`-th `DNS_run` returns: the host has room in `sname`, a datagram comes, and parsing it leaves no array. -/
structure Vuelve (red : Servidor) (host : List UInt8) (m : Buffer) (j : Nat) : Prop where
  cabe : host.length < MAXCNAME
  contesta : Contesta red j
  definida : lectura red host m j ≠ none

/-- The datagram of the `j`-th `DNS_run` has no error and can be parsed. -/
def Resuelve (red : Servidor) (host : List UInt8) (m : Buffer) (j : Nat) : Prop := lectura red host m j = some 1

instance (red : Servidor) (host : List UInt8) (m : Buffer) (j : Nat) : Decidable (Resuelve red host m j) :=
  inferInstanceAs (Decidable (_ = _))

/-- With rounds enough the query returns. -/
def Termina (red : Servidor) (waittimeSec : UInt32) (host : List UInt8) (d : DnsVars) (ip : Memoria) : Prop :=
  ∃ n, ∀ rondas ≥ n, ∃ r s, wizchipDNSQuery red rondas waittimeSec host { dns := d, ipFromDns := ip } = .ok r s

/-- Each `DNS_run` returns until the window is over or one resolves the name. -/
def Atendida (red : Servidor) (waittimeSec : UInt32) (host : List UInt8) (m : Buffer) : Prop :=
  ∃ k, (∀ j < k, Vuelve red host m j) ∧ (¬ EnPlazo red waittimeSec k ∨ Vuelve red host m k ∧ Resuelve red host m k)

/-! ### The wait -/

variable {red : Servidor} {waittimeSec : UInt32} {host : List UInt8} {s : Consulta} {m : Buffer}

/-- The message once the datagram has come. -/
def recibido (red : Servidor) (s : Consulta) : Buffer := s.dns.pDNSMSG.escribe 0 (red.datagrama s.runs)

/-- The state once it is parsed, with the address `ip`. -/
def recibe (red : Servidor) (ip : Memoria) (s : Consulta) : Consulta :=
  { s with dns := { s.dns with pDNSMSG := recibido red s }, ipFromDns := ip }

theorem analiza_ok {r : Int × Memoria} (h : parseDNSMSG s.dns.pDNSMSG s.ipFromDns = some r) :
    analiza s = .ok r.1 { s with ipFromDns := r.2 } := by
  rw [analiza, get_bind, h]
  rfl

/-- What has been parsed, whenever it returns. -/
theorem analiza_of_ok {r : Int} {s' : Consulta} (h : analiza s = .ok r s') :
    ∃ ip, parseDNSMSG s.dns.pDNSMSG s.ipFromDns = some (r, ip) ∧ s' = { s with ipFromDns := ip } := by
  cases hr : parseDNSMSG s.dns.pDNSMSG s.ipFromDns with
  | none =>
    rw [analiza, get_bind, hr] at h
    cases h
  | some x =>
    rw [analiza_ok hr] at h
    cases h
    exact ⟨x.2, rfl, rfl⟩

theorem espera_llega {i : Nat} (n : Nat) (h : 0 < red.llegada s.runs i) :
    espera red (n + 1) i s = analiza (recibe red s.ipFromDns s) := by
  rw [espera, get_bind, if_pos h]
  rfl

/-- The tick does not move during the wait. -/
theorem espera_nada {i : Nat} (n : Nat) (h : ¬ 0 < red.llegada s.runs i) (htick : s.dns.dns1sTick = 0) :
    espera red (n + 1) i s = espera red n (i + 1) s := by
  have hcheck : checkDNSTimeout s = .ok 1 s := by
    rw [checkDNSTimeout, get_bind, htick, if_neg (by decide)]
    rfl
  rw [espera, get_bind, if_neg h, bind_ok hcheck, if_neg (by decide), if_neg (by decide)]

theorem espera_ok {i : Nat} {r : Int × Memoria} (k : Nat) (h : 0 < red.llegada s.runs (i + k))
    (htick : s.dns.dns1sTick = 0) (hr : parseDNSMSG (recibido red s) s.ipFromDns = some r) {n : Nat} (hn : k < n) :
    espera red n i s = .ok r.1 (recibe red r.2 s) := by
  induction k generalizing i n with
  | zero =>
    obtain ⟨n, rfl⟩ := Nat.exists_eq_add_of_lt hn
    exact (espera_llega _ h).trans (analiza_ok hr)
  | succ k ih =>
    obtain ⟨n, rfl⟩ : ∃ l, n = l + 1 := ⟨n - 1, by omega⟩
    by_cases hi : 0 < red.llegada s.runs i
    · exact (espera_llega n hi).trans (analiza_ok hr)
    · rw [espera_nada n hi htick]
      refine ih ?_ (by omega)
      rwa [Nat.add_right_comm, Nat.add_assoc]

/-- A wait that is over has had its datagram, and has parsed it. -/
theorem espera_of_ok {n i : Nat} {r : Int} {s' : Consulta} (h : espera red n i s = .ok r s')
    (htick : s.dns.dns1sTick = 0) : Contesta red s.runs ∧
      ∃ ip, parseDNSMSG (recibido red s) s.ipFromDns = some (r, ip) ∧ s' = recibe red ip s := by
  induction n generalizing i with
  | zero => cases h
  | succ n ih =>
    by_cases hi : 0 < red.llegada s.runs i
    · rw [espera_llega n hi] at h
      exact ⟨⟨i, hi⟩, analiza_of_ok h⟩
    · rw [espera_nada n hi htick] at h
      exact ih h

/-! ### One `DNS_run` -/

/-- The state when the wait begins. -/
def preguntada (host : List UInt8) (s : Consulta) : Consulta :=
  let consulta := mensajeConsulta 0 host (s.dns.dnsMsgid + 1)
  let msg := s.dns.pDNSMSG.escribe 0 consulta
  { s with
    dns := { s.dns with retryCount := 0, dns1sTick := 0, dnsMsgid := s.dns.dnsMsgid + 1, pDNSMSG := msg }
    enviados := msg.lee 0 consulta.length.toUInt16.toNat :: s.enviados }

/-- The state once `DNS_run` returns, with the address `ip`. -/
def respondida (red : Servidor) (host : List UInt8) (ip : Memoria) (s : Consulta) : Consulta :=
  { recibe red ip (preguntada host s) with runs := s.runs + 1 }

theorem run_eq (red : Servidor) (rondas : Nat) (host : List UInt8) (s : Consulta) : run red rondas host s =
    (pregunta host >>= fun _ => espera red rondas 0 >>= fun ret =>
      modify (fun s => { s with runs := s.runs + 1 }) >>= fun _ => pure ret)
      { s with dns := { s.dns with retryCount := 0, dns1sTick := 0, dnsMsgid := s.dns.dnsMsgid + 1 } } := rfl

theorem pregunta_ok (h : host.length < MAXCNAME) :
    pregunta host { s with dns := { s.dns with retryCount := 0, dns1sTick := 0, dnsMsgid := s.dns.dnsMsgid + 1 } } =
      .ok () (preguntada host s) := by
  rw [pregunta, get_bind, dnsMakequery, if_pos h]
  rfl

theorem pregunta_of_ok {s' : Consulta} (h : pregunta host s = .ok () s') : host.length < MAXCNAME := by
  apply Decidable.byContradiction
  intro hno
  rw [pregunta, get_bind, dnsMakequery, if_neg hno] at h
  cases h

theorem run_ok {r : Int × Memoria} (hhost : host.length < MAXCNAME) (h : Contesta red s.runs)
    (hr : parseDNSMSG (recibido red (preguntada host s)) s.ipFromDns = some r) :
    ∃ n, ∀ rondas ≥ n, run red rondas host s = .ok r.1 (respondida red host r.2 s) := by
  obtain ⟨i, hi⟩ := h
  refine ⟨i + 1, fun rondas hle => ?_⟩
  have hi' : 0 < red.llegada (preguntada host s).runs (0 + i) := by rwa [Nat.zero_add]
  rw [run_eq, bind_ok (pregunta_ok hhost), bind_ok (espera_ok i hi' rfl hr hle)]
  rfl

theorem run_of_ok {rondas : Nat} {r : Int} {s' : Consulta} (h : run red rondas host s = .ok r s') :
    host.length < MAXCNAME ∧ Contesta red s.runs ∧
      ∃ ip, parseDNSMSG (recibido red (preguntada host s)) s.ipFromDns = some (r, ip) ∧
        s' = respondida red host ip s := by
  rw [run_eq] at h
  obtain ⟨_, s₁, hpregunta, hresto⟩ := ok_of_bind h
  have hhost := pregunta_of_ok hpregunta
  rw [pregunta_ok hhost] at hpregunta
  cases hpregunta
  obtain ⟨ret, s₂, hespera, hfin⟩ := ok_of_bind hresto
  obtain ⟨hc, ip, hr, rfl⟩ := espera_of_ok hespera rfl
  cases hfin
  exact ⟨hhost, hc, ip, hr, rfl⟩

/-! ### What a datagram says -/

theorem map_fst_bind_congr {α β γ : Type} {x : Option α} {f g : α → Option (β × γ)}
    (h : ∀ a, (f a).map Prod.fst = (g a).map Prod.fst) : (x >>= f).map Prod.fst = (x >>= g).map Prod.fst := by
  cases x with
  | none => rfl
  | some a => exact h a

/-- What is parsed does not depend on the address there was. -/
theorem dnsAnswer_fst (msg : Buffer) (cp : Nat) (ip ip' : Memoria) :
    (dnsAnswer msg cp ip).map Prod.fst = (dnsAnswer msg cp ip').map Prod.fst := by
  unfold dnsAnswer
  refine map_fst_bind_congr fun x => ?_
  cases x with
  | none => rfl
  | some len =>
    refine map_fst_bind_congr fun _ => ?_
    simp only [apply_ite (Option.map Prod.fst)]
    repeat' refine if_congr Iff.rfl ?_ ?_
    · exact map_fst_bind_congr fun _ => rfl
    · exact map_fst_bind_congr fun _ => rfl
    · exact map_fst_bind_congr fun _ => map_fst_bind_congr fun _ => rfl
    · exact map_fst_bind_congr fun _ => rfl
    · refine map_fst_bind_congr fun x => ?_
      cases x with
      | none => rfl
      | some len => exact map_fst_bind_congr fun _ => rfl
    · rfl

theorem respuestas_fst (msg : Buffer) (n cp : Nat) (ip ip' : Memoria) :
    (respuestas msg n cp ip).map Prod.fst = (respuestas msg n cp ip').map Prod.fst := by
  induction n generalizing cp ip ip' with
  | zero => rfl
  | succ n ih =>
    have h := dnsAnswer_fst msg cp ip ip'
    rw [respuestas, respuestas]
    generalize dnsAnswer msg cp ip = x at h ⊢
    generalize dnsAnswer msg cp ip' = y at h ⊢
    rcases x with _ | ⟨r, a⟩ <;> rcases y with _ | ⟨r', a'⟩ <;> cases h
    · rfl
    · cases r with
      | none => rfl
      | some cp => exact ih cp a a'

theorem parseDNSMSG_fst (msg : Buffer) (ip ip' : Memoria) :
    (parseDNSMSG msg ip).map Prod.fst = (parseDNSMSG msg ip').map Prod.fst := by
  simp only [parseDNSMSG]
  rcases preguntas msg (get16 msg 4).toNat 12 with _ | _ | cp
  · rfl
  · rfl
  · have h := respuestas_fst msg (get16 msg 6).toNat cp ip ip'
    simp only [Option.bind_eq_bind, Option.bind_some]
    generalize respuestas msg (get16 msg 6).toNat cp ip = x at h ⊢
    generalize respuestas msg (get16 msg 6).toNat cp ip' = y at h ⊢
    rcases x with _ | ⟨r, a⟩ <;> rcases y with _ | ⟨r', a'⟩ <;> cases h
    · rfl
    · cases r <;> rfl

/-! ### The query -/

/-- The `while` of the query, `k` rounds after it began. -/
structure Va (host : List UInt8) (red : Servidor) (m : Buffer) (k : Nat) (s : Consulta) : Prop where
  lecturas : s.lecturas = k + 1
  runs : s.runs = k
  msgid : s.dns.dnsMsgid = DNS_MSG_ID + k.toUInt16
  mensaje : s.dns.pDNSMSG = mensajeEn red host m k

variable {k : Nat}

/-- The state after a reading of the clock. -/
def leido (s : Consulta) : Consulta := { s with lecturas := s.lecturas + 1 }

theorem Va.msgid_succ (h : Va host red m k s) : s.dns.dnsMsgid + 1 = DNS_MSG_ID + (k + 1).toUInt16 := by
  rw [h.msgid, UInt16.add_assoc]
  congr 1
  exact (UInt16.ofNat_add k 1).symm

/-- The message that is parsed in the round under way. -/
theorem Va.recibido (h : Va host red m k s) :
    recibido red (preguntada host (leido s)) = mensajeEn red host m (k + 1) := by
  show ((s.dns.pDNSMSG.escribe 0 (mensajeConsulta 0 host (s.dns.dnsMsgid + 1))).escribe 0 (red.datagrama s.runs)) = _
  rw [h.mensaje, h.msgid_succ, h.runs, mensajeEn]

theorem lectura_of_some {ip : Memoria} {r : Int × Memoria}
    (h : parseDNSMSG (mensajeEn red host m (k + 1)) ip = some r) : lectura red host m k = some r.1 := by
  rw [lectura, parseDNSMSG_fst _ _ ip, h, Option.map_some]

/-- The state after a round that does not resolve the name and leaves the address `ip`. -/
def pasada (red : Servidor) (host : List UInt8) (ip : Memoria) (s : Consulta) : Consulta :=
  let s := respondida red host ip (leido s)
  { s with dns := { s.dns with dns1sTick := s.dns.dns1sTick + 1 } }

theorem Va.pasada (h : Va host red m k s) (ip : Memoria) : Va host red m (k + 1) (DNS.pasada red host ip s) where
  lecturas := congrArg (· + 1) h.lecturas
  runs := congrArg (· + 1) h.runs
  msgid := h.msgid_succ
  mensaje := h.recibido

/-- The `while` of a query that began at the first reading of the clock. -/
def bucle (red : Servidor) (rondas : Nat) (waittimeSec : UInt32) (host : List UInt8) : Nat → ConsultaM DnsQueryResult :=
  consultaResto red rondas (red.reloj 0) (finDelPlazo (red.reloj 0) waittimeSec) host

variable {rondas : Nat}

theorem bucle_succ (h : Va host red m k s) (n : Nat) : bucle red rondas waittimeSec host (n + 1) s =
    if EnPlazo red waittimeSec k then
      (run red rondas host >>= fun dnsStatus =>
        if dnsStatus = 1 then pure .success
        else timeHandler >>= fun _ => bucle red rondas waittimeSec host n) (leido s)
    else .ok .timeout (leido s) := by
  have hreloj : chVTGetSystemTime red s = .ok (red.reloj (k + 1)) (leido s) := by
    rw [← h.lecturas]
    rfl
  rw [bucle, consultaResto, bind_ok hreloj]
  split
  case isTrue hp => exact (if_pos hp).symm
  case isFalse hp => exact (if_neg hp).symm

/-- A round that returns. -/
theorem bucle_parse {r : Int × Memoria} (h : Va host red m k s) (hp : EnPlazo red waittimeSec k)
    (hhost : host.length < MAXCNAME) (hc : Contesta red k)
    (hr : parseDNSMSG (mensajeEn red host m (k + 1)) s.ipFromDns = some r) :
    ∃ l, ∀ rondas ≥ l, ∀ n, bucle red rondas waittimeSec host (n + 1) s =
      if r.1 = 1 then .ok .success (respondida red host r.2 (leido s))
      else bucle red rondas waittimeSec host n (pasada red host r.2 s) := by
  have hc' : Contesta red (leido s).runs := by rwa [show (leido s).runs = k from h.runs]
  rw [← h.recibido] at hr
  obtain ⟨l, hrun⟩ := run_ok hhost hc' hr
  refine ⟨l, fun rondas hl n => ?_⟩
  rw [bucle_succ h, if_pos hp, bind_ok (hrun rondas hl)]
  by_cases hres : r.1 = 1
  · rw [if_pos hres, if_pos hres]
    rfl
  · rw [if_neg hres, if_neg hres]
    rfl

theorem bucle_vuelve (h : Va host red m k s) (hp : EnPlazo red waittimeSec k) (hv : Vuelve red host m k) :
    ∃ ip l, ∀ rondas ≥ l, ∀ n, bucle red rondas waittimeSec host (n + 1) s =
      if Resuelve red host m k then .ok .success (respondida red host ip (leido s))
      else bucle red rondas waittimeSec host n (pasada red host ip s) := by
  cases hr : parseDNSMSG (mensajeEn red host m (k + 1)) s.ipFromDns with
  | none =>
    refine absurd ?_ hv.definida
    rw [lectura, parseDNSMSG_fst _ _ s.ipFromDns, hr, Option.map_none]
  | some r =>
    obtain ⟨l, hl⟩ := bucle_parse h hp hv.cabe hv.contesta hr
    refine ⟨r.2, l, fun rondas hle n => (hl rondas hle n).trans (if_congr ?_ rfl rfl)⟩
    rw [Resuelve, lectura_of_some hr, Option.some_inj]

/-- When each round returns as it should, the rounds that are left are enough. -/
theorem bucle_returns {j : Nat} (i : Nat) (hk : j + i = k) (h : Va host red m j s) (hv : ∀ i < k, Vuelve red host m i)
    (hfin : ¬ EnPlazo red waittimeSec k ∨ Vuelve red host m k ∧ Resuelve red host m k) :
    ∃ l, ∀ rondas ≥ l, ∀ n > i, ∃ r s', bucle red rondas waittimeSec host n s = .ok r s' := by
  induction i generalizing j s with
  | zero =>
    subst hk
    by_cases hp : EnPlazo red waittimeSec j
    · obtain ⟨hvj, hr⟩ := hfin.resolve_left (not_not_intro hp)
      obtain ⟨ip, l, hl⟩ := bucle_vuelve h hp hvj
      refine ⟨l, fun rondas hle n hn => ?_⟩
      obtain ⟨n, rfl⟩ := Nat.exists_eq_add_of_lt hn
      exact ⟨_, _, (hl rondas hle _).trans (if_pos hr)⟩
    · refine ⟨0, fun rondas _ n hn => ?_⟩
      obtain ⟨n, rfl⟩ := Nat.exists_eq_add_of_lt hn
      exact ⟨_, _, (bucle_succ h _).trans (if_neg hp)⟩
  | succ i ih =>
    by_cases hp : EnPlazo red waittimeSec j
    · obtain ⟨ip, l, hl⟩ := bucle_vuelve h hp (hv j (by omega))
      obtain ⟨l', hl'⟩ := ih (by omega) (h.pasada ip)
      refine ⟨max l l', fun rondas hle n hn => ?_⟩
      obtain ⟨n, rfl⟩ : ∃ n', n = n' + 1 := ⟨n - 1, by omega⟩
      rw [hl rondas (by omega)]
      by_cases hr : Resuelve red host m j
      · exact ⟨_, _, if_pos hr⟩
      · rw [if_neg hr]
        exact hl' rondas (by omega) n (by omega)
    · refine ⟨0, fun rondas _ n hn => ?_⟩
      obtain ⟨n, rfl⟩ : ∃ n', n = n' + 1 := ⟨n - 1, by omega⟩
      exact ⟨_, _, (bucle_succ h _).trans (if_neg hp)⟩

/-- In a loop that returns each round has. -/
theorem bucle_atendida {j n : Nat} {r : DnsQueryResult} {s' : Consulta} (h : Va host red m j s)
    (hrun : bucle red rondas waittimeSec host n s = .ok r s') (hv : ∀ i < j, Vuelve red host m i) :
    Atendida red waittimeSec host m := by
  induction n generalizing j s with
  | zero => cases hrun
  | succ n ih =>
    rw [bucle_succ h] at hrun
    split at hrun
    case isFalse hp => exact ⟨j, hv, .inl hp⟩
    case isTrue hp =>
      obtain ⟨dnsStatus, s₁, hs₁, hresto⟩ := ok_of_bind hrun
      obtain ⟨hhost, hc, ip, hparse, rfl⟩ := run_of_ok hs₁
      rw [show (leido s).runs = j from h.runs] at hc
      rw [h.recibido] at hparse
      have hlectura : lectura red host m j = some dnsStatus := lectura_of_some hparse
      have hvj : Vuelve red host m j := ⟨hhost, hc, by simp [hlectura]⟩
      by_cases hr : dnsStatus = 1
      · exact ⟨j, hv, .inr ⟨hvj, by rw [Resuelve, hlectura, hr]⟩⟩
      · rw [if_neg hr] at hresto
        refine ih (h.pasada ip) hresto fun i hi => ?_
        rcases Nat.lt_succ_iff_lt_or_eq.mp hi with hi | rfl
        · exact hv i hi
        · exact hvj

/-- The state when the `while` of the query begins. -/
def alEmpezar (d : DnsVars) (ip : Memoria) : Consulta where
  dns := { d with dnsSocket := WIZCHIP_DNS_SOCKET, dnsMsgid := DNS_MSG_ID }
  ipFromDns := ip
  lecturas := 1

theorem consultaDns_eq (d : DnsVars) (ip : Memoria) : consultaDns red rondas waittimeSec host
    { dns := d, ipFromDns := ip } = bucle red rondas waittimeSec host rondas (alEmpezar d ip) := rfl

theorem va_alEmpezar (d : DnsVars) (ip : Memoria) : Va host red d.pDNSMSG 0 (alEmpezar d ip) where
  lecturas := rfl
  runs := rfl
  msgid := rfl
  mensaje := rfl

/-- A query for a name ends just when each `DNS_run` returns until it does. -/
theorem consultaDns_iff (d : DnsVars) (ip : Memoria) : (∃ n, ∀ rondas ≥ n, ∃ r s,
    consultaDns red rondas waittimeSec host { dns := d, ipFromDns := ip } = .ok r s) ↔
      Atendida red waittimeSec host d.pDNSMSG := by
  simp only [consultaDns_eq]
  constructor
  · rintro ⟨n, h⟩
    obtain ⟨r, s, hrun⟩ := h n (Nat.le_refl n)
    exact bucle_atendida (va_alEmpezar d ip) hrun fun i hi => absurd hi (Nat.not_lt_zero i)
  · rintro ⟨k, hv, hfin⟩
    obtain ⟨l, hl⟩ := bucle_returns k (Nat.zero_add k) (va_alEmpezar d ip) hv hfin
    exact ⟨max l (k + 1), fun rondas hle => hl rondas (by omega) rondas (by omega)⟩

/-- A query ends just when the host is numeric or each `DNS_run` returns until it does. -/
theorem wizchipDNSQuery_termina_iff (red : Servidor) (waittimeSec : UInt32) (host : List UInt8) (d : DnsVars)
    (ip : Memoria) (hw : 0 < waittimeSec) : Termina red waittimeSec host d ip ↔
      (wizchipIsDomainName host ip).1 = 0 ∨ Atendida red waittimeSec host d.pDNSMSG := by
  have hne : waittimeSec ≠ 0 := fun h => absurd hw (by rw [h]; decide)
  unfold Termina
  simp only [wizchipDNSQuery_eq red _ host _ hne]
  by_cases h : (wizchipIsDomainName host ip).1 = 0
  · simp [h]
  · simp only [h, if_false, false_or]
    exact consultaDns_iff d _

/-- A server that answers the first query with an error and the second well, each after some looks. -/
def tardo : Servidor where
  reloj i := (10001 * i).toUInt32
  llegada j i := if i = j + 2 then 12 else 0
  datagrama j := [0, 0, 0x80, if j = 0 then 3 else 0, 0, 0, 0, 0, 0, 0, 0, 0]
  cabe _ := by simp [MAX_DNS_BUF_SIZE]

/-- A server that never answers. -/
def mudo : Servidor where
  reloj i := (10001 * i).toUInt32
  llegada _ _ := 0
  datagrama _ := []
  cabe _ := Nat.zero_le _

theorem not_contesta_mudo (j : Nat) : ¬ Contesta mudo j := fun ⟨_, h⟩ => absurd h (Nat.lt_irrefl 0)

theorem wizchipDNSQuery_termina_tardo : Termina tardo 5 (literal ['w', 'i', 'z', '.', 'n', 'e', 't'])
    ⟨0, fun _ => 0, 0, 0, 0⟩ ⟨fun _ => 0, []⟩ := by
  refine (wizchipDNSQuery_termina_iff tardo 5 _ _ _ (by decide)).mpr (.inr ⟨1, ?_, .inr ⟨?_, ?_⟩⟩)
  · intro j hj
    obtain rfl : j = 0 := by omega
    exact ⟨by decide, ⟨2, by decide⟩, by decide +kernel⟩
  · exact ⟨by decide, ⟨3, by decide⟩, by decide +kernel⟩
  · decide +kernel

theorem wizchipDNSQuery_mudo : ¬ ∀ (red : Servidor) (waittimeSec : UInt32) (host : List UInt8) (d : DnsVars)
    (ip : Memoria), 0 < waittimeSec → Termina red waittimeSec host d ip := by
  intro h
  obtain ⟨n, hn⟩ := h mudo 5 (literal ['w', 'i', 'z']) ⟨0, fun _ => 0, 0, 0, 0⟩ ⟨fun _ => 0, []⟩ (by decide)
  have hnombre : (wizchipIsDomainName (literal ['w', 'i', 'z']) ⟨fun _ => 0, []⟩).1 ≠ 0 := by decide
  simp only [wizchipDNSQuery_eq mudo _ _ _ (show (5 : UInt32) ≠ 0 by decide), hnombre, if_false] at hn
  obtain ⟨k, hv, hfin⟩ := (consultaDns_iff _ _).mp ⟨n, hn⟩
  have hk : k = 0 := by
    apply Classical.byContradiction
    intro hk
    exact not_contesta_mudo 0 (hv 0 (by omega)).contesta
  subst hk
  rcases hfin with hfuera | ⟨hvuelve, -⟩
  · exact hfuera (by decide)
  · exact not_contesta_mudo 0 hvuelve.contesta

end DNS

end Wiznet
