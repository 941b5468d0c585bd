import Wiznet.Mqtt.Packet
import Wiznet.Tty.Canal

/-!
# The DNS client

The functions of `dns.c` and the query of `wiznet_chibios.c` over them.  The network and the clock do as a plan tells
(`Servidor`), which may be any.  A pointer into the message is its index in the memory from `pDNSMSG` on, which is
`eth_frame_buffer` of the driver: a byte past its 2048 is not there to be read, and a pointer that is only moved reads
nothing.  The names that `parse_name` copies out are left out, as nobody reads them, but not the room for them in
`name[MAXCNAME]`, past which a text that fills it puts its zero; nor that for the host in `sname[MAXCNAME]`.  What
leaves one of the three arrays has no result.

`enviados` is not in the source and nothing reads it: what has been given to `sendto`.
-/

namespace Wiznet

def DNS.MAX_DNS_BUF_SIZE : Nat := 256

def ETH_FRAME_BUFFER_SIZE : Nat := 2048

/-- What happens during a query: the readings of the clock, what `getSn_RX_RSR` gives at each look of each `DNS_run`,
and what the `recvfrom` of each puts in the buffer, which is no more than it is asked for. -/
structure Servidor where
  reloj : Nat → UInt32
  llegada : Nat → Nat → UInt16
  datagrama : Nat → List UInt8
  cabe (j : Nat) : (datagrama j).length ≤ DNS.MAX_DNS_BUF_SIZE

/-- The global variables of `dns.c`, with the memory that `pDNSMSG` points to. -/
structure DnsVars where
  dnsSocket : UInt8
  pDNSMSG : Buffer
  dnsMsgid : UInt16
  dns1sTick : UInt32
  retryCount : UInt8

/-- A query under way: the variables, the address it writes to, and how many readings of the clock and calls of
`DNS_run` there have been. -/
structure Consulta where
  dns : DnsVars
  ipFromDns : Memoria
  lecturas : Nat := 0
  runs : Nat := 0
  enviados : List (List UInt8) := []

/-- Why a query does not return: a loop that does not end, a check of its arguments, or an access outside an array. -/
inductive ParadaDns where
  | loop
  | osalDbgCheck
  | indefinido
  deriving DecidableEq

abbrev ConsultaM := EStateM ParadaDns Consulta

inductive DnsQueryResult where
  | success
  | error
  | timeout
  deriving DecidableEq

namespace DNS

open Stateful

def WIZCHIP_DNS_SOCKET : UInt8 := 5
def MAX_DOMAIN_NAME : Nat := 128
def MAXCNAME : Nat := MAX_DOMAIN_NAME + MAX_DOMAIN_NAME / 2
def MAX_DNS_RETRY : UInt8 := 2
def DNS_WAIT_TIME : UInt32 := 3
def DNS_MSG_ID : UInt16 := 0x1122

def TYPE_A : UInt16 := 1
def TYPE_NS : UInt16 := 2
def TYPE_CNAME : UInt16 := 5
def TYPE_SOA : UInt16 := 6
def TYPE_MB : UInt16 := 7
def TYPE_MG : UInt16 := 8
def TYPE_MR : UInt16 := 9
def TYPE_PTR : UInt16 := 12
def TYPE_HINFO : UInt16 := 13
def TYPE_MX : UInt16 := 15

def PUNTO : UInt8 := 0x2E

/-! ### Numeric hosts -/

/-- The `for` loop, with what `ip` points to. -/
def recorreHost : List UInt8 → Nat → Nat → Memoria → Int × Memoria
  | [], _, _, b => (0, b)
  | c :: host, ip, dotCount, b =>
    if dotCount < 4 then
      if 0x30 ≤ c ∧ c ≤ 0x39 then
        let b := b.pon ip (b.mem ip * 10)
        recorreHost host ip dotCount (b.pon ip (b.mem ip + (c - 0x30)))
      else if c = PUNTO then recorreHost host (ip + 1) (dotCount + 1) (b.pon (ip + 1) 0)
      else (1, (((b.pon 0 0).pon 1 0).pon 2 0).pon 3 0)
    else (0, b)

def wizchipIsDomainName (host : List UInt8) (b : Memoria) : Int × Memoria := recorreHost host 0 0 (b.pon 0 0)

/-! ### Messages -/

def get16 (m : Buffer) (s : Nat) : UInt16 := (m s).toUInt16 <<< 8 + (m (s + 1)).toUInt16

def put16 (i : UInt16) : List UInt8 := [(i >>> 8).toUInt8, i.toUInt8]

/-- The bytes of the frame buffer before `fin` are there. -/
def acceso (fin : Nat) : Option Unit := if fin ≤ ETH_FRAME_BUFFER_SIZE then some () else none

theorem acceso_ok {fin : Nat} (h : fin ≤ ETH_FRAME_BUFFER_SIZE) : acceso fin = some () := if_pos h

/-- The start of a round of the loop of `parse_name`: `slen`, `cp`, `indirect` and `clen` once a pointer is followed. -/
def segmento (msg : Buffer) (cp : Nat) (indirect : Bool) (clen : Nat) : Nat × Nat × Bool × Nat :=
  let slen := msg cp
  let clen := if indirect then clen else clen + 1
  if slen &&& 0xc0 = 0xc0 then
    let clen := if indirect then clen else clen + 1
    let cp := (slen &&& 0x3f).toNat * 256 + (msg (cp + 1)).toNat
    ((msg cp).toNat, cp + 1, true, clen)
  else (slen.toNat, cp + 1, indirect, clen)

/-- The bytes that it reads for it. -/
def accesosSegmento (msg : Buffer) (cp : Nat) : Option Unit := do
  acceso (cp + 1)
  if msg cp &&& 0xc0 = 0xc0 then
    acceso (cp + 2)
    acceso ((msg cp &&& 0x3f).toNat * 256 + (msg (cp + 1)).toNat + 1)

/-- The loop of `parse_name`, with `len` characters left for the name; `some none` is `-1`, and `none` no result. -/
def parseNameResto (msg : Buffer) (cp : Nat) (indirect : Bool) (clen len : Nat) : Option (Option Nat) := do
  accesosSegmento msg cp
  match segmento msg cp indirect clen with
  | (slen, cp, indirect, clen) =>
    if slen = 0 then
      -- a text that fills the array leaves no room for the zero after it
      if len = 0 then none else return some clen
    else if len < slen + 1 then return none
    else
      acceso (cp + slen)
      parseNameResto msg (cp + slen) indirect (if indirect then clen else clen + slen) (len - (slen + 1))
  termination_by len

/-- `len` is `MAXCNAME` in every call. -/
def parseName (msg : Buffer) (compressed : Nat) (len : Nat) : Option (Option Nat) :=
  parseNameResto msg compressed false 0 len

/-- `some none` is the null pointer, here and below. -/
def dnsQuestion (msg : Buffer) (cp : Nat) : Option (Option Nat) := do
  return (← parseName msg cp MAXCNAME).map fun len => cp + len + 4

def dnsAnswer (msg : Buffer) (cp : Nat) (ip : Memoria) : Option (Option Nat × Memoria) := do
  match ← parseName msg cp MAXCNAME with
  | none => return (none, ip)
  | some len =>
    acceso (cp + len + 2)
    let type := get16 msg (cp + len)
    let cp := cp + len + 10
    if type = TYPE_A then
      acceso (cp + 4)
      return (some (cp + 4), (((ip.pon 0 (msg cp)).pon 1 (msg (cp + 1))).pon 2 (msg (cp + 2))).pon 3 (msg (cp + 3)))
    else if type ∈ [TYPE_CNAME, TYPE_MB, TYPE_MG, TYPE_MR, TYPE_NS, TYPE_PTR] then
      return ((← parseName msg cp MAXCNAME).map fun len => cp + len, ip)
    else if type = TYPE_HINFO then
      acceso (cp + 1)
      let cp := cp + 1 + (msg cp).toNat
      acceso (cp + 1)
      return (some (cp + 1 + (msg cp).toNat), ip)
    else if type = TYPE_MX then return ((← parseName msg (cp + 2) MAXCNAME).map fun len => cp + 2 + len, ip)
    else if type = TYPE_SOA then
      match ← parseName msg cp MAXCNAME with
      | none => return (none, ip)
      | some len => return ((← parseName msg (cp + len) MAXCNAME).map fun len' => cp + len + len' + 20, ip)
    else return (some cp, ip)

/-- The question section. -/
def preguntas (msg : Buffer) : Nat → Nat → Option (Option Nat)
  | 0, cp => return some cp
  | n + 1, cp => do
    match ← dnsQuestion msg cp with
    | none => return none
    | some cp => preguntas msg n cp

/-- The answer section. -/
def respuestas (msg : Buffer) : Nat → Nat → Memoria → Option (Option Nat × Memoria)
  | 0, cp, ip => return (some cp, ip)
  | n + 1, cp, ip => do
    match ← dnsAnswer msg cp ip with
    | (none, ip) => return (none, ip)
    | (some cp, ip) => respuestas msg n cp ip

/-- What it returns, and the address; `none` when it reads past the frame buffer or writes past a `name`.  The loops
over the other sections do nothing. -/
def parseDNSMSG (msg : Buffer) (ip : Memoria) : Option (Int × Memoria) := do
  let rcode := get16 msg 2 &&& 0xf
  let qdcount := get16 msg 4
  let ancount := get16 msg 6
  match ← preguntas msg qdcount.toNat 12 with
  | none => return (-1, ip)
  | some cp => match ← respuestas msg ancount.toNat cp ip with
    | (none, ip) => return (-1, ip)
    | (some _, ip) => return (if rcode = 0 then 1 else 0, ip)

/-- The components of a name, each with its length before it. -/
def componentes (dname : List UInt8) : List UInt8 :=
  let hasta := (dname.takeWhile (· ≠ PUNTO)).length
  if hasta < dname.length then
    let len := hasta.toUInt16
    if len = 0 then [0]
    else len.toUInt8 :: dname.take len.toNat ++ componentes (dname.drop (len.toNat + 1))
  else
    let len := dname.length.toUInt16
    if len = 0 then [0] else len.toUInt8 :: dname.take len.toNat ++ [0]
  termination_by dname.length

/-- The message, once `DNS_MSGID` is incremented. -/
def mensajeConsulta (op : UInt16) (name : List UInt8) (msgid : UInt16) : List UInt8 :=
  put16 msgid ++ put16 (op <<< 11 ||| 0x0100) ++ put16 1 ++ put16 0 ++ put16 0 ++ put16 0 ++ componentes name ++
    put16 1 ++ put16 1

/-- The host is copied to `sname[MAXCNAME]`, with its zero. -/
def dnsMakequery (op : UInt16) (name : List UInt8) (msgid : UInt16) : Option (List UInt8) :=
  if name.length < MAXCNAME then some (mensajeConsulta op name msgid) else none

/-! ### The client -/

def modificaDns (f : DnsVars → DnsVars) : ConsultaM Unit := modify fun s => { s with dns := f s.dns }

/-- `-1` once the time is over and there are no more retries, `0` once the time is over, and `1` before. -/
def checkDNSTimeout : ConsultaM Int := do
  let s ← get
  if s.dns.dns1sTick ≥ DNS_WAIT_TIME then
    if s.dns.retryCount ≥ MAX_DNS_RETRY then
      modificaDns fun d => { d with dns1sTick := 0, retryCount := 0 }
      return -1
    else
      modificaDns fun d => { d with dns1sTick := 0, retryCount := d.retryCount + 1 }
      return 0
  else return 1

def init (socket : UInt8) : ConsultaM Unit :=
  modificaDns fun d => { d with dnsSocket := socket, dnsMsgid := DNS_MSG_ID }

def timeHandler : ConsultaM Unit := modificaDns fun d => { d with dns1sTick := d.dns1sTick + 1 }

def sendto (len : UInt16) : ConsultaM Unit :=
  modify fun s => { s with enviados := s.dns.pDNSMSG.lee 0 len.toNat :: s.enviados }

/-- The message that has come is parsed. -/
def analiza : ConsultaM Int := do
  let s ← get
  match parseDNSMSG s.dns.pDNSMSG s.ipFromDns with
  | none => throw .indefinido
  | some r =>
    set { s with ipFromDns := r.2 }
    return r.1

/-- The query is made and sent. -/
def pregunta (name : List UInt8) : ConsultaM Unit := do
  let s ← get
  match dnsMakequery 0 name s.dns.dnsMsgid with
  | none => throw .indefinido
  | some consulta =>
    modificaDns fun d => { d with pDNSMSG := d.pDNSMSG.escribe 0 consulta }
    sendto consulta.length.toUInt16

variable (red : Servidor)

/-- The `while` of `DNS_run`, at look `i`.  `recvfrom` is asked for `len` bytes, or `MAX_DNS_BUF_SIZE` when there are
more. -/
def espera : Nat → Nat → ConsultaM Int
  | 0, _ => throw .loop
  | n + 1, i => do
    let s ← get
    let len := red.llegada s.runs i
    if len > 0 then
      modificaDns fun d => { d with pDNSMSG := d.pDNSMSG.escribe 0 (red.datagrama s.runs) }
      analiza
    else
      let retCheckTimeout ← checkDNSTimeout
      if retCheckTimeout < 0 then return 0
      else if retCheckTimeout = 0 then
        sendto len
        espera n (i + 1)
      else espera n (i + 1)

def run (rondas : Nat) (name : List UInt8) : ConsultaM Int := do
  modificaDns fun d => { d with retryCount := 0, dns1sTick := 0, dnsMsgid := d.dnsMsgid + 1 }
  pregunta name
  let ret ← espera red rondas 0
  modify fun s => { s with runs := s.runs + 1 }
  return ret

/-! ### The query -/

def chVTGetSystemTime : ConsultaM UInt32 := do
  let s ← get
  set { s with lecturas := s.lecturas + 1 }
  return red.reloj s.lecturas

/-- `chTimeIsInRangeX`. -/
def chTimeIsInRange (time start fin : UInt32) : Bool := time - start < fin - start

/-- `chTimeAddX` of `TIME_S2I`. -/
def finDelPlazo (start waittimeSec : UInt32) : UInt32 := start + waittimeSec * CH_CFG_ST_FREQUENCY.toUInt32

/-- The `while` of `wizchipDNSQuery`.  In the second that it sleeps the clock goes on. -/
def consultaResto (rondas : Nat) (start fin : UInt32) (host : List UInt8) : Nat → ConsultaM DnsQueryResult
  | 0 => throw .loop
  | n + 1 => do
    if chTimeIsInRange (← chVTGetSystemTime red) start fin then
      let dnsStatus ← run red rondas host
      if dnsStatus = 1 then return .success
      else
        timeHandler
        consultaResto rondas start fin host n
    else return .timeout

/-- `wizchipDNSQuery` once the host is not numeric. -/
def consultaDns (rondas : Nat) (waittimeSec : UInt32) (host : List UInt8) : ConsultaM DnsQueryResult := do
  init WIZCHIP_DNS_SOCKET
  let start ← chVTGetSystemTime red
  consultaResto red rondas start (finDelPlazo start waittimeSec) host rondas

def wizchipDNSQuery (rondas : Nat) (waittimeSec : UInt32) (host : List UInt8) : ConsultaM DnsQueryResult := do
  if waittimeSec = 0 then throw .osalDbgCheck
  else
    let s ← get
    let r := wizchipIsDomainName host s.ipFromDns
    set { s with ipFromDns := r.2 }
    if r.1 = 0 then return .success else consultaDns red rondas waittimeSec host

theorem wizchipDNSQuery_eq (rondas : Nat) {waittimeSec : UInt32} (host : List UInt8) (s : Consulta)
    (hw : waittimeSec ≠ 0) : wizchipDNSQuery red rondas waittimeSec host s =
      if (wizchipIsDomainName host s.ipFromDns).1 = 0 then
        .ok .success { s with ipFromDns := (wizchipIsDomainName host s.ipFromDns).2 }
      else consultaDns red rondas waittimeSec host
        { s with ipFromDns := (wizchipIsDomainName host s.ipFromDns).2 } := by
  rw [wizchipDNSQuery, if_neg hw]
  by_cases h : (wizchipIsDomainName host s.ipFromDns).1 = 0
  · rw [if_pos h, get_bind, if_pos h]
    rfl
  · rw [if_neg h, get_bind, if_neg h]
    rfl

end DNS

end Wiznet
