import Wiznet.Dhcp.Configuracion
import Wiznet.Library.Stateful
import Wiznet.Library.Wire
import Mathlib.Data.List.Induction

/-!
# The options of DHCP messages

What `parseDHCPMSG` takes from a message in the format, and what the messages of the client say in it.  The loop over
the options does not look at the length of those that have a fixed one, so it is with messages in the format that it
reads each option once: the last one of each kind is what is left.  A REQUEST then asks the server that made the OFFER
for the address it offered.
-/

namespace Wiznet

namespace DHCP

open Wire Stateful

/-! ### The format -/

/-- An option: a byte of padding, or a code with its data. -/
inductive Opcion where
  | relleno
  | otra (codigo : UInt8) (datos : List UInt8)
  deriving DecidableEq

namespace Opcion

def bytes : Opcion → List UInt8
  | relleno => [padOption]
  | otra codigo datos => codigo :: datos.length.toUInt8 :: datos

/-- The length that the format gives an option, of those the client looks at. -/
def Medida (codigo : UInt8) (n : Nat) : Prop :=
  (codigo = dhcpMessageType → n = 1) ∧
    (codigo ∈ [subnetMask, dhcpIPaddrLeaseTime, dhcpServerIdentifier] → n = 4) ∧
    (codigo ∈ [routersOnSubnet, dns] → 4 ≤ n)

/-- The option is in the format. -/
def Bien : Opcion → Prop
  | relleno => True
  | otra codigo datos => codigo ≠ padOption ∧ codigo ≠ endOption ∧ datos.length < 256 ∧ Medida codigo datos.length

def ip (datos : List UInt8) : IP := ⟨datos.getD 0 0, datos.getD 1 0, datos.getD 2 0, datos.getD 3 0⟩

/-- Four bytes as a number. -/
def numero (ip : IP) : UInt32 := ((ip.a.toUInt32 <<< 8 + ip.b.toUInt32) <<< 8 + ip.c.toUInt32) <<< 8 + ip.d.toUInt32

variable {Fn : Type}

/-- What an option says, from server `svr`, to the type and the variables there were. -/
def aplica (svr : IP) (x : UInt8 × DhcpVars Fn) : Opcion → UInt8 × DhcpVars Fn
  | relleno => x
  | otra codigo datos =>
    if codigo = dhcpMessageType then (datos.getD 0 0, x.2)
    else if codigo = subnetMask then (x.1, { x.2 with allocatedSn := ip datos })
    else if codigo = routersOnSubnet then (x.1, { x.2 with allocatedGw := ip datos })
    else if codigo = dns then (x.1, { x.2 with allocatedDns := ip datos })
    else if codigo = dhcpIPaddrLeaseTime then (x.1, { x.2 with dhcpLeaseTime := numero (ip datos) })
    else if codigo = dhcpServerIdentifier then (x.1, { x.2 with dhcpSip := ip datos, dhcpRealSip := svr })
    else x

/-- The data of an option of this code. -/
def datosDe (codigo : UInt8) : Opcion → Option (List UInt8)
  | relleno => none
  | otra c datos => if c = codigo then some datos else none

end Opcion

/-- The data of the last option of this code. -/
def ultima (codigo : UInt8) (opts : List Opcion) : Option (List UInt8) :=
  (opts.filterMap (Opcion.datosDe codigo)).getLast?

/-- What options say, from server `svr`, over the type and the variables there were: the last one of each kind. -/
def dice {Fn : Type} (svr : IP) (x : UInt8 × DhcpVars Fn) (opts : List Opcion) : UInt8 × DhcpVars Fn :=
  (((ultima dhcpMessageType opts).map fun datos => datos.getD 0 0).getD x.1,
    { x.2 with
      allocatedSn := ((ultima subnetMask opts).map Opcion.ip).getD x.2.allocatedSn
      allocatedGw := ((ultima routersOnSubnet opts).map Opcion.ip).getD x.2.allocatedGw
      allocatedDns := ((ultima dns opts).map Opcion.ip).getD x.2.allocatedDns
      dhcpLeaseTime := ((ultima dhcpIPaddrLeaseTime opts).map fun datos => Opcion.numero (Opcion.ip datos)).getD
        x.2.dhcpLeaseTime
      dhcpSip := ((ultima dhcpServerIdentifier opts).map Opcion.ip).getD x.2.dhcpSip
      dhcpRealSip := ((ultima dhcpServerIdentifier opts).map fun _ => svr).getD x.2.dhcpRealSip })

/-- The bytes of some options. -/
def opcionesBytes (opts : List Opcion) : List UInt8 := opts.flatMap Opcion.bytes

/-- The options of a message in the format: after the fixed fields and the cookie, and up to an end or to the end of the
message. -/
def Formato (bytes : List UInt8) (opts : List Opcion) : Prop :=
  (∀ o ∈ opts, o.Bien) ∧ ∃ fijo cola, fijo.length = 240 ∧ bytes = fijo ++ opcionesBytes opts ++ cola ∧
    (cola = [] ∨ ∃ resto, cola = endOption :: resto)

/-! ### Reading them -/

variable {Fn : Type} {tam e n p : Nat} {svr : IP} {type : UInt8} {d : DhcpVars Fn} {opts : List Opcion}

theorem leeByte_some (h : p < tam) : leeByte tam d p = some (d.mensaje p) := if_pos h

theorem leeIP_some (h : p + 4 ≤ tam) :
    leeIP tam d p = some ⟨d.mensaje p, d.mensaje (p + 1), d.mensaje (p + 2), d.mensaje (p + 3)⟩ := by
  rw [leeIP, leeByte_some (by omega), leeByte_some (by omega), leeByte_some (by omega), leeByte_some (by omega)]
  rfl

theorem Opcion.aplica_mensaje (svr : IP) (x : UInt8 × DhcpVars Fn) (o : Opcion) :
    (o.aplica svr x).2.mensaje = x.2.mensaje := by
  cases o with
  | relleno => rfl
  | otra codigo datos =>
    unfold Opcion.aplica
    repeat' split
    all_goals rfl

/-- The four bytes that data starts with. -/
theorem ip_of_at {datos : List UInt8} (hat : At d.mensaje p datos) (h4 : 4 ≤ datos.length) :
    (⟨d.mensaje p, d.mensaje (p + 1), d.mensaje (p + 2), d.mensaje (p + 3)⟩ : IP) = Opcion.ip datos := by
  obtain ⟨a, b, c, d', resto, rfl⟩ : ∃ a b c d' resto, datos = a :: b :: c :: d' :: resto := by
    match datos, h4 with
    | a :: b :: c :: d' :: resto, _ => exact ⟨a, b, c, d', resto, rfl⟩
  simp only [at_cons] at hat
  obtain ⟨h0, h1, h2, h3, -⟩ := hat
  simp [Opcion.ip, h0, h1, h2, h3]

theorem opciones_relleno (hat : d.mensaje p = padOption) (he : p < e) (htam : e ≤ tam) :
    opciones tam svr e (n + 1) p type d = opciones tam svr e n (p + 1) type d := by
  rw [opciones, if_pos he, leeByte_some (by omega), Option.bind_eq_bind, Option.bind_some, hat, if_neg (by decide),
    if_pos rfl]

theorem opciones_fin (hfin : e ≤ p ∨ p < tam ∧ d.mensaje p = endOption) :
    opciones tam svr e (n + 1) p type d = some (type, d) := by
  rw [opciones]
  split
  · obtain ⟨hp, hat⟩ := hfin.resolve_left (by omega)
    rw [leeByte_some hp, Option.bind_eq_bind, Option.bind_some, hat, if_pos rfl]
  · rfl

/-- An option in the format is read as it says, and passed over. -/
theorem opciones_otra {codigo : UInt8} {datos : List UInt8} (hb : (Opcion.otra codigo datos).Bien)
    (hat : At d.mensaje p (Opcion.otra codigo datos).bytes) (he : p + 2 + datos.length ≤ e) (htam : e ≤ tam) :
    opciones tam svr e (n + 1) p type d = opciones tam svr e n (p + 2 + datos.length)
      ((Opcion.otra codigo datos).aplica svr (type, d)).1 ((Opcion.otra codigo datos).aplica svr (type, d)).2 := by
  obtain ⟨h0, h255, h256, hm1, hm4, hmas⟩ := hb
  rw [Opcion.bytes, at_cons, at_cons] at hat
  obtain ⟨hcod, hlong, hdatos⟩ := hat
  have hbyte : leeByte tam d p = some codigo := by rw [leeByte_some (by omega), hcod]
  have hlen : (leeByte tam d (p + 1)).map UInt8.toNat = some datos.length := by
    rw [leeByte_some (by omega), hlong]
    simp [Nat.mod_eq_of_lt h256]
  obtain ⟨l, hl, hln⟩ := Option.map_eq_some_iff.mp hlen
  have hip : 4 ≤ datos.length → leeIP tam d (p + 2) = some (Opcion.ip datos) := by
    intro h4
    rw [leeIP_some (by omega)]
    exact congrArg some (ip_of_at hdatos h4)
  rw [opciones, if_pos (by omega), hbyte, Option.bind_eq_bind, Option.bind_some, if_neg h255, if_neg h0]
  unfold Opcion.aplica
  dsimp only
  by_cases c1 : codigo = dhcpMessageType
  · have h1 := hm1 c1
    obtain ⟨t, rfl⟩ := List.length_eq_one_iff.mp h1
    rw [at_cons] at hdatos
    rw [if_pos c1, if_pos c1, leeByte_some (by omega), Option.bind_some, hdatos.1]
    rfl
  rw [if_neg c1, if_neg c1]
  by_cases c2 : codigo = subnetMask
  · have h4 := hm4 (by simp [c2])
    rw [if_pos c2, if_pos c2, hip (by omega), h4]
    rfl
  rw [if_neg c2, if_neg c2]
  by_cases c3 : codigo = routersOnSubnet
  · rw [if_pos c3, if_pos c3, hl, hip (hmas (by simp [c3])), ← hln]
    rfl
  rw [if_neg c3, if_neg c3]
  by_cases c4 : codigo = dns
  · rw [if_pos c4, if_pos c4, hl, hip (hmas (by simp [c4])), ← hln]
    rfl
  rw [if_neg c4, if_neg c4]
  by_cases c5 : codigo = dhcpIPaddrLeaseTime
  · have h4 := hm4 (by simp [c5])
    rw [if_pos c5, if_pos c5, hip (by omega), h4]
    rfl
  rw [if_neg c5, if_neg c5]
  by_cases c6 : codigo = dhcpServerIdentifier
  · have h4 := hm4 (by simp [c6])
    rw [if_pos c6, if_pos c6, hip (by omega), h4]
    rfl
  rw [if_neg c6, if_neg c6, hl, ← hln]
  rfl

theorem length_bytes_pos (o : Opcion) : 0 < o.bytes.length := by
  cases o <;> simp [Opcion.bytes]

theorem length_le_opcionesBytes (opts : List Opcion) : opts.length ≤ (opcionesBytes opts).length := by
  induction opts with
  | nil => simp
  | cons o opts ih =>
    have := length_bytes_pos o
    simp only [opcionesBytes, List.flatMap_cons, List.length_append, List.length_cons] at ih ⊢
    omega

/-- Options one after another, and then an end. -/
theorem opciones_lista (hb : ∀ o ∈ opts, o.Bien) (hat : At d.mensaje p (opcionesBytes opts))
    (he : p + (opcionesBytes opts).length ≤ e) (htam : e ≤ tam) (hn : opts.length < n)
    (hfin : p + (opcionesBytes opts).length = e ∨ p + (opcionesBytes opts).length < e ∧
      d.mensaje (p + (opcionesBytes opts).length) = endOption) :
    opciones tam svr e n p type d = some (opts.foldl (Opcion.aplica svr) (type, d)) := by
  induction opts generalizing p n type d with
  | nil =>
    obtain ⟨n, rfl⟩ : ∃ k, n = k + 1 := ⟨n - 1, by omega⟩
    have hvacia : p + (opcionesBytes []).length = p := rfl
    rw [hvacia] at hfin
    refine opciones_fin ?_
    rcases hfin with h | ⟨hlt, hend⟩
    · exact .inl (Nat.le_of_eq h.symm)
    · exact .inr ⟨by omega, hend⟩
  | cons o opts ih =>
    obtain ⟨n, rfl⟩ : ∃ k, n = k + 1 := ⟨n - 1, by omega⟩
    have hcons : opcionesBytes (o :: opts) = o.bytes ++ opcionesBytes opts := List.flatMap_cons
    rw [List.forall_mem_cons] at hb
    rw [hcons, at_append] at hat
    rw [hcons, List.length_append, ← Nat.add_assoc] at he hfin
    rw [List.length_cons] at hn
    cases o with
    | relleno =>
      have hrelleno : d.mensaje p = padOption := (at_cons.mp hat.1).1
      have hlen : (Opcion.relleno).bytes.length = 1 := rfl
      rw [hlen] at he hfin hat
      rw [opciones_relleno hrelleno (by omega) htam]
      exact ih hb.2 hat.2 he (by omega) hfin
    | otra codigo datos =>
      have hlen : p + (Opcion.otra codigo datos).bytes.length = p + 2 + datos.length := by
        simp [Opcion.bytes]
        omega
      rw [hlen] at he hfin hat
      rw [opciones_otra hb.1 hat.1 (by omega) htam]
      have hmsg := Opcion.aplica_mensaje svr (type, d) (.otra codigo datos)
      exact ih hb.2 (by rw [hmsg]; exact hat.2) he (by omega) (by rw [hmsg]; exact hfin)

theorem ultima_snoc (codigo : UInt8) (opts : List Opcion) (o : Opcion) :
    ultima codigo (opts ++ [o]) = (o.datosDe codigo).or (ultima codigo opts) := by
  rw [ultima, ultima, List.filterMap_append]
  cases h : o.datosDe codigo <;> simp [h]

/-- The options the client looks at, and the others. -/
theorem casos_codigo (codigo : UInt8) : codigo = dhcpMessageType ∨ codigo = subnetMask ∨ codigo = routersOnSubnet ∨
    codigo = dns ∨ codigo = dhcpIPaddrLeaseTime ∨ codigo = dhcpServerIdentifier ∨
      codigo ≠ dhcpMessageType ∧ codigo ≠ subnetMask ∧ codigo ≠ routersOnSubnet ∧ codigo ≠ dns ∧
        codigo ≠ dhcpIPaddrLeaseTime ∧ codigo ≠ dhcpServerIdentifier := by
  tauto

/-- Option after option, the last one of each kind is left. -/
theorem foldl_aplica (svr : IP) (x : UInt8 × DhcpVars Fn) (opts : List Opcion) :
    opts.foldl (Opcion.aplica svr) x = dice svr x opts := by
  induction opts using List.reverseRecOn with
  | nil => rfl
  | append_singleton opts o ih =>
    rw [List.foldl_append, List.foldl_cons, List.foldl_nil, ih]
    unfold dice
    simp only [ultima_snoc]
    cases o with
    | relleno => rfl
    | otra codigo datos =>
      unfold Opcion.aplica Opcion.datosDe
      dsimp only
      rcases casos_codigo codigo with rfl | rfl | rfl | rfl | rfl | rfl | ⟨h1, h2, h3, h4, h5, h6⟩
      case inr.inr.inr.inr.inr.inr => simp [h1, h2, h3, h4, h5, h6]
      all_goals simp [dhcpMessageType, subnetMask, routersOnSubnet, dns, dhcpIPaddrLeaseTime, dhcpServerIdentifier]

/-- The bytes that stand first in a buffer. -/
theorem at_escribe {m : Buffer} {bs : List UInt8} : At (m.escribe 0 bs) 0 bs :=
  fun _ hi => Buffer.escribe_apply hi

/-- What a datagram does to the client when nothing of it is looked at: it is in the buffer. -/
def recibido (d : DhcpVars Fn) (r : Recibido) : DhcpVars Fn := { d with mensaje := d.mensaje.escribe 0 r.bytes }

/-- The datagram is for the client, and from the server it listens to. -/
def Suyo (d : DhcpVars Fn) (r : Recibido) : Prop :=
  r.port = DHCP_SERVER_PORT ∧ (recibido d r).mensaje.lee 28 6 = d.dhcpChaddr.bytes ∧
    (d.dhcpSip = {} ∨ r.addr = d.dhcpSip ∨ r.addr = d.dhcpRealSip)

instance (d : DhcpVars Fn) (r : Recibido) : Decidable (Suyo d r) := inferInstanceAs (Decidable (_ ∧ _ ∧ _))

theorem leeDatagrama_cabe {r : Recibido} (hbuf : d.pDHCPMSG = some tam) (htam : r.bytes.length ≤ tam ∧ 34 ≤ tam) :
    leeDatagrama d r = if r.port ≠ DHCP_SERVER_PORT then some (0, recibido d r)
      else if (recibido d r).mensaje.lee 28 6 ≠ d.dhcpChaddr.bytes then some (0, recibido d r)
      else if d.dhcpSip ≠ {} ∧ r.addr ≠ d.dhcpSip ∧ r.addr ≠ d.dhcpRealSip then some (0, recibido d r)
      else opciones tam r.addr (UInt16.ofInt r.rc).toNat (UInt16.ofInt r.rc).toNat 240 0 (recibido d r) := by
  unfold leeDatagrama
  split
  · rename_i hnone
    rw [hbuf] at hnone
    cases hnone
  · rename_i tam' htam'
    rw [hbuf] at htam'
    cases htam'
    rw [if_neg (by omega)]
    rfl

theorem Formato.largo {bytes : List UInt8} (h : Formato bytes opts) : 240 ≤ bytes.length := by
  obtain ⟨-, fijo, cola, hfijo, rfl, -⟩ := h
  simp only [List.length_append, hfijo]
  omega

theorem leeDatagrama_suyo {r : Recibido} (hbuf : d.pDHCPMSG = some tam) (hf : Formato r.bytes opts)
    (hrc : r.rc = r.bytes.length) (htam : r.bytes.length ≤ tam) (h16 : r.bytes.length < 65536) (hsuyo : Suyo d r) :
    leeDatagrama d r = some (dice r.addr (0, recibido d r) opts) := by
  obtain ⟨hb, fijo, cola, hfijo, hbytes, hcola⟩ := hf
  have hlargo : r.bytes.length = 240 + (opcionesBytes opts).length + cola.length := by
    rw [hbytes, List.length_append, List.length_append, hfijo]
  have hlen : (UInt16.ofInt r.rc).toNat = r.bytes.length := by
    rw [hrc, UInt16.ofInt]
    simp
    omega
  have hat : At (recibido d r).mensaje 0 (fijo ++ opcionesBytes opts ++ cola) := by
    rw [← hbytes]
    exact at_escribe
  rw [at_append, at_append, hfijo, Nat.zero_add, Nat.zero_add, List.length_append, hfijo] at hat
  have hlista : opciones tam r.addr r.bytes.length r.bytes.length 240 0 (recibido d r) =
      some (dice r.addr (0, recibido d r) opts) := by
    rw [← foldl_aplica]
    refine opciones_lista hb hat.1.2 (by omega) htam ?_ ?_
    · have := length_le_opcionesBytes opts
      omega
    · rcases hcola with rfl | ⟨resto, rfl⟩
      · simp only [List.length_nil] at hlargo
        exact .inl hlargo.symm
      · simp only [List.length_cons] at hlargo
        exact .inr ⟨by omega, (at_cons.mp hat.2).1⟩
  obtain ⟨hport, hmac, hsip⟩ := hsuyo
  rw [leeDatagrama_cabe hbuf (by omega), if_neg (not_not.mpr hport), if_neg (not_not.mpr hmac), if_neg (by tauto),
    hlen, hlista]

/-- A message in the format leaves what its options say, each kind as its last one says; a message of others only leaves
its bytes in the buffer. -/
theorem leeDatagrama_formato {r : Recibido} (hbuf : d.pDHCPMSG = some tam) (hf : Formato r.bytes opts)
    (hrc : r.rc = r.bytes.length) (htam : r.bytes.length ≤ tam) (h16 : r.bytes.length < 65536) :
    leeDatagrama d r =
      some (if Suyo d r then dice r.addr (0, recibido d r) opts else (0, recibido d r)) := by
  by_cases h : Suyo d r
  · rw [if_pos h, leeDatagrama_suyo hbuf hf hrc htam h16 h]
  · have hlargo := hf.largo
    rw [if_neg h, leeDatagrama_cabe hbuf (by omega)]
    unfold Suyo at h
    split_ifs <;> first | rfl | tauto

/-- What a message of `Ensayo` says. -/
def opcionesRespuesta (type : UInt8) : List Opcion :=
  [.otra dhcpMessageType [type], .otra dhcpServerIdentifier Ensayo.servidor.bytes,
    .otra dhcpIPaddrLeaseTime [0, 0, 0, 20], .otra subnetMask Ensayo.mascara.bytes,
    .otra routersOnSubnet Ensayo.servidor.bytes]

def recibidaOferta : Recibido := ⟨268, Ensayo.respuesta DHCP_OFFER, Ensayo.servidor, DHCP_SERVER_PORT⟩

/-- The client while it looks for a server. -/
def buscando : DhcpVars CallbackPort where
  dhcpSocket := DHCP_SOCKET_NUM
  dhcpState := .discover
  pDHCPMSG := some DHCP_BUFFER_SIZE
  dhcpChaddr := ⟨0x00, 0x11, 0x33, 0x47, 0x09, 0x7D⟩

theorem length_respuesta (type : UInt8) : (Ensayo.respuesta type).length = 268 := by
  simp only [Ensayo.respuesta, IP.bytes, List.length_append, List.length_replicate, List.length_cons, List.length_nil]

theorem formato_respuesta (type : UInt8) : Formato (Ensayo.respuesta type) (opcionesRespuesta type) := by
  refine ⟨?_, List.replicate 16 0 ++ Ensayo.direccion.bytes ++ List.replicate 8 0 ++
    [0x00, 0x11, 0x33, 0x47, 0x09, 0x7D] ++ List.replicate 206 0, [endOption], ?_, ?_, .inr ⟨[], rfl⟩⟩
  · simp [opcionesRespuesta, Opcion.Bien, Opcion.Medida, IP.bytes, dhcpMessageType, dhcpServerIdentifier,
      dhcpIPaddrLeaseTime, subnetMask, routersOnSubnet, dns, padOption, endOption]
  · simp only [IP.bytes, List.length_append, List.length_replicate, List.length_cons, List.length_nil]
  · simp only [Ensayo.respuesta, List.append_assoc]
    rfl

theorem leeDatagrama_formato_oferta :
    (leeDatagrama buscando recibidaOferta).map (fun x => (x.1, x.2.allocatedSn, x.2.dhcpLeaseTime, x.2.dhcpSip)) =
      some (DHCP_OFFER, Ensayo.mascara, 20, Ensayo.servidor) := by
  rw [leeDatagrama_formato (d := buscando) (r := recibidaOferta) rfl (formato_respuesta _) (by decide +kernel)
    (by decide +kernel) (by decide +kernel)]
  decide +kernel

/-! ### What the client sends -/

def opcionTipoDe (type : UInt8) : Opcion := .otra dhcpMessageType [type]

def opcionClienteDe (d : DhcpVars Fn) : Opcion := .otra dhcpClientIdentifier (1 :: d.dhcpChaddr.bytes)

def opcionNombreDe (d : DhcpVars Fn) : Opcion := .otra hostName ((opcionNombre d).drop 2)

def opcionesLeaseDe (d : DhcpVars Fn) : List Opcion :=
  [.otra dhcpRequestedIPaddr d.allocatedIp.bytes, .otra dhcpServerIdentifier d.dhcpSip.bytes]

def opcionesDiscover (d : DhcpVars Fn) : List Opcion :=
  [opcionTipoDe DHCP_DISCOVER, opcionClienteDe d, opcionNombreDe d,
    .otra dhcpParamRequest [subnetMask, routersOnSubnet, dns, domainName, dhcpT1value, dhcpT2value]]

def opcionesRequest (d : DhcpVars Fn) : List Opcion :=
  [opcionTipoDe DHCP_REQUEST, opcionClienteDe d] ++ (if (destinoRequest d).d = 255 then opcionesLeaseDe d else []) ++
    [opcionNombreDe d, .otra dhcpParamRequest
      [subnetMask, routersOnSubnet, dns, domainName, dhcpT1value, dhcpT2value, performRouterDiscovery, staticRoute]]

def opcionesDecline (d : DhcpVars Fn) : List Opcion :=
  [opcionTipoDe DHCP_DECLINE, opcionClienteDe d] ++ opcionesLeaseDe d

theorem formato_conOpciones {fijo : List UInt8} (hfijo : fijo.length = 240) (hb : ∀ o ∈ opts, o.Bien) :
    Formato (conOpciones fijo (opcionesBytes opts ++ [endOption])) opts := by
  refine ⟨hb, fijo,
    endOption :: List.replicate (RIP_MSG_SIZE - (fijo.length + (opcionesBytes opts ++ [endOption]).length)) 0,
    hfijo, ?_, .inr ⟨_, rfl⟩⟩
  rw [conOpciones]
  simp only [List.append_assoc, List.singleton_append]

theorem length_makeDHCPMSG {flags : List UInt8} (hf : flags.length = 2) (ciaddr : IP) :
    (makeDHCPMSG d flags ciaddr).length = 240 := by
  simp only [makeDHCPMSG, bytes32, IP.bytes, Mac.bytes, List.length_append, List.length_cons, List.length_nil,
    List.length_replicate, hf]

theorem bien_tipo (type : UInt8) : (opcionTipoDe type).Bien := by
  simp [opcionTipoDe, Opcion.Bien, Opcion.Medida, dhcpMessageType, dhcpIPaddrLeaseTime, dhcpServerIdentifier,
    subnetMask, routersOnSubnet, dns, padOption, endOption]

theorem bien_cliente (d : DhcpVars Fn) : (opcionClienteDe d).Bien := by
  simp [opcionClienteDe, Opcion.Bien, Opcion.Medida, Mac.bytes, dhcpClientIdentifier, dhcpMessageType,
    dhcpIPaddrLeaseTime, dhcpServerIdentifier, subnetMask, routersOnSubnet, dns, padOption, endOption]

theorem bien_nombre (d : DhcpVars Fn) : (opcionNombreDe d).Bien := by
  simp [opcionNombreDe, opcionNombre, literal, Opcion.Bien, Opcion.Medida, hostName, dhcpMessageType,
    dhcpIPaddrLeaseTime, dhcpServerIdentifier, subnetMask, routersOnSubnet, dns, padOption, endOption]

theorem bien_lease (d : DhcpVars Fn) : ∀ o ∈ opcionesLeaseDe d, o.Bien := by
  simp [opcionesLeaseDe, Opcion.Bien, Opcion.Medida, IP.bytes, dhcpRequestedIPaddr, dhcpServerIdentifier,
    dhcpMessageType, dhcpIPaddrLeaseTime, subnetMask, routersOnSubnet, dns, padOption, endOption]

theorem bien_pide {codigos : List UInt8} (h : codigos.length < 256) : (Opcion.otra dhcpParamRequest codigos).Bien := by
  simp [h, Opcion.Bien, Opcion.Medida, dhcpParamRequest, dhcpServerIdentifier, dhcpMessageType, dhcpIPaddrLeaseTime,
    subnetMask, routersOnSubnet, dns, padOption, endOption]

theorem bien_request : ∀ o ∈ opcionesRequest d, o.Bien := by
  simp only [opcionesRequest, List.forall_mem_append, List.forall_mem_cons]
  refine ⟨⟨⟨bien_tipo _, bien_cliente d, List.forall_mem_nil _⟩, ?_⟩, bien_nombre d, bien_pide (by simp),
    List.forall_mem_nil _⟩
  split
  · exact bien_lease d
  · exact List.forall_mem_nil _

theorem mensajeDiscover_formato (d : DhcpVars Fn) : Formato (mensajeDiscover d) (opcionesDiscover d) := by
  have hb : ∀ o ∈ opcionesDiscover d, o.Bien := by
    simp only [opcionesDiscover, List.forall_mem_cons]
    exact ⟨bien_tipo _, bien_cliente d, bien_nombre d, bien_pide (by simp), List.forall_mem_nil _⟩
  exact formato_conOpciones (length_makeDHCPMSG rfl _) hb

theorem mensajeDecline_formato (d : DhcpVars Fn) : Formato (mensajeDecline d) (opcionesDecline d) := by
  have hb : ∀ o ∈ opcionesDecline d, o.Bien := by
    simp only [opcionesDecline, List.forall_mem_append, List.forall_mem_cons]
    exact ⟨⟨bien_tipo _, bien_cliente d, List.forall_mem_nil _⟩, bien_lease d⟩
  exact formato_conOpciones (length_makeDHCPMSG rfl _) hb

theorem mensajeRequest_formato (d : DhcpVars Fn) : Formato (mensajeRequest d) (opcionesRequest d) := by
  have hbytes : opcionTipo DHCP_REQUEST ++ opcionCliente d ++
      (if (destinoRequest d).d = 255 then opcionesLease d else []) ++ opcionNombre d ++
      [dhcpParamRequest, 8, subnetMask, routersOnSubnet, dns, domainName, dhcpT1value, dhcpT2value,
        performRouterDiscovery, staticRoute, endOption] = opcionesBytes (opcionesRequest d) ++ [endOption] := by
    unfold opcionesRequest
    split <;> rfl
  rw [mensajeRequest, hbytes]
  refine formato_conOpciones ?_ bien_request
  split <;> exact length_makeDHCPMSG rfl _

/-- A REQUEST to everybody names the address and the server. -/
theorem ultima_request (h : destinoRequest d = .difusion) :
    ultima dhcpMessageType (opcionesRequest d) = some [DHCP_REQUEST] ∧
      ultima dhcpRequestedIPaddr (opcionesRequest d) = some d.allocatedIp.bytes ∧
      ultima dhcpServerIdentifier (opcionesRequest d) = some d.dhcpSip.bytes := by
  rw [opcionesRequest, h, if_pos (by rfl)]
  exact ⟨rfl, rfl, rfl⟩

/-! ### From an OFFER to its REQUEST -/

section

variable {A E : Type} [Aplicacion A] [Red E] [TimeHandler E]

/-- The board once `DHCP_run` has its socket open. -/
def conSocket (p : Placa A E) : Placa A E :=
  let a := enRed (Red.getSnSR p.dhcp.dhcpSocket) p
  if a.1 ≠ SOCK_UDP then (enRed (Red.socket p.dhcp.dhcpSocket SN_MR_UDP DHCP_CLIENT_PORT 0) a.2).2 else a.2

/-- What `DHCP_run` has from the network before its `switch`. -/
def llega (p : Placa A E) : Option Recibido × Placa A E :=
  let a := enRed (Red.getSnRXRSR (conSocket p).dhcp.dhcpSocket) (conSocket p)
  if a.1 = 0 then (none, a.2)
  else
    let b := enRed (Red.recvfrom a.2.dhcp.dhcpSocket a.1) a.2
    (some b.1, b.2)

omit [TimeHandler E] [Red E] in
theorem red_eq {α : Type} (f : E → α × E) (p : Placa A E) : red f p = .ok (enRed f p).1 (enRed f p).2 := rfl

omit [TimeHandler E] in
theorem recibe_conSocket (p : Placa A E) : recibe p = parseDHCPMSG (conSocket p) := by
  rw [recibe, get_bind, bind_ok (red_eq _ _)]
  unfold conSocket
  dsimp only
  split <;> rfl

omit [TimeHandler E] in
theorem recibe_llega {p q : Placa A E} {r : Recibido} (h : llega p = (some r, q)) : recibe p = tomaDatagrama r q := by
  unfold llega at h
  dsimp only at h
  rw [recibe_conSocket, parseDHCPMSG, get_bind, bind_ok (red_eq _ _)]
  split at h
  · cases h
  · rename_i hlen
    cases h
    rw [if_neg hlen, get_bind, bind_ok (red_eq _ _)]

omit [TimeHandler E] in
theorem recibe_nada {p q : Placa A E} (h : llega p = (none, q)) : recibe p = .ok 0 q := by
  unfold llega at h
  dsimp only at h
  rw [recibe_conSocket, parseDHCPMSG, get_bind, bind_ok (red_eq _ _)]
  split at h
  · rename_i hlen
    cases h
    rw [if_pos hlen]
    rfl
  · cases h

omit [TimeHandler E] in
theorem conSocket_eq (p : Placa A E) : ∃ e, conSocket p = { p with entorno := e } := by
  unfold conSocket
  dsimp only
  split <;> exact ⟨_, rfl⟩

omit [TimeHandler E] in
/-- Only what lies below changes. -/
theorem llega_eq {p q : Placa A E} {r : Option Recibido} (h : llega p = (r, q)) : ∃ e, q = { p with entorno := e } := by
  obtain ⟨e, he⟩ := conSocket_eq p
  unfold llega at h
  rw [he] at h
  dsimp only at h
  split at h <;>
  · cases h
    exact ⟨_, rfl⟩

omit [TimeHandler E] in
theorem llega_some {p p' p'' q : Placa A E} {len : UInt16} {r : Recibido} (hs : conSocket p = p')
    (hlen : enRed (Red.getSnRXRSR p'.dhcp.dhcpSocket) p' = (len, p'')) (h0 : len ≠ 0)
    (hr : enRed (Red.recvfrom p''.dhcp.dhcpSocket len) p'' = (r, q)) : llega p = (some r, q) := by
  unfold llega
  rw [hs, hlen]
  dsimp only
  rw [if_neg h0, hr]

/-- The board once a message is sent. -/
def enviada (mensaje : DhcpVars (Aplicacion.Fn A) → List UInt8) (addr : DhcpVars (Aplicacion.Fn A) → IP)
    (p : Placa A E) : Placa A E :=
  { p with
    dhcp := { p.dhcp with mensaje := p.dhcp.mensaje.escribe 0 (mensaje p.dhcp) }
    entorno := (Red.sendto p.dhcp.dhcpSocket (mensaje p.dhcp) (addr p.dhcp) DHCP_SERVER_PORT p.entorno).2
    enviados := ⟨mensaje p.dhcp, addr p.dhcp, DHCP_SERVER_PORT⟩ :: p.enviados }

omit [TimeHandler E] in
theorem envia_eq {mensaje : DhcpVars (Aplicacion.Fn A) → List UInt8} {addr : DhcpVars (Aplicacion.Fn A) → IP}
    {p : Placa A E} (hbuf : p.dhcp.pDHCPMSG = some tam) (htam : RIP_MSG_SIZE ≤ tam) :
    envia mensaje addr p = .ok () (enviada mensaje addr p) := by
  rw [envia, get_bind, hbuf]
  dsimp only
  rw [if_neg (by omega)]
  rfl

omit [TimeHandler E] in
theorem envia_cases (mensaje : DhcpVars (Aplicacion.Fn A) → List UInt8) (addr : DhcpVars (Aplicacion.Fn A) → IP)
    (p : Placa A E) :
    envia mensaje addr p = .ok () (enviada mensaje addr p) ∨ envia mensaje addr p = .error .indefinido p := by
  cases hbuf : p.dhcp.pDHCPMSG with
  | none =>
    right
    rw [envia, get_bind, hbuf]
    rfl
  | some tam =>
    by_cases htam : tam < RIP_MSG_SIZE
    · right
      rw [envia, get_bind, hbuf]
      dsimp only
      rw [if_pos htam]
      rfl
    · exact .inl (envia_eq hbuf (by omega))

/-- The board once the address offered is asked for. -/
def pedida (p : Placa A E) : Placa A E :=
  let q := enviada mensajeRequest destinoRequest { p with dhcp := { p.dhcp with allocatedIp := yiaddr p.dhcp } }
  { q with dhcp := { q.dhcp with dhcpState := .request } }

theorem caseDiscover_offer {p : Placa A E} (hbuf : p.dhcp.pDHCPMSG = some tam) (htam : RIP_MSG_SIZE ≤ tam) :
    caseDiscover DHCP_OFFER p = .ok DHCP_RUNNING (pedida p) := by
  have henvia : sendREQUEST { p with dhcp := { p.dhcp with allocatedIp := yiaddr p.dhcp } } = .ok () _ :=
    envia_eq hbuf htam
  rw [caseDiscover, if_pos rfl]
  show (sendREQUEST >>= fun _ => ponEstado .request >>= fun _ => pure DHCP_RUNNING)
    { p with dhcp := { p.dhcp with allocatedIp := yiaddr p.dhcp } } = _
  rw [bind_ok henvia]
  rfl

/-- The address offered, in the bytes of a message. -/
def yiaddrDe (bs : List UInt8) : IP := ⟨bs.getD 16 0, bs.getD 17 0, bs.getD 18 0, bs.getD 19 0⟩

omit [Red E] [TimeHandler E] in
theorem yiaddr_recibido {svr : IP} {d : DhcpVars (Aplicacion.Fn A)} {r : Recibido} (h : 240 ≤ r.bytes.length) :
    yiaddr (dice svr (0, recibido d r) opts).2 = yiaddrDe r.bytes := by
  have hbyte : ∀ i < 240, (d.mensaje.escribe 0 r.bytes) i = r.bytes.getD i 0 := by
    intro i hi
    rw [List.getD_eq_getElem _ _ (by omega)]
    have hat : At (d.mensaje.escribe 0 r.bytes) 0 r.bytes := at_escribe
    simpa using hat i (by omega)
  show (⟨_, _, _, _⟩ : IP) = ⟨_, _, _, _⟩
  simp only [dice, recibido]
  rw [hbyte 16 (by decide), hbyte 17 (by decide), hbyte 18 (by decide), hbyte 19 (by decide)]

/-- A call of `DHCP_run` from a datagram on. -/
theorem run_eq {fuel : Nat} {p q : Placa A E} {r : Recibido} {type : UInt8} {d : DhcpVars (Aplicacion.Fn A)}
    (hst : p.dhcp.dhcpState ≠ .stop)
    (hr : llega { p with diario := .run p.dhcp.dhcpSocket p.dhcp.pDHCPMSG :: p.diario } = (some r, q))
    (hlee : leeDatagrama q.dhcp r = some (type, d)) :
    DHCP.run fuel p = (switch fuel type >>= fun ret => anota (.fin ret) >>= fun _ => pure ret)
      { q with dhcp := d } := by
  have hrecibe : recibe { p with diario := .run p.dhcp.dhcpSocket p.dhcp.pDHCPMSG :: p.diario } =
      .ok type { q with dhcp := d } := by rw [recibe_llega hr, tomaDatagrama, hlee]
  have hcuerpo : runCuerpo fuel { p with diario := .run p.dhcp.dhcpSocket p.dhcp.pDHCPMSG :: p.diario } =
      switch fuel type { q with dhcp := d } := by rw [runCuerpo, get_bind, if_neg hst, bind_ok hrecibe]
  rw [DHCP.run, get_bind]
  show EStateM.bind (runCuerpo fuel) _ { p with diario := .run p.dhcp.dhcpSocket p.dhcp.pDHCPMSG :: p.diario } =
    EStateM.bind (switch fuel type) _ { q with dhcp := d }
  simp only [EStateM.bind, hcuerpo]

/-- The OFFER of the server it listens to is answered with a REQUEST to everybody, in the format, for the address
offered and the server that the OFFER names, and nothing else is handed to `sendto`. -/
theorem run_offer {fuel : Nat} {p q : Placa A E} {r : Recibido} (hst : p.dhcp.dhcpState = .discover)
    (hbuf : p.dhcp.pDHCPMSG = some tam) (htam : RIP_MSG_SIZE ≤ tam)
    (hr : llega { p with diario := .run p.dhcp.dhcpSocket p.dhcp.pDHCPMSG :: p.diario } = (some r, q))
    (hf : Formato r.bytes opts) (hrc : r.rc = r.bytes.length) (hcabe : r.bytes.length ≤ tam)
    (h16 : r.bytes.length < 65536)
    (hsuyo : Suyo p.dhcp r) (htipo : ultima dhcpMessageType opts = some [DHCP_OFFER]) :
    ∃ p' bytes, DHCP.run fuel p = .ok DHCP_RUNNING p' ∧ p'.dhcp.dhcpState = .request ∧
      p'.dhcp.allocatedIp = yiaddrDe r.bytes ∧
      p'.dhcp.dhcpSip = ((ultima dhcpServerIdentifier opts).map Opcion.ip).getD p.dhcp.dhcpSip ∧
      p'.enviados = ⟨bytes, .difusion, DHCP_SERVER_PORT⟩ :: p.enviados ∧
      ∃ opts', Formato bytes opts' ∧ ultima dhcpMessageType opts' = some [DHCP_REQUEST] ∧
        ultima dhcpRequestedIPaddr opts' = some (yiaddrDe r.bytes).bytes ∧
        ultima dhcpServerIdentifier opts' = some p'.dhcp.dhcpSip.bytes := by
  obtain ⟨e, rfl⟩ := llega_eq hr
  obtain ⟨p₁, hp₁⟩ : ∃ p₁ : Placa A E, p₁ = { p with
    diario := .run p.dhcp.dhcpSocket p.dhcp.pDHCPMSG :: p.diario
    entorno := e
    dhcp := (dice r.addr (0, recibido p.dhcp r) opts).2 } := ⟨_, rfl⟩
  have hlee : leeDatagrama p.dhcp r = some (DHCP_OFFER, p₁.dhcp) := by
    rw [leeDatagrama_suyo hbuf hf hrc hcabe h16 hsuyo]
    have hof : (dice r.addr (0, recibido p.dhcp r) opts).1 = DHCP_OFFER := by simp [dice, htipo]
    rw [hp₁, ← hof]
  have hst₁ : p₁.dhcp.dhcpState = .discover := by rw [hp₁, ← hst]; rfl
  have hbuf₁ : p₁.dhcp.pDHCPMSG = some tam := by rw [hp₁, ← hbuf]; rfl
  have hswitch : switch fuel DHCP_OFFER p₁ = .ok DHCP_RUNNING (pedida p₁) := by
    rw [switch, get_bind, hst₁]
    exact caseDiscover_offer hbuf₁ htam
  have hdest : destinoRequest { p₁.dhcp with allocatedIp := yiaddr p₁.dhcp } = .difusion := by
    rw [destinoRequest, if_neg]
    simp [hst₁]
  refine ⟨{ pedida p₁ with diario := .fin DHCP_RUNNING :: (pedida p₁).diario },
    mensajeRequest { p₁.dhcp with allocatedIp := yiaddr p₁.dhcp }, ?_, rfl, ?_, ?_, ?_,
    opcionesRequest { p₁.dhcp with allocatedIp := yiaddr p₁.dhcp }, mensajeRequest_formato _, ?_, ?_, ?_⟩
  · rw [run_eq (by rw [hst]; decide) hr hlee]
    show (switch fuel DHCP_OFFER >>= fun ret => anota (.fin ret) >>= fun _ => pure ret)
      { p with
        diario := .run p.dhcp.dhcpSocket p.dhcp.pDHCPMSG :: p.diario
        entorno := e
        dhcp := p₁.dhcp } = _
    have hp₁' : { p with
        diario := .run p.dhcp.dhcpSocket p.dhcp.pDHCPMSG :: p.diario
        entorno := e
        dhcp := p₁.dhcp } = p₁ := by rw [hp₁]
    rw [hp₁', bind_ok hswitch]
    rfl
  · show yiaddr p₁.dhcp = _
    rw [hp₁]
    exact yiaddr_recibido hf.largo
  · show p₁.dhcp.dhcpSip = _
    rw [hp₁]
    rfl
  · show (⟨mensajeRequest _, destinoRequest _, DHCP_SERVER_PORT⟩ :: p₁.enviados : List Datagrama) = _
    rw [hdest, hp₁]
  · exact (ultima_request hdest).1
  · rw [(ultima_request hdest).2.1, hp₁]
    exact congrArg (fun ip : IP => some ip.bytes) (yiaddr_recibido hf.largo)
  · exact (ultima_request hdest).2.2

end

/-- The board of the script, at its first look at the DHCP socket. -/
def placaOferta : Placa PortVars Ensayo :=
  { Placa.inicial { llegadas := [Ensayo.respuesta DHCP_OFFER] : Ensayo } with dhcp := buscando }

/-- The datagram of the script is taken. -/
theorem llega_ensayo {p : Placa PortVars Ensayo} {type : UInt8} {ocupada : Bool} {tics : UInt32}
    (hs : p.dhcp.dhcpSocket = DHCP_SOCKET_NUM)
    (he : p.entorno = { llegadas := [Ensayo.respuesta type], ocupada := ocupada, tics := tics }) :
    llega p = (some ⟨268, Ensayo.respuesta type, Ensayo.servidor, DHCP_SERVER_PORT⟩,
      { p with entorno := { llegadas := [], ocupada := ocupada, tics := tics } }) := by
  obtain ⟨d, regs, app, e, diario, enviados, ultimoAck⟩ := p
  dsimp only at hs he
  obtain ⟨q, hq⟩ : ∃ q : Placa PortVars Ensayo, q = ⟨d, regs, app, e, diario, enviados, ultimoAck⟩ := ⟨_, rfl⟩
  have hsocket : conSocket q = q := by
    rw [hq, he]
    unfold conSocket
    dsimp only
    rw [hs]
    rfl
  have hlen : enRed (Red.getSnRXRSR q.dhcp.dhcpSocket) q = ((Ensayo.respuesta type).length.toUInt16, q) := by
    rw [hq, he]
    rfl
  rw [length_respuesta] at hlen
  rw [← hq]
  refine llega_some hsocket hlen (by decide) ?_
  rw [hq, he]
  show ((⟨((Ensayo.respuesta type).length : Int), _, _, _⟩, _) : Recibido × Placa PortVars Ensayo) = _
  rw [length_respuesta]
  rfl

theorem run_offer_oferta : ∃ p', DHCP.run 4 placaOferta = .ok DHCP_RUNNING p' ∧
    p'.dhcp.allocatedIp = Ensayo.direccion ∧ p'.dhcp.dhcpSip = Ensayo.servidor ∧ p'.enviados.length = 1 := by
  obtain ⟨p', bytes, hrun, -, hip, hsip, henv, -⟩ := @run_offer _ _ PortVars Ensayo _ _ _ 4 placaOferta _ recibidaOferta
    rfl rfl (by decide) (llega_ensayo rfl rfl) (formato_respuesta _) (by decide +kernel) (by decide +kernel)
    (by decide +kernel) (by decide +kernel) rfl
  refine ⟨p', hrun, ?_, ?_, ?_⟩
  · rw [hip]
    decide +kernel
  · rw [hsip]
    decide +kernel
  · rw [henv]
    rfl

end DHCP

end Wiznet
