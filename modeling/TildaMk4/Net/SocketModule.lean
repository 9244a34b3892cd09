import TildaMk4.Net.DottedNotation
import TildaMk4.Net.GetAddrInfo

/-!
# The addresses of `usocket`

`mod_socket_getaddrinfo` and `mod_socket_sockaddr` of `modsocket.c`: an address goes from
its text into the bytes of a `sockaddr_in`, and from there into a tuple.
-/

namespace TildaMk4.Net

open Memory

/-! ## The module -/

/-- The second argument of `getaddrinfo`. -/
inductive Service
  | port (value : Int)
  | name (text : List Char)

/-- The arguments of `usocket.getaddrinfo`. -/
structure ModuleArgs where
  host : List Char
  service : Service
  family : Option Family
  socktype : Option Socktype

/-- A socket address in a buffer: `sa_family`, and the bytes behind it. -/
structure Sockaddr where
  saFamily : Family
  saData : List UInt8
  deriving DecidableEq

/-- An element of the list that is returned; there is no canonical name in any. -/
structure AddrTuple where
  family : Family
  socktype : Socktype
  protocol : Protocol
  addr : Sockaddr
  deriving DecidableEq

/-- How `getaddrinfo` is left when it returns no list. -/
inductive LookupRaised
  | osError (message : List Char)
  | typeError
  deriving DecidableEq

/-- `MP_OBJ_IS_SMALL_INT`: all integers that a word has room for beside its tag. -/
def SmallInt (value : Int) : Prop := -2 ^ 30 ≤ value ∧ value < 2 ^ 30

instance (value : Int) : Decidable (SmallInt value) := inferInstanceAs (Decidable (_ ∧ _))

/-- `snprintf(buf, sizeof(buf), "%u", port)` for `(unsigned short)` of the value. -/
def portText (value : Int) : List Char := Nat.toDigits 10 (UInt16.ofInt value).toNat

/-- `serv`: an integer that is not small is no string either, and `mp_obj_str_get_str`
raises. -/
def Service.text : Service → Except LookupRaised (List Char)
  | .port value => if SmallInt value then .ok (portText value) else .error .typeError
  | .name text => .ok text

/-- `"[addrinfo error %d]"` -/
def addrinfoError (code : Int) : List Char :=
  "[addrinfo error ".toList ++ (toString code).toList ++ [']']

/-- The hints are zeros where no argument sets them. -/
def ModuleArgs.hints (aiNumericserv : UInt32) (args : ModuleArgs) : Hints where
  flags :=
    match args.service with
    | .port _ => aiNumericserv
    | .name _ => 0
  family := args.family.getD .unspec
  socktype := args.socktype.getD .any
  protocol := .any

/-- The `sockaddr_in` of a node: `sin_port`, `sin_addr` and `sin_zero` lie behind the family. -/
def AddrInfo.sockaddr (node : AddrInfo) : Sockaddr :=
  ⟨node.family, encodeLE 2 node.sinPort.toNat ++ stored node.sinAddr ++ List.replicate 8 0⟩

def AddrInfo.tuple (node : AddrInfo) : AddrTuple :=
  ⟨node.family, node.socktype, node.protocol, node.sockaddr⟩

/-- `mod_socket_getaddrinfo`: what it raises, or the list. -/
def modSocketGetaddrinfo (net : Resolver) (aiNumericserv : UInt32) (args : ModuleArgs) :
    Except LookupRaised (List AddrTuple) :=
  match args.service.text with
  | .error raised => .error raised
  | .ok serv =>
    let result := getaddrinfo net
      ⟨some args.host, some serv, some (args.hints aiNumericserv), true⟩
    if result.code ≠ 0 then .error (.osError (addrinfoError result.code))
    else .ok (result.res.map AddrInfo.tuple)

/-- `ntohs` -/
def ntohs (network : UInt16) : UInt16 := htons network

/-- `ntohl` -/
def ntohl (network : UInt32) : UInt32 := htonl network

/-- `MP_OBJ_NEW_SMALL_INT`: the topmost bit makes room for the tag. -/
def newSmallInt (value : Nat) : Int := Int.bmod value (2 ^ 31)

/-- The tuples of `mod_socket_sockaddr`, whose first element is the family. -/
inductive SockaddrTuple
  | inet (sinAddr : List UInt8) (sinPort : Int)
  | inet6 (sin6Addr : List UInt8) (sin6Port sin6Flowinfo sin6ScopeId : Int)
  | other (saFamily : Family) (saData : List UInt8)
  deriving DecidableEq

/-- `size` bytes at an offset behind the family, if the buffer holds them. -/
def Sockaddr.field (sa : Sockaddr) (offset size : Nat) : Option (List UInt8) :=
  if offset + size ≤ sa.saData.length then some ((sa.saData.drop offset).take size) else none

/-- A `uint16_t` in network order. -/
def fromNetwork16 (bytes : List UInt8) : Int :=
  newSmallInt (ntohs (.ofNat (decodeLE bytes))).toNat

/-- A `uint32_t` in network order. -/
def fromNetwork32 (bytes : List UInt8) : Int :=
  newSmallInt (ntohl (.ofNat (decodeLE bytes))).toNat

/-- `mod_socket_sockaddr`; `none` where it reads beyond the buffer. -/
def modSocketSockaddr (sa : Sockaddr) : Option SockaddrTuple :=
  match sa.saFamily with
  | .inet => do
    let sinPort ← sa.field 0 2
    let sinAddr ← sa.field 2 4
    return .inet sinAddr (fromNetwork16 sinPort)
  | .inet6 => do
    let sin6Port ← sa.field 0 2
    let sin6Flowinfo ← sa.field 2 4
    let sin6Addr ← sa.field 6 16
    let sin6ScopeId ← sa.field 22 4
    return .inet6 sin6Addr (fromNetwork16 sin6Port) (fromNetwork32 sin6Flowinfo)
      (fromNetwork32 sin6ScopeId)
  | saFamily => some (.other saFamily sa.saData)

/-! ## Round trips -/

theorem ntohs_htons (host : UInt16) : ntohs (htons host) = host := by
  apply UInt16.eq_of_toBitVec_eq
  apply BitVec.eq_of_getLsbD_eq
  intro i bound
  interval_cases i <;> simp [ntohs, htons]

theorem Sockaddr.field_append {saFamily : Family} (before bytes behind : List UInt8) :
    (Sockaddr.mk saFamily (before ++ bytes ++ behind)).field before.length bytes.length =
      some bytes := by
  have inside : before.length + bytes.length ≤ (before ++ bytes ++ behind).length := by simp
  rw [Sockaddr.field, if_pos inside, List.append_assoc, List.drop_left, List.take_left]

theorem newSmallInt_eq {value : Nat} (small : value < 2 ^ 30) : newSmallInt value = value :=
  Int.bmod_eq_of_le (by omega) (by omega)

theorem fromNetwork16_encodeLE (network : UInt16) :
    fromNetwork16 (encodeLE 2 network.toNat) = (ntohs network).toNat := by
  have fits : network.toNat < 256 ^ 2 := network.toNat_lt
  rw [fromNetwork16, decodeLE_encodeLE fits, UInt16.ofNat_toNat]
  exact newSmallInt_eq (Nat.lt_trans (ntohs network).toNat_lt (by decide))

/-- The node of an IPv4 address is read as one, and nothing beyond it. -/
theorem modSocketSockaddr_inet {node : AddrInfo} (inet : node.family = .inet) :
    modSocketSockaddr node.sockaddr =
      some (.inet (stored node.sinAddr) (ntohs node.sinPort).toNat) := by
  have sinPort : node.sockaddr.field 0 2 = some (encodeLE 2 node.sinPort.toNat) := by
    rw [AddrInfo.sockaddr, List.append_assoc]
    exact Sockaddr.field_append [] (encodeLE 2 node.sinPort.toNat) _
  have sinAddr : node.sockaddr.field 2 4 = some (stored node.sinAddr) :=
    Sockaddr.field_append (encodeLE 2 node.sinPort.toNat) (stored node.sinAddr) _
  have family : node.sockaddr.saFamily = .inet := inet
  rw [modSocketSockaddr, family]
  dsimp only
  rw [sinPort, sinAddr, Option.bind_eq_bind, Option.bind_some, Option.bind_some,
    fromNetwork16_encodeLE]
  rfl

/-- `atoi` reads what `%u` writes. -/
def Resolver.ReadsPorts (net : Resolver) : Prop :=
  ∀ port : UInt16, net.atoi (Nat.toDigits 10 port.toNat) = .ofNat port.toNat

theorem port_text (net : Resolver) (reads : net.ReadsPorts) (value : Int) :
    (net.atoi (portText value)).toUInt32.toUInt16 = .ofInt value := by
  rw [portText, reads]
  exact UInt16.toNat_inj.mp (by simp)

/-- The bytes of a quad in host order. -/
theorem toNat_quad (a b c d : UInt8) :
    ((a.toUInt32 <<< 24) + (b.toUInt32 <<< 16) + (c.toUInt32 <<< 8) + d.toUInt32).toNat =
      decodeLE [d, c, b, a] := by
  have fits := And.intro (And.intro a.toNat_lt b.toNat_lt) (And.intro c.toNat_lt d.toNat_lt)
  simp only [UInt32.toNat_add, UInt32.toNat_shiftLeft, UInt8.toNat_toUInt32, Nat.shiftLeft_eq,
    decodeLE]
  simp
  omega

theorem stored_quad (a b c d : UInt8) :
    stored (htonl ((a.toUInt32 <<< 24) + (b.toUInt32 <<< 16) + (c.toUInt32 <<< 8) +
      d.toUInt32)) = [a, b, c, d] := by
  have bytes := encodeLE_decodeLE [d, c, b, a]
  rw [List.length_cons, List.length_cons, List.length_cons, List.length_singleton] at bytes
  rw [stored_htonl, stored, toNat_quad, bytes]
  rfl

/-- An address of the host: the literal's, or the answer of the DNS. -/
def HostAddr (net : Resolver) (host : List Char) (addr : UInt32) : Prop :=
  inetAton host = some addr ∨
    inetAton host = none ∧ ∃ answer, net.dnsGetHostByName host = some answer ∧ addr = htonl answer

section Answered

variable {net : Resolver} {host service : List Char} {hints : Hints}

theorem answer_zero {ai : List AddrInfo × Mallocs} (zero : (answer ai).code = 0) : ai.1 ≠ [] := by
  intro empty
  rw [answer, if_pos empty] at zero
  exact absurd zero (show eaiMemory ≠ 0 by decide)

theorem clientInfo_zero (zero : (clientInfo net host service hints).code = 0) :
    ∃ addr, HostAddr net host addr ∧ (setAddrInfo net addr service hints).1 ≠ [] ∧
      (clientInfo net host service hints).res = (setAddrInfo net addr service hints).1 := by
  rw [clientInfo] at zero ⊢
  cases literal : inetAton host with
  | some addr =>
    rw [literal] at zero
    dsimp only at zero ⊢
    split at zero
    next => exact absurd zero (show eaiAddrfamily ≠ 0 by decide)
    next matching =>
      rw [if_neg matching]
      exact ⟨addr, .inl literal, answer_zero zero, rfl⟩
  | none =>
    rw [literal] at zero
    dsimp only at zero ⊢
    split at zero
    next => exact absurd zero (show eaiNoname ≠ 0 by decide)
    next named =>
      rw [if_neg named]
      rw [lookupDNS] at zero ⊢
      cases known : net.dnsGetHostByName host with
      | none =>
        rw [known] at zero
        exact absurd zero (show eaiMemory ≠ 0 by decide)
      | some found =>
        rw [known] at zero
        exact ⟨htonl found, .inr ⟨literal, found, known, rfl⟩, answer_zero zero, rfl⟩

/-- A list that is returned holds the nodes of an address of the host. -/
theorem ok_nodes {aiNumericserv : UInt32} {args : ModuleArgs} {list : List AddrTuple}
    (ok : modSocketGetaddrinfo net aiNumericserv args = .ok list) :
    ∃ serv addr, args.service.text = .ok serv ∧ HostAddr net args.host addr ∧
      (setAddrInfo net addr serv (args.hints aiNumericserv)).1 ≠ [] ∧
      list = (setAddrInfo net addr serv (args.hints aiNumericserv)).1.map AddrInfo.tuple := by
  unfold modSocketGetaddrinfo at ok
  split at ok
  next => cases ok
  next serv text =>
    dsimp only at ok
    split at ok
    next => cases ok
    next zero =>
      rw [not_not] at zero
      cases ok
      by_cases valid : Valid ⟨some args.host, some serv, some (args.hints aiNumericserv), true⟩
      · rw [getaddrinfo_valid valid] at zero ⊢
        obtain ⟨addr, host, some_, same⟩ := clientInfo_zero zero
        exact ⟨serv, addr, text, host, some_, congrArg (List.map AddrInfo.tuple) same⟩
      · obtain ⟨code, nonzero, refused⟩ := getaddrinfo_invalid net valid
        rw [refused] at zero
        exact absurd zero nonzero

end Answered

theorem text_port {port : Int} {serv : List Char} (text : (Service.port port).text = .ok serv) :
    serv = portText port := by
  rw [Service.text] at text
  split at text
  · cases text
    rfl
  · cases text

/-- What is returned names the address and the port, each tuple of the list. -/
theorem sockaddr_of_ok {net : Resolver} (reads : net.ReadsPorts) {aiNumericserv : UInt32}
    {args : ModuleArgs} {port : Int} (numeric : args.service = .port port) {list : List AddrTuple}
    (ok : modSocketGetaddrinfo net aiNumericserv args = .ok list) :
    ∃ addr, HostAddr net args.host addr ∧ list ≠ [] ∧ ∀ t ∈ list,
      modSocketSockaddr t.addr = some (.inet (stored addr) (UInt16.ofInt port).toNat) := by
  obtain ⟨serv, addr, text, host, some_, rfl⟩ := ok_nodes ok
  rw [numeric] at text
  cases text_port text
  refine ⟨addr, host, by simpa using some_, fun t member => ?_⟩
  obtain ⟨node, made, rfl⟩ := List.mem_map.mp member
  obtain ⟨inet, address, portBytes⟩ := setAddrInfo_made.nodes node made
  rw [port_text net reads] at portBytes
  rw [AddrInfo.tuple, modSocketSockaddr_inet inet, address, portBytes, ntohs_htons]

/-- A dotted quad and a port go through `getaddrinfo` and `sockaddr` unchanged. -/
theorem sockaddr_getaddrinfo {net : Resolver} (reads : net.ReadsPorts) (aiNumericserv : UInt32)
    (a b c d : UInt8) (port : Int) (family : Option Family) (socktype : Option Socktype)
    {list : List AddrTuple}
    (ok : modSocketGetaddrinfo net aiNumericserv ⟨dotted a b c d, .port port, family, socktype⟩ =
      .ok list) :
    list ≠ [] ∧ ∀ t ∈ list,
      modSocketSockaddr t.addr = some (.inet [a, b, c, d] (UInt16.ofInt port).toNat) := by
  obtain ⟨addr, literal | ⟨name, _⟩, some_, all⟩ := sockaddr_of_ok reads rfl ok
  · rw [inetAton_dotted] at literal
    cases literal
    rw [stored_quad] at all
    exact ⟨some_, all⟩
  · rw [inetAton_dotted] at name
    cases name

/-- Reads digits, and has room for one node. -/
def oneNode : Resolver where
  atoi text := .ofNat (Nat.ofDigitChars 10 text 0)
  inetPton := inetAton
  dnsGetHostByName _ := none
  malloc call := call = 0

theorem oneNode_reads : oneNode.ReadsPorts := fun _ =>
  congrArg Int32.ofNat (Nat.ofDigitChars_toDigits (by decide) (by decide))

/-- The node of 127.0.0.1 and port 8080 that is made. -/
def loopbackTuple : AddrTuple :=
  (AddrInfo.mk 0 8 .inet .dgram .udp (htons 8080) (htonl 0x7F000001)).tuple

theorem sockaddr_getaddrinfo_loopback :
    [loopbackTuple] ≠ [] ∧ ∀ t ∈ [loopbackTuple],
      modSocketSockaddr t.addr = some (.inet [127, 0, 0, 1] (UInt16.ofInt 8080).toNat) :=
  sockaddr_getaddrinfo oneNode_reads 8 127 0 0 1 8080 none none (by decide)

/-! ## Names -/

/-- The DNS knows the host, and there is room for one of its nodes. -/
def Reachable (net : Resolver) (host : List Char) : Prop :=
  (net.dnsGetHostByName host).isSome ∧ (net.malloc 0 ∨ net.malloc 1)

instance (net : Resolver) (host : List Char) : Decidable (Reachable net host) :=
  inferInstanceAs (Decidable (_ ∧ _))

theorem setAddrInfo_ne_nil (net : Resolver) (addr : UInt32) (service : List Char) {hints : Hints}
    (socktype : hints.socktype = .any) (protocol : hints.protocol = .any) :
    (setAddrInfo net addr service hints).1 ≠ [] ↔ net.malloc 0 ∨ net.malloc 1 := by
  have compatible (pair : Pair) : hints.Compatible pair := ⟨.inl socktype, .inl protocol⟩
  have made : Made net hints addr service [.tcp, .udp] (setAddrInfo net addr service hints) :=
    setAddrInfo_made
  have second : hints.allocation .tcp = 1 := if_pos (compatible .udp)
  constructor
  · intro some_
    obtain ⟨node, member⟩ := List.exists_mem_of_ne_nil _ some_
    obtain ⟨pair, _, succeeds⟩ := made.granted_of_node member
    cases pair with
    | udp => exact .inl succeeds
    | tcp => exact .inr (second ▸ succeeds)
  · rintro (udp | tcp)
    · have granted : Granted net hints .udp := ⟨compatible _, udp⟩
      obtain ⟨node, member, _⟩ := made.node_of_granted (by decide) granted
      exact List.ne_nil_of_mem member
    · have granted : Granted net hints .tcp := ⟨compatible _, second.symm ▸ tcp⟩
      obtain ⟨node, member, _⟩ := made.node_of_granted (by decide) granted
      exact List.ne_nil_of_mem member

section Names

variable {net : Resolver} {aiNumericserv : UInt32} {host : List Char} {port : Int}

/-- A lookup of a name, with no more than a port. -/
def named (host : List Char) (port : Int) : ModuleArgs := ⟨host, .port port, none, none⟩

/-- A port that is not small is refused before anything is looked up. -/
theorem lookup_refused (large : ¬SmallInt port) :
    modSocketGetaddrinfo net aiNumericserv (named host port) = .error .typeError := by
  have text : (named host port).service.text = .error .typeError := if_neg large
  rw [modSocketGetaddrinfo, text]

/-- The nodes of a name are the DNS's, unless it may only be a number. -/
theorem modSocketGetaddrinfo_named (small : SmallInt port) (name : inetAton host = none)
    (apart : aiNumericserv &&& aiNumerichost = 0) :
    modSocketGetaddrinfo net aiNumericserv (named host port) =
      let result :=
        answer (lookupDNS net host (portText port) ((named host port).hints aiNumericserv))
      if result.code ≠ 0 then .error (.osError (addrinfoError result.code))
      else .ok (result.res.map AddrInfo.tuple) := by
  have text : (named host port).service.text = .ok (portText port) := if_pos small
  have valid : Valid ⟨some (named host port).host, some (portText port),
      some ((named host port).hints aiNumericserv), true⟩ :=
    ⟨.inl (Option.some_ne_none _), rfl, rfl⟩
  have looked : getaddrinfo net ⟨some (named host port).host, some (portText port),
      some ((named host port).hints aiNumericserv), true⟩ =
        answer (lookupDNS net host (portText port) ((named host port).hints aiNumericserv)) := by
    rw [getaddrinfo_valid valid]
    dsimp only [LookupArgs.given, Option.getD_some, named]
    rw [clientInfo, name]
    exact if_neg (not_not.mpr apart)
  rw [modSocketGetaddrinfo, text]
  dsimp only
  rw [looked]

/-- A name that cannot be reached is error -15, the one for memory, whatever the reason. -/
theorem lookup_unreachable (small : SmallInt port) (name : inetAton host = none)
    (apart : aiNumericserv &&& aiNumerichost = 0) (unreachable : ¬Reachable net host) :
    modSocketGetaddrinfo net aiNumericserv (named host port) =
      .error (.osError "[addrinfo error -15]".toList) := by
  have empty : (lookupDNS net host (portText port)
      ((named host port).hints aiNumericserv)).1 = [] := by
    rw [lookupDNS]
    cases known : net.dnsGetHostByName host with
    | none => rfl
    | some found =>
      by_contra some_
      rw [← ne_eq, setAddrInfo_ne_nil net _ _ rfl rfl] at some_
      exact unreachable ⟨by rw [known]; rfl, some_⟩
  have message : addrinfoError eaiMemory = "[addrinfo error -15]".toList := by decide
  rw [modSocketGetaddrinfo_named small name apart, answer, if_pos empty, ← message]
  exact if_pos (show eaiMemory ≠ 0 by decide)

theorem lookup_reachable (small : SmallInt port) (name : inetAton host = none)
    (apart : aiNumericserv &&& aiNumerichost = 0) (reachable : Reachable net host) :
    ∃ list, modSocketGetaddrinfo net aiNumericserv (named host port) = .ok list := by
  obtain ⟨known, room⟩ := reachable
  obtain ⟨found, known⟩ := Option.isSome_iff_exists.mp known
  have some_ : (lookupDNS net host (portText port)
      ((named host port).hints aiNumericserv)).1 ≠ [] := by
    rw [lookupDNS, known]
    exact (setAddrInfo_ne_nil net _ _ rfl rfl).mpr room
  rw [modSocketGetaddrinfo_named small name apart, answer, if_neg some_]
  exact ⟨_, if_neg (not_not.mpr rfl)⟩

end Names

end TildaMk4.Net
