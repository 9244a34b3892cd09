import Mathlib.Algebra.Group.Nat.Defs
import Mathlib.Data.List.Perm.Basic
import TildaMk4.Net.InetAddr

/-!
# `getaddrinfo`

The answer is a list of at most two nodes, TCP before UDP. The path over the DNS
does not compare the family of its answer with the one that was asked for: this is
the one way in which an answer can be wrong.
-/

namespace TildaMk4.Net

/-! ## Arguments -/

inductive Family
  | unspec
  | inet
  | inet6
  | other (value : Int32)
  deriving DecidableEq

inductive Socktype
  | any
  | stream
  | dgram
  | other (value : Int32)
  deriving DecidableEq

inductive Protocol
  | any
  | tcp
  | udp
  | other (value : Int32)
  deriving DecidableEq

abbrev aiPassive : UInt32 := 1

abbrev aiNumerichost : UInt32 := 4

structure Hints where
  flags : UInt32
  family : Family
  socktype : Socktype
  protocol : Protocol
  deriving DecidableEq

def defHints : Hints := ⟨0, .unspec, .any, .any⟩

/-- `none` is `NULL`; of `res` only matters whether it is. -/
structure LookupArgs where
  node : Option (List Char)
  service : Option (List Char)
  hints : Option Hints
  res : Bool

/-- What `getaddrinfo` calls: `atoi`, `inet_pton` for `AF_INET`, the DNS (an address in
host order), and the outcome of each call of `malloc`. -/
structure Resolver where
  atoi : List Char → Int32
  inetPton : List Char → Option UInt32
  dnsGetHostByName : List Char → Option UInt32
  malloc : Nat → Bool

/-! ## Results -/

abbrev eaiAddrfamily : Int := -9
abbrev eaiNoname : Int := -11
abbrev eaiSocktype : Int := -12
abbrev eaiFamily : Int := -13
abbrev eaiSystem : Int := -14
abbrev eaiMemory : Int := -15

/-- A node with the `sockaddr_in` that it holds; `block` numbers its allocation. -/
structure AddrInfo where
  block : Nat
  flags : UInt32
  family : Family
  socktype : Socktype
  protocol : Protocol
  sinPort : UInt16
  sinAddr : UInt32
  deriving DecidableEq

/-- The calls of `malloc` so far, and how many of them succeeded. -/
structure Mallocs where
  calls : Nat
  allocated : Nat
  deriving DecidableEq

structure LookupResult where
  code : Int
  res : List AddrInfo
  mallocs : Mallocs
  deriving DecidableEq

def htons (host : UInt16) : UInt16 := (host <<< 8) ||| (host >>> 8)

section Code

variable (net : Resolver)

/-- `createAddrInfo` for `AF_INET`. -/
def createAddrInfo (mallocs : Mallocs) (addr : UInt32) (service : List Char) (flags : UInt32)
    (socktype : Socktype) (protocol : Protocol) : Option AddrInfo × Mallocs :=
  if net.malloc mallocs.calls then
    (some {
      block := mallocs.allocated
      flags
      family := .inet
      socktype
      protocol
      sinPort := htons (net.atoi service).toUInt32.toUInt16
      sinAddr := addr }, ⟨mallocs.calls + 1, mallocs.allocated + 1⟩)
  else (none, ⟨mallocs.calls + 1, mallocs.allocated⟩)

/-- The hints ask for `socktype` and `protocol`, or leave them open. -/
def Hints.Permits (hints : Hints) (socktype : Socktype) (protocol : Protocol) : Prop :=
  hints.socktype = .any ∧ hints.protocol = .any ∨
    hints.socktype = .any ∧ hints.protocol = protocol ∨
    hints.socktype = socktype ∧ hints.protocol = .any ∨
    hints.socktype = socktype ∧ hints.protocol = protocol

instance (hints : Hints) (socktype : Socktype) (protocol : Protocol) :
    Decidable (hints.Permits socktype protocol) :=
  inferInstanceAs (Decidable (_ ∨ _))

/-- `setAddrInfo`: the UDP node is made first and comes last. -/
def setAddrInfo (addr : UInt32) (service : List Char) (hints : Hints) :
    List AddrInfo × Mallocs :=
  let udp := if hints.Permits .dgram .udp then
      createAddrInfo net ⟨0, 0⟩ addr service hints.flags .dgram .udp
    else (none, ⟨0, 0⟩)
  if hints.Permits .stream .tcp then
    let tcp := createAddrInfo net udp.2 addr service hints.flags .stream .tcp
    (tcp.1.toList ++ udp.1.toList, tcp.2)
  else (udp.1.toList, udp.2)

/-- "Check the user's hints for invalid settings". -/
def checkHints (hints : Hints) : Option Int :=
  if hints.socktype ≠ .stream ∧ hints.socktype ≠ .dgram ∧ hints.socktype ≠ .any then
    some eaiSocktype
  else if hints.protocol ≠ .tcp ∧ hints.protocol ≠ .udp ∧ hints.protocol ≠ .any then
    some eaiSocktype
  else if hints.family ≠ .inet ∧ hints.family ≠ .inet6 ∧ hints.family ≠ .unspec then
    some eaiFamily
  else none

/-- A return before `*res` is set, which is `NULL` before the call. -/
def refuse (code : Int) : LookupResult := ⟨code, [], ⟨0, 0⟩⟩

/-- `*res = ai`, and the code that goes with it. -/
def answer (ai : List AddrInfo × Mallocs) : LookupResult :=
  ⟨if ai.1 = [] then eaiMemory else 0, ai.1, ai.2⟩

/-- `lookupDNS`: whatever the hints say of the family. -/
def lookupDNS (node service : List Char) (hints : Hints) : List AddrInfo × Mallocs :=
  match net.dnsGetHostByName node with
  | some addr => setAddrInfo net (htonl addr) service hints
  | none => ([], ⟨0, 0⟩)

/-- The client case. -/
def clientInfo (node service : List Char) (hints : Hints) : LookupResult :=
  match inetAton node with
  | some addr =>
    if hints.family ≠ .inet ∧ hints.family ≠ .unspec then refuse eaiAddrfamily
    else answer (setAddrInfo net addr service hints)
  | none =>
    if hints.flags &&& aiNumerichost ≠ 0 then refuse eaiNoname
    else answer (lookupDNS net node service hints)

/-- The server case. -/
def serverInfo (service : List Char) (hints : Hints) : LookupResult :=
  if hints.family = .inet ∨ hints.family = .unspec then
    if hints.flags &&& aiPassive ≠ 0 then
      answer (setAddrInfo net (htonl 0) service hints)
    else match net.inetPton "127.0.0.1".toList with
      | some addr => answer (setAddrInfo net addr service hints)
      | none => refuse eaiSystem
  else answer ([], ⟨0, 0⟩)

def getaddrinfo (args : LookupArgs) : LookupResult :=
  if args.node = none ∧ args.service = none then refuse eaiNoname
  else
    let service := args.service.getD "0".toList
    if args.res = false then refuse eaiNoname
    else match args.hints.bind checkHints with
      | some code => refuse code
      | none =>
        let hints := args.hints.getD defHints
        match args.node with
        | some node => clientInfo net node service hints
        | none => serverInfo net service hints

end Code

/-- `freeaddrinfo`: the blocks that it frees, in this order. -/
def freeaddrinfo : List AddrInfo → List Nat
  | [] => []
  | res :: aiTmp => res.block :: freeaddrinfo aiTmp

/-! ## What is asked for -/

/-- The two kinds of node. -/
inductive Pair
  | tcp
  | udp
  deriving DecidableEq

def Pair.kind : Pair → Socktype × Protocol
  | tcp => (.stream, .tcp)
  | udp => (.dgram, .udp)

def AddrInfo.kind (node : AddrInfo) : Socktype × Protocol := (node.socktype, node.protocol)

def Hints.Compatible (hints : Hints) (pair : Pair) : Prop :=
  (hints.socktype = .any ∨ hints.socktype = pair.kind.1) ∧
    (hints.protocol = .any ∨ hints.protocol = pair.kind.2)

instance (hints : Hints) (pair : Pair) : Decidable (hints.Compatible pair) :=
  inferInstanceAs (Decidable (_ ∧ _))

/-- The call of `malloc` that is for a pair: UDP goes first. -/
def Hints.allocation (hints : Hints) : Pair → Nat
  | .udp => 0
  | .tcp => if hints.Compatible .udp then 1 else 0

/-- The hints, with zeros for `NULL`. -/
def LookupArgs.given (args : LookupArgs) : Hints := args.hints.getD defHints

/-- The port is the low 16 bits of `atoi(service)`, in network order. -/
def Resolver.port (net : Resolver) (args : LookupArgs) : UInt16 :=
  htons (.ofNat ((net.atoi (args.service.getD "0".toList)).toBitVec.toNat % 2 ^ 16))

section Asked

variable (net : Resolver) (args : LookupArgs)

/-- The arguments are not refused for their own sake. -/
structure Valid : Prop where
  named : args.node ≠ none ∨ args.service ≠ none
  res : args.res = true
  hints : args.hints.bind checkHints = none

/-- The node is a name, and the DNS knows it. -/
def DnsAnswers (addr : UInt32) : Prop :=
  ∃ node answer, args.node = some node ∧ inetAton node = none ∧
    net.dnsGetHostByName node = some answer ∧ addr = htonl answer

/-- An address that is asked for: the literal's, the answer of the DNS, `INADDR_ANY`
or the loopback address. -/
def Asked (addr : UInt32) : Prop :=
  (∃ node, args.node = some node ∧ inetAton node = some addr) ∨ DnsAnswers net args addr ∨
    args.node = none ∧
      addr = htonl (if args.given.flags &&& aiPassive ≠ 0 then 0 else 0x7F000001)

/-- There is an address to be had of the family that is asked for. -/
structure Resolves : Prop where
  valid : Valid args
  family : args.given.family = .inet ∨ args.given.family = .unspec
  asked : ∃ addr, Asked net args addr
  numerichost : ∀ addr, DnsAnswers net args addr → args.given.flags &&& aiNumerichost = 0

/-- What was asked is answered. -/
structure Answers (result : LookupResult) : Prop where
  code : result.code = 0 ↔ result.res ≠ []
  family : ∀ node ∈ result.res,
    args.given.family = .unspec ∨ node.family = args.given.family
  pairs : ∃ pairs : List Pair, pairs.Sublist [.tcp, .udp] ∧
    (∀ pair ∈ pairs, args.given.Compatible pair) ∧
    result.res.map AddrInfo.kind = pairs.map Pair.kind
  tried : Resolves net args → ∀ pair, args.given.Compatible pair →
    args.given.allocation pair < result.mallocs.calls
  present : ∀ pair, args.given.Compatible pair →
    args.given.allocation pair < result.mallocs.calls →
    net.malloc (args.given.allocation pair) = true → ∃ node ∈ result.res, node.kind = pair.kind
  address : ∀ node ∈ result.res, Asked net args node.sinAddr
  port : ∀ node ∈ result.res, node.sinPort = net.port args
  freed : (freeaddrinfo result.res).Perm (List.range result.mallocs.allocated)

/-- An IPv6 address is asked for, of a name that the DNS knows an IPv4 address of,
and a node is made. -/
structure FamilyIgnored : Prop where
  valid : Valid args
  family : args.given.family = .inet6
  answered : ∃ addr, DnsAnswers net args addr
  numerichost : args.given.flags &&& aiNumerichost = 0
  made : ∃ pair, args.given.Compatible pair ∧
    net.malloc (args.given.allocation pair) = true

end Asked

/-! ## The nodes that are made -/

section Made

variable {net : Resolver} {hints : Hints} {addr : UInt32} {service : List Char}

theorem permits_iff (pair : Pair) :
    hints.Permits pair.kind.1 pair.kind.2 ↔ hints.Compatible pair := by
  rw [Hints.Permits, Hints.Compatible]
  tauto

/-- A node of a pair is put before those that are there. -/
def addPair (net : Resolver) (hints : Hints) (addr : UInt32) (service : List Char)
    (ai : List AddrInfo × Mallocs) (pair : Pair) : List AddrInfo × Mallocs :=
  if hints.Permits pair.kind.1 pair.kind.2 then
    let made := createAddrInfo net ai.2 addr service hints.flags pair.kind.1 pair.kind.2
    (made.1.toList ++ ai.1, made.2)
  else ai

theorem setAddrInfo_eq : setAddrInfo net addr service hints =
    addPair net hints addr service (addPair net hints addr service ([], ⟨0, 0⟩) .udp) .tcp := by
  by_cases udp : hints.Permits .dgram .udp
  · simp [setAddrInfo, addPair, Pair.kind, udp]
  · simp [setAddrInfo, addPair, Pair.kind, udp]

/-- The pair is compatible and its allocation succeeds. -/
abbrev Granted (net : Resolver) (hints : Hints) (pair : Pair) : Prop :=
  hints.Compatible pair ∧ net.malloc (hints.allocation pair) = true

/-- The nodes that are there once the pairs `done` have had their turn. -/
structure Made (net : Resolver) (hints : Hints) (addr : UInt32) (service : List Char)
    (done : List Pair) (ai : List AddrInfo × Mallocs) : Prop where
  kinds : ai.1.map AddrInfo.kind = (done.filter (Granted net hints)).map Pair.kind
  blocks : ai.1.map AddrInfo.block = (List.range ai.2.allocated).reverse
  calls : ai.2.calls = (done.filter (hints.Compatible ·)).length
  nodes : ∀ node ∈ ai.1, node.family = .inet ∧ node.sinAddr = addr ∧
    node.sinPort = htons (net.atoi service).toUInt32.toUInt16

theorem Made.start : Made net hints addr service [] ([], ⟨0, 0⟩) :=
  ⟨rfl, rfl, rfl, nofun⟩

theorem Made.add {done : List Pair} {ai : List AddrInfo × Mallocs}
    (made : Made net hints addr service done ai) {pair : Pair}
    (turn : hints.allocation pair = ai.2.calls) :
    Made net hints addr service (pair :: done) (addPair net hints addr service ai pair) := by
  by_cases compatible : hints.Compatible pair
  · have permitted := (permits_iff pair).mpr compatible
    have counted : (done.filter (hints.Compatible ·)).length + 1 =
        ((pair :: done).filter (hints.Compatible ·)).length := by
      rw [List.filter_cons, if_pos (decide_eq_true compatible), List.length_cons]
    rw [addPair, if_pos permitted, createAddrInfo]
    by_cases succeeds : net.malloc ai.2.calls = true
    · have granted : Granted net hints pair := ⟨compatible, turn.symm ▸ succeeds⟩
      rw [if_pos succeeds]
      refine ⟨?_, ?_, (congrArg (· + 1) made.calls).trans counted, ?_⟩
      · rw [List.filter_cons, if_pos (decide_eq_true granted), List.map_cons]
        exact congrArg (pair.kind :: ·) made.kinds
      · rw [List.range_succ, List.reverse_append]
        exact congrArg (ai.2.allocated :: ·) made.blocks
      · intro node member
        rcases List.mem_cons.mp member with rfl | before
        · exact ⟨rfl, rfl, rfl⟩
        · exact made.nodes node before
    · have refused : ¬Granted net hints pair := fun granted => succeeds (turn ▸ granted.2)
      rw [if_neg succeeds]
      refine ⟨?_, made.blocks, (congrArg (· + 1) made.calls).trans counted, made.nodes⟩
      rw [List.filter_cons, if_neg (mt of_decide_eq_true refused)]
      exact made.kinds
  · have refused : ¬Granted net hints pair := fun granted => compatible granted.1
    rw [addPair, if_neg (mt (permits_iff pair).mp compatible)]
    refine ⟨?_, made.blocks, ?_, made.nodes⟩
    · rw [List.filter_cons, if_neg (mt of_decide_eq_true refused)]
      exact made.kinds
    · rw [List.filter_cons, if_neg (mt of_decide_eq_true compatible)]
      exact made.calls

theorem Made.node_of_granted {done : List Pair} {ai : List AddrInfo × Mallocs}
    (made : Made net hints addr service done ai) {pair : Pair} (member : pair ∈ done)
    (granted : Granted net hints pair) : ∃ node ∈ ai.1, node.kind = pair.kind := by
  have listed : pair.kind ∈ ai.1.map AddrInfo.kind := by
    rw [made.kinds]
    exact List.mem_map_of_mem (List.mem_filter.mpr ⟨member, decide_eq_true granted⟩)
  exact List.mem_map.mp listed

theorem Made.granted_of_node {done : List Pair} {ai : List AddrInfo × Mallocs}
    (made : Made net hints addr service done ai) {node : AddrInfo} (member : node ∈ ai.1) :
    ∃ pair, Granted net hints pair := by
  have listed : node.kind ∈ ai.1.map AddrInfo.kind := List.mem_map_of_mem member
  rw [made.kinds] at listed
  obtain ⟨pair, granted, -⟩ := List.mem_map.mp listed
  exact ⟨pair, of_decide_eq_true (List.mem_filter.mp granted).2⟩

theorem setAddrInfo_made :
    Made net hints addr service [.tcp, .udp] (setAddrInfo net addr service hints) := by
  have udp : Made net hints addr service [.udp] (addPair net hints addr service ([], ⟨0, 0⟩) .udp) :=
    Made.start.add rfl
  rw [setAddrInfo_eq]
  apply udp.add
  rw [udp.calls, Hints.allocation]
  by_cases compatible : hints.Compatible .udp
  · rw [if_pos compatible, List.filter_cons, if_pos (decide_eq_true compatible)]
    rfl
  · rw [if_neg compatible, List.filter_cons, if_neg (mt of_decide_eq_true compatible)]
    rfl

end Made

/-! ## Answers -/

section Answering

variable {net : Resolver} {args : LookupArgs}

theorem answers_refuse {code : Int} (nonzero : code ≠ 0) (unresolved : ¬Resolves net args) :
    Answers net args (refuse code) where
  code := iff_of_false nonzero (not_not.mpr rfl)
  family := nofun
  pairs := ⟨[], List.nil_sublist _, nofun, rfl⟩
  tried resolves := absurd resolves unresolved
  present _ _ tried := absurd tried (Nat.not_lt_zero _)
  address := nofun
  port := nofun
  freed := .nil

theorem freeaddrinfo_eq (ai : List AddrInfo) : freeaddrinfo ai = ai.map AddrInfo.block := by
  induction ai with
  | nil => rfl
  | cons res aiTmp ih => rw [freeaddrinfo, ih, List.map_cons]

theorem allocation_lt {hints : Hints} {pair : Pair} (compatible : hints.Compatible pair) :
    hints.allocation pair < ([Pair.tcp, .udp].filter (hints.Compatible ·)).length := by
  cases pair with
  | udp =>
    have member : Pair.udp ∈ [Pair.tcp, .udp].filter (hints.Compatible ·) :=
      List.mem_filter.mpr ⟨by decide, decide_eq_true compatible⟩
    exact List.length_pos_of_mem member
  | tcp =>
    rw [List.filter_cons, if_pos (decide_eq_true compatible), List.length_cons, Hints.allocation,
      List.filter_cons]
    by_cases udp : hints.Compatible .udp
    · rw [if_pos udp, if_pos (decide_eq_true udp)]
      exact Nat.lt_succ_self 1
    · rw [if_neg udp]
      exact Nat.succ_pos _

/-- An address that is asked for is answered with, unless no node may be made of it. -/
theorem answers_answer {addr : UInt32} (asked : Asked net args addr) :
    Answers net args
        (answer (setAddrInfo net addr (args.service.getD "0".toList) args.given)) ↔
      (args.given.family = .unspec ∨ args.given.family = .inet) ∨
        ∀ pair, ¬Granted net args.given pair := by
  have made : Made net args.given addr (args.service.getD "0".toList) [.tcp, .udp]
      (setAddrInfo net addr (args.service.getD "0".toList) args.given) := setAddrInfo_made
  have listed (pair : Pair) : pair ∈ [Pair.tcp, .udp] := by
    cases pair <;> decide
  constructor
  · intro answers
    by_cases none_ : ∀ pair, ¬Granted net args.given pair
    · exact .inr none_
    · obtain ⟨pair, granted⟩ := not_forall_not.mp none_
      obtain ⟨node, member, -⟩ := made.node_of_granted (listed pair) granted
      refine .inl ((answers.family node member).imp id fun same => ?_)
      rw [← same, (made.nodes node member).1]
  · intro allowed
    exact {
      code := by
        rw [answer]
        by_cases empty : (setAddrInfo net addr (args.service.getD "0".toList) args.given).1 = []
        · rw [if_pos empty]
          exact iff_of_false (fun zero : eaiMemory = 0 => nomatch zero) (not_not.mpr empty)
        · rw [if_neg empty]
          exact iff_of_true rfl empty
      family := by
        intro node member
        rcases allowed with family | none_
        · rw [(made.nodes node member).1]
          exact family.imp id Eq.symm
        · obtain ⟨pair, granted⟩ := made.granted_of_node member
          exact absurd granted (none_ pair)
      pairs := by
        refine ⟨_, List.filter_sublist, fun pair granted => ?_, made.kinds⟩
        exact (of_decide_eq_true (List.mem_filter.mp granted).2).1
      tried := by
        intro _ pair compatible
        rw [answer, made.calls]
        exact allocation_lt compatible
      present := fun pair compatible _ succeeds =>
        made.node_of_granted (listed pair) ⟨compatible, succeeds⟩
      address := by
        intro node member
        rw [(made.nodes node member).2.1]
        exact asked
      port := by
        intro node member
        rw [(made.nodes node member).2.2, Resolver.port]
        refine congrArg htons (UInt16.toNat_inj.mp ?_)
        rw [UInt32.toNat_toUInt16, UInt16.toNat_ofNat', Nat.mod_mod]
        rfl
      freed := by
        rw [answer, freeaddrinfo_eq, made.blocks]
        exact List.reverse_perm _ }

theorem nonzero_of_checkHints {hints : Hints} {code : Int}
    (refused : checkHints hints = some code) : code ≠ 0 := by
  rw [checkHints] at refused
  split_ifs at refused <;> cases refused <;> decide

theorem getaddrinfo_invalid (net : Resolver) (invalid : ¬Valid args) :
    ∃ code, code ≠ 0 ∧ getaddrinfo net args = refuse code := by
  rw [getaddrinfo]
  by_cases unnamed : args.node = none ∧ args.service = none
  · exact ⟨_, by decide, if_pos unnamed⟩
  rw [if_neg unnamed]
  by_cases null : args.res = false
  · exact ⟨_, by decide, if_pos null⟩
  rw [if_neg null]
  cases checked : args.hints.bind checkHints with
  | some code =>
    obtain ⟨hints, -, refused⟩ := Option.bind_eq_some_iff.mp checked
    exact ⟨code, nonzero_of_checkHints refused, rfl⟩
  | none =>
    have named : args.node ≠ none ∨ args.service ≠ none := not_and_or.mp unnamed
    exact absurd ⟨named, Bool.not_eq_false _ ▸ null, checked⟩ invalid

theorem getaddrinfo_valid (valid : Valid args) : getaddrinfo net args =
    match args.node with
    | some node => clientInfo net node (args.service.getD "0".toList) args.given
    | none => serverInfo net (args.service.getD "0".toList) args.given := by
  have named : ¬(args.node = none ∧ args.service = none) := not_and_or.mpr valid.named
  have given : ¬args.res = false := Bool.not_eq_false _ ▸ valid.res
  rw [getaddrinfo, if_neg named, if_neg given, valid.hints]
  rfl

theorem Valid.family (valid : Valid args) : args.given.family = .inet6 ∨
    args.given.family = .unspec ∨ args.given.family = .inet := by
  have checked := valid.hints
  rw [LookupArgs.given]
  cases hints : args.hints with
  | none => exact .inr (.inl rfl)
  | some hints_ =>
    rw [hints] at checked
    by_contra other
    have invalid : hints_.family ≠ .inet ∧ hints_.family ≠ .inet6 ∧ hints_.family ≠ .unspec :=
      ⟨fun family => other (.inr (.inr family)), fun family => other (.inl family),
        fun family => other (.inr (.inl family))⟩
    rw [Option.bind_some, checkHints, if_pos invalid] at checked
    split_ifs at checked

theorem client_literal (valid : Valid args) {node : List Char} (client : args.node = some node)
    {addr : UInt32} (literal : inetAton node = some addr) :
    Answers net args (getaddrinfo net args) := by
  rw [getaddrinfo_valid valid, client]
  dsimp only
  rw [clientInfo, literal]
  dsimp only
  by_cases mismatch : args.given.family ≠ .inet ∧ args.given.family ≠ .unspec
  · rw [if_pos mismatch]
    refine answers_refuse (by decide) fun resolves => ?_
    exact resolves.family.elim mismatch.1 mismatch.2
  · rw [if_neg mismatch]
    refine (answers_answer (.inl ⟨node, client, literal⟩)).mpr (.inl ?_)
    tauto

theorem client_name (valid : Valid args) {node : List Char} (client : args.node = some node)
    (name : inetAton node = none) :
    Answers net args (getaddrinfo net args) ↔ ¬FamilyIgnored net args := by
  have answers {addr : UInt32} : DnsAnswers net args addr ↔
      ∃ answer, net.dnsGetHostByName node = some answer ∧ addr = htonl answer := by
    constructor
    · rintro ⟨node', answer, same, -, known, network⟩
      cases client.symm.trans same
      exact ⟨answer, known, network⟩
    · rintro ⟨answer, known, network⟩
      exact ⟨node, answer, client, name, known, network⟩
  have asked {addr : UInt32} (asked : Asked net args addr) : DnsAnswers net args addr := by
    rcases asked with ⟨node', same, literal⟩ | answered | ⟨server, -⟩
    · cases client.symm.trans same
      rw [name] at literal
      nomatch literal
    · exact answered
    · rw [client] at server
      nomatch server
  rw [getaddrinfo_valid valid, client]
  dsimp only
  rw [clientInfo, name]
  dsimp only
  by_cases numeric : args.given.flags &&& aiNumerichost ≠ 0
  · rw [if_pos numeric]
    refine iff_of_true (answers_refuse (by decide) fun resolves => ?_)
      fun ignored => numeric ignored.numerichost
    obtain ⟨addr, sought⟩ := resolves.asked
    exact numeric (resolves.numerichost addr (asked sought))
  · rw [if_neg numeric, lookupDNS]
    cases known : net.dnsGetHostByName node with
    | none =>
      have nonzero : eaiMemory ≠ 0 := by decide
      refine iff_of_true (answers_refuse nonzero fun resolves => ?_) fun ignored => ?_
      · obtain ⟨addr, sought⟩ := resolves.asked
        obtain ⟨answer, known', -⟩ := answers.mp (asked sought)
        rw [known] at known'
        nomatch known'
      · obtain ⟨addr, answered⟩ := ignored.answered
        obtain ⟨answer, known', -⟩ := answers.mp answered
        rw [known] at known'
        nomatch known'
    | some answer =>
      have answered : DnsAnswers net args (htonl answer) := answers.mpr ⟨answer, known, rfl⟩
      refine (answers_answer (.inr (.inl answered))).trans ?_
      constructor
      · rintro (family | none_) ignored
        · rw [ignored.family] at family
          exact family.elim nofun nofun
        · obtain ⟨pair, granted⟩ := ignored.made
          exact none_ pair granted
      · intro heeded
        by_cases none_ : ∀ pair, ¬Granted net args.given pair
        · exact .inr none_
        · refine .inl (valid.family.resolve_left fun inet6 => ?_)
          exact heeded ⟨valid, inet6, ⟨_, answered⟩, not_not.mp numeric, not_forall_not.mp none_⟩

theorem server_answers (valid : Valid args) (server : args.node = none)
    (loopback : net.inetPton "127.0.0.1".toList = some (htonl 0x7F000001)) :
    Answers net args (getaddrinfo net args) := by
  rw [getaddrinfo_valid valid, server]
  dsimp only
  rw [serverInfo]
  by_cases family : args.given.family = .inet ∨ args.given.family = .unspec
  · rw [if_pos family]
    by_cases passive : args.given.flags &&& aiPassive ≠ 0
    · rw [if_pos passive]
      refine (answers_answer (.inr (.inr ⟨server, ?_⟩))).mpr (.inl family.symm)
      rw [if_pos passive]
    · rw [if_neg passive, loopback]
      refine (answers_answer (.inr (.inr ⟨server, ?_⟩))).mpr (.inl family.symm)
      rw [if_neg passive]
  · rw [if_neg family]
    exact answers_refuse (by decide) fun resolves => family resolves.family

end Answering

/-- What was asked is answered, unless an IPv6 address was asked for of a name that
the DNS knows an IPv4 address of. -/
theorem getaddrinfo_answers_iff (net : Resolver) (args : LookupArgs)
    (loopback : net.inetPton "127.0.0.1".toList = some (htonl 0x7F000001)) :
    Answers net args (getaddrinfo net args) ↔ ¬FamilyIgnored net args := by
  by_cases valid : Valid args
  · cases node : args.node with
    | some node_ =>
      cases literal : inetAton node_ with
      | some addr =>
        refine iff_of_true (client_literal valid node literal) fun ignored => ?_
        obtain ⟨addr', other, answer, same, name, -⟩ := ignored.answered
        cases node.symm.trans same
        rw [literal] at name
        nomatch name
      | none => exact client_name valid node literal
    | none =>
      refine iff_of_true (server_answers valid node loopback) fun ignored => ?_
      obtain ⟨addr, other, answer, same, -⟩ := ignored.answered
      rw [node] at same
      nomatch same
  · obtain ⟨code, nonzero, refused⟩ := getaddrinfo_invalid net valid
    rw [refused]
    exact iff_of_true (answers_refuse nonzero fun resolves => valid resolves.valid)
      fun ignored => valid ignored.valid

/-- A network on which every name has the address 1.2.3.4. -/
def knowsAll : Resolver where
  atoi _ := 80
  inetPton := inetAton
  dnsGetHostByName _ := some 0x01020304
  malloc _ := true

theorem getaddrinfo_answers_iff_server :
    Answers knowsAll ⟨none, some "80".toList, none, true⟩
        (getaddrinfo knowsAll ⟨none, some "80".toList, none, true⟩) ↔
      ¬FamilyIgnored knowsAll ⟨none, some "80".toList, none, true⟩ :=
  getaddrinfo_answers_iff _ _ (by decide)

/-- `getaddrinfo("emf.camp", 80, AF_INET6, SOCK_STREAM)` answers with an IPv4 address. -/
theorem getaddrinfo_answers_fails :
    ¬Answers knowsAll
      ⟨some "emf.camp".toList, some "80".toList, some ⟨0, .inet6, .stream, .any⟩, true⟩
      (getaddrinfo knowsAll
        ⟨some "emf.camp".toList, some "80".toList, some ⟨0, .inet6, .stream, .any⟩, true⟩) := by
  intro answers
  have made : ⟨0, 0, .inet, .stream, .tcp, htons 80, htonl 0x01020304⟩ ∈ (getaddrinfo knowsAll
      ⟨some "emf.camp".toList, some "80".toList, some ⟨0, .inet6, .stream, .any⟩, true⟩).res := by
    decide
  rcases answers.family _ made with unspec | same
  · nomatch unspec
  · nomatch same

end TildaMk4.Net
