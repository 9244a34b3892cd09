import Mathlib.Data.List.Infix
import TildaMk4.Lib.Retry
import TildaMk4.Net.SocketModule

/-!
# The lookup of the server

`addrinfo` of `bootstrap.py`, which asks again while the answer is error -15: the network
may not have come up yet.
-/

namespace TildaMk4.Bootstrap

open Net Retry

/-- How a lookup fails. -/
inductive LookupError
  | raised (raised : LookupRaised)
  | indexError
  deriving DecidableEq

/-- `usocket.getaddrinfo(host, port)`, each time that it is called. -/
abbrev Lookup := Nat → Except LookupRaised (List AddrTuple)

/-- An `OSError` with `"-15" in str(e)`. -/
def isTransient : Except LookupRaised (List AddrTuple) → Bool
  | .ok _ => false
  | .error .typeError => false
  | .error (.osError message) => decide ("-15".toList <:+: message)

/-- `[0][4]`, where nothing is tried again. -/
def firstAddr : Except LookupRaised (List AddrTuple) → Except LookupError Sockaddr
  | .ok (t :: _) => .ok t.addr
  | .ok [] => .error .indexError
  | .error raised => .error (.raised raised)

/-- `addrinfo` from lookup `i` on, with the milliseconds of each sleep. -/
def addrinfo (lookup : Lookup) : Nat → Nat → Except LookupError Sockaddr × List Nat
  | 0, i => (firstAddr (lookup i), [])
  | retriesLeft + 1, i =>
    if isTransient (lookup i) then
      let again := addrinfo lookup retriesLeft (i + 1)
      (again.1, 200 :: again.2)
    else (firstAddr (lookup i), [])

theorem addrinfo_eq (lookup : Lookup) (retriesLeft : Nat) : ∀ i,
    addrinfo lookup retriesLeft i =
      (firstAddr (retry lookup isTransient retriesLeft i).1,
        List.replicate (retry lookup isTransient retriesLeft i).2 200) := by
  induction retriesLeft with
  | zero => exact fun _ => rfl
  | succ retriesLeft ih =>
    intro i
    rw [addrinfo, retry]
    split
    · rw [ih]
      rfl
    · rfl

section Server

variable {host : List Char} {aiNumericserv : UInt32} {port : Int} {nets : Nat → Resolver}

/-- The lookups of a name, the network being another one each time. -/
def lookups (nets : Nat → Resolver) (aiNumericserv : UInt32) (host : List Char) (port : Int) :
    Lookup :=
  fun i => modSocketGetaddrinfo (nets i) aiNumericserv (named host port)

theorem isTransient_iff (small : SmallInt port) (name : inetAton host = none)
    (apart : aiNumericserv &&& aiNumerichost = 0) (i : Nat) :
    isTransient (lookups nets aiNumericserv host port i) = true ↔ ¬Reachable (nets i) host := by
  by_cases reachable : Reachable (nets i) host
  · obtain ⟨list, ok⟩ := lookup_reachable small name apart reachable
    rw [lookups, ok]
    simp [isTransient, reachable]
  · rw [lookups, lookup_unreachable small name apart reachable]
    exact iff_of_true (by decide) reachable

/-- The address that is found is the host's, with the port. -/
theorem firstAddr_reachable {net : Resolver} (reads : net.ReadsPorts) (small : SmallInt port)
    (name : inetAton host = none) (apart : aiNumericserv &&& aiNumerichost = 0)
    (reachable : Reachable net host) :
    ∃ sa found, net.dnsGetHostByName host = some found ∧
      firstAddr (modSocketGetaddrinfo net aiNumericserv (named host port)) = .ok sa ∧
      modSocketSockaddr sa = some (.inet (stored (htonl found)) (UInt16.ofInt port).toNat) := by
  obtain ⟨list, ok⟩ := lookup_reachable small name apart reachable
  obtain ⟨addr, literal | ⟨_, found, known, rfl⟩, some_, all⟩ := sockaddr_of_ok reads rfl ok
  · cases literal.symm.trans name
  · obtain ⟨t, rest, rfl⟩ := List.exists_cons_of_ne_nil some_
    exact ⟨t.addr, found, known, by rw [ok, firstAddr], all t List.mem_cons_self⟩

/-- `addrinfo(host, port)` over a network that may come up: it answers with the address of the
first of 21 lookups that can be answered, and fails only if there is none. A port that is not
small fails at once. -/
structure Recovers (nets : Nat → Resolver) (host : List Char) (port : Int)
    (result : Except LookupError Sockaddr × List Nat) : Prop where
  comes_up : SmallInt port →
    ∀ k ≤ 20, (∀ i < k, ¬Reachable (nets i) host) → Reachable (nets k) host →
      ∃ sa found, (nets k).dnsGetHostByName host = some found ∧
        result = (.ok sa, List.replicate k 200) ∧
        modSocketSockaddr sa = some (.inet (stored (htonl found)) (UInt16.ofInt port).toNat)
  stays_down : SmallInt port → (∀ i ≤ 20, ¬Reachable (nets i) host) → result =
    (.error (.raised (.osError "[addrinfo error -15]".toList)), List.replicate 20 200)
  refused : ¬SmallInt port → result = (.error (.raised .typeError), [])

theorem addrinfo_recovers (reads : ∀ i, (nets i).ReadsPorts) (name : inetAton host = none)
    (apart : aiNumericserv &&& aiNumerichost = 0) (port : Int) :
    Recovers nets host port (addrinfo (lookups nets aiNumericserv host port) 20 0) where
  comes_up small k soon down up := by
    have failing (j : Nat) (inside : j < k) :
        isTransient (lookups nets aiNumericserv host port (0 + j)) = true := by
      rw [Nat.zero_add, isTransient_iff small name apart]
      exact down j inside
    have settled : isTransient (lookups nets aiNumericserv host port (0 + k)) = false := by
      rw [Nat.zero_add, Bool.eq_false_iff, ne_eq, isTransient_iff small name apart, not_not]
      exact up
    obtain ⟨sa, found, known, first, address⟩ :=
      firstAddr_reachable (reads k) small name apart up
    refine ⟨sa, found, known, ?_, address⟩
    rw [addrinfo_eq, retry_settled soon failing settled, Nat.zero_add]
    exact Prod.ext first rfl
  stays_down small down := by
    have failing (j : Nat) (inside : j ≤ 20) :
        isTransient (lookups nets aiNumericserv host port (0 + j)) = true := by
      rw [Nat.zero_add, isTransient_iff small name apart]
      exact down j inside
    have last : lookups nets aiNumericserv host port 20 =
        .error (.osError "[addrinfo error -15]".toList) :=
      lookup_unreachable small name apart (down 20 (Nat.le_refl 20))
    rw [addrinfo_eq, retry_exhausted failing, Nat.zero_add, last]
    rfl
  refused large := by
    have raises : lookups nets aiNumericserv host port 0 = .error .typeError :=
      lookup_refused large
    rw [addrinfo, raises]
    rfl

/-- The DNS answers from the third lookup on. -/
def comingUp (i : Nat) : Resolver :=
  { oneNode with dnsGetHostByName _ := if i < 2 then none else some 0x01020304 }

theorem addrinfo_recovers_third : Recovers comingUp "badgeserver.emfcamp.org".toList 80
    (addrinfo (lookups comingUp 8 "badgeserver.emfcamp.org".toList 80) 20 0) := by
  have reads (i : Nat) : (comingUp i).ReadsPorts := oneNode_reads
  exact addrinfo_recovers reads (by decide) (by decide) 80

end Server

end TildaMk4.Bootstrap
