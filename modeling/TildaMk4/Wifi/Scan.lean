import Mathlib.Data.List.TakeWhile
import TildaMk4.Lib.Retry
import TildaMk4.Wifi.FirstFailure

/-!
# `network_stalan_scan`

The networks that are found, and what becomes of one that is joined as it is listed.
-/

namespace TildaMk4.Wifi

open HexText Retry

/-- `SlWlanNetworkEntry_t`. A name of 32 bytes has no terminator: it is read on into `behind`,
what lies behind it. -/
structure Entry where
  ssid : Vector UInt8 32
  behind : Bytes
  bssid : Vector UInt8 6
  channel : Int
  rssi : Int
  securityInfo : Int

/-- What one `sl_WlanGetNetworkList(0, 30, entries)` returns and leaves in `entries`. -/
structure NetworkList where
  status : Int
  entries : Vector Entry 30
  fits : status ≤ 30

/-- The answers in their order, with the two codes that `scan` tells apart. -/
structure Lan where
  networkList : Nat → NetworkList
  notStarted : Int
  eagain : Int

structure Tuple where
  ssid : Bytes
  bssid : Bytes
  channel : Int
  rssi : Int
  securityInfo : Int

def Entry.tuple (e : Entry) : Tuple where
  ssid := cString (e.ssid.toList ++ e.behind)
  bssid := formatMAC e.bssid
  channel := e.channel
  rssi := e.rssi
  securityInfo := e.securityInfo

def NetworkList.tuples (answer : NetworkList) : Option (List Tuple) :=
  if 0 < answer.status then some ((answer.entries.toList.take answer.status.toNat).map Entry.tuple)
  else none

/-- The loop: the answer it ends with from answer `i` on, and the seconds that it sleeps. -/
def askAgain (lan : Lan) : Nat → Nat → NetworkList × Nat
  | 0, i => (lan.networkList i, 0)
  | retryCount + 1, i =>
    if (lan.networkList i).status = lan.eagain then
      let again := askAgain lan retryCount (i + 1)
      (again.1, again.2 + 1)
    else (lan.networkList i, 0)

/-- What is returned, and the seconds that were slept. -/
def scan (lan : Lan) : Except Exn (Option (List Tuple)) × Nat :=
  if (lan.networkList 0).status = lan.notStarted then
    (.error (.osError "WiFi Not Started, use .active(True)"), 0)
  else
    let (answer, slept) := askAgain lan 5 0
    (.ok answer.tuples, slept)

/-- An argument of `connect` that is taken from the list. -/
def Tuple.Joins (t : Tuple) (args : Given) : Prop :=
  args.serviceId = t.ssid ∧ args.bssid = some t.bssid

/-- The name and the address of the network stand in every call that is about one. -/
def Entry.InCalls (e : Entry) (calls : List Call) : Prop :=
  ∀ call ∈ calls, ∀ n ∈ call.network?,
    n.ssid = cString e.ssid.toList ∧ n.mac = some e.bssid.toList

section Entries

theorem zero_notMem_cString (buffer : Bytes) : 0 ∉ cString buffer := by
  intro member
  have text := List.mem_takeWhile_imp member
  simp at text

/-- What was read behind a name of 32 bytes is cut off again. -/
theorem take_cString_append (name behind : Bytes) :
    (cString (name ++ behind)).take name.length = cString name := by
  rw [cString, cString, List.takeWhile_append]
  split
  next whole =>
    rw [List.take_left]
    exact (List.takeWhile_prefix _).eq_of_length whole |>.symm
  next => exact List.take_of_length_le (List.takeWhile_prefix _).length_le

variable {env : Setting} {args : Given} (e : Entry)

theorem Entry.inCalls (joins : e.tuple.Joins args) : e.InCalls (connect env args []).2 := by
  obtain ⟨name, address⟩ := joins
  have fits : ∀ bssid ∈ args.bssid, bssid.length = 17 := by
    intro bssid given
    rw [address] at given
    cases given
    exact length_formatMAC e.bssid
  intro call made n about
  obtain ⟨ssid, mac, -⟩ := network_of_mem ((performed_connect args fits).mem made) about
  constructor
  · have passed : (localOf env args).ssid = args.serviceId.take 32 := by
      change cString (copyTruncated 33 args.serviceId) = _
      rw [name]
      exact cString_copyTruncated (show 0 < 33 by decide) (zero_notMem_cString _)
    rw [ssid, passed, name]
    have cut := take_cString_append e.ssid.toList e.behind
    rwa [Vector.length_toList] at cut
  · rw [mac]
    exact mac_localOf address (writes_formatMAC e.bssid)

end Entries

section Answers

variable (lan : Lan)

theorem askAgain_eq_retry (retryCount : Nat) : ∀ i, askAgain lan retryCount i =
    retry lan.networkList (fun answer => decide (answer.status = lan.eagain)) retryCount i := by
  induction retryCount with
  | zero => exact fun _ => rfl
  | succ retryCount ih =>
    intro i
    rw [askAgain, retry, ih]
    simp only [decide_eq_true_eq]

/-- The entries that are listed are as many as the status says. -/
theorem NetworkList.tuples_eq_some {answer : NetworkList} {tuples : List Tuple}
    (listed : answer.tuples = some tuples) : 0 < answer.status ∧
      tuples = (answer.entries.toList.take answer.status.toNat).map Entry.tuple ∧
      (tuples.length : Int) = answer.status := by
  rw [NetworkList.tuples] at listed
  split at listed
  next some_ =>
    cases listed
    have fits := answer.fits
    refine ⟨some_, rfl, ?_⟩
    rw [List.length_map, List.length_take, Vector.length_toList]
    omega
  next => cases listed

end Answers

section Inputs

/-- The network whose name is 32 times "e". -/
def longEntry : Entry where
  ssid := .replicate 32 0x65
  behind := [0xaa, 0]
  bssid := #v[0x0c, 0, 0, 0, 0, 2]
  channel := 6
  rssi := -40
  securityInfo := 0

/-- The networks are not there before the third time. -/
def busyTwice : Lan where
  networkList i :=
    if i < 2 then ⟨-2073, .replicate 30 longEntry, by decide⟩
    else ⟨1, .replicate 30 longEntry, by decide⟩
  notStarted := -2018
  eagain := -2073

end Inputs

end TildaMk4.Wifi
