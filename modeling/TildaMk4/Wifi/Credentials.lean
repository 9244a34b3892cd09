import Mathlib.Tactic.IntervalCases
import TildaMk4.Wifi.Connect

/-!
# The credentials of a connection

For which arguments `network_stalan_connect` passes on what it was given.
-/

namespace TildaMk4.Wifi

open HexText

/-- The network that a call is about. -/
def Call.network? : Call → Option Network
  | .wlanProfileAdd n _ _ => some n
  | .wlanConnect n => some n
  | _ => none

def Network.key (n : Network) : Bytes := n.secParams.key.getD []

def Network.user (n : Network) : Bytes := (n.secExtParams.map SecParamsExt.user).getD []

/-- Six colon-separated pairs of digits, the octets of `mac`. -/
def Writes (bssid : Bytes) (mac : Vector UInt8 6) : Prop := octets? colon bssid = some mac.toList

/-- What is expected of the calls of a connection that does not raise. -/
structure UsesCredentials (args : Given) (calls : List Call) : Prop where
  connects : ∃ n, .wlanConnect n ∈ calls
  profile : args.autoconnect = true → ∃ n priority options,
    .wlanProfileAdd n priority options ∈ calls
  exactly : ∀ call ∈ calls, ∀ n ∈ call.network?, n.ssid = args.serviceId ∧
    n.key = args.key.getD [] ∧ (args.enterprise = true → n.user = args.entuser.getD [])
  bssid : ∀ bssid ∈ args.bssid, ∃ mac, Writes bssid mac ∧
    ∀ call ∈ calls, ∀ n ∈ call.network?, n.mac = some mac.toList
  serverAuth : ∀ param, .wlanSetDisableEntServerAuth param ∈ calls →
    (param ≠ 0 ↔ args.entserverauth = false)

/-- The arguments fit what they stand for. -/
structure Given.InRange (args : Given) : Prop where
  serviceId : args.serviceId.length ≤ 32 ∧ 0 ∉ args.serviceId
  key : ∀ key ∈ args.key, key.length ≤ 63 ∧ 0 ∉ key
  entuser : ∀ user ∈ args.entuser, user.length ≤ 64 ∧ 0 ∉ user

/-- The arguments that are refused, or that all the buffers and conversions spare. -/
def Given.Spared (args : Given) : Prop :=
  (∃ bssid ∈ args.bssid, bssid.length ≠ 17) ∨
    args.enterprise = false ∧ (args.key.getD []).length ≤ 32 ∧
      ∀ bssid ∈ args.bssid, ∃ mac, Writes bssid mac

/-! ## Buffers -/

/-- A buffer of zeros holds the beginning of the data as a string. -/
theorem cString_copyTruncated {size : Nat} (room : 0 < size) {data : Bytes} (fresh : 0 ∉ data) :
    cString (copyTruncated size data) = data.take (size - 1) := by
  have text : ∀ c ∈ data.take (size - 1), decide (c ≠ 0) = true := by
    intro c member
    rw [decide_eq_true_iff]
    rintro rfl
    exact fresh (List.mem_of_mem_take member)
  rw [cString, copyTruncated, List.takeWhile_append_of_pos text]
  obtain ⟨k, zeros⟩ : ∃ k, size - min data.length (size - 1) = k + 1 :=
    Nat.exists_eq_add_one.mpr (by omega)
  simp [zeros, List.replicate_succ]

theorem cString_terminated {data : Bytes} (fresh : 0 ∉ data) : cString (data ++ [0]) = data := by
  have text : ∀ c ∈ data, decide (c ≠ 0) = true := by
    intro c member
    rw [decide_eq_true_iff]
    rintro rfl
    exact fresh member
  rw [cString, List.takeWhile_append_of_pos text]
  simp

/-! ## The calls -/

def localOf (env : Setting) (args : Given) : Local where
  ssid := cString (copyTruncated 33 args.serviceId)
  mac := args.bssid.bind fun bssid =>
    if 0 < (cString (bssid ++ [0])).length then some (scanMac env (bssid ++ [0])) else none
  secParams :=
    if (cString (copyTruncated 33 (args.key.getD []))).length ≠ 0 then
      ⟨.wpaWpa2, some (cString (copyTruncated 33 (args.key.getD [])))⟩
    else ⟨.open_, none⟩

def prepareCalls : List Call :=
  [.wlanDisconnect, .wlanPolicySetConnection ⟨false, true, false, false⟩, .netCfgSetDhcp]

def autoconnectCalls (args : Given) (target : Local) : List Call :=
  if args.autoconnect then
    [.wlanProfileDel 0xff, .wlanProfileAdd ⟨target.ssid, target.mac, target.secParams, none⟩ 15 0,
      .wlanPolicySetConnection ⟨true, false, false, false⟩]
  else [.wlanPolicySetConnection ⟨false, false, false, false⟩]

def connectCalls (args : Given) (target : Local) : List Call :=
  if args.enterprise then
    [.wlanSetDisableEntServerAuth (if args.entserverauth then 1 else 0),
      .wlanConnect ⟨target.ssid, target.mac, { target.secParams with type := .wpaEnt },
        some ⟨cString (copyTruncated 65 (args.entuser.getD [])), none, 0,
          if args.entmethod ≠ 0 then .given (.ofInt args.entmethod) else .tls⟩⟩]
  else [.wlanConnect ⟨target.ssid, target.mac, target.secParams, none⟩]

/-- The calls of a run in which none fails. -/
def callsOf (env : Setting) (args : Given) : List Call :=
  prepareCalls ++ autoconnectCalls args (localOf env args) ++
    connectCalls args (localOf env args)

section Run

variable {env : Setting} {args : Given} (succeeds : ∀ calls c, 0 ≤ env.link calls c)

theorem connect_refused (bad : ∃ bssid ∈ args.bssid, bssid.length ≠ 17) :
    ∃ exn, connect env args [] = (.error exn, []) := by
  obtain ⟨bssid, given, long⟩ := bad
  have read : readBssid env args.bssid =
      Wlan.raise (.valueError "bssid bad len, format = xx:xx:xx:xx:xx:xx") := by
    rw [Option.mem_def.mp given, readBssid, if_pos long]
  refine ⟨.valueError "bssid bad len, format = xx:xx:xx:xx:xx:xx", ?_⟩
  rw [connect, read]
  rfl

include succeeds

theorem check_eq (c : Call) (message : String) (calls : List Call) :
    check env c message calls = (.ok (), calls ++ [c]) := by
  have fine : ¬ env.link calls c < 0 := Int.not_lt.mpr (succeeds calls c)
  change (if env.link calls c < 0 then _ else _ : Wlan Unit) _ = _
  rw [if_neg fine]
  rfl

theorem bind_check (c : Call) (message : String) (next : Unit → Wlan Unit) (calls : List Call) :
    (check env c message >>= next) calls = next () (calls ++ [c]) := by
  change Wlan.bind _ _ calls = _
  rw [Wlan.bind, check_eq succeeds]

theorem prepare_eq (calls : List Call) : prepare env calls = (.ok (), calls ++ prepareCalls) := by
  have fine : ¬ (env.link calls .wlanDisconnect < 0 ∧
      env.link calls .wlanDisconnect ≠ env.alreadyDisconnected) :=
    fun failed => Int.not_lt.mpr (succeeds calls _) failed.1
  change (if env.link calls .wlanDisconnect < 0 ∧
    env.link calls .wlanDisconnect ≠ env.alreadyDisconnected then _ else _ : Wlan Unit) _ = _
  rw [if_neg fine, bind_check succeeds, check_eq succeeds]
  simp [prepareCalls]

theorem setAutoconnect_eq (target : Local) (calls : List Call) :
    setAutoconnect env args target calls = (.ok (), calls ++ autoconnectCalls args target) := by
  rw [setAutoconnect, autoconnectCalls]
  split
  · rw [bind_check succeeds, bind_check succeeds, check_eq succeeds]
    simp
  · rw [check_eq succeeds]

theorem wlanConnect_eq (target : Local) (calls : List Call) :
    wlanConnect env args target calls = (.ok (), calls ++ connectCalls args target) := by
  rw [wlanConnect, connectCalls]
  split
  · rw [bind_check succeeds, check_eq succeeds]
    simp
  · rw [check_eq succeeds]

theorem connect_eq (fits : ∀ bssid ∈ args.bssid, bssid.length = 17) :
    connect env args [] = (.ok (), callsOf env args) := by
  have step (bssid mac : Bytes) (read : readBssid env args.bssid = pure (bssid, mac))
      (passed : (if 0 < (cString bssid).length then some mac else none) =
        (localOf env args).mac) : connect env args [] = (.ok (), callsOf env args) := by
    rw [connect, read]
    change Wlan.bind (prepare env) _ [] = _
    rw [Wlan.bind, prepare_eq succeeds]
    simp only [passed]
    change Wlan.bind (setAutoconnect env args (localOf env args)) _ _ = _
    rw [Wlan.bind, setAutoconnect_eq succeeds]
    exact wlanConnect_eq succeeds _ _
  cases given : args.bssid with
  | none =>
    apply step (List.replicate 18 0) []
    · rw [given]
      rfl
    · rw [localOf, given]
      rfl
  | some bssid =>
    apply step (bssid ++ [0]) (scanMac env (bssid ++ [0]))
    · rw [given, readBssid, if_neg (not_not.mpr (fits bssid given))]
    · rw [localOf, given]
      rfl

end Run

section Calls

variable {env : Setting} {args : Given}

theorem network_of_mem {call : Call} (member : call ∈ callsOf env args) {n : Network}
    (about : n ∈ call.network?) :
    n.ssid = (localOf env args).ssid ∧ n.mac = (localOf env args).mac ∧
      n.secParams.key = (localOf env args).secParams.key := by
  rw [callsOf, List.mem_append, List.mem_append] at member
  rcases member with (prepare | autoconnect) | connect
  · simp only [prepareCalls, List.mem_cons, List.not_mem_nil, or_false] at prepare
    rcases prepare with rfl | rfl | rfl <;> cases about
  · unfold autoconnectCalls at autoconnect
    split at autoconnect
    · simp only [List.mem_cons, List.not_mem_nil, or_false] at autoconnect
      rcases autoconnect with rfl | rfl | rfl <;> cases about
      exact ⟨rfl, rfl, rfl⟩
    · obtain rfl := List.mem_singleton.mp autoconnect
      cases about
  · unfold connectCalls at connect
    split at connect
    · simp only [List.mem_cons, List.not_mem_nil, or_false] at connect
      rcases connect with rfl | rfl <;> cases about
      exact ⟨rfl, rfl, rfl⟩
    · obtain rfl := List.mem_singleton.mp connect
      cases about
      exact ⟨rfl, rfl, rfl⟩

theorem wlanConnect_mem : ∃ n, .wlanConnect n ∈ callsOf env args := by
  unfold callsOf connectCalls
  split <;> exact ⟨_, List.mem_append_right _ (by simp; rfl)⟩

theorem wlanProfileAdd_mem (autoconnect : args.autoconnect = true) :
    ∃ n priority options, .wlanProfileAdd n priority options ∈ callsOf env args := by
  unfold callsOf autoconnectCalls
  rw [if_pos autoconnect]
  exact ⟨_, _, _, List.mem_append_left _ (List.mem_append_right _
    (List.mem_cons_of_mem _ (List.mem_cons_self ..)))⟩

theorem disableEntServerAuth_mem {param : UInt8} :
    .wlanSetDisableEntServerAuth param ∈ callsOf env args ↔
      args.enterprise = true ∧ param = if args.entserverauth then 1 else 0 := by
  unfold callsOf prepareCalls autoconnectCalls connectCalls
  cases args.autoconnect <;> cases args.enterprise <;> simp

theorem key_localOf (fresh : ∀ key ∈ args.key, 0 ∉ key) :
    (localOf env args).secParams.key.getD [] = (args.key.getD []).take 32 := by
  have noNul : 0 ∉ args.key.getD [] := by
    cases given : args.key with
    | none => exact List.not_mem_nil
    | some key => exact fresh key given
  rw [← cString_copyTruncated (show 0 < 33 by decide) noNul, localOf]
  split
  next => rfl
  next empty => exact (List.length_eq_zero_iff.mp (not_not.mp empty)).symm

theorem mac_localOf {bssid : Bytes} {mac : Vector UInt8 6} (given : args.bssid = some bssid)
    (writes : Writes bssid mac) : (localOf env args).mac = some mac.toList := by
  have fresh : 0 ∉ bssid := by
    intro member
    rcases mem_of_octets? bssid writes 0 member with sep | digit
    · exact absurd sep (by decide)
    · exact absurd digit (by decide)
  have some_ : 0 < bssid.length := by
    apply List.length_pos_iff.mpr
    rintro rfl
    cases writes
  have scanned := sscanf_octets env.unfit (show hexDigit? colon = none by decide) bssid writes
  rw [Vector.length_toList] at scanned
  have format : hexFields colon 6 = macFormat := rfl
  rw [format] at scanned
  have whole : env.uimac.toList.drop (mac.toList.map UInt8.toUInt32).length = [] := by simp
  have octets : (mac.toList.map UInt8.toUInt32).map UInt32.toUInt8 = mac.toList := by
    have same : UInt32.toUInt8 ∘ UInt8.toUInt32 = id :=
      funext fun octet => UInt8.toUInt8_toUInt32 octet
    rw [List.map_map, same, List.map_id]
  simp only [localOf, given, Option.bind_some, cString_terminated fresh, if_pos some_, scanMac,
    scanned, whole, List.append_nil, octets]

end Calls

theorem formatMAC_eq (mac : Vector UInt8 6) : formatMAC mac = writeOctets colon mac.toList := by
  have octets : mac.toList = [mac[0], mac[1], mac[2], mac[3], mac[4], mac[5]] := by
    apply List.ext_getElem (by simp)
    intro i left right
    have bound : i < 6 := by simpa using left
    interval_cases i <;> simp
  rw [octets]
  rfl

theorem writes_formatMAC (mac : Vector UInt8 6) : Writes (formatMAC mac) mac := by
  rw [Writes, formatMAC_eq]
  apply octets?_writeOctets
  simp

theorem length_formatMAC (mac : Vector UInt8 6) : (formatMAC mac).length = 17 := by
  simp [formatMAC, hexPair]

section Spared

variable {env : Setting} {args : Given}

theorem Given.InRange.ssid (inRange : args.InRange) :
    (localOf env args).ssid = args.serviceId := by
  rw [localOf, cString_copyTruncated (by decide) inRange.serviceId.2]
  exact List.take_of_length_le inRange.serviceId.1

theorem Given.InRange.key_take (inRange : args.InRange) :
    (localOf env args).secParams.key.getD [] = (args.key.getD []).take 32 :=
  key_localOf fun key given => (inRange.key key given).2

theorem Given.InRange.usesCredentials (inRange : args.InRange)
    (personal : args.enterprise = false) (short : (args.key.getD []).length ≤ 32)
    (writes : ∀ bssid ∈ args.bssid, ∃ mac, Writes bssid mac) :
    UsesCredentials args (callsOf env args) where
  connects := wlanConnect_mem
  profile := wlanProfileAdd_mem
  exactly call member n about := by
    obtain ⟨ssid, -, key⟩ := network_of_mem member about
    refine ⟨ssid.trans inRange.ssid, ?_, fun enterprise => ?_⟩
    · rw [Network.key, key, inRange.key_take, List.take_of_length_le short]
    · exact absurd (personal.symm.trans enterprise) nofun
  bssid bssid given := by
    obtain ⟨mac, writes⟩ := writes bssid given
    refine ⟨mac, writes, fun call member n about => ?_⟩
    rw [(network_of_mem member about).2.1]
    exact mac_localOf given writes
  serverAuth param set := by
    have enterprise := (disableEntServerAuth_mem.mp set).1
    exact absurd (personal.symm.trans enterprise) nofun

theorem Given.InRange.spared (inRange : args.InRange)
    (used : UsesCredentials args (callsOf env args)) :
    args.enterprise = false ∧ (args.key.getD []).length ≤ 32 ∧
      ∀ bssid ∈ args.bssid, ∃ mac, Writes bssid mac := by
  refine ⟨?_, ?_, fun bssid given => ?_⟩
  · by_contra enterprise
    have set : .wlanSetDisableEntServerAuth _ ∈ callsOf env args :=
      disableEntServerAuth_mem.mpr ⟨by simpa using enterprise, rfl⟩
    have inverted := used.serverAuth _ set
    cases auth : args.entserverauth <;> simp [auth] at inverted
  · obtain ⟨n, connects⟩ := used.connects
    have passed := (used.exactly _ connects n rfl).2.1
    rw [Network.key, (network_of_mem connects rfl).2.2, inRange.key_take] at passed
    rw [← passed]
    exact List.length_take_le 32 _
  · obtain ⟨mac, writes, -⟩ := used.bssid bssid given
    exact ⟨mac, writes⟩

end Spared

/-- Where no call fails, the credentials are used as given exactly if the arguments are
refused or spared, and the address that `formatMAC` writes is used in any case. -/
theorem connect_usesCredentials_iff (env : Setting) (succeeds : ∀ calls c, 0 ≤ env.link calls c)
    (args : Given) (inRange : args.InRange) :
    ((∀ calls, connect env args [] = (.ok (), calls) → UsesCredentials args calls) ↔
      args.Spared) ∧
    ∀ mac, args.bssid = some (formatMAC mac) → ∃ calls, connect env args [] = (.ok (), calls) ∧
      ∀ call ∈ calls, ∀ n ∈ call.network?, n.mac = some mac.toList := by
  refine ⟨?_, fun mac written => ?_⟩
  · by_cases refused : ∃ bssid ∈ args.bssid, bssid.length ≠ 17
    · obtain ⟨exn, raised⟩ : ∃ exn, connect env args [] = (.error exn, []) :=
        connect_refused refused
      refine ⟨fun _ => .inl refused, fun _ calls returned => ?_⟩
      exact nomatch raised.symm.trans returned
    · have fits : ∀ bssid ∈ args.bssid, bssid.length = 17 :=
        fun bssid given => not_not.mp fun long => refused ⟨bssid, given, long⟩
      have returned := connect_eq succeeds fits
      constructor
      · intro uses
        exact .inr (inRange.spared (uses _ returned))
      · rintro (bad | ⟨personal, short, writes⟩) calls returned'
        · exact absurd bad refused
        · obtain ⟨-, rfl⟩ := Prod.mk.inj (returned.symm.trans returned')
          exact inRange.usesCredentials personal short writes
  · have fits : ∀ bssid ∈ args.bssid, bssid.length = 17 := by
      intro bssid given
      rw [Option.mem_def, written] at given
      cases given
      exact length_formatMAC mac
    refine ⟨_, connect_eq succeeds fits, fun call member n about => ?_⟩
    rw [(network_of_mem member about).2.1]
    exact mac_localOf written (writes_formatMAC mac)

section Inputs

/-- Every call returns 0. -/
def quiet : Setting where
  link _ _ := 0
  alreadyDisconnected := -2071
  uimac := .replicate 6 0
  unfit _ := 0xffffffff

theorem quiet_succeeds : ∀ calls c, 0 ≤ quiet.link calls c := fun _ _ => Int.le_refl 0

/-- The network "emf" with the key "camp", of the access point aa:00:00:00:00:01. -/
def personalArgs : Given where
  serviceId := [0x65, 0x6d, 0x66]
  key := some [0x63, 0x61, 0x6d, 0x70]
  bssid := some (formatMAC #v[0xaa, 0, 0, 0, 0, 1])
  autoconnect := true
  enterprise := false
  entuser := none
  entmethod := 0
  entserverauth := true

/-- The same with the user "emf" and without authentication of the server. -/
def enterpriseArgs : Given :=
  { personalArgs with bssid := none, enterprise := true, entuser := some [0x65, 0x6d, 0x66],
                      entserverauth := false }

theorem connect_usesCredentials_iff_personal :
    (∀ calls, connect quiet personalArgs [] = (.ok (), calls) →
      UsesCredentials personalArgs calls) ∧
    ∃ calls, connect quiet personalArgs [] = (.ok (), calls) := by
  have inRange : personalArgs.InRange :=
    ⟨by decide, by rintro key ⟨⟩; decide, by rintro user ⟨⟩⟩
  have spared : personalArgs.Spared :=
    .inr ⟨rfl, by decide, by rintro bssid ⟨⟩; exact ⟨_, writes_formatMAC _⟩⟩
  obtain ⟨used, address⟩ :=
    connect_usesCredentials_iff quiet quiet_succeeds personalArgs inRange
  obtain ⟨calls, returned, -⟩ := address _ rfl
  exact ⟨used.mpr spared, calls, returned⟩

/-- With `entserverauth` False the value 0 is written: authentication stays enabled. -/
theorem connect_usesCredentials_fails :
    ¬ ∀ env : Setting, (∀ calls c, 0 ≤ env.link calls c) → ∀ args : Given, args.InRange →
      ∀ calls, connect env args [] = (.ok (), calls) → UsesCredentials args calls := by
  intro claim
  have inRange : enterpriseArgs.InRange :=
    ⟨by decide, by rintro key ⟨⟩; decide, by rintro user ⟨⟩; decide⟩
  have used := claim quiet quiet_succeeds enterpriseArgs inRange _
    (connect_eq quiet_succeeds nofun)
  have inverted := used.serverAuth 0 (disableEntServerAuth_mem.mpr ⟨rfl, rfl⟩)
  exact absurd (inverted.mpr rfl) (by decide)

end Inputs

end TildaMk4.Wifi
