import TildaMk4.Lib.HexText

/-!
# `network_stalan_connect`

The buffers into which the arguments are copied, and the SimpleLink calls that follow.
-/

namespace TildaMk4.Wifi

open HexText

abbrev Bytes := List UInt8

def colon : UInt8 := 0x3a

/-- `snprintf` into 18 bytes, the last one for the terminator. -/
def formatMAC (mac : Vector UInt8 6) : Bytes :=
  (hexPair mac[0] ++ [colon] ++ hexPair mac[1] ++ [colon] ++ hexPair mac[2] ++ [colon] ++
    hexPair mac[3] ++ [colon] ++ hexPair mac[4] ++ [colon] ++ hexPair mac[5]).take 17

/-- The arguments behind `self`, parsed. -/
structure Given where
  serviceId : Bytes
  key : Option Bytes
  bssid : Option Bytes
  autoconnect : Bool
  enterprise : Bool
  entuser : Option Bytes
  entmethod : Int
  entserverauth : Bool

inductive SecType
  | open_
  | wpaWpa2
  | wpaEnt
  deriving DecidableEq

/-- `SlWlanSecParams_t`; `none` is the key `NULL` of length 0. -/
structure SecParams where
  type : SecType
  key : Option Bytes

inductive EapMethod
  /-- `SL_WLAN_ENT_EAP_METHOD_TLS` -/
  | tls
  | given (method : UInt32)

/-- `SlWlanSecParamsExt_t` -/
structure SecParamsExt where
  user : Bytes
  anonUser : Option Bytes
  certIndex : Nat
  eapMethod : EapMethod

/-- What a network is joined with. -/
structure Network where
  ssid : Bytes
  mac : Option Bytes
  secParams : SecParams
  secExtParams : Option SecParamsExt

/-- The arguments of `SL_WLAN_CONNECTION_POLICY`. -/
structure ConnectionPolicy where
  auto : Bool
  fast : Bool
  anyP2P : Bool
  autoProvisioning : Bool

/-- The SimpleLink calls. -/
inductive Call
  | wlanDisconnect
  | wlanPolicySetConnection (policy : ConnectionPolicy)
  | netCfgSetDhcp
  | wlanProfileDel (index : UInt8)
  | wlanProfileAdd (network : Network) (priority options : Nat)
  | wlanSetDisableEntServerAuth (param : UInt8)
  | wlanConnect (network : Network)

inductive Exn
  | valueError (message : String)
  | osError (message : String)
  deriving DecidableEq

/-- What the function finds: the return values of the calls, by those made before, the
value of `SL_ERROR_WLAN_WIFI_ALREADY_DISCONNECTED`, what is on the stack in `uimac`, and
what `sscanf` makes of a number that does not fit. -/
structure Setting where
  link : List Call → Call → Int
  alreadyDisconnected : Int
  uimac : Vector UInt32 6
  unfit : Nat → UInt32

/-- A function that calls SimpleLink, up to an exception. -/
abbrev Wlan (α : Type) := List Call → Except Exn α × List Call

namespace Wlan

variable {α β : Type}

def pure (a : α) : Wlan α := fun calls => (.ok a, calls)

def bind (x : Wlan α) (f : α → Wlan β) : Wlan β := fun calls =>
  match x calls with
  | (.ok a, calls') => f a calls'
  | (.error exn, calls') => (.error exn, calls')

instance : Monad Wlan where
  pure := pure
  bind := bind

def raise (exn : Exn) : Wlan α := fun calls => (.error exn, calls)

def call (env : Setting) (c : Call) : Wlan Int := fun calls => (.ok (env.link calls c), calls ++ [c])

end Wlan

/-- `if (call < 0) mp_raise_msg(&mp_type_OSError, message)` -/
def check (env : Setting) (c : Call) (message : String) : Wlan Unit := do
  if (← Wlan.call env c) < 0 then Wlan.raise (.osError message)

/-- A `char` array of `size` zeros into which the truncated data are copied. -/
def copyTruncated (size : Nat) (data : Bytes) : Bytes :=
  data.take (size - 1) ++ List.replicate (size - min data.length (size - 1)) 0

/-- The bytes in front of the terminator. -/
def cString (buffer : Bytes) : Bytes := buffer.takeWhile (· ≠ 0)

/-- `"%x:%x:%x:%x:%x:%x"` -/
def macFormat : List Directive :=
  [.hex, .literal colon, .hex, .literal colon, .hex, .literal colon, .hex, .literal colon, .hex,
    .literal colon, .hex]

/-- `mac` after `sscanf`: what it does not assign is as it was on the stack. -/
def scanMac (env : Setting) (bssid : Bytes) : Bytes :=
  let assigned := sscanf env.unfit macFormat (cString bssid)
  (assigned ++ env.uimac.toList.drop assigned.length).map UInt32.toUInt8

/-- The buffer `bssid`, with the terminator of the data, and `mac`. -/
def readBssid (env : Setting) : Option Bytes → Wlan (Bytes × Bytes)
  | none => return (List.replicate 18 0, [])
  | some data =>
    if data.length ≠ 17 then
      Wlan.raise (.valueError "bssid bad len, format = xx:xx:xx:xx:xx:xx")
    else return (data ++ [0], scanMac env (data ++ [0]))

/-- `ssid`, `secParams` and the argument `mac` of the calls. -/
structure Local where
  ssid : Bytes
  mac : Option Bytes
  secParams : SecParams

/-- From `sl_WlanDisconnect` to the DHCP mode. -/
def prepare (env : Setting) : Wlan Unit := do
  let ret ← Wlan.call env .wlanDisconnect
  if ret < 0 ∧ ret ≠ env.alreadyDisconnected then
    Wlan.raise (.osError "disconnect failed")
  else
    check env (.wlanPolicySetConnection ⟨false, true, false, false⟩)
      "Failed to enable fast connect mode"
    check env .netCfgSetDhcp "Failed to set DHCP mode"

/-- The branches on `autoconnect`. -/
def setAutoconnect (env : Setting) (args : Given) (target : Local) : Wlan Unit := do
  if args.autoconnect then
    check env (.wlanProfileDel 0xff) "Failed to clear wifi profiles"
    check env (.wlanProfileAdd ⟨target.ssid, target.mac, target.secParams, none⟩ 15 0)
      "Failed to add wifi profile"
    check env (.wlanPolicySetConnection ⟨true, false, false, false⟩)
      "Failed to enable autoconnect mode"
  else
    check env (.wlanPolicySetConnection ⟨false, false, false, false⟩)
      "Failed to disable autoconnect mode"

/-- The branches on `enterprise`. -/
def wlanConnect (env : Setting) (args : Given) (target : Local) : Wlan Unit := do
  if args.enterprise then
    let secExtParams : SecParamsExt :=
      { user := cString (copyTruncated 65 (args.entuser.getD []))
        anonUser := none
        certIndex := 0
        eapMethod := if args.entmethod ≠ 0 then .given (.ofInt args.entmethod) else .tls }
    let param : UInt8 := if args.entserverauth then 1 else 0
    check env (.wlanSetDisableEntServerAuth param) "Failed to set enterprise server auth mode"
    check env (.wlanConnect ⟨target.ssid, target.mac, { target.secParams with type := .wpaEnt },
      some secExtParams⟩) "Connect failed"
  else
    check env (.wlanConnect ⟨target.ssid, target.mac, target.secParams, none⟩) "Connect failed"

def connect (env : Setting) (args : Given) : Wlan Unit := do
  let ssid := copyTruncated 33 args.serviceId
  let password := copyTruncated 33 (args.key.getD [])
  let (bssid, mac) ← readBssid env args.bssid
  prepare env
  let target : Local :=
    { ssid := cString ssid
      mac := if 0 < (cString bssid).length then some mac else none
      secParams :=
        if (cString password).length ≠ 0 then ⟨.wpaWpa2, some (cString password)⟩
        else ⟨.open_, none⟩ }
  setAutoconnect env args target
  wlanConnect env args target

end TildaMk4.Wifi
