import Mathlib.Data.List.Basic
import Mathlib.Tactic.Common

/-!
# Wrapping a socket

`mod_ssl_wrap_socket`: the arguments that gate one another, the attributes that are
set before the handshake, and what is raised. The guard for a missing CA compares
`ssl_version` with `None`, two credentials are dropped unless `cert_reqs` is
`CERT_REQUIRED`, and the statuses of the attributes are only looked at after the
handshake.
-/

namespace TildaMk4.Net

/-- `USSL_CERT_NONE`. -/
@[simp] abbrev usslCertNone : Int := 0

/-- `USSL_CERT_REQUIRED`. -/
@[simp] abbrev usslCertRequired : Int := 2

/-- A Python object that is given as a credential: `None`, a string, or anything else. -/
inductive Obj
  | none
  | str (text : String)
  | other
  deriving DecidableEq

inductive Credential
  | keyfile
  | certfile
  | servercertfile
  | caCerts
  deriving DecidableEq

/-- The attributes `SLNETSOCK_SEC_ATTRIB_…` that hold a credential. -/
inductive SecAttrib
  | privateKey
  | localCert
  | dhKey
  | peerRootCa
  deriving DecidableEq

/-- The attribute that the code sets a credential on. -/
def Credential.attrib : Credential → SecAttrib
  | keyfile => .privateKey
  | certfile => .localCert
  | servercertfile => .dhKey
  | caCerts => .peerRootCa

/-- The parsed arguments; `sslVersion` is read as an integer and as an object. -/
structure WrapArgs where
  credential : Credential → Obj
  serverSide : Bool
  certReqs : Int
  sslVersion : Int

/-- What the calls of one run return. -/
structure NetOutcomes where
  getsockopt : Int32
  setMethod : Int32
  secAttribSet : SecAttrib → Int32
  startSec : Int32

inductive SslCall
  | getsockopt (status : Int32)
  | setMethod (method : UInt8) (status : Int32)
  | secAttribSet (attrib : SecAttrib) (value : String) (status : Int32)
  | startSec (status : Int32)
  | printed (text : String)
  deriving DecidableEq

/-- The message of an `OSError`, or a `TypeError` of `mp_obj_str_get_str`. -/
inductive Raised
  | osError (message : String)
  | typeError
  deriving DecidableEq

def Raised.argError : Raised := .osError "Invalid Args"

def Raised.socketError : Raised := .osError "Socket Error"

/-- `mp_obj_str_get_str`, with `NULL` for `None`. -/
def getStr : Obj → Except Raised (Option String)
  | .none => .ok none
  | .str text => .ok (some text)
  | .other => .error .typeError

/-- The strings that are going to be set; `none` is `NULL`. -/
abbrev Credentials := Credential → Option String

namespace WrapArgs

variable (mpConstNone : Int) (args : WrapArgs) (net : NetOutcomes)

/-- The guard "check if ca validation is required". -/
def Guard : Prop := args.certReqs ≠ usslCertNone ∧ args.sslVersion = mpConstNone

instance : Decidable (args.Guard mpConstNone) := inferInstanceAs (Decidable (_ ∧ _))

/-- A credential that is only looked at with `CERT_REQUIRED`. -/
def getRequired (credential : Credential) : Except Raised (Option String) :=
  if args.credential credential = .none ∨ args.certReqs ≠ usslCertRequired then .ok none
  else getStr (args.credential credential)

/-- Up to the test for `server_side`. -/
def credentials : Except Raised Credentials := do
  if args.Guard mpConstNone then throw Raised.argError
  let keyfile ← getStr (args.credential .keyfile)
  let certfile ← getStr (args.credential .certfile)
  let cafile ← args.getRequired .caCerts
  let servercertfile ← args.getRequired .servercertfile
  if args.serverSide && (keyfile.isNone || certfile.isNone) then throw Raised.argError
  return fun
    | .keyfile => keyfile
    | .certfile => certfile
    | .servercertfile => servercertfile
    | .caCerts => cafile

/-- `if (value) status |= SlNetSock_secAttribSet(…)`. -/
def setAttrib (credentials : Credentials) (acc : List SslCall × Int32) (credential : Credential) :
    List SslCall × Int32 :=
  match credentials credential with
  | none => acc
  | some value =>
    let status := net.secAttribSet credential.attrib
    (acc.1 ++ [.secAttribSet credential.attrib value status], acc.2 ||| status)

/-- What is printed for a negative status. -/
def statusTexts (status : Int32) : List SslCall :=
  .printed ("SlNetSock_startSec error: " ++ toString status.toInt ++ "\n") ::
    (if status = -456 then [.printed "BAD CA File\n"]
    else if status = -462 then [.printed "Handshake Timeout\n"]
    else if status = -469 then [.printed "Wrong Peer Cert Received\n"]
    else [])

/-- The four attributes, in the order in which they are set. -/
def setOrder : List Credential := [.caCerts, .servercertfile, .certfile, .keyfile]

/-- From `getsockopt` on. -/
def session (credentials : Credentials) : List SslCall × Except Raised Unit :=
  if net.getsockopt < 0 then ([.getsockopt net.getsockopt], .error .socketError)
  else
    let method := UInt8.ofInt args.sslVersion
    let calls := [.getsockopt net.getsockopt, .setMethod method net.setMethod]
    if net.setMethod < 0 then (calls, .error .socketError)
    else
      let attribs := setOrder.foldl (setAttrib net credentials) (calls, net.setMethod)
      let status := attribs.2 ||| net.startSec
      let called := attribs.1 ++ [.startSec net.startSec]
      if status < 0 then (called ++ statusTexts status, .error .socketError)
      else (called, .ok ())

/-- `mod_ssl_wrap_socket`: the calls that it makes, and how it ends. -/
def wrapSocket : List SslCall × Except Raised Unit :=
  match args.credentials mpConstNone with
  | .error raised => ([], .error raised)
  | .ok credentials => args.session net credentials

end WrapArgs

def SslCall.Succeeded : SslCall → Prop
  | getsockopt status | setMethod _ status | secAttribSet _ _ status | startSec status =>
    ¬status < 0
  | printed _ => True

/-- A security session has been started. -/
def Started (calls : List SslCall) : Prop := ∃ status, ¬status < 0 ∧ .startSec status ∈ calls

/-- `value` has been set on `attrib` before the handshake. -/
def SetBeforeStart (calls : List SslCall) (attrib : SecAttrib) (value : String) : Prop :=
  ∃ before start after status, calls = before ++ .startSec start :: after ∧
    .secAttribSet attrib value status ∈ before

/-- Verification is never dropped: what the caller asked for is what the session was
started with. -/
structure Secure (args : WrapArgs) (run : List SslCall × Except Raised Unit) : Prop where
  returned : run.2 = .ok () → (∀ call ∈ run.1, call.Succeeded) ∧
    ∀ credential, args.credential credential ≠ .none →
      ∃ value, args.credential credential = .str value ∧
        SetBeforeStart run.1 credential.attrib value
  noCa : args.certReqs ≠ usslCertNone → args.credential .caCerts = .none →
    (∃ message, run.2 = .error (.osError message)) ∧ ¬Started run.1
  required : args.certReqs = usslCertRequired → Started run.1 →
    ∃ value, SetBeforeStart run.1 .peerRootCa value
  raised : run.2 ≠ .ok () → ¬Started run.1

section Conditions

variable (mpConstNone : Int) (args : WrapArgs) (net : NetOutcomes)

/-- Every object that the code reads as a string is one. -/
structure Typed : Prop where
  keyfile : args.credential .keyfile ≠ .other
  certfile : args.credential .certfile ≠ .other
  required : args.certReqs = usslCertRequired →
    args.credential .caCerts ≠ .other ∧ args.credential .servercertfile ≠ .other

/-- A server has its key and its certificate. -/
def ServerEquipped : Prop :=
  args.serverSide = true →
    args.credential .keyfile ≠ .none ∧ args.credential .certfile ≠ .none

/-- The arguments and the network let the call come to a successful handshake. -/
structure Handshakes : Prop where
  guard : ¬args.Guard mpConstNone
  typed : Typed args
  server : ServerEquipped args
  getsockopt : ¬net.getsockopt < 0
  setMethod : ¬net.setMethod < 0
  startSec : ¬net.startSec < 0

/-- A handshake that succeeds was asked for with a CA unless `cert_reqs` is
`CERT_NONE`, no credential was given that only `CERT_REQUIRED` uses, and no attribute
failed; and an object of a wrong type does not come with a missing CA. -/
structure NothingDropped : Prop where
  typed : ¬args.Guard mpConstNone → ¬Typed args →
    args.certReqs = usslCertNone ∨ args.credential .caCerts ≠ .none
  ca : Handshakes mpConstNone args net → args.certReqs ≠ usslCertNone →
    args.credential .caCerts ≠ .none
  used : Handshakes mpConstNone args net → args.certReqs ≠ usslCertRequired →
    args.credential .caCerts = .none ∧ args.credential .servercertfile = .none
  set : Handshakes mpConstNone args net → ∀ credential, args.credential credential ≠ .none →
    ¬net.secAttribSet credential.attrib < 0

end Conditions

section Parsing

variable {mpConstNone : Int} {args : WrapArgs}

/-- The string that an object is read as. -/
def Obj.text : Obj → Option String
  | .str text => some text
  | .none | .other => .none

/-- What the four credentials are read as. -/
def WrapArgs.parsed (args : WrapArgs) : Credentials
  | .keyfile => (args.credential .keyfile).text
  | .certfile => (args.credential .certfile).text
  | .servercertfile =>
    if args.certReqs = usslCertRequired then (args.credential .servercertfile).text else none
  | .caCerts =>
    if args.certReqs = usslCertRequired then (args.credential .caCerts).text else none

theorem getStr_other {object : Obj} (other : object = .other) :
    getStr object = .error .typeError := by
  rw [other, getStr]

theorem getStr_ok {object : Obj} (typed : object ≠ .other) : getStr object = .ok object.text := by
  cases object with
  | none => rfl
  | str text => rfl
  | other => exact absurd rfl typed

theorem getRequired_of_required (required : args.certReqs = usslCertRequired)
    (credential : Credential) :
    args.getRequired credential = getStr (args.credential credential) := by
  unfold WrapArgs.getRequired
  split
  next unused =>
    rcases unused with absent | optional
    · rw [absent, getStr]
    · exact absurd required optional
  next => rfl

theorem getRequired_of_optional (optional : args.certReqs ≠ usslCertRequired)
    (credential : Credential) : args.getRequired credential = .ok none :=
  if_pos (.inr optional)

theorem getRequired_ok {credential : Credential}
    (typed : args.certReqs = usslCertRequired → args.credential credential ≠ .other) :
    args.getRequired credential = .ok
      (if args.certReqs = usslCertRequired then (args.credential credential).text else none) := by
  by_cases required : args.certReqs = usslCertRequired
  · rw [getRequired_of_required required, getStr_ok (typed required), if_pos required]
  · rw [getRequired_of_optional required, if_neg required]

theorem isNone_text {object : Obj} (typed : object ≠ .other) :
    object.text.isNone = true ↔ object = .none := by
  cases object with
  | none => exact iff_of_true rfl rfl
  | str text => exact iff_of_false Bool.false_ne_true nofun
  | other => exact absurd rfl typed

theorem credentials_of_guard (guard : args.Guard mpConstNone) :
    args.credentials mpConstNone = .error .argError := by
  rw [WrapArgs.credentials, if_pos guard]
  rfl

theorem credentials_of_typed (guard : ¬args.Guard mpConstNone) (typed : Typed args) :
    ServerEquipped args ∧ args.credentials mpConstNone = .ok args.parsed ∨
      ¬ServerEquipped args ∧ args.credentials mpConstNone = .error .argError := by
  have keyfile := getStr_ok typed.keyfile
  have certfile := getStr_ok typed.certfile
  have cafile := getRequired_ok fun required => (typed.required required).1
  have servercertfile := getRequired_ok fun required => (typed.required required).2
  have equipped : (args.serverSide && ((args.credential .keyfile).text.isNone ||
      (args.credential .certfile).text.isNone)) = true ↔ ¬ServerEquipped args := by
    rw [ServerEquipped, Bool.and_eq_true, Bool.or_eq_true, isNone_text typed.keyfile,
      isNone_text typed.certfile]
    tauto
  by_cases server : ServerEquipped args
  · refine .inl ⟨server, ?_⟩
    have passes := mt equipped.mp (not_not.mpr server)
    simp only [WrapArgs.credentials, if_neg guard, keyfile, certfile, cafile, servercertfile, bind,
      Except.bind, if_neg passes, pure, Except.pure]
    rfl
  · refine .inr ⟨server, ?_⟩
    have fails := equipped.mpr server
    simp only [WrapArgs.credentials, if_neg guard, keyfile, certfile, cafile, servercertfile, bind,
      Except.bind, if_pos fails, throw, throwThe, MonadExceptOf.throw, pure, Except.pure]

theorem credentials_of_not_typed (guard : ¬args.Guard mpConstNone) (mistyped : ¬Typed args) :
    args.credentials mpConstNone = .error .typeError := by
  rw [WrapArgs.credentials, if_neg guard]
  by_cases keyfile : args.credential .keyfile = .other
  · rw [getStr_other keyfile]
    rfl
  rw [getStr_ok keyfile]
  by_cases certfile : args.credential .certfile = .other
  · rw [getStr_other certfile]
    rfl
  rw [getStr_ok certfile]
  have required : args.certReqs = usslCertRequired := by
    by_contra optional
    exact mistyped ⟨keyfile, certfile, fun required => absurd required optional⟩
  rw [getRequired_of_required required, getRequired_of_required required]
  by_cases cafile : args.credential .caCerts = .other
  · rw [getStr_other cafile]
    rfl
  rw [getStr_ok cafile]
  have servercertfile : args.credential .servercertfile = .other := by
    by_contra typed
    exact mistyped ⟨keyfile, certfile, fun _ => ⟨cafile, typed⟩⟩
  rw [getStr_other servercertfile]
  rfl

theorem parsed_given {credential : Credential} (read : args.parsed credential ≠ none) :
    args.credential credential ≠ .none := by
  intro absent
  apply read
  cases credential with
  | keyfile => rw [WrapArgs.parsed, absent, Obj.text]
  | certfile => rw [WrapArgs.parsed, absent, Obj.text]
  | servercertfile => rw [WrapArgs.parsed, absent, Obj.text, ite_self]
  | caCerts => rw [WrapArgs.parsed, absent, Obj.text, ite_self]

end Parsing

section Session

variable {args : WrapArgs} {net : NetOutcomes} {credentials : Credentials}

theorem or_neg (a b : Int32) : a ||| b < 0 ↔ a < 0 ∨ b < 0 := by
  have neg (x : Int32) : x < 0 ↔ x.toBitVec.msb = true := by
    rw [Int32.lt_iff_toInt_lt, BitVec.msb_eq_toInt, decide_eq_true_eq]
    rfl
  rw [neg, neg, neg, Int32.toBitVec_or, BitVec.msb_or, Bool.or_eq_true]

/-- The calls that set the given ones of a list of credentials. -/
def setCalls (net : NetOutcomes) (credentials : Credentials) (order : List Credential) :
    List SslCall :=
  order.flatMap fun credential =>
    match credentials credential with
    | none => []
    | some value => [.secAttribSet credential.attrib value (net.secAttribSet credential.attrib)]

theorem setCalls_absent {credential : Credential} (absent : credentials credential = none)
    (rest : List Credential) :
    setCalls net credentials (credential :: rest) = setCalls net credentials rest := by
  rw [setCalls, List.flatMap_cons, absent]
  rfl

theorem setCalls_given {credential : Credential} {value : String}
    (given : credentials credential = some value) (rest : List Credential) :
    setCalls net credentials (credential :: rest) =
      .secAttribSet credential.attrib value (net.secAttribSet credential.attrib) ::
        setCalls net credentials rest := by
  rw [setCalls, List.flatMap_cons, given]
  rfl

/-- Every credential has its turn. -/
theorem mem_setOrder (credential : Credential) : credential ∈ WrapArgs.setOrder := by
  cases credential <;> decide

theorem mem_setCalls {order : List Credential} {call : SslCall} :
    call ∈ setCalls net credentials order ↔ ∃ credential ∈ order, ∃ value,
      credentials credential = some value ∧
        call = .secAttribSet credential.attrib value (net.secAttribSet credential.attrib) := by
  rw [setCalls, List.mem_flatMap]
  refine exists_congr fun credential => and_congr_right fun _ => ?_
  cases credentials credential with
  | none => exact iff_of_false List.not_mem_nil nofun
  | some value => simp

theorem foldl_setAttrib_calls (order : List Credential) (acc : List SslCall × Int32) :
    (order.foldl (WrapArgs.setAttrib net credentials) acc).1 =
      acc.1 ++ setCalls net credentials order := by
  induction order generalizing acc with
  | nil => exact (List.append_nil acc.1).symm
  | cons credential rest ih =>
    rw [List.foldl_cons, ih, WrapArgs.setAttrib]
    cases given : credentials credential with
    | none => rw [setCalls_absent given]
    | some value => rw [setCalls_given given, List.append_assoc, List.singleton_append]

theorem foldl_setAttrib_neg (order : List Credential) (acc : List SslCall × Int32) :
    (order.foldl (WrapArgs.setAttrib net credentials) acc).2 < 0 ↔
      acc.2 < 0 ∨ ∃ call ∈ setCalls net credentials order, ¬call.Succeeded := by
  induction order generalizing acc with
  | nil =>
    have empty : ¬∃ call ∈ setCalls net credentials [], ¬call.Succeeded := by
      rintro ⟨call, member, -⟩
      exact List.not_mem_nil member
    exact (or_iff_left empty).symm
  | cons credential rest ih =>
    rw [List.foldl_cons, ih, WrapArgs.setAttrib]
    cases given : credentials credential with
    | none => rw [setCalls_absent given]
    | some value =>
      simp only [setCalls_given given, or_neg, List.mem_cons, exists_eq_or_imp,
        SslCall.Succeeded, not_not, or_assoc]

theorem mem_statusTexts {status : Int32} {call : SslCall}
    (member : call ∈ WrapArgs.statusTexts status) : ∃ text, call = .printed text := by
  rw [WrapArgs.statusTexts, List.mem_cons] at member
  rcases member with first | rest
  · exact ⟨_, first⟩
  · split_ifs at rest
    · exact ⟨_, List.mem_singleton.mp rest⟩
    · exact ⟨_, List.mem_singleton.mp rest⟩
    · exact ⟨_, List.mem_singleton.mp rest⟩
    · exact absurd rest List.not_mem_nil

/-- The calls before the handshake. -/
def callsBefore (args : WrapArgs) (net : NetOutcomes) (credentials : Credentials) :
    List SslCall :=
  [.getsockopt net.getsockopt, .setMethod (UInt8.ofInt args.sslVersion) net.setMethod] ++
    setCalls net credentials WrapArgs.setOrder

theorem session_refused (args : WrapArgs) (credentials : Credentials)
    (refused : net.getsockopt < 0 ∨ net.setMethod < 0) :
    (args.session net credentials).2 = .error .socketError ∧
      ¬Started (args.session net credentials).1 := by
  rw [WrapArgs.session]
  split
  next =>
    refine ⟨rfl, ?_⟩
    rintro ⟨status, -, member⟩
    exact absurd member (by simp)
  next found =>
    rw [if_pos (refused.resolve_left found)]
    refine ⟨rfl, ?_⟩
    rintro ⟨status, -, member⟩
    exact absurd member (by simp)

theorem session_reached (args : WrapArgs) (credentials : Credentials)
    (found : ¬net.getsockopt < 0) (method : ¬net.setMethod < 0) :
    (∃ texts, (args.session net credentials).1 =
        callsBefore args net credentials ++ .startSec net.startSec :: texts ∧
      ∀ call ∈ texts, ∃ text, call = .printed text) ∧
    ((args.session net credentials).2 = .ok () ∧
        (∀ call ∈ setCalls net credentials WrapArgs.setOrder, call.Succeeded) ∧
          ¬net.startSec < 0 ∨
      (args.session net credentials).2 = .error .socketError ∧
        ((∃ call ∈ setCalls net credentials WrapArgs.setOrder, ¬call.Succeeded) ∨
          net.startSec < 0)) := by
  rw [WrapArgs.session, if_neg found, if_neg method]
  dsimp only
  split
  next failed =>
    rw [or_neg, foldl_setAttrib_neg, or_iff_right method] at failed
    rw [foldl_setAttrib_calls, List.append_assoc, List.append_assoc, List.singleton_append]
    exact ⟨⟨_, rfl, fun call => mem_statusTexts⟩, .inr ⟨rfl, failed⟩⟩
  next fine =>
    rw [or_neg, foldl_setAttrib_neg, or_iff_right method] at fine
    rw [foldl_setAttrib_calls]
    refine ⟨⟨[], rfl, nofun⟩,
      .inl ⟨rfl, fun call member => ?_, fun failed => fine (.inr failed)⟩⟩
    by_contra failed
    exact fine (.inl ⟨call, member, failed⟩)

theorem not_started_callsBefore {status : Int32} :
    .startSec status ∉ callsBefore args net credentials := by
  intro member
  rw [callsBefore, List.mem_append, mem_setCalls] at member
  rcases member with first | ⟨_, _, _, _, set⟩
  · simp at first
  · nomatch set

theorem started_session (args : WrapArgs) (credentials : Credentials)
    (found : ¬net.getsockopt < 0) (method : ¬net.setMethod < 0) :
    Started (args.session net credentials).1 ↔ ¬net.startSec < 0 := by
  obtain ⟨⟨texts, calls, printed⟩, -⟩ :=
    session_reached args credentials found method
  rw [Started, calls]
  constructor
  · rintro ⟨status, fine, member⟩
    rw [List.mem_append, List.mem_cons] at member
    rcases member with before | this | after
    · exact absurd before not_started_callsBefore
    · rwa [← SslCall.startSec.inj this]
    · obtain ⟨text, same⟩ := printed _ after
      nomatch same
  · intro fine
    exact ⟨_, fine, List.mem_append_right _ List.mem_cons_self⟩

theorem setBeforeStart_session (args : WrapArgs) (credentials : Credentials)
    (found : ¬net.getsockopt < 0) (method : ¬net.setMethod < 0)
    {attrib : SecAttrib} {value : String} :
    SetBeforeStart (args.session net credentials).1 attrib value ↔
      ∃ credential, credential.attrib = attrib ∧ credentials credential = some value := by
  obtain ⟨⟨texts, calls, printed⟩, -⟩ :=
    session_reached args credentials found method
  rw [SetBeforeStart, calls]
  constructor
  · rintro ⟨before, start, after, status, split, member⟩
    have listed : .secAttribSet attrib value status ∈
        callsBefore args net credentials ++ .startSec net.startSec :: texts := by
      rw [split]
      exact List.mem_append_left _ member
    rw [List.mem_append, List.mem_cons] at listed
    rcases listed with set | this | after
    · rw [callsBefore, List.mem_append, mem_setCalls] at set
      rcases set with first | ⟨credential, _, _, given, same⟩
      · simp at first
      · cases same
        exact ⟨credential, rfl, given⟩
    · nomatch this
    · obtain ⟨text, same⟩ := printed _ after
      nomatch same
  · rintro ⟨credential, rfl, given⟩
    exact ⟨_, _, _, _, rfl, List.mem_append_right _
      (mem_setCalls.mpr ⟨credential, mem_setOrder credential, value, given, rfl⟩)⟩

end Session

section Verification

variable {mpConstNone : Int} {args : WrapArgs} {net : NetOutcomes}

theorem attrib_injective {first second : Credential} (same : first.attrib = second.attrib) :
    first = second := by
  cases first <;> cases second <;> first | rfl | nomatch same

theorem secure_of_refused {run : List SslCall × Except Raised Unit} {message : String}
    (raised : run.2 = .error (.osError message)) (quiet : ¬Started run.1) : Secure args run where
  returned returned := by
    rw [raised] at returned
    nomatch returned
  noCa _ _ := ⟨⟨message, raised⟩, quiet⟩
  required _ started := absurd started quiet
  raised _ := quiet

theorem nothingDropped_of_stuck (stuck : ¬Handshakes mpConstNone args net)
    (typed : ¬args.Guard mpConstNone → Typed args) : NothingDropped mpConstNone args net where
  typed guard mistyped := absurd (typed guard) mistyped
  ca reaches := absurd reaches stuck
  used reaches := absurd reaches stuck
  set reaches := absurd reaches stuck

theorem not_started_nil : ¬Started [] := by
  rintro ⟨status, -, member⟩
  exact List.not_mem_nil member

theorem secure_typeError : Secure args ([], .error .typeError) ↔
    args.certReqs = usslCertNone ∨ args.credential .caCerts ≠ .none := by
  constructor
  · intro secure
    by_contra missing
    obtain ⟨verified, absent⟩ := not_or.mp missing
    obtain ⟨⟨message, same⟩, -⟩ := secure.noCa verified (not_not.mp absent)
    nomatch same
  · intro given
    exact {
      returned := nofun
      noCa := fun verified absent => absurd given (not_or.mpr ⟨verified, not_not.mpr absent⟩)
      required := fun _ started => absurd started not_started_nil
      raised := fun _ => not_started_nil }

theorem NothingDropped.parsed (nothing : NothingDropped mpConstNone args net)
    (reaches : Handshakes mpConstNone args net) {credential : Credential}
    (given : args.credential credential ≠ .none) :
    ∃ value, args.credential credential = .str value ∧ args.parsed credential = some value := by
  have typed : args.credential credential ≠ .other ∧
      args.parsed credential = (args.credential credential).text := by
    by_cases required : args.certReqs = usslCertRequired
    · obtain ⟨cafile, servercertfile⟩ := reaches.typed.required required
      cases credential with
      | keyfile => exact ⟨reaches.typed.keyfile, rfl⟩
      | certfile => exact ⟨reaches.typed.certfile, rfl⟩
      | servercertfile => exact ⟨servercertfile, if_pos required⟩
      | caCerts => exact ⟨cafile, if_pos required⟩
    · obtain ⟨cafile, servercertfile⟩ := nothing.used reaches required
      cases credential with
      | keyfile => exact ⟨reaches.typed.keyfile, rfl⟩
      | certfile => exact ⟨reaches.typed.certfile, rfl⟩
      | servercertfile => exact absurd servercertfile given
      | caCerts => exact absurd cafile given
  cases object : args.credential credential with
  | none => exact absurd object given
  | str text => exact ⟨text, rfl, by rw [typed.2, object, Obj.text]⟩
  | other => exact absurd object typed.1

theorem secure_of_nothingDropped (reaches : Handshakes mpConstNone args net)
    (nothing : NothingDropped mpConstNone args net) :
    Secure args (args.session net args.parsed) := by
  have set {credential : Credential} {value : String}
      (read : args.parsed credential = some value) :
      SetBeforeStart (args.session net args.parsed).1 credential.attrib value :=
    (setBeforeStart_session args args.parsed reaches.getsockopt reaches.setMethod).mpr
      ⟨credential, rfl, read⟩
  have succeeds : ∀ call ∈ setCalls net args.parsed WrapArgs.setOrder, call.Succeeded := by
    intro call member
    obtain ⟨credential, -, value, read, rfl⟩ := mem_setCalls.mp member
    exact nothing.set reaches credential (parsed_given (read ▸ nofun))
  obtain ⟨⟨texts, calls, printed⟩, ending⟩ :=
    session_reached args args.parsed reaches.getsockopt reaches.setMethod
  have returned : (args.session net args.parsed).2 = .ok () := by
    rcases ending with ⟨returned, -⟩ | ⟨-, ⟨call, member, failed⟩ | failed⟩
    · exact returned
    · exact absurd (succeeds call member) failed
    · exact absurd failed reaches.startSec
  refine ⟨fun _ => ⟨fun call member => ?_, fun credential given => ?_⟩, fun verified absent => ?_,
    fun required _ => ?_, fun raised => absurd returned raised⟩
  · rw [calls, callsBefore, List.mem_append, List.mem_append] at member
    rcases member with (first | among) | rest
    · rcases List.mem_pair.mp first with rfl | rfl
      · exact reaches.getsockopt
      · exact reaches.setMethod
    · exact succeeds call among
    · rcases List.mem_cons.mp rest with rfl | text
      · exact reaches.startSec
      · obtain ⟨text, rfl⟩ := printed call text
        trivial
  · obtain ⟨value, given, read⟩ := nothing.parsed reaches given
    exact ⟨value, given, set read⟩
  · exact absurd absent (nothing.ca reaches verified)
  · have verified : args.certReqs ≠ usslCertNone := by
      rw [required]
      decide
    obtain ⟨value, -, read⟩ := nothing.parsed reaches (nothing.ca reaches verified)
    exact ⟨value, set read⟩

theorem nothingDropped_of_secure (reaches : Handshakes mpConstNone args net)
    (secure : Secure args (args.session net args.parsed)) :
    NothingDropped mpConstNone args net := by
  have started : Started (args.session net args.parsed).1 :=
    (started_session args args.parsed reaches.getsockopt reaches.setMethod).mpr reaches.startSec
  have returned : (args.session net args.parsed).2 = .ok () := by
    by_contra raised
    exact secure.raised raised started
  have read {credential : Credential} (given : args.credential credential ≠ .none) :
      ∃ value, args.parsed credential = some value := by
    obtain ⟨value, -, set⟩ := (secure.returned returned).2 credential given
    obtain ⟨other, same, read⟩ :=
      (setBeforeStart_session args args.parsed reaches.getsockopt reaches.setMethod).mp set
    rw [attrib_injective same] at read
    exact ⟨value, read⟩
  have unread {credential : Credential} (dropped : args.parsed credential = none) :
      args.credential credential = .none := by
    by_contra given
    obtain ⟨value, read⟩ := read given
    rw [dropped] at read
    nomatch read
  refine ⟨fun _ mistyped => absurd reaches.typed mistyped, fun _ verified absent => ?_,
    fun _ optional => ⟨unread (if_neg optional), unread (if_neg optional)⟩,
    fun _ credential given => ?_⟩
  · exact (secure.noCa verified absent).2 started
  · obtain ⟨value, read⟩ := read given
    obtain ⟨-, ⟨-, succeeds, -⟩ | ⟨raised, -⟩⟩ :=
      session_reached args args.parsed reaches.getsockopt
        reaches.setMethod
    · exact succeeds _ (mem_setCalls.mpr ⟨credential, mem_setOrder credential, value, read, rfl⟩)
    · rw [returned] at raised
      nomatch raised

/-- `wrap_socket(sock, cert_reqs=CERT_REQUIRED)`. -/
def requiredWithoutCa : WrapArgs where
  credential _ := .none
  serverSide := false
  certReqs := usslCertRequired
  sslVersion := 4

/-- Every call of the network succeeds. -/
def allSucceed : NetOutcomes := ⟨0, 0, fun _ => 0, 0⟩

end Verification

end TildaMk4.Net
