import TildaMk4.Wifi.Credentials

/-!
# A connection up to its first failure

Every SimpleLink call of `network_stalan_connect` is checked: the function is the list of its
calls, made one after another until one fails.
-/

namespace TildaMk4.Wifi

/-- The message that goes with a failed call. -/
def Call.message : Call → String
  | .wlanDisconnect => "disconnect failed"
  | .wlanPolicySetConnection policy =>
    if policy.fast then "Failed to enable fast connect mode"
    else if policy.auto then "Failed to enable autoconnect mode"
    else "Failed to disable autoconnect mode"
  | .netCfgSetDhcp => "Failed to set DHCP mode"
  | .wlanProfileDel _ => "Failed to clear wifi profiles"
  | .wlanProfileAdd .. => "Failed to add wifi profile"
  | .wlanSetDisableEntServerAuth _ => "Failed to set enterprise server auth mode"
  | .wlanConnect _ => "Connect failed"

def Call.disconnects : Call → Bool
  | .wlanDisconnect => true
  | _ => false

/-- A call fails behind those made before it. Not to be connected is no failure to disconnect. -/
def Fails (env : Setting) (calls : List Call) (c : Call) : Prop :=
  env.link calls c < 0 ∧ ¬(c.disconnects = true ∧ env.link calls c = env.alreadyDisconnected)

instance (env : Setting) (calls : List Call) (c : Call) : Decidable (Fails env calls c) :=
  inferInstanceAs (Decidable (_ ∧ _))

/-- The calls in their order, up to the first that fails. -/
def performCalls (env : Setting) : List Call → Wlan Unit
  | [] => Wlan.pure ()
  | c :: rest => fun calls =>
    if Fails env calls c then (.error (.osError c.message), calls ++ [c])
    else performCalls env rest (calls ++ [c])

section Calls

variable {env : Setting}

theorem performCalls_append (first second : List Call) : performCalls env (first ++ second) =
    Wlan.bind (performCalls env first) fun _ => performCalls env second := by
  induction first with
  | nil => rfl
  | cons c first ih =>
    funext calls
    by_cases fails : Fails env calls c
    · simp [performCalls, Wlan.bind, fails]
    · simpa [performCalls, Wlan.bind, fails] using congrFun ih (calls ++ [c])

theorem check_eq_performCalls {c : Call} (other : c.disconnects = false) :
    check env c c.message = performCalls env [c] := by
  funext calls
  change (if env.link calls c < 0 then _ else _ : Wlan Unit) _ = _
  have fails : Fails env calls c ↔ env.link calls c < 0 := by simp [Fails, other]
  rw [performCalls]
  simp only [fails]
  split <;> rfl

theorem prepare_eq_performCalls : prepare env = performCalls env prepareCalls := by
  funext calls
  change (if env.link calls .wlanDisconnect < 0 ∧
    env.link calls .wlanDisconnect ≠ env.alreadyDisconnected then _ else _ : Wlan Unit) _ = _
  have fails : Fails env calls .wlanDisconnect ↔ env.link calls .wlanDisconnect < 0 ∧
      env.link calls .wlanDisconnect ≠ env.alreadyDisconnected := by
    simp [Fails, Call.disconnects]
  rw [prepareCalls, performCalls]
  simp only [fails]
  split
  next => rfl
  next =>
    have checks : check env (.wlanPolicySetConnection ⟨false, true, false, false⟩)
        "Failed to enable fast connect mode" = performCalls env
          [.wlanPolicySetConnection ⟨false, true, false, false⟩] := check_eq_performCalls rfl
    have dhcp : check env .netCfgSetDhcp "Failed to set DHCP mode" =
        performCalls env [.netCfgSetDhcp] := check_eq_performCalls rfl
    rw [checks, dhcp]
    exact (congrFun (performCalls_append [_] [_]) _).symm

/-- A check in front of calls that are made one after another. -/
theorem bind_check_performCalls {c : Call} (other : c.disconnects = false) (rest : List Call) :
    (check env c c.message >>= fun _ => performCalls env rest) = performCalls env (c :: rest) := by
  rw [check_eq_performCalls other]
  exact (performCalls_append [c] rest).symm

variable (args : Given) (target : Local)

theorem setAutoconnect_eq_performCalls :
    setAutoconnect env args target = performCalls env (autoconnectCalls args target) := by
  rw [setAutoconnect, autoconnectCalls]
  split
  next =>
    rw [← bind_check_performCalls rfl, ← bind_check_performCalls rfl, ← check_eq_performCalls rfl]
    rfl
  next => exact check_eq_performCalls rfl

theorem wlanConnect_eq_performCalls :
    wlanConnect env args target = performCalls env (connectCalls args target) := by
  rw [wlanConnect, connectCalls]
  split
  next =>
    rw [← bind_check_performCalls rfl, ← check_eq_performCalls rfl]
    rfl
  next => exact check_eq_performCalls rfl

/-- With a `bssid` of the right length, or none, the function is its calls. -/
theorem connect_eq_performCalls (fits : ∀ bssid ∈ args.bssid, bssid.length = 17) :
    connect env args [] = performCalls env (callsOf env args) [] := by
  have step (bssid mac : Bytes) (read : readBssid env args.bssid = pure (bssid, mac))
      (passed : (if 0 < (cString bssid).length then some mac else none) =
        (localOf env args).mac) :
      connect env args [] = performCalls env (callsOf env args) [] := by
    have joined : connect env args [] = Wlan.bind (prepare env) (fun _ =>
        Wlan.bind (setAutoconnect env args (localOf env args)) fun _ =>
          wlanConnect env args (localOf env args)) [] := by
      rw [connect, read]
      change Wlan.bind (prepare env) _ [] = _
      simp only [passed]
      rfl
    rw [joined, prepare_eq_performCalls, setAutoconnect_eq_performCalls,
      wlanConnect_eq_performCalls, callsOf, List.append_assoc, performCalls_append,
      performCalls_append]
  cases given : args.bssid with
  | none =>
    apply step (List.replicate 18 0) []
    · rw [given]
      rfl
    · rw [localOf, given]
      rfl
  | some bssid =>
    apply step (bssid ++ [0]) (scanMac env (bssid ++ [0]))
    · rw [given, readBssid, if_neg (not_not.mpr (fits bssid given))]
    · rw [localOf, given]
      rfl

/-- None of the calls fails behind those made before it. -/
def Fine (env : Setting) (calls cs : List Call) : Prop :=
  ∀ before c after, cs = before ++ c :: after → ¬Fails env (calls ++ before) c

/-- Calls are made in order up to the first that fails, and the exception names that one. -/
inductive Performed (env : Setting) (calls cs : List Call) : Except Exn Unit × List Call → Prop
  | all (fine : Fine env calls cs) : Performed env calls cs (.ok (), calls ++ cs)
  | failed (before : List Call) (c : Call) (after : List Call) (split : cs = before ++ c :: after)
    (fine : Fine env calls before) (fails : Fails env (calls ++ before) c) :
    Performed env calls cs (.error (.osError c.message), calls ++ before ++ [c])

theorem Fine.cons {calls rest : List Call} {c : Call} (first : ¬Fails env calls c)
    (later : Fine env (calls ++ [c]) rest) : Fine env calls (c :: rest) := by
  intro before c' after split
  cases before with
  | nil =>
    obtain ⟨rfl, -⟩ := List.cons.inj split
    rwa [List.append_nil]
  | cons d before =>
    obtain ⟨rfl, behind⟩ := List.cons.inj split
    rw [List.append_cons]
    exact later before c' after behind

theorem fine_nil {calls : List Call} : Fine env calls [] := by
  intro before c after split
  simp at split

theorem performed_performCalls (cs : List Call) :
    ∀ calls, Performed env calls cs (performCalls env cs calls) := by
  induction cs with
  | nil =>
    intro calls
    have performed : Performed env calls [] (.ok (), calls ++ []) := .all fine_nil
    rwa [List.append_nil] at performed
  | cons c rest ih =>
    intro calls
    by_cases fails : Fails env calls c
    · have made : performCalls env (c :: rest) calls =
          (.error (.osError c.message), calls ++ [c]) := if_pos fails
      have performed : Performed env calls (c :: rest)
          (.error (.osError c.message), calls ++ [] ++ [c]) :=
        .failed [] c rest rfl fine_nil (by rwa [List.append_nil])
      rwa [List.append_nil, ← made] at performed
    · have made : performCalls env (c :: rest) calls = performCalls env rest (calls ++ [c]) :=
        if_neg fails
      have later := ih (calls ++ [c])
      rw [made]
      generalize performCalls env rest (calls ++ [c]) = result at later ⊢
      cases later with
      | all fine =>
        rw [← List.append_cons]
        exact .all (fine.cons fails)
      | failed before c' after split fine fails' =>
        rw [← List.append_cons]
        rw [← List.append_cons] at fails'
        exact .failed (c :: before) c' after (congrArg (c :: ·) split) (fine.cons fails) fails'

theorem performed_connect (fits : ∀ bssid ∈ args.bssid, bssid.length = 17) :
    Performed env [] (callsOf env args) (connect env args []) := by
  rw [connect_eq_performCalls args fits]
  exact performed_performCalls (callsOf env args) []

/-- Whatever fails, the calls that are made are among those of the list. -/
theorem Performed.mem {cs : List Call} {result : Except Exn Unit × List Call}
    (performed : Performed env [] cs result) {call : Call} (made : call ∈ result.2) :
    call ∈ cs := by
  cases performed with
  | all => exact made
  | failed before c after split =>
    rw [split, List.append_cons]
    exact List.mem_append_left after made

end Calls

/-- A `bssid` of the wrong length is refused before any call. Every other connection makes its
calls in order, stops at the first that fails and raises the exception that goes with it. -/
theorem connect_stops (env : Setting) (args : Given) :
    ((∃ bssid ∈ args.bssid, bssid.length ≠ 17) ∧
      connect env args [] = (.error (.valueError
        "bssid bad len, format = xx:xx:xx:xx:xx:xx"), [])) ∨
    ((∀ bssid ∈ args.bssid, bssid.length = 17) ∧
      Performed env [] (callsOf env args) (connect env args [])) := by
  by_cases fits : ∀ bssid ∈ args.bssid, bssid.length = 17
  · exact .inr ⟨fits, performed_connect args fits⟩
  · simp only [not_forall] at fits
    obtain ⟨bssid, given, long⟩ := fits
    have read : readBssid env args.bssid =
        Wlan.raise (.valueError "bssid bad len, format = xx:xx:xx:xx:xx:xx") := by
      rw [Option.mem_def.mp given, readBssid, if_pos long]
    refine .inl ⟨⟨bssid, given, long⟩, ?_⟩
    rw [connect, read]
    rfl

end TildaMk4.Wifi
