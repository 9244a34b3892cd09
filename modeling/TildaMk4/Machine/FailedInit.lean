import TildaMk4.Machine.UartHandles

/-!
# What a failing `init` of a UART leaves behind

`uart_init_helper` stores each field before it checks it, and the handle before it
looks at it. An `init` that raises is therefore without effect only if all that it had
stored by then was there before.
-/

namespace TildaMk4.Machine

open Resources Transition

namespace Uart

/-- `uart_init_helper` raises: in `mp_arg_parse_all`, at one of its checks, or because
`UART_open` returns `NULL`. -/
def raises (s : Uarts) (self : Object) (args : Option Args) (opens : Bool) : Bool :=
  match args with
  | none => true
  | some args => (configure self.config args).2.isNone || !(opens && !isOpen s self.id)

/-- The fields that `machine_uart_print` shows of `config` are those of a port that was
opened with `params`. -/
structure Describes (config : Config) (params : Params) : Prop where
  baudrate : config.baudrate = params.baudRate
  bits : config.bits = params.dataLength
  parity : config.parity = params.parityType
  stop : config.stop = params.stopBits
  flow : config.flow = 0
  mode : config.mode = if params.binaryMode then binary else text
  timeout : config.timeout = params.timeout

/-- The object shows the configuration of the port whose handle it has. -/
def Described (s : Uarts) (self : Object) : Prop :=
  ∀ handle id params, self.uart = some handle → s.ledger.held handle = some (id, params) →
    self.id = id ∧ Describes self.config params

/-- A call of the constructor or of `init` that raises changes nothing, and the object
still shows the configuration of its handle. -/
def FailsCleanly (s : Uarts) : Act → Prop
  | .makeNew id blank args opens => ∀ args_, args = some args_ →
    raises s ⟨id, none, blank⟩ args_ opens = true → (makeNew s id blank args opens).1 = s
  | .init number args opens => ∀ self, s.objects number = some self →
    raises s self args opens = true →
      (init s number self args opens).1 = s ∧ Described (init s number self args opens).1 self
  | .deinit _ | .operate _ _ | .teardown => True

/-- What is stored before the call raises is in the object already; where only
`UART_open` is left to fail, this includes the handle `NULL`. -/
def SetAlready (self : Object) (args : Args) : Prop :=
  self.config.baudrate = args.baudrate ∧ self.config.bits = args.bits ∧
    (¬(args.bits < 5 ∨ 8 < args.bits) → ∀ parity, parityOf args.parity = some parity →
      self.config.parity = parity ∧ self.config.stop = args.stop ∧
      (¬(args.stop ≠ 1 ∧ args.stop ≠ 2) → self.config.flow = args.flow ∧
        (args.flow = 0 → self.config.echo = args.echo ∧ self.config.mode = args.mode ∧
          (¬(args.mode ≠ text ∧ args.mode ≠ binary) →
            self.config.readBufLen = args.readBufLen ∧ self.config.timeout = args.timeout ∧
              self.uart = none))))

/-- An `init` that raises stores nothing new. -/
def StoresNothing (s : Uarts) : Act → Prop
  | .init number args opens => ∀ self args_, s.objects number = some self → args = some args_ →
    raises s self args opens = true → SetAlready self args_
  | .makeNew _ _ _ _ | .deinit _ | .operate _ _ | .teardown => True

section Call

variable {s : Uarts} {self : Object} {opens : Bool}

/-- What `uart_init_helper` leaves when it raises: the ledger and the table as they were, and
an object that has its handle or none. -/
theorem initHelper_raises {args : Option Args} (raised : raises s self args opens = true) :
    ∃ self', initHelper s self args opens = (self', s, []) ∧
      (self'.uart = self.uart ∨ self'.uart = none) := by
  cases args with
  | none => exact ⟨self, rfl, .inl rfl⟩
  | some args =>
    rw [initHelper]
    split
    next config configured => exact ⟨_, rfl, .inl rfl⟩
    next config params configured =>
      simp only [raises, configured, Option.isNone_some, Bool.false_or, Bool.not_eq_true'] at raised
      rw [raised]
      exact ⟨_, rfl, .inr rfl⟩

/-- The stages of `uart_init_helper`, one case for each of its checks. -/
theorem initHelper_same_iff {args : Args} (raised : raises s self (some args) opens = true) :
    (initHelper s self (some args) opens).1 = self ↔ SetAlready self args := by
  obtain ⟨id, uart, config⟩ := self
  obtain ⟨baudrate, bits, timeout, parity, stop, flow, readBufLen, mode, echo⟩ := config
  by_cases badBits : args.bits < 5 ∨ 8 < args.bits
  · simp [initHelper, configure, SetAlready, badBits, eq_comm]
  cases parsed : parityOf args.parity with
  | none => simp [initHelper, configure, SetAlready, badBits, parsed, eq_comm]
  | some parity_ =>
    by_cases badStop : args.stop ≠ 1 ∧ args.stop ≠ 2
    · simp [initHelper, configure, SetAlready, badBits, parsed, badStop, eq_comm]
    by_cases badFlow : args.flow ≠ 0
    · simp [initHelper, configure, SetAlready, badBits, parsed, badStop, badFlow, eq_comm]
    by_cases badMode : args.mode ≠ text ∧ args.mode ≠ binary
    · simp [initHelper, configure, SetAlready, badBits, parsed, badStop, badFlow, badMode, eq_comm]
      grind
    · have closed : (opens && !isOpen s id) = false := by
        simpa [raises, configure, badBits, parsed, badStop, badFlow, badMode,
          or_iff_not_imp_left] using raised
      simp [initHelper, configure, SetAlready, badBits, parsed, badStop, badFlow, badMode, closed,
        eq_comm]
      grind

theorem putObject_same_iff {number : Nat} {self' : Object}
    (found : s.objects number = some self) : putObject s number self' = s ↔ self' = self := by
  rw [putObject]
  constructor
  · intro same
    have there := congrFun (congrArg Uarts.objects same) number
    simp only [Function.update_self, found] at there
    exact Option.some.inj there
  · rintro rfl
    rw [← found, Function.update_eq_self]

/-- A failing `init` leaves the state as it was if and only if it stores nothing new. -/
theorem init_same_iff {number : Nat} {args : Args} (found : s.objects number = some self)
    (raised : raises s self (some args) opens = true) :
    (init s number self (some args) opens).1 = s ↔ SetAlready self args := by
  obtain ⟨self', left, _⟩ := initHelper_raises raised
  rw [← initHelper_same_iff raised, ← putObject_same_iff found]
  simp only [init, left]

theorem init_same {number : Nat} {args : Option Args} (found : s.objects number = some self)
    (raised : raises s self args opens = true)
    (stores : ∀ args_, args = some args_ → SetAlready self args_) :
    (init s number self args opens).1 = s := by
  cases args with
  | none => exact (putObject_same_iff found).mpr rfl
  | some args => exact (init_same_iff found raised).mpr (stores args rfl)

theorem makeNew_raises {id : UInt32} {blank : Config} {args : Option Args}
    (raised : raises s ⟨id, none, blank⟩ args opens = true) :
    (makeNew s id blank (some args) opens).1 = s := by
  obtain ⟨self', left, same | unopened⟩ := initHelper_raises raised
  · simp only [makeNew, left, same, Option.isSome_none, Bool.false_eq_true, if_false]
  · simp only [makeNew, left, unopened, Option.isSome_none, Bool.false_eq_true, if_false]

/-- The parameters of a port are those that `uart_init_helper` has stored. -/
theorem configure_describes {config config' : Config} {args : Args} {params : Params}
    (configured : configure config args = (config', some params)) : Describes config' params := by
  unfold configure at configured
  split at configured
  next => exact nomatch congrArg Prod.snd configured
  split at configured
  next => exact nomatch congrArg Prod.snd configured
  next parity parsed =>
    dsimp only at configured
    split at configured
    next => exact nomatch congrArg Prod.snd configured
    split at configured
    next => exact nomatch congrArg Prod.snd configured
    next flow =>
      split at configured
      next => exact nomatch congrArg Prod.snd configured
      next mode =>
        cases configured
        have known : args.mode = text ∨ args.mode = binary := by
          by_contra unknown
          exact mode (not_or.mp unknown)
        refine ⟨rfl, rfl, rfl, rfl, not_not.mp flow, ?_, rfl⟩
        rcases known with text_ | binary_
        · simp only [text_, text, binary]
          rfl
        · simp only [binary_, decide_true, if_true]

end Call

/-- Every object shows the configuration of its handle, and has none that is still to come. -/
structure Shown (s : Uarts) : Prop where
  issued : ∀ number self handle, s.objects number = some self → self.uart = some handle →
    handle < s.ledger.issued
  described : ∀ number self, s.objects number = some self → Described s self

section Steps

variable {s s' : Uarts}

theorem shown_start : Shown start := ⟨nofun, nofun⟩

/-- One object is stored; of the handles so far none is opened anew. -/
theorem Shown.put (shown : Shown s) {number : Nat} {self : Object}
    (objects : s'.objects = Function.update s.objects number (some self))
    (later : s.ledger.issued ≤ s'.ledger.issued)
    (held : ∀ handle info, handle < s.ledger.issued → s'.ledger.held handle = some info →
      s.ledger.held handle = some info)
    (issued : ∀ handle, self.uart = some handle → handle < s'.ledger.issued)
    (described : Described s' self) : Shown s' := by
  have found {other : Nat} {object : Object} (there : s'.objects other = some object) :
      object = self ∨ s.objects other = some object := by
    rw [objects, Function.update_apply] at there
    split at there
    · exact .inl (Option.some.inj there).symm
    · exact .inr there
  refine ⟨fun other object handle there has => ?_, fun other object there => ?_⟩
  · rcases found there with rfl | before
    · exact issued handle has
    · exact Nat.lt_of_lt_of_le (shown.issued other object handle before has) later
  · rcases found there with rfl | before
    · exact described
    · intro handle id params has open_
      have early := shown.issued other object handle before has
      exact shown.described other object before handle id params has (held handle _ early open_)

theorem Shown.put_closed (shown : Shown s) {number : Nat} (self : Object)
    (closed : self.uart = none) (objects : s'.objects = Function.update s.objects number (some self))
    (later : s.ledger.issued ≤ s'.ledger.issued)
    (held : ∀ handle info, handle < s.ledger.issued → s'.ledger.held handle = some info →
      s.ledger.held handle = some info) : Shown s' := by
  refine shown.put objects later held ?_ ?_
  · exact fun handle has => nomatch closed.symm.trans has
  · exact fun handle _ _ has => nomatch closed.symm.trans has

/-- A call that does not raise opens the port with what it has stored. -/
theorem initHelper_opened {self : Object} {args : Option Args} {opens : Bool}
    (opened : raises s self args opens = false) :
    ∃ config params, Describes config params ∧
      initHelper s self args opens =
        ({ self with config, uart := some s.ledger.issued },
          { s with ledger := s.ledger.issue (self.id, params)
                   uarts := storeHandle s.uarts self.id s.ledger.issued },
          [.issued s.ledger.issued (self.id, params)]) := by
  cases args with
  | none => exact nomatch opened
  | some args =>
    rw [raises, Bool.or_eq_false_iff, Bool.not_eq_false'] at opened
    obtain ⟨whole, opens_⟩ := opened
    obtain ⟨params, parameters⟩ := Option.isSome_iff_exists.mp (Option.isNone_eq_false_iff.mp whole)
    have configured : configure self.config args = ((configure self.config args).1, some params) :=
      Prod.ext rfl parameters
    refine ⟨_, params, configure_describes configured, ?_⟩
    rw [initHelper, configured]
    simp only [opens_, if_true]

theorem Shown.putOpened (shown : Shown s) (number : Nat) {self : Object} {args : Option Args}
    {opens : Bool} (opened : raises s self args opens = false)
    (objects : s'.objects = Function.update s.objects number
      (some (initHelper s self args opens).1))
    (ledger : s'.ledger = (initHelper s self args opens).2.1.ledger) : Shown s' := by
  obtain ⟨config, params, describes, made⟩ := initHelper_opened opened
  rw [made] at objects ledger
  refine shown.put objects ?_ ?_ ?_ ?_
  · rw [ledger]
    exact Nat.le_succ _
  · intro handle info early held
    have kept : (s.ledger.issue (self.id, params)).held handle = s.ledger.held handle :=
      Function.update_of_ne (Nat.ne_of_lt early) ..
    rwa [ledger, kept] at held
  · intro handle has
    cases has
    rw [ledger]
    exact Nat.lt_succ_self _
  · intro handle id params' has held
    cases has
    rw [ledger] at held
    cases Ledger.held_issue_self.symm.trans held
    exact ⟨rfl, describes⟩

/-- The steps that keep what the objects show: only an `init` that raises can spoil it. -/
theorem Shown.perform (shown : Shown s) {act : Act} {calls : Calls}
    (performed : Uart.perform s act = some (s', calls)) (stores : StoresNothing s act) :
    Shown s' := by
  cases act with
  | makeNew id blank args opens =>
    obtain rfl : (makeNew s id blank args opens).1 = s' :=
      congrArg Prod.fst (Option.some.inj performed)
    cases args with
    | none => exact shown.put_closed _ rfl rfl (Nat.le_refl _) fun _ _ _ held => held
    | some args =>
      cases raised : raises s ⟨id, none, blank⟩ args opens with
      | true => rwa [makeNew_raises raised]
      | false =>
        obtain ⟨config, params, -, made⟩ := initHelper_opened raised
        refine shown.putOpened s.created raised ?_ ?_ <;>
          simp only [makeNew, made, Option.isSome_some, if_true]
  | init number args opens =>
    obtain ⟨self, found, same⟩ := Option.map_eq_some_iff.mp performed
    obtain rfl : (init s number self args opens).1 = s' := congrArg Prod.fst same
    cases raised : raises s self args opens with
    | true =>
      rwa [init_same found raised fun args_ given => stores self args_ found given raised]
    | false =>
      obtain ⟨config, params, -, made⟩ := initHelper_opened raised
      refine shown.putOpened number raised ?_ ?_ <;>
        simp only [init, putObject, made]
  | deinit number =>
    obtain ⟨self, found, same⟩ := Option.map_eq_some_iff.mp performed
    obtain rfl : (deinit s number self).1 = s' := congrArg Prod.fst same
    refine shown.put_closed { self with uart := none } rfl rfl ?_ ?_ <;>
      simp only [deinit]
    · cases self.uart <;> exact Nat.le_refl _
    · intro other info _ held
      cases has : self.uart with
      | none => rwa [has] at held
      | some handle =>
        rw [has, Ledger.record] at held
        by_cases same : other = handle
        · rw [same, Ledger.held_release_self] at held
          cases held
        · rwa [Ledger.held_release_of_ne same] at held
  | operate number op =>
    obtain ⟨self, found, same⟩ := Option.map_eq_some_iff.mp performed
    cases same
    exact shown
  | teardown =>
    cases performed
    refine ⟨fun _ _ _ found => ?_, fun _ _ found => ?_⟩ <;> cases found

/-- Where the objects show what they have, the condition is exact for each step. -/
theorem failsCleanly_iff (shown : Shown s) (act : Act) :
    FailsCleanly s act ↔ StoresNothing s act := by
  cases act with
  | makeNew id blank args opens =>
    refine iff_of_true (fun args_ given raised => ?_) trivial
    rw [given, makeNew_raises raised]
  | init number args opens =>
    constructor
    · rintro clean self args_ found rfl raised
      exact (init_same_iff found raised).mp (clean self found raised).1
    · intro stores self found raised
      have same := init_same found raised fun args_ given =>
        stores self args_ found given raised
      exact ⟨same, same.symm ▸ shown.described number self found⟩
  | deinit number => exact Iff.rfl
  | operate number op => exact Iff.rfl
  | teardown => exact Iff.rfl

end Steps

end Uart

end TildaMk4.Machine
