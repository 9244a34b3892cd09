import TildaMk4.Machine.PortHandles
import TildaMk4.Machine.Uart

/-!
# The handles of the UART

An object whose field is `NULL` (before `init`, after `deinit`, or when the driver
refused to open the port again) still calls the driver, a deinitialised port is
closed again by the teardown, and one that is not in `uarts` is never closed. In the
runs without these steps the handles are used only while they are open.
-/

namespace TildaMk4.Machine

open Resources Transition

namespace Uart

/-- A successful `open` of a UART whose id has no place in `uarts`. -/
def Overruns (s : Uarts) (id : UInt32) (config : Config) (args : Option Args) (opens : Bool) :
    Prop :=
  numUarts ≤ id.toNat ∧ opens = true ∧ isOpen s id = false ∧
    ∃ args_, args = some args_ ∧ (configure config args_).2 ≠ none

/-- Nothing is stored behind the array. -/
def InBounds (s : Uarts) : Act → Prop
  | .makeNew id blank args opens => ∀ args_, args = some args_ → ¬Overruns s id blank args_ opens
  | .init number args opens => ∀ self, s.objects number = some self →
    ¬Overruns s self.id self.config args opens
  | .deinit _ | .operate _ _ | .teardown => True

/-- The driver is called for an object with a handle only, and a teardown finds no
handle in `uarts` that has been closed: a UART that was deinitialised is open again. -/
def Admits (s : Uarts) : Act → Prop
  | .makeNew id blank args opens => InBounds s (.makeNew id blank args opens)
  | .init number args opens => InBounds s (.init number args opens)
  | .deinit number => ∀ self, s.objects number = some self → self.uart ≠ none
  | .operate number op => ∀ self, s.objects number = some self →
    calls self.config op ≠ 0 → self.uart ≠ none
  | .teardown => ∀ i handle, s.uarts i = some handle → s.ledger.held handle ≠ none

/-- The handle of an object is open on its port, and no other object has it. -/
structure Fields (ledger : Ledger (UInt32 × Params)) (objects : Nat → Option Object) : Prop where
  opened : ∀ number self handle, objects number = some self → self.uart = some handle →
    ∃ params, ledger.held handle = some (self.id, params)
  own : ∀ number other self object handle, objects number = some self →
    objects other = some object → self.uart = some handle → object.uart = some handle →
      number = other

/-- What is open is in the array in the place of its port. -/
structure Table (ledger : Ledger (UInt32 × Params)) (uarts : Fin numUarts → Option Nat) :
    Prop where
  listed : ∀ handle id params, ledger.held handle = some (id, params) →
    ∃ inside : id.toNat < numUarts, uarts ⟨id.toNat, inside⟩ = some handle
  place : ∀ i handle id params, uarts i = some handle →
    ledger.held handle = some (id, params) → id.toNat = i
  known : ∀ i handle, uarts i = some handle → handle < ledger.issued

structure Invariant (s : Uarts) : Prop where
  fields : Fields s.ledger s.objects
  table : Table s.ledger s.uarts

section Parts

variable {ledger : Ledger (UInt32 × Params)} {objects : Nat → Option Object}
  {uarts : Fin numUarts → Option Nat}

theorem Fields.put (fields : Fields ledger objects) (number : Nat) {self : Object}
    (opened : ∀ handle, self.uart = some handle →
      ∃ params, ledger.held handle = some (self.id, params))
    (own : ∀ other object handle, other ≠ number → objects other = some object →
      self.uart = some handle → object.uart ≠ some handle) :
    Fields ledger (Function.update objects number (some self)) := by
  have cases_ {other : Nat} {object : Object}
      (found : Function.update objects number (some self) other = some object) :
      other = number ∧ object = self ∨ other ≠ number ∧ objects other = some object := by
    rw [Function.update_apply, ite_eq_iff] at found
    exact found.imp_left fun ⟨same, put⟩ => ⟨same, (Option.some.inj put).symm⟩
  refine ⟨fun other object handle found has => ?_, fun first second one two handle found found'
    has has' => ?_⟩
  · rcases cases_ found with ⟨-, rfl⟩ | ⟨-, kept⟩
    · exact opened handle has
    · exact fields.opened other object handle kept has
  · rcases cases_ found with ⟨rfl, rfl⟩ | ⟨elsewhere, kept⟩
    · rcases cases_ found' with ⟨same, -⟩ | ⟨elsewhere', kept'⟩
      · exact same.symm
      · exact absurd has' (own second two handle elsewhere' kept' has)
    · rcases cases_ found' with ⟨-, rfl⟩ | ⟨-, kept'⟩
      · exact absurd has (own first one handle elsewhere kept has')
      · exact fields.own first second one two handle kept kept' has has'

theorem Fields.issue (fields : Fields ledger objects) (info : UInt32 × Params) :
    Fields (ledger.issue info) objects := by
  refine ⟨fun number self handle found has => ?_, fields.own⟩
  obtain ⟨params, held⟩ := fields.opened number self handle found has
  exact ⟨params, Ledger.held_issue_of_held held⟩

theorem Fields.release (fields : Fields ledger objects) {handle : Nat}
    (unused : ∀ number self, objects number = some self → self.uart ≠ some handle) :
    Fields (ledger.release handle) objects := by
  refine ⟨fun number self other found has => ?_, fields.own⟩
  have different : other ≠ handle := fun same => unused number self found (same ▸ has)
  rw [Ledger.held_release_of_ne different]
  exact fields.opened number self other found has

theorem Table.release (table : Table ledger uarts) (handle : Nat) :
    Table (ledger.release handle) uarts := by
  have kept {other : Nat} {info : UInt32 × Params}
      (held : (ledger.release handle).held other = some info) : ledger.held other = some info := by
    by_cases same : other = handle
    · rw [same, Ledger.held_release_self] at held
      nomatch held
    · rwa [Ledger.held_release_of_ne same] at held
  exact ⟨fun other id params held => table.listed other id params (kept held),
    fun i other id params stored held => table.place i other id params stored (kept held),
    table.known⟩

theorem Table.issue (table : Table ledger uarts) {id : UInt32} (inside : id.toNat < numUarts)
    (params : Params)
    (closed : ∀ handle params, ledger.held handle ≠ some (id, params)) :
    Table (ledger.issue (id, params)) (storeHandle uarts id ledger.issued) := by
  have stored : storeHandle uarts id ledger.issued =
      Function.update uarts ⟨id.toNat, inside⟩ (some ledger.issued) := dif_pos inside
  have kept {other : Nat} (older : other ≠ ledger.issued) :
      (ledger.issue (id, params)).held other = ledger.held other :=
    Function.update_of_ne older ..
  rw [stored]
  refine ⟨fun other id' params' held => ?_, fun i other id' params' entry held => ?_,
    fun i other entry => ?_⟩
  · by_cases newest : other = ledger.issued
    · rw [newest, Ledger.held_issue_self] at held
      cases held
      exact ⟨inside, by rw [Function.update_self, newest]⟩
    · rw [kept newest] at held
      obtain ⟨inside', entry⟩ := table.listed other id' params' held
      have elsewhere : (⟨id'.toNat, inside'⟩ : Fin numUarts) ≠ ⟨id.toNat, inside⟩ := by
        intro same
        have ids : id' = id := UInt32.toNat_inj.mp (Fin.mk.inj same)
        exact closed other params' (ids ▸ held)
      exact ⟨inside', by rw [Function.update_of_ne elsewhere, entry]⟩
  · by_cases here : i = ⟨id.toNat, inside⟩
    · rw [here, Function.update_self] at entry
      obtain rfl := Option.some.inj entry
      rw [Ledger.held_issue_self] at held
      cases held
      rw [here]
    · rw [Function.update_of_ne here] at entry
      rw [kept (Nat.ne_of_lt (table.known i other entry))] at held
      exact table.place i other id' params' entry held
  · by_cases here : i = ⟨id.toNat, inside⟩
    · rw [here, Function.update_self] at entry
      obtain rfl := Option.some.inj entry
      exact Nat.lt_succ_self _
    · rw [Function.update_of_ne here] at entry
      exact Nat.lt_succ_of_lt (table.known i other entry)

end Parts

variable {s : Uarts}

theorem isOpen_iff (s : Uarts) (id : UInt32) :
    isOpen s id = true ↔ ∃ handle params, s.ledger.held handle = some (id, params) := by
  rw [isOpen, List.any_eq_true]
  constructor
  · rintro ⟨handle, -, held⟩
    rw [Option.any_eq_true] at held
    obtain ⟨⟨other, params⟩, held, same⟩ := held
    obtain rfl : other = id := of_decide_eq_true same
    exact ⟨handle, params, held⟩
  · rintro ⟨handle, params, held⟩
    refine ⟨handle, List.mem_range.mpr (Ledger.lt_of_held held), ?_⟩
    rw [held]
    exact decide_eq_true rfl

theorem initHelper_cases (s : Uarts) (self : Object) (args : Option Args) (opens : Bool) :
    (initHelper s self args opens).2 = (s, []) ∧
        ((initHelper s self args opens).1.uart = none ∨
          (initHelper s self args opens).1.uart = self.uart ∧
            (initHelper s self args opens).1.id = self.id) ∨
      ∃ params config args_, args = some args_ ∧ (configure self.config args_).2 ≠ none ∧
        opens = true ∧ isOpen s self.id = false ∧
        initHelper s self args opens =
          ({ self with config, uart := some s.ledger.issued },
            { s with ledger := s.ledger.issue (self.id, params)
                     uarts := storeHandle s.uarts self.id s.ledger.issued },
            [.issued s.ledger.issued (self.id, params)]) := by
  cases args with
  | none => exact .inl ⟨rfl, .inr ⟨rfl, rfl⟩⟩
  | some args =>
    rw [initHelper]
    split
    next config raised => exact .inl ⟨rfl, .inr ⟨rfl, rfl⟩⟩
    next config params configured =>
      split
      next opened =>
        obtain ⟨opens, closed⟩ := Bool.and_eq_true_iff.mp opened
        refine .inr ⟨params, config, args, rfl, ?_, opens, Bool.not_eq_true' _ ▸ closed, rfl⟩
        rw [configured]
        nofun
      next => exact .inl ⟨rfl, .inl rfl⟩

/-- An object is initialised, and put in a place that is its own. -/
theorem initHelper_keeps (holds : Invariant s) (self : Object) {args : Option Args} {opens : Bool}
    (inBounds : ¬Overruns s self.id self.config args opens) (number : Nat)
    (field : ∀ handle, self.uart = some handle → s.objects number = some self) :
    let made := initHelper s self args opens
    Keeps s.ledger made.2.1.ledger made.2.2 ∧ made.2.1.objects = s.objects ∧
      made.2.1.created = s.created ∧ Table made.2.1.ledger made.2.1.uarts ∧
      Fields made.2.1.ledger s.objects ∧
      Fields made.2.1.ledger (Function.update s.objects number (some made.1)) := by
  intro made
  rcases initHelper_cases s self args opens with
    ⟨same, ending⟩ | ⟨params, config, args_, given, parses, opens_, closed, done⟩
  · have state : made.2.1 = s := congrArg Prod.fst same
    have quiet : made.2.2 = [] := congrArg Prod.snd same
    rw [state, quiet]
    refine ⟨.refl _, rfl, rfl, holds.table, holds.fields, holds.fields.put number ?_ ?_⟩
    · intro handle has
      rcases ending with none_ | ⟨kept, id⟩
      · rw [none_] at has
        nomatch has
      · rw [id]
        rw [kept] at has
        exact holds.fields.opened number self handle (field handle has) has
    · intro other object handle elsewhere found has has'
      rcases ending with none_ | ⟨kept, id⟩
      · rw [none_] at has
        nomatch has
      · rw [kept] at has
        exact elsewhere
          (holds.fields.own other number object self handle found (field handle has) has' has)
  · have inside : self.id.toNat < numUarts := by
      by_contra outside
      exact inBounds ⟨Nat.not_lt.mp outside, opens_, closed, args_, given, parses⟩
    have unopened (handle : Nat) (params : Params) :
        s.ledger.held handle ≠ some (self.id, params) := by
      intro held
      rw [(isOpen_iff s self.id).mpr ⟨handle, params, held⟩] at closed
      nomatch closed
    have fields := holds.fields.issue (self.id, params)
    rw [show made = _ from done]
    refine ⟨.issue .., rfl, rfl, holds.table.issue inside params unopened, fields,
      fields.put number ?_ ?_⟩
    · intro handle has
      obtain rfl := Option.some.inj has
      exact ⟨params, Ledger.held_issue_self⟩
    · intro other object handle _ found has has'
      obtain rfl := Option.some.inj has
      obtain ⟨_, held⟩ := holds.fields.opened other object _ found has'
      exact Nat.lt_irrefl _ (Ledger.lt_of_held held)

theorem makeNew_keeps (holds : Invariant s) {id : UInt32} {blank : Config}
    {args : Option (Option Args)} {opens : Bool}
    (inBounds : InBounds s (.makeNew id blank args opens)) :
    Invariant (makeNew s id blank args opens).1 ∧
      Keeps s.ledger (makeNew s id blank args opens).1.ledger (makeNew s id blank args opens).2 := by
  cases args with
  | none => exact ⟨⟨holds.fields.put s.created nofun nofun, holds.table⟩, .refl _⟩
  | some args =>
    obtain ⟨keeps, objects, created, table, fields, put⟩ :=
      initHelper_keeps holds ⟨id, none, blank⟩ (inBounds args rfl) s.created nofun
    rw [makeNew]
    dsimp only
    split
    next =>
      refine ⟨⟨?_, table⟩, keeps⟩
      rw [objects, created]
      exact put
    next => exact ⟨⟨objects.symm ▸ fields, table⟩, keeps⟩

theorem init_keeps (holds : Invariant s) {number : Nat} {self : Object}
    (found : s.objects number = some self) {args : Option Args} {opens : Bool}
    (inBounds : ¬Overruns s self.id self.config args opens) :
    Invariant (init s number self args opens).1 ∧
      Keeps s.ledger (init s number self args opens).1.ledger (init s number self args opens).2 := by
  obtain ⟨keeps, objects, -, table, -, put⟩ :=
    initHelper_keeps holds self inBounds number fun _ _ => found
  refine ⟨⟨?_, table⟩, keeps⟩
  rw [init, putObject, objects]
  exact put

theorem deinit_keeps (holds : Invariant s) {number : Nat} {self : Object}
    (found : s.objects number = some self) (initialised : self.uart ≠ none) :
    Invariant (deinit s number self).1 ∧
      Keeps s.ledger (deinit s number self).1.ledger (deinit s number self).2 := by
  obtain ⟨handle, has⟩ := Option.ne_none_iff_exists'.mp initialised
  obtain ⟨params, held⟩ := holds.fields.opened number self handle found has
  have emptied : Fields s.ledger
      (Function.update s.objects number (some { self with uart := none })) :=
    holds.fields.put number nofun nofun
  rw [deinit, has]
  refine ⟨⟨emptied.release fun other object found' has' => ?_, holds.table.release handle⟩,
    .release held⟩
  by_cases same : other = number
  · rw [same, Function.update_self] at found'
    cases found'
    nomatch has'
  · rw [Function.update_of_ne same] at found'
    exact same (holds.fields.own other number object self handle found' found has' has)

/-- Closing the entries of the array, each of which is open on its own port. -/
theorem closeUarts_keeps (ports : List (Fin numUarts)) (distinct : ports.Nodup) :
    ∀ {s : Uarts},
      (∀ i ∈ ports, ∀ handle, s.uarts i = some handle →
        ∃ id params, s.ledger.held handle = some (id, params) ∧ id.toNat = i) →
      (∀ handle info, s.ledger.held handle = some info → ∃ i ∈ ports, s.uarts i = some handle) →
      Keeps s.ledger (closeUarts s ports).1.ledger (closeUarts s ports).2 ∧
        ∀ handle, (closeUarts s ports).1.ledger.held handle = none := by
  induction ports with
  | nil =>
    intro s _ listed
    refine ⟨.refl _, fun handle => Option.eq_none_iff_forall_ne_some.mpr fun info held => ?_⟩
    obtain ⟨i, member, -⟩ := listed handle info held
    exact List.not_mem_nil member
  | cons first rest ih =>
    obtain ⟨unlisted, distinct⟩ := List.nodup_cons.mp distinct
    intro s opened listed
    cases entry : s.uarts first with
    | none =>
      rw [closeUarts, entry]
      refine ih distinct (fun i member => opened i (List.mem_cons_of_mem _ member))
        fun handle info held => ?_
      obtain ⟨i, member, stored⟩ := listed handle info held
      rcases List.mem_cons.mp member with rfl | member
      · rw [entry] at stored
        nomatch stored
      · exact ⟨i, member, stored⟩
    | some handle =>
      obtain ⟨id, params, held, port⟩ := opened first List.mem_cons_self handle entry
      have elsewhere {i : Fin numUarts} (member : i ∈ rest) : i ≠ first :=
        fun same => unlisted (same ▸ member)
      have opened' : ∀ i ∈ rest, ∀ other, Function.update s.uarts first none i = some other →
          ∃ id params, (s.ledger.release handle).held other = some (id, params) ∧
            id.toNat = i := by
        intro i member other stored
        rw [Function.update_of_ne (elsewhere member)] at stored
        obtain ⟨id', params', held', port'⟩ :=
          opened i (List.mem_cons_of_mem _ member) other stored
        have different : other ≠ handle := by
          rintro rfl
          rw [held] at held'
          cases held'
          exact elsewhere member (Fin.ext (port'.symm.trans port))
        rw [Ledger.held_release_of_ne different]
        exact ⟨id', params', held', port'⟩
      have listed' : ∀ other info, (s.ledger.release handle).held other = some info →
          ∃ i ∈ rest, Function.update s.uarts first none i = some other := by
        intro other info held'
        by_cases same : other = handle
        · rw [same, Ledger.held_release_self] at held'
          nomatch held'
        · rw [Ledger.held_release_of_ne same] at held'
          obtain ⟨i, member, stored⟩ := listed other info held'
          rcases List.mem_cons.mp member with rfl | member
          · rw [entry] at stored
            exact absurd (Option.some.inj stored).symm same
          · exact ⟨i, member, by rw [Function.update_of_ne (elsewhere member), stored]⟩
      obtain ⟨later, none_⟩ := ih distinct (s := { s with
        ledger := s.ledger.release handle
        uarts := Function.update s.uarts first none }) opened' listed'
      rw [closeUarts, entry]
      exact ⟨(Keeps.release held).trans later, none_⟩

theorem closeUarts_frame (ports : List (Fin numUarts)) : ∀ {s : Uarts},
    (closeUarts s ports).1.ledger.issued = s.ledger.issued ∧
      (∀ i handle, (closeUarts s ports).1.uarts i = some handle → s.uarts i = some handle) ∧
      ∀ id info, .issued id info ∉ (closeUarts s ports).2 := by
  induction ports with
  | nil => exact ⟨rfl, fun _ _ stored => stored, fun _ _ member => List.not_mem_nil member⟩
  | cons first rest ih =>
    intro s
    cases entry : s.uarts first with
    | none =>
      rw [closeUarts, entry]
      exact ih
    | some handle =>
      obtain ⟨issued, entries, quiet⟩ := ih (s := { s with
        ledger := s.ledger.release handle
        uarts := Function.update s.uarts first none })
      rw [closeUarts, entry]
      refine ⟨issued, fun i other stored => ?_, fun id info member => ?_⟩
      · have before := entries i other stored
        by_cases same : i = first
        · dsimp only at before
          rw [same, Function.update_self] at before
          nomatch before
        · dsimp only at before
          rwa [Function.update_of_ne same] at before
      · rcases List.mem_cons.mp member with this | later
        · nomatch this
        · exact quiet id info later

/-- Every entry that may be closed is open. -/
theorem closeUarts_allowed (ports : List (Fin numUarts)) (distinct : ports.Nodup) :
    ∀ {s : Uarts}, s.ledger.AllowsAll (closeUarts s ports).2 →
      ∀ i ∈ ports, ∀ handle, s.uarts i = some handle → s.ledger.held handle ≠ none := by
  induction ports with
  | nil => exact fun _ i member => absurd member List.not_mem_nil
  | cons first rest ih =>
    obtain ⟨unlisted, distinct⟩ := List.nodup_cons.mp distinct
    intro s allowed i member other stored
    have elsewhere (later : i ∈ rest) : i ≠ first := fun same => unlisted (same ▸ later)
    cases entry : s.uarts first with
    | none =>
      rw [closeUarts, entry] at allowed
      rcases List.mem_cons.mp member with rfl | later
      · rw [entry] at stored
        nomatch stored
      · exact ih distinct allowed i later other stored
    | some handle =>
      rw [closeUarts, entry] at allowed
      obtain ⟨⟨n, info, same, held⟩, allowed⟩ := allowed
      cases same
      rcases List.mem_cons.mp member with rfl | later
      · rw [entry] at stored
        cases stored
        rw [held]
        nofun
      · have open_ := ih distinct (s := { s with
          ledger := s.ledger.release handle
          uarts := Function.update s.uarts first none }) allowed i later other
          ((Function.update_of_ne (elsewhere later) ..).trans stored)
        intro closed
        by_cases same : other = handle
        · rw [same, held] at closed
          nomatch closed
        · exact open_ ((Ledger.held_release_of_ne same).trans closed)

theorem teardown_keeps (holds : Invariant s)
    (fresh : ∀ i handle, s.uarts i = some handle → s.ledger.held handle ≠ none) :
    Invariant (teardown s).1 ∧ Keeps s.ledger (teardown s).1.ledger (teardown s).2 ∧
      ∀ handle, (teardown s).1.ledger.held handle = none := by
  have opened : ∀ i ∈ List.finRange numUarts, ∀ handle, s.uarts i = some handle →
      ∃ id params, s.ledger.held handle = some (id, params) ∧ id.toNat = i := by
    intro i _ handle stored
    obtain ⟨⟨id, params⟩, held⟩ := Option.ne_none_iff_exists'.mp (fresh i handle stored)
    exact ⟨id, params, held, holds.table.place i handle id params stored held⟩
  have listed : ∀ handle info, s.ledger.held handle = some info →
      ∃ i ∈ List.finRange numUarts, s.uarts i = some handle := by
    intro handle info held
    obtain ⟨inside, stored⟩ := holds.table.listed handle info.1 info.2 held
    exact ⟨_, List.mem_finRange _, stored⟩
  obtain ⟨keeps, none_⟩ := closeUarts_keeps _ (List.nodup_finRange _) opened listed
  obtain ⟨issued, entries, -⟩ := closeUarts_frame (List.finRange numUarts) (s := s)
  have cleared {handle : Nat} {info : UInt32 × Params}
      (held : (closeUarts s (List.finRange numUarts)).1.ledger.held handle = some info) : False := by
    rw [none_ handle] at held
    nomatch held
  refine ⟨⟨⟨nofun, nofun⟩, ⟨fun _ _ _ held => (cleared held).elim,
    fun _ _ _ _ _ held => (cleared held).elim, fun i handle stored => ?_⟩⟩, keeps, none_⟩
  exact issued ▸ holds.table.known i handle (entries i handle stored)

theorem operate_keeps (holds : Invariant s) {number : Nat} {self : Object}
    (found : s.objects number = some self) {op : Op}
    (initialised : calls self.config op ≠ 0 → self.uart ≠ none) :
    Keeps s.ledger s.ledger (List.replicate (calls self.config op) (.used self.uart)) := by
  by_cases silent : calls self.config op = 0
  · rw [silent]
    exact .refl _
  · obtain ⟨handle, has⟩ := Option.ne_none_iff_exists'.mp (initialised silent)
    obtain ⟨params, held⟩ := holds.fields.opened number self handle found has
    rw [has]
    exact .uses held _

theorem perform_keeps (holds : Invariant s) {act : Act} {done : Uarts × Calls}
    (performed : perform s act = some done) (admitted : Admits s act) :
    Invariant done.1 ∧ Keeps s.ledger done.1.ledger done.2 ∧
      (act = .teardown → ∀ handle, done.1.ledger.held handle = none) := by
  cases act with
  | makeNew id blank args opens =>
    cases performed
    obtain ⟨kept, keeps⟩ := makeNew_keeps holds admitted
    exact ⟨kept, keeps, nofun⟩
  | init number args opens =>
    obtain ⟨self, found, rfl⟩ := Option.map_eq_some_iff.mp performed
    obtain ⟨kept, keeps⟩ := init_keeps holds found (admitted self found)
    exact ⟨kept, keeps, nofun⟩
  | deinit number =>
    obtain ⟨self, found, rfl⟩ := Option.map_eq_some_iff.mp performed
    obtain ⟨kept, keeps⟩ := deinit_keeps holds found (admitted self found)
    exact ⟨kept, keeps, nofun⟩
  | operate number op =>
    obtain ⟨self, found, rfl⟩ := Option.map_eq_some_iff.mp performed
    exact ⟨holds, operate_keeps holds found (admitted self found), nofun⟩
  | teardown =>
    cases performed
    obtain ⟨kept, keeps, none_⟩ := teardown_keeps holds admitted
    exact ⟨kept, keeps, fun _ => none_⟩

theorem admits_of_lawful {trace : Calls} (tracks : Ledger.Tracks s.ledger trace) {act : Act}
    {done : Uarts × Calls} (performed : perform s act = some done) (inBounds : InBounds s act)
    (lawful : Lawful (trace ++ done.2)) : Admits s act := by
  cases act with
  | makeNew id blank args opens => exact inBounds
  | init number args opens => exact inBounds
  | deinit number =>
    intro self found missing
    rw [perform, found] at performed
    cases performed
    obtain ⟨handle, _, same, -⟩ := lawful trace (.released self.uart) [] rfl
    rw [missing] at same
    nomatch same
  | operate number op =>
    intro self found some_ missing
    rw [perform, found] at performed
    cases performed
    obtain ⟨count, some_⟩ := Nat.exists_eq_succ_of_ne_zero some_
    dsimp only at lawful
    rw [some_, missing, List.replicate_succ] at lawful
    obtain ⟨handle, _, same, -⟩ := lawful trace (.used none) _ rfl
    nomatch same
  | teardown =>
    cases performed
    obtain ⟨-, -, quiet⟩ := closeUarts_frame (List.finRange numUarts) (s := s)
    have allowed := Ledger.allowsAll_of_lawful tracks lawful quiet
    exact fun i => closeUarts_allowed _ (List.nodup_finRange _) allowed i (List.mem_finRange i)

theorem respects : Respects system start (·.ledger) (· = .teardown) InBounds Admits := by
  have base : Invariant start :=
    ⟨⟨nofun, nofun⟩, ⟨nofun, nofun, nofun⟩⟩
  refine respects_of_steps Invariant base rfl ?_ ?_ ?_ ?_
  · rintro s act s' events stepped rfl
    obtain ⟨done, -, same⟩ := Option.map_eq_some_iff.mp stepped
    nomatch same
  · intro s act admitted
    cases act with
    | makeNew id blank args opens => exact admitted
    | init number args opens => exact admitted
    | deinit number => trivial
    | operate number op => trivial
    | teardown => trivial
  · intro s act s' events holds stepped admitted
    obtain ⟨done, performed, same⟩ := Option.map_eq_some_iff.mp stepped
    cases same
    exact perform_keeps holds performed admitted
  · intro s act s' events trace holds tracks stepped inBounds lawful _
    obtain ⟨done, performed, same⟩ := Option.map_eq_some_iff.mp stepped
    cases same
    exact admits_of_lawful tracks performed inBounds lawful

end Uart

/-- The handles of the four modules are used only while they are open, in the runs that
call the drivers for open ports only and tear no stale array down, and in no other. -/
theorem handles_respected (pwmDutyFractionMax : UInt32) :
    Respects (Ports.system Spi.spi) (Ports.start Spi.spi : Ports Spi.numSpi _ _) (·.ledger)
        (· = .teardown) (fun _ _ => True) (Ports.Admits Spi.spi) ∧
      Respects (Ports.system I2c.i2c) (Ports.start I2c.i2c : Ports I2c.numI2c _ _) (·.ledger)
        (· = .teardown) (fun _ _ => True) (Ports.Admits I2c.i2c) ∧
      Respects (Ports.system (Pwm.pwm pwmDutyFractionMax))
        (Ports.start (Pwm.pwm pwmDutyFractionMax) : Ports Pwm.numPwm _ _) (·.ledger)
        (· = .teardown) (fun _ _ => True) (Ports.Admits (Pwm.pwm pwmDutyFractionMax)) ∧
      Respects Uart.system Uart.start (·.ledger) (· = .teardown) Uart.InBounds Uart.Admits :=
  ⟨Ports.respects _, Ports.respects _, Ports.respects _, Uart.respects⟩

/-- `UART(1, 9600)`, with the other arguments left out. -/
def uart9600 : Uart.Args := ⟨9600, 8, .none, 1, 0, 0, true, 1000, 64⟩

/-- A UART is opened and deinitialised, and the teardown closes its handle again. -/
theorem handles_respected_fails : ∃ history s,
    Uart.system.Run (fun _ _ => True) Uart.start history s ∧ ¬Lawful history.flatten := by
  obtain ⟨history, s, run, closedTwice⟩ := System.exists_run_of_exec Uart.system (fun _ _ => True)
    Uart.start
    [.makeNew 1 ⟨0, 0, 0, 0, 0, 0, 0, 0, false⟩ (some (some uart9600)) true, .deinit 0, .teardown]
    (fun result => decide (result.1.flatten =
      [.issued 0 (1, ⟨9600, 8, 0, 1, true, false, 1000⟩), .released (some 0), .released (some 0)]))
    (by decide)
  refine ⟨history, s, run, fun lawful => ?_⟩
  rw [of_decide_eq_true closedTwice] at lawful
  obtain ⟨handle, _, same, -, unreleased⟩ := lawful
    [.issued 0 (1, ⟨9600, 8, 0, 1, true, false, 1000⟩), .released (some 0)]
    (.released (some 0)) [] rfl
  cases same
  exact unreleased (by decide)

end TildaMk4.Machine
