import TildaMk4.Neopix.Display

/-!
# Who owns the frame buffer

A failed `malloc` returns early with the recorded size of the buffer that has just
been freed, and `destroy` frees the buffer under a running transfer. In the runs
that avoid both, and lists so long that the computed size wraps, the buffer is there
with its recorded size and every store goes inside.
-/

namespace TildaMk4.Neopix

open Resources Transition

/-- What the users of the buffer rely on. -/
structure Owned (s : Driver) : Prop where
  sized : 0 < s.frameBufferSize → ∃ size, s.capacity = some size ∧
    s.frameBufferSize.toNat ≤ size
  transferring : s.inprogress = true → ∃ transfer buffer size, s.transfer = some transfer ∧
    transfer.source = some buffer ∧ s.heap.held buffer = some size

/-- How many elements are stored for a list: 24 for each element from the last one
down to one that raises, and the reset codes if none does. -/
def storedElements (items : List Item) : Nat :=
  24 * (items.reverse.takeWhile Option.isSome).length +
    if items.all Option.isSome then resetBitN else 0

/-- A `malloc` that fails has no recorded size to leave behind, what is stored fits in
the recorded or in the computed size, and nothing is destroyed during a transfer. -/
def Admits (s : Driver) : Act → Prop
  | .display rgb malloc => ∀ items, rgb.items = some items →
    if s.frameBufferSize < bufferSize items.length ∧ malloc = false then s.frameBufferSize = 0
    else 2 * storedElements items ≤
      max s.frameBufferSize.toNat (bufferSize items.length).toNat
  | .destroy => s.inprogress = false
  | .timer3B => True

theorem storedElements_fits {items : List Item} (short : 48 * items.length + 60 < 2 ^ 32) :
    2 * storedElements items ≤ (bufferSize items.length).toNat := by
  have size : (bufferSize items.length).toNat = 48 * items.length + 60 := by
    simp only [bufferSize, UInt32.toNat_mul, UInt32.toNat_add, UInt32.toNat_ofNat',
      UInt32.reduceToNat]
    omega
  have taken : (items.reverse.takeWhile Option.isSome).length ≤ items.length := by
    have fewer := (List.takeWhile_sublist Option.isSome (l := items.reverse)).length_le
    rwa [List.length_reverse] at fewer
  rw [size, storedElements, resetBitN]
  split <;> omega

@[simp] theorem ledCodes_length (val : Int32) : (ledCodes val).length = 24 := by
  rw [ledCodes, List.length_map, List.length_range]

theorem itemCodes_length (items : List Item) :
    (itemCodes items).1.length = 24 * (items.takeWhile Option.isSome).length := by
  induction items with
  | nil => rfl
  | cons item rest ih =>
    cases item with
    | none => rfl
    | some val =>
      rw [itemCodes, List.length_append, ledCodes_length, ih,
        List.takeWhile_cons_of_pos rfl, List.length_cons]
      omega

theorem itemCodes_all (items : List Item) : (itemCodes items).2 = items.all Option.isSome := by
  induction items with
  | nil => rfl
  | cons item rest ih =>
    cases item with
    | none => rfl
    | some val => exact ih

section Filling

variable {s : Driver} {items : List Item}

theorem fill_stores : ∃ codes : List UInt16, codes.length = storedElements items ∧
    (s.fill items).2 = (s.storeAll 0 codes).2 := by
  have length := itemCodes_length items.reverse
  have all := itemCodes_all items.reverse
  rw [List.all_reverse] at all
  rw [Driver.fill]
  split
  next codes raised =>
    rw [raised] at length all
    refine ⟨codes, ?_, rfl⟩
    rw [storedElements, ← all, if_neg Bool.false_ne_true]
    exact length
  next codes complete =>
    rw [complete] at length all
    refine ⟨_, ?_, rfl⟩
    rw [storedElements, ← all, if_pos rfl, List.length_append, List.length_replicate]
    exact congrArg (· + resetBitN) length

/-- All stores are inside if and only if the elements fit. -/
theorem fill_inside {size : Nat} (capacity : s.capacity = some size) (word : size < 2 ^ 32) :
    (∀ store ∈ (s.fill items).2, store.Inside) ↔ 2 * storedElements items ≤ size := by
  obtain ⟨codes, length, stores⟩ := @fill_stores s items
  rw [stores, ← length]
  constructor
  · intro inside
    by_contra outside
    have stored : size / 2 < codes.length := by omega
    obtain ⟨held, same, fits⟩ := inside _ (storeAll_stores (s := s) codes 0 stored)
    rw [capacity] at same
    obtain rfl := Option.some.inj same
    rw [UInt32.zero_add, UInt32.toNat_ofNat', Nat.mod_eq_of_lt (by omega)] at fits
    omega
  · intro fits store member
    obtain ⟨held, index⟩ := mem_storeAll (by rw [UInt32.toNat_zero]; omega) member
    rw [UInt32.toNat_zero] at index
    exact ⟨size, held.trans capacity, by omega⟩

theorem fill_keeps : (s.fill items).1.heap = s.heap ∧
    (s.fill items).1.frameBuffer = s.frameBuffer ∧
    (s.fill items).1.frameBufferSize = s.frameBufferSize := by
  rw [Driver.fill]
  split
  next codes _ =>
    obtain ⟨heap, frameBuffer, size, -⟩ := storeAll_keeps (s := s) codes 0
    exact ⟨heap, frameBuffer, size⟩
  next codes _ =>
    obtain ⟨heap, frameBuffer, size, -⟩ :=
      storeAll_keeps (s := s) (codes ++ List.replicate resetBitN dutycycleReset) 0
    exact ⟨heap, frameBuffer, size⟩

/-- A transfer that is in progress after filling reads the frame buffer. -/
theorem fill_transfer (idle : s.inprogress = false)
    (started : (s.fill items).1.inprogress = true) :
    ∃ transfer, (s.fill items).1.transfer = some transfer ∧
      transfer.source = s.frameBuffer := by
  rw [Driver.fill] at started ⊢
  split
  next codes raised =>
    obtain ⟨-, -, -, inprogress, -⟩ := storeAll_keeps (s := s) codes 0
    simp only [raised, inprogress, idle] at started
    exact absurd started Bool.false_ne_true
  next codes complete =>
    obtain ⟨-, frameBuffer, -⟩ :=
      storeAll_keeps (s := s) (codes ++ List.replicate resetBitN dutycycleReset) 0
    exact ⟨_, rfl, frameBuffer⟩

end Filling

/-- The recorded size is that of the buffer. -/
def Sized (s : Driver) : Prop :=
  0 < s.frameBufferSize → s.capacity = some s.frameBufferSize.toNat

/-- The recorded size is that of the buffer, and a transfer reads the buffer. -/
structure Invariant (s : Driver) : Prop where
  sized : Sized s
  current : s.inprogress = true → 0 < s.frameBufferSize ∧
    ∃ transfer, s.transfer = some transfer ∧ transfer.source = s.frameBuffer

theorem Invariant.owned {s : Driver} (holds : Invariant s) : Owned s where
  sized recorded := ⟨_, holds.sized recorded, Nat.le_refl _⟩
  transferring transferring := by
    obtain ⟨recorded, transfer, current, source⟩ := holds.current transferring
    obtain ⟨buffer, frameBuffer, held⟩ := Option.bind_eq_some_iff.mp (holds.sized recorded)
    exact ⟨transfer, buffer, _, current, source.trans frameBuffer, held⟩

section Steps

variable {s : Driver}

theorem freeBuffer_keeps : s.freeBuffer.frameBufferSize = s.frameBufferSize ∧
    s.freeBuffer.inprogress = s.inprogress ∧ s.freeBuffer.transfer = s.transfer := by
  unfold Driver.freeBuffer
  split <;> exact ⟨rfl, rfl, rfl⟩

theorem allocate_failed {size : UInt32} (needed : s.frameBufferSize < size) :
    (s.allocate size false).2 = false ∧
      (s.allocate size false).1.frameBuffer = none ∧
      (s.allocate size false).1.frameBufferSize = s.frameBufferSize ∧
      (s.allocate size false).1.inprogress = s.inprogress := by
  obtain ⟨recorded, inprogress, -⟩ := freeBuffer_keeps (s := s)
  rw [Driver.allocate, if_pos needed]
  exact ⟨rfl, rfl, recorded, inprogress⟩

/-- Otherwise the buffer has the larger of the two sizes. -/
theorem allocate_succeeded (sized : Sized s) {size : UInt32} (positive : 0 < size)
    (malloc : Bool) (succeeds : ¬(s.frameBufferSize < size ∧ malloc = false)) :
    (s.allocate size malloc).2 = true ∧
      (s.allocate size malloc).1.capacity =
        some (s.allocate size malloc).1.frameBufferSize.toNat ∧
      (s.allocate size malloc).1.frameBufferSize.toNat =
        max s.frameBufferSize.toNat size.toNat ∧
      (s.allocate size malloc).1.inprogress = s.inprogress := by
  rw [Driver.allocate]
  by_cases needed : s.frameBufferSize < size
  · have allocated : malloc = true := by
      by_contra failed
      exact succeeds ⟨needed, Bool.eq_false_iff.mpr failed⟩
    obtain ⟨-, inprogress, -⟩ := freeBuffer_keeps (s := s)
    rw [if_pos needed, if_pos allocated]
    refine ⟨rfl, Ledger.held_issue_self, ?_, inprogress⟩
    exact (Nat.max_eq_right (Nat.le_of_lt (UInt32.lt_iff_toNat_lt.mp needed))).symm
  · have covers : size.toNat ≤ s.frameBufferSize.toNat :=
      UInt32.le_iff_toNat_le.mp (UInt32.not_lt.mp needed)
    rw [if_neg needed]
    refine ⟨rfl, sized ?_, (Nat.max_eq_left covers).symm, rfl⟩
    exact UInt32.lt_of_lt_of_le positive (UInt32.not_lt.mp needed)

theorem bufferSize_pos (len : Nat) : 0 < bufferSize len := by
  rw [UInt32.lt_iff_toNat_lt]
  simp only [bufferSize, UInt32.toNat_mul, UInt32.toNat_add, UInt32.toNat_ofNat',
    UInt32.reduceToNat]
  omega

theorem display_failed {rgb : Rgb} {items : List Item} (given : rgb.items = some items)
    {malloc : Bool} (failed : (s.allocate (bufferSize items.length) malloc).2 = false) :
    s.display rgb malloc = ((s.allocate (bufferSize items.length) malloc).1, []) := by
  rw [Driver.display, given]
  dsimp only
  split
  next early allocated => rw [allocated]
  next filled allocated =>
    rw [allocated] at failed
    nomatch failed

theorem display_filled {rgb : Rgb} {items : List Item} (given : rgb.items = some items)
    {malloc : Bool} (succeeded : (s.allocate (bufferSize items.length) malloc).2 = true) :
    s.display rgb malloc = (s.allocate (bufferSize items.length) malloc).1.fill items := by
  rw [Driver.display, given]
  dsimp only
  split
  next early allocated =>
    rw [allocated] at succeeded
    nomatch succeeded
  next filled allocated => rw [allocated]

theorem admits_display {rgb : Rgb} {items : List Item} (given : rgb.items = some items)
    (malloc : Bool) : Admits s (.display rgb malloc) ↔
      if s.frameBufferSize < bufferSize items.length ∧ malloc = false then s.frameBufferSize = 0
      else 2 * storedElements items ≤
        max s.frameBufferSize.toNat (bufferSize items.length).toNat := by
  rw [Admits, given]
  exact ⟨fun admitted => admitted items rfl, fun fits _ same => Option.some.inj same ▸ fits⟩

theorem display_ownership (holds : Invariant s) (idle : s.inprogress = false) (rgb : Rgb)
    (malloc : Bool) :
    (Admits s (.display rgb malloc) → Invariant (s.display rgb malloc).1) ∧
      ((Owned (s.display rgb malloc).1 ∧ ∀ store ∈ (s.display rgb malloc).2, store.Inside) ↔
        Admits s (.display rgb malloc)) := by
  cases given : rgb.items with
  | none =>
    have admitted : Admits s (.display rgb malloc) := by
      intro items same
      rw [given] at same
      cases same
    have nothing : s.display rgb malloc = (s, []) := by
      rw [Driver.display, given]
    rw [nothing]
    exact ⟨fun _ => holds, iff_of_true ⟨holds.owned, List.forall_mem_nil _⟩ admitted⟩
  | some items =>
    rw [admits_display given]
    by_cases failed : s.frameBufferSize < bufferSize items.length ∧ malloc = false
    · rw [if_pos failed]
      obtain ⟨needed, rfl⟩ := failed
      obtain ⟨early, frameBuffer, recorded, inprogress⟩ := allocate_failed needed
      rw [display_failed given early]
      have nothing : s.frameBufferSize = 0 →
          Invariant (s.allocate (bufferSize items.length) false).1 := by
        intro empty
        refine ⟨fun leftover => ?_, fun transferring => ?_⟩
        · rw [recorded, empty] at leftover
          exact absurd leftover (UInt32.lt_irrefl 0)
        · rw [inprogress, idle] at transferring
          exact absurd transferring Bool.false_ne_true
      refine ⟨nothing, fun both => ?_, fun empty => ⟨(nothing empty).owned, List.forall_mem_nil _⟩⟩
      by_contra leftover
      have positive := UInt32.pos_iff_ne_zero.mpr leftover
      rw [← recorded] at positive
      obtain ⟨size, capacity, -⟩ := both.1.sized positive
      rw [Driver.capacity, frameBuffer] at capacity
      cases capacity
    · rw [if_neg failed]
      obtain ⟨succeeded, capacity, recorded, inprogress⟩ :=
        allocate_succeeded holds.sized (bufferSize_pos items.length) malloc failed
      rw [display_filled given succeeded, ← recorded]
      obtain ⟨heap, frameBuffer, size⟩ :=
        @fill_keeps (s.allocate (bufferSize items.length) malloc).1 items
      have filled : Invariant ((s.allocate (bufferSize items.length) malloc).1.fill items).1 := by
        refine ⟨fun _ => ?_, fun started => ⟨?_, ?_⟩⟩
        · rw [Driver.capacity, heap, frameBuffer, size]
          exact capacity
        · rw [size, UInt32.lt_iff_toNat_lt, recorded]
          exact Nat.lt_of_lt_of_le (UInt32.lt_iff_toNat_lt.mp (bufferSize_pos items.length))
            (Nat.le_max_right ..)
        · rw [frameBuffer]
          exact fill_transfer (inprogress.trans idle) started
      refine ⟨fun _ => filled, ?_⟩
      rw [and_iff_right filled.owned]
      exact fill_inside capacity (UInt32.toNat_lt _)

theorem destroy_ownership (holds : Invariant s) :
    (Admits s .destroy → Invariant s.destroy) ∧ (Owned s.destroy ↔ Admits s .destroy) := by
  obtain ⟨-, inprogress, transfer⟩ := freeBuffer_keeps (s := s)
  have idle : Admits s .destroy → Invariant s.destroy := by
    intro idle
    refine ⟨fun leftover => absurd leftover (UInt32.lt_irrefl 0), fun transferring => ?_⟩
    have still : s.inprogress = true := inprogress.symm.trans transferring
    rw [show s.inprogress = false from idle] at still
    nomatch still
  refine ⟨idle, fun owned => ?_, fun admitted => (idle admitted).owned⟩
  by_contra transferring
  have running : s.inprogress = true := Bool.not_eq_false _ ▸ transferring
  obtain ⟨recorded, this, current, source⟩ := holds.current running
  obtain ⟨that, buffer, size, current', source', held⟩ :=
    owned.transferring (inprogress.trans running)
  obtain rfl := Option.some.inj (current.symm.trans (transfer.symm.trans current'))
  have freed : s.destroy.heap = s.heap.release buffer := by
    rw [Driver.destroy, Driver.freeBuffer, ← source, source']
  rw [freed, Ledger.held_release_self] at held
  nomatch held

theorem step_ownership (holds : Invariant s) {act : Act} {s' : Driver}
    {stores : Option (List Store)} (stepped : neopix.step s act = some (s', stores)) :
    (Admits s act → Invariant s') ∧
      ((Owned s' ∧ ∀ list ∈ stores, ∀ store ∈ list, store.Inside) ↔ Admits s act) := by
  cases act with
  | display rgb malloc =>
    simp only [neopix, Option.ite_none_left_eq_some, Option.some.injEq, Prod.mk.injEq] at stepped
    obtain ⟨idle, rfl, rfl⟩ := stepped
    obtain ⟨keeps, exactly⟩ :=
      display_ownership holds (Bool.eq_false_iff.mpr idle) rgb malloc
    refine ⟨keeps, Iff.trans (and_congr_right fun _ => ?_) exactly⟩
    exact ⟨fun inside => inside _ rfl, fun inside list same => Option.some.inj same ▸ inside⟩
  | destroy =>
    cases stepped
    obtain ⟨keeps, exactly⟩ := destroy_ownership holds
    exact ⟨keeps, (and_iff_left nofun).trans exactly⟩
  | timer3B =>
    cases stepped
    have ended : Invariant s.timer3B := ⟨holds.sized, nofun⟩
    exact ⟨fun _ => ended, iff_of_true ⟨ended.owned, nofun⟩ trivial⟩

theorem invariant_initial : Invariant .initial :=
  ⟨fun recorded => absurd recorded (UInt32.lt_irrefl 0), nofun⟩

theorem run_ownership {history : List (List Store)} {s : Driver}
    (run : neopix.Run Admits .initial history s) :
    Invariant s ∧ ∀ stores ∈ history, ∀ store ∈ stores, store.Inside := by
  refine run.invariant (fun history s => Invariant s ∧ ∀ stores ∈ history, ∀ store ∈ stores,
    store.Inside) ⟨invariant_initial, nofun⟩ ?_
  intro history s act s' emitted ⟨holds, inside⟩ admitted stepped
  obtain ⟨keeps, exactly⟩ := step_ownership holds stepped
  refine ⟨keeps admitted, fun stores member => ?_⟩
  rcases List.mem_append.mp member with before | now
  · exact inside stores before
  · exact (exactly.mpr admitted).2 stores (Option.mem_toList.mp now)

end Steps

/-- In the runs whose steps are all admitted the buffer is owned and every store goes
inside it; and the next step leaves it so only if it is admitted. -/
theorem buffer_owned {history : List (List Store)} {s : Driver}
    (run : neopix.Run Admits .initial history s) :
    (Owned s ∧ ∀ stores ∈ history, ∀ store ∈ stores, store.Inside) ∧
      ∀ act s' stores, neopix.step s act = some (s', stores) →
        ((Owned s' ∧ ∀ list ∈ stores, ∀ store ∈ list, store.Inside) ↔ Admits s act) := by
  obtain ⟨holds, inside⟩ := run_ownership run
  exact ⟨⟨holds.owned, inside⟩, fun _ _ _ stepped => (step_ownership holds stepped).2⟩

/-- The state after one LED has been shown. -/
def shown : Driver := (Driver.initial.display (.int (some 0xFF0000)) true).1

theorem run_shown : neopix.Run Admits .initial
    [(Driver.initial.display (.int (some 0xFF0000)) true).2] shown := by
  have admitted : Admits .initial (.display (.int (some 0xFF0000)) true) := by
    rw [admits_display rfl, if_neg (fun failed => Bool.noConfusion failed.2)]
    exact Nat.le_trans (storedElements_fits (by decide)) (Nat.le_max_right ..)
  have stepped : neopix.step .initial (.display (.int (some 0xFF0000)) true) =
      some (shown, some (Driver.initial.display (.int (some 0xFF0000)) true).2) := rfl
  exact System.Run.start.next admitted stepped

theorem buffer_owned_shown : Owned shown ∧ (Owned shown.destroy ↔ shown.inprogress = false) := by
  obtain ⟨⟨owned, -⟩, next⟩ := buffer_owned run_shown
  have exactly := next .destroy shown.destroy none rfl
  exact ⟨owned, (and_iff_left nofun).symm.trans exactly⟩

/-- Two LEDs are to be shown after one, `malloc` fails, and a size is left that the
next call relies on: it stores through `NULL`. -/
theorem buffer_owned_fails : ∃ history s, neopix.Run (fun _ _ => True) .initial history s ∧
    ¬Owned s ∧ ∃ stores ∈ history, ∃ store ∈ stores, ¬store.Inside := by
  obtain ⟨history, s, run, checked⟩ := System.exists_run_of_exec neopix (fun _ _ => True) .initial
    [.display (.int (some 0xFF0000)) true, .timer3B, .display (.array [some 1, some 2]) false,
      .display (.int (some 1)) true]
    (fun result => result.2.frameBuffer.isNone && decide (0 < result.2.frameBufferSize) &&
      result.1.any fun stores => stores.any fun store => store.capacity.isNone) (by decide)
  simp only [Bool.and_eq_true, decide_eq_true_eq, List.any_eq_true, Option.isNone_iff_eq_none]
    at checked
  obtain ⟨⟨frameBuffer, recorded⟩, stores, member, store, stored, missing⟩ := checked
  refine ⟨history, s, run, fun owned => ?_, stores, member, store, stored, ?_⟩
  · obtain ⟨size, capacity, -⟩ := owned.sized recorded
    rw [Driver.capacity, frameBuffer] at capacity
    cases capacity
  · rintro ⟨size, capacity, -⟩
    rw [missing] at capacity
    cases capacity

end TildaMk4.Neopix
