import Mathlib.Tactic.IntervalCases
import TildaMk4.Lib.Bytes
import TildaMk4.Neopix.Ownership

/-!
# The frames on the wire

The codes of a frame decode to its colours, but the DMA moves at most 1024 items: the
24 codes for each LED, the 30 reset codes and the first item that is set by hand fit
up to 41 LEDs.
-/

namespace TildaMk4.Neopix

open Memory Transition

/-! ## What is put on the wire -/

/-- What the DMA moves, given what lies from the source on and the number of items. -/
abbrev Dma := (Nat → UInt16) → Nat → List UInt16

/-- A basic transfer of 1 to 1024 items moves exactly these; nothing is known of any
other. -/
def Dma.Conforms (dma : Dma) : Prop :=
  ∀ source count, 1 ≤ count → count ≤ 1024 → dma source count = (List.range count).map source

/-- The match values of a transfer: that of `TimerMatchSet` and those of the DMA. -/
def Driver.wire (s : Driver) (dma : Dma) : List UInt16 :=
  match s.transfer with
  | none => []
  | some transfer =>
    let source := fun i => match transfer.source with
      | none => 0
      | some buffer => s.contents buffer (.ofNat (i + 1))
    transfer.first :: dma source transfer.count.toNat

/-- A bit code as a bit. -/
def readBit (code : UInt16) : Option Bool :=
  if code = dutycycle1 then some true else if code = dutycycle0 then some false else none

/-- The colour 0xRRGGBB of 24 codes: green, red, blue, most significant bit first. -/
def readLed (codes : List UInt16) : Option Nat :=
  if codes.length = 24 then
    (codes.mapM readBit).map fun bits =>
      decodeBits ((bits.drop 8).take 8) * 0x10000 + decodeBits (bits.take 8) * 0x100 +
        decodeBits (bits.drop 16)
  else none

/-- The low 24 bits. -/
def rgb24 (val : Int32) : Nat := val.toBitVec.toNat % 2 ^ 24

/-- The wire carries the colours in reverse order, and then 30 reset codes. -/
def Decodes (wire : List UInt16) (colours : List Int32) : Prop :=
  ∃ leds : List (List UInt16), wire = leds.flatten ++ List.replicate 30 dutycycleReset ∧
    leds.map readLed = colours.reverse.map fun val => some (rgb24 val)

theorem length_of_readLed {codes : List UInt16} {colour : Nat}
    (read : readLed codes = some colour) : codes.length = 24 := by
  by_contra other
  rw [readLed, if_neg other] at read
  nomatch read

theorem length_flatten_of_readLed {leds : List (List UInt16)} {colours : List Nat}
    (read : leds.map readLed = colours.map some) :
    leds.flatten.length = 24 * colours.length := by
  induction leds generalizing colours with
  | nil =>
    cases colours with
    | nil => rfl
    | cons colour rest => nomatch read
  | cons led leds ih =>
    cases colours with
    | nil => nomatch read
    | cons colour rest =>
      obtain ⟨first, others⟩ := List.cons.inj read
      rw [List.flatten_cons, List.length_append, length_of_readLed first, ih others,
        List.length_cons]
      omega

theorem Decodes.length {wire : List UInt16} {colours : List Int32}
    (decodes : Decodes wire colours) : wire.length = 24 * colours.length + 30 := by
  obtain ⟨leds, rfl, read⟩ := decodes
  rw [← Function.comp_def some rgb24, ← List.map_map] at read
  rw [List.length_append, List.length_replicate, length_flatten_of_readLed read, List.length_map,
    List.length_reverse]

/-! ## One LED -/

/-- The bit of the colour that is sent in a round. -/
def sentBit (round : Nat) : Nat :=
  if round < 8 then 15 - round else if round < 16 then 31 - round else 23 - round

theorem tx_toBitVec (val : Int32) : (tx val).toBitVec =
    ((val.toBitVec &&& 0xFF00#32) <<< 8) ||| ((val.toBitVec &&& 0xFF0000#32) >>> 8) |||
      (val.toBitVec &&& 0xFF#32) := by
  have positive : (val.toBitVec &&& 0xFF0000#32).msb = false := by
    rw [BitVec.msb_and]
    exact Bool.and_false _
  rw [← BitVec.sshiftRight_eq_of_msb_false positive]
  simp [tx]

theorem tx_bit (val : Int32) {round : Nat} (sent : round < 24) :
    (tx val).toBitVec.getLsbD (23 - round) = val.toBitVec.getLsbD (sentBit round) := by
  rw [tx_toBitVec]
  interval_cases round <;> simp [sentBit]

/-- The mask has one bit set, until it is 0 in round 24. -/
theorem mask_toBitVec : ∀ round : Fin 24,
    (mask round).toBitVec = BitVec.twoPow 32 (23 - round) ∧
      BitVec.twoPow 32 (23 - round) ≠ 0 := by
  decide

example : mask 24 = 0 := by decide

theorem mask_and (val : Int32) {round : Nat} (sent : round < 24) :
    mask round &&& tx val ≠ 0 ↔ val.toBitVec.getLsbD (sentBit round) = true := by
  obtain ⟨single, nonzero⟩ := mask_toBitVec ⟨round, sent⟩
  rw [← tx_bit val sent, Ne, ← Int32.toBitVec_inj, Int32.toBitVec_and, single, BitVec.twoPow_and]
  split
  next set => exact iff_of_true nonzero set
  next clear => exact iff_of_false (not_not.mpr rfl) clear

theorem mapM_eq_map {α β : Type} {read : α → Option β} {value : α → β} {codes : List α}
    (reads : ∀ code ∈ codes, read code = some (value code)) :
    codes.mapM read = some (codes.map value) := by
  induction codes with
  | nil => rfl
  | cons code rest ih =>
    obtain ⟨first, others⟩ := List.forall_mem_cons.mp reads
    rw [List.mapM_cons, first, ih others]
    rfl

theorem readBit_code (val : Int32) {round : Nat} (sent : round < 24) :
    readBit (if mask round &&& tx val ≠ 0 then dutycycle1 else dutycycle0) =
      some (val.toBitVec.getLsbD (sentBit round)) := by
  by_cases set : mask round &&& tx val ≠ 0
  · rw [if_pos set, (mask_and val sent).mp set]
    rfl
  · rw [if_neg set, Bool.eq_false_iff.mpr (mt (mask_and val sent).mpr set)]
    rfl

theorem mapM_readBit_ledCodes (val : Int32) : (ledCodes val).mapM readBit =
    some ((List.range 24).map fun round => val.toBitVec.getLsbD (sentBit round)) := by
  rw [ledCodes, List.mapM_map]
  exact mapM_eq_map fun round member => readBit_code val (List.mem_range.mp member)

theorem readLed_ledCodes (val : Int32) : readLed (ledCodes val) = some (rgb24 val) := by
  have byte (bits : List Nat) (low : Nat)
      (sent : bits.map sentBit = (List.range 8).map fun i => low + 8 - 1 - i) :
      decodeBits (bits.map fun round => val.toBitVec.getLsbD (sentBit round)) =
        val.toBitVec.toNat / 2 ^ low % 2 ^ 8 := by
    rw [← decodeBits_testBit, ← Function.comp_def val.toBitVec.getLsbD sentBit, ← List.map_map,
      sent, List.map_map]
    rfl
  rw [readLed, if_pos (ledCodes_length val), mapM_readBit_ledCodes, Option.map_some]
  rw [← List.map_drop, ← List.map_take, ← List.map_take, ← List.map_drop, byte _ 16 (by decide),
    byte _ 8 (by decide), byte _ 0 (by decide), rgb24]
  congr 1
  omega

/-! ## The contents of the buffer -/

section Contents

variable {s : Driver} {buffer : Nat}

theorem store_contents (frameBuffer : s.frameBuffer = some buffer) (bufPtr : UInt32)
    (code : UInt16) : (s.store bufPtr code).contents buffer =
      Function.update (s.contents buffer) bufPtr code := by
  rw [Driver.store, frameBuffer]
  exact Function.update_self ..

theorem storeAll_contents_before (frameBuffer : s.frameBuffer = some buffer)
    (codes : List UInt16) (bufPtr : UInt32) {index : UInt32}
    (fits : bufPtr.toNat + codes.length ≤ 2 ^ 32) (before : index.toNat < bufPtr.toNat) :
    (s.storeAll bufPtr codes).1.contents buffer index = s.contents buffer index := by
  induction codes generalizing s bufPtr with
  | nil => rfl
  | cons code rest ih =>
    have other : index ≠ bufPtr := by
      intro same
      exact absurd before (same ▸ Nat.lt_irrefl _)
    have stored : (s.store bufPtr code).contents buffer index = s.contents buffer index := by
      rw [store_contents frameBuffer, Function.update_of_ne other]
    by_cases last : rest = []
    · rw [last]
      exact stored
    · have more := List.length_pos_iff.mpr last
      rw [List.length_cons] at fits
      have next : (bufPtr + 1).toNat = bufPtr.toNat + 1 := toNat_add_one (by omega)
      rw [← stored]
      exact ih ((store_frameBuffer ..).trans frameBuffer) (bufPtr + 1) (by omega) (by omega)

theorem storeAll_contents (frameBuffer : s.frameBuffer = some buffer) {codes : List UInt16}
    (bufPtr : UInt32) (fits : bufPtr.toNat + codes.length < 2 ^ 32) {i : Nat}
    (stored : i < codes.length) :
    (s.storeAll bufPtr codes).1.contents buffer (bufPtr + .ofNat i) = codes[i] := by
  induction codes generalizing s bufPtr i with
  | nil => exact absurd stored (Nat.not_lt_zero _)
  | cons code rest ih =>
    rw [List.length_cons] at fits stored
    have next : (bufPtr + 1).toNat = bufPtr.toNat + 1 := toNat_add_one (by omega)
    have frameBuffer' := (store_frameBuffer bufPtr code).trans frameBuffer
    cases i with
    | zero =>
      have zero : UInt32.ofNat 0 = 0 := rfl
      rw [zero, UInt32.add_zero]
      exact (storeAll_contents_before frameBuffer' rest (bufPtr + 1) (by omega) (by omega)).trans
        ((congrFun (store_contents frameBuffer bufPtr code) bufPtr).trans
          (Function.update_self ..))
    | succ i =>
      have later := ih frameBuffer' (bufPtr + 1) (by omega)
        (Nat.lt_of_succ_lt_succ stored)
      rw [UInt32.add_assoc, ← UInt32.ofNat_one, ← UInt32.ofNat_add, Nat.add_comm 1 i] at later
      exact later

/-- A transfer of the elements that have been stored puts them on the wire. -/
theorem wire_stored (frameBuffer : s.frameBuffer = some buffer) {codes : List UInt16} {dma : Dma}
    (conforms : dma.Conforms) (some_ : 2 ≤ codes.length) (moved : codes.length ≤ 1025) :
    ((s.storeAll 0 codes).1.wsStartTransfer (.ofNat codes.length)).wire dma = codes := by
  obtain ⟨-, source, -⟩ := storeAll_keeps (s := s) codes 0
  rw [frameBuffer] at source
  have count : (UInt32.ofNat codes.length - 1).toNat = codes.length - 1 := by
    rw [UInt32.toNat_sub_of_le]
    · rw [UInt32.toNat_ofNat', UInt32.toNat_one, Nat.mod_eq_of_lt (by omega)]
    · rw [UInt32.le_iff_toNat_le, UInt32.toNat_ofNat', UInt32.toNat_one,
        Nat.mod_eq_of_lt (by omega)]
      omega
  have element {i : Nat} (inside : i < codes.length) :
      (s.storeAll 0 codes).1.contents buffer (.ofNat i) = codes[i] := by
    have stored := storeAll_contents frameBuffer 0 (by rw [UInt32.toNat_zero]; omega) inside
    rwa [UInt32.zero_add] at stored
  rw [Driver.wire, Driver.wsStartTransfer]
  dsimp only
  rw [source, count, conforms _ _ (by omega) (by omega)]
  dsimp only
  apply List.ext_getElem
  · rw [List.length_cons, List.length_map, List.length_range]
    omega
  · intro i _ inside
    cases i with
    | zero => exact element inside
    | succ i =>
      rw [List.getElem_cons_succ, List.getElem_map, List.getElem_range]
      exact element inside

end Contents

/-! ## Frames -/

section Frames

variable {s : Driver} {colours : List Int32}

theorem itemCodes_ints (colours : List Int32) :
    itemCodes (colours.map some) = (colours.flatMap ledCodes, true) := by
  induction colours with
  | nil => rfl
  | cons val rest ih => rw [List.map_cons, itemCodes, ih, List.flatMap_cons]

/-- The codes of a frame. -/
def frame (colours : List Int32) : List UInt16 :=
  colours.reverse.flatMap ledCodes ++ List.replicate resetBitN dutycycleReset

theorem frame_decodes (colours : List Int32) : Decodes (frame colours) colours := by
  refine ⟨colours.reverse.map ledCodes, rfl, ?_⟩
  rw [List.map_map]
  exact List.map_congr_left fun val _ => readLed_ledCodes val

theorem frame_length (colours : List Int32) :
    (frame colours).length = 24 * colours.length + 30 :=
  (frame_decodes colours).length

theorem fill_ints (s : Driver) (colours : List Int32) : s.fill (colours.map some) =
    ((s.storeAll 0 (frame colours)).1.wsStartTransfer (.ofNat (frame colours).length),
      (s.storeAll 0 (frame colours)).2) := by
  rw [Driver.fill, ← List.map_reverse, itemCodes_ints]
  rfl

theorem display_decodes (sized : Sized s) {rgb : Rgb} (given : rgb.items = some (colours.map some))
    (few : colours.length ≤ 41) :
    (∀ dma : Dma, dma.Conforms → Decodes ((s.display rgb true).1.wire dma) colours) ∧
      ∀ store ∈ (s.display rgb true).2, store.Inside := by
  obtain ⟨succeeded, capacity, recorded, -⟩ := allocate_succeeded sized
    (bufferSize_pos (colours.map some).length) true (fun failed => nomatch failed.2)
  rw [display_filled given succeeded]
  obtain ⟨buffer, frameBuffer, -⟩ := Option.bind_eq_some_iff.mp capacity
  constructor
  · intro dma conforms
    have length := frame_length colours
    rw [fill_ints, wire_stored frameBuffer conforms (by omega) (by omega)]
    exact frame_decodes colours
  · apply (fill_inside capacity (UInt32.toNat_lt _)).mpr
    rw [recorded]
    refine Nat.le_trans (storedElements_fits ?_) (Nat.le_max_right ..)
    rw [List.length_map]
    omega

/-- A DMA that moves nothing when it is asked for more than it can. -/
def cappedDma : Dma := fun source count =>
  if 1 ≤ count ∧ count ≤ 1024 then (List.range count).map source else []

theorem cappedDma_conforms : cappedDma.Conforms := fun _ _ some_ few => if_pos ⟨some_, few⟩

theorem wire_capped_length (s : Driver) : (s.wire cappedDma).length ≤ 1025 := by
  rw [Driver.wire]
  split
  next => exact Nat.zero_le _
  next transfer _ =>
    rw [List.length_cons, cappedDma]
    split
    next few =>
      rw [List.length_map, List.length_range]
      exact Nat.succ_le_succ few.2
    next => exact Nat.succ_le_succ (Nat.zero_le _)

/-- The runs in which no `malloc` fails. -/
def MallocSucceeds (_ : Driver) : Act → Prop
  | .display _ malloc => malloc = true
  | .destroy | .timer3B => True

theorem display_sized (sized : Sized s) (rgb : Rgb) : Sized (s.display rgb true).1 := by
  cases given : rgb.items with
  | none =>
    rw [Driver.display, given]
    exact sized
  | some items =>
    obtain ⟨succeeded, capacity, -⟩ := allocate_succeeded sized (bufferSize_pos items.length)
      true (fun failed => Bool.false_ne_true failed.2.symm)
    rw [display_filled given succeeded]
    obtain ⟨heap, frameBuffer, size⟩ :=
      @fill_keeps (s.allocate (bufferSize items.length) true).1 items
    intro _
    rw [Driver.capacity, heap, frameBuffer, size]
    exact capacity

theorem run_sized {history : List (List Store)}
    (run : neopix.Run MallocSucceeds .initial history s) : Sized s := by
  refine run.invariant (fun _ s => Sized s) invariant_initial.sized ?_
  intro _ s act s' _ sized succeeds stepped
  cases act with
  | display rgb malloc =>
    obtain rfl : malloc = true := succeeds
    simp only [neopix, Option.ite_none_left_eq_some, Option.some.injEq, Prod.mk.injEq] at stepped
    obtain ⟨-, rfl, -⟩ := stepped
    exact display_sized sized rgb
  | destroy =>
    cases stepped
    exact fun leftover => absurd leftover (UInt32.lt_irrefl 0)
  | timer3B =>
    cases stepped
    exact sized

end Frames

/-- Whatever the DMA does with more than 1024 items, a frame decodes to its colours if
and only if it has no more than 41 LEDs. -/
theorem display_decodes_iff {history : List (List Store)} {s : Driver}
    (run : neopix.Run MallocSucceeds .initial history s) {rgb : Rgb} {colours : List Int32}
    (given : rgb.items = some (colours.map some)) :
    ((∀ dma : Dma, dma.Conforms → Decodes ((s.display rgb true).1.wire dma) colours) ∧
      ∀ store ∈ (s.display rgb true).2, store.Inside) ↔ colours.length ≤ 41 := by
  constructor
  · rintro ⟨decodes, -⟩
    have length := (decodes cappedDma cappedDma_conforms).length
    have capped := wire_capped_length (s.display rgb true).1
    omega
  · exact display_decodes (run_sized run) given

theorem display_decodes_iff_red :
    ((∀ dma : Dma, dma.Conforms →
        Decodes ((Driver.initial.display (.int (some 0xFF0000)) true).1.wire dma) [0xFF0000]) ∧
      ∀ store ∈ (Driver.initial.display (.int (some 0xFF0000)) true).2, store.Inside) ↔ 1 ≤ 41 :=
  display_decodes_iff .start rfl

/-- A frame of 42 LEDs need not arrive. -/
theorem display_decodes_fails : cappedDma.Conforms ∧
    ¬Decodes ((Driver.initial.display (.array (List.replicate 42 (some 0))) true).1.wire cappedDma)
      (List.replicate 42 0) := by
  refine ⟨cappedDma_conforms, fun decodes => ?_⟩
  have length := decodes.length
  have capped :=
    wire_capped_length (Driver.initial.display (.array (List.replicate 42 (some 0))) true).1
  rw [List.length_replicate] at length
  omega

end TildaMk4.Neopix
