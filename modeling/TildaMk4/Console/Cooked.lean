import TildaMk4.Lib.Bytes

/-!
# Console output with cooked newlines

`mp_hal_stdout_tx_strn` of `mpmain-emf.c` and its cooked form, which scans the string
with a cursor and passes it on in segments. Pointers are addresses.
-/

namespace TildaMk4.Console

open Memory

/-- What is passed to `mp_hal_stdout_tx_strn`: bytes at an address, or the literal. -/
inductive Piece
  | segment (last count : Nat)
  | crlf
  deriving DecidableEq

def Piece.bytes (memory : Nat → UInt8) : Piece → List UInt8
  | .segment last count => loadBytes memory last count
  | .crlf => [0x0d, 0x0a]

/-- The addresses that the piece has read. -/
def Piece.reads : Piece → List Nat
  | .segment last count => List.range' last count
  | .crlf => []

/-- What the cooked form does, in its order. -/
inductive Effect
  | read (address : Nat)
  | tx_strn (piece : Piece)
  deriving DecidableEq

def Effect.piece? : Effect → Option Piece
  | .read _ => none
  | .tx_strn piece => some piece

def Effect.reads : Effect → List Nat
  | .read address => [address]
  | .tx_strn piece => piece.reads

/-- The pointers of the loop and what was done so far. -/
structure Scan where
  str : Nat
  last : Nat
  effects : List Effect

/-- `if (str > last) mp_hal_stdout_tx_strn(last, str - last);` -/
def Scan.flush (s : Scan) : Scan :=
  if s.str > s.last then
    { s with effects := s.effects ++ [.tx_strn (.segment s.last (s.str - s.last))] }
  else s

/-- The body of the loop. -/
def Scan.round (memory : Nat → UInt8) (s : Scan) : Scan :=
  let read : Scan := { s with effects := s.effects ++ [.read s.str] }
  if memory s.str = 0x0a then
    let flushed := read.flush
    ⟨flushed.str + 1, flushed.str + 1, flushed.effects ++ [.tx_strn .crlf]⟩
  else { read with str := read.str + 1 }

/-- `while (len--)` -/
def Scan.rounds (memory : Nat → UInt8) : Nat → Scan → Scan
  | 0, s => s
  | len + 1, s => rounds memory len (s.round memory)

def mp_hal_stdout_tx_strn_cooked (memory : Nat → UInt8) (str len : Nat) : List Effect :=
  (Scan.rounds memory len ⟨str, str, []⟩).flush.effects

/-- The pieces passed on, in their order. -/
def pieces (memory : Nat → UInt8) (effects : List Effect) : List (List UInt8) :=
  (effects.filterMap Effect.piece?).map (Piece.bytes memory)

/-- A newline becomes carriage return and newline. -/
def cook (c : UInt8) : List UInt8 := if c = 0x0a then [0x0d, 0x0a] else [c]

/-- The ends that a piece goes to. -/
inductive Port
  | repl_cdc
  | console
  deriving DecidableEq

/-- `mp_hal_stdout_tx_strn`, where `usbRepl` is `MICROPY_HW_USB_REPL`: `CDCD_sendData` and
`UART_write` of the same bytes. -/
def mp_hal_stdout_tx_strn (usbRepl : Bool) (bytes : List UInt8) : List (Port × List UInt8) :=
  (if usbRepl then [(.repl_cdc, bytes)] else []) ++ [(.console, bytes)]

/-- What the writes give to one of the ends. -/
def received (port : Port) (writes : List (Port × List UInt8)) : List UInt8 :=
  (writes.filter fun write => write.1 = port).flatMap Prod.snd

theorem received_append (port : Port) (writes more : List (Port × List UInt8)) :
    received port (writes ++ more) = received port writes ++ received port more := by
  rw [received, List.filter_append, List.flatMap_append]
  rfl

theorem received_strn (usbRepl : Bool) (bytes : List UInt8) (port : Port)
    (present : port = .repl_cdc → usbRepl = true) :
    received port (mp_hal_stdout_tx_strn usbRepl bytes) = bytes := by
  cases port with
  | repl_cdc => simp [mp_hal_stdout_tx_strn, received, present rfl]
  | console => cases usbRepl <;> simp [mp_hal_stdout_tx_strn, received]

/-- An end that is there receives the pieces one after the other. -/
theorem received_pieces (usbRepl : Bool) (port : Port) (present : port = .repl_cdc → usbRepl = true)
    (sent : List (List UInt8)) :
    received port (sent.flatMap (mp_hal_stdout_tx_strn usbRepl)) = sent.flatten := by
  induction sent with
  | nil => rfl
  | cons bytes rest inductionHypothesis =>
    rw [List.flatMap_cons, received_append, received_strn usbRepl bytes port present,
      inductionHypothesis, List.flatten_cons]

@[simp] theorem pieces_read (memory : Nat → UInt8) (effects : List Effect) (address : Nat) :
    pieces memory (effects ++ [.read address]) = pieces memory effects := by
  simp [pieces, Effect.piece?]

@[simp] theorem pieces_strn (memory : Nat → UInt8) (effects : List Effect) (piece : Piece) :
    pieces memory (effects ++ [.tx_strn piece]) = pieces memory effects ++ [piece.bytes memory] := by
  simp [pieces, Effect.piece?]

/-- The effects pass on `text` in pieces that are not empty, and read only inside. -/
structure Faithful (memory : Nat → UInt8) (start stop : Nat) (text : List UInt8)
    (effects : List Effect) : Prop where
  text : (pieces memory effects).flatten = text
  some_ : ∀ piece ∈ pieces memory effects, piece ≠ []
  reads : ∀ address ∈ effects.flatMap Effect.reads, start ≤ address ∧ address < stop

section Faithful

variable {memory : Nat → UInt8} {start stop : Nat} {text : List UInt8} {effects : List Effect}

theorem Faithful.nil (memory : Nat → UInt8) (start stop : Nat) :
    Faithful memory start stop [] [] :=
  ⟨rfl, nofun, nofun⟩

theorem Faithful.read (faithful : Faithful memory start stop text effects) (address : Nat)
    (low : start ≤ address) (high : address < stop) :
    Faithful memory start stop text (effects ++ [.read address]) := by
  refine ⟨?_, ?_, fun other member => ?_⟩
  · rw [pieces_read]
    exact faithful.text
  · rw [pieces_read]
    exact faithful.some_
  · rw [List.flatMap_append, List.mem_append] at member
    rcases member with before | here
    · exact faithful.reads other before
    · obtain rfl : other = address := by simpa [Effect.reads] using here
      exact ⟨low, high⟩

theorem Faithful.strn (faithful : Faithful memory start stop text effects) (piece : Piece)
    (some_ : piece.bytes memory ≠ [])
    (inside : ∀ address ∈ piece.reads, start ≤ address ∧ address < stop) :
    Faithful memory start stop (text ++ piece.bytes memory) (effects ++ [.tx_strn piece]) := by
  refine ⟨?_, fun other member => ?_, fun address member => ?_⟩
  · rw [pieces_strn, List.flatten_append, faithful.text, List.flatten_singleton]
  · rw [pieces_strn, List.mem_append, List.mem_singleton] at member
    rcases member with before | rfl
    · exact faithful.some_ other before
    · exact some_
  · rw [List.flatMap_append, List.mem_append] at member
    rcases member with before | here
    · exact faithful.reads address before
    · exact inside address (by simpa [Effect.reads] using here)

/-- After `n` bytes, what was passed on and the segment from `last` are those bytes, cooked. -/
structure Agrees (memory : Nat → UInt8) (start stop n : Nat) (s : Scan) : Prop where
  str : s.str = start + n
  low : start ≤ s.last
  high : s.last ≤ s.str
  sent : ∃ text, Faithful memory start stop text s.effects ∧
    text ++ loadBytes memory s.last (s.str - s.last) = (loadBytes memory start n).flatMap cook

variable {n : Nat} {s : Scan}

@[simp] theorem str_flush (s : Scan) : s.flush.str = s.str := by
  unfold Scan.flush
  split <;> rfl

/-- A flush passes the segment on, if there is any. -/
theorem Agrees.flush (agrees : Agrees memory start stop n s) (inside : start + n ≤ stop) :
    Faithful memory start stop ((loadBytes memory start n).flatMap cook) s.flush.effects := by
  obtain ⟨text, faithful, joined⟩ := agrees.sent
  have low := agrees.low
  have reach := agrees.str
  unfold Scan.flush
  split
  next pending =>
    rw [← joined]
    refine faithful.strn (.segment s.last (s.str - s.last)) (fun empty => ?_) fun address member => ?_
    · have none_left := congrArg List.length empty
      rw [Piece.bytes, loadBytes_length, List.length_nil] at none_left
      omega
    · have within := List.mem_range'_1.mp member
      omega
  next nothing =>
    have none_left : s.str - s.last = 0 := by omega
    rw [none_left, loadBytes, List.range_zero, List.map_nil, List.append_nil] at joined
    rwa [← joined]

theorem cook_loadBytes_succ (memory : Nat → UInt8) (start n : Nat) :
    (loadBytes memory start (n + 1)).flatMap cook =
      (loadBytes memory start n).flatMap cook ++ cook (memory (start + n)) := by
  rw [loadBytes_add, List.flatMap_append]
  simp [loadBytes]

/-- One round takes one byte: a newline ends the segment, another byte extends it. -/
theorem Agrees.round (agrees : Agrees memory start stop n s) (inside : start + n < stop) :
    Agrees memory start stop (n + 1) (s.round memory) := by
  obtain ⟨text, faithful, joined⟩ := agrees.sent
  have low := agrees.low
  have high := agrees.high
  have reach := agrees.str
  have looked := faithful.read s.str (by omega) (by omega)
  unfold Scan.round
  dsimp only
  split
  next newline =>
    have shown : Agrees memory start stop n { s with effects := s.effects ++ [.read s.str] } :=
      ⟨reach, low, high, text, looked, joined⟩
    have flushed := shown.flush (Nat.le_of_lt inside)
    refine ⟨by simp [reach, Nat.add_assoc], by simp; omega, Nat.le_refl _, _,
      flushed.strn .crlf (by simp [Piece.bytes]) nofun, ?_⟩
    rw [Nat.sub_self, cook_loadBytes_succ, ← reach, newline]
    simp [loadBytes, Piece.bytes, cook]
  next other =>
    refine ⟨by simp [reach, Nat.add_assoc], low, by simp; omega, text, looked, ?_⟩
    have longer : s.str + 1 - s.last = (s.str - s.last) + 1 := by omega
    have place : s.last + (s.str - s.last) = s.str := by omega
    rw [longer, loadBytes_add, ← List.append_assoc, joined, cook_loadBytes_succ, ← reach, place]
    simp [loadBytes, cook, other]

theorem Agrees.rounds (left : Nat) : ∀ {n s}, Agrees memory start stop n s →
    start + n + left ≤ stop → Agrees memory start stop (n + left) (s.rounds memory left) := by
  induction left with
  | zero => exact fun agrees _ => agrees
  | succ left inductionHypothesis =>
    intro n s agrees inside
    have rest := inductionHypothesis (agrees.round (by omega)) (by omega)
    rwa [Nat.add_right_comm, Nat.add_assoc] at rest

end Faithful

theorem faithful_cooked (memory : Nat → UInt8) (str len : Nat) :
    Faithful memory str (str + len) ((loadBytes memory str len).flatMap cook)
      (mp_hal_stdout_tx_strn_cooked memory str len) := by
  have start : Agrees memory str (str + len) 0 ⟨str, str, []⟩ :=
    ⟨rfl, Nat.le_refl _, Nat.le_refl _, [], .nil .., by simp [loadBytes]⟩
  have done := start.rounds len (Nat.le_refl _)
  rw [Nat.zero_add] at done
  exact done.flush (Nat.le_refl _)

/-- The pieces are the string with carriage return and newline for each newline, none of
them is empty, and nothing outside the string is read. -/
theorem cooked_pieces (memory : Nat → UInt8) (str len : Nat) :
    (pieces memory (mp_hal_stdout_tx_strn_cooked memory str len)).flatten =
        (loadBytes memory str len).flatMap cook ∧
      (∀ piece ∈ pieces memory (mp_hal_stdout_tx_strn_cooked memory str len), piece ≠ []) ∧
      ∀ address ∈ (mp_hal_stdout_tx_strn_cooked memory str len).flatMap Effect.reads,
        str ≤ address ∧ address < str + len :=
  ⟨(faithful_cooked memory str len).text, (faithful_cooked memory str len).some_,
    (faithful_cooked memory str len).reads⟩

example : pieces (storeBytes (fun _ => 0) 100 [0x0a, 0x41, 0x0a, 0x0a])
    (mp_hal_stdout_tx_strn_cooked (storeBytes (fun _ => 0) 100 [0x0a, 0x41, 0x0a, 0x0a]) 100 4) =
      [[0x0d, 0x0a], [0x41], [0x0d, 0x0a], [0x0d, 0x0a]] := by decide

/-- So each end that is there receives the cooked string. -/
theorem received_cooked (usbRepl : Bool) (port : Port) (memory : Nat → UInt8) (str len : Nat)
    (present : port = .repl_cdc → usbRepl = true) :
    received port ((pieces memory (mp_hal_stdout_tx_strn_cooked memory str len)).flatMap
      (mp_hal_stdout_tx_strn usbRepl)) = (loadBytes memory str len).flatMap cook :=
  (received_pieces usbRepl port present _).trans (faithful_cooked memory str len).text

end TildaMk4.Console
