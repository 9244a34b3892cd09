import TildaMk4.Bootstrap.Reassembly

/-!
# When `get` ends

When the server has closed the connection, `recv` returns `b""` for ever. The loop of
`get` does not look for it: it ends when the content is complete or when an exception
is raised, and a stream that stops before that starves it.
-/

namespace TildaMk4.Bootstrap

open Text

abbrev Table := List Char → Option (List Char)

/-- A line, without its line feed, that is stored as a header. -/
structure IsHeader (line : Bytes) : Prop where
  open_ : lineFeed ∉ line
  long : 2 ≤ line.length
  named : ∃ text, decode line.dropLast = some text ∧ ':' ∈ text

/-- What the line adds to the headers. -/
def store (table : Table) (line : Bytes) : Table :=
  match (decode line.dropLast).map (splitMax ':' 3) with
  | some (name :: value :: _) => Function.update table (lower (strip name)) (some (strip value))
  | _ => table

def storeAll (table : Table) (lines : List Bytes) : Table := lines.foldl store table

/-- The content length that the lines announce, if it is there and a number. -/
def announced (table : Table) (lines : List Bytes) : Option Int :=
  (storeAll table lines Client.contentLength).bind parseInt

/-- Of the headers, after `held` of them, only `pieces` arrive: either they do not come to
their blank line, or less content follows than they announce. A lone line feed for the
blank line takes the next byte of its piece with it. -/
inductive HeadersStarve (table : Table) (held : Bytes) (pieces : List Bytes) : Prop
  | unended (lines : List Bytes) (unfinished : Bytes) :
      held ++ pieces.flatten = joined lineFeed lines ++ unfinished →
      (∀ line ∈ lines, IsHeader line) → lineFeed ∉ unfinished → HeadersStarve table held pieces
  | short (lines earlier later : List Bytes) (first blank after : Bytes) (length : Int) :
      pieces = earlier ++ (first ++ lineFeed :: after) :: later →
      held ++ (earlier.flatten ++ first) = joined lineFeed lines ++ blank →
      (∀ line ∈ lines, IsHeader line) → lineFeed ∉ blank → blank.length < 2 →
      announced table lines = some length →
      (((blank ++ lineFeed :: after).drop 2).length : Int) + later.flatten.length < length →
      HeadersStarve table held pieces

/-- A stream that leaves `get` waiting: no line feed comes at all, or the status line is
good and what follows its line feed starves the headers or the content. -/
inductive Starves (pieces : List Bytes) : Prop
  | noStatus : (∀ piece ∈ pieces, lineFeed ∉ piece) → Starves pieces
  | afterStatus (before rest : List Bytes) (line after : Bytes) (status : Int) :
      pieces = before ++ (line ++ lineFeed :: after) :: rest →
      (∀ piece ∈ before, lineFeed ∉ piece) → lineFeed ∉ line →
      Client.statusCode (before.flatten ++ upTo (line ++ lineFeed :: after) (line.length - 1)) =
        .ok status →
      HeadersStarve (fun _ => none) [] (after :: rest) → Starves pieces

namespace Client

variable {c : Client} {buf after line : Bytes} {lines pieces : List Bytes}

theorem splitMax_two {text : List Char} (colon : ':' ∈ text) :
    ∃ name value more, splitMax ':' 3 text = name :: value :: more := by
  obtain ⟨name, after, rfl, fresh⟩ := List.eq_append_cons_of_mem colon
  obtain ⟨value, more, split, _⟩ := splitMax_eq_cons ':' 2 after
  exact ⟨name, value, more, by rw [splitMax_line fresh, split]⟩

theorem addHeader_header (c : Client) (header : IsHeader line) :
    c.addHeader line.dropLast = .ok { c with headers := store c.headers line } := by
  obtain ⟨text, decoded, colon⟩ := header.named
  obtain ⟨name, value, more, split⟩ := splitMax_two colon
  simp only [addHeader, store, decoded, Option.map_some, split]

/-- A line that is long enough and no header raises. -/
theorem addHeader_other (c : Client) (open_ : lineFeed ∉ line) (long : 2 ≤ line.length)
    (other : ¬IsHeader line) : ∃ e, c.addHeader line.dropLast = .error e := by
  unfold addHeader
  split
  next => exact ⟨_, rfl⟩
  next text decoded =>
    have plain : ':' ∉ text := fun colon => other ⟨open_, long, text, decoded, colon⟩
    have one : splitMax ':' 3 text = [text] := by
      simp [splitMax, List.idxOf?_eq_none_iff.mpr plain]
    rw [one]
    exact ⟨_, rfl⟩

/-- The first line of `hbuf`, in the terms of the loop. -/
theorem readHeaders_first (hbuf : c.hbuf = line ++ lineFeed :: after) (open_ : lineFeed ∉ line) :
    readHeaders c buf =
      if line.length < 2 then c.endHeaders
      else match c.addHeader line.dropLast with
        | .error e => .error e
        | .ok next => readHeaders { next with hbuf := after } buf := by
  have found : newline c.hbuf = some line.length := by rw [hbuf, newline_line open_]
  have past : c.hbuf.drop (line.length + 1) = after := by
    rw [hbuf, ← List.drop_drop, List.drop_left]
    rfl
  rw [readHeaders]
  split
  next none_ => simp [none_] at found
  next nl at_ =>
    obtain rfl : nl = line.length := by simpa [at_] using found
    split
    next => rfl
    next long =>
      have stripped : upTo c.hbuf ((line.length : Int) - 1) = line.dropLast := by
        have shorter : ((line.length : Int) - 1) = (line.length - 1 : Nat) := by omega
        rw [shorter, hbuf]
        simp [upTo, List.dropLast_eq_take, List.take_append_of_le_length]
      cases added : c.addHeader line.dropLast <;> simp only [stripped, past, added]

theorem readHeaders_lines (headers : ∀ line ∈ lines, IsHeader line) :
    ∀ {c : Client}, c.hbuf = joined lineFeed lines ++ after →
      readHeaders c buf =
        readHeaders { c with headers := storeAll c.headers lines, hbuf := after } buf := by
  induction lines with
  | nil =>
    intro c hbuf
    obtain rfl : c.hbuf = after := hbuf
    rfl
  | cons line lines inductionHypothesis =>
    intro c hbuf
    obtain ⟨header, others⟩ := List.forall_mem_cons.mp headers
    rw [joined_cons] at hbuf
    rw [readHeaders_first hbuf header.open_, if_neg (Nat.not_lt.mpr header.long),
      addHeader_header c header]
    exact inductionHypothesis others rfl

/-- The client at the blank line behind the headers in `lines`. -/
def beginContent (c : Client) (lines : List Bytes) (length : Int) : Client :=
  { c with headers := storeAll c.headers lines, state := .content, clen := length, hbuf := [] }

theorem readHeaders_ended {blank : Bytes} (headers : ∀ line ∈ lines, IsHeader line)
    (hbuf : c.hbuf = joined lineFeed lines ++ (blank ++ lineFeed :: after))
    (open_ : lineFeed ∉ blank) (short : blank.length < 2) :
    (∃ e, announced c.headers lines = none ∧ readHeaders c buf = .error e) ∨
      ∃ length, announced c.headers lines = some length ∧ readHeaders c buf =
        .ok (c.beginContent lines length, (blank ++ lineFeed :: after).drop 2) := by
  rw [readHeaders_lines headers hbuf, readHeaders_first rfl open_, if_pos short, endHeaders,
    announced]
  dsimp only
  cases storeAll c.headers lines contentLength with
  | none => exact .inl ⟨_, rfl, rfl⟩
  | some text =>
    dsimp only [Option.bind_some]
    cases parseInt text with
    | none => exact .inl ⟨_, rfl, rfl⟩
    | some length => exact .inr ⟨length, rfl, rfl⟩

/-- The loop waits for the rest of the headers. -/
structure InHead (c : Client) : Prop where
  state : c.state = .headers
  open_ : lineFeed ∉ c.hbuf
  clen : c.clen = 9999999
  body : c.body = []

theorem InHead.more (inside : c.InHead) : (c.body.length : Int) < c.clen := by
  rw [inside.clen, inside.body]
  decide

theorem received_headers (inside : c.InHead) :
    c.received buf = match readHeaders { c with hbuf := c.hbuf ++ buf } buf with
      | .error e => .error e
      | .ok (next, rest) => .ok (next.contentBlock rest) := by
  have skipped : c.statusBlock buf = .ok (c, buf) := if_neg (by simp [inside.state])
  have block : c.headersBlock buf = readHeaders { c with hbuf := c.hbuf ++ buf } buf :=
    if_pos inside.state
  cases read : readHeaders { c with hbuf := c.hbuf ++ buf } buf <;>
    simp only [received, skipped, block, read]

/-- A piece that brings more headers, and does not end them. -/
theorem InHead.advance (inside : c.InHead) {unfinished : Bytes} (rest : List Bytes)
    (held : c.hbuf ++ buf = joined lineFeed lines ++ unfinished)
    (headers : ∀ line ∈ lines, IsHeader line) (open_ : lineFeed ∉ unfinished) :
    ∃ next : Client, next.InHead ∧ next.hbuf = unfinished ∧
      next.headers = storeAll c.headers lines ∧ c.receive (buf :: rest) = next.receive rest := by
  refine ⟨{ c with headers := storeAll c.headers lines, hbuf := unfinished },
    ⟨inside.state, open_, inside.clen, inside.body⟩, rfl, rfl, ?_⟩
  rw [receive, if_pos inside.more, received_headers inside, readHeaders_lines headers held,
    readHeaders_open open_]
  dsimp only
  rw [contentBlock, if_neg (by simp [inside.state])]

theorem receive_content_none_iff (pieces : List Bytes) : ∀ {c : Client}, c.state = .content →
    (c.receive pieces = none ↔ (c.body.length : Int) + pieces.flatten.length < c.clen) := by
  induction pieces with
  | nil =>
    intro c _
    rw [receive]
    split
    next less => exact iff_of_true rfl (by simpa using less)
    next enough => exact iff_of_false (Option.some_ne_none _) (by simpa using enough)
  | cons piece rest inductionHypothesis =>
    intro c state
    have taken : c.received piece = .ok { c with body := c.body ++ piece } := by
      simp [received, statusBlock, headersBlock, contentBlock, state]
    rw [receive, taken]
    split
    next less =>
      have later := inductionHypothesis (c := { c with body := c.body ++ piece }) state
      simp only [List.length_append, List.flatten_cons] at later ⊢
      rw [later]
      omega
    next enough =>
      refine iff_of_false (Option.some_ne_none _) fun less => enough ?_
      omega

/-- The piece with the blank line. -/
theorem InHead.blank (inside : c.InHead) {blank : Bytes} (rest : List Bytes)
    (held : c.hbuf ++ buf = joined lineFeed lines ++ (blank ++ lineFeed :: after))
    (headers : ∀ line ∈ lines, IsHeader line) (open_ : lineFeed ∉ blank)
    (short : blank.length < 2) :
    c.receive (buf :: rest) = none ↔ ∃ length, announced c.headers lines = some length ∧
      (((blank ++ lineFeed :: after).drop 2).length : Int) + rest.flatten.length < length := by
  rw [receive, if_pos inside.more, received_headers inside]
  rcases readHeaders_ended (c := { c with hbuf := c.hbuf ++ buf }) headers held open_ short with
    ⟨e, unknown, raised⟩ | ⟨length, known, begun⟩
  · rw [raised, show announced c.headers lines = none from unknown]
    simp
  · rw [begun, show announced c.headers lines = some length from known]
    have content := receive_content_none_iff rest
      (c := (beginContent { c with hbuf := c.hbuf ++ buf } lines length).contentBlock
        ((blank ++ lineFeed :: after).drop 2)) rfl
    dsimp only
    rw [content]
    simp [contentBlock, beginContent, inside.body]

theorem unended_starves {unfinished : Bytes} (open_ : lineFeed ∉ unfinished)
    (pieces : List Bytes) : ∀ {c : Client}, c.InHead → ∀ {lines : List Bytes},
      (∀ line ∈ lines, IsHeader line) →
        c.hbuf ++ pieces.flatten = joined lineFeed lines ++ unfinished →
          c.receive pieces = none := by
  induction pieces with
  | nil =>
    intro c inside _ _ _
    rw [receive, if_pos inside.more]
  | cons piece rest inductionHypothesis =>
    intro c inside lines headers arrived
    rw [List.flatten_cons, ← List.append_assoc] at arrived
    obtain ⟨first, second, part, split, held, partOpen, later⟩ :=
      cut_lines open_ (fun line member => (headers line member).open_) arrived
    rw [split, List.forall_mem_append] at headers
    obtain ⟨next, nextInside, rfl, -, advanced⟩ := inside.advance rest held headers.1 partOpen
    rw [advanced]
    exact inductionHypothesis nextInside headers.2 later

theorem storeAll_append (table : Table) (lines more : List Bytes) :
    storeAll table (lines ++ more) = storeAll (storeAll table lines) more := List.foldl_append ..

theorem announced_append (table : Table) (lines more : List Bytes) :
    announced table (lines ++ more) = announced (storeAll table lines) more := by
  rw [announced, storeAll_append]
  rfl

theorem short_starves {first blank after : Bytes} {later : List Bytes} {length : Int}
    (open_ : lineFeed ∉ blank) (blankShort : blank.length < 2)
    (short : (((blank ++ lineFeed :: after).drop 2).length : Int) + later.flatten.length < length)
    (earlier : List Bytes) : ∀ {c : Client}, c.InHead → ∀ {lines : List Bytes},
      (∀ line ∈ lines, IsHeader line) →
        c.hbuf ++ (earlier.flatten ++ first) = joined lineFeed lines ++ blank →
          announced c.headers lines = some length →
            c.receive (earlier ++ (first ++ lineFeed :: after) :: later) = none := by
  induction earlier with
  | nil =>
    intro c inside lines headers arrived known
    have held : c.hbuf ++ (first ++ lineFeed :: after) =
        joined lineFeed lines ++ (blank ++ lineFeed :: after) := by
      rw [← List.append_assoc, ← List.append_assoc, ← arrived]
      rfl
    exact (inside.blank later held headers open_ blankShort).mpr ⟨length, known, short⟩
  | cons piece rest inductionHypothesis =>
    intro c inside lines headers arrived known
    rw [List.flatten_cons, List.append_assoc, ← List.append_assoc c.hbuf] at arrived
    obtain ⟨before, second, part, split, held, partOpen, onward⟩ :=
      cut_lines open_ (fun line member => (headers line member).open_) arrived
    rw [split, List.forall_mem_append] at headers
    obtain ⟨next, nextInside, rfl, stored, advanced⟩ := inside.advance
      (rest ++ (first ++ lineFeed :: after) :: later) held headers.1 partOpen
    rw [List.cons_append, advanced]
    apply inductionHypothesis nextInside headers.2 onward
    rw [stored, ← announced_append, ← split, known]

/-- A piece that brings a line that is no header ends the loop. -/
theorem InHead.bad (inside : c.InHead) (rest : List Bytes)
    (held : c.hbuf ++ buf = joined lineFeed lines ++ (line ++ lineFeed :: after))
    (headers : ∀ line ∈ lines, IsHeader line) (open_ : lineFeed ∉ line) (long : 2 ≤ line.length)
    (other : ¬IsHeader line) : c.receive (buf :: rest) ≠ none := by
  obtain ⟨e, raised⟩ := addHeader_other
    { c with headers := storeAll c.headers lines, hbuf := line ++ lineFeed :: after } open_ long other
  rw [receive, if_pos inside.more, received_headers inside, readHeaders_lines headers held,
    readHeaders_first rfl open_, if_neg (Nat.not_lt.mpr long), raised]
  exact Option.some_ne_none _

/-- The pieces that a waiting client has not got through before a line arrive with it. -/
theorem line_in_piece {held piece blank after : Bytes} (open_ : lineFeed ∉ held)
    (whole : held ++ piece = joined lineFeed lines ++ (blank ++ lineFeed :: after)) :
    ∃ first, piece = first ++ lineFeed :: after ∧ held ++ first = joined lineFeed lines ++ blank := by
  rw [← List.append_assoc] at whole
  rcases List.append_eq_append_iff.mp whole with ⟨first, front, back⟩ | ⟨more, front, back⟩
  · exact ⟨first, back, front.symm⟩
  · cases more with
    | nil =>
      refine ⟨[], ?_, ?_⟩
      · simpa using back.symm
      · simpa using front
    | cons head tail =>
      obtain ⟨rfl, -⟩ := List.cons.inj back
      exact absurd (front ▸ List.mem_append_right _ (List.mem_cons_self ..)) open_

theorem headersStarve_of_none (pieces : List Bytes) : ∀ {c : Client}, c.InHead →
    c.receive pieces = none → HeadersStarve c.headers c.hbuf pieces := by
  induction pieces with
  | nil =>
    intro c inside _
    exact .unended [] c.hbuf (List.append_nil _) nofun inside.open_
  | cons piece rest inductionHypothesis =>
    intro c inside waits
    obtain ⟨lines, part, held, headers, partOpen | ⟨line, after, rfl, lineOpen, other⟩⟩ :=
      exists_lines lineFeed IsHeader (c.hbuf ++ piece)
    · obtain ⟨next, nextInside, rfl, stored, advanced⟩ := inside.advance rest held headers partOpen
      cases inductionHypothesis nextInside (advanced ▸ waits) with
      | unended more unfinished arrived all open_ =>
        refine .unended (lines ++ more) unfinished ?_ (List.forall_mem_append.mpr ⟨headers, all⟩) open_
        rw [List.flatten_cons, ← List.append_assoc, held, List.append_assoc, arrived, joined_append]
      | short more earlier later first blank after length split arrived all open_ blankShort known
          less =>
        refine .short (lines ++ more) (piece :: earlier) later first blank after length
          (by rw [split, List.cons_append]) ?_ (List.forall_mem_append.mpr ⟨headers, all⟩) open_
          blankShort (by rw [announced_append, ← stored, known]) less
        rw [List.flatten_cons, List.append_assoc, ← List.append_assoc c.hbuf, held,
          List.append_assoc, arrived, joined_append]
    · by_cases blankShort : line.length < 2
      · obtain ⟨length, known, less⟩ :=
          (inside.blank rest held headers lineOpen blankShort).mp waits
        obtain ⟨first, rfl, front⟩ := line_in_piece inside.open_ held
        exact .short lines [] rest first line after length rfl front headers lineOpen blankShort
          known less
      · exact absurd waits
          (inside.bad rest held headers lineOpen (Nat.not_lt.mp blankShort) other)

theorem receive_headers_none_iff (inside : c.InHead) (pieces : List Bytes) :
    c.receive pieces = none ↔ HeadersStarve c.headers c.hbuf pieces := by
  refine ⟨headersStarve_of_none pieces inside, fun starves => ?_⟩
  cases starves with
  | unended lines unfinished arrived headers open_ =>
    exact unended_starves open_ pieces inside headers arrived
  | short lines earlier later first blank after length split arrived headers open_ blankShort
      known less =>
    rw [split]
    exact short_starves open_ blankShort less earlier inside headers arrived known

/-- The loop waits for the rest of the status line. -/
structure InStatusLine (c : Client) : Prop where
  state : c.state = .status
  clen : c.clen = 9999999
  body : c.body = []

theorem InStatusLine.more (inside : c.InStatusLine) : (c.body.length : Int) < c.clen := by
  rw [inside.clen, inside.body]
  decide

theorem InStatusLine.keep (inside : c.InStatusLine) (hbuf : Bytes) :
    InStatusLine { c with hbuf := hbuf } := ⟨inside.state, inside.clen, inside.body⟩

/-- Pieces without a line feed are kept. -/
theorem receive_before (before rest : List Bytes) : (∀ piece ∈ before, lineFeed ∉ piece) →
    ∀ {c : Client}, c.InStatusLine →
      c.receive (before ++ rest) =
        receive { c with hbuf := c.hbuf ++ before.flatten } rest := by
  induction before with
  | nil =>
    intro _ c _
    rw [List.flatten_nil, List.append_nil]
    rfl
  | cons piece before inductionHypothesis =>
    intro plain c inside
    obtain ⟨open_, others⟩ := List.forall_mem_cons.mp plain
    have kept : c.received piece = .ok { c with hbuf := c.hbuf ++ piece } := by
      simp [received, statusBlock, headersBlock, contentBlock, readStatus, inside.state,
        newline_of_not_mem open_]
    have later := inductionHypothesis others (inside.keep (c.hbuf ++ piece))
    rw [List.cons_append, receive, if_pos inside.more, kept]
    dsimp only
    rw [later, List.flatten_cons, List.append_assoc]

/-- The piece with the line feed of the status line. -/
theorem receive_statusLine (inside : c.InStatusLine) (rest : List Bytes)
    (open_ : lineFeed ∉ line) :
    (∃ e, statusCode (c.hbuf ++ upTo (line ++ lineFeed :: after) (line.length - 1)) = .error e ∧
        c.receive ((line ++ lineFeed :: after) :: rest) ≠ none) ∨
      ∃ status, statusCode (c.hbuf ++ upTo (line ++ lineFeed :: after) (line.length - 1)) =
          .ok status ∧
        c.receive ((line ++ lineFeed :: after) :: rest) =
          receive { c with status := some status, state := .headers, hbuf := [] }
            (after :: rest) := by
  have past : (line ++ lineFeed :: after).drop (line.length + 1) = after := by
    rw [← List.drop_drop, List.drop_left]
    rfl
  have block : c.statusBlock (line ++ lineFeed :: after) =
      c.readStatus (line ++ lineFeed :: after) := if_pos inside.state
  rw [receive, if_pos inside.more, received, block, readStatus, newline_line open_]
  dsimp only
  cases statusCode (c.hbuf ++ upTo (line ++ lineFeed :: after) (line.length - 1)) with
  | error e => exact .inl ⟨e, rfl, Option.some_ne_none _⟩
  | ok status =>
    have begun : InHead { c with status := some status, state := .headers, hbuf := [] } :=
      ⟨rfl, List.not_mem_nil, inside.clen, inside.body⟩
    refine .inr ⟨status, rfl, ?_⟩
    have headers : headersBlock { c with status := some status, state := .headers, hbuf := [] }
        after = readHeaders { c with status := some status, state := .headers, hbuf := after }
          after := if_pos rfl
    rw [receive, if_pos begun.more, received_headers begun, past, List.nil_append]
    cases read : readHeaders { c with status := some status, state := .headers, hbuf := after }
      after <;> simp only [headers, read]

theorem first_lineFeed (pieces : List Bytes) : (∀ piece ∈ pieces, lineFeed ∉ piece) ∨
    ∃ before piece rest, pieces = before ++ piece :: rest ∧
      (∀ piece ∈ before, lineFeed ∉ piece) ∧ lineFeed ∈ piece := by
  induction pieces with
  | nil => exact .inl nofun
  | cons piece rest inductionHypothesis =>
    by_cases here : lineFeed ∈ piece
    · exact .inr ⟨[], piece, rest, rfl, nofun, here⟩
    · rcases inductionHypothesis with none_ | ⟨before, found, after, rfl, plain, there⟩
      · exact .inl (List.forall_mem_cons.mpr ⟨here, none_⟩)
      · exact .inr ⟨piece :: before, found, after, rfl, List.forall_mem_cons.mpr ⟨here, plain⟩,
          there⟩

theorem receive_start_none_iff (pieces : List Bytes) :
    start.receive pieces = none ↔ Starves pieces := by
  have begun : start.InStatusLine := ⟨rfl, rfl, rfl⟩
  constructor
  · intro waits
    rcases first_lineFeed pieces with none_ | ⟨before, piece, rest, rfl, plain, member⟩
    · exact .noStatus none_
    obtain ⟨line, after, rfl, open_⟩ := List.eq_append_cons_of_mem member
    rw [receive_before before _ plain begun] at waits
    rcases receive_statusLine (begun.keep (start.hbuf ++ before.flatten)) rest open_ with
      ⟨e, _, ends⟩ | ⟨status, code, next⟩
    · exact absurd waits ends
    · rw [next, receive_headers_none_iff ⟨rfl, List.not_mem_nil, rfl, rfl⟩] at waits
      exact .afterStatus before rest line after status rfl plain open_ code waits
  · intro starves
    cases starves with
    | noStatus none_ =>
      have waits := receive_before pieces [] none_ begun
      rw [List.append_nil] at waits
      rw [waits, receive, if_pos (begun.keep _).more]
    | afterStatus before rest line after status split plain open_ code starves =>
      rw [split, receive_before before _ plain begun]
      rcases receive_statusLine (begun.keep (start.hbuf ++ before.flatten)) rest open_ with
        ⟨e, failed, _⟩ | ⟨status', _, next⟩
      · cases failed.symm.trans code
      · rw [next, receive_headers_none_iff ⟨rfl, List.not_mem_nil, rfl, rfl⟩]
        exact starves

end Client

/-- `get` returns or raises after finitely many calls of `recv`, which answers `b""` once
the pieces are over. -/
def Ends (path : String) (s : Socket) : Prop :=
  ∃ n, get path { s with incoming := s.incoming ++ List.replicate n [] } ≠ none

theorem get_none_iff (path : String) (s : Socket) :
    get path s = none ↔ Starves s.incoming := by
  rw [← Client.receive_start_none_iff, get, Socket.send]
  cases Client.start.receive s.incoming <;> simp

section Closed

variable {pieces : List Bytes}

theorem flatten_closed (pieces : List Bytes) (n : Nat) :
    (pieces ++ List.replicate n []).flatten = pieces.flatten := by
  simp

theorem HeadersStarve.closed {table : Table} {held : Bytes}
    (starves : HeadersStarve table held pieces) (n : Nat) :
    HeadersStarve table held (pieces ++ List.replicate n []) := by
  cases starves with
  | unended lines unfinished arrived headers open_ =>
    exact .unended lines unfinished (by rw [flatten_closed, arrived]) headers open_
  | short lines earlier later first blank after length split arrived headers open_ short known
      less =>
    refine .short lines earlier (later ++ List.replicate n []) first blank after length ?_ arrived
      headers open_ short known (by rwa [flatten_closed])
    rw [split, List.append_assoc, List.cons_append]

/-- The closed connection does not help. -/
theorem Starves.closed (starves : Starves pieces) (n : Nat) :
    Starves (pieces ++ List.replicate n []) := by
  cases starves with
  | noStatus none_ =>
    refine .noStatus (List.forall_mem_append.mpr ⟨none_, fun piece member => ?_⟩)
    rw [List.eq_of_mem_replicate member]
    exact List.not_mem_nil
  | afterStatus before rest line after status split plain open_ code starves =>
    have later := starves.closed n
    rw [List.cons_append] at later
    refine .afterStatus before (rest ++ List.replicate n []) line after status ?_ plain open_ code
      later
    rw [split, List.append_assoc, List.cons_append]

end Closed

/-- `get` ends on exactly the streams that do not starve it. -/
theorem get_ends_iff (path : String) (s : Socket) : Ends path s ↔ ¬Starves s.incoming := by
  constructor
  · rintro ⟨n, ends⟩ starves
    exact ends ((get_none_iff path _).mpr (starves.closed n))
  · intro fed
    refine ⟨0, fun waits => fed ?_⟩
    have starves := (get_none_iff path _).mp waits
    rwa [List.replicate_zero, List.append_nil] at starves

/-- A server that closes the connection at once leaves `get` in its loop. -/
theorem get_ends_fails : ¬ ∀ (path : String) (s : Socket), Ends path s := by
  intro always
  obtain ⟨n, ends⟩ := always "bootstrap" ⟨[], [], false⟩
  have starves : Starves [] := .noStatus nofun
  exact ends ((get_none_iff "bootstrap" _).mpr (starves.closed n))

end TildaMk4.Bootstrap
