import Mathlib.Data.List.Basic
import TildaMk4.Bootstrap.Get

/-!
# A response is reassembled however it is cut

What the client holds after some pieces is determined by the response and by what
is still to come: the unfinished line, and the headers or the content so far. A
piece takes one such state to the next, unless it ends a header line that is no
UTF-8: that one raises.
-/

namespace TildaMk4.Bootstrap

open Text

def lineFeed : UInt8 := 0x0a

def crlf : Bytes := [0x0d, 0x0a]

/-- `:` -/
def colon : UInt8 := 0x3a

/-- A header line in bytes: the name has no colon. -/
structure HeaderLine where
  name : Bytes
  value : Bytes
  name_plain : colon ∉ name ∧ lineFeed ∉ name
  value_plain : lineFeed ∉ value

namespace HeaderLine

variable (h : HeaderLine)

def line : Bytes := h.name ++ colon :: 0x20 :: h.value

/-- The line is UTF-8. -/
def IsText : Prop := (decode h.line).isSome = true

instance : Decidable h.IsText := inferInstanceAs (Decidable (_ = _))

/-- The name is `Content-Length`, in any letter case. -/
def IsContentLength : Prop :=
  (decode h.name).map (fun name => lower (strip name)) = some Client.contentLength

/-- The value is a numeral for `length`. -/
def Gives (length : Nat) : Prop := ∃ value, decode h.value = some value ∧ Numeral value length

end HeaderLine

def headerBytes (headers : List HeaderLine) : Bytes := headers.flatMap fun h => h.line ++ crlf

/-- `HTTP/1.` -/
def http1 : Bytes := [0x48, 0x54, 0x54, 0x50, 0x2f, 0x31, 0x2e]

/-- A response whose content length is that of its body. -/
structure Response where
  version : Bytes
  code : Bytes
  reason : Bytes
  headers : List HeaderLine
  body : Bytes
  version_plain : 0x20 ∉ version ∧ 0x0a ∉ version
  code_some : code ≠ []
  code_digits : ∀ d ∈ Client.characters code, d.isDigit = true
  reason_some : reason ≠ []
  reason_plain : 0x0a ∉ reason
  length_given : ∃ h ∈ headers, h.IsContentLength
  length_right : ∀ h ∈ headers, h.IsContentLength → h.Gives body.length

namespace Response

variable (r : Response)

def statusLine : Bytes := http1 ++ r.version ++ 0x20 :: r.code ++ 0x20 :: r.reason

def status : Nat := decimal (Client.characters r.code)

def bytes : Bytes := r.statusLine ++ crlf ++ headerBytes r.headers ++ crlf ++ r.body

/-- The header lines are UTF-8. -/
def IsText : Prop := ∀ h ∈ r.headers, h.IsText

instance : Decidable r.IsText := inferInstanceAs (Decidable (∀ h ∈ r.headers, h.IsText))

end Response

/-- The line feed that ends the status line is the first one. -/
theorem Response.lineFeed_not_mem (r : Response) : lineFeed ∉ r.statusLine ++ [0x0d] := by
  have start : lineFeed ∉ http1 := by decide
  have code : lineFeed ∉ r.code := by
    intro member
    have digit := r.code_digits _ (List.mem_map_of_mem member)
    exact absurd digit (by decide)
  have version : lineFeed ∉ r.version := r.version_plain.2
  have reason : lineFeed ∉ r.reason := r.reason_plain
  have others : lineFeed ≠ 0x20 ∧ lineFeed ≠ 0x0d := by decide
  simp [Response.statusLine, start, code, version, reason, others]

theorem HeaderLine.lineFeed_not_mem (h : HeaderLine) : lineFeed ∉ h.line := by
  have others : lineFeed ≠ colon ∧ lineFeed ≠ 0x20 := by decide
  simp [HeaderLine.line, h.name_plain.2, h.value_plain, others]

theorem HeaderLine.line_ne_nil (h : HeaderLine) : h.line ≠ [] :=
  List.append_ne_nil_of_right_ne_nil _ nofun

theorem colon_not_mem {name : List Char} (fresh : colon ∉ encode name) : ':' ∉ name := by
  intro member
  apply fresh
  have alone : String.utf8EncodeChar ':' = [colon] := by decide
  exact List.mem_flatMap.mpr ⟨':', member, alone ▸ List.mem_singleton_self colon⟩

/-- A line that is UTF-8 is a name and a value that are. -/
theorem HeaderLine.decode_line {h : HeaderLine} {text : List Char}
    (decoded : decode h.line = some text) :
    ∃ name value, text = name ++ ':' :: ' ' :: value ∧ decode h.name = some name ∧
      decode h.value = some value ∧ ':' ∉ name := by
  have whole : encode text = h.name ++ colon :: 0x20 :: h.value := (decode_eq_some.mp decoded).symm
  obtain ⟨name, c, later, rfl, colon_, named, rest⟩ :=
    encode_cut (by decide) whole h.name_plain.1
  have blank : encode later = [] ++ 0x20 :: h.value := rest
  obtain ⟨nothing, d, value, rfl, space, none_, valued⟩ :=
    encode_cut (by decide) blank List.not_mem_nil
  obtain rfl : c = ':' := Char.toNat_inj.mp colon_
  obtain rfl : d = ' ' := Char.toNat_inj.mp space
  obtain rfl : nothing = [] := by
    cases nothing with
    | nil => rfl
    | cons first others =>
      exact absurd (List.append_eq_nil_iff.mp none_).1 String.utf8EncodeChar_ne_nil
  refine ⟨name, value, rfl, decode_eq_some.mpr named.symm, decode_eq_some.mpr valued.symm, ?_⟩
  exact colon_not_mem (named ▸ h.name_plain.1)

/-- What is stored for the content length is read as `length`. -/
def Known (length : Nat) (headers : List Char → Option (List Char)) : Prop :=
  ∃ text, headers Client.contentLength = some text ∧ parseInt text = some (length : Int)

namespace Client

/-- The status line has not ended yet. -/
structure InStatus (r : Response) (rest : Bytes) (c : Client) : Prop where
  state : c.state = .status
  arrived : c.hbuf ++ rest = r.bytes
  open_ : lineFeed ∉ c.hbuf
  clen : c.clen = 9999999
  body : c.body = []

/-- The lines of `remaining` have not ended yet, and the lines before them are stored. -/
structure InHeaders (r : Response) (remaining : List HeaderLine) (rest : Bytes) (c : Client) :
    Prop where
  state : c.state = .headers
  status : c.status = some (r.status : Int)
  arrived : c.hbuf ++ rest = headerBytes remaining ++ crlf ++ r.body
  suffix : ∃ processed, processed ++ remaining = r.headers ∧ (∀ h ∈ processed, h.IsText) ∧
    ((∃ h ∈ processed, h.IsContentLength) → Known r.body.length c.headers)
  clen : c.clen = 9999999
  body : c.body = []

structure InContent (r : Response) (rest : Bytes) (c : Client) : Prop where
  state : c.state = .content
  text : r.IsText
  status : c.status = some (r.status : Int)
  clen : c.clen = r.body.length
  arrived : c.body ++ rest = r.body

/-- What the client holds when `rest` is still to come. -/
inductive Reading (r : Response) (rest : Bytes) (c : Client) : Prop where
  | status (inside : c.InStatus r rest)
  | headers {remaining : List HeaderLine} (inside : c.InHeaders r remaining rest)
      (open_ : lineFeed ∉ c.hbuf)
  | content (inside : c.InContent r rest)

variable {r : Response} {c : Client} {rest buf after line : Bytes} {remaining : List HeaderLine}

theorem newline_of_not_mem (open_ : lineFeed ∉ buf) : newline buf = none :=
  List.idxOf?_eq_none_iff.mpr open_

theorem newline_line (open_ : lineFeed ∉ line) :
    newline (line ++ lineFeed :: after) = some line.length :=
  idxOf?_line open_

theorem readHeaders_open (open_ : lineFeed ∉ c.hbuf) : readHeaders c buf = .ok (c, buf) := by
  have none_ := newline_of_not_mem open_
  rw [readHeaders]
  split
  next => rfl
  next nl found => simp [none_] at found

theorem readHeaders_blank (hbuf : c.hbuf = crlf ++ after) : readHeaders c buf = c.endHeaders := by
  have found : newline c.hbuf = some 1 := by
    rw [hbuf]
    exact newline_line (show lineFeed ∉ [0x0d] by decide)
  rw [readHeaders]
  split
  next none_ => simp [none_] at found
  next nl at_ =>
    obtain rfl : nl = 1 := by simpa [at_] using found
    exact if_pos (by decide)

theorem upTo_length (line after : Bytes) : upTo (line ++ after) line.length = line := by
  simp [upTo]

/-- A whole line is taken from `hbuf` without its carriage return. -/
theorem readHeaders_whole (hbuf : c.hbuf = line ++ crlf ++ after) (open_ : lineFeed ∉ line)
    (some_ : line ≠ []) : readHeaders c buf =
      (c.addHeader line).bind fun next => readHeaders { next with hbuf := after } buf := by
  have whole : c.hbuf = (line ++ [0x0d]) ++ lineFeed :: after := by
    simpa [crlf, lineFeed] using hbuf
  have open' : lineFeed ∉ line ++ [0x0d] := by
    simpa [lineFeed] using open_
  have found : newline c.hbuf = some (line.length + 1) := by
    rw [whole, newline_line open']
    simp
  have stripped : upTo c.hbuf ((line.length + 1 : Nat) - 1 : Int) = line := by
    have shorter : ((line.length + 1 : Nat) - 1 : Int) = line.length := by omega
    rw [shorter, hbuf, List.append_assoc]
    exact upTo_length line _
  have past : c.hbuf.drop (line.length + 1 + 1) = after := by
    rw [hbuf, ← List.drop_drop, List.append_assoc, ← List.drop_drop]
    simp [crlf]
  have long : 0 < line.length := List.length_pos_iff.mpr some_
  rw [readHeaders]
  split
  next none_ => simp [none_] at found
  next nl at_ =>
    obtain rfl : nl = line.length + 1 := by simpa [at_] using found
    rw [if_neg (by omega), stripped, past]
    cases c.addHeader line <;> rfl

theorem readHeaders_line {next : Client} (hbuf : c.hbuf = line ++ crlf ++ after)
    (open_ : lineFeed ∉ line) (some_ : line ≠ []) (added : c.addHeader line = .ok next) :
    readHeaders c buf = readHeaders { next with hbuf := after } buf := by
  rw [readHeaders_whole hbuf open_ some_, added]
  rfl

theorem readHeaders_raises {e : PyError} (hbuf : c.hbuf = line ++ crlf ++ after)
    (open_ : lineFeed ∉ line) (some_ : line ≠ []) (raised : c.addHeader line = .error e) :
    readHeaders c buf = .error e := by
  rw [readHeaders_whole hbuf open_ some_, raised]
  rfl

/-- A header line is stored under its name; its value is stored whole if it has no colon. -/
theorem addHeader_line (c : Client) {h : HeaderLine} (text : h.IsText) :
    ∃ name value stored, decode h.name = some name ∧ decode h.value = some value ∧
      c.addHeader h.line = .ok { c with
        headers := Function.update c.headers (lower (strip name)) (some stored) } ∧
      (':' ∉ value → stored = strip value) := by
  obtain ⟨whole, decoded⟩ := Option.isSome_iff_exists.mp text
  obtain ⟨name, value, rfl, named, valued, plain⟩ := HeaderLine.decode_line decoded
  obtain ⟨first, pieces, pieces_eq, unsplit⟩ := splitMax_eq_cons ':' 2 (' ' :: value)
  have split : splitMax ':' 3 (name ++ ':' :: ' ' :: value) = name :: first :: pieces := by
    rw [← pieces_eq]
    exact splitMax_line plain 2
  refine ⟨name, value, strip first, named, valued, ?_, ?_⟩
  · simp [addHeader, decoded, split]
  · intro fresh
    have same : first = ' ' :: value := unsplit (by simp [fresh])
    simp [same, strip, isSpace]

/-- A line that is no UTF-8 is not stored. -/
theorem addHeader_of_not_isText (c : Client) {h : HeaderLine} (bad : ¬h.IsText) :
    c.addHeader h.line = .error .unicodeError := by
  have none_ : decode h.line = none := Option.not_isSome_iff_eq_none.mp bad
  rw [addHeader, none_]

theorem known_addHeader {c next : Client} {h : HeaderLine} {length : Nat} (text : h.IsText)
    (added : c.addHeader h.line = .ok next) (right : h.IsContentLength → h.Gives length)
    (known : h.IsContentLength ∨ Known length c.headers) : Known length next.headers := by
  obtain ⟨name, value, stored, decodedName, decodedValue, stores, whole⟩ := addHeader_line c text
  obtain rfl := Except.ok.inj (added.symm.trans stores)
  have key : h.IsContentLength ↔ lower (strip name) = contentLength := by
    unfold HeaderLine.IsContentLength
    rw [decodedName]
    exact Option.some_inj
  by_cases named : h.IsContentLength
  · obtain ⟨value', decoded, numeral⟩ := right named
    obtain rfl : value = value' := Option.some.inj (decodedValue.symm.trans decoded)
    have same : stored = strip value := whole (numeral.not_mem rfl rfl)
    refine ⟨stored, ?_, ?_⟩
    · rw [← key.mp named]
      exact Function.update_self ..
    · rw [same]
      exact numeral.strip.parseInt
  · obtain ⟨text, before, parsed⟩ := known.resolve_left named
    refine ⟨text, ?_, parsed⟩
    have other : contentLength ≠ lower (strip name) := fun same => named (key.mpr same.symm)
    simpa [Function.update_of_ne other] using before

theorem endHeaders_known {c : Client} {length : Nat} (known : Known length c.headers) :
    c.endHeaders =
      .ok ({ c with state := .content, clen := length, hbuf := [] }, c.hbuf.drop 2) := by
  obtain ⟨text, stored, parsed⟩ := known
  simp [endHeaders, stored, parsed]

/-- A line that is no UTF-8 has raised. -/
def Raised {α : Type} (r : Response) (result : Except PyError α) : Prop :=
  result = .error .unicodeError ∧ ¬r.IsText

theorem readHeaders_reads {r : Response} {remaining : List HeaderLine} {rest : Bytes} {c : Client}
    (buf : Bytes) (inside : c.InHeaders r remaining rest) :
    Raised r (readHeaders c buf) ∨ ∃ next buf', readHeaders c buf = .ok (next, buf') ∧
      ((∃ later, next.InHeaders r later rest ∧ lineFeed ∉ next.hbuf) ∨
        next.InContent r (buf' ++ rest) ∧ next.body = []) := by
  induction remaining generalizing c with
  | nil =>
    have whole : c.hbuf ++ rest = [0x0d] ++ lineFeed :: r.body := by
      simpa [headerBytes, crlf, lineFeed] using inside.arrived
    refine .inr ?_
    rcases arrived_cases whole (by decide) with open_ | ⟨after, ended, onward⟩
    · exact ⟨c, buf, readHeaders_open open_, .inl ⟨[], inside, open_⟩⟩
    · obtain ⟨processed, all, text, known⟩ := inside.suffix
      rw [List.append_nil] at all
      subst all
      have blank : c.hbuf = crlf ++ after := by simpa [crlf, lineFeed] using ended
      have done := endHeaders_known (known r.length_given)
      refine ⟨_, _, (readHeaders_blank blank).trans done, .inr ⟨?_, inside.body⟩⟩
      refine ⟨rfl, text, inside.status, rfl, ?_⟩
      simp [inside.body, ended, onward]
  | cons h tail ih =>
    have whole : c.hbuf ++ rest =
        (h.line ++ [0x0d]) ++ lineFeed :: (headerBytes tail ++ crlf ++ r.body) := by
      simpa [headerBytes, crlf, lineFeed] using inside.arrived
    have fresh : lineFeed ∉ h.line ++ [0x0d] := by
      simpa [lineFeed] using h.lineFeed_not_mem
    rcases arrived_cases whole fresh with open_ | ⟨after, ended, onward⟩
    · exact .inr ⟨c, buf, readHeaders_open open_, .inl ⟨_, inside, open_⟩⟩
    · obtain ⟨processed, all, texts, known⟩ := inside.suffix
      have among : h ∈ r.headers := all ▸ List.mem_append_right _ (List.mem_cons_self ..)
      have line : c.hbuf = h.line ++ crlf ++ after := by simpa [crlf, lineFeed] using ended
      by_cases text : h.IsText
      · obtain ⟨name, value, stored, -, -, added, -⟩ := addHeader_line c text
        rw [readHeaders_line line h.lineFeed_not_mem h.line_ne_nil added]
        apply ih
        refine ⟨inside.state, inside.status, by simpa using onward, ?_, inside.clen, inside.body⟩
        refine ⟨processed ++ [h], by simpa using all, ?_, ?_⟩
        · exact List.forall_mem_append.mpr ⟨texts, List.forall_mem_singleton.mpr text⟩
        · rintro ⟨given, member, named⟩
          have before : h.IsContentLength ∨ Known r.body.length c.headers := by
            rcases List.mem_append.mp member with earlier | last
            · exact .inr (known ⟨given, earlier, named⟩)
            · rw [← List.mem_singleton.mp last]
              exact .inl named
          have grown := known_addHeader text added (r.length_right h among) before
          exact grown
      · refine .inl ⟨?_, fun all => text (all h among)⟩
        exact readHeaders_raises line h.lineFeed_not_mem h.line_ne_nil
          (c.addHeader_of_not_isText text)

theorem statusCode_statusLine (r : Response) (extra : Bytes) :
    statusCode (r.statusLine ++ extra) = .ok (r.status : Int) := by
  have fresh : 0x20 ∉ http1 ++ r.version := by
    have plain : 0x20 ∉ http1 := by decide
    simp [plain, r.version_plain.1]
  have solid : 0x20 ∉ r.code := by
    intro member
    have digit := r.code_digits _ (List.mem_map_of_mem member)
    exact absurd digit (by decide)
  have whole : r.statusLine ++ extra =
      (http1 ++ r.version) ++ 0x20 :: (r.code ++ 0x20 :: (r.reason ++ extra)) := by
    simp [Response.statusLine]
  have second : ((r.statusLine ++ extra).splitOn 0x20)[1]? = some r.code := by
    rw [whole, List.splitOn_append_cons_self_of_not_mem fresh,
      List.splitOn_append_cons_self_of_not_mem solid]
    rfl
  have parsed : parseInt (characters r.code) = some (r.status : Int) :=
    (numeral_of_digits (by simpa [characters] using r.code_some) r.code_digits).parseInt
  simp [statusCode, second, parsed]

/-- Whatever stands before the line feed in the last piece, the status line has been kept. -/
theorem kept_statusLine {statusLine held before : Bytes} (after : Bytes)
    (ended : held ++ before = statusLine ++ [0x0d]) :
    ∃ extra, held ++ upTo (before ++ lineFeed :: after) ((before.length : Int) - 1) =
      statusLine ++ extra := by
  rcases List.eq_nil_or_concat before with rfl | ⟨first, last, rfl⟩
  · rw [List.append_nil] at ended
    exact ⟨_, by rw [ended, List.append_assoc]⟩
  · rw [List.concat_eq_append] at ended ⊢
    rw [← List.append_assoc] at ended
    obtain ⟨kept, _⟩ := List.append_inj' ended rfl
    have shorter : (((first ++ [last]).length : Nat) : Int) - 1 = first.length := by simp
    rw [shorter, List.append_assoc, upTo_length]
    exact ⟨[], by simpa using kept⟩

theorem readStatus_reads {r : Response} {c : Client} {buf rest : Bytes}
    (inside : c.InStatus r (buf ++ rest)) :
    ∃ next buf', c.readStatus buf = .ok (next, buf') ∧
      (next.InStatus r rest ∨ InHeaders r r.headers rest { next with hbuf := next.hbuf ++ buf' }) := by
  have arrived : (c.hbuf ++ buf) ++ rest =
      (r.statusLine ++ [0x0d]) ++ lineFeed :: (headerBytes r.headers ++ crlf ++ r.body) := by
    simpa [Response.bytes, crlf, lineFeed] using inside.arrived
  have fresh : lineFeed ∉ r.statusLine ++ [0x0d] := r.lineFeed_not_mem
  rcases arrived_cases arrived fresh with open_ | ⟨after, ended, onward⟩
  · have none_ : newline buf = none := newline_of_not_mem fun member =>
      open_ (List.mem_append_right _ member)
    refine ⟨{ c with hbuf := c.hbuf ++ buf }, buf, by simp [readStatus, none_], .inl ?_⟩
    exact ⟨inside.state, by simpa using inside.arrived, open_, inside.clen, inside.body⟩
  · have member : lineFeed ∈ buf := by
      have among : lineFeed ∈ c.hbuf ++ buf := by simp [ended]
      exact (List.mem_append.mp among).resolve_left inside.open_
    obtain ⟨before, after', rfl, first⟩ := List.eq_append_cons_of_mem member
    have same : (c.hbuf ++ before) ++ lineFeed :: after' =
        (r.statusLine ++ [0x0d]) ++ lineFeed :: after := by
      simpa using ended
    obtain ⟨kept, rfl⟩ := line_unique same (by simp [inside.open_, first]) fresh
    obtain ⟨extra, held⟩ := kept_statusLine after' kept
    have found : newline (before ++ lineFeed :: after') = some before.length := newline_line first
    have past : (before ++ lineFeed :: after').drop (before.length + 1) = after' := by
      simp [← List.drop_drop]
    have code := statusCode_statusLine r extra
    refine ⟨{ c with status := some r.status, state := .headers, hbuf := [] }, after', ?_, .inr ?_⟩
    · simp [readStatus, found, held, code, past]
    · exact ⟨rfl, rfl, by simpa using onward, ⟨[], rfl, nofun, by simp⟩, inside.clen, inside.body⟩

theorem reading_content {r : Response} {next : Client} {buf rest : Bytes}
    (outcome : (∃ later, next.InHeaders r later rest ∧ lineFeed ∉ next.hbuf) ∨
      next.InContent r (buf ++ rest) ∧ next.body = []) :
    Reading r rest (next.contentBlock buf) := by
  unfold contentBlock
  rcases outcome with ⟨later, inside, open_⟩ | ⟨inside, _⟩
  · rw [if_neg (by simp [inside.state])]
    exact .headers inside open_
  · rw [if_pos inside.state]
    exact .content { inside with arrived := by simpa using inside.arrived }

/-- A client that holds a part of the response waits for more, unless it has all of the content. -/
theorem Reading.unfinished {r : Response} {rest : Bytes} {c : Client} (reading : c.Reading r rest)
    (some_ : rest ≠ []) : (c.body.length : Int) < c.clen := by
  cases reading with
  | status inside => simp [inside.clen, inside.body]
  | headers inside _ => simp [inside.clen, inside.body]
  | content inside =>
    have long : 0 < rest.length := List.length_pos_iff.mpr some_
    have lengths := congrArg List.length inside.arrived
    simp only [List.length_append] at lengths
    rw [inside.clen]
    omega

/-- The last line feed of the response comes before its content. -/
theorem Reading.content_of_nil {r : Response} {c : Client} (reading : c.Reading r []) :
    c.InContent r [] := by
  cases reading with
  | status inside =>
    have whole : c.hbuf = r.bytes := by simpa using inside.arrived
    exact absurd inside.open_ (by simp [whole, Response.bytes, crlf, lineFeed])
  | headers inside open_ =>
    have whole : c.hbuf = _ := (List.append_nil _).symm.trans inside.arrived
    exact absurd open_ (by simp [whole, crlf, lineFeed])
  | content inside => exact inside

/-- A piece takes what the client holds to what it holds with the piece. -/
theorem received_step {r : Response} {c : Client} {buf rest : Bytes}
    (reading : c.Reading r (buf ++ rest)) :
    Raised r (c.received buf) ∨ ∃ next, c.received buf = .ok next ∧ next.Reading r rest := by
  cases reading with
  | status inside =>
    obtain ⟨read, buf', parsed, goesOn | ended⟩ := readStatus_reads inside
    · refine .inr ⟨read, ?_, .status goesOn⟩
      simp [received, statusBlock, headersBlock, contentBlock, inside.state, parsed, goesOn.state]
    · have state : read.state = .headers := ended.state
      have block : read.headersBlock buf' = readHeaders { read with hbuf := read.hbuf ++ buf' } buf' :=
        if_pos state
      rcases readHeaders_reads buf' ended with ⟨raised, bad⟩ | ⟨next, final, lines, outcome⟩
      · refine .inl ⟨?_, bad⟩
        simp [received, statusBlock, inside.state, parsed, block, raised]
      · refine .inr ⟨_, ?_, reading_content outcome⟩
        simp [received, statusBlock, inside.state, parsed, block, lines]
  | headers inside open_ =>
    have grown : InHeaders r _ rest { c with hbuf := c.hbuf ++ buf } :=
      { inside with arrived := by simpa using inside.arrived }
    have skipped : c.statusBlock buf = .ok (c, buf) := if_neg (by simp [inside.state])
    have block : c.headersBlock buf = readHeaders { c with hbuf := c.hbuf ++ buf } buf :=
      if_pos inside.state
    rcases readHeaders_reads buf grown with ⟨raised, bad⟩ | ⟨next, final, lines, outcome⟩
    · refine .inl ⟨?_, bad⟩
      simp [received, skipped, block, raised]
    · refine .inr ⟨_, ?_, reading_content outcome⟩
      simp [received, skipped, block, lines]
  | content inside =>
    refine .inr ⟨{ c with body := c.body ++ buf }, ?_, .content ?_⟩
    · simp [received, statusBlock, headersBlock, contentBlock, inside.state]
    · exact { inside with arrived := by simpa using inside.arrived }

theorem receive_reads {r : Response} {chunks : List Bytes} {c : Client}
    (nonempty : ∀ chunk ∈ chunks, chunk ≠ []) (reading : c.Reading r chunks.flatten) :
    (∃ left, c.receive chunks = some (.error .unicodeError, left) ∧ ¬r.IsText) ∨
      ∃ next, c.receive chunks = some (.ok next, []) ∧ next.InContent r [] := by
  induction chunks generalizing c with
  | nil =>
    have inside := reading.content_of_nil
    refine .inr ⟨c, ?_, inside⟩
    have whole : c.body = r.body := by simpa using inside.arrived
    simp [receive, inside.clen, whole]
  | cons chunk rest ih =>
    have more := reading.unfinished (by simp [nonempty chunk])
    rcases received_step reading with ⟨raised, bad⟩ | ⟨next, received, later⟩
    · exact .inl ⟨rest, by simp [receive, more, raised], bad⟩
    · have goesOn : c.receive (chunk :: rest) = next.receive rest := by
        simp [receive, more, received]
      rw [goesOn]
      exact ih (fun other member => nonempty other (by simp [member])) later

theorem reading_start (r : Response) : start.Reading r r.bytes :=
  .status ⟨rfl, rfl, by simp [start], rfl, rfl⟩

end Client

/-- What `get` answers for a response. -/
def Response.answer (r : Response) (path : String) : Except PyError Bytes :=
  if ¬r.IsText then .error .unicodeError
  else if r.status = 200 then .ok r.body
  else .error (.exception (errorMessage r.status path))

theorem answer_of_inContent {r : Response} {c : Client} (path : String)
    (inside : c.InContent r []) : answer path c = r.answer path := by
  have whole : c.body = r.body := by simpa using inside.arrived
  by_cases ok : r.status = 200
  · simp [answer, Response.answer, inside.text, inside.status, whole, ok]
  · have other : (r.status : Int) ≠ 200 := by omega
    simp [answer, Response.answer, inside.text, inside.status, ok, other]

/-- The pieces of a response are all taken, or a header line of it raises. -/
theorem receive_response {r : Response} {s : Socket} (cut : s.incoming.flatten = r.bytes)
    (nonempty : ∀ chunk ∈ s.incoming, chunk ≠ []) :
    (∃ left, Client.start.receive s.incoming = some (.error .unicodeError, left) ∧ ¬r.IsText) ∨
      ∃ next, Client.start.receive s.incoming = some (.ok next, []) ∧ next.InContent r [] := by
  refine Client.receive_reads nonempty ?_
  rw [cut]
  exact Client.reading_start r

/-- However a response is cut into pieces, `get` returns its body if its status is 200 and
its header lines are UTF-8 and raises an exception otherwise, and the socket is closed. -/
theorem get_reassembles (r : Response) (path : String) (s : Socket)
    (cut : s.incoming.flatten = r.bytes) (nonempty : ∀ chunk ∈ s.incoming, chunk ≠ []) :
    ∃ left, get path s = some (r.answer path, ⟨left, s.sent ++ [request path], true⟩) ∧
      (r.IsText → left = []) := by
  rcases receive_response cut nonempty with ⟨left, raised, bad⟩ | ⟨final, received, inside⟩
  · refine ⟨left, ?_, fun text => absurd text bad⟩
    simp [get, Socket.send, Socket.close, raised, Response.answer, bad, Except.bind]
  · refine ⟨[], ?_, fun _ => rfl⟩
    have same := answer_of_inContent path inside
    simp [get, Socket.send, Socket.close, received, same, Except.bind]

/-- `Content-length: 2` -/
def lengthLine : HeaderLine where
  name := encode "Content-length".toList
  value := [0x32]
  name_plain := by decide
  value_plain := by decide

theorem isContentLength_lengthLine : lengthLine.IsContentLength := by
  have decoded : decode lengthLine.name = some "Content-length".toList := decode_encode _
  rw [HeaderLine.IsContentLength, decoded]
  decide

theorem gives_lengthLine : lengthLine.Gives 2 :=
  ⟨['2'], decode_encode ['2'], by decide, List.all_eq_true.mp (by decide), by decide⟩

/-- `HTTP/1.0 200 OK` with a body of two bytes, its length and the other header lines. -/
def okResponse (others : List HeaderLine) (unrelated : ∀ h ∈ others, ¬h.IsContentLength) :
    Response where
  version := [0x30]
  code := [0x32, 0x30, 0x30]
  reason := [0x4f, 0x4b]
  headers := lengthLine :: others
  body := [0x7b, 0x7d]
  version_plain := by decide
  code_some := by decide
  code_digits := List.all_eq_true.mp (by decide)
  reason_some := by decide
  reason_plain := by decide
  length_given := ⟨_, List.mem_cons_self, isContentLength_lengthLine⟩
  length_right h member named := by
    rcases List.mem_cons.mp member with rfl | other
    · exact gives_lengthLine
    · exact absurd named (unrelated h other)

theorem isText_lengthLine : lengthLine.IsText := by
  have whole : decode lengthLine.line = some "Content-length: 2".toList :=
    decode_encode "Content-length: 2".toList
  rw [HeaderLine.IsText, whole]
  rfl

/-- The pieces are cut between a carriage return and its line feed. -/
theorem get_reassembles_okResponse :
    get "bootstrap" ⟨[(okResponse [] nofun).statusLine ++ [0x0d],
        0x0a :: (headerBytes [lengthLine] ++ [0x0d]), [0x0a, 0x7b, 0x7d]], [], false⟩ =
      some (.ok [0x7b, 0x7d], ⟨[], [request "bootstrap"], true⟩) := by
  obtain ⟨left, returned, all⟩ := get_reassembles (okResponse [] nofun) "bootstrap"
    ⟨[(okResponse [] nofun).statusLine ++ [0x0d], 0x0a :: (headerBytes [lengthLine] ++ [0x0d]),
      [0x0a, 0x7b, 0x7d]], [], false⟩ (by decide) (by simp [Response.statusLine])
  have text : (okResponse [] nofun).IsText := List.forall_mem_singleton.mpr isText_lengthLine
  rw [returned, all text, Response.answer, if_neg (not_not.mpr text)]
  rfl

/-- `Server: café` in Latin-1. -/
def latinLine : HeaderLine where
  name := [0x53, 0x65, 0x72, 0x76, 0x65, 0x72]
  value := [0x63, 0x61, 0x66, 0xe9]
  name_plain := by decide
  value_plain := by decide

theorem isContentLength_latinLine : ¬latinLine.IsContentLength := by
  have decoded : decode latinLine.name = some "Server".toList := decode_encode "Server".toList
  rw [HeaderLine.IsContentLength, decoded]
  decide

/-- A header line in Latin-1 raises although the status is 200. -/
theorem get_reassembles_fails : ¬∀ (r : Response) (path : String) (s : Socket),
    s.incoming.flatten = r.bytes → (∀ chunk ∈ s.incoming, chunk ≠ []) → r.status = 200 →
      ∃ after, get path s = some (.ok r.body, after) ∧ after.closed = true := by
  intro claim
  have unrelated : ∀ h ∈ [latinLine], ¬h.IsContentLength :=
    List.forall_mem_singleton.mpr isContentLength_latinLine
  have bad : ¬latinLine.IsText := by decide
  have whole : ([(okResponse [latinLine] unrelated).bytes]).flatten =
    (okResponse [latinLine] unrelated).bytes := List.flatten_singleton
  have nonempty : ∀ chunk ∈ [(okResponse [latinLine] unrelated).bytes], chunk ≠ [] := by
    simp [Response.bytes, Response.statusLine, crlf]
  obtain ⟨after, returned, -⟩ := claim (okResponse [latinLine] unrelated) "bootstrap"
    ⟨[(okResponse [latinLine] unrelated).bytes], [], false⟩ whole nonempty rfl
  rcases receive_response (s := ⟨[(okResponse [latinLine] unrelated).bytes], [], false⟩) whole
    nonempty with ⟨left, raised, -⟩ | ⟨final, -, inside⟩
  · rw [get] at returned
    simp [Socket.send, raised, Except.bind] at returned
  · exact bad (inside.text latinLine (List.mem_cons_of_mem _ List.mem_cons_self))

end TildaMk4.Bootstrap
