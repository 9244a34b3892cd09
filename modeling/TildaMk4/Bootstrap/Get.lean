import TildaMk4.Lib.Text

/-!
# The HTTP client of the bootstrap

`get` of `bootstrap.py`, from the request on: a socket that hands out the response
in pieces, and the three states in which the loop takes them up.
-/

namespace TildaMk4.Bootstrap

open Text

abbrev Bytes := List UInt8

def host : String := "badgeserver.emfcamp.org"

/-- The exceptions that leave `get`. -/
inductive PyError
  | exception (message : String)
  | indexError
  | keyError
  | valueError
  | unicodeError
  | typeError
  deriving DecidableEq

/-- A connected socket; each `recv` takes the next piece of `incoming`. -/
structure Socket where
  incoming : List Bytes
  sent : List String
  closed : Bool
  deriving DecidableEq

def Socket.send (s : Socket) (request : String) : Socket := { s with sent := s.sent ++ [request] }

def Socket.close (s : Socket) : Socket := { s with closed := true }

/-- The values 1, 2 and 3 of `state`. -/
inductive Stage
  | status
  | headers
  | content
  deriving DecidableEq

/-- The local variables of `get` between two calls of `recv`. -/
structure Client where
  state : Stage
  hbuf : Bytes
  status : Option Int
  clen : Int
  headers : List Char → Option (List Char)
  body : Bytes

namespace Client

def start : Client where
  state := .status
  hbuf := []
  status := none
  clen := 9999999
  headers := fun _ => none
  body := []

variable (c : Client)

/-- `buf.find(b"\n")`. -/
def newline (buf : Bytes) : Option Nat := buf.idxOf? 0x0a

/-- The characters that `int` reads in bytes. -/
def characters (bytes : Bytes) : List Char := bytes.map fun b => Char.ofNat b.toNat

/-- `int(hbuf.split(b' ')[1])`. -/
def statusCode (hbuf : Bytes) : Except PyError Int :=
  match (hbuf.splitOn 0x20)[1]? with
  | none => .error .indexError
  | some code =>
    match parseInt (characters code) with
    | none => .error .valueError
    | some status => .ok status

/-- The block for state 1: the next state and what is left in `buf`. -/
def readStatus (buf : Bytes) : Except PyError (Client × Bytes) :=
  match newline buf with
  | none => .ok ({ c with hbuf := c.hbuf ++ buf }, buf)
  | some nl =>
    -- for a line feed that comes first this is `buf[:-1]`
    match statusCode (c.hbuf ++ upTo buf (nl - 1)) with
    | .error e => .error e
    | .ok status =>
      .ok ({ c with status := some status, state := .headers, hbuf := [] }, buf.drop (nl + 1))

/-- `headers[header[0].strip().lower()] = header[1].strip()` for one line. -/
def addHeader (line : Bytes) : Except PyError Client :=
  match decode line with
  | none => .error .unicodeError
  | some text =>
    match splitMax ':' 3 text with
    | name :: value :: _ =>
      .ok { c with headers := Function.update c.headers (lower (strip name)) (some (strip value)) }
    | _ => .error .indexError

/-- The key `"content-length"`. -/
def contentLength : List Char := "content-length".toList

/-- The end of the headers: `clen` is set, and the rest of `hbuf` is content. -/
def endHeaders : Except PyError (Client × Bytes) :=
  match c.headers contentLength with
  | none => .error .keyError
  | some text =>
    match parseInt text with
    | none => .error .valueError
    | some clen => .ok ({ c with state := .content, clen := clen, hbuf := [] }, c.hbuf.drop 2)

theorem newline_lt {buf : Bytes} {nl : Nat} (found : newline buf = some nl) : nl < buf.length := by
  obtain ⟨inside, _⟩ := List.idxOf?_eq_some_iff.mp found
  exact inside

/-- The loop over the lines in `hbuf`. -/
def readHeaders (c : Client) (buf : Bytes) : Except PyError (Client × Bytes) :=
  match _found : newline c.hbuf with
  | none => .ok (c, buf)
  | some nl =>
    if nl < 2 then c.endHeaders
    else
      match c.addHeader (upTo c.hbuf (nl - 1)) with
      | .error e => .error e
      | .ok next => readHeaders { next with hbuf := c.hbuf.drop (nl + 1) } buf
termination_by c.hbuf.length
decreasing_by
  have inside := newline_lt _found
  simp only [List.length_drop]
  omega

def statusBlock (buf : Bytes) : Except PyError (Client × Bytes) :=
  if c.state = .status then c.readStatus buf else .ok (c, buf)

def headersBlock (buf : Bytes) : Except PyError (Client × Bytes) :=
  if c.state = .headers then readHeaders { c with hbuf := c.hbuf ++ buf } buf else .ok (c, buf)

def contentBlock (buf : Bytes) : Client :=
  if c.state = .content then { c with body := c.body ++ buf } else c

/-- One round of the loop of `get`, for the piece that `recv` returned. -/
def received (buf : Bytes) : Except PyError Client :=
  match c.statusBlock buf with
  | .error e => .error e
  | .ok (c, buf) =>
    match c.headersBlock buf with
    | .error e => .error e
    | .ok (c, buf) => .ok (c.contentBlock buf)

/-- The loop of `get`, and the pieces that it leaves; `none` when it waits for a
piece that does not come. -/
def receive (c : Client) : List Bytes → Option (Except PyError Client × List Bytes)
  | [] => if c.body.length < c.clen then none else some (.ok c, [])
  | buf :: rest =>
    if c.body.length < c.clen then
      match c.received buf with
      | .error e => some (.error e, rest)
      | .ok next => receive next rest
    else some (.ok c, buf :: rest)

end Client

def request (path : String) : String := s!"GET /2018/{path} HTTP/1.0\r\nHost: {host}\r\n\r\n"

def errorMessage (status : Int) (path : String) : String := s!"HTTP {status} for {path}"

/-- What follows the `finally`. -/
def answer (path : String) (c : Client) : Except PyError Bytes :=
  match c.status with
  | none => .error .typeError
  | some status =>
    if status ≠ 200 then .error (.exception (errorMessage status path)) else .ok c.body

/-- `get` on a connected socket: what it returns or raises, and the socket afterwards. -/
def get (path : String) (s : Socket) : Option (Except PyError Bytes × Socket) :=
  match Client.start.receive (s.send (request path)).incoming with
  | none => none
  | some (result, rest) =>
    some (result.bind (answer path), { s.send (request path) with incoming := rest }.close)

end TildaMk4.Bootstrap
