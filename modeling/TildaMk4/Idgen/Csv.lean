import Mathlib.Data.List.Basic

/-!
# The CSV reader

The `csv` module's reader for the default dialect with `skipinitialspace`: commas
separate fields, a field may be quoted, and a quoted field may go on over the end of
a line.
-/

namespace TildaMk4.Idgen

abbrev Text := List Char

inductive CsvState
  | startRecord
  | startField
  | inField
  | inQuotedField
  | quoteInQuotedField
  | eatCrnl
  deriving DecidableEq

/-- The reader inside a record. -/
structure CsvReader where
  state : CsvState
  field : Text
  fields : List Text

namespace CsvReader

def start : CsvReader := ⟨.startRecord, [], []⟩

variable (r : CsvReader)

def saveField : CsvReader := { r with field := [], fields := r.fields ++ [r.field] }

def addChar (c : Char) : CsvReader := { r with field := r.field ++ [c] }

def goTo (state : CsvState) : CsvReader := { r with state := state }

def isNewline (c : Char) : Bool := c = '\n' || c = '\r'

def processStartField (c : Char) : CsvReader :=
  if isNewline c then r.saveField.goTo .eatCrnl
  else if c = '"' then r.goTo .inQuotedField
  else if c = ' ' then r.goTo .startField
  else if c = ',' then r.saveField.goTo .startField
  else (r.addChar c).goTo .inField

/-- One character; `none` is an error. -/
def process (c : Char) : Option CsvReader :=
  match r.state with
  | .startRecord => if isNewline c then some (r.goTo .eatCrnl) else some (r.processStartField c)
  | .startField => some (r.processStartField c)
  | .inField =>
    if isNewline c then some (r.saveField.goTo .eatCrnl)
    else if c = ',' then some (r.saveField.goTo .startField)
    else some (r.addChar c)
  | .inQuotedField =>
    if c = '"' then some (r.goTo .quoteInQuotedField) else some (r.addChar c)
  | .quoteInQuotedField =>
    if c = '"' then some ((r.addChar c).goTo .inQuotedField)
    else if c = ',' then some (r.saveField.goTo .startField)
    else if isNewline c then some (r.saveField.goTo .eatCrnl)
    else some ((r.addChar c).goTo .inField)
  | .eatCrnl => if isNewline c then some r else none

/-- The end of a line. -/
def endLine : CsvReader :=
  match r.state with
  | .startRecord => r
  | .startField => r.saveField.goTo .startRecord
  | .inField => r.saveField.goTo .startRecord
  | .inQuotedField => r
  | .quoteInQuotedField => r.saveField.goTo .startRecord
  | .eatCrnl => r.goTo .startRecord

/-- The records of the lines that are left, the reader being inside a record. -/
def records : CsvReader → List Text → Option (List (List Text))
  | r, [] =>
    if r.field ≠ [] ∨ r.state = .inQuotedField then some [r.saveField.fields] else some []
  | r, line :: rest => do
    let read ← line.foldlM process r
    if read.endLine.state = .startRecord then
      return read.endLine.fields :: (← records start rest)
    else records read.endLine rest

end CsvReader

/-- `csv.reader(lines, skipinitialspace=True)`. -/
def csvRecords (lines : List Text) : Option (List (List Text)) := CsvReader.start.records lines

example : csvRecords ["Pin, 4,\"A,\"\"B\"\n".toList, "\n".toList] =
    some [["Pin".toList, ['4'], "A,\"B".toList], []] := by decide

end TildaMk4.Idgen
