import TildaMk4.Idgen.Csv
import TildaMk4.Lib.Assignments
import TildaMk4.Lib.Text

/-!
# The id generator

`MappingGen` of `idgen.py`: the rows of a CSV file become constants for MicroPython
and enumerations for C. The texts are written from the blocks that `generate` collects.
-/

namespace TildaMk4.Idgen

open Assignments Text

/-- A row with at least the first three of its fields. -/
structure Row where
  cls : Text
  id : Text
  cname : Text
  mpname : Option Text
  alias_ : Option Text

namespace Row

/-- What `DictReader` makes of a record; with fewer fields `int(None)` fails later on. -/
def ofRecord : List Text → Option Row
  | cls :: id :: cname :: rest => some ⟨cls, id, cname, rest[0]?, rest[1]?⟩
  | _ => none

variable (row : Row)

/-- The entries of `self.qstr[row["class"]]` that the row sets. -/
def qstrNames : List Text :=
  match row.mpname with
  | none => []
  | some mpname =>
    match row.alias_ with
    | none => [mpname]
    | some alias_ => [mpname, alias_]

end Row

/-- The lines that do not start with `#`, as rows; empty records are skipped. -/
def readRows (dfile : List Text) : Option (List Row) := do
  let records ← csvRecords (dfile.filter fun line => line.head? ≠ some '#')
  (records.filter fun record => record ≠ []).mapM Row.ofRecord

structure MappingGen where
  pfx : Text
  cmods : Text → Option Text
  qstr : Dict Text (Dict Text Text)
  enum : Dict Text (Dict Text Text)

/-- The constants of one class. -/
structure MacroBlock where
  cls : Text
  entries : List (Text × Text)

/-- The enumeration of one class, which ends in its `COUNT`. -/
structure EnumBlock where
  cls : Text
  entries : List (Text × Text)
  count : Nat

structure Generated where
  macros : List MacroBlock
  enums : List EnumBlock

namespace MappingGen

def init (pfx : Text) (cmods : Text → Option Text) : MappingGen := ⟨pfx, cmods, ∅, ∅⟩

variable (gen : MappingGen)

def readRow (row : Row) : MappingGen :=
  { gen with
    qstr := row.qstrNames.foldl (fun qstr name => assignIn qstr row.cls name row.id) gen.qstr
    enum := assignIn gen.enum row.cls row.cname row.id }

def read (dfile : List Text) : Option MappingGen :=
  (readRows dfile).map fun rows => rows.foldl readRow gen

/-- `int(x[1])` for an id that is an integer. -/
def idValue (id : Text) : Int := (parseInt id).getD 0

def items (vals : Dict Text Text) : List (Text × Text) :=
  vals.entries.map fun entry => (entry.1, entry.2)

/-- `sorted(vals.items(), key=lambda x: int(x[1]))`. -/
def sortedItems (vals : Dict Text Text) : List (Text × Text) :=
  (items vals).mergeSort fun x y => idValue x.2 ≤ idValue y.2

/-- No `int` in `generate` raises. -/
def integerIds (classes : Dict Text (Dict Text Text)) : Bool :=
  classes.entries.all fun entry => (items entry.2).all fun item => (parseInt item.2).isSome

def generate : Option Generated :=
  if integerIds gen.qstr && integerIds gen.enum then
    some {
      macros := gen.qstr.entries.map fun entry => ⟨entry.1, sortedItems entry.2⟩
      enums := gen.enum.entries.map fun entry =>
        ⟨entry.1, sortedItems entry.2, entry.2.keys.length⟩ }
  else none

end MappingGen

/-- A block as `generate` writes it. -/
def MacroBlock.text (block : MacroBlock) : Text :=
  "#define MACHINE_".toList ++ block.cls.map Char.toUpper ++ "_IDS \\\n".toList ++
    (block.entries.flatMap fun entry =>
      "    \x7b MP_ROM_QSTR(MP_QSTR_".toList ++ entry.1 ++ "), MP_ROM_INT(".toList ++ entry.2 ++
        ") \x7d, \\\n".toList) ++
    "    // no more\n\n".toList

def EnumBlock.text (gen : MappingGen) (block : EnumBlock) : Text :=
  let pfx := if gen.pfx = [] then [] else gen.pfx ++ ['_']
  let cmod := (gen.cmods block.cls).getD block.cls
  "typedef enum ".toList ++ pfx ++ cmod ++ "Name \x7b\n".toList ++
    (block.entries.flatMap fun entry =>
      "    ".toList ++ pfx ++ entry.1 ++ " = ".toList ++ entry.2 ++ ",\n".toList) ++
    "    ".toList ++ pfx ++ cmod ++ "COUNT = ".toList ++ (toString block.count).toList ++
    "\n\x7d ".toList ++ pfx ++ cmod ++ "Name;\n\n".toList

/-- The two texts that `generate` returns. -/
def Generated.texts (gen : MappingGen) (out : Generated) : Text × Text :=
  (out.macros.flatMap MacroBlock.text, out.enums.flatMap (EnumBlock.text gen))

end TildaMk4.Idgen
