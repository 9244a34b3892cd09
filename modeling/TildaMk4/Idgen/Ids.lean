import TildaMk4.Idgen.MappingGen

/-!
# When the generated ids are consistent

A name is a key of a dictionary, so the rows that share one leave one entry, and the
`COUNT` of a class is the number of its distinct names. The ids are sorted as `int`
reads them and written as they stand in the file, so C has to read them the same.
-/

namespace TildaMk4.Idgen

open Assignments Text MappingGen

/-- The digits of a constant of C; those behind a leading zero are octal. -/
def cDigits : List Char → Option Nat
  | '0' :: rest =>
    if rest.all fun d => '0' ≤ d && d ≤ '7' then
      some (rest.foldl (fun n d => 8 * n + (d.toNat - 48)) 0)
    else none
  | digits => parseNat digits

/-- What C reads where `int` reads an integer. -/
def cConstant (id : Text) : Option Int :=
  match strip id with
  | '-' :: digits => (cDigits digits).map fun n => -n
  | '+' :: digits => (cDigits digits).map fun n => n
  | digits => (cDigits digits).map fun n => n

/-- An id as `int` and as C read it. -/
def readings (id : Text) : Int × Option Int := (idValue id, cConstant id)

/-- C reads the integer, and it is an index into a table of `count` entries. -/
structure Indexes (id : Text) (count : Nat) : Prop where
  plain : cConstant id = some (idValue id)
  nonnegative : 0 ≤ idValue id
  below : idValue id < count

theorem Indexes.of_readings {id other : Text} {count : Nat} (indexes : Indexes id count)
    (same : readings id = readings other) : Indexes other count := by
  obtain ⟨value, constant⟩ := Prod.mk.inj same
  obtain ⟨plain, nonnegative, below⟩ := indexes
  rw [value] at plain nonnegative below
  exact ⟨constant.symm.trans plain, nonnegative, below⟩

/-- What a user of the generated constants relies on. -/
structure Consistent (rows : List Row) (out : Generated) : Prop where
  cnames : ∀ row ∈ rows, ∃ block ∈ out.enums, block.cls = row.cls ∧
    ∃ entry ∈ block.entries, entry.1 = row.cname ∧ readings entry.2 = readings row.id
  names : ∀ row ∈ rows, ∀ name ∈ row.qstrNames, ∃ block ∈ out.macros, block.cls = row.cls ∧
    ∃ entry ∈ block.entries, entry.1 = name ∧ readings entry.2 = readings row.id
  counts : ∀ block ∈ out.enums, (∀ entry ∈ block.entries, Indexes entry.2 block.count) ∧
    ∀ other ∈ out.macros, other.cls = block.cls →
      ∀ entry ∈ other.entries, Indexes entry.2 block.count

/-- The cnames of a class, each once. -/
def distinctCnames (rows : List Row) (cls : Text) : List Text :=
  ((rows.filter fun row => row.cls = cls).map Row.cname).dedup

/-- In a class, rows that share a name have the same id, and the ids are indices below
the number of distinct cnames. -/
structure Indexable (rows : List Row) : Prop where
  cnames : ∀ row ∈ rows, ∀ other ∈ rows, row.cls = other.cls → row.cname = other.cname →
    readings row.id = readings other.id
  names : ∀ row ∈ rows, ∀ other ∈ rows, row.cls = other.cls →
    ∀ name ∈ row.qstrNames, name ∈ other.qstrNames → readings row.id = readings other.id
  counts : ∀ row ∈ rows, Indexes row.id (distinctCnames rows row.cls).length

/-- The assignments to `self.enum` and to `self.qstr`. -/
def enumItems (rows : List Row) : List (Text × Text × Text) :=
  rows.map fun row => (row.cls, row.cname, row.id)

def qstrItems (rows : List Row) : List (Text × Text × Text) :=
  rows.flatMap fun row => row.qstrNames.map fun name => (row.cls, name, row.id)

theorem enum_foldl_readRow (rows : List Row) (gen : MappingGen) :
    (rows.foldl readRow gen).enum = assignAllIn gen.enum (enumItems rows) := by
  induction rows generalizing gen with
  | nil => rfl
  | cons row rest ih =>
    rw [List.foldl_cons, ih]
    rfl

theorem qstr_foldl_readRow (rows : List Row) (gen : MappingGen) :
    (rows.foldl readRow gen).qstr = assignAllIn gen.qstr (qstrItems rows) := by
  induction rows generalizing gen with
  | nil => rfl
  | cons row rest ih =>
    rw [List.foldl_cons, ih]
    simp [assignAllIn, qstrItems, readRow, List.foldl_map]

theorem mem_below_enumItems {rows : List Row} {cls : Text} {item : Text × Text} :
    item ∈ below cls (enumItems rows) ↔
      ∃ row ∈ rows, row.cls = cls ∧ item = (row.cname, row.id) := by
  simp only [mem_below, enumItems, List.mem_map, Prod.mk.injEq]
  constructor
  · rintro ⟨row, member, rfl, same⟩
    exact ⟨row, member, rfl, same.symm⟩
  · rintro ⟨row, member, rfl, same⟩
    exact ⟨row, member, rfl, same.symm⟩

theorem mem_below_qstrItems {rows : List Row} {cls : Text} {item : Text × Text} :
    item ∈ below cls (qstrItems rows) ↔
      ∃ row ∈ rows, row.cls = cls ∧ ∃ name ∈ row.qstrNames, item = (name, row.id) := by
  simp only [mem_below, qstrItems, List.mem_flatMap, List.mem_map, Prod.mk.injEq]
  constructor
  · rintro ⟨row, member, name, among, rfl, same⟩
    exact ⟨row, member, rfl, name, among, same.symm⟩
  · rintro ⟨row, member, rfl, name, among, same⟩
    exact ⟨row, member, name, among, rfl, same.symm⟩

theorem length_below_enumItems (rows : List Row) (cls : Text) :
    ((below cls (enumItems rows)).map Prod.fst).dedup = distinctCnames rows cls := by
  unfold distinctCnames below enumItems
  congr 1
  induction rows with
  | nil => rfl
  | cons row rest ih =>
    by_cases same : row.cls = cls
    · simpa [same] using ih
    · simpa [same] using ih

theorem mem_sortedItems {vals : Dict Text Text} {entry : Text × Text} :
    entry ∈ sortedItems vals ↔ vals.lookup entry.1 = some entry.2 := by
  obtain ⟨name, id⟩ := entry
  rw [sortedItems, List.mem_mergeSort, ← Option.mem_def, AList.mem_lookup_iff]
  simp only [items, List.mem_map, Prod.mk.injEq]
  constructor
  · rintro ⟨⟨_, _⟩, member, rfl, rfl⟩
    exact member
  · intro member
    exact ⟨_, member, rfl, rfl⟩

/-- A name of a class has an id in a dictionary of classes. -/
def Emits (classes : Dict Text (Dict Text Text)) (cls name id : Text) : Prop :=
  ∃ vals, classes.lookup cls = some vals ∧ vals.lookup name = some id

theorem mem_of_emits {items : List (Text × Text × Text)} {cls name id : Text}
    (emits : Emits (assignAllIn ∅ items) cls name id) : (name, id) ∈ below cls items := by
  obtain ⟨vals, found, entry⟩ := emits
  rw [eq_of_lookup_assignAllIn found] at entry
  rcases lookup_assignAll entry with nothing | member
  · cases nothing
  · exact member

/-- The assignments of a class all show in the dictionary exactly if they agree. -/
theorem emits_iff_agree (items : List (Text × Text × Text)) (cls : Text) :
    (∀ item ∈ below cls items, ∃ id, Emits (assignAllIn ∅ items) cls item.1 id ∧
        readings id = readings item.2) ↔
      ∀ item ∈ below cls items, ∀ other ∈ below cls items, item.1 = other.1 →
        readings item.2 = readings other.2 := by
  rw [← kept_iff_agree readings (below cls items)]
  constructor
  · intro all item member
    obtain ⟨id, ⟨vals, found, entry⟩, same⟩ := all item member
    rw [eq_of_lookup_assignAllIn found] at entry
    exact ⟨id, entry, same⟩
  · intro all item member
    obtain ⟨id, entry, same⟩ := all item member
    exact ⟨id, ⟨_, lookup_assignAllIn_of_mem member, entry⟩, same⟩

/-- The blocks of the rows, before they are written. -/
def generatedOf (rows : List Row) : Generated where
  macros := (assignAllIn ∅ (qstrItems rows) : Dict Text (Dict Text Text)).entries.map fun entry =>
    ⟨entry.1, sortedItems entry.2⟩
  enums := (assignAllIn ∅ (enumItems rows) : Dict Text (Dict Text Text)).entries.map fun entry =>
    ⟨entry.1, sortedItems entry.2, entry.2.keys.length⟩

theorem mem_macros {rows : List Row} {cls name id : Text} :
    (∃ block ∈ (generatedOf rows).macros, block.cls = cls ∧ (name, id) ∈ block.entries) ↔
      Emits (assignAllIn ∅ (qstrItems rows)) cls name id := by
  simp only [generatedOf, List.mem_map]
  constructor
  · rintro ⟨_, ⟨⟨_, vals⟩, member, rfl⟩, rfl, entry⟩
    exact ⟨vals, AList.mem_lookup_iff.mpr member, mem_sortedItems.mp entry⟩
  · rintro ⟨vals, found, entry⟩
    exact ⟨_, ⟨⟨cls, vals⟩, AList.mem_lookup_iff.mp found, rfl⟩, rfl, mem_sortedItems.mpr entry⟩

theorem mem_enums {rows : List Row} {block : EnumBlock} :
    block ∈ (generatedOf rows).enums ↔ ∃ vals,
      (assignAllIn ∅ (enumItems rows) : Dict Text (Dict Text Text)).lookup block.cls = some vals ∧
        block.entries = sortedItems vals ∧ block.count = vals.keys.length := by
  obtain ⟨cls, entries, count⟩ := block
  simp only [generatedOf, List.mem_map, EnumBlock.mk.injEq]
  constructor
  · rintro ⟨⟨_, vals⟩, member, rfl, rfl, rfl⟩
    exact ⟨vals, AList.mem_lookup_iff.mpr member, rfl, rfl⟩
  · rintro ⟨vals, found, rfl, rfl⟩
    exact ⟨⟨cls, vals⟩, AList.mem_lookup_iff.mp found, rfl, rfl, rfl⟩

theorem count_eq {rows : List Row} {cls : Text} {vals : Dict Text Text}
    (found : (assignAllIn ∅ (enumItems rows)).lookup cls = some vals) :
    vals.keys.length = (distinctCnames rows cls).length := by
  rw [eq_of_lookup_assignAllIn found, card_assignAll, length_below_enumItems]

theorem integerIds_assignAllIn {items : List (Text × Text × Text)}
    (integers : ∀ item ∈ items, (parseInt item.2.2).isSome = true) :
    integerIds (assignAllIn ∅ items) = true := by
  simp only [integerIds, List.all_eq_true]
  intro ⟨cls, vals⟩ member ⟨name, id⟩ entry
  have found := AList.mem_lookup_iff.mpr member
  have sorted : (name, id) ∈ sortedItems vals := List.mem_mergeSort.mpr entry
  have assigned := mem_of_emits ⟨vals, found, mem_sortedItems.mp sorted⟩
  exact integers _ (mem_below.mp assigned)

theorem generate_rows (pfx : Text) (cmods : Text → Option Text) {rows : List Row}
    (integers : ∀ row ∈ rows, (parseInt row.id).isSome = true) :
    (rows.foldl readRow (init pfx cmods)).generate = some (generatedOf rows) := by
  have enum := enum_foldl_readRow rows (init pfx cmods)
  have qstr := qstr_foldl_readRow rows (init pfx cmods)
  have enumIntegers : integerIds (assignAllIn ∅ (enumItems rows)) = true := by
    apply integerIds_assignAllIn
    intro item member
    obtain ⟨row, among, rfl⟩ := List.mem_map.mp member
    exact integers row among
  have qstrIntegers : integerIds (assignAllIn ∅ (qstrItems rows)) = true := by
    apply integerIds_assignAllIn
    intro item member
    obtain ⟨row, among, named⟩ := List.mem_flatMap.mp member
    obtain ⟨name, _, rfl⟩ := List.mem_map.mp named
    exact integers row among
  simp only [generate, enum, qstr]
  exact if_pos (Bool.and_eq_true_iff.mpr ⟨qstrIntegers, enumIntegers⟩)

section Rows

variable {rows : List Row}

theorem cnames_iff :
    (∀ row ∈ rows, ∃ id, Emits (assignAllIn ∅ (enumItems rows)) row.cls row.cname id ∧
        readings id = readings row.id) ↔
      ∀ row ∈ rows, ∀ other ∈ rows, row.cls = other.cls → row.cname = other.cname →
        readings row.id = readings other.id := by
  constructor
  · intro all row member other among sameCls sameName
    have agree := (emits_iff_agree (enumItems rows) row.cls).mp fun item assigned => by
      obtain ⟨row', member', cls, rfl⟩ := mem_below_enumItems.mp assigned
      exact cls ▸ all row' member'
    exact agree (row.cname, row.id) (mem_below_enumItems.mpr ⟨row, member, rfl, rfl⟩)
      (other.cname, other.id) (mem_below_enumItems.mpr ⟨other, among, sameCls.symm, rfl⟩) sameName
  · intro agree row member
    refine (emits_iff_agree (enumItems rows) row.cls).mpr ?_ (row.cname, row.id)
      (mem_below_enumItems.mpr ⟨row, member, rfl, rfl⟩)
    intro item assigned item' assigned' same
    obtain ⟨first, memberFirst, cls, rfl⟩ := mem_below_enumItems.mp assigned
    obtain ⟨second, memberSecond, cls', rfl⟩ := mem_below_enumItems.mp assigned'
    exact agree first memberFirst second memberSecond (cls.trans cls'.symm) same

theorem names_iff :
    (∀ row ∈ rows, ∀ name ∈ row.qstrNames,
        ∃ id, Emits (assignAllIn ∅ (qstrItems rows)) row.cls name id ∧
          readings id = readings row.id) ↔
      ∀ row ∈ rows, ∀ other ∈ rows, row.cls = other.cls →
        ∀ name ∈ row.qstrNames, name ∈ other.qstrNames → readings row.id = readings other.id := by
  constructor
  · intro all row member other among sameCls name named named'
    have agree := (emits_iff_agree (qstrItems rows) row.cls).mp fun item assigned => by
      obtain ⟨row', member', cls, name', named', rfl⟩ := mem_below_qstrItems.mp assigned
      exact cls ▸ all row' member' name' named'
    exact agree (name, row.id) (mem_below_qstrItems.mpr ⟨row, member, rfl, name, named, rfl⟩)
      (name, other.id) (mem_below_qstrItems.mpr ⟨other, among, sameCls.symm, name, named', rfl⟩) rfl
  · intro agree row member name named
    refine (emits_iff_agree (qstrItems rows) row.cls).mpr ?_ (name, row.id)
      (mem_below_qstrItems.mpr ⟨row, member, rfl, name, named, rfl⟩)
    intro item assigned item' assigned' same
    obtain ⟨first, memberFirst, cls, name, named, rfl⟩ := mem_below_qstrItems.mp assigned
    obtain ⟨second, memberSecond, cls', name', named', rfl⟩ := mem_below_qstrItems.mp assigned'
    obtain rfl : name = name' := same
    exact agree first memberFirst second memberSecond (cls.trans cls'.symm) name named named'

theorem Consistent.emits_cname (consistent : Consistent rows (generatedOf rows)) :
    ∀ row ∈ rows, ∃ id, Emits (assignAllIn ∅ (enumItems rows)) row.cls row.cname id ∧
      readings id = readings row.id := by
  intro row member
  obtain ⟨block, among, cls, ⟨_, id⟩, entry, rfl, same⟩ := consistent.cnames row member
  obtain ⟨vals, found, entries, _⟩ := mem_enums.mp among
  refine ⟨id, ⟨vals, cls ▸ found, ?_⟩, same⟩
  exact mem_sortedItems.mp (entries ▸ entry)

theorem Consistent.indexable (consistent : Consistent rows (generatedOf rows)) :
    Indexable rows where
  cnames := cnames_iff.mp consistent.emits_cname
  names := names_iff.mp fun row member name named => by
    obtain ⟨block, among, cls, ⟨_, id⟩, entry, rfl, same⟩ := consistent.names row member name named
    exact ⟨id, mem_macros.mp ⟨block, among, cls, entry⟩, same⟩
  counts row member := by
    obtain ⟨block, among, cls, ⟨_, id⟩, entry, rfl, same⟩ := consistent.cnames row member
    obtain ⟨vals, found, entries, count⟩ := mem_enums.mp among
    have indexes := ((consistent.counts block among).1 _ entry).of_readings same
    rwa [count, count_eq found, cls] at indexes

theorem Indexable.consistent (indexable : Indexable rows) :
    Consistent rows (generatedOf rows) where
  cnames row member := by
    obtain ⟨id, ⟨vals, found, entry⟩, same⟩ := cnames_iff.mpr indexable.cnames row member
    exact ⟨⟨row.cls, sortedItems vals, vals.keys.length⟩, mem_enums.mpr ⟨vals, found, rfl, rfl⟩, rfl,
      (row.cname, id), mem_sortedItems.mpr entry, rfl, same⟩
  names row member name named := by
    obtain ⟨id, emits, same⟩ := names_iff.mpr indexable.names row member name named
    obtain ⟨block, among, cls, entry⟩ := mem_macros.mpr emits
    exact ⟨block, among, cls, (name, id), entry, rfl, same⟩
  counts block among := by
    obtain ⟨vals, found, entries, count⟩ := mem_enums.mp among
    rw [count, count_eq found]
    constructor
    · rintro ⟨name, id⟩ entry
      rw [entries] at entry
      have assigned := mem_of_emits ⟨vals, found, mem_sortedItems.mp entry⟩
      obtain ⟨row, member, cls, same⟩ := mem_below_enumItems.mp assigned
      obtain ⟨rfl, rfl⟩ := Prod.mk.inj same
      exact cls ▸ indexable.counts row member
    · rintro other member cls ⟨name, id⟩ entry
      have emits : Emits (assignAllIn ∅ (qstrItems rows)) block.cls name id :=
        mem_macros.mp ⟨other, member, cls, entry⟩
      obtain ⟨row, member, cls, name', _, same⟩ := mem_below_qstrItems.mp (mem_of_emits emits)
      obtain ⟨rfl, rfl⟩ := Prod.mk.inj same
      exact cls ▸ indexable.counts row member

end Rows

/-- What is generated from a CSV file with integer ids is consistent exactly if its rows
are indexable. -/
theorem generate_consistent_iff (pfx : Text) (cmods : Text → Option Text) (dfile : List Text)
    (rows : List Row) (accepted : readRows dfile = some rows)
    (integers : ∀ row ∈ rows, (parseInt row.id).isSome = true) :
    ∃ out, ((init pfx cmods).read dfile).bind generate = some out ∧
      (Consistent rows out ↔ Indexable rows) := by
  refine ⟨generatedOf rows, ?_, Consistent.indexable, Indexable.consistent⟩
  simp [MappingGen.read, accepted, generate_rows pfx cmods integers]

def ledLines : List Text :=
  ["Pin,0,GPIO_LED1,LED1\n".toList, "# the other\n".toList, "Pin,1,GPIO_LED2,LED2\n".toList]

def ledRows : List Row :=
  [⟨"Pin".toList, ['0'], "GPIO_LED1".toList, "LED1".toList, none⟩,
    ⟨"Pin".toList, ['1'], "GPIO_LED2".toList, "LED2".toList, none⟩]

theorem generate_consistent_iff_leds :
    ∃ out, ((init [] fun _ => none).read ledLines).bind generate = some out ∧
      (Consistent ledRows out ↔ Indexable ledRows) :=
  generate_consistent_iff [] (fun _ => none) ledLines ledRows rfl (by decide)

/-- The lines of the board's file for the pins 34 and 35. -/
def sharedLines : List Text :=
  ["Pin,34,GPIO_CH4,GPIO_CH3\n".toList, "Pin,35,GPIO_CH4,GPIO_CH4\n".toList]

def sharedRows : List Row :=
  [⟨"Pin".toList, "34".toList, "GPIO_CH4".toList, "GPIO_CH3".toList, none⟩,
    ⟨"Pin".toList, "35".toList, "GPIO_CH4".toList, "GPIO_CH4".toList, none⟩]

/-- Two rows with one cname leave one enumerator, which has the id of the later row. -/
theorem generate_consistent_fails :
    ¬ ∀ (pfx : Text) (cmods : Text → Option Text) (dfile : List Text) (rows : List Row),
      readRows dfile = some rows → (∀ row ∈ rows, (parseInt row.id).isSome = true) →
      ∃ out, ((init pfx cmods).read dfile).bind generate = some out ∧ Consistent rows out := by
  intro always
  have accepted : readRows sharedLines = some sharedRows := rfl
  have integers : ∀ row ∈ sharedRows, (parseInt row.id).isSome = true := by decide
  obtain ⟨out, generated, consistent⟩ :=
    always [] (fun _ => none) sharedLines sharedRows accepted integers
  have whole := generate_rows [] (fun _ => none) integers
  simp only [MappingGen.read, accepted, Option.map_some, Option.bind_some, whole] at generated
  obtain rfl := Option.some.inj generated
  have equal := consistent.indexable.cnames _ (List.mem_cons_self ..) _
    (List.mem_cons_of_mem _ (List.mem_cons_self ..)) rfl rfl
  exact absurd (congrArg Prod.fst equal) (by decide)

end TildaMk4.Idgen
