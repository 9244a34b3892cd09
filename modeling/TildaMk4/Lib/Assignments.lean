import Mathlib.Data.List.AList
import Mathlib.Data.Finset.Dedup
import Mathlib.Data.Finset.Card

/-!
# Dictionaries filled by assignments

A later assignment to a key replaces an earlier one, so that the dictionary keeps all
of the assignments only when those to one key agree.
-/

namespace TildaMk4.Assignments

universe u v w

variable {Key : Type u} {Value : Type v} [DecidableEq Key]

abbrev Dict (Key : Type u) (Value : Type v) := AList fun _ : Key => Value

/-- The assignments `d[key] = value`, one after the other. -/
def assignAll (d : Dict Key Value) (items : List (Key × Value)) : Dict Key Value :=
  items.foldl (fun d item => d.insert item.1 item.2) d

theorem mem_assignAll {items : List (Key × Value)} {d : Dict Key Value} {key : Key} :
    key ∈ assignAll d items ↔ key ∈ d ∨ key ∈ items.map Prod.fst := by
  induction items generalizing d with
  | nil => simp [assignAll]
  | cons item rest ih =>
    have later := ih (d := d.insert item.1 item.2)
    simp only [assignAll, List.foldl_cons, List.map_cons, List.mem_cons] at later ⊢
    rw [later, AList.mem_insert, or_comm (a := key = item.1), or_assoc]

theorem lookup_assignAll {items : List (Key × Value)} {d : Dict Key Value} {key : Key}
    {value : Value} (found : (assignAll d items).lookup key = some value) :
    d.lookup key = some value ∨ (key, value) ∈ items := by
  induction items generalizing d with
  | nil => exact .inl found
  | cons item rest ih =>
    rcases ih found with before | later
    · by_cases same : key = item.1
      · rw [same, AList.lookup_insert] at before
        apply Or.inr
        simp [same, ← Option.some.inj before]
      · rw [AList.lookup_insert_ne same] at before
        exact .inl before
    · exact .inr (List.mem_cons_of_mem _ later)

theorem card_assignAll (items : List (Key × Value)) :
    (assignAll (∅ : Dict Key Value) items).keys.length = (items.map Prod.fst).dedup.length := by
  have same : (assignAll (∅ : Dict Key Value) items).keys.toFinset =
      (items.map Prod.fst).toFinset := by
    ext key
    rw [List.mem_toFinset, List.mem_toFinset, ← AList.mem_keys, mem_assignAll]
    simp
  have card := congrArg Finset.card same
  rwa [List.toFinset_card_of_nodup (AList.keys_nodup _), List.card_toFinset] at card

/-- Every assignment is kept, up to what `read` sees of its value, exactly if the
assignments to one key agree. -/
theorem kept_iff_agree {Seen : Type w} (read : Value → Seen) (items : List (Key × Value)) :
    (∀ item ∈ items, ∃ value,
        (assignAll ∅ items).lookup item.1 = some value ∧ read value = read item.2) ↔
      ∀ item ∈ items, ∀ other ∈ items, item.1 = other.1 → read item.2 = read other.2 := by
  constructor
  · intro kept item member other among same
    obtain ⟨value, found, seen⟩ := kept item member
    obtain ⟨value', found', seen'⟩ := kept other among
    rw [same] at found
    have agree : value = value' := Option.some.inj (found.symm.trans found')
    rw [← seen, ← seen', agree]
  · intro agree item member
    have present : item.1 ∈ assignAll (∅ : Dict Key Value) items :=
      mem_assignAll.mpr (.inr (List.mem_map_of_mem member))
    obtain ⟨value, found⟩ := Option.isSome_iff_exists.mp (AList.lookup_isSome.mpr present)
    refine ⟨value, found, ?_⟩
    rcases lookup_assignAll found with nothing | among
    · cases nothing
    · exact (agree item member _ among rfl).symm

section Nested

variable {Outer : Type w} [DecidableEq Outer]

/-- `d[outer][key] = value`, where a missing `d[outer]` is created. -/
def assignIn (d : Dict Outer (Dict Key Value)) (outer : Outer) (key : Key) (value : Value) :
    Dict Outer (Dict Key Value) :=
  d.insert outer (((d.lookup outer).getD ∅).insert key value)

def assignAllIn (d : Dict Outer (Dict Key Value)) (items : List (Outer × Key × Value)) :
    Dict Outer (Dict Key Value) :=
  items.foldl (fun d item => assignIn d item.1 item.2.1 item.2.2) d

/-- The assignments below one outer key. -/
def below (outer : Outer) (items : List (Outer × Key × Value)) : List (Key × Value) :=
  items.filterMap fun item => if item.1 = outer then some item.2 else none

omit [DecidableEq Key] in
theorem mem_below {outer : Outer} {items : List (Outer × Key × Value)} {item : Key × Value} :
    item ∈ below outer items ↔ (outer, item) ∈ items := by
  simp only [below, List.mem_filterMap, Option.ite_none_right_eq_some, Option.some.injEq]
  constructor
  · rintro ⟨⟨first, second⟩, member, rfl, rfl⟩
    exact member
  · intro member
    exact ⟨_, member, rfl, rfl⟩

theorem mem_assignAllIn {items : List (Outer × Key × Value)} {d : Dict Outer (Dict Key Value)}
    {outer : Outer} : outer ∈ assignAllIn d items ↔ outer ∈ d ∨ outer ∈ items.map Prod.fst := by
  induction items generalizing d with
  | nil => simp [assignAllIn]
  | cons item rest ih =>
    have later := ih (d := assignIn d item.1 item.2.1 item.2.2)
    simp only [assignAllIn, List.foldl_cons, List.map_cons, List.mem_cons] at later ⊢
    rw [later, assignIn, AList.mem_insert, or_comm (a := outer = item.1), or_assoc]

/-- The dictionary below an outer key is filled by the assignments below it. -/
theorem lookup_assignAllIn {items : List (Outer × Key × Value)} {d : Dict Outer (Dict Key Value)}
    (outer : Outer) : ((assignAllIn d items).lookup outer).getD ∅ =
      assignAll ((d.lookup outer).getD ∅) (below outer items) := by
  induction items generalizing d with
  | nil => rfl
  | cons item rest ih =>
    have later := ih (d := assignIn d item.1 item.2.1 item.2.2)
    simp only [assignAllIn, List.foldl_cons] at later ⊢
    rw [later]
    by_cases same : item.1 = outer
    · subst same
      simp [assignIn, below, assignAll]
    · have other : outer ≠ item.1 := fun equal => same equal.symm
      simp [assignIn, below, same, AList.lookup_insert_ne other]

theorem eq_of_lookup_assignAllIn {items : List (Outer × Key × Value)} {outer : Outer}
    {inner : Dict Key Value} (found : (assignAllIn ∅ items).lookup outer = some inner) :
    inner = assignAll ∅ (below outer items) := by
  have filled : ((assignAllIn ∅ items).lookup outer).getD ∅ =
      assignAll (((∅ : Dict Outer (Dict Key Value)).lookup outer).getD ∅) (below outer items) :=
    lookup_assignAllIn outer
  simpa [found] using filled

theorem lookup_assignAllIn_of_mem {items : List (Outer × Key × Value)} {outer : Outer}
    {item : Key × Value} (member : item ∈ below outer items) :
    (assignAllIn ∅ items).lookup outer = some (assignAll ∅ (below outer items)) := by
  have present : outer ∈ assignAllIn (∅ : Dict Outer (Dict Key Value)) items :=
    mem_assignAllIn.mpr (.inr (List.mem_map_of_mem (mem_below.mp member)))
  obtain ⟨inner, found⟩ := Option.isSome_iff_exists.mp (AList.lookup_isSome.mpr present)
  rw [found, eq_of_lookup_assignAllIn found]

end Nested

end TildaMk4.Assignments
