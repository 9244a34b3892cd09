import Mathlib.Data.List.DropRight
import TildaMk4.Lib.FileTree

/-!
# The directories of a download

`split`, `dirname`, `exists` and `makedirs` of `bootstrap.py`, on a file system whose names
and refusals are parameters.
-/

namespace TildaMk4.Bootstrap

open FileTree

universe u v

abbrev Path := List Char

def slash : Char := '/'

/-- `path.rsplit("/", 1)`, where there is a slash. -/
def rsplit (path : Path) : Option (Path × Path) :=
  if slash ∈ path then
    some ((path.rdropWhile (· ≠ slash)).dropLast, path.rtakeWhile (· ≠ slash))
  else none

def split (path : Path) : Path × Path :=
  if path = [] then ([], [])
  else
    match rsplit path with
    | none => ([], path)
    | some (head, tail) => (if head = [] then [slash] else head, tail)

def dirname (path : Path) : Path := (split path).1

/-- How the file system reads a path: the directory in which relative paths begin, and the
name that a piece between slashes is, if it is one. -/
structure Naming (Name : Type u) where
  cwd : List Name
  name : Path → Option Name
  name_nil : name [] = none
  name_dots : name ['.'] = none ∧ name ['.', '.'] = none

namespace Naming

variable {Name : Type u} (naming : Naming Name)

/-- The pieces between the slashes, where all are names. -/
def names (path : Path) : Option (List Name) := (path.splitOn slash).mapM naming.name

/-- The names on the way to what a plain path is; `none` for a path with an empty piece,
with dots or with a piece that is no name. -/
def resolve (path : Path) : Option (List Name) :=
  if path = [] then some naming.cwd
  else if path = [slash] then some []
  else if path.head? = some slash then naming.names path.tail
  else (naming.names path).map (naming.cwd ++ ·)

end Naming

section Makedirs

variable {Name : Type u} {Content : Type v} (naming : Naming Name)

/-- `os.stat` answers. What the disk makes of a path that is not plain is left open; here
and below it refuses the path. -/
def exists_ (t : Tree Name Content) (path : Path) : Bool :=
  match naming.resolve path with
  | some p => (t p).isSome
  | none => false

variable [DecidableEq Name]

/-- `os.mkdir`; the disk refuses some of the directories. -/
def osMkdir (refused : List Name → Bool) (t : Tree Name Content) (path : Path) :
    Option (Tree Name Content) :=
  match naming.resolve path with
  | some p => if refused p then none else mkdir t p
  | none => none

/-- What an operation leaves, and whether it has returned or raised. -/
structure Attempt (Name : Type u) (Content : Type v) where
  tree : Tree Name Content
  returned : Bool

/-- The end of `makedirs`: `if not exists(path): os.mkdir(path)`. -/
def makeMissing (refused : List Name → Bool) (t : Tree Name Content) (path : Path) :
    Attempt Name Content :=
  if exists_ naming t path then ⟨t, true⟩
  else
    match osMkdir naming refused t path with
    | some t' => ⟨t', true⟩
    | none => ⟨t, false⟩

/-- `none` is a recursion deeper than the fuel. -/
def makedirs (refused : List Name → Bool) :
    Nat → Tree Name Content → Path → Option (Attempt Name Content)
  | 0, _, _ => none
  | fuel + 1, t, path =>
    let subPath := (split path).1
    let above :=
      if subPath ≠ [] ∧ !exists_ naming t subPath then makedirs refused fuel t subPath
      else some ⟨t, true⟩
    match above with
    | none => none
    | some ended =>
      some (if ended.returned then makeMissing naming refused ended.tree path else ended)

end Makedirs

section Split

variable {path : Path}

/-- What `rsplit` cuts is put together by a slash, and the last piece has none. -/
theorem rsplit_eq_some {head tail : Path} (cut : rsplit path = some (head, tail)) :
    path = head ++ slash :: tail ∧ slash ∉ tail := by
  unfold rsplit at cut
  split at cut
  next member =>
    cases cut
    have fresh : slash ∉ path.rtakeWhile (· ≠ slash) := by
      intro inside
      simpa using List.mem_rtakeWhile_imp inside
    refine ⟨?_, fresh⟩
    have whole := List.rdropWhile_append_rtakeWhile (p := (· ≠ slash)) (l := path)
    have front : path.rdropWhile (· ≠ slash) ≠ [] := by
      intro none_
      rw [none_, List.nil_append] at whole
      exact fresh (whole.symm ▸ member)
    have last := List.rdropWhile_last_not (· ≠ slash) path front
    have ends : (path.rdropWhile (· ≠ slash)).dropLast ++ [slash] =
        path.rdropWhile (· ≠ slash) := by
      have same := List.dropLast_append_getLast front
      rwa [show (path.rdropWhile (· ≠ slash)).getLast front = slash by simpa using last] at same
    calc path = path.rdropWhile (· ≠ slash) ++ path.rtakeWhile (· ≠ slash) := whole.symm
      _ = (path.rdropWhile (· ≠ slash)).dropLast ++ [slash] ++ path.rtakeWhile (· ≠ slash) := by
        rw [ends]
      _ = _ := by rw [List.append_assoc, List.singleton_append]
  next => cases cut

theorem length_split (other : path ≠ [slash]) (some_ : path ≠ []) :
    (split path).1.length < path.length := by
  unfold split
  rw [if_neg some_]
  split
  next => exact List.length_pos_iff.mpr some_
  next head tail cut =>
    obtain ⟨rfl, _⟩ := rsplit_eq_some cut
    by_cases top : head = []
    · subst top
      cases tail with
      | nil => exact absurd rfl other
      | cons c tail => simp
    · simp [top]

variable {Name : Type u} (naming : Naming Name)

theorem resolve_nil : naming.resolve [] = some naming.cwd := rfl

theorem resolve_slash : naming.resolve [slash] = some [] := rfl

theorem names_of_notMem {piece : Path} (fresh : slash ∉ piece) :
    naming.names piece = (naming.name piece).map ([·]) := by
  rw [Naming.names, List.splitOn_eq_singleton fresh]
  cases named : naming.name piece <;> simp [named]

/-- The last piece is a name of its own. -/
theorem names_append {head tail : Path} {p : List Name} (fresh : slash ∉ tail)
    (named : naming.names (head ++ slash :: tail) = some p) :
    ∃ above name, naming.names head = some above ∧ naming.name tail = some name ∧
      p = above ++ [name] := by
  rw [Naming.names, List.splitOn_append_cons_self, List.splitOn_eq_singleton fresh,
    List.mapM_append] at named
  obtain ⟨above, front, rest⟩ := Option.bind_eq_some_iff.mp named
  obtain ⟨last, back, same⟩ := Option.bind_eq_some_iff.mp rest
  cases tailName : naming.name tail with
  | none => simp [tailName] at back
  | some name =>
    obtain rfl : [name] = last := by simpa [tailName] using back
    exact ⟨above, name, front, rfl, (Option.some.inj same).symm⟩

theorem resolve_of_notMem {path : Path} (some_ : path ≠ []) (fresh : slash ∉ path) :
    naming.resolve path = (naming.name path).map fun name => naming.cwd ++ [name] := by
  have other : path ≠ [slash] := fun same => fresh (same ▸ List.mem_singleton_self slash)
  have relative : path.head? ≠ some slash := fun first => fresh (List.mem_of_mem_head? first)
  rw [Naming.resolve, if_neg some_, if_neg other, if_neg relative, names_of_notMem naming fresh,
    Option.map_map]
  rfl

theorem resolve_append {head tail : Path} {p : List Name} (some_ : head ≠ [])
    (fresh : slash ∉ tail) (resolved : naming.resolve (head ++ slash :: tail) = some p) :
    ∃ above name, naming.resolve head = some above ∧ p = above ++ [name] := by
  obtain ⟨first, rest, rfl⟩ := List.exists_cons_of_ne_nil some_
  unfold Naming.resolve at resolved ⊢
  rw [if_neg (by simp), if_neg (by simp)] at resolved
  rw [if_neg some_]
  by_cases absolute : first = slash
  · subst absolute
    rw [List.cons_append, List.head?_cons, if_pos rfl, List.tail_cons] at resolved
    obtain ⟨above, name, front, -, rfl⟩ := names_append naming fresh resolved
    cases rest with
    | nil => simp [Naming.names, naming.name_nil] at front
    | cons next others => exact ⟨above, name, by simpa using front, rfl⟩
  · have relative : (first :: rest).head? ≠ some slash := fun same =>
      absolute (Option.some.inj same)
    have other : first :: rest ≠ [slash] := fun same => absolute (List.cons.inj same).1
    rw [List.cons_append, List.head?_cons, ← List.head?_cons (l := rest), if_neg relative] at resolved
    obtain ⟨q, whole, rfl⟩ := Option.map_eq_some_iff.mp resolved
    have pieces : naming.names ((first :: rest) ++ slash :: tail) = some q := whole
    obtain ⟨above, name, front, -, rfl⟩ := names_append naming fresh pieces
    rw [if_neg other, if_neg relative, front]
    exact ⟨naming.cwd ++ above, name, rfl, (List.append_assoc ..).symm⟩

/-- A plain path is a plain directory and at most one name in it. -/
theorem resolve_split {path : Path} {p : List Name} (resolved : naming.resolve path = some p) :
    ∃ above, ∃ last : Option Name, naming.resolve (split path).1 = some above ∧
      p = above ++ last.toList := by
  unfold split
  split
  next nil =>
    subst nil
    exact ⟨p, none, resolved, (List.append_nil p).symm⟩
  next some_ =>
    split
    next whole =>
      have fresh : slash ∉ path := by
        intro member
        simp [rsplit, member] at whole
      rw [resolve_of_notMem naming some_ fresh] at resolved
      obtain ⟨name, -, rfl⟩ := Option.map_eq_some_iff.mp resolved
      exact ⟨naming.cwd, some name, rfl, rfl⟩
    next head tail cut =>
      obtain ⟨rfl, fresh⟩ := rsplit_eq_some cut
      by_cases top : head = []
      · subst top
        rw [if_pos rfl]
        cases tail with
        | nil =>
          obtain rfl := Option.some.inj resolved
          exact ⟨[], none, rfl, rfl⟩
        | cons c tail =>
          rw [List.nil_append, Naming.resolve, if_neg (by simp), if_neg (by simp),
            List.head?_cons, if_pos rfl, List.tail_cons, names_of_notMem naming fresh] at resolved
          obtain ⟨name, -, rfl⟩ := Option.map_eq_some_iff.mp resolved
          exact ⟨[], some name, rfl, rfl⟩
      · obtain ⟨above, name, front, rfl⟩ := resolve_append naming top fresh resolved
        rw [if_neg top]
        exact ⟨above, some name, front, rfl⟩

end Split

section Specification

variable {Name : Type u} {Content : Type v} {refused : List Name → Bool}
  {t t' : Tree Name Content} {p : List Name}

/-- Nothing is in the way of a directory: what is missing is not refused, and no file has
to be a directory. -/
def Buildable (refused : List Name → Bool) (t : Tree Name Content) (p : List Name) : Prop :=
  ∀ q, q <+: p → (t q = none → refused q = false) ∧ ∀ content, t q = some (.file content) → q = p

/-- What `makedirs` does for a directory. -/
structure Made (refused : List Name → Bool) (t : Tree Name Content) (p : List Name)
    (ended : Attempt Name Content) : Prop where
  wellFormed : WellFormed ended.tree
  extends_ : Extends t ended.tree
  added : ∀ q, t q = none → ended.tree q ≠ none → q <+: p ∧ refused q = false
  returned_iff : ended.returned = true ↔ Buildable refused t p
  present : ended.returned = true → ended.tree p ≠ none

theorem Buildable.of_prefix {above : List Name} (free : Buildable refused t p)
    (front : above <+: p) : Buildable refused t above := by
  intro q inside
  refine ⟨(free q (inside.trans front)).1, fun content file => ?_⟩
  obtain rfl := (free q (inside.trans front)).2 content file
  exact inside.eq_of_length_le front.length_le

variable (refused) in
theorem buildable_of_present (wf : WellFormed t) (present : t p ≠ none) :
    Buildable refused t p := by
  rintro q ⟨rest, rfl⟩
  by_cases last : rest = []
  · subst last
    rw [List.append_nil] at present ⊢
    exact ⟨fun none_ => absurd none_ present, fun _ _ => rfl⟩
  · have dir := wf.above q last present
    exact ⟨fun none_ => absurd (none_.symm.trans dir) (by simp),
      fun content file => absurd (file.symm.trans dir) (by simp)⟩

/-- Directories that could be added do not change what can be built. -/
theorem buildable_iff (extends_ : Extends t t')
    (allowed : ∀ q, t q = none → t' q ≠ none → refused q = false) :
    Buildable refused t p ↔ Buildable refused t' p := by
  constructor
  · intro free q inside
    refine ⟨fun none_ => (free q inside).1 ?_, fun content file => ?_⟩
    · by_contra some_
      exact some_ (extends_.kept q some_ ▸ none_)
    · exact (free q inside).2 content ((extends_.file_iff q content).mp file)
  · intro free q inside
    refine ⟨fun none_ => ?_, fun content file => ?_⟩
    · by_cases still : t' q = none
      · exact (free q inside).1 still
      · exact allowed q none_ still
    · exact (free q inside).2 content ((extends_.file_iff q content).mpr file)

variable (naming : Naming Name)

variable {naming} in
theorem exists_iff {path : Path} (resolved : naming.resolve path = some p) :
    exists_ naming t path = true ↔ t p ≠ none := by
  rw [exists_, resolved]
  exact Option.isSome_iff_ne_none

variable [DecidableEq Name]

variable {naming} in
theorem osMkdir_eq {path : Path} (resolved : naming.resolve path = some p) :
    osMkdir naming refused t path = if refused p then none else mkdir t p := by
  rw [osMkdir, resolved]

variable {naming} in
variable (refused) in
/-- The last step, where what is above the path exists. -/
theorem makeMissing_made (wf : WellFormed t) {path : Path} {above : List Name}
    {last : Option Name} (resolved : naming.resolve path = some (above ++ last.toList))
    (exists_above : t above ≠ none) :
    Made refused t (above ++ last.toList) (makeMissing naming refused t path) := by
  unfold makeMissing
  split
  next present =>
    rw [exists_iff resolved] at present
    exact ⟨wf, .refl t, fun q none_ some_ => absurd none_ some_,
      iff_of_true rfl (buildable_of_present refused wf present), fun _ => present⟩
  next missing =>
    rw [exists_iff resolved, not_not] at missing
    cases last with
    | none => exact absurd (List.append_nil above ▸ missing) exists_above
    | some name =>
      have parent : (above ++ [name]).dropLast = above := List.dropLast_concat
      rw [Option.toList_some] at resolved missing ⊢
      rw [osMkdir_eq resolved]
      split
      next t' made =>
        split at made
        next => cases made
        next allowed =>
          obtain ⟨_, dir, _, _⟩ := mkdir_eq_some made
          refine ⟨wf.mkdir made, extends_mkdir made, fun q none_ some_ => ?_, iff_of_true rfl ?_,
            fun _ => by simp [mkdir_self made]⟩
          · by_cases same : q = above ++ [name]
            · subst same
              exact ⟨List.prefix_refl _, Bool.eq_false_iff.mpr allowed⟩
            · exact absurd ((mkdir_of_ne made same).trans none_) some_
          · intro q inside
            by_cases same : q = above ++ [name]
            · subst same
              exact ⟨fun _ => Bool.eq_false_iff.mpr allowed, fun _ _ => rfl⟩
            · rw [List.prefix_concat_iff] at inside
              have free := buildable_of_present refused wf exists_above q
                (inside.resolve_left same)
              refine ⟨free.1, fun content file => ?_⟩
              obtain rfl := free.2 content file
              rw [parent, file] at dir
              cases dir
      next made =>
        refine ⟨wf, .refl t, fun q none_ some_ => absurd none_ some_,
          iff_of_false Bool.false_ne_true ?_, fun returned => absurd returned Bool.false_ne_true⟩
        intro free
        have allowed := (free _ (List.prefix_refl _)).1 missing
        have dir : t (above ++ [name]).dropLast = some .dir := by
          rw [parent]
          rcases found : t above with _ | _ | content
          · exact absurd found exists_above
          · rfl
          · have same := (free _ (List.prefix_append _ _)).2 content found
            rw [← same] at missing
            exact absurd missing exists_above
        obtain ⟨t', done⟩ := mkdir_isSome (by simp) dir missing
        simp [allowed, done] at made

variable (refused) in
/-- `makedirs` ends for every plain path: with the fuel for each of its characters it comes
to an attempt that adds missing directories on the way, and returns if nothing is in the
way. -/
theorem makedirs_made (wf : WellFormed t) (cwd : t naming.cwd = some .dir) (bound : Nat) :
    ∀ (path : Path) (p : List Name), naming.resolve path = some p → path.length ≤ bound →
      ∃ attempt : Attempt Name Content,
        (∀ fuel, path.length < fuel → makedirs naming refused fuel t path = some attempt) ∧
          Made refused t p attempt := by
  induction bound with
  | zero =>
    intro path p resolved short
    obtain rfl := List.length_eq_zero_iff.mp (Nat.le_zero.mp short)
    obtain rfl := Option.some.inj resolved
    have top : t naming.cwd ≠ none := by
      rw [cwd]
      simp
    have start : naming.resolve [] = some (naming.cwd ++ (none : Option Name).toList) := by
      rw [resolve_nil, Option.toList_none, List.append_nil]
    have made := makeMissing_made refused wf start top
    rw [Option.toList_none, List.append_nil] at made
    refine ⟨_, fun fuel enough => ?_, made⟩
    obtain ⟨fuel, rfl⟩ := Nat.exists_eq_add_of_lt enough
    simp [makedirs, split]
  | succ bound ih =>
    intro path p resolved short
    obtain ⟨above, last, front, rfl⟩ := resolve_split naming resolved
    by_cases recursive : (split path).1 ≠ [] ∧ !exists_ naming t (split path).1
    · have missing : t above = none := by
        have absent := recursive.2
        simpa [exists_, front] using absent
      have shorter : (split path).1.length < path.length := by
        apply length_split
        · rintro rfl
          obtain rfl : [] = above := Option.some.inj ((resolve_slash naming).symm.trans front)
          exact absurd (missing.symm.trans wf.root) (by simp)
        · rintro rfl
          exact recursive.1 rfl
      obtain ⟨attempt, run, made⟩ := ih (split path).1 above front (by omega)
      have unfolded (fuel : Nat) (enough : path.length < fuel) :
          makedirs naming refused fuel t path = some
            (if attempt.returned then makeMissing naming refused attempt.tree path
              else attempt) := by
        obtain ⟨fuel, rfl⟩ := Nat.exists_eq_succ_of_ne_zero (Nat.ne_zero_of_lt enough)
        simp only [makedirs, if_pos recursive, run fuel (by omega)]
      have inside : above <+: above ++ last.toList := List.prefix_append ..
      refine ⟨_, unfolded, ?_⟩
      by_cases returned : attempt.returned = true
      · rw [if_pos returned]
        have done := makeMissing_made refused made.wellFormed resolved (made.present returned)
        refine ⟨done.wellFormed, made.extends_.trans done.extends_, ?_, ?_, done.present⟩
        · intro q none_ some_
          by_cases early : attempt.tree q = none
          · exact done.added q early some_
          · exact ⟨(made.added q none_ early).1.trans inside, (made.added q none_ early).2⟩
        · rw [done.returned_iff]
          exact (buildable_iff made.extends_ fun q none_ some_ =>
            (made.added q none_ some_).2).symm
      · rw [if_neg returned]
        refine ⟨made.wellFormed, made.extends_, ?_, ?_, fun yes => absurd yes returned⟩
        · intro q none_ some_
          exact ⟨(made.added q none_ some_).1.trans inside, (made.added q none_ some_).2⟩
        · refine iff_of_false returned fun free => returned (made.returned_iff.mpr ?_)
          exact Buildable.of_prefix free inside
    · have present : t above ≠ none := by
        by_cases top : (split path).1 = []
        · rw [top, resolve_nil] at front
          rw [← Option.some.inj front, cwd]
          simp
        · rw [← exists_iff front]
          by_contra no
          exact recursive ⟨top, by simpa using no⟩
      refine ⟨_, fun fuel enough => ?_, makeMissing_made refused wf resolved present⟩
      obtain ⟨fuel, rfl⟩ := Nat.exists_eq_succ_of_ne_zero (Nat.ne_zero_of_lt enough)
      simp only [makedirs, if_neg recursive, if_true]

/-- Where a path exists, `makedirs` has nothing to do. -/
theorem makedirs_present (wf : WellFormed t) {path : Path} (resolved : naming.resolve path = some p)
    (present : t p ≠ none) {fuel : Nat} (enough : path.length < fuel) :
    makedirs naming refused fuel t path = some ⟨t, true⟩ := by
  have found' : exists_ naming t path = true := (exists_iff resolved).mpr present
  obtain ⟨above, last, front, rfl⟩ := resolve_split naming resolved
  have above_ : t above ≠ none := by
    by_cases none_ : last.toList = []
    · rwa [none_, List.append_nil] at present
    · rw [wf.above _ none_ present]
      simp
  have found : exists_ naming t (split path).1 = true := (exists_iff front).mpr above_
  obtain ⟨fuel, rfl⟩ := Nat.exists_eq_succ_of_ne_zero (Nat.ne_zero_of_lt enough)
  simp [makedirs, makeMissing, found, found']

/-- `makedirs` ends for every plain path, adds only directories that are missing on the way,
returns exactly if nothing is in the way, and does nothing the next time. -/
theorem makedirs_exact (wf : WellFormed t) (cwd : t naming.cwd = some .dir) (path : Path)
    (plain : naming.resolve path = some p) :
    ∃ attempt : Attempt Name Content,
      (∀ fuel, path.length < fuel → makedirs naming refused fuel t path = some attempt) ∧
        Made refused t p attempt ∧
        (attempt.returned = true → ∀ fuel, path.length < fuel →
          makedirs naming refused fuel attempt.tree path = some ⟨attempt.tree, true⟩) := by
  obtain ⟨attempt, run, made⟩ := makedirs_made refused naming wf cwd path.length path p plain
    (Nat.le_refl _)
  exact ⟨attempt, run, made, fun returned fuel =>
    makedirs_present naming made.wellFormed plain (made.present returned)⟩

/-- Every piece between slashes is a name, but for the empty one and dots. -/
def plainNaming : Naming Path where
  cwd := []
  name piece := if piece = [] ∨ piece = ['.'] ∨ piece = ['.', '.'] then none else some piece
  name_nil := rfl
  name_dots := ⟨rfl, rfl⟩

/-- Nothing but the root. -/
def emptyTree (p : List Path) : Option (Node Unit) := if p = [] then some .dir else none

theorem wellFormed_emptyTree : WellFormed emptyTree :=
  ⟨rfl, fun p name some_ => absurd (if_neg (by simp)) some_⟩

theorem makedirs_exact_nested :
    ∃ attempt : Attempt Path Unit,
      (∀ fuel, 6 < fuel →
        makedirs plainNaming (fun _ => false) fuel emptyTree "lib/ui".toList = some attempt) ∧
        Made (fun _ => false) emptyTree ["lib".toList, "ui".toList] attempt ∧
        (attempt.returned = true → ∀ fuel, 6 < fuel →
          makedirs plainNaming (fun _ => false) fuel attempt.tree "lib/ui".toList =
            some ⟨attempt.tree, true⟩) :=
  makedirs_exact plainNaming wellFormed_emptyTree rfl "lib/ui".toList rfl

end Specification

end TildaMk4.Bootstrap
