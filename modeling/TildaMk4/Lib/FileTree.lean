import Mathlib.Data.List.Induction
import Mathlib.Logic.Function.Basic

/-!
# Trees of directories and files

A tree maps a path, the list of its names, to nothing, a directory or a file; the empty path is
the root. An operation that the file system refuses gives `none`.
-/

namespace TildaMk4.FileTree

universe u v

inductive Node (Content : Type v)
  | dir
  | file (content : Content)
  deriving DecidableEq

abbrev Tree (Name : Type u) (Content : Type v) := List Name → Option (Node Content)

variable {Name : Type u} {Content : Type v}

def isDir : Option (Node Content) → Bool
  | some .dir => true
  | _ => false

theorem isDir_iff {node : Option (Node Content)} : isDir node = true ↔ node = some .dir := by
  rcases node with _ | _ | content <;> simp [isDir]

/-- What exists lies in a directory. -/
structure WellFormed (t : Tree Name Content) : Prop where
  root : t [] = some .dir
  parent : ∀ p name, t (p ++ [name]) ≠ none → t p = some .dir

/-- Everything above what exists is a directory. -/
theorem WellFormed.above {t : Tree Name Content} (wf : WellFormed t) (p : List Name) :
    ∀ {below : List Name}, below ≠ [] → t (p ++ below) ≠ none → t p = some .dir := by
  intro below
  induction below using List.reverseRecOn with
  | nil => exact fun nonempty => absurd rfl nonempty
  | append_singleton below name ih =>
    intro _ exists_
    have parent := wf.parent (p ++ below) name (by rwa [List.append_assoc])
    by_cases last : below = []
    · rwa [last, List.append_nil] at parent
    · exact ih last (parent ▸ Option.some_ne_none _)

/-- Nothing has changed but for new directories. -/
structure Extends (t t' : Tree Name Content) : Prop where
  kept : ∀ p, t p ≠ none → t' p = t p
  added : ∀ p, t p = none → t' p = none ∨ t' p = some .dir

namespace Extends

variable {t t' t'' : Tree Name Content}

theorem refl (t : Tree Name Content) : Extends t t := ⟨fun _ _ => rfl, fun _ none_ => .inl none_⟩

theorem trans (first : Extends t t') (second : Extends t' t'') : Extends t t'' where
  kept p some_ := (second.kept p (first.kept p some_ ▸ some_)).trans (first.kept p some_)
  added p none_ := by
    rcases first.added p none_ with still | dir
    · exact second.added p still
    · exact .inr ((second.kept p (dir ▸ Option.some_ne_none _)).trans dir)

theorem file_iff (extends_ : Extends t t') (p : List Name) (content : Content) :
    t' p = some (.file content) ↔ t p = some (.file content) := by
  constructor
  · intro file
    by_cases none_ : t p = none
    · rcases extends_.added p none_ with still | dir
      · cases file.symm.trans still
      · cases file.symm.trans dir
    · exact (extends_.kept p none_).symm.trans file
  · exact fun file => (extends_.kept p (file ▸ Option.some_ne_none _)).trans file

end Extends

/-- Directories stay, and but for what is touched nothing has changed except for new ones. -/
structure Changes (touched : List Name → Prop) (t t' : Tree Name Content) : Prop where
  dirs : ∀ p, t p = some .dir → t' p = some .dir
  kept : ∀ p, ¬touched p → t p ≠ none → t' p = t p
  added : ∀ p, ¬touched p → t p = none → t' p = none ∨ t' p = some .dir

namespace Changes

variable {touched touched' : List Name → Prop} {t t' t'' : Tree Name Content}

theorem refl (touched : List Name → Prop) (t : Tree Name Content) : Changes touched t t :=
  ⟨fun _ dir => dir, fun _ _ _ => rfl, fun _ _ none_ => .inl none_⟩

theorem trans (first : Changes touched t t') (second : Changes touched t' t'') :
    Changes touched t t'' where
  dirs p dir := second.dirs p (first.dirs p dir)
  kept p spared some_ := by
    have same := first.kept p spared some_
    exact (second.kept p spared (same ▸ some_)).trans same
  added p spared none_ := by
    rcases first.added p spared none_ with still | dir
    · exact second.added p spared still
    · exact .inr (second.dirs p dir)

theorem mono (changes : Changes touched t t') (more : ∀ p, touched p → touched' p) :
    Changes touched' t t' where
  dirs := changes.dirs
  kept p spared := changes.kept p fun inside => spared (more p inside)
  added p spared := changes.added p fun inside => spared (more p inside)

theorem file (changes : Changes touched t t') {p : List Name} {content : Content}
    (spared : ¬touched p) (file : t p = some (.file content)) : t' p = some (.file content) :=
  (changes.kept p spared (file ▸ Option.some_ne_none _)).trans file

end Changes

theorem Extends.changes {t t' : Tree Name Content} (extends_ : Extends t t')
    (touched : List Name → Prop) : Changes touched t t' where
  dirs p dir := (extends_.kept p (dir ▸ Option.some_ne_none _)).trans dir
  kept p _ := extends_.kept p
  added p _ := extends_.added p

def IsFile (t : Tree Name Content) (p : List Name) : Prop := ∃ content, t p = some (.file content)

/-- Changes that remove nothing: what is touched may be a file that is new or written anew. -/
structure Rewrites (touched : List Name → Prop) (t t' : Tree Name Content) : Prop
    extends Changes touched t t' where
  files : ∀ p, IsFile t p → IsFile t' p
  wellFormed : WellFormed t → WellFormed t'

namespace Rewrites

variable {touched touched' : List Name → Prop} {t t' t'' : Tree Name Content}

theorem refl (touched : List Name → Prop) (t : Tree Name Content) : Rewrites touched t t :=
  ⟨.refl touched t, fun _ file => file, id⟩

theorem trans (first : Rewrites touched t t') (second : Rewrites touched t' t'') :
    Rewrites touched t t'' :=
  ⟨first.toChanges.trans second.toChanges, fun p file => second.files p (first.files p file),
    fun wf => second.wellFormed (first.wellFormed wf)⟩

theorem mono (rewrites : Rewrites touched t t') (more : ∀ p, touched p → touched' p) :
    Rewrites touched' t t' :=
  ⟨rewrites.toChanges.mono more, rewrites.files, rewrites.wellFormed⟩

end Rewrites

theorem Extends.rewrites {t t' : Tree Name Content} (extends_ : Extends t t')
    (wf : WellFormed t') (touched : List Name → Prop) : Rewrites touched t t' :=
  ⟨extends_.changes touched,
    fun p file => file.imp fun content held => (extends_.file_iff p content).mpr held,
    fun _ => wf⟩

section Operations

variable [DecidableEq Name]

def mkdir (t : Tree Name Content) (p : List Name) : Option (Tree Name Content) :=
  if p ≠ [] ∧ isDir (t p.dropLast) ∧ (t p).isNone then
    some (Function.update t p (some .dir))
  else none

/-- A file that is new or truncated, open for writing. -/
def create (t : Tree Name Content) (p : List Name) (empty : Content) :
    Option (Tree Name Content) :=
  if p ≠ [] ∧ isDir (t p.dropLast) ∧ !isDir (t p) then
    some (Function.update t p (some (.file empty)))
  else none

/-- What is written to the open file. -/
def write (t : Tree Name Content) (p : List Name) (content : Content) : Tree Name Content :=
  Function.update t p (some (.file content))

def remove (t : Tree Name Content) (p : List Name) : Option (Tree Name Content) :=
  match t p with
  | some (.file _) => some (Function.update t p none)
  | _ => none

variable {t t' : Tree Name Content} {p : List Name}

theorem mkdir_eq_some (made : mkdir t p = some t') :
    p ≠ [] ∧ t p.dropLast = some .dir ∧ t p = none ∧ t' = Function.update t p (some .dir) := by
  unfold mkdir at made
  split at made
  next allowed =>
    cases made
    exact ⟨allowed.1, isDir_iff.mp allowed.2.1, Option.isNone_iff_eq_none.mp allowed.2.2, rfl⟩
  next => cases made

theorem mkdir_self (made : mkdir t p = some t') : t' p = some .dir := by
  obtain ⟨_, _, _, rfl⟩ := mkdir_eq_some made
  exact Function.update_self ..

theorem mkdir_of_ne (made : mkdir t p = some t') {q : List Name} (other : q ≠ p) : t' q = t q := by
  obtain ⟨_, _, _, rfl⟩ := mkdir_eq_some made
  exact Function.update_of_ne other _ _

theorem extends_mkdir (made : mkdir t p = some t') : Extends t t' := by
  obtain ⟨_, _, none_, _⟩ := mkdir_eq_some made
  constructor
  · intro q some_
    exact mkdir_of_ne made fun same => some_ (same ▸ none_)
  · intro q nothing
    by_cases same : q = p
    · exact .inr (same ▸ mkdir_self made)
    · exact .inl ((mkdir_of_ne made same).trans nothing)

/-- A directory is made unless its parent is none, or its path is taken. -/
theorem mkdir_isSome (nonempty : p ≠ []) (parent : t p.dropLast = some .dir) (none_ : t p = none) :
    ∃ t', mkdir t p = some t' :=
  ⟨_, if_pos ⟨nonempty, isDir_iff.mpr parent, Option.isNone_iff_eq_none.mpr none_⟩⟩

theorem WellFormed.mkdir (wf : WellFormed t) (made : mkdir t p = some t') : WellFormed t' := by
  obtain ⟨nonempty, parent, none_, rfl⟩ := mkdir_eq_some made
  constructor
  · rw [Function.update_of_ne nonempty.symm]
    exact wf.root
  · intro q name exists_
    by_cases new : q ++ [name] = p
    · subst new
      rw [List.dropLast_concat] at parent
      rw [Function.update_of_ne (by simp), parent]
    · rw [Function.update_of_ne new] at exists_
      have dir := wf.parent q name exists_
      have other : q ≠ p := fun same => by rw [same, none_] at dir; cases dir
      rw [Function.update_of_ne other, dir]

/-- What is put in the place of no directory touches nothing else. -/
theorem changes_update (noDir : t p ≠ some .dir) (node : Option (Node Content)) :
    Changes (· = p) t (Function.update t p node) where
  dirs q dir := by
    have other : q ≠ p := fun same => noDir (same ▸ dir)
    rwa [Function.update_of_ne other]
  kept q other _ := Function.update_of_ne other _ _
  added q other none_ := .inl ((Function.update_of_ne other _ _).trans none_)

theorem create_eq_some {empty : Content} (made : create t p empty = some t') :
    p ≠ [] ∧ t p.dropLast = some .dir ∧ t p ≠ some .dir ∧
      t' = Function.update t p (some (.file empty)) := by
  unfold create at made
  split at made
  next allowed =>
    cases made
    refine ⟨allowed.1, isDir_iff.mp allowed.2.1, fun dir => ?_, rfl⟩
    rw [dir] at allowed
    exact absurd allowed.2.2 Bool.false_ne_true
  next => cases made

/-- A file may take the place of whatever is no directory. -/
theorem WellFormed.update_file (wf : WellFormed t) (nonempty : p ≠ [])
    (parent : t p.dropLast = some .dir) (noDir : t p ≠ some .dir) (content : Content) :
    WellFormed (Function.update t p (some (.file content))) := by
  constructor
  · rw [Function.update_of_ne nonempty.symm]
    exact wf.root
  · intro q name exists_
    by_cases changed : q ++ [name] = p
    · subst changed
      rw [List.dropLast_concat] at parent
      rw [Function.update_of_ne (by simp), parent]
    · rw [Function.update_of_ne changed] at exists_
      have dir := wf.parent q name exists_
      have other : q ≠ p := fun same => noDir (same ▸ dir)
      rw [Function.update_of_ne other, dir]

theorem WellFormed.create {empty : Content} (wf : WellFormed t)
    (made : create t p empty = some t') : WellFormed t' := by
  obtain ⟨nonempty, parent, noDir, rfl⟩ := create_eq_some made
  exact wf.update_file nonempty parent noDir empty

theorem create_self {empty : Content} (made : create t p empty = some t') :
    t' p = some (.file empty) := by
  obtain ⟨_, _, _, rfl⟩ := create_eq_some made
  exact Function.update_self ..

theorem changes_create {empty : Content} (made : create t p empty = some t') :
    Changes (· = p) t t' := by
  obtain ⟨_, _, noDir, rfl⟩ := create_eq_some made
  exact changes_update noDir _

theorem write_self (t : Tree Name Content) (p : List Name) (content : Content) :
    write t p content p = some (.file content) :=
  Function.update_self ..

theorem changes_write {before : Content} (file : t p = some (.file before)) (content : Content) :
    Changes (· = p) t (write t p content) :=
  changes_update (by simp [file]) _

theorem WellFormed.write {before : Content} (wf : WellFormed t) (file : t p = some (.file before))
    (content : Content) : WellFormed (write t p content) := by
  rcases List.eq_nil_or_concat p with rfl | ⟨q, name, rfl⟩
  · cases wf.root.symm.trans file
  · rw [List.concat_eq_append] at file ⊢
    have parent := wf.parent q name (file ▸ Option.some_ne_none _)
    refine wf.update_file (by simp) (by rwa [List.dropLast_concat]) ?_ content
    rw [file]
    simp

theorem rewrites_update {content : Content} (changes : Changes (· = p) t t')
    (held : t' p = some (.file content)) (wellFormed : WellFormed t → WellFormed t') :
    Rewrites (· = p) t t' := by
  refine ⟨changes, fun q file => ?_, wellFormed⟩
  by_cases same : q = p
  · exact ⟨content, same ▸ held⟩
  · exact file.imp fun _ => changes.file same

theorem rewrites_create {empty : Content} (made : create t p empty = some t') :
    Rewrites (· = p) t t' :=
  rewrites_update (changes_create made) (create_self made) fun wf => wf.create made

theorem rewrites_write (file : IsFile t p) (content : Content) :
    Rewrites (· = p) t (write t p content) := by
  obtain ⟨before, held⟩ := file
  exact rewrites_update (changes_write held content) (write_self t p content) fun wf =>
    wf.write held content

theorem remove_isSome (file : IsFile t p) : ∃ t', remove t p = some t' := by
  obtain ⟨content, held⟩ := file
  exact ⟨_, by rw [remove, held]⟩

theorem remove_eq_some (removed : remove t p = some t') :
    (∃ content, t p = some (.file content)) ∧ t' = Function.update t p none := by
  unfold remove at removed
  split at removed
  next content file => exact ⟨⟨content, file⟩, (Option.some.inj removed).symm⟩
  next => cases removed

theorem remove_self (removed : remove t p = some t') : t' p = none := by
  obtain ⟨_, rfl⟩ := remove_eq_some removed
  exact Function.update_self ..

theorem changes_remove (removed : remove t p = some t') : Changes (· = p) t t' := by
  obtain ⟨⟨content, file⟩, rfl⟩ := remove_eq_some removed
  exact changes_update (by simp [file]) _

theorem WellFormed.remove (wf : WellFormed t) (removed : remove t p = some t') :
    WellFormed t' := by
  obtain ⟨⟨content, file⟩, rfl⟩ := remove_eq_some removed
  have noDir : t p ≠ some .dir := by
    rw [file]
    simp
  constructor
  · have top : [] ≠ p := fun same => noDir (same ▸ wf.root)
    rw [Function.update_of_ne top]
    exact wf.root
  · intro q name exists_
    by_cases gone : q ++ [name] = p
    · rw [gone, Function.update_self] at exists_
      exact absurd rfl exists_
    · rw [Function.update_of_ne gone] at exists_
      have dir := wf.parent q name exists_
      have other : q ≠ p := fun same => noDir (same ▸ dir)
      rw [Function.update_of_ne other, dir]

end Operations

end TildaMk4.FileTree
