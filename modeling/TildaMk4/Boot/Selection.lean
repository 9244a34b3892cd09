import Mathlib.Data.List.Infix
import TildaMk4.Lib.Choice
import TildaMk4.Lib.Text

/-!
# The choice of what to boot

`boot.py`: which script `tilda.main` is told to run. The answers of `os` are a
parameter; `none` is an exception. Only `once.txt` is removed, and nothing reads it or
lists it afterwards.
-/

namespace TildaMk4.Boot

open Choice Text

abbrev Path := List Char

/-- What `os` and `open` answer about the flash. -/
structure Flash where
  root : List Path
  read : Path → Option (List Char)
  removes : Path → Bool
  listdir : Path → Option (List Path)
  isFile : Path → Bool

def mainPy : Path := "main.py".toList
def noBoot : Path := "no_boot".toList
def bootstrapPy : Path := "bootstrap.py".toList
def onceTxt : Path := "once.txt".toList
def defaultAppTxt : Path := "default_app.txt".toList
def home : Path := "home".toList
def dotPy : Path := ".py".toList

/-- `a + "/main.py"`. -/
def inApp (a : Path) : Path := a ++ "/main.py".toList

/-- The values that `start` can have. -/
inductive Value
  | none
  | false
  | str (text : Path)
  deriving DecidableEq

def Value.truthy : Value → Bool
  | .str text => !text.isEmpty
  | _ => Bool.false

/-- `first or second`. -/
def Value.or (first second : Value) : Value := if first.truthy then first else second

/-- How `boot.py` ends. -/
inductive Outcome
  | stopped
  | main (x : Path)
  | raised
  deriving DecidableEq

section Script

variable (flash : Flash)

def app (a : Path) : Option Value :=
  if a ∈ flash.root then
    match flash.listdir a with
    | .none => .none
    | some names => some (if mainPy ∈ names then .str (inApp a) else .none)
  else some .none

/-- Every exception ends the function with `None`. -/
def file (name : Path) (remove : Bool) : Value :=
  match flash.read name with
  | .none => .none
  | some text =>
    if remove && !flash.removes name then .none else (app flash (strip text)).getD .none

/-- The list `h` of `any_home`. -/
def homes : List Path := flash.root.filter fun a => home.isPrefixOf a

def any_home : Value :=
  match homes flash with
  | [] => .false
  | h :: _ => .str h

def start : Value :=
  (if mainPy ∈ flash.root then .str mainPy else .none : Value).or
    ((file flash onceTxt true).or ((file flash defaultAppTxt Bool.false).or (any_home flash)))

/-- `if ".py" not in start: start += "/main.py"`. -/
def script (start : Path) : Path := if dotPy <:+: start then start else inApp start

/-- Anything but a string has no `in`: a `TypeError`, which nothing catches. -/
def launch : Value → Outcome
  | .str start => .main (script start)
  | .none => .raised
  | .false => .raised

def boot : Outcome :=
  if noBoot ∈ flash.root then .stopped
  else if bootstrapPy ∈ flash.root then .main bootstrapPy
  else launch (start flash)

end Script

section Specification

variable (flash : Flash)

/-- The text of the file is the name of `a`. -/
def Names (name a : Path) : Prop := ∃ text, flash.read name = some text ∧ strip text = a

/-- A folder of the root with an entry `main.py`. -/
def Listed (a : Path) : Prop :=
  a ∈ flash.root ∧ ∃ names, flash.listdir a = some names ∧ mainPy ∈ names

def Offers (name a : Path) : Prop := Names flash name a ∧ Listed flash a

/-- `main.py` of the root. -/
def IsMain (x : Path) : Prop := x = mainPy ∧ mainPy ∈ flash.root ∧ flash.isFile x

/-- The script of the app that the file names. -/
def IsAppOf (name x : Path) : Prop := ∃ a, Offers flash name a ∧ x = inApp a ∧ flash.isFile x

/-- A file of the root, or the script of a folder, whose name begins with `home`. -/
def IsHome (x : Path) : Prop :=
  ∃ h ∈ flash.root, home.isPrefixOf h ∧ (x = h ∨ x = inApp h) ∧ flash.isFile x

/-- What may be booted, in the order of preference. -/
def candidates : List (Path → Prop) :=
  [IsMain flash, IsAppOf flash onceTxt, IsAppOf flash defaultAppTxt, IsHome flash]

def bootsInto : Option Path → Outcome
  | .none => .stopped
  | some x => .main x

/-- What an end of `boot.py` has to be. -/
structure Boots (outcome : Outcome) : Prop where
  caught : outcome ≠ .raised
  exists_ : ∀ x, outcome = .main x → flash.isFile x
  prefers : noBoot ∉ flash.root → bootstrapPy ∉ flash.root →
    ∃ chosen, FirstOf (candidates flash) chosen ∧ outcome = bootsInto chosen

/-- `once.txt` cannot be used up. -/
def NoOnce : Prop := ∀ a, Offers flash onceTxt a → flash.removes onceTxt = false

/-- If `once.txt` names an app that can be booted, then it is this one. -/
def KeepsOnce (x : Path) : Prop := ∀ y, IsAppOf flash onceTxt y → x = y

/-- Each choice, where it is reached, is of a file. -/
structure ChoosesFiles : Prop where
  bootstrap : bootstrapPy ∈ flash.root → flash.isFile bootstrapPy
  main : bootstrapPy ∉ flash.root → mainPy ∈ flash.root → flash.isFile mainPy
  once : bootstrapPy ∉ flash.root → mainPy ∉ flash.root → flash.removes onceTxt = true →
    ∀ a, Offers flash onceTxt a → flash.isFile (inApp a)
  default : bootstrapPy ∉ flash.root → mainPy ∉ flash.root → NoOnce flash →
    ∀ a, Offers flash defaultAppTxt a → flash.isFile (inApp a) ∧ KeepsOnce flash (inApp a)
  home : bootstrapPy ∉ flash.root → mainPy ∉ flash.root → NoOnce flash →
    (∀ a, ¬Offers flash defaultAppTxt a) →
    ∃ h, (homes flash).head? = some h ∧ flash.isFile (script h) ∧ KeepsOnce flash (script h)

end Specification

section Course

variable {flash : Flash} {name a : Path}

theorem Names.unique {b : Path} (first : Names flash name a) (second : Names flash name b) :
    a = b := by
  obtain ⟨text, read, rfl⟩ := first
  obtain ⟨text', read', rfl⟩ := second
  rw [Option.some.inj (read.symm.trans read')]

@[simp] theorem Value.or_str_inApp (a : Path) (second : Value) :
    (Value.str (inApp a)).or second = .str (inApp a) := by
  simp [Value.or, Value.truthy, inApp]

@[simp] theorem Value.or_none (second : Value) : Value.none.or second = second := rfl

@[simp] theorem script_mainPy : script mainPy = mainPy := if_pos ⟨"main".toList, [], by decide⟩

@[simp] theorem script_inApp (a : Path) : script (inApp a) = inApp a :=
  if_pos ⟨a ++ "/main".toList, [], by simp [inApp, dotPy]⟩

theorem app_listed (listed : Listed flash a) : app flash a = some (.str (inApp a)) := by
  obtain ⟨member, names, lists, has⟩ := listed
  simp [app, member, lists, has]

theorem app_unlisted (unlisted : ¬Listed flash a) : (app flash a).getD .none = .none := by
  rw [app]
  split
  next member =>
    split
    next => rfl
    next names lists =>
      have lacks : mainPy ∉ names := fun has => unlisted ⟨member, names, lists, has⟩
      rw [if_neg lacks]
      rfl
  next => rfl

theorem file_offers {remove : Bool} (offers : Offers flash name a)
    (removed : remove = true → flash.removes name = true) :
    file flash name remove = .str (inApp a) := by
  obtain ⟨⟨text, read, rfl⟩, listed⟩ := offers
  have kept : (remove && !flash.removes name) = false := by
    cases remove with
    | false => rfl
    | true => simp [removed rfl]
  simp [file, read, kept, app_listed listed]

theorem file_none {remove : Bool}
    (unused : ∀ a, Offers flash name a → remove = true ∧ flash.removes name = false) :
    file flash name remove = .none := by
  rw [file]
  split
  next => rfl
  next text read =>
    rcases Classical.em (Listed flash (strip text)) with listed | unlisted
    · obtain ⟨asked, fails⟩ := unused _ ⟨⟨text, read, rfl⟩, listed⟩
      simp [asked, fails]
    · rw [app_unlisted unlisted, ite_self]

theorem boot_bootstrap (quiet : noBoot ∉ flash.root) (has : bootstrapPy ∈ flash.root) :
    boot flash = .main bootstrapPy := by
  rw [boot, if_neg quiet, if_pos has]

/-- Neither `no_boot` nor `bootstrap.py` is there. -/
structure Selects (flash : Flash) : Prop where
  quiet : noBoot ∉ flash.root
  fresh : bootstrapPy ∉ flash.root

variable (selects : Selects flash)

include selects

theorem boot_main (has : mainPy ∈ flash.root) : boot flash = .main mainPy := by
  have truthy (second : Value) : (Value.str mainPy).or second = .str mainPy := rfl
  rw [boot, if_neg selects.quiet, if_neg selects.fresh, start, if_pos has, truthy, launch,
    script_mainPy]

theorem boot_start (lacks : mainPy ∉ flash.root) :
    boot flash = launch ((file flash onceTxt true).or
      ((file flash defaultAppTxt false).or (any_home flash))) := by
  rw [boot, if_neg selects.quiet, if_neg selects.fresh, start, if_neg lacks, Value.or_none]

theorem boot_once (lacks : mainPy ∉ flash.root) (offers : Offers flash onceTxt a)
    (removes : flash.removes onceTxt = true) : boot flash = .main (inApp a) := by
  have found : file flash onceTxt true = .str (inApp a) := file_offers offers fun _ => removes
  rw [boot_start selects lacks, found, Value.or_str_inApp, launch, script_inApp]

theorem boot_default (lacks : mainPy ∉ flash.root) (noOnce : NoOnce flash)
    (offers : Offers flash defaultAppTxt a) : boot flash = .main (inApp a) := by
  have unused := file_none fun b offered => ⟨rfl, noOnce b offered⟩
  have found : file flash defaultAppTxt false = .str (inApp a) := file_offers offers nofun
  rw [boot_start selects lacks, unused, found, Value.or_none, Value.or_str_inApp, launch,
    script_inApp]

/-- Where no file names an app, the first entry of the root that begins with `home`. -/
theorem boot_any_home (lacks : mainPy ∉ flash.root) (noOnce : NoOnce flash)
    (noDefault : ∀ a, ¬Offers flash defaultAppTxt a) :
    boot flash = match (homes flash).head? with
      | .none => .raised
      | some h => .main (script h) := by
  have unused := file_none fun b offered => ⟨rfl, noOnce b offered⟩
  have absent : file flash defaultAppTxt false = .none :=
    file_none fun b offered => absurd offered (noDefault b)
  rw [boot_start selects lacks, unused, absent, Value.or_none, Value.or_none]
  unfold any_home
  cases homes flash with
  | nil => rfl
  | cons h rest => rfl

end Course

section Preference

variable {flash : Flash} {chosen : Option Path} {a x : Path}

theorem IsAppOf.of_offers {name : Path} (offers : Offers flash name a)
    (isFile : flash.isFile (inApp a)) : IsAppOf flash name (inApp a) :=
  ⟨a, offers, rfl, isFile⟩

theorem IsAppOf.unique {name y : Path} (first : IsAppOf flash name x)
    (second : IsAppOf flash name y) : x = y := by
  obtain ⟨a, offers, rfl, _⟩ := first
  obtain ⟨b, offers', rfl, _⟩ := second
  rw [offers.1.unique offers'.1]

theorem isHome_script {h : Path} (first : (homes flash).head? = some h)
    (isFile : flash.isFile (script h)) : IsHome flash (script h) := by
  obtain ⟨member, begins⟩ := List.mem_filter.mp (List.mem_of_mem_head? first)
  refine ⟨h, member, begins, ?_, isFile⟩
  rw [script]
  split
  · exact .inl rfl
  · exact .inr rfl

theorem bootsInto_eq_main : bootsInto chosen = .main x ↔ chosen = some x := by
  cases chosen with
  | none => simp [bootsInto]
  | some y => simp [bootsInto]

variable (lacks : mainPy ∉ flash.root)

include lacks

/-- Without `main.py`, the app of `once.txt` goes before all others. -/
theorem first_once {y : Path} (once : IsAppOf flash onceTxt y)
    (first : FirstOf (candidates flash) (some x)) : x = y := by
  rw [candidates, FirstOf.of_none fun z isMain => lacks isMain.2.1, FirstOf.of_some once] at first
  obtain ⟨z, other, same⟩ := first
  rw [Option.some.inj same, other.unique once]

theorem first_of_once (once : IsAppOf flash onceTxt x) :
    FirstOf (candidates flash) (some x) :=
  .later (fun _ isMain => lacks isMain.2.1) (.here once)

/-- What is a candidate of the later kinds comes first if it is the app of `once.txt`, should
there be one. -/
theorem first_of_later (keeps : KeepsOnce flash x)
    (later : FirstOf [IsAppOf flash defaultAppTxt, IsHome flash] (some x)) :
    FirstOf (candidates flash) (some x) := by
  rcases Classical.em (∃ y, IsAppOf flash onceTxt y) with ⟨y, once⟩ | none_
  · rw [keeps y once]
    exact first_of_once lacks once
  · exact .later (fun _ isMain => lacks isMain.2.1) (.later (not_exists.mp none_) later)

end Preference

theorem Boots.of_first {flash : Flash} {x : Path} (isFile : flash.isFile x)
    (first : FirstOf (candidates flash) (some x)) : Boots flash (.main x) := by
  refine ⟨nofun, ?_, fun _ _ => ⟨some x, first, rfl⟩⟩
  rintro y same
  rwa [← Outcome.main.inj same]

/-- What `boot.py` has to do fixes what it may do. -/
theorem Boots.first {flash : Flash} (selects : Selects flash) {x : Path}
    (boots : Boots flash (.main x)) : FirstOf (candidates flash) (some x) := by
  obtain ⟨chosen, first, same⟩ := boots.prefers selects.quiet selects.fresh
  rwa [bootsInto_eq_main.mp same.symm] at first

theorem ChoosesFiles.boots {flash : Flash} (quiet : noBoot ∉ flash.root)
    (chooses : ChoosesFiles flash) : Boots flash (boot flash) := by
  by_cases has : bootstrapPy ∈ flash.root
  · rw [boot_bootstrap quiet has]
    refine ⟨nofun, ?_, fun _ fresh => absurd has fresh⟩
    rintro x same
    rw [← Outcome.main.inj same]
    exact chooses.bootstrap has
  have selects : Selects flash := ⟨quiet, has⟩
  by_cases main : mainPy ∈ flash.root
  · rw [boot_main selects main]
    have isFile := chooses.main has main
    exact .of_first isFile (.here ⟨rfl, main, isFile⟩)
  by_cases once : ∃ a, Offers flash onceTxt a ∧ flash.removes onceTxt = true
  · obtain ⟨a, offers, removes⟩ := once
    rw [boot_once selects main offers removes]
    have isFile := chooses.once has main removes a offers
    exact .of_first isFile (first_of_once main (.of_offers offers isFile))
  have noOnce : NoOnce flash := fun a offers =>
    Bool.eq_false_iff.mpr fun removes => once ⟨a, offers, removes⟩
  by_cases default_ : ∃ a, Offers flash defaultAppTxt a
  · obtain ⟨a, offers⟩ := default_
    rw [boot_default selects main noOnce offers]
    obtain ⟨isFile, keeps⟩ := chooses.default has main noOnce a offers
    exact .of_first isFile (first_of_later main keeps (.here (.of_offers offers isFile)))
  · have noDefault := not_exists.mp default_
    obtain ⟨h, first, isFile, keeps⟩ := chooses.home has main noOnce noDefault
    rw [boot_any_home selects main noOnce noDefault, first]
    have noneOf : ∀ x, ¬IsAppOf flash defaultAppTxt x := fun x isApp =>
      noDefault _ isApp.choose_spec.1
    exact .of_first isFile
      (first_of_later main keeps (.later noneOf (.here (isHome_script first isFile))))

theorem Boots.choosesFiles {flash : Flash} (quiet : noBoot ∉ flash.root)
    (boots : Boots flash (boot flash)) : ChoosesFiles flash where
  bootstrap has := by
    rw [boot_bootstrap quiet has] at boots
    exact boots.exists_ _ rfl
  main fresh has := by
    rw [boot_main ⟨quiet, fresh⟩ has] at boots
    exact boots.exists_ _ rfl
  once fresh lacks removes a offers := by
    rw [boot_once ⟨quiet, fresh⟩ lacks offers removes] at boots
    exact boots.exists_ _ rfl
  default fresh lacks noOnce a offers := by
    have selects : Selects flash := ⟨quiet, fresh⟩
    rw [boot_default selects lacks noOnce offers] at boots
    exact ⟨boots.exists_ _ rfl, fun y once => first_once lacks once (boots.first selects)⟩
  home fresh lacks noOnce noDefault := by
    have selects : Selects flash := ⟨quiet, fresh⟩
    rw [boot_any_home selects lacks noOnce noDefault] at boots
    cases first : (homes flash).head? with
    | none =>
      rw [first] at boots
      exact absurd rfl boots.caught
    | some h =>
      rw [first] at boots
      exact ⟨h, rfl, boots.exists_ _ rfl, fun y once =>
        first_once lacks once (boots.first selects)⟩

/-- `boot.py` does what it should exactly when `no_boot` stops it or each choice that it
comes to is of a file. -/
theorem boot_boots_iff (flash : Flash) :
    Boots flash (boot flash) ↔ noBoot ∈ flash.root ∨ ChoosesFiles flash := by
  by_cases stops : noBoot ∈ flash.root
  · have stopped : boot flash = .stopped := by rw [boot, if_pos stops]
    simp only [stops, true_or, iff_true, stopped]
    exact ⟨nofun, nofun, fun quiet => absurd stops quiet⟩
  · simp only [stops, false_or]
    exact ⟨fun boots => boots.choosesFiles stops, fun chooses => chooses.boots stops⟩

/-- A flash with nothing but `boot.py`: `False` has no `in`. -/
theorem boot_boots_fails : ¬∀ flash : Flash, Boots flash (boot flash) := by
  intro always
  have boots := always ⟨["boot.py".toList], fun _ => none, fun _ => false, fun _ => none,
    fun x => x == "boot.py".toList⟩
  exact boots.caught (by decide)

end TildaMk4.Boot
