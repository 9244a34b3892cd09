import TildaMk4.Boot.Selection
import TildaMk4.Bootstrap.Directories
import TildaMk4.Bootstrap.Get

/-!
# The download of the base software

`step_download` and `step_goodbye` of `bootstrap.py`, over the boots of a badge that begins
with nothing but that script. What the server and the disk answer is in each session.
-/

namespace TildaMk4.Bootstrap

open FileTree

universe u

def bootPy : Path := "boot.py".toList

def bootstrapPy : Path := "bootstrap.py".toList

def wifiJson : Path := "wifi.json".toList

/-- `"download?repo=emfcamp/Mk4-Apps&path=%s" % file` -/
def downloadPath (file : Path) : String :=
  "download?repo=emfcamp/Mk4-Apps&path=" ++ String.ofList file

/-- Why a session is not at its end: an exception, or a `recv` that never returns. -/
inductive Stop
  | raised
  | waiting
  deriving DecidableEq

/-- `get`, with the connection in front; there is no socket if it fails. -/
def fetch (path : String) : Option Socket → Except Stop Bytes
  | none => .error .raised
  | some socket =>
    match get path socket with
    | none => .error .waiting
    | some (.error _, _) => .error .raised
    | some (.ok body, _) => .ok body

/-- What `step_wifi` does to `wifi.json`. -/
inductive WifiChange
  | remove
  | write (details : Bytes)

/-- The world of one run of the script. -/
structure Session (Name : Type u) where
  wifi : List WifiChange
  list : Option Socket
  /-- `list(json.loads(body).keys())` -/
  keys : Bytes → Option (List Path)
  server : Path → Option Socket
  mkdirRefused : List Name → Bool
  openRefused : List Name → Bool
  room : List Name → Nat

section Script

variable {Name : Type u} [DecidableEq Name] (naming : Naming Name)

/-- `open(file, mode)` for a mode that writes: where the file is, and the tree with it. -/
def openNew (refused : List Name → Bool) (t : Tree Name Bytes) (file : Path) :
    Option (List Name × Tree Name Bytes) :=
  match naming.resolve file with
  | none => none
  | some p => if refused p then none else (create t p []).map fun opened => (p, opened)

def WifiChange.apply (t : Tree Name Bytes) (change : WifiChange) : Tree Name Bytes :=
  match naming.resolve wifiJson, change with
  | none, _ => t
  | some p, .remove => (FileTree.remove t p).getD t
  | some p, .write details =>
    match create t p [] with
    | none => t
    | some t' => FileTree.write t' p details

namespace Session

variable (s : Session Name)

def stepWifi (t : Tree Name Bytes) : Tree Name Bytes :=
  s.wifi.foldl (WifiChange.apply naming) t

/-- The names of `files`, if they arrive. -/
def files : Except Stop (List Path) :=
  match fetch "bootstrap" s.list with
  | .error stop => .error stop
  | .ok body =>
    match s.keys body with
    | none => .error .raised
    | some files => .ok files

/-- `f.write(get(...))`: the file at `p` is open, and empty, while its content is fetched. -/
def storeBody (opened : Tree Name Bytes) (p : List Name) (file : Path) :
    Tree Name Bytes × Option Stop :=
  match fetch (downloadPath file) (s.server file) with
  | .error stop => (opened, some stop)
  | .ok body =>
    let stored := body.take (s.room p)
    (write opened p stored, if stored.length = body.length then none else some .raised)

/-- The body of the loop. -/
def downloadFile (t : Tree Name Bytes) (file : Path) : Tree Name Bytes × Option Stop :=
  match makedirs naming s.mkdirRefused ((dirname file).length + 1) t (dirname file) with
  | none => (t, some .raised)
  | some made =>
    if made.returned then
      match openNew naming s.openRefused made.tree file with
      | none => (made.tree, some .raised)
      | some (p, opened) => s.storeBody opened p file
    else (made.tree, some .raised)

def downloadFiles : List Path → Tree Name Bytes → Tree Name Bytes × Option Stop
  | [], t => (t, none)
  | file :: files, t =>
    match s.downloadFile naming t file with
    | (t', none) => downloadFiles files t'
    | stopped => stopped

def stepDownload (t : Tree Name Bytes) : Tree Name Bytes × Option Stop :=
  match s.files with
  | .error stop => (t, some stop)
  | .ok files => s.downloadFiles naming files t

/-- `os.remove("bootstrap.py")`, and the reset. -/
def stepGoodbye (t : Tree Name Bytes) : Tree Name Bytes × Option Stop :=
  match (naming.resolve bootstrapPy).bind (remove t) with
  | none => (t, some .raised)
  | some t' => (t', none)

def run (t : Tree Name Bytes) : Tree Name Bytes × Option Stop :=
  match s.stepDownload naming (s.stepWifi naming t) with
  | (t', none) => stepGoodbye naming t'
  | stopped => stopped

end Session

/-- The boots of a badge, each with a session, up to the one that comes to its end. -/
def boots : Tree Name Bytes → List (Session Name) → Tree Name Bytes × Option (Session Name)
  | t, [] => (t, none)
  | t, s :: sessions =>
    match s.run naming t with
    | (t', none) => (t', some s)
    | (t', some _) => boots t' sessions

end Script

section Specification

variable {Name : Type u} (naming : Naming Name)

/-- The three files of the flash that the boots depend on. -/
structure OwnFiles where
  boot : List Name
  script : List Name
  wifi : List Name
  boot_eq : naming.resolve bootPy = some boot
  script_eq : naming.resolve bootstrapPy = some script
  wifi_eq : naming.resolve wifiJson = some wifi
  apart : boot ≠ script ∧ boot ≠ wifi ∧ script ≠ wifi

variable {naming} (own : OwnFiles naming) (bootText scriptText : Bytes)

/-- The tree of a badge that boots into the script: `boot.py` and `bootstrap.py` hold what
was delivered. -/
structure Bootable (t : Tree Name Bytes) : Prop where
  wellFormed : WellFormed t
  cwd : t naming.cwd = some .dir
  boot : t own.boot = some (.file bootText)
  script : t own.script = some (.file scriptText)

/-- The server lists plain paths that name different files, and neither `boot.py` nor
`bootstrap.py`. -/
structure Session.Proper (s : Session Name) : Prop where
  plain : ∀ files, s.files = .ok files → ∀ file ∈ files, (naming.resolve file).isSome = true
  distinct : ∀ files, s.files = .ok files → (files.map naming.resolve).Nodup
  spares : ∀ files, s.files = .ok files → ∀ file ∈ files,
    naming.resolve file ≠ some own.boot ∧ naming.resolve file ≠ some own.script

/-- What the server has sent for a file is what the file holds. -/
def Session.Stored (naming : Naming Name) (s : Session Name) (t : Tree Name Bytes) (file : Path) :
    Prop :=
  ∃ p body, naming.resolve file = some p ∧ fetch (downloadPath file) (s.server file) = .ok body ∧
    t p = some (.file body)

/-- The files that a session downloads. -/
def Session.Downloads (naming : Naming Name) (s : Session Name) (p : List Name) : Prop :=
  ∃ files, s.files = .ok files ∧ ∃ file ∈ files, naming.resolve file = some p

/-- After a session at its end the script is gone, `boot.py` is there still, and each file
is as the server has sent it. -/
structure Session.Installed (s : Session Name) (t : Tree Name Bytes) : Prop where
  gone : t own.script = none
  boot : t own.boot = some (.file bootText)
  stored : ∃ files, s.files = .ok files ∧ ∀ file ∈ files, s.Stored naming t file

/-- The flash that `boot.py` lists has the script exactly if the tree has it. -/
def Lists (flash : Boot.Flash) (t : Tree Name Bytes) : Prop :=
  Boot.bootstrapPy ∈ flash.root ↔ t own.script ≠ none

end Specification

section Session

variable {Name : Type u} {naming : Naming Name} {own : OwnFiles naming}
  {bootText scriptText : Bytes} {s : Session Name} {t t' : Tree Name Bytes} {stop : Option Stop}
  {file : Path} {p : List Name} {files : List Path}

theorem Session.Stored.of_changes {touched : List Name → Prop} (stored : s.Stored naming t file)
    (changes : Changes touched t t')
    (spared : ∀ p, naming.resolve file = some p → ¬touched p) : s.Stored naming t' file := by
  obtain ⟨p, body, resolved, fetched, held⟩ := stored
  exact ⟨p, body, resolved, fetched, changes.file (spared p resolved) held⟩

/-- No download touches `boot.py` or the script. -/
theorem Session.Proper.spared (proper : s.Proper own) :
    ¬s.Downloads naming own.boot ∧ ¬s.Downloads naming own.script :=
  ⟨fun ⟨files, listed, file, member, same⟩ => (proper.spares files listed file member).1 same,
    fun ⟨files, listed, file, member, same⟩ => (proper.spares files listed file member).2 same⟩

variable [DecidableEq Name]

theorem storeBody_rewrites (resolved : naming.resolve file = some p) (opened : IsFile t p)
    (run : s.storeBody t p file = (t', stop)) :
    Rewrites (· = p) t t' ∧ (stop = none → s.Stored naming t' file) := by
  unfold Session.storeBody at run
  split at run
  next stopped _ =>
    cases run
    exact ⟨.refl _ t, fun done => by cases done⟩
  next body fetched =>
    cases run
    refine ⟨rewrites_write opened _, fun done => ⟨p, body, resolved, fetched, ?_⟩⟩
    split at done
    next whole =>
      have all : body.take (s.room p) = body := (List.take_sublist _ _).eq_of_length whole
      rw [write_self, all]
    next => cases done

/-- A round of the loop touches no file but its own, and only adds directories. -/
theorem downloadFile_rewrites (wf : WellFormed t) (cwd : t naming.cwd = some .dir)
    (resolved : naming.resolve file = some p) (run : s.downloadFile naming t file = (t', stop)) :
    Rewrites (· = p) t t' ∧ (stop = none → s.Stored naming t' file) := by
  obtain ⟨above, -, front, -⟩ := resolve_split naming resolved
  obtain ⟨attempt, ends, made⟩ := makedirs_made s.mkdirRefused naming wf cwd
    (dirname file).length (dirname file) above front (Nat.le_refl _)
  have dirs := made.extends_.rewrites made.wellFormed (· = p)
  unfold Session.downloadFile at run
  rw [ends _ (Nat.lt_succ_self _)] at run
  dsimp only at run
  split at run
  next returned =>
    unfold openNew at run
    rw [resolved] at run
    dsimp only at run
    by_cases refused : s.openRefused p = true
    · rw [if_pos refused] at run
      cases run
      exact ⟨dirs, fun done => by cases done⟩
    · rw [if_neg refused] at run
      cases open_ : create attempt.tree p [] with
      | none =>
        rw [open_] at run
        cases run
        exact ⟨dirs, fun done => by cases done⟩
      | some opened =>
        rw [open_] at run
        obtain ⟨rewrites, stored⟩ := storeBody_rewrites resolved ⟨[], create_self open_⟩ run
        exact ⟨(dirs.trans (rewrites_create open_)).trans rewrites, stored⟩
  next =>
    cases run
    exact ⟨dirs, fun done => by cases done⟩

theorem downloadFiles_rewrites (plain : ∀ file ∈ files, (naming.resolve file).isSome = true)
    (distinct : (files.map naming.resolve).Nodup) :
    ∀ t, WellFormed t → t naming.cwd = some .dir →
      s.downloadFiles naming files t = (t', stop) →
      Rewrites (fun p => ∃ file ∈ files, naming.resolve file = some p) t t' ∧
        (stop = none → ∀ file ∈ files, s.Stored naming t' file) := by
  induction files with
  | nil =>
    intro t _ _ run
    cases run
    exact ⟨.refl _ _, fun _ => List.forall_mem_nil _⟩
  | cons file files ih =>
    intro t wf cwd run
    obtain ⟨fresh, distinct⟩ := List.nodup_cons.mp distinct
    obtain ⟨resolves, plain⟩ := List.forall_mem_cons.mp plain
    obtain ⟨p, resolved⟩ := Option.isSome_iff_exists.mp resolves
    unfold Session.downloadFiles at run
    split at run
    next first done =>
      obtain ⟨rewrites, stored⟩ := downloadFile_rewrites wf cwd resolved done
      obtain ⟨others, storedOthers⟩ := ih plain distinct first (rewrites.wellFormed wf)
        (rewrites.dirs _ cwd) run
      refine ⟨(rewrites.mono ?_).trans (others.mono ?_), fun done => ?_⟩
      · exact fun q same => ⟨file, List.mem_cons_self, same ▸ resolved⟩
      · exact fun q later => later.imp fun _ other => ⟨List.mem_cons_of_mem _ other.1, other.2⟩
      · rw [List.forall_mem_cons]
        refine ⟨(stored rfl).of_changes others.toChanges ?_, storedOthers done⟩
        rintro q here ⟨other, member, same⟩
        exact fresh (List.mem_map.mpr ⟨other, member, same.trans here.symm⟩)
    next stopped notDone =>
      obtain ⟨rewrites, _⟩ := downloadFile_rewrites wf cwd resolved run
      refine ⟨rewrites.mono fun q same => ⟨file, List.mem_cons_self, same ▸ resolved⟩,
        fun done => ?_⟩
      subst done
      exact absurd run (notDone t')

theorem stepDownload_rewrites (wf : WellFormed t) (cwd : t naming.cwd = some .dir)
    (proper : s.Proper own) (run : s.stepDownload naming t = (t', stop)) :
    Rewrites (s.Downloads naming) t t' ∧ (stop = none → ∃ files, s.files = .ok files ∧
      ∀ file ∈ files, s.Stored naming t' file) := by
  unfold Session.stepDownload at run
  split at run
  next =>
    cases run
    exact ⟨.refl _ _, fun done => by cases done⟩
  next files listed =>
    obtain ⟨rewrites, stored⟩ := downloadFiles_rewrites (proper.plain files listed)
      (proper.distinct files listed) t wf cwd run
    exact ⟨rewrites.mono fun p member => ⟨files, listed, member⟩,
      fun done => ⟨files, listed, stored done⟩⟩

variable (own) in
theorem wifiChange_changes (wf : WellFormed t) (change : WifiChange) :
    WellFormed (change.apply naming t) ∧ Changes (· = own.wifi) t (change.apply naming t) := by
  unfold WifiChange.apply
  rw [own.wifi_eq]
  cases change with
  | remove =>
    cases removed : FileTree.remove t own.wifi with
    | none => simp [removed, wf, Changes.refl]
    | some t' =>
      simp only [removed, Option.getD_some]
      exact ⟨wf.remove removed, changes_remove removed⟩
  | write details =>
    cases made : create t own.wifi [] with
    | none => simp [made, wf, Changes.refl]
    | some opened =>
      have created := rewrites_create made
      have written := rewrites_write ⟨[], create_self made⟩ details
      simp only [made]
      exact ⟨written.wellFormed (created.wellFormed wf),
        created.toChanges.trans written.toChanges⟩

variable (own s) in
theorem stepWifi_changes (wf : WellFormed t) :
    WellFormed (s.stepWifi naming t) ∧ Changes (· = own.wifi) t (s.stepWifi naming t) := by
  unfold Session.stepWifi
  induction s.wifi generalizing t with
  | nil => exact ⟨wf, .refl _ t⟩
  | cons change changes ih =>
    obtain ⟨wf₁, first⟩ := wifiChange_changes own wf change
    obtain ⟨wf₂, rest⟩ := ih wf₁
    exact ⟨wf₂, first.trans rest⟩

/-- What a session may touch. -/
def Session.Touches (own : OwnFiles naming) (s : Session Name) (p : List Name) : Prop :=
  p = own.wifi ∨ p = own.script ∨ s.Downloads naming p

theorem Session.run_spec (bootable : Bootable own bootText scriptText t) (proper : s.Proper own)
    (run : s.run naming t = (t', stop)) :
    Changes (s.Touches own) t t' ∧ (stop ≠ none → Bootable own bootText scriptText t') ∧
      (stop = none → s.Installed own bootText t') := by
  obtain ⟨bootSpared, scriptSpared⟩ := proper.spared
  obtain ⟨bootScript, bootWifi, scriptWifi⟩ := own.apart
  obtain ⟨wf, wifi⟩ := stepWifi_changes own s bootable.wellFormed
  have cwd := wifi.dirs _ bootable.cwd
  have boot := wifi.file bootWifi bootable.boot
  have script := wifi.file scriptWifi bootable.script
  unfold Session.run at run
  split at run
  next downloaded complete =>
    obtain ⟨rewrites, stored⟩ := stepDownload_rewrites wf cwd proper complete
    have scriptLeft := rewrites.file scriptSpared script
    obtain ⟨left, removed⟩ := remove_isSome ⟨scriptText, scriptLeft⟩
    simp only [Session.stepGoodbye, own.script_eq, Option.bind_some, removed] at run
    cases run
    have goodbye := changes_remove removed
    refine ⟨?_, fun stopped => absurd rfl stopped, fun _ => ?_⟩
    · refine (wifi.mono ?_).trans ((rewrites.toChanges.mono ?_).trans (goodbye.mono ?_))
      · exact fun p same => .inl same
      · exact fun p member => .inr (.inr member)
      · exact fun p same => .inr (.inl same)
    · refine ⟨remove_self removed, goodbye.file bootScript (rewrites.file bootSpared boot), ?_⟩
      refine (stored rfl).imp fun files listed => ⟨listed.1, fun file member => ?_⟩
      refine (listed.2 file member).of_changes goodbye fun p resolved same => ?_
      exact (proper.spares files listed.1 file member).2 (same ▸ resolved)
  next stopped incomplete =>
    obtain ⟨rewrites, _⟩ := stepDownload_rewrites wf cwd proper run
    refine ⟨?_, fun _ => ?_, fun done => ?_⟩
    · refine (wifi.mono ?_).trans (rewrites.toChanges.mono ?_)
      · exact fun p same => .inl same
      · exact fun p member => .inr (.inr member)
    · exact ⟨rewrites.wellFormed wf, rewrites.dirs _ cwd, rewrites.file bootSpared boot,
        rewrites.file scriptSpared script⟩
    · subst done
      exact absurd run (incomplete t')

end Session

section Choice

open Boot

variable {flash : Boot.Flash}

theorem inApp_ne_bootstrapPy (a : Path) : inApp a ≠ Boot.bootstrapPy := by
  intro same
  have ends : "/main.py".toList <:+ Boot.bootstrapPy := ⟨a, same⟩
  exact absurd ends (by decide)

theorem value_or_eq_str {first second : Value} {text : Path} (same : first.or second = .str text) :
    first = .str text ∨ second = .str text := by
  unfold Value.or at same
  split at same
  next => exact .inl same
  next => exact .inr same

theorem file_ne_bootstrapPy (name : Path) (remove : Bool) :
    Boot.file flash name remove ≠ .str Boot.bootstrapPy := by
  intro same
  by_cases used : ∃ a, Offers flash name a ∧ (remove = true → flash.removes name = true)
  · obtain ⟨a, offers, removed⟩ := used
    rw [file_offers offers removed] at same
    exact inApp_ne_bootstrapPy a (Value.str.inj same)
  · rw [file_none] at same
    · cases same
    · intro a offers
      by_contra no
      refine used ⟨a, offers, fun removes => ?_⟩
      by_contra kept
      exact no ⟨removes, by simpa using kept⟩

/-- A script that is not in the root is not booted as one of the root. -/
theorem boot_ne_bootstrapPy (absent : Boot.bootstrapPy ∉ flash.root) :
    boot flash ≠ .main Boot.bootstrapPy := by
  intro chosen
  unfold boot at chosen
  rw [if_neg absent] at chosen
  split at chosen
  next => cases chosen
  next =>
    cases started : start flash with
    | none => rw [started] at chosen; cases chosen
    | false => rw [started] at chosen; cases chosen
    | str text =>
      rw [started] at chosen
      have script_ : script text = Boot.bootstrapPy := Outcome.main.inj chosen
      unfold script at script_
      split at script_
      next =>
        subst script_
        rcases value_or_eq_str started with main | later
        · split at main
          next => exact absurd (Value.str.inj main) (by decide)
          next => cases main
        rcases value_or_eq_str later with once | later
        · exact file_ne_bootstrapPy _ _ once
        rcases value_or_eq_str later with default_ | anyHome
        · exact file_ne_bootstrapPy _ _ default_
        unfold any_home at anyHome
        split at anyHome
        next => cases anyHome
        next h rest found =>
          have member : h ∈ homes flash := found ▸ List.mem_cons_self
          have listed := (List.mem_filter.mp member).1
          exact absent (Value.str.inj anyHome ▸ listed)
      next => exact inApp_ne_bootstrapPy text script_

end Choice

section Boots

variable {Name : Type u} [DecidableEq Name] {naming : Naming Name} (own : OwnFiles naming)
  (bootText scriptText : Bytes)

/-- What a run of boots leaves: either the badge boots into the script once more, or one of
the sessions has come to its end, with everything that it downloads in its place, and the
script is not booted again. -/
structure Boots (sessions : List (Session Name)) (t : Tree Name Bytes) : Prop where
  again : (boots naming t sessions).2 = none →
    Bootable own bootText scriptText (boots naming t sessions).1 ∧
      ∀ flash : Boot.Flash, Lists own flash (boots naming t sessions).1 →
        Boot.noBoot ∉ flash.root → Boot.boot flash = .main Boot.bootstrapPy
  never : ∀ s, (boots naming t sessions).2 = some s →
    s ∈ sessions ∧ s.Installed own bootText (boots naming t sessions).1 ∧
      ∀ flash : Boot.Flash, Lists own flash (boots naming t sessions).1 →
        Boot.boot flash ≠ .main Boot.bootstrapPy
  spared : Changes (∃ s ∈ sessions, s.Touches own ·) t (boots naming t sessions).1

theorem boots_commit (sessions : List (Session Name)) (proper : ∀ s ∈ sessions, s.Proper own) :
    ∀ t, Bootable own bootText scriptText t → Boots own bootText scriptText sessions t := by
  induction sessions with
  | nil =>
    intro t bootable
    refine ⟨fun _ => ⟨bootable, fun flash lists quiet => ?_⟩, fun s done => ?_, .refl _ t⟩
    · exact Boot.boot_bootstrap quiet (lists.mpr (by simp [boots, bootable.script]))
    · cases done
  | cons s sessions ih =>
    intro t bootable
    obtain ⟨proper, others⟩ := List.forall_mem_cons.mp proper
    cases run : s.run naming t with
    | mk t' stop =>
      obtain ⟨changes, stopped, done⟩ := Session.run_spec bootable proper run
      have first : Changes (∃ s' ∈ s :: sessions, s'.Touches own ·) t t' :=
        changes.mono fun p touched => ⟨s, List.mem_cons_self, touched⟩
      cases stop with
      | none =>
        have whole : boots naming t (s :: sessions) = (t', some s) := by simp [boots, run]
        constructor
        · intro unfinished
          rw [whole] at unfinished
          cases unfinished
        · intro s' finished
          rw [whole] at finished ⊢
          cases finished
          refine ⟨List.mem_cons_self, done rfl, fun flash lists => boot_ne_bootstrapPy ?_⟩
          exact fun listed => lists.mp listed (done rfl).gone
        · rw [whole]
          exact first
      | some reason =>
        have whole : boots naming t (s :: sessions) = boots naming t' sessions := by
          simp [boots, run]
        have later := ih others t' (stopped (Option.some_ne_none _))
        constructor
        · rw [whole]
          exact later.again
        · rw [whole]
          intro s' finished
          exact (later.never s' finished).imp_left (List.mem_cons_of_mem _)
        · rw [whole]
          refine first.trans (later.spared.mono fun p touched => ?_)
          exact touched.imp fun _ other => other.imp_left (List.mem_cons_of_mem _)

def plainOwn : OwnFiles plainNaming where
  boot := [bootPy]
  script := [bootstrapPy]
  wifi := [wifiJson]
  boot_eq := rfl
  script_eq := rfl
  wifi_eq := rfl
  apart := by decide

/-- A badge with the two scripts alone. -/
def delivered (bootText scriptText : Bytes) (p : List Path) : Option (Node Bytes) :=
  if p = [] then some .dir
  else if p = [bootPy] then some (.file bootText)
  else if p = [bootstrapPy] then some (.file scriptText)
  else none

theorem bootable_delivered : Bootable plainOwn bootText scriptText
    (delivered bootText scriptText) where
  wellFormed := by
    refine ⟨rfl, fun p name some_ => ?_⟩
    cases p with
    | nil => rfl
    | cons first rest => exact absurd (by simp [delivered]) some_
  cwd := rfl
  boot := rfl
  script := rfl

def noServer : Session Path where
  wifi := [.remove]
  list := none
  keys _ := none
  server _ := none
  mkdirRefused _ := false
  openRefused _ := false
  room _ := 0

def emptyAnswer : Socket where
  incoming := [Text.encode "HTTP/1.0 200 OK\r\nContent-Length: 0\r\n\r\n".toList]
  sent := []
  closed := false

def emptyFiles : Session Path where
  wifi := [.write (Text.encode "\x7b\x7d".toList)]
  list := some emptyAnswer
  keys _ := some ["main.py".toList, "lib/app.py".toList]
  server _ := some emptyAnswer
  mkdirRefused _ := false
  openRefused _ := false
  room _ := 512

theorem files_emptyFiles {files : List Path} (listed : emptyFiles.files = .ok files) :
    files = ["main.py".toList, "lib/app.py".toList] := by
  unfold Session.files at listed
  split at listed
  next => cases listed
  next => exact (Except.ok.inj listed).symm

theorem proper_emptyFiles : emptyFiles.Proper plainOwn where
  plain files listed := by
    obtain rfl := files_emptyFiles listed
    decide
  distinct files listed := by
    obtain rfl := files_emptyFiles listed
    decide
  spares files listed := by
    obtain rfl := files_emptyFiles listed
    decide

theorem boots_commit_twice :
    Boots plainOwn [0x70] [0x71] [noServer, emptyFiles] (delivered [0x70] [0x71]) := by
  refine boots_commit plainOwn [0x70] [0x71] [noServer, emptyFiles] ?_ _
    (bootable_delivered [0x70] [0x71])
  rw [List.forall_mem_cons, List.forall_mem_singleton]
  refine ⟨⟨fun files listed => ?_, fun files listed => ?_, fun files listed => ?_⟩,
    proper_emptyFiles⟩
  all_goals cases listed

end Boots

end TildaMk4.Bootstrap
