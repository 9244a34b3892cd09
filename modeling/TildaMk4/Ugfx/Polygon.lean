import Mathlib.Data.List.Basic
import Mathlib.Logic.Function.Basic

/-!
# Polygons

`polygon` and `fill_polygon` of `modugfx.c` and of the containers. `mp_obj_get_int` is a
parameter; `none` is its exception.
-/

namespace TildaMk4.Ugfx

universe u

/-- A `point` of `gdisp.h`, whose `coord_t` is `int16_t`. -/
structure Point where
  x : Int16
  y : Int16
  deriving DecidableEq

/-- The drawing routines, with the window of a container. -/
inductive Routine (Handle : Type)
  | gdispDrawPoly
  | gdispFillConvexPoly
  | gwinDrawPoly (gh : Handle)
  | gwinFillConvexPoly (gh : Handle)
  deriving DecidableEq

/-- A call of a drawing routine: as many points as its count says, `none` for one that was
never stored. -/
structure Drawing (Handle : Type) where
  routine : Routine Handle
  x0 : Int32
  y0 : Int32
  points : List (Option Point)
  col : Int32

/-- An exception, or an access outside `ar`. -/
inductive Fault
  | raised
  | outside
  deriving DecidableEq

/-- The arguments of the functions; a container comes besides. -/
structure Args (Obj : Type u) where
  x0 : Obj
  y0 : Obj
  array : List (List Obj)
  col : Obj

/-- The length of `ar`. -/
def capacity : Nat := 20

def store (ar : Nat → Option Point) (j : Nat) (p : Point) : Except Fault (Nat → Option Point) :=
  if j < capacity then .ok (Function.update ar j (some p)) else .error .outside

def handOver (ar : Nat → Option Point) (count : Nat) : Except Fault (List (Option Point)) :=
  if count ≤ capacity then .ok ((List.range count).map ar) else .error .outside

section Functions

variable {Obj : Type u} {Handle : Type} (mp_obj_get_int : Obj → Option Int32)

def getInt (a : Obj) : Except Fault Int32 :=
  match mp_obj_get_int a with
  | none => .error .raised
  | some n => .ok n

/-- The loop over the array, with `i`, `j` and `ar`. -/
def collect : List (List Obj) → Nat → Nat → (Nat → Option Point) →
    Except Fault (Nat × Nat × (Nat → Option Point))
  | [], i, j, ar => .ok (i, j, ar)
  | [x, y] :: rest, i, j, ar => do
    let x ← getInt mp_obj_get_int x
    let y ← getInt mp_obj_get_int y
    let ar ← store ar j ⟨x.toInt16, y.toInt16⟩
    collect rest (i + 1) (j + 1) ar
  | _ :: rest, i, j, ar => collect rest (i + 1) j ar

/-- What the functions have in common; `count` is what they pass of `i` and `j`. -/
def draw (routine : Routine Handle) (count : Nat → Nat → Nat) (args : Args Obj) :
    Except Fault (Option (Drawing Handle)) := do
  let x0 ← getInt mp_obj_get_int args.x0
  let y0 ← getInt mp_obj_get_int args.y0
  let col ← getInt mp_obj_get_int args.col
  if args.array.length ≤ capacity then
    let (i, j, ar) ← collect mp_obj_get_int args.array 0 0 fun _ => none
    let points ← handOver ar (count i j)
    return some ⟨routine, x0, y0, points, col⟩
  else return none

/-- `ugfx_polygon` of the module passes `j`. -/
def ugfx_polygon (args : Args Obj) : Except Fault (Option (Drawing Handle)) :=
  draw mp_obj_get_int .gdispDrawPoly (fun _ j => j) args

def ugfx_fill_polygon (args : Args Obj) : Except Fault (Option (Drawing Handle)) :=
  draw mp_obj_get_int .gdispFillConvexPoly (fun i _ => i) args

/-- `ugfx_polygon` of the containers passes `i`. -/
def container_polygon (gh : Handle) (args : Args Obj) : Except Fault (Option (Drawing Handle)) :=
  draw mp_obj_get_int (.gwinDrawPoly gh) (fun i _ => i) args

def container_fill_polygon (gh : Handle) (args : Args Obj) :
    Except Fault (Option (Drawing Handle)) :=
  draw mp_obj_get_int (.gwinFillConvexPoly gh) (fun i _ => i) args

/-- The four functions. -/
inductive Method
  | polygon
  | fillPolygon
  | containerPolygon
  | containerFillPolygon
  deriving DecidableEq

def Method.run (gh : Handle) : Method → Args Obj → Except Fault (Option (Drawing Handle))
  | .polygon => ugfx_polygon mp_obj_get_int
  | .fillPolygon => ugfx_fill_polygon mp_obj_get_int
  | .containerPolygon => container_polygon mp_obj_get_int gh
  | .containerFillPolygon => container_fill_polygon mp_obj_get_int gh

/-- The points that the elements of length 2 give, unless one of their integers is refused. -/
def pairs : List (List Obj) → Option (List Point)
  | [] => some []
  | [x, y] :: rest => do
    let x ← mp_obj_get_int x
    let y ← mp_obj_get_int y
    let points ← pairs rest
    return ⟨x.toInt16, y.toInt16⟩ :: points
  | _ :: rest => pairs rest

/-- An integer that the function needs does not fit. -/
def Refuses (args : Args Obj) : Prop :=
  mp_obj_get_int args.x0 = none ∨ mp_obj_get_int args.y0 = none ∨
    mp_obj_get_int args.col = none ∨ pairs mp_obj_get_int args.array = none

/-- What has to come of the arguments. -/
structure DrawsPairs (args : Args Obj) (result : Except Fault (Option (Drawing Handle))) :
    Prop where
  inside : result ≠ .error .outside
  long : capacity < args.array.length → ∀ drawing, result ≠ .ok (some drawing)
  exact_ : args.array.length ≤ capacity → ¬Refuses mp_obj_get_int args →
    ∀ points, pairs mp_obj_get_int args.array = some points →
      ∃ drawing, result = .ok (some drawing) ∧ drawing.points = points.map some

end Functions

section Loop

variable {Obj : Type u} {mp_obj_get_int : Obj → Option Int32}

/-- `ar` with the first points stored. -/
def filled (points : List Point) : Nat → Option Point := fun k => points[k]?

theorem store_filled (points : List Point) (p : Point) (room : points.length < capacity) :
    store (filled points) points.length p = .ok (filled (points ++ [p])) := by
  rw [store, if_pos room]
  congr 1
  funext k
  rcases Nat.lt_trichotomy k points.length with before | rfl | after
  · rw [Function.update_of_ne (Nat.ne_of_lt before), filled, filled,
      List.getElem?_append_left before]
  · rw [Function.update_self, filled, List.getElem?_concat_length]
  · rw [Function.update_of_ne (Nat.ne_of_gt after), filled, filled,
      List.getElem?_eq_none (Nat.le_of_lt after), List.getElem?_eq_none]
    rw [List.length_append, List.length_singleton]
    exact after

theorem getInt_some {a : Obj} {n : Int32} (taken : mp_obj_get_int a = some n) :
    getInt mp_obj_get_int a = .ok n := by
  rw [getInt, taken]

theorem getInt_none {a : Obj} (refused : mp_obj_get_int a = none) :
    getInt mp_obj_get_int a = .error .raised := by
  rw [getInt, refused]

theorem pairs_other {element : List Obj} (other : element.length ≠ 2) (rest : List (List Obj)) :
    pairs mp_obj_get_int (element :: rest) = pairs mp_obj_get_int rest := by
  match element, other with
  | [], _ => rfl
  | [_], _ => rfl
  | [_, _], other => exact absurd rfl other
  | _ :: _ :: _ :: _, _ => rfl

theorem collect_other {element : List Obj} (other : element.length ≠ 2)
    (rest : List (List Obj)) (i j : Nat) (ar : Nat → Option Point) :
    collect mp_obj_get_int (element :: rest) i j ar =
      collect mp_obj_get_int rest (i + 1) j ar := by
  match element, other with
  | [], _ => rfl
  | [_], _ => rfl
  | [_, _], other => exact absurd rfl other
  | _ :: _ :: _ :: _, _ => rfl

/-- As many points as elements are kept only if each of them is a pair. -/
theorem pairs_length {elements : List (List Obj)} :
    ∀ {points}, pairs mp_obj_get_int elements = some points →
      points.length ≤ elements.length ∧
        (points.length = elements.length ↔ ∀ element ∈ elements, element.length = 2) := by
  induction elements with
  | nil =>
    rintro points ⟨⟩
    simp
  | cons element rest inductionHypothesis =>
    intro points found
    by_cases pair : element.length = 2
    · obtain ⟨x, y, rfl⟩ := List.length_eq_two.mp pair
      obtain ⟨px, _, found⟩ := Option.bind_eq_some_iff.mp found
      obtain ⟨py, _, found⟩ := Option.bind_eq_some_iff.mp found
      obtain ⟨later, kept, ⟨⟩⟩ := Option.bind_eq_some_iff.mp found
      simpa using inductionHypothesis kept
    · rw [pairs_other pair] at found
      obtain ⟨bound, _⟩ := inductionHypothesis found
      refine ⟨Nat.le_succ_of_le bound, fun same => ?_, fun all => ?_⟩
      · rw [List.length_cons] at same
        omega
      · exact absurd (all element List.mem_cons_self) pair

/-- What the loop comes to after the first points. -/
def collected (done : List Point) (i : Nat) :
    Option (List Point) → Except Fault (Nat × Nat × (Nat → Option Point))
  | none => .error .raised
  | some points => .ok (i, (done ++ points).length, filled (done ++ points))

/-- The loop stores the pairs in their order, and raises if an integer is refused. -/
theorem collect_filled {elements : List (List Obj)} :
    ∀ (i : Nat) (done : List Point), done.length + elements.length ≤ capacity →
      collect mp_obj_get_int elements i done.length (filled done) =
        collected done (i + elements.length) (pairs mp_obj_get_int elements) := by
  induction elements with
  | nil =>
    intro i done _
    simp [collect, pairs, collected]
  | cons element rest inductionHypothesis =>
    intro i done room
    rw [List.length_cons] at room
    have rounds : i + 1 + rest.length = i + (element :: rest).length := by
      rw [List.length_cons]
      omega
    by_cases pair : element.length = 2
    · obtain ⟨x, y, rfl⟩ := List.length_eq_two.mp pair
      rw [collect, pairs]
      cases px : mp_obj_get_int x with
      | none =>
        rw [getInt_none px]
        rfl
      | some px' =>
        cases py : mp_obj_get_int y with
        | none =>
          rw [getInt_some px, getInt_none py]
          rfl
        | some py' =>
          have later := inductionHypothesis (i + 1) (done ++ [⟨px'.toInt16, py'.toInt16⟩])
            (by rw [List.length_append, List.length_singleton]; omega)
          rw [List.length_append, List.length_singleton, rounds] at later
          have stored := store_filled done ⟨px'.toInt16, py'.toInt16⟩ (by omega)
          rw [getInt_some px, getInt_some py]
          simp only [bind, Except.bind, stored, later]
          cases pairs mp_obj_get_int rest with
          | none => rfl
          | some points => simp [collected]
    · rw [collect_other pair, pairs_other pair, ← rounds]
      exact inductionHypothesis _ _ (by omega)

/-- Points handed over with their own count, and no others, are all stored ones. -/
theorem map_filled {points : List Point} {count : Nat} :
    (List.range count).map (filled points) = points.map some ↔ count = points.length := by
  constructor
  · intro same
    have lengths := congrArg List.length same
    simpa using lengths
  · rintro rfl
    refine List.ext_getElem (by simp) fun k low high => ?_
    simp only [List.length_map] at high
    simp [filled, high]

end Loop

section Draw

variable {Obj : Type u} {Handle : Type} {mp_obj_get_int : Obj → Option Int32} {args : Args Obj}
  {routine : Routine Handle} {count : Nat → Nat → Nat}

theorem getInt_cases (mp_obj_get_int : Obj → Option Int32) (a : Obj) :
    getInt mp_obj_get_int a = .error .raised ∧ mp_obj_get_int a = none ∨
      ∃ n, getInt mp_obj_get_int a = .ok n ∧ mp_obj_get_int a = some n := by
  cases taken : mp_obj_get_int a with
  | none => exact .inl ⟨getInt_none taken, rfl⟩
  | some n => exact .inr ⟨n, getInt_some taken, rfl⟩

/-- What is left of a function once its three integers are read. -/
def drawRest (mp_obj_get_int : Obj → Option Int32) (routine : Routine Handle)
    (count : Nat → Nat → Nat) (array : List (List Obj)) (x0 y0 col : Int32) :
    Except Fault (Option (Drawing Handle)) :=
  if array.length ≤ capacity then
    match pairs mp_obj_get_int array with
    | none => .error .raised
    | some points =>
      (handOver (filled points) (count array.length points.length)).map fun handed =>
        some ⟨routine, x0, y0, handed, col⟩
  else .ok none

theorem draw_rest {x0 y0 col : Int32} (first : getInt mp_obj_get_int args.x0 = .ok x0)
    (second : getInt mp_obj_get_int args.y0 = .ok y0)
    (third : getInt mp_obj_get_int args.col = .ok col) :
    draw mp_obj_get_int routine count args =
      drawRest mp_obj_get_int routine count args.array x0 y0 col := by
  rw [draw, first, second, third, drawRest]
  by_cases short : args.array.length ≤ capacity
  · have loop : collect mp_obj_get_int args.array 0 0 (fun _ => none) =
        collected [] (0 + args.array.length) (pairs mp_obj_get_int args.array) :=
      collect_filled 0 [] (by simpa using short)
    simp only [bind, Except.bind, if_pos short, loop]
    cases pairs mp_obj_get_int args.array with
    | none => rfl
    | some points =>
      simp only [collected, List.nil_append, Nat.zero_add]
      cases handOver (filled points) (count args.array.length points.length) <;> rfl
  · simp only [bind, Except.bind, if_neg short]
    rfl

/-- Either an integer is refused, and the function raises before the array, or it goes on. -/
theorem draw_cases (mp_obj_get_int : Obj → Option Int32) (routine : Routine Handle)
    (count : Nat → Nat → Nat) (args : Args Obj) :
    Refuses mp_obj_get_int args ∧ draw mp_obj_get_int routine count args = .error .raised ∨
      ∃ x0 y0 col, (Refuses mp_obj_get_int args ↔ pairs mp_obj_get_int args.array = none) ∧
        draw mp_obj_get_int routine count args =
          drawRest mp_obj_get_int routine count args.array x0 y0 col := by
  rcases getInt_cases mp_obj_get_int args.x0 with ⟨first, refused⟩ | ⟨x0, first, taken⟩
  · exact .inl ⟨.inl refused, by rw [draw, first]; rfl⟩
  rcases getInt_cases mp_obj_get_int args.y0 with ⟨second, refused⟩ | ⟨y0, second, taken'⟩
  · exact .inl ⟨.inr (.inl refused), by rw [draw, first, second]; rfl⟩
  rcases getInt_cases mp_obj_get_int args.col with ⟨third, refused⟩ | ⟨col, third, taken''⟩
  · exact .inl ⟨.inr (.inr (.inl refused)), by rw [draw, first, second, third]; rfl⟩
  · exact .inr ⟨x0, y0, col, by simp [Refuses, taken, taken', taken''],
      draw_rest first second third⟩

/-- A function draws the pairs exactly if what it passes is their number. -/
theorem draw_drawsPairs_iff (bound : ∀ i j, j ≤ i → i ≤ capacity → count i j ≤ capacity) :
    DrawsPairs mp_obj_get_int args (draw mp_obj_get_int routine count args) ↔
      capacity < args.array.length ∨ Refuses mp_obj_get_int args ∨
        ∀ points, pairs mp_obj_get_int args.array = some points →
          count args.array.length points.length = points.length := by
  rcases draw_cases mp_obj_get_int routine count args with
    ⟨refuses, raised⟩ | ⟨x0, y0, col, refuses, goes⟩
  · simp only [refuses, true_or, or_true, iff_true]
    rw [raised]
    exact ⟨nofun, fun _ _ => nofun, fun _ takes => absurd refuses takes⟩
  rw [goes, drawRest]
  by_cases long : capacity < args.array.length
  · simp only [long, true_or, iff_true]
    rw [if_neg (Nat.not_le.mpr long)]
    exact ⟨nofun, fun _ _ => nofun, fun short => absurd long (Nat.not_lt.mpr short)⟩
  have short := Nat.not_lt.mp long
  rw [if_pos short]
  cases kept : pairs mp_obj_get_int args.array with
  | none =>
    have refused := refuses.mpr kept
    simp only [refused, true_or, or_true, iff_true]
    exact ⟨nofun, fun _ _ => nofun, fun _ takes => absurd refused takes⟩
  | some points =>
    have takes : ¬Refuses mp_obj_get_int args := fun refused =>
      absurd ((refuses.mp refused).symm.trans kept) nofun
    have inside := bound _ _ (pairs_length kept).1 short
    simp only [long, takes, false_or, handOver, if_pos inside, Except.map]
    constructor
    · intro draws others same
      obtain rfl := Option.some.inj same
      obtain ⟨drawing, same, stored⟩ := draws.exact_ short takes points kept
      obtain rfl := Option.some.inj (Except.ok.inj same)
      exact map_filled.mp stored
    · intro passes
      refine ⟨nofun, fun tooLong => absurd tooLong long, fun _ _ others same => ?_⟩
      obtain rfl := Option.some.inj (same.symm.trans kept)
      exact ⟨_, rfl, map_filled.mpr (passes _ rfl)⟩

/-- Passing `i` is right only where nothing is left out. -/
theorem draw_elements_iff :
    DrawsPairs mp_obj_get_int args (draw mp_obj_get_int routine (fun i _ => i) args) ↔
      capacity < args.array.length ∨ Refuses mp_obj_get_int args ∨
        ∀ element ∈ args.array, element.length = 2 := by
  rw [draw_drawsPairs_iff fun i j _ within => within]
  refine or_congr_right (or_congr_right' fun takes => ?_)
  have some_ : pairs mp_obj_get_int args.array ≠ none := fun none_ =>
    takes (.inr (.inr (.inr none_)))
  obtain ⟨points, kept⟩ := Option.ne_none_iff_exists'.mp some_
  constructor
  · exact fun passes => (pairs_length kept).2.mp (passes points kept).symm
  · intro all others same
    exact ((pairs_length same).2.mpr all).symm

end Draw

end TildaMk4.Ugfx
