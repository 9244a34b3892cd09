import TildaMk4.Net.InetAddr

/-!
# `inet_aton` on memory

The loops of `inet_aton` with their cursor and the array `Val`. A pointer into the
string is what is left of it, the terminator included, so that an access past the
terminator has nothing to read. On a terminated string no access fails, and the result
is that of `inetAton`.
-/

namespace TildaMk4.Net

/-- An access that C does not define. -/
inductive Fault
  | pastTerminator
  | valIndex
  deriving DecidableEq

def nul : Char := '\x00'

/-- `Val[Sect]` -/
def valAt (vals : List UInt32) (sect : Nat) : Except Fault UInt32 :=
  match vals[sect]? with
  | some val => .ok val
  | none => .error .valIndex

def setVal (vals : List UInt32) (sect : Nat) (val : UInt32) : Except Fault (List UInt32) :=
  if sect < vals.length then .ok (vals.set sect val) else .error .valIndex

/-- How the loop over the digits is left. -/
inductive Decoded
  | break_ (vals : List UInt32) (str : List Char)
  | done (vals : List UInt32)
  | return0

/-- "Now decode this number" -/
def decodeAt (base : UInt32) (sect : Nat) (vals : List UInt32) : List Char → Except Fault Decoded
  | [] => .error .pastTerminator
  | c :: str =>
    match digit? base c with
    | some digit =>
      match valAt vals sect with
      | .error fault => .error fault
      | .ok val =>
        match setVal vals sect (val * base + digit) with
        | .error fault => .error fault
        | .ok vals' => decodeAt base sect vals' str
    | none =>
      if c = '.' then
        match valAt vals sect with
        | .error fault => .error fault
        | .ok val =>
          if 255 < val then .ok .return0
          else if sect = 3 then .ok (.done vals)
          else .ok (.break_ vals str)
      else if c = nul then .ok (.done vals)
      else if c ≠ ' ' then .ok .return0
      else decodeAt base sect vals str

/-- "Get the base for this number" -/
def getBaseAt : List Char → Except Fault (UInt32 × List Char)
  | [] => .error .pastTerminator
  | '0' :: [] => .error .pastTerminator
  | '0' :: c :: str => if c = 'x' ∨ c = 'X' then .ok (16, str) else .ok (8, c :: str)
  | c :: str => .ok (10, c :: str)

theorem length_of_getBaseAt {str digits : List Char} {base : UInt32}
    (found : getBaseAt str = .ok (base, digits)) : digits.length ≤ str.length := by
  unfold getBaseAt at found
  split at found
  · cases found
  · cases found
  · split at found
    all_goals
      cases found
      simp only [List.length_cons]
      omega
  · cases found
    exact Nat.le_refl _

/-- The next section lies behind the dot that was read. -/
theorem length_of_decodeAt {base : UInt32} {sect : Nat} {vals vals' : List UInt32}
    {str rest : List Char} (found : decodeAt base sect vals str = .ok (.break_ vals' rest)) :
    rest.length < str.length := by
  induction str generalizing vals with
  | nil => cases found
  | cons c str ih =>
    have later {vals} (found : decodeAt base sect vals str = .ok (.break_ vals' rest)) :
        rest.length < (c :: str).length :=
      Nat.lt_of_lt_of_le (ih found) (Nat.le_succ _)
    rw [decodeAt] at found
    split at found
    next =>
      split at found
      next => cases found
      next =>
        split at found
        next => cases found
        next => exact later found
    next =>
      split at found
      next =>
        split at found
        next => cases found
        next =>
          split at found
          next => cases found
          next =>
            split at found
            next => cases found
            next =>
              cases found
              exact Nat.lt_succ_self _
      next =>
        split at found
        next => cases found
        next =>
          split at found
          next => cases found
          next => exact later found

/-- The loop over the sections; `begun` is `Sect + 1`. -/
def loopAt (begun : Nat) (vals : List UInt32) (str : List Char) :
    Except Fault (Option (Nat × List UInt32)) :=
  match str with
  | [] => .error .pastTerminator
  | c :: str' =>
    if c = nul then .ok (some (begun, vals))
    else
      match _based : getBaseAt (c :: str') with
      | .error fault => .error fault
      | .ok (base, digits) =>
        match setVal vals begun 0 with
        | .error fault => .error fault
        | .ok cleared =>
          match _decoded : decodeAt base begun cleared digits with
          | .error fault => .error fault
          | .ok .return0 => .ok none
          | .ok (.done vals') => .ok (some (begun + 1, vals'))
          | .ok (.break_ vals' rest) => loopAt (begun + 1) vals' rest
termination_by str.length
decreasing_by
  exact Nat.lt_of_lt_of_le (length_of_decodeAt _decoded) (length_of_getBaseAt _based)

/-- "What we do changes based on the number of sections" -/
def switchAt (begun : Nat) (vals : List UInt32) : Except Fault (Option UInt32) :=
  match begun with
  | 1 => do
    let a ← valAt vals 0
    return some a
  | 2 => do
    let a ← valAt vals 0
    let b ← valAt vals 1
    return if 0xffffff < b then none else some ((a <<< 24) + b)
  | 3 => do
    let a ← valAt vals 0
    let b ← valAt vals 1
    let c ← valAt vals 2
    return if 0xffff < c then none else some ((a <<< 24) + (b <<< 16) + c)
  | 4 => do
    let a ← valAt vals 0
    let b ← valAt vals 1
    let c ← valAt vals 2
    let d ← valAt vals 3
    return if 0xff < d then none else some ((a <<< 24) + (b <<< 16) + (c <<< 8) + d)
  | _ => return none

/-- `inet_aton` with what the stack holds in `Val`: `s_addr`, or `none` for the result 0. -/
def inetAtonAt (vals : List UInt32) (str : List Char) : Except Fault (Option UInt32) := do
  match ← loopAt 0 vals str with
  | none => return none
  | some (begun, vals') => return (← switchAt begun vals').map htonl

/-! ## On a terminated string -/

theorem valAt_of_lt {vals : List UInt32} {sect : Nat} (inside : sect < vals.length) :
    valAt vals sect = .ok vals[sect] := by
  rw [valAt, List.getElem?_eq_getElem inside]

theorem setVal_of_lt {vals : List UInt32} {sect : Nat} (inside : sect < vals.length)
    (val : UInt32) : setVal vals sect val = .ok (vals.set sect val) :=
  if_pos inside

theorem digit?_nul (base : UInt32) : digit? base nul = none := by
  simp [digit?, nul, Char.le_def]

/-- What the loop over the digits makes of a result of `decodeNumber`. -/
def leave (sect : Nat) (vals : List UInt32) : Section → Decoded
  | .bad => .return0
  | .ended val => .done (vals.set sect val)
  | .dot val rest =>
    if 255 < val then .return0
    else if sect = 3 then .done (vals.set sect val)
    else .break_ (vals.set sect val) (rest ++ [nul])

theorem decodeAt_terminated (base : UInt32) {sect : Nat} {str : List Char} (fresh : nul ∉ str) :
    ∀ {vals : List UInt32} (inside : sect < vals.length),
      decodeAt base sect vals (str ++ [nul]) =
        .ok (leave sect vals (decodeNumber base vals[sect] str)) := by
  induction str with
  | nil =>
    intro vals inside
    have dot : nul ≠ '.' := by decide
    rw [List.nil_append, decodeAt, digit?_nul]
    simp [dot, decodeNumber, leave, List.set_getElem_self]
  | cons c str ih =>
    intro vals inside
    simp only [List.mem_cons, not_or] at fresh
    obtain ⟨notNul, fresh⟩ := fresh
    rw [List.cons_append, decodeAt, decodeNumber]
    cases found : digit? base c with
    | some digit =>
      have added : sect < (vals.set sect (vals[sect] * base + digit)).length := by
        simpa using inside
      simp only [valAt_of_lt inside, setVal_of_lt inside, ih fresh added, List.getElem_set_self]
      simp only [leave, List.set_set]
    | none =>
      by_cases dot : c = '.'
      · simp only [dot, if_true, valAt_of_lt inside, leave, List.set_getElem_self]
        split_ifs <;> rfl
      · by_cases blank : c = ' '
        · subst blank
          simp only [dot, Ne.symm notNul, if_false, ne_eq, not_true_eq_false]
          exact ih fresh inside
        · simp [dot, Ne.symm notNul, blank, leave]

theorem getBaseAt_terminated (c : Char) (str : List Char) :
    getBaseAt (c :: str ++ [nul]) =
      .ok ((getBase (c :: str)).1, (getBase (c :: str)).2 ++ [nul]) := by
  by_cases octal : c = '0'
  · subst octal
    match str with
    | [] => rfl
    | d :: str =>
      by_cases hex : d = 'x'
      · subst hex
        rfl
      · by_cases heX : d = 'X'
        · subst heX
          rfl
        · simp [getBaseAt, getBase, hex, heX]
  · simp [getBaseAt, getBase, octal]

theorem mem_of_mem_getBase {x : Char} {str : List Char} (member : x ∈ (getBase str).2) :
    x ∈ str := by
  unfold getBase at member
  split at member
  next => exact List.mem_cons_of_mem _ (List.mem_cons_of_mem _ member)
  next => exact List.mem_cons_of_mem _ (List.mem_cons_of_mem _ member)
  next => exact List.mem_cons_of_mem _ member
  next => exact member

theorem loopAt_section {begun : Nat} {vals : List UInt32} {c : Char} {str : List Char}
    (inside : begun < vals.length) (fresh : nul ∉ c :: str) :
    loopAt begun vals (c :: str ++ [nul]) =
      match leave begun vals (decodeSection (c :: str)) with
      | .return0 => .ok none
      | .done vals' => .ok (some (begun + 1, vals'))
      | .break_ vals' rest => loopAt (begun + 1) vals' rest := by
  have notNul : c ≠ nul := fun same => fresh (same ▸ List.mem_cons_self ..)
  have based := getBaseAt_terminated c str
  have cleared := setVal_of_lt inside 0
  have zeroed : begun < (vals.set begun 0).length := by simpa using inside
  have decoded := decodeAt_terminated (getBase (c :: str)).1
    (fun member => fresh (mem_of_mem_getBase member)) zeroed
  rw [List.getElem_set_self, ← decodeSection] at decoded
  have same : leave begun (vals.set begun 0) (decodeSection (c :: str)) =
      leave begun vals (decodeSection (c :: str)) := by
    cases decodeSection (c :: str) <;> simp [leave]
  rw [same] at decoded
  simp only [List.cons_append] at based ⊢
  rw [loopAt, if_neg notNul]
  split
  next fault failed =>
    have differs := based.symm.trans failed
    cases differs
  next base digits ok =>
    obtain ⟨rfl, rfl⟩ := Prod.mk.inj (Except.ok.inj (based.symm.trans ok))
    rw [cleared]
    dsimp only
    split
    next fault failed =>
      have differs := decoded.symm.trans failed
      cases differs
    next ok => rw [Except.ok.inj (decoded.symm.trans ok)]
    next vals' ok => rw [Except.ok.inj (decoded.symm.trans ok)]
    next vals' rest ok => rw [Except.ok.inj (decoded.symm.trans ok)]

theorem mem_of_mem_rest {base val val' : UInt32} {x : Char} {str rest : List Char}
    (decoded : decodeNumber base val str = .dot val' rest) (member : x ∈ rest) : x ∈ str := by
  induction str generalizing val with
  | nil => cases decoded
  | cons c str ih =>
    rw [decodeNumber] at decoded
    split at decoded
    next => exact List.mem_cons_of_mem _ (ih decoded)
    next =>
      split at decoded
      next =>
        cases decoded
        exact List.mem_cons_of_mem _ member
      next =>
        split at decoded
        next => cases decoded
        next => exact List.mem_cons_of_mem _ (ih decoded)

section Stored

variable {begun : Nat} {vals : List UInt32} (inside : begun < vals.length) (val : UInt32)

include inside

/-- The values read so far, and behind them what is not part of the result. -/
theorem set_begun :
    vals.set begun val = (vals.take begun ++ [val]) ++ vals.drop (begun + 1) := by
  rw [List.set_eq_take_append_cons_drop, if_pos inside, List.append_assoc, List.singleton_append]

theorem length_begun : (vals.take begun ++ [val]).length = begun + 1 := by
  rw [List.length_append, List.length_take_of_le (Nat.le_of_lt inside), List.length_singleton]

theorem take_begun : (vals.set begun val).take (begun + 1) = vals.take begun ++ [val] := by
  rw [set_begun inside]
  exact List.take_left' (length_begun inside val)

end Stored

theorem loopAt_nul {begun : Nat} {vals : List UInt32} (inside : begun ≤ vals.length) :
    loopAt begun vals ([] ++ [nul]) = .ok ((some (vals.take begun)).map fun read =>
      (read.length, read ++ vals.drop begun)) := by
  rw [List.nil_append, loopAt, if_pos rfl, Option.map_some, List.take_append_drop,
    List.length_take_of_le inside]

theorem done_begun {begun : Nat} {vals : List UInt32} (inside : begun < vals.length)
    (val : UInt32) : (.ok (some (begun + 1, vals.set begun val)) : Except Fault _) =
      .ok ((some (vals.take begun ++ [val])).map fun read =>
        (read.length, read ++ vals.drop (begun + 1))) := by
  rw [Option.map_some, length_begun inside, set_begun inside]

/-- Every access of the loops lies inside `Val` and the string; the sections are those of
`decodeSections`. -/
theorem loopAt_terminated (more : Nat) : ∀ {begun : Nat} {vals : List UInt32} {str : List Char},
    begun + more = 3 → vals.length = 4 → nul ∉ str → ∃ junk,
      loopAt begun vals (str ++ [nul]) =
        .ok ((decodeSections more (vals.take begun) str).map fun read =>
          (read.length, read ++ junk)) := by
  induction more with
  | zero =>
    intro begun vals str sum four fresh
    have inside : begun < vals.length := by omega
    cases str with
    | nil => exact ⟨_, loopAt_nul (Nat.le_of_lt inside)⟩
    | cons c str =>
      rw [loopAt_section inside fresh, decodeSections]
      cases decodeSection (c :: str) with
      | bad => exact ⟨[], rfl⟩
      | ended val => exact ⟨_, done_begun inside val⟩
      | dot val rest =>
        by_cases big : 255 < val
        · exact ⟨[], by simp only [leave, if_pos big]; rfl⟩
        · have last : begun = 3 := by omega
          simp only [leave, if_neg big, if_pos last]
          exact ⟨_, done_begun inside val⟩
  | succ more ih =>
    intro begun vals str sum four fresh
    have inside : begun < vals.length := by omega
    cases str with
    | nil => exact ⟨_, loopAt_nul (Nat.le_of_lt inside)⟩
    | cons c str =>
      rw [loopAt_section inside fresh, decodeSections]
      cases decoded : decodeSection (c :: str) with
      | bad => exact ⟨[], rfl⟩
      | ended val => exact ⟨_, done_begun inside val⟩
      | dot val rest =>
        by_cases big : 255 < val
        · exact ⟨[], by simp only [leave, if_pos big]; rfl⟩
        · have notLast : begun ≠ 3 := by omega
          simp only [leave, if_neg big, if_neg notLast]
          rw [← take_begun inside]
          apply ih (by omega) (by simpa using four)
          exact fun member => fresh (mem_of_mem_getBase (mem_of_mem_rest decoded member))

theorem switchAt_read (read junk : List UInt32) :
    switchAt read.length (read ++ junk) = .ok (joinSections read) := by
  match read with
  | [] | [_] | [_, _] | [_, _, _] | [_, _, _, _] => rfl
  | _ :: _ :: _ :: _ :: _ :: _ => rfl

/-- On a terminated string no access fails, and the result is that of `inetAton`. -/
theorem inetAtonAt_terminated {vals : List UInt32} (four : vals.length = 4) {str : List Char}
    (fresh : nul ∉ str) : inetAtonAt vals (str ++ [nul]) = .ok (inetAton str) := by
  obtain ⟨junk, loop⟩ := loopAt_terminated 3 (Nat.zero_add 3) four fresh
  rw [List.take_zero] at loop
  rw [inetAtonAt, loop, inetAton]
  cases decodeSections 3 [] str with
  | none => rfl
  | some read =>
    change (do return (← switchAt read.length (read ++ junk)).map htonl) = _
    rw [switchAt_read]
    rfl

end TildaMk4.Net
