import Mathlib.Data.List.Perm.Subperm
import Mathlib.Data.List.Induction
import TildaMk4.Lib.Transition

/-!
# What is spent was earned before

Some observations earn, some spend, some let a credit expire, and nothing is saved up: what was
earned since the last spending, and has not expired, pays for one. Histories in which every
spending was paid for spend no more often than they earn; with a separate credit for each of
any number of keys, what was spent is, in some order, a part of what was earned.
-/

namespace TildaMk4.Credit

open Transition

universe u v

variable {Obs : Type u}

section One

variable (earns spends expires : Obs → Bool)

/-- Something was earned, and has neither been spent nor expired since. -/
def Unspent (history : List Obs) : Bool :=
  history.foldl (fun unspent o => !spends o && !expires o && (earns o || unspent)) false

@[simp] theorem unspent_concat (history : List Obs) (o : Obs) :
    Unspent earns spends expires (history ++ [o]) =
      (!spends o && !expires o && (earns o || Unspent earns spends expires history)) :=
  List.foldl_concat ..

/-- Every spending was paid for. -/
def Paid (history : List Obs) : Prop :=
  Along (fun before o => spends o = true → Unspent earns spends expires before = true) history

variable {earns spends expires} {history : List Obs} {o : Obs}

theorem unspent_keep (unspent : Unspent earns spends expires history = true)
    (keeps : spends o = false) (lasts : expires o = false) :
    Unspent earns spends expires (history ++ [o]) = true := by
  rw [unspent_concat, keeps, lasts, unspent]
  simp

theorem unspent_earn (earned : earns o = true) (keeps : spends o = false)
    (lasts : expires o = false) : Unspent earns spends expires (history ++ [o]) = true := by
  rw [unspent_concat, keeps, lasts, earned]
  simp

theorem Paid.spend (paid : Paid earns spends expires history)
    (unspent : Unspent earns spends expires history = true) :
    Paid earns spends expires (history ++ [o]) :=
  paid.concat fun _ => unspent

theorem Paid.keep (paid : Paid earns spends expires history) (keeps : spends o = false) :
    Paid earns spends expires (history ++ [o]) :=
  paid.concat fun spent => absurd spent (Bool.eq_false_iff.mp keeps)

theorem paid_concat :
    Paid earns spends expires (history ++ [o]) ↔ Paid earns spends expires history ∧
      (spends o = true → Unspent earns spends expires history = true) :=
  along_concat

/-- By induction over the history, a credit that is left being counted with what was spent. -/
theorem Paid.countP_le (paid : Paid earns spends expires history) :
    history.countP spends + (Unspent earns spends expires history).toNat ≤
      history.countP earns := by
  induction history using List.reverseRecOn with
  | nil => exact Nat.le_refl 0
  | append_singleton history o ih =>
    obtain ⟨before, pays⟩ := paid_concat.mp paid
    have counted := ih before
    rw [unspent_concat, List.countP_append, List.countP_append, List.countP_singleton,
      List.countP_singleton]
    cases spent : spends o with
    | true =>
      rw [pays spent] at counted
      simp only [Bool.toNat_true] at counted
      simp
      omega
    | false =>
      cases expired : expires o with
      | true =>
        simp
        omega
      | false =>
        cases earned : earns o with
        | true => simp; omega
        | false => simpa using counted

end One

section Keys

variable {Key : Type v} [DecidableEq Key] (earner spender expirer : Obs → Option Key)

/-- The credits of the keys apart from each other. -/
def UnspentBy (key : Key) : List Obs → Bool :=
  Unspent (fun o => earner o == some key) (fun o => spender o == some key)
    fun o => expirer o == some key

def PaidBy (key : Key) : List Obs → Prop :=
  Paid (fun o => earner o == some key) (fun o => spender o == some key)
    fun o => expirer o == some key

variable {earner spender expirer} {history : List Obs}

/-- Every key has spent no more often than it has earned. -/
theorem subperm_of_paid (paid : ∀ key, PaidBy earner spender expirer key history) :
    (history.filterMap spender).Subperm (history.filterMap earner) := by
  refine List.subperm_ext_iff.mpr fun key _ => ?_
  rw [List.count_filterMap, List.count_filterMap]
  exact Nat.le_of_add_right_le (paid key).countP_le

end Keys

end TildaMk4.Credit
