import Mathlib.Data.List.Nodup
import NetSystem.Foundation.Transition

namespace NetSystem

universe u v w

/-!
# Loops that act on some of the items

A loop visits items one after the other and acts on those that pass a test of
the state it finds.  Where acting on one item does not change the test of any
other, the items acted on are those that pass the test in the first state, also
when the loop stops after a number of them.
-/

namespace Scan

variable {σ : Type u} {ι : Type v}

/-- A loop over all items. -/
def all (test : σ -> ι -> Bool) (act : σ -> ι -> Option σ) : σ -> List ι -> Option σ
  | state, [] => some state
  | state, item :: items =>
      if test state item then (act state item).bind fun next => all test act next items
      else all test act state items

/-- A loop that stops after the given number of acts, but not before the first. -/
def upTo (test : σ -> ι -> Bool) (act : σ -> ι -> Option σ) (number : Nat) :
    σ -> List ι -> Option σ
  | state, [] => some state
  | state, item :: items =>
      if test state item then
        (act state item).bind fun next =>
          if number ≤ 1 then some next else upTo test act (number - 1) next items
      else upTo test act number state items

/-- Acting on an item that passes the test succeeds, keeps an invariant, and
leaves the test of the other items alone. -/
structure Independent (Invariant : σ -> Prop) (test : σ -> ι -> Bool) (act : σ -> ι -> Option σ)
    (result : σ -> ι -> σ) : Prop where
  acts : forall state item, Invariant state -> test state item = true ->
    act state item = some (result state item)
  keeps : forall state item, Invariant state -> test state item = true ->
    Invariant (result state item)
  frame : forall state item other, Invariant state -> test state item = true -> other ≠ item ->
    test (result state item) other = test state other

variable {Invariant : σ -> Prop} {test : σ -> ι -> Bool} {act : σ -> ι -> Option σ}
  {result : σ -> ι -> σ}

/-- The test of the later items is as it was. -/
theorem Independent.filter_eq (independent : Independent Invariant test act result) {state : σ}
    {item : ι} {items : List ι} (holds : Invariant state) (passes : test state item = true)
    (fresh : item ∉ items) : items.filter (test (result state item)) = items.filter (test state) := by
  apply List.filter_congr
  intro other member
  apply independent.frame state item other holds passes
  intro same
  exact fresh (same ▸ member)

theorem Independent.all_eq (independent : Independent Invariant test act result) {items : List ι}
    (distinct : items.Nodup) {state : σ} (holds : Invariant state) :
    all test act state items = some ((items.filter (test state)).foldl result state) := by
  induction items generalizing state with
  | nil => rfl
  | cons item items inductionHypothesis =>
      rcases List.nodup_cons.mp distinct with ⟨fresh, rest⟩
      by_cases passes : test state item = true
      · have kept := independent.keeps state item holds passes
        rw [all, if_pos passes, independent.acts state item holds passes, Option.bind_some,
          inductionHypothesis rest kept, independent.filter_eq holds passes fresh,
          List.filter_cons_of_pos passes]
        rfl
      · rw [all, if_neg passes, List.filter_cons_of_neg passes]
        exact inductionHypothesis rest holds

theorem Independent.upTo_eq (independent : Independent Invariant test act result)
    {items : List ι} (distinct : items.Nodup) {state : σ} (holds : Invariant state)
    {number : Nat} (positive : 0 < number) :
    upTo test act number state items =
      some (((items.filter (test state)).take number).foldl result state) := by
  induction items generalizing state number with
  | nil =>
      rw [upTo, List.filter_nil, List.take_nil]
      rfl
  | cons item items inductionHypothesis =>
      rcases List.nodup_cons.mp distinct with ⟨fresh, rest⟩
      by_cases passes : test state item = true
      · have kept := independent.keeps state item holds passes
        rw [upTo, if_pos passes, independent.acts state item holds passes, Option.bind_some,
          List.filter_cons_of_pos passes]
        rcases Nat.exists_eq_succ_of_ne_zero (Nat.pos_iff_ne_zero.mp positive) with ⟨fewer, rfl⟩
        by_cases last : fewer = 0
        · rw [last, if_pos (Nat.le_refl 1)]
          rfl
        · rw [if_neg (by omega), Nat.succ_sub_one,
            inductionHypothesis rest kept (Nat.pos_of_ne_zero last),
            independent.filter_eq holds passes fresh]
          rfl
      · rw [upTo, if_neg passes, List.filter_cons_of_neg passes]
        exact inductionHypothesis rest holds positive

/-- A loop over all items whose acts always succeed. -/
theorem all_of_total (test : σ -> ι -> Bool) (result : σ -> ι -> σ) (state : σ) (items : List ι) :
    all test (fun state item => some (result state item)) state items =
      some (items.foldl (fun state item => if test state item then result state item else state)
        state) := by
  induction items generalizing state with
  | nil => rfl
  | cons item items inductionHypothesis =>
      rw [all, List.foldl_cons]
      by_cases passes : test state item = true
      · rw [if_pos passes, if_pos passes, Option.bind_some, inductionHypothesis]
      · rw [if_neg passes, if_neg passes, inductionHypothesis]

/-- Acting on a list of distinct items is a run of labelled steps, where each item is
still to be acted on when its turn comes. -/
theorem foldl_run {κ : Type w} {step : σ -> κ -> σ -> Prop} {label : ι -> κ}
    (Pending : σ -> ι -> Prop)
    (steps : forall state item, Pending state item -> step state (label item) (result state item))
    (frame : forall state item other, Pending state item -> other ≠ item ->
      Pending state other -> Pending (result state item) other)
    {items : List ι} (distinct : items.Nodup) {state : σ}
    (pending : forall item, item ∈ items -> Pending state item) :
    Run step state (items.map label) (items.foldl result state) := by
  induction items generalizing state with
  | nil => exact .nil state
  | cons item items inductionHypothesis =>
      rcases List.nodup_cons.mp distinct with ⟨fresh, rest⟩
      have here := pending item (List.mem_cons_self ..)
      refine .cons (steps state item here) (inductionHypothesis rest ?_)
      intro other member
      refine frame state item other here ?_ (pending other (List.mem_cons_of_mem _ member))
      intro same
      exact fresh (same ▸ member)

end Scan
end NetSystem
