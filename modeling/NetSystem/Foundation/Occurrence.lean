import Mathlib.Data.List.Infix

namespace NetSystem

universe u

/-!
# The leftmost occurrence of one list in another

A needle occurs in a list at a position if it is a prefix of what is left of the list
from there on.  `leftmost` finds the first such position.
-/

variable {α : Type u} [DecidableEq α]

/-- The first position at which the needle occurs. -/
def leftmost (needle : List α) : List α -> Option Nat
  | [] => if needle = [] then some 0 else none
  | head :: rest =>
      if needle <+: head :: rest then some 0 else (leftmost needle rest).map (· + 1)

variable {needle : List α}

theorem leftmost_eq_none_iff {list : List α} :
    leftmost needle list = none ↔ ¬ needle <:+: list := by
  induction list with
  | nil => simp [leftmost]
  | cons head rest inductionHypothesis =>
      rw [leftmost]
      by_cases here : needle <+: head :: rest
      · simp [here, here.isInfix]
      · rw [if_neg here, Option.map_eq_none_iff, inductionHypothesis, List.infix_cons_iff]
        simp [here]

theorem leftmost_eq_some_iff {list : List α} (nonempty : needle ≠ []) {position : Nat} :
    leftmost needle list = some position ↔
      needle <+: list.drop position ∧ forall earlier, earlier < position ->
        ¬ needle <+: list.drop earlier := by
  induction list generalizing position with
  | nil => simp [leftmost, nonempty]
  | cons head rest inductionHypothesis =>
      rw [leftmost]
      by_cases here : needle <+: head :: rest
      · rw [if_pos here]
        constructor
        · rintro same
          cases same
          exact ⟨here, fun earlier below => absurd below (Nat.not_lt_zero _)⟩
        · rintro ⟨_, none_before⟩
          cases position with
          | zero => rfl
          | succ position => exact absurd here (none_before 0 (Nat.succ_pos _))
      · rw [if_neg here, Option.map_eq_some_iff]
        constructor
        · rintro ⟨before, found, rfl⟩
          rcases inductionHypothesis.mp found with ⟨occurs, none_before⟩
          refine ⟨occurs, fun earlier below => ?_⟩
          cases earlier with
          | zero => exact here
          | succ earlier => exact none_before earlier (Nat.lt_of_succ_lt_succ below)
        · rintro ⟨occurs, none_before⟩
          cases position with
          | zero => exact absurd occurs here
          | succ position =>
              refine ⟨position, inductionHypothesis.mpr ⟨occurs, fun earlier below => ?_⟩, rfl⟩
              exact none_before (earlier + 1) (Nat.succ_lt_succ below)

/-- No occurrence in a list that is too short. -/
theorem leftmost_of_short {list : List α} (short : list.length < needle.length) :
    leftmost needle list = none := by
  rw [leftmost_eq_none_iff]
  intro inside
  exact absurd inside.length_le (Nat.not_le.mpr short)

theorem leftmost_cons_of_not (head : α) {rest : List α} (elsewhere : ¬ needle <+: head :: rest) :
    leftmost needle (head :: rest) = (leftmost needle rest).map (· + 1) := by
  rw [leftmost, if_neg elsewhere]

theorem leftmost_of_prefix {list : List α} (here : needle <+: list) :
    leftmost needle list = some 0 := by
  cases list with
  | nil => rw [leftmost, if_pos (List.prefix_nil.mp here)]
  | cons head rest => rw [leftmost, if_pos here]

/-- An occurrence starts where the first element of the needle does. -/
theorem leftmost_of_first {first : α} {needle list : List α} :
    leftmost (first :: needle) list =
      (list.idxOf? first).bind fun position =>
        (leftmost (first :: needle) (list.drop position)).map (· + position) := by
  induction list with
  | nil => rfl
  | cons head rest inductionHypothesis =>
      rw [List.idxOf?_cons]
      by_cases same : head = first
      · rw [if_pos (beq_iff_eq.mpr same), Option.bind_some, List.drop_zero]
        simp
      · have elsewhere : ¬ first :: needle <+: head :: rest := by
          rw [List.cons_prefix_cons]
          exact fun both => same both.1.symm
        rw [leftmost_cons_of_not head elsewhere, inductionHypothesis,
          if_neg (fun equal => same (beq_iff_eq.mp equal))]
        cases rest.idxOf? first with
        | none => rfl
        | some position =>
            simp [Option.map_map, Function.comp_def, Nat.add_assoc]

end NetSystem
