import Mathlib.Data.List.Basic

namespace NetSystem

universe u

/-!
# Items of a list and those before them

Queues and logs grow at the end.  A property that relates every item to the
items in front of it is kept when an item is added that has the property there.
-/

/-- Every item is in the relation to the items in front of it. -/
def EachAfter {α : Type u} (relation : List α -> α -> Prop) (items : List α) : Prop :=
  forall before item after, items = before ++ item :: after -> relation before item

namespace EachAfter

variable {α : Type u} {relation other : List α -> α -> Prop} {items : List α} {item : α}

theorem nil : EachAfter relation [] := by
  intro before item after split
  have sizes := congrArg List.length split
  simp at sizes

theorem append (each : EachAfter relation items) (last : relation items item) :
    EachAfter relation (items ++ [item]) := by
  intro before found after split
  rcases List.append_eq_append_iff.mp split with ⟨front, rfl, rest⟩ | ⟨front, rfl, rest⟩
  · cases front with
    | nil =>
        cases rest
        rw [List.append_nil]
        exact last
    | cons head front => cases front <;> cases rest
  · cases front with
    | nil =>
        cases rest
        rw [List.append_nil] at last
        exact last
    | cons head front =>
        cases rest
        exact each before _ front rfl

/-- An item is put in front. -/
theorem cons (first : relation [] item)
    (rest : EachAfter (fun before => relation (item :: before)) items) :
    EachAfter relation (item :: items) := by
  intro before found after split
  cases before with
  | nil =>
      cases split
      exact first
  | cons head before =>
      cases split
      exact rest before found after rfl

theorem head (each : EachAfter relation (item :: items)) : relation [] item :=
  each [] item items rfl

theorem tail (each : EachAfter relation (item :: items)) :
    EachAfter (fun before => relation (item :: before)) items := by
  rintro before found after rfl
  exact each (item :: before) found after rfl

theorem mono (each : EachAfter relation items)
    (weaker : forall before found, relation before found -> other before found) :
    EachAfter other items := by
  intro before found after split
  exact weaker before found (each before found after split)

/-- The relation holds of every item, whatever lies before it. -/
theorem of_forall (always : forall found, found ∈ items -> forall before, relation before found) :
    EachAfter relation items := by
  rintro before found after rfl
  exact always found (List.mem_append_right _ (List.mem_cons_self ..)) before

end EachAfter
end NetSystem
