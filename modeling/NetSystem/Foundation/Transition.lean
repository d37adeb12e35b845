import Mathlib.Logic.Basic

namespace NetSystem

universe u v w

/-!
# Labelled runs

A step relation says which states one labelled step may lead to.  A run is a
finite sequence of labels with the states between them.  Properties of whole
runs are obtained from single steps: an invariant is kept along every run, and
a relation that every concrete step can be matched under is kept along a run
together with a matching abstract run.
-/

/-- A run of the labels from the first state to the last. -/
inductive Run {σ : Type u} {ι : Type v} (step : σ -> ι -> σ -> Prop) : σ -> List ι -> σ -> Prop
  | nil (state : σ) : Run step state [] state
  | cons {state middle last : σ} {label : ι} {labels : List ι} :
      step state label middle -> Run step middle labels last ->
      Run step state (label :: labels) last

namespace Run

variable {σ : Type u} {τ : Type w} {ι : Type v}
  {step : σ -> ι -> σ -> Prop} {abstractStep : τ -> ι -> τ -> Prop}

theorem single {state next : σ} {label : ι} (once : step state label next) :
    Run step state [label] next :=
  .cons once (.nil next)

theorem append {first middle last : σ} {before after : List ι}
    (left : Run step first before middle) (right : Run step middle after last) :
    Run step first (before ++ after) last := by
  induction left with
  | nil => exact right
  | cons once _ inductionHypothesis => exact .cons once (inductionHypothesis right)

/-- A run of labels in two parts passes through a state between them. -/
theorem split {first last : σ} {before after : List ι} (run : Run step first (before ++ after) last) :
    Exists fun middle => Run step first before middle ∧ Run step middle after last := by
  induction before generalizing first with
  | nil => exact ⟨first, .nil first, run⟩
  | cons label before inductionHypothesis =>
      cases run with
      | cons once rest =>
          rcases inductionHypothesis rest with ⟨middle, left, right⟩
          exact ⟨middle, .cons once left, right⟩

theorem of_single {state next : σ} {label : ι} (run : Run step state [label] next) :
    step state label next := by
  cases run with
  | cons once rest =>
      cases rest
      exact once

/-- A call that is known to return after a run returns after that run. -/
theorem of_returned {first last : σ} {labels : List ι} {call : Option σ}
    (returns : Exists fun result => call = some result ∧ Run step first labels result)
    (returned : call = some last) : Run step first labels last := by
  rcases returns with ⟨result, same, run⟩
  rw [same] at returned
  cases returned
  exact run

/-- A run of steps that are also steps of another relation. -/
theorem mono {other : σ -> ι -> σ -> Prop}
    (implied : forall state label next, step state label next -> other state label next)
    {first last : σ} {labels : List ι} (run : Run step first labels last) :
    Run other first labels last := by
  induction run with
  | nil => exact .nil _
  | cons once _ inductionHypothesis => exact .cons (implied _ _ _ once) inductionHypothesis

/-- Where the steps are computed, performing the labels in order is a run. -/
theorem of_foldlM {perform : σ -> ι -> Option σ} {first last : σ} (labels : List ι)
    (done : labels.foldlM perform first = some last) :
    Run (fun state label next => perform state label = some next) first labels last := by
  induction labels generalizing first with
  | nil =>
      cases done
      exact .nil _
  | cons label labels inductionHypothesis =>
      rw [List.foldlM_cons] at done
      rcases Option.bind_eq_some_iff.mp done with ⟨middle, once, rest⟩
      exact .cons once (inductionHypothesis rest)

theorem foldlM_eq {perform : σ -> ι -> Option σ} {first last : σ} {labels : List ι}
    (run : Run (fun state label next => perform state label = some next) first labels last) :
    labels.foldlM perform first = some last := by
  induction run with
  | nil => rfl
  | cons once _ inductionHypothesis =>
      rw [List.foldlM_cons, once]
      exact inductionHypothesis

/-- An invariant of the steps holds at the end of every run. -/
theorem invariant (Invariant : σ -> Prop)
    (keep : forall state label next, Invariant state -> step state label next -> Invariant next)
    {first last : σ} {labels : List ι} (run : Run step first labels last)
    (start : Invariant first) : Invariant last := by
  induction run with
  | nil => exact start
  | cons once _ inductionHypothesis => exact inductionHypothesis (keep _ _ _ start once)

/-- An invariant of the steps with the labels of the run. -/
theorem invariant_mem (Invariant : σ -> Prop) {first last : σ} {labels : List ι}
    (run : Run step first labels last)
    (keep : forall state label next, label ∈ labels -> Invariant state ->
      step state label next -> Invariant next)
    (start : Invariant first) : Invariant last := by
  induction run with
  | nil => exact start
  | cons once _ inductionHypothesis =>
      refine inductionHypothesis (fun state label next member => ?_)
        (keep _ _ _ (List.mem_cons_self ..) start once)
      exact keep state label next (List.mem_cons_of_mem _ member)

/-- Two kinds of steps that are the same under an invariant have the same runs. -/
theorem congr {other : σ -> ι -> σ -> Prop} (Invariant : σ -> Prop)
    (agree : forall state label next, Invariant state ->
      (step state label next ↔ other state label next))
    (keep : forall state label next, Invariant state -> step state label next -> Invariant next)
    {first last : σ} {labels : List ι} (start : Invariant first) :
    Run step first labels last ↔ Run other first labels last := by
  constructor
  · intro run
    induction run with
    | nil => exact .nil _
    | cons once _ inductionHypothesis =>
        exact .cons ((agree _ _ _ start).mp once) (inductionHypothesis (keep _ _ _ start once))
  · intro run
    induction run with
    | nil => exact .nil _
    | cons once _ inductionHypothesis =>
        have matched := (agree _ _ _ start).mpr once
        exact .cons matched (inductionHypothesis (keep _ _ _ start matched))

end Run
end NetSystem
