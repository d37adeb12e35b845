import Mathlib.Logic.Basic

namespace NetSystem

universe u v

/-!
# Loops given by their body

A loop is the function that performs one pass of its body, together with a
measure that every pass that goes round again decreases.  The measure is part
of the loop, so a loop of this type always ends; `Loop.exec` runs it to its
end and `Loop.run_measure` says that a bounded number of passes is enough.

An invariant of the loop is proved from one pass (`Loop.exec_rule`), and
`Loop.Visits` names the states in which the body is entered, for properties
that have to hold at every pass and not only at the end.
-/

/-- How one pass of a loop body ends. -/
inductive Turn (σ : Type u) where
  | again (next : σ)
  | halt (last : σ)

/-- The state a pass leads to, whether the loop goes on or not. -/
def Turn.result {σ : Type u} : Turn σ -> σ
  | .again next => next
  | .halt last => last

/-- The same end of a pass with its state carried along in another. -/
def Turn.map {σ : Type u} {τ : Type v} (embed : σ -> τ) : Turn σ -> Turn τ
  | .again next => .again (embed next)
  | .halt last => .halt (embed last)

/-- A loop body with the measure that makes it end. -/
structure Loop (σ : Type u) where
  turn : σ -> Turn σ
  measure : σ -> Nat
  decreases : forall state next, turn state = .again next -> measure next < measure state

namespace Loop

variable {σ : Type u} (loop : Loop σ)

/-- At most `fuel` passes; `none` when they were not enough. -/
def run : Nat -> σ -> Option σ
  | 0, _ => none
  | fuel + 1, state =>
      match loop.turn state with
      | .halt last => some last
      | .again next => run fuel next

/-- The state in which the loop ends. -/
def exec (state : σ) : σ :=
  (loop.run (loop.measure state + 1) state).getD state

theorem run_succ_halt {state last : σ} (stop : loop.turn state = .halt last) (fuel : Nat) :
    loop.run (fuel + 1) state = some last := by
  simp only [run, stop]

theorem run_succ_again {state next : σ} (more : loop.turn state = .again next) (fuel : Nat) :
    loop.run (fuel + 1) state = loop.run fuel next := by
  simp only [run, more]

/-- The measure bounds the number of passes, and more fuel does not change
the result. -/
theorem run_eq_of_measure_lt (fuel : Nat) (state : σ) (enough : loop.measure state < fuel) :
    loop.run fuel state = some (loop.exec state) := by
  suffices same : forall first second state, loop.measure state < first ->
      loop.measure state < second ->
      (loop.run first state).isSome ∧ loop.run first state = loop.run second state by
    have whole := same fuel (loop.measure state + 1) state enough (Nat.lt_succ_self _)
    rcases Option.isSome_iff_exists.mp whole.1 with ⟨last, found⟩
    have measured : loop.run (loop.measure state + 1) state = some last :=
      whole.2.symm.trans found
    rw [found, exec, measured]
    rfl
  intro first
  induction first with
  | zero => intro second state impossible; exact absurd impossible (Nat.not_lt_zero _)
  | succ first inductionHypothesis =>
      intro second state firstEnough secondEnough
      cases second with
      | zero => exact absurd secondEnough (Nat.not_lt_zero _)
      | succ second =>
          cases pass : loop.turn state with
          | halt last =>
              rw [loop.run_succ_halt pass, loop.run_succ_halt pass]
              exact ⟨rfl, rfl⟩
          | again next =>
              have smaller := loop.decreases state next pass
              rw [loop.run_succ_again pass, loop.run_succ_again pass]
              exact inductionHypothesis second next (by omega) (by omega)

/-- A loop ends within its measure. -/
theorem run_measure (state : σ) :
    loop.run (loop.measure state + 1) state = some (loop.exec state) :=
  loop.run_eq_of_measure_lt _ state (Nat.lt_succ_self _)

theorem exec_of_halt {state last : σ} (stop : loop.turn state = .halt last) :
    loop.exec state = last := by
  have ended := loop.run_measure state
  rw [loop.run_succ_halt stop] at ended
  exact (Option.some.inj ended).symm

theorem exec_of_again {state next : σ} (more : loop.turn state = .again next) :
    loop.exec state = loop.exec next := by
  have smaller := loop.decreases state next more
  have ended := loop.run_eq_of_measure_lt (loop.measure state + 1) state (Nat.lt_succ_self _)
  rw [loop.run_succ_again more, loop.run_eq_of_measure_lt _ next smaller] at ended
  exact (Option.some.inj ended).symm

/-- Induction along the passes of a loop. -/
theorem induction (motive : σ -> Prop)
    (stop : forall state last, loop.turn state = .halt last -> motive state)
    (more : forall state next, loop.turn state = .again next -> motive next -> motive state)
    (state : σ) : motive state := by
  generalize bound : loop.measure state = size
  induction size using Nat.strongRecOn generalizing state with
  | ind size inductionHypothesis =>
      cases pass : loop.turn state with
      | halt last => exact stop state last pass
      | again next =>
          have smaller := loop.decreases state next pass
          exact more state next pass
            (inductionHypothesis (loop.measure next) (by omega) next rfl)

/-- The loop rule: an invariant that every further pass keeps, and that gives
the conclusion at the pass that stops. -/
theorem exec_rule (Invariant Conclusion : σ -> Prop)
    (keep : forall state next, Invariant state -> loop.turn state = .again next -> Invariant next)
    (stop : forall state last, Invariant state -> loop.turn state = .halt last -> Conclusion last)
    (state : σ) (start : Invariant state) : Conclusion (loop.exec state) := by
  induction state using loop.induction with
  | stop state last pass =>
      rw [loop.exec_of_halt pass]
      exact stop state last start pass
  | more state next pass inductionHypothesis =>
      rw [loop.exec_of_again pass]
      exact inductionHypothesis (keep state next start pass)

/-- What every pass keeps, the last one included, holds at the end. -/
theorem exec_invariant (Invariant : σ -> Prop)
    (keep : forall state, Invariant state -> Invariant (loop.turn state).result)
    (state : σ) (start : Invariant state) : Invariant (loop.exec state) := by
  refine loop.exec_rule Invariant Invariant ?_ ?_ state start
  · intro state next holds pass
    have kept := keep state holds
    rw [pass] at kept
    exact kept
  · intro state last holds pass
    have kept := keep state holds
    rw [pass] at kept
    exact kept

/-- Bodies that agree where an invariant holds make the same loop. -/
theorem exec_congr {loop other : Loop σ} (Invariant : σ -> Prop)
    (keep : forall state next, Invariant state -> loop.turn state = .again next -> Invariant next)
    (agree : forall state, Invariant state -> loop.turn state = other.turn state)
    (state : σ) (start : Invariant state) : loop.exec state = other.exec state := by
  induction state using loop.induction with
  | stop state last pass =>
      rw [loop.exec_of_halt pass, other.exec_of_halt ((agree state start).symm.trans pass)]
  | more state next pass inductionHypothesis =>
      rw [loop.exec_of_again pass, other.exec_of_again ((agree state start).symm.trans pass)]
      exact inductionHypothesis (keep state next start pass)

/-- The states in which the body is entered, from a first one. -/
inductive Visits : σ -> σ -> Prop
  | here (state : σ) : Visits state state
  | later {state next target : σ} :
      loop.turn state = .again next -> Visits next target -> Visits state target

/-- An invariant of the body holds at every pass. -/
theorem Visits.invariant {loop : Loop σ} (Invariant : σ -> Prop)
    (keep : forall state next, Invariant state -> loop.turn state = .again next -> Invariant next)
    {state target : σ} (visits : loop.Visits state target) (start : Invariant state) :
    Invariant target := by
  induction visits with
  | here => exact start
  | later pass _ inductionHypothesis => exact inductionHypothesis (keep _ _ start pass)

end Loop
end NetSystem
