import NetSystem.Foundation.Memory
import NetSystem.Foundation.Transition

namespace NetSystem

universe u

/-!
# A bounded queue with one reservation

The abstract state of a receive buffer: a queue of at most `capacity` values
and the contents of the one region that has been handed out for writing.  An
empty region means that nothing is reserved.

Handing out a region does not say what it contains, since the storage behind
it may be uninitialised; `Step` therefore leaves those contents open.  Writing
replaces a part of the region, committing moves its first values to the end of
the queue and closes it, and removing values takes them from the front.
-/

/-- Queue and open region, with the bound on the queue. -/
structure BoundedFifo (α : Type u) where
  capacity : Nat
  queue : List α
  region : List α

/-- The operations of a queue with a reservation.  A reservation that may grow
the storage names the contents of the block it would obtain. -/
inductive FifoOp (α : Type u) where
  | reserve
  | forceReserve (size : Nat) (fresh : Memory α)
  | write (offset : Nat) (values : List α)
  | commit (size : Nat)
  | decommit (size : Nat)
  | reset

namespace BoundedFifo

variable {α : Type u}

/-- Nothing queued and nothing reserved. -/
def empty (capacity : Nat) : BoundedFifo α := ⟨capacity, [], []⟩

/-- Replace a part of the region. -/
def splice (region : List α) (offset : Nat) (values : List α) : List α :=
  region.take offset ++ values ++ region.drop (offset + values.length)

/-- What one operation may do to the abstract state. -/
def Step (before : BoundedFifo α) : FifoOp α -> BoundedFifo α -> Prop
  | .reserve, after =>
      after.capacity = before.capacity ∧ after.queue = before.queue ∧
        (before.region ≠ [] -> after.region = before.region) ∧
        (before.region = [] -> after.region.length = before.capacity - before.queue.length)
  | .forceReserve size _, after =>
      after.queue = before.queue ∧ before.capacity ≤ after.capacity ∧
        (after = before ∨ before.region = [] ∧ after.region.length = size ∧
          before.queue.length + size ≤ after.capacity)
  | .write offset values, after =>
      offset + values.length ≤ before.region.length ∧
        after = { before with region := splice before.region offset values }
  | .commit size, after =>
      after = { before with queue := before.queue ++ before.region.take size, region := [] }
  | .decommit size, after => after = { before with queue := before.queue.drop size }
  | .reset, after => after = { before with queue := [], region := [] }

/-- The queue and the open region fit the capacity together. -/
def Fits (fifo : BoundedFifo α) : Prop :=
  fifo.queue.length + fifo.region.length ≤ fifo.capacity

theorem length_splice {region : List α} {offset : Nat} {values : List α}
    (inside : offset + values.length ≤ region.length) :
    (splice region offset values).length = region.length := by
  simp only [splice, List.length_append, List.length_take, List.length_drop]
  omega

theorem Step.fits {before after : BoundedFifo α} {op : FifoOp α}
    (step : before.Step op after) (fits : before.Fits) : after.Fits := by
  unfold Fits at fits ⊢
  cases op with
  | reserve =>
      rcases step with ⟨capacity, queue, kept, granted⟩
      by_cases nothing : before.region = []
      · rw [capacity, queue, granted nothing]
        omega
      · rw [capacity, queue, kept nothing]
        exact fits
  | forceReserve size fresh =>
      rcases step with ⟨queue, _, same | ⟨_, region, room⟩⟩
      · rw [same]
        exact fits
      · rw [queue, region]
        exact room
  | write offset values =>
      rcases step with ⟨inside, rfl⟩
      simpa only [length_splice inside] using fits
  | commit size =>
      subst step
      simp only [List.length_append, List.length_take, List.length_nil]
      omega
  | decommit size =>
      subst step
      simp only [List.length_drop]
      omega
  | reset =>
      subst step
      exact Nat.zero_le _

end BoundedFifo
end NetSystem
