import Mathlib.Tactic.Ring
import NetSystem.Base.ReaderWriterQueue
import NetSystem.Foundation.CircularBuffer

namespace NetSystem

universe u

/-!
# The blocks of the lock-free queue

A block is a circular buffer with a copy of each index, which the other thread has made at
some time.  A copy is never ahead of its index, and the producer's copy of the front is
less than a lap behind the tail, so that equal residues are equal indices.
-/

/-- The sizes of blocks: the powers of two from two on that are half of a `size_t`. -/
def IsBlockSize (size : Nat) : Prop :=
  Exists fun exponent => exponent < 63 ∧ size = 2 ^ (exponent + 1)

theorem IsBlockSize.two_le {size : Nat} (blockSize : IsBlockSize size) : 2 ≤ size := by
  rcases blockSize with ⟨exponent, _, rfl⟩
  have positive := Nat.two_pow_pos exponent
  rw [Nat.pow_succ]
  omega

/-- The sizes up to the greatest one are doubled. -/
theorem IsBlockSize.double {size greatest : Nat} (blockSize : IsBlockSize size)
    (limit : IsBlockSize greatest) (less : size < greatest) : IsBlockSize (size * 2) := by
  rcases blockSize with ⟨exponent, _, rfl⟩
  rcases limit with ⟨last, within, rfl⟩
  have order := (Nat.pow_lt_pow_iff_right Nat.one_lt_two).mp less
  exact ⟨exponent + 1, by omega, (Nat.pow_succ ..).symm⟩

/-- What has passed through a block, and the indices that have been copied. -/
structure BlockView (α : Type u) where
  buffer : CircularView α
  seenTail : Nat
  seenFront : Nat

/-- A block that nothing has passed through. -/
def BlockView.empty {α : Type u} : BlockView α := ⟨CircularView.empty, 0, 0⟩

/-- A block that one element has been put into. -/
def BlockView.single {α : Type u} (element : α) : BlockView α := ⟨⟨[element], 1, 0, 0⟩, 1, 0⟩

namespace QueueBlock

variable {α : Type u}

/-- The number of places, of which one stays free. -/
def size (block : QueueBlock α) : Nat := block.sizeMask + 1

theorem following_eq {block : QueueBlock α} (blockSize : IsBlockSize block.size) (index : Nat) :
    block.following index = (index + 1) % block.size := by
  rcases blockSize with ⟨exponent, _, same⟩
  have mask : block.sizeMask = 2 ^ (exponent + 1) - 1 := by
    rw [← same]
    rfl
  rw [following, mask, Nat.and_two_pow_sub_one_eq_mod, same]

/-- A view is one of the block. -/
structure Holds (block : QueueBlock α) (view : BlockView α) : Prop where
  blockSize : IsBlockSize block.size
  buffer : CircularHolds block.size block.data block.front block.tail view.buffer
  localTail : block.localTail = view.seenTail % block.size
  localFront : block.localFront = view.seenFront % block.size
  seenTail_ge : view.buffer.popped ≤ view.seenTail
  seenTail_le : view.seenTail ≤ view.buffer.pushed
  seenFront_le : view.seenFront ≤ view.buffer.popped
  lap : view.buffer.pushed < view.seenFront + block.size

namespace Holds

variable {block : QueueBlock α} {view : BlockView α}

theorem popped_le (holds : block.Holds view) : view.buffer.popped ≤ view.buffer.pushed :=
  Nat.le_trans holds.buffer.popped_le holds.buffer.taken_le

theorem pushed_lt (holds : block.Holds view) :
    view.buffer.pushed < view.buffer.popped + block.size :=
  Nat.lt_of_le_of_lt holds.buffer.pushed_le holds.buffer.room

/-- The consumer sees elements exactly if there are some in front of the tail that it knows. -/
theorem front_eq_localTail_iff (holds : block.Holds view) :
    block.front = block.localTail ↔ view.buffer.popped = view.seenTail := by
  have pushed := holds.pushed_lt
  have seen := holds.seenTail_le
  rw [holds.buffer.front_eq, holds.localTail]
  exact mod_eq_mod_iff_of_lap holds.seenTail_ge (by omega)

/-- The producer sees no room exactly if there is none behind the front that it knows. -/
theorem following_tail_eq_localFront_iff (holds : block.Holds view) :
    block.following block.tail = block.localFront ↔
      view.buffer.pushed + 1 = view.seenFront + block.size := by
  have lap := holds.lap
  have seen := Nat.le_trans holds.seenFront_le holds.popped_le
  rw [following_eq holds.blockSize, holds.buffer.tail_eq, Nat.mod_add_mod, holds.localFront]
  constructor
  · intro same
    by_contra different
    have equal := (mod_eq_mod_iff_of_lap (Nat.le_succ_of_le seen) (by omega)).mp same.symm
    have two := holds.blockSize.two_le
    omega
  · intro full
    rw [full, Nat.add_mod_right]

theorem following_tail_eq_front_iff (holds : block.Holds view) :
    block.following block.tail = block.front ↔
      view.buffer.pushed + 1 = view.buffer.popped + block.size := by
  have pushed := holds.pushed_lt
  have order := holds.popped_le
  rw [following_eq holds.blockSize, holds.buffer.tail_eq, Nat.mod_add_mod,
    holds.buffer.front_eq]
  constructor
  · intro same
    by_contra different
    have equal := (mod_eq_mod_iff_of_lap (Nat.le_succ_of_le order) (by omega)).mp same.symm
    omega
  · intro full
    rw [full, Nat.add_mod_right]

/-- The consumer copies the tail. -/
theorem noteTail (holds : block.Holds view) :
    { block with localTail := block.tail }.Holds
      { view with seenTail := view.buffer.pushed } where
  blockSize := holds.blockSize
  buffer := holds.buffer
  localTail := holds.buffer.tail_eq
  localFront := holds.localFront
  seenTail_ge := holds.popped_le
  seenTail_le := Nat.le_refl _
  seenFront_le := holds.seenFront_le
  lap := holds.lap

/-- The producer copies the front. -/
theorem noteFront (holds : block.Holds view) :
    { block with localFront := block.front }.Holds
      { view with seenFront := view.buffer.popped } where
  blockSize := holds.blockSize
  buffer := holds.buffer
  localTail := holds.localTail
  localFront := holds.buffer.front_eq
  seenTail_ge := holds.seenTail_ge
  seenTail_le := holds.seenTail_le
  seenFront_le := Nat.le_refl _
  lap := holds.pushed_lt

/-- The producer makes an element behind the tail. -/
theorem fill (holds : block.Holds view) (all : view.buffer.written.length = view.buffer.pushed)
    (room : view.buffer.pushed + 1 < view.seenFront + block.size) (element : α) :
    { block with data := Function.update block.data block.tail (some element) }.Holds
      { view with buffer := view.buffer.fill element } where
  blockSize := holds.blockSize
  buffer := by
    have seen := holds.seenFront_le
    exact holds.buffer.fill all (by omega) element
  localTail := holds.localTail
  localFront := holds.localFront
  seenTail_ge := holds.seenTail_ge
  seenTail_le := holds.seenTail_le
  seenFront_le := holds.seenFront_le
  lap := holds.lap

/-- The producer moves the tail. -/
theorem announce (holds : block.Holds view)
    (filled : view.buffer.pushed < view.buffer.written.length)
    (room : view.buffer.pushed + 1 < view.seenFront + block.size) :
    { block with tail := block.following block.tail }.Holds
      { view with buffer := view.buffer.announce } where
  blockSize := holds.blockSize
  buffer := by
    change CircularHolds block.size block.data block.front (block.following block.tail) _
    rw [following_eq holds.blockSize]
    exact holds.buffer.announce filled
  localTail := holds.localTail
  localFront := holds.localFront
  seenTail_ge := holds.seenTail_ge
  seenTail_le := Nat.le_succ_of_le holds.seenTail_le
  seenFront_le := holds.seenFront_le
  lap := room

/-- The consumer takes the element at the front. -/
theorem clear (holds : block.Holds view) (whole : view.buffer.taken = view.buffer.popped)
    (more : view.buffer.popped < view.buffer.pushed) :
    { block with data := Function.update block.data block.front none }.Holds
      { view with buffer := view.buffer.clear } where
  blockSize := holds.blockSize
  buffer := holds.buffer.clear whole more
  localTail := holds.localTail
  localFront := holds.localFront
  seenTail_ge := holds.seenTail_ge
  seenTail_le := holds.seenTail_le
  seenFront_le := holds.seenFront_le
  lap := holds.lap

/-- The consumer moves the front. -/
theorem release (holds : block.Holds view)
    (cleared : view.buffer.taken = view.buffer.popped + 1)
    (seen : view.buffer.popped < view.seenTail) :
    { block with front := block.following block.front }.Holds
      { view with buffer := view.buffer.release } where
  blockSize := holds.blockSize
  buffer := by
    change CircularHolds block.size block.data (block.following block.front) block.tail _
    rw [following_eq holds.blockSize]
    exact holds.buffer.release cleared
  localTail := holds.localTail
  localFront := holds.localFront
  seenTail_ge := seen
  seenTail_le := holds.seenTail_le
  seenFront_le := Nat.le_succ_of_le holds.seenFront_le
  lap := holds.lap

/-- The link is not part of the view. -/
theorem setNext (holds : block.Holds view) (next : Nat) :
    { block with next := next }.Holds view where
  blockSize := holds.blockSize
  buffer := holds.buffer
  localTail := holds.localTail
  localFront := holds.localFront
  seenTail_ge := holds.seenTail_ge
  seenTail_le := holds.seenTail_le
  seenFront_le := holds.seenFront_le
  lap := holds.lap

end Holds

theorem make_size {size : Nat} (blockSize : IsBlockSize size) (next : Nat) :
    (make size next : QueueBlock α).size = size := by
  have two := blockSize.two_le
  change size - 1 + 1 = size
  omega

theorem make_holds {size : Nat} (blockSize : IsBlockSize size) (next : Nat) :
    (make size next : QueueBlock α).Holds BlockView.empty where
  blockSize := by
    rw [make_size blockSize]
    exact blockSize
  buffer := by
    rw [make_size blockSize]
    exact CircularHolds.empty (Nat.lt_of_lt_of_le Nat.zero_lt_two blockSize.two_le)
  localTail := (Nat.zero_mod _).symm
  localFront := (Nat.zero_mod _).symm
  seenTail_ge := Nat.le_refl 0
  seenTail_le := Nat.le_refl 0
  seenFront_le := Nat.le_refl 0
  lap := by
    rw [make_size blockSize]
    exact Nat.lt_of_lt_of_le Nat.zero_lt_two (Nat.le_trans blockSize.two_le (Nat.le_add_left ..))

/-- A new block with its first element. -/
theorem startWith_holds {size : Nat} (blockSize : IsBlockSize size) (next : Nat) (element : α) :
    ((make size next).startWith element).Holds (BlockView.single element) := by
  have two := blockSize.two_le
  have made : (make size next : QueueBlock α).Holds BlockView.empty := make_holds blockSize next
  have room : 0 + 1 < 0 + (make size next : QueueBlock α).size := by
    rw [make_size blockSize, Nat.zero_add, Nat.zero_add]
    exact two
  have filled := made.fill rfl room element
  have announced := (filled.announce Nat.zero_lt_one room).noteTail
  have one : (make size next : QueueBlock α).following 0 = 1 := by
    rw [following_eq made.blockSize, make_size blockSize]
    exact Nat.mod_eq_of_lt two
  rw [startWith, ← one]
  exact announced

end QueueBlock
end NetSystem
