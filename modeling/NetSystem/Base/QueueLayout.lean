import NetSystem.Base.QueueBlocks
import NetSystem.Foundation.LinkedRing

namespace NetSystem

universe u

/-!
# The layout of the lock-free queue

The blocks make a ring.  From the front block on it has the blocks up to the tail block, of
which all but the front block have elements and all between the two are full, and then the
blocks that are free.  What the queue contains is what the blocks up to the tail block
contain, in this order.
-/

/-- What has passed through the blocks, and the blocks behind the front block: those up to
the tail block, and the free ones. -/
structure QueueView (α : Type u) where
  blocks : Nat -> BlockView α
  others : List Nat
  spare : List Nat

/-- A change of the view of one block. -/
def QueueView.modify {α : Type u} (view : QueueView α) (block : Nat)
    (change : BlockView α -> BlockView α) : QueueView α :=
  { view with blocks := Function.update view.blocks block (change (view.blocks block)) }

namespace ReaderWriterQueue

variable {α : Type u}

/-- The blocks from the front block to the tail block. -/
def used (queue : ReaderWriterQueue α) (view : QueueView α) : List Nat :=
  queue.frontBlock :: view.others

def ring (queue : ReaderWriterQueue α) (view : QueueView α) : List Nat :=
  queue.used view ++ view.spare

/-- The elements of the queue. -/
def content (queue : ReaderWriterQueue α) (view : QueueView α) : List α :=
  (queue.used view).flatMap fun block => (view.blocks block).buffer.items

/-- A view is one of the queue. -/
structure Laid (queue : ReaderWriterQueue α) (view : QueueView α) : Prop where
  holds : forall block, block < queue.blockCount ->
    (queue.blocks block).Holds (view.blocks block)
  linked : LinkedRing (fun block => (queue.blocks block).next) (queue.ring view)
  allocated : forall block, block ∈ queue.ring view -> block < queue.blockCount
  tail : (queue.used view).getLast? = some queue.tailBlock
  waiting : forall block, block ∈ view.others ->
    (view.blocks block).buffer.popped < (view.blocks block).buffer.pushed
  full : forall block, block ∈ view.others -> block ≠ queue.tailBlock ->
    (view.blocks block).buffer.pushed + 1 =
      (view.blocks block).buffer.popped + (queue.blocks block).size
  largest : IsBlockSize queue.largestBlockSize

@[simp] theorem modify_blocks_self (queue : ReaderWriterQueue α) (block : Nat)
    (change : QueueBlock α -> QueueBlock α) :
    (queue.modify block change).blocks block = change (queue.blocks block) :=
  Function.update_self ..

theorem modify_blocks_of_ne {queue : ReaderWriterQueue α} {block other : Nat}
    {change : QueueBlock α -> QueueBlock α} (different : other ≠ block) :
    (queue.modify block change).blocks other = queue.blocks other :=
  Function.update_of_ne different ..

@[simp] theorem view_modify_blocks_self (view : QueueView α) (block : Nat)
    (change : BlockView α -> BlockView α) :
    (view.modify block change).blocks block = change (view.blocks block) :=
  Function.update_self ..

theorem view_modify_blocks_of_ne {view : QueueView α} {block other : Nat}
    {change : BlockView α -> BlockView α} (different : other ≠ block) :
    (view.modify block change).blocks other = view.blocks other :=
  Function.update_of_ne different ..

theorem addBlock_blocks_self (maxBlockSize : Nat) (queue : ReaderWriterQueue α) (element : α)
    (tailBlock_ : Nat) :
    (queue.addBlock maxBlockSize element tailBlock_).blocks queue.blockCount =
      (QueueBlock.make (queue.newBlockSize maxBlockSize)
        (queue.blocks tailBlock_).next).startWith element :=
  Function.update_self ..

theorem addBlock_blocks_of_ne {maxBlockSize : Nat} {queue : ReaderWriterQueue α} {element : α}
    {tailBlock_ other : Nat} (different : other ≠ queue.blockCount) :
    (queue.addBlock maxBlockSize element tailBlock_).blocks other = queue.blocks other :=
  Function.update_of_ne different ..

namespace Laid

variable {queue : ReaderWriterQueue α} {view : QueueView α}

/-! ## The ring -/

theorem nodup_used (laid : queue.Laid view) : (queue.used view).Nodup :=
  (List.nodup_append.mp laid.linked.nodup).1

theorem frontBlock_notMem (laid : queue.Laid view) : queue.frontBlock ∉ view.others :=
  (List.nodup_cons.mp laid.nodup_used).1

theorem notMem_used_of_spare (laid : queue.Laid view) {block : Nat} (spare : block ∈ view.spare) :
    block ∉ queue.used view :=
  fun used => (List.nodup_append.mp laid.linked.nodup).2.2 block used block spare rfl

theorem used_eq (laid : queue.Laid view) :
    Exists fun before => queue.used view = before ++ [queue.tailBlock] :=
  List.getLast?_eq_some_iff.mp laid.tail

theorem tailBlock_mem (laid : queue.Laid view) : queue.tailBlock ∈ queue.used view :=
  List.mem_of_getLast? laid.tail

theorem tailBlock_lt (laid : queue.Laid view) : queue.tailBlock < queue.blockCount :=
  laid.allocated _ (List.mem_append_left _ laid.tailBlock_mem)

theorem frontBlock_lt (laid : queue.Laid view) : queue.frontBlock < queue.blockCount :=
  laid.allocated _ (List.mem_append_left _ (List.mem_cons_self ..))

theorem spare_lt (laid : queue.Laid view) {block : Nat} (spare : block ∈ view.spare) :
    block < queue.blockCount :=
  laid.allocated _ (List.mem_append_right _ spare)

theorem others_lt (laid : queue.Laid view) {block : Nat} (other : block ∈ view.others) :
    block < queue.blockCount :=
  laid.allocated _ (List.mem_append_left _ (List.mem_cons_of_mem _ other))

theorem tailBlock_eq_iff (laid : queue.Laid view) :
    queue.tailBlock = queue.frontBlock ↔ view.others = [] := by
  constructor
  · intro same
    have last := laid.tail
    rw [same, used] at last
    cases others : view.others with
    | nil => rfl
    | cons other rest =>
        rw [others, List.getLast?_cons_cons] at last
        rw [← others] at last
        exact absurd (List.mem_of_getLast? last) laid.frontBlock_notMem
  · intro none
    have last := laid.tail
    rw [used, none] at last
    exact (Option.some.inj last).symm

/-- Behind the tail block is the first free block or, without one, the front block. -/
theorem next_tailBlock (laid : queue.Laid view) :
    (view.spare ++ [queue.frontBlock]).head? = some (queue.blocks queue.tailBlock).next := by
  have linked := laid.linked
  rcases laid.used_eq with ⟨before, used⟩
  have closing : (queue.ring view).take 1 = [queue.frontBlock] := rfl
  have split : queue.ring view = before ++ queue.tailBlock :: view.spare := by
    rw [ring, used, List.append_assoc]
    rfl
  rw [split] at linked closing
  have next := linked.next_eq
  rw [closing] at next
  exact next

theorem next_eq_frontBlock_iff (laid : queue.Laid view) :
    (queue.blocks queue.tailBlock).next = queue.frontBlock ↔ view.spare = [] := by
  have next := laid.next_tailBlock
  cases free : view.spare with
  | nil =>
      rw [free] at next
      exact ⟨fun _ => rfl, fun _ => (Option.some.inj next).symm⟩
  | cons first rest =>
      rw [free] at next
      have spare : first ∈ view.spare := by
        rw [free]
        exact List.mem_cons_self ..
      have link : first = (queue.blocks queue.tailBlock).next := Option.some.inj next
      constructor
      · intro same
        refine absurd ?_ (laid.notMem_used_of_spare spare)
        rw [link, same]
        exact List.mem_cons_self ..
      · intro none
        cases none

theorem head_spare (laid : queue.Laid view)
    (behind : (queue.blocks queue.tailBlock).next ≠ queue.frontBlock) :
    view.spare.head? = some (queue.blocks queue.tailBlock).next := by
  have next := laid.next_tailBlock
  cases free : view.spare with
  | nil => exact absurd (laid.next_eq_frontBlock_iff.mpr free) behind
  | cons first rest =>
      rw [free] at next
      exact next

theorem next_frontBlock (laid : queue.Laid view) {other : Nat} (first : view.others.head? = some other) :
    (queue.blocks queue.frontBlock).next = other := by
  rcases List.head?_eq_some_iff.mp first with ⟨rest, others⟩
  have split : queue.ring view = [] ++ queue.frontBlock :: (other :: rest ++ view.spare) := by
    rw [ring, used, others]
    rfl
  have linked := laid.linked
  rw [split] at linked
  exact (Option.some.inj linked.next_eq).symm

/-! ## Changes of one block -/

/-- A change of a block that keeps its link. -/
theorem modify (laid : queue.Laid view) {block : Nat} {change : QueueBlock α -> QueueBlock α}
    {changeView : BlockView α -> BlockView α}
    (holds : (change (queue.blocks block)).Holds (changeView (view.blocks block)))
    (next : (change (queue.blocks block)).next = (queue.blocks block).next)
    (waiting : block ∈ view.others -> (changeView (view.blocks block)).buffer.popped <
      (changeView (view.blocks block)).buffer.pushed)
    (full : block ∈ view.others -> block ≠ queue.tailBlock ->
      (changeView (view.blocks block)).buffer.pushed + 1 =
        (changeView (view.blocks block)).buffer.popped + (change (queue.blocks block)).size) :
    (queue.modify block change).Laid (view.modify block changeView) where
  holds := by
    intro other within
    by_cases here : other = block
    · rw [here, modify_blocks_self, view_modify_blocks_self]
      exact holds
    · rw [modify_blocks_of_ne here, view_modify_blocks_of_ne here]
      exact laid.holds other within
  linked := by
    refine laid.linked.congr fun other _ => ?_
    by_cases here : other = block
    · rw [here, modify_blocks_self]
      exact next
    · rw [modify_blocks_of_ne here]
  allocated := laid.allocated
  tail := laid.tail
  waiting := by
    intro other inside
    by_cases here : other = block
    · rw [here] at inside ⊢
      rw [view_modify_blocks_self]
      exact waiting inside
    · rw [view_modify_blocks_of_ne here]
      exact laid.waiting other inside
  full := by
    intro other inside different
    by_cases here : other = block
    · rw [here] at inside different ⊢
      rw [view_modify_blocks_self, modify_blocks_self]
      exact full inside different
    · rw [view_modify_blocks_of_ne here, modify_blocks_of_ne here]
      exact laid.full other inside different
  largest := laid.largest

/-- A change that neither index shows. -/
theorem modify_quiet (laid : queue.Laid view) {block : Nat}
    {change : QueueBlock α -> QueueBlock α} {changeView : BlockView α -> BlockView α}
    (holds : (change (queue.blocks block)).Holds (changeView (view.blocks block)))
    (next : (change (queue.blocks block)).next = (queue.blocks block).next)
    (size : (change (queue.blocks block)).size = (queue.blocks block).size)
    (popped : (changeView (view.blocks block)).buffer.popped = (view.blocks block).buffer.popped)
    (pushed : (changeView (view.blocks block)).buffer.pushed = (view.blocks block).buffer.pushed) :
    (queue.modify block change).Laid (view.modify block changeView) := by
  refine laid.modify holds next ?_ ?_
  · rw [popped, pushed]
    exact laid.waiting block
  · rw [popped, pushed, size]
    exact laid.full block

/-- The producer moves the tail of the tail block or of a block that is not in use. -/
theorem announce (laid : queue.Laid view) {block : Nat} (within : block < queue.blockCount)
    (place : block ∈ queue.used view -> block = queue.tailBlock)
    (filled : (view.blocks block).buffer.pushed < (view.blocks block).buffer.written.length)
    (room : (view.blocks block).buffer.pushed + 1 <
      (view.blocks block).seenFront + (queue.blocks block).size) :
    (queue.modify block fun b => { b with tail := b.following b.tail }).Laid
      (view.modify block fun b => { b with buffer := b.buffer.announce }) := by
  refine laid.modify ((laid.holds block within).announce filled room) rfl ?_ ?_
  · intro inside
    exact Nat.lt_succ_of_lt (laid.waiting block inside)
  · intro inside different
    exact absurd (place (List.mem_cons_of_mem _ inside)) different

/-- The consumer moves the front of the front block. -/
theorem release (laid : queue.Laid view)
    (cleared : (view.blocks queue.frontBlock).buffer.taken =
      (view.blocks queue.frontBlock).buffer.popped + 1)
    (seen : (view.blocks queue.frontBlock).buffer.popped <
      (view.blocks queue.frontBlock).seenTail) :
    (queue.modify queue.frontBlock fun b => { b with front := b.following b.front }).Laid
      (view.modify queue.frontBlock fun b => { b with buffer := b.buffer.release }) := by
  refine laid.modify ((laid.holds _ laid.frontBlock_lt).release cleared seen) rfl ?_ ?_
  · exact fun inside => absurd inside laid.frontBlock_notMem
  · exact fun inside => absurd inside laid.frontBlock_notMem

/-! ## Changes of the ring -/

/-- The producer moves on to the block behind the tail block. -/
theorem publish (laid : queue.Laid view) {block : Nat} {rest : List Nat}
    (spare : view.spare = block :: rest)
    (filled : (view.blocks block).buffer.popped < (view.blocks block).buffer.pushed)
    (full : queue.tailBlock = queue.frontBlock ∨
      (view.blocks queue.tailBlock).buffer.pushed + 1 =
        (view.blocks queue.tailBlock).buffer.popped + (queue.blocks queue.tailBlock).size) :
    { queue with tailBlock := block }.Laid
      { view with others := view.others ++ [block], spare := rest } where
  holds := laid.holds
  linked := by
    have linked := laid.linked
    rw [ring, used, spare, List.append_cons] at linked
    exact linked
  allocated := by
    have allocated := laid.allocated
    rw [ring, used, spare, List.append_cons] at allocated
    exact allocated
  tail := by
    change (queue.frontBlock :: (view.others ++ [block])).getLast? = some block
    rw [← List.cons_append]
    exact List.getLast?_concat ..
  waiting := by
    intro other inside
    rcases List.mem_append.mp inside with before | last
    · exact laid.waiting other before
    · rw [List.mem_singleton.mp last]
      exact filled
  full := by
    intro other inside different
    rcases List.mem_append.mp inside with before | last
    · by_cases here : other = queue.tailBlock
      · rcases full with same | full
        · rw [here, same] at before
          exact absurd before laid.frontBlock_notMem
        · rw [here]
          exact full
      · exact laid.full other before here
    · exact absurd (List.mem_singleton.mp last) different
  largest := laid.largest

/-- The consumer moves on to the block behind the front block. -/
theorem advance (laid : queue.Laid view) {block : Nat} {rest : List Nat}
    (others : view.others = block :: rest) :
    { queue with frontBlock := block }.Laid
      { view with others := rest, spare := view.spare ++ [queue.frontBlock] } where
  holds := laid.holds
  linked := by
    have linked := laid.linked
    rw [ring, used, others, List.cons_append] at linked
    have rotated := linked.rotate
    rw [List.append_assoc] at rotated
    exact rotated
  allocated := by
    intro other inside
    refine laid.allocated other ?_
    rw [ring, used, others]
    rcases List.mem_append.mp inside with used | spare
    · exact List.mem_append_left _ (List.mem_cons_of_mem _ used)
    · rcases List.mem_append.mp spare with spare | front
      · exact List.mem_append_right _ spare
      · rw [List.mem_singleton.mp front]
        exact List.mem_append_left _ (List.mem_cons_self ..)
  tail := by
    have last := laid.tail
    rw [used, others, List.getLast?_cons_cons] at last
    exact last
  waiting := by
    intro other inside
    refine laid.waiting other ?_
    rw [others]
    exact List.mem_cons_of_mem _ inside
  full := by
    intro other inside different
    refine laid.full other ?_ different
    rw [others]
    exact List.mem_cons_of_mem _ inside
  largest := laid.largest

/-- The producer links a new block in behind the tail block. -/
theorem link (laid : queue.Laid view) {newBlock : Nat} (within : newBlock < queue.blockCount)
    (fresh : newBlock ∉ queue.ring view)
    (onward : (queue.blocks newBlock).next = (queue.blocks queue.tailBlock).next) :
    (queue.modify queue.tailBlock fun b => { b with next := newBlock }).Laid
      { view with spare := newBlock :: view.spare } where
  holds := by
    intro other inside
    by_cases here : other = queue.tailBlock
    · rw [here, modify_blocks_self]
      exact (laid.holds _ laid.tailBlock_lt).setNext newBlock
    · rw [modify_blocks_of_ne here]
      exact laid.holds other inside
  linked := by
    rcases laid.used_eq with ⟨before, used⟩
    have split : queue.ring view = before ++ queue.tailBlock :: view.spare := by
      rw [ring, used, List.append_assoc]
      rfl
    have linked := laid.linked
    rw [split] at linked fresh
    have apart : newBlock ≠ queue.tailBlock := by
      intro same
      rw [same] at fresh
      exact fresh (List.mem_append_right _ (List.mem_cons_self ..))
    change LinkedRing _ (queue.used view ++ newBlock :: view.spare)
    rw [used, List.append_assoc]
    refine linked.insert fresh ?_ ?_ ?_
    · rw [modify_blocks_self]
    · rw [modify_blocks_of_ne apart]
      exact onward
    · intro other _ different
      rw [modify_blocks_of_ne different]
  allocated := by
    intro other inside
    rcases List.mem_append.mp inside with used | spare
    · exact laid.allocated other (List.mem_append_left _ used)
    · rcases List.mem_cons.mp spare with new | spare
      · rw [new]
        exact within
      · exact laid.spare_lt spare
  tail := laid.tail
  waiting := laid.waiting
  full := by
    intro other inside different
    change other ≠ queue.tailBlock at different
    rw [modify_blocks_of_ne different]
    exact laid.full other inside different
  largest := laid.largest

theorem newBlockSize (laid : queue.Laid view) {maxBlockSize : Nat}
    (blockSize : IsBlockSize maxBlockSize) : IsBlockSize (queue.newBlockSize maxBlockSize) := by
  rw [ReaderWriterQueue.newBlockSize]
  split
  case isTrue => exact laid.largest
  case isFalse less => exact laid.largest.double blockSize (Nat.lt_of_not_le less)

/-- The producer makes a new block, which is not linked yet. -/
theorem addBlock (laid : queue.Laid view) {maxBlockSize : Nat} (blockSize : IsBlockSize maxBlockSize)
    (element : α) :
    (queue.addBlock maxBlockSize element queue.tailBlock).Laid
      (view.modify queue.blockCount fun _ => BlockView.single element) where
  holds := by
    intro other inside
    by_cases here : other = queue.blockCount
    · rw [here, view_modify_blocks_self, addBlock_blocks_self]
      exact QueueBlock.startWith_holds (laid.newBlockSize blockSize) ..
    · rw [view_modify_blocks_of_ne here, addBlock_blocks_of_ne here]
      exact laid.holds other (Nat.lt_of_le_of_ne (Nat.le_of_lt_succ inside) here)
  linked := by
    refine laid.linked.congr fun other inside => ?_
    rw [addBlock_blocks_of_ne (Nat.ne_of_lt (laid.allocated other inside))]
  allocated := fun other inside => Nat.lt_succ_of_lt (laid.allocated other inside)
  tail := laid.tail
  waiting := by
    intro other inside
    rw [view_modify_blocks_of_ne (Nat.ne_of_lt (laid.others_lt inside))]
    exact laid.waiting other inside
  full := by
    intro other inside different
    have apart := Nat.ne_of_lt (laid.others_lt inside)
    rw [view_modify_blocks_of_ne apart, addBlock_blocks_of_ne apart]
    exact laid.full other inside different
  largest := laid.newBlockSize blockSize

end Laid

/-! ## What the queue contains -/

theorem content_congr {queue next : ReaderWriterQueue α} {view nextView : QueueView α}
    (frontBlock : next.frontBlock = queue.frontBlock) (others : nextView.others = view.others)
    (items : forall block, block ∈ queue.used view ->
      (nextView.blocks block).buffer.items = (view.blocks block).buffer.items) :
    next.content nextView = queue.content view := by
  rw [content, content, used, frontBlock, others]
  exact List.flatMap_congr items

/-- A change of a block that does not show in its elements, or of one not in use. -/
theorem content_modify (queue : ReaderWriterQueue α) (view : QueueView α) (block : Nat)
    (change : QueueBlock α -> QueueBlock α) {changeView : BlockView α -> BlockView α}
    (items : block ∈ queue.used view ->
      (changeView (view.blocks block)).buffer.items = (view.blocks block).buffer.items) :
    (queue.modify block change).content (view.modify block changeView) = queue.content view := by
  refine content_congr rfl rfl fun other inside => ?_
  by_cases here : other = block
  · rw [here] at inside ⊢
    rw [view_modify_blocks_self]
    exact items inside
  · rw [view_modify_blocks_of_ne here]

namespace Laid

variable {queue : ReaderWriterQueue α} {view : QueueView α}

theorem content_announce (laid : queue.Laid view) (change : QueueBlock α -> QueueBlock α)
    {element : α}
    (filled : (view.blocks queue.tailBlock).buffer.written[
      (view.blocks queue.tailBlock).buffer.pushed]? = some element) :
    (queue.modify queue.tailBlock change).content
        (view.modify queue.tailBlock fun b => { b with buffer := b.buffer.announce }) =
      queue.content view ++ [element] := by
  rcases laid.used_eq with ⟨before, used⟩
  have nodup := laid.nodup_used
  have order := (laid.holds _ laid.tailBlock_lt).popped_le
  change (queue.used view).flatMap _ = (queue.used view).flatMap _ ++ [element]
  rw [used] at nodup ⊢
  rw [List.flatMap_append, List.flatMap_append, List.append_assoc]
  congr 1
  · refine List.flatMap_congr fun other inside => ?_
    have apart : other ≠ queue.tailBlock := by
      intro same
      rw [same] at inside
      exact (List.nodup_append.mp nodup).2.2 _ inside _ (List.mem_singleton_self _) rfl
    rw [view_modify_blocks_of_ne apart]
  · rw [List.flatMap_singleton, List.flatMap_singleton, view_modify_blocks_self]
    exact CircularView.items_announce order filled

theorem content_release (laid : queue.Laid view) (change : QueueBlock α -> QueueBlock α)
    {element : α} (front : (view.blocks queue.frontBlock).buffer.items.head? = some element) :
    queue.content view = element ::
      (queue.modify queue.frontBlock change).content
        (view.modify queue.frontBlock fun b => { b with buffer := b.buffer.release }) := by
  change (queue.frontBlock :: view.others).flatMap _ =
    element :: (queue.frontBlock :: view.others).flatMap _
  rw [List.flatMap_cons, List.flatMap_cons, view_modify_blocks_self,
    CircularView.items_release front, List.cons_append]
  congr 2
  refine List.flatMap_congr fun other inside => ?_
  have apart : other ≠ queue.frontBlock := by
    intro same
    rw [same] at inside
    exact laid.frontBlock_notMem inside
  rw [view_modify_blocks_of_ne apart]

end Laid

theorem content_publish (queue : ReaderWriterQueue α) (view : QueueView α) (block : Nat)
    (rest : List Nat) :
    { queue with tailBlock := block }.content
        { view with others := view.others ++ [block], spare := rest } =
      queue.content view ++ (view.blocks block).buffer.items := by
  change (queue.frontBlock :: (view.others ++ [block])).flatMap _ =
    (queue.frontBlock :: view.others).flatMap _ ++ _
  rw [← List.cons_append, List.flatMap_append, List.flatMap_singleton]

theorem content_advance {queue : ReaderWriterQueue α} {view : QueueView α} {block : Nat}
    {rest : List Nat} (others : view.others = block :: rest) (spare : List Nat)
    (empty : (view.blocks queue.frontBlock).buffer.items = []) :
    { queue with frontBlock := block }.content
        { view with others := rest, spare := spare } = queue.content view := by
  change (block :: rest).flatMap _ = (queue.frontBlock :: view.others).flatMap _
  rw [others, List.flatMap_cons (x := queue.frontBlock), empty]
  rfl

end ReaderWriterQueue
end NetSystem
