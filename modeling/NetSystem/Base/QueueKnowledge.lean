import NetSystem.Base.QueueLayout
import NetSystem.Foundation.Linearization

namespace NetSystem

universe u

/-!
# What the threads of the lock-free queue know

A queue that one thread at a time uses: a list whose calls are performed in one step.  The
lock-free queue is to be linearizable to it.

What a thread knows while it is in a call must remain true when the other one makes a
step.  What a thread leaves to the other is therefore stated by itself.
-/

inductive QueueThread where
  | producer
  | consumer
deriving DecidableEq

/-- The calls of both threads. -/
inductive QueueCall (α : Type u) where
  | enqueue (element : α) (mode : AllocationMode)
  | sizeApprox
  | remove (removal : QueueRemoval)

/-- What the calls return. -/
inductive QueueResult (α : Type u) where
  | success (result : Bool)
  | element (result : Option α)
  | size (result : Nat)

/-- `pop` does not return the element. -/
def QueueRemoval.answer {α : Type u} : QueueRemoval -> Option α -> QueueResult α
  | .pop, result => .success result.isSome
  | _, result => .element result

/-- `peek` does not remove the element. -/
def QueueRemoval.rest {α : Type u} : QueueRemoval -> List α -> List α
  | .peek, content => content
  | _, content => content.tail

/-- The queue of one thread at a time.  An element is refused only if there is no memory or
none may be allocated, and never below the size that the queue was made for. -/
inductive QueuePerforms {α : Type u} (maxSize : Nat) :
    List α -> QueueCall α -> QueueResult α -> List α -> Prop
  | enqueue (content : List α) (element : α) (mode : AllocationMode) :
      QueuePerforms maxSize content (.enqueue element mode) (.success true)
        (content ++ [element])
  | refuse {content : List α} (element : α) {mode : AllocationMode}
      (limited : mode ≠ .canAlloc true) (reached : maxSize ≤ content.length) :
      QueuePerforms maxSize content (.enqueue element mode) (.success false) content
  | sizeApprox (content : List α) :
      QueuePerforms maxSize content .sizeApprox (.size content.length) content
  | remove (content : List α) (removal : QueueRemoval) :
      QueuePerforms maxSize content (.remove removal) (removal.answer content.head?)
        (removal.rest content)

namespace QueuePerforms

variable {α : Type u} {maxSize : Nat}

theorem nothing (removal : QueueRemoval) :
    QueuePerforms maxSize ([] : List α) (.remove removal) (removal.answer none) [] := by
  have performs : QueuePerforms maxSize ([] : List α) _ _ _ := .remove [] removal
  cases removal <;> exact performs

theorem peek {content : List α} {element : α} (first : content.head? = some element) :
    QueuePerforms maxSize content (.remove .peek) (QueueRemoval.peek.answer (some element))
      content := by
  rw [← first]
  exact .remove content .peek

theorem take {removal : QueueRemoval} (removes : removal ≠ .peek) (element : α)
    (content : List α) :
    QueuePerforms maxSize (element :: content) (.remove removal)
      (removal.answer (some element)) content := by
  have performs : QueuePerforms maxSize (element :: content) _ _ _ := .remove _ removal
  cases removal with
  | peek => exact absurd rfl removes
  | tryDequeue => exact performs
  | pop => exact performs

end QueuePerforms

def queueObject {α : Type u} (maxSize : Nat) :
    SequentialObject (List α) (QueueCall α) (QueueResult α) := ⟨QueuePerforms maxSize⟩

/-- What a step shows of a call. -/
def QueueStep.event {α : Type u} :
    QueueStep α -> CallEvent QueueThread (QueueCall α) (QueueResult α)
  | .enqueue element mode => .call .producer (.enqueue element mode)
  | .sizeApprox => .call .producer .sizeApprox
  | .enqueued _ success => .answer .producer (.success success)
  | .counted result => .answer .producer (.size result)
  | .remove removal => .call .consumer (.remove removal)
  | .removed removal result => .answer .consumer (removal.answer result)
  | .producer | .consumer => .internal

/-- What has become of a call of the queue. -/
abbrev QueueStatus (α : Type u) := NotingStatus (QueueCall α) (QueueResult α)

/-- The call is running. -/
def Running {α : Type u} (call : QueueCall α) (status : QueueStatus α) : Prop :=
  Exists fun noted => status = .called call noted

/-- The call has been performed with the answer, or has noted it. -/
def Answered {α : Type u} (result : QueueResult α) (status : QueueStatus α) : Prop :=
  status = .done result ∨ Exists fun call => Exists fun noted =>
    status = .called call noted ∧ noted result

namespace ReaderWriterQueue

variable {α : Type u}

/-! ## Room -/

/-- The number of elements that blocks have room for. -/
def room (queue : ReaderWriterQueue α) (blocks : List Nat) : Nat :=
  (blocks.map fun block => (queue.blocks block).sizeMask).sum

/-- There is room for the size that the queue was made for: in the only block, or beside
any one of several. -/
structure Roomy (maxSize : Nat) (queue : ReaderWriterQueue α) (view : QueueView α) : Prop where
  single : (queue.ring view).length = 1 ->
    maxSize ≤ (queue.blocks queue.frontBlock).sizeMask ∧ maxSize < queue.largestBlockSize
  beside : 2 ≤ (queue.ring view).length -> forall block, block ∈ queue.ring view ->
    maxSize ≤ queue.room ((queue.ring view).erase block)

theorem room_congr {queue next : ReaderWriterQueue α} {blocks : List Nat}
    (same : forall block, block ∈ blocks ->
      (next.blocks block).sizeMask = (queue.blocks block).sizeMask) :
    next.room blocks = queue.room blocks :=
  congrArg List.sum (List.map_congr_left same)

theorem room_perm (queue : ReaderWriterQueue α) {blocks others : List Nat}
    (perm : blocks.Perm others) : queue.room blocks = queue.room others :=
  List.Perm.sum_nat (perm.map _)

/-- The same blocks, in any order. -/
theorem Roomy.congr {maxSize : Nat} {queue next : ReaderWriterQueue α}
    {view nextView : QueueView α} (roomy : queue.Roomy maxSize view)
    (perm : (next.ring nextView).Perm (queue.ring view))
    (same : forall block, block ∈ queue.ring view ->
      (next.blocks block).sizeMask = (queue.blocks block).sizeMask)
    (largest : queue.largestBlockSize ≤ next.largestBlockSize) : next.Roomy maxSize nextView where
  single := by
    intro one
    rw [perm.length_eq] at one
    rcases roomy.single one with ⟨fits, less⟩
    rcases List.length_eq_one_iff.mp one with ⟨block, ring⟩
    have nextFront : next.frontBlock ∈ queue.ring view :=
      perm.subset (List.mem_append_left _ (List.mem_cons_self ..))
    have front : queue.frontBlock ∈ queue.ring view :=
      List.mem_append_left _ (List.mem_cons_self ..)
    have masks := same _ nextFront
    rw [ring] at front nextFront
    rw [masks, List.mem_singleton.mp nextFront, ← List.mem_singleton.mp front]
    exact ⟨fits, Nat.lt_of_lt_of_le less largest⟩
  beside := by
    intro several block inside
    rw [perm.length_eq] at several
    have fits := roomy.beside several block (perm.subset inside)
    rw [next.room_perm (perm.erase block), room_congr]
    · exact fits
    · exact fun other member => same other (List.mem_of_mem_erase member)

theorem room_cons (queue : ReaderWriterQueue α) (block : Nat) (blocks : List Nat) :
    queue.room (block :: blocks) = (queue.blocks block).sizeMask + queue.room blocks := by
  rw [room, List.map_cons, List.sum_cons]
  rfl

/-- There is room in all blocks together. -/
theorem Roomy.whole {maxSize : Nat} {queue : ReaderWriterQueue α} {view : QueueView α}
    (roomy : queue.Roomy maxSize view) : maxSize ≤ queue.room (queue.ring view) := by
  have front : queue.frontBlock ∈ queue.ring view :=
    List.mem_append_left _ (List.mem_cons_self ..)
  rw [queue.room_perm (List.perm_cons_erase front), room_cons]
  by_cases one : (queue.ring view).length = 1
  · exact Nat.le_add_right_of_le (roomy.single one).1
  · have positive := List.length_pos_of_mem front
    exact Nat.le_add_left_of_le (roomy.beside (by omega) _ front)

/-- A new block that is at least as large as the only one. -/
theorem Roomy.link {maxSize : Nat} {queue next : ReaderWriterQueue α}
    {view nextView : QueueView α} (roomy : queue.Roomy maxSize view) {newBlock : Nat}
    (perm : (next.ring nextView).Perm (newBlock :: queue.ring view))
    (same : forall block, (next.blocks block).sizeMask = (queue.blocks block).sizeMask)
    (large : (queue.ring view).length = 1 -> maxSize ≤ (queue.blocks newBlock).sizeMask) :
    next.Roomy maxSize nextView where
  single := by
    intro one
    rw [perm.length_eq, List.length_cons] at one
    have nothing := List.eq_nil_of_length_eq_zero (Nat.succ.inj one)
    cases nothing
  beside := by
    intro _ block inside
    rw [next.room_perm (perm.erase block), room_congr fun other _ => same other]
    by_cases here : block = newBlock
    · rw [here, List.erase_cons_head]
      exact roomy.whole
    · rw [List.erase_cons_tail (by simpa using Ne.symm here), room_cons]
      have old := (List.mem_cons.mp (perm.subset inside)).resolve_left here
      by_cases one : (queue.ring view).length = 1
      · exact Nat.le_add_right_of_le (large one)
      · have positive := List.length_pos_of_mem old
        exact Nat.le_add_left_of_le (roomy.beside (by omega) _ old)

/-- The tail block is full, unless the consumer is in it already. -/
def FullTail (queue : ReaderWriterQueue α) (view : QueueView α) : Prop :=
  queue.tailBlock = queue.frontBlock ∨
    (view.blocks queue.tailBlock).buffer.pushed + 1 =
      (view.blocks queue.tailBlock).buffer.popped + (queue.blocks queue.tailBlock).size

/-- The number of elements that wait in a block. -/
def waitingIn (view : QueueView α) (block : Nat) : Nat :=
  (view.blocks block).buffer.pushed - (view.blocks block).buffer.popped

theorem Laid.length_content {queue : ReaderWriterQueue α} {view : QueueView α}
    (laid : queue.Laid view) :
    (queue.content view).length = ((queue.used view).map (waitingIn view)).sum := by
  rw [content, List.length_flatMap]
  refine congrArg List.sum (List.map_congr_left fun block inside => ?_)
  exact (laid.holds block (laid.allocated block (List.mem_append_left _ inside))).buffer.items_length

/-- The only block is full. -/
theorem Roomy.refuse_single {maxSize : Nat} {queue : ReaderWriterQueue α} {view : QueueView α}
    (roomy : queue.Roomy maxSize view) (laid : queue.Laid view)
    (one : (queue.ring view).length = 1)
    (full : (view.blocks queue.tailBlock).buffer.pushed + 1 =
      (view.blocks queue.tailBlock).buffer.popped + (queue.blocks queue.tailBlock).size) :
    maxSize ≤ (queue.content view).length := by
  have others : view.others = [] := by
    rw [ring, used, List.length_append, List.length_cons] at one
    exact List.eq_nil_of_length_eq_zero (by omega)
  rw [laid.length_content, used, others, List.map_singleton, List.sum_singleton, waitingIn]
  rw [laid.tailBlock_eq_iff.mpr others, QueueBlock.size] at full
  have fits := (roomy.single one).1
  omega

/-- All blocks that the consumer is not in are full. -/
theorem Roomy.refuse_several {maxSize : Nat} {queue : ReaderWriterQueue α} {view : QueueView α}
    (roomy : queue.Roomy maxSize view) (laid : queue.Laid view)
    (several : 2 ≤ (queue.ring view).length) (spare : view.spare = [])
    (full : queue.FullTail view) : maxSize ≤ (queue.content view).length := by
  have ring : queue.ring view = queue.frontBlock :: view.others := by
    rw [ReaderWriterQueue.ring, used, spare, List.append_nil]
  have fits := roomy.beside several queue.frontBlock (List.mem_append_left _ (List.mem_cons_self ..))
  rw [ring, List.erase_cons_head] at fits
  have waiting : queue.room view.others = (view.others.map (waitingIn view)).sum := by
    refine congrArg List.sum (List.map_congr_left fun block inside => ?_)
    have apart : queue.tailBlock ≠ queue.frontBlock := by
      intro same
      rw [laid.tailBlock_eq_iff.mp same] at inside
      cases inside
    have filled : (view.blocks block).buffer.pushed + 1 =
        (view.blocks block).buffer.popped + (queue.blocks block).size := by
      by_cases here : block = queue.tailBlock
      · rw [here]
        exact full.resolve_left apart
      · exact laid.full block inside here
    rw [QueueBlock.size] at filled
    rw [waitingIn]
    omega
  rw [laid.length_content, used, List.map_cons, List.sum_cons, ← waiting]
  exact Nat.le_add_left_of_le fits

/-! ## The producer -/

/-- Where the producer makes an element: in the tail block or, if that is full, in the first
free block. -/
def Place (queue : ReaderWriterQueue α) (view : QueueView α) (block : Nat) : Bool -> Prop
  | false => block = queue.tailBlock
  | true => view.spare.head? = some block ∧ queue.FullTail view

/-- The blocks are counted along the links from one of them on, the ones of `rest` being left.
The numbers of elements that the queue has had in the meantime are noted, among them any
that the count can still come to. -/
def Counts (queue : ReaderWriterQueue α) (view : QueueView α) (status : QueueStatus α)
    (frontBlock_ block count : Nat) (rest : List Nat -> List Nat) : Prop :=
  Exists fun noted => Exists fun limit => Exists fun before => Exists fun after =>
    status = .called .sizeApprox noted ∧
      (forall size, (queue.content view).length ≤ size -> size ≤ limit -> noted (.size size)) ∧
      (before ++ block :: after).Perm (queue.ring view) ∧
      (before ++ block :: after).head? = some frontBlock_ ∧
      LinkedRing (fun block => (queue.blocks block).next) (before ++ block :: after) ∧
      (queue.content view).length ≤ count + ((rest after).map (waitingIn view)).sum ∧
      count + ((rest after).map (waitingIn view)).sum ≤ limit

end ReaderWriterQueue

/-- What the producer knows in `size_approx`. -/
def SizeApprox.Knows {α : Type u} (queue : ReaderWriterQueue α) (view : QueueView α)
    (status : QueueStatus α) : SizeApprox -> Prop
  | .called => Running .sizeApprox status
  | .loadFront frontBlock_ block result =>
      queue.Counts view status frontBlock_ block result fun after => block :: after
  | .loadTail frontBlock_ block blockFront result =>
      Exists fun seen => blockFront = seen % (queue.blocks block).size ∧
        seen ≤ (view.blocks block).buffer.popped ∧
        (view.blocks block).buffer.pushed < seen + (queue.blocks block).size ∧
        queue.Counts view status frontBlock_ block
          (result + ((view.blocks block).buffer.pushed - seen)) fun after => after
  | .loadNext frontBlock_ block result =>
      queue.Counts view status frontBlock_ block result fun after => after
  | .done result => Answered (.size result) status

namespace QueueProducer

variable {α : Type u}

/-- The elements that the producer has made in a block and not announced. -/
def making : QueueProducer α -> Nat -> Nat
  | .storeTail _ block _ _, other => if other = block then 1 else 0
  | _, _ => 0

/-- The free block that has an element already. -/
def started : QueueProducer α -> Option Nat
  | .storeTailBlock _ block => some block
  | _ => none

/-- The block that is not linked in yet. -/
def unlinked : QueueProducer α -> Option Nat
  | .storeNext _ _ newBlock => some newBlock
  | _ => none

/-- The element of a call that has succeeded. -/
def accepted : QueueProducer α -> List α
  | .done element true => [element]
  | _ => []

/-- The part of the queue that belongs to the producer is as the producer has left it. -/
structure Owns (queue : ReaderWriterQueue α) (view : QueueView α) (producer : QueueProducer α) :
    Prop where
  written : forall block, block < queue.blockCount ->
    (view.blocks block).buffer.written.length =
      (view.blocks block).buffer.pushed + producer.making block
  spare : forall block, block ∈ view.spare -> producer.started ≠ some block ->
    (view.blocks block).buffer.popped = (view.blocks block).buffer.pushed
  linked : forall block, block < queue.blockCount ->
    block ∈ queue.ring view ∨ producer.unlinked = some block

/-- What the producer knows at each access. -/
def Knows (maxSize : Nat) (queue : ReaderWriterQueue α) (view : QueueView α)
    (status : QueueStatus α) : QueueProducer α -> Prop
  | .idle => status = .idle
  | .called element mode => Running (.enqueue element mode) status
  | .loadFront element mode tailBlock_ blockTail nextBlockTail =>
      Running (.enqueue element mode) status ∧ tailBlock_ = queue.tailBlock ∧
        blockTail = (queue.blocks tailBlock_).tail ∧
        nextBlockTail = (queue.blocks tailBlock_).following blockTail
  | .construct element block blockTail nextBlockTail publish =>
      (Exists fun mode => Running (.enqueue element mode) status) ∧
        queue.Place view block publish ∧ blockTail = (queue.blocks block).tail ∧
        nextBlockTail = (queue.blocks block).following blockTail ∧
        (view.blocks block).buffer.pushed + 1 <
          (view.blocks block).seenFront + (queue.blocks block).size
  | .storeTail element block nextBlockTail publish =>
      (Exists fun mode => Running (.enqueue element mode) status) ∧
        queue.Place view block publish ∧
        nextBlockTail = (queue.blocks block).following (queue.blocks block).tail ∧
        (view.blocks block).buffer.pushed + 1 <
          (view.blocks block).seenFront + (queue.blocks block).size ∧
        (view.blocks block).buffer.written[(view.blocks block).buffer.pushed]? = some element
  | .loadFrontBlock element mode tailBlock_ =>
      tailBlock_ = queue.tailBlock ∧ queue.FullTail view ∧
        Exists fun noted => status = .called (.enqueue element mode) noted ∧
          (mode ≠ .canAlloc true -> (queue.ring view).length = 1 -> noted (.success false))
  | .loadNextFront element tailBlockNext =>
      (Exists fun mode => Running (.enqueue element mode) status) ∧
        queue.FullTail view ∧ view.spare.head? = some tailBlockNext
  | .makeBlock element memory tailBlock_ =>
      tailBlock_ = queue.tailBlock ∧ queue.FullTail view ∧
        Exists fun noted => status = .called (.enqueue element (.canAlloc memory)) noted ∧
          (memory = false -> noted (.success false))
  | .storeNext element tailBlock_ newBlock =>
      (Exists fun mode => Running (.enqueue element mode) status) ∧
        tailBlock_ = queue.tailBlock ∧ queue.FullTail view ∧ newBlock < queue.blockCount ∧
        newBlock ∉ queue.ring view ∧
        (queue.blocks newBlock).next = (queue.blocks queue.tailBlock).next ∧
        (view.blocks newBlock).buffer.items = [element] ∧
        ((queue.ring view).length = 1 -> maxSize ≤ (queue.blocks newBlock).sizeMask)
  | .storeTailBlock element block =>
      (Exists fun mode => Running (.enqueue element mode) status) ∧ queue.FullTail view ∧
        view.spare.head? = some block ∧ (view.blocks block).buffer.items = [element]
  | .done _ success => Answered (.success success) status
  | .counting size => size.Knows queue view status

end QueueProducer

/-! ## The consumer -/

namespace QueueConsumer

variable {α : Type u}

/-- The elements that the consumer has taken from a block without moving its front. -/
def taking : QueueConsumer α -> Nat -> Nat
  | .storeFront _ block _ _, other => if other = block then 1 else 0
  | _, _ => 0

/-- The element of a call that has removed one. -/
def received : QueueConsumer α -> List α
  | .done .peek _ => []
  | .done _ result => result.toList
  | _ => []

/-- The part of the queue that belongs to the consumer is as the consumer has left it. -/
structure Owns (queue : ReaderWriterQueue α) (view : QueueView α) (consumer : QueueConsumer α) :
    Prop where
  taken : forall block, block < queue.blockCount ->
    (view.blocks block).buffer.taken =
      (view.blocks block).buffer.popped + consumer.taking block

/-- The front block has been left empty by the producer for the given block. -/
def Leaves (queue : ReaderWriterQueue α) (view : QueueView α) (nextBlock : Nat) : Prop :=
  (view.blocks queue.frontBlock).buffer.popped = (view.blocks queue.frontBlock).buffer.pushed ∧
    view.others.head? = some nextBlock

/-- What the consumer knows at each access. -/
def Knows (queue : ReaderWriterQueue α) (view : QueueView α) (status : QueueStatus α) :
    QueueConsumer α -> Prop
  | .idle => status = .idle
  | .called removal => Running (.remove removal) status
  | .loadTail removal frontBlock_ blockFront =>
      Running (.remove removal) status ∧ frontBlock_ = queue.frontBlock ∧
        blockFront = (queue.blocks frontBlock_).front
  | .element removal block blockFront =>
      Running (.remove removal) status ∧ blockFront = (queue.blocks block).front ∧
        (block = queue.frontBlock ∧
            (view.blocks block).buffer.popped < (view.blocks block).seenTail ∨
          removal = .peek ∧ Leaves queue view block)
  | .storeFront removal block blockFront result =>
      removal ≠ .peek ∧ Running (.remove removal) status ∧ block = queue.frontBlock ∧
        blockFront = (queue.blocks block).following (queue.blocks block).front ∧
        (view.blocks block).buffer.popped < (view.blocks block).seenTail ∧
        (view.blocks block).buffer.written[(view.blocks block).buffer.popped]? = some result
  | .loadTailBlock removal frontBlock_ =>
      frontBlock_ = queue.frontBlock ∧
        Exists fun noted => status = .called (.remove removal) noted ∧
          (noted (removal.answer none) ∨ view.others ≠ [])
  | .reload removal => Running (.remove removal) status ∧ view.others ≠ []
  | .loadNext removal frontBlock_ =>
      Running (.remove removal) status ∧ frontBlock_ = queue.frontBlock ∧
        Exists fun nextBlock => Leaves queue view nextBlock
  | .loadNextTail removal nextBlock =>
      Running (.remove removal) status ∧ Leaves queue view nextBlock
  | .storeFrontBlock removal nextBlock nextBlockFront =>
      removal ≠ .peek ∧ Running (.remove removal) status ∧ Leaves queue view nextBlock ∧
        nextBlockFront = (queue.blocks nextBlock).front ∧
        (view.blocks nextBlock).buffer.popped < (view.blocks nextBlock).seenTail
  | .done removal result => Answered (removal.answer result) status

end QueueConsumer
end NetSystem
