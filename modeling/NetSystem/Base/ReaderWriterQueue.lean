import Mathlib.Algebra.Group.Nat.Defs
import Mathlib.Logic.Function.Basic
import NetSystem.Foundation.Transition

namespace NetSystem

universe u

/-!
# The lock-free queue

`ReaderWriterQueue` of `readerwriterqueue.h`, the queue behind the callbacks and commands
of the two threads.  It is a circular list of circular buffers, with one thread that
enqueues and one that dequeues.  The producer owns all tails, the consumer owns all fronts,
and each keeps a copy of what it has last read of the other's.

A step is one access to what both threads use: a thread is at the next access of its call,
with the local variables that it will need.  What only one of them uses is accessed along
with it.  The steps of the threads interleave in any order, and every access sees the last
value that was written.  A step that fails an assertion, makes an element where there is
one, or takes one where there is none, has no result.

Sizes and indices are natural numbers for `size_t`; they stay below the size of a block.  A
pointer to a block is the number of its allocation.
-/

/-- `Block`.  A place of `data` without an element is raw memory. -/
structure QueueBlock (α : Type u) where
  front : Nat
  localTail : Nat
  tail : Nat
  localFront : Nat
  next : Nat
  data : Nat -> Option α
  sizeMask : Nat

/-- `make_block`, with the next block that its caller sets. -/
def QueueBlock.make {α : Type u} (capacity next : Nat) : QueueBlock α where
  front := 0
  localTail := 0
  tail := 0
  localFront := 0
  next := next
  data := fun _ => none
  sizeMask := capacity - 1

/-- What the producer does with a new block: it makes the first element. -/
def QueueBlock.startWith {α : Type u} (newBlock : QueueBlock α) (element : α) : QueueBlock α :=
  { newBlock with
    data := Function.update newBlock.data 0 (some element)
    tail := 1
    localTail := 1 }

/-- The loop is over the shifts by whole bytes that are less than the width of a `size_t`. -/
def ceilToPow2 (x : UInt64) : UInt64 :=
  let x := x - 1
  let x := x ||| x >>> 1
  let x := x ||| x >>> 2
  let x := x ||| x >>> 4
  let x := ([1, 2, 4] : List UInt64).foldl (fun (x i : UInt64) => x ||| x >>> (i <<< 3)) x
  x + 1

/-- `(index + 1) & sizeMask`. -/
def QueueBlock.following {α : Type u} (block : QueueBlock α) (index : Nat) : Nat :=
  (index + 1) &&& block.sizeMask

/-- The members of the queue, and its blocks in memory. -/
structure ReaderWriterQueue (α : Type u) where
  blocks : Nat -> QueueBlock α
  blockCount : Nat
  frontBlock : Nat
  tailBlock : Nat
  largestBlockSize : Nat

/-- `enqueue` and `try_enqueue`.  A call allocates at most once, so that the one that may
allocate carries whether there is memory. -/
inductive AllocationMode where
  | canAlloc (memory : Bool)
  | cannotAlloc
deriving DecidableEq

/-- Where a thread is in `size_approx`. -/
inductive SizeApprox where
  | called
  | loadFront (frontBlock_ block result : Nat)
  | loadTail (frontBlock_ block blockFront result : Nat)
  | loadNext (frontBlock_ block result : Nat)
  | done (result : Nat)

/-- Where the producer is in `inner_enqueue`, or in `size_approx`.  `construct` and
`storeTail` are in the tail block or, when `publish` is set, in the block behind it. -/
inductive QueueProducer (α : Type u) where
  | idle
  | called (element : α) (mode : AllocationMode)
  | loadFront (element : α) (mode : AllocationMode) (tailBlock_ blockTail nextBlockTail : Nat)
  | construct (element : α) (block blockTail nextBlockTail : Nat) (publish : Bool)
  | storeTail (element : α) (block nextBlockTail : Nat) (publish : Bool)
  | loadFrontBlock (element : α) (mode : AllocationMode) (tailBlock_ : Nat)
  | loadNextFront (element : α) (tailBlockNext : Nat)
  | makeBlock (element : α) (memory : Bool) (tailBlock_ : Nat)
  | storeNext (element : α) (tailBlock_ newBlock : Nat)
  | storeTailBlock (element : α) (block : Nat)
  | done (element : α) (success : Bool)
  | counting (size : SizeApprox)

/-- The calls of the consumer. -/
inductive QueueRemoval where
  | tryDequeue
  | pop
  | peek
deriving DecidableEq

/-- Where the consumer is in `try_dequeue`, `pop` or `peek`.  `element` is behind the label
`non_empty_front_block`, and behind the advance to the next block. -/
inductive QueueConsumer (α : Type u) where
  | idle
  | called (removal : QueueRemoval)
  | loadTail (removal : QueueRemoval) (frontBlock_ blockFront : Nat)
  | element (removal : QueueRemoval) (block blockFront : Nat)
  | storeFront (removal : QueueRemoval) (block blockFront : Nat) (result : α)
  | loadTailBlock (removal : QueueRemoval) (frontBlock_ : Nat)
  | reload (removal : QueueRemoval)
  | loadNext (removal : QueueRemoval) (frontBlock_ : Nat)
  | loadNextTail (removal : QueueRemoval) (nextBlock : Nat)
  | storeFrontBlock (removal : QueueRemoval) (nextBlock nextBlockFront : Nat)
  | done (removal : QueueRemoval) (result : Option α)

namespace ReaderWriterQueue

variable {α : Type u}

/-- A change of one block. -/
def modify (queue : ReaderWriterQueue α) (block : Nat)
    (change : QueueBlock α -> QueueBlock α) : ReaderWriterQueue α :=
  { queue with blocks := Function.update queue.blocks block (change (queue.blocks block)) }

/-- The size of the next block. -/
def newBlockSize (maxBlockSize : Nat) (queue : ReaderWriterQueue α) : Nat :=
  if maxBlockSize ≤ queue.largestBlockSize then queue.largestBlockSize
  else queue.largestBlockSize * 2

/-- A new block with its first element, in front of the block behind the tail block. -/
def addBlock (maxBlockSize : Nat) (queue : ReaderWriterQueue α) (element : α)
    (tailBlock_ : Nat) : ReaderWriterQueue α :=
  let newBlockSize := queue.newBlockSize maxBlockSize
  let newBlock := QueueBlock.make newBlockSize (queue.blocks tailBlock_).next
  { queue with
    blocks := Function.update queue.blocks queue.blockCount (newBlock.startWith element)
    blockCount := queue.blockCount + 1
    largestBlockSize := newBlockSize }

/-- `size_approx`, from one access to the next.  The difference is one of `size_t`. -/
def sizeApprox (queue : ReaderWriterQueue α) : SizeApprox -> Option SizeApprox
  | .called => some (.loadFront queue.frontBlock queue.frontBlock 0)
  | .loadFront frontBlock_ block result =>
      some (.loadTail frontBlock_ block (queue.blocks block).front result)
  | .loadTail frontBlock_ block blockFront result =>
      let blockTail := (queue.blocks block).tail
      some (.loadNext frontBlock_ block
        (result + ((blockTail + 2 ^ 64 - blockFront) % 2 ^ 64 &&& (queue.blocks block).sizeMask)))
  | .loadNext frontBlock_ block result =>
      let next := (queue.blocks block).next
      if next ≠ frontBlock_ then some (.loadFront frontBlock_ next result)
      else some (.done result)
  | .done _ => none

/-- `inner_enqueue`, from one access to the next. -/
def produce (maxBlockSize : Nat) (queue : ReaderWriterQueue α) :
    QueueProducer α -> Option (ReaderWriterQueue α × QueueProducer α)
  | .called element mode =>
      let tailBlock_ := queue.tailBlock
      let blockTail := (queue.blocks tailBlock_).tail
      let nextBlockTail := (queue.blocks tailBlock_).following blockTail
      if nextBlockTail ≠ (queue.blocks tailBlock_).localFront then
        some (queue, .construct element tailBlock_ blockTail nextBlockTail false)
      else some (queue, .loadFront element mode tailBlock_ blockTail nextBlockTail)
  | .loadFront element mode tailBlock_ blockTail nextBlockTail =>
      let front := (queue.blocks tailBlock_).front
      let noted := queue.modify tailBlock_ fun block => { block with localFront := front }
      if nextBlockTail ≠ front then
        some (noted, .construct element tailBlock_ blockTail nextBlockTail false)
      else some (noted, .loadFrontBlock element mode tailBlock_)
  | .construct element block blockTail nextBlockTail publish =>
      if ((queue.blocks block).data blockTail).isNone then
        some (queue.modify block fun b =>
            { b with data := Function.update b.data blockTail (some element) },
          .storeTail element block nextBlockTail publish)
      else none
  | .storeTail element block nextBlockTail publish =>
      some (queue.modify block fun b => { b with tail := nextBlockTail },
        if publish then .storeTailBlock element block else .done element true)
  | .loadFrontBlock element mode tailBlock_ =>
      let next := (queue.blocks tailBlock_).next
      if next ≠ queue.frontBlock then some (queue, .loadNextFront element next)
      else match mode with
        | .canAlloc memory => some (queue, .makeBlock element memory tailBlock_)
        | .cannotAlloc => some (queue, .done element false)
  | .loadNextFront element tailBlockNext =>
      let nextBlockFront := (queue.blocks tailBlockNext).front
      let nextBlockTail := (queue.blocks tailBlockNext).tail
      if nextBlockFront = nextBlockTail then
        some (queue.modify tailBlockNext fun b => { b with localFront := nextBlockFront },
          .construct element tailBlockNext nextBlockTail
            ((queue.blocks tailBlockNext).following nextBlockTail) true)
      else none
  | .makeBlock element memory tailBlock_ =>
      if memory then
        some (queue.addBlock maxBlockSize element tailBlock_,
          .storeNext element tailBlock_ queue.blockCount)
      else some (queue, .done element false)
  | .storeNext element tailBlock_ newBlock =>
      some (queue.modify tailBlock_ fun b => { b with next := newBlock },
        .storeTailBlock element newBlock)
  | .storeTailBlock element block =>
      some ({ queue with tailBlock := block }, .done element true)
  | .counting size => (queue.sizeApprox size).map fun next => (queue, .counting next)
  | .idle | .done _ _ => none

/-- `try_dequeue`, `pop` and `peek`, from one access to the next. -/
def consume (queue : ReaderWriterQueue α) :
    QueueConsumer α -> Option (ReaderWriterQueue α × QueueConsumer α)
  | .called removal =>
      let frontBlock_ := queue.frontBlock
      let blockTail := (queue.blocks frontBlock_).localTail
      let blockFront := (queue.blocks frontBlock_).front
      if blockFront ≠ blockTail then some (queue, .element removal frontBlock_ blockFront)
      else some (queue, .loadTail removal frontBlock_ blockFront)
  | .loadTail removal frontBlock_ blockFront =>
      let tail := (queue.blocks frontBlock_).tail
      let noted := queue.modify frontBlock_ fun block => { block with localTail := tail }
      if blockFront ≠ tail then some (noted, .element removal frontBlock_ blockFront)
      else some (noted, .loadTailBlock removal frontBlock_)
  | .element removal block blockFront =>
      match (queue.blocks block).data blockFront with
      | none => none
      | some result =>
          if removal = .peek then some (queue, .done .peek (some result))
          else
            some (queue.modify block fun b =>
                { b with data := Function.update b.data blockFront none },
              .storeFront removal block ((queue.blocks block).following blockFront) result)
  | .storeFront removal block blockFront result =>
      some (queue.modify block fun b => { b with front := blockFront },
        .done removal (some result))
  | .loadTailBlock removal frontBlock_ =>
      if frontBlock_ ≠ queue.tailBlock then some (queue, .reload removal)
      else some (queue, .done removal none)
  | .reload removal =>
      let frontBlock_ := queue.frontBlock
      let blockTail := (queue.blocks frontBlock_).tail
      let blockFront := (queue.blocks frontBlock_).front
      let noted := queue.modify frontBlock_ fun block => { block with localTail := blockTail }
      if blockFront ≠ blockTail then some (noted, .element removal frontBlock_ blockFront)
      else some (noted, .loadNext removal frontBlock_)
  | .loadNext removal frontBlock_ =>
      some (queue, .loadNextTail removal (queue.blocks frontBlock_).next)
  | .loadNextTail removal nextBlock =>
      let nextBlockFront := (queue.blocks nextBlock).front
      let nextBlockTail := (queue.blocks nextBlock).tail
      if nextBlockFront ≠ nextBlockTail then
        if removal = .peek then some (queue, .element .peek nextBlock nextBlockFront)
        else
          some (queue.modify nextBlock fun block => { block with localTail := nextBlockTail },
            .storeFrontBlock removal nextBlock nextBlockFront)
      else none
  | .storeFrontBlock removal nextBlock nextBlockFront =>
      some ({ queue with frontBlock := nextBlock }, .element removal nextBlock nextBlockFront)
  | .idle | .done _ _ => none

/-- The loop of the constructor, by the number of blocks that it has made.  Each is linked
behind the last one, and to the first one. -/
def initialBlocks (size : Nat) : Nat -> Nat -> QueueBlock α
  | 0 => fun _ => QueueBlock.make size 0
  | count + 1 =>
      let blocks := initialBlocks size count
      let linked :=
        if count = 0 then blocks
        else Function.update blocks (count - 1) { blocks (count - 1) with next := count }
      Function.update linked count (QueueBlock.make size 0)

/-- The constructor, if there is memory. -/
def construct (maxBlockSize maxSize : UInt64) : ReaderWriterQueue α :=
  let largestBlockSize := ceilToPow2 (maxSize + 1)
  if maxBlockSize * 2 < largestBlockSize then
    let initialBlockCount := (maxSize + maxBlockSize * 2 - 3) / (maxBlockSize - 1)
    { blocks := initialBlocks maxBlockSize.toNat initialBlockCount.toNat
      blockCount := initialBlockCount.toNat
      frontBlock := 0
      tailBlock := 0
      largestBlockSize := maxBlockSize.toNat }
  else
    { blocks := initialBlocks largestBlockSize.toNat 1
      blockCount := 1
      frontBlock := 0
      tailBlock := 0
      largestBlockSize := largestBlockSize.toNat }

/-- The inner loop of the destructor, with the elements that it destroys.  There is no
result if it comes to raw memory. -/
def destroyElements (block : QueueBlock α) : Nat -> Nat -> Option (List α)
  | 0, _ => none
  | fuel + 1, index =>
      if index = block.tail then some []
      else (block.data index).bind fun element =>
        (destroyElements block fuel (block.following index)).map (element :: ·)

/-- The loop of the destructor, with the elements that it destroys and the blocks that it
frees.  There is no result if it comes to a block that it has freed. -/
def destroyBlocks (queue : ReaderWriterQueue α) :
    Nat -> Nat -> List Nat -> Option (List α × List Nat)
  | 0, _, _ => none
  | fuel + 1, block, freed =>
      if block ∈ freed then none
      else
        (destroyElements (queue.blocks block) ((queue.blocks block).sizeMask + 1)
            (queue.blocks block).front).bind fun elements =>
          let nextBlock := (queue.blocks block).next
          if nextBlock ≠ queue.frontBlock then
            (destroyBlocks queue fuel nextBlock (freed ++ [block])).map fun (later, blocks) =>
              (elements ++ later, blocks)
          else some (elements, freed ++ [block])

/-- The destructor. -/
def destroy (fuel : Nat) (queue : ReaderWriterQueue α) : Option (List α × List Nat) :=
  queue.destroyBlocks fuel queue.frontBlock []

end ReaderWriterQueue

/-- The queue with its two threads. -/
structure QueueThreads (α : Type u) where
  queue : ReaderWriterQueue α
  producer : QueueProducer α
  consumer : QueueConsumer α

/-- What the threads do. -/
inductive QueueStep (α : Type u) where
  | enqueue (element : α) (mode : AllocationMode)
  | sizeApprox
  | producer
  | enqueued (element : α) (success : Bool)
  | counted (result : Nat)
  | remove (removal : QueueRemoval)
  | consumer
  | removed (removal : QueueRemoval) (result : Option α)

/-- One step of one of the threads.  A thread makes one call at a time. -/
inductive QueueThreads.Step {α : Type u} (maxBlockSize : Nat) :
    QueueThreads α -> QueueStep α -> QueueThreads α -> Prop
  | enqueue {threads : QueueThreads α} (element : α) (mode : AllocationMode)
      (idle : threads.producer = .idle) :
      Step maxBlockSize threads (.enqueue element mode)
        { threads with producer := .called element mode }
  | sizeApprox {threads : QueueThreads α} (idle : threads.producer = .idle) :
      Step maxBlockSize threads .sizeApprox { threads with producer := .counting .called }
  | producer {threads : QueueThreads α} {queue : ReaderWriterQueue α}
      {producer : QueueProducer α}
      (step : threads.queue.produce maxBlockSize threads.producer = some (queue, producer)) :
      Step maxBlockSize threads .producer { threads with queue := queue, producer := producer }
  | enqueued {threads : QueueThreads α} {element : α} {success : Bool}
      (done : threads.producer = .done element success) :
      Step maxBlockSize threads (.enqueued element success) { threads with producer := .idle }
  | counted {threads : QueueThreads α} {result : Nat}
      (done : threads.producer = .counting (.done result)) :
      Step maxBlockSize threads (.counted result) { threads with producer := .idle }
  | remove {threads : QueueThreads α} (removal : QueueRemoval)
      (idle : threads.consumer = .idle) :
      Step maxBlockSize threads (.remove removal) { threads with consumer := .called removal }
  | consumer {threads : QueueThreads α} {queue : ReaderWriterQueue α}
      {consumer : QueueConsumer α}
      (step : threads.queue.consume threads.consumer = some (queue, consumer)) :
      Step maxBlockSize threads .consumer { threads with queue := queue, consumer := consumer }
  | removed {threads : QueueThreads α} {removal : QueueRemoval} {result : Option α}
      (done : threads.consumer = .done removal result) :
      Step maxBlockSize threads (.removed removal result) { threads with consumer := .idle }

end NetSystem
