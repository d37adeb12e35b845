import Mathlib.Data.List.Perm.Subperm
import NetSystem.Base.QueueRuns

namespace NetSystem

universe u

/-!
# Progress of the lock-free queue

A thread in a call can always make its next step: no assertion fails, no element is made
where there is one, and none is taken where there is none.  Neither thread waits for the
other, and a call of either is over after a number of its own steps.
-/

/-- The links from a block to the last one in front of another block, if there are no more
than `fuel`. -/
def ReaderWriterQueue.linksTo {α : Type u} (queue : ReaderWriterQueue α) (stop : Nat) :
    Nat -> Nat -> Nat
  | 0, _ => 0
  | fuel + 1, block =>
      if (queue.blocks block).next = stop then 0
      else queue.linksTo stop fuel (queue.blocks block).next + 1

/-- The accesses that a call may still make. -/
def SizeApprox.remaining {α : Type u} (queue : ReaderWriterQueue α) : SizeApprox -> Nat
  | .called => 3 * queue.blockCount + 1
  | .loadFront frontBlock_ block _ => 3 * queue.linksTo frontBlock_ queue.blockCount block + 3
  | .loadTail frontBlock_ block _ _ => 3 * queue.linksTo frontBlock_ queue.blockCount block + 2
  | .loadNext frontBlock_ block _ => 3 * queue.linksTo frontBlock_ queue.blockCount block + 1
  | .done _ => 0

def QueueProducer.remaining {α : Type u} (queue : ReaderWriterQueue α) : QueueProducer α -> Nat
  | .called .. => 7
  | .loadFront .. => 6
  | .loadFrontBlock .. => 5
  | .loadNextFront .. => 4
  | .construct .. | .makeBlock .. => 3
  | .storeTail .. | .storeNext .. => 2
  | .storeTailBlock .. => 1
  | .idle | .done .. => 0
  | .counting size => size.remaining queue

def QueueConsumer.remaining {α : Type u} : QueueConsumer α -> Nat
  | .called .. => 9
  | .loadTail .. => 8
  | .loadTailBlock .. => 7
  | .reload .. => 6
  | .loadNext .. => 5
  | .loadNextTail .. => 4
  | .storeFrontBlock .. => 3
  | .element .. => 2
  | .storeFront .. => 1
  | .idle | .done .. => 0

namespace ReaderWriterQueue

variable {α : Type u} {queue next : ReaderWriterQueue α} {view : QueueView α}

/-! ## The producer -/

theorem linksTo_eq {stop block fuel : Nat} {before after : List Nat}
    (linked : LinkedRing (fun block => (queue.blocks block).next) (before ++ block :: after))
    (first : (before ++ block :: after).head? = some stop) (enough : after.length ≤ fuel) :
    queue.linksTo stop fuel block = after.length := by
  have leads := linked.next_eq
  have closing : (before ++ block :: after).take 1 = [stop] := by
    rcases List.head?_eq_some_iff.mp first with ⟨rest, split⟩
    rw [split]
    rfl
  rw [closing] at leads
  induction fuel generalizing block before after with
  | zero =>
      rw [List.eq_nil_of_length_eq_zero (Nat.le_zero.mp enough)]
      rfl
  | succ fuel inductionHypothesis =>
      rw [linksTo]
      cases after with
      | nil =>
          rw [if_pos (Option.some.inj leads).symm]
          rfl
      | cons other after =>
          have link : other = (queue.blocks block).next := Option.some.inj leads
          have further := linked.ne_first first
          rw [List.append_cons] at linked first closing
          have onward := linked.next_eq
          rw [closing] at onward
          rw [← link, if_neg further,
            inductionHypothesis linked first (Nat.le_of_succ_le_succ enough) onward closing]
          rfl

/-- The blocks that are left to be counted. -/
theorem Counts.linksTo {status : QueueStatus α} {frontBlock_ block count : Nat}
    {rest : List Nat -> List Nat} (laid : queue.Laid view)
    (counts : queue.Counts view status frontBlock_ block count rest) :
    queue.linksTo frontBlock_ queue.blockCount block < queue.blockCount ∧
      ((queue.blocks block).next ≠ frontBlock_ ->
        queue.linksTo frontBlock_ queue.blockCount block =
          queue.linksTo frontBlock_ queue.blockCount (queue.blocks block).next + 1) := by
  rcases counts with ⟨_, _, before, after, _, _, perm, first, linked, _, _⟩
  have few : (before ++ block :: after).length ≤ queue.blockCount := by
    have inside : (before ++ block :: after) ⊆ List.range queue.blockCount := fun other member =>
      List.mem_range.mpr (laid.allocated other (perm.subset member))
    have length := (List.Nodup.subperm linked.nodup inside).length_le
    rw [List.length_range] at length
    exact length
  rw [List.length_append, List.length_cons] at few
  rw [linksTo_eq linked first (by omega)]
  refine ⟨by omega, fun further => ?_⟩
  have leads := linked.next_eq
  cases after with
  | nil =>
      rcases List.head?_eq_some_iff.mp first with ⟨later, split⟩
      rw [split] at leads
      exact absurd (Option.some.inj leads).symm further
  | cons other after =>
      have link : other = (queue.blocks block).next := Option.some.inj leads
      rw [List.append_cons] at linked first
      rw [List.length_cons] at few
      rw [← link, linksTo_eq linked first (by omega)]
      rfl

theorem remaining_of_sizeApprox {status : QueueStatus α} (laid : queue.Laid view)
    {size later : SizeApprox} (knows : size.Knows queue view status)
    (free : forall block, block ∈ view.spare ->
      (view.blocks block).buffer.popped = (view.blocks block).buffer.pushed)
    (step : queue.sizeApprox size = some later) :
    later.remaining queue < size.remaining queue := by
  cases size with
  | called =>
      cases step
      have start := (laid.counts_start free fun _ => False).linksTo laid
      change 3 * _ + 3 < 3 * _ + 1
      omega
  | loadFront frontBlock_ block result =>
      cases step
      exact Nat.lt_succ_self _
  | loadTail frontBlock_ block blockFront result =>
      cases step
      exact Nat.lt_succ_self _
  | loadNext frontBlock_ block result =>
      dsimp only [sizeApprox] at step
      split at step
      case isTrue further =>
        cases step
        have onward := (knows.linksTo laid).2 further
        change 3 * _ + 3 < 3 * _ + 1
        omega
      case isFalse =>
        cases step
        exact Nat.succ_pos _
  | done result => cases step

/-- Every step of the producer comes nearer to the end of its call. -/
theorem remaining_of_produce {maxSize maxBlockSize : Nat} {producer later : QueueProducer α}
    {status : QueueStatus α} (laid : queue.Laid view) (owns : producer.Owns queue view)
    (knows : producer.Knows maxSize queue view status)
    (step : queue.produce maxBlockSize producer = some (next, later)) :
    later.remaining next < producer.remaining queue := by
  cases producer with
  | idle => cases step
  | done element success => cases step
  | counting size =>
      rcases Option.map_eq_some_iff.mp step with ⟨after, counted, same⟩
      cases same
      exact remaining_of_sizeApprox laid knows (fun block free => owns.spare block free nofun)
        counted
  | called element mode =>
      dsimp only [produce] at step
      split at step <;> cases step <;> exact Nat.le_of_ble_eq_true rfl
  | loadFront element mode tailBlock_ blockTail nextBlockTail =>
      dsimp only [produce] at step
      split at step <;> cases step <;> exact Nat.le_of_ble_eq_true rfl
  | construct element block blockTail nextBlockTail publish =>
      dsimp only [produce] at step
      split at step <;> cases step
      exact Nat.le_of_ble_eq_true rfl
  | storeTail element block nextBlockTail publish =>
      cases publish <;> cases step <;> exact Nat.le_of_ble_eq_true rfl
  | loadFrontBlock element mode tailBlock_ =>
      dsimp only [produce] at step
      split at step
      · cases step
        exact Nat.le_of_ble_eq_true rfl
      · cases mode <;> cases step <;> exact Nat.le_of_ble_eq_true rfl
  | loadNextFront element tailBlockNext =>
      dsimp only [produce] at step
      split at step <;> cases step
      exact Nat.le_of_ble_eq_true rfl
  | makeBlock element memory tailBlock_ =>
      cases memory <;> cases step <;> exact Nat.le_of_ble_eq_true rfl
  | storeNext element tailBlock_ newBlock =>
      cases step
      exact Nat.le_of_ble_eq_true rfl
  | storeTailBlock element block =>
      cases step
      exact Nat.le_of_ble_eq_true rfl

/-- A producer in a call can always make its step. -/
theorem produce_isSome {maxSize : Nat} (maxBlockSize : Nat) {producer : QueueProducer α}
    {status : QueueStatus α} (laid : queue.Laid view) (owns : producer.Owns queue view)
    (knows : producer.Knows maxSize queue view status) (inside : producer.remaining queue ≠ 0) :
    Exists fun result => queue.produce maxBlockSize producer = some result := by
  cases producer with
  | idle => exact absurd rfl inside
  | done element success => exact absurd rfl inside
  | counting size =>
      cases size with
      | done result => exact absurd rfl inside
      | loadNext frontBlock_ block result =>
          dsimp only [produce, sizeApprox]
          split <;> exact ⟨_, rfl⟩
      | _ => exact ⟨_, rfl⟩
  | called element mode =>
      dsimp only [produce]
      split <;> exact ⟨_, rfl⟩
  | loadFront element mode tailBlock_ blockTail nextBlockTail =>
      dsimp only [produce]
      split <;> exact ⟨_, rfl⟩
  | construct element block blockTail nextBlockTail publish =>
      dsimp only [produce]
      rw [laid.construct owns knows]
      exact ⟨_, rfl⟩
  | storeTail element block nextBlockTail publish => exact ⟨_, rfl⟩
  | loadFrontBlock element mode tailBlock_ =>
      dsimp only [produce]
      split
      · exact ⟨_, rfl⟩
      · cases mode <;> exact ⟨_, rfl⟩
  | loadNextFront element tailBlockNext =>
      have free := List.mem_of_head? knows.2.2
      have holds := laid.holds _ (laid.spare_lt free)
      dsimp only [produce]
      rw [if_pos (holds.buffer.front_eq_tail_iff.mpr (owns.spare _ free nofun))]
      exact ⟨_, rfl⟩
  | makeBlock element memory tailBlock_ => cases memory <;> exact ⟨_, rfl⟩
  | storeNext element tailBlock_ newBlock => exact ⟨_, rfl⟩
  | storeTailBlock element block => exact ⟨_, rfl⟩

/-! ## The consumer -/

/-- Every step of the consumer comes nearer to the end of its call. -/
theorem remaining_of_consume {consumer later : QueueConsumer α}
    (step : queue.consume consumer = some (next, later)) :
    later.remaining < consumer.remaining := by
  cases consumer with
  | idle => cases step
  | done removal result => cases step
  | called removal =>
      dsimp only [consume] at step
      split at step <;> cases step <;> exact Nat.le_of_ble_eq_true rfl
  | loadTail removal frontBlock_ blockFront =>
      dsimp only [consume] at step
      split at step <;> cases step <;> exact Nat.le_of_ble_eq_true rfl
  | element removal block blockFront =>
      dsimp only [consume] at step
      split at step
      · cases step
      · split at step <;> cases step <;> exact Nat.le_of_ble_eq_true rfl
  | storeFront removal block blockFront result =>
      cases step
      exact Nat.le_of_ble_eq_true rfl
  | loadTailBlock removal frontBlock_ =>
      dsimp only [consume] at step
      split at step <;> cases step <;> exact Nat.le_of_ble_eq_true rfl
  | reload removal =>
      dsimp only [consume] at step
      split at step <;> cases step <;> exact Nat.le_of_ble_eq_true rfl
  | loadNext removal frontBlock_ =>
      cases step
      exact Nat.le_of_ble_eq_true rfl
  | loadNextTail removal nextBlock =>
      dsimp only [consume] at step
      split at step
      · split at step <;> cases step <;> exact Nat.le_of_ble_eq_true rfl
      · cases step
  | storeFrontBlock removal nextBlock nextBlockFront =>
      cases step
      exact Nat.le_of_ble_eq_true rfl

/-- A consumer in a call can always make its step. -/
theorem consume_isSome {consumer : QueueConsumer α} {status : QueueStatus α}
    (laid : queue.Laid view) (owns : consumer.Owns queue view)
    (knows : consumer.Knows queue view status) (inside : consumer.remaining ≠ 0) :
    Exists fun result => queue.consume consumer = some result := by
  cases consumer with
  | idle => exact absurd rfl inside
  | done removal result => exact absurd rfl inside
  | called removal =>
      dsimp only [consume]
      split <;> exact ⟨_, rfl⟩
  | loadTail removal frontBlock_ blockFront =>
      dsimp only [consume]
      split <;> exact ⟨_, rfl⟩
  | element removal block blockFront =>
      rcases laid.element owns knows with ⟨_, _, result, data, _⟩
      dsimp only [consume]
      rw [data]
      dsimp only
      split <;> exact ⟨_, rfl⟩
  | storeFront removal block blockFront result => exact ⟨_, rfl⟩
  | loadTailBlock removal frontBlock_ =>
      dsimp only [consume]
      split <;> exact ⟨_, rfl⟩
  | reload removal =>
      dsimp only [consume]
      split <;> exact ⟨_, rfl⟩
  | loadNext removal frontBlock_ => exact ⟨_, rfl⟩
  | loadNextTail removal nextBlock =>
      have other := List.mem_of_head? knows.2.2
      have holds := laid.holds _ (laid.others_lt other)
      have different : (queue.blocks nextBlock).front ≠ (queue.blocks nextBlock).tail := by
        intro same
        exact Nat.ne_of_lt (laid.waiting nextBlock other) (holds.buffer.front_eq_tail_iff.mp same)
      dsimp only [consume]
      rw [if_pos different]
      split <;> exact ⟨_, rfl⟩
  | storeFrontBlock removal nextBlock nextBlockFront => exact ⟨_, rfl⟩

end ReaderWriterQueue

namespace QueueThreads

variable {α : Type u}

/-- The accesses that the running calls may still make. -/
def producerRemaining (threads : QueueThreads α) : Nat := threads.producer.remaining threads.queue

/-- The other thread does not delay a call. -/
theorem producerRemaining_of_consumer {maxSize : Nat} {threads : QueueThreads α}
    {view : QueueView α} {producer consumer : QueueStatus α}
    (consistent : threads.Consistent maxSize view producer consumer)
    {queue : ReaderWriterQueue α} {later : QueueConsumer α}
    (step : threads.queue.consume threads.consumer = some (queue, later)) :
    threads.producer.remaining queue = threads.producerRemaining := by
  have moves : threads.queue.ConsumerMoves maxSize view consumer queue later :=
    ReaderWriterQueue.consume_moves consistent.laid consistent.consumerOwns
      consistent.consumerKnows step
  rcases moves with ⟨nextView, _, _, _, _, keeps, _, _⟩
  have links : forall stop fuel block, queue.linksTo stop fuel block =
      threads.queue.linksTo stop fuel block := by
    intro stop fuel
    induction fuel with
    | zero => exact fun _ => rfl
    | succ fuel inductionHypothesis =>
        intro block
        rw [ReaderWriterQueue.linksTo, ReaderWriterQueue.linksTo, (keeps.blocks block).link,
          inductionHypothesis]
  rw [producerRemaining]
  cases threads.producer with
  | counting size =>
      cases size with
      | called => exact congrArg (3 * · + 1) keeps.blockCount
      | loadFront frontBlock_ block result =>
          rw [QueueProducer.remaining, QueueProducer.remaining, SizeApprox.remaining,
            SizeApprox.remaining, keeps.blockCount, links]
      | loadTail frontBlock_ block blockFront result =>
          rw [QueueProducer.remaining, QueueProducer.remaining, SizeApprox.remaining,
            SizeApprox.remaining, keeps.blockCount, links]
      | loadNext frontBlock_ block result =>
          rw [QueueProducer.remaining, QueueProducer.remaining, SizeApprox.remaining,
            SizeApprox.remaining, keeps.blockCount, links]
      | done result => rfl
  | _ => rfl

/-- The two threads never access the same place, and neither is ever stuck in a call: what
the source asserts is true, elements are made in raw memory, and the places that elements
are taken from have one. -/
theorem never_stuck {maxBlockSize maxSize : UInt64} {labels : List (QueueStep α)}
    {last : QueueThreads α} (sizes : QueueSizes maxBlockSize maxSize)
    (run : Run (Step maxBlockSize.toNat) (start maxBlockSize maxSize) labels last) :
    (last.producerRemaining ≠ 0 ->
        Exists fun next => last.Step maxBlockSize.toNat .producer next) ∧
      (last.consumer.remaining ≠ 0 ->
        Exists fun next => last.Step maxBlockSize.toNat .consumer next) ∧
      forall element block blockTail nextBlockTail publish removal other blockFront,
        last.producer = .construct element block blockTail nextBlockTail publish ->
        last.consumer = .element removal other blockFront ->
        (block, blockTail) ≠ (other, blockFront) := by
  rcases reached sizes run with ⟨view, producer, consumer, consistent, _⟩
  refine ⟨fun inside => ?_, fun inside => ?_, ?_⟩
  · rcases ReaderWriterQueue.produce_isSome maxBlockSize.toNat consistent.laid
      consistent.producerOwns consistent.producerKnows inside with ⟨⟨queue, later⟩, step⟩
    exact ⟨_, .producer step⟩
  · rcases ReaderWriterQueue.consume_isSome consistent.laid consistent.consumerOwns
      consistent.consumerKnows inside with ⟨⟨queue, later⟩, step⟩
    exact ⟨_, .consumer step⟩
  · intro element block blockTail nextBlockTail publish removal other blockFront constructs takes same
    have producerOwns := consistent.producerOwns
    have producerKnows := consistent.producerKnows
    have consumerOwns := consistent.consumerOwns
    have consumerKnows := consistent.consumerKnows
    rw [constructs] at producerOwns producerKnows
    rw [takes] at consumerOwns consumerKnows
    have raw := consistent.laid.construct producerOwns producerKnows
    rcases consistent.laid.element consumerOwns consumerKnows with ⟨_, _, result, data, _⟩
    rcases Prod.mk.inj same with ⟨rfl, rfl⟩
    rw [data] at raw
    cases raw

theorem never_stuck_add :
    Exists fun last : QueueThreads Nat => Exists fun next =>
      last.producer = .called 7 .cannotAlloc ∧ last.Step (512 : UInt64).toNat .producer next := by
  have run : Run (Step (512 : UInt64).toNat) (start 512 256) _ _ :=
    .single (.enqueue 7 .cannotAlloc rfl)
  rcases (never_stuck queueSizes_callbacks run).1 (Nat.succ_ne_zero 6) with ⟨next, step⟩
  exact ⟨_, next, rfl, step⟩

end QueueThreads

/-- The step calls or returns to the thread. -/
def QueueStep.isBoundary {α : Type u} (thread : QueueThread) (label : QueueStep α) : Bool :=
  match label.event with
  | .call other _ | .answer other _ => other = thread
  | .internal => false

/-- The step is an access of the thread. -/
def QueueStep.isAccess {α : Type u} : QueueThread -> QueueStep α -> Bool
  | .producer, .producer => true
  | .consumer, .consumer => true
  | _, _ => false

namespace QueueThreads

variable {α : Type u}

theorem producer_accesses {maxSize maxBlockSize : Nat} (blockSize : IsBlockSize maxBlockSize)
    {middle last : QueueThreads α} {labels : List (QueueStep α)} {view : QueueView α}
    {producer consumer : QueueStatus α}
    (consistent : middle.Consistent maxSize view producer consumer)
    (run : Run (Step maxBlockSize) middle labels last)
    (inside : forall label, label ∈ labels -> label.isBoundary .producer = false) :
    labels.countP (QueueStep.isAccess .producer) + last.producerRemaining ≤
      middle.producerRemaining := by
  induction run generalizing view producer consumer with
  | nil => exact Nat.le_of_eq (Nat.zero_add _)
  | @cons middle next last label labels once _ inductionHypothesis =>
      rcases consistent.step blockSize once with ⟨_, _, _, after, _, _⟩
      have rest := inductionHypothesis after fun label member =>
        inside label (List.mem_cons_of_mem _ member)
      have here := inside label (List.mem_cons_self ..)
      rw [List.countP_cons]
      cases once with
      | enqueue => cases here
      | sizeApprox => cases here
      | enqueued => cases here
      | counted => cases here
      | remove => exact rest
      | removed => exact rest
      | @producer queue later step =>
          have less : later.remaining queue < middle.producerRemaining :=
            ReaderWriterQueue.remaining_of_produce consistent.laid consistent.producerOwns
              consistent.producerKnows step
          change _ ≤ later.remaining queue at rest
          rw [QueueStep.isAccess, if_pos rfl]
          omega
      | consumer step =>
          rw [← producerRemaining_of_consumer consistent step]
          exact rest

theorem consumer_accesses {maxBlockSize : Nat} {middle last : QueueThreads α}
    {labels : List (QueueStep α)} (run : Run (Step maxBlockSize) middle labels last)
    (inside : forall label, label ∈ labels -> label.isBoundary .consumer = false) :
    labels.countP (QueueStep.isAccess .consumer) + last.consumer.remaining ≤
      middle.consumer.remaining := by
  induction run with
  | nil => exact Nat.le_of_eq (Nat.zero_add _)
  | @cons middle next last label labels once _ inductionHypothesis =>
      have rest := inductionHypothesis fun label member =>
        inside label (List.mem_cons_of_mem _ member)
      have here := inside label (List.mem_cons_self ..)
      rw [List.countP_cons]
      cases once with
      | remove => cases here
      | removed => cases here
      | @consumer queue later step =>
          have less := ReaderWriterQueue.remaining_of_consume step
          change _ ≤ later.remaining at rest
          rw [QueueStep.isAccess, if_pos rfl]
          omega
      | _ => exact rest

/-- No call waits for the other thread: it is over after a number of its own steps, whatever
the other one does meanwhile.  A step is one access to what both threads use, with what the
thread does to its own variables in between. -/
theorem wait_free {maxBlockSize maxSize : UInt64} {before during : List (QueueStep α)}
    {middle last : QueueThreads α} (sizes : QueueSizes maxBlockSize maxSize)
    (run : Run (Step maxBlockSize.toNat) (start maxBlockSize maxSize) before middle)
    (goes : Run (Step maxBlockSize.toNat) middle during last) :
    ((forall label, label ∈ during -> label.isBoundary .producer = false) ->
        (forall element mode, middle.producer = .called element mode ->
          during.countP (QueueStep.isAccess .producer) ≤ 7) ∧
        (middle.producer = .counting .called ->
          during.countP (QueueStep.isAccess .producer) ≤ 3 * middle.queue.blockCount + 1)) ∧
      ((forall label, label ∈ during -> label.isBoundary .consumer = false) ->
        forall removal, middle.consumer = .called removal ->
          during.countP (QueueStep.isAccess .consumer) ≤ 9) := by
  rcases reached sizes run with ⟨view, producer, consumer, consistent, _⟩
  refine ⟨fun inside => ?_, fun inside removal called => ?_⟩
  · have accesses := producer_accesses sizes.blockSize consistent goes inside
    refine ⟨fun element mode called => ?_, fun called => ?_⟩
    · rw [producerRemaining, producerRemaining, called] at accesses
      exact Nat.le_trans (Nat.le_add_right ..) accesses
    · rw [producerRemaining, producerRemaining, called] at accesses
      exact Nat.le_trans (Nat.le_add_right ..) accesses
  · have accesses := consumer_accesses goes inside
    rw [called] at accesses
    exact Nat.le_trans (Nat.le_add_right ..) accesses

/-- An `enqueue` that finds room makes three accesses. -/
theorem wait_free_add : Exists fun last =>
    Run (Step (512 : UInt64).toNat) (start 512 256) [.enqueue 7 .cannotAlloc]
      { (start 512 256 : QueueThreads Nat) with producer := .called 7 .cannotAlloc } ∧
    Run (Step (512 : UInt64).toNat)
      { (start 512 256 : QueueThreads Nat) with producer := .called 7 .cannotAlloc }
      [.producer, .producer, .producer] last ∧
    ([.producer, .producer, .producer] : List (QueueStep Nat)).countP
      (QueueStep.isAccess .producer) ≤ 7 := by
  have run : Run (Step (512 : UInt64).toNat) (start 512 256) _ _ :=
    .single (.enqueue 7 .cannotAlloc rfl)
  have goes : Exists fun last => Run (Step (512 : UInt64).toNat)
      { (start 512 256 : QueueThreads Nat) with producer := .called 7 .cannotAlloc }
      [.producer, .producer, .producer] last :=
    ⟨_, .cons (.producer rfl) (.cons (.producer rfl) (.cons (.producer rfl) (.nil _)))⟩
  rcases goes with ⟨last, goes⟩
  exact ⟨last, run, goes,
    ((wait_free queueSizes_callbacks run goes).1 (by decide)).1 7 .cannotAlloc rfl⟩

end QueueThreads
end NetSystem
