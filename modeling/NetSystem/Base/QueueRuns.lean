import NetSystem.Base.QueueLifetime

namespace NetSystem

universe u

/-!
# Runs of the lock-free queue
-/

/-- The sizes that a queue can be made with: those that the constructor asserts, as long as
its own arithmetic stays within a `size_t`. -/
structure QueueSizes (maxBlockSize maxSize : UInt64) : Prop where
  blockSize : IsBlockSize maxBlockSize.toNat
  limit : maxBlockSize.toNat ≤ 2 ^ 62
  positive : 0 < maxSize.toNat
  small : maxSize.toNat < 2 ^ 63

/-- The queue of the callbacks and the one of the commands. -/
theorem queueSizes_callbacks : QueueSizes 512 256 where
  blockSize := ⟨8, by decide, by decide⟩
  limit := by decide
  positive := by decide
  small := by decide

namespace QueueThreads

variable {α : Type u}

/-- A new queue that no thread uses yet. -/
def start (maxBlockSize maxSize : UInt64) : QueueThreads α :=
  ⟨ReaderWriterQueue.construct maxBlockSize maxSize, .idle, .idle⟩

theorem start_consistent {maxBlockSize maxSize : UInt64}
    (sizes : QueueSizes maxBlockSize maxSize) :
    Exists fun view =>
      (start maxBlockSize maxSize : QueueThreads α).Consistent maxSize.toNat view .idle .idle ∧
        (start maxBlockSize maxSize : QueueThreads α).queue.content view = [] := by
  rcases ReaderWriterQueue.construct_eq (α := α) sizes.blockSize sizes.limit sizes.positive
    sizes.small with ⟨size, count, made, blockSize, roomy⟩
  rw [start, made]
  refine ⟨ReaderWriterQueue.initialView count,
    ⟨ReaderWriterQueue.laid_initialBlocks blockSize blockSize count, roomy,
      ⟨fun _ _ => rfl, fun _ _ _ => rfl, fun block within => .inl ?_⟩, ⟨fun _ _ => rfl⟩, rfl, rfl⟩,
    rfl⟩
  change block ∈ 0 :: List.range' 1 count
  rw [List.mem_cons, List.mem_range'_1]
  change block < count + 1 at within
  omega

/-- What one step keeps, a run keeps. -/
theorem Consistent.run {maxSize maxBlockSize : Nat} (blockSize : IsBlockSize maxBlockSize)
    {first last : QueueThreads α} {labels : List (QueueStep α)} {view : QueueView α}
    {producer consumer : QueueStatus α}
    (consistent : first.Consistent maxSize view producer consumer)
    (run : Run (Step maxBlockSize) first labels last) :
    Exists fun lastView => Exists fun lastProducer => Exists fun lastConsumer =>
      last.Consistent maxSize lastView lastProducer lastConsumer ∧
        (forall accepted received, first.Balanced view accepted received ->
          last.Balanced lastView (accepted ++ labels.flatMap QueueStep.accepts)
            (received ++ labels.flatMap QueueStep.receives)) ∧
        Exists fun events =>
          Run (NotingStep (queueObject maxSize))
            ⟨first.queue.content view, statuses producer consumer⟩ events
            ⟨last.queue.content lastView, statuses lastProducer lastConsumer⟩ ∧
          CallEvent.history events = CallEvent.history (labels.map QueueStep.event) := by
  induction run generalizing view producer consumer with
  | nil threads =>
      refine ⟨view, producer, consumer, consistent, ?_, [], .nil _, rfl⟩
      intro accepted received balanced
      rw [List.flatMap_nil, List.flatMap_nil, List.append_nil, List.append_nil]
      exact balanced
  | @cons threads middle last label labels once _ inductionHypothesis =>
      rcases consistent.step blockSize once with
        ⟨nextView, nextProducer, nextConsumer, next, keeps, _, now, matched, sameNow⟩
      rcases inductionHypothesis next with
        ⟨lastView, lastProducer, lastConsumer, ended, keepsLater, later, rest, sameLater⟩
      refine ⟨lastView, lastProducer, lastConsumer, ended, ?_, now ++ later, matched.append rest, ?_⟩
      · intro accepted received balanced
        rw [List.flatMap_cons, List.flatMap_cons, ← List.append_assoc, ← List.append_assoc]
        exact keepsLater _ _ (keeps _ _ balanced)
      · rw [CallEvent.history_append, sameNow, sameLater, ← CallEvent.history_append]
        rfl

theorem idle_statuses :
    (statuses .idle .idle : QueueThread -> QueueStatus α) = fun _ => .idle := by
  funext thread
  cases thread <;> rfl

section Runs

variable {maxBlockSize maxSize : UInt64} {labels : List (QueueStep α)} {last : QueueThreads α}

/-- Where a run from a new queue leads to, both threads know what they need, and nothing
has been lost or doubled. -/
theorem reached (sizes : QueueSizes maxBlockSize maxSize)
    (run : Run (Step maxBlockSize.toNat) (start maxBlockSize maxSize) labels last) :
    Exists fun view => Exists fun producer => Exists fun consumer =>
      last.Consistent maxSize.toNat view producer consumer ∧
        last.Balanced view (labels.flatMap QueueStep.accepts)
          (labels.flatMap QueueStep.receives) := by
  rcases start_consistent sizes with ⟨view, consistent, empty⟩
  rcases consistent.run sizes.blockSize run with
    ⟨lastView, producer, consumer, ended, keeps, _⟩
  refine ⟨lastView, producer, consumer, ended, keeps [] [] ?_⟩
  rw [Balanced, empty]
  rfl

/-- Whatever the threads do in whatever order, their calls return what they would return
from a queue that performs each of them in one step between its call and its return.  The
elements leave in the order in which they came, and no element is refused while there is
memory or fewer elements are there than the queue was made for. -/
theorem linearizable (sizes : QueueSizes maxBlockSize maxSize)
    (run : Run (Step maxBlockSize.toNat) (start maxBlockSize maxSize) labels last) :
    Linearizes (queueObject maxSize.toNat) []
      (CallEvent.history (labels.map QueueStep.event)) := by
  rcases start_consistent sizes with ⟨view, consistent, empty⟩
  rcases consistent.run sizes.blockSize run with ⟨_, _, _, _, _, events, matched, same⟩
  rw [empty, idle_statuses] at matched
  rw [← same]
  exact matched.linearizes

/-- Two callbacks, the first of which is removed while the second one is added. -/
def twoCallbacks : List (QueueStep Nat) :=
  [.enqueue 7 (.canAlloc false), .producer, .remove .tryDequeue, .consumer, .producer, .producer,
    .enqueued 7 true, .enqueue 8 .cannotAlloc, .consumer, .producer, .consumer, .producer,
    .consumer, .removed .tryDequeue (some 7), .producer, .enqueued 8 true]

theorem run_twoCallbacks :
    Exists fun last : QueueThreads Nat =>
      Run (Step (512 : UInt64).toNat) (start 512 256) twoCallbacks last ∧
        last.producer = .idle ∧ last.consumer = .idle :=
  ⟨_, .cons (.enqueue 7 (.canAlloc false) rfl) (.cons (.producer rfl)
    (.cons (.remove .tryDequeue rfl) (.cons (.consumer rfl) (.cons (.producer rfl)
    (.cons (.producer rfl) (.cons (.enqueued rfl) (.cons (.enqueue 8 .cannotAlloc rfl)
    (.cons (.consumer rfl) (.cons (.producer rfl) (.cons (.consumer rfl) (.cons (.producer rfl)
    (.cons (.consumer rfl) (.cons (.removed rfl) (.cons (.producer rfl)
    (.cons (.enqueued rfl) (.nil _)))))))))))))))), rfl, rfl⟩

theorem linearizable_twoCallbacks :
    Linearizes (queueObject (256 : UInt64).toNat) []
      (CallEvent.history (twoCallbacks.map QueueStep.event)) := by
  rcases run_twoCallbacks with ⟨last, run, _⟩
  exact linearizable queueSizes_callbacks run

/-- At any time the elements that have come out are the first ones of those that went in. -/
theorem received_prefix (sizes : QueueSizes maxBlockSize maxSize)
    (run : Run (Step maxBlockSize.toNat) (start maxBlockSize maxSize) labels last) :
    labels.flatMap QueueStep.receives ++ last.consumer.received <+:
      labels.flatMap QueueStep.accepts ++ last.producer.accepted := by
  rcases reached sizes run with ⟨view, _, _, _, balanced⟩
  exact ⟨last.queue.content view, balanced.symm⟩

theorem received_prefix_twoCallbacks :
    Exists fun last : QueueThreads Nat =>
      [7] ++ last.consumer.received <+: [7, 8] ++ last.producer.accepted := by
  rcases run_twoCallbacks with ⟨last, run, _⟩
  exact ⟨last, received_prefix queueSizes_callbacks run⟩

/-- When both threads are done, the destructor destroys the elements that have gone in and
not come out, and frees every block once. -/
theorem destroyed (sizes : QueueSizes maxBlockSize maxSize)
    (run : Run (Step maxBlockSize.toNat) (start maxBlockSize maxSize) labels last)
    (producer : last.producer = .idle) (consumer : last.consumer = .idle) :
    Exists fun elements => Exists fun blocks =>
      last.queue.destroy last.queue.blockCount = some (elements, blocks) ∧
        labels.flatMap QueueStep.accepts = labels.flatMap QueueStep.receives ++ elements ∧
        blocks.Perm (List.range last.queue.blockCount) := by
  rcases reached sizes run with ⟨view, _, _, consistent, balanced⟩
  rcases consistent with ⟨laid, _, producerOwns, consumerOwns, _, _⟩
  rw [producer] at producerOwns
  rw [consumer] at consumerOwns
  rw [Balanced, producer, consumer] at balanced
  change _ ++ [] = _ ++ [] ++ _ at balanced
  rw [List.append_nil, List.append_nil] at balanced
  have spare : (view.spare.flatMap fun block => (view.blocks block).buffer.items) = [] := by
    rw [List.flatMap_eq_nil_iff]
    exact fun block free => CircularView.items_eq_nil
      (producerOwns.spare block free (Option.some_ne_none block).symm)
  have blocks : (last.queue.ring view).Perm (List.range last.queue.blockCount) := by
    rw [List.perm_ext_iff_of_nodup laid.linked.nodup List.nodup_range]
    intro block
    rw [List.mem_range]
    exact ⟨laid.allocated block, fun within =>
      (producerOwns.linked block within).resolve_right (Option.some_ne_none block).symm⟩
  have enough : (view.others ++ view.spare).length < last.queue.blockCount := by
    have length := blocks.length_eq
    rw [List.length_range] at length
    exact Nat.lt_of_succ_le (Nat.le_of_eq length)
  have whole : (last.queue.ring view).flatMap (fun block => (view.blocks block).buffer.items) =
      last.queue.content view := by
    rw [ReaderWriterQueue.ring, List.flatMap_append, spare, List.append_nil]
    rfl
  refine ⟨last.queue.content view, last.queue.ring view, ?_, balanced, blocks⟩
  rw [← whole]
  exact ReaderWriterQueue.destroyBlocks_eq laid
    (fun block within => consumerOwns.taken block within) (List.nil_append _).symm enough

theorem destroyed_twoCallbacks :
    Exists fun last : QueueThreads Nat => Exists fun elements => Exists fun blocks =>
      last.queue.destroy last.queue.blockCount = some (elements, blocks) ∧
        [7, 8] = [7] ++ elements ∧ blocks.Perm (List.range last.queue.blockCount) := by
  rcases run_twoCallbacks with ⟨last, run, producer, consumer⟩
  exact ⟨last, destroyed queueSizes_callbacks run producer consumer⟩

end Runs
end QueueThreads
end NetSystem
