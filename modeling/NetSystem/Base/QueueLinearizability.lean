import NetSystem.Base.QueueConsumerSteps
import NetSystem.Base.QueueCounting

namespace NetSystem

universe u

/-!
# The lock-free queue is linearizable

The queue, with what has passed through its blocks and with what its threads know, is
related to a queue that one thread at a time uses.  Every step of a thread is one of its
call there.
-/

namespace QueueThreads

variable {α : Type u}

/-- The calls of the two threads. -/
def statuses (producer consumer : QueueStatus α) : QueueThread -> QueueStatus α
  | .producer => producer
  | .consumer => consumer

theorem update_producer (producer consumer now : QueueStatus α) :
    Function.update (statuses producer consumer) .producer now = statuses now consumer := by
  funext thread
  cases thread <;> rfl

theorem update_consumer (producer consumer now : QueueStatus α) :
    Function.update (statuses producer consumer) .consumer now = statuses producer now := by
  funext thread
  cases thread <;> rfl

section Steps

variable (maxSize : Nat) (content : List α) (producer consumer : QueueStatus α)

/-! A call, a step and an answer of each of the threads. -/

theorem callProducer (call : QueueCall α) :
    NotingStep (queueObject maxSize) ⟨content, statuses .idle consumer⟩ (.call .producer call)
      ⟨content, statuses (.called call fun _ => False) consumer⟩ := by
  rw [← update_producer .idle consumer (.called call fun _ => False)]
  exact .call call rfl

theorem callConsumer (call : QueueCall α) :
    NotingStep (queueObject maxSize) ⟨content, statuses producer .idle⟩ (.call .consumer call)
      ⟨content, statuses producer (.called call fun _ => False)⟩ := by
  rw [← update_consumer producer .idle (.called call fun _ => False)]
  exact .call call rfl

variable {maxSize content producer consumer}

theorem moveProducer {later : List α} {now : QueueStatus α}
    (move : NotingStatus.Move (queueObject maxSize) content producer later now) :
    NotingStep (queueObject maxSize) ⟨content, statuses producer consumer⟩ .internal
      ⟨later, statuses now consumer⟩ := by
  rw [← update_producer producer consumer now]
  exact .of_move rfl move

theorem moveConsumer {later : List α} {now : QueueStatus α}
    (move : NotingStatus.Move (queueObject maxSize) content consumer later now) :
    NotingStep (queueObject maxSize) ⟨content, statuses producer consumer⟩ .internal
      ⟨later, statuses producer now⟩ := by
  rw [← update_consumer producer consumer now]
  exact .of_move rfl move

theorem answerProducer {result : QueueResult α} (answered : Answered result producer) :
    NotingStep (queueObject maxSize) ⟨content, statuses producer consumer⟩
      (.answer .producer result) ⟨content, statuses .idle consumer⟩ := by
  rw [← update_producer producer consumer .idle]
  rcases answered with same | ⟨call, noted, same, known⟩
  · exact .answer same
  · exact .answerNoted same known

theorem answerConsumer {result : QueueResult α} (answered : Answered result consumer) :
    NotingStep (queueObject maxSize) ⟨content, statuses producer consumer⟩
      (.answer .consumer result) ⟨content, statuses producer .idle⟩ := by
  rw [← update_consumer producer consumer .idle]
  rcases answered with same | ⟨call, noted, same, known⟩
  · exact .answer same
  · exact .answerNoted same known

end Steps

/-- The view is one of the queue, and both threads know what they need. -/
structure Consistent (maxSize : Nat) (threads : QueueThreads α) (view : QueueView α)
    (producer consumer : QueueStatus α) : Prop where
  laid : threads.queue.Laid view
  roomy : threads.queue.Roomy maxSize view
  producerOwns : threads.producer.Owns threads.queue view
  consumerOwns : threads.consumer.Owns threads.queue view
  producerKnows : threads.producer.Knows maxSize threads.queue view producer
  consumerKnows : threads.consumer.Knows threads.queue view consumer

end QueueThreads

/-- The elements of calls that return having enqueued one. -/
def QueueStep.accepts {α : Type u} : QueueStep α -> List α
  | .enqueued element true => [element]
  | _ => []

/-- The elements of calls that return having removed one. -/
def QueueStep.receives {α : Type u} : QueueStep α -> List α
  | .removed .peek _ => []
  | .removed _ result => result.toList
  | _ => []

/-- The elements that went in, given those of calls that have returned, are the ones that
came out and then those that are there. -/
def QueueThreads.Balanced {α : Type u} (threads : QueueThreads α) (view : QueueView α)
    (accepted received : List α) : Prop :=
  accepted ++ threads.producer.accepted =
    received ++ threads.consumer.received ++ threads.queue.content view

namespace QueueThreads

variable {α : Type u}

/-- A step that no element passes in. -/
theorem Balanced.keep {threads next : QueueThreads α} {view nextView : QueueView α}
    {label : QueueStep α} (accepts : label.accepts = []) (receives : label.receives = [])
    (producer : next.producer.accepted = threads.producer.accepted)
    (consumer : next.consumer.received = threads.consumer.received)
    (content : next.queue.content nextView = threads.queue.content view)
    (accepted received : List α) (balanced : threads.Balanced view accepted received) :
    next.Balanced nextView (accepted ++ label.accepts) (received ++ label.receives) := by
  rw [Balanced, accepts, receives, producer, consumer, content, List.append_nil, List.append_nil]
  exact balanced

theorem accepted_of_produce {maxBlockSize : Nat} {queue next : ReaderWriterQueue α}
    {producer later : QueueProducer α}
    (step : queue.produce maxBlockSize producer = some (next, later)) :
    producer.accepted = [] := by
  cases producer with
  | done element success => cases step
  | _ => rfl

theorem received_of_consume {queue next : ReaderWriterQueue α} {consumer later : QueueConsumer α}
    (step : queue.consume consumer = some (next, later)) : consumer.received = [] := by
  cases consumer with
  | done removal result => cases step
  | _ => rfl

theorem not_answered_idle (result : QueueResult α) : ¬ Answered result .idle := by
  rintro (done | ⟨call, noted, same, _⟩)
  · cases done
  · cases same

/-- Nothing is found only in an empty queue. -/
theorem empty_of_performs {maxSize : Nat} {content later : List α} {call : QueueCall α}
    (performs : QueuePerforms maxSize content call (.element none) later) : later = [] := by
  generalize result : QueueResult.element none = answer at performs
  cases performs with
  | enqueue => cases result
  | refuse => cases result
  | sizeApprox => cases result
  | remove removal =>
      cases removal with
      | pop => cases result
      | tryDequeue =>
          have none := (QueueResult.element.inj result).symm
          rw [List.head?_eq_none_iff.mp none]
          rfl
      | peek =>
          have none := (QueueResult.element.inj result).symm
          rw [List.head?_eq_none_iff.mp none]
          rfl

/-- A call that may answer from now on that nothing is there finds an empty queue. -/
theorem empty_of_move {maxSize : Nat} {content later : List α} {status now : QueueStatus α}
    (move : NotingStatus.Move (queueObject maxSize) content status later now)
    (answered : Answered (.element none) now) :
    Answered (.element none) status ∨ later = [] := by
  cases move with
  | skip => exact .inl answered
  | note performs =>
      rcases answered with done | ⟨call, noted, same, known⟩
      · cases done
      · cases same
        rcases known with here | before
        · rw [← here] at performs
          exact .inr (empty_of_performs performs)
        · exact .inl (.inr ⟨_, _, rfl, before⟩)
  | perform performs =>
      rcases answered with done | ⟨call, noted, same, _⟩
      · cases done
        exact .inr (empty_of_performs performs)
      · cases same

/-- Every step is one of the call that makes it, after which a running `size_approx` notes
how many elements there are now. -/
theorem Consistent.step {maxSize maxBlockSize : Nat} (blockSize : IsBlockSize maxBlockSize)
    {threads next : QueueThreads α} {label : QueueStep α} {view : QueueView α}
    {producer consumer : QueueStatus α}
    (consistent : threads.Consistent maxSize view producer consumer)
    (step : threads.Step maxBlockSize label next) :
    Exists fun nextView => Exists fun nextProducer => Exists fun nextConsumer =>
      next.Consistent maxSize nextView nextProducer nextConsumer ∧
        (forall accepted received, threads.Balanced view accepted received ->
          next.Balanced nextView (accepted ++ label.accepts) (received ++ label.receives)) ∧
        (Answered (.element none) nextConsumer ->
          Answered (.element none) consumer ∨ next.queue.content nextView = []) ∧
        Exists fun events =>
          Run (NotingStep (queueObject maxSize))
            ⟨threads.queue.content view, statuses producer consumer⟩ events
            ⟨next.queue.content nextView, statuses nextProducer nextConsumer⟩ ∧
          CallEvent.history events = CallEvent.history [label.event] := by
  rcases consistent with ⟨laid, roomy, producerOwns, consumerOwns, producerKnows, consumerKnows⟩
  cases step with
  | enqueue element mode idle =>
      rw [idle] at producerKnows producerOwns
      cases producerKnows
      refine ⟨view, _, consumer,
        ⟨laid, roomy, ⟨producerOwns.written, producerOwns.spare, producerOwns.linked⟩,
          consumerOwns, ⟨_, rfl⟩, consumerKnows⟩, .keep rfl rfl ?_ rfl rfl, .inl, _,
        .single (callProducer ..), rfl⟩
      rw [idle]
      rfl
  | sizeApprox idle =>
      rw [idle] at producerKnows producerOwns
      cases producerKnows
      refine ⟨view, _, consumer,
        ⟨laid, roomy, ⟨producerOwns.written, producerOwns.spare, producerOwns.linked⟩,
          consumerOwns, ⟨_, rfl⟩, consumerKnows⟩, .keep rfl rfl ?_ rfl rfl, .inl, _,
        .single (callProducer ..), rfl⟩
      rw [idle]
      rfl
  | @enqueued element success done =>
      rw [done] at producerKnows producerOwns
      refine ⟨view, _, consumer,
        ⟨laid, roomy, ⟨producerOwns.written, producerOwns.spare, producerOwns.linked⟩,
          consumerOwns, rfl, consumerKnows⟩, ?_, .inl, _, .single (answerProducer producerKnows),
        rfl⟩
      intro accepted received balanced
      rw [Balanced, done] at balanced
      cases success with
      | true =>
          change accepted ++ [element] ++ [] = received ++ [] ++ _ ++ _
          rw [List.append_nil, List.append_nil]
          exact balanced
      | false =>
          change accepted ++ [] = _ at balanced
          change accepted ++ [] ++ [] = received ++ [] ++ _ ++ _
          rw [balanced, List.append_nil, List.append_nil]
  | counted done =>
      rw [done] at producerKnows producerOwns
      refine ⟨view, _, consumer,
        ⟨laid, roomy, ⟨producerOwns.written, producerOwns.spare, producerOwns.linked⟩,
          consumerOwns, rfl, consumerKnows⟩, .keep rfl rfl ?_ rfl rfl, .inl, _,
        .single (answerProducer producerKnows), rfl⟩
      rw [done]
      rfl
  | remove removal idle =>
      rw [idle] at consumerKnows consumerOwns
      cases consumerKnows
      refine ⟨view, producer, _,
        ⟨laid, roomy, producerOwns, ⟨consumerOwns.taken⟩, producerKnows, ⟨_, rfl⟩⟩,
        .keep rfl rfl rfl ?_ rfl, ?_, _, .single (callConsumer ..), rfl⟩
      · rw [idle]
        rfl
      · rintro (done | ⟨call, noted, same, known⟩)
        · cases done
        · cases same
          exact absurd known id
  | @removed removal result done =>
      rw [done] at consumerKnows consumerOwns
      refine ⟨view, producer, _,
        ⟨laid, roomy, producerOwns, ⟨consumerOwns.taken⟩, producerKnows, rfl⟩, ?_,
        fun answered => absurd answered (not_answered_idle _), _,
        .single (answerConsumer consumerKnows), rfl⟩
      intro accepted received balanced
      rw [Balanced, done] at balanced
      have same : (QueueStep.removed removal result).receives =
          (QueueConsumer.done removal result).received := by
        cases removal <;> rfl
      change accepted ++ [] ++ _ = received ++ _ ++ [] ++ _
      rw [same, List.append_nil, List.append_nil]
      exact balanced
  | @producer queue later step =>
      rcases ReaderWriterQueue.produce_moves laid roomy blockSize producerOwns producerKnows step with
        ⟨nextView, now, nextLaid, nextRoomy, owns, knows, keeps, content, move⟩
      refine ⟨nextView, now, consumer,
        ⟨nextLaid, nextRoomy, owns, keeps.owns laid consumerOwns consumerKnows, knows,
          keeps.knows laid consumerKnows⟩, ?_, .inl, _, .single (moveProducer move), rfl⟩
      intro accepted received balanced
      rw [Balanced, accepted_of_produce step, List.append_nil] at balanced
      change accepted ++ [] ++ _ = received ++ [] ++ _ ++ _
      rw [content, List.append_nil, List.append_nil, balanced, List.append_assoc _ _ later.accepted]
  | @consumer queue later step =>
      rcases ReaderWriterQueue.consume_moves laid consumerOwns consumerKnows step with
        ⟨nextView, now, nextLaid, owns, knows, keeps, content, move⟩
      rcases keeps.knows laid nextLaid producerKnows with ⟨noting, notes, producerKnows⟩
      refine ⟨nextView, noting, now,
        ⟨nextLaid, keeps.roomy roomy, keeps.owns laid producerOwns, owns, producerKnows, knows⟩,
        ?_, empty_of_move move, _, (Run.single (moveConsumer move)).append (.single (moveProducer notes)), rfl⟩
      intro accepted received balanced
      rw [Balanced, content, received_of_consume step, List.append_nil] at balanced
      change accepted ++ [] ++ _ = received ++ [] ++ _ ++ _
      rw [List.append_nil, List.append_nil, balanced, List.append_assoc received]

end QueueThreads
end NetSystem
