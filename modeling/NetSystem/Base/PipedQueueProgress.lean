import NetSystem.Base.PipedQueue
import NetSystem.Base.QueueProgress

namespace NetSystem

universe u

/-!
# The two queues come to rest

Without new calls the threads of a queue come to rest, and not before all has been taken.
-/

/-! ## Where the threads are -/

/-- Which function of the queue the producer is in. -/
inductive QueueProducer.Call where
  | enqueue
  | sizeApprox
deriving DecidableEq

def QueueProducer.call {α : Type u} : QueueProducer α -> Option QueueProducer.Call
  | .idle => none
  | .counting _ => some .sizeApprox
  | _ => some .enqueue

/-- The functions of the queue that `Add` calls in a phase. -/
def AddPhase.Calls : AddPhase -> Option QueueProducer.Call -> Prop
  | .idle, call | .writing, call => call = none
  | .enqueuing, call => call = some .enqueue
  | .counting, call => call ≠ some .enqueue

/-- Which function of the queue the consumer is in. -/
def QueueConsumer.call {α : Type u} : QueueConsumer α -> Option QueueRemoval
  | .idle => none
  | .called removal | .loadTail removal _ _ | .element removal _ _ | .storeFront removal _ _ _
  | .loadTailBlock removal _ | .reload removal | .loadNext removal _ | .loadNextTail removal _
  | .storeFrontBlock removal _ _ | .done removal _ => some removal

theorem ReaderWriterQueue.call_of_produce {α : Type u} {maxBlockSize : Nat}
    {queue next : ReaderWriterQueue α} {producer later : QueueProducer α}
    (step : queue.produce maxBlockSize producer = some (next, later)) :
    later.call = producer.call := by
  cases producer with
  | idle => cases step
  | done element success => cases step
  | counting size =>
      rcases Option.map_eq_some_iff.mp step with ⟨after, counted, same⟩
      cases same
      rfl
  | storeTail element block nextBlockTail publish => cases publish <;> cases step <;> rfl
  | loadFrontBlock element mode tailBlock_ =>
      dsimp only [produce] at step
      split at step
      · cases step
        rfl
      · cases mode <;> cases step <;> rfl
  | makeBlock element memory tailBlock_ => cases memory <;> cases step <;> rfl
  | storeNext element tailBlock_ newBlock =>
      cases step
      rfl
  | storeTailBlock element block =>
      cases step
      rfl
  | _ =>
      dsimp only [produce] at step
      split at step <;> cases step <;> rfl

theorem ReaderWriterQueue.call_of_consume {α : Type u} {queue next : ReaderWriterQueue α}
    {consumer later : QueueConsumer α} (step : queue.consume consumer = some (next, later)) :
    later.call = consumer.call := by
  cases consumer with
  | idle => cases step
  | done removal result => cases step
  | element removal block blockFront =>
      dsimp only [consume] at step
      split at step
      · cases step
      · split at step <;> cases step
        · rename_i peeks
          exact congrArg some peeks.symm
        · rfl
  | loadNextTail removal nextBlock =>
      dsimp only [consume] at step
      split at step
      · split at step <;> cases step
        · rename_i peeks
          exact congrArg some peeks.symm
        · rfl
      · cases step
  | storeFront removal block blockFront result =>
      cases step
      rfl
  | loadNext removal frontBlock_ =>
      cases step
      rfl
  | storeFrontBlock removal nextBlock nextBlockFront =>
      cases step
      rfl
  | _ =>
      dsimp only [consume] at step
      split at step <;> cases step <;> rfl

namespace PipedQueue

variable {α : Type u} {kind : PipedQueueKind} {queue next : PipedQueue α} {event : PipedEvent α}

/-- The calls of the queue are those of `Add` and of `RunOnce` or `read_pipe_loop`. -/
structure Phased (queue : PipedQueue α) : Prop where
  adds : queue.phase.Calls queue.threads.producer.call
  removes : queue.threads.consumer.call = none ∨
    queue.ncount ≠ none ∧ queue.threads.consumer.call = some .tryDequeue

theorem Phased.step (phased : queue.Phased) (step : Step kind queue event next) :
    next.Phased := by
  rcases phased with ⟨adds, removes⟩
  cases step with
  | enqueue phase step =>
      cases step
      exact ⟨rfl, removes⟩
  | @enqueued _ _ success phase step =>
      cases step
      refine ⟨?_, removes⟩
      cases kind <;> cases success
      · exact rfl
      · exact nofun
      · exact rfl
      · exact rfl
  | sizeApprox phase step =>
      cases step
      refine ⟨?_, removes⟩
      rw [phase]
      exact nofun
  | counted phase step =>
      cases step
      exact ⟨rfl, removes⟩
  | write phase =>
      rw [phase] at adds
      exact ⟨adds, removes⟩
  | read => exact ⟨adds, removes.imp_right fun inside => ⟨nofun, inside.2⟩⟩
  | runOnce => exact ⟨adds, removes.imp_right fun inside => ⟨nofun, inside.2⟩⟩
  | remove running _ step =>
      cases step
      refine ⟨adds, .inr ⟨fun stopped => ?_, rfl⟩⟩
      rw [running] at stopped
      cases stopped
  | take _ step =>
      cases step
      exact ⟨adds, .inl rfl⟩
  | empty _ step =>
      cases step
      exact ⟨adds, .inl rfl⟩
  | stop _ _ _ idle => exact ⟨adds, .inl (congrArg QueueConsumer.call idle)⟩
  | producer step =>
      cases step with
      | producer step =>
          refine ⟨?_, removes⟩
          rw [← ReaderWriterQueue.call_of_produce step] at adds
          exact adds
  | consumer step =>
      cases step with
      | consumer step =>
          refine ⟨adds, ?_⟩
          rw [← ReaderWriterQueue.call_of_consume step] at removes
          exact removes

/-! ## Rest -/

section Rest

variable (quiet : forall event next, Step kind queue event next -> event.begins = true)

include quiet

/-- A producer that can make no step is in no call, neither of `Add` nor of the queue. -/
theorem producer_rests {maxSize : Nat} {view : QueueView α} {producer consumer : QueueStatus α}
    (consistent : queue.threads.Consistent maxSize view producer consumer)
    (phased : queue.Phased) :
    queue.threads.producer = .idle ∧ queue.phase = .idle := by
  have calls := phased.adds
  have finished : queue.threads.producer.remaining queue.threads.queue = 0 := by
    by_contra inside
    rcases ReaderWriterQueue.produce_isSome 512 consistent.laid consistent.producerOwns
      consistent.producerKnows inside with ⟨⟨_, _⟩, step⟩
    exact absurd (quiet _ _ (.producer (.producer step))) nofun
  cases now : queue.threads.producer with
  | idle =>
      rw [now] at calls
      refine ⟨rfl, ?_⟩
      cases phase : queue.phase with
      | idle => rfl
      | enqueuing =>
          rw [phase] at calls
          cases calls
      | counting => exact absurd (quiet _ _ (.sizeApprox phase (.sizeApprox now))) nofun
      | writing => exact absurd (quiet _ _ (.write phase Nat.one_pos)) nofun
  | done element success =>
      rw [now] at calls
      cases phase : queue.phase with
      | enqueuing => exact absurd (quiet _ _ (.enqueued phase (.enqueued now))) nofun
      | idle | writing =>
          rw [phase] at calls
          cases calls
      | counting =>
          rw [phase] at calls
          exact absurd rfl calls
  | counting size =>
      rw [now] at calls finished
      cases phase : queue.phase with
      | counting =>
          cases size with
          | done result => exact absurd (quiet _ _ (.counted phase (.counted now))) nofun
          | called => cases finished
          | _ => exact absurd finished (Nat.succ_ne_zero _)
      | _ =>
          rw [phase] at calls
          cases calls
  | _ =>
      rw [now] at finished
      exact absurd finished (Nat.succ_ne_zero _)

/-- A consumer that can make no step waits for a byte. -/
theorem consumer_rests {maxSize : Nat} {view : QueueView α} {producer consumer : QueueStatus α}
    (consistent : queue.threads.Consistent maxSize view producer consumer)
    (phased : queue.Phased) :
    queue.threads.consumer = .idle ∧ queue.ncount = none ∧ queue.bytes = 0 := by
  have finished : queue.threads.consumer.remaining = 0 := by
    by_contra inside
    rcases ReaderWriterQueue.consume_isSome consistent.laid consistent.consumerOwns
      consistent.consumerKnows inside with ⟨⟨_, _⟩, step⟩
    exact absurd (quiet _ _ (.consumer (.consumer step))) nofun
  have idle : queue.threads.consumer = .idle := by
    cases now : queue.threads.consumer with
    | idle => rfl
    | done removal result =>
        have removes := phased.removes
        rw [now] at removes
        rcases removes with none | ⟨running, same⟩
        · cases none
        · cases same
          rcases Option.ne_none_iff_exists'.mp running with ⟨count, running⟩
          cases result with
          | none => exact absurd (quiet _ _ (.empty running (.removed now))) nofun
          | some element => exact absurd (quiet _ _ (.take running (.removed now))) nofun
    | _ =>
        rw [now] at finished
        exact absurd finished (Nat.succ_ne_zero _)
  have waiting : queue.ncount = none := by
    cases running : queue.ncount with
    | none => rfl
    | some count =>
        by_cases below : forall limit, kind.waterline = some limit -> count < limit
        · exact absurd (quiet _ _ (.remove running below (.remove .tryDequeue idle))) nofun
        · push Not at below
          rcases below with ⟨limit, waterline, reached⟩
          exact absurd (quiet _ _ (.stop running waterline reached idle)) nofun
  refine ⟨idle, waiting, Nat.eq_zero_of_not_pos fun available => ?_⟩
  exact absurd (quiet _ _ (.read waiting Nat.one_pos (by decide) available)) nofun

end Rest

/-- The threads do not come to rest before everything that has been enqueued has been taken:
as long as an element is left, one of them can go on without a new call. -/
theorem all_taken {events : List (PipedEvent α)} {last : PipedQueue α}
    (covered : Covered kind events) (run : Run (Step kind) start events last)
    (quiet : forall event next, Step kind last event next -> event.begins = true) :
    events.flatMap PipedEvent.receives = events.flatMap PipedEvent.accepts := by
  rcases reached covered run with ⟨view, _, _, woken⟩
  have phased : last.Phased := run.invariant Phased (fun _ _ _ => Phased.step) ⟨rfl, .inl rfl⟩
  rcases producer_rests quiet woken.consistent phased with ⟨producer, phase⟩
  rcases consumer_rests quiet woken.consistent phased with ⟨consumer, waiting, bytes⟩
  have balanced := woken.balanced
  rw [QueueThreads.Balanced, producer, consumer] at balanced
  change _ ++ [] = _ ++ [] ++ _ at balanced
  rw [List.append_nil, List.append_nil] at balanced
  have bound := (woken_up covered run).2 waiting
  rw [bytes, phase, balanced, List.length_append] at bound
  have left : (last.threads.queue.content view).length = 0 :=
    Nat.eq_zero_of_le_zero (Nat.le_of_add_le_add_left bound)
  rw [balanced, List.length_eq_zero_iff.mp left, List.append_nil]

/-- A queue that rests with an empty pipe. -/
theorem quiet_of_rest (producer : queue.threads.producer = .idle) (phase : queue.phase = .idle)
    (consumer : queue.threads.consumer = .idle) (waiting : queue.ncount = none)
    (empty : queue.bytes = 0) (event : PipedEvent α) (next : PipedQueue α)
    (step : Step kind queue event next) : event.begins = true := by
  cases step with
  | enqueue => rfl
  | runOnce => rfl
  | enqueued now | sizeApprox now | counted now | write now =>
      rw [phase] at now
      cases now
  | read _ some_byte _ available =>
      rw [empty] at available
      exact absurd some_byte (Nat.not_lt.mpr available)
  | remove running | take running | empty running | stop running =>
      rw [waiting] at running
      cases running
  | producer step =>
      cases step with
      | producer step =>
          rw [producer] at step
          cases step
  | consumer step =>
      cases step with
      | consumer step =>
          rw [consumer] at step
          cases step

/-- The command is taken, and nothing is found behind it. -/
def takeCommand : List (PipedEvent Nat) :=
  [.read 1, .queue (.remove .tryDequeue), .queue .consumer, .queue .consumer, .queue .consumer,
    .queue .consumer, .queue (.removed .tryDequeue (some 7)), .queue (.remove .tryDequeue),
    .queue .consumer, .queue .consumer, .queue .consumer, .queue (.removed .tryDequeue none)]

theorem all_taken_takeCommand :
    (addCommand ++ takeCommand).flatMap PipedEvent.receives =
      (addCommand ++ takeCommand).flatMap PipedEvent.accepts := by
  have run : Exists fun last : PipedQueue Nat =>
      Run (Step .work) start (addCommand ++ takeCommand) last ∧
        last.threads.producer = .idle ∧ last.phase = .idle ∧ last.threads.consumer = .idle ∧
        last.ncount = none ∧ last.bytes = 0 :=
    ⟨_, .cons (.enqueue rfl (.enqueue 7 _ rfl)) (.cons (.producer (.producer rfl))
      (.cons (.producer (.producer rfl)) (.cons (.producer (.producer rfl))
      (.cons (.enqueued rfl (.enqueued rfl)) (.cons (.write rfl Nat.one_pos)
      (.cons (.read rfl Nat.one_pos (by decide) (Nat.le_refl 1))
      (.cons (.remove rfl nofun (.remove _ rfl)) (.cons (.consumer (.consumer rfl))
      (.cons (.consumer (.consumer rfl)) (.cons (.consumer (.consumer rfl))
      (.cons (.consumer (.consumer rfl)) (.cons (.take rfl (.removed rfl))
      (.cons (.remove rfl nofun (.remove _ rfl)) (.cons (.consumer (.consumer rfl))
      (.cons (.consumer (.consumer rfl)) (.cons (.consumer (.consumer rfl))
      (.cons (.empty rfl (.removed rfl)) (.nil _)))))))))))))))))), rfl, rfl, rfl, rfl, rfl⟩
  rcases run with ⟨last, run, producer, phase, consumer, waiting, empty⟩
  have covered : Covered .work (addCommand ++ takeCommand) := nofun
  exact all_taken covered run (quiet_of_rest producer phase consumer waiting empty)

end PipedQueue

/-! ## Bounded runs -/

/-- The bytes that a write puts into the pipe. -/
def PipedEvent.written {α : Type u} : PipedEvent α -> Nat
  | .write amount => amount
  | _ => 0

/-- The call of the producer may still enqueue an element, or has done so. -/
def QueueProducer.adding {α : Type u} : QueueProducer α -> Nat
  | .idle | .counting _ | .done _ false => 0
  | _ => 1

theorem QueueProducer.accepted_le {α : Type u} (producer : QueueProducer α) :
    producer.accepted.length ≤ producer.adding := by
  cases producer with
  | done element success => cases success <;> exact Nat.le_refl _
  | _ => exact Nat.zero_le _

theorem ReaderWriterQueue.adding_of_produce {α : Type u} {maxBlockSize : Nat}
    {queue next : ReaderWriterQueue α} {producer later : QueueProducer α}
    (step : queue.produce maxBlockSize producer = some (next, later)) :
    later.adding ≤ producer.adding := by
  have at_most_one : later.adding ≤ 1 := by
    cases later with
    | done element success => cases success <;> exact Nat.le_of_ble_eq_true rfl
    | idle | counting => exact Nat.zero_le 1
    | _ => exact Nat.le_refl 1
  cases producer with
  | idle => cases step
  | done element success => cases step
  | counting size =>
      rcases Option.map_eq_some_iff.mp step with ⟨after, counted, same⟩
      cases same
      exact Nat.le_refl _
  | _ => exact at_most_one

theorem ReaderWriterQueue.blockCount_of_produce {α : Type u} {maxBlockSize : Nat}
    {queue next : ReaderWriterQueue α} {producer later : QueueProducer α}
    (step : queue.produce maxBlockSize producer = some (next, later)) :
    next.blockCount ≤ queue.blockCount + 1 := by
  cases producer with
  | idle => cases step
  | done element success => cases step
  | counting size =>
      rcases Option.map_eq_some_iff.mp step with ⟨after, counted, same⟩
      cases same
      exact Nat.le_succ _
  | storeTail element block nextBlockTail publish =>
      cases publish <;> cases step <;> exact Nat.le_succ _
  | loadFrontBlock element mode tailBlock_ =>
      dsimp only [produce] at step
      split at step
      · cases step
        exact Nat.le_succ _
      · cases mode <;> cases step <;> exact Nat.le_succ _
  | makeBlock element memory tailBlock_ =>
      cases memory <;> cases step
      · exact Nat.le_succ _
      · exact Nat.le_refl _
  | storeNext element tailBlock_ newBlock =>
      cases step
      exact Nat.le_succ _
  | storeTailBlock element block =>
      cases step
      exact Nat.le_succ _
  | _ =>
      dsimp only [produce] at step
      split at step <;> cases step <;> exact Nat.le_succ _

namespace PipedQueue

variable {α : Type u} {kind : PipedQueueKind} {queue next : PipedQueue α} {event : PipedEvent α}

/-- The steps that the producer may still make in `Add`.  Each access of `enqueue` counts
for four, as it may add a block that has to be counted. -/
def producerCost (queue : PipedQueue α) : Nat :=
  match queue.phase, queue.threads.producer.call with
  | .idle, _ => 0
  | .writing, _ => 1
  | .counting, none => 3 * queue.threads.queue.blockCount + 4
  | .counting, some _ => queue.threads.producerRemaining + 2
  | .enqueuing, _ =>
      4 * queue.threads.producerRemaining + 3 * queue.threads.queue.blockCount + 6

/-- The steps that the consumer may still make until it finds the queue empty or takes an
element. -/
def consumerCost (queue : PipedQueue α) : Nat :=
  match queue.ncount, queue.threads.consumer.call with
  | none, _ => 0
  | some _, none => 12
  | some _, some _ => queue.threads.consumer.remaining + 2

/-- The steps that are left without new calls. -/
def cost (queue : PipedQueue α) (accepted received : List α) : Nat :=
  12 * (accepted.length + queue.threads.producer.adding - received.length) +
    queue.producerCost + queue.consumerCost + 13 * queue.bytes

theorem producerCost_congr (phase : next.phase = queue.phase)
    (call : next.threads.producer.call = queue.threads.producer.call)
    (remaining : next.threads.producerRemaining = queue.threads.producerRemaining)
    (blocks : next.threads.queue.blockCount = queue.threads.queue.blockCount) :
    next.producerCost = queue.producerCost := by
  rw [producerCost, producerCost, phase, call, remaining, blocks]

/-- An access of the producer. -/
theorem producerCost_lt {maxSize : Nat} {view : QueueView α}
    {producer consumer : QueueStatus α} {threads : QueueThreads α}
    (consistent : queue.threads.Consistent maxSize view producer consumer)
    (phased : queue.Phased) (step : queue.threads.Step 512 .producer threads) :
    ({ queue with threads := threads } : PipedQueue α).producerCost < queue.producerCost := by
  have calls := phased.adds
  cases step with
  | @producer after later step =>
      have less : later.remaining after < queue.threads.producerRemaining :=
        ReaderWriterQueue.remaining_of_produce consistent.laid consistent.producerOwns
          consistent.producerKnows step
      have call := ReaderWriterQueue.call_of_produce step
      have blocks := ReaderWriterQueue.blockCount_of_produce step
      have inside : queue.threads.producer.call ≠ none := by
        intro outside
        cases now : queue.threads.producer with
        | idle =>
            rw [now] at step
            cases step
        | _ =>
            rw [now] at outside
            cases outside
      rcases Option.ne_none_iff_exists'.mp inside with ⟨function, same⟩
      cases phase : queue.phase with
      | idle | writing =>
          rw [phase] at calls
          exact absurd calls inside
      | counting =>
          simp only [producerCost, phase, call, same]
          exact Nat.add_lt_add_right less 2
      | enqueuing =>
          simp only [producerCost, phase]
          change 4 * later.remaining after + 3 * after.blockCount + 6 < _
          omega

/-- An access of the consumer. -/
theorem cost_lt_of_consumer {maxSize : Nat} {view : QueueView α}
    {producer consumer : QueueStatus α} {threads : QueueThreads α}
    (consistent : queue.threads.Consistent maxSize view producer consumer)
    (phased : queue.Phased) (step : queue.threads.Step 512 .consumer threads) :
    ({ queue with threads := threads } : PipedQueue α).producerCost = queue.producerCost ∧
      ({ queue with threads := threads } : PipedQueue α).consumerCost < queue.consumerCost := by
  cases step with
  | @consumer after later step =>
      have less := ReaderWriterQueue.remaining_of_consume step
      have call := ReaderWriterQueue.call_of_consume step
      have inside : queue.threads.consumer.call ≠ none := by
        intro outside
        cases now : queue.threads.consumer with
        | idle =>
            rw [now] at step
            cases step
        | _ =>
            rw [now] at outside
            cases outside
      have moves : queue.threads.queue.ConsumerMoves maxSize view consumer after later :=
        ReaderWriterQueue.consume_moves consistent.laid consistent.consumerOwns
          consistent.consumerKnows step
      rcases moves with ⟨_, _, _, _, _, keeps, _, _⟩
      have same : queue.threads.producer.remaining after = queue.threads.producerRemaining :=
        QueueThreads.producerRemaining_of_consumer consistent step
      constructor
      · exact producerCost_congr rfl rfl same keeps.blockCount
      · rcases phased.removes.resolve_left inside with ⟨running, same⟩
        rcases Option.ne_none_iff_exists'.mp running with ⟨count, running⟩
        simp only [consumerCost, running, call, same]
        exact Nat.add_lt_add_right less 2

/-- A step in `Add`. -/
theorem cost_lt_of_add {accepted received : List α} (receives : event.receives = [])
    (adding : event.accepts.length + next.threads.producer.adding ≤ queue.threads.producer.adding)
    (other : next.consumerCost = queue.consumerCost)
    (steps : next.producerCost + 13 * next.bytes <
      queue.producerCost + 13 * queue.bytes + 13 * event.written) :
    next.cost (accepted ++ event.accepts) (received ++ event.receives) <
      queue.cost accepted received + 13 * event.written := by
  rw [receives, List.append_nil, cost, cost, List.length_append, other]
  omega

/-- A step in `RunOnce` or `read_pipe_loop`, or a read. -/
theorem cost_lt_of_remove {accepted received : List α} (accepts : event.accepts = [])
    (adding : next.threads.producer.adding = queue.threads.producer.adding)
    (left : received.length + event.receives.length ≤
      accepted.length + queue.threads.producer.adding)
    (other : next.producerCost = queue.producerCost)
    (steps : next.consumerCost + 13 * next.bytes <
      queue.consumerCost + 12 * event.receives.length + 13 * queue.bytes) :
    next.cost (accepted ++ event.accepts) (received ++ event.receives) <
      queue.cost accepted received + 13 * event.written := by
  rw [accepts, List.append_nil, cost, cost, List.length_append, other, adding]
  omega

/-- The consumer takes what has been enqueued. -/
theorem received_le {view : QueueView α} {accepted received : List α}
    (balanced : queue.threads.Balanced view accepted received) :
    received.length + queue.threads.consumer.received.length ≤
      accepted.length + queue.threads.producer.adding := by
  have lengths := congrArg List.length balanced
  have adding := queue.threads.producer.accepted_le
  simp only [List.length_append] at lengths
  omega

/-- Every step but a new call comes nearer to the rest, by as much as a write puts it off. -/
theorem Step.cost_lt {maxSize : Nat} {view : QueueView α} {producer consumer : QueueStatus α}
    {accepted received : List α}
    (consistent : queue.threads.Consistent maxSize view producer consumer)
    (balanced : queue.threads.Balanced view accepted received) (phased : queue.Phased)
    (step : Step kind queue event next) (begun : event.begins = false) :
    next.cost (accepted ++ event.accepts) (received ++ event.receives) <
      queue.cost accepted received + 13 * event.written := by
  have bound := received_le balanced
  have fewer := Nat.le_trans (Nat.le_add_right ..) bound
  cases step with
  | enqueue => cases begun
  | runOnce => cases begun
  | @enqueued _ element success phase step =>
      cases step with
      | enqueued done =>
          refine cost_lt_of_add rfl ?_ rfl ?_
          · rw [done]
            cases success <;> exact Nat.le_refl _
          · rw [producerCost, producerCost, phase]
            cases kind <;> cases success <;> simp only [PipedQueueKind.enqueued, QueueProducer.call] <;>
              omega
  | sizeApprox phase step =>
      cases step with
      | sizeApprox idle =>
          refine cost_lt_of_add rfl (Nat.zero_le _) rfl ?_
          rw [producerCost, producerCost, phase, idle]
          change 3 * queue.threads.queue.blockCount + 1 + 2 + 13 * queue.bytes <
            3 * queue.threads.queue.blockCount + 4 + 13 * queue.bytes + 0
          omega
  | counted phase step =>
      cases step with
      | counted done =>
          refine cost_lt_of_add rfl (Nat.zero_le _) rfl ?_
          rw [producerCost, producerCost, phase, done]
          change 1 + 13 * queue.bytes < _ + 2 + 13 * queue.bytes + 0
          omega
  | write phase =>
      refine cost_lt_of_add rfl (Nat.le_of_eq (Nat.zero_add _)) rfl ?_
      rw [producerCost, producerCost, phase, PipedEvent.written]
      dsimp only
      omega
  | producer step =>
      have less := producerCost_lt consistent phased step
      cases step with
      | producer step =>
          have adding := ReaderWriterQueue.adding_of_produce step
          refine cost_lt_of_add rfl ?_ rfl ?_
          · exact Nat.le_trans (Nat.le_of_eq (Nat.zero_add _)) adding
          · exact Nat.add_lt_add_right less _
  | @read amount waiting some_byte _ available =>
      refine cost_lt_of_remove rfl rfl fewer rfl ?_
      have outside : queue.threads.consumer.call = none :=
        phased.removes.resolve_right fun inside => inside.1 waiting
      rw [consumerCost, consumerCost, waiting, outside]
      change 12 + 13 * (queue.bytes - amount) < 0 + 0 + 13 * queue.bytes
      omega
  | remove running _ step =>
      cases step with
      | remove _ idle =>
          refine cost_lt_of_remove rfl rfl fewer rfl ?_
          rw [consumerCost, consumerCost, running, idle]
          exact Nat.add_lt_add_right (Nat.le_refl 12) _
  | take running step =>
      cases step with
      | removed done =>
          rw [done] at bound
          refine cost_lt_of_remove rfl rfl bound rfl ?_
          rw [consumerCost, consumerCost, running, done]
          change 12 + 13 * queue.bytes < 0 + 2 + 12 + 13 * queue.bytes
          omega
  | empty running step =>
      cases step with
      | removed done =>
          refine cost_lt_of_remove rfl rfl fewer rfl ?_
          rw [consumerCost, consumerCost, running, done]
          change 0 + 13 * queue.bytes < 0 + 2 + 0 + 13 * queue.bytes
          omega
  | stop running _ _ idle =>
      refine cost_lt_of_remove rfl rfl fewer rfl ?_
      rw [consumerCost, consumerCost, running, idle]
      change 0 + 13 * queue.bytes < 12 + 0 + 13 * queue.bytes
      omega
  | consumer step =>
      rcases cost_lt_of_consumer consistent phased step with ⟨same, less⟩
      cases step with
      | consumer step =>
          refine cost_lt_of_remove rfl rfl fewer same ?_
          exact Nat.add_lt_add_right less _

/-- The elements that have been enqueued and taken belong to the state. -/
def Kept (queue : PipedQueue α) (accepted received : List α) : Prop :=
  Exists fun view => Exists fun producer => Exists fun consumer =>
    queue.threads.Consistent 256 view producer consumer ∧
      queue.threads.Balanced view accepted received ∧ queue.Phased

theorem Kept.step {accepted received : List α} (kept : queue.Kept accepted received)
    (step : Step kind queue event next) :
    next.Kept (accepted ++ event.accepts) (received ++ event.receives) := by
  rcases kept with ⟨view, producer, consumer, consistent, balanced, phased⟩
  rcases step.threads with ⟨label, rfl, once⟩ | ⟨_, accepts, receives, same⟩
  · rcases consistent.step queueSizes_callbacks.blockSize once with
      ⟨nextView, nextProducer, nextConsumer, after, keeps, _⟩
    exact ⟨nextView, nextProducer, nextConsumer, after, keeps _ _ balanced, phased.step step⟩
  · rw [accepts, receives, List.append_nil, List.append_nil]
    refine ⟨view, producer, consumer, same ▸ consistent, ?_, phased.step step⟩
    rw [QueueThreads.Balanced, same]
    exact balanced

theorem Kept.run {first last : PipedQueue α} {events : List (PipedEvent α)}
    {accepted received : List α} (kept : first.Kept accepted received)
    (run : Run (Step kind) first events last) :
    last.Kept (accepted ++ events.flatMap PipedEvent.accepts)
      (received ++ events.flatMap PipedEvent.receives) := by
  induction run generalizing accepted received with
  | nil =>
      rw [List.flatMap_nil, List.flatMap_nil, List.append_nil, List.append_nil]
      exact kept
  | cons once _ inductionHypothesis =>
      rw [List.flatMap_cons, List.flatMap_cons, ← List.append_assoc, ← List.append_assoc]
      exact inductionHypothesis (kept.step once)

/-- A run without new calls is paid for by the cost of its first state. -/
theorem Kept.length_le {first last : PipedQueue α} {events : List (PipedEvent α)}
    {accepted received : List α} (kept : first.Kept accepted received)
    (run : Run (Step kind) first events last)
    (begun : forall event, event ∈ events -> event.begins = false) :
    events.length ≤ first.cost accepted received + 13 * (events.map PipedEvent.written).sum := by
  induction run generalizing accepted received with
  | nil => exact Nat.zero_le _
  | cons once _ inductionHypothesis =>
      have rest := inductionHypothesis (kept.step once) fun event later =>
        begun event (List.mem_cons_of_mem _ later)
      rcases kept with ⟨view, producer, consumer, consistent, balanced, phased⟩
      have less := once.cost_lt consistent balanced phased (begun _ (List.mem_cons_self ..))
      rw [List.length_cons, List.map_cons, List.sum_cons]
      omega

theorem start_kept : (start : PipedQueue α).Kept [] [] := by
  have new : Exists fun view => (start : PipedQueue α).Woken .work view .idle .idle [] [] :=
    start_woken
  rcases new with ⟨view, woken⟩
  exact ⟨view, _, _, woken.consistent, woken.balanced, rfl, .inl rfl⟩

/-- Whatever has been called, the threads come to rest: without new calls there is an end to
their steps, in whatever order they are made. -/
theorem comes_to_rest {before : List (PipedEvent α)} {middle : PipedQueue α}
    (run : Run (Step kind) start before middle) :
    Exists fun bound => forall during last, Run (Step kind) middle during last ->
      (forall event, event ∈ during -> event.begins = false) ->
        during.length ≤ bound + 13 * (during.map PipedEvent.written).sum :=
  ⟨_, fun _ _ goes begun => (start_kept.run run).length_le goes begun⟩

theorem comes_to_rest_addCommand :
    Exists fun middle : PipedQueue Nat => Exists fun bound => forall during last,
      Run (Step .work) middle during last ->
        (forall event, event ∈ during -> event.begins = false) ->
          during.length ≤ bound + 13 * (during.map PipedEvent.written).sum := by
  rcases run_addCommand with ⟨middle, run, _⟩
  exact ⟨middle, comes_to_rest run⟩

end PipedQueue
end NetSystem
