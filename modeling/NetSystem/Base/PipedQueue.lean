import NetSystem.Base.QueueRuns
import NetSystem.Base.WakeupQueue

namespace NetSystem

universe u

/-!
# The two queues with their pipes

By the trunk queue the worker thread has callbacks run on the main thread; by the work queue
the main thread has commands carried out on the worker thread.  Each is a lock-free queue
and a pipe.  The producer enqueues and then writes to the pipe; the consumer reads the pipe
and then dequeues.  Their accesses to the queue and to the pipe interleave in any order.

The queues are not closed.
-/

/-- `CConnFactoryTrunkQueue`, in a debug build or in a release build, and
`CKjConnFactoryWorkQueue`. -/
inductive PipedQueueKind where
  | trunk (debug : Bool)
  | work
deriving DecidableEq

/-- Where the producer is in `Add`. -/
inductive AddPhase where
  | idle
  | enqueuing
  | counting
  | writing
deriving DecidableEq

/-- How many elements the consumer takes after a read.  `RunOnce` has a waterline, and
`read_pipe_loop` has none. -/
def PipedQueueKind.waterline : PipedQueueKind -> Option Nat
  | .trunk debug => some (rwqueueConsumeWaterline debug)
  | .work => none

/-- How `Add` goes on when `enqueue` has returned.  The trunk queue counts its callbacks
before it writes, and it writes even if the callback is dropped. -/
def PipedQueueKind.enqueued : PipedQueueKind -> Bool -> AddPhase
  | .trunk _, true => .counting
  | .trunk _, false => .writing
  | .work, true => .writing
  | .work, false => .idle

/-- The queue, the pipe and the two threads.  `ncount` is how many elements the consumer has
taken since it has read, until it reads again. -/
structure PipedQueue (α : Type u) where
  threads : QueueThreads α
  phase : AddPhase
  bytes : Nat
  ncount : Option Nat

inductive PipedEvent (α : Type u) where
  | queue (step : QueueStep α)
  | write (amount : Nat)
  | read (amount : Nat)
  | runOnce
  | stop

namespace PipedQueue

variable {α : Type u}

/-- Both queues are made for 256 elements, with blocks of at most 512. -/
def start : PipedQueue α := ⟨QueueThreads.start 512 256, .idle, 0, none⟩

/-- One step of one of the threads.  A step of the queue is one access, or the call or the
return of one of its functions.  Outside a read, `RunOnce` is called by `OnDelete`. -/
inductive Step (kind : PipedQueueKind) :
    PipedQueue α -> PipedEvent α -> PipedQueue α -> Prop
  | enqueue {queue : PipedQueue α} {next : QueueThreads α} {element : α} {memory : Bool}
      (phase : queue.phase = .idle)
      (step : queue.threads.Step 512 (.enqueue element (.canAlloc memory)) next) :
      Step kind queue (.queue (.enqueue element (.canAlloc memory)))
        { queue with threads := next, phase := .enqueuing }
  | enqueued {queue : PipedQueue α} {next : QueueThreads α} {element : α} {success : Bool}
      (phase : queue.phase = .enqueuing)
      (step : queue.threads.Step 512 (.enqueued element success) next) :
      Step kind queue (.queue (.enqueued element success))
        { queue with threads := next, phase := kind.enqueued success }
  | sizeApprox {queue : PipedQueue α} {next : QueueThreads α} (phase : queue.phase = .counting)
      (step : queue.threads.Step 512 .sizeApprox next) :
      Step kind queue (.queue .sizeApprox) { queue with threads := next }
  | counted {queue : PipedQueue α} {next : QueueThreads α} {result : Nat}
      (phase : queue.phase = .counting) (step : queue.threads.Step 512 (.counted result) next) :
      Step kind queue (.queue (.counted result))
        { queue with threads := next, phase := .writing }
  | write {queue : PipedQueue α} {amount : Nat} (phase : queue.phase = .writing)
      (some_byte : 0 < amount) :
      Step kind queue (.write amount)
        { queue with bytes := queue.bytes + amount, phase := .idle }
  | read {queue : PipedQueue α} {amount : Nat} (waiting : queue.ncount = none)
      (some_byte : 0 < amount) (buffer : amount ≤ trunkOpCodeRecvBufSize)
      (available : amount ≤ queue.bytes) :
      Step kind queue (.read amount)
        { queue with bytes := queue.bytes - amount, ncount := some 0 }
  | runOnce {queue : PipedQueue α} (trunk : kind ≠ .work) (waiting : queue.ncount = none) :
      Step kind queue .runOnce { queue with ncount := some 0 }
  | remove {queue : PipedQueue α} {next : QueueThreads α} {count : Nat}
      (running : queue.ncount = some count)
      (below : forall limit, kind.waterline = some limit -> count < limit)
      (step : queue.threads.Step 512 (.remove .tryDequeue) next) :
      Step kind queue (.queue (.remove .tryDequeue)) { queue with threads := next }
  | take {queue : PipedQueue α} {next : QueueThreads α} {count : Nat} {element : α}
      (running : queue.ncount = some count)
      (step : queue.threads.Step 512 (.removed .tryDequeue (some element)) next) :
      Step kind queue (.queue (.removed .tryDequeue (some element)))
        { queue with threads := next, ncount := some (count + 1) }
  | empty {queue : PipedQueue α} {next : QueueThreads α} {count : Nat}
      (running : queue.ncount = some count)
      (step : queue.threads.Step 512 (.removed .tryDequeue none) next) :
      Step kind queue (.queue (.removed .tryDequeue none))
        { queue with threads := next, ncount := none }
  | stop {queue : PipedQueue α} {count limit : Nat} (running : queue.ncount = some count)
      (waterline : kind.waterline = some limit) (reached : limit ≤ count)
      (idle : queue.threads.consumer = .idle) :
      Step kind queue .stop { queue with ncount := none }
  | producer {queue : PipedQueue α} {next : QueueThreads α}
      (step : queue.threads.Step 512 .producer next) :
      Step kind queue (.queue .producer) { queue with threads := next }
  | consumer {queue : PipedQueue α} {next : QueueThreads α}
      (step : queue.threads.Step 512 .consumer next) :
      Step kind queue (.queue .consumer) { queue with threads := next }

end PipedQueue

namespace PipedEvent

variable {α : Type u}

/-- What an `Add` has enqueued. -/
def accepts : PipedEvent α -> List α
  | .queue step => step.accepts
  | _ => []

/-- What the consumer has dequeued. -/
def receives : PipedEvent α -> List α
  | .queue step => step.receives
  | _ => []

/-- The bytes that a read takes. -/
def taken : PipedEvent α -> Nat
  | .read amount => amount
  | _ => 0

/-- The step begins a call of `Add`, or one of `RunOnce` that no read leads to. -/
def begins : PipedEvent α -> Bool
  | .queue (.enqueue _ _) | .runOnce => true
  | _ => false

end PipedEvent

/-- The write that an `Add` still has to make for an element that it has enqueued. -/
def AddPhase.owed : AddPhase -> Nat
  | .idle | .enqueuing => 0
  | .counting | .writing => 1

namespace PipedQueue

variable {α : Type u} {kind : PipedQueueKind} {queue next : PipedQueue α} {event : PipedEvent α}

/-- What the consumer will still be woken up by. -/
def wakeups (queue : PipedQueue α) : Nat := queue.bytes + queue.phase.owed

/-- How many elements the consumer will still take without being woken up, if that is
bounded. -/
def limit (kind : PipedQueueKind) (queue : PipedQueue α) : Option Nat :=
  match queue.ncount with
  | none => some 0
  | some count => kind.waterline.map (· - count)

/-! ## What one step does -/

/-- A step is one of the queue, or it leaves the queue as it is. -/
theorem Step.threads (step : Step kind queue event next) :
    (Exists fun label => event = .queue label ∧ queue.threads.Step 512 label next.threads) ∨
      ((forall label, event ≠ .queue label) ∧ event.accepts = [] ∧ event.receives = [] ∧
        next.threads = queue.threads) := by
  cases step with
  | write | read | runOnce | stop => exact .inr ⟨nofun, rfl, rfl, rfl⟩
  | enqueue _ step | enqueued _ step | sizeApprox _ step | counted _ step | remove _ _ step
  | take _ step | empty _ step | producer step | consumer step => exact .inl ⟨_, rfl, step⟩

/-- An element that has been enqueued adds a wake-up, and only a read takes any. -/
theorem Step.wakeups_le (step : Step kind queue event next) :
    event.accepts.length + queue.wakeups ≤ next.wakeups + event.taken := by
  cases step with
  | enqueue phase | sizeApprox phase | counted phase =>
      rw [wakeups, wakeups, phase]
      exact Nat.le_of_eq (Nat.zero_add _)
  | @enqueued _ _ success phase =>
      rw [wakeups, wakeups, phase]
      cases kind <;> cases success <;> simp [PipedEvent.accepts, QueueStep.accepts,
        PipedEvent.taken, PipedQueueKind.enqueued, AddPhase.owed, Nat.add_comm]
  | write phase some_byte =>
      rw [wakeups, wakeups, phase]
      simp only [PipedEvent.accepts, PipedEvent.taken, AddPhase.owed, List.length_nil]
      omega
  | read _ _ _ available =>
      simp only [wakeups, PipedEvent.accepts, PipedEvent.taken, List.length_nil]
      omega
  | runOnce | remove | take | empty | stop | producer | consumer =>
      exact Nat.le_of_eq (Nat.zero_add _)

/-- What the consumer takes, and what it is not woken up for any more, it has been going to
take without being woken up, unless it has found the queue empty. -/
theorem Step.limit_le (step : Step kind queue event next)
    (covered : forall limit, kind.waterline = some limit -> event.taken ≤ limit)
    (found : event ≠ .queue (.removed .tryDequeue none)) {nextLimit : Nat}
    (bounded : next.limit kind = some nextLimit) :
    Exists fun limit => queue.limit kind = some limit ∧
      limit + event.taken ≤ nextLimit + event.receives.length := by
  cases step with
  | enqueue | enqueued | sizeApprox | counted | write | remove | producer | consumer =>
      exact ⟨nextLimit, bounded, Nat.le_refl _⟩
  | read waiting =>
      rcases Option.map_eq_some_iff.mp bounded with ⟨limit, waterline, rfl⟩
      rw [PipedQueue.limit, waiting]
      refine ⟨0, rfl, ?_⟩
      rw [Nat.zero_add]
      exact covered limit waterline
  | runOnce trunk waiting =>
      rw [PipedQueue.limit, waiting]
      exact ⟨0, rfl, Nat.zero_le _⟩
  | @take _ count element running =>
      rcases Option.map_eq_some_iff.mp bounded with ⟨limit, waterline, rfl⟩
      rw [PipedQueue.limit, running]
      refine ⟨limit - count, ?_, ?_⟩
      · rw [Option.map_eq_some_iff]
        exact ⟨limit, waterline, rfl⟩
      · change limit - count + 0 ≤ limit - (count + 1) + 1
        omega
  | empty => exact absurd rfl found
  | @stop count limit running waterline reached =>
      rw [PipedQueue.limit, running, waterline]
      refine ⟨limit - count, rfl, ?_⟩
      change limit - count + 0 ≤ nextLimit + 0
      omega

end PipedQueue

/-- No element that the consumer has taken from the queue is lost. -/
theorem QueueThreads.Step.received_le {α : Type u} {maxBlockSize : Nat}
    {threads next : QueueThreads α} {label : QueueStep α}
    (step : threads.Step maxBlockSize label next) :
    threads.consumer.received.length ≤
      label.receives.length + next.consumer.received.length := by
  cases step with
  | enqueue | sizeApprox | producer | enqueued | counted => exact Nat.le_add_left ..
  | remove removal idle =>
      rw [idle]
      exact Nat.zero_le _
  | consumer step =>
      rw [QueueThreads.received_of_consume step]
      exact Nat.zero_le _
  | @removed removal result done =>
      rw [done]
      cases removal <;> exact Nat.le_refl _

namespace PipedQueue

variable {α : Type u} {kind : PipedQueueKind} {queue next : PipedQueue α} {event : PipedEvent α}

/-! ## The invariant -/

/-- The elements that have been enqueued and not taken are no more than the consumer is woken
up for, or takes anyway.  If it is about to find the queue empty, then it is woken up for
those that have been enqueued since. -/
structure Woken (kind : PipedQueueKind) (queue : PipedQueue α) (view : QueueView α)
    (producer consumer : QueueStatus α) (accepted received : List α) : Prop where
  consistent : queue.threads.Consistent 256 view producer consumer
  balanced : queue.threads.Balanced view accepted received
  waiting : queue.ncount = none -> queue.threads.consumer = .idle
  covered : forall limit, queue.limit kind = some limit ->
    accepted.length ≤ received.length + queue.wakeups + limit
  noticed : Answered (.element none) consumer ->
    accepted.length ≤
      received.length + queue.threads.consumer.received.length + queue.wakeups

/-- Only a consumer that waits reads. -/
theorem Step.taken_eq (step : Step kind queue event next) :
    event.taken = 0 ∨ queue.ncount = none := by
  cases step with
  | read waiting => exact .inr waiting
  | _ => exact .inl rfl

/-- A consumer that waits for a read has no call of the queue running. -/
theorem Step.waiting (step : Step kind queue event next)
    (waiting : queue.ncount = none -> queue.threads.consumer = .idle)
    (stopped : next.ncount = none) : next.threads.consumer = .idle := by
  cases step with
  | enqueue _ step | enqueued _ step | sizeApprox _ step | counted _ step | producer step =>
      cases step
      exact waiting stopped
  | write => exact waiting stopped
  | read | runOnce => cases stopped
  | remove running =>
      change queue.ncount = none at stopped
      rw [running] at stopped
      cases stopped
  | take => cases stopped
  | empty _ step =>
      cases step
      rfl
  | stop _ _ _ idle => exact idle
  | consumer step =>
      cases step with
      | consumer step =>
          rw [waiting stopped] at step
          cases step

/-- A step of the queue keeps that the consumer is woken up for what it will not find. -/
theorem Woken.noticed_step {view nextView : QueueView α}
    {producer consumer nextConsumer : QueueStatus α} {accepted received : List α}
    {label : QueueStep α} (woken : queue.Woken kind view producer consumer accepted received)
    (step : Step kind queue (.queue label) next)
    (once : queue.threads.Step 512 label next.threads)
    (balanced : next.threads.Balanced nextView (accepted ++ label.accepts)
      (received ++ label.receives))
    (answers : Answered (.element none) nextConsumer ->
      Answered (.element none) consumer ∨ next.threads.queue.content nextView = [])
    (answered : Answered (.element none) nextConsumer) :
    (accepted ++ label.accepts).length ≤
      (received ++ label.receives).length + next.threads.consumer.received.length +
        next.wakeups := by
  rcases answers answered with before | empty
  · have passed := once.received_le
    have bound := woken.noticed before
    have wakeups : label.accepts.length + queue.wakeups ≤ next.wakeups + 0 := step.wakeups_le
    rw [List.length_append, List.length_append]
    omega
  · have lengths := congrArg List.length balanced
    rw [empty] at lengths
    simp only [List.length_append, List.length_nil] at lengths ⊢
    omega

/-- What one step keeps. -/
theorem Woken.step {view : QueueView α} {producer consumer : QueueStatus α}
    {accepted received : List α} (woken : queue.Woken kind view producer consumer accepted received)
    (covered : forall limit, kind.waterline = some limit -> event.taken ≤ limit)
    (step : Step kind queue event next) :
    Exists fun nextView => Exists fun nextProducer => Exists fun nextConsumer =>
      next.Woken kind nextView nextProducer nextConsumer (accepted ++ event.accepts)
        (received ++ event.receives) := by
  have wakeups := step.wakeups_le
  have bounded : event ≠ .queue (.removed .tryDequeue none) -> forall limit,
      next.limit kind = some limit ->
        (accepted ++ event.accepts).length ≤
          (received ++ event.receives).length + next.wakeups + limit := by
    intro found nextLimit bounded
    rcases step.limit_le covered found bounded with ⟨limit, before, enough⟩
    have bound := woken.covered limit before
    rw [List.length_append, List.length_append]
    omega
  rcases step.threads with ⟨label, rfl, once⟩ | ⟨other, accepts, receives, same⟩
  · rcases woken.consistent.step queueSizes_callbacks.blockSize once with
      ⟨nextView, nextProducer, nextConsumer, consistent, keeps, answers, _⟩
    have balanced := keeps accepted received woken.balanced
    refine ⟨nextView, nextProducer, nextConsumer, consistent, balanced,
      step.waiting woken.waiting, ?_, woken.noticed_step step once balanced answers⟩
    by_cases found : PipedEvent.queue label = .queue (.removed .tryDequeue none)
    · cases found
      intro limit _
      have knows := woken.consistent.consumerKnows
      have bound := woken.noticed
      generalize next.threads = after at once
      cases once with
      | removed done =>
          rw [done] at knows bound
          have here : accepted.length ≤ received.length + 0 + queue.wakeups := bound knows
          change 0 + queue.wakeups ≤ next.wakeups + 0 at wakeups
          change (accepted ++ []).length ≤ (received ++ []).length + _ + _
          rw [List.append_nil, List.append_nil]
          omega
    · exact bounded found
  · rw [accepts, receives, List.append_nil, List.append_nil] at bounded ⊢
    refine ⟨view, producer, consumer, same ▸ woken.consistent, ?_, step.waiting woken.waiting,
      bounded (other _), fun answered => ?_⟩
    · rw [QueueThreads.Balanced, same]
      exact woken.balanced
    · rw [same]
      rcases step.taken_eq with none_taken | waits
      · have bound := woken.noticed answered
        rw [none_taken] at wakeups
        omega
      · have knows := woken.consistent.consumerKnows
        rw [woken.waiting waits] at knows
        rw [show consumer = .idle from knows] at answered
        exact absurd answered (QueueThreads.not_answered_idle _)

/-- What a step keeps, a run keeps. -/
theorem Woken.run {first last : PipedQueue α} {events : List (PipedEvent α)} {view : QueueView α}
    {producer consumer : QueueStatus α} {accepted received : List α}
    (woken : first.Woken kind view producer consumer accepted received)
    (covered : forall event, event ∈ events -> forall limit, kind.waterline = some limit ->
      event.taken ≤ limit)
    (run : Run (Step kind) first events last) :
    Exists fun lastView => Exists fun lastProducer => Exists fun lastConsumer =>
      last.Woken kind lastView lastProducer lastConsumer
        (accepted ++ events.flatMap PipedEvent.accepts)
        (received ++ events.flatMap PipedEvent.receives) := by
  induction run generalizing view producer consumer accepted received with
  | nil =>
      rw [List.flatMap_nil, List.flatMap_nil, List.append_nil, List.append_nil]
      exact ⟨view, producer, consumer, woken⟩
  | cons once _ inductionHypothesis =>
      rcases woken.step (covered _ (List.mem_cons_self ..)) once with ⟨_, _, _, next⟩
      rw [List.flatMap_cons, List.flatMap_cons, ← List.append_assoc, ← List.append_assoc]
      exact inductionHypothesis next fun event later => covered event (List.mem_cons_of_mem _ later)

theorem start_woken :
    Exists fun view => (start : PipedQueue α).Woken kind view .idle .idle [] [] := by
  rcases QueueThreads.start_consistent queueSizes_callbacks with ⟨view, consistent, empty⟩
  refine ⟨view, consistent, ?_, fun _ => rfl, fun _ _ => Nat.zero_le _, fun _ => Nat.zero_le _⟩
  rw [QueueThreads.Balanced]
  change [] ++ [] = [] ++ [] ++ (QueueThreads.start 512 256 : QueueThreads α).queue.content view
  rw [empty]
  rfl

/-- A read takes no more than its buffer. -/
theorem Step.taken_le (step : Step kind queue event next) :
    event.taken ≤ trunkOpCodeRecvBufSize := by
  cases step with
  | read _ _ buffer => exact buffer
  | _ => exact Nat.zero_le _

/-! ## Runs -/

/-- In a release build and in the work queue, and in a debug build as long as no read takes
more bytes than `RunOnce` runs callbacks. -/
def Covered (kind : PipedQueueKind) (events : List (PipedEvent α)) : Prop :=
  kind = .trunk true -> forall amount, .read amount ∈ events ->
    amount ≤ rwqueueConsumeWaterline true

theorem taken_le {first last : PipedQueue α} {events : List (PipedEvent α)}
    (run : Run (Step kind) first events last) (event : PipedEvent α) (member : event ∈ events) :
    event.taken ≤ trunkOpCodeRecvBufSize := by
  induction run with
  | nil => cases member
  | cons once _ inductionHypothesis =>
      rcases List.mem_cons.mp member with rfl | later
      · exact once.taken_le
      · exact inductionHypothesis later

theorem Covered.taken_le {first last : PipedQueue α} {events : List (PipedEvent α)}
    (covered : Covered kind events) (run : Run (Step kind) first events last)
    (event : PipedEvent α) (member : event ∈ events) (limit : Nat)
    (waterline : kind.waterline = some limit) : event.taken ≤ limit := by
  cases kind with
  | work => cases waterline
  | trunk debug =>
      cases waterline
      cases debug with
      | false => exact Nat.le_trans (PipedQueue.taken_le run event member) (by decide)
      | true =>
          cases event with
          | read amount => exact covered rfl amount member
          | _ => exact Nat.zero_le _

theorem reached {events : List (PipedEvent α)} {last : PipedQueue α}
    (covered : Covered kind events) (run : Run (Step kind) start events last) :
    Exists fun view => Exists fun producer => Exists fun consumer =>
      last.Woken kind view producer consumer (events.flatMap PipedEvent.accepts)
        (events.flatMap PipedEvent.receives) := by
  rcases start_woken with ⟨view, woken⟩
  exact woken.run (covered.taken_le run) run

/-- Elements are taken in the order in which they are enqueued.  A consumer that waits for a
read is woken up for as many elements as have been enqueued and not taken: by bytes in the
pipe, or by those that `Add` is about to write. -/
theorem woken_up {events : List (PipedEvent α)} {last : PipedQueue α}
    (covered : Covered kind events) (run : Run (Step kind) start events last) :
    events.flatMap PipedEvent.receives <+:
        events.flatMap PipedEvent.accepts ++ last.threads.producer.accepted ∧
      (last.ncount = none ->
        (events.flatMap PipedEvent.accepts).length ≤
          (events.flatMap PipedEvent.receives).length + last.bytes + last.phase.owed) := by
  rcases reached covered run with ⟨view, _, _, woken⟩
  constructor
  · have balanced := woken.balanced
    rw [QueueThreads.Balanced, List.append_assoc] at balanced
    exact ⟨_, balanced.symm⟩
  · intro waiting
    have bound := woken.covered 0 (by rw [PipedQueue.limit, waiting])
    rw [PipedQueue.wakeups, Nat.add_zero, ← Nat.add_assoc] at bound
    exact bound

/-- A command is added to the work queue. -/
def addCommand : List (PipedEvent Nat) :=
  [.queue (.enqueue 7 (.canAlloc false)), .queue .producer, .queue .producer, .queue .producer,
    .queue (.enqueued 7 true), .write 1]

theorem run_addCommand :
    Exists fun last : PipedQueue Nat =>
      Run (Step .work) start addCommand last ∧ last.ncount = none :=
  ⟨_, .cons (.enqueue rfl (.enqueue 7 _ rfl)) (.cons (.producer (.producer rfl))
    (.cons (.producer (.producer rfl)) (.cons (.producer (.producer rfl))
    (.cons (.enqueued rfl (.enqueued rfl)) (.cons (.write rfl Nat.one_pos) (.nil _)))))), rfl⟩

theorem woken_up_addCommand :
    Exists fun last : PipedQueue Nat =>
      [] <+: [7] ++ last.threads.producer.accepted ∧ 1 ≤ 0 + last.bytes + last.phase.owed := by
  rcases run_addCommand with ⟨last, run, waiting⟩
  have covered : Covered .work addCommand := nofun
  have woken := woken_up covered run
  exact ⟨last, woken.1, woken.2 waiting⟩

end PipedQueue
end NetSystem
