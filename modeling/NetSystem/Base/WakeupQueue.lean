import NetSystem.Foundation.Transition
import Mathlib.Tactic.Ring

namespace NetSystem

universe u

/-!
# The callback queue and its wake-ups

`CCamelReaderWriterQueueWL` between the worker thread, which adds callbacks and
writes to a pipe after each, and the main thread, which reads the pipe and
calls `RunOnce` once for each completed read.  A read takes any number of the
bytes in the pipe, up to the size of its buffer; `RunOnce` runs callbacks until
the queue is empty or it has run as many as the waterline.

The two threads interleave between the enqueuing of a callback and the writing
of its bytes, and between any two callbacks that `RunOnce` runs.
-/

/-- `RWQUEUE_CONSUME_WATERLINE`, in a debug build or in a release build. -/
def rwqueueConsumeWaterline (debug : Bool) : Nat := if debug then 128 else 2048

/-- The size of `_trunkOpCodeRecvBuf`. -/
def trunkOpCodeRecvBufSize : Nat := 1024

/-- The queue, the pipe and the two threads.  `adding` is a callback of the
worker that has been enqueued and whose bytes have not been written; `ncount`
is the counter of a `RunOnce` that is running. -/
structure WakeupQueue (α : Type u) where
  callbacks : List α
  adding : Bool
  bytes : Nat
  ncount : Option Nat
deriving DecidableEq

/-- The steps of the two threads. -/
inductive WakeupEvent (α : Type u) where
  | enqueue (workCb : α)
  | write (amount : Nat)
  | read (amount : Nat)
  | runCallback
  | finish

namespace WakeupQueue

variable {α : Type u}

def initial : WakeupQueue α := ⟨[], false, 0, none⟩

/-- One step.  The worker adds one callback at a time, and the main thread
reads only when it is idle. -/
def perform (waterline : Nat) (queue : WakeupQueue α) : WakeupEvent α -> Option (WakeupQueue α)
  | .enqueue workCb =>
      if queue.adding then none
      else some { queue with callbacks := queue.callbacks ++ [workCb], adding := true }
  | .write amount =>
      if queue.adding && decide (0 < amount) then
        some { queue with adding := false, bytes := queue.bytes + amount }
      else none
  | .read amount =>
      if queue.ncount.isNone && decide (0 < amount) && decide (amount ≤ trunkOpCodeRecvBufSize) &&
          decide (amount ≤ queue.bytes) then
        some { queue with bytes := queue.bytes - amount, ncount := some 0 }
      else none
  | .runCallback =>
      match queue.ncount, queue.callbacks with
      | some count, _ :: later =>
          if count < waterline then
            some { queue with callbacks := later, ncount := some (count + 1) }
          else none
      | _, _ => none
  | .finish =>
      match queue.ncount with
      | some count =>
          if waterline ≤ count ∨ queue.callbacks.isEmpty then some { queue with ncount := none }
          else none
      | none => none

def Step (waterline : Nat) (queue : WakeupQueue α) (event : WakeupEvent α)
    (next : WakeupQueue α) : Prop :=
  queue.perform waterline event = some next

/-- The main thread is idle. -/
def Idle (queue : WakeupQueue α) : Prop := queue.ncount = none

/-- An idle main thread has a wake-up for the callbacks that are queued: a byte
it has not read, or the byte of the callback that is being added. -/
def NoneStranded (queue : WakeupQueue α) : Prop :=
  queue.Idle -> queue.callbacks ≠ [] -> 0 < queue.bytes ∨ queue.adding = true

/-- A read takes no more wake-ups than `RunOnce` runs callbacks, unless so few
are queued that it runs them all. -/
def Covered (waterline : Nat) (queue : WakeupQueue α) : WakeupEvent α -> Prop
  | .read amount => amount ≤ waterline ∨ queue.callbacks.length ≤ waterline
  | _ => True

/-- The callbacks that nobody will be woken up for, but that a running
`RunOnce` will still run. -/
def budget (waterline : Nat) (queue : WakeupQueue α) : Nat :=
  match queue.ncount with
  | some count => waterline - count
  | none => 0

/-- Every queued callback has a wake-up or is run without one. -/
def Woken (waterline : Nat) (queue : WakeupQueue α) : Prop :=
  queue.callbacks.length ≤ queue.bytes + queue.adding.toNat + queue.budget waterline

theorem Woken.noneStranded {waterline : Nat} {queue : WakeupQueue α} (woken : queue.Woken waterline) :
    queue.NoneStranded := by
  intro idle queued
  have positive := List.length_pos_iff.mpr queued
  unfold Woken budget at woken
  rw [show queue.ncount = none from idle] at woken
  cases adding : queue.adding with
  | true => exact Or.inr rfl
  | false =>
      rw [adding] at woken
      left
      simp only [Bool.toNat_false] at woken
      omega

theorem Woken.step {waterline : Nat} {queue next : WakeupQueue α} {event : WakeupEvent α}
    (woken : queue.Woken waterline) (covered : queue.Covered waterline event)
    (step : queue.Step waterline event next) : next.Woken waterline := by
  rcases queue with ⟨callbacks, adding, bytes, ncount⟩
  unfold Step at step
  unfold Woken budget at woken ⊢
  cases event with
  | enqueue workCb =>
      cases adding with
      | true => cases step
      | false =>
          cases step
          simp only [List.length_append, List.length_singleton, Bool.toNat_false,
            Bool.toNat_true] at woken ⊢
          omega
  | write amount =>
      simp only [perform] at step
      split at step
      · rename_i condition
        rcases Bool.and_eq_true_iff.mp condition with ⟨rfl, positive⟩
        have some_byte := of_decide_eq_true positive
        cases step
        simp only [Bool.toNat_false, Bool.toNat_true] at woken ⊢
        omega
      · cases step
  | read amount =>
      simp only [perform] at step
      split at step
      · rename_i condition
        simp only [Bool.and_eq_true, Option.isNone_iff_eq_none, decide_eq_true_eq] at condition
        rcases condition with ⟨⟨⟨rfl, _⟩, _⟩, available⟩
        cases step
        have taken : amount ≤ waterline ∨ callbacks.length ≤ waterline := covered
        dsimp only at woken ⊢
        omega
      · cases step
  | runCallback =>
      simp only [perform] at step
      split at step
      · split at step
        · cases step
          dsimp only [List.length_cons] at woken ⊢
          omega
        · cases step
      · cases step
  | finish =>
      cases ncount with
      | none => cases step
      | some count =>
          simp only [perform] at step
          split at step
          · rename_i stops
            cases step
            dsimp only at woken ⊢
            rcases stops with full | empty
            · omega
            · rw [List.isEmpty_iff.mp empty]
              exact Nat.zero_le _
          · cases step

/-- In a run whose reads are all covered, callbacks are never stranded. -/
theorem noneStranded_of_covered (waterline : Nat) {events : List (WakeupEvent α)}
    {queue : WakeupQueue α}
    (run : Run (fun state event next => state.Covered waterline event ∧
      state.Step waterline event next) initial events queue) : queue.NoneStranded := by
  have woken : queue.Woken waterline :=
    run.invariant (fun state => state.Woken waterline)
      (fun _ _ _ before step => before.step step.1 step.2) (Nat.zero_le _)
  exact woken.noneStranded

/-- A read is always covered where `RunOnce` runs at least as many callbacks as
a read can take bytes. -/
theorem covered_of_step {waterline : Nat} (large : trunkOpCodeRecvBufSize ≤ waterline)
    {queue next : WakeupQueue α} {event : WakeupEvent α}
    (step : queue.Step waterline event next) : queue.Covered waterline event := by
  cases event with
  | read amount =>
      unfold Step at step
      simp only [perform] at step
      split at step
      · rename_i condition
        simp only [Bool.and_eq_true, decide_eq_true_eq] at condition
        exact Or.inl (Nat.le_trans condition.1.2 large)
      · cases step
  | enqueue workCb => trivial
  | write amount => trivial
  | runCallback => trivial
  | finish => trivial

/-- In either build callbacks are never stranded as long as each read takes at
most as many bytes as `RunOnce` runs callbacks, or finds at most as many
callbacks queued; and in a release build they are never stranded. -/
theorem callbacks_never_stranded (debug : Bool) :
    (forall (events : List (WakeupEvent α)) (queue : WakeupQueue α),
      Run (fun state event next => state.Covered (rwqueueConsumeWaterline debug) event ∧
        state.Step (rwqueueConsumeWaterline debug) event next) initial events queue ->
      queue.NoneStranded) ∧
    (debug = false -> forall (events : List (WakeupEvent α)) (queue : WakeupQueue α),
      Run (Step (rwqueueConsumeWaterline debug)) initial events queue -> queue.NoneStranded) := by
  refine ⟨fun _ _ run => noneStranded_of_covered _ run, ?_⟩
  rintro rfl events queue run
  apply noneStranded_of_covered (rwqueueConsumeWaterline false)
  apply run.mono
  intro state event next step
  exact ⟨covered_of_step (by decide) step, step⟩

/-- The worker adds 129 callbacks, one read takes all their bytes, and
`RunOnce` runs a number of them. -/
def burst (runs : Nat) : List (WakeupEvent Unit) :=
  (List.replicate 129 [.enqueue (), .write 1]).flatten ++ [.read 129] ++
    List.replicate runs .runCallback ++ [.finish]

/-- `RunOnce` of a debug build leaves the last one without a wake-up. -/
theorem burst_strands_callback :
    Exists fun queue : WakeupQueue Unit =>
      Run (Step (rwqueueConsumeWaterline true)) initial (burst 128) queue ∧
        queue.Idle ∧ queue.callbacks = [()] ∧ queue.bytes = 0 ∧ ¬ queue.NoneStranded := by
  have run : (burst 128).foldlM (perform (rwqueueConsumeWaterline true)) initial =
      some ⟨[()], false, 0, none⟩ := by
    decide +kernel
  refine ⟨_, Run.of_foldlM _ run, rfl, rfl, rfl, ?_⟩
  intro kept
  rcases kept rfl (by simp) with positive | adding
  · exact Nat.not_lt_zero 0 positive
  · cases adding

/-- A run whose reads are as small as the number of callbacks that `RunOnce` runs. -/
theorem covered_of_small_reads {waterline : Nat} {first last : WakeupQueue α}
    {events : List (WakeupEvent α)} (run : Run (Step waterline) first events last)
    (small : forall amount, WakeupEvent.read amount ∈ events -> amount ≤ waterline) :
    Run (fun state event next => state.Covered waterline event ∧ state.Step waterline event next)
      first events last := by
  induction run with
  | nil state => exact .nil state
  | @cons state middle last event events once _ inductionHypothesis =>
      have covered : state.Covered waterline event := by
        cases event with
        | read amount => exact .inl (small amount (List.mem_cons_self ..))
        | _ => trivial
      exact .cons ⟨covered, once⟩
        (inductionHypothesis fun amount member => small amount (List.mem_cons_of_mem _ member))

/-- The bytes of all callbacks but one are read, and `RunOnce` runs as many. -/
def smallReads : List (WakeupEvent Unit) :=
  (List.replicate 129 [.enqueue (), .write 1]).flatten ++ [.read 128] ++
    List.replicate 128 .runCallback ++ [.finish]

/-- `RunOnce` of a debug build leaves a callback with its wake-up when fewer bytes are read,
and `RunOnce` of a release build runs them all. -/
theorem callbacks_never_stranded_burst :
    (Exists fun queue : WakeupQueue Unit =>
      Run (fun state event next => state.Covered (rwqueueConsumeWaterline true) event ∧
        state.Step (rwqueueConsumeWaterline true) event next) initial smallReads queue ∧
        queue.callbacks = [()] ∧ queue.NoneStranded) ∧
    Exists fun queue : WakeupQueue Unit =>
      Run (Step (rwqueueConsumeWaterline false)) initial (burst 129) queue ∧
        queue.NoneStranded := by
  constructor
  · have run : smallReads.foldlM (perform (rwqueueConsumeWaterline true)) initial =
        some ⟨[()], false, 1, none⟩ := by
      decide +kernel
    have small : forall amount, WakeupEvent.read amount ∈ smallReads ->
        amount ≤ rwqueueConsumeWaterline true := by
      intro amount member
      simp only [smallReads, List.mem_append, List.mem_flatten, List.mem_replicate,
        List.mem_singleton, reduceCtorEq, and_false, or_false, WakeupEvent.read.injEq] at member
      rcases member with ⟨added, ⟨_, rfl⟩, inside⟩ | rfl
      · simp at inside
      · decide
    have covered := covered_of_small_reads (Run.of_foldlM smallReads run) small
    exact ⟨_, covered, rfl, (callbacks_never_stranded true).1 _ _ covered⟩
  · have run : (burst 129).foldlM (perform (rwqueueConsumeWaterline false)) initial =
        some ⟨[], false, 0, none⟩ := by
      decide +kernel
    have steps := Run.of_foldlM (burst 129) run
    exact ⟨_, steps, (callbacks_never_stranded false).2 rfl _ _ steps⟩

end WakeupQueue
end NetSystem
