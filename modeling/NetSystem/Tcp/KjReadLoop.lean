import NetSystem.Packet.ReceiverTracking

namespace NetSystem

/-!
# The read loop of a `KjTcpConnection`

`AsyncReadLoop` reserves all free space of the connection's buffer and reads
into it; when there is none it waits and tries again.  The read callback is
`OnRawData`, which calls `DecodeStream`.  An exception reaches `taskFailed`,
which flushes the stream, clears the packet object and, while the connection
is wanted, reconnects it and starts reading again.

The promise chain is a state machine: what the connection waits for, and the
events that let it go on.
-/

/-- What a connection waits for. -/
inductive ReadPhase where
  | reading (bufbase buflen : Nat)
  | delayed
  | failed (errno : Int)

/-- A connection whose read operation has been started.  The receiver's report
starts over with each established connection. -/
structure KjTcpConnection where
  receiver : Receiver
  phase : ReadPhase

/-- What happens to a connection: bytes arrive, the delay is over, or the task
fails and the connection is established again. -/
inductive KjEvent where
  | arrive (bytes : List UInt8)
  | delayElapsed
  | taskFailed

namespace KjTcpConnection

/-- One entry of `AsyncReadLoop`. -/
def asyncReadLoop (receiver : Receiver) : KjTcpConnection :=
  let reservation := receiver.bb.reserve
  let reserved := { receiver with bb := reservation.bb }
  match reservation.pointer with
  | some bufbase =>
      if 0 < reservation.size then ⟨reserved, .reading bufbase reservation.size⟩
      else ⟨reserved, .delayed⟩
  | none => ⟨reserved, .delayed⟩

/-- `FlushStream` resets the buffer and `OnIsolatedError` clears the packet
object. -/
def flushed (receiver : Receiver) : Receiver := ⟨receiver.bb.reset, receiver.state.clear, []⟩

/-- One event.  A read is fulfilled with at least one byte and at most the
length asked for. -/
def perform (codec : Codec) (connection : KjTcpConnection) : KjEvent -> Option KjTcpConnection
  | .arrive bytes =>
      match connection.phase with
      | .reading _ buflen =>
          if 1 ≤ bytes.length ∧ bytes.length ≤ buflen then
            match connection.receiver.commitAndDecode codec
              (connection.receiver.bb.writeReserved 0 bytes) bytes.length with
            | .decoded next => some (asyncReadLoop next)
            | .thrown errno next => some ⟨next, .failed errno⟩
            | .refused => none
          else none
      | _ => none
  | .delayElapsed =>
      match connection.phase with
      | .delayed => some (asyncReadLoop connection.receiver)
      | _ => none
  | .taskFailed => some (asyncReadLoop (flushed connection.receiver))

def Step (codec : Codec) (connection : KjTcpConnection) (event : KjEvent)
    (next : KjTcpConnection) : Prop :=
  connection.perform codec event = some next

/-! ## The loop never waits for space -/

/-- A connection reads from a tracked receiver, or has failed on one. -/
inductive Reads (codec : Codec) : KjTcpConnection -> Prop
  | reading (chunks : List (List UInt8)) (receiver : Receiver)
      (tracks : Tracks codec chunks receiver) : Reads codec (asyncReadLoop receiver)
  | failed (receiver : Receiver) (errno : Int) (ready : receiver.bb.Ready)
      (sound : receiver.state.Sound codec) : Reads codec ⟨receiver, .failed errno⟩

/-- A tracked receiver has space to read into. -/
theorem tracked_space {codec : Codec} {chunks : List (List UInt8)} {receiver : Receiver}
    (tracks : Tracks codec chunks receiver) :
    Exists fun bufbase => receiver.bb.reserve.pointer = some bufbase ∧
      0 < receiver.bb.reserve.size := by
  rcases tracks.ready.reserve tracks.room with ⟨⟨bufbase, returned⟩, size⟩
  have room := tracks.room
  exact ⟨bufbase, returned, by omega⟩

theorem asyncReadLoop_reading {codec : Codec} {chunks : List (List UInt8)} {receiver : Receiver}
    (tracks : Tracks codec chunks receiver) :
    Exists fun bufbase => asyncReadLoop receiver =
      ⟨{ receiver with bb := receiver.bb.reserve.bb },
        .reading bufbase receiver.bb.reserve.size⟩ := by
  rcases tracked_space tracks with ⟨bufbase, returned, positive⟩
  refine ⟨bufbase, ?_⟩
  simp only [asyncReadLoop, returned]
  exact if_pos positive

/-- Bytes that arrive are fed to the receiver the read was started on. -/
theorem arrive_eq {codec : Codec} {chunks : List (List UInt8)} {receiver : Receiver}
    {next : KjTcpConnection} {bytes : List UInt8} (tracks : Tracks codec chunks receiver)
    (step : (asyncReadLoop receiver).Step codec (.arrive bytes) next) :
    (Exists fun after => receiver.feed codec bytes = .decoded after ∧
      next = asyncReadLoop after) ∨
    (Exists fun errno => Exists fun after => receiver.feed codec bytes = .thrown errno after ∧
      next = ⟨after, .failed errno⟩) := by
  rcases asyncReadLoop_reading tracks with ⟨bufbase, started⟩
  rcases tracks.ready.reserve tracks.room with ⟨⟨pointer, returned⟩, size⟩
  unfold Step at step
  rw [started] at step
  simp only [perform] at step
  split at step
  · rename_i fits
    have fed : receiver.feed codec bytes = receiver.commitAndDecode codec
        (receiver.bb.reserve.bb.writeReserved 0 bytes) bytes.length := by
      simp only [Receiver.feed, returned]
      exact if_pos fits.2
    change (match receiver.commitAndDecode codec (receiver.bb.reserve.bb.writeReserved 0 bytes)
      bytes.length with
      | .decoded next => some (asyncReadLoop next)
      | .thrown errno next => some ⟨next, .failed errno⟩
      | .refused => none) = _ at step
    rw [← fed] at step
    cases outcome : receiver.feed codec bytes with
    | decoded after =>
        rw [outcome] at step
        cases step
        exact Or.inl ⟨after, rfl, rfl⟩
    | thrown errno after =>
        rw [outcome] at step
        cases step
        exact Or.inr ⟨errno, after, rfl, rfl⟩
    | refused =>
        rw [outcome] at step
        cases step
  · cases step

/-- A flushed connection starts over, whatever state it was lost in. -/
theorem reads_flushed {codec : Codec} {receiver : Receiver}
    (capacity : receiver.bb.availableCapacity = tcpStreamReadSize)
    (sound : receiver.state.Sound codec) :
    Reads codec (asyncReadLoop (flushed receiver)) :=
  .reading [] _ (tracks_start ⟨BipBuf.reset_valid _, capacity, rfl⟩ rfl sound.clear
    receiver.state.clear_waiting.1 receiver.state.clear_waiting.2)

theorem Reads.step {codec : Codec} {connection next : KjTcpConnection} {event : KjEvent}
    (reads : Reads codec connection) (step : connection.Step codec event next) :
    Reads codec next := by
  cases reads with
  | reading chunks receiver tracks =>
      rcases asyncReadLoop_reading tracks with ⟨bufbase, started⟩
      cases event with
      | arrive bytes =>
          rcases arrive_eq tracks step with ⟨after, fed, rfl⟩ | ⟨errno, after, fed, rfl⟩
          · exact .reading _ after (tracks.feed_decoded fed)
          · rcases tracks.feed_thrown fed with ⟨ready, sound⟩
            exact .failed after errno ready sound
      | delayElapsed =>
          rw [started] at step
          cases step
      | taskFailed =>
          rw [started] at step
          cases step
          have capacity := (BipBuf.reserve_refines tracks.ready.valid).2.1
          exact reads_flushed (capacity.trans tracks.ready.capacity) tracks.sound
  | failed receiver errno ready sound =>
      cases event with
      | arrive bytes => cases step
      | delayElapsed => cases step
      | taskFailed =>
          cases step
          exact reads_flushed ready.capacity sound

/-- The read loop never stalls.  After any reads that returned normally no
reservation is open and the buffer is not full, so the next reservation is a
region that is not empty; and along every run of a connection, through
failures and reconnections, the loop never waits for space. -/
theorem read_loop_never_stalls (codec : Codec) {recvPool : BufferPool}
    (formed : recvPool.WellFormed codec.recvCapSize) (sendPool : BufferPool)
    (uninitialised : Memory UInt8) :
    (forall chunks receiver,
      (Receiver.fresh recvPool sendPool uninitialised).feedAll codec chunks = .decoded receiver ->
      receiver.bb.getReservationSize = 0 ∧
        receiver.bb.getCommittedSize < receiver.bb.getCapacity ∧
        receiver.bb.getCapacity = tcpStreamReadSize ∧
        Exists fun pointer => receiver.bb.reserve.pointer = some pointer ∧
          0 < receiver.bb.reserve.size) ∧
    (forall events connection,
      Run (Step codec) (asyncReadLoop (Receiver.fresh recvPool sendPool uninitialised)) events
        connection ->
      connection.phase ≠ .delayed) := by
  constructor
  · intro chunks receiver fed
    have tracks := tracks_of_feedAll formed fed
    refine ⟨tracks.ready.closed, ?_, tracks.ready.capacity, tracked_space tracks⟩
    rw [BipBuf.getCapacity, tracks.ready.capacity]
    exact tracks.room
  · intro events connection run
    have reads := run.invariant (Reads codec) (fun _ _ _ reads step => reads.step step)
      (.reading [] _ (tracks_fresh formed sendPool uninitialised))
    cases reads with
    | reading chunks receiver tracks =>
        rcases asyncReadLoop_reading tracks with ⟨bufbase, started⟩
        rw [started]
        intro impossible
        cases impossible
    | failed receiver errno =>
        intro impossible
        cases impossible

/-- A new connection of the inner class before any packet. -/
def newConnection : KjTcpConnection :=
  asyncReadLoop (Receiver.fresh (.initial fun _ _ => 0) (.initial fun _ _ => 0) fun _ => 0)

/-- An oversize page begins, then an empty page is an error, then the task has
failed and the loop reads again. -/
theorem read_loop_never_stalls_reconnecting :
    Exists fun connection : KjTcpConnection =>
      Run (Step ⟨.inner, .pointer32⟩) newConnection
        [.arrive [0xFF, 0xFF, 1], .taskFailed, .arrive [3, 0], .taskFailed] connection ∧
      connection.phase ≠ .delayed := by
  have run : Exists fun connection : KjTcpConnection =>
      Run (Step ⟨.inner, .pointer32⟩) newConnection
        [.arrive [0xFF, 0xFF, 1], .taskFailed, .arrive [3, 0], .taskFailed] connection :=
    ⟨_, Run.of_foldlM _ rfl⟩
  rcases run with ⟨connection, run⟩
  exact ⟨connection, run, (read_loop_never_stalls ⟨.inner, .pointer32⟩
    (BufferPool.initial_wellFormed (fun _ _ => 0) _) (.initial fun _ _ => 0) fun _ => 0).2 _ _ run⟩

end KjTcpConnection
end NetSystem
