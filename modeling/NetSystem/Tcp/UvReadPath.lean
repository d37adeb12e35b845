import NetSystem.Tcp.UvIsolatedConn

namespace NetSystem

/-!
# The read path

A read of the loop is two callbacks: `alloc_cb` reserves all free space of the receive
buffer, and `on_client_read` or `on_isolated_recv` is told what became of the read.
The two read callbacks differ in how they close a connection that has ended, and in
nothing else that concerns the buffer.

An error other than `UV_EOF` and `UV_ECONNRESET` leaves the reservation open.  From
then on `alloc_cb` gets no region.  `passes` is the condition on one read that avoids
this, and it is exact.
-/

/-- What the read callback is told: the bytes read, which may be none; an end of the
connection, `UV_EOF` or `UV_ECONNRESET`; or another error. -/
inductive ReadOutcome where
  | read (chunk : List UInt8)
  | ended
  | failed

/-- A client handle that is read from, with the packet object behind it.  `connimpl`
says whether `_connimpl` is set.  `ended` is a connection that has been closed, or
whose decoder has thrown; nothing catches that. -/
structure ReadHandle where
  receiver : Receiver
  connimpl : Bool
  ended : Bool

namespace ReadHandle

/-- A handle with an empty buffer. -/
def opened (connimpl : Bool) (recvPool sendPool : BufferPool) (uninitialised : Memory UInt8) :
    ReadHandle :=
  ⟨.fresh recvPool sendPool uninitialised, connimpl, false⟩

def withBuffer (reader : ReadHandle) (bb : BipBuf) : ReadHandle :=
  { reader with receiver := { reader.receiver with bb } }

/-- `OnRawData`, if the handle has a connection, on what has been read. -/
def onRawData (codec : Codec) (reader : ReadHandle) (bb : BipBuf) (size : Nat) : Option ReadHandle :=
  if reader.connimpl then
    match reader.receiver.commitAndDecode codec bb size with
    | .decoded next => some { reader with receiver := next }
    | .thrown _ next => some { reader with receiver := next, ended := true }
    | .refused => none
  else some (reader.withBuffer (bb.commit size))

/-- The read callback, after `alloc_cb` has left the buffer `bb` with a region of the
given size. -/
def readCallback (codec : Codec) (reader : ReadHandle) (bb : BipBuf) (size : Nat) :
    ReadOutcome -> Option ReadHandle
  | .ended => some { reader.withBuffer (bb.commit 0) with ended := true }
  | .failed => some (reader.withBuffer bb)
  | .read chunk =>
      if chunk = [] then some (reader.withBuffer (bb.commit 0))
      else if chunk.length ≤ size then
        reader.onRawData codec (bb.writeReserved 0 chunk) chunk.length
      else none

/-- `on_client_read`. -/
def onClientRead := readCallback

/-- `on_isolated_recv`. -/
def onIsolatedRecv := readCallback

end ReadHandle

/-- Which connection a handle is read for. -/
inductive ReadSide where
  | client
  | isolated

namespace ReadHandle

/-- The read callback of the side. -/
def callback : ReadSide -> Codec -> ReadHandle -> BipBuf -> Nat -> ReadOutcome -> Option ReadHandle
  | .client => onClientRead
  | .isolated => onIsolatedRecv

/-- One read: `alloc_cb`, and the read callback. -/
def cycle (side : ReadSide) (codec : Codec) (reader : ReadHandle) (outcome : ReadOutcome) :
    Option ReadHandle :=
  if reader.ended then none
  else
    let reservation := reader.receiver.bb.reserve
    callback side codec reader reservation.bb reservation.size outcome

def Step (side : ReadSide) (codec : Codec) (reader : ReadHandle) (outcome : ReadOutcome)
    (next : ReadHandle) : Prop :=
  reader.cycle side codec outcome = some next

/-- The buffer has no open reservation, and `alloc_cb` gets a region if there is free
space. -/
structure Unblocked (reader : ReadHandle) : Prop where
  closed : reader.receiver.bb.getReservationSize = 0
  region : reader.receiver.bb.getCommittedSize < reader.receiver.bb.getCapacity ->
    reader.receiver.bb.reserve.pointer.isSome = true ∧ 0 < reader.receiver.bb.reserve.size

/-- The read does not fail with an open reservation. -/
def passes (reader : ReadHandle) : ReadOutcome -> Bool
  | .failed => reader.receiver.bb.isFull
  | _ => true

/-- A read that leaves no reservation open. -/
def UnblockedStep (side : ReadSide) (codec : Codec) (reader : ReadHandle) (outcome : ReadOutcome)
    (next : ReadHandle) : Prop :=
  reader.Step side codec outcome next ∧ next.Unblocked

/-- A read that meets the condition. -/
def PassingStep (side : ReadSide) (codec : Codec) (reader : ReadHandle) (outcome : ReadOutcome)
    (next : ReadHandle) : Prop :=
  reader.Step side codec outcome next ∧ reader.passes outcome = true

/-! ## One read -/

theorem callback_eq (side : ReadSide) : callback side = readCallback := by
  cases side with
  | client => rfl
  | isolated => rfl

theorem unblocked_iff {reader : ReadHandle} (valid : reader.receiver.bb.Valid) :
    reader.Unblocked ↔ reader.receiver.bb.getReservationSize = 0 := by
  refine ⟨fun unblocked => unblocked.closed, fun closed => ⟨closed, fun room => ?_⟩⟩
  rcases BipBuf.reserve_cases valid with ⟨taken, _⟩ | ⟨_, full, _⟩ | ⟨_, _, placed, _, _, _, granted⟩
  · exact absurd closed (Nat.ne_of_gt taken)
  · exact absurd full (Nat.ne_of_lt room)
  · rw [granted]
    exact ⟨rfl, Nat.sub_pos_of_lt room⟩

theorem reserve_size_le {bb : BipBuf} (valid : bb.Valid) :
    bb.reserve.size ≤ bb.reserve.bb.getReservationSize := by
  rcases BipBuf.reserve_cases valid with
    ⟨_, refused⟩ | ⟨_, _, refused⟩ | ⟨_, _, placed, _, _, _, granted⟩
  · rw [refused]
    exact Nat.zero_le _
  · rw [refused]
    exact Nat.zero_le _
  · rw [granted, BipBuf.openRegion_reservationSize]

/-- A failed read leaves no reservation open only where there was no free space. -/
theorem reserve_closed_iff {bb : BipBuf} (valid : bb.Valid) (closed : bb.getReservationSize = 0) :
    bb.reserve.bb.getReservationSize = 0 ↔ bb.isFull = true := by
  rw [BipBuf.isFull, beq_iff_eq, BipBuf.getCapacity]
  rcases BipBuf.reserve_cases valid with
    ⟨taken, _⟩ | ⟨_, full, refused⟩ | ⟨_, room, placed, _, _, _, granted⟩
  · exact absurd closed (Nat.ne_of_gt taken)
  · rw [refused]
    exact ⟨fun _ => full.symm, fun _ => closed⟩
  · rw [granted, BipBuf.openRegion_reservationSize]
    omega

/-- After `DecodeStream` no reservation is open. -/
theorem decodeStream_closed (codec : Codec) (state : PacketState) {bb : BipBuf}
    (valid : bb.Valid) (closed : bb.getReservationSize = 0) :
    (decodeStream codec state bb).bb.Valid ∧
      (decodeStream codec state bb).bb.getReservationSize = 0 := by
  unfold decodeStream
  dsimp only
  split
  · exact ⟨(BipBuf.decommit_refines valid _).1, closed⟩
  · split
    · exact ⟨valid, closed⟩
    · exact ⟨valid, closed⟩

theorem onRawData_closed {codec : Codec} {reader next : ReadHandle} {bb : BipBuf} {size : Nat}
    (valid : bb.Valid) (done : reader.onRawData codec bb size = some next) :
    next.receiver.bb.Valid ∧ next.receiver.bb.getReservationSize = 0 := by
  have committed := (BipBuf.commit_refines valid size).1
  have decoded := decodeStream_closed codec reader.receiver.state committed rfl
  unfold onRawData Receiver.commitAndDecode at done
  dsimp only at done
  split at done
  · cases result : (decodeStream codec reader.receiver.state (bb.commit size)).result with
    | ok consumed =>
        rw [result] at done
        cases done
        exact decoded
    | error errno =>
        rw [result] at done
        cases done
        exact decoded
  · cases done
    exact ⟨committed, rfl⟩

/-- What one read does to the reservation. -/
theorem step_iff {side : ReadSide} {codec : Codec} {reader next : ReadHandle}
    {outcome : ReadOutcome} (valid : reader.receiver.bb.Valid) (unblocked : reader.Unblocked)
    (step : reader.Step side codec outcome next) :
    next.receiver.bb.Valid ∧ (next.Unblocked ↔ reader.passes outcome = true) := by
  have reserved := (BipBuf.reserve_refines valid).1
  suffices effect : next.receiver.bb.Valid ∧
      (next.receiver.bb.getReservationSize = 0 ↔ reader.passes outcome = true) from
    ⟨effect.1, (unblocked_iff effect.1).trans effect.2⟩
  unfold Step cycle at step
  rw [callback_eq] at step
  split at step
  · cases step
  · cases outcome with
    | ended =>
        cases step
        exact ⟨(BipBuf.commit_refines reserved 0).1, fun _ => rfl, fun _ => rfl⟩
    | failed =>
        cases step
        exact ⟨reserved, reserve_closed_iff valid unblocked.closed⟩
    | read chunk =>
        dsimp only [readCallback] at step
        split at step
        · cases step
          exact ⟨(BipBuf.commit_refines reserved 0).1, fun _ => rfl, fun _ => rfl⟩
        · split at step
          · rename_i fits
            have inside : 0 + chunk.length ≤ reader.receiver.bb.reserve.bb.getReservationSize := by
              rw [Nat.zero_add]
              exact Nat.le_trans fits (reserve_size_le valid)
            have written := (BipBuf.writeReserved_refines reserved inside).1
            rcases onRawData_closed written step with ⟨validNext, closed⟩
            exact ⟨validNext, fun _ => rfl, fun _ => closed⟩
          · cases step

/-! ## Whole sequences of reads -/

/-- A reader whose buffer is in order and not blocked. -/
structure Reads (reader : ReadHandle) : Prop where
  valid : reader.receiver.bb.Valid
  unblocked : reader.Unblocked

theorem opened_reads (connimpl : Bool) (recvPool sendPool : BufferPool)
    (uninitialised : Memory UInt8) : (opened connimpl recvPool sendPool uninitialised).Reads := by
  have valid : (opened connimpl recvPool sendPool uninitialised).receiver.bb.Valid :=
    BipBuf.create_valid _ _
  exact ⟨valid, (unblocked_iff valid).mpr rfl⟩

/-- A new connection is not blocked, and no read of a sequence leaves it blocked if and
only if every read of the sequence meets the condition. -/
theorem never_wedged_iff_passes (side : ReadSide) (codec : Codec) (connimpl : Bool)
    (recvPool sendPool : BufferPool) (uninitialised : Memory UInt8) (outcomes : List ReadOutcome)
    (reader : ReadHandle) :
    (opened connimpl recvPool sendPool uninitialised).Unblocked ∧
      (Run (UnblockedStep side codec) (opened connimpl recvPool sendPool uninitialised) outcomes
          reader ↔
        Run (PassingStep side codec) (opened connimpl recvPool sendPool uninitialised) outcomes
          reader) := by
  have start := opened_reads connimpl recvPool sendPool uninitialised
  refine ⟨start.unblocked, Run.congr Reads ?_ ?_ start⟩
  · intro state outcome next reads
    exact and_congr_right fun step => (step_iff reads.valid reads.unblocked step).2
  · intro state outcome next reads step
    exact ⟨(step_iff reads.valid reads.unblocked step.1).1, step.2⟩

/-- A blocked connection stays blocked: `alloc_cb` gets no region, so the loop reports
`UV_ENOBUFS`, and nothing changes. -/
theorem wedged_again (side : ReadSide) (codec : Codec) {reader : ReadHandle}
    (kept : reader.ended = false) (blocked : 0 < reader.receiver.bb.getReservationSize) :
    reader.receiver.bb.reserve.pointer = none ∧ reader.cycle side codec .failed = some reader := by
  have refused : reader.receiver.bb.reserve = ⟨reader.receiver.bb, none, 0, none⟩ := by
    rw [BipBuf.reserve, if_pos blocked]
  refine ⟨by rw [refused], ?_⟩
  rw [cycle, if_neg (Bool.eq_false_iff.mp kept), callback_eq]
  dsimp only [readCallback]
  rw [refused]
  rfl

/-- The reads of an isolated connection are reads of this kind. -/
theorem onRecv_cycle {codec : Codec} {conn next : UvIsolatedConn} {clnt : ClientHandle}
    {packet : TcpPacket} {chunk : List UInt8} (held : conn.packet = some packet)
    (done : conn.onRecv codec chunk clnt = some next) :
    Exists fun reader : ReadHandle =>
      Step .isolated codec ⟨⟨clnt.bb, conn.packetState packet, conn.events⟩, true, false⟩
        (.read chunk) reader ∧
      next.clnt = .live { clnt with bb := reader.receiver.bb } := by
  unfold UvIsolatedConn.onRecv at done
  simp only [Step, cycle, callback_eq, readCallback]
  split at done
  · rename_i empty
    split at done
    · cases done
    · cases done
      refine ⟨⟨⟨clnt.bb.reserve.bb.commit 0, conn.packetState packet, conn.events⟩, true, false⟩, ?_,
        rfl⟩
      rw [if_neg Bool.false_ne_true, if_pos empty]
      rfl
  · rename_i some
    rw [held] at done
    simp only [Receiver.feed] at done
    rw [if_neg Bool.false_ne_true, if_neg some]
    split at done
    · rename_i decoded fed
      cases done
      split at fed
      · cases fed
      · split at fed
        · rename_i fits
          refine ⟨⟨decoded, true, false⟩, ?_, rfl⟩
          rw [if_pos fits, onRawData, if_pos rfl, fed]
        · cases fed
    · rename_i errno thrown fed
      cases done
      split at fed
      · cases fed
      · split at fed
        · rename_i fits
          refine ⟨⟨thrown, true, true⟩, ?_, rfl⟩
          rw [if_pos fits, onRawData, if_pos rfl, fed]
        · cases fed
    · cases done

/-- A read fails with `UV_ETIMEDOUT`.  The reservation stays open, although the
connection is not closed and its buffer is empty, and `alloc_cb` gets no region. -/
theorem failed_read_wedges :
    Exists fun reader : ReadHandle =>
      Run (Step .client ⟨.inner, .pointer32⟩)
        (opened true (.initial fun _ _ => 0) (.initial fun _ _ => 0) fun _ => 0) [.failed] reader ∧
      reader.ended = false ∧ reader.receiver.bb.isEmpty = true ∧
      reader.receiver.bb.reserve.pointer = none ∧ ¬ reader.Unblocked := by
  refine ⟨_, .cons rfl (.nil _), rfl, rfl, rfl, fun unblocked => ?_⟩
  have closed := unblocked.closed
  cases closed

end ReadHandle
end NetSystem
