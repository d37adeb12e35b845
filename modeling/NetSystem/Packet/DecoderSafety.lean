import NetSystem.Packet.ReceiverTracking

namespace NetSystem

/-!
# The decoder on arbitrary input

Whatever bytes a peer sends and however they are cut, the calls of
`ConsumeFramePage` end and stay inside the committed bytes, the page size is
never decreased below zero, no copy exceeds a receive buffer, and what reaches
the got-packet callback has the shape `OnGotPacket` relies on.
-/

/-- The cursor of a call that is skipping stays inside its block. -/
theorem skipResult_within (codec : Codec) (state : PacketState) (pBuf nLen : Nat) :
    WithinBlock codec pBuf nLen (skipResult state pBuf nLen) := by
  refine ⟨?_, ?_, ?_⟩
  · simp only [skipResult]
    omega
  · simp only [skipResult]
    omega
  · intro event member
    rw [List.mem_singleton.mp member]
    constructor
    · omega
    · omega

theorem frameStart_within (codec : Codec) (state : PacketState) (pBuf nLen : Nat) :
    WithinBlock codec pBuf nLen (frameStart state pBuf nLen) := by
  refine ⟨rfl, Int.natCast_nonneg _, ?_⟩
  intro event impossible
  cases impossible

section Call

variable {codec : Codec} {chunks : List (List UInt8)} {receiver : Receiver} {chunk : List UInt8}

/-- The loop of the call on the next chunk. -/
def Receiver.callLoop (codec : Codec) (receiver : Receiver) (chunk : List UInt8) :
    Loop FrameCursor :=
  framePageLoop codec (receiver.bb.filled chunk).buffer (receiver.bb.filled chunk).getCapacity

/-- The cursor with which the call on the next chunk starts. -/
def Receiver.callStart (receiver : Receiver) (chunk : List UInt8) : FrameCursor :=
  frameStart receiver.state (receiver.bb.filled chunk).getContiguousBlock
    (receiver.bb.filled chunk).getCommittedSize

/-- A cursor of the call on the next chunk is inside the committed bytes. -/
def Receiver.Inside (codec : Codec) (receiver : Receiver) (chunk : List UInt8)
    (cursor : FrameCursor) : Prop :=
  WithinBlock codec (receiver.bb.filled chunk).getContiguousBlock
    (receiver.bb.filled chunk).getCommittedSize cursor

/-- Every pass of a call made on a tracked receiver, and its end. -/
theorem Tracks.inside (tracks : Tracks codec chunks receiver) (takes : receiver.Takes chunk) :
    (forall cursor, (receiver.callLoop codec chunk).Visits (receiver.callStart chunk) cursor ->
      receiver.Inside codec chunk cursor) ∧
    receiver.Inside codec chunk (receiver.lastCursor codec chunk) := by
  rcases tracks.ready.filled tracks.room takes with ⟨filledReady, bytes⟩
  have size : (receiver.bb.filled chunk).getCommittedSize ≤ tcpStreamReadSize := by
    rw [← BipBuf.length_committed, bytes, List.length_append, BipBuf.length_committed]
    exact takes
  have capacity : (receiver.bb.filled chunk).getCapacity = tcpStreamReadSize := filledReady.capacity
  have atPage : AtPage tcpStreamReadSize receiver.state.packet receiver.bb.committed ->
      (forall cursor, (receiver.callLoop codec chunk).Visits (receiver.callStart chunk) cursor ->
        receiver.Inside codec chunk cursor) ∧
      receiver.Inside codec chunk (receiver.lastCursor codec chunk) := by
    intro position
    have extended := position.extend chunk
    rw [← bytes] at extended
    refine ⟨fun cursor visits => ?_, ?_⟩
    · unfold Receiver.callLoop at visits
      rw [capacity] at visits
      exact visits_scan size tracks.sound extended visits
    · rw [Receiver.Inside, lastCursor_eq codec filledReady]
      exact (consumeFramePage_scan size tracks.sound extended).2
  rcases tracks.standing with ⟨pages, _, standing⟩
  cases standing with
  | stalled _ stalled => exact atPage stalled.atPage
  | leftover _ _ _ _ waiting => exact atPage (Or.inl waiting)
  | skipping begun _ skipping =>
      have stops : (receiver.callLoop codec chunk).turn (receiver.callStart chunk) =
          .halt (skipResult receiver.state (receiver.bb.filled chunk).getContiguousBlock
            (receiver.bb.filled chunk).getCommittedSize) := turn_skip skipping
      refine ⟨fun cursor visits => ?_, ?_⟩
      · cases visits with
        | here => exact frameStart_within codec _ _ _
        | later more _ =>
            rw [stops] at more
            cases more
      · have last : receiver.lastCursor codec chunk =
            skipResult receiver.state (receiver.bb.filled chunk).getContiguousBlock
              (receiver.bb.filled chunk).getCommittedSize :=
          (receiver.callLoop codec chunk).exec_of_halt stops
        rw [last]
        exact skipResult_within codec _ _ _

end Call

/-- The decoder is robust.  After any reads that returned, the call made for
the next chunk ends; at each pass and at the end the cursor and the remaining
count meet the end of the committed bytes and the count is not negative; and
everything the call reports is within bounds: the pages handed on, the
subtractions from the page size, the copies, and the packets. -/
theorem decoder_robust (codec : Codec) {recvPool : BufferPool}
    (formed : recvPool.WellFormed codec.recvCapSize) (sendPool : BufferPool)
    (uninitialised : Memory UInt8) {chunks : List (List UInt8)} {receiver : Receiver}
    (fed : (Receiver.fresh recvPool sendPool uninitialised).feedAll codec chunks =
      .decoded receiver)
    {chunk : List UInt8} (takes : receiver.bb.getCommittedSize + chunk.length ≤ tcpStreamReadSize) :
    let bb := receiver.bb.filled chunk
    let last := receiver.lastCursor codec chunk
    bb.committed = receiver.bb.committed ++ chunk ∧
    (Exists fun next : Receiver => next.events = receiver.events ++ last.events ∧
      (receiver.feed codec chunk = .decoded next ∨
        receiver.feed codec chunk = .thrown last.nconsumed next)) ∧
    (Exists fun fuel =>
      (receiver.callLoop codec chunk).run fuel (receiver.callStart chunk) = some last) ∧
    (forall cursor, (receiver.callLoop codec chunk).Visits (receiver.callStart chunk) cursor ∨
        cursor = last ->
      (cursor.ptr : Int) + cursor.nremains = bb.getContiguousBlock + bb.getCommittedSize ∧
        0 ≤ cursor.nremains) ∧
    (forall event, event ∈ last.events ->
      event.Safe codec bb.getContiguousBlock bb.getCommittedSize) := by
  have tracks := tracks_of_feedAll formed fed
  rcases tracks.inside takes with ⟨passes, ending⟩
  refine ⟨(tracks.ready.filled tracks.room takes).2, ?_, ?_, ?_, ending.safe⟩
  · by_cases negative : (receiver.lastCursor codec chunk).nconsumed < 0
    · exact ⟨_, rfl, Or.inr (Receiver.feed_thrown tracks.ready tracks.room takes rfl negative)⟩
    · rcases Int.eq_ofNat_of_zero_le (Int.not_lt.mp negative) with ⟨consumed, same⟩
      rcases Receiver.feed_decoded tracks.ready tracks.room takes same with ⟨rest, _, _, decoded⟩
      exact ⟨_, rfl, Or.inl decoded⟩
  · exact ⟨_, (receiver.callLoop codec chunk).run_measure (receiver.callStart chunk)⟩
  · intro cursor visited
    rcases visited with visits | rfl
    · exact ⟨(passes cursor visits).ends, (passes cursor visits).nonneg⟩
    · exact ⟨ending.ends, ending.nonneg⟩

/-- The leading of a page of 16383 bytes and one byte of it, then two more. -/
theorem decoder_robust_oversize :
    Exists fun receiver : Receiver =>
      (Receiver.fresh (.initial fun _ _ => 0) (.initial fun _ _ => 0) fun _ => 0).feedAll
        ⟨.inner, .pointer32⟩ [[0xFF, 0xFF, 1]] = .decoded receiver ∧
      receiver.state.packet.eRecvPageState = .skip ∧
      (Exists fun fuel => (receiver.callLoop ⟨.inner, .pointer32⟩ [2, 3]).run fuel
        (receiver.callStart [2, 3]) = some (receiver.lastCursor ⟨.inner, .pointer32⟩ [2, 3])) := by
  have first : Exists fun receiver : Receiver =>
      (Receiver.fresh (.initial fun _ _ => 0) (.initial fun _ _ => 0) fun _ => 0).feedAll
        ⟨.inner, .pointer32⟩ [[0xFF, 0xFF, 1]] = .decoded receiver ∧
      receiver.state.packet.eRecvPageState = .skip ∧ receiver.bb.getCommittedSize = 0 :=
    ⟨_, rfl, rfl, rfl⟩
  rcases first with ⟨receiver, fed, skipping, empty⟩
  refine ⟨receiver, fed, skipping, ?_⟩
  exact (decoder_robust ⟨.inner, .pointer32⟩ (BufferPool.initial_wellFormed (fun _ _ => 0) _)
    (.initial fun _ _ => 0) (fun _ => 0) fed (by rw [empty]; decide)).2.2.1

end NetSystem
