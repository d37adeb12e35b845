import NetSystem.Base.BipBufRefinement
import NetSystem.Packet.FrameScan

namespace NetSystem

/-!
# A receiver along its reads

`Tracks` ties a receiver to the chunks it has been given.  Their concatenation
is a sequence of pages the decoder has taken, followed by bytes it has not, and
the receiver holds and has delivered what those pages say.  `Standing` lists
the three situations in which a call of `DecodeStream` leaves the decoder: it
wants more bytes; it has just finished an oversize page and has not looked at
what is behind it; or it is in the middle of an oversize page.

Every read keeps `Tracks` or throws (`Tracks.feed`), so it holds after every
sequence of reads from a new connection (`tracks_of_feedAll`).
-/

open Receiver

theorem PageLeading.ofBytes_append_of_le {front : List UInt8} (present : 2 ≤ front.length)
    (rest : List UInt8) : ofBytes (front ++ rest) = ofBytes front := by
  have taken : ofBytes ((front ++ rest).take 2) = ofBytes (front ++ rest) := ofBytes_take
  rw [← taken, List.take_append_of_le_length present, ofBytes_take]

theorem AwaitsBody.extend {capacity : Nat} {leading : PageLeading} {rest : List UInt8}
    (awaits : AwaitsBody capacity leading rest) (more : List UInt8) :
    AwaitsBody capacity leading (rest ++ more) := by
  refine ⟨?_, ?_, awaits.nonempty, awaits.fits⟩
  · rw [PageLeading.ofBytes_append_of_le awaits.present]
    exact awaits.leading_eq
  · have := awaits.present
    rw [List.length_append]
    omega

theorem AtPage.extend {capacity : Nat} {packet : TcpPacket} {rest : List UInt8}
    (position : AtPage capacity packet rest) (more : List UInt8) :
    AtPage capacity packet (rest ++ more) := by
  rcases position with waiting | ⟨waiting, awaits⟩
  · exact Or.inl waiting
  · exact Or.inr ⟨waiting, awaits.extend more⟩

/-! ## The buffer during one read -/

namespace BipBuf

/-- A buffer between two reads of a connection. -/
structure Ready (bb : BipBuf) : Prop where
  valid : bb.Valid
  capacity : bb.availableCapacity = tcpStreamReadSize
  closed : bb.getReservationSize = 0

theorem create_ready (uninitialised : Memory UInt8) :
    (create tcpStreamReadSize uninitialised).Ready :=
  ⟨create_valid _ _, rfl, rfl⟩

/-- A buffer that is not full hands out all its free space. -/
theorem Ready.reserve {bb : BipBuf} (ready : bb.Ready)
    (room : bb.getCommittedSize < tcpStreamReadSize) :
    (Exists fun pointer => bb.reserve.pointer = some pointer) ∧
      bb.reserve.size = tcpStreamReadSize - bb.getCommittedSize := by
  have closed := ready.closed
  have capacity := ready.capacity
  rcases reserve_cases ready.valid with
    ⟨taken, _⟩ | ⟨_, full, _⟩ | ⟨_, _, placed, _, _, _, same⟩
  · omega
  · omega
  · rw [same]
    exact ⟨⟨_, rfl⟩, by rw [capacity]⟩

/-- The buffer after a chunk has been reserved for, written and committed. -/
def filled (bb : BipBuf) (chunk : List UInt8) : BipBuf :=
  (bb.reserve.bb.writeReserved 0 chunk).commit chunk.length

/-- A chunk that fits is appended to the committed bytes. -/
theorem Ready.filled {bb : BipBuf} (ready : bb.Ready) {chunk : List UInt8}
    (room : bb.getCommittedSize < tcpStreamReadSize)
    (fits : bb.getCommittedSize + chunk.length ≤ tcpStreamReadSize) :
    (bb.filled chunk).Ready ∧ (bb.filled chunk).committed = bb.committed ++ chunk := by
  rcases reserve_refines ready.valid with ⟨reservedValid, reservedCapacity, queue, _, granted⟩
  have nothing : bb.view.region = [] := (reserved_eq_nil_iff bb).mpr ready.closed
  have size : bb.reserve.bb.getReservationSize = tcpStreamReadSize - bb.getCommittedSize := by
    have length := granted nothing
    simp only [view, length_reserved, length_committed, ready.capacity] at length
    exact length
  have inside : 0 + chunk.length ≤ bb.reserve.bb.getReservationSize := by omega
  rcases writeReserved_refines reservedValid inside with ⟨writtenValid, _, written⟩
  rcases commit_refines writtenValid chunk.length with ⟨committedValid, taken⟩
  change BipBuf.view _ = _ at taken
  rw [written] at taken
  have splice : (BoundedFifo.splice bb.reserve.bb.view.region 0 chunk).take chunk.length = chunk := by
    simp only [BoundedFifo.splice, List.take_zero, List.nil_append, List.take_left]
  refine ⟨⟨committedValid, ?_, rfl⟩, ?_⟩
  · have same := congrArg BoundedFifo.capacity taken
    exact same.trans (reservedCapacity.trans ready.capacity)
  · have same := congrArg BoundedFifo.queue taken
    simp only [splice] at same
    change (bb.filled chunk).committed = _ at same
    rw [same, queue]
    rfl

/-- Consumed bytes are dropped from the front. -/
theorem Ready.decommit {bb : BipBuf} (ready : bb.Ready) (size : Nat) :
    (bb.decommit size).1.Ready ∧ (bb.decommit size).1.committed = bb.committed.drop size := by
  rcases decommit_refines ready.valid size with ⟨valid, step⟩
  change BipBuf.view _ = _ at step
  exact ⟨⟨valid, ready.capacity, ready.closed⟩, congrArg BoundedFifo.queue step⟩

end BipBuf

/-! ## One call of `DecodeStream` -/

/-- A call that does not fail drops what it has consumed. -/
theorem decodeStream_ok {codec : Codec} {state : PacketState} {bb : BipBuf} (ready : bb.Ready)
    {consumed : Nat}
    (last : (consumeFramePage codec state bb.buffer bb.getContiguousBlock bb.getCommittedSize
      bb.getCapacity).nconsumed = consumed) :
    Exists fun rest : BipBuf => rest.Ready ∧ rest.committed = bb.committed.drop consumed ∧
      decodeStream codec state bb = ⟨.ok consumed,
        (consumeFramePage codec state bb.buffer bb.getContiguousBlock bb.getCommittedSize
          bb.getCapacity).state, rest,
        (consumeFramePage codec state bb.buffer bb.getContiguousBlock bb.getCommittedSize
          bb.getCapacity).events⟩ := by
  by_cases positive : 0 < consumed
  · rcases ready.decommit consumed with ⟨restReady, dropped⟩
    refine ⟨_, restReady, dropped, ?_⟩
    simp only [decodeStream, last]
    rw [if_pos (by omega), Int.toNat_natCast]
  · have zero : consumed = 0 := by omega
    subst zero
    refine ⟨bb, ready, rfl, ?_⟩
    simp only [decodeStream, last]
    rfl

/-- A negative result is thrown. -/
theorem decodeStream_error {codec : Codec} {state : PacketState} {bb : BipBuf} {errno : Int}
    (last : (consumeFramePage codec state bb.buffer bb.getContiguousBlock bb.getCommittedSize
      bb.getCapacity).nconsumed = errno) (negative : errno < 0) :
    decodeStream codec state bb = ⟨.error errno,
      (consumeFramePage codec state bb.buffer bb.getContiguousBlock bb.getCommittedSize
        bb.getCapacity).state, bb,
      (consumeFramePage codec state bb.buffer bb.getContiguousBlock bb.getCommittedSize
        bb.getCapacity).events⟩ := by
  simp only [decodeStream, last]
  rw [if_neg (by omega), if_neg (by omega)]

namespace Receiver

/-- The cursor in which the call on a chunk ends. -/
def lastCursor (codec : Codec) (receiver : Receiver) (chunk : List UInt8) : FrameCursor :=
  let bb := receiver.bb.filled chunk
  consumeFramePage codec receiver.state bb.buffer bb.getContiguousBlock bb.getCommittedSize
    bb.getCapacity

/-- The chunk is no longer than the free space of the buffer. -/
def Takes (receiver : Receiver) (chunk : List UInt8) : Prop :=
  receiver.bb.getCommittedSize + chunk.length ≤ tcpStreamReadSize

theorem feed_of_takes {codec : Codec} {receiver : Receiver} {chunk : List UInt8}
    (ready : receiver.bb.Ready) (room : receiver.bb.getCommittedSize < tcpStreamReadSize)
    (takes : receiver.Takes chunk) :
    receiver.feed codec chunk =
      receiver.commitAndDecode codec (receiver.bb.reserve.bb.writeReserved 0 chunk)
        chunk.length := by
  rcases ready.reserve room with ⟨⟨pointer, returned⟩, size⟩
  unfold Takes at takes
  simp only [feed, returned]
  exact if_pos (by omega)

theorem feed_refused {codec : Codec} {receiver : Receiver} {chunk : List UInt8}
    (ready : receiver.bb.Ready) (room : receiver.bb.getCommittedSize < tcpStreamReadSize)
    (long : ¬ receiver.Takes chunk) : receiver.feed codec chunk = .refused := by
  rcases ready.reserve room with ⟨⟨pointer, returned⟩, size⟩
  unfold Takes at long
  simp only [feed, returned]
  exact if_neg (by omega)

/-- A read whose decoding consumes `consumed` bytes. -/
theorem feed_decoded {codec : Codec} {receiver : Receiver} {chunk : List UInt8} {consumed : Nat}
    (ready : receiver.bb.Ready) (room : receiver.bb.getCommittedSize < tcpStreamReadSize)
    (takes : receiver.Takes chunk)
    (last : (receiver.lastCursor codec chunk).nconsumed = consumed) :
    Exists fun rest : BipBuf => rest.Ready ∧
      rest.committed = (receiver.bb.committed ++ chunk).drop consumed ∧
      receiver.feed codec chunk = .decoded ⟨rest, (receiver.lastCursor codec chunk).state,
        receiver.events ++ (receiver.lastCursor codec chunk).events⟩ := by
  rcases ready.filled room takes with ⟨filledReady, bytes⟩
  rcases decodeStream_ok filledReady last with ⟨rest, restReady, dropped, decoded⟩
  refine ⟨rest, restReady, by rw [dropped, bytes], ?_⟩
  unfold BipBuf.filled at decoded
  rw [feed_of_takes ready room takes]
  simp only [commitAndDecode, decoded]
  rfl

/-- A read whose decoding fails. -/
theorem feed_thrown {codec : Codec} {receiver : Receiver} {chunk : List UInt8} {errno : Int}
    (ready : receiver.bb.Ready) (room : receiver.bb.getCommittedSize < tcpStreamReadSize)
    (takes : receiver.Takes chunk)
    (last : (receiver.lastCursor codec chunk).nconsumed = errno) (negative : errno < 0) :
    receiver.feed codec chunk = .thrown errno ⟨receiver.bb.filled chunk,
      (receiver.lastCursor codec chunk).state,
      receiver.events ++ (receiver.lastCursor codec chunk).events⟩ := by
  have failed := decodeStream_error last negative
  unfold BipBuf.filled at failed
  rw [feed_of_takes ready room takes]
  simp only [commitAndDecode, failed]
  rfl

end Receiver

/-! ## Where a receiver stands in its stream -/

/-- Every oversize page is followed by at least `count` bytes. -/
def OversizeBefore (count : Nat) (pages : List Page) (rest : List UInt8) : Prop :=
  forall before big after, pages = before ++ big :: after -> ¬ big.Fits tcpStreamReadSize ->
    count ≤ (wireBytes after).length + rest.length

/-- The situation after a read of `count` bytes: `pages` have been taken from
the stream. -/
inductive Standing (stream : List UInt8) (count : Nat) (packet : TcpPacket)
    (committed : List UInt8) (pages : List Page) : Prop
  | stalled (stream_eq : stream = wireBytes pages ++ committed)
      (stalled : Stalled tcpStreamReadSize packet committed)
      (earlier : OversizeBefore count pages committed)
  | leftover (before : List Page) (big : Page) (pages_eq : pages = before ++ [big])
      (stream_eq : stream = wireBytes pages ++ committed)
      (waiting : packet.eRecvPageState = .receiveLeading)
      (oversize : ¬ big.Fits tcpStreamReadSize)
      (short : committed.length < count)
  | skipping (begun : List UInt8) (stream_eq : stream = wireBytes pages ++ begun)
      (skipping : packet.eRecvPageState = .skip)
      (present : 2 ≤ begun.length)
      (oversize : tcpStreamReadSize < 2 + (PageLeading.ofBytes begun).dataSize.toNat)
      (left : packet.recvPageLeading.dataSize.toNat + begun.length =
        2 + (PageLeading.ofBytes begun).dataSize.toNat)
      (unfinished : 0 < packet.recvPageLeading.dataSize.toNat)
      (empty : committed = [])
      (earlier : OversizeBefore count pages begun)

/-- The size of the last chunk. -/
def lastSize (chunks : List (List UInt8)) : Nat := (chunks.getLast?.getD []).length

/-- A receiver that has been given the chunks. -/
structure Tracks (codec : Codec) (chunks : List (List UInt8)) (receiver : Receiver) : Prop where
  ready : receiver.bb.Ready
  sound : receiver.state.Sound codec
  room : receiver.bb.getCommittedSize < tcpStreamReadSize
  bounded : lastSize chunks ≤ tcpStreamReadSize
  standing : Exists fun pages =>
    receivePages codec tcpStreamReadSize none pages =
      .ok (receiver.state.held, packetsOf receiver.events) ∧
    Standing chunks.flatten (lastSize chunks) receiver.state.packet receiver.bb.committed pages

/-- A decoder that waits for a leading and holds nothing, on an empty buffer. -/
theorem tracks_start {codec : Codec} {bb : BipBuf} {state : PacketState} (ready : bb.Ready)
    (empty : bb.committed = []) (sound : state.Sound codec)
    (waiting : state.packet.eRecvPageState = .receiveLeading)
    (nothing : state.packet.refRecvBuf = none) : Tracks codec [] ⟨bb, state, []⟩ := by
  have holds : state.held = none := by
    rw [PacketState.held, nothing]
    rfl
  refine ⟨ready, sound, ?_, Nat.zero_le _, [], ?_, ?_⟩
  · rw [← BipBuf.length_committed, empty]
    exact Nat.zero_lt_succ _
  · rw [holds]
    rfl
  · refine .stalled ?_ (Or.inl ⟨waiting, ?_⟩) ?_
    · rw [empty]
      rfl
    · rw [empty]
      exact Nat.zero_lt_succ _
    · intro before big after impossible
      cases before <;> cases impossible

/-- A connection before its first read. -/
theorem tracks_fresh {codec : Codec} {recvPool : BufferPool}
    (formed : recvPool.WellFormed codec.recvCapSize) (sendPool : BufferPool)
    (uninitialised : Memory UInt8) :
    Tracks codec [] (Receiver.fresh recvPool sendPool uninitialised) := by
  refine tracks_start (BipBuf.create_ready uninitialised) rfl ⟨formed, ?_⟩ rfl rfl
  intro entry impossible
  cases impossible

/-- How one read of a tracked receiver goes, when the chunk fits. -/
inductive ReadResult (codec : Codec) (receiver : Receiver) (chunks : List (List UInt8))
    (chunk : List UInt8) : Prop
  | decoded (next : Receiver) (feed : receiver.feed codec chunk = .decoded next)
      (tracks : Tracks codec (chunks ++ [chunk]) next)
  | thrown (errno : Int) (next : Receiver) (pages : List Page) (rest : List UInt8)
      (feed : receiver.feed codec chunk = .thrown errno next)
      (stream : (chunks ++ [chunk]).flatten = wireBytes pages ++ rest)
      (rejected : receivePages codec tcpStreamReadSize none pages = .error errno)
      (ready : next.bb.Ready)
      (sound : next.state.Sound codec)

theorem lastSize_concat (chunks : List (List UInt8)) (chunk : List UInt8) :
    lastSize (chunks ++ [chunk]) = chunk.length := by
  rw [lastSize, List.getLast?_concat]
  rfl

theorem flatten_concat (chunks : List (List UInt8)) (chunk : List UInt8) :
    (chunks ++ [chunk]).flatten = chunks.flatten ++ chunk := by
  rw [List.flatten_append, List.flatten_singleton]

/-- The calls on one block only see pages that fit the buffer. -/
theorem fits_of_block {pages : List Page} {rest block : List UInt8}
    (stream : block = wireBytes pages ++ rest) (small : block.length ≤ tcpStreamReadSize)
    {page : Page} (member : page ∈ pages) : page.Fits tcpStreamReadSize := by
  rcases List.append_of_mem member with ⟨before, after, rfl⟩
  rw [stream] at small
  simp only [wireBytes_append, wireBytes_cons, List.length_append, Page.length_bytes] at small
  unfold Page.Fits sizeOfFramePageLeading
  omega

/-- Oversize pages lie in front of everything taken from the last block. -/
theorem oversizeBefore_of_block {taken more : List Page} {old chunk rest : List UInt8}
    (stream : old ++ chunk = wireBytes more ++ rest)
    (small : (old ++ chunk).length ≤ tcpStreamReadSize) :
    OversizeBefore chunk.length (taken ++ more) rest := by
  intro before big after split oversize
  have lengths := congrArg List.length stream
  rw [List.length_append, List.length_append] at lengths
  rcases List.append_eq_append_iff.mp split with ⟨middle, rfl, tail⟩ | ⟨middle, rfl, tail⟩
  · exact absurd (fits_of_block stream small (by rw [tail]; simp)) oversize
  · cases middle with
    | nil =>
        rw [List.nil_append] at tail
        exact absurd (fits_of_block stream small (by rw [← tail]; simp)) oversize
    | cons first middle =>
        rw [List.cons_append] at tail
        cases tail
        rw [wireBytes_append, List.length_append]
        omega

/-! ## One read -/

section Read

variable {codec : Codec} {chunks : List (List UInt8)} {receiver : Receiver} {chunk : List UInt8}

theorem lastCursor_eq (codec : Codec) (capacity : (receiver.bb.filled chunk).Ready) :
    receiver.lastCursor codec chunk =
      consumeFramePage codec receiver.state (receiver.bb.filled chunk).buffer
        (receiver.bb.filled chunk).getContiguousBlock (receiver.bb.filled chunk).getCommittedSize
        tcpStreamReadSize := by
  rw [Receiver.lastCursor]
  simp only [BipBuf.getCapacity, capacity.capacity]

/-- A read entered where a page begins. -/
theorem Tracks.feed_atPage (tracks : Tracks codec chunks receiver) {pages : List Page}
    (received : receivePages codec tcpStreamReadSize none pages =
      .ok (receiver.state.held, packetsOf receiver.events))
    (stream_eq : chunks.flatten = wireBytes pages ++ receiver.bb.committed)
    (position : AtPage tcpStreamReadSize receiver.state.packet receiver.bb.committed)
    (takes : receiver.Takes chunk) : ReadResult codec receiver chunks chunk := by
  have ready := tracks.ready
  have room := tracks.room
  rcases ready.filled room takes with ⟨filledReady, bytes⟩
  have cursor := lastCursor_eq codec filledReady
  have size : (receiver.bb.filled chunk).getCommittedSize =
      receiver.bb.getCommittedSize + chunk.length := by
    rw [← BipBuf.length_committed, bytes, List.length_append, BipBuf.length_committed]
  have small : (receiver.bb.committed ++ chunk).length ≤ tcpStreamReadSize := by
    rw [List.length_append, BipBuf.length_committed]
    exact takes
  have short : chunk.length ≤ tcpStreamReadSize := Nat.le_trans (Nat.le_add_left _ _) takes
  have block : (receiver.bb.filled chunk).buffer.read (receiver.bb.filled chunk).getContiguousBlock
      (receiver.bb.filled chunk).getCommittedSize = receiver.bb.committed ++ chunk := bytes
  rcases consumeFramePage_scan (by rw [size]; exact takes) tracks.sound
    (block ▸ position.extend chunk) with ⟨result, _⟩
  rw [← cursor] at result
  have whole : (chunks ++ [chunk]).flatten = wireBytes pages ++ (receiver.bb.committed ++ chunk) := by
    rw [flatten_concat, stream_eq, List.append_assoc]
  cases result with
  | hungry more rest scan stalled =>
      have stream := block.symm.trans scan.stream
      rcases Receiver.feed_decoded ready room takes scan.consumed with
        ⟨rest', restReady, dropped, fed⟩
      rw [stream, List.drop_left] at dropped
      refine .decoded _ fed ⟨restReady, scan.sound, ?_, ?_, pages ++ more, ?_, ?_⟩
      · rw [← BipBuf.length_committed, dropped]
        exact stalled.length_lt (by decide)
      · rw [lastSize_concat]
        exact short
      · rw [receivePages_append more received, scan.received, packetsOf_append]
        rfl
      · rw [lastSize_concat]
        refine .stalled ?_ (dropped.symm ▸ stalled) ?_
        · rw [whole, stream, dropped, wireBytes_append, List.append_assoc]
        · rw [dropped]
          exact oversizeBefore_of_block stream small
  | overflow more rest stream' taken sound consumed skipping present oversize left =>
      have stream := block.symm.trans stream'
      rcases Receiver.feed_decoded ready room takes consumed with ⟨rest', restReady, dropped, fed⟩
      have empty : rest'.committed = [] := by
        rw [dropped]
        exact List.drop_eq_nil_of_le (by rw [size, List.length_append, BipBuf.length_committed])
      have lengths : rest.length ≤ (receiver.bb.committed ++ chunk).length := by
        rw [stream, List.length_append]
        exact Nat.le_add_left _ _
      have unfinished : 0 <
          (receiver.lastCursor codec chunk).state.packet.recvPageLeading.dataSize.toNat := by
        omega
      refine .decoded _ fed ⟨restReady, sound, ?_, ?_, pages ++ more, ?_, ?_⟩
      · rw [← BipBuf.length_committed, empty]
        decide
      · rw [lastSize_concat]
        exact short
      · rw [receivePages_append more received, taken, packetsOf_append]
        rfl
      · rw [lastSize_concat]
        refine .skipping rest ?_ skipping present oversize left unfinished empty
          (oversizeBefore_of_block stream small)
        rw [whole, stream, wireBytes_append, List.append_assoc]
  | failed more page rest held errno stream' taken rejected sound consumed negative =>
      have stream := block.symm.trans stream'
      refine .thrown errno _ (pages ++ (more ++ [page])) rest
        (Receiver.feed_thrown ready room takes consumed negative) ?_ ?_ filledReady sound
      · rw [whole, stream, wireBytes_append pages, List.append_assoc]
      · rw [receivePages_append (more ++ [page]) received, rejected]
        rfl

/-- The bytes of an oversize page, once they are complete, are a page that is
passed over. -/
theorem oversize_complete (codec : Codec) (held : Option (List UInt8)) {begun : List UInt8}
    (more : List UInt8) (present : 2 ≤ begun.length)
    (oversize : tcpStreamReadSize < 2 + (PageLeading.ofBytes begun).dataSize.toNat)
    (complete : (begun ++ more).length = 2 + (PageLeading.ofBytes begun).dataSize.toNat) :
    Exists fun big : Page => begun ++ more = big.bytes ∧ ¬ big.Fits tcpStreamReadSize ∧
      receivePage codec tcpStreamReadSize held big = .ok (held, none) := by
  have leading := PageLeading.ofBytes_append_of_le present more
  rcases exists_page_of_length (show 2 + (PageLeading.ofBytes (begun ++ more)).dataSize.toNat ≤
    (begun ++ more).length by rw [leading, complete]) with ⟨big, tail, split, bigLeading, _⟩
  have size : big.data.length = (PageLeading.ofBytes begun).dataSize.toNat := by
    rw [← big.leading_dataSize, bigLeading, leading]
  have nothing : tail = [] := by
    have lengths := congrArg List.length split
    rw [List.length_append, List.length_append, big.length_bytes] at lengths
    rw [List.length_append] at complete
    exact List.length_eq_zero_iff.mp (by omega)
  have large : ¬ big.Fits tcpStreamReadSize := by
    unfold Page.Fits sizeOfFramePageLeading
    omega
  have nonempty : big.data ≠ [] := by
    apply List.length_pos_iff.mp
    unfold tcpStreamReadSize at oversize
    omega
  refine ⟨big, by rw [split, nothing, List.append_nil], large, ?_⟩
  rw [receivePage, if_neg nonempty, if_neg large]

/-- A read in the middle of an oversize page drops what belongs to it. -/
theorem Receiver.feed_skip (codec : Codec) (ready : receiver.bb.Ready)
    (empty : receiver.bb.committed = [])
    (skipping : receiver.state.packet.eRecvPageState = .skip)
    (short : chunk.length ≤ tcpStreamReadSize) :
    Exists fun rest : BipBuf => rest.Ready ∧
      rest.committed = chunk.drop receiver.state.packet.recvPageLeading.dataSize.toNat ∧
      receiver.feed codec chunk = .decoded ⟨rest, (skipResult receiver.state 0 chunk.length).state,
        receiver.events ++ (skipResult receiver.state 0 chunk.length).events⟩ := by
  have nothing : receiver.bb.getCommittedSize = 0 := (BipBuf.committed_eq_nil_iff _).mp empty
  have room : receiver.bb.getCommittedSize < tcpStreamReadSize := by
    rw [nothing]
    decide
  have takes : receiver.Takes chunk := by
    rw [Receiver.Takes, nothing, Nat.zero_add]
    exact short
  rcases ready.filled room takes with ⟨filledReady, bytes⟩
  rw [empty, List.nil_append] at bytes
  have size : (receiver.bb.filled chunk).getCommittedSize = chunk.length := by
    rw [← BipBuf.length_committed, bytes]
  have cursor : receiver.lastCursor codec chunk =
      skipResult receiver.state (receiver.bb.filled chunk).getContiguousBlock chunk.length := by
    rw [lastCursor_eq codec filledReady, size]
    exact (framePageLoop codec _ _).exec_of_halt (turn_skip skipping)
  have consumed : (receiver.lastCursor codec chunk).nconsumed =
      ((min chunk.length receiver.state.packet.recvPageLeading.dataSize.toNat : Nat) : Int) := by
    rw [cursor]
    rfl
  rcases Receiver.feed_decoded ready room takes consumed with ⟨rest, restReady, dropped, fed⟩
  refine ⟨rest, restReady, ?_, ?_⟩
  · rw [dropped, empty, List.nil_append]
    by_cases finished : receiver.state.packet.recvPageLeading.dataSize.toNat ≤ chunk.length
    · rw [Nat.min_eq_right finished]
    · rw [Nat.min_eq_left (by omega), List.drop_length, List.drop_eq_nil_of_le (by omega)]
  · rw [fed, cursor]
    rfl

/-- The object after `count` bytes of an unfinished page, fewer than are left. -/
theorem skipResult_unfinished {state : PacketState} {count : Nat}
    (less : count < state.packet.recvPageLeading.dataSize.toNat) :
    (skipResult state 0 count).state =
      state.setDataSize (state.packet.recvPageLeading.dataSize -
        BitVec.ofInt 14 (count : Int)) := by
  rw [skipResult]
  simp only [Nat.min_eq_left (Nat.le_of_lt less), if_neg (Nat.not_le.mpr less)]

/-- The object after the rest of the page. -/
theorem skipResult_finished {state : PacketState} {count : Nat}
    (finished : state.packet.recvPageLeading.dataSize.toNat ≤ count) :
    (skipResult state 0 count).state =
      (state.setDataSize (state.packet.recvPageLeading.dataSize -
        BitVec.ofInt 14 (state.packet.recvPageLeading.dataSize.toNat : Int))).setPageState
          .receiveLeading := by
  rw [skipResult]
  simp only [Nat.min_eq_right finished, if_pos finished]

/-- A read entered in the middle of an oversize page. -/
theorem Tracks.feed_skipping (tracks : Tracks codec chunks receiver) {pages : List Page}
    {begun : List UInt8}
    (received : receivePages codec tcpStreamReadSize none pages =
      .ok (receiver.state.held, packetsOf receiver.events))
    (stream_eq : chunks.flatten = wireBytes pages ++ begun)
    (skipping : receiver.state.packet.eRecvPageState = .skip)
    (present : 2 ≤ begun.length)
    (oversize : tcpStreamReadSize < 2 + (PageLeading.ofBytes begun).dataSize.toNat)
    (left : receiver.state.packet.recvPageLeading.dataSize.toNat + begun.length =
      2 + (PageLeading.ofBytes begun).dataSize.toNat)
    (unfinished : 0 < receiver.state.packet.recvPageLeading.dataSize.toNat)
    (empty : receiver.bb.committed = [])
    (takes : receiver.Takes chunk) :
    Exists fun next => receiver.feed codec chunk = .decoded next ∧
      Tracks codec (chunks ++ [chunk]) next := by
  have short : chunk.length ≤ tcpStreamReadSize := Nat.le_trans (Nat.le_add_left _ _) takes
  have lastShort : lastSize (chunks ++ [chunk]) ≤ tcpStreamReadSize := by
    rw [lastSize_concat]
    exact short
  have packets : packetsOf (receiver.events ++ (skipResult receiver.state 0 chunk.length).events) =
      packetsOf receiver.events := by
    rw [packetsOf_append]
    exact List.append_nil _
  have whole : (chunks ++ [chunk]).flatten = wireBytes pages ++ (begun ++ chunk) := by
    rw [flatten_concat, stream_eq, List.append_assoc]
  rcases Receiver.feed_skip codec tracks.ready empty skipping short with
    ⟨rest, restReady, dropped, fed⟩
  refine ⟨_, fed, ?_⟩
  by_cases finished : receiver.state.packet.recvPageLeading.dataSize.toNat ≤ chunk.length
  · rcases oversize_complete codec receiver.state.held
      (chunk.take receiver.state.packet.recvPageLeading.dataSize.toNat) present oversize (by
        rw [List.length_append, List.length_take]
        omega) with ⟨big, bigBytes, large, passed⟩
    have restLength : rest.committed.length + receiver.state.packet.recvPageLeading.dataSize.toNat =
        chunk.length := by
      rw [dropped, List.length_drop]
      omega
    rw [skipResult_finished finished]
    refine ⟨restReady, (tracks.sound.setLeading _).setPageState _, ?_, lastShort, pages ++ [big],
      ?_, ?_⟩
    · change rest.getCommittedSize < _
      rw [← BipBuf.length_committed]
      omega
    · rw [receivePages_concat big received, passed, packets]
      simp only [Except.map, Option.toList_none, List.append_nil]
      rfl
    · rw [lastSize_concat]
      refine .leftover pages big rfl ?_ rfl large ?_
      · rw [whole, dropped, wireBytes_append, wireBytes_cons, wireBytes_nil, List.append_nil,
          ← bigBytes, List.append_assoc, List.append_assoc, List.take_append_drop]
      · change rest.committed.length < _
        omega
  · have less : chunk.length < receiver.state.packet.recvPageLeading.dataSize.toNat := by omega
    have remaining := toNat_sub_ofInt (Nat.le_of_lt less)
    have nothing : rest.committed = [] := by
      rw [dropped]
      exact List.drop_eq_nil_of_le (Nat.le_of_lt less)
    have leading := PageLeading.ofBytes_append_of_le present chunk
    rw [skipResult_unfinished less]
    refine ⟨restReady, tracks.sound.setLeading _, ?_, lastShort, pages, ?_, ?_⟩
    · change rest.getCommittedSize < _
      rw [← BipBuf.length_committed, nothing]
      decide
    · rw [received, packets]
      rfl
    · rw [lastSize_concat]
      refine .skipping (begun ++ chunk) whole skipping ?_ ?_ ?_ ?_ nothing ?_
      · rw [List.length_append]
        omega
      · rw [leading]
        exact oversize
      · change (receiver.state.packet.recvPageLeading.dataSize -
          BitVec.ofInt 14 (chunk.length : Int)).toNat + _ = _
        rw [leading, remaining, List.length_append]
        omega
      · change 0 < (receiver.state.packet.recvPageLeading.dataSize -
          BitVec.ofInt 14 (chunk.length : Int)).toNat
        omega
      · intro before other after _ _
        rw [List.length_append]
        omega

/-- One read of a tracked receiver. -/
theorem Tracks.feed (tracks : Tracks codec chunks receiver) (takes : receiver.Takes chunk) :
    ReadResult codec receiver chunks chunk := by
  rcases tracks.standing with ⟨pages, received, standing⟩
  cases standing with
  | stalled stream stalled => exact tracks.feed_atPage received stream stalled.atPage takes
  | leftover before big same stream waiting =>
      exact tracks.feed_atPage received stream (Or.inl waiting) takes
  | skipping begun stream skipping present oversize left unfinished empty =>
      rcases tracks.feed_skipping received stream skipping present oversize left unfinished empty
        takes with ⟨next, fed, nextTracks⟩
      exact .decoded next fed nextTracks

theorem Tracks.feed_refused_iff (tracks : Tracks codec chunks receiver) :
    receiver.feed codec chunk = .refused ↔ ¬ receiver.Takes chunk := by
  constructor
  · intro refused takes
    cases tracks.feed takes with
    | decoded next fed => rw [refused] at fed; cases fed
    | thrown errno next pages rest fed => rw [refused] at fed; cases fed
  · exact Receiver.feed_refused tracks.ready tracks.room

/-- A read that returns keeps the receiver tracked. -/
theorem Tracks.feed_decoded {next : Receiver} (tracks : Tracks codec chunks receiver)
    (fed : receiver.feed codec chunk = .decoded next) :
    Tracks codec (chunks ++ [chunk]) next := by
  by_cases takes : receiver.Takes chunk
  · cases tracks.feed takes with
    | decoded other same nextTracks =>
        rw [fed] at same
        cases same
        exact nextTracks
    | thrown errno other pages rest impossible =>
        rw [fed] at impossible
        cases impossible
  · rw [tracks.feed_refused_iff.mpr takes] at fed
    cases fed

/-- A read that throws leaves a closed buffer and a sound object. -/
theorem Tracks.feed_thrown {errno : Int} {next : Receiver} (tracks : Tracks codec chunks receiver)
    (fed : receiver.feed codec chunk = .thrown errno next) :
    next.bb.Ready ∧ next.state.Sound codec := by
  by_cases takes : receiver.Takes chunk
  · cases tracks.feed takes with
    | decoded other impossible =>
        rw [fed] at impossible
        cases impossible
    | thrown other after pages rest same stream rejected ready sound =>
        rw [fed] at same
        cases same
        exact ⟨ready, sound⟩
  · rw [tracks.feed_refused_iff.mpr takes] at fed
    cases fed

end Read

/-- A sequence of reads that all return. -/
theorem Tracks.feedAll {codec : Codec} {before chunks : List (List UInt8)}
    {receiver last : Receiver} (tracks : Tracks codec before receiver)
    (fed : receiver.feedAll codec chunks = .decoded last) :
    Tracks codec (before ++ chunks) last := by
  induction chunks generalizing before receiver with
  | nil =>
      cases fed
      rw [List.append_nil]
      exact tracks
  | cons chunk chunks inductionHypothesis =>
      rw [Receiver.feedAll] at fed
      cases once : receiver.feed codec chunk with
      | decoded next =>
          rw [once] at fed
          have kept := inductionHypothesis (tracks.feed_decoded once) fed
          rwa [List.append_assoc] at kept
      | thrown errno next => rw [once] at fed; cases fed
      | refused => rw [once] at fed; cases fed

/-- Reads in two parts. -/
theorem feedAll_append {codec : Codec} {receiver middle : Receiver}
    {first second : List (List UInt8)}
    (fed : receiver.feedAll codec first = .decoded middle) :
    receiver.feedAll codec (first ++ second) = middle.feedAll codec second := by
  induction first generalizing receiver with
  | nil =>
      cases fed
      rfl
  | cons chunk chunks inductionHypothesis =>
      rw [List.cons_append, Receiver.feedAll] at *
      cases once : receiver.feed codec chunk with
      | decoded next =>
          rw [once] at fed
          exact inductionHypothesis fed
      | thrown errno next => rw [once] at fed; cases fed
      | refused => rw [once] at fed; cases fed

/-- A receiver that has been fed since it was made. -/
theorem tracks_of_feedAll {codec : Codec} {recvPool sendPool : BufferPool}
    {uninitialised : Memory UInt8} {chunks : List (List UInt8)} {last : Receiver}
    (formed : recvPool.WellFormed codec.recvCapSize)
    (fed : (Receiver.fresh recvPool sendPool uninitialised).feedAll codec chunks = .decoded last) :
    Tracks codec chunks last :=
  (tracks_fresh formed sendPool uninitialised).feedAll fed

/-! ## Streams that decode -/

/-- No page of the stream is an error. -/
def Decodable (codec : Codec) (stream : List UInt8) : Prop :=
  forall pages rest errno, stream = wireBytes pages ++ rest ->
    receivePages codec tcpStreamReadSize none pages ≠ .error errno

theorem decodable_wireBytes {codec : Codec} {pages : List Page}
    {result : Option (List UInt8) × List (List UInt8)}
    (received : receivePages codec tcpStreamReadSize none pages = .ok result) :
    Decodable codec (wireBytes pages) := by
  intro others rest errno same failed
  rw [← List.append_nil (wireBytes pages)] at same
  rcases wireBytes_append_comparable same with ⟨more, rfl, nothing⟩ | ⟨more, rfl, _⟩
  · have empty : more = [] := by
      cases more with
      | nil => rfl
      | cons page more =>
          have lengths := congrArg List.length nothing
          simp only [wireBytes_cons, List.length_append, Page.length_bytes, List.length_nil] at lengths
          omega
    rw [empty, List.append_nil, received] at failed
    cases failed
  · rcases receivePages_ok_left received with ⟨first, ok⟩
    rw [ok] at failed
    cases failed

theorem Decodable.of_append {codec : Codec} {left right : List UInt8}
    (decodable : Decodable codec (left ++ right)) : Decodable codec left := by
  intro pages rest errno same
  exact decodable pages (rest ++ right) errno (by rw [same, List.append_assoc])

/-- A read inside a stream that decodes returns. -/
theorem Tracks.feed_decodes {codec : Codec} {chunks : List (List UInt8)} {receiver : Receiver}
    {chunk : List UInt8} (tracks : Tracks codec chunks receiver)
    (decodable : Decodable codec (chunks ++ [chunk]).flatten) (takes : receiver.Takes chunk) :
    Exists fun next => receiver.feed codec chunk = .decoded next := by
  cases tracks.feed takes with
  | decoded next fed => exact ⟨next, fed⟩
  | thrown errno next pages rest fed stream rejected =>
      exact absurd rejected (decodable pages rest errno stream)

/-- Reads that fit, inside a stream that decodes, all return. -/
theorem Tracks.feedAll_decodes {codec : Codec} {before chunks : List (List UInt8)}
    {receiver : Receiver} (tracks : Tracks codec before receiver)
    (decodable : Decodable codec (before ++ chunks).flatten)
    (fits : receiver.feedAll codec chunks ≠ .refused) :
    Exists fun last => receiver.feedAll codec chunks = .decoded last := by
  induction chunks generalizing before receiver with
  | nil => exact ⟨receiver, rfl⟩
  | cons chunk chunks inductionHypothesis =>
      have split : before ++ chunk :: chunks = before ++ [chunk] ++ chunks := by simp
      rw [split] at decodable
      by_cases takes : receiver.Takes chunk
      · have front : Decodable codec (before ++ [chunk]).flatten := by
          rw [List.flatten_append] at decodable
          exact decodable.of_append
        rcases tracks.feed_decodes front takes with ⟨next, fed⟩
        rw [Receiver.feedAll, fed] at fits ⊢
        exact inductionHypothesis (tracks.feed_decoded fed) decodable fits
      · rw [Receiver.feedAll, tracks.feed_refused_iff.mpr takes] at fits
        exact absurd rfl fits

/-! ## What has been taken from the stream -/

/-- The pages taken and the bytes behind them.  Either those bytes begin with
no complete page, and every oversize page was complete before the last chunk;
or the last page taken is oversize and was completed by the last chunk. -/
structure Taken (codec : Codec) (chunks : List (List UInt8)) (receiver : Receiver)
    (pages : List Page) (rest : List UInt8) : Prop where
  stream : chunks.flatten = wireBytes pages ++ rest
  received : receivePages codec tcpStreamReadSize none pages =
    .ok (receiver.state.held, packetsOf receiver.events)
  behind : (Starved rest ∧ OversizeBefore (lastSize chunks) pages rest) ∨
    (rest = receiver.bb.committed ∧ rest.length < lastSize chunks ∧
      Exists fun before => Exists fun big =>
        pages = before ++ [big] ∧ ¬ big.Fits tcpStreamReadSize)

theorem Tracks.taken {codec : Codec} {chunks : List (List UInt8)} {receiver : Receiver}
    (tracks : Tracks codec chunks receiver) :
    Exists fun pages => Exists fun rest => Taken codec chunks receiver pages rest := by
  rcases tracks.standing with ⟨pages, received, standing⟩
  cases standing with
  | stalled stream stalled earlier =>
      exact ⟨pages, _, stream, received, Or.inl ⟨stalled.starved, earlier⟩⟩
  | leftover before big same stream waiting oversize short =>
      exact ⟨pages, _, stream, received, Or.inr ⟨rfl, short, before, big, same, oversize⟩⟩
  | skipping begun stream skipping present oversize left unfinished empty earlier =>
      refine ⟨pages, begun, stream, received, Or.inl ⟨Or.inr ?_, earlier⟩⟩
      omega

/-- A receiver that has been given whole pages waits for a leading.  The pages
it has not taken are behind an oversize page that the last chunk completed. -/
theorem Tracks.whole_pages {codec : Codec} {chunks : List (List UInt8)} {receiver : Receiver}
    (tracks : Tracks codec chunks receiver) {pages : List Page}
    (stream : chunks.flatten = wireBytes pages) :
    Exists fun taken => Exists fun rest => pages = taken ++ rest ∧
      receiver.bb.committed = wireBytes rest ∧
      receiver.state.packet.eRecvPageState = .receiveLeading ∧
      receivePages codec tcpStreamReadSize none taken =
        .ok (receiver.state.held, packetsOf receiver.events) ∧
      (rest = [] ∨ (wireBytes rest).length < lastSize chunks ∧
        Exists fun big => big ∈ taken ∧ ¬ big.Fits tcpStreamReadSize) := by
  rw [← List.append_nil (wireBytes pages)] at stream
  have split : forall taken rest, wireBytes pages ++ [] = wireBytes taken ++ rest ->
      Exists fun more => pages = taken ++ more ∧ rest = wireBytes more := by
    intro taken rest same
    rcases wireBytes_append_comparable same with ⟨more, rfl, nothing⟩ | ⟨more, rfl, rest_eq⟩
    · have starved : Starved [] := Or.inl (by decide)
      have empty := starved.no_pages nothing
      rw [empty, wireBytes_nil, List.nil_append] at nothing
      exact ⟨[], by rw [empty, List.append_nil, List.append_nil], nothing.symm⟩
    · exact ⟨more, rfl, by rw [rest_eq, List.append_nil]⟩
  rcases tracks.standing with ⟨taken, received, standing⟩
  cases standing with
  | stalled same stalled _ =>
      rcases split taken _ (stream.symm.trans same) with ⟨more, pages_eq, rest_eq⟩
      have starved := stalled.starved
      have empty := starved.no_pages (rest_eq.trans (List.append_nil _).symm)
      rw [empty, List.append_nil] at pages_eq
      rw [empty, wireBytes_nil] at rest_eq
      refine ⟨taken, [], by rw [pages_eq, List.append_nil], rest_eq, ?_, received, Or.inl rfl⟩
      rcases stalled with ⟨waiting, _⟩ | ⟨_, awaits, _⟩
      · exact waiting
      · have present := awaits.present
        rw [rest_eq] at present
        exact absurd present (by decide)
  | leftover before big taken_eq same waiting oversize short =>
      rcases split taken _ (stream.symm.trans same) with ⟨more, pages_eq, rest_eq⟩
      refine ⟨taken, more, pages_eq, rest_eq, waiting, received, Or.inr ⟨?_, big, ?_, oversize⟩⟩
      · rw [← rest_eq]
        exact short
      · rw [taken_eq]
        exact List.mem_append_right _ (List.mem_singleton_self big)
  | skipping begun same _ present _ left unfinished =>
      rcases split taken _ (stream.symm.trans same) with ⟨more, _, rest_eq⟩
      have starved : Starved begun := Or.inr (by omega)
      rw [starved.no_pages (rest_eq.trans (List.append_nil _).symm)] at rest_eq
      rw [rest_eq] at present
      exact absurd present (by decide)

/-- Bytes that arrive one by one always fit. -/
theorem Tracks.feedAll_singletons {codec : Codec} {chunks : List (List UInt8)}
    {receiver : Receiver} (tracks : Tracks codec chunks receiver) (bytes : List UInt8) :
    receiver.feedAll codec (bytes.map fun byte => [byte]) ≠ .refused := by
  induction bytes generalizing chunks receiver with
  | nil => exact fun impossible => by cases impossible
  | cons byte bytes inductionHypothesis =>
      have takes : receiver.Takes [byte] := by
        have room := tracks.room
        exact Nat.succ_le_of_lt room
      rw [List.map_cons, Receiver.feedAll]
      cases once : receiver.feed codec [byte] with
      | decoded next => exact inductionHypothesis (tracks.feed_decoded once)
      | thrown errno next => exact fun impossible => by cases impossible
      | refused => exact absurd takes (tracks.feed_refused_iff.mp once)

end NetSystem
