import NetSystem.Foundation.Transition
import NetSystem.Packet.ChunkIndependence

namespace NetSystem

/-!
# Reading on after an error

`DecodeStream` removes what it has consumed from the buffer only when it
returns; when it throws, the buffer is left as it was.  A connection that keeps
its buffer therefore has in front of it the pages the call had taken before the
bad one.

Positions in the stream make this visible.  A `Reading` counts the bytes that
have been removed from the buffer and records where in the stream the pages
lie whose packets have been delivered.  What has been removed is never
delivered again, whatever state the decoder is in (`later_positions`).
-/

open Receiver

/-! ## The pages delivered in a call -/

/-- Where the pages lie whose `ConsumePacket` called the got-packet callback:
the address and the size of the data, each with the last page handed over
before the callback. -/
def deliveredPages : Option (Nat × Nat) -> List RecvEvent -> List (Nat × Nat)
  | _, [] => []
  | _, .page pointer size :: events => deliveredPages (some (pointer, size)) events
  | last, .gotPacket _ :: events => last.toList ++ deliveredPages last events
  | last, .shrink _ _ :: events => deliveredPages last events
  | last, .memcpy _ _ _ :: events => deliveredPages last events

/-- A page that is delivered has been handed to `ConsumePacket`. -/
theorem mem_deliveredPages {last : Option (Nat × Nat)} {events : List RecvEvent}
    {page : Nat × Nat} (member : page ∈ deliveredPages last events) :
    last = some page ∨ .page page.1 page.2 ∈ events := by
  induction events generalizing last with
  | nil => cases member
  | cons event events inductionHypothesis =>
      cases event with
      | page pointer size =>
          rcases inductionHypothesis member with same | later
          · cases same
            exact Or.inr (List.mem_cons_self ..)
          · exact Or.inr (List.mem_cons_of_mem _ later)
      | gotPacket buffer =>
          rcases List.mem_append.mp member with here | later
          · exact Or.inl (Option.mem_toList.mp here)
          · exact (inductionHypothesis later).imp_right (List.mem_cons_of_mem _)
      | shrink dataSize amount =>
          exact (inductionHypothesis member).imp_right (List.mem_cons_of_mem _)
      | memcpy offset size capSize =>
          exact (inductionHypothesis member).imp_right (List.mem_cons_of_mem _)

theorem deliveredPages_append (last : Option (Nat × Nat)) (before : List RecvEvent)
    (pointer size : Nat) (after : List RecvEvent) :
    deliveredPages last (before ++ .page pointer size :: after) =
      deliveredPages last before ++ deliveredPages (some (pointer, size)) after := by
  induction before generalizing last with
  | nil => rfl
  | cons event before inductionHypothesis =>
      cases event with
      | gotPacket buffer =>
          rw [List.cons_append, deliveredPages, inductionHypothesis, deliveredPages,
            List.append_assoc]
      | page | shrink | memcpy => exact inductionHypothesis _

theorem deliveredPages_append_shrink (last : Option (Nat × Nat)) (before : List RecvEvent)
    (dataSize amount : Int) :
    deliveredPages last (before ++ [.shrink dataSize amount]) = deliveredPages last before := by
  induction before generalizing last with
  | nil => rfl
  | cons event before inductionHypothesis =>
      cases event with
      | gotPacket buffer =>
          rw [List.cons_append, deliveredPages, inductionHypothesis, deliveredPages]
      | page | shrink | memcpy => exact inductionHypothesis _

/-- Behind a page, a packet is delivered with it or not at all. -/
theorem deliveredPages_some_eq_nil (page : Nat × Nat) (events : List RecvEvent) :
    deliveredPages (some page) events = [] ↔ packetsOf events = [] := by
  induction events generalizing page with
  | nil => exact iff_of_true rfl rfl
  | cons event events inductionHypothesis =>
      cases event with
      | gotPacket buffer =>
          constructor
          · intro impossible
            cases impossible
          · intro impossible
            cases impossible
      | page | shrink | memcpy => exact inductionHypothesis _

/-- `ConsumePacket` hands no page on. -/
theorem consumePacket_no_page (codec : Codec) (state : PacketState) (memory : Memory UInt8)
    (pBuf nLen pointer size : Nat) :
    .page pointer size ∉ (consumePacket codec state memory pBuf nLen).events := by
  intro member
  unfold consumePacket at member
  dsimp only at member
  split at member
  · split at member <;> simp at member
  · split at member
    · split at member
      · simp at member
      · split at member <;> simp at member
    · split at member
      · simp at member
      · split at member
        · split at member
          · split at member <;> simp at member
          · simp at member
        · split at member <;> simp at member

/-- The pages a call hands over lie behind a leading in its block, and packets
are delivered with pages only. -/
structure Handed (pBuf : Nat) (cursor : FrameCursor) : Prop where
  ahead : pBuf ≤ cursor.ptr
  pages : forall pointer size, .page pointer size ∈ cursor.events -> pBuf + 2 ≤ pointer
  delivered : deliveredPages none cursor.events = [] ↔ packetsOf cursor.events = []

theorem Handed.shrink {pBuf : Nat} {cursor next : FrameCursor} (handed : Handed pBuf cursor)
    (ahead : cursor.ptr ≤ next.ptr) {dataSize amount : Int}
    (events : next.events = cursor.events ++ [.shrink dataSize amount]) : Handed pBuf next := by
  have same : deliveredPages none next.events = deliveredPages none cursor.events := by
    rw [events]
    exact deliveredPages_append_shrink none cursor.events dataSize amount
  have packets : packetsOf next.events = packetsOf cursor.events := by
    rw [events, packetsOf_append]
    exact List.append_nil _
  refine ⟨Nat.le_trans handed.ahead ahead, ?_, ?_⟩
  · intro pointer size member
    rw [events] at member
    rcases List.mem_append.mp member with before | impossible
    · exact handed.pages pointer size before
    · cases List.mem_singleton.mp impossible
  · rw [same, packets]
    exact handed.delivered

theorem Handed.page {pBuf : Nat} {cursor next : FrameCursor} (handed : Handed pBuf cursor)
    (ahead : cursor.ptr ≤ next.ptr) {pointer size : Nat} {more : List RecvEvent}
    (behind : cursor.ptr + 2 ≤ pointer)
    (none_more : forall pointer size, .page pointer size ∉ more)
    (events : next.events = cursor.events ++ .page pointer size :: more) : Handed pBuf next := by
  have front := handed.ahead
  refine ⟨Nat.le_trans handed.ahead ahead, ?_, ?_⟩
  · intro other otherSize member
    rw [events] at member
    rcases List.mem_append.mp member with before | here
    · exact handed.pages other otherSize before
    · rcases List.mem_cons.mp here with same | impossible
      · cases same
        omega
      · exact absurd impossible (none_more other otherSize)
  · rw [events, deliveredPages_append, packetsOf_append, List.append_eq_nil_iff,
      List.append_eq_nil_iff, handed.delivered, deliveredPages_some_eq_nil]
    exact Iff.rfl

/-- One pass, in whatever state the decoder is. -/
theorem Handed.turn {pBuf : Nat} {cursor : FrameCursor} (handed : Handed pBuf cursor)
    (codec : Codec) (memory : Memory UInt8) (nCapacity : Int) :
    Handed pBuf (framePageTurn codec memory nCapacity cursor).result := by
  unfold framePageTurn
  cases cursor.state.packet.eRecvPageState with
  | receiveLeading =>
      dsimp only
      split
      · exact handed
      · split
        · exact ⟨handed.ahead, handed.pages, handed.delivered⟩
        · split
          · exact ⟨handed.ahead, handed.pages, handed.delivered⟩
          · exact handed.shrink (Nat.le_add_right _ _) rfl
  | receiveBody =>
      dsimp only
      split
      · exact handed
      · split
        · exact handed.page (Nat.le_refl _) (Nat.le_refl _)
            (consumePacket_no_page codec cursor.state memory _ _) rfl
        · exact handed.page (Nat.le_add_right _ _) (Nat.le_refl _)
            (consumePacket_no_page codec cursor.state memory _ _) rfl
  | skip => exact handed.shrink (Nat.le_add_right _ _) rfl

/-- A whole call. -/
theorem consumeFramePage_handed (codec : Codec) (state : PacketState) (memory : Memory UInt8)
    (pBuf : Nat) (nLen nCapacity : Int) :
    Handed pBuf (consumeFramePage codec state memory pBuf nLen nCapacity) := by
  refine (framePageLoop codec memory nCapacity).exec_invariant (Handed pBuf) ?_ _ ?_
  · intro cursor handed
    exact handed.turn codec memory nCapacity
  · refine ⟨Nat.le_refl _, ?_, iff_of_true rfl rfl⟩
    intro pointer size impossible
    cases impossible

/-! ## Positions in the stream -/

/-- A buffer with its decoder; how many bytes have been removed from the buffer
so far, and where in the stream the pages lie whose packets have been
delivered. -/
structure Reading where
  bb : BipBuf
  state : PacketState
  removed : Nat
  delivered : List Nat

namespace Reading

/-- The pages delivered by a call of `DecodeStream`. -/
def pagesNow (codec : Codec) (reading : Reading) : List (Nat × Nat) :=
  deliveredPages none (decodeStream codec reading.state reading.bb).events

/-- The bytes a call of `DecodeStream` removes from the buffer. -/
def removedNow (codec : Codec) (reading : Reading) : Nat :=
  reading.bb.getCommittedSize -
    (decodeStream codec reading.state reading.bb).bb.getCommittedSize

/-- The distance of an address from the front of the buffer. -/
def offset (reading : Reading) (pointer : Nat) : Nat :=
  pointer - reading.bb.getContiguousBlock

/-- A call of `DecodeStream`, whether it returns or throws. -/
def decode (codec : Codec) (reading : Reading) : Reading :=
  let done := decodeStream codec reading.state reading.bb
  { bb := done.bb
    state := done.state
    removed := reading.removed + reading.removedNow codec
    delivered := reading.delivered ++
      (reading.pagesNow codec).map fun page => reading.removed + reading.offset page.1 }

/-- Bytes that are read into the buffer. -/
def receive (reading : Reading) (chunk : List UInt8) : Option Reading :=
  let reservation := reading.bb.reserve
  match reservation.pointer with
  | none => none
  | some _ =>
      if chunk.length ≤ reservation.size then
        some { reading with
          bb := (reservation.bb.writeReserved 0 chunk).commit chunk.length }
      else none

end Reading

/-- What happens to a buffer and its decoder. -/
inductive ReadingOp where
  | receive (chunk : List UInt8)
  | decode

def Reading.perform (codec : Codec) (reading : Reading) : ReadingOp -> Option Reading
  | .receive chunk => reading.receive chunk
  | .decode => some (reading.decode codec)

/-- A run of reads and calls, any of which may throw. -/
abbrev ReadingRun (codec : Codec) : Reading -> List ReadingOp -> Reading -> Prop :=
  Run fun reading op next => reading.perform codec op = some next

theorem decodeStream_events (codec : Codec) (state : PacketState) (bb : BipBuf) :
    (decodeStream codec state bb).events =
      (consumeFramePage codec state bb.buffer bb.getContiguousBlock bb.getCommittedSize
        bb.getCapacity).events := by
  unfold decodeStream
  dsimp only
  split
  · rfl
  · split <;> rfl

/-- A page that is delivered lies behind its leading, in front of which is what
has been removed before. -/
theorem Reading.pagesNow_ahead (codec : Codec) (reading : Reading) {page : Nat × Nat}
    (member : page ∈ reading.pagesNow codec) : 2 ≤ reading.offset page.1 := by
  rw [Reading.pagesNow, decodeStream_events] at member
  rcases mem_deliveredPages member with impossible | handed
  · cases impossible
  · have behind := (consumeFramePage_handed codec reading.state reading.bb.buffer
      reading.bb.getContiguousBlock reading.bb.getCommittedSize reading.bb.getCapacity).pages
      page.1 page.2 handed
    unfold Reading.offset
    omega

/-- What is delivered later lies behind what has been removed. -/
theorem later_positions {codec : Codec} {first last : Reading} {ops : List ReadingOp}
    (run : ReadingRun codec first ops last) :
    Exists fun more => last.delivered = first.delivered ++ more ∧
      forall position, position ∈ more -> first.removed + 2 ≤ position := by
  suffices kept : first.removed ≤ last.removed ∧ Exists fun more =>
      last.delivered = first.delivered ++ more ∧
        forall position, position ∈ more -> first.removed + 2 ≤ position from kept.2
  refine Run.invariant (fun reading => first.removed ≤ reading.removed ∧ Exists fun more =>
    reading.delivered = first.delivered ++ more ∧
      forall position, position ∈ more -> first.removed + 2 ≤ position) ?_ run
    ⟨Nat.le_refl _, [], (List.append_nil _).symm, fun position impossible => by cases impossible⟩
  rintro reading op next ⟨grown, more, delivered, behind⟩ performed
  cases op with
  | receive chunk =>
      change reading.receive chunk = some next at performed
      unfold Reading.receive at performed
      dsimp only at performed
      split at performed
      · cases performed
      · split at performed
        · cases performed
          exact ⟨grown, more, delivered, behind⟩
        · cases performed
  | decode =>
      cases performed
      refine ⟨Nat.le_trans grown (Nat.le_add_right _ _), more ++ (reading.pagesNow codec).map
        fun page => reading.removed + reading.offset page.1, ?_, ?_⟩
      · change reading.delivered ++ _ = _
        rw [delivered, List.append_assoc]
      · intro position member
        rcases List.mem_append.mp member with before | now
        · exact behind position before
        · rcases List.mem_map.mp now with ⟨page, listed, rfl⟩
          have ahead := reading.pagesNow_ahead codec listed
          omega

/-! ## A call that throws -/

/-- What is asked of a call that throws: the pages it has delivered have been
removed from the buffer, and no later call on the buffer delivers one of them
again. -/
structure Reading.Settled (codec : Codec) (reading : Reading) : Prop where
  removed : forall page, page ∈ reading.pagesNow codec ->
    reading.offset page.1 + page.2 ≤ reading.removedNow codec
  once : forall (ops : List ReadingOp) (last : Reading) (more : List Nat),
    ReadingRun codec (reading.decode codec) ops last ->
    last.delivered = (reading.decode codec).delivered ++ more ->
    forall page, page ∈ reading.pagesNow codec ->
      reading.removed + reading.offset page.1 ∉ more

/-- Removing the pages is what keeps them from being delivered again. -/
theorem Reading.settled_of_removed {codec : Codec} {reading : Reading}
    (removed : forall page, page ∈ reading.pagesNow codec ->
      reading.offset page.1 + page.2 ≤ reading.removedNow codec) : reading.Settled codec := by
  refine ⟨removed, ?_⟩
  intro ops last more run delivered page member again
  rcases later_positions run with ⟨others, same, behind⟩
  rw [List.append_cancel_left (delivered.symm.trans same)] at again
  have position := behind _ again
  have front := removed page member
  change reading.removed + reading.removedNow codec + 2 ≤ _ at position
  omega

/-- A call that throws has settled its pages only when it has delivered none. -/
theorem Reading.settled_iff_none {codec : Codec} {reading : Reading} {errno : Int}
    (thrown : (decodeStream codec reading.state reading.bb).result = .error errno) :
    reading.Settled codec ↔ reading.pagesNow codec = [] := by
  have kept : (decodeStream codec reading.state reading.bb).bb = reading.bb := by
    unfold decodeStream at thrown ⊢
    dsimp only at thrown ⊢
    split at thrown
    · cases thrown
    · rename_i negative
      rw [if_neg negative]
      split <;> rfl
  constructor
  · intro settled
    apply List.eq_nil_iff_forall_not_mem.mpr
    intro page member
    have front := settled.removed page member
    have ahead := reading.pagesNow_ahead codec member
    rw [Reading.removedNow, kept, Nat.sub_self] at front
    omega
  · intro nothing
    apply Reading.settled_of_removed
    intro page member
    rw [nothing] at member
    cases member

/-- Two readings of one block as good pages and a first bad one are the same. -/
theorem failed_pages_unique {codec : Codec} {capacity : Nat} {held : Option (List UInt8)}
    {pages other : List Page} {page bad : Page} {rest tail : List UInt8}
    {result result' : Option (List UInt8) × List (List UInt8)} {errno errno' : Int}
    (same : wireBytes (pages ++ [page]) ++ rest = wireBytes (other ++ [bad]) ++ tail)
    (good : receivePages codec capacity held pages = .ok result)
    (rejected : receivePages codec capacity held (pages ++ [page]) = .error errno)
    (good' : receivePages codec capacity held other = .ok result')
    (rejected' : receivePages codec capacity held (other ++ [bad]) = .error errno') :
    pages = other := by
  rcases wireBytes_append_comparable same with ⟨more, split, _⟩ | ⟨more, split, _⟩
  · rcases List.eq_nil_or_concat more with rfl | ⟨init, final, rfl⟩
    · rw [List.append_nil] at split
      exact (List.append_inj_left' split rfl).symm
    · rw [List.concat_eq_append, ← List.append_assoc] at split
      rw [List.append_inj_left' split rfl] at good'
      rcases receivePages_ok_left good' with ⟨_, ok⟩
      rw [rejected] at ok
      cases ok
  · rcases List.eq_nil_or_concat more with rfl | ⟨init, final, rfl⟩
    · rw [List.append_nil] at split
      exact List.append_inj_left' split rfl
    · rw [List.concat_eq_append, ← List.append_assoc] at split
      rw [List.append_inj_left' split rfl] at good
      rcases receivePages_ok_left good with ⟨_, ok⟩
      rw [rejected'] at ok
      cases ok

/-! ## The block as the decoder reads it -/

/-- `ConsumePacket` looks at nothing in front of the data it is given. -/
theorem consumePacket_congr (codec : Codec) (state : PacketState) {memory other : Memory UInt8}
    {pBuf : Nat} (same : forall address, pBuf ≤ address -> memory address = other address)
    (nLen : Nat) :
    consumePacket codec state memory pBuf nLen = consumePacket codec state other pBuf nLen := by
  have data : memory.read pBuf nLen = other.read pBuf nLen :=
    Memory.read_congr fun index _ => same _ (Nat.le_add_right _ _)
  have name : Codec.nameLen memory pBuf = Codec.nameLen other pBuf := by
    rw [Codec.nameLen, Codec.nameLen, same pBuf (Nat.le_refl _)]
  unfold consumePacket
  rw [data, name]

/-- A decoder that waits for a body does not look at the leading again. -/
theorem consumeFramePage_congr (codec : Codec) {state : PacketState} {memory other : Memory UInt8}
    {pBuf : Nat} (same : forall address, pBuf + 2 ≤ address -> memory address = other address)
    (waiting : state.packet.eRecvPageState = .receiveBody) (nLen nCapacity : Int) :
    consumeFramePage codec state memory pBuf nLen nCapacity =
      consumeFramePage codec state other pBuf nLen nCapacity := by
  refine Loop.exec_congr (fun cursor => pBuf ≤ cursor.ptr ∧
    (cursor.state.packet.eRecvPageState = .receiveBody ∨ pBuf + 2 ≤ cursor.ptr)) ?_ ?_ _
    ⟨Nat.le_refl _, Or.inl waiting⟩
  · rintro cursor next ⟨ahead, position⟩ pass
    change framePageTurn codec memory nCapacity cursor = .again next at pass
    unfold framePageTurn at pass
    cases pageState : cursor.state.packet.eRecvPageState with
    | receiveLeading =>
        simp only [pageState] at pass
        split at pass
        · cases pass
        · split at pass
          · cases pass
          · split at pass
            · cases pass
              exact ⟨ahead, Or.inl rfl⟩
            · cases pass
    | receiveBody =>
        simp only [pageState] at pass
        split at pass
        · cases pass
        · split at pass
          · cases pass
          · cases pass
            have further : pBuf + 2 ≤ cursor.ptr +
                ((sizeOfFramePageLeading : Int) +
                  cursor.state.packet.recvPageLeading.dataSize.toNat).toNat := by
              unfold sizeOfFramePageLeading
              omega
            exact ⟨Nat.le_trans (Nat.le_add_right _ 2) further, Or.inr further⟩
    | skip =>
        simp only [pageState] at pass
        cases pass
  · rintro cursor ⟨ahead, position⟩
    change framePageTurn codec memory nCapacity cursor = framePageTurn codec other nCapacity cursor
    unfold framePageTurn
    cases pageState : cursor.state.packet.eRecvPageState with
    | receiveLeading =>
        have behind : pBuf + 2 ≤ cursor.ptr := by
          rcases position with impossible | behind
          · rw [pageState] at impossible
            cases impossible
          · exact behind
        have leading : PageLeading.load memory cursor.ptr = PageLeading.load other cursor.ptr :=
          congrArg PageLeading.ofBytes
            (Memory.read_congr fun index _ => same _ (by omega))
        dsimp only
        rw [leading]
    | receiveBody =>
        have behind : forall address, cursor.ptr + sizeOfFramePageLeading ≤ address ->
            memory address = other address := by
          intro address inside
          unfold sizeOfFramePageLeading at inside
          exact same address (by omega)
        have packet := consumePacket_congr codec cursor.state behind
          cursor.state.packet.recvPageLeading.dataSize.toNat
        dsimp only
        rw [packet]
    | skip => rfl

/-- The committed bytes as the decoder reads them: while it waits for a body,
the leading it has read stands for the first two. -/
def Reading.seen (reading : Reading) : List UInt8 :=
  match reading.state.packet.eRecvPageState with
  | .receiveBody =>
      reading.state.packet.recvPageLeading.bytes ++ reading.bb.committed.drop sizeOfFramePageLeading
  | _ => reading.bb.committed

theorem Reading.committed_le {reading : Reading} (ready : reading.bb.Ready) :
    reading.bb.getCommittedSize ≤ tcpStreamReadSize := by
  have fits := ready.valid.fits
  rw [ready.capacity] at fits
  exact Nat.sub_le_iff_le_add'.mpr fits

theorem Reading.seen_le (reading : Reading) (ready : reading.bb.Ready) :
    reading.seen.length ≤ tcpStreamReadSize := by
  have bounded := Reading.committed_le ready
  unfold Reading.seen
  split
  · rw [List.length_append, PageLeading.length_bytes, List.length_drop, BipBuf.length_committed]
    unfold sizeOfFramePageLeading tcpStreamReadSize at *
    omega
  · rw [BipBuf.length_committed]
    exact bounded

/-- The cursor in which a call of `DecodeStream` ends. -/
def Reading.lastCursor (codec : Codec) (reading : Reading) : FrameCursor :=
  consumeFramePage codec reading.state reading.bb.buffer reading.bb.getContiguousBlock
    reading.bb.getCommittedSize reading.bb.getCapacity

/-- A decoder that is not skipping goes through the pages it sees. -/
theorem Reading.scan {codec : Codec} {reading : Reading} (ready : reading.bb.Ready)
    (sound : reading.state.Sound codec)
    (notSkipping : reading.state.packet.eRecvPageState ≠ .skip)
    {page : Page} {rest : List UInt8} (block : reading.seen = page.bytes ++ rest)
    (nonempty : page.data ≠ []) :
    Exists fun memory => memory.read reading.bb.getContiguousBlock reading.bb.getCommittedSize =
        reading.seen ∧
      FrameResult codec memory tcpStreamReadSize reading.bb.getContiguousBlock
        reading.bb.getCommittedSize reading.state.held (reading.lastCursor codec) := by
  have capacity : reading.bb.getCapacity = tcpStreamReadSize := ready.capacity
  have bounded := Reading.committed_le ready
  rw [Reading.lastCursor, capacity]
  cases pageState : reading.state.packet.eRecvPageState with
  | receiveLeading =>
      have seen : reading.seen = reading.bb.committed := by
        rw [Reading.seen, pageState]
      exact ⟨reading.bb.buffer, seen.symm,
        (consumeFramePage_scan bounded sound (Or.inl pageState)).1⟩
  | receiveBody =>
      have seen : reading.seen = reading.state.packet.recvPageLeading.bytes ++
          reading.bb.committed.drop sizeOfFramePageLeading := by
        rw [Reading.seen, pageState]
      have size : 2 ≤ reading.bb.getCommittedSize := by
        have lengths := congrArg List.length (seen.symm.trans block)
        have data := List.length_pos_iff.mpr nonempty
        rw [List.length_append, PageLeading.length_bytes, List.length_drop,
          BipBuf.length_committed, List.length_append, Page.length_bytes] at lengths
        unfold sizeOfFramePageLeading at lengths
        omega
      have stored : (reading.state.packet.recvPageLeading.store reading.bb.buffer
          reading.bb.getContiguousBlock).read reading.bb.getContiguousBlock
            reading.bb.getCommittedSize = reading.seen := by
        have front := Memory.read_write_self reading.bb.buffer reading.bb.getContiguousBlock
          reading.state.packet.recvPageLeading.bytes
        rw [PageLeading.length_bytes] at front
        have parts := Memory.read_add (reading.state.packet.recvPageLeading.store reading.bb.buffer
          reading.bb.getContiguousBlock) reading.bb.getContiguousBlock 2
          (reading.bb.getCommittedSize - 2)
        rw [Nat.add_sub_cancel' size] at parts
        rw [parts, PageLeading.store, front,
          Memory.read_write_disjoint _ (Or.inr (by rw [PageLeading.length_bytes])), seen,
          BipBuf.committed, Memory.drop_read]
        rfl
      refine ⟨_, stored, ?_⟩
      have behind : forall address, reading.bb.getContiguousBlock + 2 ≤ address ->
          reading.bb.buffer address = reading.state.packet.recvPageLeading.store reading.bb.buffer
            reading.bb.getContiguousBlock address := by
        intro address inside
        exact (Memory.write_of_ge _ _ _ (by rwa [PageLeading.length_bytes])).symm
      rw [consumeFramePage_congr codec behind pageState]
      refine (consumeFramePage_scan bounded sound (Or.inr ⟨pageState, ?_⟩)).1
      have leading : reading.state.packet.recvPageLeading = page.leading := by
        rw [← page.ofBytes_append rest, ← block, seen, PageLeading.ofBytes_append]
      have data : reading.state.packet.recvPageLeading.dataSize.toNat = page.data.length := by
        rw [leading, page.leading_dataSize]
      have length := congrArg List.length (stored.trans block)
      rw [Memory.length_read, List.length_append, page.length_bytes] at length
      rw [stored, block]
      refine ⟨?_, ?_, ?_, ?_⟩
      · rw [page.ofBytes_append, leading]
      · rw [List.length_append, page.length_bytes]
        omega
      · rw [data]
        exact List.length_pos_iff.mpr nonempty
      · rw [data]
        omega
  | skip => exact absurd pageState notSkipping

/-- Where a page is bad, pages that are all good stop in front of a complete
one. -/
theorem complete_page_left {codec : Codec} {capacity : Nat} {held : Option (List UInt8)}
    {pages taken : List Page} {rest left : List UInt8}
    {result : Option (List UInt8) × List (List UInt8)} {errno : Int}
    (same : wireBytes pages ++ rest = wireBytes taken ++ left)
    (failing : receivePages codec capacity held pages = .error errno)
    (received : receivePages codec capacity held taken = .ok result) :
    Exists fun next : Page => Exists fun behind => left = next.bytes ++ behind := by
  rcases wireBytes_append_comparable same with ⟨more, split, _⟩ | ⟨more, split, left_eq⟩
  · rw [split] at received
    rcases receivePages_ok_left received with ⟨_, ok⟩
    rw [failing] at ok
    cases ok
  · cases more with
    | nil =>
        rw [List.append_nil] at split
        rw [split, received] at failing
        cases failing
    | cons next more =>
        refine ⟨next, wireBytes more ++ rest, ?_⟩
        rw [left_eq, wireBytes_cons, List.append_assoc]

/-- A call on good pages and a bad one delivers the packets of the good ones. -/
theorem Reading.failed_at {codec : Codec} {reading : Reading} (ready : reading.bb.Ready)
    (sound : reading.state.Sound codec)
    (notSkipping : reading.state.packet.eRecvPageState ≠ .skip)
    {pages : List Page} {bad : Page} {rest : List UInt8} {held : Option (List UInt8)}
    {packets : List (List UInt8)} {errno : Int} (some_page : pages ≠ [])
    (block : reading.seen = wireBytes (pages ++ [bad]) ++ rest)
    (good : receivePages codec tcpStreamReadSize reading.state.held pages = .ok (held, packets))
    (rejected : receivePage codec tcpStreamReadSize held bad = .error errno) :
    packetsOf (reading.lastCursor codec).events = packets := by
  have failing : receivePages codec tcpStreamReadSize reading.state.held (pages ++ [bad]) =
      .error errno := by
    rw [receivePages_concat bad good, rejected]
    rfl
  have front : Exists fun page : Page => Exists fun tail =>
      reading.seen = page.bytes ++ tail ∧ page.data ≠ [] := by
    cases pages with
    | nil => exact absurd rfl some_page
    | cons page pages =>
        refine ⟨page, wireBytes (pages ++ [bad]) ++ rest, ?_, ?_⟩
        · rw [block, List.cons_append, wireBytes_cons, List.append_assoc]
        · intro empty
          rw [receivePages, receivePage, if_pos empty] at good
          cases good
  rcases front with ⟨page, tail, begins, nonempty⟩
  rcases reading.scan ready sound notSkipping begins nonempty with ⟨memory, seen, result⟩
  have small := reading.seen_le ready
  cases result with
  | hungry taken left scan stalled =>
      rcases complete_page_left (block.symm.trans (seen.symm.trans scan.stream)) failing
        scan.received with ⟨next, behind, left_eq⟩
      have starved := stalled.starved
      rw [left_eq] at starved
      exact absurd starved (not_starved_page next behind)
  | overflow taken left stream received _ _ _ _ oversize =>
      have same := seen.symm.trans stream
      rcases complete_page_left (block.symm.trans same) failing received with
        ⟨next, behind, left_eq⟩
      rw [same, left_eq, List.length_append, List.length_append, next.length_bytes] at small
      rw [left_eq, next.ofBytes_append, next.leading_dataSize] at oversize
      omega
  | failed taken other left mid error stream received failed =>
      have same := failed_pages_unique (block.symm.trans (seen.symm.trans stream)) good failing
        received failed
      rw [← same, good] at received
      cases received
      rfl

/-- A page ends a packet: the pages in front of the bad one deliver something. -/
theorem Reading.pagesNow_eq_nil_iff {codec : Codec} {reading : Reading} :
    reading.pagesNow codec = [] ↔ packetsOf (reading.lastCursor codec).events = [] := by
  rw [Reading.pagesNow, decodeStream_events]
  exact (consumeFramePage_handed codec reading.state reading.bb.buffer
    reading.bb.getContiguousBlock reading.bb.getCommittedSize reading.bb.getCapacity).delivered

/-- A call that is skipping an oversize page does not throw. -/
theorem Reading.not_skipping {codec : Codec} {reading : Reading} {errno : Int}
    (thrown : (decodeStream codec reading.state reading.bb).result = .error errno) :
    reading.state.packet.eRecvPageState ≠ .skip := by
  intro skipping
  have last : reading.lastCursor codec = skipResult reading.state
      reading.bb.getContiguousBlock reading.bb.getCommittedSize :=
    (framePageLoop codec reading.bb.buffer reading.bb.getCapacity).exec_of_halt
      (turn_skip skipping)
  have consumed : 0 ≤ (reading.lastCursor codec).nconsumed := by
    rw [last]
    exact Int.natCast_nonneg _
  have failed : (reading.lastCursor codec).nconsumed < 0 := by
    unfold decodeStream at thrown
    dsimp only at thrown
    split at thrown
    · cases thrown
    · split at thrown
      · cases thrown
      · unfold Reading.lastCursor
        omega
  omega

/-- Whatever state the decoder is in and whatever the buffer holds: when a call
throws at a bad page behind good ones, it has removed the pages it delivered,
so that none of them is delivered again, exactly when none of the good pages
ends a packet, that is, when it has delivered none. -/
theorem Reading.settled_iff {codec : Codec} {reading : Reading} (ready : reading.bb.Ready)
    (sound : reading.state.Sound codec) {pages : List Page} {bad : Page} {rest : List UInt8}
    {held : Option (List UInt8)} {packets : List (List UInt8)} {errno thrownErrno : Int}
    (some_page : pages ≠ [])
    (block : reading.seen = wireBytes (pages ++ [bad]) ++ rest)
    (good : receivePages codec tcpStreamReadSize reading.state.held pages = .ok (held, packets))
    (rejected : receivePage codec tcpStreamReadSize held bad = .error errno)
    (thrown : (decodeStream codec reading.state reading.bb).result = .error thrownErrno) :
    reading.Settled codec ↔ forall page, page ∈ pages -> page.pageEnd = false := by
  have fits : forall page, page ∈ pages -> page.Fits tcpStreamReadSize := by
    intro page member
    exact fits_of_block block (reading.seen_le ready) (List.mem_append_left _ member)
  rw [Reading.settled_iff_none thrown, Reading.pagesNow_eq_nil_iff,
    reading.failed_at ready sound (Reading.not_skipping thrown) some_page block good rejected]
  exact receivePages_delivers fits good

/-- A buffer of a connection that holds the bytes, with a new packet object. -/
def readingOf (bytes : List UInt8) : Reading :=
  ⟨(BipBuf.create tcpStreamReadSize fun _ => 0).filled bytes,
    ⟨.initial fun _ _ => 0, .initial fun _ _ => 0, TcpPacket.initial⟩, 0, []⟩

theorem readingOf_ready (bytes : List UInt8) (fits : bytes.length ≤ tcpStreamReadSize) :
    (readingOf bytes).bb.Ready ∧ (readingOf bytes).bb.committed = bytes :=
  (BipBuf.create_ready fun _ => 0).filled (by decide) (by rwa [show
    (BipBuf.create tcpStreamReadSize fun _ => 0).getCommittedSize = 0 from rfl, Nat.zero_add])

/-- The first page of a longer packet, and a page without data. -/
def openingPage : Page := ⟨true, false, [1, 7], by decide⟩

def emptyPage : Page := ⟨false, false, [], by decide⟩

theorem settled_iff_opening :
    (readingOf (wireBytes ([openingPage] ++ [emptyPage]))).Settled outerCodec := by
  rcases readingOf_ready (wireBytes ([openingPage] ++ [emptyPage])) (by decide) with
    ⟨ready, committed⟩
  have sound : (readingOf (wireBytes ([openingPage] ++ [emptyPage]))).state.Sound outerCodec := by
    refine ⟨show (BufferPool.initial fun _ _ => 0).WellFormed _ from
      BufferPool.initial_wellFormed _ _, ?_⟩
    intro entry impossible
    cases impossible
  have good : receivePages outerCodec tcpStreamReadSize none [openingPage] =
      .ok (some [1, 7], []) := rfl
  have rejected : receivePage outerCodec tcpStreamReadSize (some [1, 7]) emptyPage =
      .error (-99) := rfl
  have thrown : (decodeStream outerCodec
      (readingOf (wireBytes ([openingPage] ++ [emptyPage]))).state
      (readingOf (wireBytes ([openingPage] ++ [emptyPage]))).bb).result = .error (-99) := rfl
  refine (Reading.settled_iff ready sound (List.cons_ne_nil _ _)
    (committed.trans (List.append_nil _).symm) good rejected thrown).mpr ?_
  intro page member
  rw [List.mem_singleton.mp member]
  rfl

/-- A packet and behind it an empty page: the call throws, and the next one
delivers the packet again. -/
theorem packet_delivered_again :
    (decodeStream outerCodec (readingOf [15, 0, 1, 0, 65, 0, 0]).state
      (readingOf [15, 0, 1, 0, 65, 0, 0]).bb).result = .error (-99) ∧
    (((readingOf [15, 0, 1, 0, 65, 0, 0]).decode outerCodec).decode outerCodec).delivered =
      [2, 2] ∧
    ¬ (readingOf [15, 0, 1, 0, 65, 0, 0]).Settled outerCodec := by
  have thrown : (decodeStream outerCodec (readingOf [15, 0, 1, 0, 65, 0, 0]).state
      (readingOf [15, 0, 1, 0, 65, 0, 0]).bb).result = .error (-99) := rfl
  have delivered : (readingOf [15, 0, 1, 0, 65, 0, 0]).pagesNow outerCodec = [(2, 3)] := rfl
  refine ⟨thrown, rfl, ?_⟩
  rw [Reading.settled_iff_none thrown, delivered]
  exact List.cons_ne_nil _ _

end NetSystem
