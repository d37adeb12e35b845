import NetSystem.Packet.Decode
import NetSystem.Packet.Pages

namespace NetSystem

/-!
# One call of the decoder

`ConsumePacket` does to the bytes under construction what `assemble` says,
whatever the pool it takes its buffers from; and `ConsumeFramePage` takes as
many complete pages from the front of the committed bytes as there are, stops
where bytes are missing, and leaves the rest.  The same argument bounds every
access to memory: the loop invariant keeps the cursor at the end of the
consumed pages and the remaining count at the committed bytes behind it.

An oversize page is the exception to "as many as there are".  Its skipping
ends the call, once when it starts and once when it finishes, and what is
behind it stays in the buffer.
-/

open Receiver

@[simp] theorem packetsOf_append (left right : List RecvEvent) :
    packetsOf (left ++ right) = packetsOf left ++ packetsOf right :=
  List.filterMap_append

/-- The reported accesses that respect their bounds, for a call that was given
the `nLen` bytes at `pBuf`. -/
def RecvEvent.Safe (codec : Codec) (pBuf nLen : Nat) : RecvEvent -> Prop
  | .page pointer size => pBuf ≤ pointer ∧ pointer + size ≤ pBuf + nLen
  | .shrink dataSize amount => 0 ≤ amount ∧ amount ≤ dataSize
  | .memcpy offset size capSize => offset + size ≤ capSize
  | .gotPacket buffer => codec.Accepts buffer

namespace PacketState

/-- The packet under construction. -/
def held (state : PacketState) : Option (List UInt8) :=
  state.packet.refRecvBuf.map fun entry => (state.recvPool.entries entry).contents

/-- The object's receive buffer belongs to it and not to the free list. -/
structure Sound (codec : Codec) (state : PacketState) : Prop where
  pool : state.recvPool.WellFormed codec.recvCapSize
  owned : forall entry, state.packet.refRecvBuf = some entry ->
    entry < state.recvPool.allocated ∧ entry ∉ state.recvPool.freeList

theorem held_setPageState (state : PacketState) (pageState : FramePageState) :
    (state.setPageState pageState).held = state.held := rfl

theorem Sound.setLeading {codec : Codec} {state : PacketState} (sound : state.Sound codec)
    (leading : PageLeading) : (state.setLeading leading).Sound codec :=
  ⟨sound.pool, sound.owned⟩

theorem Sound.setPageState {codec : Codec} {state : PacketState} (sound : state.Sound codec)
    (pageState : FramePageState) : (state.setPageState pageState).Sound codec :=
  ⟨sound.pool, sound.owned⟩

/-- A buffer the object owns has the class's capacity. -/
theorem Sound.capSize {codec : Codec} {state : PacketState} (sound : state.Sound codec)
    {entry : Nat} (holds : state.packet.refRecvBuf = some entry) :
    (state.recvPool.entries entry).capSize = codec.recvCapSize :=
  sound.pool.sized entry (sound.owned entry holds).1

theorem held_of_some {state : PacketState} {entry : Nat}
    (holds : state.packet.refRecvBuf = some entry) :
    state.held = some (state.recvPool.entries entry).contents := by
  rw [held, holds]
  rfl

/-- Extending the owned buffer. -/
theorem Sound.store {codec : Codec} {state : PacketState} (sound : state.Sound codec)
    {entry : Nat} (holds : state.packet.refRecvBuf = some entry) (bytes : List UInt8) :
    (state.setRecvBuf (state.recvPool.set entry ((state.recvPool.entries entry).append bytes))
      (some entry)).Sound codec := by
  refine ⟨BufferPool.set_wellFormed sound.pool (sound.capSize holds), ?_⟩
  intro other same
  cases same
  exact sound.owned entry holds

/-- Giving the owned buffer back. -/
theorem Sound.free {codec : Codec} {state : PacketState} (sound : state.Sound codec)
    {entry : Nat} (holds : state.packet.refRecvBuf = some entry) :
    (state.freeRecvBuf entry).Sound codec := by
  rcases sound.owned entry holds with ⟨below, absent⟩
  refine ⟨BufferPool.packetBufferFree_wellFormed sound.pool below absent, ?_⟩
  intro other impossible
  cases impossible

/-- After `Clear` the object is as it was constructed. -/
theorem clear_waiting (state : PacketState) :
    state.clear.packet.eRecvPageState = .receiveLeading ∧ state.clear.packet.refRecvBuf = none := by
  cases receives : state.packet.refRecvBuf <;> cases sends : state.packet.refSendBuf <;>
    simp [clear, setPageState, freeRecvBuf, setRecvBuf, receives, sends]

theorem Sound.clear {codec : Codec} {state : PacketState} (sound : state.Sound codec) :
    state.clear.Sound codec := by
  refine ⟨?_, ?_⟩
  · cases receives : state.packet.refRecvBuf with
    | none =>
        have same : state.clear.recvPool = state.recvPool := by
          cases sends : state.packet.refSendBuf <;>
            simp [PacketState.clear, PacketState.setPageState, receives, sends]
        rw [same]
        exact sound.pool
    | some entry =>
        have same : state.clear.recvPool = (state.freeRecvBuf entry).recvPool := by
          cases sends : state.packet.refSendBuf <;>
            simp [PacketState.clear, PacketState.setPageState, freeRecvBuf, setRecvBuf, receives,
              sends]
        rw [same]
        exact (sound.free receives).pool
  · intro entry impossible
    rw [state.clear_waiting.2] at impossible
    cases impossible

end PacketState

/-! ## `ConsumePacket` -/

/-- The name length is the first byte of a block that is not empty. -/
theorem nameLen_eq (memory : Memory UInt8) (start : Nat) {count : Nat} (positive : 0 < count) :
    Codec.nameLen memory start = ((memory.read start count)[0]?.getD 0).toNat := by
  rw [Memory.getElem?_read, if_pos positive]
  rfl

/-- What a call of `ConsumePacket` does, in terms of the page it is given. -/
structure ConsumesPage (codec : Codec) (state : PacketState) (page : Page)
    (done : Consumed) : Prop where
  sound : done.state.Sound codec
  pageState : done.state.packet.eRecvPageState = state.packet.eRecvPageState
  leading : done.state.packet.recvPageLeading = state.packet.recvPageLeading
  failed : forall errno, assemble codec state.held page = .error errno ->
    done.rc = errno ∧ packetsOf done.events = []
  returned : forall next got, assemble codec state.held page = .ok (next, got) ->
    done.rc = 0 ∧ done.state.held = next ∧ packetsOf done.events = got.toList
  safe : forall event, event ∈ done.events -> forall pBuf nLen, event.Safe codec pBuf nLen

private theorem consumesPage_error {codec : Codec} {state : PacketState} {page : Page}
    {done : Consumed} {errno : Int} (sound : done.state.Sound codec)
    (pageState : done.state.packet.eRecvPageState = state.packet.eRecvPageState)
    (leading : done.state.packet.recvPageLeading = state.packet.recvPageLeading)
    (assembled : assemble codec state.held page = .error errno)
    (rc : done.rc = errno) (silent : packetsOf done.events = [])
    (safe : forall event, event ∈ done.events -> forall pBuf nLen, event.Safe codec pBuf nLen) :
    ConsumesPage codec state page done := by
  refine ⟨sound, pageState, leading, ?_, ?_, safe⟩
  · intro other same
    rw [assembled] at same
    cases same
    exact ⟨rc, silent⟩
  · intro next got impossible
    rw [assembled] at impossible
    cases impossible

private theorem consumesPage_ok {codec : Codec} {state : PacketState} {page : Page}
    {done : Consumed} {next got : Option (List UInt8)} (sound : done.state.Sound codec)
    (pageState : done.state.packet.eRecvPageState = state.packet.eRecvPageState)
    (leading : done.state.packet.recvPageLeading = state.packet.recvPageLeading)
    (assembled : assemble codec state.held page = .ok (next, got))
    (rc : done.rc = 0) (holds : done.state.held = next)
    (packets : packetsOf done.events = got.toList)
    (safe : forall event, event ∈ done.events -> forall pBuf nLen, event.Safe codec pBuf nLen) :
    ConsumesPage codec state page done := by
  refine ⟨sound, pageState, leading, ?_, ?_, safe⟩
  · intro errno impossible
    rw [assembled] at impossible
    cases impossible
  · intro other others same
    rw [assembled] at same
    cases same
    exact ⟨rc, holds, packets⟩

/-- A page with both flags: a packet of its own, checked and handed on. -/
private theorem consumePacket_single {codec : Codec} {state : PacketState} {memory : Memory UInt8}
    {pBuf : Nat} {page : Page} (sound : state.Sound codec)
    (starts : state.packet.recvPageLeading.pageStart = page.pageStart)
    (ends : state.packet.recvPageLeading.pageEnd = page.pageEnd)
    (bytes : memory.read pBuf page.data.length = page.data) (nonempty : page.data ≠ [])
    (isFirst : page.pageStart = true) (isLast : page.pageEnd = true) :
    ConsumesPage codec state page (consumePacket codec state memory pBuf page.data.length) := by
  have positive : 0 < page.data.length := List.length_pos_iff.mpr nonempty
  have name := nameLen_eq memory pBuf positive
  rw [bytes] at name
  have both : state.packet.recvPageLeading.pageStart = true ∧
      state.packet.recvPageLeading.pageEnd = true := ⟨starts.trans isFirst, ends.trans isLast⟩
  by_cases accepted : codec.Accepts page.data
  · have assembled : assemble codec state.held page = .ok (state.held, some page.data) := by
      simp only [assemble, isFirst, isLast, and_self, if_true, if_pos accepted]
    have result : consumePacket codec state memory pBuf page.data.length =
        ⟨0, state, [.gotPacket page.data]⟩ := by
      simp only [consumePacket, if_pos both, bytes, name]
      exact if_pos accepted
    rw [result]
    refine consumesPage_ok sound rfl rfl assembled rfl rfl rfl ?_
    intro event member _ _
    rw [List.mem_singleton.mp member]
    exact accepted
  · have assembled : assemble codec state.held page = .error (-1) := by
      simp only [assemble, isFirst, isLast, and_self, if_true, if_neg accepted]
    have result : consumePacket codec state memory pBuf page.data.length = ⟨-1, state, []⟩ := by
      simp only [consumePacket, if_pos both, name]
      exact if_neg accepted
    rw [result]
    refine consumesPage_error sound rfl rfl assembled rfl rfl ?_
    intro event impossible
    cases impossible

/-- A first page: a buffer is taken from the pool and the page becomes the
packet under construction, whatever was there before. -/
private theorem consumePacket_first {codec : Codec} {state : PacketState} {memory : Memory UInt8}
    {pBuf : Nat} {page : Page} (sound : state.Sound codec)
    (starts : state.packet.recvPageLeading.pageStart = page.pageStart)
    (ends : state.packet.recvPageLeading.pageEnd = page.pageEnd)
    (bytes : memory.read pBuf page.data.length = page.data)
    (isFirst : page.pageStart = true) (notLast : page.pageEnd = false) :
    ConsumesPage codec state page (consumePacket codec state memory pBuf page.data.length) := by
  rcases BufferPool.packetBufferAlloc_spec sound.pool codec.recvNumHint_pos with
    ⟨entry, taken, alloc, allocates⟩
  have notBoth : ¬ (state.packet.recvPageLeading.pageStart = true ∧
      state.packet.recvPageLeading.pageEnd = true) := by
    rw [ends, notLast]
    exact fun both => Bool.false_ne_true both.2
  have first : state.packet.recvPageLeading.pageStart = true := starts.trans isFirst
  have capacity : (taken.entries entry).capSize = codec.recvCapSize :=
    allocates.formed.sized entry allocates.below
  have empty : (taken.entries entry).size = 0 := by
    rw [← PacketBuffer.length_contents, allocates.empty]
    rfl
  by_cases room : page.data.length ≤ codec.recvCapSize
  · have assembled : assemble codec state.held page = .ok (some page.data, none) := by
      simp only [assemble, isFirst, notLast, Bool.false_eq_true, and_false, if_false, if_true,
        if_pos room]
    have fits : (taken.entries entry).size + page.data.length ≤ (taken.entries entry).capSize := by
      rw [empty, capacity]
      omega
    have result : consumePacket codec state memory pBuf page.data.length =
        ⟨0, state.setRecvBuf (taken.set entry ((taken.entries entry).append page.data)) (some entry),
          [.memcpy (taken.entries entry).size page.data.length (taken.entries entry).capSize]⟩ := by
      simp only [consumePacket, if_neg notBoth, if_pos first, alloc, if_pos fits, bytes]
    rw [result]
    refine consumesPage_ok ⟨BufferPool.set_wellFormed allocates.formed capacity, ?_⟩ rfl rfl
      assembled rfl ?_ rfl ?_
    · intro other same
      cases same
      exact ⟨allocates.below, allocates.fresh⟩
    · rw [PacketState.held_of_some rfl]
      simp only [PacketState.setRecvBuf, BufferPool.set_entries_self,
        PacketBuffer.contents_append, allocates.empty, List.nil_append]
    · intro event member _ _
      rw [List.mem_singleton.mp member]
      exact fits
  · have assembled : assemble codec state.held page = .error (-2) := by
      simp only [assemble, isFirst, notLast, Bool.false_eq_true, and_false, if_false, if_true,
        if_neg room]
    have fits : ¬ (taken.entries entry).size + page.data.length ≤ (taken.entries entry).capSize := by
      rw [empty, capacity]
      omega
    have result : consumePacket codec state memory pBuf page.data.length =
        ⟨-2, state.setRecvBuf (taken.packetBufferFree entry) none, []⟩ := by
      simp only [consumePacket, if_neg notBoth, if_pos first, alloc, if_neg fits]
    rw [result]
    refine consumesPage_error ⟨BufferPool.packetBufferFree_wellFormed allocates.formed
      allocates.below allocates.fresh, ?_⟩ rfl rfl assembled rfl rfl ?_
    · intro other impossible
      cases impossible
    · intro event impossible
      cases impossible

/-- A continuation without a packet under construction. -/
private theorem consumePacket_orphan {codec : Codec} {state : PacketState} {memory : Memory UInt8}
    {pBuf : Nat} {page : Page} (sound : state.Sound codec)
    (starts : state.packet.recvPageLeading.pageStart = page.pageStart)
    (notFirst : page.pageStart = false) (holds : state.packet.refRecvBuf = none) :
    ConsumesPage codec state page (consumePacket codec state memory pBuf page.data.length) := by
  have first : state.packet.recvPageLeading.pageStart = false := starts.trans notFirst
  have nothing : state.held = none := by
    rw [PacketState.held, holds]
    rfl
  have assembled : assemble codec state.held page = .error (-6) := by
    simp only [assemble, notFirst, nothing, Bool.false_eq_true, false_and, if_false]
  have result : consumePacket codec state memory pBuf page.data.length = ⟨-6, state, []⟩ := by
    simp only [consumePacket, first, holds, Bool.false_eq_true, false_and, if_false]
  rw [result]
  refine consumesPage_error sound rfl rfl assembled rfl rfl ?_
  intro event impossible
  cases impossible

/-- The room left in the buffer of the packet under construction. -/
theorem PacketState.Sound.fits_iff {codec : Codec} {state : PacketState}
    (sound : state.Sound codec) {entry : Nat} (holds : state.packet.refRecvBuf = some entry)
    (count : Nat) :
    (state.recvPool.entries entry).size + count ≤ (state.recvPool.entries entry).capSize ↔
      (state.recvPool.entries entry).contents.length + count ≤ codec.recvCapSize := by
  rw [sound.capSize holds, (state.recvPool.entries entry).length_contents]

/-- The check of a completed packet looks at its contents only. -/
private theorem accepts_append (codec : Codec) (buffer : PacketBuffer) {bytes : List UInt8}
    (nonempty : bytes ≠ []) :
    (0 < Codec.nameLen (buffer.append bytes).data 0 ∧
      codec.leadingSize + Codec.nameLen (buffer.append bytes).data 0 ≤ (buffer.append bytes).size) ↔
      codec.Accepts (buffer.contents ++ bytes) := by
  have positive : 0 < (buffer.append bytes).size :=
    Nat.lt_of_lt_of_le (List.length_pos_iff.mpr nonempty) (Nat.le_add_left _ _)
  have name : Codec.nameLen (buffer.append bytes).data 0 =
      ((buffer.contents ++ bytes)[0]?.getD 0).toNat := by
    rw [nameLen_eq _ 0 positive, ← buffer.contents_append]
    rfl
  have length : (buffer.append bytes).size = (buffer.contents ++ bytes).length := by
    rw [← buffer.contents_append, PacketBuffer.length_contents]
  rw [name, length]
  exact Iff.rfl

/-- The last page completes the packet under construction, which is checked and
handed on; the buffer goes back to the pool in any case. -/
private theorem consumePacket_last {codec : Codec} {state : PacketState} {memory : Memory UInt8}
    {pBuf : Nat} {page : Page} {entry : Nat} (sound : state.Sound codec)
    (starts : state.packet.recvPageLeading.pageStart = page.pageStart)
    (ends : state.packet.recvPageLeading.pageEnd = page.pageEnd)
    (bytes : memory.read pBuf page.data.length = page.data) (nonempty : page.data ≠ [])
    (notFirst : page.pageStart = false) (isLast : page.pageEnd = true)
    (holds : state.packet.refRecvBuf = some entry) :
    ConsumesPage codec state page (consumePacket codec state memory pBuf page.data.length) := by
  have first : state.packet.recvPageLeading.pageStart = false := starts.trans notFirst
  have last : state.packet.recvPageLeading.pageEnd = true := ends.trans isLast
  have present := PacketState.held_of_some holds
  have fitsIff := sound.fits_iff holds page.data.length
  have checked := accepts_append codec (state.recvPool.entries entry) nonempty
  have freed := (sound.store holds page.data).free rfl
  by_cases room : (state.recvPool.entries entry).contents.length + page.data.length ≤
      codec.recvCapSize
  · by_cases accepted : codec.Accepts ((state.recvPool.entries entry).contents ++ page.data)
    · have assembled : assemble codec state.held page =
          .ok (none, some ((state.recvPool.entries entry).contents ++ page.data)) := by
        simp only [assemble, notFirst, isLast, present, Bool.false_eq_true, false_and,
          if_false, if_true, if_pos room, if_pos accepted]
      have result : consumePacket codec state memory pBuf page.data.length =
          ⟨0, (state.setRecvBuf (state.recvPool.set entry
              ((state.recvPool.entries entry).append page.data)) (some entry)).freeRecvBuf entry,
            [.memcpy (state.recvPool.entries entry).size page.data.length
                (state.recvPool.entries entry).capSize,
              .gotPacket ((state.recvPool.entries entry).contents ++ page.data)]⟩ := by
        simp only [consumePacket, first, last, holds, Bool.false_eq_true, false_and, if_false,
          if_true, if_pos (fitsIff.mpr room), bytes, if_pos (checked.mpr accepted),
          PacketBuffer.contents_append]
      rw [result]
      refine consumesPage_ok freed rfl rfl assembled rfl rfl rfl ?_
      intro event member _ _
      rcases List.mem_cons.mp member with copy | later
      · rw [copy]
        exact fitsIff.mpr room
      · rw [List.mem_singleton.mp later]
        exact accepted
    · have assembled : assemble codec state.held page = .error (-3) := by
        simp only [assemble, notFirst, isLast, present, Bool.false_eq_true, false_and,
          if_false, if_true, if_pos room, if_neg accepted]
      have result : consumePacket codec state memory pBuf page.data.length =
          ⟨-3, (state.setRecvBuf (state.recvPool.set entry
              ((state.recvPool.entries entry).append page.data)) (some entry)).freeRecvBuf entry,
            [.memcpy (state.recvPool.entries entry).size page.data.length
                (state.recvPool.entries entry).capSize]⟩ := by
        simp only [consumePacket, first, last, holds, Bool.false_eq_true, false_and, if_false,
          if_true, if_pos (fitsIff.mpr room), bytes, if_neg (fun passed => accepted (checked.mp passed))]
      rw [result]
      refine consumesPage_error freed rfl rfl assembled rfl rfl ?_
      intro event member _ _
      rw [List.mem_singleton.mp member]
      exact fitsIff.mpr room
  · have assembled : assemble codec state.held page = .error (-4) := by
      simp only [assemble, notFirst, isLast, present, Bool.false_eq_true, false_and,
        if_false, if_true, if_neg room]
    have result : consumePacket codec state memory pBuf page.data.length =
        ⟨-4, state.freeRecvBuf entry, []⟩ := by
      simp only [consumePacket, first, last, holds, Bool.false_eq_true, false_and, if_false,
        if_true, if_neg (fun fits => room (fitsIff.mp fits))]
    rw [result]
    refine consumesPage_error (sound.free holds) rfl rfl assembled rfl rfl ?_
    intro event impossible
    cases impossible

/-- A middle page is appended to the packet under construction. -/
private theorem consumePacket_middle {codec : Codec} {state : PacketState} {memory : Memory UInt8}
    {pBuf : Nat} {page : Page} {entry : Nat} (sound : state.Sound codec)
    (starts : state.packet.recvPageLeading.pageStart = page.pageStart)
    (ends : state.packet.recvPageLeading.pageEnd = page.pageEnd)
    (bytes : memory.read pBuf page.data.length = page.data)
    (notFirst : page.pageStart = false) (notLast : page.pageEnd = false)
    (holds : state.packet.refRecvBuf = some entry) :
    ConsumesPage codec state page (consumePacket codec state memory pBuf page.data.length) := by
  have first : state.packet.recvPageLeading.pageStart = false := starts.trans notFirst
  have last : state.packet.recvPageLeading.pageEnd = false := ends.trans notLast
  have present := PacketState.held_of_some holds
  have fitsIff := sound.fits_iff holds page.data.length
  by_cases room : (state.recvPool.entries entry).contents.length + page.data.length ≤
      codec.recvCapSize
  · have assembled : assemble codec state.held page =
        .ok (some ((state.recvPool.entries entry).contents ++ page.data), none) := by
      simp only [assemble, notFirst, notLast, present, Bool.false_eq_true, false_and, if_false,
        if_pos room]
    have result : consumePacket codec state memory pBuf page.data.length =
        ⟨0, state.setRecvBuf (state.recvPool.set entry
            ((state.recvPool.entries entry).append page.data)) (some entry),
          [.memcpy (state.recvPool.entries entry).size page.data.length
              (state.recvPool.entries entry).capSize]⟩ := by
      simp only [consumePacket, first, last, holds, Bool.false_eq_true, false_and, if_false,
        if_pos (fitsIff.mpr room), bytes]
    rw [result]
    refine consumesPage_ok (sound.store holds page.data) rfl rfl assembled rfl ?_ rfl ?_
    · rw [PacketState.held_of_some rfl]
      simp only [PacketState.setRecvBuf, BufferPool.set_entries_self,
        PacketBuffer.contents_append]
    · intro event member _ _
      rw [List.mem_singleton.mp member]
      exact fitsIff.mpr room
  · have assembled : assemble codec state.held page = .error (-5) := by
      simp only [assemble, notFirst, notLast, present, Bool.false_eq_true, false_and, if_false,
        if_neg room]
    have result : consumePacket codec state memory pBuf page.data.length =
        ⟨-5, state.freeRecvBuf entry, []⟩ := by
      simp only [consumePacket, first, last, holds, Bool.false_eq_true, false_and, if_false,
        if_neg (fun fits => room (fitsIff.mp fits))]
    rw [result]
    refine consumesPage_error (sound.free holds) rfl rfl assembled rfl rfl ?_
    intro event impossible
    cases impossible

/-- `ConsumePacket` is `assemble` on the packet under construction. -/
theorem consumePacket_spec {codec : Codec} {state : PacketState} {memory : Memory UInt8}
    {pBuf : Nat} {page : Page} (sound : state.Sound codec)
    (leading : state.packet.recvPageLeading = page.leading)
    (bytes : memory.read pBuf page.data.length = page.data) (nonempty : page.data ≠ []) :
    ConsumesPage codec state page (consumePacket codec state memory pBuf page.data.length) := by
  have starts : state.packet.recvPageLeading.pageStart = page.pageStart := by rw [leading]; rfl
  have ends : state.packet.recvPageLeading.pageEnd = page.pageEnd := by rw [leading]; rfl
  cases isFirst : page.pageStart with
  | false =>
      cases holds : state.packet.refRecvBuf with
      | none => exact consumePacket_orphan sound starts isFirst holds
      | some entry =>
          cases isLast : page.pageEnd with
          | false => exact consumePacket_middle sound starts ends bytes isFirst isLast holds
          | true => exact consumePacket_last sound starts ends bytes nonempty isFirst isLast holds
  | true =>
      cases isLast : page.pageEnd with
      | false => exact consumePacket_first sound starts ends bytes isFirst isLast
      | true => exact consumePacket_single sound starts ends bytes nonempty isFirst isLast

end NetSystem
