import NetSystem.Packet.PageDecoding

namespace NetSystem

/-!
# The page loop on the committed bytes

`PageScan` is the invariant of the loop of `ConsumeFramePage`: the bytes it was
given are the pages consumed so far followed by the rest the cursor points at,
and the decoder holds what those pages leave under construction.
`FrameResult` lists the ways the loop stops.  Both are about the block of
`nLen` bytes at `pBuf`, for a buffer of the given capacity.
-/

open Receiver

/-- A subtraction from the page size that does not go below zero. -/
theorem toNat_sub_ofInt {dataSize : BitVec 14} {amount : Nat} (bounded : amount ≤ dataSize.toNat) :
    (dataSize - BitVec.ofInt 14 (amount : Int)).toNat = dataSize.toNat - amount := by
  have limit := dataSize.isLt
  have same : (BitVec.ofInt 14 (amount : Int)).toNat = amount := by
    rw [BitVec.ofInt_natCast, BitVec.toNat_ofNat, Nat.mod_eq_of_lt (by omega)]
  rw [BitVec.toNat_sub_of_le (by rw [BitVec.le_def, same]; exact bounded), same]

/-- The page whose leading has been read is announced and fits the buffer. -/
structure AwaitsBody (capacity : Nat) (leading : PageLeading) (rest : List UInt8) : Prop where
  leading_eq : leading = PageLeading.ofBytes rest
  present : 2 ≤ rest.length
  nonempty : 0 < leading.dataSize.toNat
  fits : 2 + leading.dataSize.toNat ≤ capacity

/-- Where the loop stands on the bytes it has not consumed. -/
def AtPage (capacity : Nat) (packet : TcpPacket) (rest : List UInt8) : Prop :=
  packet.eRecvPageState = .receiveLeading ∨
    (packet.eRecvPageState = .receiveBody ∧ AwaitsBody capacity packet.recvPageLeading rest)

/-- Where the loop stops for want of bytes. -/
def Stalled (capacity : Nat) (packet : TcpPacket) (rest : List UInt8) : Prop :=
  (packet.eRecvPageState = .receiveLeading ∧ rest.length < 2) ∨
    (packet.eRecvPageState = .receiveBody ∧ AwaitsBody capacity packet.recvPageLeading rest ∧
      rest.length < 2 + packet.recvPageLeading.dataSize.toNat)

theorem Stalled.atPage {capacity : Nat} {packet : TcpPacket} {rest : List UInt8}
    (stalled : Stalled capacity packet rest) : AtPage capacity packet rest := by
  rcases stalled with ⟨waiting, _⟩ | ⟨waiting, awaits, _⟩
  · exact Or.inl waiting
  · exact Or.inr ⟨waiting, awaits⟩

theorem Stalled.starved {capacity : Nat} {packet : TcpPacket} {rest : List UInt8}
    (stalled : Stalled capacity packet rest) : Starved rest := by
  rcases stalled with ⟨_, short⟩ | ⟨_, awaits, short⟩
  · exact Or.inl short
  · exact Or.inr (awaits.leading_eq ▸ short)

/-- Fewer bytes than the capacity are left where the loop wants more. -/
theorem Stalled.length_lt {capacity : Nat} (enough : 2 ≤ capacity) {packet : TcpPacket}
    {rest : List UInt8} (stalled : Stalled capacity packet rest) : rest.length < capacity := by
  rcases stalled with ⟨_, short⟩ | ⟨_, awaits, short⟩
  · omega
  · have := awaits.fits
    omega

section Scan

variable (codec : Codec) (memory : Memory UInt8) (capacity pBuf nLen : Nat)
  (start : Option (List UInt8))

/-- The loop invariant. -/
structure PageScan (cursor : FrameCursor) (pages : List Page) (rest : List UInt8) : Prop where
  stream : memory.read pBuf nLen = wireBytes pages ++ rest
  ptr : cursor.ptr = pBuf + (wireBytes pages).length
  remains : cursor.nremains = rest.length
  consumed : cursor.nconsumed = (wireBytes pages).length
  sound : cursor.state.Sound codec
  received : receivePages codec capacity start pages =
    .ok (cursor.state.held, packetsOf cursor.events)
  safe : forall event, event ∈ cursor.events -> event.Safe codec pBuf nLen
  position : AtPage capacity cursor.state.packet rest

/-- The ways the loop stops when it was not skipping: more bytes are needed;
an oversize page has been announced, and everything present was dropped; or a
page is an error. -/
inductive FrameResult (last : FrameCursor) : Prop
  | hungry (pages : List Page) (rest : List UInt8)
      (scan : PageScan codec memory capacity pBuf nLen start last pages rest)
      (stalled : Stalled capacity last.state.packet rest)
  | overflow (pages : List Page) (rest : List UInt8)
      (stream : memory.read pBuf nLen = wireBytes pages ++ rest)
      (received : receivePages codec capacity start pages =
        .ok (last.state.held, packetsOf last.events))
      (sound : last.state.Sound codec)
      (consumed : last.nconsumed = nLen)
      (skipping : last.state.packet.eRecvPageState = .skip)
      (present : 2 ≤ rest.length)
      (oversize : capacity < 2 + (PageLeading.ofBytes rest).dataSize.toNat)
      (left : last.state.packet.recvPageLeading.dataSize.toNat + rest.length =
        2 + (PageLeading.ofBytes rest).dataSize.toNat)
  | failed (pages : List Page) (page : Page) (rest : List UInt8) (held : Option (List UInt8))
      (errno : Int)
      (stream : memory.read pBuf nLen = wireBytes (pages ++ [page]) ++ rest)
      (received : receivePages codec capacity start pages = .ok (held, packetsOf last.events))
      (rejected : receivePages codec capacity start (pages ++ [page]) = .error errno)
      (sound : last.state.Sound codec)
      (consumed : last.nconsumed = errno)
      (negative : errno < 0)

/-- The bounds every cursor respects. -/
structure WithinBlock (cursor : FrameCursor) : Prop where
  ends : (cursor.ptr : Int) + cursor.nremains = pBuf + nLen
  nonneg : 0 ≤ cursor.nremains
  safe : forall event, event ∈ cursor.events -> event.Safe codec pBuf nLen

variable {codec memory capacity pBuf nLen start}

theorem PageScan.length_eq {cursor : FrameCursor} {pages : List Page} {rest : List UInt8}
    (scan : PageScan codec memory capacity pBuf nLen start cursor pages rest) :
    nLen = (wireBytes pages).length + rest.length := by
  rw [← List.length_append, ← scan.stream, Memory.length_read]

theorem PageScan.within {cursor : FrameCursor} {pages : List Page} {rest : List UInt8}
    (scan : PageScan codec memory capacity pBuf nLen start cursor pages rest) :
    WithinBlock codec pBuf nLen cursor := by
  have length := scan.length_eq
  have ptr := scan.ptr
  have remains := scan.remains
  exact ⟨by omega, by omega, scan.safe⟩

/-- The cursor points at the rest. -/
theorem PageScan.rest_eq {cursor : FrameCursor} {pages : List Page} {rest : List UInt8}
    (scan : PageScan codec memory capacity pBuf nLen start cursor pages rest) :
    memory.read cursor.ptr rest.length = rest := by
  have dropped := congrArg (List.drop (wireBytes pages).length) scan.stream
  rw [Memory.drop_read, List.drop_left, ← scan.ptr] at dropped
  have count : nLen - (wireBytes pages).length = rest.length := by
    have := scan.length_eq
    omega
  rw [count] at dropped
  exact dropped

theorem PageScan.load_eq {cursor : FrameCursor} {pages : List Page} {rest : List UInt8}
    (scan : PageScan codec memory capacity pBuf nLen start cursor pages rest)
    (present : 2 ≤ rest.length) :
    PageLeading.load memory cursor.ptr = PageLeading.ofBytes rest := by
  have front := congrArg (List.take 2) scan.rest_eq
  rw [Memory.take_read, Nat.min_eq_left present] at front
  unfold PageLeading.load
  rw [front, PageLeading.ofBytes_take]

/-- The page at the cursor, once its bytes are there. -/
theorem PageScan.page {cursor : FrameCursor} {pages : List Page} {rest : List UInt8}
    (scan : PageScan codec memory capacity pBuf nLen start cursor pages rest)
    (enough : 2 + (PageLeading.ofBytes rest).dataSize.toNat ≤ rest.length) :
    Exists fun page : Page => Exists fun tail =>
      rest = page.bytes ++ tail ∧ page.leading = PageLeading.ofBytes rest ∧
        memory.read (cursor.ptr + 2) page.data.length = page.data := by
  rcases exists_page_of_length enough with ⟨page, tail, split, leading, data⟩
  refine ⟨page, tail, split, leading, ?_⟩
  have size : page.data.length = (PageLeading.ofBytes rest).dataSize.toNat := by
    rw [← page.leading_dataSize, leading]
  have block : memory.read (cursor.ptr + 2) (rest.length - 2) = rest.drop 2 := by
    rw [← Memory.drop_read, scan.rest_eq]
  have front := congrArg (List.take page.data.length) block
  rw [Memory.take_read, Nat.min_eq_left (by omega)] at front
  rw [front, size, ← data]

/-! ## The branches of one pass -/

/-- The cursor after a page leading has been stored. -/
def FrameCursor.loaded (cursor : FrameCursor) (leading : PageLeading) : FrameCursor :=
  { cursor with state := cursor.state.setLeading leading }

theorem turn_leading_short {cursor : FrameCursor}
    (waiting : cursor.state.packet.eRecvPageState = .receiveLeading)
    (short : cursor.nremains < 2) :
    framePageTurn codec memory capacity cursor = .halt cursor := by
  simp only [framePageTurn, waiting]
  exact if_pos short

theorem turn_leading_empty {cursor : FrameCursor} {leading : PageLeading}
    (waiting : cursor.state.packet.eRecvPageState = .receiveLeading)
    (present : 2 ≤ cursor.nremains) (load : PageLeading.load memory cursor.ptr = leading)
    (empty : leading.dataSize = 0) :
    framePageTurn codec memory capacity cursor =
      .halt { cursor.loaded leading with nconsumed := -99 } := by
  simp only [framePageTurn, waiting, load]
  rw [if_neg (show ¬ cursor.nremains < (sizeOfFramePageLeading : Int) from Int.not_lt.mpr present),
    if_pos empty]
  rfl

theorem turn_leading_fits {cursor : FrameCursor} {leading : PageLeading}
    (waiting : cursor.state.packet.eRecvPageState = .receiveLeading)
    (present : 2 ≤ cursor.nremains) (load : PageLeading.load memory cursor.ptr = leading)
    (nonempty : leading.dataSize ≠ 0) (fits : 2 + leading.dataSize.toNat ≤ capacity) :
    framePageTurn codec memory capacity cursor =
      .again { cursor with
        state := (cursor.state.setLeading leading).setPageState .receiveBody } := by
  simp only [framePageTurn, waiting, load]
  rw [if_neg (show ¬ cursor.nremains < (sizeOfFramePageLeading : Int) from Int.not_lt.mpr present),
    if_neg nonempty, if_pos (show (sizeOfFramePageLeading : Int) + leading.dataSize.toNat ≤ capacity
      by unfold sizeOfFramePageLeading; omega)]

theorem turn_leading_overflow {cursor : FrameCursor} {leading : PageLeading}
    (waiting : cursor.state.packet.eRecvPageState = .receiveLeading)
    (present : 2 ≤ cursor.nremains) (load : PageLeading.load memory cursor.ptr = leading)
    (nonempty : leading.dataSize ≠ 0) (overflow : capacity < 2 + leading.dataSize.toNat) :
    framePageTurn codec memory capacity cursor =
      .halt { (cursor.loaded leading).advance cursor.nremains with
        state := ((cursor.state.setLeading leading).setDataSize
          (leading.dataSize - BitVec.ofInt 14 (cursor.nremains - 2))).setPageState .skip
        events := cursor.events ++ [.shrink leading.dataSize.toNat (cursor.nremains - 2)] } := by
  simp only [framePageTurn, waiting, load]
  rw [if_neg (show ¬ cursor.nremains < (sizeOfFramePageLeading : Int) from Int.not_lt.mpr present),
    if_neg nonempty, if_neg (show ¬ (sizeOfFramePageLeading : Int) + leading.dataSize.toNat ≤ capacity
      by unfold sizeOfFramePageLeading; omega)]
  rfl

theorem turn_body_short {cursor : FrameCursor}
    (waiting : cursor.state.packet.eRecvPageState = .receiveBody)
    (short : cursor.nremains < 2 + cursor.state.packet.recvPageLeading.dataSize.toNat) :
    framePageTurn codec memory capacity cursor = .halt cursor := by
  simp only [framePageTurn, waiting]
  exact if_pos short

/-- What is reported for a page handed to `ConsumePacket`. -/
def FrameCursor.pageEvents (cursor : FrameCursor) (size : Nat) (done : Consumed) :
    List RecvEvent :=
  cursor.events ++ .page (cursor.ptr + 2) size :: done.events

theorem turn_body_rejected {cursor : FrameCursor} {size : Nat} {done : Consumed}
    (waiting : cursor.state.packet.eRecvPageState = .receiveBody)
    (size_eq : cursor.state.packet.recvPageLeading.dataSize.toNat = size)
    (enough : 2 + size ≤ cursor.nremains)
    (call : consumePacket codec cursor.state memory (cursor.ptr + 2) size = done)
    (rejected : codec.rejects done.rc = true) :
    framePageTurn codec memory capacity cursor =
      .halt { cursor with
        nconsumed := done.rc
        state := done.state
        events := cursor.pageEvents size done } := by
  simp only [framePageTurn, waiting, size_eq]
  rw [if_neg (show ¬ cursor.nremains < (sizeOfFramePageLeading : Int) + size from
      Int.not_lt.mpr enough),
    show cursor.ptr + sizeOfFramePageLeading = cursor.ptr + 2 from rfl, call, if_pos rejected]
  rfl

theorem turn_body_consumed {cursor : FrameCursor} {size : Nat} {done : Consumed}
    (waiting : cursor.state.packet.eRecvPageState = .receiveBody)
    (size_eq : cursor.state.packet.recvPageLeading.dataSize.toNat = size)
    (enough : 2 + size ≤ cursor.nremains)
    (call : consumePacket codec cursor.state memory (cursor.ptr + 2) size = done)
    (accepted : ¬ codec.rejects done.rc = true) :
    framePageTurn codec memory capacity cursor =
      .again { cursor.advance (2 + size) with
        state := done.state.setPageState .receiveLeading
        events := cursor.pageEvents size done } := by
  simp only [framePageTurn, waiting, size_eq]
  rw [if_neg (show ¬ cursor.nremains < (sizeOfFramePageLeading : Int) + size from
      Int.not_lt.mpr enough),
    show cursor.ptr + sizeOfFramePageLeading = cursor.ptr + 2 from rfl, call, if_neg accepted]
  rfl

/-! ## The invariant through one pass -/

/-- What one pass does where the invariant holds: it keeps the invariant, or it
stops in one of the listed ways, inside its block. -/
def PassKeeps (codec : Codec) (memory : Memory UInt8) (capacity pBuf nLen : Nat)
    (start : Option (List UInt8)) : Turn FrameCursor -> Prop
  | .again next => Exists fun pages => Exists fun rest =>
      PageScan codec memory capacity pBuf nLen start next pages rest
  | .halt last => FrameResult codec memory capacity pBuf nLen start last ∧
      WithinBlock codec pBuf nLen last

/-- The events of a page handed to `ConsumePacket` inside the block. -/
theorem PageScan.pageEvents_safe {cursor : FrameCursor} {pages : List Page} {rest : List UInt8}
    (scan : PageScan codec memory capacity pBuf nLen start cursor pages rest) {page : Page}
    {done : Consumed} (enough : 2 + page.data.length ≤ rest.length)
    (spec : ConsumesPage codec cursor.state page done) :
    forall event, event ∈ cursor.pageEvents page.data.length done ->
      event.Safe codec pBuf nLen := by
  have whole := scan.length_eq
  have ptr := scan.ptr
  intro event member
  rcases List.mem_append.mp member with before | here
  · exact scan.safe event before
  · rcases List.mem_cons.mp here with handed | reported
    · rw [handed]
      constructor
      · omega
      · omega
    · exact spec.safe event reported pBuf nLen

theorem packetsOf_pageEvents (cursor : FrameCursor) (size : Nat) (done : Consumed) :
    packetsOf (cursor.pageEvents size done) = packetsOf cursor.events ++ packetsOf done.events := by
  rw [FrameCursor.pageEvents, packetsOf_append]
  rfl

/-- A leading that announces a page the buffer can hold. -/
theorem PageScan.announced {cursor : FrameCursor} {pages : List Page} {rest : List UInt8}
    (scan : PageScan codec memory capacity pBuf nLen start cursor pages rest)
    (present : 2 ≤ rest.length) (nonempty : (PageLeading.ofBytes rest).dataSize ≠ 0)
    (fits : 2 + (PageLeading.ofBytes rest).dataSize.toNat ≤ capacity) :
    PageScan codec memory capacity pBuf nLen start
      { cursor with
        state := (cursor.state.setLeading (PageLeading.ofBytes rest)).setPageState .receiveBody }
      pages rest := by
  refine ⟨scan.stream, scan.ptr, scan.remains, scan.consumed,
    (scan.sound.setLeading _).setPageState _, scan.received, scan.safe, Or.inr ⟨rfl, ?_⟩⟩
  refine ⟨rfl, present, ?_, fits⟩
  exact Nat.pos_of_ne_zero fun zero => nonempty (BitVec.eq_of_toNat_eq zero)

/-- An empty page is an error. -/
theorem PageScan.empty {cursor : FrameCursor} {pages : List Page} {rest : List UInt8}
    (scan : PageScan codec memory capacity pBuf nLen start cursor pages rest)
    (present : 2 ≤ rest.length) (zero : (PageLeading.ofBytes rest).dataSize = 0) :
    FrameResult codec memory capacity pBuf nLen start
      { cursor.loaded (PageLeading.ofBytes rest) with nconsumed := -99 } := by
  have none_announced : (PageLeading.ofBytes rest).dataSize.toNat = 0 := by
    rw [zero]
    rfl
  rcases scan.page (by omega) with ⟨page, tail, split, pageLeading, _⟩
  have empty : page.data = [] := by
    apply List.length_eq_zero_iff.mp
    rw [← page.leading_dataSize, pageLeading, none_announced]
  refine .failed pages page tail cursor.state.held (-99) ?_ scan.received ?_
    (scan.sound.setLeading _) rfl (by omega)
  · rw [scan.stream, split]
    simp
  · rw [receivePages_concat page scan.received, receivePage, if_pos empty]
    rfl

/-- The page at the cursor does not fit the buffer: everything present is
dropped, and what is missing of the page stays to be skipped. -/
theorem PageScan.oversize {cursor last : FrameCursor} {pages : List Page} {rest : List UInt8}
    (bounded : nLen ≤ capacity)
    (scan : PageScan codec memory capacity pBuf nLen start cursor pages rest)
    (present : 2 ≤ rest.length)
    (overflow : capacity < 2 + (PageLeading.ofBytes rest).dataSize.toNat)
    (last_eq : last = { (cursor.loaded (PageLeading.ofBytes rest)).advance cursor.nremains with
        state := ((cursor.state.setLeading (PageLeading.ofBytes rest)).setDataSize
          ((PageLeading.ofBytes rest).dataSize -
            BitVec.ofInt 14 (cursor.nremains - 2))).setPageState .skip
        events := cursor.events ++
          [.shrink (PageLeading.ofBytes rest).dataSize.toNat (cursor.nremains - 2)] }) :
    FrameResult codec memory capacity pBuf nLen start last ∧ WithinBlock codec pBuf nLen last := by
  subst last_eq
  have remains := scan.remains
  have whole := scan.length_eq
  have consumed := scan.consumed
  have ptr := scan.ptr
  have amount : cursor.nremains - 2 = ((rest.length - 2 : Nat) : Int) := by omega
  have shrunk := toNat_sub_ofInt (show rest.length - 2 ≤ (PageLeading.ofBytes rest).dataSize.toNat
    by omega)
  refine ⟨.overflow pages rest scan.stream ?_ ?_ ?_ rfl present overflow ?_, ?_, ?_, ?_⟩
  · rw [scan.received, packetsOf_append]
    change _ = Except.ok (_, _ ++ [])
    rw [List.append_nil]
    rfl
  · exact ((scan.sound.setLeading _).setLeading _).setPageState _
  · simp only [FrameCursor.loaded, FrameCursor.advance]
    omega
  · change ((PageLeading.ofBytes rest).dataSize - BitVec.ofInt 14 (cursor.nremains - 2)).toNat
      + rest.length = _
    rw [amount, shrunk]
    omega
  · simp only [FrameCursor.loaded, FrameCursor.advance]
    omega
  · simp only [FrameCursor.loaded, FrameCursor.advance]
    omega
  · intro event member
    rcases List.mem_append.mp member with before | here
    · exact scan.safe event before
    · rw [List.mem_singleton.mp here]
      constructor
      · omega
      · omega

/-- A complete page is handed to `ConsumePacket`: it is one page more, or the
error that ends the call. -/
theorem PageScan.complete {cursor : FrameCursor} {pages : List Page} {rest : List UInt8}
    (scan : PageScan codec memory capacity pBuf nLen start cursor pages rest)
    (waiting : cursor.state.packet.eRecvPageState = .receiveBody)
    (awaits : AwaitsBody capacity cursor.state.packet.recvPageLeading rest)
    (enough : 2 + cursor.state.packet.recvPageLeading.dataSize.toNat ≤ rest.length) :
    PassKeeps codec memory capacity pBuf nLen start
      (framePageTurn codec memory capacity cursor) := by
  have remains := scan.remains
  have whole := scan.length_eq
  have ptr := scan.ptr
  have consumed := scan.consumed
  have leading := awaits.leading_eq
  rcases scan.page (by rw [← leading]; exact enough) with ⟨page, tail, split, pageLeading, data⟩
  have size : cursor.state.packet.recvPageLeading.dataSize.toNat = page.data.length := by
    rw [leading, ← pageLeading, page.leading_dataSize]
  rw [size] at enough
  have nonempty : page.data ≠ [] := by
    have := awaits.nonempty
    exact List.length_pos_iff.mp (by omega)
  have fits : page.Fits capacity := by
    have := awaits.fits
    unfold Page.Fits sizeOfFramePageLeading
    omega
  have spec := consumePacket_spec scan.sound (leading.trans pageLeading.symm) data nonempty
  have safe := scan.pageEvents_safe enough spec
  have once : receivePage codec capacity cursor.state.held page =
      assemble codec cursor.state.held page := by
    rw [receivePage, if_neg nonempty, if_pos fits]
  have restLength : rest.length = 2 + page.data.length + tail.length := by
    rw [split, List.length_append, page.length_bytes]
  have stream : memory.read pBuf nLen = wireBytes (pages ++ [page]) ++ tail := by
    rw [scan.stream, split]
    simp
  cases assembled : assemble codec cursor.state.held page with
  | ok result =>
      rcases spec.returned result.1 result.2 assembled with ⟨rc, holds, packets⟩
      have accepted : ¬ codec.rejects
          (consumePacket codec cursor.state memory (cursor.ptr + 2) page.data.length).rc = true := by
        rw [rc, codec.rejects_zero]
        exact Bool.false_ne_true
      rw [turn_body_consumed waiting size (by omega) rfl accepted]
      have length : (wireBytes (pages ++ [page])).length =
          (wireBytes pages).length + (2 + page.data.length) := by
        rw [wireBytes_append, List.length_append, wireBytes_cons, wireBytes_nil,
          List.append_nil, page.length_bytes]
      refine ⟨pages ++ [page], tail, stream, ?_, ?_, ?_, spec.sound.setPageState _, ?_, safe,
        Or.inl rfl⟩
      · simp only [FrameCursor.advance]
        omega
      · simp only [FrameCursor.advance]
        omega
      · simp only [FrameCursor.advance]
        omega
      · rw [receivePages_concat page scan.received, once, assembled]
        simp only [Except.map, PacketState.held_setPageState, holds, packetsOf_pageEvents, packets]
  | error errno =>
      rcases spec.failed errno assembled with ⟨rc, silent⟩
      have negative := assemble_error_neg assembled
      have rejected : codec.rejects
          (consumePacket codec cursor.state memory (cursor.ptr + 2) page.data.length).rc = true := by
        rw [rc]
        exact codec.rejects_of_neg negative
      rw [turn_body_rejected waiting size (by omega) rfl rejected]
      refine ⟨.failed pages page tail cursor.state.held errno stream ?_ ?_ spec.sound rc negative,
        scan.within.ends, scan.within.nonneg, safe⟩
      · rw [scan.received, packetsOf_pageEvents, silent, List.append_nil]
      · rw [receivePages_concat page scan.received, once, assembled]
        rfl

/-- One pass of the loop. -/
theorem PageScan.pass {cursor : FrameCursor} {pages : List Page} {rest : List UInt8}
    (bounded : nLen ≤ capacity)
    (scan : PageScan codec memory capacity pBuf nLen start cursor pages rest) :
    PassKeeps codec memory capacity pBuf nLen start
      (framePageTurn codec memory capacity cursor) := by
  have remains := scan.remains
  rcases scan.position with waiting | ⟨waiting, awaits⟩
  · by_cases present : 2 ≤ rest.length
    · have load := scan.load_eq present
      have enough : 2 ≤ cursor.nremains := by omega
      by_cases zero : (PageLeading.ofBytes rest).dataSize = 0
      · rw [turn_leading_empty waiting enough load zero]
        exact ⟨scan.empty present zero, scan.within.ends, scan.within.nonneg, scan.safe⟩
      · by_cases fits : 2 + (PageLeading.ofBytes rest).dataSize.toNat ≤ capacity
        · rw [turn_leading_fits waiting enough load zero fits]
          exact ⟨pages, rest, scan.announced present zero fits⟩
        · have overflow := Nat.lt_of_not_le fits
          rw [turn_leading_overflow waiting enough load zero overflow]
          exact scan.oversize bounded present overflow rfl
    · rw [turn_leading_short waiting (by omega)]
      exact ⟨.hungry pages rest scan (Or.inl ⟨waiting, by omega⟩), scan.within⟩
  · by_cases enough : 2 + cursor.state.packet.recvPageLeading.dataSize.toNat ≤ rest.length
    · exact scan.complete waiting awaits enough
    · rw [turn_body_short waiting (by omega)]
      exact ⟨.hungry pages rest scan (Or.inr ⟨waiting, awaits, by omega⟩), scan.within⟩

/-! ## The whole call -/

/-- The invariant before the first pass. -/
theorem PageScan.begin {state : PacketState} (sound : state.Sound codec)
    (position : AtPage capacity state.packet (memory.read pBuf nLen)) :
    PageScan codec memory capacity pBuf nLen state.held (frameStart state pBuf nLen) []
      (memory.read pBuf nLen) := by
  refine ⟨rfl, rfl, ?_, rfl, sound, rfl, ?_, position⟩
  · rw [Memory.length_read]
    rfl
  · intro event impossible
    cases impossible

/-- `ConsumeFramePage`, entered where a page begins. -/
theorem consumeFramePage_scan {state : PacketState} (bounded : nLen ≤ capacity)
    (sound : state.Sound codec)
    (position : AtPage capacity state.packet (memory.read pBuf nLen)) :
    FrameResult codec memory capacity pBuf nLen state.held
        (consumeFramePage codec state memory pBuf nLen capacity) ∧
      WithinBlock codec pBuf nLen (consumeFramePage codec state memory pBuf nLen capacity) := by
  refine (framePageLoop codec memory capacity).exec_rule
    (fun cursor => Exists fun pages => Exists fun rest =>
      PageScan codec memory capacity pBuf nLen state.held cursor pages rest)
    (fun last => FrameResult codec memory capacity pBuf nLen state.held last ∧
      WithinBlock codec pBuf nLen last) ?_ ?_ _ ⟨_, _, PageScan.begin sound position⟩
  · rintro cursor next ⟨pages, rest, scan⟩ turn
    have kept := scan.pass bounded
    change framePageTurn codec memory capacity cursor = _ at turn
    rw [turn] at kept
    exact kept
  · rintro cursor last ⟨pages, rest, scan⟩ turn
    have kept := scan.pass bounded
    change framePageTurn codec memory capacity cursor = _ at turn
    rw [turn] at kept
    exact kept

/-- Every pass of a call entered where a page begins is inside the block. -/
theorem visits_scan {state : PacketState} {cursor : FrameCursor} (bounded : nLen ≤ capacity)
    (sound : state.Sound codec)
    (position : AtPage capacity state.packet (memory.read pBuf nLen))
    (visits : (framePageLoop codec memory capacity).Visits (frameStart state pBuf nLen) cursor) :
    WithinBlock codec pBuf nLen cursor := by
  have invariant := Loop.Visits.invariant
    (fun cursor => Exists fun pages => Exists fun rest =>
      PageScan codec memory capacity pBuf nLen state.held cursor pages rest)
    (by
      rintro cursor next ⟨pages, rest, scan⟩ turn
      have kept := scan.pass bounded
      change framePageTurn codec memory capacity cursor = _ at turn
      rw [turn] at kept
      exact kept)
    visits ⟨_, _, PageScan.begin sound position⟩
  rcases invariant with ⟨pages, rest, scan⟩
  exact scan.within

/-! ## Skipping -/

/-- The cursor in which a call that is skipping an oversize page ends. -/
def skipResult (state : PacketState) (pBuf nLen : Nat) : FrameCursor :=
  let dataSize := state.packet.recvPageLeading.dataSize
  let nskip := min nLen dataSize.toNat
  let skipped := state.setDataSize (dataSize - BitVec.ofInt 14 nskip)
  { ptr := pBuf + nskip
    nremains := nLen - nskip
    nconsumed := nskip
    state := if dataSize.toNat ≤ nLen then skipped.setPageState .receiveLeading else skipped
    events := [.shrink dataSize.toNat nskip] }

/-- A call that is skipping makes one pass. -/
theorem turn_skip {state : PacketState} (skipping : state.packet.eRecvPageState = .skip) :
    framePageTurn codec memory capacity (frameStart state pBuf nLen) =
      .halt (skipResult state pBuf nLen) := by
  have same : (min (nLen : Int) (state.packet.recvPageLeading.dataSize.toNat : Int)) =
      ((min nLen state.packet.recvPageLeading.dataSize.toNat : Nat) : Int) := by omega
  have shrunk := toNat_sub_ofInt
    (Nat.min_le_right nLen state.packet.recvPageLeading.dataSize.toNat)
  have done : (state.packet.recvPageLeading.dataSize - BitVec.ofInt 14
      ((min nLen state.packet.recvPageLeading.dataSize.toNat : Nat) : Int) = 0) ↔
      state.packet.recvPageLeading.dataSize.toNat ≤ nLen := by
    rw [← BitVec.toNat_inj, shrunk, show ((0 : BitVec 14).toNat) = 0 from rfl]
    omega
  simp only [framePageTurn, frameStart, skipping, skipResult, FrameCursor.advance, same, done,
    Int.toNat_natCast, Int.zero_add, List.nil_append]

end Scan
end NetSystem
