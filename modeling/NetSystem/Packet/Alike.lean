import NetSystem.Packet.ReceiverTracking

namespace NetSystem

/-!
# Receivers that cannot be told apart

What a receiver does with its next chunks depends on the bytes in its buffer,
on the packet under construction, and on how much of an oversize page is left
to skip.  It depends on nothing else: not on where the bytes lie in the
storage, not on the buffers of the pool, and not on anything received before.

`Stops` describes the end of a call by the bytes alone and is unique.
`Alike` relates two receivers that agree in these three respects; reading the
same chunk keeps them alike, or fails on both with the same error.
-/

open Receiver

/-- Where a call stops in its bytes: behind the pages `taken`, because the rest
is no complete page or because the last of them is an error. -/
structure Stops (codec : Codec) (capacity : Nat) (start : Option (List UInt8))
    (bytes : List UInt8) (taken : List Page) (rest : List UInt8) : Prop where
  stream : bytes = wireBytes taken ++ rest
  final : (Starved rest ∧
      Exists fun result => receivePages codec capacity start taken = .ok result) ∨
    (Exists fun pages => Exists fun page => Exists fun result => Exists fun errno =>
      taken = pages ++ [page] ∧ receivePages codec capacity start pages = .ok result ∧
        receivePages codec capacity start taken = .error errno)

section Unique

variable {codec : Codec} {capacity : Nat} {start : Option (List UInt8)} {bytes : List UInt8}
  {taken more otherTaken : List Page} {rest otherRest : List UInt8}

/-- Of two calls on the same bytes neither goes on where the other stops. -/
theorem Stops.no_more (stops : Stops codec capacity start bytes taken rest)
    (other : Stops codec capacity start bytes (taken ++ more) otherRest)
    (same : rest = wireBytes more ++ otherRest) : more = [] := by
  rcases stops.final with ⟨starved, _⟩ | ⟨_, _, _, errno, _, _, rejected⟩
  · exact starved.no_pages same
  · rcases other.final with ⟨_, result, received⟩ | ⟨pages, page, result, _, split, received, _⟩
    · rcases receivePages_ok_left received with ⟨first, ok⟩
      rw [rejected] at ok
      cases ok
    · rcases List.eq_nil_or_concat more with nothing | ⟨init, final, rfl⟩
      · exact nothing
      · rw [List.concat_eq_append, ← List.append_assoc] at split
        rw [← List.append_inj_left' split rfl] at received
        rcases receivePages_ok_left received with ⟨first, ok⟩
        rw [rejected] at ok
        cases ok

theorem Stops.unique (stops : Stops codec capacity start bytes taken rest)
    (other : Stops codec capacity start bytes otherTaken otherRest) :
    taken = otherTaken ∧ rest = otherRest := by
  rcases wireBytes_append_comparable (stops.stream.symm.trans other.stream) with
    ⟨more, rfl, same⟩ | ⟨more, rfl, same⟩
  · have nothing := stops.no_more other same
    rw [nothing] at same ⊢
    exact ⟨(List.append_nil _).symm, same⟩
  · have nothing := other.no_more stops same
    rw [nothing] at same ⊢
    exact ⟨List.append_nil _, same.symm⟩

end Unique

/-! ## Two calls on the same bytes -/

/-- Two calls that end in the same way. -/
inductive SameEnd (capacity : Nat) (bytes : List UInt8) (last other : FrameCursor) : Prop
  | waits (taken : List Page) (rest : List UInt8) (stream : bytes = wireBytes taken ++ rest)
      (consumed : last.nconsumed = (wireBytes taken).length)
      (otherConsumed : other.nconsumed = (wireBytes taken).length)
      (position : AtPage capacity last.state.packet rest)
      (otherPosition : AtPage capacity other.state.packet rest)
      (short : rest.length < capacity)
      (held : last.state.held = other.state.held)
  | skips (consumed : last.nconsumed = bytes.length) (otherConsumed : other.nconsumed = bytes.length)
      (skipping : last.state.packet.eRecvPageState = .skip)
      (otherSkipping : other.state.packet.eRecvPageState = .skip)
      (left : last.state.packet.recvPageLeading.dataSize =
        other.state.packet.recvPageLeading.dataSize)
      (unfinished : 0 < last.state.packet.recvPageLeading.dataSize.toNat)
      (held : last.state.held = other.state.held)
  | fails (errno : Int) (consumed : last.nconsumed = errno) (otherConsumed : other.nconsumed = errno)
      (negative : errno < 0)

section Calls

variable {codec : Codec} {memory otherMemory : Memory UInt8}
  {capacity pBuf nLen otherBuf otherLen : Nat} {start : Option (List UInt8)}
  {last other : FrameCursor}

/-- A call that met an oversize page stops for want of the page's bytes. -/
theorem overflow_stops {bytes : List UInt8} {pages : List Page} {rest : List UInt8}
    {result : Option (List UInt8) × List (List UInt8)} (bounded : bytes.length ≤ capacity)
    (stream : bytes = wireBytes pages ++ rest)
    (oversize : capacity < 2 + (PageLeading.ofBytes rest).dataSize.toNat)
    (received : receivePages codec capacity start pages = .ok result) :
    Stops codec capacity start bytes pages rest := by
  have lengths := congrArg List.length stream
  rw [List.length_append] at lengths
  exact ⟨stream, Or.inl ⟨Or.inr (by omega), _, received⟩⟩

/-- A call that waits for more bytes stops behind the pages it has taken. -/
theorem PageScan.stops {bytes : List UInt8} {pages : List Page} {rest : List UInt8}
    (scan : PageScan codec memory capacity pBuf nLen start last pages rest)
    (block : bytes = memory.read pBuf nLen) (stalled : Stalled capacity last.state.packet rest) :
    Stops codec capacity start bytes pages rest :=
  ⟨block.trans scan.stream, Or.inl ⟨stalled.starved, _, scan.received⟩⟩

/-- A call that fails stops behind the page it rejects. -/
theorem rejected_stops {bytes : List UInt8} {pages : List Page} {page : Page} {rest : List UInt8}
    {result : Option (List UInt8) × List (List UInt8)} {errno : Int}
    (stream : bytes = wireBytes (pages ++ [page]) ++ rest)
    (received : receivePages codec capacity start pages = .ok result)
    (rejected : receivePages codec capacity start (pages ++ [page]) = .error errno) :
    Stops codec capacity start bytes (pages ++ [page]) rest :=
  ⟨stream, Or.inr ⟨_, _, _, _, rfl, received, rejected⟩⟩

/-- A page that is waited for is not oversize. -/
theorem Stalled.fits {packet : TcpPacket} {rest : List UInt8}
    (stalled : Stalled capacity packet rest) (present : 2 ≤ rest.length) :
    2 + (PageLeading.ofBytes rest).dataSize.toNat ≤ capacity := by
  rcases stalled with ⟨_, short⟩ | ⟨_, awaits, _⟩
  · omega
  · exact awaits.leading_eq ▸ awaits.fits

theorem FrameResult.sound
    (result : FrameResult codec memory capacity pBuf nLen start last) : last.state.Sound codec := by
  cases result with
  | hungry pages rest scan => exact scan.sound
  | overflow pages rest stream received sound => exact sound
  | failed pages page rest held errno stream received rejected sound => exact sound

/-- Two calls on the same bytes, with the same packet under construction. -/
theorem FrameResult.same_end (enough : 2 ≤ capacity) {bytes : List UInt8}
    (bounded : bytes.length ≤ capacity) (block : bytes = memory.read pBuf nLen)
    (otherBlock : bytes = otherMemory.read otherBuf otherLen)
    (result : FrameResult codec memory capacity pBuf nLen start last)
    (otherResult : FrameResult codec otherMemory capacity otherBuf otherLen start other) :
    SameEnd capacity bytes last other ∧ packetsOf last.events = packetsOf other.events := by
  cases result with
  | hungry pages rest scan stalled =>
      have stops := scan.stops block stalled
      cases otherResult with
      | hungry otherPages otherRest otherScan otherStalled =>
          rcases stops.unique (otherScan.stops otherBlock otherStalled) with ⟨rfl, rfl⟩
          have results := Except.ok.inj (scan.received.symm.trans otherScan.received)
          exact ⟨.waits pages rest stops.stream scan.consumed otherScan.consumed stalled.atPage
            otherStalled.atPage (stalled.length_lt enough) (congrArg Prod.fst results),
            congrArg Prod.snd results⟩
      | overflow otherPages otherRest stream received _ _ _ present oversize _ =>
          rcases stops.unique (overflow_stops bounded (otherBlock.trans stream) oversize received)
            with ⟨rfl, rfl⟩
          exact absurd (stalled.fits present) (Nat.not_le.mpr oversize)
      | failed otherPages page otherRest held errno stream received rejected =>
          rcases stops.unique (rejected_stops (otherBlock.trans stream) received rejected) with
            ⟨rfl, rfl⟩
          rw [scan.received] at rejected
          cases rejected
  | overflow pages rest stream received _ consumed skipping present oversize left =>
      have stops := overflow_stops bounded (block.trans stream) oversize received
      cases otherResult with
      | hungry otherPages otherRest otherScan otherStalled =>
          rcases stops.unique (otherScan.stops otherBlock otherStalled) with ⟨rfl, rfl⟩
          exact absurd (otherStalled.fits present) (Nat.not_le.mpr oversize)
      | overflow otherPages otherRest otherStream otherReceived _ otherConsumed otherSkipping
          _ otherOversize otherLeft =>
          rcases stops.unique (overflow_stops bounded (otherBlock.trans otherStream) otherOversize
            otherReceived) with ⟨rfl, rfl⟩
          have results := Except.ok.inj (received.symm.trans otherReceived)
          have lengths := congrArg List.length stops.stream
          rw [List.length_append] at lengths
          refine ⟨.skips ?_ ?_ skipping otherSkipping ?_ ?_ (congrArg Prod.fst results),
            congrArg Prod.snd results⟩
          · rw [consumed, block, Memory.length_read]
          · rw [otherConsumed, otherBlock, Memory.length_read]
          · apply BitVec.eq_of_toNat_eq
            omega
          · omega
      | failed otherPages page otherRest held errno otherStream otherReceived rejected =>
          rcases stops.unique (rejected_stops (otherBlock.trans otherStream) otherReceived
            rejected) with ⟨rfl, rfl⟩
          rw [received] at rejected
          cases rejected
  | failed pages page rest held errno stream received rejected _ consumed negative =>
      have stops := rejected_stops (block.trans stream) received rejected
      cases otherResult with
      | hungry otherPages otherRest otherScan otherStalled =>
          rcases stops.unique (otherScan.stops otherBlock otherStalled) with ⟨rfl, rfl⟩
          rw [otherScan.received] at rejected
          cases rejected
      | overflow otherPages otherRest otherStream otherReceived _ _ _ _ oversize _ =>
          rcases stops.unique (overflow_stops bounded (otherBlock.trans otherStream) oversize
            otherReceived) with ⟨rfl, rfl⟩
          rw [otherReceived] at rejected
          cases rejected
      | failed otherPages otherPage otherRest otherHeld otherErrno otherStream otherReceived
          otherRejected _ otherConsumed _ =>
          rcases stops.unique (rejected_stops (otherBlock.trans otherStream) otherReceived
            otherRejected) with ⟨pagesEq, rfl⟩
          have errors := Except.error.inj (rejected.symm.trans (pagesEq ▸ otherRejected))
          rw [← List.append_inj_left' pagesEq rfl] at otherReceived
          have results := Except.ok.inj (received.symm.trans otherReceived)
          exact ⟨.fails errno consumed (otherConsumed.trans errors.symm) negative,
            congrArg Prod.snd results⟩

end Calls

/-! ## Two receivers -/

/-- A receiver between two reads.  A reservation may be open. -/
structure Poised (codec : Codec) (bb : BipBuf) (state : PacketState) : Prop where
  valid : bb.Valid
  capacity : bb.availableCapacity = tcpStreamReadSize
  room : bb.getCommittedSize < tcpStreamReadSize
  sound : state.Sound codec
  position : AtPage tcpStreamReadSize state.packet bb.committed ∨
    (state.packet.eRecvPageState = .skip ∧ 0 < state.packet.recvPageLeading.dataSize.toNat ∧
      bb.committed = [])

theorem AtPage.not_skip {capacity : Nat} {packet : TcpPacket} {rest : List UInt8}
    (position : AtPage capacity packet rest) : packet.eRecvPageState ≠ .skip := by
  intro skipping
  rcases position with waiting | ⟨waiting, _⟩
  · rw [skipping] at waiting
    cases waiting
  · rw [skipping] at waiting
    cases waiting

theorem Poised.ready {codec : Codec} {bb : BipBuf} {state : PacketState}
    (poised : Poised codec bb state) (closed : bb.getReservationSize = 0) : bb.Ready :=
  ⟨poised.valid, poised.capacity, closed⟩

theorem Poised.atPage {codec : Codec} {bb : BipBuf} {state : PacketState}
    (poised : Poised codec bb state) (reading : state.packet.eRecvPageState ≠ .skip) :
    AtPage tcpStreamReadSize state.packet bb.committed := by
  rcases poised.position with position | ⟨skipping, _⟩
  · exact position
  · exact absurd skipping reading

theorem Poised.skipped {codec : Codec} {bb : BipBuf} {state : PacketState}
    (poised : Poised codec bb state) (skipping : state.packet.eRecvPageState = .skip) :
    0 < state.packet.recvPageLeading.dataSize.toNat ∧ bb.committed = [] := by
  rcases poised.position with position | ⟨_, unfinished, empty⟩
  · exact absurd skipping position.not_skip
  · exact ⟨unfinished, empty⟩

/-- Two receivers that hold the same bytes, the same packet under construction
and the same rest of an oversize page, and that have delivered the same. -/
structure Receiver.Alike (codec : Codec) (left right : Receiver) : Prop where
  poised : Poised codec left.bb left.state
  otherPoised : Poised codec right.bb right.state
  closed : left.bb.getReservationSize = 0
  otherClosed : right.bb.getReservationSize = 0
  committed : left.bb.committed = right.bb.committed
  held : left.state.held = right.state.held
  skipping : left.state.packet.eRecvPageState = .skip ↔
    right.state.packet.eRecvPageState = .skip
  remaining : left.state.packet.eRecvPageState = .skip ->
    left.state.packet.recvPageLeading.dataSize = right.state.packet.recvPageLeading.dataSize
  packets : packetsOf left.events = packetsOf right.events

/-- Two reads with results that cannot be told apart. -/
inductive Fed.Alike (codec : Codec) : Fed -> Fed -> Prop
  | decoded {left right : Receiver} (alike : left.Alike codec right) :
      Fed.Alike codec (.decoded left) (.decoded right)
  | thrown (errno : Int) {left right : Receiver}
      (packets : packetsOf left.events = packetsOf right.events) :
      Fed.Alike codec (.thrown errno left) (.thrown errno right)
  | refused : Fed.Alike codec .refused .refused

namespace Receiver

variable {codec : Codec} {left right : Receiver} {chunk : List UInt8}

theorem Alike.committedSize (alike : left.Alike codec right) :
    left.bb.getCommittedSize = right.bb.getCommittedSize := by
  rw [← BipBuf.length_committed, ← BipBuf.length_committed, alike.committed]

/-- What a call on a chunk is given, and what it leaves behind. -/
theorem lastCursor_result {receiver : Receiver} (poised : Poised codec receiver.bb receiver.state)
    (closed : receiver.bb.getReservationSize = 0)
    (reading : receiver.state.packet.eRecvPageState ≠ .skip) (takes : receiver.Takes chunk) :
    Exists fun memory => Exists fun pBuf => Exists fun nLen =>
      receiver.bb.committed ++ chunk = memory.read pBuf nLen ∧
      FrameResult codec memory tcpStreamReadSize pBuf nLen receiver.state.held
        (receiver.lastCursor codec chunk) := by
  rcases (poised.ready closed).filled poised.room takes with ⟨ready, bytes⟩
  have block : (receiver.bb.filled chunk).buffer.read (receiver.bb.filled chunk).getContiguousBlock
      (receiver.bb.filled chunk).getCommittedSize = receiver.bb.committed ++ chunk := bytes
  have bounded : (receiver.bb.filled chunk).getCommittedSize ≤ tcpStreamReadSize := by
    rw [← BipBuf.length_committed, bytes, List.length_append, BipBuf.length_committed]
    exact takes
  have result := (consumeFramePage_scan bounded poised.sound
    (block ▸ (poised.atPage reading).extend chunk)).1
  rw [← lastCursor_eq codec ready] at result
  exact ⟨_, _, _, block.symm, result⟩

/-- A read of alike receivers entered where a page begins. -/
theorem Alike.feed_atPage (alike : left.Alike codec right)
    (reading : left.state.packet.eRecvPageState ≠ .skip) (takes : left.Takes chunk) :
    Fed.Alike codec (left.feed codec chunk) (right.feed codec chunk) := by
  have size := alike.committedSize
  have ready := alike.poised.ready alike.closed
  have otherReady := alike.otherPoised.ready alike.otherClosed
  have room := alike.poised.room
  have otherRoom := alike.otherPoised.room
  have otherTakes : right.Takes chunk := by
    rw [Takes, ← size]
    exact takes
  have small : (left.bb.committed ++ chunk).length ≤ tcpStreamReadSize := by
    rw [List.length_append, BipBuf.length_committed]
    exact takes
  rcases lastCursor_result alike.poised alike.closed reading takes with
    ⟨memory, pBuf, nLen, block, result⟩
  rcases lastCursor_result alike.otherPoised alike.otherClosed
    (fun skipping => reading (alike.skipping.mpr skipping)) otherTakes with
    ⟨otherMemory, otherBuf, otherLen, otherBlock, otherResult⟩
  rw [← alike.committed] at otherBlock
  rw [← alike.held] at otherResult
  rcases result.same_end (by decide) small block otherBlock otherResult with ⟨ends, packets⟩
  have allPackets : packetsOf (left.events ++ (left.lastCursor codec chunk).events) =
      packetsOf (right.events ++ (right.lastCursor codec chunk).events) := by
    rw [packetsOf_append, packetsOf_append, alike.packets, packets]
  cases ends with
  | waits taken rest stream consumed otherConsumed position otherPosition short held =>
      rcases feed_decoded ready room takes consumed with ⟨next, nextReady, dropped, fed⟩
      rcases feed_decoded otherReady otherRoom otherTakes otherConsumed with
        ⟨other, otherNextReady, otherDropped, otherFed⟩
      rw [← alike.committed] at otherDropped
      rw [stream, List.drop_left] at dropped otherDropped
      rw [fed, otherFed]
      refine .decoded ⟨⟨nextReady.valid, nextReady.capacity, ?_, result.sound,
        Or.inl (dropped.symm ▸ position)⟩, ⟨otherNextReady.valid, otherNextReady.capacity, ?_,
        otherResult.sound, Or.inl (otherDropped.symm ▸ otherPosition)⟩, nextReady.closed,
        otherNextReady.closed, dropped.trans otherDropped.symm, held, ?_, ?_, allPackets⟩
      · rw [← BipBuf.length_committed, dropped]
        exact short
      · rw [← BipBuf.length_committed, otherDropped]
        exact short
      · exact ⟨fun skipping => absurd skipping position.not_skip,
          fun skipping => absurd skipping otherPosition.not_skip⟩
      · exact fun skipping => absurd skipping position.not_skip
  | skips consumed otherConsumed skipping otherSkipping remaining unfinished held =>
      rcases feed_decoded ready room takes consumed with ⟨next, nextReady, dropped, fed⟩
      rcases feed_decoded otherReady otherRoom otherTakes otherConsumed with
        ⟨other, otherNextReady, otherDropped, otherFed⟩
      rw [← alike.committed] at otherDropped
      rw [List.drop_length] at dropped otherDropped
      rw [fed, otherFed]
      refine .decoded ⟨⟨nextReady.valid, nextReady.capacity, ?_, result.sound,
        Or.inr ⟨skipping, unfinished, dropped⟩⟩, ⟨otherNextReady.valid, otherNextReady.capacity, ?_,
        otherResult.sound, Or.inr ⟨otherSkipping, remaining ▸ unfinished, otherDropped⟩⟩,
        nextReady.closed, otherNextReady.closed, dropped.trans otherDropped.symm, held,
        ⟨fun _ => otherSkipping, fun _ => skipping⟩, fun _ => remaining, allPackets⟩
      · rw [← BipBuf.length_committed, dropped]
        decide
      · rw [← BipBuf.length_committed, otherDropped]
        decide
  | fails errno consumed otherConsumed negative =>
      rw [feed_thrown ready room takes consumed negative,
        feed_thrown otherReady otherRoom otherTakes otherConsumed negative]
      exact .thrown errno allPackets

/-- A read of alike receivers in the middle of an oversize page. -/
theorem Alike.feed_skipping (alike : left.Alike codec right)
    (skipping : left.state.packet.eRecvPageState = .skip)
    (short : chunk.length ≤ tcpStreamReadSize) :
    Fed.Alike codec (left.feed codec chunk) (right.feed codec chunk) := by
  have otherSkipping := alike.skipping.mp skipping
  have remaining := alike.remaining skipping
  rcases alike.poised.skipped skipping with ⟨unfinished, empty⟩
  rcases feed_skip codec (alike.poised.ready alike.closed) empty skipping short with
    ⟨next, nextReady, dropped, fed⟩
  rcases feed_skip codec (alike.otherPoised.ready alike.otherClosed) (alike.committed ▸ empty)
    otherSkipping short with ⟨other, otherReady, otherDropped, otherFed⟩
  rw [← remaining] at otherDropped
  have same := dropped.trans otherDropped.symm
  have packets : packetsOf (left.events ++ (skipResult left.state 0 chunk.length).events) =
      packetsOf (right.events ++ (skipResult right.state 0 chunk.length).events) := by
    rw [packetsOf_append, packetsOf_append, alike.packets]
    rfl
  have room : next.getCommittedSize < tcpStreamReadSize := by
    rw [← BipBuf.length_committed, dropped, List.length_drop]
    have : 0 < tcpStreamReadSize := by decide
    omega
  have otherRoom : other.getCommittedSize < tcpStreamReadSize := by
    rw [← BipBuf.length_committed, ← same, BipBuf.length_committed]
    exact room
  rw [fed, otherFed]
  by_cases finished : left.state.packet.recvPageLeading.dataSize.toNat ≤ chunk.length
  · have otherFinished : right.state.packet.recvPageLeading.dataSize.toNat ≤ chunk.length :=
      remaining ▸ finished
    rw [skipResult_finished finished, skipResult_finished otherFinished]
    exact .decoded ⟨⟨nextReady.valid, nextReady.capacity, room,
        (alike.poised.sound.setLeading _).setPageState _, Or.inl (Or.inl rfl)⟩,
      ⟨otherReady.valid, otherReady.capacity, otherRoom,
        (alike.otherPoised.sound.setLeading _).setPageState _, Or.inl (Or.inl rfl)⟩,
      nextReady.closed, otherReady.closed, same, alike.held, ⟨nofun, nofun⟩, nofun, packets⟩
  · have less : chunk.length < left.state.packet.recvPageLeading.dataSize.toNat := by omega
    have otherLess : chunk.length < right.state.packet.recvPageLeading.dataSize.toNat :=
      remaining ▸ less
    have nothing : next.committed = [] := by
      rw [dropped]
      exact List.drop_eq_nil_of_le (Nat.le_of_lt less)
    have left_over : 0 < (left.state.packet.recvPageLeading.dataSize -
        BitVec.ofInt 14 (chunk.length : Int)).toNat := by
      rw [toNat_sub_ofInt (Nat.le_of_lt less)]
      omega
    rw [skipResult_unfinished less, skipResult_unfinished otherLess]
    exact .decoded ⟨⟨nextReady.valid, nextReady.capacity, room, alike.poised.sound.setLeading _,
        Or.inr ⟨skipping, left_over, nothing⟩⟩,
      ⟨otherReady.valid, otherReady.capacity, otherRoom, alike.otherPoised.sound.setLeading _,
        Or.inr ⟨otherSkipping, remaining ▸ left_over, same ▸ nothing⟩⟩,
      nextReady.closed, otherReady.closed, same, alike.held,
      ⟨fun _ => otherSkipping, fun _ => skipping⟩,
      fun _ => congrArg (fun dataSize => dataSize - BitVec.ofInt 14 (chunk.length : Int)) remaining,
      packets⟩

/-- Reading the same chunk keeps two receivers alike. -/
theorem Alike.feed (alike : left.Alike codec right) (chunk : List UInt8) :
    Fed.Alike codec (left.feed codec chunk) (right.feed codec chunk) := by
  by_cases takes : left.Takes chunk
  · by_cases skipping : left.state.packet.eRecvPageState = .skip
    · exact alike.feed_skipping skipping (Nat.le_trans (Nat.le_add_left _ _) takes)
    · exact alike.feed_atPage skipping takes
  · have otherLong : ¬ right.Takes chunk := by
      rw [Takes, ← alike.committedSize]
      exact takes
    rw [feed_refused (alike.poised.ready alike.closed) alike.poised.room takes,
      feed_refused (alike.otherPoised.ready alike.otherClosed) alike.otherPoised.room otherLong]
    exact .refused

/-- A receiver between two reads is like itself. -/
theorem Alike.refl {receiver : Receiver} (poised : Poised codec receiver.bb receiver.state)
    (closed : receiver.bb.getReservationSize = 0) : receiver.Alike codec receiver :=
  ⟨poised, poised, closed, closed, rfl, rfl, Iff.rfl, fun _ => rfl, rfl⟩

/-- A read that returns leaves the receiver between two reads. -/
theorem feed_poised {receiver next : Receiver} (poised : Poised codec receiver.bb receiver.state)
    (closed : receiver.bb.getReservationSize = 0) (fed : receiver.feed codec chunk = .decoded next) :
    Poised codec next.bb next.state ∧ next.bb.getReservationSize = 0 := by
  have alike := (Alike.refl poised closed).feed chunk
  rw [fed] at alike
  cases alike with
  | decoded alike => exact ⟨alike.poised, alike.closed⟩

end Receiver
end NetSystem
