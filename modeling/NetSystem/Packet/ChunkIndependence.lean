import NetSystem.Packet.ReceiverTracking

namespace NetSystem

/-!
# When the chunks do not matter

Two runs on one stream, cut in different ways, deliver the same packets except
in one situation.  The call that finishes an oversize page returns without
looking at the pages behind it, so what a chunk brings behind the end of an
oversize page is decoded only when another chunk arrives.  `Pending` describes
the chunkings whose last chunk does this to a page that ends a packet.

Which pages a run has taken is determined by the stream up to this effect,
because a page is delimited by its own bytes (`wireBytes_append_comparable`).
-/

open Receiver

/-- A complete page that ends a packet stands behind an oversize page, and the
last chunk reaches back into that oversize page. -/
def Pending (chunks : List (List UInt8)) : Prop :=
  Exists fun before => Exists fun big => Exists fun behind => Exists fun rest =>
    chunks.flatten = wireBytes (before ++ big :: behind) ++ rest ∧
    ¬ big.Fits tcpStreamReadSize ∧
    (wireBytes behind).length + rest.length < lastSize chunks ∧
    Exists fun page => page ∈ behind ∧ page.pageEnd = true

/-- A block no longer than the buffer cannot hold the pages up to an oversize
one. -/
theorem no_oversize_end {front pages more : List Page} {big : Page} {rest tail : List UInt8}
    (split : front ++ [big] = pages ++ more) (same : rest = wireBytes more ++ tail)
    (short : rest.length ≤ tcpStreamReadSize) (oversize : ¬ big.Fits tcpStreamReadSize) :
    more = [] := by
  rcases List.eq_nil_or_concat more with nothing | ⟨init, final, rfl⟩
  · exact nothing
  · rw [List.concat_eq_append] at split same
    rw [← List.append_assoc] at split
    have lasts := List.append_inj_right' split rfl
    cases lasts
    exact absurd (fits_of_block same short (by simp)) oversize

/-! ## Pages that deliver -/

/-- A page that is received delivers a packet when it ends one. -/
theorem receivePage_delivers {codec : Codec} {held next got : Option (List UInt8)} {page : Page}
    (fits : page.Fits tcpStreamReadSize)
    (once : receivePage codec tcpStreamReadSize held page = .ok (next, got)) :
    got = none ↔ page.pageEnd = false := by
  rcases receivePage_cases once with ⟨_, ⟨_, assembled⟩ | ⟨large, _⟩⟩
  · rcases assemble_cases assembled with ⟨_, ends, _, rfl⟩ | ⟨_, ends, _, rfl⟩ |
      ⟨_, bytes, _, ⟨ends, _, rfl⟩ | ⟨ends, _, rfl⟩⟩ <;> simp [ends]
  · exact absurd fits large

/-- Pages that are received deliver nothing when none of them ends a packet. -/
theorem receivePages_delivers {codec : Codec} {held last : Option (List UInt8)}
    {pages : List Page} {packets : List (List UInt8)}
    (fits : forall page, page ∈ pages -> page.Fits tcpStreamReadSize)
    (received : receivePages codec tcpStreamReadSize held pages = .ok (last, packets)) :
    packets = [] ↔ forall page, page ∈ pages -> page.pageEnd = false := by
  induction pages generalizing held packets with
  | nil =>
      cases received
      simp
  | cons page pages inductionHypothesis =>
      cases once : receivePage codec tcpStreamReadSize held page with
      | error errno =>
          rw [receivePages, once] at received
          cases received
      | ok result =>
          rw [receivePages_cons_ok once] at received
          cases rest : receivePages codec tcpStreamReadSize result.1 pages with
          | error errno =>
              rw [rest] at received
              cases received
          | ok tail =>
              rw [rest] at received
              cases received
              have here := receivePage_delivers (fits page (List.mem_cons_self ..)) once
              have later := inductionHypothesis
                (fun other member => fits other (List.mem_cons_of_mem _ member)) rest
              rw [List.append_eq_nil_iff, Option.toList_eq_nil_iff, here, later,
                List.forall_mem_cons]

/-! ## Two runs on one stream -/

section Runs

variable {codec : Codec} {chunks : List (List UInt8)} {receiver : Receiver}
  {pages : List Page} {rest : List UInt8}

/-- Only a chunking that leaves a page behind an oversize one is pending. -/
theorem Taken.not_pending (taken : Taken codec chunks receiver pages rest)
    (starved : Starved rest) (earlier : OversizeBefore (lastSize chunks) pages rest) :
    ¬ Pending chunks := by
  rintro ⟨before, big, behind, tail, stream, oversize, short, _⟩
  rcases wireBytes_append_comparable (taken.stream.symm.trans stream) with
    ⟨more, split, same⟩ | ⟨more, split, same⟩
  · rw [starved.no_pages same, List.append_nil] at split
    rw [starved.no_pages same, wireBytes_nil, List.nil_append] at same
    have bound := earlier before big behind split.symm oversize
    rw [same] at bound
    omega
  · have bound := earlier before big (behind ++ more) (by rw [split]; simp) oversize
    rw [same, List.length_append] at short
    rw [wireBytes_append, List.length_append] at bound
    omega

/-- A chunking that has just completed an oversize page is pending when a
complete page behind it ends a packet. -/
theorem Taken.pending_iff_of_oversize (taken : Taken codec chunks receiver pages rest)
    (bounded : lastSize chunks ≤ tcpStreamReadSize) (short : rest.length < lastSize chunks)
    {before : List Page} {big : Page} (last : pages = before ++ [big])
    (oversize : ¬ big.Fits tcpStreamReadSize) :
    Pending chunks ↔ Exists fun behind => Exists fun tail =>
      rest = wireBytes behind ++ tail ∧ Exists fun page => page ∈ behind ∧ page.pageEnd = true := by
  constructor
  · rintro ⟨front, other, behind, tail, stream, otherOversize, otherShort, ends⟩
    refine ⟨behind, tail, ?_, ends⟩
    have shape : wireBytes pages ++ rest =
        wireBytes (front ++ [other]) ++ (wireBytes behind ++ tail) := by
      rw [← taken.stream, stream]
      simp
    rcases wireBytes_append_comparable shape with ⟨more, split, same⟩ | ⟨more, split, same⟩
    · rw [no_oversize_end split same (by omega) otherOversize, wireBytes_nil,
        List.nil_append] at same
      exact same
    · rw [last] at split
      rw [no_oversize_end split same (by rw [List.length_append]; omega) oversize, wireBytes_nil,
        List.nil_append] at same
      exact same.symm
  · rintro ⟨behind, tail, same, ends⟩
    refine ⟨before, big, behind, tail, ?_, oversize, ?_, ends⟩
    · rw [taken.stream, last, same]
      simp
    · rw [same, List.length_append] at short
      exact short

/-- A chunking is pending when the bytes not taken hold a complete page that
ends a packet. -/
theorem Taken.pending_iff (taken : Taken codec chunks receiver pages rest)
    (bounded : lastSize chunks ≤ tcpStreamReadSize) :
    Pending chunks ↔ Exists fun behind => Exists fun tail =>
      rest = wireBytes behind ++ tail ∧ Exists fun page => page ∈ behind ∧ page.pageEnd = true := by
  rcases taken.behind with ⟨starved, earlier⟩ | ⟨_, short, before, big, last, oversize⟩
  · refine ⟨fun is => absurd is (taken.not_pending starved earlier), ?_⟩
    rintro ⟨behind, tail, same, page, member, _⟩
    rw [starved.no_pages same] at member
    cases member
  · exact taken.pending_iff_of_oversize bounded short last oversize

/-- Of two runs on one stream, the second has taken as many pages or more.
They deliver the same exactly when both are pending or neither. -/
theorem Taken.packets_eq_iff {other : List (List UInt8)} {otherReceiver : Receiver}
    {more : List Page} {otherRest : List UInt8}
    (taken : Taken codec chunks receiver pages rest)
    (otherTaken : Taken codec other otherReceiver (pages ++ more) otherRest)
    (bounded : lastSize chunks ≤ tcpStreamReadSize)
    (otherBounded : lastSize other ≤ tcpStreamReadSize)
    (same : rest = wireBytes more ++ otherRest) :
    packetsOf receiver.events = packetsOf otherReceiver.events ↔
      (Pending chunks ↔ Pending other) := by
  have received := otherTaken.received
  rw [receivePages_append more taken.received] at received
  rw [taken.pending_iff bounded, otherTaken.pending_iff otherBounded]
  by_cases nothing : more = []
  · rw [nothing, wireBytes_nil, List.nil_append] at same
    rw [nothing] at received
    injection received with pairs
    have packets : packetsOf receiver.events = packetsOf otherReceiver.events :=
      (List.append_nil _).symm.trans (congrArg Prod.snd pairs)
    rw [same]
    exact ⟨fun _ => Iff.rfl, fun _ => packets⟩
  · have short : rest.length < lastSize chunks := by
      rcases taken.behind with ⟨starved, _⟩ | ⟨_, short, _⟩
      · exact absurd (starved.no_pages same) nothing
      · exact short
    have fits : forall page, page ∈ more -> page.Fits tcpStreamReadSize :=
      fun page member => fits_of_block same (by omega) member
    have starved : Starved otherRest := by
      rcases otherTaken.behind with ⟨starved, _⟩ | ⟨_, _, front, final, split, large⟩
      · exact starved
      · exact absurd (no_oversize_end split.symm same (by omega) large) nothing
    cases tail : receivePages codec tcpStreamReadSize receiver.state.held more with
    | error errno =>
        rw [tail] at received
        cases received
    | ok result =>
        rw [tail] at received
        injection received with pairs
        have packets : packetsOf otherReceiver.events = packetsOf receiver.events ++ result.2 :=
          (congrArg Prod.snd pairs).symm
        rw [packets, List.self_eq_append_right, receivePages_delivers fits tail]
        constructor
        · intro silent
          constructor
          · rintro ⟨behind, rest', split, page, member, ended⟩
            have inside : page ∈ more := by
              rcases wireBytes_append_comparable (same.symm.trans split) with
                ⟨extra, grown, tails⟩ | ⟨extra, grown, _⟩
              · rw [starved.no_pages tails, List.append_nil] at grown
                rwa [grown] at member
              · rw [grown]
                exact List.mem_append_left _ member
            rw [silent page inside] at ended
            cases ended
          · rintro ⟨behind, rest', split, page, member, _⟩
            rw [starved.no_pages split] at member
            cases member
        · intro both page member
          cases ended : page.pageEnd with
          | false => rfl
          | true =>
              rcases both.mp ⟨more, otherRest, same, page, member, ended⟩ with
                ⟨behind, rest', split, other, inside, _⟩
              rw [starved.no_pages split] at inside
              cases inside

end Runs

/-- Two tracked receivers of one stream. -/
theorem Tracks.packets_eq_iff {codec : Codec} {chunks other : List (List UInt8)}
    {receiver otherReceiver : Receiver} (tracks : Tracks codec chunks receiver)
    (otherTracks : Tracks codec other otherReceiver) (same : chunks.flatten = other.flatten) :
    packetsOf receiver.events = packetsOf otherReceiver.events ↔
      (Pending chunks ↔ Pending other) := by
  rcases tracks.taken with ⟨pages, rest, taken⟩
  rcases otherTracks.taken with ⟨otherPages, otherRest, otherTaken⟩
  rcases wireBytes_append_comparable (taken.stream.symm.trans (same.trans otherTaken.stream)) with
    ⟨more, rfl, rests⟩ | ⟨more, rfl, rests⟩
  · exact taken.packets_eq_iff otherTaken tracks.bounded otherTracks.bounded rests
  · rw [eq_comm, @Iff.comm (Pending chunks)]
    exact otherTaken.packets_eq_iff taken otherTracks.bounded tracks.bounded rests

/-- Two ways of cutting one stream, both decoded to the end without an error,
deliver the same packets exactly when both chunkings are pending or neither. -/
theorem chunking_independent_iff (codec : Codec) {recvPool otherPool : BufferPool}
    (formed : recvPool.WellFormed codec.recvCapSize)
    (otherFormed : otherPool.WellFormed codec.recvCapSize)
    (sendPool otherSendPool : BufferPool) (uninitialised otherUninitialised : Memory UInt8)
    {chunks other : List (List UInt8)} {receiver otherReceiver : Receiver}
    (fed : (Receiver.fresh recvPool sendPool uninitialised).feedAll codec chunks =
      .decoded receiver)
    (otherFed : (Receiver.fresh otherPool otherSendPool otherUninitialised).feedAll codec other =
      .decoded otherReceiver)
    (same : chunks.flatten = other.flatten) :
    packetsOf receiver.events = packetsOf otherReceiver.events ↔
      (Pending chunks ↔ Pending other) :=
  (tracks_of_feedAll formed fed).packets_eq_iff (tracks_of_feedAll otherFormed otherFed) same

/-! ## Two chunkings that differ -/

/-- A page that is a packet of the outer class, with the name `A`. -/
def packetPage : Page := ⟨true, true, [1, 0, 65], by decide⟩

/-- The outer class. -/
def outerCodec : Codec := ⟨.outer, .pointer32⟩

/-- A connection with unused pools. -/
def newReceiver : Receiver :=
  .fresh (.initial fun _ _ => 0) (.initial fun _ _ => 0) fun _ => 0

theorem newReceiver_tracks (codec : Codec) : Tracks codec [] newReceiver :=
  tracks_fresh (BufferPool.initial_wellFormed (fun _ _ => 0) _) _ _

section Oversize

variable (filler : List UInt8) (size : filler.length = 8190)

/-- A page of 8193 bytes, one more than the buffer holds. -/
def oversizePage : Page := ⟨false, false, filler ++ [0], by rw [List.length_append, size]; decide⟩

/-- The oversize page but for its last byte. -/
def oversizeFront : List (List UInt8) := [[0xFC, 0x7F], filler]

include size

theorem oversizePage_bytes : (oversizePage filler size).bytes = [0xFC, 0x7F] ++ filler ++ [0] := by
  have leading : (oversizePage filler size).leading = ⟨false, false, 8191⟩ := by
    simp only [Page.leading, oversizePage, List.length_append, size]
    rfl
  rw [Page.bytes, leading, oversizePage, List.append_assoc]
  rfl

theorem oversizePage_large : ¬ (oversizePage filler size).Fits tcpStreamReadSize := by
  rw [Page.Fits, oversizePage, List.length_append, size]
  decide

/-- A receiver that has read the leading reads on to the last byte. -/
theorem filler_fed (codec : Codec) {receiver : Receiver} (ready : receiver.bb.Ready)
    (empty : receiver.bb.committed = [])
    (skipping : receiver.state.packet.eRecvPageState = .skip)
    (left : receiver.state.packet.recvPageLeading.dataSize = 8191) :
    Exists fun next : Receiver => receiver.feed codec filler = .decoded next ∧
      next.bb.Ready ∧ next.bb.committed = [] ∧ next.state.packet.eRecvPageState = .skip ∧
      next.state.packet.recvPageLeading.dataSize.toNat = 1 := by
  have less : filler.length < receiver.state.packet.recvPageLeading.dataSize.toNat := by
    rw [size, left]
    decide
  rcases Receiver.feed_skip codec ready empty skipping
    (show filler.length ≤ tcpStreamReadSize by rw [size]; decide) with
      ⟨rest, restReady, dropped, fed⟩
  refine ⟨_, fed, restReady, ?_, ?_, ?_⟩
  · rw [dropped]
    exact List.drop_eq_nil_of_le (Nat.le_of_lt less)
  · rw [skipResult_unfinished less]
    exact skipping
  · rw [skipResult_unfinished less]
    change (receiver.state.packet.recvPageLeading.dataSize - BitVec.ofInt 14 _).toNat = 1
    rw [toNat_sub_ofInt (Nat.le_of_lt less), size, left]
    rfl

/-- One byte of the oversize page is left. -/
theorem oversizeFront_fed : Exists fun receiver : Receiver =>
    newReceiver.feedAll outerCodec (oversizeFront filler) = .decoded receiver ∧
    receiver.bb.Ready ∧ receiver.bb.committed = [] ∧
    receiver.state.packet.eRecvPageState = .skip ∧
    receiver.state.packet.recvPageLeading.dataSize.toNat = 1 := by
  have first : Exists fun receiver : Receiver =>
      newReceiver.feed outerCodec [0xFC, 0x7F] = .decoded receiver ∧
      receiver.state.packet.eRecvPageState = .skip ∧
      receiver.state.packet.recvPageLeading.dataSize = 8191 ∧ receiver.bb.committed = [] :=
    ⟨_, rfl, rfl, rfl, rfl⟩
  rcases first with ⟨receiver, fed, skipping, left, empty⟩
  have ready := ((newReceiver_tracks outerCodec).feed_decoded fed).ready
  rcases filler_fed filler size outerCodec ready empty skipping left with ⟨next, again, facts⟩
  refine ⟨next, ?_, facts⟩
  rw [oversizeFront, Receiver.feedAll, fed]
  simp only [Receiver.feedAll, again]

theorem oversize_stream :
    (oversizeFront filler).flatten ++ (0 :: packetPage.bytes) =
      wireBytes [oversizePage filler size, packetPage] := by
  rw [wireBytes_cons, oversizePage_bytes]
  simp [oversizeFront]

/-- The packet is decoded when it arrives in a chunk of its own. -/
theorem separate_fed : Exists fun receiver : Receiver =>
    newReceiver.feedAll outerCodec (oversizeFront filler ++ [[0], packetPage.bytes]) =
      .decoded receiver := by
  rcases oversizeFront_fed filler size with ⟨front, fed, ready, empty, skipping, left⟩
  have tracks := (newReceiver_tracks outerCodec).feedAll fed
  rcases Receiver.feed_skip outerCodec ready empty skipping
    (show [(0 : UInt8)].length ≤ tcpStreamReadSize by decide) with ⟨rest, restReady, dropped, once⟩
  have middle := tracks.feed_decoded once
  have nothing : rest.getCommittedSize = 0 := by
    rw [← BipBuf.length_committed, dropped, left]
    rfl
  have received : receivePages outerCodec tcpStreamReadSize none
      [oversizePage filler size, packetPage] = .ok (none, [[1, 0, 65]]) := by
    have first : receivePage outerCodec tcpStreamReadSize none (oversizePage filler size) =
        .ok (none, none) := by
      rw [receivePage, if_neg (by simp [oversizePage]), if_neg (oversizePage_large filler size)]
    rw [receivePages_cons_ok first]
    rfl
  have stream : ([] ++ oversizeFront filler ++ [[0]] ++ [packetPage.bytes]).flatten =
      wireBytes [oversizePage filler size, packetPage] := by
    rw [← oversize_stream]
    simp
  rcases middle.feed_decodes (stream ▸ decodable_wireBytes received)
    (show rest.getCommittedSize + packetPage.bytes.length ≤ tcpStreamReadSize by
      rw [nothing]; decide) with ⟨last, final⟩
  refine ⟨last, ?_⟩
  rw [feedAll_append fed]
  simp only [Receiver.feedAll, once, final]

/-- It is not decoded when it arrives together with the last byte. -/
theorem together_fed : Exists fun receiver : Receiver =>
    newReceiver.feedAll outerCodec (oversizeFront filler ++ [0 :: packetPage.bytes]) =
      .decoded receiver := by
  rcases oversizeFront_fed filler size with ⟨front, fed, ready, empty, skipping, _⟩
  rcases Receiver.feed_skip outerCodec ready empty skipping
    (show (0 :: packetPage.bytes).length ≤ tcpStreamReadSize by decide) with
      ⟨rest, restReady, dropped, once⟩
  have whole : newReceiver.feedAll outerCodec (oversizeFront filler ++ [0 :: packetPage.bytes]) =
      front.feed outerCodec (0 :: packetPage.bytes) := by
    rw [once, feedAll_append fed]
    simp only [Receiver.feedAll, once]
  exact ⟨_, whole.trans once⟩

theorem together_pending : Pending (oversizeFront filler ++ [0 :: packetPage.bytes]) := by
  refine ⟨[], oversizePage filler size, [packetPage], [], ?_, oversizePage_large filler size, ?_,
    packetPage, List.mem_singleton_self _, rfl⟩
  · rw [flatten_concat, oversize_stream filler size]
    simp
  · rw [lastSize_concat]
    decide

theorem separate_not_pending :
    ¬ Pending (oversizeFront filler ++ [[0], packetPage.bytes]) := by
  rintro ⟨before, big, behind, rest, stream, _, short, page, member, _⟩
  have whole : wireBytes [oversizePage filler size, packetPage] ++ [] =
      wireBytes (before ++ big :: behind) ++ rest := by
    rw [← stream, ← oversize_stream]
    simp
  have last : lastSize (oversizeFront filler ++ [[0], packetPage.bytes]) = 5 := rfl
  rw [last] at short
  have least : 2 ≤ (before ++ big :: behind).length := by
    have := List.length_pos_of_mem member
    simp only [List.length_append, List.length_cons]
    omega
  have same : before ++ big :: behind = [oversizePage filler size, packetPage] := by
    rcases wireBytes_append_comparable whole with ⟨more, split, nothing⟩ | ⟨more, split, _⟩
    · rw [split, (show Starved [] from Or.inl (by decide)).no_pages nothing, List.append_nil]
    · have lengths := congrArg List.length split
      rw [List.length_append] at lengths
      have none_more : more = [] := by
        apply List.length_eq_zero_iff.mp
        simp only [List.length_cons, List.length_nil] at lengths
        omega
      rw [split, none_more, List.append_nil]
  cases before with
  | nil =>
      cases same
      have length : (wireBytes [packetPage]).length = 5 := by decide
      omega
  | cons first before =>
      have lengths := congrArg List.length same
      have := List.length_pos_of_mem member
      simp only [List.cons_append, List.length_cons, List.length_append, List.length_nil] at lengths
      omega

end Oversize

/-- Whether the packet behind an oversize page has been delivered depends on
where the last chunk begins. -/
theorem chunking_matters :
    ¬ forall chunks other receiver otherReceiver,
      newReceiver.feedAll outerCodec chunks = .decoded receiver ->
      newReceiver.feedAll outerCodec other = .decoded otherReceiver ->
      chunks.flatten = other.flatten ->
      packetsOf receiver.events = packetsOf otherReceiver.events := by
  intro same
  have size : (List.replicate 8190 (0 : UInt8)).length = 8190 := List.length_replicate
  generalize List.replicate 8190 (0 : UInt8) = filler at size
  rcases together_fed filler size with ⟨together, fed⟩
  rcases separate_fed filler size with ⟨separate, otherFed⟩
  have stream : (oversizeFront filler ++ [0 :: packetPage.bytes]).flatten =
      (oversizeFront filler ++ [[0], packetPage.bytes]).flatten := by simp
  have packets := same _ _ _ _ fed otherFed stream
  have pending := (((newReceiver_tracks outerCodec).feedAll fed).packets_eq_iff
    ((newReceiver_tracks outerCodec).feedAll otherFed) stream).mp packets
  exact separate_not_pending filler size (pending.mp (together_pending filler size))

/-- The two chunkings deliver different packets. -/
theorem chunking_independent_iff_oversize :
    Exists fun receiver : Receiver => Exists fun otherReceiver : Receiver =>
      newReceiver.feedAll outerCodec
        (oversizeFront (List.replicate 8190 0) ++ [0 :: packetPage.bytes]) = .decoded receiver ∧
      newReceiver.feedAll outerCodec
        (oversizeFront (List.replicate 8190 0) ++ [[0], packetPage.bytes]) =
          .decoded otherReceiver ∧
      packetsOf receiver.events ≠ packetsOf otherReceiver.events := by
  have size : (List.replicate 8190 (0 : UInt8)).length = 8190 := List.length_replicate
  generalize List.replicate 8190 (0 : UInt8) = filler at size
  rcases together_fed filler size with ⟨together, fed⟩
  rcases separate_fed filler size with ⟨separate, otherFed⟩
  refine ⟨together, separate, fed, otherFed, fun packets => ?_⟩
  have formed := BufferPool.initial_wellFormed (fun _ _ => 0) outerCodec.recvCapSize
  have iff := chunking_independent_iff outerCodec formed formed (.initial fun _ _ => 0)
    (.initial fun _ _ => 0) (fun _ => 0) (fun _ => 0) fed otherFed (by simp)
  exact separate_not_pending filler size ((iff.mp packets).mp (together_pending filler size))

end NetSystem
