import NetSystem.Packet.RoundTrip

namespace NetSystem

/-!
# What `Post` may be given

`Post` and `EncodeStream` test no length but that of the send buffer.  A type
name of any length and a body of any length are encoded as they are, and what
becomes of the pages is left to the peer.  `Postable` lists what the two sides
together can carry; outside it `Post` fails on its way, or hands pages to
`SendRaw` that a peer does not decode to the packet.

The second half is found at the peer.  Whatever a peer is given, it delivers
only packets that may be posted (`Tracks.delivered_postable`), so a packet that
may not be posted is not among them.
-/

open Receiver

/-! ## What a peer delivers -/

/-- A page that completes a packet completes one that was tested. -/
theorem assemble_accepted {codec : Codec} {held next : Option (List UInt8)} {page : Page}
    {packet : List UInt8} (ok : assemble codec held page = .ok (next, some packet)) :
    codec.Accepts packet ∧ (packet.length ≤ codec.recvCapSize ∨ packet = page.data) := by
  unfold assemble at ok
  split at ok
  · split at ok
    · rename_i accepted
      cases ok
      exact ⟨accepted, Or.inr rfl⟩
    · cases ok
  · split at ok
    · split at ok
      · cases ok
      · cases ok
    · split at ok
      · cases ok
      · split at ok
        · split at ok
          · rename_i room
            split at ok
            · rename_i accepted
              cases ok
              exact ⟨accepted, Or.inl (by rw [List.length_append]; exact room)⟩
            · cases ok
          · cases ok
        · split at ok
          · cases ok
          · cases ok

/-- What the peer accepts and has room for. -/
def Deliverable (codec : Codec) (packet : List UInt8) : Prop :=
  codec.Accepts packet ∧ packet.length ≤ codec.recvCapSize

theorem receivePage_deliverable {codec : Codec} {held next : Option (List UInt8)} {page : Page}
    {packet : List UInt8}
    (ok : receivePage codec tcpStreamReadSize held page = .ok (next, some packet)) :
    Deliverable codec packet := by
  rcases (receivePage_cases ok).2 with ⟨fits, assembled⟩ | ⟨_, _, impossible⟩
  · rcases assemble_accepted assembled with ⟨accepted, room | whole⟩
    · exact ⟨accepted, room⟩
    · refine ⟨accepted, ?_⟩
      rw [whole]
      unfold Page.Fits sizeOfFramePageLeading tcpStreamReadSize at fits
      rcases codec.recvCapSize_cases with same | same <;> omega
  · cases impossible

theorem receivePages_deliverable {codec : Codec} {held last : Option (List UInt8)}
    {pages : List Page} {packets : List (List UInt8)}
    (received : receivePages codec tcpStreamReadSize held pages = .ok (last, packets)) :
    forall packet, packet ∈ packets -> Deliverable codec packet := by
  induction pages generalizing held packets with
  | nil =>
      cases received
      intro packet impossible
      cases impossible
  | cons page pages inductionHypothesis =>
      cases once : receivePage codec tcpStreamReadSize held page with
      | error errno =>
          rw [receivePages, once] at received
          cases received
      | ok result =>
          rw [receivePages_cons_ok once] at received
          cases rest : receivePages codec tcpStreamReadSize result.1 pages with
          | error errno =>
              rw [rest] at received
              cases received
          | ok tail =>
              rw [rest] at received
              cases received
              intro packet member
              rcases List.mem_append.mp member with here | later
              · rcases result with ⟨next, got⟩
                cases Option.mem_toList.mp here
                exact receivePage_deliverable once
              · exact inductionHypothesis rest packet later

/-- `OnGotPacket` cuts what was accepted into a name and a body that fit. -/
theorem Deliverable.lengths {codec : Codec} {packet : List UInt8}
    (deliverable : Deliverable codec packet) :
    1 ≤ (codec.onGotPacket packet).typeName.length ∧
    (codec.onGotPacket packet).typeName.length ≤ 255 ∧
    codec.leadingSize + (codec.onGotPacket packet).typeName.length +
      (codec.onGotPacket packet).body.length ≤ codec.recvCapSize := by
  rcases deliverable with ⟨⟨named, inside⟩, room⟩
  have short := (packet[0]?.getD 0).toNat_lt
  have nameLen : (codec.onGotPacket packet).typeName.length = (packet[0]?.getD 0).toNat := by
    change ((packet.drop codec.leadingSize).take (packet[0]?.getD 0).toNat).length = _
    rw [List.length_take, List.length_drop]
    omega
  have bodyLen : (codec.onGotPacket packet).body.length ≤
      packet.length - (packet[0]?.getD 0).toNat - codec.leadingSize := by
    change ((packet.drop _).take (packet.length - (packet[0]?.getD 0).toNat -
      codec.leadingSize)).length ≤ _
    exact List.length_take_le _ _
  omega

/-- A peer delivers only packets that may be posted. -/
theorem Tracks.delivered_postable {codec : Codec} {chunks : List (List UInt8)}
    {receiver : Receiver} (tracks : Tracks codec chunks receiver) {content : PacketContent}
    (delivered : codec.expected content ∈ receiver.delivered codec) : Postable codec content := by
  rcases tracks.standing with ⟨pages, received, _⟩
  rcases List.mem_map.mp delivered with ⟨packet, member, same⟩
  have lengths := (receivePages_deliverable received packet member).lengths
  rw [same] at lengths
  exact ⟨lengths.1, lengths.2.1, lengths.2.2⟩

/-! ## What `Post` hands over -/

/-- The loop takes no page back. -/
theorem postLoop_pages_ne_nil (sendRaw : List UInt8 -> Nat) (body : List UInt8)
    {cursor : PostCursor} (sent : cursor.pages ≠ []) :
    ((postLoop sendRaw body).exec cursor).pages ≠ [] := by
  refine (postLoop sendRaw body).exec_invariant (fun cursor => cursor.pages ≠ []) ?_ cursor sent
  intro cursor sent
  change (postTurn sendRaw body cursor).result.pages ≠ []
  unfold postTurn
  split
  · exact sent
  · split
    · exact List.append_ne_nil_of_right_ne_nil _ (List.cons_ne_nil _ _)
    · exact sent

/-- The first pass sends a page or fails. -/
theorem postLoop_sends (sendRaw : List UInt8 -> Nat) (body : List UInt8) {cursor : PostCursor}
    (goesOn : cursor.pageLeading.pageEnd = false)
    (faultless : ((postLoop sendRaw body).exec cursor).fault = false) :
    ((postLoop sendRaw body).exec cursor).pages ≠ [] := by
  have more : ¬ cursor.pageLeading.pageEnd = true := by
    rw [goesOn]
    exact Bool.false_ne_true
  by_cases fits : cursor.CopyFits
  · have first : (postLoop sendRaw body).turn cursor = .again (cursor.sendPage sendRaw body) :=
      (if_neg more).trans (if_pos fits)
    rw [(postLoop sendRaw body).exec_of_again first]
    exact postLoop_pages_ne_nil sendRaw body
      (List.append_ne_nil_of_right_ne_nil _ (List.cons_ne_nil _ _))
  · have first : (postLoop sendRaw body).turn cursor = .halt { cursor with fault := true } :=
      (if_neg more).trans (if_neg fits)
    rw [(postLoop sendRaw body).exec_of_halt first] at faultless
    cases faultless

/-- A call that does not fail sends a page, whatever it is given. -/
theorem post_pages_ne_nil {codec : Codec} {state : PacketState} (sendRaw : List UInt8 -> Nat)
    (content : PacketContent) (formed : state.sendPool.WellFormed codec.sendCapSize)
    (faultless : (post codec true sendRaw state content).fault = false) :
    (post codec true sendRaw state content).pages ≠ [] := by
  rcases BufferPool.packetBufferAlloc_spec formed Nat.one_pos with ⟨entry, taken, alloc, _⟩
  have goesOn : (postStart codec (taken.entries entry) content).pageLeading.pageEnd = false := by
    rw [postStart_pageLeading]
  simp only [post, alloc, if_true] at faultless ⊢
  split at faultless
  · rename_i inside
    rw [if_pos inside]
    exact postLoop_sends sendRaw content.body goesOn faultless
  · cases faultless

/-! ## The two sides together -/

/-- However the pages are cut into chunks, a new peer is given the packet and
nothing else. -/
def DecodedAs (codec : Codec) (content : PacketContent) (pages : List (List UInt8)) : Prop :=
  forall (recvPool sendPool : BufferPool) (uninitialised : Memory UInt8)
    (chunks : List (List UInt8)), recvPool.WellFormed codec.recvCapSize ->
    chunks.flatten = pages.flatten ->
    (Receiver.fresh recvPool sendPool uninitialised).feedAll codec chunks ≠ .refused ->
    Exists fun receiver : Receiver =>
      (Receiver.fresh recvPool sendPool uninitialised).feedAll codec chunks = .decoded receiver ∧
      receiver.delivered codec = [codec.expected content]

/-- No copy of a negative size, no assertion that fails, and either no page at
all or pages that a peer decodes to the packet. -/
def SendsOnlyDecodable (codec : Codec) (content : PacketContent) (posted : Posted) : Prop :=
  posted.fault = false ∧ (posted.pages = [] ∨ DecodedAs codec content posted.pages)

/-- What a peer decodes to a packet carries one that may be posted. -/
theorem DecodedAs.postable {codec : Codec} {content : PacketContent} {pages : List (List UInt8)}
    (decoded : DecodedAs codec content pages) : Postable codec content := by
  have formed : (BufferPool.initial fun _ _ => 0).WellFormed codec.recvCapSize :=
    BufferPool.initial_wellFormed _ _
  have start : Tracks codec [] (Receiver.fresh (.initial fun _ _ => 0) (.initial fun _ _ => 0)
      fun _ => 0) := tracks_fresh formed _ _
  have whole : (pages.flatten.map fun byte => [byte]).flatten = pages.flatten := by
    rw [← List.flatMap_def, List.flatMap_singleton']
  rcases decoded _ _ _ _ formed whole (start.feedAll_singletons pages.flatten) with
    ⟨receiver, fed, delivered⟩
  refine (start.feedAll fed).delivered_postable ?_
  rw [delivered]
  exact List.mem_singleton_self _

/-- On a ready connection `Post` sends only what the peer can decode exactly
for the packets with a name of one to 255 bytes that a receive buffer holds.
For any other packet it fails before a page is sent, or sends pages that the
peer does not decode to the packet. -/
theorem post_sends_decodable_iff (codec : Codec) (sendRaw : List UInt8 -> Nat)
    {state : PacketState} (formed : state.sendPool.WellFormed codec.sendCapSize)
    (content : PacketContent) :
    SendsOnlyDecodable codec content (post codec true sendRaw state content) ↔
      1 ≤ content.typeName.length ∧ content.typeName.length ≤ 255 ∧
      codec.leadingSize + content.typeName.length + content.body.length ≤
        fullPacketMaxSizeHint - codec.abi.sizeOfPacketBuffer := by
  constructor
  · rintro ⟨faultless, nothing | decoded⟩
    · exact absurd nothing (post_pages_ne_nil sendRaw content formed faultless)
    · exact ⟨decoded.postable.named, decoded.postable.short, decoded.postable.bounded⟩
  · rintro ⟨named, short, bounded⟩
    rcases post_received sendRaw ⟨named, short, bounded⟩ formed with
      ⟨pages, packet, sent, faultless, _, fits, received, read⟩
    refine ⟨faultless, Or.inr ?_⟩
    intro recvPool sendPool uninitialised chunks recvFormed cut fit
    rw [sent, flatten_map_bytes] at cut
    rcases feedAll_received fits received recvFormed sendPool uninitialised cut fit with
      ⟨receiver, fed, got, _⟩
    refine ⟨receiver, fed, ?_⟩
    rw [Receiver.delivered, got, List.map_singleton, read]

/-- A packet of three pages. -/
theorem post_sends_decodable_sample :
    SendsOnlyDecodable ⟨.inner, .pointer32⟩ longPacket
      (post ⟨.inner, .pointer32⟩ true List.length sampleSender longPacket) :=
  (post_sends_decodable_iff ⟨.inner, .pointer32⟩ List.length
    (show sampleSender.sendPool.WellFormed _ from BufferPool.initial_wellFormed (fun _ _ => 0) _)
    longPacket).mpr longPacket_postable

/-- A packet without a name. -/
def unnamedPacket : PacketContent := ⟨0, 0, [], []⟩

/-- The packet without a name is sent in a page of four bytes, on which a new
peer throws. -/
theorem unnamed_packet_rejected :
    (post ⟨.outer, .pointer32⟩ true List.length sampleSender unnamedPacket).pages =
      [[11, 0, 0, 0]] ∧
    (Exists fun receiver : Receiver =>
      (Receiver.fresh (.initial fun _ _ => 0) (.initial fun _ _ => 0) fun _ => 0).feedAll
        ⟨.outer, .pointer32⟩ [[11, 0, 0, 0]] = .thrown (-1) receiver) ∧
    ¬ SendsOnlyDecodable ⟨.outer, .pointer32⟩ unnamedPacket
      (post ⟨.outer, .pointer32⟩ true List.length sampleSender unnamedPacket) := by
  have sent : (post ⟨.outer, .pointer32⟩ true List.length sampleSender unnamedPacket).pages =
      [[11, 0, 0, 0]] := by decide
  refine ⟨sent, ⟨_, rfl⟩, ?_⟩
  rintro ⟨_, nothing | decoded⟩
  · rw [sent] at nothing
    cases nothing
  · exact absurd decoded.postable.named (by decide)

end NetSystem
