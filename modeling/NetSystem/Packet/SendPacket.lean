import NetSystem.Packet.RoundTrip

namespace NetSystem

/-!
# The size `SendPacket` reports

`SendPacket` of the twelve connection classes.  Each class posts the packet
through its own codec and returns the size of the leading, the type name and
the body.  The codec is chosen where the class makes its packet object, the
size of the leading by a constant in `SendPacket`; the two are tables here, one
line for each class.

The Uv classes post within the call.  The Kj classes hand the packet to their
thread, which posts it later; the pages it then hands to `SendRaw` are those of
the same `Post`.
-/

/-- `SIZE_OF_TCP_INNER_PACKET_LEADING`. -/
def sizeOfTcpInnerPacketLeading : Nat := 16

/-- `SIZE_OF_TCP_OUTER_PACKET_LEADING`. -/
def sizeOfTcpOuterPacketLeading : Nat := 2

/-- The connection classes of the four backends. -/
inductive ConnClass where
  | uvClientConn
  | uvIsolatedConn
  | uvIsolatedConn2
  | uvGateClientConn
  | uvGateIsolatedConn
  | uvGateIsolatedConn2
  | kjClientConn
  | kjIsolatedConn
  | kjIsolatedConn2
  | kjGateClientConn
  | kjGateIsolatedConn
  | kjGateIsolatedConn2
deriving DecidableEq

namespace ConnClass

/-- The packet class of `_packet` or `_thr_packet`, from `ConfirmClientIsReady`
and its siblings in the isolated classes. -/
def packetKind : ConnClass -> PacketKind
  | uvClientConn => .inner
  | uvIsolatedConn => .inner
  | uvIsolatedConn2 => .outer
  | uvGateClientConn => .outer
  | uvGateIsolatedConn => .outer
  | uvGateIsolatedConn2 => .inner
  | kjClientConn => .inner
  | kjIsolatedConn => .inner
  | kjIsolatedConn2 => .outer
  | kjGateClientConn => .outer
  | kjGateIsolatedConn => .outer
  | kjGateIsolatedConn2 => .inner

/-- `szHeaderLen` in `SendPacket`. -/
def szHeaderLen : ConnClass -> Nat
  | uvClientConn => sizeOfTcpInnerPacketLeading
  | uvIsolatedConn => sizeOfTcpInnerPacketLeading
  | uvIsolatedConn2 => sizeOfTcpOuterPacketLeading
  | uvGateClientConn => sizeOfTcpInnerPacketLeading
  | uvGateIsolatedConn => sizeOfTcpOuterPacketLeading
  | uvGateIsolatedConn2 => sizeOfTcpInnerPacketLeading
  | kjClientConn => sizeOfTcpInnerPacketLeading
  | kjIsolatedConn => sizeOfTcpInnerPacketLeading
  | kjIsolatedConn2 => sizeOfTcpOuterPacketLeading
  | kjGateClientConn => sizeOfTcpOuterPacketLeading
  | kjGateIsolatedConn => sizeOfTcpOuterPacketLeading
  | kjGateIsolatedConn2 => sizeOfTcpInnerPacketLeading

/-- The codec of a class. -/
def codec (connClass : ConnClass) (abi : Abi) : Codec := ⟨connClass.packetKind, abi⟩

/-- What a call of `SendPacket` returns, and what its `Post` does. -/
def sendPacket (connClass : ConnClass) (abi : Abi) (isReady : Bool)
    (sendRaw : List UInt8 -> Nat) (state : PacketState) (content : PacketContent) :
    Nat × Posted :=
  let szTypeNameLen := content.typeName.length
  let szBodyLen := content.body.length
  (connClass.szHeaderLen + szTypeNameLen + szBodyLen,
    post (connClass.codec abi) isReady sendRaw state content)

/-- Only one class counts the leading of the other codec. -/
theorem szHeaderLen_eq_leadingSize_iff (connClass : ConnClass) (abi : Abi) :
    connClass.szHeaderLen = (connClass.codec abi).leadingSize ↔
      connClass ≠ .uvGateClientConn := by
  cases abi <;> cases connClass <;> decide

end ConnClass

/-! ## What is on the wire -/

/-- The packet bytes in the pages handed to `SendRaw`: their lengths without
the page leadings. -/
def payloadSize (pages : List (List UInt8)) : Nat :=
  (pages.map fun page => page.length - sizeOfFramePageLeading).sum

/-- The page leadings apart, a page carries its data. -/
theorem payloadSize_bytes (pages : List Page) :
    payloadSize (pages.map Page.bytes) = (pages.map fun page => page.data.length).sum := by
  have each : (fun page : List UInt8 => page.length - sizeOfFramePageLeading) ∘ Page.bytes =
      fun page => page.data.length := by
    funext page
    rw [Function.comp_apply, Page.length_bytes]
    exact Nat.add_sub_cancel_left _ _
  rw [payloadSize, List.map_map, each]

/-- The pages of a packet carry its bytes, each of them once. -/
theorem Paginated.data_sum {start : Bool} {front rest : List UInt8} {pages : List Page}
    (paginated : Paginated start front rest pages) :
    (pages.map fun page => page.data.length).sum = front.length + rest.length := by
  induction paginated with
  | last _ _ data _ =>
      rw [List.map_singleton, List.sum_singleton, data, List.length_append]
  | more _ _ data _ _ _ inductionHypothesis =>
      rw [List.map_cons, List.sum_cons, inductionHypothesis, data, List.length_append,
        List.length_append, List.length_nil]
      omega

/-- A packet that may be posted is on the wire with its leading, name and body. -/
theorem post_payloadSize {codec : Codec} {content : PacketContent} {state : PacketState}
    (sendRaw : List UInt8 -> Nat) (postable : Postable codec content)
    (formed : state.sendPool.WellFormed codec.sendCapSize) :
    payloadSize (post codec true sendRaw state content).pages =
      codec.leadingSize + content.typeName.length + content.body.length := by
  rcases post_paginates sendRaw postable formed with ⟨bytes, pages, leading, paginated, sent, _⟩
  rw [sent, payloadSize_bytes, paginated.data_sum, List.length_append, leading.length]

namespace ConnClass

/-- On a ready connection and for a packet within the codec's limits,
`SendPacket` returns the number of packet bytes put on the wire in every class
but `CUvGateClientConn`, which counts the leading of the inner codec and posts
through the outer one. -/
theorem sendPacket_reports_payload_iff (connClass : ConnClass) (abi : Abi)
    (sendRaw : List UInt8 -> Nat) {state : PacketState} {content : PacketContent}
    (named : 1 ≤ content.typeName.length) (short : content.typeName.length ≤ 255)
    (bounded : (connClass.codec abi).leadingSize + content.typeName.length +
      content.body.length ≤ fullPacketMaxSizeHint - abi.sizeOfPacketBuffer)
    (formed : state.sendPool.WellFormed (connClass.codec abi).sendCapSize) :
    (connClass.sendPacket abi true sendRaw state content).1 =
        payloadSize (connClass.sendPacket abi true sendRaw state content).2.pages ↔
      connClass ≠ .uvGateClientConn := by
  have onTheWire := post_payloadSize sendRaw ⟨named, short, bounded⟩ formed
  rw [← szHeaderLen_eq_leadingSize_iff connClass abi]
  have posted : (connClass.sendPacket abi true sendRaw state content).2 =
      post (connClass.codec abi) true sendRaw state content := rfl
  have reported : (connClass.sendPacket abi true sendRaw state content).1 =
      connClass.szHeaderLen + content.typeName.length + content.body.length := rfl
  rw [posted, reported, onTheWire]
  omega

/-- A client of the Uv backend and a packet with one byte of body. -/
theorem sendPacket_reports_sample :
    (uvClientConn.sendPacket .pointer64 true List.length sampleSender samplePacket).1 =
      payloadSize
        (uvClientConn.sendPacket .pointer64 true List.length sampleSender samplePacket).2.pages :=
  (sendPacket_reports_payload_iff .uvClientConn .pointer64 List.length (by decide) (by decide)
    (by decide) (BufferPool.initial_wellFormed (fun _ _ => 0) _)).mpr (by decide)

/-- A packet with the name `A` and no body. -/
def namePacket : PacketContent := ⟨0, 0, [65], []⟩

/-- A gate client reports seventeen bytes where three are sent. -/
theorem gate_client_overcounts :
    (uvGateClientConn.sendPacket .pointer64 true List.length sampleSender namePacket).1 = 17 ∧
    payloadSize (uvGateClientConn.sendPacket .pointer64 true List.length sampleSender
      namePacket).2.pages = 3 := by
  constructor
  · rfl
  · exact post_payloadSize List.length ⟨by decide, by decide, by decide⟩
      (BufferPool.initial_wellFormed (fun _ _ => 0) _)

end ConnClass
end NetSystem
