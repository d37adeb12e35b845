import NetSystem.Packet.Decode

namespace NetSystem

/-!
# Posting a packet

`EncodeStream` and `Post` of `TcpInnerPacket.cpp` and `TcpOuterPacket.cpp`.  A
packet is sent as pages of at most `PER_FRAME_PAGE_SIZE_MAX` bytes.  They are
built one after the other in a send buffer: the first page has the packet
leading and the type name in front of its part of the body, the others have
only body.

The `int` variables of `Post` are integers; the conversions from `size_t` to
`int` wrap at 32 bits.  An assertion that fails, or a copy whose size is
negative or leaves the send buffer, is recorded as a fault and ends the call.
What the connection's `SendRaw` returns is a parameter; the pages it is given
are collected.
-/

/-- Conversion from `size_t` to `int`. -/
def toInt32 (size : Nat) : Int := (size : Int).bmod (2 ^ 32)

theorem toInt32_of_lt {size : Nat} (small : size < 2 ^ 31) : toInt32 size = size := by
  unfold toInt32
  exact Int.bmod_eq_of_le_mul_two (by omega) (by omega)

/-- The `cap_size` of a send buffer. -/
def Codec.sendCapSize (codec : Codec) : Nat := codec.capSizeOf (perFramePageSizeMax * 2)

/-- `EncodeStream`: the page leading, the packet leading and the type name, and
the offset at which the body starts. -/
def encodeStream (codec : Codec) (buffer : PacketBuffer) (content : PacketContent) :
    PacketBuffer × Int :=
  let nDataSize := toInt32 (codec.leadingSize + content.typeName.length + content.body.length)
  let nOutBodyOffset :=
    toInt32 (sizeOfFramePageLeading + codec.leadingSize + content.typeName.length)
  let framed := PageLeading.store ⟨true, false, BitVec.ofInt 14 nDataSize⟩ buffer.data 0
  let led := codec.storeLeading framed sizeOfFramePageLeading content
  let named := led.write (sizeOfFramePageLeading + codec.leadingSize) content.typeName
  ({ buffer with data := named, size := (nOutBodyOffset + content.body.length).toNat },
    nOutBodyOffset)

/-- The local variables of `Post`. -/
structure PostCursor where
  buffer : PacketBuffer
  nOffset : Int
  ptr : Nat
  nremains : Int
  szSend : Nat
  pages : List (List UInt8)
  fault : Bool

namespace PostCursor

/-- The page leading in the send buffer. -/
def pageLeading (cursor : PostCursor) : PageLeading := PageLeading.load cursor.buffer.data 0

/-- How much of the body goes into the page. -/
def nsends (cursor : PostCursor) : Int :=
  min ((perFramePageSizeMax : Int) - cursor.nOffset) cursor.nremains

/-- The size of the page. -/
def pageSize (cursor : PostCursor) : Nat := (cursor.nOffset + cursor.nsends).toNat

/-- The send buffer with its part of the body. -/
def copied (body : List UInt8) (cursor : PostCursor) : Memory UInt8 :=
  cursor.buffer.data.write cursor.nOffset.toNat ((body.drop cursor.ptr).take cursor.nsends.toNat)

/-- The leading with which the page is sent. -/
def sentLeading (body : List UInt8) (cursor : PostCursor) : PageLeading :=
  { PageLeading.load (cursor.copied body) 0 with
    pageEnd := decide (cursor.nremains - cursor.nsends ≤ 0)
    dataSize := BitVec.ofInt 14 ((cursor.pageSize : Int) - sizeOfFramePageLeading) }

/-- The page as it is sent. -/
def page (body : List UInt8) (cursor : PostCursor) : Memory UInt8 :=
  (cursor.sentLeading body).store (cursor.copied body) 0

/-- After the page has been sent: no start flag and only a leading in front of
the next page. -/
def sendPage (sendRaw : List UInt8 -> Nat) (body : List UInt8) (cursor : PostCursor) :
    PostCursor :=
  let bytes := (cursor.page body).read 0 cursor.pageSize
  { buffer :=
      { cursor.buffer with
        data := PageLeading.store { cursor.sentLeading body with pageStart := false }
          (cursor.page body) 0
        size := cursor.pageSize }
    nOffset := sizeOfFramePageLeading
    ptr := cursor.ptr + cursor.nsends.toNat
    nremains := cursor.nremains - cursor.nsends
    szSend := cursor.szSend + sendRaw bytes
    pages := cursor.pages ++ [bytes]
    fault := cursor.fault }

/-- The copy has a size and stays inside the send buffer. -/
def CopyFits (cursor : PostCursor) : Prop :=
  0 ≤ cursor.nOffset ∧ 0 ≤ cursor.nsends ∧
    cursor.nOffset + cursor.nsends ≤ cursor.buffer.capSize

instance (cursor : PostCursor) : Decidable cursor.CopyFits :=
  inferInstanceAs (Decidable (_ ∧ _))

end PostCursor

/-- One pass of the `while` loop: fill up the page with body, complete its
leading, send it, and prepare the leading of the next page. -/
def postTurn (sendRaw : List UInt8 -> Nat) (body : List UInt8) (cursor : PostCursor) :
    Turn PostCursor :=
  if cursor.pageLeading.pageEnd then .halt cursor
  else if cursor.CopyFits then .again (cursor.sendPage sendRaw body)
  else .halt { cursor with fault := true }

/-- Nothing once the last page is sent; before, the body left, and one more for
the first page, which may be filled by the name alone. -/
def postMeasure (cursor : PostCursor) : Nat :=
  if cursor.pageLeading.pageEnd then 0
  else 1 + 2 * cursor.nremains.toNat + (if cursor.nOffset = sizeOfFramePageLeading then 0 else 1)

theorem PageLeading.load_store (leading : PageLeading) (memory : Memory UInt8) (address : Nat) :
    PageLeading.load (leading.store memory address) address = leading := by
  have back := Memory.read_write_self memory address leading.bytes
  rw [PageLeading.length_bytes] at back
  rw [PageLeading.load, PageLeading.store, back]
  have whole := leading.ofBytes_append []
  rwa [List.append_nil] at whole

theorem sendPage_pageLeading (sendRaw : List UInt8 -> Nat) (body : List UInt8)
    (cursor : PostCursor) :
    (cursor.sendPage sendRaw body).pageLeading =
      { cursor.sentLeading body with pageStart := false } :=
  PageLeading.load_store _ _ _

theorem postTurn_decreases (sendRaw : List UInt8 -> Nat) (body : List UInt8)
    (cursor next : PostCursor) (pass : postTurn sendRaw body cursor = .again next) :
    postMeasure next < postMeasure cursor := by
  unfold postTurn at pass
  split at pass
  · cases pass
  · rename_i notEnd
    split at pass
    · rename_i fits
      cases pass
      have before : postMeasure cursor = 1 + 2 * cursor.nremains.toNat +
          (if cursor.nOffset = sizeOfFramePageLeading then 0 else 1) := if_neg notEnd
      have ends : (cursor.sendPage sendRaw body).pageLeading.pageEnd =
          decide (cursor.nremains - cursor.nsends ≤ 0) := by
        rw [sendPage_pageLeading]
        rfl
      have later : (if (cursor.sendPage sendRaw body).nOffset = sizeOfFramePageLeading then 0
          else 1) = 0 := if_pos rfl
      have remains : (cursor.sendPage sendRaw body).nremains = cursor.nremains - cursor.nsends := rfl
      rcases fits with ⟨_, positive, _⟩
      rw [before, postMeasure, ends, later, remains]
      simp only [decide_eq_true_eq]
      unfold PostCursor.nsends perFramePageSizeMax tcpStreamReadSize at *
      unfold sizeOfFramePageLeading
      split
      · omega
      · split
        · omega
        · omega
    · cases pass

/-- The `while` loop of `Post`. -/
def postLoop (sendRaw : List UInt8 -> Nat) (body : List UInt8) : Loop PostCursor where
  turn := postTurn sendRaw body
  measure := postMeasure
  decreases := postTurn_decreases sendRaw body

/-- The cursor with which `Post` enters its loop. -/
def postStart (codec : Codec) (buffer : PacketBuffer) (content : PacketContent) : PostCursor :=
  let encoded := encodeStream codec buffer content
  ⟨encoded.1, encoded.2, 0, toInt32 content.body.length, 0, [], false⟩

/-- What a call of `Post` leaves behind. -/
structure Posted where
  szSend : Nat
  pages : List (List UInt8)
  state : PacketState
  fault : Bool

/-- `Post` on a connection that is ready or not. -/
def post (codec : Codec) (isReady : Bool) (sendRaw : List UInt8 -> Nat) (state : PacketState)
    (content : PacketContent) : Posted :=
  if isReady then
    match state.sendPool.packetBufferAlloc codec.sendCapSize 1 with
    | none => ⟨0, [], state, true⟩
    | some (entry, pool) =>
        let start := postStart codec (pool.entries entry) content
        if start.nOffset < (pool.entries entry).capSize then
          let last := (postLoop sendRaw content.body).exec start
          ⟨last.szSend, last.pages,
            { state with
              sendPool := (pool.set entry last.buffer).packetBufferFree entry
              packet := { state.packet with refSendBuf := none } },
            last.fault⟩
        else ⟨0, [], { state with sendPool := pool }, true⟩
  else ⟨0, [], state, false⟩

/-- Packets posted one by one. -/
def postAll (codec : Codec) (isReady : Bool) (sendRaw : List UInt8 -> Nat) :
    PacketState -> List PacketContent -> Posted
  | state, [] => ⟨0, [], state, false⟩
  | state, content :: contents =>
      let first := post codec isReady sendRaw state content
      let rest := postAll codec isReady sendRaw first.state contents
      ⟨first.szSend + rest.szSend, first.pages ++ rest.pages, rest.state, first.fault || rest.fault⟩

end NetSystem
