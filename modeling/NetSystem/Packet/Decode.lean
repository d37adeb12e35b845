import NetSystem.Base.BipBuf
import NetSystem.Foundation.Loop
import NetSystem.Packet.Buffers

namespace NetSystem

/-!
# The incremental decoder

`ConsumePacket`, `ConsumeFramePage` and `DecodeStream` of `TcpInnerPacket.cpp`
and `TcpOuterPacket.cpp`.  The decoder is a state machine over the committed
bytes of a receive buffer: it waits for a page leading, then for the whole
page, and hands the page's data to `ConsumePacket`, which collects the pages
of a packet in a receive buffer of the class's pool.  A page that can never
fit the buffer is skipped.

The functions report what they do to memory besides returning a result: the
block handed to `ConsumePacket`, each subtraction from the 14-bit page size,
each copy into a receive buffer, and each call of the got-packet callback with
the bytes it is given.
-/

/-- `FRAME_PAGE_STATE`. -/
inductive FramePageState where
  | receiveLeading
  | receiveBody
  | skip
deriving DecidableEq

/-- The receive and send members of `CTcpInnerPacket` or `CTcpOuterPacket`. -/
structure TcpPacket where
  eRecvPageState : FramePageState
  recvPageLeading : PageLeading
  refRecvBuf : Option Nat
  refSendBuf : Option Nat

namespace TcpPacket

/-- A constructed object. -/
def initial : TcpPacket := ⟨.receiveLeading, ⟨false, false, 0⟩, none, none⟩

end TcpPacket

/-- A packet object with the two static pools of its class. -/
structure PacketState where
  recvPool : BufferPool
  sendPool : BufferPool
  packet : TcpPacket

/-- What the decoder reports. -/
inductive RecvEvent where
  | page (pointer size : Nat)
  | shrink (dataSize amount : Int)
  | memcpy (offset size capSize : Nat)
  | gotPacket (buffer : List UInt8)

namespace PacketState

def setPageState (state : PacketState) (pageState : FramePageState) : PacketState :=
  { state with packet := { state.packet with eRecvPageState := pageState } }

def setLeading (state : PacketState) (leading : PageLeading) : PacketState :=
  { state with packet := { state.packet with recvPageLeading := leading } }

/-- Assignment to the 14-bit page size. -/
def setDataSize (state : PacketState) (dataSize : BitVec 14) : PacketState :=
  state.setLeading { state.packet.recvPageLeading with dataSize := dataSize }

/-- Install a receive buffer together with the pool it comes from. -/
def setRecvBuf (state : PacketState) (pool : BufferPool) (entry : Option Nat) : PacketState :=
  { state with recvPool := pool, packet := { state.packet with refRecvBuf := entry } }

/-- Give the receive buffer back to its pool. -/
def freeRecvBuf (state : PacketState) (entry : Nat) : PacketState :=
  state.setRecvBuf (state.recvPool.packetBufferFree entry) none

/-- `Clear`: wait for a leading and give both buffers back. -/
def clear (state : PacketState) : PacketState :=
  let waiting := state.setPageState .receiveLeading
  let received :=
    match waiting.packet.refRecvBuf with
    | some entry => waiting.freeRecvBuf entry
    | none => waiting
  match received.packet.refSendBuf with
  | some entry =>
      { received with
        sendPool := received.sendPool.packetBufferFree entry
        packet := { received.packet with refSendBuf := none } }
  | none => received

end PacketState

/-- The result of `ConsumePacket`. -/
structure Consumed where
  rc : Int
  state : PacketState
  events : List RecvEvent

/-- `ConsumePacket` on the `nLen` bytes at `pBuf`. -/
def consumePacket (codec : Codec) (state : PacketState) (memory : Memory UInt8)
    (pBuf nLen : Nat) : Consumed :=
  let leading := state.packet.recvPageLeading
  let page := memory.read pBuf nLen
  if leading.pageStart ∧ leading.pageEnd then
    let nameLen := Codec.nameLen memory pBuf
    if 0 < nameLen ∧ codec.leadingSize + nameLen ≤ nLen then
      ⟨0, state, [.gotPacket page]⟩
    else ⟨-1, state, []⟩
  else if leading.pageStart then
    -- first page: the buffer is replaced without looking at the old one
    match state.recvPool.packetBufferAlloc codec.recvCapSize codec.recvNumHint with
    | none => ⟨-2, state, []⟩
    | some (entry, pool) =>
        let buffer := pool.entries entry
        if buffer.size + nLen ≤ buffer.capSize then
          ⟨0, state.setRecvBuf (pool.set entry (buffer.append page)) (some entry),
            [.memcpy buffer.size nLen buffer.capSize]⟩
        else ⟨-2, state.setRecvBuf (pool.packetBufferFree entry) none, []⟩
  else
    match state.packet.refRecvBuf with
    | none => ⟨-6, state, []⟩
    | some entry =>
        let buffer := state.recvPool.entries entry
        if leading.pageEnd then
          if buffer.size + nLen ≤ buffer.capSize then
            let whole := buffer.append page
            let stored := state.setRecvBuf (state.recvPool.set entry whole) (some entry)
            let nameLen := Codec.nameLen whole.data 0
            if 0 < nameLen ∧ codec.leadingSize + nameLen ≤ whole.size then
              ⟨0, stored.freeRecvBuf entry,
                [.memcpy buffer.size nLen buffer.capSize, .gotPacket whole.contents]⟩
            else ⟨-3, stored.freeRecvBuf entry, [.memcpy buffer.size nLen buffer.capSize]⟩
          else ⟨-4, state.freeRecvBuf entry, []⟩
        else if buffer.size + nLen ≤ buffer.capSize then
          ⟨0, state.setRecvBuf (state.recvPool.set entry (buffer.append page)) (some entry),
            [.memcpy buffer.size nLen buffer.capSize]⟩
        else ⟨-5, state.freeRecvBuf entry, []⟩

/-! ## The page loop -/

/-- The local variables of `ConsumeFramePage`. -/
structure FrameCursor where
  ptr : Nat
  nremains : Int
  nconsumed : Int
  state : PacketState
  events : List RecvEvent

namespace FrameCursor

/-- Move over `count` bytes. -/
def advance (cursor : FrameCursor) (count : Int) : FrameCursor :=
  { cursor with
    ptr := cursor.ptr + count.toNat
    nremains := cursor.nremains - count
    nconsumed := cursor.nconsumed + count }

end FrameCursor

/-- One pass of the `while` loop.  `continue` is `again`, `goto loop_halt` is
`halt`.  The subtractions from `data_size` are those of a 14-bit field. -/
def framePageTurn (codec : Codec) (memory : Memory UInt8) (nCapacity : Int)
    (cursor : FrameCursor) : Turn FrameCursor :=
  match cursor.state.packet.eRecvPageState with
  | .receiveLeading =>
      let nwants : Int := sizeOfFramePageLeading
      if cursor.nremains < nwants then .halt cursor
      else
        let leading := PageLeading.load memory cursor.ptr
        let read := { cursor with state := cursor.state.setLeading leading }
        let dataSize : Int := leading.dataSize.toNat
        if leading.dataSize = 0 then .halt { read with nconsumed := -99 }
        else if nwants + dataSize ≤ nCapacity then
          .again { read with state := read.state.setPageState .receiveBody }
        else
          -- page overflow: everything present is skipped and the call ends
          let nskip := read.nremains
          let shrunk := leading.dataSize - BitVec.ofInt 14 (nskip - nwants)
          let skipping := (read.state.setDataSize shrunk).setPageState .skip
          .halt { read.advance nskip with
            state := skipping
            events := read.events ++ [.shrink dataSize (nskip - nwants)] }
  | .receiveBody =>
      let dataSize := cursor.state.packet.recvPageLeading.dataSize.toNat
      let nwants : Int := sizeOfFramePageLeading + dataSize
      if cursor.nremains < nwants then .halt cursor
      else
        let pBuf := cursor.ptr + sizeOfFramePageLeading
        let consumed := consumePacket codec cursor.state memory pBuf dataSize
        let events := cursor.events ++ .page pBuf dataSize :: consumed.events
        if codec.rejects consumed.rc then
          .halt { cursor with nconsumed := consumed.rc, state := consumed.state, events := events }
        else
          .again { cursor.advance nwants with
            state := consumed.state.setPageState .receiveLeading
            events := events }
  | .skip =>
      let dataSize := cursor.state.packet.recvPageLeading.dataSize
      let nskip : Int := min cursor.nremains dataSize.toNat
      let shrunk := dataSize - BitVec.ofInt 14 nskip
      let skipped := cursor.state.setDataSize shrunk
      -- the next page is left for the next call even when it is complete
      .halt { cursor.advance nskip with
        state := if shrunk = 0 then skipped.setPageState .receiveLeading else skipped
        events := cursor.events ++ [.shrink dataSize.toNat nskip] }

/-- Twice the bytes left, and one more while a leading is awaited. -/
def framePageMeasure (cursor : FrameCursor) : Nat :=
  2 * cursor.nremains.toNat +
    (match cursor.state.packet.eRecvPageState with
      | .receiveLeading => 1
      | _ => 0)

theorem framePageTurn_decreases (codec : Codec) (memory : Memory UInt8) (nCapacity : Int)
    (cursor next : FrameCursor) (pass : framePageTurn codec memory nCapacity cursor = .again next) :
    framePageMeasure next < framePageMeasure cursor := by
  unfold framePageTurn at pass
  cases pageState : cursor.state.packet.eRecvPageState with
  | receiveLeading =>
      simp only [pageState] at pass
      split at pass
      · cases pass
      · split at pass
        · cases pass
        · split at pass
          · cases pass
            simp only [framePageMeasure, pageState, PacketState.setPageState]
            omega
          · cases pass
  | receiveBody =>
      simp only [pageState] at pass
      split at pass
      · cases pass
      · split at pass
        · cases pass
        · rename_i enough _
          cases pass
          simp only [framePageMeasure, pageState, PacketState.setPageState, FrameCursor.advance,
            sizeOfFramePageLeading] at enough ⊢
          omega
  | skip =>
      simp only [pageState] at pass
      cases pass

/-- The `while` loop of `ConsumeFramePage`. -/
def framePageLoop (codec : Codec) (memory : Memory UInt8) (nCapacity : Int) : Loop FrameCursor where
  turn := framePageTurn codec memory nCapacity
  measure := framePageMeasure
  decreases := framePageTurn_decreases codec memory nCapacity

/-- The cursor with which `ConsumeFramePage` enters its loop. -/
def frameStart (state : PacketState) (pBuf : Nat) (nLen : Int) : FrameCursor :=
  ⟨pBuf, nLen, 0, state, []⟩

/-- `ConsumeFramePage`; the result is `nconsumed` of the last cursor. -/
def consumeFramePage (codec : Codec) (state : PacketState) (memory : Memory UInt8)
    (pBuf : Nat) (nLen nCapacity : Int) : FrameCursor :=
  (framePageLoop codec memory nCapacity).exec (frameStart state pBuf nLen)

/-- How a call of `DecodeStream` ends: with the number of bytes consumed, or
with the exception that names the error number. -/
structure Decoded where
  result : Except Int Int
  state : PacketState
  bb : BipBuf
  events : List RecvEvent

/-- `DecodeStream`. -/
def decodeStream (codec : Codec) (state : PacketState) (bb : BipBuf) : Decoded :=
  let last := consumeFramePage codec state bb.buffer bb.getContiguousBlock bb.getCommittedSize
    bb.getCapacity
  if last.nconsumed > 0 then
    ⟨.ok last.nconsumed, last.state, (bb.decommit last.nconsumed.toNat).1, last.events⟩
  else if 0 = last.nconsumed then ⟨.ok 0, last.state, bb, last.events⟩
  else ⟨.error last.nconsumed, last.state, bb, last.events⟩

/-! ## A receiving connection -/

/-- The receive buffer of a connection, its packet object, and everything the
decoder has reported. -/
structure Receiver where
  bb : BipBuf
  state : PacketState
  events : List RecvEvent

/-- How a receiver takes one chunk. -/
inductive Fed where
  | decoded (receiver : Receiver)
  | thrown (errno : Int) (receiver : Receiver)
  | refused

namespace Receiver

/-- A connection with an empty buffer of `TCP_STREAM_READ_SIZE` bytes and a
newly constructed packet object. -/
def fresh (recvPool sendPool : BufferPool) (uninitialised : Memory UInt8) : Receiver :=
  ⟨BipBuf.create tcpStreamReadSize uninitialised, ⟨recvPool, sendPool, TcpPacket.initial⟩, []⟩

/-- Commit the bytes written into the reservation and decode. -/
def commitAndDecode (codec : Codec) (receiver : Receiver) (bb : BipBuf) (size : Nat) : Fed :=
  let done := decodeStream codec receiver.state (bb.commit size)
  let next : Receiver := ⟨done.bb, done.state, receiver.events ++ done.events⟩
  match done.result with
  | .ok _ => .decoded next
  | .error errno => .thrown errno next

/-- One read: reserve, write the chunk, commit, decode.  A chunk that does not
fit the reservation cannot be read. -/
def feed (codec : Codec) (receiver : Receiver) (chunk : List UInt8) : Fed :=
  let reservation := receiver.bb.reserve
  match reservation.pointer with
  | none => .refused
  | some _ =>
      if chunk.length ≤ reservation.size then
        receiver.commitAndDecode codec (reservation.bb.writeReserved 0 chunk) chunk.length
      else .refused

/-- A sequence of reads, up to the first that does not return normally. -/
def feedAll (codec : Codec) (receiver : Receiver) : List (List UInt8) -> Fed
  | [] => .decoded receiver
  | chunk :: chunks =>
      match receiver.feed codec chunk with
      | .decoded next => next.feedAll codec chunks
      | .thrown errno next => .thrown errno next
      | .refused => .refused

/-- The buffers handed to the got-packet callback, in order. -/
def packetsOf (events : List RecvEvent) : List (List UInt8) :=
  events.filterMap fun
    | .gotPacket buffer => some buffer
    | _ => none

/-- The packets delivered so far, as `OnGotPacket` reads them. -/
def delivered (codec : Codec) (receiver : Receiver) : List GotPacket :=
  (packetsOf receiver.events).map codec.onGotPacket

end Receiver
end NetSystem
