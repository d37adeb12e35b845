import NetSystem.Foundation.History
import NetSystem.Packet.PageDecoding

namespace NetSystem

universe u

open Receiver

/-!
# Packet handlers that disconnect their connection

The Uv factory has no second thread: its packet callbacks call the event manager
at once, so the handler of a packet runs inside `ConsumePacket`, in the middle of
the page loop.  A handler that calls `Disconnect` on the connection makes
`DisposeConnection` delete the packet object that the loop belongs to.  What
follows the callback uses that object: `ConsumePacket` gives its receive buffer
back, or `ConsumeFramePage` sets its page state.

A use of the deleted object has no defined behaviour, so a run ends there, with
`used`.  Everything else that a handler does is a change of its own state; what it
sends and what it does to other connections is left out.
-/

/-- The members of a Uv connection that `Disconnect` works with.  `client` is its
class, `managed` says whether the connection manager has it, and `packet` and
`sockimpl` whether the pointers are not null. -/
structure UvConn where
  client : Bool
  managed : Bool
  bRunning : Bool
  bConnected : Bool
  bDisposed : Bool
  bFlushed : Bool
  packet : Bool
  sockimpl : Bool
deriving DecidableEq

/-- What the event manager of the connection is told. -/
inductive UvNotice where
  | packet (got : GotPacket)
  | disconnected
deriving DecidableEq

namespace UvConn

/-- A connection on which reading has been started. -/
def established (client : Bool) : UvConn where
  client := client
  managed := true
  bRunning := true
  bConnected := true
  bDisposed := false
  bFlushed := false
  packet := true
  sockimpl := true

def onDisconnect (conn : UvConn) : UvConn × List UvNotice :=
  if conn.bConnected then ({ conn with bConnected := false }, [.disconnected]) else (conn, [])

def flushStream (conn : UvConn) : UvConn :=
  if conn.sockimpl && !conn.bFlushed then { conn with sockimpl := false, bFlushed := true }
  else conn

def disposeConnection (conn : UvConn) : UvConn :=
  if conn.bDisposed then conn else flushStream { conn with bDisposed := true, packet := false }

/-- `OnRemoveClient` of the manager, which releases the client if it has it. -/
def onRemoveClient (conn : UvConn) : UvConn :=
  if conn.managed then { conn.disposeConnection with managed := false } else conn

/-- `Disconnect`.  A client is removed, an isolated connection is released. -/
def disconnect (conn : UvConn) : UvConn × List UvNotice :=
  if !conn.bDisposed && conn.bRunning then
    let stopped := onDisconnect { conn with bRunning := false }
    (if conn.client then stopped.1.onRemoveClient else stopped.1.disposeConnection, stopped.2)
  else (conn, [])

end UvConn

/-- The connection with the state of the handlers and what they have been told. -/
structure UvSession (σ : Type u) where
  conn : UvConn
  user : σ
  trace : List UvNotice

variable {σ : Type u}

/-- What handlers do about a packet: whether they call `Disconnect`, and their
state afterwards. -/
abbrev PacketHandler (σ : Type u) : Type u := σ -> GotPacket -> Bool × σ

namespace UvSession

/-- `OnGotPacket` with the callback of the factory and the handlers. -/
def onGotPacket (codec : Codec) (handler : PacketHandler σ) (session : UvSession σ)
    (buffer : List UInt8) : UvSession σ :=
  let got := codec.onGotPacket buffer
  let handled := handler session.user got
  let ended := if handled.1 then session.conn.disconnect else (session.conn, [])
  ⟨ended.1, handled.2, session.trace ++ .packet got :: ended.2⟩

/-- The packets one after the other, as long as the packet object exists. -/
def onGotPackets (codec : Codec) (handler : PacketHandler σ) (session : UvSession σ) :
    List (List UInt8) -> UvSession σ
  | [] => session
  | buffer :: buffers =>
      let told := session.onGotPacket codec handler buffer
      if told.conn.packet then told.onGotPackets codec handler buffers else told

end UvSession

/-! ## The page loop with its callbacks -/

/-- What the next pass of the page loop hands to the got-packet callback. -/
def FrameCursor.packets (codec : Codec) (memory : Memory UInt8) (cursor : FrameCursor) :
    List (List UInt8) :=
  match cursor.state.packet.eRecvPageState with
  | .receiveBody =>
      let dataSize := cursor.state.packet.recvPageLeading.dataSize.toNat
      if cursor.nremains < sizeOfFramePageLeading + dataSize then []
      else
        packetsOf (consumePacket codec cursor.state memory (cursor.ptr + sizeOfFramePageLeading)
          dataSize).events
  | _ => []

/-- The local variables of `ConsumeFramePage` with the connection.  `used` says
that the deleted packet object has been used. -/
structure UvCursor (σ : Type u) where
  frame : FrameCursor
  session : UvSession σ
  used : Bool

/-- One pass.  The callback returns into the middle of it, and the rest of the
pass uses the packet object. -/
def uvFramePageTurn (codec : Codec) (handler : PacketHandler σ) (memory : Memory UInt8)
    (nCapacity : Int) (cursor : UvCursor σ) : Turn (UvCursor σ) :=
  let session := cursor.session.onGotPackets codec handler (cursor.frame.packets codec memory)
  if session.conn.packet then
    (framePageTurn codec memory nCapacity cursor.frame).map fun frame =>
      ⟨frame, session, cursor.used⟩
  else .halt ⟨cursor.frame, session, true⟩

theorem uvFramePageTurn_alive {codec : Codec} {handler : PacketHandler σ} {memory : Memory UInt8}
    {nCapacity : Int} {cursor : UvCursor σ}
    (alive : (cursor.session.onGotPackets codec handler
      (cursor.frame.packets codec memory)).conn.packet = true) :
    uvFramePageTurn codec handler memory nCapacity cursor =
      (framePageTurn codec memory nCapacity cursor.frame).map fun frame =>
        ⟨frame, cursor.session.onGotPackets codec handler (cursor.frame.packets codec memory),
          cursor.used⟩ := if_pos alive

theorem uvFramePageTurn_deleted {codec : Codec} {handler : PacketHandler σ}
    {memory : Memory UInt8} {nCapacity : Int} {cursor : UvCursor σ}
    (deleted : (cursor.session.onGotPackets codec handler
      (cursor.frame.packets codec memory)).conn.packet = false) :
    uvFramePageTurn codec handler memory nCapacity cursor =
      .halt ⟨cursor.frame,
        cursor.session.onGotPackets codec handler (cursor.frame.packets codec memory), true⟩ :=
  if_neg (Bool.eq_false_iff.mp deleted)

theorem uvFramePageTurn_decreases (codec : Codec) (handler : PacketHandler σ)
    (memory : Memory UInt8) (nCapacity : Int) (cursor next : UvCursor σ)
    (pass : uvFramePageTurn codec handler memory nCapacity cursor = .again next) :
    framePageMeasure next.frame < framePageMeasure cursor.frame := by
  cases alive : (cursor.session.onGotPackets codec handler
      (cursor.frame.packets codec memory)).conn.packet with
  | true =>
      rw [uvFramePageTurn_alive alive] at pass
      cases plain : framePageTurn codec memory nCapacity cursor.frame with
      | halt last =>
          rw [plain] at pass
          cases pass
      | again frame =>
          rw [plain] at pass
          cases pass
          exact framePageTurn_decreases codec memory nCapacity cursor.frame frame plain
  | false =>
      rw [uvFramePageTurn_deleted alive] at pass
      cases pass

def uvFramePageLoop (codec : Codec) (handler : PacketHandler σ) (memory : Memory UInt8)
    (nCapacity : Int) : Loop (UvCursor σ) where
  turn := uvFramePageTurn codec handler memory nCapacity
  measure := fun cursor => framePageMeasure cursor.frame
  decreases := uvFramePageTurn_decreases codec handler memory nCapacity

/-! ## Reading -/

/-- A connection that is reading. -/
structure UvReader (σ : Type u) where
  receiver : Receiver
  session : UvSession σ

/-- How the reads of a connection end. -/
inductive ReadEnd where
  | returned
  | thrown (errno : Int)
  | used
  | refused
deriving DecidableEq

structure UvRead (σ : Type u) where
  ending : ReadEnd
  reader : UvReader σ

namespace UvReader

/-- A connection on which reading has been started. -/
def start (client : Bool) (receiver : Receiver) (user : σ) : UvReader σ :=
  ⟨receiver, ⟨.established client, user, []⟩⟩

/-- `OnRawData`, which is `DecodeStream` of the packet object. -/
def onRawData (codec : Codec) (handler : PacketHandler σ) (reader : UvReader σ) (bb : BipBuf) :
    UvRead σ :=
  let first := frameStart reader.receiver.state bb.getContiguousBlock bb.getCommittedSize
  let last := (uvFramePageLoop codec handler bb.buffer bb.getCapacity).exec
    ⟨first, reader.session, false⟩
  let events := reader.receiver.events ++ last.frame.events
  if last.used then ⟨.used, ⟨⟨bb, last.frame.state, events⟩, last.session⟩⟩
  else if last.frame.nconsumed > 0 then
    ⟨.returned, ⟨⟨(bb.decommit last.frame.nconsumed.toNat).1, last.frame.state, events⟩,
      last.session⟩⟩
  else if 0 = last.frame.nconsumed then
    ⟨.returned, ⟨⟨bb, last.frame.state, events⟩, last.session⟩⟩
  else ⟨.thrown last.frame.nconsumed, ⟨⟨bb, last.frame.state, events⟩, last.session⟩⟩

/-- `on_client_read` or `on_isolated_recv` with the bytes of a chunk.  The loop
reads from an open socket, and at most what `alloc_cb` has reserved. -/
def read (codec : Codec) (handler : PacketHandler σ) (reader : UvReader σ) (chunk : List UInt8) :
    UvRead σ :=
  let reservation := reader.receiver.bb.reserve
  match reader.session.conn.sockimpl, reservation.pointer with
  | true, some _ =>
      if chunk.length ≤ reservation.size then
        reader.onRawData codec handler
          ((reservation.bb.writeReserved 0 chunk).commit chunk.length)
      else ⟨.refused, reader⟩
  | _, _ => ⟨.refused, reader⟩

/-- The chunks one after the other, up to the first read that does not return. -/
def readAll (codec : Codec) (handler : PacketHandler σ) (reader : UvReader σ) :
    List (List UInt8) -> UvRead σ
  | [] => ⟨.returned, reader⟩
  | chunk :: chunks =>
      let result := reader.read codec handler chunk
      match result.ending with
      | .returned => result.reader.readAll codec handler chunks
      | _ => result

end UvReader

/-- No packet is delivered after the disconnect. -/
def PacketsFirst (trace : List UvNotice) : Prop :=
  EachAfter (fun before notice => Exists (fun got => notice = .packet got) ->
    .disconnected ∉ before) trace

/-- No packet is delivered after the disconnect, and the deleted packet object
is not used. -/
def UvRead.Safe (result : UvRead σ) : Prop :=
  result.ending ≠ .used ∧ PacketsFirst result.reader.session.trace

/-! ## The packets of a stream -/

/-- What the decoder reports about a chunk. -/
def Fed.events : Fed -> List RecvEvent
  | .decoded receiver => receiver.events
  | .thrown _ receiver => receiver.events
  | .refused => []

/-- The packets that the decoder hands on for a chunk. -/
def chunkPackets (codec : Codec) (receiver : Receiver) (chunk : List UInt8) : List (List UInt8) :=
  packetsOf (Receiver.feed codec { receiver with events := [] } chunk).events

/-- The packets that the decoder hands on for the chunks, when nothing
interferes. -/
def streamPackets (codec : Codec) (receiver : Receiver) : List (List UInt8) -> List (List UInt8)
  | [] => []
  | chunk :: chunks =>
      chunkPackets codec receiver chunk ++
        match receiver.feed codec chunk with
        | .decoded next => streamPackets codec next chunks
        | _ => []

/-- On none of the packets do the handlers call `Disconnect`. -/
def PacketHandler.stays (handler : PacketHandler σ) : σ -> List GotPacket -> Bool
  | _, [] => true
  | user, got :: rest => !(handler user got).1 && stays handler (handler user got).2 rest

/-! ## The handlers -/

namespace UvSession

variable {codec : Codec} {handler : PacketHandler σ} {session : UvSession σ}

theorem onGotPackets_append (alive : session.conn.packet = true)
    (buffers more : List (List UInt8)) :
    session.onGotPackets codec handler (buffers ++ more) =
      if (session.onGotPackets codec handler buffers).conn.packet then
        (session.onGotPackets codec handler buffers).onGotPackets codec handler more
      else session.onGotPackets codec handler buffers := by
  induction buffers generalizing session with
  | nil =>
      rw [onGotPackets, if_pos alive]
      rfl
  | cons buffer buffers inductionHypothesis =>
      rw [List.cons_append, onGotPackets, onGotPackets]
      cases told : (session.onGotPacket codec handler buffer).conn.packet with
      | true =>
          rw [if_pos rfl, if_pos rfl]
          exact inductionHypothesis told
      | false =>
          rw [if_neg Bool.false_ne_true, if_neg Bool.false_ne_true, told]
          exact (if_neg Bool.false_ne_true).symm

theorem onGotPacket_stays {client : Bool} (conn : session.conn = .established client)
    {buffer : List UInt8}
    (stays : (handler session.user (codec.onGotPacket buffer)).1 = false) :
    session.onGotPacket codec handler buffer =
      ⟨.established client, (handler session.user (codec.onGotPacket buffer)).2,
        session.trace ++ [.packet (codec.onGotPacket buffer)]⟩ := by
  rw [onGotPacket, stays, conn]
  rfl

theorem onGotPacket_disconnects {client : Bool} (conn : session.conn = .established client)
    {buffer : List UInt8}
    (disconnects : (handler session.user (codec.onGotPacket buffer)).1 = true) :
    session.onGotPacket codec handler buffer =
      ⟨(UvConn.established client).disconnect.1,
        (handler session.user (codec.onGotPacket buffer)).2,
        session.trace ++ [.packet (codec.onGotPacket buffer)] ++ [.disconnected]⟩ := by
  rw [onGotPacket, disconnects, conn, List.append_assoc]
  rfl

theorem disconnect_packet (client : Bool) :
    (UvConn.established client).disconnect.1.packet = false := by
  cases client <;> rfl

/-- The packet object outlives the packets if no handler disconnects. -/
theorem onGotPackets_packet {client : Bool} (conn : session.conn = .established client)
    (buffers : List (List UInt8)) :
    (session.onGotPackets codec handler buffers).conn.packet =
      handler.stays session.user (buffers.map codec.onGotPacket) := by
  induction buffers generalizing session with
  | nil =>
      rw [onGotPackets, conn]
      rfl
  | cons buffer buffers inductionHypothesis =>
      rw [onGotPackets, List.map_cons, PacketHandler.stays]
      cases handled : (handler session.user (codec.onGotPacket buffer)).1 with
      | true =>
          rw [onGotPacket_disconnects conn handled]
          rw [if_neg (Bool.eq_false_iff.mp (disconnect_packet client))]
          exact disconnect_packet client
      | false =>
          rw [onGotPacket_stays conn handled]
          exact inductionHypothesis rfl

/-- A connection whose packet object still exists is established. -/
theorem onGotPackets_conn {client : Bool} (conn : session.conn = .established client)
    {buffers : List (List UInt8)}
    (kept : (session.onGotPackets codec handler buffers).conn.packet = true) :
    (session.onGotPackets codec handler buffers).conn = .established client := by
  induction buffers generalizing session with
  | nil => exact conn
  | cons buffer buffers inductionHypothesis =>
      rw [onGotPackets] at kept ⊢
      cases handled : (handler session.user (codec.onGotPacket buffer)).1 with
      | true =>
          rw [onGotPacket_disconnects conn handled,
            if_neg (Bool.eq_false_iff.mp (disconnect_packet client))] at kept
          exact absurd ((disconnect_packet client).symm.trans kept) Bool.false_ne_true
      | false =>
          rw [onGotPacket_stays conn handled] at kept ⊢
          exact inductionHypothesis rfl kept

theorem onGotPackets_trace {client : Bool} (conn : session.conn = .established client)
    (connected : .disconnected ∉ session.trace) (first : PacketsFirst session.trace)
    (buffers : List (List UInt8)) :
    PacketsFirst (session.onGotPackets codec handler buffers).trace := by
  induction buffers generalizing session with
  | nil => exact first
  | cons buffer buffers inductionHypothesis =>
      have packet : PacketsFirst (session.trace ++ [.packet (codec.onGotPacket buffer)]) :=
        EachAfter.append first fun _ => connected
      rw [onGotPackets]
      cases handled : (handler session.user (codec.onGotPacket buffer)).1 with
      | true =>
          rw [onGotPacket_disconnects conn handled]
          rw [if_neg (Bool.eq_false_iff.mp (disconnect_packet client))]
          refine EachAfter.append packet ?_
          rintro ⟨got, impossible⟩
          cases impossible
      | false =>
          rw [onGotPacket_stays conn handled]
          refine inductionHypothesis rfl ?_ packet
          intro impossible
          rcases List.mem_append.mp impossible with before | added
          · exact connected before
          · cases List.mem_singleton.mp added

end UvSession

/-! ## The loop and the plain decoder -/

variable {codec : Codec} {handler : PacketHandler σ}

/-- A pass hands on the packets that it reports. -/
theorem framePageTurn_packets (codec : Codec) (memory : Memory UInt8) (nCapacity : Int)
    (frame : FrameCursor) :
    packetsOf (framePageTurn codec memory nCapacity frame).result.events =
      packetsOf frame.events ++ frame.packets codec memory := by
  unfold framePageTurn FrameCursor.packets
  cases frame.state.packet.eRecvPageState with
  | receiveLeading =>
      dsimp only
      rw [List.append_nil]
      split
      · rfl
      · split
        · rfl
        · split
          · rfl
          · exact (packetsOf_append ..).trans (List.append_nil _)
  | receiveBody =>
      dsimp only
      split
      · exact (List.append_nil _).symm
      · split
        · exact packetsOf_append ..
        · exact packetsOf_append ..
  | skip => exact packetsOf_append ..

theorem framePageLoop_packets (codec : Codec) (memory : Memory UInt8) (nCapacity : Int)
    (frame : FrameCursor) : Exists fun new =>
      packetsOf ((framePageLoop codec memory nCapacity).exec frame).events =
        packetsOf frame.events ++ (frame.packets codec memory ++ new) := by
  induction frame using (framePageLoop codec memory nCapacity).induction with
  | stop frame last pass =>
      have reported := framePageTurn_packets codec memory nCapacity frame
      rw [show framePageTurn codec memory nCapacity frame = _ from pass] at reported
      rw [Loop.exec_of_halt _ pass]
      exact ⟨[], reported.trans (by rw [List.append_nil])⟩
  | more frame next pass inductionHypothesis =>
      have reported := framePageTurn_packets codec memory nCapacity frame
      rw [show framePageTurn codec memory nCapacity frame = _ from pass] at reported
      rcases inductionHypothesis with ⟨new, rest⟩
      rw [Loop.exec_of_again _ pass, rest]
      refine ⟨next.packets codec memory ++ new, ?_⟩
      rw [show packetsOf next.events = _ from reported, List.append_assoc]

/-- How the loop with its callbacks ends when the plain loop hands on the
packets and ends with `plain`. -/
structure Served (codec : Codec) (handler : PacketHandler σ) (session : UvSession σ)
    (packets : List (List UInt8)) (plain : FrameCursor) (last : UvCursor σ) : Prop where
  session : last.session = session.onGotPackets codec handler packets
  used : last.used = !last.session.conn.packet
  frame : last.session.conn.packet = true -> last.frame = plain

section Loop

variable {memory : Memory UInt8} {nCapacity : Int} {frame : FrameCursor} {session : UvSession σ}

theorem uvFramePageLoop_deleted (alive : session.conn.packet = true)
    (deleted : (session.onGotPackets codec handler (frame.packets codec memory)).conn.packet =
      false) :
    Exists fun new =>
      packetsOf ((framePageLoop codec memory nCapacity).exec frame).events =
        packetsOf frame.events ++ new ∧
      Served codec handler session new ((framePageLoop codec memory nCapacity).exec frame)
        ((uvFramePageLoop codec handler memory nCapacity).exec ⟨frame, session, false⟩) := by
  rcases framePageLoop_packets codec memory nCapacity frame with ⟨rest, packets⟩
  refine ⟨_, packets, ?_⟩
  have turn : (uvFramePageLoop codec handler memory nCapacity).turn ⟨frame, session, false⟩ = _ :=
    uvFramePageTurn_deleted deleted
  rw [Loop.exec_of_halt _ turn]
  refine ⟨?_, by rw [deleted]; rfl, fun impossible => ?_⟩
  · rw [UvSession.onGotPackets_append alive, if_neg (Bool.eq_false_iff.mp deleted)]
  · exact absurd (deleted.symm.trans impossible) Bool.false_ne_true

/-- The loop with its callbacks does what the plain loop does and then calls
back, unless the packet object is deleted on the way. -/
theorem uvFramePageLoop_exec (alive : session.conn.packet = true) :
    Exists fun new =>
      packetsOf ((framePageLoop codec memory nCapacity).exec frame).events =
        packetsOf frame.events ++ new ∧
      Served codec handler session new ((framePageLoop codec memory nCapacity).exec frame)
        ((uvFramePageLoop codec handler memory nCapacity).exec ⟨frame, session, false⟩) := by
  induction frame using (framePageLoop codec memory nCapacity).induction generalizing session with
  | stop frame last pass =>
      cases outlives : (session.onGotPackets codec handler
          (frame.packets codec memory)).conn.packet with
      | false => exact uvFramePageLoop_deleted alive outlives
      | true =>
          have reported := framePageTurn_packets codec memory nCapacity frame
          rw [show framePageTurn codec memory nCapacity frame = _ from pass] at reported
          have turn : (uvFramePageLoop codec handler memory nCapacity).turn
              ⟨frame, session, false⟩ = ((framePageLoop codec memory nCapacity).turn frame).map _ :=
            uvFramePageTurn_alive outlives
          rw [pass] at turn
          rw [Loop.exec_of_halt _ pass, Loop.exec_of_halt _ turn]
          exact ⟨_, reported, rfl, by rw [outlives]; rfl, fun _ => rfl⟩
  | more frame next pass inductionHypothesis =>
      cases outlives : (session.onGotPackets codec handler
          (frame.packets codec memory)).conn.packet with
      | false => exact uvFramePageLoop_deleted alive outlives
      | true =>
          have reported := framePageTurn_packets codec memory nCapacity frame
          rw [show framePageTurn codec memory nCapacity frame = _ from pass] at reported
          have turn : (uvFramePageLoop codec handler memory nCapacity).turn
              ⟨frame, session, false⟩ = ((framePageLoop codec memory nCapacity).turn frame).map _ :=
            uvFramePageTurn_alive outlives
          rw [pass] at turn
          rw [Loop.exec_of_again _ pass, Loop.exec_of_again _ turn]
          rcases inductionHypothesis outlives with ⟨new, packets, served⟩
          refine ⟨frame.packets codec memory ++ new, ?_, ?_, served.used, served.frame⟩
          · rw [packets, ← List.append_assoc]
            exact congrArg (fun front => front ++ new) reported
          · rw [UvSession.onGotPackets_append alive, outlives, if_pos rfl]
            exact served.session

end Loop

/-! ## Reads -/

namespace UvReader

variable {client : Bool} {reader : UvReader σ} {chunk : List UInt8}

/-- What a read comes to when the plain decoder hands on the packets. -/
structure Serves (codec : Codec) (handler : PacketHandler σ) (reader : UvReader σ)
    (packets : List (List UInt8)) (result : UvRead σ) : Prop where
  session : result.reader.session = reader.session.onGotPackets codec handler packets
  used : result.ending = .used ↔ result.reader.session.conn.packet = false

/-- The packet object still exists. -/
theorem Serves.of_kept {packets : List (List UInt8)} {result : UvRead σ}
    (session : result.reader.session = reader.session.onGotPackets codec handler packets)
    (kept : result.reader.session.conn.packet = true) (ending : result.ending ≠ .used) :
    Serves codec handler reader packets result where
  session := session
  used := by
    refine ⟨fun impossible => absurd impossible ending, fun deleted => ?_⟩
    exact absurd (deleted.symm.trans kept) Bool.false_ne_true

theorem decodeStream_events (codec : Codec) (state : PacketState) (bb : BipBuf) :
    (decodeStream codec state bb).events = ((framePageLoop codec bb.buffer bb.getCapacity).exec
      (frameStart state bb.getContiguousBlock bb.getCommittedSize)).events := by
  unfold decodeStream consumeFramePage
  dsimp only
  split
  · rfl
  · split <;> rfl

/-- `OnRawData` calls back for the packets that `DecodeStream` finds. -/
theorem onRawData_serves (alive : reader.session.conn.packet = true) (bb : BipBuf) :
    Serves codec handler reader
      (packetsOf (decodeStream codec reader.receiver.state bb).events)
      (reader.onRawData codec handler bb) ∧
    ((reader.onRawData codec handler bb).reader.session.conn.packet = true ->
      match (decodeStream codec reader.receiver.state bb).result with
      | .ok _ => reader.onRawData codec handler bb = ⟨.returned,
          ⟨⟨(decodeStream codec reader.receiver.state bb).bb,
            (decodeStream codec reader.receiver.state bb).state,
            reader.receiver.events ++ (decodeStream codec reader.receiver.state bb).events⟩,
          (reader.onRawData codec handler bb).reader.session⟩⟩
      | .error errno => (reader.onRawData codec handler bb).ending = .thrown errno) := by
  have loops : Exists fun new => _ ∧ Served codec handler reader.session new
      (consumeFramePage codec reader.receiver.state bb.buffer bb.getContiguousBlock
        bb.getCommittedSize bb.getCapacity) _ := uvFramePageLoop_exec alive
  rcases loops with ⟨new, packets, served⟩
  have found : packetsOf (decodeStream codec reader.receiver.state bb).events = new := by
    rw [decodeStream_events, packets]
    rfl
  rw [found]
  unfold onRawData
  dsimp only
  generalize (uvFramePageLoop codec handler bb.buffer bb.getCapacity).exec _ = last at served ⊢
  cases kept : last.session.conn.packet with
  | false =>
      have used : last.used = true := by
        rw [served.used, kept]
        rfl
      rw [if_pos used]
      refine ⟨⟨served.session, fun _ => kept, fun _ => rfl⟩, ?_⟩
      intro impossible
      exact absurd (kept.symm.trans impossible) Bool.false_ne_true
  | true =>
      have unused : last.used = false := by
        rw [served.used, kept]
        rfl
      rw [if_neg (Bool.eq_false_iff.mp unused), served.frame kept]
      unfold decodeStream
      dsimp only
      split
      · exact ⟨.of_kept served.session kept (by intro impossible; cases impossible), fun _ => rfl⟩
      · split
        · exact ⟨.of_kept served.session kept (by intro impossible; cases impossible),
            fun _ => rfl⟩
        · exact ⟨.of_kept served.session kept (by intro impossible; cases impossible),
            fun _ => rfl⟩

theorem commitAndDecode_events (codec : Codec) (receiver : Receiver) (bb : BipBuf) (size : Nat) :
    (commitAndDecode codec { receiver with events := [] } bb size).events =
      (decodeStream codec receiver.state (bb.commit size)).events := by
  unfold commitAndDecode
  dsimp only
  split <;> exact List.nil_append _

/-- A read calls back for the packets of its chunk. -/
theorem read_serves (conn : reader.session.conn = .established client) :
    Serves codec handler reader (chunkPackets codec reader.receiver chunk)
      (reader.read codec handler chunk) ∧
    ((reader.read codec handler chunk).reader.session.conn.packet = true ->
      match reader.receiver.feed codec chunk with
      | .decoded next => reader.read codec handler chunk =
          ⟨.returned, ⟨next, (reader.read codec handler chunk).reader.session⟩⟩
      | _ => (reader.read codec handler chunk).ending ≠ .returned) := by
  have alive : reader.session.conn.packet = true := by
    rw [conn]
    rfl
  have socket : reader.session.conn.sockimpl = true := by
    rw [conn]
    rfl
  have refused : Serves codec handler reader [] ⟨.refused, reader⟩ :=
    .of_kept rfl alive (by intro impossible; cases impossible)
  unfold read chunkPackets feed
  dsimp only
  rw [socket]
  cases reader.receiver.bb.reserve.pointer with
  | none => exact ⟨refused, fun _ impossible => by cases impossible⟩
  | some pointer =>
      dsimp only
      split
      · rcases onRawData_serves alive
          ((reader.receiver.bb.reserve.bb.writeReserved 0 chunk).commit chunk.length) with
          ⟨serves, result⟩
        rw [commitAndDecode_events]
        refine ⟨serves, fun kept => ?_⟩
        have ended := result kept
        unfold commitAndDecode
        dsimp only
        revert ended
        cases (decodeStream codec reader.receiver.state
            ((reader.receiver.bb.reserve.bb.writeReserved 0 chunk).commit chunk.length)).result with
        | ok count => exact fun ended => ended
        | error errno =>
            intro ended impossible
            rw [show _ = ReadEnd.thrown errno from ended] at impossible
            cases impossible
      · exact ⟨refused, fun _ impossible => by cases impossible⟩

theorem readAll_stops {chunks : List (List UInt8)}
    (stops : (reader.read codec handler chunk).ending ≠ .returned) :
    reader.readAll codec handler (chunk :: chunks) = reader.read codec handler chunk := by
  rw [readAll]
  split
  · rename_i returned
    exact absurd returned stops
  · rfl

theorem readAll_goes {chunks : List (List UInt8)} {next : UvReader σ}
    (returned : reader.read codec handler chunk = ⟨.returned, next⟩) :
    reader.readAll codec handler (chunk :: chunks) = next.readAll codec handler chunks := by
  rw [readAll, returned]

/-- The reads call back for the packets of the stream. -/
theorem readAll_serves (conn : reader.session.conn = .established client)
    (chunks : List (List UInt8)) :
    Serves codec handler reader (streamPackets codec reader.receiver chunks)
      (reader.readAll codec handler chunks) := by
  induction chunks generalizing reader with
  | nil =>
      refine .of_kept rfl ?_ (by intro impossible; cases impossible)
      change reader.session.conn.packet = true
      rw [conn]
      rfl
  | cons chunk chunks inductionHypothesis =>
      have alive : reader.session.conn.packet = true := by
        rw [conn]
        rfl
      have once : Serves codec handler reader (chunkPackets codec reader.receiver chunk)
          (reader.read codec handler chunk) ∧ _ := read_serves conn
      rcases once with ⟨serves, result⟩
      have session := serves.session
      rw [streamPackets]
      cases kept : (reader.read codec handler chunk).reader.session.conn.packet with
      | false =>
          rw [readAll_stops (by rw [serves.used.mpr kept]; intro impossible; cases impossible)]
          refine ⟨?_, serves.used⟩
          rw [UvSession.onGotPackets_append alive, ← session, if_neg (Bool.eq_false_iff.mp kept)]
      | true =>
          have after := result kept
          revert after
          cases reader.receiver.feed codec chunk with
          | decoded next =>
              intro returned
              have still := UvSession.onGotPackets_conn conn (session ▸ kept)
              rw [← session] at still
              have later : Serves codec handler ⟨next, _⟩ _ _ := inductionHypothesis still
              rw [readAll_goes returned]
              refine ⟨?_, later.used⟩
              rw [UvSession.onGotPackets_append alive, ← session, if_pos kept]
              exact later.session
          | thrown errno next =>
              intro stops
              rw [readAll_stops stops, List.append_nil]
              exact serves
          | refused =>
              intro stops
              rw [readAll_stops stops, List.append_nil]
              exact serves

end UvReader

/-- The reads of an established connection are safe for every stream, every
chunking and every handler, exactly when the handler does not call `Disconnect`
on a packet of the stream. -/
theorem reentrant_disconnect_safe_iff (codec : Codec) (handler : PacketHandler σ) (client : Bool)
    (receiver : Receiver) (user : σ) (chunks : List (List UInt8)) :
    ((UvReader.start client receiver user).readAll codec handler chunks).Safe ↔
      handler.stays user ((streamPackets codec receiver chunks).map codec.onGotPacket) = true := by
  have serves : UvReader.Serves codec handler (UvReader.start client receiver user)
      (streamPackets codec receiver chunks)
      ((UvReader.start client receiver user).readAll codec handler chunks) :=
    UvReader.readAll_serves rfl chunks
  have outlives : (UvSession.onGotPackets codec handler ⟨.established client, user, []⟩
      (streamPackets codec receiver chunks)).conn.packet =
        handler.stays user ((streamPackets codec receiver chunks).map codec.onGotPacket) :=
    UvSession.onGotPackets_packet rfl _
  have session : ((UvReader.start client receiver user).readAll codec handler
      chunks).reader.session = UvSession.onGotPackets codec handler
        ⟨.established client, user, []⟩ (streamPackets codec receiver chunks) := serves.session
  have used := serves.used
  rw [session, outlives] at used
  constructor
  · intro safe
    apply Bool.eq_true_of_not_eq_false
    intro disconnects
    exact safe.1 (used.mpr disconnects)
  · intro stays
    refine ⟨?_, ?_⟩
    · intro deleted
      exact absurd ((used.mp deleted).symm.trans stays) Bool.false_ne_true
    · have silent : PacketsFirst [] := .nil
      rw [session]
      exact UvSession.onGotPackets_trace rfl (by intro impossible; cases impossible) silent _

/-- One page with one packet of the inner class. -/
def innerPacketPage : List UInt8 := [71, 0, 1] ++ List.replicate 15 0 ++ [65]

/-- A client that reads two packets in one chunk, with a handler that disconnects
on every packet. -/
def disconnectingRead : UvRead Unit :=
  (UvReader.start true (.fresh (.initial fun _ _ => 0) (.initial fun _ _ => 0) fun _ => 0)
    ()).readAll ⟨.inner, .pointer64⟩ (fun _ _ => (true, ())) [innerPacketPage ++ innerPacketPage]

/-- The handler disconnects on the first packet, and the page loop goes on with
the deleted packet object. -/
theorem disconnecting_handler_unsafe :
    disconnectingRead.ending = .used ∧
      disconnectingRead.reader.session.trace =
        [.packet ⟨some 0, 0, [65], []⟩, .disconnected] ∧
      ¬ disconnectingRead.Safe := by
  have used : disconnectingRead.ending = .used := by decide
  exact ⟨used, by decide, fun safe => safe.1 used⟩

end NetSystem
