import NetSystem.Foundation.Transition
import NetSystem.Tcp.UvIsolatedInvariant

namespace NetSystem

/-!
# The requests of an upstream connection

The loop completes every connect and write request that it has accepted.
Closing a socket does not take its requests back: they complete later, with
`UV_ECANCELED`.  A completion with an error ends in `OnIsolatedError`, which uses
the packet object, and so does the close callback of `CUvGateIsolatedConn`.

`DisposeConnection` deletes the packet object and closes the socket.  What is
still due then calls `OnIsolatedError` without a packet object.

Sockets are numbered in the order of their creation.  All callbacks reach the
connection through its client handle, whichever socket they are for.  Handlers of
the connect and disconnect events are taken to make their calls when the callback
has returned.
-/

/-- The end of a write request.  `GetLastError` may name a pending operation,
and then the failure is passed over. -/
inductive WriteStatus where
  | written
  | failed (ioPending : Bool)
deriving DecidableEq

/-- What happens to a connection: calls of the front end, its timers, and the
callbacks about a socket. -/
inductive UpstreamEvent where
  | connect (ip : List Char) (parsed started : Bool) (uninitialised : Memory UInt8)
  | disconnect
  | reopen (nDelaySeconds : Int)
  | disposeConnection
  | sendRaw (started : Bool)
  | timer (started : Bool)
  | orphanTimer (started : Bool)
  | connectCb (socket : Nat) (outcome : ConnectOutcome)
  | recv (socket : Nat) (chunk : List UInt8)
  | recvEnd (socket : Nat) (allocated : Bool)
  | recvError (socket : Nat) (allocated : Bool)
  | writeCb (socket : Nat) (status : WriteStatus)
  | closeCb (socket : Nat)

/-- The socket of the client handle. -/
def UvIsolatedConn.socket (conn : UvIsolatedConn) : Option SocketPhase :=
  match conn.clnt with
  | .live clnt => clnt.sockimpl
  | _ => none

/-- A connection of `CUvIsolatedConn`, or of `CUvGateIsolatedConn` if `gate`, with
what the loop has to do for it.  `current` is the socket of the client handle, and
`orphans` counts the running timers that `Connect` has replaced.  A timer is started
only while no other one is running, so that the timeout of the connection is that of the
one that runs. -/
structure UvUpstream where
  gate : Bool
  conn : UvIsolatedConn
  orphans : Nat
  sockets : Nat
  current : Option Nat
  opened : List Nat
  reading : List Nat
  connecting : List Nat
  writing : List Nat
  closing : List Nat

namespace UvUpstream

def initial (gate : Bool) (recvPool sendPool : BufferPool) : UvUpstream where
  gate := gate
  conn := .initial recvPool sendPool
  orphans := 0
  sockets := 0
  current := none
  opened := []
  reading := []
  connecting := []
  writing := []
  closing := []

/-- `uv_real_connect_` has created a socket and started its connect request. -/
def opens (world : UvUpstream) (next : UvIsolatedConn) : UvUpstream :=
  { world with
    conn := next
    sockets := world.sockets + 1
    current := some world.sockets
    opened := world.opened ++ [world.sockets]
    connecting := world.connecting ++ [world.sockets] }

/-- The socket is closed.  The loop does not read from it any more. -/
def forget (world : UvUpstream) (socket : Nat) : UvUpstream :=
  { world with
    current := none
    opened := world.opened.filter fun other => other != socket
    reading := world.reading.filter fun other => other != socket }

/-- The connection after a call that may have closed the socket, whose close
callback is then due. -/
def settle (world : UvUpstream) (next : UvIsolatedConn) : UvUpstream :=
  match world.current, next.socket with
  | some socket, none =>
      { world.forget socket with conn := next, closing := world.closing ++ [socket] }
  | _, _ => { world with conn := next }

/-- The running timers without a pointer to them, after a call of `Connect`. -/
def orphansAfter (world : UvUpstream) (ip : List Char) : Nat :=
  if UvIsolatedConn.isIpAddress ip && decide (world.conn.reconnectTimer = some true) then
    world.orphans + 1
  else world.orphans

/-- A timer that `Connect` has replaced calls `Reconnect`. -/
def onOrphanTimer (world : UvUpstream) (started : Bool) : Option UvUpstream :=
  if world.orphans ≠ 0 ∧ UvIsolatedConn.Timely world.conn.reconnectTimeout then
    (world.conn.reconnect started).map fun next =>
      let fired := { world with orphans := world.orphans - 1 }
      if world.conn.bFlushed && started then fired.opens next else { fired with conn := next }
  else none

/-- A failure that a callback reports. -/
def flushAndError (world : UvUpstream) : Option UvUpstream :=
  (world.conn.withClient fun _ => world.conn.flushAndError).map world.settle

/-- `on_isolated_connect_error` once its request is done.  The set-up is done on
the socket of the client handle. -/
def onConnectCb (world : UvUpstream) : ConnectOutcome -> Option UvUpstream
  | .connected =>
      (world.conn.withClient fun clnt =>
        if clnt.sockimpl.isSome then some (world.conn.established clnt).onConnect else none).map
          fun next => { world with conn := next, reading := world.reading ++ world.current.toList }
  | .setupFailed =>
      match world.current with
      | some socket => some { world.forget socket with conn.clnt := .freed }
      | none => none
  | .failed => world.flushAndError

/-- `PostPacket` with the `SendRaw` of a packet object that is ready. -/
def sendRaw (world : UvUpstream) (started : Bool) : Option UvUpstream :=
  if world.conn.packet.isSome && !world.conn.bDisposed && !world.conn.bFlushed then
    match world.current with
    | some socket =>
        if started then some { world with writing := world.writing ++ [socket] }
        else world.conn.disposeConnection.map world.settle
    | none => none
  else some world

/-- `on_stream_close`. -/
def onStreamClose (world : UvUpstream) : Option UvUpstream :=
  if world.gate then
    (world.conn.withClient fun _ =>
      UvIsolatedConn.onIsolatedError { world.conn with bFlushed := true }).map
        fun next => { world with conn := next }
  else some world

/-- A callback about a socket from which the loop reads. -/
def whileReading (world : UvUpstream) (socket : Nat)
    (callback : ClientHandle -> Option UvIsolatedConn) : Option UvUpstream :=
  if socket ∈ world.reading then (world.conn.withClient callback).map world.settle else none

/-- One event. -/
def perform (codec : Codec) (world : UvUpstream) (event : UpstreamEvent) : Option UvUpstream :=
  if world.conn.thrown.isSome then none
  else
    match event with
    | .connect ip parsed started uninitialised =>
        (world.conn.connect ip parsed started uninitialised).map fun next =>
          let prepared := { world with orphans := world.orphansAfter ip }
          if UvIsolatedConn.isIpAddress ip && parsed && started then prepared.opens next
          else { prepared with conn := next }
    | .disconnect => world.conn.disconnect.map world.settle
    | .reopen nDelaySeconds => (world.conn.reopen nDelaySeconds).map world.settle
    | .disposeConnection => world.conn.disposeConnection.map world.settle
    | .sendRaw started => world.sendRaw started
    | .timer started =>
        (world.conn.onTimer started).map fun next =>
          if world.conn.bFlushed && started then world.opens next else { world with conn := next }
    | .orphanTimer started => world.onOrphanTimer started
    | .connectCb socket outcome =>
        if socket ∈ world.connecting ∧ (socket ∈ world.opened ∨ outcome = .failed) then
          onConnectCb { world with connecting := world.connecting.erase socket } outcome
        else none
    | .recv socket chunk => world.whileReading socket (world.conn.onRecv codec chunk)
    | .recvEnd socket called => world.whileReading socket (world.conn.onRecvEnd called)
    | .recvError socket called => world.whileReading socket (world.conn.onRecvError called)
    | .writeCb socket status =>
        if socket ∈ world.writing then
          let done := { world with writing := world.writing.erase socket }
          match status with
          | .failed false => done.flushAndError
          | _ => some done
        else none
    | .closeCb socket =>
        if socket ∈ world.closing then
          onStreamClose { world with closing := world.closing.erase socket }
        else none

def Step (codec : Codec) (world : UvUpstream) (event : UpstreamEvent) (next : UvUpstream) : Prop :=
  world.perform codec event = some next

/-- The event is due and makes `OnIsolatedError` or `OnRawData` run. -/
def runsCodec (world : UvUpstream) : UpstreamEvent -> Bool
  | .connectCb socket .failed => decide (socket ∈ world.connecting)
  | .recv socket chunk => decide (socket ∈ world.reading) && decide (chunk ≠ [])
  | .recvEnd socket _ => decide (socket ∈ world.reading)
  | .writeCb socket (.failed false) => decide (socket ∈ world.writing)
  | .closeCb socket => world.gate && decide (socket ∈ world.closing)
  | _ => false

/-- The event makes `DisposeConnection` delete the packet object. -/
def disposes (world : UvUpstream) : UpstreamEvent -> Bool
  | .disposeConnection => !world.conn.bDisposed
  | .disconnect => !world.conn.bDisposed && world.conn.bRunning
  | .reopen _ => !world.conn.bDisposed && world.conn.bConnected && world.conn.bRunning
  | .sendRaw false => world.conn.packet.isSome && !world.conn.bDisposed && !world.conn.bFlushed
  | _ => false

/-- No connect or write request is pending.  In the gate class no socket is open
either, and no close callback is due. -/
def idle (world : UvUpstream) : Bool :=
  world.connecting.isEmpty && world.writing.isEmpty &&
    (!world.gate || world.opened.isEmpty && world.closing.isEmpty)

/-- The connection is disposed of only when it is idle. -/
def quiet (world : UvUpstream) (event : UpstreamEvent) : Bool :=
  !world.disposes event || world.idle

/-- A step that, if it disposes of the connection, does so while it is idle. -/
def QuietStep (codec : Codec) (world : UvUpstream) (event : UpstreamEvent)
    (next : UvUpstream) : Prop :=
  world.Step codec event next ∧ world.quiet event = true

end UvUpstream

/-! ## What the operations keep -/

namespace UvIsolatedConn

theorem live_of_socket {conn : UvIsolatedConn} (isOpen : conn.socket.isSome = true) :
    Exists fun clnt => conn.clnt = .live clnt := by
  unfold socket at isOpen
  split at isOpen
  · rename_i clnt live
    exact ⟨clnt, live⟩
  · cases isOpen

theorem onIsolatedError_clnt {conn next : UvIsolatedConn}
    (done : conn.onIsolatedError = some next) : next.clnt = conn.clnt := by
  rcases onIsolatedError_cases done with ⟨packet, _, rfl | delayed⟩
  · rfl
  · rcases delayReconnect_cases delayed with ⟨_, rfl⟩ | ⟨_, _, _, timeout, _, rfl⟩
    · rfl
    · rfl

/-- An operation that does not dispose of the connection.  It keeps the packet
object, and opens no socket. -/
structure Keeps (conn next : UvIsolatedConn) : Prop where
  packet : conn.packet.isSome = true -> next.packet.isSome = true
  disposed : next.bDisposed = conn.bDisposed
  running : next.bRunning = conn.bRunning
  handle : forall clnt, next.clnt = .live clnt -> Exists fun before => conn.clnt = .live before
  socket : (next.socket.isSome = conn.socket.isSome ∧ next.bFlushed = conn.bFlushed) ∨
    next.socket = none

namespace Keeps

variable {conn middle next : UvIsolatedConn}

theorem refl (conn : UvIsolatedConn) : Keeps conn conn :=
  ⟨id, rfl, rfl, fun clnt live => ⟨clnt, live⟩, .inl ⟨rfl, rfl⟩⟩

theorem trans (first : Keeps conn middle) (second : Keeps middle next) : Keeps conn next where
  packet := fun holds => second.packet (first.packet holds)
  disposed := second.disposed.trans first.disposed
  running := second.running.trans first.running
  handle := by
    intro clnt live
    rcases second.handle clnt live with ⟨before, between⟩
    exact first.handle before between
  socket := by
    rcases second.socket with ⟨same, flushed⟩ | closed
    · rcases first.socket with ⟨before, also⟩ | closed
      · exact .inl ⟨same.trans before, flushed.trans also⟩
      · rw [closed] at same
        exact .inr (Option.isSome_eq_false_iff.mp same |> Option.isNone_iff_eq_none.mp)
    · exact .inr closed

theorem flushStream (done : conn.flushStream = some next) : Keeps conn next := by
  rcases flushStream_cases done with ⟨rfl, _⟩ | ⟨clnt, live, rfl⟩
  · exact .refl next
  · exact ⟨id, rfl, rfl, fun _ _ => ⟨clnt, live⟩, .inr rfl⟩

theorem delayReconnect {nDelaySeconds : Int}
    (done : conn.delayReconnect nDelaySeconds = some next) : Keeps conn next := by
  rcases delayReconnect_cases done with ⟨_, rfl⟩ | ⟨_, _, _, timeout, _, rfl⟩
  · exact .refl next
  · exact ⟨id, rfl, rfl, fun clnt live => ⟨clnt, live⟩, .inl ⟨rfl, rfl⟩⟩

theorem onIsolatedError (done : conn.onIsolatedError = some next) : Keeps conn next := by
  rcases onIsolatedError_cases done with ⟨packet, holds, rfl | delayed⟩
  · exact ⟨fun _ => rfl, rfl, rfl, fun clnt live => ⟨clnt, live⟩, .inl ⟨rfl, rfl⟩⟩
  · have cleared : Keeps conn (conn.cleared packet) :=
      ⟨fun _ => rfl, rfl, rfl, fun clnt live => ⟨clnt, live⟩, .inl ⟨rfl, rfl⟩⟩
    exact cleared.trans (.delayReconnect delayed)

theorem flushAndError (done : conn.flushAndError = some next) : Keeps conn next := by
  rcases Option.bind_eq_some_iff.mp done with ⟨flushed, flush, error⟩
  exact (flushStream flush).trans (onIsolatedError error)

/-- The buffer of the client handle changes. -/
theorem setClient {clnt : ClientHandle} (live : conn.clnt = .live clnt) (bb : BipBuf) :
    Keeps conn (conn.setClient { clnt with bb := bb }) := by
  refine ⟨id, rfl, rfl, fun _ _ => ⟨clnt, live⟩, .inl ⟨?_, rfl⟩⟩
  rw [UvIsolatedConn.socket, UvIsolatedConn.socket, live]
  rfl

theorem received {clnt : ClientHandle} (live : conn.clnt = .live clnt) (next : Receiver) :
    Keeps conn (conn.received clnt next) := by
  refine ⟨fun _ => rfl, rfl, rfl, fun _ _ => ⟨clnt, live⟩, .inl ⟨?_, rfl⟩⟩
  rw [UvIsolatedConn.socket, UvIsolatedConn.socket, live]
  rfl

theorem onRecv {codec : Codec} {clnt : ClientHandle} {chunk : List UInt8}
    (live : conn.clnt = .live clnt) (done : conn.onRecv codec chunk clnt = some next) :
    Keeps conn next := by
  unfold UvIsolatedConn.onRecv at done
  split at done
  · split at done
    · cases done
    · cases done
      exact setClient live _
  · split at done
    · cases done
    · split at done
      · cases done
        exact received live _
      · cases done
        exact (received live _).trans
          ⟨id, rfl, rfl, fun clnt live => ⟨clnt, live⟩, .inl ⟨rfl, rfl⟩⟩
      · cases done

theorem onRecvEnd {called : Bool} {clnt : ClientHandle} (live : conn.clnt = .live clnt)
    (done : conn.onRecvEnd called clnt = some next) : Keeps conn next :=
  (setClient live _).trans (flushAndError done)

theorem onRecvError {called : Bool} {clnt : ClientHandle} (live : conn.clnt = .live clnt)
    (done : conn.onRecvError called clnt = some next) : Keeps conn next := by
  cases done
  exact setClient live _

end Keeps

/-- `DisposeConnection` has taken effect.  The packet object is gone, and the
socket is closed unless the connection was flushed. -/
structure Disposes (conn next : UvIsolatedConn) : Prop where
  packet : next.packet = none
  disposed : next.bDisposed = true
  closes : conn.bFlushed = false -> next.socket = none

section Dispose

variable {conn next : UvIsolatedConn}

theorem disposeConnection_disposes (undisposed : conn.bDisposed = false)
    (done : conn.disposeConnection = some next) : Disposes conn next := by
  rw [disposeConnection, undisposed] at done
  rcases Option.map_eq_some_iff.mp done with ⟨flushed, flush, rfl⟩
  rcases deletePacket_rest { conn with bDisposed := true } with ⟨_, sameFlushed, disposed⟩
  have deleted := deletePacket_packet { conn with bDisposed := true }
  rcases flushStream_cases flush with ⟨rfl, closed_or⟩ | ⟨clnt, live, rfl⟩
  · refine ⟨deleted, disposed, ?_⟩
    intro unflushed
    unfold UvIsolatedConn.socket
    split
    · rename_i clnt live
      rcases closed_or clnt live with closed | isFlushed
      · exact closed
      · rw [sameFlushed] at isFlushed
        exact absurd (unflushed.symm.trans isFlushed) Bool.false_ne_true
    · rfl
  · exact ⟨deleted, disposed, fun _ => rfl⟩

theorem disconnect_disposes (undisposed : conn.bDisposed = false) (running : conn.bRunning = true)
    (done : conn.disconnect = some next) : Disposes conn next := by
  rw [disconnect, if_pos ⟨Bool.eq_false_iff.mp undisposed, running⟩] at done
  rcases @disposeConnection_disposes { conn with bRunning := false, bConnected := false } next
    undisposed done with ⟨deleted, disposed, closes⟩
  exact ⟨deleted, disposed, closes⟩

theorem disconnect_idle (idle : (!conn.bDisposed && conn.bRunning) = false)
    (done : conn.disconnect = some next) : next = conn := by
  have stays : ¬ (¬ conn.bDisposed = true ∧ conn.bRunning = true) := by
    simpa using idle
  rw [disconnect, if_neg stays] at done
  cases done
  rfl

theorem reopen_disposes {nDelaySeconds : Int} (undisposed : conn.bDisposed = false)
    (connected : conn.bConnected = true) (running : conn.bRunning = true)
    (done : conn.reopen nDelaySeconds = some next) : Disposes conn next := by
  rw [reopen, if_neg (Bool.eq_false_iff.mp undisposed), if_pos connected] at done
  rcases Option.bind_eq_some_iff.mp done with ⟨middle, stopped, delayed⟩
  have disposes := disconnect_disposes undisposed running stopped
  -- The timer is gone, and `DelayReconnect` does nothing.
  rw [delayReconnect, if_neg (fun delay => delay.2 disposes.disposed)] at delayed
  cases delayed
  exact disposes

theorem reopen_keeps {nDelaySeconds : Int}
    (idle : (!conn.bDisposed && conn.bConnected && conn.bRunning) = false)
    (done : conn.reopen nDelaySeconds = some next) : Keeps conn next := by
  unfold reopen at done
  split at done
  · cases done
    exact .refl conn
  · rcases Option.bind_eq_some_iff.mp done with ⟨middle, stopped, delayed⟩
    split at stopped
    · rename_i connected
      rw [connected, Bool.and_true] at idle
      rw [disconnect_idle idle stopped] at delayed
      exact .delayReconnect delayed
    · cases stopped
      exact .delayReconnect delayed

end Dispose
end UvIsolatedConn

namespace UvUpstream

/-- Whatever is still due finds the packet object.  A connection that is not of
the gate class has at most one socket, and is flushed only without it. -/
structure Alive (world : UvUpstream) : Prop where
  users : forall socket, (socket ∈ world.opened ∨ socket ∈ world.connecting ∨
    socket ∈ world.writing ∨ (world.gate = true ∧ socket ∈ world.closing)) ->
      world.conn.packet.isSome = true
  reading : forall socket, socket ∈ world.reading -> socket ∈ world.opened
  current : forall socket, world.current = some socket ->
    socket ∈ world.opened ∧ world.conn.socket.isSome = true
  present : forall clnt, world.conn.clnt = .live clnt -> world.conn.bDisposed = false ->
    world.conn.packet.isSome = true
  started : forall clnt, world.conn.clnt = .live clnt ->
    world.conn.bRunning = true ∨ world.conn.bDisposed = true
  single : world.gate = false -> forall socket, socket ∈ world.opened ->
    world.current = some socket ∧ world.conn.bFlushed = false

theorem initial_alive (gate : Bool) (recvPool sendPool : BufferPool) :
    (initial gate recvPool sendPool).Alive where
  users := by
    rintro socket (impossible | impossible | impossible | ⟨_, impossible⟩) <;> cases impossible
  reading := nofun
  current := nofun
  present := nofun
  started := nofun
  single := nofun

/-- The call has closed the socket, or the socket is as it was. -/
theorem settle_cases (world : UvUpstream) (next : UvIsolatedConn) :
    (Exists fun socket => world.current = some socket ∧
      world.settle next =
        { world.forget socket with conn := next, closing := world.closing ++ [socket] }) ∨
    ((forall socket, world.current = some socket -> next.socket.isSome = true) ∧
      world.settle next = { world with conn := next }) := by
  unfold settle
  split
  · rename_i socket current _
    exact .inl ⟨socket, current, rfl⟩
  · rename_i other
    refine .inr ⟨?_, rfl⟩
    intro socket current
    apply Option.isSome_iff_ne_none.mpr
    intro closed
    exact other socket current closed

theorem settle_requests (world : UvUpstream) (next : UvIsolatedConn) :
    (world.settle next).conn = next ∧ (world.settle next).connecting = world.connecting ∧
      (world.settle next).writing = world.writing := by
  rcases settle_cases world next with ⟨socket, _, result⟩ | ⟨_, result⟩
  · rw [result]
    exact ⟨rfl, rfl, rfl⟩
  · rw [result]
    exact ⟨rfl, rfl, rfl⟩

/-- What an event does that disposes of the connection. -/
theorem perform_disposes {codec : Codec} {world after : UvUpstream} {event : UpstreamEvent}
    (done : world.Step codec event after) (disposes : world.disposes event = true) :
    Exists fun next => world.conn.Disposes next ∧ after = world.settle next := by
  unfold Step perform at done
  split at done
  · cases done
  · cases event with
    | disposeConnection =>
        rcases Option.map_eq_some_iff.mp done with ⟨next, called, rfl⟩
        have undisposed : world.conn.bDisposed = false := by
          simpa [UvUpstream.disposes] using disposes
        exact ⟨next, UvIsolatedConn.disposeConnection_disposes undisposed called, rfl⟩
    | disconnect =>
        rcases Option.map_eq_some_iff.mp done with ⟨next, called, rfl⟩
        have takes : world.conn.bDisposed = false ∧ world.conn.bRunning = true := by
          simpa [UvUpstream.disposes] using disposes
        exact ⟨next, UvIsolatedConn.disconnect_disposes takes.1 takes.2 called, rfl⟩
    | reopen nDelaySeconds =>
        rcases Option.map_eq_some_iff.mp done with ⟨next, called, rfl⟩
        have takes : (world.conn.bDisposed = false ∧ world.conn.bConnected = true) ∧
            world.conn.bRunning = true := by
          simpa [UvUpstream.disposes] using disposes
        exact ⟨next,
          UvIsolatedConn.reopen_disposes takes.1.1 takes.1.2 takes.2 called, rfl⟩
    | sendRaw started =>
        cases started with
        | true => cases disposes
        | false =>
            have ready : (world.conn.packet.isSome && !world.conn.bDisposed &&
              !world.conn.bFlushed) = true := disposes
            simp only [sendRaw, ready, if_true] at done
            split at done
            · rcases Option.map_eq_some_iff.mp done with ⟨next, called, rfl⟩
              have undisposed : world.conn.bDisposed = false := by
                cases before : world.conn.bDisposed with
                | false => rfl
                | true => simp [before] at ready
              exact ⟨next, UvIsolatedConn.disposeConnection_disposes undisposed called, rfl⟩
            · cases done
    | _ => cases disposes

theorem idle_iff (world : UvUpstream) :
    world.idle = true ↔
      ((forall socket, socket ∉ world.connecting) ∧ forall socket, socket ∉ world.writing) ∧
      (world.gate = true ->
        (forall socket, socket ∉ world.opened) ∧ forall socket, socket ∉ world.closing) := by
  cases gate : world.gate <;> simp [idle, gate, List.eq_nil_iff_forall_not_mem]

namespace Alive

variable {world : UvUpstream} {next : UvIsolatedConn}

/-- The members of the connection change, and no socket is closed. -/
theorem replace (alive : world.Alive)
    (packet : world.conn.packet.isSome = true -> next.packet.isSome = true)
    (socket : forall socket, world.current = some socket -> next.socket.isSome = true)
    (present : forall clnt, next.clnt = .live clnt -> next.bDisposed = false ->
      next.packet.isSome = true)
    (started : forall clnt, next.clnt = .live clnt -> next.bRunning = true ∨ next.bDisposed = true)
    (unflushed : world.gate = false -> forall socket, world.current = some socket ->
      world.conn.bFlushed = false -> next.bFlushed = false) :
    ({ world with conn := next } : UvUpstream).Alive where
  users := fun socket due => packet (alive.users socket due)
  reading := alive.reading
  current := fun last current => ⟨(alive.current last current).1, socket last current⟩
  present := present
  started := started
  single := by
    intro plain last opened
    rcases alive.single plain last opened with ⟨current, was⟩
    exact ⟨current, unflushed plain last current was⟩

/-- A socket that is open in a connection not of the gate class is the last one. -/
theorem not_forgotten (alive : world.Alive) (plain : world.gate = false) {last socket : Nat}
    (current : world.current = some last) : socket ∉ (world.forget last).opened := by
  intro member
  rcases List.mem_filter.mp member with ⟨opened, other⟩
  have same := current.symm.trans (alive.single plain socket opened).1
  rw [Option.some.inj same] at other
  simp at other

theorem forget_reading (alive : world.Alive) (last socket : Nat)
    (member : socket ∈ (world.forget last).reading) : socket ∈ (world.forget last).opened := by
  rcases List.mem_filter.mp member with ⟨reading, other⟩
  exact List.mem_filter.mpr ⟨alive.reading socket reading, other⟩

theorem present_next (alive : world.Alive) (keeps : world.conn.Keeps next) :
    forall clnt, next.clnt = .live clnt -> next.bDisposed = false -> next.packet.isSome = true := by
  intro clnt live undisposed
  rcases keeps.handle clnt live with ⟨before, was⟩
  exact keeps.packet (alive.present before was (keeps.disposed.symm.trans undisposed))

theorem started_next (alive : world.Alive) (keeps : world.conn.Keeps next) :
    forall clnt, next.clnt = .live clnt -> next.bRunning = true ∨ next.bDisposed = true := by
  intro clnt live
  rcases keeps.handle clnt live with ⟨before, was⟩
  rw [keeps.running, keeps.disposed]
  exact alive.started before was

/-- An operation that leaves the socket open. -/
theorem keep (alive : world.Alive) (keeps : world.conn.Keeps next)
    (still : forall socket, world.current = some socket -> next.socket.isSome = true) :
    ({ world with conn := next } : UvUpstream).Alive := by
  refine alive.replace keeps.packet still (alive.present_next keeps) (alive.started_next keeps) ?_
  intro _ socket current unflushed
  rcases keeps.socket with ⟨_, flushed⟩ | closed
  · exact flushed.trans unflushed
  · have isOpen := still socket current
    rw [closed] at isOpen
    cases isOpen

/-- An operation that does not dispose of the connection. -/
theorem settle (alive : world.Alive) (keeps : world.conn.Keeps next) :
    (world.settle next).Alive := by
  rcases settle_cases world next with ⟨last, current, result⟩ | ⟨still, result⟩
  · rw [result]
    refine ⟨?_, alive.forget_reading last, nofun, alive.present_next keeps,
      alive.started_next keeps, ?_⟩
    · rintro socket (opened | connecting | writing | ⟨gate, closing⟩)
      · exact keeps.packet (alive.users socket (.inl (List.mem_filter.mp opened).1))
      · exact keeps.packet (alive.users socket (.inr (.inl connecting)))
      · exact keeps.packet (alive.users socket (.inr (.inr (.inl writing))))
      · -- The socket that has just been closed was open.
        exact keeps.packet (alive.users last (.inl (alive.current last current).1))
    · intro plain socket member
      exact absurd member (alive.not_forgotten plain current)
  · rw [result]
    exact alive.keep keeps still

/-- The connection is disposed of while it is idle. -/
theorem dispose (alive : world.Alive) (idle : world.idle = true)
    (disposes : world.conn.Disposes next) : (world.settle next).Alive := by
  rcases (world.idle_iff).mp idle with ⟨⟨noConnect, noWrite⟩, gateClosed⟩
  have present : forall clnt, next.clnt = .live clnt -> next.bDisposed = false ->
      next.packet.isSome = true := by
    intro _ _ undisposed
    rw [disposes.disposed] at undisposed
    cases undisposed
  have started : forall clnt, next.clnt = .live clnt ->
      next.bRunning = true ∨ next.bDisposed = true := fun _ _ => .inr disposes.disposed
  rcases settle_cases world next with ⟨last, current, result⟩ | ⟨still, result⟩
  · rw [result]
    have plain : world.gate = false := by
      rw [Bool.eq_false_iff]
      intro gate
      exact (gateClosed gate).1 last (alive.current last current).1
    refine ⟨?_, alive.forget_reading last, nofun, present, started, ?_⟩
    · rintro socket (opened | connecting | writing | ⟨gate, _⟩)
      · exact absurd opened (alive.not_forgotten plain current)
      · exact absurd connecting (noConnect socket)
      · exact absurd writing (noWrite socket)
      · exact absurd (plain.symm.trans gate) Bool.false_ne_true
    · intro _ socket member
      exact absurd member (alive.not_forgotten plain current)
  · rw [result]
    have noSocket : forall socket, socket ∉ world.opened := by
      intro socket opened
      cases gate : world.gate with
      | true => exact (gateClosed gate).1 socket opened
      | false =>
          rcases alive.single gate socket opened with ⟨current, unflushed⟩
          have isOpen := still socket current
          rw [disposes.closes unflushed] at isOpen
          cases isOpen
    refine ⟨?_, alive.reading, ?_, present, started, ?_⟩
    · rintro socket (opened | connecting | writing | ⟨gate, closing⟩)
      · exact absurd opened (noSocket socket)
      · exact absurd connecting (noConnect socket)
      · exact absurd writing (noWrite socket)
      · exact absurd closing ((gateClosed gate).2 socket)
    · intro socket current
      exact absurd (alive.current socket current).1 (noSocket socket)
    · intro _ socket opened
      exact absurd opened (noSocket socket)

/-- A request or a close callback is done. -/
theorem fewer (alive : world.Alive) {connecting writing closing : List Nat}
    (fewerConnects : forall socket, socket ∈ connecting -> socket ∈ world.connecting)
    (fewerWrites : forall socket, socket ∈ writing -> socket ∈ world.writing)
    (fewerCloses : forall socket, socket ∈ closing -> socket ∈ world.closing) :
    ({ world with connecting, writing, closing } : UvUpstream).Alive where
  users := by
    rintro socket (opened | connect | write | ⟨gate, close⟩)
    · exact alive.users socket (.inl opened)
    · exact alive.users socket (.inr (.inl (fewerConnects socket connect)))
    · exact alive.users socket (.inr (.inr (.inl (fewerWrites socket write))))
    · exact alive.users socket (.inr (.inr (.inr ⟨gate, fewerCloses socket close⟩)))
  reading := alive.reading
  current := alive.current
  present := alive.present
  started := alive.started
  single := alive.single

/-- A connection that was flushed opens a socket. -/
theorem opens (alive : world.Alive) (flushed : world.conn.bFlushed = true)
    (packet : next.packet.isSome = true) (socket : next.socket.isSome = true)
    (running : next.bRunning = true) (unflushed : next.bFlushed = false) :
    (world.opens next).Alive where
  users := fun _ _ => packet
  reading := fun socket reading => List.mem_append_left _ (alive.reading socket reading)
  current := by
    rintro _ ⟨⟩
    exact ⟨List.mem_append_right _ (List.mem_singleton_self _), socket⟩
  present := fun _ _ _ => packet
  started := fun _ _ => .inl running
  single := by
    intro plain other member
    rcases List.mem_append.mp member with opened | added
    · have was := (alive.single plain other opened).2
      rw [flushed] at was
      cases was
    · rw [List.mem_singleton.mp added]
      exact ⟨rfl, unflushed⟩

theorem connect {ip : List Char} {parsed started : Bool} {uninitialised : Memory UInt8}
    (alive : world.Alive) (done : world.conn.connect ip parsed started uninitialised = some next) :
    (if UvIsolatedConn.isIpAddress ip && parsed && started then world.opens next
      else { world with conn := next }).Alive := by
  unfold UvIsolatedConn.connect at done
  split at done
  · rename_i fresh
    rcases fresh with ⟨_, undisposed, flushed, stopped⟩
    split at done
    · rename_i address
      dsimp only at done
      split at done
      · rename_i begins
        cases done
        rw [address, begins.1, begins.2]
        exact alive.opens flushed rfl rfl rfl rfl
      · rename_i fails
        cases done
        have condition : (UvIsolatedConn.isIpAddress ip && parsed && started) = false := by
          rw [address, Bool.true_and, ← Bool.not_eq_true, Bool.and_eq_true]
          exact fails
        rw [if_neg (Bool.eq_false_iff.mp condition)]
        refine alive.replace (fun _ => rfl) ?_ nofun nofun (fun _ _ _ => id)
        -- There is no socket before the first connection has been started.
        intro socket current
        rcases UvIsolatedConn.live_of_socket (alive.current socket current).2 with ⟨clnt, live⟩
        rcases alive.started clnt live with running | disposed
        · exact absurd running stopped
        · exact absurd disposed undisposed
    · rename_i hostname
      cases done
      rw [if_neg (fun address => by simp [hostname] at address)]
      exact alive
  · cases done

/-- `Reconnect`, whichever timer calls it. -/
theorem reconnect {started : Bool} (alive : world.Alive)
    (done : world.conn.reconnect started = some next) :
    (if world.conn.bFlushed && started then world.opens next
      else { world with conn := next }).Alive := by
  rcases UvIsolatedConn.reconnect_cases done with
    ⟨undisposed, ⟨unflushed, rfl⟩ | ⟨flushed, clnt, live, rfl⟩ | ⟨_, fails, missing, rfl⟩⟩
  · rw [unflushed]
    exact alive.replace id (fun socket current => (alive.current socket current).2)
      alive.present (fun _ _ => .inl rfl) (fun _ _ _ _ => rfl)
  · have packet := alive.present clnt live undisposed
    cases started with
    | true =>
        rw [flushed]
        exact alive.opens flushed packet rfl rfl rfl
    | false =>
        rw [Bool.and_false]
        refine alive.replace id ?_ (fun _ _ _ => packet) (fun _ _ => .inl rfl)
          (fun _ _ _ _ => rfl)
        intro socket current
        have isOpen := (alive.current socket current).2
        rw [UvIsolatedConn.socket, live] at isOpen
        exact isOpen
  · rw [fails, Bool.and_false]
    exact alive.replace id (fun socket current => (alive.current socket current).2)
      (fun clnt live => absurd live (missing clnt)) (fun _ _ => .inl rfl) (fun _ _ _ _ => rfl)

theorem timer {started : Bool} (alive : world.Alive)
    (done : world.conn.onTimer started = some next) :
    (if world.conn.bFlushed && started then world.opens next
      else { world with conn := next }).Alive := by
  unfold UvIsolatedConn.onTimer at done
  split at done
  · have stopped : ({ world with conn.reconnectTimer := some false } : UvUpstream).Alive :=
      alive.replace id (fun socket current => (alive.current socket current).2)
        alive.present alive.started (fun _ _ _ => id)
    exact stopped.reconnect done
  · cases done

theorem withOrphans (alive : world.Alive) (orphans : Nat) :
    ({ world with orphans := orphans } : UvUpstream).Alive :=
  ⟨alive.users, alive.reading, alive.current, alive.present, alive.started, alive.single⟩

theorem onOrphanTimer {started : Bool} {after : UvUpstream} (alive : world.Alive)
    (done : world.onOrphanTimer started = some after) : after.Alive := by
  rcases Option.ite_none_right_eq_some.mp done with ⟨_, fired⟩
  rcases Option.map_eq_some_iff.mp fired with ⟨next, called, rfl⟩
  exact (alive.withOrphans (world.orphans - 1)).reconnect called

theorem flushAndError (alive : world.Alive) {after : UvUpstream}
    (done : world.flushAndError = some after) : after.Alive := by
  rcases Option.map_eq_some_iff.mp done with ⟨next, called, rfl⟩
  rcases UvIsolatedConn.withClient_eq called with ⟨clnt, live, lost⟩
  exact alive.settle (.flushAndError lost)

/-- The loop reads from the socket of the client handle. -/
theorem connected {clnt : ClientHandle} (alive : world.Alive)
    (live : world.conn.clnt = .live clnt) :
    ({ world with
      conn := (world.conn.established clnt).onConnect
      reading := world.reading ++ world.current.toList } : UvUpstream).Alive := by
  rcases UvIsolatedConn.onConnect_eq (world.conn.established clnt) with ⟨connected, same⟩
  rw [same]
  refine ⟨alive.users, ?_, ?_, fun _ _ => alive.present clnt live,
    fun _ _ => alive.started clnt live, alive.single⟩
  · intro socket member
    rcases List.mem_append.mp member with reading | started
    · exact alive.reading socket reading
    · exact (alive.current socket (Option.mem_toList.mp started)).1
  · intro socket current
    exact ⟨(alive.current socket current).1, rfl⟩

theorem setupFailed {last : Nat} (alive : world.Alive) (current : world.current = some last) :
    ({ world.forget last with conn.clnt := .freed } : UvUpstream).Alive := by
  refine ⟨?_, alive.forget_reading last, nofun, nofun, nofun, ?_⟩
  · rintro socket (opened | due)
    · exact alive.users socket (.inl (List.mem_filter.mp opened).1)
    · exact alive.users socket (.inr due)
  · intro plain socket member
    exact absurd member (alive.not_forgotten plain current)

theorem onConnectCb {outcome : ConnectOutcome} {after : UvUpstream} (alive : world.Alive)
    (done : world.onConnectCb outcome = some after) : after.Alive := by
  cases outcome with
  | connected =>
      rcases Option.map_eq_some_iff.mp done with ⟨next, called, rfl⟩
      rcases UvIsolatedConn.withClient_eq called with ⟨clnt, live, established⟩
      split at established
      · cases established
        exact alive.connected live
      · cases established
  | setupFailed =>
      simp only [UvUpstream.onConnectCb] at done
      split at done
      · rename_i last current
        cases done
        exact alive.setupFailed current
      · cases done
  | failed => exact alive.flushAndError done

/-- A packet object is there when a write request is started. -/
theorem sendRaw {started : Bool} {after : UvUpstream} (alive : world.Alive)
    (keeps : world.disposes (.sendRaw started) = false)
    (done : world.sendRaw started = some after) : after.Alive := by
  unfold UvUpstream.sendRaw at done
  split at done
  · rename_i ready
    split at done
    · cases started with
      | true =>
          cases done
          rw [Bool.and_assoc, Bool.and_eq_true] at ready
          exact ⟨fun _ _ => ready.1, alive.reading, alive.current, alive.present, alive.started,
            alive.single⟩
      | false => exact absurd (keeps.symm.trans ready) Bool.false_ne_true
    · cases done
  · cases done
    exact alive

theorem onStreamClose {after : UvUpstream} (alive : world.Alive)
    (done : world.onStreamClose = some after) : after.Alive := by
  unfold UvUpstream.onStreamClose at done
  split at done
  · rename_i gate
    rcases Option.map_eq_some_iff.mp done with ⟨next, called, rfl⟩
    rcases UvIsolatedConn.withClient_eq called with ⟨clnt, live, error⟩
    have flushed : ({ world with conn.bFlushed := true } : UvUpstream).Alive := by
      refine alive.replace id (fun socket current => (alive.current socket current).2)
        alive.present alive.started ?_
      intro plain
      exact absurd (plain.symm.trans gate) Bool.false_ne_true
    refine flushed.keep (.onIsolatedError error) ?_
    intro socket current
    have isOpen := (alive.current socket current).2
    rw [UvIsolatedConn.socket, UvIsolatedConn.onIsolatedError_clnt error]
    exact isOpen
  · cases done
    exact alive

theorem whileReading {socket : Nat} {callback : ClientHandle -> Option UvIsolatedConn}
    {after : UvUpstream} (alive : world.Alive)
    (keeps : forall clnt next, world.conn.clnt = .live clnt -> callback clnt = some next ->
      world.conn.Keeps next)
    (done : world.whileReading socket callback = some after) : after.Alive := by
  unfold UvUpstream.whileReading at done
  split at done
  · rcases Option.map_eq_some_iff.mp done with ⟨next, called, rfl⟩
    rcases UvIsolatedConn.withClient_eq called with ⟨clnt, live, answered⟩
    exact alive.settle (keeps clnt next live answered)
  · cases done

/-- An event that does not dispose of the connection. -/
theorem perform_keeps {codec : Codec} {event : UpstreamEvent} {after : UvUpstream}
    (alive : world.Alive) (keeps : world.disposes event = false)
    (done : world.Step codec event after) : after.Alive := by
  unfold Step perform at done
  split at done
  · cases done
  · cases event with
    | connect ip parsed started uninitialised =>
        rcases Option.map_eq_some_iff.mp done with ⟨next, called, rfl⟩
        exact (alive.withOrphans (world.orphansAfter ip)).connect called
    | disconnect =>
        rcases Option.map_eq_some_iff.mp done with ⟨next, called, rfl⟩
        rw [UvIsolatedConn.disconnect_idle keeps called]
        exact alive.settle (.refl world.conn)
    | reopen nDelaySeconds =>
        rcases Option.map_eq_some_iff.mp done with ⟨next, called, rfl⟩
        exact alive.settle (UvIsolatedConn.reopen_keeps keeps called)
    | disposeConnection =>
        have disposed : world.conn.bDisposed = true := by
          simpa [UvUpstream.disposes] using keeps
        simp only [UvIsolatedConn.disposeConnection, disposed, if_true] at done
        cases done
        exact alive.settle (.refl world.conn)
    | sendRaw started => exact alive.sendRaw keeps done
    | timer started =>
        rcases Option.map_eq_some_iff.mp done with ⟨next, called, rfl⟩
        exact alive.timer called
    | orphanTimer started => exact alive.onOrphanTimer done
    | connectCb socket outcome =>
        dsimp only at done
        split at done
        · refine onConnectCb ?_ done
          exact alive.fewer (fun _ => List.mem_of_mem_erase) (fun _ => id) (fun _ => id)
        · cases done
    | recv socket chunk => exact alive.whileReading (fun _ _ live => .onRecv live) done
    | recvEnd socket called => exact alive.whileReading (fun _ _ live => .onRecvEnd live) done
    | recvError socket called => exact alive.whileReading (fun _ _ live => .onRecvError live) done
    | writeCb socket status =>
        dsimp only at done
        split at done
        · have written : ({ world with writing := world.writing.erase socket } : UvUpstream).Alive :=
            alive.fewer (fun _ => id) (fun _ => List.mem_of_mem_erase) (fun _ => id)
          split at done
          · exact written.flushAndError done
          · cases done
            exact written
        · cases done
    | closeCb socket =>
        dsimp only at done
        split at done
        · refine onStreamClose ?_ done
          exact alive.fewer (fun _ => id) (fun _ => id) (fun _ => List.mem_of_mem_erase)
        · cases done

theorem step {codec : Codec} {event : UpstreamEvent} {after : UvUpstream} (alive : world.Alive)
    (step : world.QuietStep codec event after) : after.Alive := by
  rcases step with ⟨done, quiet⟩
  cases disposing : world.disposes event with
  | false => exact alive.perform_keeps disposing done
  | true =>
      rcases perform_disposes done disposing with ⟨next, disposes, rfl⟩
      refine alive.dispose ?_ disposes
      rw [UvUpstream.quiet, disposing] at quiet
      exact quiet

end Alive

/-- Whatever is due and uses the packet object is one of what keeps it alive. -/
theorem Alive.packet {world : UvUpstream} {event : UpstreamEvent} (alive : world.Alive)
    (runs : world.runsCodec event = true) : world.conn.packet.isSome = true := by
  unfold runsCodec at runs
  split at runs
  · rename_i socket
    exact alive.users socket (.inr (.inl (of_decide_eq_true runs)))
  · rename_i socket chunk
    rw [Bool.and_eq_true] at runs
    exact alive.users socket (.inl (alive.reading socket (of_decide_eq_true runs.1)))
  · rename_i socket _
    exact alive.users socket (.inl (alive.reading socket (of_decide_eq_true runs)))
  · rename_i socket
    exact alive.users socket (.inr (.inr (.inl (of_decide_eq_true runs))))
  · rename_i socket
    rw [Bool.and_eq_true] at runs
    exact alive.users socket (.inr (.inr (.inr ⟨runs.1, of_decide_eq_true runs.2⟩)))
  · cases runs

/-- Where the connection is disposed of only when it is idle, the packet object is
there each time it is used. -/
theorem packet_alive_when_used (codec : Codec) (gate : Bool) (recvPool sendPool : BufferPool)
    {events : List UpstreamEvent} {world : UvUpstream} {event : UpstreamEvent}
    (run : Run (QuietStep codec) (initial gate recvPool sendPool) events world)
    (runs : world.runsCodec event = true) : world.conn.packet.isSome = true := by
  have alive := run.invariant Alive (fun _ _ _ alive step => alive.step step)
    (initial_alive gate recvPool sendPool)
  exact alive.packet runs

/-- A connection that is disposed of with a request pending is called back
without its packet object. -/
theorem busy_dispose_unsafe {codec : Codec} {world after : UvUpstream} {event : UpstreamEvent}
    (done : world.Step codec event after) (disposes : world.disposes event = true)
    (busy : (world.connecting.isEmpty && world.writing.isEmpty) = false) :
    after.conn.packet = none ∧ Exists fun due => after.runsCodec due = true := by
  rcases perform_disposes done disposes with ⟨next, disposed, rfl⟩
  rcases world.settle_requests next with ⟨conn, connecting, writing⟩
  refine ⟨by rw [conn, disposed.packet], ?_⟩
  cases pending : world.connecting with
  | cons socket rest =>
      refine ⟨.connectCb socket .failed, ?_⟩
      simp [runsCodec, connecting, pending]
  | nil =>
      cases unwritten : world.writing with
      | cons socket rest =>
          refine ⟨.writeCb socket (.failed false), ?_⟩
          simp [runsCodec, writing, unwritten]
      | nil => simp [pending, unwritten] at busy

/-- A connection of either class with unused pools. -/
def unused (gate : Bool) : UvUpstream :=
  initial gate (.initial fun _ _ => 0) (.initial fun _ _ => 0)

/-- The front end connects, and the connect request is started. -/
def connects : UpstreamEvent := .connect ['1', '2', '7', '.', '0', '.', '0', '.', '1'] true true
  fun _ => 0

/-- The peer of a gate closes its connection while a write request is pending.  The
close callback and the end of the write still find the packet object. -/
theorem packet_alive_when_used_closing :
    Exists fun world : UvUpstream =>
      Run (QuietStep ⟨.outer, .pointer32⟩) (unused true)
        [connects, .connectCb 0 .connected, .sendRaw true, .recvEnd 0 true] world ∧
      world.runsCodec (.closeCb 0) = true ∧ world.runsCodec (.writeCb 0 (.failed false)) = true ∧
      world.conn.packet.isSome = true := by
  have run : Exists fun world : UvUpstream =>
      Run (QuietStep ⟨.outer, .pointer32⟩) (unused true)
        [connects, .connectCb 0 .connected, .sendRaw true, .recvEnd 0 true] world ∧
      world.runsCodec (.closeCb 0) = true ∧ world.runsCodec (.writeCb 0 (.failed false)) = true :=
    ⟨_, .cons ⟨rfl, rfl⟩ (.cons ⟨rfl, rfl⟩ (.cons ⟨rfl, rfl⟩ (.cons ⟨rfl, rfl⟩ (.nil _)))),
      rfl, rfl⟩
  rcases run with ⟨world, run, closes, writes⟩
  exact ⟨world, run, closes, writes, packet_alive_when_used _ _ _ _ run closes⟩

/-- `Disconnect` while the connect request is pending.  The request then ends with
`UV_ECANCELED`, and `OnIsolatedError` has no packet object.  In the gate class the
same happens when an established connection is disconnected. -/
theorem disconnect_leaves_callbacks :
    (Exists fun world : UvUpstream =>
      Run (Step ⟨.inner, .pointer32⟩) (unused false) [connects, .disconnect] world ∧
      world.runsCodec (.connectCb 0 .failed) = true ∧ world.conn.packet.isSome = false ∧
      world.perform ⟨.inner, .pointer32⟩ (.connectCb 0 .failed) = none) ∧
    Exists fun world : UvUpstream =>
      Run (Step ⟨.outer, .pointer32⟩) (unused true)
        [connects, .connectCb 0 .connected, .disconnect] world ∧
      world.runsCodec (.closeCb 0) = true ∧ world.conn.packet.isSome = false ∧
      world.perform ⟨.outer, .pointer32⟩ (.closeCb 0) = none := by
  constructor
  · exact ⟨_, .cons rfl (.cons rfl (.nil _)), rfl, rfl, rfl⟩
  · exact ⟨_, .cons rfl (.cons rfl (.cons rfl (.nil _))), rfl, rfl, rfl⟩

end UvUpstream
end NetSystem
