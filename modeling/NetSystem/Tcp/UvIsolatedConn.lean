import NetSystem.Packet.Alike

namespace NetSystem

/-!
# The upstream connection `CUvIsolatedConn`

`UvIsolatedConn.cpp` with what it uses of `uv_client.c` and of the factory,
which calls the connection directly.  A connection owns a client handle with
the socket and the receive buffer, a packet object and a reconnect timer; the
loop calls it back when a connect request ends, when bytes arrive, when a write
has failed and when the timer fires.

Every operation returns `none` where the source has no defined behaviour left:
an assertion fails, a null or freed pointer is used, or a product does not fit
its type.  An event returns
`none` also where the loop does not produce it.  Nothing catches the exception
of `DecodeStream` on this path, so a connection that has thrown does nothing
more.  Calls into the event manager, the address and the counters are left out.
-/

/-- What the loop is doing with a socket. -/
inductive SocketPhase where
  | connecting
  | reading
deriving DecidableEq

/-- `client_handle_t`: the socket, unless it is null, and the receive buffer. -/
structure ClientHandle where
  sockimpl : Option SocketPhase
  bb : BipBuf

/-- The pointer `_clnt`. -/
inductive ClientRef where
  | null
  | live (clnt : ClientHandle)
  | freed

/-- The members of `CUvIsolatedConn`, with the static pools of its packet
class.  The timer is null, stopped or started, and `reconnectTimeout` is the
timeout in milliseconds that a timer of the connection was last started with.
`events` is what the decoder has reported since the connection was last
established. -/
structure UvIsolatedConn where
  clnt : ClientRef
  recvPool : BufferPool
  sendPool : BufferPool
  packet : Option TcpPacket
  reconnectTimer : Option Bool
  reconnectTimeout : Nat
  bRunning : Bool
  bConnected : Bool
  bDisposed : Bool
  bFlushed : Bool
  bDelayReconnecting : Bool
  events : List RecvEvent
  thrown : Option Int

/-- How a connect request ends.  `setupFailed` is a connection on which
`uv_tcp_nodelay` or `uv_read_start` failed. -/
inductive ConnectOutcome where
  | connected
  | setupFailed
  | failed
deriving DecidableEq

/-- What happens to a connection: a callback of the loop, or a call of one of
its public functions.  The Boolean of an ended or failed read says whether
`alloc_cb` was called for it, and that of `reconnect` and `timer` whether
`uv_real_connect_` could start the request. -/
inductive UvEvent where
  | connect (ip : List Char) (parsed started : Bool) (uninitialised : Memory UInt8)
  | connectCb (outcome : ConnectOutcome)
  | recv (chunk : List UInt8)
  | recvEnd (allocated : Bool)
  | recvError (allocated : Bool)
  | sendFailed
  | timer (started : Bool)
  | reconnect (started : Bool)
  | reopen (nDelaySeconds : Int)
  | flushStream
  | onIsolatedError
  | disconnect
  | disposeConnection

namespace UvIsolatedConn

/-- A constructed connection. -/
def initial (recvPool sendPool : BufferPool) : UvIsolatedConn where
  clnt := .null
  recvPool := recvPool
  sendPool := sendPool
  packet := none
  reconnectTimer := none
  reconnectTimeout := 0
  bRunning := false
  bConnected := false
  bDisposed := false
  bFlushed := true
  bDelayReconnecting := false
  events := []
  thrown := none

/-- The packet object together with the pools. -/
def packetState (conn : UvIsolatedConn) (packet : TcpPacket) : PacketState :=
  ⟨conn.recvPool, conn.sendPool, packet⟩

def setPacketState (conn : UvIsolatedConn) (state : PacketState) : UvIsolatedConn :=
  { conn with
    recvPool := state.recvPool
    sendPool := state.sendPool
    packet := some state.packet }

/-- `SAFE_DELETE(_packet)`; the destructor clears the object. -/
def deletePacket (conn : UvIsolatedConn) : UvIsolatedConn :=
  match conn.packet with
  | none => conn
  | some packet => { conn.setPacketState (conn.packetState packet).clear with packet := none }

def onConnect (conn : UvIsolatedConn) : UvIsolatedConn :=
  if conn.bRunning ∧ ¬ conn.bConnected then { conn with bConnected := true } else conn

def onDisconnect (conn : UvIsolatedConn) : UvIsolatedConn := { conn with bConnected := false }

/-- `FlushStream` closes the socket. -/
def flushStream (conn : UvIsolatedConn) : Option UvIsolatedConn :=
  match conn.clnt with
  | .null => some conn
  | .freed => none
  | .live clnt =>
      if clnt.sockimpl.isSome ∧ ¬ conn.bFlushed then
        some { conn with clnt := .live { clnt with sockimpl := none }, bFlushed := true }
      else some conn

/-- `RECONNECT_DELAY_SECONDS`. -/
def reconnectDelaySeconds : Int := 10

/-- `uint64_t uDelaySecondsInMs = nDelaySeconds * 1000`, a product of two `int`s. -/
def uDelaySecondsInMs (nDelaySeconds : Int) : Option Nat :=
  let product := nDelaySeconds * 1000
  if -2147483648 ≤ product ∧ product ≤ 2147483647 then
    some (product % 18446744073709551616).toNat
  else none

/-- A timer with the timeout fires.  The loop compares its clock, which counts
milliseconds, with a due time that is clamped to the range of `uint64_t`: a timeout
from the upper half of the range never ends. -/
def Timely (timeout : Nat) : Prop := timeout < 9223372036854775808

instance (timeout : Nat) : Decidable (Timely timeout) := inferInstanceAs (Decidable (_ < _))

def delayReconnect (conn : UvIsolatedConn) (nDelaySeconds : Int) : Option UvIsolatedConn :=
  if ¬ conn.bDelayReconnecting ∧ ¬ conn.bDisposed then
    match conn.reconnectTimer, uDelaySecondsInMs nDelaySeconds with
    | some _, some timeout =>
        some { conn with
          bDelayReconnecting := true
          reconnectTimer := some true
          reconnectTimeout := timeout }
    | _, _ => none
  else some conn

/-- `OnIsolatedError`: the packet object is cleared, the buffer is not. -/
def onIsolatedError (conn : UvIsolatedConn) : Option UvIsolatedConn :=
  match conn.packet with
  | none => none
  | some packet =>
      let cleared := (conn.setPacketState (conn.packetState packet).clear).onDisconnect
      if cleared.bRunning then cleared.delayReconnect reconnectDelaySeconds else some cleared

/-- What every callback does about a lost connection. -/
def flushAndError (conn : UvIsolatedConn) : Option UvIsolatedConn :=
  conn.flushStream.bind onIsolatedError

def disposeConnection (conn : UvIsolatedConn) : Option UvIsolatedConn :=
  if conn.bDisposed then some conn
  else
    let disposed := { conn with bDisposed := true }
    disposed.deletePacket.flushStream.map fun flushed => { flushed with reconnectTimer := none }

def disconnect (conn : UvIsolatedConn) : Option UvIsolatedConn :=
  if ¬ conn.bDisposed ∧ conn.bRunning then
    let stopped := { conn with bRunning := false }
    stopped.onDisconnect.disposeConnection
  else some conn

/-- `Reopen`, with `IsolatedConnDelayReconnect` of the factory. -/
def reopen (conn : UvIsolatedConn) (nDelaySeconds : Int) : Option UvIsolatedConn :=
  if conn.bDisposed then some conn
  else
    (if conn.bConnected then conn.disconnect else some conn).bind fun stopped =>
      stopped.delayReconnect nDelaySeconds

/-- `is_ip_address`. -/
def isIpAddress (ip : List Char) : Bool := ip.all fun char => char.isDigit || char == '.'

/-- `Connect` with `uv_connect_`, which gives no handle when the address cannot
be parsed or the request cannot be started. -/
def connect (conn : UvIsolatedConn) (ip : List Char) (parsed started : Bool)
    (uninitialised : Memory UInt8) : Option UvIsolatedConn :=
  if ¬ conn.bConnected ∧ ¬ conn.bDisposed ∧ conn.bFlushed ∧ ¬ conn.bRunning then
    if isIpAddress ip then
      let prepared :=
        { conn with packet := some (conn.packet.getD .initial), reconnectTimer := some false }
      if parsed ∧ started then
        some { prepared with
          clnt := .live ⟨some .connecting, BipBuf.create tcpStreamReadSize uninitialised⟩
          bRunning := true
          bFlushed := false }
      else some { prepared with clnt := .null }
    else some conn
  else none

/-- `Reconnect` with `uv_real_connect_`, whose result is not looked at.  Without a
handle it comes back only when `uv_tcp_init` fails. -/
def reconnect (conn : UvIsolatedConn) (started : Bool) : Option UvIsolatedConn :=
  if conn.bDisposed then none
  else
    let running := { conn with bDelayReconnecting := false, bRunning := true }
    if conn.bFlushed then
      match conn.clnt with
      | .live clnt =>
          let socket := if started then some .connecting else clnt.sockimpl
          some { running with clnt := .live { clnt with sockimpl := socket }, bFlushed := false }
      | _ => if started then none else some { running with bFlushed := false }
    else some running

/-- A callback reaches the connection through its handle. -/
def withClient (conn : UvIsolatedConn) (callback : ClientHandle -> Option UvIsolatedConn) :
    Option UvIsolatedConn :=
  match conn.clnt with
  | .live clnt => callback clnt
  | _ => none

/-- A callback of a socket that is in the given phase. -/
def inPhase (conn : UvIsolatedConn) (phase : SocketPhase)
    (callback : ClientHandle -> Option UvIsolatedConn) : Option UvIsolatedConn :=
  conn.withClient fun clnt => if clnt.sockimpl = some phase then callback clnt else none

def setClient (conn : UvIsolatedConn) (clnt : ClientHandle) : UvIsolatedConn :=
  { conn with clnt := .live clnt }

/-- The connection once `uv_read_start` has succeeded. -/
def established (conn : UvIsolatedConn) (clnt : ClientHandle) : UvIsolatedConn :=
  { conn with clnt := .live { clnt with sockimpl := some .reading }, events := [] }

/-- `on_isolated_connect_error`.  When the set-up fails the handle is freed
while `_clnt` still points to it. -/
def onConnectCb (conn : UvIsolatedConn) : ConnectOutcome -> Option UvIsolatedConn
  | .connected => conn.inPhase .connecting fun clnt => some (conn.established clnt).onConnect
  | .setupFailed => conn.inPhase .connecting fun _ => some { conn with clnt := .freed }
  | .failed => conn.withClient fun _ => conn.flushAndError

/-- The connection after `OnRawData` on what was received. -/
def received (conn : UvIsolatedConn) (clnt : ClientHandle) (next : Receiver) : UvIsolatedConn :=
  { (conn.setPacketState next.state).setClient { clnt with bb := next.bb } with
    events := next.events }

/-- `alloc_cb`, and `on_isolated_recv` with `nread` the length of the chunk. -/
def onRecv (codec : Codec) (conn : UvIsolatedConn) (chunk : List UInt8) (clnt : ClientHandle) :
    Option UvIsolatedConn :=
  if chunk = [] then
    match clnt.bb.reserve.pointer with
    | none => none
    | some _ => some (conn.setClient { clnt with bb := clnt.bb.reserve.bb.commit 0 })
  else
    match conn.packet with
    | none => none
    | some packet =>
        match Receiver.feed codec ⟨clnt.bb, conn.packetState packet, conn.events⟩ chunk with
        | .decoded next => some (conn.received clnt next)
        | .thrown errno next => some { conn.received clnt next with thrown := some errno }
        | .refused => none

/-- The buffer after `alloc_cb`, when it was called. -/
def allocated (bb : BipBuf) (called : Bool) : BipBuf := if called then bb.reserve.bb else bb

/-- `on_isolated_recv` with `UV_EOF` or `UV_ECONNRESET`. -/
def onRecvEnd (conn : UvIsolatedConn) (called : Bool) (clnt : ClientHandle) :
    Option UvIsolatedConn :=
  (conn.setClient { clnt with bb := (allocated clnt.bb called).commit 0 }).flushAndError

/-- `on_isolated_recv` with any other error: the reservation stays open. -/
def onRecvError (conn : UvIsolatedConn) (called : Bool) (clnt : ClientHandle) :
    Option UvIsolatedConn :=
  some (conn.setClient { clnt with bb := allocated clnt.bb called })

/-- The timer, which was started once, calls `Reconnect`. -/
def onTimer (conn : UvIsolatedConn) (started : Bool) : Option UvIsolatedConn :=
  if conn.reconnectTimer = some true ∧ Timely conn.reconnectTimeout then
    let stopped := { conn with reconnectTimer := some false }
    stopped.reconnect started
  else none

/-- One event. -/
def perform (codec : Codec) (conn : UvIsolatedConn) (event : UvEvent) : Option UvIsolatedConn :=
  if conn.thrown.isSome then none
  else
    match event with
    | .connect ip parsed started uninitialised => conn.connect ip parsed started uninitialised
    | .connectCb outcome => conn.onConnectCb outcome
    | .recv chunk => conn.inPhase .reading (conn.onRecv codec chunk)
    | .recvEnd called => conn.inPhase .reading (conn.onRecvEnd called)
    | .recvError called => conn.inPhase .reading (conn.onRecvError called)
    | .sendFailed => conn.withClient fun _ => conn.flushAndError
    | .timer started => conn.onTimer started
    | .reconnect started => conn.reconnect started
    | .reopen nDelaySeconds => conn.reopen nDelaySeconds
    | .flushStream => conn.flushStream
    | .onIsolatedError => conn.onIsolatedError
    | .disconnect => conn.disconnect
    | .disposeConnection => conn.disposeConnection

def Step (codec : Codec) (conn : UvIsolatedConn) (event : UvEvent) (next : UvIsolatedConn) : Prop :=
  conn.perform codec event = some next

/-- The packets handed on since the connection was last established. -/
def delivered (codec : Codec) (conn : UvIsolatedConn) : List GotPacket :=
  (Receiver.packetsOf conn.events).map codec.onGotPacket

/-- The chunks received one after the other. -/
def receiveAll (codec : Codec) (conn : UvIsolatedConn) (chunks : List (List UInt8)) :
    Option UvIsolatedConn :=
  chunks.foldlM (fun state chunk => state.perform codec (.recv chunk)) conn

end UvIsolatedConn
end NetSystem
