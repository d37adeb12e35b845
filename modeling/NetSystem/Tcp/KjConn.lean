import NetSystem.Tcp.ConnManager

namespace NetSystem

/-!
# The connections of the Kj factory

The two client classes and the four isolated classes, as one object whose class
is a member.  The front end owns `bRunning` and `bConnected`, the back end owns
the stream, the packet codec and the tasks; both read the flags of the other.

The tasks in the task set of a connection are the connect task, the read loop
and the timer of a delayed reconnect.  Flushing the stream fulfils the promise
that the first two are joined with, so they end, and destroying the task set
ends all three.  `none` is a failed assertion or a null pointer followed.
-/

/-- The classes of connections. -/
inductive KjClass where
  | clientConn
  | gateClientConn
  | isolatedConn
  | isolatedConn2
  | gateIsolatedConn
  | gateIsolatedConn2
deriving DecidableEq

/-- `ITcpClient`, not `ITcpIsolated`. -/
def KjClass.isClient : KjClass -> Bool
  | .clientConn => true
  | .gateClientConn => true
  | _ => false

/-- The members of a connection besides the flags of the recycler.  `stream` is
the member of that name of `thrTcpStream`: the link is established. -/
structure KjState where
  kind : KjClass
  refServer : Nat
  bRunning : Bool
  bConnectedEventPosted : Bool
  bDelayReconnecting : Bool
  thrTasks : Bool
  thrTcpStream : Bool
  thrPacket : Bool
  stream : Bool
  connecting : Bool
  reading : Bool
  timer : Bool
deriving DecidableEq

/-- A connection object. -/
structure KjConn extends KjState where
  flags : ConnFlags
deriving DecidableEq

/-- The contents of a packet on its way between the two ends. -/
structure PacketBody where
  uInnerUuid : UInt64
  uSerialNo : UInt8
  sTypeName : List UInt8
  sBody : List UInt8
deriving DecidableEq

/-- What the event manager of a connection is told. -/
inductive ConnNotice where
  | connected
  | disconnected
  | packet (body : PacketBody)
  | innerPacket (body : PacketBody)
deriving DecidableEq

/-- The callbacks that an isolated connection posts about its link. -/
inductive LinkCb where
  | connect
  | disconnect
deriving DecidableEq

/-- `is_ip_address`. -/
def isIpAddress (ip : List Char) : Bool := ip.all fun c => c.isDigit || c == '.'

namespace KjState

/-- A constructed connection.  Only a client is running from the start. -/
def initial (kind : KjClass) (refServer : Nat) : KjState where
  kind := kind
  refServer := refServer
  bRunning := kind.isClient
  bConnectedEventPosted := false
  bDelayReconnecting := false
  thrTasks := false
  thrTcpStream := false
  thrPacket := false
  stream := false
  connecting := false
  reading := false
  timer := false

end KjState

namespace KjConn

/-! ## Called by the front end -/

def onConnect (conn : KjConn) : KjConn × List ConnNotice :=
  if conn.bRunning && !conn.flags.bConnected then
    ({ conn with flags.bConnected := true }, [.connected])
  else (conn, [])

def onDisconnect (conn : KjConn) : KjConn × List ConnNotice :=
  if conn.flags.bConnected then
    ({ conn with flags.bConnected := false }, [.disconnected])
  else (conn, [])

/-- The first half of `Disconnect`, up to the handlers of the disconnect event.
Nothing happens to a connection that is disposed or not running. -/
def stopRunning (conn : KjConn) : KjConn × List ConnNotice :=
  onDisconnect { conn with bRunning := false }

/-! ## Called by the back end -/

def flushStream (conn : KjConn) : KjConn :=
  if conn.thrTcpStream && !conn.flags.bFlushed then
    { conn with stream := false, connecting := false, reading := false, flags.bFlushed := true }
  else conn

def disposeConnection (conn : KjConn) : KjConn :=
  if conn.flags.bDisposed then conn
  else
    let flushed := flushStream { conn with flags.bDisposed := true, thrPacket := false }
    { flushed with
      thrTcpStream := false
      stream := false
      thrTasks := false
      connecting := false
      reading := false
      timer := false }

/-- `IsReady`. -/
def isReady (conn : KjConn) (connId : Nat) : Bool :=
  decide (0 < connId) && !conn.flags.bDisposed && !conn.flags.bFlushed

/-- `ConfirmClientIsReady`, with whether `RemoveStream` finds the stream. -/
def confirmClientIsReady (conn : KjConn) (found : Bool) : KjConn :=
  if found then
    { conn with
      thrTcpStream := true
      stream := true
      thrTasks := true
      connecting := false
      reading := true
      timer := false
      thrPacket := true }
  else { conn with thrTcpStream := false, stream := false }

/-- `Connect`.  Creating the task set anew destroys the tasks of the old one. -/
def connect (conn : KjConn) (sIpOrHostname : List Char) : Option KjConn :=
  if !conn.flags.bConnected && !conn.flags.bDisposed && conn.flags.bFlushed && !conn.bRunning then
    if isIpAddress sIpOrHostname then
      some { conn with
        thrTasks := true
        thrTcpStream := true
        stream := false
        connecting := true
        reading := false
        timer := false
        thrPacket := true
        bRunning := true
        flags.bFlushed := false }
    else some conn
  else none

def reconnect (conn : KjConn) : Option KjConn :=
  if conn.flags.bDisposed then none
  else
    let running := { conn with bRunning := true }
    if running.flags.bFlushed then
      if running.thrTasks then
        some { running with flags.bFlushed := false, thrTcpStream := true, connecting := true }
      else none
    else some running

/-- `DelayReconnect`.  How long the timer takes is not modelled. -/
def delayReconnect (conn : KjConn) : Option KjConn :=
  if !conn.bDelayReconnecting && !conn.flags.bDisposed then
    if conn.thrTasks then some { conn with bDelayReconnecting := true, timer := true } else none
  else some conn

/-- The timer of a delayed reconnect fires. -/
def timerFired (conn : KjConn) : Option KjConn :=
  let fired := { conn with timer := false }
  if fired.bDelayReconnecting && !fired.flags.bDisposed then
    reconnect { fired with bDelayReconnecting := false }
  else some fired

/-- `OnLowLevelConnect` of every isolated class. -/
def onLowLevelConnect (conn : KjConn) : KjConn × List LinkCb :=
  if !conn.flags.bConnected then
    ({ conn with bConnectedEventPosted := true, reading := true }, [.connect])
  else ({ conn with reading := true }, [])

/-- `OnLowLevelDisconnect`, with its condition. -/
def lowLevelDisconnect (conn : KjConn) (condition : Bool) : KjConn × List LinkCb :=
  if condition then ({ conn with bConnectedEventPosted := false }, [.disconnect]) else (conn, [])

/-- `CKjIsolatedConn::OnLowLevelDisconnect`. -/
def isolatedConnOnLowLevelDisconnect (conn : KjConn) : KjConn × List LinkCb :=
  conn.lowLevelDisconnect (conn.flags.bConnected || conn.bConnectedEventPosted)

/-- `CKjIsolatedConn2::OnLowLevelDisconnect`. -/
def isolatedConn2OnLowLevelDisconnect (conn : KjConn) : KjConn × List LinkCb :=
  conn.lowLevelDisconnect conn.flags.bConnected

/-- `CKjGateIsolatedConn::OnLowLevelDisconnect`. -/
def gateIsolatedConnOnLowLevelDisconnect (conn : KjConn) : KjConn × List LinkCb :=
  conn.lowLevelDisconnect conn.flags.bConnected

/-- `CKjGateIsolatedConn2::OnLowLevelDisconnect`. -/
def gateIsolatedConn2OnLowLevelDisconnect (conn : KjConn) : KjConn × List LinkCb :=
  conn.lowLevelDisconnect (conn.flags.bConnected || conn.bConnectedEventPosted)

/-- `OnLowLevelDisconnect`, which a client does not have. -/
def onLowLevelDisconnect (conn : KjConn) : KjConn × List LinkCb :=
  match conn.kind with
  | .isolatedConn => conn.isolatedConnOnLowLevelDisconnect
  | .isolatedConn2 => conn.isolatedConn2OnLowLevelDisconnect
  | .gateIsolatedConn => conn.gateIsolatedConnOnLowLevelDisconnect
  | .gateIsolatedConn2 => conn.gateIsolatedConn2OnLowLevelDisconnect
  | .clientConn => (conn, [])
  | .gateClientConn => (conn, [])

/-- The connect task succeeds. -/
def linkUp (conn : KjConn) : KjConn × List LinkCb :=
  onLowLevelConnect { conn with stream := true, connecting := false }

def onIsolatedError (conn : KjConn) : Option (KjConn × List LinkCb) :=
  if conn.thrPacket then
    let lost := if conn.thrTcpStream then conn.onLowLevelDisconnect else (conn, [])
    if lost.1.bRunning then lost.1.delayReconnect.map fun delayed => (delayed, lost.2)
    else some lost
  else none

/-! ## What the back end can do -/

theorem connect_eq_some {conn next : KjConn} {sIpOrHostname : List Char}
    (done : conn.connect sIpOrHostname = some next) :
    (conn.flags.bConnected = false ∧ conn.flags.bDisposed = false ∧ conn.flags.bFlushed = true ∧
      conn.bRunning = false) ∧
    (next = conn ∨ next = { conn with
      thrTasks := true
      thrTcpStream := true
      stream := false
      connecting := true
      reading := false
      timer := false
      thrPacket := true
      bRunning := true
      flags.bFlushed := false }) := by
  unfold connect at done
  split at done
  · rename_i condition
    refine ⟨by simpa [and_assoc] using condition, ?_⟩
    split at done <;> cases done
    · exact .inr rfl
    · exact .inl rfl
  · cases done

theorem delayReconnect_eq_some {conn next : KjConn} (done : conn.delayReconnect = some next) :
    next = conn ∨ (conn.flags.bDisposed = false ∧ conn.thrTasks = true ∧
      next = { conn with bDelayReconnecting := true, timer := true }) := by
  unfold delayReconnect at done
  split at done
  · rename_i condition
    split at done
    · rename_i tasks
      cases done
      have alive : conn.flags.bDisposed = false := by simp_all
      exact .inr ⟨alive, tasks, rfl⟩
    · cases done
  · cases done
    exact .inl rfl

/-- The timer of a delayed reconnect has fired, and what `Reconnect` made of
it. -/
theorem timerFired_eq_some {conn next : KjConn} (done : conn.timerFired = some next) :
    next = { conn with timer := false } ∨
    (conn.flags.bDisposed = false ∧ conn.flags.bFlushed = true ∧ next = { conn with
      timer := false
      bDelayReconnecting := false
      bRunning := true
      flags.bFlushed := false
      thrTcpStream := true
      connecting := true }) ∨
    (conn.flags.bDisposed = false ∧ conn.flags.bFlushed = false ∧ next = { conn with
      timer := false
      bDelayReconnecting := false
      bRunning := true }) := by
  unfold timerFired at done
  dsimp only at done
  split at done
  · rename_i condition
    have alive : conn.flags.bDisposed = false := by simp_all
    unfold reconnect at done
    dsimp only at done
    rw [if_neg (Bool.eq_false_iff.mp alive)] at done
    split at done
    · rename_i flushed
      split at done
      · cases done
        exact .inr (.inl ⟨alive, flushed, rfl⟩)
      · cases done
    · rename_i unflushed
      cases done
      exact .inr (.inr ⟨alive, Bool.eq_false_iff.mpr unflushed, rfl⟩)
  · cases done
    exact .inl rfl

/-- `OnIsolatedError` reports the loss of the link, and a running connection
starts the timer. -/
theorem onIsolatedError_eq_some {conn : KjConn} {lost : KjConn × List LinkCb}
    (error : conn.onIsolatedError = some lost) : Exists fun report : KjConn × List LinkCb =>
      report = (if conn.thrTcpStream then conn.onLowLevelDisconnect else (conn, [])) ∧
      ((report.1.bRunning = true ∧ Exists fun delayed =>
          report.1.delayReconnect = some delayed ∧ (delayed, report.2) = lost) ∨
        (report.1.bRunning = false ∧ report = lost)) := by
  unfold onIsolatedError at error
  split at error
  · dsimp only at error
    refine ⟨_, rfl, ?_⟩
    revert error
    generalize (if conn.thrTcpStream then conn.onLowLevelDisconnect else (conn, [])) = report
    intro error
    split at error
    · rename_i running
      exact .inl ⟨running, Option.map_eq_some_iff.mp error⟩
    · rename_i stopped
      exact .inr ⟨Bool.eq_false_iff.mpr stopped, Option.some.inj error⟩
  · cases error

theorem lowLevelDisconnect_changes (conn : KjConn) (condition : Bool) : Exists fun posted =>
    (conn.lowLevelDisconnect condition).1 = { conn with bConnectedEventPosted := posted } := by
  unfold lowLevelDisconnect
  split
  · exact ⟨false, rfl⟩
  · exact ⟨conn.bConnectedEventPosted, rfl⟩

theorem onLowLevelDisconnect_changes (conn : KjConn) : Exists fun posted =>
    conn.onLowLevelDisconnect.1 = { conn with bConnectedEventPosted := posted } := by
  unfold onLowLevelDisconnect
  split
  · exact lowLevelDisconnect_changes conn _
  · exact lowLevelDisconnect_changes conn _
  · exact lowLevelDisconnect_changes conn _
  · exact lowLevelDisconnect_changes conn _
  · exact ⟨conn.bConnectedEventPosted, rfl⟩
  · exact ⟨conn.bConnectedEventPosted, rfl⟩

/-- The members that `OnIsolatedError` changes. -/
theorem onIsolatedError_changes {conn : KjConn} {lost : KjConn × List LinkCb}
    (error : conn.onIsolatedError = some lost) : Exists fun posted => Exists fun delaying =>
      Exists fun timer => lost.1 = { conn with
        bConnectedEventPosted := posted
        bDelayReconnecting := delaying
        timer := timer } := by
  rcases onIsolatedError_eq_some error with ⟨report, reported, rest⟩
  have changes : Exists fun posted => report.1 = { conn with bConnectedEventPosted := posted } := by
    rw [reported]
    split
    · exact onLowLevelDisconnect_changes conn
    · exact ⟨conn.bConnectedEventPosted, rfl⟩
  rcases changes with ⟨posted, result⟩
  rcases rest with ⟨_, delayed, done, rfl⟩ | ⟨_, rfl⟩
  · rw [result] at done
    rcases delayReconnect_eq_some done with rfl | ⟨_, _, rfl⟩
    · exact ⟨posted, conn.bDelayReconnecting, conn.timer, rfl⟩
    · exact ⟨posted, true, true, rfl⟩
  · exact ⟨posted, conn.bDelayReconnecting, conn.timer, result⟩

/-! ## What no method changes -/

/-- The counters of the two directions. -/
def counters (conn : KjConn) : (UInt32 × UInt32) × (UInt32 × UInt32) :=
  ((conn.flags.frontEndProduceNum, conn.flags.backEndConsumeNum),
    (conn.flags.backEndProduceNum, conn.flags.frontEndConsumeNum))

/-- The same class and server, and nothing counted. -/
structure SameObject (conn next : KjConn) : Prop where
  kind : next.kind = conn.kind
  refServer : next.refServer = conn.refServer
  counters : next.counters = conn.counters

theorem SameObject.trans {conn middle next : KjConn} (first : SameObject conn middle)
    (second : SameObject middle next) : SameObject conn next where
  kind := second.kind.trans first.kind
  refServer := second.refServer.trans first.refServer
  counters := second.counters.trans first.counters

theorem onConnect_sameObject (conn : KjConn) : SameObject conn conn.onConnect.1 := by
  unfold onConnect
  split <;> exact ⟨rfl, rfl, rfl⟩

theorem onDisconnect_sameObject (conn : KjConn) : SameObject conn conn.onDisconnect.1 := by
  unfold onDisconnect
  split <;> exact ⟨rfl, rfl, rfl⟩

theorem stopRunning_sameObject (conn : KjConn) : SameObject conn conn.stopRunning.1 := by
  rcases onDisconnect_sameObject { conn with bRunning := false } with ⟨kind, refServer, counters⟩
  exact ⟨kind, refServer, counters⟩

theorem flushStream_sameObject (conn : KjConn) : SameObject conn conn.flushStream := by
  unfold flushStream
  split <;> exact ⟨rfl, rfl, rfl⟩

theorem disposeConnection_sameObject (conn : KjConn) : SameObject conn conn.disposeConnection := by
  unfold disposeConnection
  split
  · exact ⟨rfl, rfl, rfl⟩
  · rcases flushStream_sameObject { conn with flags.bDisposed := true, thrPacket := false } with
      ⟨kind, refServer, counters⟩
    exact ⟨kind, refServer, counters⟩

theorem confirmClientIsReady_sameObject (conn : KjConn) (found : Bool) :
    SameObject conn (conn.confirmClientIsReady found) := by
  unfold confirmClientIsReady
  split <;> exact ⟨rfl, rfl, rfl⟩

theorem connect_sameObject {conn next : KjConn} {sIpOrHostname : List Char}
    (done : conn.connect sIpOrHostname = some next) : SameObject conn next := by
  rcases connect_eq_some done with ⟨_, rfl | rfl⟩
  · exact ⟨rfl, rfl, rfl⟩
  · exact ⟨rfl, rfl, rfl⟩

theorem delayReconnect_sameObject {conn next : KjConn} (done : conn.delayReconnect = some next) :
    SameObject conn next := by
  rcases delayReconnect_eq_some done with rfl | ⟨_, _, rfl⟩
  · exact ⟨rfl, rfl, rfl⟩
  · exact ⟨rfl, rfl, rfl⟩

theorem timerFired_sameObject {conn next : KjConn} (done : conn.timerFired = some next) :
    SameObject conn next := by
  rcases timerFired_eq_some done with rfl | ⟨_, _, rfl⟩ | ⟨_, _, rfl⟩
  · exact ⟨rfl, rfl, rfl⟩
  · exact ⟨rfl, rfl, rfl⟩
  · exact ⟨rfl, rfl, rfl⟩

theorem linkUp_sameObject (conn : KjConn) : SameObject conn conn.linkUp.1 := by
  unfold linkUp onLowLevelConnect
  split <;> exact ⟨rfl, rfl, rfl⟩

theorem onIsolatedError_sameObject {conn : KjConn} {lost : KjConn × List LinkCb}
    (error : conn.onIsolatedError = some lost) : SameObject conn lost.1 := by
  rcases onIsolatedError_changes error with ⟨posted, delaying, timer, result⟩
  rw [result]
  exact ⟨rfl, rfl, rfl⟩

/-! ## What the methods change -/

theorem onConnect_eq (conn : KjConn) :
    conn.onConnect.1 = { conn with flags.bConnected := conn.bRunning || conn.flags.bConnected } := by
  rcases conn with ⟨state, flags⟩
  rcases flags with ⟨bConnected, _⟩
  unfold onConnect
  cases state.bRunning <;> cases bConnected <;> rfl

theorem onDisconnect_eq (conn : KjConn) :
    conn.onDisconnect.1 = { conn with flags.bConnected := false } := by
  rcases conn with ⟨state, flags⟩
  rcases flags with ⟨bConnected, _⟩
  unfold onDisconnect
  cases bConnected <;> rfl

theorem stopRunning_eq (conn : KjConn) :
    conn.stopRunning.1 = { conn with bRunning := false, flags.bConnected := false } :=
  onDisconnect_eq { conn with bRunning := false }

/-- What the front end never changes. -/
def back (conn : KjConn) : KjState × Bool × Bool :=
  ({ conn.toKjState with bRunning := false }, conn.flags.bDisposed, conn.flags.bFlushed)

theorem onConnect_back (conn : KjConn) : conn.onConnect.1.back = conn.back := by
  rw [onConnect_eq]
  rfl

theorem onDisconnect_back (conn : KjConn) : conn.onDisconnect.1.back = conn.back := by
  rw [onDisconnect_eq]
  rfl

theorem stopRunning_back (conn : KjConn) : conn.stopRunning.1.back = conn.back := by
  rw [stopRunning_eq]
  rfl

variable (conn : KjConn)

@[simp] theorem flushStream_disposed :
    conn.flushStream.flags.bDisposed = conn.flags.bDisposed := by
  unfold flushStream
  split <;> rfl

@[simp] theorem flushStream_connected :
    conn.flushStream.flags.bConnected = conn.flags.bConnected := by
  unfold flushStream
  split <;> rfl

@[simp] theorem flushStream_running : conn.flushStream.bRunning = conn.bRunning := by
  unfold flushStream
  split <;> rfl

@[simp] theorem flushStream_thrTcpStream : conn.flushStream.thrTcpStream = conn.thrTcpStream := by
  unfold flushStream
  split <;> rfl

theorem flushStream_flushed (attached : conn.thrTcpStream = true ∨ conn.flags.bFlushed = true) :
    conn.flushStream.flags.bFlushed = true := by
  unfold flushStream
  split
  · rfl
  · rename_i unflushed
    rcases attached with attached | flushed
    · simpa [attached] using unflushed
    · exact flushed

@[simp] theorem disposeConnection_disposed : conn.disposeConnection.flags.bDisposed = true := by
  unfold disposeConnection
  split
  · assumption
  · exact flushStream_disposed { conn with flags.bDisposed := true, thrPacket := false }

@[simp] theorem disposeConnection_connected :
    conn.disposeConnection.flags.bConnected = conn.flags.bConnected := by
  unfold disposeConnection
  split
  · rfl
  · exact flushStream_connected { conn with flags.bDisposed := true, thrPacket := false }

@[simp] theorem disposeConnection_running :
    conn.disposeConnection.bRunning = conn.bRunning := by
  unfold disposeConnection
  split
  · rfl
  · exact flushStream_running { conn with flags.bDisposed := true, thrPacket := false }

/-- A connection with a stream is flushed when it is disposed of. -/
theorem disposeConnection_flushed (attached : conn.flags.bDisposed = false ->
    conn.thrTcpStream = true ∨ conn.flags.bFlushed = true)
    (flushed : conn.flags.bDisposed = true -> conn.flags.bFlushed = true) :
    conn.disposeConnection.flags.bFlushed = true := by
  unfold disposeConnection
  split
  · rename_i disposed
    exact flushed disposed
  · rename_i alive
    exact flushStream_flushed { conn with flags.bDisposed := true, thrPacket := false }
      (attached (Bool.eq_false_iff.mpr alive))

end KjConn
end NetSystem
