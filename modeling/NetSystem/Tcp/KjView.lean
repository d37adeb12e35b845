import NetSystem.Tcp.ConnPlaces
import NetSystem.Tcp.KjWorld

namespace NetSystem

/-!
# One connection in the factory

The view of a connection is the connection with everything in the two threads
that refers to it: its commands and callbacks in the order in which they will
be processed, its deferred functions, what the front end still has to do about
it, where the manager keeps it, and its notifications.  `ConnStep` lists what a
step of the factory can do to one view.  Commands and callbacks of other
connections do not occur in it.
-/

/-- One connection with what refers to it.  `held` says at which servers the
connection is registered and `closed` which servers are closed. -/
structure ConnView where
  created : Bool
  deleted : Bool
  recycled : Bool
  isolated : Bool
  held : Nat -> Bool
  closed : Nat -> Bool
  conn : KjConn
  executing : Option NetCmd
  todo : List NetCmd
  callbacks : List TrunkCb
  rests : List FrontRest
  deferred : Nat
  log : List Notice

/-- The connection that an event names. -/
def WorldEvent.target : WorldEvent -> Option ConnRef
  | .isolatedConnConnect isolated _ => some isolated
  | .sendPacket conn _ => some conn
  | .disconnect conn => some conn
  | .reopen isolated _ => some isolated
  | .evalLater conn => some conn
  | .linkUp isolated => some isolated
  | .connectFailed isolated => some isolated
  | .received conn _ => some conn
  | .readFailed conn => some conn
  | .timerFired isolated => some isolated
  | _ => none

/-- The callback that reports a link event of the connection. -/
def TrunkCb.link (isolated : ConnRef) : LinkCb -> TrunkCb
  | .connect => .isolatedConnect isolated
  | .disconnect => .isolatedDisconnect isolated

namespace ConnView

/-- The commands whose result callback has not run. -/
def pendingCmds (view : ConnView) : List NetCmd := view.executing.toList ++ view.todo

def Live (view : ConnView) : Prop := view.created = true ∧ view.deleted = false

/-- Nothing refers to the connection. -/
structure Untouched (view : ConnView) : Prop where
  executing : view.executing = none
  todo : view.todo = []
  callbacks : view.callbacks = []
  rests : view.rests = []
  deferred : view.deferred = 0
  connecting : view.conn.connecting = false
  reading : view.conn.reading = false
  timer : view.conn.timer = false
  isolated : view.isolated = false
  held : forall server, view.held server = false
  recycled : view.recycled = false

theorem Untouched.pendingCmds {view : ConnView} (untouched : view.Untouched) :
    view.pendingCmds = [] := by
  rw [ConnView.pendingCmds, untouched.executing, untouched.todo]
  rfl

def commit (view : ConnView) (cmd : NetCmd) : ConnView :=
  { view with
    conn.flags.frontEndProduceNum :=
      view.conn.flags.frontEndProduceNum + if cmd.counted.isSome then 1 else 0
    todo := view.todo ++ [cmd] }

def post (view : ConnView) (workCb : TrunkCb) : ConnView :=
  { view with
    conn.flags.backEndProduceNum := view.conn.flags.backEndProduceNum + 1
    callbacks := view.callbacks ++ [workCb] }

def postLinks (view : ConnView) (ref : ConnRef) (links : List LinkCb) : ConnView :=
  links.foldl (fun state link => state.post (.link ref link)) view

def notify (view : ConnView) (ref : ConnRef) (notices : List ConnNotice) : ConnView :=
  { view with
    log := view.log ++ notices.map fun notice => ⟨ref, notice, view.conn.flags.bConnected⟩ }

/-- The object after a call that notifies. -/
def tell (view : ConnView) (ref : ConnRef) (result : KjConn × List ConnNotice) : ConnView :=
  { view with conn := result.1 }.notify ref result.2

/-- The first callback is taken out and counted. -/
def start (view : ConnView) (callbacks : List TrunkCb) : ConnView :=
  { view with
    conn.flags.frontEndConsumeNum := view.conn.flags.frontEndConsumeNum + 1
    callbacks := callbacks }

/-- How `Disconnect` ends. -/
def release (view : ConnView) (ref : ConnRef) : FrontRest :=
  if view.conn.kind.isClient then .removeClient view.conn.refServer ref else .releaseConnection ref

/-- A client that has been accepted. -/
def accepted (view : ConnView) (ref : ConnRef) (kind : KjClass) (server streamptr : Nat) :
    ConnView :=
  let created := { view with
    created := true
    held := fun place => decide (place = server)
    conn := ⟨.initial kind server, .initial false⟩ }
  let confirmed := created.commit (.confirmClientIsReady ref streamptr)
  confirmed.tell ref confirmed.conn.onConnect

/-- The body of the loop of `ReleaseAllIsolateds`. -/
def releaseIsolated (view : ConnView) (ref : ConnRef) : ConnView :=
  let stopped :=
    if !view.conn.flags.bDisposed && view.conn.bRunning then
      (view.tell ref view.conn.stopRunning).commit (.disposeConnection ref)
    else view
  stopped.commit (.disposeConnection ref)

end ConnView

/-- What the end of a front-end call does to the connection it is about. -/
inductive RestStep (ref : ConnRef) : ConnView -> FrontRest -> ConnView -> Prop
  | removed (view : ConnView) (server : Nat) :
      RestStep ref view (.removeClient server ref)
        { view.commit (.disposeConnection ref) with held := fun _ => false, recycled := true }
  | absent (view : ConnView) (server : Nat) (unheld : view.held server = false) :
      RestStep ref view (.removeClient server ref) view
  | released (view : ConnView) :
      RestStep ref view (.releaseConnection ref) (view.commit (.disposeConnection ref))
  | delayed (view : ConnView) (nDelaySeconds : Int) :
      RestStep ref view (.delayReconnect ref nDelaySeconds)
        (view.commit (.isolatedDelayReconnect ref nDelaySeconds))

/-- What a command does to the connection it is for. -/
inductive CmdStep (ref : ConnRef) : ConnView -> NetCmd -> ConnView -> Prop
  | disposed (view : ConnView) :
      CmdStep ref view (.disposeConnection ref) { view with conn := view.conn.disposeConnection }
  | posted (view : ConnView) (body : PacketBody) : CmdStep ref view (.postPacket ref body) view
  | confirmed (view : ConnView) (streamptr : Nat)
      (ready : view.conn.flags.bDisposed = false ∧ view.conn.flags.bFlushed = false) :
      CmdStep ref view (.confirmClientIsReady ref streamptr)
        { view with conn := view.conn.confirmClientIsReady true }
  | notReady (view : ConnView) (streamptr : Nat)
      (ready : view.conn.flags.bDisposed = true ∨ view.conn.flags.bFlushed = true) :
      CmdStep ref view (.confirmClientIsReady ref streamptr) view
  | connected (view : ConnView) (sIpOrHostname : List Char) (conn : KjConn)
      (done : view.conn.connect sIpOrHostname = some conn) :
      CmdStep ref view (.isolatedConnConnect ref sIpOrHostname) { view with conn := conn }
  | delayed (view : ConnView) (nDelaySeconds : Int) (conn : KjConn)
      (done : view.conn.delayReconnect = some conn) :
      CmdStep ref view (.isolatedDelayReconnect ref nDelaySeconds) { view with conn := conn }

/-- What a callback does to the connection it is for.  The handlers of a
disconnect event run before the client is removed. -/
inductive CbStep (ref : ConnRef) : ConnView -> TrunkCb -> ConnView -> Prop
  | clientLost (view : ConnView) (server : Nat) (connected : view.conn.flags.bConnected = true) :
      CbStep ref view (.clientDisconnect server ref)
        { view.tell ref view.conn.onDisconnect with
          rests := .removeClient server ref :: view.rests }
  | clientGone (view next : ConnView) (server : Nat)
      (disconnected : view.conn.flags.bConnected = false)
      (removes : RestStep ref view (.removeClient server ref) next) :
      CbStep ref view (.clientDisconnect server ref) next
  | linkReported (view : ConnView) :
      CbStep ref view (.isolatedConnect ref) (view.tell ref view.conn.onConnect)
  | linkLost (view : ConnView) :
      CbStep ref view (.isolatedDisconnect ref) (view.tell ref view.conn.onDisconnect)
  | packet (view : ConnView) (uConnId : Nat) (body : PacketBody) :
      CbStep ref view (.packet ref uConnId body) (view.notify ref [.packet body])
  | innerPacket (view : ConnView) (uConnId : Nat) (body : PacketBody) :
      CbStep ref view (.innerPacket ref uConnId body) (view.notify ref [.innerPacket body])

/-- What an event can do to one connection. -/
inductive ConnStep (ref : ConnRef) : ConnView -> WorldEvent -> ConnView -> Prop
  | other (view : ConnView) (event : WorldEvent) (elsewhere : event.target ≠ some ref) :
      ConnStep ref view event view
  | displaced (view : ConnView) (event : WorldEvent) (held : Nat -> Bool) (isolated : Bool)
      (elsewhere : event.target = none)
      (fewer : forall server, held server = true -> view.held server = true)
      (fewerIsolated : isolated = true -> view.isolated = true)
      (kept : forall server, view.closed server = true -> held server = view.held server) :
      ConnStep ref view event { view with held := held, isolated := isolated }
  | accepted (view : ConnView) (kind : KjClass) (server streamptr : Nat)
      (absent : view.created = false) (untouched : view.Untouched)
      (client : kind.isClient = true) (open_ : view.closed server = false) :
      ConnStep ref view .runCallback (view.accepted ref kind server streamptr)
  | isolatedCreated (view : ConnView) (event : WorldEvent) (kind : KjClass)
      (elsewhere : event.target = none) (absent : view.created = false)
      (untouched : view.Untouched) (client : kind.isClient = false) :
      ConnStep ref view event { view with
        created := true
        isolated := true
        conn := ⟨.initial kind 0, .initial true⟩ }
  | connectCommitted (view : ConnView) (sIpOrHostname : List Char) (live : view.Live)
      (client : view.conn.kind.isClient = false) :
      ConnStep ref view (.isolatedConnConnect ref sIpOrHostname)
        (view.commit (.isolatedConnConnect ref sIpOrHostname))
  | sent (view : ConnView) (body : PacketBody) (live : view.Live) :
      ConnStep ref view (.sendPacket ref body) (view.commit (.postPacket ref body))
  | disconnectIgnored (view : ConnView)
      (ignored : view.conn.flags.bDisposed = true ∨ view.conn.bRunning = false) :
      ConnStep ref view (.disconnect ref) view
  | stopped (view : ConnView) (event : WorldEvent) (rests : List FrontRest) (live : view.Live)
      (unblocked : forall cmd, cmd ∈ view.pendingCmds -> cmd.blocking = false)
      (names : (event = .disconnect ref ∧ rests = []) ∨
        Exists fun nDelaySeconds => event = .reopen ref nDelaySeconds ∧
          rests = [.delayReconnect ref nDelaySeconds] ∧ view.conn.kind.isClient = false)
      (running : view.conn.flags.bDisposed = false ∧ view.conn.bRunning = true)
      (connected : view.conn.flags.bConnected = true) :
      ConnStep ref view event { view.tell ref view.conn.stopRunning with
        rests := view.release ref :: rests ++ view.rests }
  | stoppedUnconnected (view next : ConnView) (live : view.Live)
      (unblocked : forall cmd, cmd ∈ view.pendingCmds -> cmd.blocking = false)
      (running : view.conn.flags.bDisposed = false ∧ view.conn.bRunning = true)
      (disconnected : view.conn.flags.bConnected = false)
      (releases : RestStep ref { view with conn := view.conn.stopRunning.1 } (view.release ref)
        next) :
      ConnStep ref view (.disconnect ref) next
  | reopenIgnored (view : ConnView) (nDelaySeconds : Int)
      (disposed : view.conn.flags.bDisposed = true) :
      ConnStep ref view (.reopen ref nDelaySeconds) view
  | reopened (view : ConnView) (nDelaySeconds : Int) (live : view.Live)
      (client : view.conn.kind.isClient = false)
      (stays : view.conn.flags.bConnected = false ∨ view.conn.bRunning = false) :
      ConnStep ref view (.reopen ref nDelaySeconds)
        (view.commit (.isolatedDelayReconnect ref nDelaySeconds))
  | returned (view next : ConnView) (rest : FrontRest) (rests : List FrontRest)
      (first : view.rests = rest :: rests)
      (runs : RestStep ref { view with rests := rests } rest next) :
      ConnStep ref view .handlersReturn next
  | called (view next : ConnView) (workCb : TrunkCb) (callbacks : List TrunkCb)
      (first : view.callbacks = workCb :: callbacks) (idle : view.rests = [])
      (runs : CbStep ref (view.start callbacks) workCb next) :
      ConnStep ref view .runCallback next
  | clientReleased (view : ConnView) (server : Nat) (order : List ConnEntry)
      (held : view.held server = true) (closed : view.closed server = true) :
      ConnStep ref view (.releaseAllClients server order)
        { view.commit (.disposeConnection ref) with held := fun _ => false, recycled := true }
  | isolatedReleased (view : ConnView) (order : List ConnEntry) (isolated : view.isolated = true)
      (unblocked : forall cmd, cmd ∈ view.pendingCmds -> cmd.blocking = false) :
      ConnStep ref view (.releaseAllIsolateds order)
        { view.releaseIsolated ref with isolated := false, recycled := true }
  | deleted (view : ConnView) (recycled : view.recycled = true) (idle : view.rests = [])
      (unblocked : forall cmd, cmd ∈ view.pendingCmds -> cmd.blocking = false)
      (safe : view.conn.flags.SafeToRelease) :
      ConnStep ref view .recycle { view with recycled := false, deleted := true }
  | executed (view next : ConnView) (order : List ConnEntry) (cmd : NetCmd) (todo : List NetCmd)
      (idle : view.executing = none) (first : view.todo = cmd :: todo)
      (runs : CmdStep ref { view with executing := some cmd, todo := todo } cmd next) :
      ConnStep ref view (.execute order) next
  | serverClosed (view : ConnView) (order : List ConnEntry) (server : Nat)
      (idle : view.executing = none) (last : view.todo = []) (held : view.held server = true) :
      ConnStep ref view (.execute order)
        { { view with conn := view.conn.disposeConnection }.post (.clientDisconnect server ref) with
          closed := Function.update view.closed server true }
  | closedElsewhere (view : ConnView) (order : List ConnEntry) (server : Nat)
      (absent : view.held server = false) :
      ConnStep ref view (.execute order)
        { view with closed := Function.update view.closed server true }
  | finished (view : ConnView) (cmd : NetCmd) (executing : view.executing = some cmd) :
      ConnStep ref view .resultCallback { view with
        conn.flags.backEndConsumeNum :=
          view.conn.flags.backEndConsumeNum + if cmd.counted.isSome then 1 else 0
        executing := none }
  | clientFailed (view : ConnView) (idle : view.executing = none) (pending : 0 < view.deferred)
      (client : view.conn.kind.isClient = true) :
      ConnStep ref view (.evalLater ref)
        ({ view with
          deferred := view.deferred - 1
          conn := view.conn.flushStream.disposeConnection }.post
            (.clientDisconnect view.conn.refServer ref))
  | isolatedFailed (view : ConnView) (lost : KjConn × List LinkCb) (idle : view.executing = none)
      (pending : 0 < view.deferred) (client : view.conn.kind.isClient = false)
      (error : view.conn.flushStream.onIsolatedError = some lost) :
      ConnStep ref view (.evalLater ref)
        ({ view with deferred := view.deferred - 1, conn := lost.1 }.postLinks ref lost.2)
  | linkUp (view : ConnView) (idle : view.executing = none)
      (connecting : view.conn.connecting = true) :
      ConnStep ref view (.linkUp ref)
        ({ view with conn := view.conn.linkUp.1 }.postLinks ref view.conn.linkUp.2)
  | connectFailed (view : ConnView) (idle : view.executing = none)
      (connecting : view.conn.connecting = true) :
      ConnStep ref view (.connectFailed ref)
        { view with conn.connecting := false, deferred := view.deferred + 1 }
  | received (view : ConnView) (body : PacketBody) (workCb : TrunkCb)
      (idle : view.executing = none) (reading : view.conn.reading = true)
      (packet : (Exists fun uConnId => workCb = .packet ref uConnId body) ∨
        Exists fun uConnId => workCb = .innerPacket ref uConnId body) :
      ConnStep ref view (.received ref body) (view.post workCb)
  | readFailed (view : ConnView) (idle : view.executing = none)
      (reading : view.conn.reading = true) :
      ConnStep ref view (.readFailed ref)
        { view with conn.reading := false, deferred := view.deferred + 1 }
  | timerFired (view : ConnView) (conn : KjConn) (idle : view.executing = none)
      (timer : view.conn.timer = true) (fired : view.conn.timerFired = some conn) :
      ConnStep ref view (.timerFired ref) { view with conn := conn }

end NetSystem
