import NetSystem.Tcp.KjConn

namespace NetSystem

/-!
# The two threads of the Kj factory

The main thread (front end) and the worker thread (back end) exchange commands
through `CKjConnFactoryWorkQueue` and callbacks through
`CConnFactoryTrunkQueue`.  The front end owns the connection manager; the back
end owns the streams.

A command is taken from the work queue and carried out in one step, and its
result callback runs in a later one; between the two the back end does nothing
else.  A blocking command keeps the front end waiting until its result
callback has run.  A function that a failed task hands to
`ScheduleEvalLaterFunc` runs in some later turn of the back end.

The handlers of an event are called in the middle of `Disconnect` and of the
disconnect callback.  What is left to do when they return is on a stack, and
until then the front end makes any other calls.  Handlers that are called last
need no entry: their calls are calls that follow.

What a packet writes to the socket, broadcasts, which do nothing in the back
end, and the closing of the two queues are not modelled.
-/

/-- `net_cmd_t`. -/
inductive NetCmd where
  | openTcpServer (server : Nat)
  | closeTcpServer (server : Nat)
  | disposeConnection (conn : ConnRef)
  | postPacket (conn : ConnRef) (body : PacketBody)
  | flushTcpServerDownStream (server streamptr : Nat)
  | confirmClientIsReady (client : ConnRef) (streamptr : Nat)
  | isolatedConnConnect (isolated : ConnRef) (sIpOrHostname : List Char)
  | isolatedDelayReconnect (isolated : ConnRef) (nDelaySeconds : Int)
deriving DecidableEq

namespace NetCmd

/-- The connection that the command is for. -/
def conn : NetCmd -> Option ConnRef
  | .disposeConnection conn => some conn
  | .postPacket conn _ => some conn
  | .confirmClientIsReady client _ => some client
  | .isolatedConnConnect isolated _ => some isolated
  | .isolatedDelayReconnect isolated _ => some isolated
  | _ => none

/-- Sent by `BlockingCommit`. -/
def blocking : NetCmd -> Bool
  | .openTcpServer _ => true
  | .closeTcpServer _ => true
  | .isolatedConnConnect _ _ => true
  | _ => false

/-- The connection whose `IncrFrontEndProduceNum` is called before the commit
and whose `IncrBackEndConsumeNum` is called by the result callback. -/
def counted : NetCmd -> Option ConnRef
  | .disposeConnection conn => some conn
  | .postPacket conn _ => some conn
  | .confirmClientIsReady client _ => some client
  | .isolatedDelayReconnect isolated _ => some isolated
  | _ => none

end NetCmd

/-- The callbacks of the trunk queue. -/
inductive TrunkCb where
  | acceptClient (server streamptr : Nat)
  | clientDisconnect (server : Nat) (client : ConnRef)
  | isolatedConnect (isolated : ConnRef)
  | isolatedDisconnect (isolated : ConnRef)
  | packet (conn : ConnRef) (uConnId : Nat) (body : PacketBody)
  | innerPacket (conn : ConnRef) (uConnId : Nat) (body : PacketBody)
deriving DecidableEq

/-- The connection that the callback is for. -/
def TrunkCb.conn : TrunkCb -> Option ConnRef
  | .acceptClient _ _ => none
  | .clientDisconnect _ client => some client
  | .isolatedConnect isolated => some isolated
  | .isolatedDisconnect isolated => some isolated
  | .packet conn _ _ => some conn
  | .innerPacket conn _ _ => some conn

/-- What the front end does when the handlers of an event have returned. -/
inductive FrontRest where
  | removeClient (server : Nat) (client : ConnRef)
  | releaseConnection (conn : ConnRef)
  | delayReconnect (isolated : ConnRef) (nDelaySeconds : Int)
deriving DecidableEq

def FrontRest.conn : FrontRest -> ConnRef
  | .removeClient _ client => client
  | .releaseConnection conn => conn
  | .delayReconnect isolated _ => isolated

/-- The members of `CKjServer` that the factory works with. -/
structure KjServer where
  opened : Bool
  closed : Bool
  thrTcpStreamDict : List Nat
deriving DecidableEq

/-- A notification, with `IsConnected()` of the connection at that moment. -/
structure Notice where
  conn : ConnRef
  notice : ConnNotice
  isConnected : Bool
deriving DecidableEq

/-- The factory with both its threads.  `gate` is its class. -/
structure KjWorld where
  gate : Bool
  manager : ConnManager
  states : ConnRef -> KjState
  servers : Nat -> KjServer
  workQueue : List NetCmd
  executing : Option NetCmd
  trunkQueue : List TrunkCb
  deferred : List ConnRef
  frontStack : List FrontRest
  log : List Notice

/-- The steps of the front end, then those of the back end. -/
inductive WorldEvent where
  | openTcpServer (server : Nat)
  | closeTcpServer (server : Nat)
  | createTcpIsolated
  | createTcpIsolated2
  | isolatedConnConnect (isolated : ConnRef) (sIpOrHostname : List Char)
  | sendPacket (conn : ConnRef) (body : PacketBody)
  | disconnect (conn : ConnRef)
  | reopen (isolated : ConnRef) (nDelaySeconds : Int)
  | handlersReturn
  | runCallback
  | releaseAllClients (server : Nat) (order : List ConnEntry)
  | releaseAllIsolateds (order : List ConnEntry)
  | recycle
  | execute (order : List ConnEntry)
  | resultCallback
  | accept (server streamptr : Nat)
  | evalLater (conn : ConnRef)
  | linkUp (isolated : ConnRef)
  | connectFailed (isolated : ConnRef)
  | received (conn : ConnRef) (body : PacketBody)
  | readFailed (conn : ConnRef)
  | timerFired (isolated : ConnRef)
deriving DecidableEq

namespace KjWorld

/-- A factory that has just been initialised. -/
def initial (gate : Bool) : KjWorld where
  gate := gate
  manager := .initial
  states := fun _ => .initial .isolatedConn 0
  servers := fun _ => ⟨false, false, []⟩
  workQueue := []
  executing := none
  trunkQueue := []
  deferred := []
  frontStack := []
  log := []

/-- The connection object. -/
def conn (world : KjWorld) (ref : ConnRef) : KjConn :=
  ⟨world.states ref, world.manager.flags ref⟩

def setConn (world : KjWorld) (ref : ConnRef) (conn : KjConn) : KjWorld :=
  { world with
    manager := { world.manager with
      flags := Function.update world.manager.flags ref conn.flags }
    states := Function.update world.states ref conn.toKjState }

def setServer (world : KjWorld) (server : Nat) (state : KjServer) : KjWorld :=
  { world with servers := Function.update world.servers server state }

/-- The connection exists. -/
def Live (world : KjWorld) (ref : ConnRef) : Prop :=
  ref < world.manager.created ∧ ¬ world.manager.Deleted ref

instance (world : KjWorld) (ref : ConnRef) : Decidable (world.Live ref) :=
  inferInstanceAs (Decidable (_ ∧ _))

/-- The commands that have been committed and whose result callback has not
run, in order. -/
def pendingCmds (world : KjWorld) : List NetCmd := world.executing.toList ++ world.workQueue

/-- The front end waits for a blocking command. -/
def Blocked (world : KjWorld) : Prop := world.pendingCmds.any NetCmd.blocking = true

instance (world : KjWorld) : Decidable world.Blocked := inferInstanceAs (Decidable (_ = _))

/-- `OnEvent`, `OnPacket` or `OnInnerPacket` of the event manager. -/
def notify (world : KjWorld) (ref : ConnRef) (notices : List ConnNotice) : KjWorld :=
  { world with
    log := world.log ++ notices.map fun notice =>
      ⟨ref, notice, (world.conn ref).flags.bConnected⟩ }

/-! ## The queues -/

def incrFrontEndProduceNum (world : KjWorld) (ref : ConnRef) : KjWorld :=
  world.setConn ref { world.conn ref with
    flags.frontEndProduceNum := (world.conn ref).flags.frontEndProduceNum + 1 }

def incrBackEndConsumeNum (world : KjWorld) (ref : ConnRef) : KjWorld :=
  world.setConn ref { world.conn ref with
    flags.backEndConsumeNum := (world.conn ref).flags.backEndConsumeNum + 1 }

def incrBackEndProduceNum (world : KjWorld) (ref : ConnRef) : KjWorld :=
  world.setConn ref { world.conn ref with
    flags.backEndProduceNum := (world.conn ref).flags.backEndProduceNum + 1 }

def incrFrontEndConsumeNum (world : KjWorld) (ref : ConnRef) : KjWorld :=
  world.setConn ref { world.conn ref with
    flags.frontEndConsumeNum := (world.conn ref).flags.frontEndConsumeNum + 1 }

/-- `Commit` or `BlockingCommit`, with the counting before it. -/
def commit (world : KjWorld) (cmd : NetCmd) : KjWorld :=
  let counted := cmd.counted.elim world world.incrFrontEndProduceNum
  { counted with workQueue := counted.workQueue ++ [cmd] }

/-- `CConnFactoryTrunkQueue::Add`, with the counting before it. -/
def post (world : KjWorld) (workCb : TrunkCb) : KjWorld :=
  let counted := workCb.conn.elim world world.incrBackEndProduceNum
  { counted with trunkQueue := counted.trunkQueue ++ [workCb] }

def addAcceptClientCb (world : KjWorld) (server streamptr : Nat) : KjWorld :=
  world.post (.acceptClient server streamptr)

def addClientDisconnectCb (world : KjWorld) (server : Nat) (client : ConnRef) : KjWorld :=
  world.post (.clientDisconnect server client)

def addClientPacketCb (world : KjWorld) (client : ConnRef) (body : PacketBody) : KjWorld :=
  world.post (.packet client (world.manager.connId client) body)

def addClientInnerPacketCb (world : KjWorld) (client : ConnRef) (body : PacketBody) : KjWorld :=
  world.post (.innerPacket client (world.manager.connId client) body)

def addIsolatedPacketCb (world : KjWorld) (isolated : ConnRef) (body : PacketBody) : KjWorld :=
  world.post (.packet isolated (world.manager.connId isolated) body)

def addIsolatedInnerPacketCb (world : KjWorld) (isolated : ConnRef) (body : PacketBody) : KjWorld :=
  world.post (.innerPacket isolated (world.manager.connId isolated) body)

/-- `AddIsolatedConnectCb` and `AddIsolatedDisconnectCb`. -/
def addLinkCb (world : KjWorld) (isolated : ConnRef) : LinkCb -> KjWorld
  | .connect => world.post (.isolatedConnect isolated)
  | .disconnect => world.post (.isolatedDisconnect isolated)

/-- `OnGotPacket`. -/
def onGotPacket (world : KjWorld) (ref : ConnRef) (body : PacketBody) : KjWorld :=
  match (world.conn ref).kind with
  | .clientConn => world.addClientInnerPacketCb ref body
  | .gateClientConn => world.addClientPacketCb ref body
  | .isolatedConn => world.addIsolatedInnerPacketCb ref body
  | .isolatedConn2 => world.addIsolatedPacketCb ref body
  | .gateIsolatedConn => world.addIsolatedPacketCb ref body
  | .gateIsolatedConn2 => world.addIsolatedInnerPacketCb ref body

/-! ## The front end -/

/-- `ReleaseConnection`. -/
def releaseConnection (world : KjWorld) (ref : ConnRef) : KjWorld :=
  world.commit (.disposeConnection ref)

/-- `OnRemoveClient`, which releases the client if it is registered. -/
def onRemoveClient (world : KjWorld) (server : Nat) (client : ConnRef) : Option KjWorld :=
  let found := (world.manager.mapServerEntry.lookup server).bind fun clients =>
    clients.lookup (world.manager.connId client)
  let released := if found.isSome then world.releaseConnection client else world
  (released.manager.onRemoveClient server client).map fun manager =>
    { released with manager := manager }

def runRest (world : KjWorld) : FrontRest -> Option KjWorld
  | .removeClient server client => world.onRemoveClient server client
  | .releaseConnection conn => some (world.releaseConnection conn)
  | .delayReconnect isolated nDelaySeconds =>
      some (world.commit (.isolatedDelayReconnect isolated nDelaySeconds))

/-- What follows an event, at once when it had no handlers to call. -/
def continueWith (world : KjWorld) (notices : List ConnNotice) (rests : List FrontRest) :
    Option KjWorld :=
  if notices.isEmpty then rests.foldlM runRest world
  else some { world with frontStack := rests ++ world.frontStack }

/-- `Disconnect`, and what its caller does after it. -/
def disconnectThen (world : KjWorld) (ref : ConnRef) (rests : List FrontRest) : Option KjWorld :=
  let conn := world.conn ref
  if !conn.flags.bDisposed && conn.bRunning then
    let stopped := conn.stopRunning
    let release : FrontRest :=
      if conn.kind.isClient then .removeClient conn.refServer ref else .releaseConnection ref
    ((world.setConn ref stopped.1).notify ref stopped.2).continueWith stopped.2 (release :: rests)
  else rests.foldlM runRest world

def reopen (world : KjWorld) (isolated : ConnRef) (nDelaySeconds : Int) : Option KjWorld :=
  let conn := world.conn isolated
  if conn.flags.bDisposed then some world
  else if conn.flags.bConnected then
    world.disconnectThen isolated [.delayReconnect isolated nDelaySeconds]
  else some (world.commit (.isolatedDelayReconnect isolated nDelaySeconds))

/-- `CreateTcpIsolated` and `CreateTcpIsolated2`. -/
def createIsolated (world : KjWorld) (kind : KjClass) : Option KjWorld :=
  world.manager.createTcpIsolated.map fun manager =>
    { world with
      manager := manager
      states := Function.update world.states world.manager.created (.initial kind 0) }

/-- `OnConnect`, with the notification. -/
def onConnect (world : KjWorld) (ref : ConnRef) : KjWorld :=
  let connected := (world.conn ref).onConnect
  (world.setConn ref connected.1).notify ref connected.2

/-- `OnAcceptClient` with `CreateTcpClientOnServer`. -/
def onAcceptClient (world : KjWorld) (server streamptr : Nat) : Option KjWorld :=
  let client := world.manager.created
  (world.manager.createTcpClientOnServer server).map fun manager =>
    let kind : KjClass := if world.gate then .gateClientConn else .clientConn
    let created := { world with
      manager := manager
      states := Function.update world.states client (.initial kind server) }
    (created.commit (.confirmClientIsReady client streamptr)).onConnect client

/-- A callback of the trunk queue that has been taken out. -/
def runWorkCb (world : KjWorld) : TrunkCb -> Option KjWorld
  | .acceptClient server streamptr =>
      if (world.servers server).closed then
        some (world.commit (.flushTcpServerDownStream server streamptr))
      else world.onAcceptClient server streamptr
  | .clientDisconnect server client =>
      let consumed := world.incrFrontEndConsumeNum client
      let lost := (consumed.conn client).onDisconnect
      ((consumed.setConn client lost.1).notify client lost.2).continueWith lost.2
        [.removeClient server client]
  | .isolatedConnect isolated => some ((world.incrFrontEndConsumeNum isolated).onConnect isolated)
  | .isolatedDisconnect isolated =>
      let consumed := world.incrFrontEndConsumeNum isolated
      let lost := (consumed.conn isolated).onDisconnect
      some ((consumed.setConn isolated lost.1).notify isolated lost.2)
  | .packet conn uConnId body =>
      if world.manager.connId conn = uConnId then
        some ((world.incrFrontEndConsumeNum conn).notify conn [.packet body])
      else none
  | .innerPacket conn uConnId body =>
      if world.manager.connId conn = uConnId then
        some ((world.incrFrontEndConsumeNum conn).notify conn [.innerPacket body])
      else none

/-- `ReleaseAllClients`, of a closed server. -/
def releaseAllClients (world : KjWorld) (server : Nat) (order : List ConnEntry) : Option KjWorld :=
  if order.Perm (world.manager.clientsOf server).entries then
    let released := order.foldl (fun state entry => state.releaseConnection entry.2) world
    (released.manager.releaseAllClients server order).map fun manager =>
      { released with manager := manager }
  else none

/-- The body of the loop of `ReleaseAllIsolateds`.  The handlers have been
cleared, so nothing comes between the two halves of `Disconnect`. -/
def releaseIsolated (world : KjWorld) (isolated : ConnRef) : KjWorld :=
  let conn := world.conn isolated
  let stopped :=
    if !conn.flags.bDisposed && conn.bRunning then
      ((world.setConn isolated conn.stopRunning.1).notify isolated
        conn.stopRunning.2).releaseConnection isolated
    else world
  stopped.releaseConnection isolated

def releaseAllIsolateds (world : KjWorld) (order : List ConnEntry) : Option KjWorld :=
  let released := order.foldl (fun state entry => state.releaseIsolated entry.2) world
  (released.manager.releaseAllIsolateds order).map fun manager =>
    { released with manager := manager }

/-! ## The back end -/

/-- The body of the loop of `DisposeDownStreams`. -/
def disposeDownStream (world : KjWorld) (server : Nat) (entry : ConnEntry) : KjWorld :=
  if world.manager.connId entry.2 = entry.1 then
    (world.setConn entry.2 (world.conn entry.2).disposeConnection).addClientDisconnectCb server
      entry.2
  else world

/-- `CKjServer::Close`, with the order in which the clients are met. -/
def close (world : KjWorld) (server : Nat) (order : List ConnEntry) : Option KjWorld :=
  if (world.servers server).closed then some world
  else if (world.servers server).opened &&
      decide (order.Perm (world.manager.clientsOf server).entries) then
    let closed := world.setServer server
      { world.servers server with closed := true, thrTcpStreamDict := [] }
    some (order.foldl (fun state entry => state.disposeDownStream server entry) closed)
  else none

/-- `RemoveStream`. -/
def removeStream (world : KjWorld) (server streamptr : Nat) : KjWorld :=
  world.setServer server { world.servers server with
    thrTcpStreamDict := (world.servers server).thrTcpStreamDict.erase streamptr }

/-- A command that has been taken out of the work queue. -/
def runCmd (world : KjWorld) (order : List ConnEntry) : NetCmd -> Option KjWorld
  | .openTcpServer server =>
      some (world.setServer server { world.servers server with opened := true })
  | .closeTcpServer server => world.close server order
  | .disposeConnection conn =>
      some (world.setConn conn (world.conn conn).disposeConnection)
  | .postPacket _ _ => some world
  | .flushTcpServerDownStream server streamptr => some (world.removeStream server streamptr)
  | .confirmClientIsReady client streamptr =>
      let conn := world.conn client
      if conn.isReady (world.manager.connId client) then
        let found := decide (streamptr ∈ (world.servers conn.refServer).thrTcpStreamDict)
        some ((world.removeStream conn.refServer streamptr).setConn client
          (conn.confirmClientIsReady found))
      else some world
  | .isolatedConnConnect isolated sIpOrHostname =>
      ((world.conn isolated).connect sIpOrHostname).map (world.setConn isolated)
  | .isolatedDelayReconnect isolated _ =>
      (world.conn isolated).delayReconnect.map (world.setConn isolated)

/-- The function that `taskFailed` of the connection has scheduled.  A client
is disposed of by `OnDisposeClient` of its server. -/
def runDeferred (world : KjWorld) (ref : ConnRef) : Option KjWorld :=
  let flushed := (world.conn ref).flushStream
  if flushed.kind.isClient then
    some ((world.setConn ref flushed.disposeConnection).addClientDisconnectCb flushed.refServer ref)
  else
    flushed.onIsolatedError.map fun lost =>
      lost.2.foldl (fun state workCb => state.addLinkCb ref workCb) (world.setConn ref lost.1)

/-- `taskFailed`. -/
def taskFailed (world : KjWorld) (ref : ConnRef) : KjWorld :=
  { world with deferred := world.deferred ++ [ref] }

/-- A call of the front end, which is not waiting. -/
def frontEnd (world : KjWorld) (call : Option KjWorld) : Option KjWorld :=
  if world.Blocked then none else call

/-- A call that no handler makes. -/
def mainLoop (world : KjWorld) (call : Option KjWorld) : Option KjWorld :=
  if world.frontStack.isEmpty then world.frontEnd call else none

/-- A turn of the back end, which is not in the middle of a command. -/
def backEnd (world : KjWorld) (turn : Option KjWorld) : Option KjWorld :=
  if world.executing.isNone then turn else none

/-- One step. -/
def perform (world : KjWorld) : WorldEvent -> Option KjWorld
  | .openTcpServer server => world.frontEnd (some (world.commit (.openTcpServer server)))
  | .closeTcpServer server => world.frontEnd (some (world.commit (.closeTcpServer server)))
  | .createTcpIsolated =>
      world.frontEnd (world.createIsolated (if world.gate then .gateIsolatedConn else .isolatedConn))
  | .createTcpIsolated2 =>
      world.frontEnd
        (world.createIsolated (if world.gate then .gateIsolatedConn2 else .isolatedConn2))
  | .isolatedConnConnect isolated sIpOrHostname =>
      if world.Live isolated ∧ (world.conn isolated).kind.isClient = false then
        world.frontEnd (some (world.commit (.isolatedConnConnect isolated sIpOrHostname)))
      else none
  | .sendPacket conn body =>
      if world.Live conn then world.frontEnd (some (world.commit (.postPacket conn body))) else none
  | .disconnect conn =>
      if world.Live conn then world.frontEnd (world.disconnectThen conn []) else none
  | .reopen isolated nDelaySeconds =>
      if world.Live isolated ∧ (world.conn isolated).kind.isClient = false then
        world.frontEnd (world.reopen isolated nDelaySeconds)
      else none
  | .handlersReturn =>
      match world.frontStack with
      | [] => none
      | rest :: stack => world.frontEnd ({ world with frontStack := stack }.runRest rest)
  | .runCallback =>
      match world.trunkQueue with
      | [] => none
      | workCb :: queue => world.mainLoop ({ world with trunkQueue := queue }.runWorkCb workCb)
  | .releaseAllClients server order =>
      if (world.servers server).closed then world.mainLoop (world.releaseAllClients server order)
      else none
  | .releaseAllIsolateds order => world.mainLoop (world.releaseAllIsolateds order)
  | .recycle => world.mainLoop (some { world with manager := world.manager.recycle })
  | .execute order =>
      match world.workQueue with
      | [] => none
      | cmd :: queue =>
          world.backEnd ({ world with workQueue := queue, executing := some cmd }.runCmd order cmd)
  | .resultCallback =>
      match world.executing with
      | none => none
      | some cmd =>
          let consumed := cmd.counted.elim world world.incrBackEndConsumeNum
          some { consumed with executing := none }
  | .accept server streamptr =>
      if (world.servers server).opened = true ∧ (world.servers server).closed = false ∧
          streamptr ∉ (world.servers server).thrTcpStreamDict then
        world.backEnd (some ((world.setServer server { world.servers server with
          thrTcpStreamDict := (world.servers server).thrTcpStreamDict ++ [streamptr]
          }).addAcceptClientCb server streamptr))
      else none
  | .evalLater conn =>
      if conn ∈ world.deferred then
        world.backEnd ({ world with deferred := world.deferred.erase conn }.runDeferred conn)
      else none
  | .linkUp isolated =>
      if (world.conn isolated).connecting then
        let up := (world.conn isolated).linkUp
        world.backEnd (some
          (up.2.foldl (fun state workCb => state.addLinkCb isolated workCb)
            (world.setConn isolated up.1)))
      else none
  | .connectFailed isolated =>
      if (world.conn isolated).connecting then
        world.backEnd (some
          ((world.setConn isolated { world.conn isolated with connecting := false }).taskFailed
            isolated))
      else none
  | .received conn body =>
      if (world.conn conn).reading then world.backEnd (some (world.onGotPacket conn body)) else none
  | .readFailed conn =>
      if (world.conn conn).reading then
        world.backEnd (some
          ((world.setConn conn { world.conn conn with reading := false }).taskFailed conn))
      else none
  | .timerFired isolated =>
      if (world.conn isolated).timer then
        world.backEnd ((world.conn isolated).timerFired.map (world.setConn isolated))
      else none

def Step (world : KjWorld) (event : WorldEvent) (next : KjWorld) : Prop :=
  world.perform event = some next

end KjWorld
end NetSystem
