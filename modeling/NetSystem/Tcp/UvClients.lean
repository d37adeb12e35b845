import NetSystem.Tcp.KjConn
import NetSystem.Tcp.UvRequests

namespace NetSystem

/-!
# The servers and clients of the Uv factory

`on_connection` makes a client handle (`client_handle_t`) for a stream and hands
both to a new `CUvClientConn`.  The connection frees the handle when it is deleted;
the callbacks of the stream reach the connection through the handle.

Freed handles and deleted connections stay in the state, and what reads or writes
one of them is recorded.  So is every use of the implementation block of a server
through a null pointer, and every erasure of the element that an iteration over the
clients of a server stands on.  What follows such a use is undefined; the model goes
on as if nothing had happened, and the iteration goes on with the clients that are
still registered.

The handlers of the events run in the middle of `on_connection`, of `Disconnect` and
of `DisposeDownStreams`.  What is left to do when they return is on a stack, and until
then the application makes any calls.  The packet handlers are called last, so that
their calls are calls that follow.  What a packet contains, the read buffers and the
isolated connections, which share the recycler, are not modelled.

A close callback comes while the loop runs, after the call of `uv_close` and after the
completions of the writes that were accepted before.  It may come at the end of the
iteration that the stream is closed in, as it does on Unix, or later, as it can on
Windows while a request is pending.  A stream that is closed between two iterations is
closed by the next one, and the recycler may run before.
-/

/-- The callbacks that a stream is closed with. -/
inductive StreamCloseCb where
  | onStreamClose
  | onSockClose
deriving DecidableEq

/-- A stream, or a listener.  A closing one waits for its close callback. -/
inductive StreamPhase (κ : Type) where
  | absent
  | running
  | closing (callback : κ)
  | closed
deriving DecidableEq

/-- The close callback is still to come. -/
def StreamPhase.Due {κ : Type} : StreamPhase κ -> Prop
  | .closing _ => True
  | _ => False

instance {κ : Type} (phase : StreamPhase κ) : Decidable phase.Due := by
  cases phase <;> unfold StreamPhase.Due <;> infer_instance

/-- A `client_handle_t`, with the stream it was made for.  `sockimpl` says whether it
still points to the stream, and `frees` how often it has been freed. -/
structure UvHandle where
  sockimpl : Bool
  connimpl : Option ConnRef
  stream : StreamPhase StreamCloseCb
  writes : Nat
  frees : Nat
deriving DecidableEq

/-- The members of a `CUvClientConn` besides the flags of the recycler. -/
structure UvClientState where
  refServer : Nat
  bRunning : Bool
  clnt : Option Nat
  packet : Bool
deriving DecidableEq

/-- A `CUvServer` with its listener.  `impl` is `_srvr._impl`, null or with
`_server_closed` of the block it points to; the block is freed only where the pointer
is set to null.  `ready` is the flag of the event manager. -/
structure UvServer where
  impl : Option Bool
  listener : StreamPhase Unit
  listenerFrees : Nat
  ready : Bool
  closed : Bool
  tcpStreamDict : List Nat
deriving DecidableEq

/-- What is left to do when the handlers of an event have returned. -/
inductive UvRest where
  | accepted (clnt : Nat) (client : ConnRef)
  | removeClient (server : Nat) (client : ConnRef)
  | disposeDownStreams (server : Nat) (client : ConnRef) (later : List ConnEntry)
deriving DecidableEq

/-- The element that an iteration over the clients of a server stands on. -/
def UvRest.standsOn (server : Nat) (client : ConnRef) : UvRest -> Bool
  | .disposeDownStreams place current _ => place == server && current == client
  | _ => false

/-- What must not be done.  `bufferUnset` is a use of the buffer `_bb` of a client handle
that has not been given one. -/
inductive UvFault where
  | handleFreed (clnt : Nat)
  | connDeleted (conn : ConnRef)
  | bufferUnset (clnt : Nat)
  | implNull (server : Nat)
  | erasedCurrent (server : Nat) (client : ConnRef)
deriving DecidableEq

/-- What a read of a stream ends with. -/
inductive StreamReport where
  | data
  | ended
  | failed
deriving DecidableEq

structure UvClients where
  manager : ConnManager
  states : ConnRef -> UvClientState
  handles : Nat -> UvHandle
  allocated : Nat
  servers : Nat -> UvServer
  inLoop : Bool
  stack : List UvRest
  log : List (ConnRef × ConnNotice)
  faults : List UvFault

/-- The calls of the application, the callbacks of the loop, and the loop. -/
inductive UvClientsEvent where
  | openTcpServer (server : Nat) (started : Bool)
  | setReady (server : Nat) (ready : Bool)
  | closeTcpServer (server : Nat) (order : List ConnEntry)
  | disconnect (client : ConnRef)
  | sendRaw (client : ConnRef) (started : Bool)
  | handlersReturn
  | onConnection (server : Nat) (created : Bool)
  | onClientRead (clnt : Nat) (outcome : StreamReport)
  | onClientWrite (clnt : Nat) (status : WriteStatus)
  | onStreamClosed (clnt : Nat)
  | onServerClose (server : Nat)
  | runOnce
  | recycle
deriving DecidableEq

namespace UvClients

/-- A factory that has just been constructed. -/
def initial : UvClients where
  manager := .initial
  states := fun _ => ⟨0, false, none, false⟩
  handles := fun _ => ⟨false, none, .absent, 0, 0⟩
  allocated := 0
  servers := fun _ => ⟨none, .absent, 0, false, false, []⟩
  inLoop := false
  stack := []
  log := []
  faults := []

def Live (world : UvClients) (client : ConnRef) : Prop :=
  client < world.manager.created ∧ ¬ world.manager.Deleted client

instance (world : UvClients) (client : ConnRef) : Decidable (world.Live client) :=
  inferInstanceAs (Decidable (_ ∧ _))

def setHandle (world : UvClients) (clnt : Nat) (handle : UvHandle) : UvClients :=
  { world with handles := Function.update world.handles clnt handle }

def setState (world : UvClients) (client : ConnRef) (state : UvClientState) : UvClients :=
  { world with states := Function.update world.states client state }

def setFlags (world : UvClients) (client : ConnRef) (flags : ConnFlags) : UvClients :=
  { world with manager := { world.manager with
      flags := Function.update world.manager.flags client flags } }

def setServer (world : UvClients) (server : Nat) (state : UvServer) : UvClients :=
  { world with servers := Function.update world.servers server state }

def fault (world : UvClients) (fault : UvFault) : UvClients :=
  { world with faults := world.faults ++ [fault] }

def notify (world : UvClients) (client : ConnRef) (notice : ConnNotice) : UvClients :=
  { world with log := world.log ++ [(client, notice)] }

def push (world : UvClients) (rest : UvRest) : UvClients :=
  { world with stack := rest :: world.stack }

/-! ## Memory -/

/-- A client handle is read or written. -/
def touchHandle (world : UvClients) (clnt : Nat) : UvClients :=
  if (world.handles clnt).frees = 0 then world else world.fault (.handleFreed clnt)

/-- A connection is read or written. -/
def touchConn (world : UvClients) (client : ConnRef) : UvClients :=
  if world.manager.Deleted client then world.fault (.connDeleted client) else world

/-- `uv_close_` of the stream that a client handle points to. -/
def uvClose (world : UvClients) (clnt : Nat) (callback : StreamCloseCb) : UvClients :=
  let handle := world.handles clnt
  if handle.sockimpl ∧ handle.stream = .running then
    world.setHandle clnt { handle with stream := .closing callback }
  else world

/-- The pointer to the stream is cleared. -/
def clearSockimpl (world : UvClients) (clnt : Nat) : UvClients :=
  world.setHandle clnt { world.handles clnt with sockimpl := false }

/-- `bip_buf_destroy` of the buffer of a client handle, and `free`. -/
def freeHandle (world : UvClients) (clnt : Nat) : UvClients :=
  let touched := world.touchHandle clnt
  touched.setHandle clnt { touched.handles clnt with frees := (touched.handles clnt).frees + 1 }

/-! ## `CUvClientConn` -/

def flushStream (world : UvClients) (client : ConnRef) : UvClients :=
  match (world.states client).clnt with
  | none => world
  | some clnt =>
      let touched := world.touchHandle clnt
      if (touched.handles clnt).sockimpl && !(touched.manager.flags client).bFlushed then
        let closed := (touched.uvClose clnt .onStreamClose).clearSockimpl clnt
        closed.setFlags client { closed.manager.flags client with bFlushed := true }
      else touched

def disposeConnection (world : UvClients) (client : ConnRef) : UvClients :=
  let touched := world.touchConn client
  let flags := touched.manager.flags client
  if flags.bDisposed then touched
  else
    let disposed := touched.setFlags client { flags with bDisposed := true }
    (disposed.setState client { disposed.states client with packet := false }).flushStream client

/-- `OnDisconnect`, and whether there are handlers to call. -/
def onDisconnect (world : UvClients) (client : ConnRef) : UvClients × Bool :=
  let flags := world.manager.flags client
  if flags.bConnected then
    ((world.setFlags client { flags with bConnected := false }).notify client .disconnected, true)
  else (world, false)

/-- What `_mapClients` of the server holds under the id of the client. -/
def registered (world : UvClients) (server : Nat) (client : ConnRef) : Option ConnRef :=
  (world.manager.clientsOf server).lookup (world.manager.connId client)

/-- A registered client is released, and it is noted where its erasure takes the
element that an iteration stands on. -/
def released (world : UvClients) (server : Nat) (client : ConnRef) (iterating : Bool) :
    UvClients :=
  let disposed := world.disposeConnection client
  if iterating || disposed.stack.any (UvRest.standsOn server client) then
    disposed.fault (.erasedCurrent server client)
  else disposed

/-- `OnRemoveClient`, called from the body of an iteration at the client or not. -/
def onRemoveClient (world : UvClients) (server : Nat) (client : ConnRef) (iterating : Bool) :
    Option UvClients :=
  let touched := world.touchConn client
  let removed :=
    if (touched.registered server client).isSome then touched.released server client iterating
    else touched
  (removed.manager.onRemoveClient server client).map fun manager =>
    { removed with manager := manager }

def disconnect (world : UvClients) (client : ConnRef) : Option UvClients :=
  let touched := world.touchConn client
  let state := touched.states client
  if !(touched.manager.flags client).bDisposed && state.bRunning then
    let lost := (touched.setState client { state with bRunning := false }).onDisconnect client
    if lost.2 then some (lost.1.push (.removeClient state.refServer client))
    else lost.1.onRemoveClient state.refServer client false
  else some touched

/-- `SendRaw`, and whether `uv_write` starts.  Without a client handle the assertion
fails, and without a stream the one in `uv_write`. -/
def sendRaw (world : UvClients) (client : ConnRef) (started : Bool) : Option UvClients :=
  let touched := world.touchConn client
  let state := touched.states client
  match state.clnt with
  | none => none
  | some clnt =>
      if (touched.servers state.refServer).impl.isNone then
        some (touched.fault (.implNull state.refServer))
      else
        let writing := touched.touchHandle clnt
        let handle := writing.handles clnt
        if handle.sockimpl then
          if started then some (writing.setHandle clnt { handle with writes := handle.writes + 1 })
          else some (writing.disposeConnection client)
        else none

/-! ## `CUvServer` -/

/-- `Open`, of a server that has not been opened. -/
def openServer (world : UvClients) (server : Nat) (started : Bool) : Option UvClients :=
  let state := world.servers server
  if state.impl = none ∧ state.listener = .absent then
    if started then
      some (world.setServer server { state with impl := some false, listener := .running })
    else some world
  else none

def addStream (world : UvClients) (server clnt : Nat) : UvClients :=
  let state := world.servers server
  world.setServer server { state with tcpStreamDict := state.tcpStreamDict ++ [clnt] }

/-- `RemoveStream`, and whether it finds the client handle. -/
def removeStream (world : UvClients) (server clnt : Nat) : UvClients × Bool :=
  let state := world.servers server
  if clnt ∈ state.tcpStreamDict then
    (world.setServer server { state with tcpStreamDict := state.tcpStreamDict.erase clnt }, true)
  else (world, false)

def confirmClientIsReady (world : UvClients) (server : Nat) (client : ConnRef) (clnt : Nat) :
    UvClients :=
  let removed := world.removeStream server clnt
  let state := removed.1.states client
  if removed.2 then removed.1.setState client { state with clnt := some clnt, packet := true }
  else removed.1.setState client { state with clnt := none }

/-- `OnConnect`, and whether there are handlers to call. -/
def onConnect (world : UvClients) (client : ConnRef) : UvClients × Bool :=
  let flags := world.manager.flags client
  if (world.states client).bRunning && !flags.bConnected then
    ((world.setFlags client { flags with bConnected := true }).notify client .connected, true)
  else (world, false)

/-- What `on_connection` does with a client that has been accepted. -/
def accepted (world : UvClients) (clnt : Nat) (client : ConnRef) : UvClients :=
  let touched := world.touchHandle clnt
  touched.setHandle clnt { touched.handles clnt with connimpl := some client }

/-- What `on_connection` does with a client when the server is not ready: the stream
is closed first by `on_server_accept_client`, `bip_buf_destroy` is called with a pointer
that nothing has been assigned to, and the buffer is assigned last. -/
def rejected (world : UvClients) (clnt : Nat) : UvClients :=
  let refused := (world.uvClose clnt .onStreamClose).clearSockimpl clnt
  let destroyed := (refused.uvClose clnt .onSockClose).fault (.bufferUnset clnt)
  (destroyed.freeHandle clnt).touchHandle clnt

/-- `OnAcceptClient`, and the end of `on_connection` if there are no handlers to call. -/
def onAcceptClient (world : UvClients) (server clnt : Nat) : Option UvClients :=
  let client := world.manager.created
  (world.manager.createTcpClientOnServer server).map fun manager =>
    let created := { world with
      manager := manager
      states := Function.update world.states client ⟨server, true, none, false⟩ }
    let connected := (created.confirmClientIsReady server client clnt).onConnect client
    if connected.2 then connected.1.push (.accepted clnt client)
    else connected.1.accepted clnt client

/-- A client handle for a new stream. -/
def newHandle (world : UvClients) : UvClients :=
  { world with
    handles := Function.update world.handles world.allocated ⟨true, none, .running, 0, 0⟩
    allocated := world.allocated + 1 }

/-- `on_connection`, and whether the stream could be set up. -/
def onConnection (world : UvClients) (server : Nat) (created : Bool) : Option UvClients :=
  if (world.servers server).impl.isNone then some (world.fault (.implNull server))
  else if created then
    let clnt := world.allocated
    let state := world.servers server
    if !state.closed && state.ready then
      (world.newHandle.addStream server clnt).onAcceptClient server clnt
    else some (world.newHandle.rejected clnt)
  else some world

/-- The body of the first loop of `Close`. -/
def dropStream (world : UvClients) (clnt : Nat) : UvClients :=
  (((world.touchHandle clnt).uvClose clnt .onStreamClose).clearSockimpl clnt).freeHandle clnt

/-- `uv_server_dispose_`.  The loop is run until `_server_closed` is set, which it has
been; what happens otherwise is not modelled. -/
def disposeListener (world : UvClients) (server : Nat) : Option UvClients :=
  let state := world.servers server
  if state.impl = some true then
    some (world.setServer server { state with
      impl := none
      listener :=
        if state.listener = .running then .closing () else state.listener })
  else none

/-- The loop of `DisposeDownStreams`, and the end of `Close`. -/
def disposeDownStreams (server : Nat) : List ConnEntry -> UvClients -> Option UvClients
  | [], world => some (world.setServer server { world.servers server with closed := true })
  | entry :: later, world =>
      if world.registered server entry.2 = some entry.2 ∧
          world.manager.connId entry.2 = entry.1 then
        let lost := (world.disposeConnection entry.2).onDisconnect entry.2
        if lost.2 then some (lost.1.push (.disposeDownStreams server entry.2 later))
        else (lost.1.onRemoveClient server entry.2 true).bind (disposeDownStreams server later)
      else disposeDownStreams server later world

/-- `Close`, with the order in which the clients are met. -/
def close (world : UvClients) (server : Nat) (order : List ConnEntry) : Option UvClients :=
  let state := world.servers server
  if state.closed then some world
  else if order.Perm (world.manager.clientsOf server).entries then
    let dropped := state.tcpStreamDict.foldl dropStream world
    let cleared := dropped.setServer server { state with
      tcpStreamDict := []
      impl := state.impl.map fun _ => true }
    (cleared.disposeListener server).bind (disposeDownStreams server order)
  else none

/-! ## The loop and the recycler -/

/-- A callback of the stream, while nothing else runs. -/
def callback (world : UvClients) (due : Prop) [Decidable due] (call : Option UvClients) :
    Option UvClients :=
  if world.inLoop = true ∧ world.stack = [] ∧ due then call else none

/-- A failure without a connection. -/
def dropHandle (world : UvClients) (clnt : Nat) : UvClients :=
  (world.uvClose clnt .onSockClose).freeHandle clnt

/-- `Disconnect` of the connection of a client handle. -/
def failHandle (world : UvClients) (clnt : Nat) : Option UvClients :=
  let touched := world.touchHandle clnt
  match (touched.handles clnt).connimpl with
  | some client => touched.disconnect client
  | none => some (touched.dropHandle clnt)

def onClientRead (world : UvClients) (clnt : Nat) : StreamReport -> Option UvClients
  | .ended => world.failHandle clnt
  | .failed => some (world.touchHandle clnt)
  | .data =>
      let touched := world.touchHandle clnt
      some ((touched.handles clnt).connimpl.elim touched touched.touchConn)

/-- The completion of a write is no longer due. -/
def written (world : UvClients) (clnt : Nat) : UvClients :=
  world.setHandle clnt { world.handles clnt with writes := (world.handles clnt).writes - 1 }

def onClientWrite (world : UvClients) (clnt : Nat) : WriteStatus -> Option UvClients
  | .failed false => (world.failHandle clnt).map fun failed => failed.written clnt
  | _ => some (world.written clnt)

/-- The close callback of a stream, which frees the stream. -/
def onStreamClosed (world : UvClients) (clnt : Nat) : UvClients :=
  let handle := world.handles clnt
  let closed := world.setHandle clnt { handle with stream := .closed }
  match handle.stream with
  | .closing .onStreamClose =>
      let touched := closed.touchHandle clnt
      (touched.handles clnt).connimpl.elim touched fun client =>
        let told := touched.touchConn client
        told.setFlags client { told.manager.flags client with bFlushed := true }
  | _ => closed

/-- `on_server_close`, which frees the listener. -/
def onServerClose (world : UvClients) (server : Nat) : UvClients :=
  let state := world.servers server
  let called := { state with listener := .closed }
  if state.impl.isNone then (world.setServer server called).fault (.implNull server)
  else
    world.setServer server { called with
      impl := some true
      listenerFrees := state.listenerFrees + 1 }

/-- The destructor of a client. -/
def deleteClient (world : UvClients) (client : ConnRef) : UvClients :=
  (world.states client).clnt.elim world world.freeHandle

/-- The clients that `Recycle` deletes. -/
def releasable (world : UvClients) : List ConnRef :=
  world.manager.vRecycler.filter fun client => (world.manager.flags client).SafeToRelease

def recycle (world : UvClients) : UvClients :=
  world.releasable.foldl deleteClient { world with
    manager := world.manager.recycle
    inLoop := false }

def runRest (world : UvClients) : UvRest -> Option UvClients
  | .accepted clnt client => some (world.accepted clnt client)
  | .removeClient server client => world.onRemoveClient server client false
  | .disposeDownStreams server client later =>
      (world.onRemoveClient server client true).bind (disposeDownStreams server later)

def perform (world : UvClients) : UvClientsEvent -> Option UvClients
  | .openTcpServer server started => world.openServer server started
  | .setReady server ready => some (world.setServer server { world.servers server with ready := ready })
  | .closeTcpServer server order => world.close server order
  | .disconnect client => if world.Live client then world.disconnect client else none
  | .sendRaw client started => if world.Live client then world.sendRaw client started else none
  | .handlersReturn =>
      match world.stack with
      | [] => none
      | rest :: stack => { world with stack := stack }.runRest rest
  | .onConnection server created =>
      world.callback ((world.servers server).listener = .running)
        (world.onConnection server created)
  | .onClientRead clnt outcome =>
      world.callback ((world.handles clnt).stream = .running) (world.onClientRead clnt outcome)
  | .onClientWrite clnt status =>
      world.callback (0 < (world.handles clnt).writes) (world.onClientWrite clnt status)
  | .onStreamClosed clnt =>
      world.callback ((world.handles clnt).stream.Due ∧ (world.handles clnt).writes = 0)
        (some (world.onStreamClosed clnt))
  | .onServerClose server =>
      world.callback (world.servers server).listener.Due (some (world.onServerClose server))
  | .runOnce =>
      if world.inLoop = false ∧ world.stack = [] then
        some { world with inLoop := true }
      else none
  | .recycle => if world.stack = [] then some world.recycle else none

def Step (world : UvClients) (event : UvClientsEvent) (next : UvClients) : Prop :=
  world.perform event = some next

end UvClients
end NetSystem
