import NetSystem.Foundation.KeyedMap
import NetSystem.Foundation.Transition

namespace NetSystem

/-!
# The connection manager

`CTcpConnManager`, with the two functions of the factory that create
connections.  A client is registered in the map of its server under its
connection id, an isolated connection in a map of its own; a connection that is
removed goes to the recycler and is deleted from there once nothing uses it any
more.

Connections are objects, named by the order in which they were created, and
servers are pointers.  Iteration over an unordered map takes its entries in any
order, which the event names.  `ReleaseConnection` and `Disconnect` change
flags of the connection and nothing of the manager; flags change at any time,
by an event of their own.  Where an assertion fails there is no next state.

`size_t` is a natural number: there are never as many objects as it can count.
Only the decrement is written out as it wraps, and the value it is applied to
is recorded, as is every deletion with the flags at that moment.
-/

/-- `TCP_CONNID_BASE`. -/
def tcpConnIdBase : Nat := 1000000000

/-- `TCP_CONNID_MAX`. -/
def tcpConnIdMax : Nat := 1000000000000

/-- The flags and counters of a connection that the recycler looks at. -/
structure ConnFlags where
  bConnected : Bool
  bDisposed : Bool
  bFlushed : Bool
  frontEndProduceNum : UInt32
  backEndConsumeNum : UInt32
  backEndProduceNum : UInt32
  frontEndConsumeNum : UInt32
deriving DecidableEq

namespace ConnFlags

/-- A constructed connection.  A client is not flushed, an isolated connection
is. -/
def initial (bFlushed : Bool) : ConnFlags := ⟨false, false, bFlushed, 0, 0, 0, 0⟩

def isFrontEndClean (flags : ConnFlags) : Bool :=
  flags.frontEndProduceNum == flags.backEndConsumeNum

def isBackEndClean (flags : ConnFlags) : Bool :=
  flags.backEndProduceNum == flags.frontEndConsumeNum

/-- The condition of `RecyclerPop`. -/
def SafeToRelease (flags : ConnFlags) : Prop :=
  flags.bConnected = false ∧ flags.isBackEndClean = true ∧ flags.isFrontEndClean = true ∧
    flags.bDisposed = true ∧ flags.bFlushed = true

instance (flags : ConnFlags) : Decidable flags.SafeToRelease :=
  inferInstanceAs (Decidable (_ ∧ _))

end ConnFlags

/-- A connection object. -/
abbrev ConnRef := Nat

/-- `_mapClients` and `_mapIsolated`: connection id to connection. -/
abbrev ConnMap := KeyedMap Nat ConnRef

/-- The members of `CTcpConnManager`, the connection objects, and what has been
recorded. -/
structure ConnManager where
  uNextId : Nat
  mapServerEntry : KeyedMap Nat ConnMap
  mapIsolated : ConnMap
  szClientCount : Nat
  vRecycler : List ConnRef
  vSafeToRelease : List ConnRef
  created : Nat
  connId : ConnRef -> Nat
  flags : ConnRef -> ConnFlags
  deletions : List (ConnRef × ConnFlags)
  decrements : List Nat

/-- An entry of a map, as an iteration meets it. -/
abbrev ConnEntry := Sigma fun _ : Nat => ConnRef

/-- What is called, and the flags of a connection changing. -/
inductive ConnEvent where
  | createTcpClientOnServer (server : Nat)
  | createTcpIsolated
  | onRemoveClient (server : Nat) (client : ConnRef)
  | releaseAllClients (server : Nat) (order : List ConnEntry)
  | releaseAllIsolateds (order : List ConnEntry)
  | recycle
  | setFlags (conn : ConnRef) (flags : ConnFlags)

namespace ConnManager

/-- A constructed manager. -/
def initial : ConnManager where
  uNextId := tcpConnIdBase
  mapServerEntry := ∅
  mapIsolated := ∅
  szClientCount := 0
  vRecycler := []
  vSafeToRelease := []
  created := 0
  connId := fun _ => 0
  flags := fun _ => .initial false
  deletions := []
  decrements := []

/-- `GetNextConnectionId` returns the new value of the counter. -/
def getNextConnectionId (manager : ConnManager) : Nat :=
  let next := manager.uNextId + 1
  if tcpConnIdMax ≤ next then tcpConnIdBase + 1 else next

/-- Draw an id and construct a connection with it. -/
def newConnection (manager : ConnManager) (bFlushed : Bool) : ConnManager :=
  let id := manager.getNextConnectionId
  { manager with
    uNextId := id
    created := manager.created + 1
    connId := Function.update manager.connId manager.created id
    flags := Function.update manager.flags manager.created (.initial bFlushed) }

/-- `OnAddClient`. -/
def onAddClient (manager : ConnManager) (server : Nat) (client : ConnRef) : Option ConnManager :=
  let uConnId := manager.connId client
  if 0 < server ∧ 0 < uConnId then
    some { manager with
      mapServerEntry := manager.mapServerEntry.assign server uConnId client
      szClientCount := manager.szClientCount + 1 }
  else none

/-- `OnAddIsolated`. -/
def onAddIsolated (manager : ConnManager) (isolated : ConnRef) : Option ConnManager :=
  let uConnId := manager.connId isolated
  if 0 < uConnId then
    some { manager with mapIsolated := manager.mapIsolated.insert uConnId isolated }
  else none

def createTcpClientOnServer (manager : ConnManager) (server : Nat) : Option ConnManager :=
  (manager.newConnection false).onAddClient server manager.created

def createTcpIsolated (manager : ConnManager) : Option ConnManager :=
  (manager.newConnection true).onAddIsolated manager.created

def recyclerPush (manager : ConnManager) (conn : ConnRef) : ConnManager :=
  { manager with vRecycler := manager.vRecycler ++ [conn] }

/-- `--_szClientCount`. -/
def decrement (manager : ConnManager) : ConnManager :=
  { manager with
    szClientCount :=
      if manager.szClientCount = 0 then 2 ^ 64 - 1 else manager.szClientCount - 1
    decrements := manager.decrements ++ [manager.szClientCount] }

/-- The connection has been deleted. -/
def Deleted (manager : ConnManager) (conn : ConnRef) : Prop :=
  conn ∈ manager.deletions.map Prod.fst

instance (manager : ConnManager) (conn : ConnRef) : Decidable (manager.Deleted conn) :=
  inferInstanceAs (Decidable (_ ∈ _))

/-- `OnRemoveClient`, of a client that exists. -/
def onRemoveClient (manager : ConnManager) (server : Nat) (client : ConnRef) :
    Option ConnManager :=
  let uConnId := manager.connId client
  if client < manager.created ∧ ¬ manager.Deleted client ∧ 0 < server ∧ 0 < uConnId then
    match manager.mapServerEntry.lookup server with
    | none => some manager
    | some clients =>
        match clients.lookup uConnId with
        | none => some manager
        | some client2 =>
            if client2 = client then
              let erased := { manager with
                mapServerEntry := manager.mapServerEntry.insert server (clients.erase uConnId) }
              some (erased.recyclerPush client2).decrement
            else none
  else none

/-- The loop of `ReleaseAllClients`. -/
def releaseClients (manager : ConnManager) : List ConnEntry -> Option ConnManager
  | [] => some manager
  | ⟨uConnId, client⟩ :: order =>
      if uConnId = manager.connId client then
        (manager.recyclerPush client).decrement.releaseClients order
      else none

def releaseAllClients (manager : ConnManager) (server : Nat) (order : List ConnEntry) :
    Option ConnManager :=
  if 0 < server then
    match manager.mapServerEntry.lookup server with
    | none => some manager
    | some clients =>
        if order.Perm clients.entries then
          (manager.releaseClients order).map fun released =>
            { released with mapServerEntry := released.mapServerEntry.insert server ∅ }
        else none
  else none

def releaseAllIsolateds (manager : ConnManager) (order : List ConnEntry) : Option ConnManager :=
  if order.Perm manager.mapIsolated.entries then
    let released := order.foldl (fun state entry => state.recyclerPush entry.2) manager
    some { released with mapIsolated := ∅ }
  else none

/-- The loop of `RecyclerPop` on the connections from the iterator on: those it
leaves in the recycler, and those it moves to `_vSafeToRelease`. -/
def recyclerLoop (flags : ConnRef -> ConnFlags) : List ConnRef -> List ConnRef × List ConnRef
  | [] => ([], [])
  | conn :: rest =>
      let later := recyclerLoop flags rest
      if (flags conn).SafeToRelease then (later.1, conn :: later.2) else (conn :: later.1, later.2)

def recyclerPop (manager : ConnManager) : ConnManager :=
  let result := recyclerLoop manager.flags manager.vRecycler
  { manager with
    vRecycler := result.1
    vSafeToRelease := manager.vSafeToRelease ++ result.2 }

def safeRelease (manager : ConnManager) : ConnManager :=
  { manager with
    deletions := manager.deletions ++
      manager.vSafeToRelease.map fun conn => (conn, manager.flags conn)
    vSafeToRelease := [] }

def recycle (manager : ConnManager) : ConnManager := manager.recyclerPop.safeRelease

/-- The clients of a server. -/
def clientsOf (manager : ConnManager) (server : Nat) : ConnMap :=
  (manager.mapServerEntry.lookup server).getD ∅

/-- `LookupClientByConnId`, with the servers in the given order. -/
def lookupClientByConnId (manager : ConnManager) (uConnId : Nat) : List Nat -> Option ConnRef
  | [] => none
  | server :: servers =>
      match (manager.mapServerEntry.lookup server).bind fun clients => clients.lookup uConnId with
      | some client => some client
      | none => manager.lookupClientByConnId uConnId servers

/-- One event. -/
def perform (manager : ConnManager) : ConnEvent -> Option ConnManager
  | .createTcpClientOnServer server => manager.createTcpClientOnServer server
  | .createTcpIsolated => manager.createTcpIsolated
  | .onRemoveClient server client => manager.onRemoveClient server client
  | .releaseAllClients server order => manager.releaseAllClients server order
  | .releaseAllIsolateds order => manager.releaseAllIsolateds order
  | .recycle => some manager.recycle
  | .setFlags conn flags =>
      some { manager with flags := Function.update manager.flags conn flags }

def Step (manager : ConnManager) (event : ConnEvent) (next : ConnManager) : Prop :=
  manager.perform event = some next

end ConnManager
end NetSystem
