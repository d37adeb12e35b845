import NetSystem.Base.ObjectPool
import NetSystem.Foundation.Transition

namespace NetSystem

/-!
# The account list and the account manager

`CAccountStateList` and `CSimpleAccountManager`.  The accounts live in an object
pool; an account is named by its position there, which stands for the pointer to
it.  Three maps remember the results of lookups, by the hash of the uid, by the
connection id and by the inner uuid.

Strings are their bytes before the terminating zero, and those that are stored
fit: `Register` refuses longer ones.  `CityHash64` is a parameter.  `none` is a
failed assertion, an access outside the pool or the exception of `Register`.  A
reference to an account is one that `Alloc` has given out at some time; what was
given out is recorded, and so are the values that the online counter is
decremented from.
-/

/-- `ACC_CONNECTION_ONOFF`. -/
inductive AccConnectionOnoff where
  | init
  | online
  | offline
deriving DecidableEq

/-- `route_table`. -/
structure RouteTable where
  connid : Nat
  innerUuid : Nat
  connImpl : Nat
  onoff : AccConnectionOnoff
  onoffTime : Int
deriving DecidableEq

/-- `ACCOUNT_STATE`.  A null pointer is zero. -/
structure AccountState where
  keyid : Nat
  isReady : Bool
  uid : List UInt8
  nick : List UInt8
  pwd : List UInt8
  routeTable : RouteTable
  extData : Nat
  conflictKeyid : Nat
deriving DecidableEq

/-- The members of `CAccountStateList`, and what is recorded. -/
structure AccountStateList where
  pool : ObjectPool AccountState
  szOnlineCount : Nat
  mapUidHash2ConnState : Nat -> Option Nat
  mapConnId2ConnState : Nat -> Option Nat
  mapInnerUuid2ConnState : Nat -> Option Nat
  handedOut : List Nat
  decrements : List Nat

/-- `ACC_REG_RESULT`. -/
inductive AccRegResult where
  | errorAccountListIsFull
  | errorConflictMainAccountIsNotReady
  | errorConflictTooManyTimes
  | errorBindUidOverflow
  | errorInvalidUid
  | ok
  | conflict
  | duplicateRegistration
deriving DecidableEq

namespace AccRegResult

def code : AccRegResult -> Int
  | errorAccountListIsFull => -5
  | errorConflictMainAccountIsNotReady => -4
  | errorConflictTooManyTimes => -3
  | errorBindUidOverflow => -2
  | errorInvalidUid => -1
  | ok => 0
  | conflict => 1
  | duplicateRegistration => 2

end AccRegResult

/-- What an account is registered with. -/
structure Registration where
  sUid : List UInt8
  sNick : List UInt8
  sPwd : List UInt8
  uConnId : Nat
  uInnerUuid : Nat
  pConnImpl : Nat
  tmNow : Int

/-- The calls of the account manager and of its list, and the application
setting `ext_data`. -/
inductive AccountEvent where
  | register (registration : Registration)
  | unregister (account : Nat) (tmNow : Int)
  | unregisterByConnId (uConnId : Nat) (tmNow : Int)
  | kick (nIndexId : Nat) (tmNow : Int)
  | kickByUid (sUid : List UInt8) (tmNow : Int)
  | kickOfflineMoreThan (nOfflineToleranceSeconds : Int) (nKickNumMax : Nat) (tmNow : Int)
      (vOutKickedList : List Nat)
  | release (account : Nat) (tmNow : Int)
  | offlineByUid (sUid : List UInt8) (tmNow : Int)
  | checkKeepAlive (nLostContactToleranceSeconds : Int) (tmNow : Int)
  | keepAliveByUid (sUid : List UInt8) (tmNow : Int)
  | getByUid (sUid : List UInt8)
  | getByConnId (uConnId : Nat)
  | getByInnerUuid (uInnerUuid : Nat)
  | setExtData (account : Nat) (extData : Nat)

namespace AccountStateList

/-- A constructed list, in memory of any contents. -/
def initial (nReserve : Fin (2 ^ 31)) (uninitialised : Nat -> AccountState) :
    AccountStateList where
  pool := .safeInit 600000 nReserve uninitialised
  szOnlineCount := 0
  mapUidHash2ConnState := fun _ => none
  mapConnId2ConnState := fun _ => none
  mapInnerUuid2ConnState := fun _ => none
  handedOut := []
  decrements := []

def account (list : AccountStateList) (index : Nat) : AccountState := list.pool.data index

def setAccount (list : AccountStateList) (index : Nat) (state : AccountState) :
    AccountStateList :=
  { list with pool := list.pool.setData index state }

/-- The account is in use. -/
def live (list : AccountStateList) (index : Nat) : Bool := list.pool.used index

/-- The first account that a walk over the accounts in use accepts. -/
def walk (list : AccountStateList) (test : AccountState -> Bool) : Option Nat :=
  list.pool.usedObjects.find? fun index => test (list.account index)

/-! ## `CAccountStateList` -/

/-- `Alloc`: the account is cleared. -/
def alloc (list : AccountStateList) : AccountStateList × Option Nat :=
  let (pool, objid) := list.pool.safeAlloc
  if 0 < objid then
    match pool.get objid with
    | some index =>
        let cleared := { list with pool := pool, handedOut := list.handedOut ++ [index] }
        (cleared.setAccount index ⟨objid, false, [], [], [], ⟨0, 0, 0, .init, 0⟩, 0, 0⟩, some index)
    | none => (list, none)
  else (list, none)

/-- The number of accounts in use that the loops of `CalcOnlineCount` and
`CalcOfflineCount` count. -/
def calcCount (list : AccountStateList) (onoff : AccConnectionOnoff) : Nat :=
  list.pool.usedObjects.countP fun index => (list.account index).routeTable.onoff == onoff

def calcOnlineCount (list : AccountStateList) : Nat := list.calcCount .online

def calcOfflineCount (list : AccountStateList) : Nat := list.calcCount .offline

def getOnlineCount (list : AccountStateList) : Nat := list.szOnlineCount

def getOfflineCount (list : AccountStateList) : Nat := list.calcOfflineCount

def getCount (list : AccountStateList) : Nat := list.pool.getObjectNum

def online (list : AccountStateList) (index uConnId uInnerUuid pConnImpl : Nat) (tmNow : Int) :
    AccountStateList :=
  let routed := list.setAccount index { list.account index with
    routeTable := ⟨uConnId, uInnerUuid, pConnImpl, .online, tmNow⟩ }
  { routed with szOnlineCount := routed.calcOnlineCount }

/-- `--_szOnlineCount`. -/
def decrement (list : AccountStateList) : AccountStateList :=
  { list with
    szOnlineCount := if list.szOnlineCount = 0 then 2 ^ 64 - 1 else list.szOnlineCount - 1
    decrements := list.decrements ++ [list.szOnlineCount] }

def offline (list : AccountStateList) (index : Nat) (tmNow : Int) : AccountStateList :=
  let state := list.account index
  let counted := if state.routeTable.onoff = .online then list.decrement else list
  counted.setAccount index { state with
    routeTable.onoff := .offline
    routeTable.onoffTime := tmNow }

def offlineByUid (list : AccountStateList) (sUid : List UInt8) (tmNow : Int) :
    AccountStateList :=
  match list.walk fun state => state.uid == sUid with
  | some index => list.offline index tmNow
  | none => list

def keepAlive (list : AccountStateList) (index : Nat) (tmNow : Int) : AccountStateList :=
  let state := list.account index
  if state.routeTable.onoff = .online then
    list.setAccount index { state with routeTable.onoffTime := tmNow }
  else list

/-- The loop of `CheckKeepAlive`. -/
def checkKeepAlive (list : AccountStateList) (nLostContactToleranceSeconds tmNow : Int) :
    AccountStateList :=
  (List.range list.pool.totalSize).foldl
    (fun state index =>
      let route := (state.account index).routeTable
      if state.live index ∧ route.onoff = .online ∧
          nLostContactToleranceSeconds ≤ tmNow - route.onoffTime then
        state.offline index tmNow
      else state)
    list

/-- A lookup through a map: the account that the map holds under the key, or the
first one that a walk accepts, which the map then holds.  The account is asserted
to be ready. -/
def lookup (list : AccountStateList) (map : Nat -> Option Nat) (key : Nat)
    (test : AccountState -> Bool) : Option ((Nat -> Option Nat) × Option Nat) :=
  match map key with
  | some index => if (list.account index).isReady then some (map, some index) else none
  | none =>
      match list.walk test with
      | some index =>
          if (list.account index).isReady then
            some (Function.update map key (some index), some index)
          else none
      | none => some (map, none)

def getByUid (cityHash64 : List UInt8 -> Nat) (list : AccountStateList) (sUid : List UInt8) :
    Option (AccountStateList × Option Nat) :=
  (list.lookup list.mapUidHash2ConnState (cityHash64 sUid) fun state => state.uid == sUid).map
    fun found => ({ list with mapUidHash2ConnState := found.1 }, found.2)

def getByConnId (list : AccountStateList) (uConnId : Nat) :
    Option (AccountStateList × Option Nat) :=
  (list.lookup list.mapConnId2ConnState uConnId fun state => state.routeTable.connid == uConnId).map
    fun found => ({ list with mapConnId2ConnState := found.1 }, found.2)

def getByInnerUuid (list : AccountStateList) (uInnerUuid : Nat) :
    Option (AccountStateList × Option Nat) :=
  (list.lookup list.mapInnerUuid2ConnState uInnerUuid
    fun state => state.routeTable.innerUuid == uInnerUuid).map
      fun found => ({ list with mapInnerUuid2ConnState := found.1 }, found.2)

section Hashed

variable (cityHash64 : List UInt8 -> Nat)

def keepAliveByUid (list : AccountStateList) (sUid : List UInt8) (tmNow : Int) :
    Option AccountStateList :=
  (list.getByUid cityHash64 sUid).map fun found =>
    match found.2 with
    | some index => found.1.keepAlive index tmNow
    | none => found.1

/-- A map without the entry for a key, unless the key is zero. -/
def eraseKey (map : Nat -> Option Nat) (key : Nat) : Nat -> Option Nat :=
  if 0 < key then Function.update map key none else map

/-- The maps without the entries for the keys of an account. -/
def eraseKeys (list : AccountStateList) (state : AccountState) : AccountStateList :=
  { list with
    mapUidHash2ConnState := Function.update list.mapUidHash2ConnState (cityHash64 state.uid) none
    mapConnId2ConnState := eraseKey list.mapConnId2ConnState state.routeTable.connid
    mapInnerUuid2ConnState := eraseKey list.mapInnerUuid2ConnState state.routeTable.innerUuid }

def releaseInternal (list : AccountStateList) (index : Nat) (tmNow : Int) :
    Option AccountStateList :=
  let state := list.account index
  if state.isReady then
    let unready := list.setAccount index { state with isReady := false }
    let done := (unready.eraseKeys cityHash64 state).offline index tmNow
    (done.pool.releaseInternal (done.account index).keyid).map fun pool => { done with pool := pool }
  else some list

/-- `Kick`, of an objid inside the pool. -/
def kick (list : AccountStateList) (nIndexId : Nat) (tmNow : Int) : Option AccountStateList :=
  (list.pool.get nIndexId).bind fun index => list.releaseInternal cityHash64 index tmNow

def kickByUid (list : AccountStateList) (sUid : List UInt8) (tmNow : Int) :
    Option AccountStateList :=
  (list.getByUid cityHash64 sUid).bind fun found =>
    match found.2 with
    | some index => found.1.releaseInternal cityHash64 index tmNow
    | none => some found.1

/-- The loop of `KickOfflineMoreThan` from a position on, with the output list. -/
def kickOfflineLoop (nOfflineToleranceSeconds : Int) (nKickNumMax : Nat) (tmNow : Int) :
    AccountStateList -> List Nat -> List Nat -> Option (AccountStateList × List Nat)
  | list, vOutKickedList, [] => some (list, vOutKickedList)
  | list, vOutKickedList, index :: later =>
      let route := (list.account index).routeTable
      if list.live index ∧ route.onoff = .offline ∧
          nOfflineToleranceSeconds ≤ tmNow - route.onoffTime then
        (list.releaseInternal cityHash64 index tmNow).bind fun released =>
          if nKickNumMax ≤ (vOutKickedList ++ [index]).length then
            some (released, vOutKickedList ++ [index])
          else
            kickOfflineLoop nOfflineToleranceSeconds nKickNumMax tmNow released
              (vOutKickedList ++ [index]) later
      else kickOfflineLoop nOfflineToleranceSeconds nKickNumMax tmNow list vOutKickedList later

def kickOfflineMoreThan (list : AccountStateList) (nOfflineToleranceSeconds : Int)
    (nKickNumMax : Nat) (tmNow : Int) (vOutKickedList : List Nat) :
    Option (AccountStateList × List Nat) :=
  kickOfflineLoop cityHash64 nOfflineToleranceSeconds nKickNumMax tmNow list vOutKickedList
    (List.range list.pool.totalSize)

/-! ## `CSimpleAccountManager` -/

/-- The account that a new one conflicts with, and the new one, are marked. -/
def markConflict (list : AccountStateList) (index conflict : Nat) : AccountStateList :=
  let marked := list.setAccount index { list.account index with
    conflictKeyid := (list.account conflict).keyid }
  marked.setAccount conflict { marked.account conflict with
    conflictKeyid := (marked.account index).keyid }

/-- The check for a conflict with the account that the uid belongs to: the result
of `Register`, and the account if there is one. -/
def checkConflict (list : AccountStateList) (registration : Registration) :
    Option Nat -> Option (AccountStateList × AccRegResult × Option Nat)
  | some conflict =>
      if 0 < (list.account conflict).conflictKeyid then
        some (list, .errorConflictTooManyTimes, none)
      else if (list.account conflict).extData = 0 then
        some (list, .errorConflictMainAccountIsNotReady, none)
      else if registration.uConnId ≠ (list.account conflict).routeTable.connid then
        match list.alloc with
        | (full, none) => some (full, .errorAccountListIsFull, none)
        | (grown, some index) =>
            if index = conflict then none
            else some (grown.markConflict index conflict, .conflict, some index)
      else some (list, .duplicateRegistration, some conflict)
  | none =>
      match list.alloc with
      | (full, none) => some (full, .errorAccountListIsFull, none)
      | (grown, some index) => some (grown, .ok, some index)

/-- The first part of `Register`. -/
def chooseAccount (list : AccountStateList) (registration : Registration) :
    Option (AccountStateList × AccRegResult × Option Nat) :=
  if registration.sUid.length ≤ 0 then some (list, .errorInvalidUid, none)
  else if 36 ≤ registration.sUid.length ∨ 36 ≤ registration.sNick.length ∨
      40 ≤ registration.sPwd.length then
    some (list, .errorBindUidOverflow, none)
  else
    (list.getByUid cityHash64 registration.sUid).bind fun looked =>
      looked.1.checkConflict registration looked.2

def confirmAccountIsReady (list : AccountStateList) (index : Nat) (registration : Registration) :
    AccountStateList :=
  let routed := list.online index registration.uConnId registration.uInnerUuid
    registration.pConnImpl registration.tmNow
  routed.setAccount index { routed.account index with isReady := true }

/-- The second part of `Register`, on the chosen account. -/
def bindAccount (list : AccountStateList) (index : Nat) (registration : Registration) :
    AccountStateList :=
  let bound := list.setAccount index { list.account index with
    uid := registration.sUid
    nick := registration.sNick
    pwd := registration.sPwd }
  bound.confirmAccountIsReady index registration

/-- The end of `Register`: an account that was chosen is bound and put into
`ppOutAccount`. -/
def bindChosen (registration : Registration) :
    AccountStateList × AccRegResult × Option Nat -> AccountStateList × AccRegResult × Option Nat
  | (list, result, some index) =>
      if 0 ≤ result.code then (list.bindAccount index registration, result, some index)
      else (list, result, none)
  | (list, result, none) => (list, result, none)

def register (list : AccountStateList) (registration : Registration) :
    Option (AccountStateList × AccRegResult × Option Nat) :=
  (list.chooseAccount cityHash64 registration).map (bindChosen registration)

/-- The marks of an account and of the one it conflicts with are cleared. -/
def clearConflict (list : AccountStateList) (index : Nat) : Option AccountStateList :=
  if 0 < (list.account index).conflictKeyid then
    (list.pool.get (list.account index).conflictKeyid).map fun conflict =>
      let cleared := list.setAccount index { list.account index with conflictKeyid := 0 }
      cleared.setAccount conflict { cleared.account conflict with conflictKeyid := 0 }
  else some list

def unregister (list : AccountStateList) (index : Nat) (tmNow : Int) : Option AccountStateList :=
  if (list.account index).isReady then
    (list.clearConflict index).bind fun cleared => cleared.releaseInternal cityHash64 index tmNow
  else some list

/-- The loop of `UnregisterByConnId`. -/
def unregisterByConnId (list : AccountStateList) (uConnId : Nat) (tmNow : Int) :
    Option AccountStateList :=
  (List.range list.pool.totalSize).foldlM
    (fun state index =>
      if state.live index ∧ (state.account index).routeTable.connid = uConnId then
        state.unregister cityHash64 index tmNow
      else some state)
    list

/-- One call. -/
def perform (list : AccountStateList) : AccountEvent -> Option AccountStateList
  | .register registration => (list.register cityHash64 registration).map fun done => done.1
  | .unregister index tmNow =>
      if index ∈ list.handedOut then list.unregister cityHash64 index tmNow else none
  | .unregisterByConnId uConnId tmNow => list.unregisterByConnId cityHash64 uConnId tmNow
  | .kick nIndexId tmNow =>
      if (list.pool.get nIndexId).any list.live then list.kick cityHash64 nIndexId tmNow else none
  | .kickByUid sUid tmNow => list.kickByUid cityHash64 sUid tmNow
  | .kickOfflineMoreThan nOfflineToleranceSeconds nKickNumMax tmNow vOutKickedList =>
      (list.kickOfflineMoreThan cityHash64 nOfflineToleranceSeconds nKickNumMax tmNow
        vOutKickedList).map fun done => done.1
  | .release index tmNow =>
      if index ∈ list.handedOut then list.releaseInternal cityHash64 index tmNow else none
  | .offlineByUid sUid tmNow => some (list.offlineByUid sUid tmNow)
  | .checkKeepAlive nLostContactToleranceSeconds tmNow =>
      some (list.checkKeepAlive nLostContactToleranceSeconds tmNow)
  | .keepAliveByUid sUid tmNow => list.keepAliveByUid cityHash64 sUid tmNow
  | .getByUid sUid => (list.getByUid cityHash64 sUid).map fun found => found.1
  | .getByConnId uConnId => (list.getByConnId uConnId).map fun found => found.1
  | .getByInnerUuid uInnerUuid => (list.getByInnerUuid uInnerUuid).map fun found => found.1
  | .setExtData index extData =>
      if list.live index then
        some (list.setAccount index { list.account index with extData := extData })
      else none

def Step (list : AccountStateList) (event : AccountEvent) (next : AccountStateList) : Prop :=
  list.perform cityHash64 event = some next

end Hashed
end AccountStateList
end NetSystem
