import NetSystem.Lobby.AccountStateList

namespace NetSystem

/-!
# Elementary changes of the account list

Every call of the account manager is a sequence of a few kinds of changes: a
lookup fills one of the maps, an account enters the list or is bound anew, an
account is released with or without the conflict marks being cleared, and some
fields of an account are set.  What holds of the list is shown for these changes,
and carries over to the calls and to whole runs of them.

An account in use is registered: it is ready, has its key id and a uid, and is
online or offline.  The map of uid hashes holds accounts in use only, under the
hashes of their uids, since the release of an account erases the entry for its
hash whichever account it names.
-/

/-- An account that is out of use and offline. -/
def AccountState.retired (state : AccountState) (tmNow : Int) : AccountState :=
  { state with
    isReady := false
    routeTable.onoff := .offline
    routeTable.onoffTime := tmNow }

/-- The account that a registration makes. -/
def Registration.newAccount (registration : Registration) (keyid conflictKeyid : Nat) :
    AccountState where
  keyid := keyid
  isReady := true
  uid := registration.sUid
  nick := registration.sNick
  pwd := registration.sPwd
  routeTable := ⟨registration.uConnId, registration.uInnerUuid, registration.pConnImpl, .online,
    registration.tmNow⟩
  extData := 0
  conflictKeyid := conflictKeyid

inductive AccountMove where
  | cacheUid (sUid : List UInt8) (index : Nat)
  | cacheConnId (uConnId : Nat) (index : Nat)
  | cacheInnerUuid (uInnerUuid : Nat) (index : Nat)
  | join (index : Nat) (registration : Registration)
  | joinConflict (index conflict : Nat) (registration : Registration)
  | rebind (index : Nat) (registration : Registration)
  | release (index : Nat) (tmNow : Int)
  | unregister (index : Nat) (tmNow : Int)
  | offline (index : Nat) (tmNow : Int)
  | keepAlive (index : Nat) (tmNow : Int)
  | setExtData (index : Nat) (extData : Nat)

namespace AccountStateList

variable {cityHash64 : List UInt8 -> Nat} {list next : AccountStateList} {index other : Nat}

/-- The mark of an account is set. -/
def setConflict (list : AccountStateList) (index keyid : Nat) : AccountStateList :=
  list.setAccount index { list.account index with conflictKeyid := keyid }

/-- A new account enters the list. -/
def admitted (list : AccountStateList) (index : Nat) (state : AccountState) : AccountStateList :=
  let grown := { list with
    pool := (list.pool.allocated index).setData index state
    handedOut := list.handedOut ++ [index] }
  { grown with szOnlineCount := grown.calcOnlineCount }

section Hashed

variable (cityHash64 : List UInt8 -> Nat)

/-- A ready account is released. -/
def released (list : AccountStateList) (index : Nat) (tmNow : Int) : AccountStateList :=
  let state := list.account index
  let unready := list.setAccount index { state with isReady := false }
  let done := (unready.eraseKeys cityHash64 state).offline index tmNow
  { done with pool := done.pool.released index }

/-- The list after a change. -/
def move (list : AccountStateList) : AccountMove -> AccountStateList
  | .cacheUid sUid index =>
      { list with mapUidHash2ConnState :=
          Function.update list.mapUidHash2ConnState (cityHash64 sUid) (some index) }
  | .cacheConnId uConnId index =>
      { list with mapConnId2ConnState :=
          Function.update list.mapConnId2ConnState uConnId (some index) }
  | .cacheInnerUuid uInnerUuid index =>
      { list with mapInnerUuid2ConnState :=
          Function.update list.mapInnerUuid2ConnState uInnerUuid (some index) }
  | .join index registration =>
      list.admitted index (registration.newAccount (list.pool.objid index) 0)
  | .joinConflict index conflict registration =>
      (list.setConflict conflict (list.pool.objid index)).admitted index
        (registration.newAccount (list.pool.objid index) (list.account conflict).keyid)
  | .rebind index registration => list.bindAccount index registration
  | .release index tmNow => list.released cityHash64 index tmNow
  | .unregister index tmNow =>
      ((list.clearConflict index).getD list).released cityHash64 index tmNow
  | .offline index tmNow => list.offline index tmNow
  | .keepAlive index tmNow => list.keepAlive index tmNow
  | .setExtData index extData =>
      list.setAccount index { list.account index with extData := extData }

/-- The account on top of the stack of those that are not in use. -/
def Vacant (list : AccountStateList) (index : Nat) : Prop :=
  index < list.pool.totalSize ∧ list.live index = false ∧
    list.pool.unusedIds = list.pool.unusedIds.dropLast ++ [index + 1]

/-- The account that the map holds for the uid of a registration, without a mark. -/
def Holder (list : AccountStateList) (index : Nat) (registration : Registration) : Prop :=
  list.live index = true ∧ (list.account index).conflictKeyid = 0 ∧
    list.mapUidHash2ConnState (cityHash64 registration.sUid) = some index

/-- When a change is made. -/
def Possible (list : AccountStateList) : AccountMove -> Prop
  | .cacheUid sUid index =>
      list.mapUidHash2ConnState (cityHash64 sUid) = none ∧ list.live index = true ∧
        (list.account index).uid = sUid
  | .cacheConnId uConnId index =>
      list.mapConnId2ConnState uConnId = none ∧ list.live index = true ∧
        (list.account index).routeTable.connid = uConnId
  | .cacheInnerUuid uInnerUuid index =>
      list.mapInnerUuid2ConnState uInnerUuid = none ∧ list.live index = true ∧
        (list.account index).routeTable.innerUuid = uInnerUuid
  | .join index registration =>
      list.Vacant index ∧ registration.sUid ≠ [] ∧
        list.mapUidHash2ConnState (cityHash64 registration.sUid) = none ∧
        forall other, list.live other = true -> (list.account other).uid ≠ registration.sUid
  | .joinConflict index conflict registration =>
      list.Vacant index ∧ registration.sUid ≠ [] ∧
        list.Holder cityHash64 conflict registration ∧ (list.account conflict).extData ≠ 0 ∧
        (list.account conflict).routeTable.connid ≠ registration.uConnId
  | .rebind index registration =>
      registration.sUid ≠ [] ∧ list.Holder cityHash64 index registration ∧
        (list.account index).extData ≠ 0 ∧
        (list.account index).routeTable.connid = registration.uConnId
  | .release index _ => list.live index = true
  | .unregister index _ => list.live index = true
  | .offline index _ => list.live index = true
  | .keepAlive index _ => list.live index = true
  | .setExtData index _ => list.live index = true

def MoveStep (list : AccountStateList) (change : AccountMove) (next : AccountStateList) : Prop :=
  list.Possible cityHash64 change ∧ next = list.move cityHash64 change

/-- An account is registered under a key id. -/
structure Registered (state : AccountState) (keyid : Nat) : Prop where
  key : state.keyid = keyid
  ready : state.isReady = true
  named : state.uid ≠ []
  known : state.routeTable.onoff ≠ .init

/-- What holds of the list between calls. -/
structure Formed (list : AccountStateList) : Prop where
  pool : list.pool.Valid
  registered : forall index, list.live index = true ->
    Registered (list.account index) (list.pool.objid index)
  retired : forall index, index ∈ list.handedOut -> list.live index = false ->
    (list.account index).isReady = false
  marked : forall index, list.live index = true -> 0 < (list.account index).conflictKeyid ->
    Exists fun other => other < list.pool.totalSize ∧
      (list.account index).conflictKeyid = list.pool.objid other
  cached : forall key index, list.mapUidHash2ConnState key = some index ->
    list.live index = true ∧ cityHash64 (list.account index).uid = key

end Hashed

/-! ## Single accounts -/

@[simp] theorem account_setAccount (state : AccountState) :
    (list.setAccount index state).account index = state :=
  Function.update_self ..

theorem account_setAccount_ne (state : AccountState) (different : other ≠ index) :
    (list.setAccount index state).account other = list.account other :=
  Function.update_of_ne different ..

@[simp] theorem live_setAccount (state : AccountState) :
    (list.setAccount index state).live = list.live := rfl

/-- The list with other marks. -/
def remarked (list : AccountStateList) (marks : Nat -> Nat) : AccountStateList :=
  { list with pool := { list.pool with
      data := fun index => { list.pool.data index with conflictKeyid := marks index } } }

/-- The marks of the accounts. -/
def marks (list : AccountStateList) (index : Nat) : Nat := (list.account index).conflictKeyid

theorem setConflict_eq (keyid : Nat) :
    list.setConflict index keyid = list.remarked (Function.update list.marks index keyid) := by
  have data : Function.update list.pool.data index
      { list.account index with conflictKeyid := keyid } =
        fun other => { list.pool.data other with
          conflictKeyid := Function.update list.marks index keyid other } := by
    funext other
    by_cases same : other = index
    · rw [same, Function.update_self, Function.update_self]
      rfl
    · rw [Function.update_of_ne same, Function.update_of_ne same]
      rfl
  unfold setConflict setAccount ObjectPool.setData remarked
  rw [data]

theorem offline_pool (tmNow : Int) :
    (list.offline index tmNow).pool = list.pool.setData index { list.account index with
      routeTable.onoff := .offline
      routeTable.onoffTime := tmNow } := by
  unfold offline
  dsimp only
  split <;> rfl

/-- `Offline` leaves the maps alone. -/
theorem offline_frame (list : AccountStateList) (index : Nat) (tmNow : Int) :
    (list.offline index tmNow).handedOut = list.handedOut ∧
    (list.offline index tmNow).mapUidHash2ConnState = list.mapUidHash2ConnState ∧
    (list.offline index tmNow).mapConnId2ConnState = list.mapConnId2ConnState ∧
    (list.offline index tmNow).mapInnerUuid2ConnState = list.mapInnerUuid2ConnState := by
  unfold offline
  dsimp only
  split <;> exact ⟨rfl, rfl, rfl, rfl⟩

/-- A release empties the slot of the account and erases its keys. -/
theorem released_eq (tmNow : Int) :
    list.released cityHash64 index tmNow =
      let state := list.account index
      let counted := if state.routeTable.onoff = .online then list.decrement else list
      { (counted.eraseKeys cityHash64 state) with
        pool := (list.pool.setData index (state.retired tmNow)).released index } := by
  have unready : ((list.setAccount index { list.account index with isReady := false }).eraseKeys
      cityHash64 (list.account index)).account index =
        { list.account index with isReady := false } := Function.update_self ..
  unfold released offline
  dsimp only
  rw [unready]
  by_cases isOnline : (list.account index).routeTable.onoff = .online
  · rw [if_pos isOnline, if_pos isOnline]
    simp only [setAccount, ObjectPool.setData, eraseKeys, decrement, Function.update_idem]
    rfl
  · rw [if_neg isOnline, if_neg isOnline]
    simp only [setAccount, ObjectPool.setData, eraseKeys, Function.update_idem]
    rfl

theorem released_account (tmNow : Int) :
    (list.released cityHash64 index tmNow).account index =
      (list.account index).retired tmNow := by
  rw [released_eq]
  exact Function.update_self ..

theorem released_account_ne (tmNow : Int) (different : other ≠ index) :
    (list.released cityHash64 index tmNow).account other = list.account other := by
  rw [released_eq]
  exact Function.update_of_ne different ..

theorem released_live (tmNow : Int) :
    (list.released cityHash64 index tmNow).live = Function.update list.live index false := by
  rw [released_eq]
  rfl

theorem released_mapUidHash2ConnState (tmNow : Int) :
    (list.released cityHash64 index tmNow).mapUidHash2ConnState =
      Function.update list.mapUidHash2ConnState (cityHash64 (list.account index).uid) none := by
  rw [released_eq]
  dsimp only
  split <;> rfl

theorem released_mapConnId2ConnState (tmNow : Int) :
    (list.released cityHash64 index tmNow).mapConnId2ConnState =
      eraseKey list.mapConnId2ConnState (list.account index).routeTable.connid := by
  rw [released_eq]
  dsimp only
  split <;> rfl

theorem released_mapInnerUuid2ConnState (tmNow : Int) :
    (list.released cityHash64 index tmNow).mapInnerUuid2ConnState =
      eraseKey list.mapInnerUuid2ConnState (list.account index).routeTable.innerUuid := by
  rw [released_eq]
  dsimp only
  split <;> rfl

theorem released_handedOut (tmNow : Int) :
    (list.released cityHash64 index tmNow).handedOut = list.handedOut := by
  rw [released_eq]
  dsimp only
  split <;> rfl

/-- Whoever is in use after a release was in use before, and is another account. -/
theorem live_of_released {tmNow : Int}
    (still : (list.released cityHash64 index tmNow).live other = true) :
    other ≠ index ∧ list.live other = true := by
  rw [released_live] at still
  by_cases same : other = index
  · rw [same, Function.update_self] at still
    cases still
  · rw [Function.update_of_ne same] at still
    exact ⟨same, still⟩

theorem admitted_account (state : AccountState) :
    (list.admitted index state).account index = state :=
  Function.update_self ..

theorem admitted_account_ne (state : AccountState) (different : other ≠ index) :
    (list.admitted index state).account other = list.account other :=
  Function.update_of_ne different ..

theorem admitted_live (state : AccountState) :
    (list.admitted index state).live = Function.update list.live index true := rfl

/-- Whoever is in use after an admission is the new account or was in use before. -/
theorem live_of_admitted {state : AccountState}
    (inUse : (list.admitted index state).live other = true) :
    other = index ∨ other ≠ index ∧ list.live other = true := by
  by_cases same : other = index
  · exact .inl same
  · rw [admitted_live, Function.update_of_ne same] at inUse
    exact .inr ⟨same, inUse⟩

/-- An account in use is none that a registration takes. -/
theorem Vacant.ne_of_live (vacant : list.Vacant index) (inUse : list.live other = true) :
    other ≠ index := by
  rintro rfl
  rw [vacant.2.1] at inUse
  cases inUse

/-- The account that a registration leaves, bound anew. -/
def rebound (state : AccountState) (registration : Registration) : AccountState :=
  { state with
    isReady := true
    uid := registration.sUid
    nick := registration.sNick
    pwd := registration.sPwd
    routeTable := ⟨registration.uConnId, registration.uInnerUuid, registration.pConnImpl, .online,
      registration.tmNow⟩ }

/-- The counters look only at who is in use and online. -/
theorem calcCount_congr (onoff : AccConnectionOnoff)
    (used : next.pool.usedObjects = list.pool.usedObjects)
    (same : forall index, (next.account index).routeTable.onoff =
      (list.account index).routeTable.onoff) :
    next.calcCount onoff = list.calcCount onoff := by
  unfold calcCount
  rw [used]
  apply List.countP_congr
  intro index _
  rw [same index]

theorem bindAccount_eq (registration : Registration) :
    list.bindAccount index registration =
      let bound := list.setAccount index (rebound (list.account index) registration)
      { bound with szOnlineCount := bound.calcOnlineCount } := by
  have steps : list.bindAccount index registration =
      { (list.setAccount index (rebound (list.account index) registration)) with
        szOnlineCount := (list.bindAccount index registration).szOnlineCount } := by
    simp only [bindAccount, confirmAccountIsReady, online, setAccount, account, ObjectPool.setData,
      Function.update_self, Function.update_idem, rebound]
  have count : (list.bindAccount index registration).szOnlineCount =
      (list.setAccount index (rebound (list.account index) registration)).calcOnlineCount := by
    -- the count is taken before the account is ready, which it does not look at
    refine calcCount_congr .online rfl ?_
    intro other
    by_cases same : other = index
    · rw [same, account_setAccount, account_setAccount, account_setAccount]
      rfl
    · rw [account_setAccount_ne _ same, account_setAccount_ne _ same, account_setAccount_ne _ same]
  rw [steps, count]

/-! ## What holds between calls -/

theorem Formed.congr (formed : list.Formed cityHash64) (pool : next.pool = list.pool)
    (handedOut : next.handedOut = list.handedOut)
    (map : next.mapUidHash2ConnState = list.mapUidHash2ConnState) : next.Formed cityHash64 := by
  cases list
  cases next
  cases pool
  cases handedOut
  cases map
  exact ⟨formed.pool, formed.registered, formed.retired, formed.marked, formed.cached⟩

theorem Formed.inside (formed : list.Formed cityHash64) (inUse : list.live index = true) :
    index < list.pool.totalSize :=
  formed.pool.inside index inUse

theorem Formed.setAccount (formed : list.Formed cityHash64) (state : AccountState)
    (registered : Registered state (list.pool.objid index))
    (mark : state.conflictKeyid = (list.account index).conflictKeyid)
    (hash : cityHash64 state.uid = cityHash64 (list.account index).uid)
    (inUse : list.live index = true) : (list.setAccount index state).Formed cityHash64 where
  pool := formed.pool.setData index state
  registered := by
    intro other otherInUse
    by_cases same : other = index
    · rw [same, account_setAccount]
      exact registered
    · rw [account_setAccount_ne state same]
      exact formed.registered other otherInUse
  retired := by
    intro other handed free
    have different : other ≠ index := by
      rintro rfl
      rw [live_setAccount, inUse] at free
      cases free
    rw [account_setAccount_ne state different]
    exact formed.retired other handed free
  marked := by
    intro other otherInUse positive
    by_cases same : other = index
    · rw [same, account_setAccount, mark] at positive ⊢
      exact formed.marked index inUse positive
    · rw [account_setAccount_ne state same] at positive ⊢
      exact formed.marked other otherInUse positive
  cached := by
    intro key other entry
    rcases formed.cached key other entry with ⟨otherInUse, hashed⟩
    refine ⟨otherInUse, ?_⟩
    by_cases same : other = index
    · rw [same, account_setAccount, hash, ← same]
      exact hashed
    · rw [account_setAccount_ne state same]
      exact hashed

theorem Formed.remarked (formed : list.Formed cityHash64) {marks : Nat -> Nat}
    (marked : forall index, list.live index = true -> 0 < marks index ->
      Exists fun other => other < list.pool.totalSize ∧ marks index = list.pool.objid other) :
    (list.remarked marks).Formed cityHash64 where
  pool := ⟨formed.pool.fits, formed.pool.distinct, formed.pool.unused, formed.pool.inside⟩
  registered := by
    intro index inUse
    have registered := formed.registered index inUse
    exact ⟨registered.key, registered.ready, registered.named, registered.known⟩
  retired := formed.retired
  marked := marked
  cached := formed.cached

theorem Formed.admitted (formed : list.Formed cityHash64) (vacant : list.Vacant index)
    {state : AccountState} (registered : Registered state (list.pool.objid index))
    (mark : 0 < state.conflictKeyid -> Exists fun other => other < list.pool.totalSize ∧
      state.conflictKeyid = list.pool.objid other) :
    (list.admitted index state).Formed cityHash64 where
  pool := (formed.pool.allocated vacant.1 vacant.2.2).setData index state
  registered := by
    intro other inUse
    rcases live_of_admitted inUse with rfl | ⟨different, before⟩
    · rw [admitted_account]
      exact registered
    · rw [admitted_account_ne state different]
      exact formed.registered other before
  retired := by
    intro other handed free
    have different : other ≠ index := by
      rintro rfl
      rw [admitted_live, Function.update_self] at free
      cases free
    rw [admitted_live, Function.update_of_ne different] at free
    rw [admitted_account_ne state different]
    rcases List.mem_append.mp handed with before | last
    · exact formed.retired other before free
    · exact absurd (List.mem_singleton.mp last) different
  marked := by
    intro other inUse positive
    rcases live_of_admitted inUse with rfl | ⟨different, before⟩
    · rw [admitted_account] at positive ⊢
      exact mark positive
    · rw [admitted_account_ne state different] at positive ⊢
      exact formed.marked other before positive
  cached := by
    intro key other entry
    rcases formed.cached key other entry with ⟨before, hashed⟩
    have different : other ≠ index := vacant.ne_of_live before
    rw [admitted_live, Function.update_of_ne different, admitted_account_ne state different]
    exact ⟨before, hashed⟩

theorem Formed.released (formed : list.Formed cityHash64) (inUse : list.live index = true)
    (tmNow : Int) : (list.released cityHash64 index tmNow).Formed cityHash64 where
  pool := by
    rw [released_eq]
    exact (formed.pool.setData index _).released inUse
  registered := by
    intro other still
    rcases live_of_released still with ⟨different, before⟩
    have same : (list.released cityHash64 index tmNow).pool.objid other =
        list.pool.objid other := by
      rw [released_eq]
      rfl
    rw [released_account_ne tmNow different, same]
    exact formed.registered other before
  retired := by
    intro other handed free
    rw [released_handedOut] at handed
    by_cases same : other = index
    · rw [same, released_account]
      rfl
    · rw [released_live, Function.update_of_ne same] at free
      rw [released_account_ne tmNow same]
      exact formed.retired other handed free
  marked := by
    intro other still positive
    rcases live_of_released still with ⟨different, before⟩
    rw [released_account_ne tmNow different] at positive ⊢
    rw [released_eq]
    exact formed.marked other before positive
  cached := by
    intro key other entry
    rw [released_mapUidHash2ConnState] at entry
    have keyDiffers : key ≠ cityHash64 (list.account index).uid := by
      rintro rfl
      rw [Function.update_self] at entry
      cases entry
    rw [Function.update_of_ne keyDiffers] at entry
    rcases formed.cached key other entry with ⟨before, hashed⟩
    have different : other ≠ index := by
      rintro rfl
      exact keyDiffers hashed.symm
    rw [released_live, Function.update_of_ne different, released_account_ne tmNow different]
    exact ⟨before, hashed⟩

/-- The marks are cleared only where there is one, and then on both accounts. -/
theorem Formed.clearConflict_cases (formed : list.Formed cityHash64)
    (inUse : list.live index = true) :
    (list.marks index = 0 ∧ list.clearConflict index = some list) ∨
    (Exists fun conflict => conflict < list.pool.totalSize ∧
      list.marks index = list.pool.objid conflict ∧
      list.clearConflict index =
        some (list.remarked (Function.update (Function.update list.marks index 0) conflict 0))) := by
  by_cases positive : 0 < (list.account index).conflictKeyid
  · rcases formed.marked index inUse positive with ⟨conflict, inside, mark⟩
    refine .inr ⟨conflict, inside, mark, ?_⟩
    have first : list.setConflict index 0 =
        list.remarked (Function.update list.marks index 0) := setConflict_eq 0
    have second : (list.setConflict index 0).setConflict conflict 0 =
        list.remarked (Function.update (Function.update list.marks index 0) conflict 0) := by
      rw [setConflict_eq, first]
      rfl
    rw [clearConflict, if_pos positive, mark, formed.pool.get_objid inside, ← second]
    rfl
  · refine .inl ⟨by unfold marks; omega, ?_⟩
    rw [clearConflict, if_neg positive]

/-- Clearing only sets marks to zero. -/
theorem Formed.clearConflict_eq (formed : list.Formed cityHash64)
    (inUse : list.live index = true) :
    Exists fun marks => list.clearConflict index = some (list.remarked marks) ∧
      forall other, marks other = 0 ∨ marks other = list.marks other := by
  rcases formed.clearConflict_cases inUse with ⟨_, cleared⟩ | ⟨conflict, _, _, cleared⟩
  · exact ⟨list.marks, cleared, fun other => .inr rfl⟩
  · refine ⟨_, cleared, fun other => ?_⟩
    by_cases second : other = conflict
    · rw [second, Function.update_self]
      exact .inl rfl
    · rw [Function.update_of_ne second]
      by_cases first : other = index
      · rw [first, Function.update_self]
        exact .inl rfl
      · rw [Function.update_of_ne first]
        exact .inr rfl

theorem Formed.cleared (formed : list.Formed cityHash64) {marks : Nat -> Nat}
    (fewer : forall other, marks other = 0 ∨ marks other = list.marks other) :
    (list.remarked marks).Formed cityHash64 := by
  refine formed.remarked fun other inUse positive => ?_
  rcases fewer other with zero | same
  · omega
  · rw [same] at positive ⊢
    exact formed.marked other inUse positive

/-- The account keeps its registration when only times and flags change. -/
theorem Formed.registered_with (formed : list.Formed cityHash64) (inUse : list.live index = true)
    {state : AccountState} (key : state.keyid = (list.account index).keyid)
    (ready : state.isReady = (list.account index).isReady)
    (named : state.uid = (list.account index).uid) (known : state.routeTable.onoff ≠ .init) :
    Registered state (list.pool.objid index) := by
  have registered := formed.registered index inUse
  exact ⟨key.trans registered.key, ready.trans registered.ready, named ▸ registered.named, known⟩

/-- Every change keeps it. -/
theorem Formed.move (formed : list.Formed cityHash64) (change : AccountMove)
    (possible : list.Possible cityHash64 change) : (list.move cityHash64 change).Formed cityHash64 := by
  cases change with
  | cacheUid sUid index =>
      rcases possible with ⟨_, inUse, uid⟩
      refine ⟨formed.pool, formed.registered, formed.retired, formed.marked, ?_⟩
      intro key other entry
      change Function.update list.mapUidHash2ConnState _ _ key = _ at entry
      by_cases here : key = cityHash64 sUid
      · rw [here, Function.update_self] at entry
        cases entry
        exact ⟨inUse, by rw [here, ← uid]; rfl⟩
      · rw [Function.update_of_ne here] at entry
        exact formed.cached key other entry
  | cacheConnId uConnId index => exact formed.congr rfl rfl rfl
  | cacheInnerUuid uInnerUuid index => exact formed.congr rfl rfl rfl
  | join index registration =>
      rcases possible with ⟨vacant, named, _⟩
      exact formed.admitted vacant ⟨rfl, rfl, named, nofun⟩ fun positive => nomatch positive
  | joinConflict index conflict registration =>
      rcases possible with ⟨vacant, named, ⟨inUse, _⟩, _⟩
      have marked : (list.setConflict conflict (list.pool.objid index)).Formed cityHash64 := by
        rw [setConflict_eq]
        refine formed.remarked fun other otherInUse positive => ?_
        by_cases same : other = conflict
        · rw [same, Function.update_self]
          exact ⟨index, vacant.1, rfl⟩
        · rw [Function.update_of_ne same] at positive ⊢
          exact formed.marked other otherInUse positive
      refine marked.admitted vacant ⟨rfl, rfl, named, nofun⟩ fun _ => ?_
      exact ⟨conflict, formed.inside inUse, (formed.registered conflict inUse).key⟩
  | rebind index registration =>
      rcases possible with ⟨named, ⟨inUse, _, entry⟩, _⟩
      have registered := formed.registered index inUse
      have hash := (formed.cached _ index entry).2
      have bound := formed.setAccount (rebound (list.account index) registration)
        ⟨registered.key, rfl, named, nofun⟩ rfl hash.symm inUse
      change (list.bindAccount index registration).Formed cityHash64
      rw [bindAccount_eq]
      exact bound.congr rfl rfl rfl
  | release index tmNow => exact formed.released possible tmNow
  | unregister index tmNow =>
      rcases formed.clearConflict_eq possible with ⟨marks, cleared, fewer⟩
      change (((list.clearConflict index).getD list).released cityHash64 index tmNow).Formed _
      rw [cleared]
      exact (formed.cleared fewer).released possible tmNow
  | offline index tmNow =>
      have kept := formed.setAccount
        { list.account index with
          routeTable.onoff := .offline
          routeTable.onoffTime := tmNow }
        (formed.registered_with possible rfl rfl rfl nofun) rfl rfl possible
      have frame := offline_frame list index tmNow
      exact kept.congr (offline_pool tmNow) frame.1 frame.2.1
  | keepAlive index tmNow =>
      change (list.keepAlive index tmNow).Formed cityHash64
      unfold keepAlive
      dsimp only
      split
      · have known := (formed.registered index possible).known
        exact formed.setAccount _ (formed.registered_with possible rfl rfl rfl known) rfl rfl possible
      · exact formed
  | setExtData index extData =>
      have known := (formed.registered index possible).known
      exact formed.setAccount _ (formed.registered_with possible rfl rfl rfl known) rfl rfl possible

end AccountStateList
end NetSystem
