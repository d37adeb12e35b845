import NetSystem.Foundation.Scan
import NetSystem.Lobby.AccountMoves

namespace NetSystem

/-!
# The calls as sequences of changes

`moves` says which changes a call makes, from the list before the call.  A call
that returns makes exactly these, one after the other, and the calls that look up
a uid always return.
-/

namespace AccountStateList

variable {cityHash64 : List UInt8 -> Nat} {list next : AccountStateList} {index : Nat}

/-- The account that a lookup through a map finds. -/
def found (list : AccountStateList) (map : Nat -> Option Nat) (key : Nat)
    (test : AccountState -> Bool) : Option Nat :=
  match map key with
  | some index => some index
  | none => list.walk test

/-- The account that such a lookup enters into the map. -/
def filled (list : AccountStateList) (map : Nat -> Option Nat) (key : Nat)
    (test : AccountState -> Bool) : Option Nat :=
  match map key with
  | some _ => none
  | none => list.walk test

/-- The next account that `Alloc` gives out. -/
def vacancy (list : AccountStateList) : Option Nat :=
  list.pool.unusedIds.getLast?.map fun id => id - 1

/-- The uid is there, and the strings fit. -/
def Acceptable (registration : Registration) : Prop :=
  0 < registration.sUid.length ∧ registration.sUid.length < 36 ∧
    registration.sNick.length < 36 ∧ registration.sPwd.length < 40

instance (registration : Registration) : Decidable (Acceptable registration) :=
  inferInstanceAs (Decidable (_ ∧ _))

/-- The account has been offline for long. -/
def offlineLong (state : AccountState) (nOfflineToleranceSeconds tmNow : Int) : Bool :=
  state.routeTable.onoff == .offline &&
    decide (nOfflineToleranceSeconds ≤ tmNow - state.routeTable.onoffTime)

/-- The account is online and has not been heard of for long. -/
def silentLong (state : AccountState) (nLostContactToleranceSeconds tmNow : Int) : Bool :=
  state.routeTable.onoff == .online &&
    decide (nLostContactToleranceSeconds ≤ tmNow - state.routeTable.onoffTime)

/-- The changes that a registration makes once its uid has been looked up. -/
def joinMoves (list : AccountStateList) (registration : Registration) :
    Option Nat -> List AccountMove
  | none => list.vacancy.toList.map fun index => .join index registration
  | some conflict =>
      if 0 < (list.account conflict).conflictKeyid then []
      else if (list.account conflict).extData = 0 then []
      else if registration.uConnId ≠ (list.account conflict).routeTable.connid then
        list.vacancy.toList.map fun index => .joinConflict index conflict registration
      else [.rebind conflict registration]

section Hashed

variable (cityHash64 : List UInt8 -> Nat)

def foundByUid (list : AccountStateList) (sUid : List UInt8) : Option Nat :=
  list.found list.mapUidHash2ConnState (cityHash64 sUid) fun state => state.uid == sUid

def uidMoves (list : AccountStateList) (sUid : List UInt8) : List AccountMove :=
  (list.filled list.mapUidHash2ConnState (cityHash64 sUid)
    fun state => state.uid == sUid).toList.map fun index => .cacheUid sUid index

/-- The accounts that a call releases without clearing their marks. -/
def kicked (list : AccountStateList) : AccountEvent -> List Nat
  | .kick nIndexId _ => (list.pool.get nIndexId).toList
  | .kickByUid sUid _ => (list.foundByUid cityHash64 sUid).toList
  | .kickOfflineMoreThan nOfflineToleranceSeconds nKickNumMax tmNow vOutKickedList =>
      (list.pool.usedObjects.filter fun index =>
        offlineLong (list.account index) nOfflineToleranceSeconds tmNow).take
          (max 1 (nKickNumMax - vOutKickedList.length))
  | .release index _ => if (list.account index).isReady then [index] else []
  | _ => []

/-- The changes that a call makes. -/
def moves (list : AccountStateList) (event : AccountEvent) : List AccountMove :=
  match event with
  | .register registration =>
      if Acceptable registration then
        list.uidMoves cityHash64 registration.sUid ++
          list.joinMoves registration (list.foundByUid cityHash64 registration.sUid)
      else []
  | .unregister index tmNow =>
      if (list.account index).isReady then [.unregister index tmNow] else []
  | .unregisterByConnId uConnId tmNow =>
      (list.pool.usedObjects.filter fun index =>
        (list.account index).routeTable.connid == uConnId).map fun index => .unregister index tmNow
  | .kick _ tmNow | .kickOfflineMoreThan _ _ tmNow _ | .release _ tmNow =>
      (list.kicked cityHash64 event).map fun index => .release index tmNow
  | .kickByUid sUid tmNow =>
      list.uidMoves cityHash64 sUid ++
        (list.kicked cityHash64 event).map fun index => .release index tmNow
  | .offlineByUid sUid tmNow =>
      (list.walk fun state => state.uid == sUid).toList.map fun index => .offline index tmNow
  | .checkKeepAlive nLostContactToleranceSeconds tmNow =>
      (list.pool.usedObjects.filter fun index =>
        silentLong (list.account index) nLostContactToleranceSeconds tmNow).map
          fun index => .offline index tmNow
  | .keepAliveByUid sUid tmNow =>
      list.uidMoves cityHash64 sUid ++
        (list.foundByUid cityHash64 sUid).toList.map fun index => .keepAlive index tmNow
  | .getByUid sUid => list.uidMoves cityHash64 sUid
  | .getByConnId uConnId =>
      (list.filled list.mapConnId2ConnState uConnId
        fun state => state.routeTable.connid == uConnId).toList.map
          fun index => .cacheConnId uConnId index
  | .getByInnerUuid uInnerUuid =>
      (list.filled list.mapInnerUuid2ConnState uInnerUuid
        fun state => state.routeTable.innerUuid == uInnerUuid).toList.map
          fun index => .cacheInnerUuid uInnerUuid index
  | .setExtData index extData => [.setExtData index extData]

end Hashed

theorem Formed.step {change : AccountMove} (formed : list.Formed cityHash64)
    (step : MoveStep cityHash64 list change next) : next.Formed cityHash64 := by
  rcases step with ⟨possible, rfl⟩
  exact formed.move change possible

theorem Formed.run {changes : List AccountMove} (formed : list.Formed cityHash64)
    (run : Run (MoveStep cityHash64) list changes next) : next.Formed cityHash64 :=
  run.invariant (Formed cityHash64) (fun _ _ _ formed step => formed.step step) formed

/-! ## Lookups -/

theorem walk_some {test : AccountState -> Bool} (walked : list.walk test = some index) :
    list.live index = true ∧ test (list.account index) = true := by
  have member := List.mem_of_find?_eq_some walked
  have passed : test (list.account index) = true := by
    unfold walk at walked
    simpa using List.find?_some walked
  exact ⟨(List.mem_filter.mp member).2, passed⟩

theorem Formed.walk_none (formed : list.Formed cityHash64) {test : AccountState -> Bool}
    (walked : list.walk test = none) (inUse : list.live index = true) :
    test (list.account index) = false := by
  have member := formed.pool.mem_usedObjects.mpr inUse
  simpa using List.find?_eq_none.mp walked index member

/-- A lookup returns unless what it finds is not ready. -/
theorem lookup_eq (map : Nat -> Option Nat) (key : Nat) (test : AccountState -> Bool) :
    list.lookup map key test =
      if (list.found map key test).all fun index => (list.account index).isReady then
        some (match list.filled map key test with
          | some index => Function.update map key (some index)
          | none => map, list.found map key test)
      else none := by
  unfold lookup found filled
  cases map key with
  | some index => rfl
  | none =>
      cases list.walk test with
      | some index => rfl
      | none => rfl

theorem Formed.foundByUid_some (formed : list.Formed cityHash64) {sUid : List UInt8}
    (found : list.foundByUid cityHash64 sUid = some index) :
    list.live index = true ∧ cityHash64 (list.account index).uid = cityHash64 sUid := by
  unfold foundByUid AccountStateList.found at found
  cases entry : list.mapUidHash2ConnState (cityHash64 sUid) with
  | some cached =>
      rw [entry] at found
      cases found
      exact formed.cached _ _ entry
  | none =>
      rw [entry] at found
      rcases walk_some found with ⟨inUse, uid⟩
      exact ⟨inUse, by rw [beq_iff_eq.mp uid]⟩

theorem Formed.foundByUid_none (formed : list.Formed cityHash64) {sUid : List UInt8}
    (found : list.foundByUid cityHash64 sUid = none) :
    list.mapUidHash2ConnState (cityHash64 sUid) = none ∧
      forall index, list.live index = true -> (list.account index).uid ≠ sUid := by
  unfold foundByUid AccountStateList.found at found
  cases entry : list.mapUidHash2ConnState (cityHash64 sUid) with
  | some cached =>
      rw [entry] at found
      cases found
  | none =>
      rw [entry] at found
      refine ⟨rfl, fun index inUse same => ?_⟩
      have passed := formed.walk_none found inUse
      rw [same, beq_self_eq_true] at passed
      cases passed

/-- A lookup by uid returns, and then the map holds what it found. -/
theorem Formed.getByUid_run (formed : list.Formed cityHash64) (sUid : List UInt8) :
    Exists fun looked =>
      list.getByUid cityHash64 sUid = some (looked, list.foundByUid cityHash64 sUid) ∧
      Run (MoveStep cityHash64) list (list.uidMoves cityHash64 sUid) looked ∧
      looked.pool = list.pool ∧ looked.handedOut = list.handedOut ∧
      looked.mapUidHash2ConnState (cityHash64 sUid) = list.foundByUid cityHash64 sUid := by
  have ready : ((list.found list.mapUidHash2ConnState (cityHash64 sUid)
      fun state => state.uid == sUid).all fun index => (list.account index).isReady) = true := by
    rw [Option.all_eq_true]
    intro index found
    exact (formed.registered index (formed.foundByUid_some found).1).ready
  unfold getByUid
  rw [lookup_eq, if_pos ready, Option.map_some]
  refine ⟨_, rfl, ?_⟩
  unfold uidMoves foundByUid found filled
  cases entry : list.mapUidHash2ConnState (cityHash64 sUid) with
  | some cached => exact ⟨.nil _, rfl, rfl, entry⟩
  | none =>
      cases walked : list.walk fun state => state.uid == sUid with
      | none => exact ⟨.nil _, rfl, rfl, entry⟩
      | some index =>
          rcases walk_some walked with ⟨inUse, uid⟩
          exact ⟨Run.single ⟨⟨entry, inUse, beq_iff_eq.mp uid⟩, rfl⟩, rfl, rfl,
            Function.update_self ..⟩

/-! ## Release -/

theorem offline_releaseInternal (valid : list.pool.Valid) (inUse : list.live index = true)
    (key : (list.account index).keyid = list.pool.objid index) (tmNow : Int) :
    (list.offline index tmNow).pool.releaseInternal
        ((list.offline index tmNow).account index).keyid =
      some ((list.offline index tmNow).pool.released index) := by
  have same : ((list.offline index tmNow).account index).keyid = list.pool.objid index := by
    rw [account, offline_pool, ObjectPool.setData_data]
    exact key
  rw [same, offline_pool]
  exact (valid.setData index _).releaseInternal_eq inUse

theorem Formed.releaseInternal_eq (formed : list.Formed cityHash64)
    (inUse : list.live index = true) (tmNow : Int) :
    list.releaseInternal cityHash64 index tmNow = some (list.released cityHash64 index tmNow) := by
  have registered := formed.registered index inUse
  let unready := (list.setAccount index { list.account index with isReady := false }).eraseKeys
    cityHash64 (list.account index)
  have same : unready.account index = { list.account index with isReady := false } :=
    Function.update_self ..
  have key : (unready.account index).keyid = unready.pool.objid index := by
    rw [same]
    exact registered.key
  have valid : unready.pool.Valid := formed.pool.setData index _
  have done := offline_releaseInternal valid inUse key tmNow
  change (if (list.account index).isReady then
    ((unready.offline index tmNow).pool.releaseInternal
      ((unready.offline index tmNow).account index).keyid).map fun pool =>
        { unready.offline index tmNow with pool := pool }
    else some list) = _
  rw [if_pos registered.ready, done]
  rfl

/-- An account that was given out is in use exactly when it is ready. -/
theorem Formed.live_of_ready (formed : list.Formed cityHash64) (handed : index ∈ list.handedOut)
    (ready : (list.account index).isReady = true) : list.live index = true := by
  by_contra free
  have unready := formed.retired index handed (Bool.eq_false_iff.mpr free)
  rw [unready] at ready
  cases ready

theorem Formed.unregister_eq (formed : list.Formed cityHash64) (inUse : list.live index = true)
    (tmNow : Int) :
    list.unregister cityHash64 index tmNow =
      some (list.move cityHash64 (.unregister index tmNow)) := by
  rcases formed.clearConflict_eq inUse with ⟨marks, cleared, fewer⟩
  rw [unregister, if_pos (formed.registered index inUse).ready, cleared, Option.bind_some,
    (formed.cleared fewer).releaseInternal_eq inUse tmNow]
  simp only [AccountStateList.move, cleared, Option.getD_some]

/-- The others stay in use, and keep their routes, when an account is unregistered. -/
theorem Formed.unregister_frame (formed : list.Formed cityHash64) (inUse : list.live index = true)
    (tmNow : Int) {other : Nat} (different : other ≠ index) :
    (list.move cityHash64 (.unregister index tmNow)).live other = list.live other ∧
      ((list.move cityHash64 (.unregister index tmNow)).account other).routeTable =
        (list.account other).routeTable := by
  rcases formed.clearConflict_eq inUse with ⟨marks, cleared, _⟩
  simp only [AccountStateList.move, cleared, Option.getD_some]
  rw [released_live, Function.update_of_ne different, released_account_ne tmNow different]
  exact ⟨rfl, rfl⟩

/-! ## Registration -/

/-- The list once `Alloc` has cleared the account. -/
def allocated (list : AccountStateList) (index : Nat) : AccountStateList :=
  { list with
    pool := (list.pool.allocated index).setData index
      ⟨list.pool.objid index, false, [], [], [], ⟨0, 0, 0, .init, 0⟩, 0, 0⟩
    handedOut := list.handedOut ++ [index] }

theorem alloc_of_zero {pool : ObjectPool AccountState} {objid : Nat}
    (taken : list.pool.safeAlloc = (pool, objid)) (zero : ¬ 0 < objid) :
    list.alloc = (list, none) := by
  unfold alloc
  rw [taken]
  show (if 0 < objid then _ else _) = _
  rw [if_neg zero]

theorem alloc_of_pos {pool : ObjectPool AccountState} {objid : Nat}
    (taken : list.pool.safeAlloc = (pool, objid)) (positive : 0 < objid)
    (named : pool.get objid = some index) :
    list.alloc =
      ({ list with
          pool := pool.setData index ⟨objid, false, [], [], [], ⟨0, 0, 0, .init, 0⟩, 0, 0⟩
          handedOut := list.handedOut ++ [index] }, some index) := by
  unfold alloc
  rw [taken]
  show (if 0 < objid then _ else _) = _
  rw [if_pos positive, named]
  rfl

theorem Formed.alloc_cases (formed : list.Formed cityHash64) :
    (list.vacancy = none ∧ list.alloc = (list, none)) ∨
    (Exists fun index => list.vacancy = some index ∧ list.Vacant index ∧
      list.alloc = (list.allocated index, some index)) := by
  rcases formed.pool.safeAlloc_cases with ⟨empty, full⟩ | ⟨index, inside, free, top, taken⟩
  · refine .inl ⟨by rw [vacancy, empty]; rfl, ?_⟩
    exact alloc_of_zero full (Nat.lt_irrefl 0)
  · refine .inr ⟨index, ?_, ⟨inside, free, top⟩, ?_⟩
    · rw [vacancy, top, List.getLast?_concat, Option.map_some, Nat.add_sub_cancel]
    · have named := formed.pool.allocated_get inside top
      have positive := formed.pool.objid_pos inside
      exact alloc_of_pos taken positive named

theorem bindAccount_allocated (registration : Registration) :
    (list.allocated index).bindAccount index registration =
      list.move cityHash64 (.join index registration) := by
  have data : (list.allocated index).pool.setData index
      (rebound ((list.allocated index).account index) registration) =
        (list.pool.allocated index).setData index
          (registration.newAccount (list.pool.objid index) 0) := by
    simp only [allocated, account, ObjectPool.setData, Function.update_self, Function.update_idem]
    rfl
  rw [bindAccount_eq]
  unfold setAccount
  rw [data]
  rfl

theorem bindAccount_markConflict {conflict : Nat} (different : conflict ≠ index)
    (registration : Registration) :
    ((list.allocated index).markConflict index conflict).bindAccount index registration =
      list.move cityHash64 (.joinConflict index conflict registration) := by
  have data : ((list.allocated index).markConflict index conflict).pool.setData index
      (rebound (((list.allocated index).markConflict index conflict).account index) registration) =
        ((list.setConflict conflict (list.pool.objid index)).pool.allocated index).setData index
          (registration.newAccount (list.pool.objid index) (list.account conflict).keyid) := by
    simp only [markConflict, setConflict, allocated, account, setAccount, ObjectPool.setData,
      ObjectPool.allocated, Function.update_self, Function.update_idem,
      Function.update_of_ne different, Function.update_of_ne different.symm]
    congr 1
    funext other
    by_cases here : other = index
    · rw [here, Function.update_self, Function.update_self]
      rfl
    · rw [Function.update_of_ne here, Function.update_of_ne here]
      by_cases there : other = conflict
      · rw [there, Function.update_self, Function.update_self]
      · rw [Function.update_of_ne there, Function.update_of_ne there, Function.update_of_ne here]
  rw [bindAccount_eq]
  unfold setAccount
  rw [data]
  rfl

/-- What is chosen depends on the accounts only. -/
theorem joinMoves_congr (pool : next.pool = list.pool) (registration : Registration)
    (found : Option Nat) :
    next.joinMoves registration found = list.joinMoves registration found := by
  unfold joinMoves account vacancy
  rw [pool]

/-- A registration makes one change at most, after the lookup. -/
theorem joinMoves_cases (list : AccountStateList) (registration : Registration)
    (found : Option Nat) :
    list.joinMoves registration found = [] ∨
    (Exists fun change => list.joinMoves registration found = [change] ∧
      ((found = none ∧ Exists fun index => change = .join index registration) ∨
      (Exists fun conflict => found = some conflict ∧
        ((Exists fun index => change = .joinConflict index conflict registration) ∨
          (change = .rebind conflict registration ∧
            (list.account conflict).conflictKeyid = 0 ∧ (list.account conflict).extData ≠ 0 ∧
            (list.account conflict).routeTable.connid = registration.uConnId))))) := by
  cases found with
  | none =>
      rw [joinMoves]
      cases list.vacancy with
      | none => exact .inl rfl
      | some index => exact .inr ⟨_, rfl, .inl ⟨rfl, index, rfl⟩⟩
  | some conflict =>
      rw [joinMoves]
      split
      · exact .inl rfl
      split
      · exact .inl rfl
      next unmarked ready =>
        split
        · cases list.vacancy with
          | none => exact .inl rfl
          | some index => exact .inr ⟨_, rfl, .inr ⟨conflict, rfl, .inl ⟨index, rfl⟩⟩⟩
        next same =>
          exact .inr ⟨_, rfl, .inr ⟨conflict, rfl, .inr ⟨rfl, by omega, ready,
            (not_not.mp same).symm⟩⟩⟩

/-- The lookup of a uid touches only the map of uid hashes. -/
theorem uidMoves_frame {sUid : List UInt8} {looked : AccountStateList}
    (run : Run (MoveStep cityHash64) list (list.uidMoves cityHash64 sUid) looked) :
    looked.pool = list.pool ∧ looked.mapConnId2ConnState = list.mapConnId2ConnState ∧
      looked.mapInnerUuid2ConnState = list.mapInnerUuid2ConnState := by
  refine run.invariant_mem (fun state => state.pool = list.pool ∧
    state.mapConnId2ConnState = list.mapConnId2ConnState ∧
      state.mapInnerUuid2ConnState = list.mapInnerUuid2ConnState) ?_ ⟨rfl, rfl, rfl⟩
  rintro state change next member same ⟨_, rfl⟩
  rcases List.mem_map.mp member with ⟨index, _, rfl⟩
  exact same

theorem Formed.checkConflict_none_run (formed : list.Formed cityHash64)
    {registration : Registration} (named : registration.sUid ≠ [])
    (entry : list.mapUidHash2ConnState (cityHash64 registration.sUid) = none)
    (unknown : forall index, list.live index = true ->
      (list.account index).uid ≠ registration.sUid) :
    Exists fun chosen => list.checkConflict registration none = some chosen ∧
      Run (MoveStep cityHash64) list (list.joinMoves registration none)
        (bindChosen registration chosen).1 := by
  rcases formed.alloc_cases with ⟨full, alloc⟩ | ⟨index, free, vacant, alloc⟩
  · refine ⟨(list, .errorAccountListIsFull, none), by rw [checkConflict, alloc], ?_⟩
    rw [joinMoves, full]
    exact .nil list
  · refine ⟨(list.allocated index, .ok, some index), by rw [checkConflict, alloc], ?_⟩
    rw [joinMoves, free]
    exact Run.single ⟨⟨vacant, named, entry, unknown⟩, bindAccount_allocated registration⟩

theorem Formed.checkConflict_some_run (formed : list.Formed cityHash64) {conflict : Nat}
    {registration : Registration} (named : registration.sUid ≠ [])
    (entry : list.mapUidHash2ConnState (cityHash64 registration.sUid) = some conflict) :
    Exists fun chosen => list.checkConflict registration (some conflict) = some chosen ∧
      Run (MoveStep cityHash64) list (list.joinMoves registration (some conflict))
        (bindChosen registration chosen).1 := by
  have inUse := (formed.cached _ conflict entry).1
  by_cases marked : 0 < (list.account conflict).conflictKeyid
  · refine ⟨(list, .errorConflictTooManyTimes, none), by rw [checkConflict, if_pos marked], ?_⟩
    rw [joinMoves, if_pos marked]
    exact .nil list
  have unmarked : (list.account conflict).conflictKeyid = 0 := Nat.eq_zero_of_not_pos marked
  by_cases waiting : (list.account conflict).extData = 0
  · refine ⟨(list, .errorConflictMainAccountIsNotReady, none), ?_, ?_⟩
    · rw [checkConflict, if_neg marked, if_pos waiting]
    · rw [joinMoves, if_neg marked, if_pos waiting]
      exact .nil list
  by_cases elsewhere : registration.uConnId ≠ (list.account conflict).routeTable.connid
  · rcases formed.alloc_cases with ⟨full, alloc⟩ | ⟨index, free, vacant, alloc⟩
    · refine ⟨(list, .errorAccountListIsFull, none), ?_, ?_⟩
      · rw [checkConflict, if_neg marked, if_neg waiting, if_pos elsewhere, alloc]
      · rw [joinMoves, if_neg marked, if_neg waiting, if_pos elsewhere, full]
        exact .nil list
    · have different : conflict ≠ index := vacant.ne_of_live inUse
      refine ⟨((list.allocated index).markConflict index conflict, .conflict, some index), ?_, ?_⟩
      · rw [checkConflict, if_neg marked, if_neg waiting, if_pos elsewhere, alloc]
        exact if_neg different.symm
      · rw [joinMoves, if_neg marked, if_neg waiting, if_pos elsewhere, free]
        exact Run.single ⟨⟨vacant, named, ⟨inUse, unmarked, entry⟩, waiting, elsewhere.symm⟩,
          bindAccount_markConflict different registration⟩
  · refine ⟨(list, .duplicateRegistration, some conflict), ?_, ?_⟩
    · rw [checkConflict, if_neg marked, if_neg waiting, if_neg elsewhere]
    · rw [joinMoves, if_neg marked, if_neg waiting, if_neg elsewhere]
      exact Run.single ⟨⟨named, ⟨inUse, unmarked, entry⟩, waiting, (not_not.mp elsewhere).symm⟩, rfl⟩

/-- `Register` returns: what it finds under the uid is ready, and the account that it
allocates is not the one it conflicts with. -/
theorem Formed.register_run (formed : list.Formed cityHash64) (registration : Registration) :
    Exists fun chosen => list.register cityHash64 registration = some chosen ∧
      Run (MoveStep cityHash64) list (list.moves cityHash64 (.register registration)) chosen.1 := by
  by_cases acceptable : Acceptable registration
  · have named : registration.sUid ≠ [] := List.length_pos_iff.mp acceptable.1
    rcases formed.getByUid_run registration.sUid with ⟨looked, eq, run, pool, handed, entry⟩
    have lookedFormed := formed.run run
    have joined : Exists fun chosen =>
        looked.checkConflict registration (list.foundByUid cityHash64 registration.sUid) =
          some chosen ∧
        Run (MoveStep cityHash64) looked
          (looked.joinMoves registration (list.foundByUid cityHash64 registration.sUid))
          (bindChosen registration chosen).1 := by
      cases found : list.foundByUid cityHash64 registration.sUid with
      | none =>
          have unknown := (formed.foundByUid_none found).2
          refine lookedFormed.checkConflict_none_run named (entry.trans found) ?_
          unfold live account
          rw [pool]
          exact unknown
      | some conflict => exact lookedFormed.checkConflict_some_run named (entry.trans found)
    rcases joined with ⟨chosen, choice, rest⟩
    refine ⟨bindChosen registration chosen, ?_, ?_⟩
    · rw [register, chooseAccount, if_neg (by have := acceptable.1; omega),
        if_neg (by have := acceptable.2; omega), eq, Option.bind_some, choice, Option.map_some]
    · rw [joinMoves_congr pool] at rest
      rw [moves, if_pos acceptable]
      exact run.append rest
  · have refused : Exists fun result =>
        list.register cityHash64 registration = some (list, result, none) := by
      unfold register chooseAccount
      by_cases empty : registration.sUid.length ≤ 0
      · exact ⟨_, by rw [if_pos empty]; rfl⟩
      · rw [if_neg empty, if_pos]
        · exact ⟨_, rfl⟩
        · unfold Acceptable at acceptable
          omega
    rcases refused with ⟨result, eq⟩
    refine ⟨_, eq, ?_⟩
    rw [moves, if_neg acceptable]
    exact .nil list

/-! ## Loops over the accounts -/

/-- A walk over the accounts in use visits those with the used flag. -/
theorem filter_range (test : Nat -> Bool) :
    (List.range list.pool.totalSize).filter (fun index => list.live index && test index) =
      list.pool.usedObjects.filter test := by
  rw [ObjectPool.usedObjects, List.filter_filter]
  congr 1
  funext index
  exact Bool.and_comm ..

/-- The accounts of `UnregisterByConnId` do not affect each other. -/
theorem independent_unregister (uConnId : Nat) (tmNow : Int) :
    Scan.Independent (Formed cityHash64)
      (fun list index => list.live index && (list.account index).routeTable.connid == uConnId)
      (fun list index => list.unregister cityHash64 index tmNow)
      (fun list index => list.move cityHash64 (.unregister index tmNow)) where
  acts := by
    intro list index formed passes
    exact formed.unregister_eq (Bool.and_eq_true_iff.mp passes).1 tmNow
  keeps := by
    intro list index formed passes
    exact formed.move (.unregister index tmNow) (Bool.and_eq_true_iff.mp passes).1
  frame := by
    intro list index other formed passes different
    rcases formed.unregister_frame (Bool.and_eq_true_iff.mp passes).1 tmNow different with
      ⟨live, route⟩
    rw [live, route]

theorem unregisterByConnId_eq (uConnId : Nat) (tmNow : Int) :
    list.unregisterByConnId cityHash64 uConnId tmNow =
      Scan.all (fun list index => list.live index &&
          (list.account index).routeTable.connid == uConnId)
        (fun list index => list.unregister cityHash64 index tmNow)
        list (List.range list.pool.totalSize) := by
  unfold unregisterByConnId
  generalize List.range list.pool.totalSize = items
  induction items generalizing list with
  | nil => rfl
  | cons index items inductionHypothesis =>
      rw [List.foldlM_cons, Scan.all]
      by_cases passes : list.live index = true ∧ (list.account index).routeTable.connid = uConnId
      · rw [if_pos passes, if_pos (by simpa using passes)]
        congr 1
        funext next
        exact inductionHypothesis
      · rw [if_neg passes, if_neg (by simpa using passes)]
        exact inductionHypothesis

theorem Formed.unregisterByConnId_run (formed : list.Formed cityHash64) (uConnId : Nat)
    (tmNow : Int) :
    Exists fun next => list.unregisterByConnId cityHash64 uConnId tmNow = some next ∧
      Run (MoveStep cityHash64) list
        (list.moves cityHash64 (.unregisterByConnId uConnId tmNow)) next := by
  have all := (independent_unregister uConnId tmNow).all_eq
    (List.nodup_range (n := list.pool.totalSize)) formed
  rw [filter_range fun index => (list.account index).routeTable.connid == uConnId] at all
  refine ⟨_, (unregisterByConnId_eq uConnId tmNow).trans all, ?_⟩
  refine Scan.foldl_run (fun state index => state.Formed cityHash64 ∧ state.live index = true)
    ?_ ?_ ((ObjectPool.nodup_usedObjects _).filter _) ?_
  · intro state index pending
    exact ⟨pending.2, rfl⟩
  · intro state index other pending different otherPending
    exact ⟨pending.1.move (.unregister index tmNow) pending.2,
      (pending.1.unregister_frame pending.2 tmNow different).1.trans otherPending.2⟩
  · intro index member
    exact ⟨formed, formed.pool.mem_usedObjects.mp (List.mem_filter.mp member).1⟩

/-- Releasing accounts in use one after the other. -/
theorem Formed.release_run (formed : list.Formed cityHash64) {indices : List Nat}
    (distinct : indices.Nodup) (inUse : forall index, index ∈ indices -> list.live index = true)
    (tmNow : Int) :
    Run (MoveStep cityHash64) list (indices.map fun index => .release index tmNow)
      (indices.foldl (fun list index => list.released cityHash64 index tmNow) list) := by
  refine Scan.foldl_run (fun state index => state.Formed cityHash64 ∧ state.live index = true)
    ?_ ?_ distinct fun index member => ⟨formed, inUse index member⟩
  · intro state index pending
    exact ⟨pending.2, rfl⟩
  · intro state index other pending different otherPending
    refine ⟨pending.1.released pending.2 tmNow, ?_⟩
    rw [released_live, Function.update_of_ne different]
    exact otherPending.2

theorem independent_kickOffline (nOfflineToleranceSeconds tmNow : Int) :
    Scan.Independent (Formed cityHash64)
      (fun list index => list.live index &&
        offlineLong (list.account index) nOfflineToleranceSeconds tmNow)
      (fun list index => list.releaseInternal cityHash64 index tmNow)
      (fun list index => list.released cityHash64 index tmNow) where
  acts := by
    intro list index formed passes
    exact formed.releaseInternal_eq (Bool.and_eq_true_iff.mp passes).1 tmNow
  keeps := by
    intro list index formed passes
    exact formed.released (Bool.and_eq_true_iff.mp passes).1 tmNow
  frame := by
    intro list index other formed passes different
    rw [released_live, Function.update_of_ne different, released_account_ne tmNow different]

/-- The loop stops once the output list is long enough, but releases at least one. -/
theorem kickOfflineLoop_eq (nOfflineToleranceSeconds : Int) (nKickNumMax : Nat) (tmNow : Int)
    (vOutKickedList items : List Nat) :
    (kickOfflineLoop cityHash64 nOfflineToleranceSeconds nKickNumMax tmNow list vOutKickedList
      items).map (fun done => done.1) =
      Scan.upTo
        (fun list index => list.live index &&
          offlineLong (list.account index) nOfflineToleranceSeconds tmNow)
        (fun list index => list.releaseInternal cityHash64 index tmNow)
        (max 1 (nKickNumMax - vOutKickedList.length)) list items := by
  induction items generalizing list vOutKickedList with
  | nil => rfl
  | cons index items inductionHypothesis =>
      rw [kickOfflineLoop, Scan.upTo]
      by_cases passes : list.live index = true ∧
          (list.account index).routeTable.onoff = .offline ∧
            nOfflineToleranceSeconds ≤ tmNow - (list.account index).routeTable.onoffTime
      · rw [if_pos passes, if_pos (by simpa [offlineLong] using passes)]
        cases list.releaseInternal cityHash64 index tmNow with
        | none => rfl
        | some next =>
            rw [Option.bind_some, Option.bind_some]
            by_cases enough : nKickNumMax ≤ (vOutKickedList ++ [index]).length
            · rw [if_pos enough, if_pos]
              · rfl
              · rw [List.length_append, List.length_singleton] at enough
                omega
            · rw [if_neg enough, if_neg, inductionHypothesis]
              · congr 1
                rw [List.length_append, List.length_singleton] at enough ⊢
                omega
              · rw [List.length_append, List.length_singleton] at enough
                omega
      · rw [if_neg passes, if_neg (by simpa [offlineLong] using passes), inductionHypothesis]

theorem Formed.kickOfflineMoreThan_run (formed : list.Formed cityHash64)
    (nOfflineToleranceSeconds : Int) (nKickNumMax : Nat) (tmNow : Int)
    (vOutKickedList : List Nat) :
    Exists fun next =>
      (list.kickOfflineMoreThan cityHash64 nOfflineToleranceSeconds nKickNumMax tmNow
        vOutKickedList).map (fun done => done.1) = some next ∧
      Run (MoveStep cityHash64) list (list.moves cityHash64
        (.kickOfflineMoreThan nOfflineToleranceSeconds nKickNumMax tmNow vOutKickedList)) next := by
  have upTo := (independent_kickOffline nOfflineToleranceSeconds tmNow).upTo_eq
    (List.nodup_range (n := list.pool.totalSize)) formed
    (Nat.le_max_left 1 (nKickNumMax - vOutKickedList.length))
  rw [filter_range fun index => offlineLong (list.account index) nOfflineToleranceSeconds tmNow]
    at upTo
  refine ⟨_, (kickOfflineLoop_eq nOfflineToleranceSeconds nKickNumMax tmNow vOutKickedList
    (List.range list.pool.totalSize)).trans upTo, ?_⟩
  refine formed.release_run (((ObjectPool.nodup_usedObjects _).filter _).take) ?_ tmNow
  intro index member
  exact formed.pool.mem_usedObjects.mp (List.mem_filter.mp (List.mem_of_mem_take member)).1

theorem offline_live (index : Nat) (tmNow : Int) : (list.offline index tmNow).live = list.live := by
  unfold live
  rw [offline_pool]
  rfl

theorem offline_account_ne {other : Nat} (different : other ≠ index) (tmNow : Int) :
    (list.offline index tmNow).account other = list.account other := by
  rw [account, offline_pool]
  exact Function.update_of_ne different ..

theorem independent_checkKeepAlive (nLostContactToleranceSeconds tmNow : Int) :
    Scan.Independent (Formed cityHash64)
      (fun list index => list.live index &&
        silentLong (list.account index) nLostContactToleranceSeconds tmNow)
      (fun list index => some (list.offline index tmNow))
      (fun list index => list.offline index tmNow) where
  acts := fun _ _ _ _ => rfl
  keeps := by
    intro list index formed passes
    exact formed.move (.offline index tmNow) (Bool.and_eq_true_iff.mp passes).1
  frame := by
    intro list index other formed passes different
    rw [offline_live, offline_account_ne different]

theorem Formed.checkKeepAlive_run (formed : list.Formed cityHash64)
    (nLostContactToleranceSeconds tmNow : Int) :
    Run (MoveStep cityHash64) list
      (list.moves cityHash64 (.checkKeepAlive nLostContactToleranceSeconds tmNow))
      (list.checkKeepAlive nLostContactToleranceSeconds tmNow) := by
  have all := (independent_checkKeepAlive nLostContactToleranceSeconds tmNow).all_eq
    (List.nodup_range (n := list.pool.totalSize)) formed
  rw [filter_range fun index => silentLong (list.account index) nLostContactToleranceSeconds tmNow,
    Scan.all_of_total] at all
  have loop : list.checkKeepAlive nLostContactToleranceSeconds tmNow =
      (List.range list.pool.totalSize).foldl
        (fun state index => if (state.live index &&
            silentLong (state.account index) nLostContactToleranceSeconds tmNow) = true then
          state.offline index tmNow else state) list := by
    unfold checkKeepAlive
    congr 1
    funext state index
    simp only [silentLong, Bool.and_eq_true, beq_iff_eq, decide_eq_true_eq]
  rw [loop, Option.some.inj all, moves]
  refine Scan.foldl_run (fun state index => state.live index = true) ?_ ?_
    ((ObjectPool.nodup_usedObjects _).filter _) ?_
  · intro state index inUse
    exact ⟨inUse, rfl⟩
  · intro state index other _ _ inUse
    rw [offline_live]
    exact inUse
  · intro index member
    exact formed.pool.mem_usedObjects.mp (List.mem_filter.mp member).1

/-! ## One call -/

theorem offlineByUid_run (sUid : List UInt8) (tmNow : Int) :
    Run (MoveStep cityHash64) list (list.moves cityHash64 (.offlineByUid sUid tmNow))
      (list.offlineByUid sUid tmNow) := by
  rw [offlineByUid, moves]
  cases walked : list.walk fun state => state.uid == sUid with
  | none => exact .nil list
  | some index => exact Run.single ⟨(walk_some walked).1, rfl⟩

theorem Formed.keepAliveByUid_run (formed : list.Formed cityHash64) (sUid : List UInt8)
    (tmNow : Int) :
    Exists fun next => list.keepAliveByUid cityHash64 sUid tmNow = some next ∧
      Run (MoveStep cityHash64) list
        (list.moves cityHash64 (.keepAliveByUid sUid tmNow)) next := by
  rcases formed.getByUid_run sUid with ⟨looked, eq, run, pool, _, _⟩
  rw [keepAliveByUid, moves, eq, Option.map_some]
  refine ⟨_, rfl, run.append ?_⟩
  cases found : list.foundByUid cityHash64 sUid with
  | none => exact .nil looked
  | some index =>
      have inUse := (formed.foundByUid_some found).1
      rw [live, ← pool] at inUse
      exact Run.single ⟨inUse, rfl⟩

theorem Formed.kickByUid_run (formed : list.Formed cityHash64) (sUid : List UInt8)
    (tmNow : Int) :
    Exists fun next => list.kickByUid cityHash64 sUid tmNow = some next ∧
      Run (MoveStep cityHash64) list (list.moves cityHash64 (.kickByUid sUid tmNow)) next := by
  rcases formed.getByUid_run sUid with ⟨looked, eq, run, pool, _, _⟩
  rw [kickByUid, moves, kicked, eq, Option.bind_some]
  cases found : list.foundByUid cityHash64 sUid with
  | none => exact ⟨looked, rfl, run.append (.nil looked)⟩
  | some index =>
      have inUse := (formed.foundByUid_some found).1
      rw [live, ← pool] at inUse
      exact ⟨_, (formed.run run).releaseInternal_eq inUse tmNow,
        run.append (Run.single ⟨inUse, rfl⟩)⟩

/-- A lookup that returns fills the map or leaves the list alone. -/
theorem lookup_fills {map : Nat -> Option Nat} {key : Nat} {test : AccountState -> Bool}
    {looked : (Nat -> Option Nat) × Option Nat}
    (returned : list.lookup map key test = some looked) :
    looked.2 = list.found map key test ∧
    ((list.filled map key test = none ∧ looked.1 = map) ∨
      (Exists fun index => list.filled map key test = some index ∧ map key = none ∧
        list.walk test = some index ∧ looked.1 = Function.update map key (some index))) := by
  rw [lookup_eq] at returned
  split at returned
  · cases returned
    refine ⟨rfl, ?_⟩
    cases fills : list.filled map key test with
    | none => exact .inl ⟨rfl, rfl⟩
    | some index =>
        unfold filled at fills
        cases entry : map key with
        | some cached =>
            rw [entry] at fills
            cases fills
        | none =>
            rw [entry] at fills
            exact .inr ⟨index, rfl, rfl, fills, rfl⟩
  · cases returned

theorem getByConnId_run {uConnId : Nat} {looked : AccountStateList × Option Nat}
    (returned : list.getByConnId uConnId = some looked) :
    Run (MoveStep cityHash64) list (list.moves cityHash64 (.getByConnId uConnId)) looked.1 := by
  rcases Option.map_eq_some_iff.mp returned with ⟨result, lookup, rfl⟩
  rw [moves]
  rcases (lookup_fills lookup).2 with ⟨fills, map⟩ | ⟨index, fills, entry, walked, map⟩
  · rw [fills, map]
    exact .nil list
  · rw [fills, map]
    rcases walk_some walked with ⟨inUse, key⟩
    exact Run.single ⟨⟨entry, inUse, beq_iff_eq.mp key⟩, rfl⟩

theorem getByInnerUuid_run {uInnerUuid : Nat} {looked : AccountStateList × Option Nat}
    (returned : list.getByInnerUuid uInnerUuid = some looked) :
    Run (MoveStep cityHash64) list (list.moves cityHash64 (.getByInnerUuid uInnerUuid))
      looked.1 := by
  rcases Option.map_eq_some_iff.mp returned with ⟨result, lookup, rfl⟩
  rw [moves]
  rcases (lookup_fills lookup).2 with ⟨fills, map⟩ | ⟨index, fills, entry, walked, map⟩
  · rw [fills, map]
    exact .nil list
  · rw [fills, map]
    rcases walk_some walked with ⟨inUse, key⟩
    exact Run.single ⟨⟨entry, inUse, beq_iff_eq.mp key⟩, rfl⟩

/-- Of what is called with accounts, an account in use is released or unregistered once,
and nothing happens to one that is not. -/
theorem Formed.perform_account_run (formed : list.Formed cityHash64) {index : Nat}
    (handed : index ∈ list.handedOut) (tmNow : Int) :
    (Exists fun next => list.unregister cityHash64 index tmNow = some next ∧
      Run (MoveStep cityHash64) list (list.moves cityHash64 (.unregister index tmNow)) next) ∧
    (Exists fun next => list.releaseInternal cityHash64 index tmNow = some next ∧
      Run (MoveStep cityHash64) list (list.moves cityHash64 (.release index tmNow)) next) := by
  rw [moves, moves, kicked]
  by_cases ready : (list.account index).isReady = true
  · have inUse := formed.live_of_ready handed ready
    rw [if_pos ready, if_pos ready]
    exact ⟨⟨_, formed.unregister_eq inUse tmNow, Run.single ⟨inUse, rfl⟩⟩,
      ⟨_, formed.releaseInternal_eq inUse tmNow, Run.single ⟨inUse, rfl⟩⟩⟩
  · rw [if_neg ready, if_neg ready]
    exact ⟨⟨list, if_neg ready, .nil list⟩, ⟨list, if_neg ready, .nil list⟩⟩

/-- A call that returns makes the changes of `moves`. -/
theorem Formed.perform_run (formed : list.Formed cityHash64) {event : AccountEvent}
    (performed : list.perform cityHash64 event = some next) :
    Run (MoveStep cityHash64) list (list.moves cityHash64 event) next := by
  cases event with
  | register registration =>
      rcases formed.register_run registration with ⟨chosen, eq, run⟩
      rw [perform, eq] at performed
      cases performed
      exact run
  | unregister index tmNow =>
      rcases Option.ite_none_right_eq_some.mp performed with ⟨handed, performed⟩
      exact .of_returned (formed.perform_account_run handed tmNow).1 performed
  | unregisterByConnId uConnId tmNow =>
      exact .of_returned (formed.unregisterByConnId_run uConnId tmNow) performed
  | kick nIndexId tmNow =>
      rcases Option.ite_none_right_eq_some.mp performed with ⟨allocated, performed⟩
      unfold kick at performed
      rw [moves, kicked]
      cases named : list.pool.get nIndexId with
      | none =>
          rw [named] at allocated
          cases allocated
      | some index =>
          rw [named] at allocated
          rw [named, Option.bind_some, formed.releaseInternal_eq allocated tmNow] at performed
          cases performed
          exact Run.single ⟨allocated, rfl⟩
  | kickByUid sUid tmNow =>
      exact .of_returned (formed.kickByUid_run sUid tmNow) performed
  | kickOfflineMoreThan nOfflineToleranceSeconds nKickNumMax tmNow vOutKickedList =>
      rcases formed.kickOfflineMoreThan_run nOfflineToleranceSeconds nKickNumMax tmNow
        vOutKickedList with ⟨result, eq, run⟩
      rw [perform, eq] at performed
      cases performed
      exact run
  | release index tmNow =>
      rcases Option.ite_none_right_eq_some.mp performed with ⟨handed, performed⟩
      exact .of_returned (formed.perform_account_run handed tmNow).2 performed
  | offlineByUid sUid tmNow =>
      cases performed
      exact offlineByUid_run sUid tmNow
  | checkKeepAlive nLostContactToleranceSeconds tmNow =>
      cases performed
      exact formed.checkKeepAlive_run nLostContactToleranceSeconds tmNow
  | keepAliveByUid sUid tmNow =>
      exact .of_returned (formed.keepAliveByUid_run sUid tmNow) performed
  | getByUid sUid =>
      rcases formed.getByUid_run sUid with ⟨looked, eq, run, _⟩
      rw [perform, eq] at performed
      cases performed
      exact run
  | getByConnId uConnId =>
      rcases Option.map_eq_some_iff.mp performed with ⟨looked, returned, rfl⟩
      exact getByConnId_run returned
  | getByInnerUuid uInnerUuid =>
      rcases Option.map_eq_some_iff.mp performed with ⟨looked, returned, rfl⟩
      exact getByInnerUuid_run returned
  | setExtData index extData =>
      rcases Option.ite_none_right_eq_some.mp performed with ⟨inUse, performed⟩
      cases performed
      exact Run.single ⟨inUse, rfl⟩

theorem Formed.perform (formed : list.Formed cityHash64) {event : AccountEvent}
    (performed : list.perform cityHash64 event = some next) : next.Formed cityHash64 :=
  formed.run (formed.perform_run performed)

theorem initial_formed (nReserve : Fin (2 ^ 31)) (uninitialised : Nat -> AccountState) :
    (initial nReserve uninitialised).Formed cityHash64 where
  pool := by
    refine ObjectPool.safeInit_valid ?_ uninitialised
    have below := nReserve.isLt
    omega
  registered := nofun
  retired := nofun
  marked := nofun
  cached := nofun

theorem run_formed {nReserve : Fin (2 ^ 31)} {uninitialised : Nat -> AccountState}
    {events : List AccountEvent} {last : AccountStateList}
    (run : Run (Step cityHash64) (initial nReserve uninitialised) events last) :
    last.Formed cityHash64 :=
  run.invariant (Formed cityHash64) (fun _ _ _ formed performed => formed.perform performed)
    (initial_formed nReserve uninitialised)

/-! ## A short list, for runs that are computed -/

/-- A hash that tells short uids apart. -/
def byteHash (sUid : List UInt8) : Nat := sUid.foldl (fun hash byte => hash * 256 + byte.toNat) 1

/-- Two accounts in cleared memory. -/
def pair : AccountStateList :=
  initial 2 fun _ => ⟨0, false, [], [], [], ⟨0, 0, 0, .init, 0⟩, 0, 0⟩

/-- A player logs in on a connection. -/
def login (sUid : List UInt8) (uConnId uInnerUuid : Nat) : AccountEvent :=
  .register ⟨sUid, [], [], uConnId, uInnerUuid, 0, 0⟩

end AccountStateList
end NetSystem
