import NetSystem.Lobby.ConflictLinks
import NetSystem.Lobby.OnlineCount

namespace NetSystem

/-!
# Unregistering the accounts of a connection

As long as accounts leave by `Unregister` only, a mark always names an account
in use that is marked in return, whatever the uids are.  Unregistering several
accounts then releases just these, and of the others only those that were
marked with one of them change: they lose the mark.
-/

namespace AccountStateList

variable {cityHash64 : List UInt8 -> Nat} {list next : AccountStateList} {index : Nat}

/-- Whoever is marked is marked with an account in use that is marked in return. -/
def Mutual (list : AccountStateList) : Prop :=
  forall index other, list.live index = true -> list.opponent index = some other ->
    list.live other = true ∧ other ≠ index ∧ list.opponent other = some index

/-! ## One change -/

section Changes

variable (matched : list.Mutual)
include matched

/-- Marks and the accounts in use are as they were. -/
theorem Mutual.congr (base : next.pool.baseId = list.pool.baseId)
    (size : next.pool.totalSize = list.pool.totalSize) (live : next.live = list.live)
    (marks : forall index, (next.account index).conflictKeyid = (list.account index).conflictKeyid) :
    next.Mutual := by
  intro index other inUse opponent
  have same : forall index, next.opponent index = list.opponent index :=
    fun index => opponent_congr base size (marks index)
  rw [live] at inUse ⊢
  rw [same] at opponent ⊢
  exact matched index other inUse opponent

/-- An account changes, but not its mark. -/
theorem Mutual.setAccount (state : AccountState)
    (mark : state.conflictKeyid = (list.account index).conflictKeyid) :
    (list.setAccount index state).Mutual := by
  refine matched.congr rfl rfl rfl ?_
  intro other
  by_cases same : other = index
  · rw [same, account_setAccount, mark]
  · rw [account_setAccount_ne state same]

/-- A new account without a mark. -/
theorem Mutual.join (vacant : list.Vacant index) {state : AccountState}
    (unmarked : state.conflictKeyid = 0) : (list.admitted index state).Mutual := by
  have alone : (list.admitted index state).opponent index = none :=
    opponent_none (by rw [admitted_account, unmarked])
  have others : forall other, other ≠ index ->
      (list.admitted index state).opponent other = list.opponent other := by
    intro other different
    exact opponent_congr rfl rfl (by rw [admitted_account_ne state different])
  intro left right inUse opponent
  rcases live_of_admitted inUse with same | ⟨different, before⟩
  · rw [same, alone] at opponent
    cases opponent
  · rw [others left different] at opponent
    rcases matched left right before opponent with ⟨rightInUse, apart, back⟩
    have old : right ≠ index := vacant.ne_of_live rightInUse
    rw [admitted_live, Function.update_of_ne old, others right old]
    exact ⟨rightInUse, apart, back⟩

/-- A new account, marked with one that had no mark and is marked in return. -/
theorem Mutual.joinConflict (formed : list.Formed cityHash64) (vacant : list.Vacant index)
    {conflict : Nat} (inUse : list.live conflict = true)
    (unmarked : (list.account conflict).conflictKeyid = 0) {state : AccountState}
    (mark : state.conflictKeyid = list.pool.objid conflict) :
    ((list.setConflict conflict (list.pool.objid index)).admitted index state).Mutual := by
  have different : conflict ≠ index := vacant.ne_of_live inUse
  let linked := (list.setConflict conflict (list.pool.objid index)).admitted index state
  have valid : linked.pool.Valid :=
    (formed.pool.setData conflict _ |>.allocated vacant.1 vacant.2.2).setData index state
  have first : linked.opponent index = some conflict := by
    apply opponent_of_mark valid (formed.inside inUse)
    rw [admitted_account, mark]
    rfl
  have second : linked.opponent conflict = some index := by
    apply opponent_of_mark valid vacant.1
    rw [admitted_account_ne state different, setConflict, account_setAccount]
    rfl
  have others : forall other, other ≠ index -> other ≠ conflict ->
      linked.opponent other = list.opponent other := by
    intro other old elsewhere
    refine opponent_congr rfl rfl ?_
    rw [admitted_account_ne state old, setConflict, account_setAccount_ne _ elsewhere]
  have conflictLive : linked.live conflict = true := by
    rw [admitted_live, Function.update_of_ne different]
    exact inUse
  have indexLive : linked.live index = true := by
    rw [admitted_live, Function.update_self]
  intro left right leftInUse opponent
  by_cases isNew : left = index
  · rw [isNew, first] at opponent
    cases opponent
    rw [isNew]
    exact ⟨conflictLive, different, second⟩
  by_cases isOld : left = conflict
  · rw [isOld, second] at opponent
    cases opponent
    rw [isOld]
    exact ⟨indexLive, different.symm, first⟩
  rw [others left isNew isOld] at opponent
  have before : list.live left = true := by
    rw [admitted_live, Function.update_of_ne isNew] at leftInUse
    exact leftInUse
  rcases matched left right before opponent with ⟨rightInUse, apart, back⟩
  have notNew : right ≠ index := vacant.ne_of_live rightInUse
  have notOld : right ≠ conflict := by
    intro same
    rw [same, opponent_none unmarked] at back
    cases back
  refine ⟨?_, apart, ?_⟩
  · rw [admitted_live, Function.update_of_ne notNew]
    exact rightInUse
  · rw [others right notNew notOld]
    exact back

end Changes

/-! ## Unregistering accounts -/

/-- Exactly these accounts are released, in this order, and of the others those
lose their mark that were marked with one of them. -/
structure UnregistersAll (list : AccountStateList) (indices : List Nat) (next : AccountStateList) :
    Prop where
  base : next.pool.baseId = list.pool.baseId
  size : next.pool.totalSize = list.pool.totalSize
  unused : next.pool.unusedIds = list.pool.unusedIds ++ indices.map fun index => index + 1
  live : forall other, next.live other = true ↔ list.live other = true ∧ other ∉ indices
  told : forall other partner, list.live other = true -> other ∉ indices ->
    list.opponent other = some partner -> partner ∈ indices ->
      next.account other = { list.account other with conflictKeyid := 0 }
  spared : forall other, list.live other = true -> other ∉ indices ->
    (forall partner, list.opponent other = some partner -> partner ∉ indices) ->
      next.account other = list.account other

theorem unregistersAll_nil (list : AccountStateList) : list.UnregistersAll [] list where
  base := rfl
  size := rfl
  unused := by simp
  live := by simp
  told := by
    intro other partner _ _ _ member
    cases member
  spared := by
    intro other _ _ _
    rfl

/-- One account, and then others. -/
theorem UnregistersAll.cons {middle : AccountStateList} {indices : List Nat}
    (fresh : index ∉ indices) (first : list.UnregistersAll [index] middle)
    (rest : middle.UnregistersAll indices next) : list.UnregistersAll (index :: indices) next := by
  have still : forall other, list.live other = true -> other ∉ index :: indices ->
      middle.live other = true ∧ other ∉ [index] ∧ other ∉ indices := by
    intro other inUse absent
    rw [List.mem_cons, not_or] at absent
    have alone : other ∉ [index] := by simpa using absent.1
    exact ⟨(first.live other).mpr ⟨inUse, alone⟩, alone, absent.2⟩
  constructor
  · rw [rest.base, first.base]
  · rw [rest.size, first.size]
  · rw [rest.unused, first.unused, List.append_assoc]
    rfl
  · intro other
    rw [rest.live, first.live, List.mem_singleton, and_assoc, List.mem_cons, not_or]
  · intro other partner inUse absent opponent member
    rcases still other inUse absent with ⟨middleInUse, alone, later⟩
    rcases List.mem_cons.mp member with same | inside
    · have told := first.told other partner inUse alone opponent (by simp [same])
      have unmarked : middle.opponent other = none := opponent_none (by rw [told])
      have apart : forall partner, middle.opponent other = some partner -> partner ∉ indices := by
        intro partner found
        rw [unmarked] at found
        cases found
      rw [rest.spared other middleInUse later apart, told]
    · have other_partner : partner ≠ index := by
        intro same
        exact fresh (same ▸ inside)
      have kept := first.spared other inUse alone (by
        intro partner' found
        rw [opponent] at found
        cases found
        simpa using other_partner)
      have same : middle.opponent other = list.opponent other :=
        opponent_congr first.base first.size (by rw [kept])
      rw [rest.told other partner middleInUse later (same.trans opponent) inside, kept]
  · intro other inUse absent unopposed
    rcases still other inUse absent with ⟨middleInUse, alone, later⟩
    have kept := first.spared other inUse alone (by
      intro partner found
      have outside := unopposed partner found
      rw [List.mem_cons, not_or] at outside
      simpa using outside.1)
    have same : middle.opponent other = list.opponent other :=
      opponent_congr first.base first.size (by rw [kept])
    rw [rest.spared other middleInUse later, kept]
    intro partner found
    rw [same] at found
    have outside := unopposed partner found
    rw [List.mem_cons, not_or] at outside
    exact outside.2

theorem released_unusedIds (cityHash64 : List UInt8 -> Nat) (list : AccountStateList) (index : Nat)
    (tmNow : Int) :
    (list.released cityHash64 index tmNow).pool.unusedIds = list.pool.unusedIds ++ [index + 1] := by
  rw [released_eq]
  rfl

theorem Mutual.unregistersAll_single (matched : list.Mutual) (formed : list.Formed cityHash64)
    (inUse : list.live index = true) (tmNow : Int) :
    list.UnregistersAll [index] (list.move cityHash64 (.unregister index tmNow)) := by
  rcases formed.clearConflict_opponent inUse with ⟨marks, cleared, _, marksEq⟩
  rw [AccountStateList.move, cleared, Option.getD_some]
  rcases released_sizes cityHash64 (list.remarked marks) index tmNow with ⟨base, size⟩
  have accounts : forall other, other ≠ index ->
      ((list.remarked marks).released cityHash64 index tmNow).account other =
        { list.account other with conflictKeyid := marks other } := by
    intro other different
    rw [released_account_ne tmNow different]
    rfl
  constructor
  · exact base
  · exact size
  · rw [released_unusedIds]
    rfl
  · intro other
    rw [released_members, List.mem_singleton]
    exact and_comm
  · intro other partner otherInUse absent opponent member
    have different : other ≠ index := by simpa using absent
    rw [List.mem_singleton.mp member] at opponent
    have back := (matched other index otherInUse opponent).2.2
    rw [accounts other different, marksEq other different, if_pos back]
  · intro other otherInUse absent unopposed
    have different : other ≠ index := by simpa using absent
    have apart : Not (list.opponent index = some other) := by
      intro back
      have opponent := (matched index other inUse back).2.2
      exact unopposed index opponent (List.mem_singleton_self index)
    rw [accounts other different, marksEq other different, if_neg apart]
    rfl

theorem Mutual.unregister (matched : list.Mutual) (formed : list.Formed cityHash64)
    (inUse : list.live index = true) (tmNow : Int) :
    (list.move cityHash64 (.unregister index tmNow)).Mutual := by
  have effect := matched.unregistersAll_single formed inUse tmNow
  -- who still has an opponent has the one it had, which is not the account released
  have opponents : forall other partner,
      (list.move cityHash64 (.unregister index tmNow)).live other = true ->
        (list.move cityHash64 (.unregister index tmNow)).opponent other = some partner ->
          list.live other = true ∧ list.opponent other = some partner ∧ partner ≠ index := by
    intro other partner still opponent
    rcases (effect.live other).mp still with ⟨before, absent⟩
    by_cases opposed : list.opponent other = some index
    · have told := effect.told other index before absent opposed (List.mem_singleton_self index)
      rw [opponent_none (by rw [told])] at opponent
      cases opponent
    · have kept := effect.spared other before absent (by
        intro found opponent inside
        rw [List.mem_singleton.mp inside] at opponent
        exact opposed opponent)
      rw [opponent_congr effect.base effect.size (by rw [kept])] at opponent
      refine ⟨before, opponent, ?_⟩
      intro same
      rw [same] at opponent
      exact opposed opponent
  intro left right still opponent
  rcases opponents left right still opponent with ⟨before, old, elsewhere⟩
  rcases matched left right before old with ⟨rightInUse, apart, back⟩
  have rightStill : right ∉ [index] := by simpa using elsewhere
  have leftStill := ((effect.live left).mp still).2
  have kept := effect.spared right rightInUse rightStill (by
    intro partner found
    rw [back] at found
    cases found
    exact leftStill)
  refine ⟨(effect.live right).mpr ⟨rightInUse, rightStill⟩, apart, ?_⟩
  rw [opponent_congr effect.base effect.size (by rw [kept])]
  exact back

/-- Every change but a release keeps the marks mutual. -/
theorem Mutual.move (matched : list.Mutual) (formed : list.Formed cityHash64)
    (change : AccountMove) (possible : list.Possible cityHash64 change)
    (keeps : forall index tmNow, change ≠ .release index tmNow) :
    (list.move cityHash64 change).Mutual := by
  cases change with
  | cacheUid sUid index => exact matched
  | cacheConnId uConnId index => exact matched
  | cacheInnerUuid uInnerUuid index => exact matched
  | join index registration => exact matched.join possible.1 rfl
  | joinConflict index conflict registration =>
      rcases possible with ⟨vacant, _, ⟨inUse, unmarked, _⟩, _⟩
      exact matched.joinConflict formed vacant inUse unmarked (formed.registered conflict inUse).key
  | rebind index registration =>
      have kept := matched.setAccount (rebound (list.account index) registration) rfl
      rw [AccountStateList.move, bindAccount_eq]
      exact kept.congr rfl rfl rfl fun other => rfl
  | release index tmNow => exact absurd rfl (keeps index tmNow)
  | unregister index tmNow => exact matched.unregister formed possible tmNow
  | offline index tmNow =>
      have pool : (list.offline index tmNow).pool = _ := offline_pool tmNow
      change (list.offline index tmNow).Mutual
      apply matched.congr
      · rw [pool]
        rfl
      · rw [pool]
        rfl
      · exact offline_live index tmNow
      · intro other
        by_cases same : other = index
        · rw [same, account, pool, ObjectPool.setData_data]
        · rw [offline_account_ne same]
  | keepAlive index tmNow =>
      rw [AccountStateList.move, AccountStateList.keepAlive]
      split
      · exact matched.setAccount _ rfl
      · exact matched
  | setExtData index extData => exact matched.setAccount _ rfl

/-! ## Runs without releases -/

/-- The calls that release accounts by `Unregister` only. -/
def OnlyUnregisters : AccountEvent -> Prop
  | .register _ => True
  | .unregister _ _ => True
  | .unregisterByConnId _ _ => True
  | .setExtData _ _ => True
  | _ => False

theorem moves_no_release {event : AccountEvent} (plain : OnlyUnregisters event)
    {change : AccountMove} (member : change ∈ list.moves cityHash64 event) (index : Nat)
    (tmNow : Int) : change ≠ .release index tmNow := by
  rintro rfl
  cases event with
  | register registration =>
      rw [moves] at member
      split at member
      · rcases List.mem_append.mp member with look | join
        · rcases List.mem_map.mp look with ⟨_, _, other⟩
          cases other
        · rcases list.joinMoves_cases registration (list.foundByUid cityHash64 registration.sUid)
            with none | ⟨only, one, kinds⟩
          · rw [none] at join
            cases join
          · rw [one, List.mem_singleton] at join
            rcases kinds with ⟨_, _, other⟩ | ⟨_, _, ⟨_, other⟩ | ⟨other, _⟩⟩
            · rw [other] at join
              cases join
            · rw [other] at join
              cases join
            · rw [other] at join
              cases join
      · cases member
  | unregister account now =>
      rw [moves] at member
      split at member
      · cases List.mem_singleton.mp member
      · cases member
  | unregisterByConnId uConnId now =>
      rcases List.mem_map.mp member with ⟨_, _, other⟩
      cases other
  | setExtData account extData => cases List.mem_singleton.mp member
  | kick nIndexId now => exact plain
  | kickByUid sUid now => exact plain
  | kickOfflineMoreThan nOfflineToleranceSeconds nKickNumMax now vOutKickedList => exact plain
  | release account now => exact plain
  | offlineByUid sUid now => exact plain
  | checkKeepAlive nLostContactToleranceSeconds now => exact plain
  | keepAliveByUid sUid now => exact plain
  | getByUid sUid => exact plain
  | getByConnId uConnId => exact plain
  | getByInnerUuid uInnerUuid => exact plain

theorem Mutual.perform (matched : list.Mutual) (formed : list.Formed cityHash64)
    {event : AccountEvent} (plain : OnlyUnregisters event)
    (performed : list.perform cityHash64 event = some next) : next.Mutual := by
  have run := formed.perform_run performed
  refine (run.invariant_mem (fun list => list.Formed cityHash64 ∧ list.Mutual) ?_
    ⟨formed, matched⟩).2
  rintro state change after member ⟨formed, matched⟩ ⟨possible, rfl⟩
  exact ⟨formed.move change possible,
    matched.move formed change possible (moves_no_release plain member)⟩

/-- Unregistering accounts in use, one after the other. -/
theorem Mutual.unregister_run (matched : list.Mutual) (formed : list.Formed cityHash64)
    {indices : List Nat} (distinct : indices.Nodup) {tmNow : Int}
    (run : Run (MoveStep cityHash64) list (indices.map fun index => .unregister index tmNow) next) :
    list.UnregistersAll indices next := by
  induction indices generalizing list with
  | nil =>
      cases run
      exact unregistersAll_nil next
  | cons index indices inductionHypothesis =>
      rcases List.nodup_cons.mp distinct with ⟨fresh, later⟩
      cases run with
      | cons once rest =>
          rcases once with ⟨inUse, rfl⟩
          have first := matched.unregistersAll_single formed inUse tmNow
          have kept := matched.unregister formed inUse tmNow
          exact first.cons fresh
            (inductionHypothesis kept (formed.move (.unregister index tmNow) inUse) later rest)

/-- The accounts in use that belong to a connection, in the order of the pool. -/
def onConnection (list : AccountStateList) (uConnId : Nat) : List Nat :=
  list.pool.usedObjects.filter fun index => (list.account index).routeTable.connid == uConnId

/-- Exactly the accounts of the connection are released; another account in use
loses its mark if its opponent was one of them and is unchanged if not; and the
stack of free ids and the counts are exact. -/
structure LosesConnection (list : AccountStateList) (uConnId : Nat) (next : AccountStateList) :
    Prop where
  live : forall index, next.live index = true ↔
    list.live index = true ∧ (list.account index).routeTable.connid ≠ uConnId
  told : forall index partner, list.live index = true ->
    (list.account index).routeTable.connid ≠ uConnId -> list.opponent index = some partner ->
      (list.account partner).routeTable.connid = uConnId ->
        next.account index = { list.account index with conflictKeyid := 0 }
  spared : forall index, list.live index = true ->
    (list.account index).routeTable.connid ≠ uConnId ->
      (forall partner, list.opponent index = some partner ->
        (list.account partner).routeTable.connid ≠ uConnId) ->
          next.account index = list.account index
  pool : next.pool.Valid
  unused : next.pool.unusedIds =
    list.pool.unusedIds ++ (list.onConnection uConnId).map fun index => index + 1
  count : next.getCount + (list.onConnection uConnId).length = list.getCount
  onlineCount : next.getOnlineCount =
    (next.pool.usedObjects.filter fun index =>
      (next.account index).routeTable.onoff == .online).length

theorem Formed.mem_onConnection_iff (formed : list.Formed cityHash64) (uConnId index : Nat) :
    index ∈ list.onConnection uConnId ↔
      list.live index = true ∧ (list.account index).routeTable.connid = uConnId := by
  unfold onConnection
  rw [List.mem_filter, formed.pool.mem_usedObjects, beq_iff_eq]
  rfl

theorem UnregistersAll.usedObjects_eq (formed : list.Formed cityHash64) {uConnId : Nat}
    (effect : list.UnregistersAll (list.onConnection uConnId) next) :
    next.pool.usedObjects = list.pool.usedObjects.filter fun index =>
      !((list.account index).routeTable.connid == uConnId) := by
  unfold ObjectPool.usedObjects
  rw [effect.size, List.filter_filter]
  apply List.filter_congr
  intro index _
  apply Bool.eq_iff_iff.mpr
  rw [Bool.and_eq_true]
  have live := effect.live index
  rw [formed.mem_onConnection_iff] at live
  change next.live index = true ↔ _ ∧ list.live index = true
  rw [live]
  simp only [Bool.not_eq_true', beq_eq_false_iff_ne, ne_eq, not_and]
  constructor
  · rintro ⟨inUse, apart⟩
    exact ⟨apart inUse, inUse⟩
  · rintro ⟨apart, inUse⟩
    exact ⟨inUse, fun _ => apart⟩

theorem UnregistersAll.losesConnection (matched : list.Mutual) (formed : list.Formed cityHash64)
    (nextFormed : next.Formed cityHash64) (counted : next.Counted) {uConnId : Nat}
    (effect : list.UnregistersAll (list.onConnection uConnId) next) :
    list.LosesConnection uConnId next where
  live := by
    intro index
    rw [effect.live, formed.mem_onConnection_iff, not_and]
    constructor
    · rintro ⟨inUse, apart⟩
      exact ⟨inUse, apart inUse⟩
    · rintro ⟨inUse, apart⟩
      exact ⟨inUse, fun _ => apart⟩
  told := by
    intro index partner inUse apart opponent same
    have partnerInUse := (matched index partner inUse opponent).1
    exact effect.told index partner inUse
      (fun member => apart ((formed.mem_onConnection_iff uConnId index).mp member).2) opponent
      ((formed.mem_onConnection_iff uConnId partner).mpr ⟨partnerInUse, same⟩)
  spared := by
    intro index inUse apart unopposed
    apply effect.spared index inUse
    · intro member
      exact apart ((formed.mem_onConnection_iff uConnId index).mp member).2
    · intro partner opponent member
      exact unopposed partner opponent ((formed.mem_onConnection_iff uConnId partner).mp member).2
  pool := nextFormed.pool
  unused := effect.unused
  count := by
    have split := list.pool.usedObjects.length_eq_length_filter_add
      fun index => (list.account index).routeTable.connid == uConnId
    rw [getCount, nextFormed.pool.getObjectNum_eq, effect.usedObjects_eq formed, getCount,
      formed.pool.getObjectNum_eq, split, Nat.add_comm]
    rfl
  onlineCount := by
    rw [getOnlineCount, counted.count, calcOnlineCount, calcCount, List.countP_eq_length_filter]

/-! ## Unregistering a connection -/

theorem initial_mutual (nReserve : Fin (2 ^ 31)) (uninitialised : Nat -> AccountState) :
    (initial nReserve uninitialised).Mutual := by
  intro index other inUse
  cases inUse

/-- What holds of the list as long as accounts leave by `Unregister` only. -/
structure Orderly (cityHash64 : List UInt8 -> Nat) (list : AccountStateList) : Prop where
  formed : list.Formed cityHash64
  counted : list.Counted
  matched : list.Mutual

theorem Orderly.perform (orderly : list.Orderly cityHash64) {event : AccountEvent}
    (plain : OnlyUnregisters event) (performed : list.perform cityHash64 event = some next) :
    next.Orderly cityHash64 where
  formed := orderly.formed.perform performed
  counted := orderly.counted.run orderly.formed (orderly.formed.perform_run performed)
  matched := orderly.matched.perform orderly.formed plain performed

theorem run_orderly {nReserve : Fin (2 ^ 31)} {uninitialised : Nat -> AccountState}
    {events : List AccountEvent} (plain : forall event, event ∈ events -> OnlyUnregisters event)
    (run : Run (Step cityHash64) (initial nReserve uninitialised) events list) :
    list.Orderly cityHash64 := by
  apply run.invariant_mem (Orderly cityHash64)
  · intro state event after member orderly performed
    exact orderly.perform (plain event member) performed
  · exact ⟨initial_formed nReserve uninitialised, initial_counted nReserve uninitialised,
      initial_mutual nReserve uninitialised⟩

/-- In every list reached by registering and unregistering, a connection loses
exactly its accounts. -/
theorem unregisterByConnId_losesConnection (cityHash64 : List UInt8 -> Nat)
    (nReserve : Fin (2 ^ 31)) (uninitialised : Nat -> AccountState) (events : List AccountEvent)
    (list : AccountStateList) (plain : forall event, event ∈ events -> OnlyUnregisters event)
    (run : Run (Step cityHash64) (initial nReserve uninitialised) events list) (uConnId : Nat)
    (tmNow : Int) :
    Exists fun next => list.unregisterByConnId cityHash64 uConnId tmNow = some next ∧
      list.LosesConnection uConnId next := by
  have orderly := run_orderly plain run
  rcases orderly.formed.unregisterByConnId_run uConnId tmNow with ⟨next, returned, moved⟩
  have performed : list.perform cityHash64 (.unregisterByConnId uConnId tmNow) = some next :=
    returned
  have allowed : OnlyUnregisters (.unregisterByConnId uConnId tmNow) := trivial
  have after := orderly.perform allowed performed
  have distinct : (list.onConnection uConnId).Nodup := (ObjectPool.nodup_usedObjects _).filter _
  have effect := orderly.matched.unregister_run orderly.formed distinct moved
  exact ⟨next, returned,
    effect.losesConnection orderly.matched orderly.formed after.formed after.counted⟩

/-- Two accounts of one uid on two connections, one of which is lost. -/
theorem unregisterByConnId_losesConnection_pair :
    Exists fun list => Run (Step byteHash) pair
      [login [65] 1 1, .setExtData 1 7, login [65] 2 2] list ∧
        Exists fun next => list.unregisterByConnId byteHash 1 5 = some next ∧
          list.LosesConnection 1 next := by
  have done : ([login [65] 1 1, .setExtData 1 7, login [65] 2 2].foldlM (perform byteHash)
      pair).isSome = true := by decide
  have run := Run.of_foldlM _ (Option.some_get done).symm
  have plain : forall event, event ∈ [login [65] 1 1, .setExtData 1 7, login [65] 2 2] ->
      OnlyUnregisters event := by
    intro event member
    rcases List.mem_cons.mp member with rfl | member
    · trivial
    rcases List.mem_cons.mp member with rfl | member
    · trivial
    rw [List.mem_singleton.mp member]
    trivial
  exact ⟨_, run, unregisterByConnId_losesConnection byteHash 2 _ _ _ plain run 1 5⟩

end AccountStateList
end NetSystem
