import NetSystem.Lobby.AccountCalls

namespace NetSystem

/-!
# The caches of connection ids and inner uuids

`GetByConnId` and `GetByInnerUuid` answer from a map where it has an entry, and
enter what a walk finds otherwise.  The answers are those of a walk as long as
every entry names an account in use with the key of the entry.

The release of an account erases the entries for its keys, except for the key
zero, and a duplicate registration gives an account another inner uuid without
erasing the entry for the old one.  Where neither meets an entry, the caches stay
right; where one does, a stale entry remains.
-/

/-- What a call registers. -/
def AccountEvent.registration : AccountEvent -> Option Registration
  | .register registration => some registration
  | _ => none

namespace AccountStateList

variable {cityHash64 : List UInt8 -> Nat} {list next : AccountStateList} {index : Nat}

/-- The entries of a map name accounts in use that have the key. -/
def Agrees (list : AccountStateList) (map : Nat -> Option Nat) (key : AccountState -> Nat) : Prop :=
  forall value index, map value = some index ->
    list.live index = true ∧ key (list.account index) = value

/-- Both caches are right. -/
structure Consistent (list : AccountStateList) : Prop where
  conn : list.Agrees list.mapConnId2ConnState fun state => state.routeTable.connid
  inner : list.Agrees list.mapInnerUuid2ConnState fun state => state.routeTable.innerUuid

/-- The accounts that a call releases. -/
def leaving (cityHash64 : List UInt8 -> Nat) (list : AccountStateList) :
    AccountEvent -> List Nat
  | .unregister index _ => if (list.account index).isReady then [index] else []
  | .unregisterByConnId uConnId _ =>
      list.pool.usedObjects.filter fun index => (list.account index).routeTable.connid == uConnId
  | event => list.kicked cityHash64 event

/-- The account that a registration binds anew: its uid is registered on the same
connection. -/
def reused (cityHash64 : List UInt8 -> Nat) (list : AccountStateList)
    (registration : Registration) : Option Nat :=
  if Acceptable registration then
    (list.foundByUid cityHash64 registration.sUid).filter fun index =>
      (list.account index).conflictKeyid == 0 && (list.account index).extData != 0 &&
        (list.account index).routeTable.connid == registration.uConnId
  else none

/-- An account can be released: no cache holds it under the key zero. -/
def Unpinned (list : AccountStateList) (index : Nat) : Prop :=
  list.mapConnId2ConnState 0 ≠ some index ∧ list.mapInnerUuid2ConnState 0 ≠ some index

/-- The account can get an inner uuid: it is the one that it has, or the cache does not
hold the account under the one that it has. -/
def Rekeyable (list : AccountStateList) (index uInnerUuid : Nat) : Prop :=
  (list.account index).routeTable.innerUuid = uInnerUuid ∨
    list.mapInnerUuid2ConnState (list.account index).routeTable.innerUuid ≠ some index

/-- The calls that leave no stale entry. -/
def LeavesNoEntry (cityHash64 : List UInt8 -> Nat) (list : AccountStateList)
    (event : AccountEvent) : Prop :=
  (forall index, index ∈ list.leaving cityHash64 event -> list.Unpinned index) ∧
  forall registration, registration ∈ event.registration ->
    forall index, index ∈ list.reused cityHash64 registration ->
      list.Rekeyable index registration.uInnerUuid

instance (event : AccountEvent) : Decidable (list.LeavesNoEntry cityHash64 event) := by
  unfold LeavesNoEntry Unpinned Rekeyable
  infer_instance

/-! ## One map -/

section OneMap

variable {map : Nat -> Option Nat} {key : AccountState -> Nat}

theorem Agrees.congr (agrees : list.Agrees map key) (pool : next.pool = list.pool) :
    next.Agrees map key := by
  unfold Agrees live account at agrees ⊢
  rw [pool]
  exact agrees

/-- An account is released and its key erased. -/
theorem Agrees.released (agrees : list.Agrees map key) (unpinned : map 0 ≠ some index)
    (tmNow : Int) :
    (list.released cityHash64 index tmNow).Agrees (eraseKey map (key (list.account index))) key := by
  intro value other entry
  have before : map value = some other ∧ other ≠ index := by
    unfold eraseKey at entry
    split at entry
    next positive =>
      by_cases erased : value = key (list.account index)
      · rw [erased, Function.update_self] at entry
        cases entry
      · rw [Function.update_of_ne erased] at entry
        refine ⟨entry, ?_⟩
        rintro rfl
        exact erased (agrees value other entry).2.symm
    next zero =>
      refine ⟨entry, ?_⟩
      rintro rfl
      have keyed := (agrees value other entry).2
      rw [← keyed, Nat.eq_zero_of_not_pos zero] at entry
      exact unpinned entry
  rcases agrees value other before.1 with ⟨inUse, keyed⟩
  rw [released_live, Function.update_of_ne before.2, released_account_ne tmNow before.2]
  exact ⟨inUse, keyed⟩

theorem Agrees.admitted (agrees : list.Agrees map key) (vacant : list.Vacant index)
    (state : AccountState) : (list.admitted index state).Agrees map key := by
  intro value other entry
  rcases agrees value other entry with ⟨inUse, keyed⟩
  have different : other ≠ index := vacant.ne_of_live inUse
  rw [admitted_live, Function.update_of_ne different, admitted_account_ne state different]
  exact ⟨inUse, keyed⟩

/-- An account keeps its key, or is not entered under it. -/
theorem Agrees.setAccount (agrees : list.Agrees map key) (state : AccountState)
    (same : key state = key (list.account index) ∨ map (key (list.account index)) ≠ some index) :
    (list.setAccount index state).Agrees map key := by
  intro value other entry
  rcases agrees value other entry with ⟨inUse, keyed⟩
  refine ⟨inUse, ?_⟩
  by_cases here : other = index
  · subst here
    rw [account_setAccount]
    rcases same with kept | absent
    · rw [kept, keyed]
    · rw [keyed] at absent
      exact absurd entry absent
  · rw [account_setAccount_ne state here]
    exact keyed

theorem Agrees.filled (agrees : list.Agrees map key) (inUse : list.live index = true) :
    list.Agrees (Function.update map (key (list.account index)) (some index)) key := by
  intro value other entry
  by_cases here : value = key (list.account index)
  · rw [here, Function.update_self] at entry
    cases entry
    exact ⟨inUse, here.symm⟩
  · rw [Function.update_of_ne here] at entry
    exact agrees value other entry

/-- A lookup through a map that is right answers as a walk does. -/
theorem Agrees.lookup (agrees : list.Agrees map key) (formed : list.Formed cityHash64)
    (value : Nat) :
    Exists fun looked => list.lookup map value (fun state => key state == value) = some looked ∧
      (forall index, looked.2 = some index -> list.live index = true ∧
        (list.account index).isReady = true ∧ key (list.account index) = value) ∧
      (looked.2 = none -> forall index, list.live index = true ->
        key (list.account index) ≠ value) := by
  have some_spec : forall index, list.found map value (fun state => key state == value) =
      some index -> list.live index = true ∧ key (list.account index) = value := by
    intro index found
    unfold AccountStateList.found at found
    cases entry : map value with
    | some cached =>
        rw [entry] at found
        cases found
        exact agrees _ _ entry
    | none =>
        rw [entry] at found
        rcases walk_some found with ⟨inUse, keyed⟩
        exact ⟨inUse, beq_iff_eq.mp keyed⟩
  have ready : ((list.found map value fun state => key state == value).all
      fun index => (list.account index).isReady) = true := by
    rw [Option.all_eq_true]
    intro index found
    exact (formed.registered index (some_spec index found).1).ready
  refine ⟨_, (lookup_eq map value _).trans (if_pos ready), ?_, ?_⟩
  · intro index found
    rcases some_spec index found with ⟨inUse, keyed⟩
    exact ⟨inUse, (formed.registered index inUse).ready, keyed⟩
  · intro found index inUse keyed
    change list.found map value (fun state => key state == value) = none at found
    unfold AccountStateList.found at found
    cases entry : map value with
    | some cached =>
        rw [entry] at found
        cases found
    | none =>
        rw [entry] at found
        have failed := formed.walk_none found inUse
        rw [keyed, beq_self_eq_true] at failed
        cases failed

end OneMap

/-! ## One change -/

/-- What the condition on a call says about one of its changes. -/
def Safe (list : AccountStateList) : AccountMove -> Prop
  | .release index _ => list.Unpinned index
  | .unregister index _ => list.Unpinned index
  | .rebind index registration => list.Rekeyable index registration.uInnerUuid
  | _ => True

theorem Consistent.released (consistent : list.Consistent) (unpinned : list.Unpinned index)
    (tmNow : Int) : (list.released cityHash64 index tmNow).Consistent := by
  constructor
  · rw [released_mapConnId2ConnState]
    exact consistent.conn.released unpinned.1 tmNow
  · rw [released_mapInnerUuid2ConnState]
    exact consistent.inner.released unpinned.2 tmNow

theorem Consistent.move (consistent : list.Consistent) (formed : list.Formed cityHash64)
    (change : AccountMove) (possible : list.Possible cityHash64 change)
    (safe : list.Safe change) : (list.move cityHash64 change).Consistent := by
  have set : forall {index : Nat} {state : AccountState},
      state.routeTable.connid = (list.account index).routeTable.connid ->
      state.routeTable.innerUuid = (list.account index).routeTable.innerUuid ->
      (list.setAccount index state).Consistent := fun conn inner =>
    ⟨consistent.conn.setAccount _ (.inl conn), consistent.inner.setAccount _ (.inl inner)⟩
  cases change with
  | cacheUid sUid index => exact ⟨consistent.conn, consistent.inner⟩
  | cacheConnId uConnId index =>
      rcases possible with ⟨_, inUse, rfl⟩
      exact ⟨consistent.conn.filled inUse, consistent.inner⟩
  | cacheInnerUuid uInnerUuid index =>
      rcases possible with ⟨_, inUse, rfl⟩
      exact ⟨consistent.conn, consistent.inner.filled inUse⟩
  | join index registration =>
      exact ⟨consistent.conn.admitted possible.1 _, consistent.inner.admitted possible.1 _⟩
  | joinConflict index conflict registration =>
      rw [AccountStateList.move, setConflict_eq]
      have conn : (list.remarked (Function.update list.marks conflict (list.pool.objid index))).Agrees
        list.mapConnId2ConnState fun state => state.routeTable.connid := consistent.conn
      have inner : (list.remarked (Function.update list.marks conflict
        (list.pool.objid index))).Agrees
          list.mapInnerUuid2ConnState fun state => state.routeTable.innerUuid := consistent.inner
      exact ⟨conn.admitted possible.1 _, inner.admitted possible.1 _⟩
  | rebind index registration =>
      rw [AccountStateList.move, bindAccount_eq]
      have conn := consistent.conn.setAccount (rebound (list.account index) registration)
        (.inl possible.2.2.2.symm)
      have inner := consistent.inner.setAccount (rebound (list.account index) registration)
        (safe.imp Eq.symm id)
      exact ⟨conn, inner⟩
  | release index tmNow => exact consistent.released safe tmNow
  | unregister index tmNow =>
      rcases formed.clearConflict_eq possible with ⟨marks, cleared, _⟩
      have remarked : (list.remarked marks).Consistent := ⟨consistent.conn, consistent.inner⟩
      rw [AccountStateList.move, cleared]
      exact remarked.released safe tmNow
  | offline index tmNow =>
      have kept : (list.setAccount index { list.account index with
        routeTable.onoff := .offline
        routeTable.onoffTime := tmNow }).Consistent := set rfl rfl
      rcases offline_frame list index tmNow with ⟨_, _, connMap, innerMap⟩
      constructor
      · rw [AccountStateList.move, connMap]
        exact kept.conn.congr (offline_pool tmNow)
      · rw [AccountStateList.move, innerMap]
        exact kept.inner.congr (offline_pool tmNow)
  | keepAlive index tmNow =>
      rw [AccountStateList.move, AccountStateList.keepAlive]
      split
      · exact set rfl rfl
      · exact consistent
  | setExtData index extData => exact set rfl rfl

/-! ## One call -/

/-- The entries for the key zero are those of another list. -/
def SameZero (list next : AccountStateList) : Prop :=
  next.mapConnId2ConnState 0 = list.mapConnId2ConnState 0 ∧
    next.mapInnerUuid2ConnState 0 = list.mapInnerUuid2ConnState 0

theorem eraseKey_zero (map : Nat -> Option Nat) (key : Nat) : eraseKey map key 0 = map 0 := by
  unfold eraseKey
  split
  next positive => exact Function.update_of_ne (Nat.ne_of_lt positive) _ _
  next => rfl

/-- Releases leave the entries for the key zero. -/
theorem sameZero_released (cityHash64 : List UInt8 -> Nat) (list : AccountStateList)
    (index : Nat) (tmNow : Int) :
    list.SameZero (list.released cityHash64 index tmNow) := by
  constructor
  · rw [released_mapConnId2ConnState, eraseKey_zero]
  · rw [released_mapInnerUuid2ConnState, eraseKey_zero]

theorem Formed.sameZero_unregister (formed : list.Formed cityHash64)
    (inUse : list.live index = true) (tmNow : Int) :
    list.SameZero (list.move cityHash64 (.unregister index tmNow)) := by
  rcases formed.clearConflict_eq inUse with ⟨marks, cleared, _⟩
  rw [AccountStateList.move, cleared]
  exact sameZero_released cityHash64 (list.remarked marks) index tmNow

/-- A run of releases, of accounts that were unpinned before it. -/
theorem Consistent.release_run {changes : List AccountMove} {before : AccountStateList}
    (consistent : before.Consistent) (formed : before.Formed cityHash64)
    (releases : forall change, change ∈ changes -> Exists fun index => before.Unpinned index ∧
      Exists fun tmNow => change = .release index tmNow ∨ change = .unregister index tmNow)
    (run : Run (MoveStep cityHash64) before changes next) : next.Consistent := by
  refine (run.invariant_mem (fun list => list.Formed cityHash64 ∧ list.Consistent ∧
    before.SameZero list) ?_ ⟨formed, consistent, rfl, rfl⟩).2.1
  rintro state change after member ⟨formed, consistent, same⟩ ⟨possible, rfl⟩
  rcases releases change member with ⟨index, unpinned, tmNow, kind⟩
  have safe : state.Unpinned index := by
    unfold Unpinned
    rw [same.1, same.2]
    exact unpinned
  rcases kind with rfl | rfl
  · have zero := sameZero_released cityHash64 state index tmNow
    exact ⟨formed.move _ possible, consistent.move formed _ possible safe,
      zero.1.trans same.1, zero.2.trans same.2⟩
  · have zero := formed.sameZero_unregister possible tmNow
    exact ⟨formed.move _ possible, consistent.move formed _ possible safe,
      zero.1.trans same.1, zero.2.trans same.2⟩

/-- A run of changes that are always safe. -/
theorem Consistent.safe_run {changes : List AccountMove} (consistent : list.Consistent)
    (formed : list.Formed cityHash64)
    (safe : forall change, change ∈ changes -> forall state : AccountStateList, state.Safe change)
    (run : Run (MoveStep cityHash64) list changes next) : next.Consistent := by
  refine (run.invariant_mem (fun list => list.Formed cityHash64 ∧ list.Consistent) ?_
    ⟨formed, consistent⟩).2
  rintro state change after member ⟨formed, consistent⟩ ⟨possible, rfl⟩
  exact ⟨formed.move change possible,
    consistent.move formed change possible (safe change member state)⟩

theorem uidMoves_safe {sUid : List UInt8} {change : AccountMove}
    (member : change ∈ list.uidMoves cityHash64 sUid) (state : AccountStateList) :
    state.Safe change := by
  rcases List.mem_map.mp member with ⟨index, _, rfl⟩
  trivial

theorem Consistent.register_run {registration : Registration} (consistent : list.Consistent)
    (formed : list.Formed cityHash64)
    (rekeyable : forall index, index ∈ list.reused cityHash64 registration ->
      list.Rekeyable index registration.uInnerUuid)
    (run : Run (MoveStep cityHash64) list (list.moves cityHash64 (.register registration)) next) :
    next.Consistent := by
  rw [moves] at run
  split at run
  · next acceptable =>
    rcases run.split with ⟨looked, look, join⟩
    rcases uidMoves_frame look with ⟨pool, _, innerMap⟩
    have lookedFormed := formed.run look
    have lookedConsistent := consistent.safe_run formed (fun _ => uidMoves_safe) look
    rcases list.joinMoves_cases registration (list.foundByUid cityHash64 registration.sUid) with
      none | ⟨only, one, kinds⟩
    · rw [none] at join
      cases join
      exact lookedConsistent
    · rw [one] at join
      rcases join.of_single with ⟨possible, rfl⟩
      refine lookedConsistent.move lookedFormed only possible ?_
      rcases kinds with ⟨_, index, rfl⟩ | ⟨conflict, found, ⟨index, rfl⟩ |
        ⟨rfl, unmarked, ready, same⟩⟩
      · trivial
      · trivial
      · have known : list.reused cityHash64 registration = some conflict := by
          rw [reused, if_pos acceptable, found]
          simp [unmarked, ready, same]
        have rekeyable := rekeyable conflict known
        unfold Safe Rekeyable account at *
        rw [pool, innerMap]
        exact rekeyable
  · cases run
    exact consistent

/-- A call that the condition allows keeps the caches right. -/
theorem Consistent.perform (consistent : list.Consistent) (formed : list.Formed cityHash64)
    {event : AccountEvent} (allowed : list.LeavesNoEntry cityHash64 event)
    (performed : list.perform cityHash64 event = some next) : next.Consistent := by
  have run := formed.perform_run performed
  have leaves := allowed.1
  have mapped : forall (make : Nat -> AccountMove) {indices : List Nat},
      (forall index (state : AccountStateList), state.Safe (make index)) ->
      forall change, change ∈ indices.map make -> forall state : AccountStateList,
        state.Safe change := by
    intro make indices safe change member state
    rcases List.mem_map.mp member with ⟨index, _, rfl⟩
    exact safe index state
  have releasing : forall {before : AccountStateList} {indices : List Nat} (tmNow : Int),
      (forall index, index ∈ indices -> before.Unpinned index) ->
      forall change, change ∈ (indices.map fun index => AccountMove.release index tmNow) ->
        Exists fun index => before.Unpinned index ∧
          Exists fun tmNow => change = .release index tmNow ∨ change = .unregister index tmNow := by
    intro before indices tmNow unpinned change member
    rcases List.mem_map.mp member with ⟨index, inside, rfl⟩
    exact ⟨index, unpinned index inside, tmNow, .inl rfl⟩
  cases event with
  | register registration =>
      exact consistent.register_run formed (allowed.2 registration rfl) run
  | unregister index tmNow =>
      refine consistent.release_run formed (fun change member => ?_) run
      rw [moves] at member
      split at member
      next ready =>
        rw [List.mem_singleton.mp member]
        refine ⟨index, leaves index ?_, tmNow, .inr rfl⟩
        rw [leaving, if_pos ready]
        exact List.mem_singleton_self index
      next => cases member
  | unregisterByConnId uConnId tmNow =>
      refine consistent.release_run formed (fun change member => ?_) run
      rcases List.mem_map.mp member with ⟨index, inside, rfl⟩
      exact ⟨index, leaves index inside, tmNow, .inr rfl⟩
  | kick nIndexId tmNow => exact consistent.release_run formed (releasing tmNow leaves) run
  | kickByUid sUid tmNow =>
      rcases run.split with ⟨looked, look, kicks⟩
      rcases uidMoves_frame look with ⟨_, connMap, innerMap⟩
      refine (consistent.safe_run formed (fun _ => uidMoves_safe) look).release_run
        (formed.run look) (releasing tmNow fun index member => ?_) kicks
      unfold Unpinned
      rw [connMap, innerMap]
      exact leaves index member
  | kickOfflineMoreThan nOfflineToleranceSeconds nKickNumMax tmNow vOutKickedList =>
      exact consistent.release_run formed (releasing tmNow leaves) run
  | release index tmNow => exact consistent.release_run formed (releasing tmNow leaves) run
  | offlineByUid sUid tmNow =>
      exact consistent.safe_run formed (mapped (.offline · tmNow) fun _ _ => trivial) run
  | checkKeepAlive nLostContactToleranceSeconds tmNow =>
      exact consistent.safe_run formed (mapped (.offline · tmNow) fun _ _ => trivial) run
  | keepAliveByUid sUid tmNow =>
      refine consistent.safe_run formed (fun change member => ?_) run
      rcases List.mem_append.mp member with look | keep
      · exact uidMoves_safe look
      · exact mapped (.keepAlive · tmNow) (fun _ _ => trivial) change keep
  | getByUid sUid => exact consistent.safe_run formed (fun _ => uidMoves_safe) run
  | getByConnId uConnId =>
      exact consistent.safe_run formed (mapped (.cacheConnId uConnId) fun _ _ => trivial) run
  | getByInnerUuid uInnerUuid =>
      exact consistent.safe_run formed (mapped (.cacheInnerUuid uInnerUuid) fun _ _ => trivial) run
  | setExtData index extData =>
      refine consistent.safe_run formed (fun change member state => ?_) run
      rw [List.mem_singleton.mp member]
      trivial

/-- Both lookups answer as a walk does, for every key. -/
def LookupsAgree (list : AccountStateList) : Prop :=
  (forall uConnId, Exists fun looked => list.getByConnId uConnId = some looked ∧
    (forall index, looked.2 = some index -> list.live index = true ∧
      (list.account index).isReady = true ∧ (list.account index).routeTable.connid = uConnId) ∧
    (looked.2 = none -> forall index, list.live index = true ->
      (list.account index).routeTable.connid ≠ uConnId)) ∧
  (forall uInnerUuid, Exists fun looked => list.getByInnerUuid uInnerUuid = some looked ∧
    (forall index, looked.2 = some index -> list.live index = true ∧
      (list.account index).isReady = true ∧
        (list.account index).routeTable.innerUuid = uInnerUuid) ∧
    (looked.2 = none -> forall index, list.live index = true ->
      (list.account index).routeTable.innerUuid ≠ uInnerUuid))

theorem Consistent.lookupsAgree (consistent : list.Consistent) (formed : list.Formed cityHash64) :
    list.LookupsAgree := by
  constructor
  · intro uConnId
    rcases consistent.conn.lookup formed uConnId with ⟨looked, returned, hit, miss⟩
    refine ⟨({ list with mapConnId2ConnState := looked.1 }, looked.2), ?_, hit, miss⟩
    rw [getByConnId, returned]
    rfl
  · intro uInnerUuid
    rcases consistent.inner.lookup formed uInnerUuid with ⟨looked, returned, hit, miss⟩
    refine ⟨({ list with mapInnerUuid2ConnState := looked.1 }, looked.2), ?_, hit, miss⟩
    rw [getByInnerUuid, returned]
    rfl

/-- After any calls that leave no stale entry, both lookups answer as a walk does. -/
theorem lookupsAgree_of_run (cityHash64 : List UInt8 -> Nat) (nReserve : Fin (2 ^ 31))
    (uninitialised : Nat -> AccountState) (events : List AccountEvent) (last : AccountStateList)
    (run : Run (fun list event next =>
      list.LeavesNoEntry cityHash64 event ∧ Step cityHash64 list event next)
      (initial nReserve uninitialised) events last) :
    last.LookupsAgree := by
  have ends : last.Formed cityHash64 ∧ last.Consistent := by
    refine run.invariant (fun list => list.Formed cityHash64 ∧ list.Consistent) ?_
      ⟨initial_formed nReserve uninitialised, ⟨nofun, nofun⟩⟩
    rintro state event after ⟨formed, consistent⟩ ⟨allowed, performed⟩
    exact ⟨formed.perform performed, consistent.perform formed allowed performed⟩
  exact ends.2.lookupsAgree ends.1

/-- Two players log in, are looked up and leave; one registers twice. -/
theorem lookupsAgree_of_run_pair :
    Exists fun last => Run (Step byteHash) pair
      [login [65] 1 1, login [66] 2 2, .getByConnId 1, .getByInnerUuid 2, .setExtData 1 7,
        login [65] 1 3, .unregisterByConnId 2 5] last ∧ last.LookupsAgree := by
  have done : ([login [65] 1 1, login [66] 2 2, .getByConnId 1, .getByInnerUuid 2,
      .setExtData 1 7, login [65] 1 3, .unregisterByConnId 2 5].foldlM
        (fun (list : AccountStateList) event =>
          if list.LeavesNoEntry byteHash event then list.perform byteHash event else none)
        pair).isSome = true := by decide
  have run := (Run.of_foldlM _ (Option.some_get done).symm).mono
    fun state event next once => Option.ite_none_right_eq_some.mp once
  exact ⟨_, run.mono fun _ _ _ once => once.2, lookupsAgree_of_run byteHash 2 _ _ _ run⟩

/-- A player is looked up by the inner uuid, and registers again with another one: the
lookup still returns the account under the old one. -/
theorem lookupsAgree_refuted :
    Exists fun last => Run (Step byteHash) pair
      [login [65] 1 1, .setExtData 1 7, .getByInnerUuid 1, login [65] 1 2] last ∧
      ¬ last.LookupsAgree := by
  have computed : ([login [65] 1 1, .setExtData 1 7, .getByInnerUuid 1, login [65] 1 2].foldlM
      (perform byteHash) pair).map (fun last =>
        ((last.getByInnerUuid 1).map (fun looked => looked.2),
          (last.account 1).routeTable.innerUuid)) = some (some (some 1), 2) := by decide
  rcases Option.map_eq_some_iff.mp computed with ⟨last, done, facts⟩
  refine ⟨last, Run.of_foldlM _ done, fun agree => ?_⟩
  rcases agree.2 1 with ⟨looked, returned, hit, _⟩
  rw [returned, Prod.mk.injEq, Option.map_some, Option.some.injEq] at facts
  have keyed := (hit 1 facts.1).2.2
  rw [facts.2] at keyed
  cases keyed

end AccountStateList
end NetSystem
