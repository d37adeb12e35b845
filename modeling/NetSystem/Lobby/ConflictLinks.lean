import NetSystem.Foundation.Pairing
import NetSystem.Lobby.KeyCaches

namespace NetSystem

/-!
# The links between conflicting accounts

Two accounts in use with one uid are in conflict: each bears the key id of the
other as its mark.  `Register` links a second account with the first and refuses a
third, and `Unregister` clears both marks.

`Kick`, `KickByUid`, `KickOfflineMoreThan` and `Release` clear no marks, so that
the links stay regular only when they release both accounts of a conflict or
neither.  `Register` looks a uid up by its hash; where that finds an account of
another uid, the two are linked or one of them is renamed.
-/

namespace AccountStateList

variable {cityHash64 : List UInt8 -> Nat} {list next : AccountStateList} {index : Nat}

/-- The account that the mark of an account names. -/
def opponent (list : AccountStateList) (index : Nat) : Option Nat :=
  if 0 < (list.account index).conflictKeyid then
    list.pool.get (list.account index).conflictKeyid
  else none

/-- The accounts in use, paired by their marks. -/
def Linked (list : AccountStateList) : Prop :=
  Paired (fun index => list.live index = true) (fun index => (list.account index).uid) list.opponent

/-- The account that a registration links a new one with. -/
def opposed (cityHash64 : List UInt8 -> Nat) (list : AccountStateList)
    (registration : Registration) : Option Nat :=
  if Acceptable registration ∧ list.vacancy.isSome then
    (list.foundByUid cityHash64 registration.sUid).filter fun index =>
      (list.account index).conflictKeyid == 0 && (list.account index).extData != 0 &&
        (list.account index).routeTable.connid != registration.uConnId
  else none

/-- The calls that release whole conflicts only, and register under a uid with no account
of another. -/
def KeepsLinks (cityHash64 : List UInt8 -> Nat) (list : AccountStateList)
    (event : AccountEvent) : Prop :=
  (forall index, index ∈ list.kicked cityHash64 event -> forall other, other ∈ list.pool.usedObjects ->
    (list.account other).conflictKeyid = (list.account index).keyid ->
      other ∈ list.kicked cityHash64 event) ∧
  forall registration, registration ∈ event.registration ->
    (forall index, index ∈ list.opposed cityHash64 registration ->
      (list.account index).uid = registration.sUid) ∧
    (forall index, index ∈ list.reused cityHash64 registration ->
      forall other, other ∈ list.pool.usedObjects -> other ≠ index ->
        (list.account other).uid ≠ registration.sUid)

instance (event : AccountEvent) : Decidable (list.KeepsLinks cityHash64 event) := by
  unfold KeepsLinks
  infer_instance

/-! ## Marks and opponents -/

/-- The opponent depends on the mark and the numbering of the pool. -/
theorem opponent_congr (base : next.pool.baseId = list.pool.baseId)
    (size : next.pool.totalSize = list.pool.totalSize)
    (mark : (next.account index).conflictKeyid = (list.account index).conflictKeyid) :
    next.opponent index = list.opponent index := by
  unfold opponent
  rw [mark, ObjectPool.get_congr base size]

theorem opponent_none (unmarked : (list.account index).conflictKeyid = 0) :
    list.opponent index = none := by
  rw [opponent, unmarked]
  rfl

theorem opponent_of_mark (valid : list.pool.Valid) {other : Nat}
    (inside : other < list.pool.totalSize)
    (mark : (list.account index).conflictKeyid = list.pool.objid other) :
    list.opponent index = some other := by
  rw [opponent, mark, if_pos (valid.objid_pos inside), valid.get_objid inside]

/-- The mark is the key id of the opponent. -/
theorem Formed.mark_of_opponent (formed : list.Formed cityHash64)
    (inUse : list.live index = true) {other : Nat} (opponent : list.opponent index = some other) :
    (list.account index).conflictKeyid = list.pool.objid other := by
  unfold AccountStateList.opponent at opponent
  split at opponent
  · next positive =>
    rcases formed.marked index inUse positive with ⟨marked, inside, mark⟩
    rw [mark, formed.pool.get_objid inside] at opponent
    cases opponent
    exact mark
  · cases opponent

/-- The opponent of an account in use is in use. -/
theorem Linked.opponent_live (linked : list.Linked) (inUse : list.live index = true) {other : Nat}
    (opponent : list.opponent index = some other) : list.live other = true :=
  (Paired.linked linked index other inUse opponent).1

/-- Nobody's opponent is an account that is not in use. -/
theorem Linked.opponent_ne (linked : list.Linked) {other : Nat} (inUse : list.live other = true)
    (free : list.live index = false) : list.opponent other ≠ some index := by
  intro opponent
  have used := linked.opponent_live inUse opponent
  rw [free] at used
  cases used

/-! ## One change -/

/-- What the condition on a call says about its changes other than releases. -/
def KeepsPairs (list : AccountStateList) : AccountMove -> Prop
  | .joinConflict _ conflict registration => (list.account conflict).uid = registration.sUid
  | .rebind index registration => forall other, list.live other = true -> other ≠ index ->
      (list.account other).uid ≠ registration.sUid
  | .release _ _ => False
  | _ => True

/-- Uids, marks and the accounts in use are as they were. -/
theorem Linked.congr (linked : list.Linked) (base : next.pool.baseId = list.pool.baseId)
    (size : next.pool.totalSize = list.pool.totalSize) (live : next.live = list.live)
    (uids : forall index, (next.account index).uid = (list.account index).uid)
    (marks : forall index, (next.account index).conflictKeyid = (list.account index).conflictKeyid) :
    next.Linked :=
  Paired.congr linked (fun index inUse => (congrFun live index).symm.trans inUse)
    (fun index inUse => (congrFun live index).trans inUse) (fun index _ => uids index)
    (fun index _ => opponent_congr base size (marks index))

/-- An account changes, but not its uid or its mark. -/
theorem Linked.setAccount (linked : list.Linked) (state : AccountState)
    (uid : state.uid = (list.account index).uid)
    (mark : state.conflictKeyid = (list.account index).conflictKeyid) :
    (list.setAccount index state).Linked := by
  refine linked.congr rfl rfl rfl (fun other => ?_) (fun other => ?_)
  · by_cases same : other = index
    · rw [same, account_setAccount, uid]
    · rw [account_setAccount_ne state same]
  · by_cases same : other = index
    · rw [same, account_setAccount, mark]
    · rw [account_setAccount_ne state same]

theorem admitted_members (state : AccountState) (other : Nat) :
    (list.admitted index state).live other = true ↔
      other = index ∨ other ≠ index ∧ list.live other = true := by
  rw [admitted_live]
  by_cases same : other = index
  · rw [same, Function.update_self]
    exact ⟨fun _ => .inl rfl, fun _ => rfl⟩
  · rw [Function.update_of_ne same]
    exact ⟨fun inUse => .inr ⟨same, inUse⟩, fun either => (either.resolve_left same).2⟩

/-- A new account under a uid that nobody in use has. -/
theorem Linked.join (linked : list.Linked) (vacant : list.Vacant index) {state : AccountState}
    (unmarked : state.conflictKeyid = 0)
    (own : forall other, list.live other = true -> (list.account other).uid ≠ state.uid) :
    (list.admitted index state).Linked := by
  refine Paired.join linked index (admitted_members state) ?_ ?_ ?_ ?_ ?_
  · intro other different _
    rw [admitted_account_ne state different]
  · intro other different _
    exact opponent_congr rfl rfl (by rw [admitted_account_ne state different])
  · exact opponent_none (by rw [admitted_account, unmarked])
  · intro other _ inUse
    exact linked.opponent_ne inUse vacant.2.1
  · intro other _ inUse
    rw [admitted_account]
    exact own other inUse

/-- A new account, linked with the only one that has its uid. -/
theorem Linked.joinConflict (linked : list.Linked) (formed : list.Formed cityHash64)
    (vacant : list.Vacant index) {conflict : Nat} (inUse : list.live conflict = true)
    (unmarked : (list.account conflict).conflictKeyid = 0) {state : AccountState}
    (uid : state.uid = (list.account conflict).uid)
    (mark : state.conflictKeyid = list.pool.objid conflict) :
    ((list.setConflict conflict (list.pool.objid index)).admitted index state).Linked := by
  have different : conflict ≠ index := vacant.ne_of_live inUse
  have valid : ((list.setConflict conflict (list.pool.objid index)).admitted index state).pool.Valid :=
    (formed.pool.setData conflict _ |>.allocated vacant.1 vacant.2.2).setData index state
  refine Paired.oppose linked index conflict ?_ ?_ inUse different
    (opponent_none unmarked) ?_ ?_ ?_ ?_ ?_
  · exact admitted_members state
  · intro other old _
    rw [admitted_account_ne state old, setConflict_eq]
    rfl
  · intro other old elsewhere _
    refine opponent_congr rfl rfl ?_
    rw [admitted_account_ne state old, setConflict, account_setAccount_ne _ elsewhere]
  · refine opponent_of_mark valid (formed.inside inUse) ?_
    rw [admitted_account, mark]
    rfl
  · refine opponent_of_mark valid vacant.1 ?_
    rw [admitted_account_ne state different, setConflict, account_setAccount]
    rfl
  · intro other otherInUse
    exact linked.opponent_ne otherInUse vacant.2.1
  · rw [admitted_account, uid]

/-- An account without a mark is bound under a uid that nobody else in use has. -/
theorem Linked.rebind (linked : list.Linked) (inUse : list.live index = true)
    (unmarked : (list.account index).conflictKeyid = 0) (state : AccountState)
    (mark : state.conflictKeyid = (list.account index).conflictKeyid)
    (own : forall other, list.live other = true -> other ≠ index ->
      (list.account other).uid ≠ state.uid) :
    (list.setAccount index state).Linked := by
  refine Paired.rename linked inUse (opponent_none unmarked) (fun _ => Iff.rfl) ?_ ?_ ?_
  · intro other different _
    rw [account_setAccount_ne state different]
  · intro other _
    refine opponent_congr rfl rfl ?_
    by_cases same : other = index
    · rw [same, account_setAccount, mark]
    · rw [account_setAccount_ne state same]
  · intro other different otherInUse
    rw [account_setAccount]
    exact own other otherInUse different

theorem released_sizes (cityHash64 : List UInt8 -> Nat) (list : AccountStateList) (index : Nat)
    (tmNow : Int) :
    (list.released cityHash64 index tmNow).pool.baseId = list.pool.baseId ∧
      (list.released cityHash64 index tmNow).pool.totalSize = list.pool.totalSize := by
  rw [released_eq]
  exact ⟨rfl, rfl⟩

/-- The marks that are cleared are those of the account and its opponent. -/
theorem Formed.clearConflict_opponent (formed : list.Formed cityHash64)
    (inUse : list.live index = true) :
    Exists fun marks => list.clearConflict index = some (list.remarked marks) ∧
      (forall other, marks other = 0 ∨ marks other = list.marks other) ∧
      forall other, other ≠ index ->
        marks other = if list.opponent index = some other then 0 else list.marks other := by
  rcases formed.clearConflict_eq inUse with ⟨marks, cleared, fewer⟩
  refine ⟨marks, cleared, fewer, fun other different => ?_⟩
  rcases formed.clearConflict_cases inUse with ⟨unmarked, kept⟩ | ⟨conflict, inside, mark, both⟩
  · rw [opponent_none unmarked, if_neg nofun]
    have same := congrArg (fun after => after.map fun list => list.marks other)
      (cleared.symm.trans kept)
    exact Option.some.inj same
  · rw [opponent_of_mark formed.pool inside mark]
    have same := congrArg (fun after => after.map fun list => list.marks other)
      (cleared.symm.trans both)
    refine (Option.some.inj same).trans ?_
    change Function.update (Function.update list.marks index 0) conflict 0 other = _
    by_cases here : other = conflict
    · rw [here, Function.update_self, if_pos rfl]
    · rw [Function.update_of_ne here, Function.update_of_ne different, if_neg]
      intro named
      exact here (Option.some.inj named).symm

theorem released_members (tmNow : Int) (other : Nat) :
    (list.released cityHash64 index tmNow).live other = true ↔
      other ≠ index ∧ list.live other = true := by
  refine ⟨live_of_released, fun ⟨different, inUse⟩ => ?_⟩
  rw [released_live, Function.update_of_ne different]
  exact inUse

/-- An account and its opponent lose their marks, and the account is released. -/
theorem Linked.unregister (linked : list.Linked) (formed : list.Formed cityHash64)
    (inUse : list.live index = true) (tmNow : Int) :
    (list.move cityHash64 (.unregister index tmNow)).Linked := by
  rcases formed.clearConflict_opponent inUse with ⟨marks, cleared, _, marksEq⟩
  rw [AccountStateList.move, cleared, Option.getD_some]
  refine Paired.part linked inUse (released_members tmNow) ?_ ?_
  · intro other still
    rw [released_account_ne tmNow (live_of_released still).1]
    rfl
  · intro other still
    rcases live_of_released still with ⟨different, before⟩
    rcases released_sizes cityHash64 (list.remarked marks) index tmNow with ⟨base, size⟩
    have mark : (((list.remarked marks).released cityHash64 index tmNow).account
        other).conflictKeyid = marks other := by
      rw [released_account_ne tmNow different]
      rfl
    split
    next opposed =>
      refine opponent_none (mark.trans ?_)
      rw [marksEq other different, if_pos opposed]
    next unopposed =>
      refine opponent_congr base size (mark.trans ?_)
      rw [marksEq other different, if_neg unopposed]
      rfl

/-- Every change but a release without the marks keeps the pairs. -/
theorem Linked.move (linked : list.Linked) (formed : list.Formed cityHash64)
    (change : AccountMove) (possible : list.Possible cityHash64 change)
    (keeps : list.KeepsPairs change) : (list.move cityHash64 change).Linked := by
  cases change with
  | cacheUid sUid index => exact linked
  | cacheConnId uConnId index => exact linked
  | cacheInnerUuid uInnerUuid index => exact linked
  | join index registration =>
      exact linked.join possible.1 rfl possible.2.2.2
  | joinConflict index conflict registration =>
      rcases possible with ⟨vacant, _, ⟨inUse, unmarked, _⟩, _⟩
      exact linked.joinConflict formed vacant inUse unmarked keeps.symm
        (formed.registered conflict inUse).key
  | rebind index registration =>
      rcases possible with ⟨_, ⟨inUse, unmarked, _⟩, _⟩
      rw [AccountStateList.move, bindAccount_eq]
      exact linked.rebind inUse unmarked (rebound (list.account index) registration) rfl keeps
  | release index tmNow => exact keeps.elim
  | unregister index tmNow => exact linked.unregister formed possible tmNow
  | offline index tmNow =>
      have kept : (list.setAccount index { list.account index with
        routeTable.onoff := .offline
        routeTable.onoffTime := tmNow }).Linked := linked.setAccount _ rfl rfl
      have pool : (list.offline index tmNow).pool = _ := offline_pool tmNow
      change (list.offline index tmNow).Linked
      unfold Linked live account opponent account at kept ⊢
      rw [pool]
      exact kept
  | keepAlive index tmNow =>
      rw [AccountStateList.move, AccountStateList.keepAlive]
      split
      · exact linked.setAccount _ rfl rfl
      · exact linked
  | setExtData index extData => exact linked.setAccount _ rfl rfl

/-- What releases leave of the accounts in use, and of the others' data. -/
theorem releases_effect {indices : List Nat} {tmNow : Int}
    (run : Run (MoveStep cityHash64) list (indices.map fun index => .release index tmNow) next) :
    next.pool.baseId = list.pool.baseId ∧ next.pool.totalSize = list.pool.totalSize ∧
      (forall other, next.live other = true ↔ other ∉ indices ∧ list.live other = true) ∧
      forall other, other ∉ indices -> next.account other = list.account other := by
  induction indices generalizing list with
  | nil =>
      cases run
      refine ⟨rfl, rfl, fun other => ⟨fun inUse => ⟨?_, inUse⟩, fun both => both.2⟩,
        fun _ _ => rfl⟩
      apply List.not_mem_nil
  | cons index indices inductionHypothesis =>
      cases run with
      | cons once rest =>
        rcases once with ⟨_, rfl⟩
        rcases inductionHypothesis rest with ⟨base, size, members, accounts⟩
        have sizes := released_sizes cityHash64 list index tmNow
        refine ⟨base.trans sizes.1, size.trans sizes.2, fun other => ?_, fun other absent => ?_⟩
        · rw [members, List.mem_cons, not_or, and_assoc, AccountStateList.move,
            released_members, and_left_comm]
        · rw [accounts other fun member => absent (List.mem_cons_of_mem _ member),
            AccountStateList.move, released_account_ne tmNow]
          rintro rfl
          exact absent (List.mem_cons_self ..)

/-- Releases of accounts that are whole conflicts. -/
theorem Linked.release_run {before : AccountStateList} (linked : before.Linked)
    {indices : List Nat} {tmNow : Int}
    (run : Run (MoveStep cityHash64) before (indices.map fun index => .release index tmNow) next)
    (whole : forall index, index ∈ indices -> forall other, before.live other = true ->
      before.opponent other = some index -> other ∈ indices) : next.Linked := by
  rcases releases_effect run with ⟨base, size, members, accounts⟩
  refine Paired.leave linked (fun other still => ((members other).mp still).2) ?_ ?_ ?_
  · intro other still
    rw [accounts other ((members other).mp still).1]
  · intro other still
    exact opponent_congr base size (by rw [accounts other ((members other).mp still).1])
  · intro left right still opponent
    rcases (members left).mp still with ⟨stays, inUse⟩
    refine (members right).mpr ⟨fun leaves => ?_, linked.opponent_live inUse opponent⟩
    exact stays (whole right leaves left inUse opponent)

/-! ## One call -/

/-- A run of changes that all keep the pairs, whatever the list. -/
theorem Linked.run {changes : List AccountMove} (linked : list.Linked)
    (formed : list.Formed cityHash64)
    (keeps : forall change, change ∈ changes -> forall state : AccountStateList,
      state.KeepsPairs change)
    (run : Run (MoveStep cityHash64) list changes next) : next.Linked := by
  refine (run.invariant_mem (fun list => list.Formed cityHash64 ∧ list.Linked) ?_
    ⟨formed, linked⟩).2
  rintro state change after member ⟨formed, linked⟩ ⟨possible, rfl⟩
  exact ⟨formed.move change possible, linked.move formed change possible (keeps change member state)⟩

theorem uidMoves_keepsPairs {sUid : List UInt8} {change : AccountMove}
    (member : change ∈ list.uidMoves cityHash64 sUid) (state : AccountStateList) :
    state.KeepsPairs change := by
  rcases List.mem_map.mp member with ⟨index, _, rfl⟩
  trivial

theorem Linked.register_run {registration : Registration} (linked : list.Linked)
    (formed : list.Formed cityHash64)
    (allowed : list.KeepsLinks cityHash64 (.register registration))
    (run : Run (MoveStep cityHash64) list (list.moves cityHash64 (.register registration)) next) :
    next.Linked := by
  rw [moves] at run
  split at run
  · next acceptable =>
    rcases run.split with ⟨looked, look, join⟩
    have pool := (uidMoves_frame look).1
    have lookedFormed := formed.run look
    have lookedLinked := linked.run formed (fun _ => uidMoves_keepsPairs) look
    rcases list.joinMoves_cases registration (list.foundByUid cityHash64 registration.sUid) with
      none | ⟨only, one, kinds⟩
    · rw [none] at join
      cases join
      exact lookedLinked
    · rw [one] at join
      rcases join.of_single with ⟨possible, rfl⟩
      refine lookedLinked.move lookedFormed only possible ?_
      rcases kinds with ⟨_, index, rfl⟩ | ⟨conflict, found, ⟨index, rfl⟩ |
        ⟨rfl, unmarked, ready, same⟩⟩
      · trivial
      · rcases possible with ⟨vacant, _, ⟨_, unmarked, _⟩, ready, elsewhere⟩
        have room : list.vacancy.isSome = true := by
          rw [vacancy, ← pool, vacant.2.2, List.getLast?_concat]
          rfl
        unfold account at unmarked ready elsewhere
        rw [pool] at unmarked ready elsewhere
        have known : list.opposed cityHash64 registration = some conflict := by
          rw [opposed, if_pos ⟨acceptable, room⟩, found]
          simp [account, unmarked, ready, elsewhere]
        have uid := (allowed.2 registration rfl).1 conflict known
        unfold KeepsPairs account
        rw [pool]
        exact uid
      · have known : list.reused cityHash64 registration = some conflict := by
          rw [reused, if_pos acceptable, found]
          simp [unmarked, ready, same]
        unfold KeepsPairs live account
        rw [pool]
        intro other inUse different
        exact (allowed.2 registration rfl).2 conflict known other
          (formed.pool.mem_usedObjects.mpr inUse) different
  · cases run
    exact linked

/-- A call that releases whole conflicts keeps the pairs. -/
theorem Linked.kick_run {looked : AccountStateList} (linked : looked.Linked)
    (formed : looked.Formed cityHash64) (pool : looked.pool = list.pool) {event : AccountEvent}
    (allowed : list.KeepsLinks cityHash64 event) {tmNow : Int}
    (run : Run (MoveStep cityHash64) looked
      ((list.kicked cityHash64 event).map fun index => .release index tmNow) next) :
    next.Linked := by
  refine linked.release_run run fun index kicked other inUse opponent => ?_
  have mark := formed.mark_of_opponent inUse opponent
  rw [← (formed.registered index (linked.opponent_live inUse opponent)).key] at mark
  have used := formed.pool.mem_usedObjects.mpr inUse
  unfold account at mark
  rw [pool] at mark used
  exact allowed.1 index kicked other used mark

/-- A call that the condition allows keeps the links. -/
theorem Linked.perform (linked : list.Linked) (formed : list.Formed cityHash64)
    {event : AccountEvent} (allowed : list.KeepsLinks cityHash64 event)
    (performed : list.perform cityHash64 event = some next) : next.Linked := by
  have run := formed.perform_run performed
  have mapped : forall (make : Nat -> AccountMove) {indices : List Nat},
      (forall index (state : AccountStateList), state.KeepsPairs (make index)) ->
      forall change, change ∈ indices.map make -> forall state : AccountStateList,
        state.KeepsPairs change := by
    intro make indices keeps change member state
    rcases List.mem_map.mp member with ⟨index, _, rfl⟩
    exact keeps index state
  cases event with
  | register registration => exact linked.register_run formed allowed run
  | unregister index tmNow =>
      refine linked.run formed (fun change member state => ?_) run
      rw [moves] at member
      split at member
      · rw [List.mem_singleton.mp member]
        trivial
      · cases member
  | unregisterByConnId uConnId tmNow =>
      exact linked.run formed (mapped (.unregister · tmNow) fun _ _ => trivial) run
  | kick nIndexId tmNow => exact linked.kick_run formed rfl allowed run
  | kickByUid sUid tmNow =>
      rcases run.split with ⟨looked, look, kicks⟩
      exact (linked.run formed (fun _ => uidMoves_keepsPairs) look).kick_run (formed.run look)
        (uidMoves_frame look).1 allowed kicks
  | kickOfflineMoreThan nOfflineToleranceSeconds nKickNumMax tmNow vOutKickedList =>
      exact linked.kick_run formed rfl allowed run
  | release index tmNow => exact linked.kick_run formed rfl allowed run
  | offlineByUid sUid tmNow =>
      exact linked.run formed (mapped (.offline · tmNow) fun _ _ => trivial) run
  | checkKeepAlive nLostContactToleranceSeconds tmNow =>
      exact linked.run formed (mapped (.offline · tmNow) fun _ _ => trivial) run
  | keepAliveByUid sUid tmNow =>
      refine linked.run formed (fun change member => ?_) run
      rcases List.mem_append.mp member with look | keep
      · exact uidMoves_keepsPairs look
      · exact mapped (.keepAlive · tmNow) (fun _ _ => trivial) change keep
  | getByUid sUid => exact linked.run formed (fun _ => uidMoves_keepsPairs) run
  | getByConnId uConnId =>
      exact linked.run formed (mapped (.cacheConnId uConnId) fun _ _ => trivial) run
  | getByInnerUuid uInnerUuid =>
      exact linked.run formed (mapped (.cacheInnerUuid uInnerUuid) fun _ _ => trivial) run
  | setExtData index extData =>
      refine linked.run formed (fun change member state => ?_) run
      rw [List.mem_singleton.mp member]
      trivial

/-- The marks link accounts in use of one uid with each other, and two such accounts are
linked. -/
def ConflictsMatch (list : AccountStateList) : Prop :=
  (forall index, list.live index = true -> 0 < (list.account index).conflictKeyid ->
    Exists fun other => list.live other = true ∧ other ≠ index ∧
      (list.account index).conflictKeyid = (list.account other).keyid ∧
      (list.account other).uid = (list.account index).uid ∧
      (list.account other).conflictKeyid = (list.account index).keyid) ∧
  (forall index other, list.live index = true -> list.live other = true -> index ≠ other ->
    (list.account index).uid = (list.account other).uid ->
      (list.account index).conflictKeyid = (list.account other).keyid ∧
        (list.account other).conflictKeyid = (list.account index).keyid) ∧
  forall first second third, list.live first = true -> list.live second = true ->
    list.live third = true -> (list.account first).uid = (list.account second).uid ->
      (list.account first).uid = (list.account third).uid ->
        first = second ∨ first = third ∨ second = third

theorem Linked.conflictsMatch (linked : list.Linked) (formed : list.Formed cityHash64) :
    list.ConflictsMatch := by
  have mark : forall index other, list.live index = true -> list.opponent index = some other ->
      (list.account index).conflictKeyid = (list.account other).keyid := by
    intro index other inUse opponent
    rw [formed.mark_of_opponent inUse opponent,
      (formed.registered other (linked.opponent_live inUse opponent)).key]
  refine ⟨?_, ?_, fun first second third => Paired.at_most_two linked⟩
  · intro index inUse positive
    rcases formed.marked index inUse positive with ⟨other, inside, marked⟩
    have opponent := opponent_of_mark formed.pool inside marked
    rcases Paired.linked linked index other inUse opponent with ⟨otherInUse, apart, same, back⟩
    exact ⟨other, otherInUse, apart, mark index other inUse opponent, same,
      mark other index otherInUse back⟩
  · intro index other inUse otherInUse apart same
    have there := Paired.complete linked index other inUse otherInUse apart same
    have back := Paired.complete linked other index otherInUse inUse apart.symm same.symm
    exact ⟨mark index other inUse there, mark other index otherInUse back⟩

/-- After any calls that release whole conflicts only, the links match. -/
theorem conflictsMatch_of_run (cityHash64 : List UInt8 -> Nat) (nReserve : Fin (2 ^ 31))
    (uninitialised : Nat -> AccountState) (events : List AccountEvent) (last : AccountStateList)
    (run : Run (fun list event next =>
      list.KeepsLinks cityHash64 event ∧ Step cityHash64 list event next)
      (initial nReserve uninitialised) events last) :
    last.ConflictsMatch := by
  have ends : last.Formed cityHash64 ∧ last.Linked := by
    refine run.invariant (fun list => list.Formed cityHash64 ∧ list.Linked) ?_
      ⟨initial_formed nReserve uninitialised, Paired.empty nofun⟩
    rintro state event after ⟨formed, linked⟩ ⟨allowed, performed⟩
    exact ⟨formed.perform performed, linked.perform formed allowed performed⟩
  exact ends.2.conflictsMatch ends.1

/-- A second login conflicts with the first, which then leaves, and a third follows. -/
theorem conflictsMatch_of_run_pair :
    Exists fun last => Run (Step byteHash) pair
      [login [65] 1 1, .setExtData 1 7, login [65] 2 2, .unregister 1 5, .setExtData 0 7,
        login [65] 3 3, .offlineByUid [65] 6] last ∧ last.ConflictsMatch := by
  have done : ([login [65] 1 1, .setExtData 1 7, login [65] 2 2, .unregister 1 5,
      .setExtData 0 7, login [65] 3 3, .offlineByUid [65] 6].foldlM
        (fun (list : AccountStateList) event =>
          if list.KeepsLinks byteHash event then list.perform byteHash event else none)
        pair).isSome = true := by decide
  have run := (Run.of_foldlM _ (Option.some_get done).symm).mono
    fun state event next once => Option.ite_none_right_eq_some.mp once
  exact ⟨_, run.mono fun _ _ _ once => once.2, conflictsMatch_of_run byteHash 2 _ _ _ run⟩

/-- One of two conflicting accounts is kicked by its uid: the other keeps its mark. -/
theorem conflictsMatch_refuted :
    Exists fun last => Run (Step byteHash) pair
      [login [65] 1 1, .setExtData 1 7, login [65] 2 2, .kickByUid [65] 5] last ∧
      ¬ last.ConflictsMatch := by
  have computed : ([login [65] 1 1, .setExtData 1 7, login [65] 2 2, .kickByUid [65] 5].foldlM
      (perform byteHash) pair).map (fun last =>
        (last.live 0, last.live 1, decide (0 < (last.account 0).conflictKeyid),
          last.pool.totalSize)) = some (true, false, true, 2) := by decide
  rcases Option.map_eq_some_iff.mp computed with ⟨last, done, facts⟩
  have run : Run (Step byteHash) pair _ last := Run.of_foldlM _ done
  simp only [Prod.mk.injEq, decide_eq_true_eq] at facts
  rcases facts with ⟨stays, gone, marked, size⟩
  refine ⟨last, run, fun agree => ?_⟩
  rcases agree.1 0 stays marked with ⟨other, inUse, apart, _⟩
  have inside := (run_formed run).inside inUse
  rw [size] at inside
  have second : other = 1 := by omega
  rw [second, gone] at inUse
  cases inUse

end AccountStateList
end NetSystem
