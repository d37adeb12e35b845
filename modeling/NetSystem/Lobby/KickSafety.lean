import NetSystem.Base.ObjectPoolRuns
import NetSystem.Lobby.OnlineCount

namespace NetSystem

/-!
# Kicking an account that is not in use

`Kick` takes any index id and looks at `is_ready` of the slot, not at whether
the slot is in use.  An account that was released is not ready, so that its slot
is left alone.  A slot that was never allocated holds what `SafeInit` left in
it, which is whatever memory `new` returned: where `is_ready` happens to be
true there, `Kick` releases an account that was never there.
-/

/-- The id that a call kicks. -/
def AccountEvent.kickedId : AccountEvent -> Option Nat
  | .kick nIndexId _ => some nIndexId
  | _ => none

namespace AccountStateList

variable {cityHash64 : List UInt8 -> Nat} {uninitialised : Nat -> AccountState}
  {list next : AccountStateList} {index other : Nat}

/-- The slot of an id was allocated at some time, or its memory does not look
like a ready account. -/
def Kickable (uninitialised : Nat -> AccountState) (list : AccountStateList) (nIndexId : Nat) :
    Prop :=
  forall index, index ∈ list.pool.get nIndexId ->
    index ∈ list.handedOut ∨ (uninitialised index).isReady = false

instance (nIndexId : Nat) : Decidable (list.Kickable uninitialised nIndexId) := by
  unfold Kickable
  infer_instance

/-- Only one account has been released: its slot is free, the entries for its
keys are gone, unless a key is zero, and the counter has lost it if it was online. -/
structure ReleasesOnly (cityHash64 : List UInt8 -> Nat) (list : AccountStateList) (index : Nat)
    (next : AccountStateList) : Prop where
  used : next.pool.used = Function.update list.pool.used index false
  unusedIds : next.pool.unusedIds = list.pool.unusedIds ++ [index + 1]
  others : forall other, other ≠ index -> next.account other = list.account other
  erasedUid : next.mapUidHash2ConnState (cityHash64 (list.account index).uid) = none
  erasedConnId : 0 < (list.account index).routeTable.connid ->
    next.mapConnId2ConnState (list.account index).routeTable.connid = none
  erasedInnerUuid : 0 < (list.account index).routeTable.innerUuid ->
    next.mapInnerUuid2ConnState (list.account index).routeTable.innerUuid = none
  uidHash : forall key, key ≠ cityHash64 (list.account index).uid ->
    next.mapUidHash2ConnState key = list.mapUidHash2ConnState key
  connId : forall key, key ≠ (list.account index).routeTable.connid ->
    next.mapConnId2ConnState key = list.mapConnId2ConnState key
  innerUuid : forall key, key ≠ (list.account index).routeTable.innerUuid ->
    next.mapInnerUuid2ConnState key = list.mapInnerUuid2ConnState key
  counter : next.szOnlineCount + (if (list.account index).routeTable.onoff = .online then 1 else 0) =
    list.szOnlineCount

/-- No cache entry, counter, used flag or free-list entry has changed. -/
structure Unaffected (list next : AccountStateList) : Prop where
  used : next.pool.used = list.pool.used
  unusedIds : next.pool.unusedIds = list.pool.unusedIds
  uidHash : next.mapUidHash2ConnState = list.mapUidHash2ConnState
  connId : next.mapConnId2ConnState = list.mapConnId2ConnState
  innerUuid : next.mapInnerUuid2ConnState = list.mapInnerUuid2ConnState
  counter : next.szOnlineCount = list.szOnlineCount

section Hashed

variable (cityHash64)

/-- `Kick` returns, and releases exactly the account with the id if it is in
use, and changes nothing otherwise. -/
def KickSafe (list : AccountStateList) (nIndexId : Nat) (tmNow : Int) : Prop :=
  Exists fun index => list.pool.get nIndexId = some index ∧
    Exists fun next => list.kick cityHash64 nIndexId tmNow = some next ∧
      (list.live index = true -> list.ReleasesOnly cityHash64 index next) ∧
      (list.live index = false -> list.Unaffected next)

/-- One call, where `Kick` takes any id. -/
def performAny (list : AccountStateList) : AccountEvent -> Option AccountStateList
  | .kick nIndexId tmNow => list.kick cityHash64 nIndexId tmNow
  | event => list.perform cityHash64 event

/-- One call; what is kicked is in use, was in use, or does not look ready. -/
def KickStep (uninitialised : Nat -> AccountState) (list : AccountStateList)
    (event : AccountEvent) (next : AccountStateList) : Prop :=
  list.performAny cityHash64 event = some next ∧
    forall nIndexId, nIndexId ∈ event.kickedId -> list.Kickable uninitialised nIndexId

end Hashed

/-! ## Slots that were never allocated -/

/-- Accounts in use have been given out, and a slot that never was is as ready as
its memory looked at first. -/
structure Untouched (uninitialised : Nat -> AccountState) (list : AccountStateList) : Prop where
  handed : forall index, list.live index = true -> index ∈ list.handedOut
  same : forall index, index ∉ list.handedOut ->
    (list.account index).isReady = (uninitialised index).isReady

/-- Nothing is given out, and only accounts in use become ready or unready. -/
theorem Untouched.changed (untouched : list.Untouched uninitialised)
    (handedOut : next.handedOut = list.handedOut)
    (live : forall index, next.live index = true -> list.live index = true)
    (others : forall index, list.live index = false ->
      (next.account index).isReady = (list.account index).isReady) :
    next.Untouched uninitialised := by
  refine ⟨?_, ?_⟩
  · intro index still
    rw [handedOut]
    exact untouched.handed index (live index still)
  · intro index absent
    rw [handedOut] at absent
    have free : list.live index = false :=
      Bool.eq_false_iff.mpr fun inUse => absent (untouched.handed index inUse)
    rw [others index free]
    exact untouched.same index absent

/-- An account that is free is not the one in use. -/
theorem ne_of_live (inUse : list.live index = true) (free : list.live other = false) :
    other ≠ index := by
  rintro rfl
  rw [inUse] at free
  cases free

theorem Untouched.setAccount (untouched : list.Untouched uninitialised)
    (inUse : list.live index = true) (state : AccountState) :
    (list.setAccount index state).Untouched uninitialised := by
  refine untouched.changed rfl (fun _ still => still) fun other free => ?_
  rw [account_setAccount_ne state (ne_of_live inUse free)]

theorem Untouched.remarked (untouched : list.Untouched uninitialised) (marks : Nat -> Nat) :
    (list.remarked marks).Untouched uninitialised :=
  untouched.changed rfl (fun _ still => still) fun _ _ => rfl

theorem Untouched.released (untouched : list.Untouched uninitialised)
    (inUse : list.live index = true) (tmNow : Int) :
    (list.released cityHash64 index tmNow).Untouched uninitialised := by
  refine untouched.changed (released_handedOut tmNow) (fun _ still => (live_of_released still).2)
    fun other free => ?_
  rw [released_account_ne tmNow (ne_of_live inUse free)]

theorem Untouched.offline (untouched : list.Untouched uninitialised)
    (inUse : list.live index = true) (tmNow : Int) :
    (list.offline index tmNow).Untouched uninitialised := by
  refine untouched.changed (offline_frame list index tmNow).1 (fun other still => ?_)
    fun other free => ?_
  · rwa [offline_live] at still
  · rw [offline_account_ne (ne_of_live inUse free)]

/-- A new account is given out. -/
theorem Untouched.admitted (untouched : list.Untouched uninitialised) (state : AccountState) :
    (list.admitted index state).Untouched uninitialised := by
  refine ⟨?_, ?_⟩
  · intro other inUse
    change other ∈ list.handedOut ++ [index]
    rcases live_of_admitted inUse with rfl | ⟨_, before⟩
    · exact List.mem_append_right _ (List.mem_singleton_self other)
    · exact List.mem_append_left _ (untouched.handed other before)
  · intro other absent
    change other ∉ list.handedOut ++ [index] at absent
    rw [List.mem_append, List.mem_singleton, not_or] at absent
    rw [admitted_account_ne state absent.2]
    exact untouched.same other absent.1

/-- Every change keeps it. -/
theorem Untouched.move (untouched : list.Untouched uninitialised) (formed : list.Formed cityHash64)
    (change : AccountMove) (possible : list.Possible cityHash64 change) :
    (list.move cityHash64 change).Untouched uninitialised := by
  cases change with
  | cacheUid sUid index => exact untouched.changed rfl (fun _ still => still) fun _ _ => rfl
  | cacheConnId uConnId index => exact untouched.changed rfl (fun _ still => still) fun _ _ => rfl
  | cacheInnerUuid uInnerUuid index =>
      exact untouched.changed rfl (fun _ still => still) fun _ _ => rfl
  | join index registration => exact untouched.admitted _
  | joinConflict index conflict registration =>
      rcases possible with ⟨_, _, ⟨inUse, _⟩, _⟩
      exact Untouched.admitted (untouched.setAccount inUse _) _
  | rebind index registration =>
      rcases possible with ⟨_, ⟨inUse, _⟩, _⟩
      have bound := untouched.setAccount inUse (rebound (list.account index) registration)
      rw [AccountStateList.move, bindAccount_eq]
      exact bound.changed rfl (fun _ still => still) fun _ _ => rfl
  | release index tmNow => exact untouched.released possible tmNow
  | unregister index tmNow =>
      rcases formed.clearConflict_eq possible with ⟨marks, cleared, _⟩
      rw [AccountStateList.move, cleared]
      exact (untouched.remarked marks).released possible tmNow
  | offline index tmNow => exact untouched.offline possible tmNow
  | keepAlive index tmNow =>
      rw [AccountStateList.move, AccountStateList.keepAlive]
      split
      · exact untouched.setAccount possible _
      · exact untouched
  | setExtData index extData => exact untouched.setAccount possible _

theorem Untouched.run {changes : List AccountMove} (untouched : list.Untouched uninitialised)
    (formed : list.Formed cityHash64) (run : Run (MoveStep cityHash64) list changes next) :
    next.Untouched uninitialised := by
  refine (run.invariant (fun list => list.Formed cityHash64 ∧ list.Untouched uninitialised) ?_
    ⟨formed, untouched⟩).2
  rintro state change after ⟨formed, untouched⟩ ⟨possible, rfl⟩
  exact ⟨formed.move change possible, untouched.move formed change possible⟩

/-! ## One kick -/

/-- A slot that is free and may be kicked is not ready. -/
theorem Untouched.unready (untouched : list.Untouched uninitialised)
    (formed : list.Formed cityHash64) (free : list.live index = false)
    (harmless : index ∈ list.handedOut ∨ (uninitialised index).isReady = false) :
    (list.account index).isReady = false := by
  by_cases handed : index ∈ list.handedOut
  · exact formed.retired index handed free
  · rw [untouched.same index handed]
    exact harmless.resolve_left handed

theorem releaseInternal_unready (unready : (list.account index).isReady = false) (tmNow : Int) :
    list.releaseInternal cityHash64 index tmNow = some list := by
  rw [releaseInternal, unready]
  rfl

/-- What looks ready takes some account out of use. -/
theorem releaseInternal_ready (ready : (list.account index).isReady = true) {tmNow : Int}
    (done : list.releaseInternal cityHash64 index tmNow = some next) :
    Exists fun other => list.live other = true ∧
      next.pool.used = Function.update list.pool.used other false := by
  rw [releaseInternal, if_pos ready] at done
  rcases Option.map_eq_some_iff.mp done with ⟨pool, freed, rfl⟩
  rw [offline_pool] at freed
  rcases ObjectPool.used_of_releaseInternal freed with ⟨other, used, after⟩
  exact ⟨other, used, after⟩

theorem eraseKey_self (map : Nat -> Option Nat) {key : Nat} (positive : 0 < key) :
    eraseKey map key key = none := by
  rw [eraseKey, if_pos positive, Function.update_self]

theorem eraseKey_of_ne (map : Nat -> Option Nat) {key other : Nat} (different : other ≠ key) :
    eraseKey map key other = map other := by
  rw [eraseKey]
  split
  · exact Function.update_of_ne different ..
  · rfl

/-- An account in use that is released is the only one. -/
theorem Formed.releasesOnly (formed : list.Formed cityHash64) (counted : list.Counted)
    (inUse : list.live index = true) (tmNow : Int) :
    list.ReleasesOnly cityHash64 index (list.released cityHash64 index tmNow) where
  used := released_live tmNow
  unusedIds := by
    rw [released_eq]
    rfl
  others := fun _ different => released_account_ne tmNow different
  erasedUid := by
    rw [released_mapUidHash2ConnState, Function.update_self]
  erasedConnId := by
    intro positive
    rw [released_mapConnId2ConnState]
    exact eraseKey_self _ positive
  erasedInnerUuid := by
    intro positive
    rw [released_mapInnerUuid2ConnState]
    exact eraseKey_self _ positive
  uidHash := by
    intro key different
    rw [released_mapUidHash2ConnState, Function.update_of_ne different]
  connId := by
    intro key different
    rw [released_mapConnId2ConnState]
    exact eraseKey_of_ne _ different
  innerUuid := by
    intro key different
    rw [released_mapInnerUuid2ConnState]
    exact eraseKey_of_ne _ different
  counter := by
    have positive := (counted.released formed inUse tmNow).positive list.szOnlineCount
    rw [released_eq] at positive ⊢
    dsimp only at positive ⊢
    split at positive
    next isOnline =>
      have nonzero := positive (List.mem_append_right _ (List.mem_singleton_self _))
      rw [if_pos isOnline, if_pos isOnline]
      change (if list.szOnlineCount = 0 then _ else _) + 1 = _
      rw [if_neg (Nat.ne_of_gt nonzero), Nat.sub_add_cancel nonzero]
    next isOffline =>
      rw [if_neg isOffline, if_neg isOffline]
      rfl

/-! ## Whole runs -/

/-- What holds between calls, whatever is kicked. -/
structure Kept (cityHash64 : List UInt8 -> Nat) (uninitialised : Nat -> AccountState)
    (list : AccountStateList) : Prop where
  formed : list.Formed cityHash64
  counted : list.Counted
  untouched : list.Untouched uninitialised

/-- A call without a kick, or a kick of an account in use. -/
theorem Kept.perform (kept : list.Kept cityHash64 uninitialised) {event : AccountEvent}
    (performed : list.perform cityHash64 event = some next) :
    next.Kept cityHash64 uninitialised := by
  have changes := kept.formed.perform_run performed
  exact ⟨kept.formed.run changes, kept.counted.run kept.formed changes,
    kept.untouched.run kept.formed changes⟩

theorem Kept.kick (kept : list.Kept cityHash64 uninitialised) {nIndexId : Nat} {tmNow : Int}
    (kicked : list.kick cityHash64 nIndexId tmNow = some next)
    (kickable : list.Kickable uninitialised nIndexId) : next.Kept cityHash64 uninitialised := by
  rcases Option.bind_eq_some_iff.mp kicked with ⟨index, named, done⟩
  cases inUse : list.live index with
  | true =>
      have allocated : (list.pool.get nIndexId).any list.live = true := by
        rw [named, Option.any_some, inUse]
      have performed : list.perform cityHash64 (.kick nIndexId tmNow) = some next :=
        (if_pos allocated).trans kicked
      exact kept.perform performed
  | false =>
      have unready := kept.untouched.unready kept.formed inUse (kickable index named)
      rw [releaseInternal_unready unready] at done
      cases done
      exact kept

/-- Other calls are as before. -/
theorem performAny_eq {event : AccountEvent}
    (notKick : forall nIndexId tmNow, event ≠ .kick nIndexId tmNow) :
    list.performAny cityHash64 event = list.perform cityHash64 event := by
  cases event with
  | kick nIndexId tmNow => exact absurd rfl (notKick nIndexId tmNow)
  | _ => rfl

theorem Kept.step (kept : list.Kept cityHash64 uninitialised) {event : AccountEvent}
    (step : KickStep cityHash64 uninitialised list event next) :
    next.Kept cityHash64 uninitialised := by
  rcases step with ⟨performed, kickable⟩
  by_cases isKick : Exists fun nIndexId => Exists fun tmNow => event = .kick nIndexId tmNow
  · rcases isKick with ⟨nIndexId, tmNow, rfl⟩
    exact kept.kick performed (kickable nIndexId rfl)
  · rw [performAny_eq fun nIndexId tmNow same => isKick ⟨nIndexId, tmNow, same⟩] at performed
    exact kept.perform performed

theorem initial_kept (nReserve : Fin (2 ^ 31)) (uninitialised : Nat -> AccountState) :
    (initial nReserve uninitialised).Kept cityHash64 uninitialised :=
  ⟨initial_formed nReserve uninitialised, initial_counted nReserve uninitialised,
    ⟨nofun, fun _ _ => rfl⟩⟩

theorem run_kept {nReserve : Fin (2 ^ 31)} {events : List AccountEvent} {last : AccountStateList}
    (run : Run (KickStep cityHash64 uninitialised) (initial nReserve uninitialised) events last) :
    last.Kept cityHash64 uninitialised :=
  run.invariant (Kept cityHash64 uninitialised) (fun _ _ _ kept step => kept.step step)
    (initial_kept nReserve uninitialised)

theorem Kept.kickSafe (kept : list.Kept cityHash64 uninitialised) {nIndexId : Nat}
    (named : list.pool.get nIndexId = some index)
    (harmless : index ∈ list.handedOut ∨ (uninitialised index).isReady = false) (tmNow : Int) :
    list.KickSafe cityHash64 nIndexId tmNow := by
  refine ⟨index, named, ?_⟩
  rw [AccountStateList.kick, named, Option.bind_some]
  cases inUse : list.live index with
  | true =>
      refine ⟨_, kept.formed.releaseInternal_eq inUse tmNow, fun _ => ?_, nofun⟩
      exact kept.formed.releasesOnly kept.counted inUse tmNow
  | false =>
      have unready := kept.untouched.unready kept.formed inUse harmless
      exact ⟨list, releaseInternal_unready unready tmNow, nofun,
        fun _ => ⟨rfl, rfl, rfl, rfl, rfl, rfl⟩⟩

theorem Kept.kickable (kept : list.Kept cityHash64 uninitialised) {nIndexId : Nat} {tmNow : Int}
    (safe : list.KickSafe cityHash64 nIndexId tmNow) : list.Kickable uninitialised nIndexId := by
  rcases safe with ⟨index, named, next, done, _, unaffected⟩
  intro other same
  cases named.symm.trans same
  rw [AccountStateList.kick, named, Option.bind_some] at done
  by_cases handed : index ∈ list.handedOut
  · exact .inl handed
  · refine .inr (Bool.eq_false_iff.mpr fun looksReady => ?_)
    have free : list.live index = false :=
      Bool.eq_false_iff.mpr fun inUse => handed (kept.untouched.handed index inUse)
    have ready := (kept.untouched.same index handed).trans looksReady
    -- a ready slot always takes an account out of use, if not its own
    rcases releaseInternal_ready ready done with ⟨victim, inUse, used⟩
    have still := congrFun (used.symm.trans (unaffected free).used) victim
    rw [Function.update_self] at still
    exact Bool.false_ne_true (still.trans inUse)

/-- After any calls a kick is safe exactly where the slot was allocated before, or does
not look like a ready account. -/
theorem kick_safe_iff (cityHash64 : List UInt8 -> Nat) (nReserve : Fin (2 ^ 31))
    (uninitialised : Nat -> AccountState) (events : List AccountEvent) (last : AccountStateList)
    (run : Run (KickStep cityHash64 uninitialised) (initial nReserve uninitialised) events last)
    (nIndexId : Nat) (numbered : last.pool.Numbers nIndexId) (tmNow : Int) :
    last.KickSafe cityHash64 nIndexId tmNow ↔ last.Kickable uninitialised nIndexId := by
  have kept := run_kept run
  refine ⟨kept.kickable, fun kickable => ?_⟩
  rcases kept.formed.pool.position_of_numbers numbered with ⟨index, inside, rfl⟩
  have named := kept.formed.pool.get_objid inside
  exact kept.kickSafe named (kickable index named) tmNow

/-- Two slots in memory that looks like the account with the first key id. -/
def haunted (_ : Nat) : AccountState := ⟨600001, true, [66], [], [], ⟨0, 0, 0, .init, 0⟩, 0, 0⟩

/-- A run whose calls are computed, with the condition on what is kicked. -/
theorem kick_run_of_foldlM {first last : AccountStateList} (events : List AccountEvent)
    (done : events.foldlM (fun (list : AccountStateList) event =>
      if forall nIndexId, nIndexId ∈ event.kickedId -> list.Kickable uninitialised nIndexId then
        list.performAny cityHash64 event else none) first = some last) :
    Run (KickStep cityHash64 uninitialised) first events last :=
  (Run.of_foldlM events done).mono fun _ _ _ once => (Option.ite_none_right_eq_some.mp once).symm

/-- A player logs in and is kicked twice, next to a slot that was never allocated. -/
theorem kick_safe_iff_haunted :
    Exists fun last => Run (KickStep byteHash haunted) (initial 2 haunted)
      [login [65] 1 1, .kick 600001 5] last ∧
      last.KickSafe byteHash 600001 6 ∧ ¬ last.KickSafe byteHash 600002 6 := by
  have computed : ([login [65] 1 1, .kick 600001 5].foldlM
      (fun (list : AccountStateList) event =>
        if forall nIndexId, nIndexId ∈ event.kickedId -> list.Kickable haunted nIndexId then
          list.performAny byteHash event else none)
      (initial 2 haunted)).map (fun last =>
        (decide (last.pool.Numbers 600001), decide (last.pool.Numbers 600002),
          decide (last.Kickable haunted 600001), decide (last.Kickable haunted 600002))) =
      some (true, true, true, false) := by decide
  rcases Option.map_eq_some_iff.mp computed with ⟨last, done, facts⟩
  simp only [Prod.mk.injEq, decide_eq_true_eq, decide_eq_false_iff_not] at facts
  rcases facts with ⟨first, second, kickable, unkickable⟩
  have run := kick_run_of_foldlM _ done
  have safe := kick_safe_iff byteHash 2 haunted _ _ run
  refine ⟨last, run, (safe 600001 first 6).mpr kickable, fun wrong => ?_⟩
  exact unkickable ((safe 600002 second 6).mp wrong)

/-- A kick of the slot that was never allocated takes the account of the player who
logged in out of use. -/
theorem kick_releases_another :
    Exists fun last => Run (KickStep byteHash haunted) (initial 2 haunted) [login [65] 1 1] last ∧
      last.pool.Numbers 600002 ∧ last.pool.get 600002 = some 0 ∧ last.live 0 = false ∧
      last.live 1 = true ∧ (last.kick byteHash 600002 5).map (fun next => next.live 1) = some false ∧
      (last.kick byteHash 600002 5).map (fun next => next.pool.unusedIds) = some [1, 2] ∧
      ¬ last.KickSafe byteHash 600002 5 := by
  have computed : ([login [65] 1 1].foldlM
      (fun (list : AccountStateList) event =>
        if forall nIndexId, nIndexId ∈ event.kickedId -> list.Kickable haunted nIndexId then
          list.performAny byteHash event else none)
      (initial 2 haunted)).map (fun last =>
        ((decide (last.pool.Numbers 600002), last.pool.get 600002, last.live 0, last.live 1),
          (last.kick byteHash 600002 5).map fun next => next.live 1,
          (last.kick byteHash 600002 5).map fun next => next.pool.unusedIds,
          decide (last.Kickable haunted 600002))) =
      some ((true, some 0, false, true), some false, some [1, 2], false) := by decide
  rcases Option.map_eq_some_iff.mp computed with ⟨last, done, facts⟩
  simp only [Prod.mk.injEq, decide_eq_true_eq, decide_eq_false_iff_not] at facts
  rcases facts with ⟨⟨numbered, named, free, inUse⟩, freed, stacked, unkickable⟩
  have run := kick_run_of_foldlM _ done
  refine ⟨last, run, numbered, named, free, inUse, freed, stacked, fun safe => ?_⟩
  exact unkickable ((run_kept run).kickable safe)

end AccountStateList
end NetSystem
