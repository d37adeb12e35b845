import NetSystem.Lobby.AccountCalls

namespace NetSystem

/-!
# The online counter

`Online` computes `_szOnlineCount` by a scan, and `Offline` decrements it where the
account is online.  The two agree: an account that goes offline, or is released,
is one less among those that the scan counts, and every other change either
counts again or leaves everybody in use as online as before.
-/

namespace AccountStateList

variable {cityHash64 : List UInt8 -> Nat} {list next : AccountStateList} {index : Nat}

/-- The account is in use and online. -/
def onlineFlag (list : AccountStateList) (index : Nat) : Bool :=
  list.live index && (list.account index).routeTable.onoff == .online

/-- The counter is what the scan counts, and has never been decremented from zero. -/
structure Counted (list : AccountStateList) : Prop where
  count : list.szOnlineCount = list.calcOnlineCount
  positive : forall value, value ∈ list.decrements -> 0 < value

theorem calcOnlineCount_eq :
    list.calcOnlineCount = (List.range list.pool.totalSize).countP list.onlineFlag := by
  unfold calcOnlineCount calcCount ObjectPool.usedObjects
  rw [List.countP_filter]
  congr 1
  funext index
  exact Bool.and_comm ..

/-- One item fewer passes. -/
theorem countP_except {test other : Nat -> Bool} {items : List Nat} {item : Nat}
    (distinct : items.Nodup) (member : item ∈ items) (passes : test item = true)
    (fails : other item = false) (same : forall another, another ≠ item ->
      other another = test another) :
    items.countP test = items.countP other + 1 := by
  have agree : forall rest : List Nat, item ∉ rest -> rest.countP test = rest.countP other := by
    intro rest absent
    apply List.countP_congr
    intro another present
    have different : another ≠ item := by
      rintro rfl
      exact absent present
    rw [same another different]
  induction items with
  | nil => cases member
  | cons head tail inductionHypothesis =>
      rcases List.nodup_cons.mp distinct with ⟨fresh, rest⟩
      rcases List.mem_cons.mp member with rfl | later
      · rw [List.countP_cons_of_pos passes, List.countP_cons_of_neg (by simp [fails]),
          agree tail fresh]
      · have different : head ≠ item := by
          rintro rfl
          exact fresh later
        rw [List.countP_cons, List.countP_cons, same head different,
          inductionHypothesis rest later]
        omega

/-- Nobody in use has gone online or offline, and the counter has been left alone. -/
theorem Counted.unchanged (counted : list.Counted)
    (size : next.pool.totalSize = list.pool.totalSize)
    (flags : forall index, next.onlineFlag index = list.onlineFlag index)
    (counter : next.szOnlineCount = list.szOnlineCount)
    (decrements : next.decrements = list.decrements) : next.Counted := by
  refine ⟨?_, decrements ▸ counted.positive⟩
  rw [counter, counted.count, calcOnlineCount_eq, calcOnlineCount_eq, size, funext flags]

/-- The counter has been computed anew. -/
theorem Counted.recomputed (counted : list.Counted)
    (counter : next.szOnlineCount = next.calcOnlineCount)
    (decrements : next.decrements = list.decrements) : next.Counted :=
  ⟨counter, decrements ▸ counted.positive⟩

/-- An account has gone offline, and the counter has been decremented if it was online. -/
theorem Counted.without (counted : list.Counted) (inside : index < list.pool.totalSize)
    (size : next.pool.totalSize = list.pool.totalSize)
    (here : next.onlineFlag index = false)
    (others : forall other, other ≠ index -> next.onlineFlag other = list.onlineFlag other)
    {was : Bool} (before : list.onlineFlag index = was)
    (counter : next.szOnlineCount =
      if was then list.decrement.szOnlineCount else list.szOnlineCount)
    (decrements : next.decrements =
      if was then list.decrement.decrements else list.decrements) : next.Counted := by
  cases was with
  | false =>
      refine counted.unchanged size (fun other => ?_) counter decrements
      by_cases same : other = index
      · rw [same, here, before]
      · exact others other same
  | true =>
      have fewer := countP_except List.nodup_range (List.mem_range.mpr inside) before here others
      rw [← calcOnlineCount_eq, ← size, ← calcOnlineCount_eq, ← counted.count] at fewer
      refine ⟨?_, ?_⟩
      · have nonzero : ¬ list.szOnlineCount = 0 := by omega
        rw [counter, if_pos rfl, decrement, if_neg nonzero, fewer, Nat.add_sub_cancel]
      · rw [decrements, if_pos rfl]
        intro value member
        rcases List.mem_append.mp member with earlier | last
        · exact counted.positive value earlier
        · rw [List.mem_singleton.mp last, fewer]
          exact Nat.succ_pos _

theorem onlineFlag_of_live (inUse : list.live index = true) :
    list.onlineFlag index = ((list.account index).routeTable.onoff == .online) := by
  rw [onlineFlag, inUse, Bool.true_and]

theorem Counted.offline (counted : list.Counted) (formed : list.Formed cityHash64)
    (inUse : list.live index = true) (tmNow : Int) : (list.offline index tmNow).Counted := by
  refine counted.without (formed.inside inUse) ?_ ?_ ?_ (onlineFlag_of_live inUse) ?_ ?_
  · rw [offline_pool]
    rfl
  · rw [onlineFlag, account, offline_pool, ObjectPool.setData_data]
    exact Bool.and_false _
  · intro other different
    rw [onlineFlag, offline_live, offline_account_ne different]
    rfl
  · unfold AccountStateList.offline
    simp only [beq_iff_eq]
    split <;> rfl
  · unfold AccountStateList.offline
    simp only [beq_iff_eq]
    split <;> rfl

theorem Counted.released (counted : list.Counted) (formed : list.Formed cityHash64)
    (inUse : list.live index = true) (tmNow : Int) :
    (list.released cityHash64 index tmNow).Counted := by
  refine counted.without (formed.inside inUse) ?_ ?_ ?_ (onlineFlag_of_live inUse) ?_ ?_
  · rw [released_eq]
    rfl
  · rw [onlineFlag, released_live, Function.update_self]
    rfl
  · intro other different
    rw [onlineFlag, released_live, Function.update_of_ne different,
      released_account_ne tmNow different]
    rfl
  · rw [released_eq]
    simp only [beq_iff_eq]
    split <;> rfl
  · rw [released_eq]
    simp only [beq_iff_eq]
    split <;> rfl

/-- A field of an account has changed that is not its being online. -/
theorem Counted.setAccount (counted : list.Counted) (state : AccountState)
    (same : state.routeTable.onoff = (list.account index).routeTable.onoff) :
    (list.setAccount index state).Counted := by
  refine counted.unchanged rfl (fun other => ?_) rfl rfl
  rw [onlineFlag, onlineFlag, live_setAccount]
  by_cases here : other = index
  · rw [here, account_setAccount, same]
  · rw [account_setAccount_ne state here]

theorem Counted.remarked (counted : list.Counted) (marks : Nat -> Nat) :
    (list.remarked marks).Counted :=
  counted.unchanged rfl (fun _ => rfl) rfl rfl

/-- Every change keeps the counter right. -/
theorem Counted.move (counted : list.Counted) (formed : list.Formed cityHash64)
    (change : AccountMove) (possible : list.Possible cityHash64 change) :
    (list.move cityHash64 change).Counted := by
  cases change with
  | cacheUid sUid index => exact counted.unchanged rfl (fun _ => rfl) rfl rfl
  | cacheConnId uConnId index => exact counted.unchanged rfl (fun _ => rfl) rfl rfl
  | cacheInnerUuid uInnerUuid index => exact counted.unchanged rfl (fun _ => rfl) rfl rfl
  | join index registration => exact counted.recomputed rfl rfl
  | joinConflict index conflict registration => exact counted.recomputed rfl rfl
  | rebind index registration =>
      refine counted.recomputed ?_ ?_
      · change (list.bindAccount index registration).szOnlineCount = _
        rw [AccountStateList.move, bindAccount_eq]
        rfl
      · rw [AccountStateList.move, bindAccount_eq]
        rfl
  | release index tmNow => exact counted.released formed possible tmNow
  | unregister index tmNow =>
      rcases formed.clearConflict_eq possible with ⟨marks, cleared, fewer⟩
      rw [AccountStateList.move, cleared]
      exact (counted.remarked marks).released (formed.cleared fewer) possible tmNow
  | offline index tmNow => exact counted.offline formed possible tmNow
  | keepAlive index tmNow =>
      rw [AccountStateList.move, AccountStateList.keepAlive]
      split
      · exact counted.setAccount _ rfl
      · exact counted
  | setExtData index extData => exact counted.setAccount _ rfl

theorem Counted.run {changes : List AccountMove} (counted : list.Counted)
    (formed : list.Formed cityHash64) (run : Run (MoveStep cityHash64) list changes next) :
    next.Counted := by
  refine (run.invariant (fun list => list.Formed cityHash64 ∧ list.Counted) ?_
    ⟨formed, counted⟩).2
  rintro state change after ⟨formed, counted⟩ ⟨possible, rfl⟩
  exact ⟨formed.move change possible, counted.move formed change possible⟩

theorem initial_counted (nReserve : Fin (2 ^ 31)) (uninitialised : Nat -> AccountState) :
    (initial nReserve uninitialised).Counted := by
  refine ⟨?_, nofun⟩
  have empty : (initial nReserve uninitialised).pool.usedObjects = [] :=
    List.filter_eq_nil_iff.mpr nofun
  rw [calcOnlineCount, calcCount, empty]
  rfl

/-- Every account in use is online or offline. -/
theorem Formed.partition (formed : list.Formed cityHash64) :
    list.calcOnlineCount + list.getOfflineCount = list.getCount := by
  have split := List.length_eq_countP_add_countP (l := list.pool.usedObjects)
    fun index => (list.account index).routeTable.onoff == .online
  have offline : list.getOfflineCount = list.pool.usedObjects.countP
      fun index => ¬ ((list.account index).routeTable.onoff == .online) = true := by
    apply List.countP_congr
    intro index member
    have known := (formed.registered index (formed.pool.mem_usedObjects.mp member)).known
    cases state : (list.account index).routeTable.onoff with
    | init => exact absurd state known
    | online => rfl
    | offline => rfl
  rw [offline, getCount, formed.pool.getObjectNum_eq, split]
  rfl

/-- After any calls the counter is the number of accounts in use that are online, no
decrement was from zero, and the accounts in use are the online and the offline ones. -/
theorem getOnlineCount_eq (cityHash64 : List UInt8 -> Nat) (nReserve : Fin (2 ^ 31))
    (uninitialised : Nat -> AccountState) (events : List AccountEvent) (last : AccountStateList)
    (run : Run (Step cityHash64) (initial nReserve uninitialised) events last) :
    last.getOnlineCount =
      (last.pool.usedObjects.filter fun index =>
        (last.account index).routeTable.onoff == .online).length ∧
    (forall value, value ∈ last.decrements -> 0 < value) ∧
    (forall index, last.live index = true ->
      (last.account index).routeTable.onoff = .online ∨
        (last.account index).routeTable.onoff = .offline) ∧
    last.getOnlineCount + last.getOfflineCount = last.getCount := by
  have ends : last.Formed cityHash64 ∧ last.Counted := by
    refine run.invariant (fun list => list.Formed cityHash64 ∧ list.Counted) ?_
      ⟨initial_formed nReserve uninitialised, initial_counted nReserve uninitialised⟩
    rintro state event after ⟨formed, counted⟩ performed
    have changes := formed.perform_run performed
    exact ⟨formed.run changes, counted.run formed changes⟩
  rcases ends with ⟨formed, counted⟩
  refine ⟨?_, counted.positive, ?_, ?_⟩
  · rw [getOnlineCount, counted.count, calcOnlineCount, calcCount, List.countP_eq_length_filter]
  · intro index inUse
    have known := (formed.registered index inUse).known
    cases state : (last.account index).routeTable.onoff with
    | init => exact absurd state known
    | online => exact .inl rfl
    | offline => exact .inr rfl
  · rw [getOnlineCount, counted.count]
    exact formed.partition

/-- Two players log in, one goes offline twice and is released. -/
theorem getOnlineCount_eq_pair :
    Exists fun last => Run (Step byteHash) pair
      [login [65] 1 1, login [66] 2 2, .offlineByUid [65] 5, .offlineByUid [65] 6,
        .unregister 1 7] last ∧
      last.getOnlineCount =
        (last.pool.usedObjects.filter fun index =>
          (last.account index).routeTable.onoff == .online).length ∧
      last.getOnlineCount + last.getOfflineCount = last.getCount := by
  have done : ([login [65] 1 1, login [66] 2 2, .offlineByUid [65] 5, .offlineByUid [65] 6,
      .unregister 1 7].foldlM (perform byteHash) pair).isSome = true := by decide
  have run := Run.of_foldlM _ (Option.some_get done).symm
  have counted := getOnlineCount_eq byteHash 2 _ _ _ run
  exact ⟨_, run, counted.1, counted.2.2.2⟩

end AccountStateList
end NetSystem
