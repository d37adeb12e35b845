import NetSystem.Lobby.AccountCalls

namespace NetSystem

/-!
# How many accounts are kicked

`KickOfflineMoreThan` compares its limit with the size of the whole output list,
after a release.  The accounts released are therefore the first of those that
have been offline for long, as many as the limit leaves room for in the list,
but one at least.
-/

namespace AccountStateList

variable {cityHash64 : List UInt8 -> Nat} {list next : AccountStateList} {index : Nat}

/-- The accounts in use that have been offline for long, in the order of the pool. -/
def offlineLongs (list : AccountStateList) (nOfflineToleranceSeconds tmNow : Int) : List Nat :=
  list.pool.usedObjects.filter fun index =>
    offlineLong (list.account index) nOfflineToleranceSeconds tmNow

/-- Exactly these accounts are out of use, and the others are as before. -/
structure ReleasedAll (list : AccountStateList) (indices : List Nat) (next : AccountStateList) :
    Prop where
  live : forall index, next.live index = true ↔ list.live index = true ∧ index ∉ indices
  account : forall index, index ∉ indices -> next.account index = list.account index

theorem foldl_released_releasedAll (indices : List Nat) (list : AccountStateList) (tmNow : Int) :
    list.ReleasedAll indices
      (indices.foldl (fun list index => list.released cityHash64 index tmNow) list) := by
  induction indices generalizing list with
  | nil =>
      constructor
      · simp
      · intro index _
        rfl
  | cons first indices inductionHypothesis =>
      rw [List.foldl_cons]
      have rest := inductionHypothesis (list.released cityHash64 first tmNow)
      constructor
      · intro index
        rw [rest.live, List.mem_cons, not_or]
        constructor
        · rintro ⟨still, absent⟩
          rcases live_of_released still with ⟨different, before⟩
          exact ⟨before, different, absent⟩
        · rintro ⟨before, different, absent⟩
          rw [released_live, Function.update_of_ne different]
          exact ⟨before, absent⟩
      · intro index absent
        rw [List.mem_cons, not_or] at absent
        rw [rest.account index absent.2, released_account_ne tmNow absent.1]

/-- The account is in use and has been offline for long. -/
def gone (list : AccountStateList) (nOfflineToleranceSeconds tmNow : Int) (index : Nat) : Bool :=
  list.live index && offlineLong (list.account index) nOfflineToleranceSeconds tmNow

/-- The accounts that the loop adds to the output list. -/
theorem kickOfflineLoop_out (nOfflineToleranceSeconds : Int) (nKickNumMax : Nat) (tmNow : Int)
    (vOutKickedList : List Nat) {items : List Nat} (distinct : items.Nodup)
    (formed : list.Formed cityHash64) :
    (kickOfflineLoop cityHash64 nOfflineToleranceSeconds nKickNumMax tmNow list vOutKickedList
      items).map (fun done => done.2) =
      some (vOutKickedList ++ (items.filter (list.gone nOfflineToleranceSeconds tmNow)).take
        (max 1 (nKickNumMax - vOutKickedList.length))) := by
  induction items generalizing list vOutKickedList with
  | nil => simp [kickOfflineLoop]
  | cons index items inductionHypothesis =>
      rcases List.nodup_cons.mp distinct with ⟨fresh, rest⟩
      rw [kickOfflineLoop]
      by_cases passes : list.live index = true ∧
          (list.account index).routeTable.onoff = .offline ∧
            nOfflineToleranceSeconds ≤ tmNow - (list.account index).routeTable.onoffTime
      · have test : list.gone nOfflineToleranceSeconds tmNow index = true := by
          simpa [gone, offlineLong] using passes
        have later : items.filter
            ((list.released cityHash64 index tmNow).gone nOfflineToleranceSeconds tmNow) =
              items.filter (list.gone nOfflineToleranceSeconds tmNow) :=
          (independent_kickOffline nOfflineToleranceSeconds tmNow).filter_eq formed test fresh
        rw [if_pos passes, formed.releaseInternal_eq passes.1 tmNow, Option.bind_some,
          List.filter_cons_of_pos test]
        by_cases enough : nKickNumMax ≤ (vOutKickedList ++ [index]).length
        · rw [if_pos enough]
          have one : max 1 (nKickNumMax - vOutKickedList.length) = 1 := by
            rw [List.length_append, List.length_singleton] at enough
            omega
          rw [one]
          rfl
        · rw [if_neg enough, inductionHypothesis _ rest (formed.released passes.1 tmNow), later]
          have more : max 1 (nKickNumMax - vOutKickedList.length) =
              max 1 (nKickNumMax - (vOutKickedList ++ [index]).length) + 1 := by
            rw [List.length_append, List.length_singleton] at enough ⊢
            omega
          rw [more, List.take_succ_cons, List.append_assoc]
          rfl
      · have test : Not (list.gone nOfflineToleranceSeconds tmNow index = true) := by
          simpa [gone, offlineLong] using passes
        rw [if_neg passes, inductionHypothesis _ rest formed, List.filter_cons_of_neg test]

/-- What `KickOfflineMoreThan` returns. -/
theorem Formed.kickOfflineMoreThan_eq (formed : list.Formed cityHash64)
    (nOfflineToleranceSeconds : Int) (nKickNumMax : Nat) (tmNow : Int)
    (vOutKickedList : List Nat) :
    Exists fun next =>
      list.kickOfflineMoreThan cityHash64 nOfflineToleranceSeconds nKickNumMax tmNow
          vOutKickedList =
        some (next, vOutKickedList ++ (list.offlineLongs nOfflineToleranceSeconds tmNow).take
          (max 1 (nKickNumMax - vOutKickedList.length))) ∧
      list.ReleasedAll ((list.offlineLongs nOfflineToleranceSeconds tmNow).take
        (max 1 (nKickNumMax - vOutKickedList.length))) next := by
  have distinct : (List.range list.pool.totalSize).Nodup := List.nodup_range
  have state := (independent_kickOffline nOfflineToleranceSeconds tmNow).upTo_eq distinct formed
    (Nat.le_max_left 1 (nKickNumMax - vOutKickedList.length))
  rw [← kickOfflineLoop_eq nOfflineToleranceSeconds nKickNumMax tmNow vOutKickedList] at state
  have out := kickOfflineLoop_out nOfflineToleranceSeconds nKickNumMax tmNow vOutKickedList distinct
    formed
  have walked : (List.range list.pool.totalSize).filter (list.gone nOfflineToleranceSeconds tmNow) =
      list.offlineLongs nOfflineToleranceSeconds tmNow :=
    filter_range fun index => offlineLong (list.account index) nOfflineToleranceSeconds tmNow
  unfold gone at out walked
  rw [walked] at state out
  rcases Option.map_eq_some_iff.mp state with ⟨done, returned, first⟩
  rw [kickOfflineMoreThan, returned]
  rw [returned, Option.map_some, Option.some.injEq] at out
  refine ⟨done.1, ?_, ?_⟩
  · rw [← out]
  · rw [first]
    apply foldl_released_releasedAll

/-! ## The limit -/

/-- The call releases the first accounts that have been offline for long, as
many as the limit says, adds them to the output list and changes no others. -/
def RespectsLimit (cityHash64 : List UInt8 -> Nat) (list : AccountStateList)
    (nOfflineToleranceSeconds : Int) (nKickNumMax : Nat) (tmNow : Int)
    (vOutKickedList : List Nat) : Prop :=
  Exists fun next =>
    list.kickOfflineMoreThan cityHash64 nOfflineToleranceSeconds nKickNumMax tmNow vOutKickedList =
      some (next, vOutKickedList ++
        (list.offlineLongs nOfflineToleranceSeconds tmNow).take nKickNumMax) ∧
    list.ReleasedAll ((list.offlineLongs nOfflineToleranceSeconds tmNow).take nKickNumMax) next

/-- Nobody has been offline for long; or the limit is not 0, and the output list
was empty, or the limit or the number of such accounts is 1, or there is room
for all of them. -/
def LimitFits (list : AccountStateList) (nOfflineToleranceSeconds : Int) (nKickNumMax : Nat)
    (tmNow : Int) (vOutKickedList : List Nat) : Prop :=
  let eligible := (list.offlineLongs nOfflineToleranceSeconds tmNow).length
  eligible = 0 ∨ (0 < nKickNumMax ∧
    (vOutKickedList = [] ∨ nKickNumMax = 1 ∨ eligible = 1 ∨
      vOutKickedList.length + eligible ≤ nKickNumMax))

/-- In every reachable list the limit is respected exactly when it fits. -/
theorem respectsLimit_iff_limitFits (cityHash64 : List UInt8 -> Nat) (nReserve : Fin (2 ^ 31))
    (uninitialised : Nat -> AccountState) (events : List AccountEvent) (list : AccountStateList)
    (run : Run (Step cityHash64) (initial nReserve uninitialised) events list)
    (nOfflineToleranceSeconds : Int) (nKickNumMax : Nat) (tmNow : Int)
    (vOutKickedList : List Nat) :
    RespectsLimit cityHash64 list nOfflineToleranceSeconds nKickNumMax tmNow vOutKickedList ↔
      list.LimitFits nOfflineToleranceSeconds nKickNumMax tmNow vOutKickedList := by
  rcases (run_formed run).kickOfflineMoreThan_eq nOfflineToleranceSeconds nKickNumMax tmNow
    vOutKickedList with ⟨next, returned, released⟩
  have empty : vOutKickedList = [] ↔ vOutKickedList.length = 0 := List.length_eq_zero_iff.symm
  -- both lists are the first eligible accounts, so only their lengths count
  have same : (list.offlineLongs nOfflineToleranceSeconds tmNow).take
        (max 1 (nKickNumMax - vOutKickedList.length)) =
      (list.offlineLongs nOfflineToleranceSeconds tmNow).take nKickNumMax ↔
        list.LimitFits nOfflineToleranceSeconds nKickNumMax tmNow vOutKickedList := by
    rw [List.take_eq_take_iff]
    unfold LimitFits
    dsimp only
    rw [empty]
    omega
  rw [← same]
  constructor
  · rintro ⟨next', returned', _⟩
    rw [returned, Option.some.injEq, Prod.mk.injEq] at returned'
    exact List.append_cancel_left returned'.2
  · intro equal
    rw [equal] at returned released
    exact ⟨next, returned, released⟩

/-- The limit 0, and two accounts that have been offline for long: one is kicked. -/
theorem not_respectsLimit_zero :
    Not (forall (cityHash64 : List UInt8 -> Nat) (nReserve : Fin (2 ^ 31))
      (uninitialised : Nat -> AccountState) (events : List AccountEvent) (list : AccountStateList),
      Run (Step cityHash64) (initial nReserve uninitialised) events list ->
        forall (nOfflineToleranceSeconds : Int) (nKickNumMax : Nat) (tmNow : Int)
          (vOutKickedList : List Nat),
          RespectsLimit cityHash64 list nOfflineToleranceSeconds nKickNumMax tmNow
            vOutKickedList) := by
  intro always
  have computed : ([login [65] 1 1, login [66] 2 2, .offlineByUid [65] 5,
      .offlineByUid [66] 5].foldlM (perform byteHash) pair).map (fun list =>
        (list.kickOfflineMoreThan byteHash 10 0 20 []).map fun done => done.2) =
      some (some [0]) := by decide
  rcases Option.map_eq_some_iff.mp computed with ⟨list, done, kicked⟩
  rcases always byteHash 2 _ _ list (Run.of_foldlM _ done) 10 0 20 [] with ⟨next, returned, _⟩
  rw [returned, Option.map_some, List.take_zero] at kicked
  cases kicked

/-- The hypothesis at a list with one account that has been offline for long. -/
theorem respectsLimit_iff_limitFits_pair :
    Exists fun list => Run (Step byteHash) pair [login [65] 1 1, .offlineByUid [65] 5] list ∧
      (RespectsLimit byteHash list 10 3 20 [] ↔ list.LimitFits 10 3 20 []) := by
  have done : ([login [65] 1 1, .offlineByUid [65] 5].foldlM (perform byteHash) pair).isSome =
      true := by decide
  have run := Run.of_foldlM _ (Option.some_get done).symm
  exact ⟨_, run, respectsLimit_iff_limitFits byteHash 2 _ _ _ run 10 3 20 []⟩

end AccountStateList
end NetSystem
