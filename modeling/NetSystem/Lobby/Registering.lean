import NetSystem.Lobby.OnlineCount
import NetSystem.Lobby.UidCache

namespace NetSystem

/-!
# What a registration does

`Register` decides on its result after it may have taken an account from the
pool.  A registration that is refused has nevertheless taken none: the list is
as it was, but for the uid that was looked up.  One that is accepted binds one
account, the new one or the one that has the uid already, and of the others at
most the account that the new one conflicts with learns of it.
-/

namespace AccountStateList

variable {cityHash64 : List UInt8 -> Nat} {list looked next : AccountStateList} {index : Nat}
  {registration : Registration}

/-- The list as it was, or with an entry for the uid in the map of uid hashes,
which names an account in use that has the uid. -/
def LookedUp (cityHash64 : List UInt8 -> Nat) (list : AccountStateList) (sUid : List UInt8)
    (looked : AccountStateList) : Prop :=
  looked = list ∨ Exists fun index =>
    list.live index = true ∧ (list.account index).uid = sUid ∧
      looked = { list with
        mapUidHash2ConnState :=
          Function.update list.mapUidHash2ConnState (cityHash64 sUid) (some index) }

/-- The account is ready, online and bound to the registration, under its key id. -/
structure BoundTo (state : AccountState) (keyid : Nat) (registration : Registration) : Prop where
  keyid : state.keyid = keyid
  isReady : state.isReady = true
  uid : state.uid = registration.sUid
  nick : state.nick = registration.sNick
  pwd : state.pwd = registration.sPwd
  routeTable : state.routeTable = ⟨registration.uConnId, registration.uInnerUuid,
    registration.pConnImpl, .online, registration.tmNow⟩

/-- An account of the same uid that was not in conflict is now marked with the new account,
and the other accounts in use are unchanged. -/
def Tells (list : AccountStateList) (index : Nat) (sUid : List UInt8) (next : AccountStateList) :
    Prop :=
  Exists fun older => list.live older = true ∧ older ≠ index ∧ (list.account older).uid = sUid ∧
    (list.account older).conflictKeyid = 0 ∧
    next.account older = { list.account older with conflictKeyid := (next.account index).keyid } ∧
    forall other, list.live other = true -> other ≠ index -> other ≠ older ->
      next.account other = list.account other

/-- One account is bound.  It is the one in use that had the uid if the registration is
a duplicate, and one that was not in use otherwise. -/
structure Accepts (list : AccountStateList) (registration : Registration) (result : AccRegResult)
    (index : Nat) (next : AccountStateList) : Prop where
  live : next.live = Function.update list.live index true
  before : list.live index = decide (result = .duplicateRegistration)
  same : result = .duplicateRegistration -> (list.account index).uid = registration.sUid
  bound : BoundTo (next.account index) (next.pool.objid index) registration
  told : result = .conflict -> list.Tells index registration.sUid next
  spared : result ≠ .conflict -> forall other, list.live other = true -> other ≠ index ->
    next.account other = list.account other
  count : next.getCount =
    list.getCount + if result = .duplicateRegistration then 0 else 1

/-- A registration is refused and nothing has changed, or one account is bound. -/
def Settles (list : AccountStateList) (registration : Registration) (next : AccountStateList)
    (result : AccRegResult) (ppOutAccount : Option Nat) : Prop :=
  (result.code < 0 ∧ ppOutAccount = none ∧ next = list) ∨
  (0 ≤ result.code ∧ Exists fun index => ppOutAccount = some index ∧
    list.Accepts registration result index next)

/-! ## The accounts that are bound -/

/-- One more account is in use once a vacant one is admitted. -/
theorem getCount_admitted (valid : list.pool.Valid) (vacant : list.Vacant index)
    (state : AccountState) : (list.admitted index state).getCount = list.getCount + 1 := by
  have grown := (valid.allocated vacant.1 vacant.2.2).setData index state
  have taken : (list.admitted index state).live index = true := Function.update_self ..
  have counted := countP_except List.nodup_range (List.mem_range.mpr vacant.1) taken vacant.2.1
    fun other different => (Function.update_of_ne different ..).symm
  rw [List.countP_eq_length_filter, List.countP_eq_length_filter] at counted
  rw [getCount, getCount, valid.getObjectNum_eq]
  exact grown.getObjectNum_eq.trans counted

theorem Formed.accepts_join (formed : list.Formed cityHash64) (vacant : list.Vacant index)
    (registration : Registration) :
    list.Accepts registration .ok index (list.move cityHash64 (.join index registration)) where
  live := rfl
  before := vacant.2.1
  same := nofun
  bound := by
    rw [AccountStateList.move, admitted_account]
    constructor <;> rfl
  told := nofun
  spared := by
    intro _ other _ different
    exact admitted_account_ne _ different
  count := getCount_admitted formed.pool vacant _

theorem Formed.accepts_joinConflict (formed : list.Formed cityHash64) (vacant : list.Vacant index)
    {conflict : Nat} (inUse : list.live conflict = true)
    (unmarked : (list.account conflict).conflictKeyid = 0)
    (uid : (list.account conflict).uid = registration.sUid) :
    list.Accepts registration .conflict index
      (list.move cityHash64 (.joinConflict index conflict registration)) where
  live := rfl
  before := vacant.2.1
  same := nofun
  bound := by
    rw [AccountStateList.move, admitted_account]
    constructor <;> rfl
  told := by
    intro _
    have different : conflict ≠ index := vacant.ne_of_live inUse
    refine ⟨conflict, inUse, different, uid, unmarked, ?_, ?_⟩
    · rw [AccountStateList.move, admitted_account_ne _ different, admitted_account, setConflict,
        account_setAccount]
      rfl
    · intro other _ old elsewhere
      rw [AccountStateList.move, admitted_account_ne _ old, setConflict,
        account_setAccount_ne _ elsewhere]
  spared := by
    intro none
    exact absurd rfl none
  count := by
    let marked := list.setConflict conflict (list.pool.objid index)
    have valid : marked.pool.Valid := formed.pool.setData conflict _
    have same : marked.Vacant index := vacant
    exact getCount_admitted valid same _

theorem Formed.accepts_rebind (formed : list.Formed cityHash64) (inUse : list.live index = true)
    (uid : (list.account index).uid = registration.sUid) :
    list.Accepts registration .duplicateRegistration index
      (list.bindAccount index registration) where
  live := by
    rw [bindAccount_eq]
    exact (Function.update_eq_self_iff.mpr inUse.symm).symm
  before := inUse
  same := fun _ => uid
  bound := by
    have keyid := (formed.registered index inUse).key
    have account : (list.bindAccount index registration).account index =
        rebound (list.account index) registration := by
      rw [bindAccount_eq]
      exact account_setAccount _
    rw [account]
    have numbered : (list.bindAccount index registration).pool.objid index =
        list.pool.objid index := by
      rw [bindAccount_eq]
      rfl
    rw [numbered]
    exact ⟨keyid, rfl, rfl, rfl, rfl, rfl⟩
  told := nofun
  spared := by
    intro _ other _ different
    rw [bindAccount_eq]
    exact account_setAccount_ne _ different
  count := by
    rw [bindAccount_eq]
    rfl

/-! ## The results -/

/-- Only the accounts of the list before count. -/
theorem Accepts.congr {result : AccRegResult} (pool : looked.pool = list.pool)
    (accepted : looked.Accepts registration result index next) :
    list.Accepts registration result index next := by
  have live : looked.live = list.live := congrArg ObjectPool.used pool
  have accounts : looked.account = list.account := congrArg ObjectPool.data pool
  have count : looked.getCount = list.getCount := congrArg ObjectPool.getObjectNum pool
  rcases accepted with ⟨live', before, same, bound, told, spared, counted⟩
  unfold Tells at told
  rw [live] at live' before
  rw [accounts] at same
  rw [count] at counted
  simp only [live, accounts] at told spared
  exact ⟨live', before, same, bound, told, spared, counted⟩

theorem settles_refused (list : AccountStateList) (registration : Registration)
    (result : AccRegResult) (negative : result.code < 0) :
    list.Settles registration list result none :=
  .inl ⟨negative, rfl, rfl⟩

theorem Accepts.settles {result : AccRegResult} (accepts : list.Accepts registration result index next)
    (accepted : 0 ≤ result.code) : list.Settles registration next result (some index) :=
  .inr ⟨accepted, index, rfl, accepts⟩

/-- A uid that nobody has. -/
theorem Formed.settles_none (formed : list.Formed cityHash64) (registration : Registration) :
    Exists fun chosen => list.checkConflict registration none = some chosen ∧
      list.Settles registration (bindChosen registration chosen).1
        (bindChosen registration chosen).2.1 (bindChosen registration chosen).2.2 := by
  rcases formed.alloc_cases with ⟨_, alloc⟩ | ⟨index, _, vacant, alloc⟩
  · refine ⟨(list, .errorAccountListIsFull, none), by rw [checkConflict, alloc], ?_⟩
    exact settles_refused list registration .errorAccountListIsFull (by decide)
  · refine ⟨(list.allocated index, .ok, some index), by rw [checkConflict, alloc], ?_⟩
    have accepted := formed.accepts_join vacant registration
    rw [← bindAccount_allocated registration] at accepted
    exact accepted.settles (by decide)

/-- A uid that an account in use has. -/
theorem Formed.settles_some (formed : list.Formed cityHash64) {conflict : Nat}
    (inUse : list.live conflict = true) (uid : (list.account conflict).uid = registration.sUid) :
    Exists fun chosen => list.checkConflict registration (some conflict) = some chosen ∧
      list.Settles registration (bindChosen registration chosen).1
        (bindChosen registration chosen).2.1 (bindChosen registration chosen).2.2 := by
  by_cases marked : 0 < (list.account conflict).conflictKeyid
  · refine ⟨(list, .errorConflictTooManyTimes, none), by rw [checkConflict, if_pos marked], ?_⟩
    exact settles_refused list registration .errorConflictTooManyTimes (by decide)
  have unmarked : (list.account conflict).conflictKeyid = 0 := Nat.eq_zero_of_not_pos marked
  by_cases waiting : (list.account conflict).extData = 0
  · refine ⟨(list, .errorConflictMainAccountIsNotReady, none), ?_, ?_⟩
    · rw [checkConflict, if_neg marked, if_pos waiting]
    · exact settles_refused list registration .errorConflictMainAccountIsNotReady (by decide)
  by_cases elsewhere : registration.uConnId ≠ (list.account conflict).routeTable.connid
  · rcases formed.alloc_cases with ⟨_, alloc⟩ | ⟨index, _, vacant, alloc⟩
    · refine ⟨(list, .errorAccountListIsFull, none), ?_, ?_⟩
      · rw [checkConflict, if_neg marked, if_neg waiting, if_pos elsewhere, alloc]
      · exact settles_refused list registration .errorAccountListIsFull (by decide)
    · have different : conflict ≠ index := vacant.ne_of_live inUse
      refine ⟨((list.allocated index).markConflict index conflict, .conflict, some index), ?_, ?_⟩
      · rw [checkConflict, if_neg marked, if_neg waiting, if_pos elsewhere, alloc]
        exact if_neg different.symm
      · have accepted := formed.accepts_joinConflict vacant inUse unmarked uid
        rw [← bindAccount_markConflict different registration] at accepted
        exact accepted.settles (by decide)
  · refine ⟨(list, .duplicateRegistration, some conflict), ?_, ?_⟩
    · rw [checkConflict, if_neg marked, if_neg waiting, if_neg elsewhere]
    · have accepted := formed.accepts_rebind inUse uid
      exact accepted.settles (by decide)

/-- The lookup of a uid leaves the list, or enters the account that has it. -/
theorem lookedUp_of_run {sUid : List UInt8}
    (run : Run (MoveStep cityHash64) list (list.uidMoves cityHash64 sUid) looked) :
    list.LookedUp cityHash64 sUid looked := by
  unfold uidMoves at run
  cases filled : list.filled list.mapUidHash2ConnState (cityHash64 sUid)
      fun state => state.uid == sUid with
  | none =>
      rw [filled] at run
      cases run
      exact .inl rfl
  | some index =>
      rw [filled] at run
      cases run with
      | cons once rest =>
          cases rest
          rcases once with ⟨⟨_, inUse, uid⟩, rfl⟩
          exact .inr ⟨index, inUse, uid, rfl⟩

/-- A registration that is refused changes nothing but the map of uid hashes, and one that
is accepted binds an account. -/
def AllOrNothing (cityHash64 : List UInt8 -> Nat) (list : AccountStateList)
    (registration : Registration) (next : AccountStateList) (result : AccRegResult)
    (ppOutAccount : Option Nat) : Prop :=
  (result.code < 0 -> ppOutAccount = none ∧
    list.LookedUp cityHash64 registration.sUid next) ∧
  (0 ≤ result.code -> Exists fun index => ppOutAccount = some index ∧
    list.Accepts registration result index next)

theorem Formed.allOrNothing (formed : list.Formed cityHash64)
    (registration : Registration)
    (found : forall index, list.foundByUid cityHash64 registration.sUid = some index ->
      (list.account index).uid = registration.sUid) :
    Exists fun done => list.register cityHash64 registration = some done ∧
      list.AllOrNothing cityHash64 registration done.1 done.2.1 done.2.2 := by
  by_cases empty : registration.sUid.length ≤ 0
  · refine ⟨(list, .errorInvalidUid, none), ?_, ?_, ?_⟩
    · rw [register, chooseAccount, if_pos empty]
      rfl
    · exact fun _ => ⟨rfl, .inl rfl⟩
    · intro accepted
      cases accepted
  by_cases long : 36 ≤ registration.sUid.length ∨ 36 ≤ registration.sNick.length ∨
      40 ≤ registration.sPwd.length
  · refine ⟨(list, .errorBindUidOverflow, none), ?_, ?_, ?_⟩
    · rw [register, chooseAccount, if_neg empty, if_pos long]
      rfl
    · exact fun _ => ⟨rfl, .inl rfl⟩
    · intro accepted
      cases accepted
  rcases formed.getByUid_run registration.sUid with ⟨looked, returned, run, pool, _⟩
  have lookedFormed := formed.run run
  have settled : Exists fun chosen =>
      looked.checkConflict registration (list.foundByUid cityHash64 registration.sUid) =
        some chosen ∧
      looked.Settles registration (bindChosen registration chosen).1
        (bindChosen registration chosen).2.1 (bindChosen registration chosen).2.2 := by
    cases answer : list.foundByUid cityHash64 registration.sUid with
    | none => exact lookedFormed.settles_none registration
    | some conflict =>
        apply lookedFormed.settles_some
        · exact (congrFun (congrArg ObjectPool.used pool) conflict).trans
            (formed.foundByUid_some answer).1
        · unfold account
          rw [pool]
          exact found conflict answer
  rcases settled with ⟨chosen, choice, settled⟩
  refine ⟨bindChosen registration chosen, ?_, ?_⟩
  · rw [register, chooseAccount, if_neg empty, if_neg long, returned, Option.bind_some, choice,
      Option.map_some]
  · rcases settled with ⟨negative, nothing, unchanged⟩ | ⟨accepted, index, out, bound⟩
    · refine ⟨?_, fun accepted => absurd accepted (Int.not_le.mpr negative)⟩
      intro _
      rw [unchanged]
      exact ⟨nothing, lookedUp_of_run run⟩
    · refine ⟨fun negative => absurd accepted (Int.not_le.mpr negative), ?_⟩
      intro _
      exact ⟨index, out, bound.congr pool⟩

/-- In every reachable list `Register` returns, and is all or nothing. -/
theorem register_allOrNothing (cityHash64 : List UInt8 -> Nat) (nReserve : Fin (2 ^ 31))
    (uninitialised : Nat -> AccountState) (events : List AccountEvent) (list : AccountStateList)
    (run : Run (Step cityHash64) (initial nReserve uninitialised) events list)
    (registration : Registration)
    (injective : Set.InjOn cityHash64 (list.uidsInUse registration.sUid)) :
    Exists fun done => list.register cityHash64 registration = some done ∧
      list.AllOrNothing cityHash64 registration done.1 done.2.1 done.2.2 := by
  have formed := run_formed run
  apply formed.allOrNothing registration
  intro index found
  exact (formed.foundByUid_uid injective found).2.2

/-- A second login under the uid of an account in use. -/
theorem register_allOrNothing_pair :
    Exists fun list => Run (Step byteHash) pair [login [65] 1 1, .setExtData 1 7] list ∧
      Exists fun done => list.register byteHash ⟨[65], [66], [67], 2, 3, 4, 5⟩ = some done ∧
        list.AllOrNothing byteHash ⟨[65], [66], [67], 2, 3, 4, 5⟩ done.1 done.2.1 done.2.2 := by
  have done : ([login [65] 1 1, .setExtData 1 7].foldlM (perform byteHash) pair).isSome = true := by
    decide
  have run := Run.of_foldlM _ (Option.some_get done).symm
  have single := injOn_uidsInUse {[65]} run (by simp [login, AccountEvent.registered])
    (Set.mem_singleton _) (Set.injOn_singleton ..)
  exact ⟨_, run, register_allOrNothing byteHash 2 _ _ _ run _ single⟩

end AccountStateList
end NetSystem
