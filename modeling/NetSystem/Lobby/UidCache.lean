import Mathlib.Data.Set.Function
import NetSystem.Lobby.AccountCalls

namespace NetSystem

/-!
# The uid cache

`GetByUid` answers from the map of uid hashes, or walks over the accounts in use
and enters what it finds.  Where the hash tells the uids in use and the one looked
up apart, the answer is that of the walk.  What a lookup finds is ready for any hash, so no assertion on `is_ready` fails, and `Register` does not allocate the
account that it conflicts with.
-/

/-- The uids that a call registers. -/
def AccountEvent.registered : AccountEvent -> List (List UInt8)
  | .register registration => [registration.sUid]
  | _ => []

/-- The uid that a change gives to an account. -/
def AccountMove.named : AccountMove -> Option (List UInt8)
  | .join _ registration => some registration.sUid
  | .joinConflict _ _ registration => some registration.sUid
  | .rebind _ registration => some registration.sUid
  | _ => none

namespace AccountStateList

variable {cityHash64 : List UInt8 -> Nat} {list next : AccountStateList} {index : Nat}

/-- The accounts in use have uids from a set. -/
def NamedIn (uids : Set (List UInt8)) (list : AccountStateList) : Prop :=
  forall index, list.live index = true -> (list.account index).uid ∈ uids

theorem uidMoves_named {sUid uid : List UInt8} {change : AccountMove}
    (member : change ∈ list.uidMoves cityHash64 sUid) : change.named ≠ some uid := by
  rcases List.mem_map.mp member with ⟨index, _, rfl⟩
  exact nofun

theorem joinMoves_named {registration : Registration} {found : Option Nat} {uid : List UInt8}
    {change : AccountMove} (member : change ∈ list.joinMoves registration found)
    (named : change.named = some uid) : uid = registration.sUid := by
  rcases list.joinMoves_cases registration found with none | ⟨only, one, kinds⟩
  · rw [none] at member
    cases member
  · rw [one, List.mem_singleton] at member
    subst member
    rcases kinds with ⟨_, index, rfl⟩ | ⟨conflict, _, ⟨index, rfl⟩ | ⟨rfl, _⟩⟩ <;>
      exact (Option.some.inj named).symm

/-- Only a registration names accounts, and by its own uid. -/
theorem moves_named {event : AccountEvent} {change : AccountMove} {uid : List UInt8}
    (member : change ∈ list.moves cityHash64 event) (named : change.named = some uid) :
    uid ∈ event.registered := by
  have unnamed : forall {make : Nat -> AccountMove} {indices : List Nat},
      (forall index, (make index).named = none) -> change ∈ indices.map make -> False := by
    intro make indices none mapped
    rcases List.mem_map.mp mapped with ⟨index, _, rfl⟩
    rw [none index] at named
    cases named
  cases event with
  | register registration =>
      rw [moves] at member
      split at member
      · rcases List.mem_append.mp member with looked | joined
        · exact absurd named (uidMoves_named looked)
        · exact List.mem_singleton.mpr (joinMoves_named joined named)
      · cases member
  | unregister index tmNow =>
      rw [moves] at member
      split at member
      · rw [List.mem_singleton.mp member] at named
        cases named
      · cases member
  | kickByUid sUid tmNow =>
      rw [moves] at member
      rcases List.mem_append.mp member with looked | kicked
      · exact absurd named (uidMoves_named looked)
      · exact (unnamed (fun _ => rfl) kicked).elim
  | keepAliveByUid sUid tmNow =>
      rw [moves] at member
      rcases List.mem_append.mp member with looked | kept
      · exact absurd named (uidMoves_named looked)
      · exact (unnamed (fun _ => rfl) kept).elim
  | getByUid sUid => exact absurd named (uidMoves_named member)
  | setExtData index extData =>
      rw [List.mem_singleton.mp member] at named
      cases named
  | unregisterByConnId uConnId tmNow => exact (unnamed (fun _ => rfl) member).elim
  | kick nIndexId tmNow => exact (unnamed (fun _ => rfl) member).elim
  | kickOfflineMoreThan seconds most tmNow out => exact (unnamed (fun _ => rfl) member).elim
  | release index tmNow => exact (unnamed (fun _ => rfl) member).elim
  | offlineByUid sUid tmNow => exact (unnamed (fun _ => rfl) member).elim
  | checkKeepAlive seconds tmNow => exact (unnamed (fun _ => rfl) member).elim
  | getByConnId uConnId => exact (unnamed (fun _ => rfl) member).elim
  | getByInnerUuid uInnerUuid => exact (unnamed (fun _ => rfl) member).elim

/-- A change keeps the uids in a set that holds the one that it gives. -/
theorem NamedIn.move {uids : Set (List UInt8)} (namedIn : list.NamedIn uids)
    (formed : list.Formed cityHash64) (change : AccountMove)
    (possible : list.Possible cityHash64 change)
    (known : forall uid, change.named = some uid -> uid ∈ uids) :
    (list.move cityHash64 change).NamedIn uids := by
  have released : forall {before : AccountStateList} {index : Nat} {tmNow : Int},
      before.NamedIn uids -> (before.released cityHash64 index tmNow).NamedIn uids := by
    intro before index tmNow namedIn other still
    rcases live_of_released still with ⟨different, inUse⟩
    rw [released_account_ne tmNow different]
    exact namedIn other inUse
  have admitted : forall {before : AccountStateList} {index : Nat} {state : AccountState},
      before.NamedIn uids -> state.uid ∈ uids -> (before.admitted index state).NamedIn uids := by
    intro before index state namedIn uid other inUse
    rcases live_of_admitted inUse with rfl | ⟨different, earlier⟩
    · rw [admitted_account]
      exact uid
    · rw [admitted_account_ne state different]
      exact namedIn other earlier
  have set : forall {index : Nat} {state : AccountState},
      state.uid ∈ uids -> (list.setAccount index state).NamedIn uids := by
    intro index state uid other inUse
    by_cases same : other = index
    · rw [same, account_setAccount]
      exact uid
    · rw [account_setAccount_ne state same]
      exact namedIn other inUse
  cases change with
  | cacheUid sUid index => exact namedIn
  | cacheConnId uConnId index => exact namedIn
  | cacheInnerUuid uInnerUuid index => exact namedIn
  | join index registration => exact admitted namedIn (known _ rfl)
  | joinConflict index conflict registration =>
      rw [AccountStateList.move, setConflict_eq]
      exact admitted (fun other inUse => namedIn other inUse) (known _ rfl)
  | rebind index registration =>
      rw [AccountStateList.move, bindAccount_eq]
      exact set (known registration.sUid rfl)
  | release index tmNow => exact released namedIn
  | unregister index tmNow =>
      rcases formed.clearConflict_eq possible with ⟨marks, cleared, _⟩
      rw [AccountStateList.move, cleared]
      exact released fun other inUse => namedIn other inUse
  | offline index tmNow =>
      intro other inUse
      change (list.offline index tmNow).live other = true at inUse
      rw [offline_live] at inUse
      change ((list.offline index tmNow).account other).uid ∈ uids
      by_cases same : other = index
      · rw [same, account, offline_pool, ObjectPool.setData_data]
        exact namedIn index possible
      · rw [offline_account_ne same]
        exact namedIn other inUse
  | keepAlive index tmNow =>
      rw [AccountStateList.move, AccountStateList.keepAlive]
      split
      · exact set (namedIn index possible)
      · exact namedIn
  | setExtData index extData => exact set (namedIn index possible)

theorem NamedIn.step {uids : Set (List UInt8)} (namedIn : list.NamedIn uids)
    (formed : list.Formed cityHash64) {event : AccountEvent}
    (performed : list.perform cityHash64 event = some next)
    (known : forall uid, uid ∈ event.registered -> uid ∈ uids) : next.NamedIn uids := by
  refine ((formed.perform_run performed).invariant_mem
    (fun list => list.Formed cityHash64 ∧ list.NamedIn uids) ?_ ⟨formed, namedIn⟩).2
  rintro state change after member ⟨formed, namedIn⟩ ⟨possible, rfl⟩
  refine ⟨formed.move change possible, namedIn.move formed change possible fun uid named => ?_⟩
  exact known uid (moves_named member named)

/-- The accounts in use have uids that have been registered. -/
theorem run_namedIn {nReserve : Fin (2 ^ 31)} {uninitialised : Nat -> AccountState}
    {events : List AccountEvent} {last : AccountStateList} {uids : Set (List UInt8)}
    (run : Run (Step cityHash64) (initial nReserve uninitialised) events last)
    (known : forall event, event ∈ events -> forall uid, uid ∈ event.registered -> uid ∈ uids) :
    last.NamedIn uids := by
  refine (run.invariant_mem (fun list => list.Formed cityHash64 ∧ list.NamedIn uids) ?_
    ⟨initial_formed nReserve uninitialised, fun _ inUse => nomatch inUse⟩).2
  rintro state event after member ⟨formed, namedIn⟩ performed
  exact ⟨formed.perform performed, namedIn.step formed performed (known event member)⟩

/-! ## The uids in use -/

/-- A uid and those of the accounts in use. -/
def uidsInUse (list : AccountStateList) (sUid : List UInt8) : Set (List UInt8) :=
  {uid | uid = sUid ∨ Exists fun index =>
    list.live index = true ∧ (list.account index).uid = uid}

/-- What tells the registered uids and another one apart does so for those in use. -/
theorem injOn_uidsInUse {nReserve : Fin (2 ^ 31)} {uninitialised : Nat -> AccountState}
    {events : List AccountEvent} {last : AccountStateList} (uids : Set (List UInt8))
    (run : Run (Step cityHash64) (initial nReserve uninitialised) events last)
    (known : forall event, event ∈ events -> forall uid, uid ∈ event.registered -> uid ∈ uids)
    {sUid : List UInt8} (looked : sUid ∈ uids) (injective : Set.InjOn cityHash64 uids) :
    Set.InjOn cityHash64 (last.uidsInUse sUid) := by
  apply injective.mono
  rintro uid (rfl | ⟨index, inUse, rfl⟩)
  · exact looked
  · exact run_namedIn run known index inUse

/-- Where the hash tells the uids apart, a lookup finds what a walk would find. -/
theorem Formed.foundByUid_uid (formed : list.Formed cityHash64) {sUid : List UInt8}
    (injective : Set.InjOn cityHash64 (list.uidsInUse sUid))
    (found : list.foundByUid cityHash64 sUid = some index) :
    list.live index = true ∧ (list.account index).isReady = true ∧
      (list.account index).uid = sUid := by
  rcases formed.foundByUid_some found with ⟨inUse, hash⟩
  exact ⟨inUse, (formed.registered index inUse).ready,
    injective (.inr ⟨index, inUse, rfl⟩) (.inl rfl) hash⟩

/-- After any calls `GetByUid` returns a ready account in use with the uid, or null where
there is none, and neither it nor a call that uses it fails. -/
theorem getByUid_eq (cityHash64 : List UInt8 -> Nat) (nReserve : Fin (2 ^ 31))
    (uninitialised : Nat -> AccountState) (events : List AccountEvent) (last : AccountStateList)
    (run : Run (Step cityHash64) (initial nReserve uninitialised) events last)
    (sUid : List UInt8) (injective : Set.InjOn cityHash64 (last.uidsInUse sUid)) :
    (Exists fun looked => Exists fun found =>
      last.getByUid cityHash64 sUid = some (looked, found) ∧
      (forall index, found = some index -> last.live index = true ∧
        (last.account index).isReady = true ∧ (last.account index).uid = sUid) ∧
      (found = none -> forall index, last.live index = true -> (last.account index).uid ≠ sUid)) ∧
    (forall registration, (last.register cityHash64 registration).isSome) ∧
    (forall tmNow, (last.kickByUid cityHash64 sUid tmNow).isSome) ∧
    (forall tmNow, (last.keepAliveByUid cityHash64 sUid tmNow).isSome) := by
  have formed := run_formed run
  rcases formed.getByUid_run sUid with ⟨looked, returned, _⟩
  refine ⟨⟨looked, _, returned, ?_, ?_⟩, ?_, ?_, ?_⟩
  · intro index found
    exact formed.foundByUid_uid injective found
  · intro found
    exact (formed.foundByUid_none found).2
  · intro registration
    rcases formed.register_run registration with ⟨chosen, returned, _⟩
    rw [returned]
    rfl
  · intro tmNow
    rcases formed.kickByUid_run sUid tmNow with ⟨after, returned, _⟩
    rw [returned]
    rfl
  · intro tmNow
    rcases formed.keepAliveByUid_run sUid tmNow with ⟨after, returned, _⟩
    rw [returned]
    rfl

/-- Two conflicting logins, one of which is kicked by their uid. -/
theorem getByUid_eq_pair :
    Exists fun last => Run (Step byteHash) pair
      [login [65] 1 1, .setExtData 1 7, login [65] 2 2, .kickByUid [65] 5] last ∧
      Exists fun looked => Exists fun found =>
        last.getByUid byteHash [65] = some (looked, found) ∧
        forall index, found = some index -> last.live index = true ∧
          (last.account index).isReady = true ∧ (last.account index).uid = [65] := by
  have done : ([login [65] 1 1, .setExtData 1 7, login [65] 2 2, .kickByUid [65] 5].foldlM
      (perform byteHash) pair).isSome = true := by decide
  have run := Run.of_foldlM _ (Option.some_get done).symm
  have single := injOn_uidsInUse {[65]} run (by simp [login, AccountEvent.registered])
    (Set.mem_singleton _) (Set.injOn_singleton ..)
  rcases getByUid_eq byteHash 2 _ _ _ run [65] single with ⟨⟨looked, found, returned, some, _⟩, _⟩
  exact ⟨_, run, looked, found, returned, some⟩

end AccountStateList
end NetSystem
