import NetSystem.Base.ObjectPool
import NetSystem.Foundation.Transition

namespace NetSystem

universe u

/-!
# Allocating and releasing in any order

`SafeAlloc` with an objid takes an id out of the middle of the stack: the entry on top
of the stack fills the gap.  Whatever the order of the two ways to allocate and of the
releases, the stack holds exactly the ids of the objects that are not in use.
-/

namespace ObjectPool

variable {α : Type u} {pool next : ObjectPool α}

/-- `SafeAlloc` with an objid, where the assertion does not fail, and the objid that it
returns. -/
def safeAllocAt (pool : ObjectPool α) (objid : Nat) : Option (ObjectPool α × Nat) :=
  let id := pool.convertId objid
  if 1 ≤ id ∧ id ≤ pool.totalSize then
    match pool.unusedIds.idxOf? id with
    | none => some (pool, 0)
    | some slot =>
        -- the tail overwrites the slot
        let tail := pool.unusedIds.getLastD 0
        some ({ pool with
            unusedIds := (pool.unusedIds.set slot tail).dropLast
            used := Function.update pool.used (id - 1) true },
          objid)
  else none

/-- `GetByIndex`: the position of the object. -/
def getByIndex (pool : ObjectPool α) (index : Nat) : Option Nat :=
  if index < pool.totalSize then some index else none

def getObjidByIndex (pool : ObjectPool α) (index : Nat) : Option Nat :=
  if index < pool.totalSize then some (pool.objid index) else none

/-- The object with this objid is in use. -/
def Allocated (pool : ObjectPool α) (objid : Nat) : Prop :=
  (pool.get objid).any pool.used = true

instance (pool : ObjectPool α) (objid : Nat) : Decidable (pool.Allocated objid) :=
  inferInstanceAs (Decidable (_ = true))

/-- The objids of the pool. -/
def Numbers (pool : ObjectPool α) (objid : Nat) : Prop :=
  pool.baseId < objid ∧ objid ≤ pool.baseId + pool.totalSize

instance (pool : ObjectPool α) (objid : Nat) : Decidable (pool.Numbers objid) :=
  inferInstanceAs (Decidable (_ ∧ _))

end ObjectPool

/-- What is called. -/
inductive ObjectPoolEvent where
  | safeAlloc
  | safeAllocAt (objid : Nat)
  | release (objid : Nat)

namespace ObjectPool

variable {α : Type u} {pool next : ObjectPool α}

/-- One call, with an objid of the pool. -/
def perform (pool : ObjectPool α) : ObjectPoolEvent -> Option (ObjectPool α)
  | .safeAlloc => some pool.safeAlloc.1
  | .safeAllocAt objid =>
      if pool.Numbers objid then (pool.safeAllocAt objid).map Prod.fst else none
  | .release objid => if pool.Numbers objid then pool.releaseInternal objid else none

def Step (pool : ObjectPool α) (event : ObjectPoolEvent) (next : ObjectPool α) : Prop :=
  pool.perform event = some next

/-! ## Positions and objids -/

theorem Valid.numbers_objid (valid : pool.Valid) {index : Nat} (inside : index < pool.totalSize) :
    pool.Numbers (pool.objid index) := by
  have objid := valid.objid_eq inside
  unfold Numbers
  omega

/-- Each objid of the pool is that of one position. -/
theorem Valid.position_of_numbers (valid : pool.Valid) {objid : Nat} (numbers : pool.Numbers objid) :
    Exists fun index => index < pool.totalSize ∧ pool.objid index = objid := by
  rcases numbers with ⟨above, below⟩
  refine ⟨pool.baseId + pool.totalSize - objid, by omega, ?_⟩
  rw [valid.objid_eq (by omega)]
  omega

theorem Valid.allocated_iff (valid : pool.Valid) {index : Nat} (inside : index < pool.totalSize) :
    pool.Allocated (pool.objid index) ↔ pool.used index = true := by
  rw [Allocated, valid.get_objid inside, Option.any_some]

/-! ## Taking an object into use -/

/-- The pool once an object is in use and its id is off the stack. -/
def taking (pool : ObjectPool α) (index : Nat) (rest : List Nat) : ObjectPool α :=
  { pool with unusedIds := rest, used := Function.update pool.used index true }

theorem Valid.taking (valid : pool.Valid) {index : Nat} {rest : List Nat}
    (inside : index < pool.totalSize) (split : pool.unusedIds.Perm ((index + 1) :: rest)) :
    (pool.taking index rest).Valid := by
  have distinct := split.nodup valid.distinct
  rw [List.nodup_cons] at distinct
  refine ⟨valid.fits, distinct.2, ?_, ?_⟩
  · intro id
    have before := valid.unused id
    rw [split.mem_iff, List.mem_cons] at before
    change id ∈ rest ↔
      1 ≤ id ∧ id ≤ pool.totalSize ∧ Function.update pool.used index true (id - 1) = false
    by_cases here : id - 1 = index
    · rw [here, Function.update_self]
      refine ⟨fun member => ?_, fun ⟨_, _, impossible⟩ => by cases impossible⟩
      have positive := (before.mp (.inr member)).1
      have same : id = index + 1 := by omega
      rw [same] at member
      exact absurd member distinct.1
    · rw [Function.update_of_ne here, ← before]
      refine ⟨.inr, fun either => either.resolve_left fun same => here ?_⟩
      omega
  · intro other used
    by_cases here : other = index
    · rw [here]
      exact inside
    · change Function.update pool.used index true other = true at used
      rw [Function.update_of_ne here] at used
      exact valid.inside other used

/-- Overwriting a slot with the tail and dropping the tail removes the entry of the slot. -/
theorem perm_overwritten {ids : List Nat} {slot id : Nat} (found : ids[slot]? = some id) :
    ids.Perm (id :: (ids.set slot (ids.getLastD 0)).dropLast) := by
  rcases List.eq_nil_or_concat ids with rfl | ⟨front, tail, rfl⟩
  · cases found
  · rw [List.concat_eq_append] at found ⊢
    rw [List.getLastD_eq_getLast?, List.getLast?_concat, Option.getD_some]
    rcases Nat.lt_or_ge slot front.length with inside | outside
    · rw [List.getElem?_append_left inside] at found
      rcases List.getElem?_eq_some_iff.mp found with ⟨_, held⟩
      have split : front = front.take slot ++ id :: front.drop (slot + 1) := by
        rw [← held, List.getElem_cons_drop, List.take_append_drop]
      rw [List.set_append_left slot tail inside, List.dropLast_concat,
        List.set_eq_take_append_cons_drop, if_pos inside]
      calc List.Perm (front ++ [tail]) (tail :: (front.take slot ++ id :: front.drop (slot + 1))) := by
            rw [← split]
            exact List.perm_append_singleton tail front
        List.Perm _ (tail :: id :: (front.take slot ++ front.drop (slot + 1))) :=
          List.perm_middle.cons tail
        List.Perm _ (id :: tail :: (front.take slot ++ front.drop (slot + 1))) := .swap ..
        List.Perm _ (id :: (front.take slot ++ tail :: front.drop (slot + 1))) :=
          List.perm_middle.symm.cons id
    · have last : slot = front.length := by
        rcases List.getElem?_eq_some_iff.mp found with ⟨below, _⟩
        rw [List.length_append, List.length_singleton] at below
        omega
      subst last
      rw [List.getElem?_concat_length] at found
      cases found
      rw [List.set_append_right _ _ (Nat.le_refl _), Nat.sub_self, List.set_cons_zero,
        List.dropLast_concat]
      exact List.perm_append_singleton id front

theorem Valid.safeAllocAt_cases (valid : pool.Valid) {index : Nat}
    (inside : index < pool.totalSize) :
    (pool.used index = true ∧ pool.safeAllocAt (pool.objid index) = some (pool, 0)) ∨
    (pool.used index = false ∧ Exists fun rest => pool.unusedIds.Perm ((index + 1) :: rest) ∧
      pool.safeAllocAt (pool.objid index) = some (pool.taking index rest, pool.objid index)) := by
  have member := valid.unused (index + 1)
  rw [Nat.add_sub_cancel] at member
  unfold safeAllocAt
  dsimp only
  rw [valid.convertId_objid inside, if_pos ⟨Nat.le_add_left 1 index, inside⟩, Nat.add_sub_cancel]
  cases found : pool.unusedIds.idxOf? (index + 1) with
  | none =>
      have absent := List.idxOf?_eq_none_iff.mp found
      refine .inl ⟨?_, rfl⟩
      cases used : pool.used index with
      | true => rfl
      | false => exact absurd (member.mpr ⟨Nat.le_add_left 1 index, inside, used⟩) absent
  | some slot =>
      have held : pool.unusedIds[slot]? = some (index + 1) := by
        rcases List.findIdx?_eq_some_iff_getElem.mp found with ⟨below, same, _⟩
        rw [List.getElem?_eq_getElem below, eq_of_beq same]
      have free := (member.mp (List.mem_of_getElem? held)).2.2
      exact .inr ⟨free, _, perm_overwritten held, rfl⟩

/-- Where `ReleaseInternal` returns, one object has been taken out of use. -/
theorem used_of_releaseInternal {objid : Nat} (done : pool.releaseInternal objid = some next) :
    Exists fun index => pool.used index = true ∧
      next.used = Function.update pool.used index false := by
  rcases Option.ite_none_right_eq_some.mp done with ⟨⟨_, _, used⟩, same⟩
  cases same
  exact ⟨_, used, rfl⟩

/-- The assertion of `ReleaseInternal` on an object that is not in use. -/
theorem Valid.releaseInternal_free (valid : pool.Valid) {index : Nat}
    (inside : index < pool.totalSize) (free : pool.used index = false) :
    pool.releaseInternal (pool.objid index) = none := by
  simp only [releaseInternal, valid.convertId_objid inside, Nat.add_sub_cancel, free]
  rw [if_neg]
  rintro ⟨_, _, impossible⟩
  cases impossible

/-- What a step does to the pool: nothing, an object is taken into use, or one is given
back. -/
theorem Valid.step_cases (valid : pool.Valid) {event : ObjectPoolEvent}
    (step : pool.Step event next) :
    next = pool ∨
    (Exists fun index => Exists fun rest => index < pool.totalSize ∧ pool.used index = false ∧
      pool.unusedIds.Perm ((index + 1) :: rest) ∧ next = pool.taking index rest) ∨
    Exists fun index => pool.used index = true ∧ next = pool.released index := by
  unfold Step at step
  cases event with
  | safeAlloc =>
      cases step
      rcases valid.safeAlloc_cases with ⟨_, same⟩ | ⟨index, inside, free, top, taken⟩
      · exact .inl (by rw [same])
      · refine .inr (.inl ⟨index, pool.unusedIds.dropLast, inside, free, ?_, by rw [taken]; rfl⟩)
        rw [List.perm_comm, top, List.dropLast_concat]
        exact (List.perm_append_singleton _ _).symm
  | safeAllocAt objid =>
      dsimp only [perform] at step
      split at step
      · rename_i numbers
        rcases valid.position_of_numbers numbers with ⟨index, inside, rfl⟩
        rcases valid.safeAllocAt_cases inside with ⟨_, refused⟩ | ⟨free, rest, split, taken⟩
        · rw [refused] at step
          cases step
          exact .inl rfl
        · rw [taken] at step
          cases step
          exact .inr (.inl ⟨index, rest, inside, free, split, rfl⟩)
      · cases step
  | release objid =>
      dsimp only [perform] at step
      split at step
      · rename_i numbers
        rcases valid.position_of_numbers numbers with ⟨index, inside, rfl⟩
        cases used : pool.used index with
        | true =>
            rw [valid.releaseInternal_eq used] at step
            cases step
            exact .inr (.inr ⟨index, used, rfl⟩)
        | false =>
            rw [valid.releaseInternal_free inside used] at step
            cases step
      · cases step

theorem Valid.step (valid : pool.Valid) {event : ObjectPoolEvent} (step : pool.Step event next) :
    next.Valid ∧ next.baseId = pool.baseId ∧ next.totalSize = pool.totalSize := by
  rcases valid.step_cases step with rfl | ⟨index, rest, inside, _, split, rfl⟩ | ⟨index, used, rfl⟩
  · exact ⟨valid, rfl, rfl⟩
  · exact ⟨valid.taking inside split, rfl, rfl⟩
  · exact ⟨valid.released used, rfl, rfl⟩

theorem valid_of_run {baseId size : Nat} (fits : baseId + size + 1 < 2 ^ 32)
    {uninitialised : Nat -> α} {events : List ObjectPoolEvent}
    (run : Run Step (safeInit baseId size uninitialised) events pool) :
    pool.Valid ∧ pool.baseId = baseId ∧ pool.totalSize = size := by
  refine run.invariant
    (fun pool : ObjectPool α => pool.Valid ∧ pool.baseId = baseId ∧ pool.totalSize = size) ?_
    ⟨safeInit_valid fits uninitialised, rfl, rfl⟩
  rintro state event after ⟨valid, base, total⟩ step
  rcases valid.step step with ⟨validAfter, sameBase, sameTotal⟩
  exact ⟨validAfter, sameBase.trans base, sameTotal.trans total⟩

/-! ## What the calls return -/

/-- Either way of allocating leaves the numbering, the contents and the other objects. -/
structure LeavesOthers (pool next : ObjectPool α) : Prop where
  node : forall objid, next.get objid = pool.get objid
  data : next.data = pool.data
  live : forall objid, pool.Allocated objid -> next.Allocated objid

theorem taking_leavesOthers (pool : ObjectPool α) (index : Nat) (rest : List Nat) :
    LeavesOthers pool (pool.taking index rest) := by
  have node : forall objid, (pool.taking index rest).get objid = pool.get objid := fun _ => rfl
  refine ⟨node, rfl, fun objid live => ?_⟩
  unfold Allocated at live ⊢
  rw [node]
  cases found : pool.get objid with
  | none =>
      rw [found] at live
      cases live
  | some position =>
      rw [found, Option.any_some] at live
      rw [Option.any_some]
      change Function.update pool.used index true position = true
      by_cases here : position = index
      · rw [here, Function.update_self]
      · rw [Function.update_of_ne here]
        exact live

/-- What the functions of the pool return, and what they change. -/
structure Behaves (pool : ObjectPool α) : Prop where
  distinct : pool.unusedIds.Nodup
  unused : forall id, id ∈ pool.unusedIds ↔
    1 ≤ id ∧ id ≤ pool.totalSize ∧ pool.used (id - 1) = false
  safeAlloc : (pool.safeAlloc.2 = 0 ↔ forall objid, pool.Numbers objid -> pool.Allocated objid) ∧
    (pool.safeAlloc.2 ≠ 0 -> pool.Numbers pool.safeAlloc.2 ∧ ¬ pool.Allocated pool.safeAlloc.2 ∧
      pool.safeAlloc.1.Allocated pool.safeAlloc.2) ∧
    LeavesOthers pool pool.safeAlloc.1
  safeAllocAt : forall objid, pool.Numbers objid ->
    Exists fun next => Exists fun result => pool.safeAllocAt objid = some (next, result) ∧
      (result = 0 ↔ pool.Allocated objid) ∧ (result ≠ 0 -> result = objid) ∧
      next.Allocated objid ∧ LeavesOthers pool next
  release : forall objid, pool.Allocated objid -> pool.Numbers objid ->
    Exists fun next => pool.releaseInternal objid = some next ∧ ¬ next.Allocated objid ∧
      pool.unusedIds.length < pool.totalSize ∧ pool.convertId objid ∉ pool.unusedIds
  objectNum : pool.getObjectNum = (List.range pool.totalSize).countP fun index => pool.used index
  involution : forall objid, pool.Numbers objid -> pool.convertId (pool.convertId objid) = objid
  sameNode : forall index objid, pool.getObjidByIndex index = some objid ->
    pool.getByIndex index = some index ∧ pool.get objid = some index

theorem Valid.safeAlloc_behaves (valid : pool.Valid) :
    (pool.safeAlloc.2 = 0 ↔ forall objid, pool.Numbers objid -> pool.Allocated objid) ∧
    (pool.safeAlloc.2 ≠ 0 -> pool.Numbers pool.safeAlloc.2 ∧ ¬ pool.Allocated pool.safeAlloc.2 ∧
      pool.safeAlloc.1.Allocated pool.safeAlloc.2) ∧
    LeavesOthers pool pool.safeAlloc.1 := by
  rcases valid.safeAlloc_cases with ⟨empty, full⟩ | ⟨index, inside, free, top, taken⟩
  · rw [full]
    refine ⟨⟨fun _ objid numbers => ?_, fun _ => rfl⟩, fun some => absurd rfl some,
      ⟨fun _ => rfl, rfl, fun _ => id⟩⟩
    rcases valid.position_of_numbers numbers with ⟨index, inside, rfl⟩
    rw [valid.allocated_iff inside]
    cases used : pool.used index with
    | true => rfl
    | false =>
        have member := (valid.unused (index + 1)).mpr ⟨Nat.le_add_left 1 index, inside, used⟩
        rw [empty] at member
        cases member
  · have positive := valid.objid_pos inside
    have unallocated : ¬ pool.Allocated (pool.objid index) := by
      rw [valid.allocated_iff inside, free]
      exact Bool.false_ne_true
    rw [taken]
    refine ⟨⟨fun zero => absurd zero (Nat.ne_of_gt positive), fun all => ?_⟩,
      fun _ => ⟨?_, unallocated, ?_⟩,
      pool.taking_leavesOthers index pool.unusedIds.dropLast⟩
    · exact absurd (all _ (valid.numbers_objid inside)) unallocated
    · exact valid.numbers_objid inside
    · rw [Allocated, valid.allocated_get inside top, Option.any_some]
      exact Function.update_self ..

theorem Valid.safeAllocAt_behaves (valid : pool.Valid) {objid : Nat}
    (numbers : pool.Numbers objid) :
    Exists fun next => Exists fun result => pool.safeAllocAt objid = some (next, result) ∧
      (result = 0 ↔ pool.Allocated objid) ∧ (result ≠ 0 -> result = objid) ∧
      next.Allocated objid ∧ LeavesOthers pool next := by
  rcases valid.position_of_numbers numbers with ⟨index, inside, rfl⟩
  have positive := valid.objid_pos inside
  have allocated := valid.allocated_iff inside
  rcases valid.safeAllocAt_cases inside with ⟨used, refused⟩ | ⟨free, rest, split, taken⟩
  · have already := allocated.mpr used
    exact ⟨pool, 0, refused, ⟨fun _ => already, fun _ => rfl⟩, fun some => absurd rfl some, already,
      ⟨fun _ => rfl, rfl, fun _ => id⟩⟩
  · refine ⟨_, _, taken, ⟨fun zero => absurd zero (Nat.ne_of_gt positive), fun already => ?_⟩,
      fun _ => rfl, ?_, pool.taking_leavesOthers index rest⟩
    · rw [allocated, free] at already
      cases already
    · have node : (pool.taking index rest).get (pool.objid index) = some index :=
        valid.get_objid inside
      rw [Allocated, node, Option.any_some]
      exact Function.update_self ..

theorem Valid.release_behaves (valid : pool.Valid) {objid : Nat} (allocated : pool.Allocated objid)
    (numbers : pool.Numbers objid) :
    Exists fun next => pool.releaseInternal objid = some next ∧ ¬ next.Allocated objid ∧
      pool.unusedIds.length < pool.totalSize ∧ pool.convertId objid ∉ pool.unusedIds := by
  rcases valid.position_of_numbers numbers with ⟨index, inside, rfl⟩
  have used := (valid.allocated_iff inside).mp allocated
  refine ⟨_, valid.releaseInternal_eq used, ?_, ?_, ?_⟩
  · have node : (pool.released index).get (pool.objid index) = some index :=
      valid.get_objid inside
    rw [Allocated, node, Option.any_some]
    change ¬ Function.update pool.used index false index = true
    rw [Function.update_self]
    exact Bool.false_ne_true
  · have member := valid.mem_usedObjects.mpr used
    have counted := valid.getObjectNum_eq
    rw [getObjectNum] at counted
    have some := List.length_pos_of_mem member
    omega
  · rw [valid.convertId_objid inside, valid.unused, Nat.add_sub_cancel, used]
    rintro ⟨_, _, impossible⟩
    cases impossible

theorem Valid.behaves (valid : pool.Valid) : pool.Behaves where
  distinct := valid.distinct
  unused := valid.unused
  safeAlloc := valid.safeAlloc_behaves
  safeAllocAt := fun _ numbers => valid.safeAllocAt_behaves numbers
  release := fun _ allocated numbers => valid.release_behaves allocated numbers
  objectNum := by
    rw [valid.getObjectNum_eq, usedObjects, List.countP_eq_length_filter]
  involution := by
    intro objid numbers
    rcases valid.position_of_numbers numbers with ⟨index, inside, rfl⟩
    rw [valid.convertId_objid inside]
    rfl
  sameNode := by
    intro index objid named
    unfold getObjidByIndex at named
    split at named
    · rename_i inside
      cases named
      exact ⟨if_pos inside, valid.get_objid inside⟩
    · cases named

/-- In every history of a pool its stack holds exactly the ids that are not in use, and
its functions behave accordingly. -/
theorem pool_behaves_in_every_run {baseId size : Nat} (fits : baseId + size + 1 < 2 ^ 32)
    {uninitialised : Nat -> α} {events : List ObjectPoolEvent} {pool : ObjectPool α}
    (run : Run Step (safeInit baseId size uninitialised) events pool) :
    pool.baseId = baseId ∧ pool.totalSize = size ∧ pool.Behaves := by
  rcases valid_of_run fits run with ⟨valid, base, total⟩
  exact ⟨base, total, valid.behaves⟩

/-- Two objects are allocated, one of them by its objid, and the first is released. -/
theorem pool_behaves_in_every_run_reused :
    Exists fun pool : ObjectPool Nat =>
      Run Step (safeInit 600000 3 fun _ => 0)
        [.safeAlloc, .safeAllocAt 600003, .release 600001] pool ∧
      pool.unusedIds = [2, 3] ∧ pool.Behaves := by
  have done : ([.safeAlloc, .safeAllocAt 600003, .release 600001].foldlM perform
      (safeInit 600000 3 fun _ => 0)).map unusedIds = some [2, 3] := by decide
  rcases Option.map_eq_some_iff.mp done with ⟨pool, calls, ids⟩
  have run : Run Step (safeInit 600000 3 fun _ => 0)
      [.safeAlloc, .safeAllocAt 600003, .release 600001] pool := Run.of_foldlM _ calls
  exact ⟨pool, run, ids, (pool_behaves_in_every_run (by decide) run).2.2⟩

end ObjectPool
end NetSystem
