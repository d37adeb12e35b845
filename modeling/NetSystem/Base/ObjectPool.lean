import Mathlib.Data.List.Nodup
import Mathlib.Logic.Function.Basic
import Mathlib.Tactic.Ring

namespace NetSystem

universe u

/-!
# The object pool

`CObjectPool`: an array of nodes with a used flag, and a stack of the ids that
are not in use.  Ids count from one and belong to the node one position lower;
outside the pool an object has an objid, which `ConvertId` maps to its id and
back.

Objects are named by their position.  The first `_unused_size` entries of
`_unused_ids` are a list whose last entry is the top of the stack.  The memory
of a node that was never allocated holds whatever `new` returned.
-/

structure ObjectPool (α : Type u) where
  baseId : Nat
  totalSize : Nat
  data : Nat -> α
  used : Nat -> Bool
  unusedIds : List Nat

namespace ObjectPool

variable {α : Type u} {pool : ObjectPool α}

/-- `ConvertId`, in 32-bit arithmetic. -/
def convertId (pool : ObjectPool α) (id : Nat) : Nat :=
  (1 + pool.baseId + pool.totalSize + 2 ^ 32 - id) % 2 ^ 32

def safeInit (baseId size : Nat) (uninitialised : Nat -> α) : ObjectPool α where
  baseId := baseId
  totalSize := size
  data := uninitialised
  used := fun _ => false
  unusedIds := (List.range size).map fun index => index + 1

/-- `SafeAlloc`, with the objid that it returns. -/
def safeAlloc (pool : ObjectPool α) : ObjectPool α × Nat :=
  match pool.unusedIds.getLast? with
  | none => (pool, 0)
  | some id =>
      ({ pool with
          unusedIds := pool.unusedIds.dropLast
          used := Function.update pool.used (id - 1) true },
        pool.convertId id)

/-- `ReleaseInternal`, where no assertion fails. -/
def releaseInternal (pool : ObjectPool α) (objid : Nat) : Option (ObjectPool α) :=
  let id := pool.convertId objid
  if 1 ≤ id ∧ id ≤ pool.totalSize ∧ pool.used (id - 1) = true then
    some { pool with
      used := Function.update pool.used (id - 1) false
      unusedIds := pool.unusedIds ++ [id] }
  else none

/-- `Get`: the position of the object, where it is inside the array. -/
def get (pool : ObjectPool α) (objid : Nat) : Option Nat :=
  let id := pool.convertId objid
  if 1 ≤ id ∧ id ≤ pool.totalSize then some (id - 1) else none

def getObjectNum (pool : ObjectPool α) : Nat := pool.totalSize - pool.unusedIds.length

/-- The objects that `OBJECT_POOL_ITERATE_USED_OBJECT_BEGIN` finds in use. -/
def usedObjects (pool : ObjectPool α) : List Nat :=
  (List.range pool.totalSize).filter fun index => pool.used index

/-- The objid of the object at a position. -/
def objid (pool : ObjectPool α) (index : Nat) : Nat := pool.convertId (index + 1)

/-- The object at a position is overwritten. -/
def setData (pool : ObjectPool α) (index : Nat) (value : α) : ObjectPool α :=
  { pool with data := Function.update pool.data index value }

@[simp] theorem setData_data (index : Nat) (value : α) :
    (pool.setData index value).data index = value :=
  Function.update_self ..

/-- The stack holds exactly the ids of the nodes that are not in use. -/
structure Valid (pool : ObjectPool α) : Prop where
  fits : pool.baseId + pool.totalSize + 1 < 2 ^ 32
  distinct : pool.unusedIds.Nodup
  unused : forall id, id ∈ pool.unusedIds ↔
    1 ≤ id ∧ id ≤ pool.totalSize ∧ pool.used (id - 1) = false
  inside : forall index, pool.used index = true -> index < pool.totalSize

/-! ## Ids -/

theorem Valid.convertId_eq (valid : pool.Valid) {id : Nat}
    (below : id ≤ 1 + pool.baseId + pool.totalSize) :
    pool.convertId id = 1 + pool.baseId + pool.totalSize - id := by
  have fits := valid.fits
  unfold convertId
  omega

theorem Valid.objid_eq (valid : pool.Valid) {index : Nat} (inside : index < pool.totalSize) :
    pool.objid index = pool.baseId + pool.totalSize - index := by
  rw [objid, valid.convertId_eq (by omega)]
  omega

theorem Valid.objid_pos (valid : pool.Valid) {index : Nat} (inside : index < pool.totalSize) :
    0 < pool.objid index := by
  rw [valid.objid_eq inside]
  omega

/-- `ConvertId` is its own inverse. -/
theorem Valid.convertId_objid (valid : pool.Valid) {index : Nat}
    (inside : index < pool.totalSize) : pool.convertId (pool.objid index) = index + 1 := by
  have objid := valid.objid_eq inside
  rw [valid.convertId_eq (by omega), objid]
  omega

theorem Valid.get_objid (valid : pool.Valid) {index : Nat} (inside : index < pool.totalSize) :
    pool.get (pool.objid index) = some index := by
  simp only [get, valid.convertId_objid inside]
  rw [if_pos ⟨Nat.le_add_left 1 index, inside⟩, Nat.add_sub_cancel]

/-- Which object an objid names depends only on the numbering. -/
theorem get_congr {other : ObjectPool α} (base : other.baseId = pool.baseId)
    (size : other.totalSize = pool.totalSize) : other.get = pool.get := by
  funext objid
  unfold get convertId
  rw [base, size]

/-! ## The operations -/

theorem safeInit_valid {baseId size : Nat} (fits : baseId + size + 1 < 2 ^ 32)
    (uninitialised : Nat -> α) : (safeInit baseId size uninitialised).Valid where
  fits := fits
  distinct := by
    refine List.Nodup.map ?_ List.nodup_range
    intro left right same
    exact Nat.succ.inj same
  unused := by
    intro id
    constructor
    · intro member
      rcases List.mem_map.mp member with ⟨index, inside, rfl⟩
      exact ⟨Nat.le_add_left 1 index, List.mem_range.mp inside, rfl⟩
    · rintro ⟨positive, below, _⟩
      refine List.mem_map.mpr ⟨id - 1, List.mem_range.mpr ?_, Nat.sub_add_cancel positive⟩
      change id ≤ size at below
      omega
  inside := nofun

theorem Valid.setData (valid : pool.Valid) (index : Nat) (value : α) :
    (pool.setData index value).Valid :=
  ⟨valid.fits, valid.distinct, valid.unused, valid.inside⟩

/-- The pool once the object on top of the stack has been taken. -/
def allocated (pool : ObjectPool α) (index : Nat) : ObjectPool α :=
  { pool with
    unusedIds := pool.unusedIds.dropLast
    used := Function.update pool.used index true }

/-- All objects are in use, or one that is not is taken. -/
theorem Valid.safeAlloc_cases (valid : pool.Valid) :
    (pool.unusedIds = [] ∧ pool.safeAlloc = (pool, 0)) ∨
    (Exists fun index => index < pool.totalSize ∧ pool.used index = false ∧
      pool.unusedIds = pool.unusedIds.dropLast ++ [index + 1] ∧
        pool.safeAlloc = (pool.allocated index, pool.objid index)) := by
  cases top : pool.unusedIds.getLast? with
  | none =>
      refine .inl ⟨List.getLast?_eq_none_iff.mp top, ?_⟩
      rw [safeAlloc, top]
  | some id =>
      have stack := (List.dropLast_append_getLast? id top).symm
      have member : id ∈ pool.unusedIds := List.mem_of_getLast? top
      rcases (valid.unused id).mp member with ⟨positive, below, free⟩
      have next : id - 1 + 1 = id := Nat.sub_add_cancel positive
      refine .inr ⟨id - 1, by omega, free, ?_, ?_⟩
      · rw [next]
        exact stack
      · rw [safeAlloc, top, objid, next]
        rfl

theorem Valid.allocated (valid : pool.Valid) {index : Nat} (inside : index < pool.totalSize)
    (top : pool.unusedIds = pool.unusedIds.dropLast ++ [index + 1]) :
    (pool.allocated index).Valid := by
  have distinct := valid.distinct
  rw [top, List.nodup_append] at distinct
  refine ⟨valid.fits, distinct.1, ?_, ?_⟩
  · intro id
    have before := valid.unused id
    rw [top, List.mem_append, List.mem_singleton] at before
    change id ∈ pool.unusedIds.dropLast ↔
      1 ≤ id ∧ id ≤ pool.totalSize ∧ Function.update pool.used index true (id - 1) = false
    by_cases here : id - 1 = index
    · rw [here, Function.update_self]
      refine ⟨fun member => ?_, fun ⟨_, _, impossible⟩ => by cases impossible⟩
      have positive := (before.mp (.inl member)).1
      exact absurd (show id = index + 1 by omega)
        (distinct.2.2 id member (index + 1) (List.mem_singleton_self _))
    · rw [Function.update_of_ne here, ← before]
      refine ⟨.inl, fun either => either.resolve_right fun same => here ?_⟩
      omega
  · intro other used
    by_cases here : other = index
    · rw [here]
      exact inside
    · change Function.update pool.used index true other = true at used
      rw [Function.update_of_ne here] at used
      exact valid.inside other used

/-- The object that was taken has the objid that it had. -/
theorem Valid.allocated_get (valid : pool.Valid) {index : Nat} (inside : index < pool.totalSize)
    (top : pool.unusedIds = pool.unusedIds.dropLast ++ [index + 1]) :
    (pool.allocated index).get (pool.objid index) = some index := by
  have same : (pool.allocated index).objid index = pool.objid index := by
    simp only [objid, convertId, ObjectPool.allocated]
  rw [← same]
  exact (valid.allocated inside top).get_objid inside

/-- The pool once an object has been given back. -/
def released (pool : ObjectPool α) (index : Nat) : ObjectPool α :=
  { pool with
    used := Function.update pool.used index false
    unusedIds := pool.unusedIds ++ [index + 1] }

theorem Valid.releaseInternal_eq (valid : pool.Valid) {index : Nat}
    (used : pool.used index = true) :
    pool.releaseInternal (pool.objid index) = some (pool.released index) := by
  have inside := valid.inside index used
  simp only [releaseInternal, valid.convertId_objid inside, Nat.add_sub_cancel]
  rw [if_pos ⟨Nat.le_add_left 1 index, inside, used⟩]
  rfl

theorem Valid.released (valid : pool.Valid) {index : Nat} (used : pool.used index = true) :
    (pool.released index).Valid := by
  have inside := valid.inside index used
  refine ⟨valid.fits, ?_, ?_, ?_⟩
  · refine List.nodup_append.mpr ⟨valid.distinct, List.nodup_singleton _, ?_⟩
    intro id member other last same
    rw [List.mem_singleton.mp last] at same
    have free := ((valid.unused id).mp member).2.2
    rw [same, Nat.add_sub_cancel, used] at free
    cases free
  · intro id
    change id ∈ pool.unusedIds ++ [index + 1] ↔
      1 ≤ id ∧ id ≤ pool.totalSize ∧ Function.update pool.used index false (id - 1) = false
    rw [List.mem_append, List.mem_singleton, valid.unused]
    by_cases here : id - 1 = index
    · rw [here, Function.update_self, used]
      constructor
      · rintro (⟨_, _, impossible⟩ | same)
        · cases impossible
        · exact ⟨by omega, by omega, rfl⟩
      · rintro ⟨positive, _, _⟩
        exact .inr (by omega)
    · rw [Function.update_of_ne here]
      refine ⟨fun either => either.resolve_right fun same => here ?_, .inl⟩
      omega
  · intro other still
    by_cases here : other = index
    · rw [here]
      exact inside
    · change Function.update pool.used index false other = true at still
      rw [Function.update_of_ne here] at still
      exact valid.inside other still

/-! ## The objects in use -/

theorem Valid.mem_usedObjects (valid : pool.Valid) {index : Nat} :
    index ∈ pool.usedObjects ↔ pool.used index = true := by
  rw [usedObjects, List.mem_filter, List.mem_range]
  exact ⟨fun both => both.2, fun used => ⟨valid.inside index used, used⟩⟩

theorem nodup_usedObjects (pool : ObjectPool α) : pool.usedObjects.Nodup :=
  List.nodup_range.filter _

/-- `GetObjectNum` counts them. -/
theorem Valid.getObjectNum_eq (valid : pool.Valid) :
    pool.getObjectNum = pool.usedObjects.length := by
  have free : (pool.unusedIds).Perm
      (((List.range pool.totalSize).filter fun index => !pool.used index).map (· + 1)) := by
    rw [List.perm_ext_iff_of_nodup valid.distinct
      ((List.nodup_range.filter _).map fun _ _ same => Nat.succ.inj same)]
    intro id
    rw [valid.unused, List.mem_map]
    constructor
    · rintro ⟨positive, below, unused⟩
      refine ⟨id - 1, List.mem_filter.mpr ⟨List.mem_range.mpr (by omega), ?_⟩,
        Nat.sub_add_cancel positive⟩
      rw [unused]
      rfl
    · rintro ⟨index, member, rfl⟩
      rcases List.mem_filter.mp member with ⟨inside, unused⟩
      exact ⟨Nat.le_add_left 1 index, List.mem_range.mp inside, by simpa using unused⟩
  have split := List.length_eq_length_filter_add (l := List.range pool.totalSize)
    (fun index => pool.used index)
  have size := free.length_eq
  rw [List.length_map] at size
  rw [List.length_range] at split
  change pool.totalSize - pool.unusedIds.length = _
  unfold usedObjects
  omega

end ObjectPool
end NetSystem
