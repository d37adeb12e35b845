import NetSystem.Packet.Layout

namespace NetSystem

/-!
# Packet buffers and their free lists

`packet_buffer_t` entries are obtained with `malloc` and afterwards only move
between a free list and the packet object that uses them.  Each packet class
has one static free list for receiving and one for sending, shared by all its
objects.

An entry is named by the order of its allocation.  A pool records the entries
obtained so far and the chain of free ones; `uninitialised` gives the contents
`malloc` returned for each.  A free list is a list of names: the chain through
the `next` pointers.
-/

/-- `packet_buffer_t`, without the link. -/
structure PacketBuffer where
  data : Memory UInt8
  size : Nat
  capSize : Nat

namespace PacketBuffer

/-- The bytes received so far. -/
def contents (buffer : PacketBuffer) : List UInt8 := buffer.data.read 0 buffer.size

/-- `memcpy` behind the current contents, and the new size. -/
def append (buffer : PacketBuffer) (bytes : List UInt8) : PacketBuffer :=
  { buffer with
    data := buffer.data.write buffer.size bytes
    size := buffer.size + bytes.length }

@[simp] theorem length_contents (buffer : PacketBuffer) : buffer.contents.length = buffer.size :=
  Memory.length_read _ _ _

@[simp] theorem contents_append (buffer : PacketBuffer) (bytes : List UInt8) :
    (buffer.append bytes).contents = buffer.contents ++ bytes := by
  have extended := Memory.read_write_extend buffer.data 0 buffer.size bytes
  rw [Nat.zero_add] at extended
  exact extended

end PacketBuffer

/-- The entries obtained so far and the free ones among them. -/
structure BufferPool where
  entries : Nat -> PacketBuffer
  freeList : List Nat
  allocated : Nat
  uninitialised : Nat -> Memory UInt8

namespace BufferPool

/-- Before any allocation. -/
def initial (uninitialised : Nat -> Memory UInt8) : BufferPool :=
  ⟨fun _ => ⟨uninitialised 0, 0, 0⟩, [], 0, uninitialised⟩

/-- Replace one entry. -/
def set (pool : BufferPool) (entry : Nat) (buffer : PacketBuffer) : BufferPool :=
  { pool with entries := fun other => if other = entry then buffer else pool.entries other }

@[simp] theorem set_entries_self (pool : BufferPool) (entry : Nat) (buffer : PacketBuffer) :
    (pool.set entry buffer).entries entry = buffer := if_pos rfl

theorem set_entries_of_ne (pool : BufferPool) {entry other : Nat} (buffer : PacketBuffer)
    (different : other ≠ entry) : (pool.set entry buffer).entries other = pool.entries other :=
  if_neg different

/-- One pass of the allocation loop: `malloc`, initialise, and push. -/
def mallocOne (capSize : Nat) (pool : BufferPool) : BufferPool :=
  let added := pool.set pool.allocated ⟨pool.uninitialised pool.allocated, 0, capSize⟩
  { added with
    freeList := pool.allocated :: pool.freeList
    allocated := pool.allocated + 1 }

/-- The allocation loop. -/
def refill (capSize : Nat) : Nat -> BufferPool -> BufferPool
  | 0, pool => pool
  | count + 1, pool => refill capSize count (pool.mallocOne capSize)

/-- The pool once `entry` has been unlinked and its size cleared. -/
def taking (pool : BufferPool) (entry : Nat) (rest : List Nat) : BufferPool :=
  { pool.set entry { pool.entries entry with size := 0 } with freeList := rest }

/-- Take the first free entry. -/
def takeFree (pool : BufferPool) : Option (Nat × BufferPool) :=
  match pool.freeList with
  | [] => none
  | entry :: rest => some (entry, pool.taking entry rest)

/-- `packet_buffer_alloc`: the recursive call after the loop finds the list
filled, so it is written as one more `takeFree`. -/
def packetBufferAlloc (pool : BufferPool) (capSize numHint : Nat) : Option (Nat × BufferPool) :=
  match pool.takeFree with
  | some taken => some taken
  | none => (refill capSize numHint pool).takeFree

/-- `packet_buffer_free`. -/
def packetBufferFree (pool : BufferPool) (entry : Nat) : BufferPool :=
  { pool with freeList := entry :: pool.freeList }

/-- The free-list half of `InitPacketBuffer`: allocate and give back. -/
def initPacketBuffer (pool : BufferPool) (capSize numHint : Nat) : BufferPool :=
  match pool.packetBufferAlloc capSize numHint with
  | some (entry, taken) => taken.packetBufferFree entry
  | none => pool

/-! ## Well-formed pools -/

/-- Every free entry is listed once and every entry has the class's capacity. -/
structure WellFormed (pool : BufferPool) (capSize : Nat) : Prop where
  nodup : pool.freeList.Nodup
  bounded : forall entry, entry ∈ pool.freeList -> entry < pool.allocated
  sized : forall entry, entry < pool.allocated -> (pool.entries entry).capSize = capSize

theorem initial_wellFormed (uninitialised : Nat -> Memory UInt8) (capSize : Nat) :
    (initial uninitialised).WellFormed capSize := by
  refine ⟨List.nodup_nil, ?_, ?_⟩
  · intro entry impossible
    cases impossible
  · intro entry impossible
    exact absurd impossible (Nat.not_lt_zero _)

theorem mallocOne_wellFormed {pool : BufferPool} {capSize : Nat}
    (formed : pool.WellFormed capSize) : (pool.mallocOne capSize).WellFormed capSize := by
  constructor
  · refine List.nodup_cons.mpr ⟨fun listed => ?_, formed.nodup⟩
    exact Nat.lt_irrefl _ (formed.bounded _ listed)
  · intro entry listed
    change entry < pool.allocated + 1
    rcases List.mem_cons.mp listed with same | before
    · omega
    · exact Nat.lt_succ_of_lt (formed.bounded entry before)
  · intro entry below
    change entry < pool.allocated + 1 at below
    change ((pool.set pool.allocated _).entries entry).capSize = capSize
    by_cases same : entry = pool.allocated
    · subst entry
      rw [set_entries_self]
    · rw [set_entries_of_ne pool _ same]
      exact formed.sized entry (by omega)

theorem refill_wellFormed {capSize : Nat} (count : Nat) {pool : BufferPool}
    (formed : pool.WellFormed capSize) : (refill capSize count pool).WellFormed capSize := by
  induction count generalizing pool with
  | zero => exact formed
  | succ count inductionHypothesis => exact inductionHypothesis (mallocOne_wellFormed formed)

theorem refill_allocated (capSize count : Nat) (pool : BufferPool) :
    (refill capSize count pool).allocated = pool.allocated + count := by
  induction count generalizing pool with
  | zero => rfl
  | succ count inductionHypothesis =>
      rw [refill, inductionHypothesis]
      change pool.allocated + 1 + count = _
      omega

/-- The loop pushes the new entries, the latest first, and keeps the old list
behind them. -/
theorem refill_freeList (capSize count : Nat) (pool : BufferPool) :
    (refill capSize count pool).freeList =
      ((List.range' pool.allocated count).reverse ++ pool.freeList) := by
  induction count generalizing pool with
  | zero => rfl
  | succ count inductionHypothesis =>
      rw [refill, inductionHypothesis]
      change (List.range' (pool.allocated + 1) count).reverse ++ pool.allocated :: pool.freeList = _
      rw [List.range'_succ, List.reverse_cons, List.append_assoc]
      rfl

/-- What an allocation gives: an entry that was free or is new, now off the
list and empty.  New entries are obtained only when the list is empty. -/
structure Allocates (pool : BufferPool) (capSize numHint : Nat) (entry : Nat)
    (taken : BufferPool) : Prop where
  formed : taken.WellFormed capSize
  fresh : entry ∉ taken.freeList
  below : entry < taken.allocated
  empty : (taken.entries entry).contents = []
  source : (taken.allocated = pool.allocated ∧ pool.freeList = entry :: taken.freeList) ∨
    (taken.allocated = pool.allocated + numHint ∧ pool.freeList = [] ∧
      entry :: taken.freeList = (List.range' pool.allocated numHint).reverse)

private theorem taking_wellFormed {pool : BufferPool} {capSize : Nat}
    (formed : pool.WellFormed capSize) {entry : Nat} {rest : List Nat}
    (listed : pool.freeList = entry :: rest) :
    (pool.taking entry rest).WellFormed capSize := by
  have unique := listed ▸ formed.nodup
  constructor
  · exact (List.nodup_cons.mp unique).2
  · intro other member
    exact formed.bounded other (listed ▸ List.mem_cons_of_mem entry member)
  · intro other below
    change ((pool.set entry _).entries other).capSize = capSize
    by_cases same : other = entry
    · subst other
      rw [set_entries_self]
      exact formed.sized entry below
    · rw [set_entries_of_ne pool _ same]
      exact formed.sized other below

theorem packetBufferAlloc_spec {pool : BufferPool} {capSize numHint : Nat}
    (formed : pool.WellFormed capSize) (positive : 0 < numHint) :
    Exists fun entry => Exists fun taken =>
      pool.packetBufferAlloc capSize numHint = some (entry, taken) ∧
        Allocates pool capSize numHint entry taken := by
  cases free : pool.freeList with
  | cons entry rest =>
      have unique := free ▸ formed.nodup
      refine ⟨entry, pool.taking entry rest, by simp only [packetBufferAlloc, takeFree, free], ?_⟩
      refine ⟨taking_wellFormed formed free, (List.nodup_cons.mp unique).1, ?_, ?_,
        Or.inl ⟨rfl, free⟩⟩
      · exact formed.bounded entry (free ▸ List.mem_cons_self)
      · change ((pool.set entry _).entries entry).contents = []
        rw [set_entries_self]
        rfl
  | nil =>
      have filled := refill_freeList capSize numHint pool
      have largeFormed := refill_wellFormed numHint formed
      rcases Nat.exists_eq_succ_of_ne_zero (Nat.pos_iff_ne_zero.mp positive) with ⟨count, rfl⟩
      have split : (List.range' pool.allocated (count + 1)).reverse =
          (pool.allocated + count) :: (List.range' pool.allocated count).reverse := by
        rw [List.range'_concat, List.reverse_append]
        simp
      rw [free, List.append_nil, split] at filled
      have unique := filled ▸ largeFormed.nodup
      refine ⟨pool.allocated + count, (refill capSize (count + 1) pool).taking _ _,
        by simp only [packetBufferAlloc, takeFree, free, filled]; rfl, ?_⟩
      refine ⟨taking_wellFormed largeFormed filled, (List.nodup_cons.mp unique).1, ?_, ?_,
        Or.inr ⟨refill_allocated _ _ _, free, split.symm⟩⟩
      · exact largeFormed.bounded _ (filled ▸ List.mem_cons_self)
      · change (((refill capSize (count + 1) pool).set _ _).entries _).contents = []
        rw [set_entries_self]
        rfl

/-- No entry is ever given back to the system. -/
theorem packetBufferAlloc_allocated_le {pool taken : BufferPool} {capSize numHint entry : Nat}
    (alloc : pool.packetBufferAlloc capSize numHint = some (entry, taken)) :
    pool.allocated ≤ taken.allocated := by
  have same : forall {before : BufferPool}, before.takeFree = some (entry, taken) ->
      taken.allocated = before.allocated := by
    intro before took
    unfold takeFree at took
    cases free : before.freeList with
    | nil =>
        rw [free] at took
        cases took
    | cons first rest =>
        rw [free] at took
        cases took
        rfl
  unfold packetBufferAlloc at alloc
  cases took : pool.takeFree with
  | some pair =>
      rw [took] at alloc
      cases alloc
      exact Nat.le_of_eq (same took).symm
  | none =>
      rw [took] at alloc
      rw [same alloc, refill_allocated]
      exact Nat.le_add_right _ _

/-- The entry taken and the free ones are those that were free and the new
ones. -/
theorem Allocates.perm {pool taken : BufferPool} {capSize numHint entry : Nat}
    (allocates : Allocates pool capSize numHint entry taken) :
    (entry :: taken.freeList).Perm
      (pool.freeList ++ List.range' pool.allocated (taken.allocated - pool.allocated)) := by
  rcases allocates.source with ⟨count, free⟩ | ⟨count, free, new⟩
  · rw [count, Nat.sub_self, List.range'_zero, List.append_nil, free]
  · rw [count, Nat.add_sub_cancel_left, free, List.nil_append, new]
    exact List.reverse_perm _

/-- Giving back an entry that is off the list keeps the pool well formed. -/
theorem packetBufferFree_wellFormed {pool : BufferPool} {capSize entry : Nat}
    (formed : pool.WellFormed capSize) (below : entry < pool.allocated)
    (absent : entry ∉ pool.freeList) : (pool.packetBufferFree entry).WellFormed capSize := by
  refine ⟨List.nodup_cons.mpr ⟨absent, formed.nodup⟩, ?_, formed.sized⟩
  intro other listed
  rcases List.mem_cons.mp listed with same | before
  · subst other
    exact below
  · exact formed.bounded other before

/-- Changing an entry's bytes but not its capacity keeps the pool well formed. -/
theorem set_wellFormed {pool : BufferPool} {capSize entry : Nat} {buffer : PacketBuffer}
    (formed : pool.WellFormed capSize) (same : buffer.capSize = capSize) :
    (pool.set entry buffer).WellFormed capSize := by
  refine ⟨formed.nodup, formed.bounded, ?_⟩
  intro other below
  by_cases equal : other = entry
  · subst other
    rw [set_entries_self]
    exact same
  · rw [set_entries_of_ne pool _ equal]
    exact formed.sized other below

end BufferPool
end NetSystem
