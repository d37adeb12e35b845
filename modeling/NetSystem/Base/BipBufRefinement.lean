import NetSystem.Base.BipBuf

namespace NetSystem
namespace BipBuf

/-!
# `bip_buf` is a bounded queue

`Valid` links the two regions with the capacity: region A lies inside the
storage and is no longer than the capacity, and an open reservation starts
where region A ends and leaves the capacity intact even when everything in it
is committed.  Every operation restores it, and under it every operation does
to the committed bytes what the bounded queue does to its contents.

The non-overlap of the wrapping copy is a consequence: region A is moved only
when it ends beyond `capacity` plus its own length, hence starts beyond the
capacity, while its target ends before it.
-/

/-- The representation invariant of the buffer. -/
structure Valid (bb : BipBuf) : Prop where
  ordered : bb.aStart ≤ bb.aEnd
  inside : bb.aEnd ≤ 2 * bb.availableCapacity
  fits : bb.aEnd ≤ bb.aStart + bb.availableCapacity
  region : (bb.rStart = 0 ∧ bb.rEnd = 0) ∨
    (bb.rStart = bb.aEnd ∧ bb.rStart < bb.rEnd ∧ bb.rEnd ≤ 2 * bb.availableCapacity ∧
      bb.rEnd ≤ bb.aStart + bb.availableCapacity)

/-- The queue that a buffer stands for. -/
def view (bb : BipBuf) : BoundedFifo UInt8 :=
  ⟨bb.availableCapacity, bb.committed, bb.reserved⟩

@[simp] theorem length_committed (bb : BipBuf) : bb.committed.length = bb.getCommittedSize :=
  Memory.length_read _ _ _

@[simp] theorem length_reserved (bb : BipBuf) : bb.reserved.length = bb.getReservationSize :=
  Memory.length_read _ _ _

theorem reserved_eq_nil_iff (bb : BipBuf) : bb.reserved = [] ↔ bb.getReservationSize = 0 := by
  rw [← List.length_eq_zero_iff, length_reserved]

theorem committed_eq_nil_iff (bb : BipBuf) : bb.committed = [] ↔ bb.getCommittedSize = 0 := by
  rw [← List.length_eq_zero_iff, length_committed]

/-- `bip_buf_is_empty` and `bip_buf_is_full` tell the length of the queue. -/
theorem isEmpty_iff (bb : BipBuf) : bb.isEmpty = true ↔ bb.view.queue = [] := by
  rw [isEmpty, beq_iff_eq, ← committed_eq_nil_iff]
  rfl

theorem isFull_iff (bb : BipBuf) :
    bb.isFull = true ↔ bb.view.queue.length = bb.view.capacity := by
  rw [isFull, beq_iff_eq, eq_comm, ← length_committed]
  rfl

/-- No more bytes are committed than the capacity allows. -/
theorem Valid.committedSize_le {bb : BipBuf} (valid : bb.Valid) :
    bb.getCommittedSize ≤ bb.availableCapacity := by
  have := valid.fits
  unfold getCommittedSize
  omega

/-- Without a reservation both of its ends are zero. -/
theorem Valid.closed {bb : BipBuf} (valid : bb.Valid) (none_open : bb.getReservationSize = 0) :
    bb.rStart = 0 ∧ bb.rEnd = 0 := by
  rcases valid.region with closed | ⟨_, nonempty, _⟩
  · exact closed
  · unfold getReservationSize at none_open
    omega

/-- An open reservation starts where region A ends. -/
theorem Valid.opened {bb : BipBuf} (valid : bb.Valid) (is_open : 0 < bb.getReservationSize) :
    bb.rStart = bb.aEnd ∧ bb.rStart < bb.rEnd ∧ bb.rEnd ≤ 2 * bb.availableCapacity ∧
      bb.rEnd ≤ bb.aStart + bb.availableCapacity := by
  rcases valid.region with ⟨first, second⟩ | opened
  · unfold getReservationSize at is_open
    omega
  · exact opened

/-! ## Creation and emptying -/

theorem reset_valid (bb : BipBuf) : bb.reset.Valid :=
  ⟨Nat.le_refl _, Nat.zero_le _, Nat.zero_le _, Or.inl ⟨rfl, rfl⟩⟩

theorem create_valid (capacity : Nat) (uninitialised : Memory UInt8) :
    (create capacity uninitialised).Valid :=
  reset_valid _

theorem smear_bounds (shift value : UInt32) (small : value.toNat < 2 ^ 31) :
    value.toNat ≤ (smear shift value).toNat ∧ (smear shift value).toNat < 2 ^ 31 := by
  have shifted : (value >>> shift).toNat ≤ value.toNat := by
    rw [UInt32.toNat_shiftRight, Nat.shiftRight_eq_div_pow]
    exact Nat.div_le_self _ _
  unfold smear
  rw [UInt32.toNat_or]
  exact ⟨Nat.left_le_or, Nat.or_lt_two_pow small (Nat.lt_of_le_of_lt shifted small)⟩

/-- A size of at most `2 ^ 31` is not rounded down. -/
theorem le_nextPowerOfTwo (size : Nat) (positive : 0 < size) (bounded : size ≤ 2 ^ 31) :
    size ≤ (nextPowerOfTwo (UInt32.ofNat size)).toNat := by
  have start : (UInt32.ofNat size - 1).toNat = size - 1 := by
    have one : (1 : UInt32) ≤ UInt32.ofNat size := by
      rw [UInt32.le_iff_toNat_le, UInt32.toNat_ofNat]
      change 1 ≤ size % 2 ^ 32
      omega
    rw [UInt32.toNat_sub_of_le _ _ one, UInt32.toNat_ofNat]
    change size % 2 ^ 32 - 1 = size - 1
    omega
  have first := smear_bounds 1 (UInt32.ofNat size - 1) (by omega)
  have second := smear_bounds 2 _ first.2
  have third := smear_bounds 4 _ second.2
  have fourth := smear_bounds 8 _ third.2
  have fifth := smear_bounds 16 _ fourth.2
  have plusOne : (nextPowerOfTwo (UInt32.ofNat size)).toNat =
      (smear 16 (smear 8 (smear 4 (smear 2 (smear 1 (UInt32.ofNat size - 1)))))).toNat + 1 := by
    unfold nextPowerOfTwo
    rw [UInt32.toNat_add]
    change (_ + 1) % 2 ^ 32 = _
    omega
  omega

/-! ## Placing region A before a reservation -/

/-- Region A after making room for `size` more bytes behind it. -/
structure Placed (bb placed : BipBuf) (size : Nat) : Prop where
  ordered : placed.aStart ≤ placed.aEnd
  kept : placed.committed = bb.committed
  capacity : bb.availableCapacity ≤ placed.availableCapacity
  room : placed.aEnd + size ≤ 2 * placed.availableCapacity
  fits : bb.getCommittedSize + size ≤ placed.availableCapacity

theorem Placed.committedSize {bb placed : BipBuf} {size : Nat} (at_size : Placed bb placed size) :
    placed.getCommittedSize = bb.getCommittedSize := by
  rw [← length_committed, ← length_committed, at_size.kept]

/-- The copy of a wrap has disjoint operands inside the storage. -/
def SafeCopy (capacity : Nat) : BufferCopy -> Prop
  | .wrap target source size => target + size ≤ source ∧ source + size ≤ 2 * capacity
  | .grow source size => source + size ≤ 2 * capacity

theorem wrapForSize_placed {bb : BipBuf} (valid : bb.Valid) {size : Nat}
    (free : bb.getCommittedSize + size ≤ bb.availableCapacity) :
    Placed bb (bb.wrapForSize size).1 size := by
  have sized := valid.ordered
  unfold wrapForSize
  by_cases nothing : bb.getCommittedSize = 0
  · rw [if_pos nothing]
    have empty : bb.committed = [] := (committed_eq_nil_iff bb).mpr nothing
    exact ⟨Nat.le_refl _, empty.symm ▸ rfl, Nat.le_refl _, by simp only; omega, free⟩
  · rw [if_neg nothing]
    by_cases short : bb.availableCapacity + bb.availableCapacity - bb.aEnd < size
    · rw [if_pos short]
      refine ⟨Nat.zero_le _, ?_, Nat.le_refl _, by simp only; omega, free⟩
      have whole := Memory.read_write_self bb.buffer 0 bb.committed
      rw [length_committed] at whole
      exact whole
    · rw [if_neg short]
      have inside := valid.inside
      exact ⟨sized, rfl, Nat.le_refl _, by simp only; omega, free⟩

theorem wrapForSize_safe {bb : BipBuf} (valid : bb.Valid) {size : Nat}
    (free : bb.getCommittedSize + size ≤ bb.availableCapacity) {copy : BufferCopy}
    (made : (bb.wrapForSize size).2 = some copy) : SafeCopy bb.availableCapacity copy := by
  have sized := valid.ordered
  have inside := valid.inside
  unfold wrapForSize at made
  by_cases nothing : bb.getCommittedSize = 0
  · rw [if_pos nothing] at made
    cases made
  · rw [if_neg nothing] at made
    by_cases short : bb.availableCapacity + bb.availableCapacity - bb.aEnd < size
    · rw [if_pos short] at made
      cases made
      unfold getCommittedSize at free ⊢
      constructor
      · omega
      · omega
    · rw [if_neg short] at made
      cases made

theorem growForSize_placed {bb : BipBuf} (valid : bb.Valid) {size : Nat} (fresh : Memory UInt8)
    (positive : 0 < size) (bounded : bb.availableCapacity + size ≤ 2 ^ 31) :
    Placed bb (bb.growForSize size fresh).1 size := by
  have grown := le_nextPowerOfTwo (bb.availableCapacity + size) (by omega) bounded
  have small := valid.committedSize_le
  unfold growForSize
  by_cases nothing : bb.getCommittedSize = 0
  · simp only [if_pos nothing]
    have empty : bb.committed = [] := (committed_eq_nil_iff bb).mpr nothing
    exact ⟨Nat.le_refl _, empty.symm ▸ rfl, by simp only; omega, by simp only; omega,
      by simp only; omega⟩
  · simp only [if_neg nothing]
    refine ⟨Nat.zero_le _, ?_, by simp only; omega, by simp only; omega, by simp only; omega⟩
    have whole := Memory.read_write_self fresh 0 bb.committed
    rw [length_committed] at whole
    exact whole

theorem growForSize_safe {bb : BipBuf} (valid : bb.Valid) {size : Nat} (fresh : Memory UInt8)
    {copy : BufferCopy} (made : (bb.growForSize size fresh).2 = some copy) :
    SafeCopy bb.availableCapacity copy := by
  have sized := valid.ordered
  have inside := valid.inside
  unfold growForSize at made
  by_cases nothing : bb.getCommittedSize = 0
  · simp only [if_pos nothing] at made
    cases made
  · simp only [if_neg nothing] at made
    cases made
    change bb.aStart + bb.getCommittedSize ≤ _
    unfold getCommittedSize
    omega

/-- Opening a region behind a placed region A gives a valid buffer whose
reservation has the asked size. -/
theorem Placed.openRegion_valid {bb placed : BipBuf} {size : Nat} (at_size : Placed bb placed size)
    (positive : 0 < size) : (placed.openRegion size).Valid := by
  have ordered := at_size.ordered
  have room := at_size.room
  have fits := at_size.fits
  have same := at_size.committedSize
  unfold getCommittedSize at same fits
  exact ⟨ordered, by simp only [openRegion]; omega, by simp only [openRegion]; omega,
    Or.inr ⟨rfl, by simp only [openRegion]; omega, room, by simp only [openRegion]; omega⟩⟩

theorem Placed.openRegion_committed {bb placed : BipBuf} {size : Nat}
    (at_size : Placed bb placed size) : (placed.openRegion size).committed = bb.committed :=
  at_size.kept

@[simp] theorem openRegion_reservationSize (bb : BipBuf) (size : Nat) :
    (bb.openRegion size).getReservationSize = size := by
  simp [openRegion, getReservationSize]

/-! ## The reservations -/

/-- A returned region lies inside the storage and does not meet region A. -/
def Reservation.Safe (before : BipBuf) (result : Reservation) : Prop :=
  (forall pointer, result.pointer = some pointer ->
    pointer + result.size ≤ 2 * result.bb.availableCapacity ∧
      (result.bb.aEnd ≤ pointer ∨ pointer + result.size ≤ result.bb.aStart)) ∧
  (forall copy, result.copied = some copy -> SafeCopy before.availableCapacity copy)

/-- A reservation that returned a region behind a placed region A. -/
theorem Placed.safe {bb placed : BipBuf} {size : Nat} {copied : Option BufferCopy}
    (at_size : Placed bb placed size)
    (safe : forall copy, copied = some copy -> SafeCopy bb.availableCapacity copy) :
    Reservation.Safe bb ⟨placed.openRegion size, some placed.aEnd, size, copied⟩ := by
  refine ⟨?_, safe⟩
  intro pointer returned
  cases returned
  exact ⟨at_size.room, Or.inl (Nat.le_refl _)⟩

/-- The free space of a buffer that has some. -/
theorem Valid.free {bb : BipBuf} (valid : bb.Valid) :
    bb.getCommittedSize + (bb.availableCapacity - bb.getCommittedSize) = bb.availableCapacity := by
  have := valid.committedSize_le
  omega

/-- The three ways `bip_buf_reserve` can go. -/
theorem reserve_cases {bb : BipBuf} (valid : bb.Valid) :
    (0 < bb.getReservationSize ∧ bb.reserve = ⟨bb, none, 0, none⟩) ∨
    (bb.getReservationSize = 0 ∧ bb.getCommittedSize = bb.availableCapacity ∧
      bb.reserve = ⟨bb, none, 0, none⟩) ∨
    (bb.getReservationSize = 0 ∧ bb.getCommittedSize < bb.availableCapacity ∧
      Exists fun placed : BipBuf × Option BufferCopy =>
        Placed bb placed.1 (bb.availableCapacity - bb.getCommittedSize) ∧
        placed.1.availableCapacity = bb.availableCapacity ∧
        (forall copy, placed.2 = some copy -> SafeCopy bb.availableCapacity copy) ∧
        bb.reserve = ⟨placed.1.openRegion (bb.availableCapacity - bb.getCommittedSize),
          some placed.1.aEnd, bb.availableCapacity - bb.getCommittedSize, placed.2⟩) := by
  by_cases taken : 0 < bb.getReservationSize
  · exact Or.inl ⟨taken, by simp only [reserve, if_pos taken]⟩
  · have closed : bb.getReservationSize = 0 := by omega
    have bounded := valid.committedSize_le
    by_cases full : bb.availableCapacity - bb.getCommittedSize = 0
    · refine Or.inr (Or.inl ⟨closed, by omega, ?_⟩)
      simp only [reserve, if_neg taken, if_pos full]
    · refine Or.inr (Or.inr ⟨closed, by omega,
        bb.wrapForSize (bb.availableCapacity - bb.getCommittedSize), ?_, ?_, ?_, ?_⟩)
      · exact wrapForSize_placed valid (Nat.le_of_eq valid.free)
      · unfold wrapForSize
        split
        · rfl
        · split <;> rfl
      · exact fun copy => wrapForSize_safe valid (Nat.le_of_eq valid.free)
      · simp only [reserve, if_neg taken, if_neg full]

/-- The ways `bip_buf_force_reserve` can go. -/
theorem forceReserve_cases {bb : BipBuf} (valid : bb.Valid) (size : Nat) (fresh : Memory UInt8)
    (bounded : bb.availableCapacity + size ≤ 2 ^ 31) :
    bb.forceReserve size fresh = ⟨bb, none, 0, none⟩ ∨
    (bb.getReservationSize = 0 ∧ 0 < size ∧
      Exists fun placed : BipBuf × Option BufferCopy =>
        Placed bb placed.1 size ∧
        (forall copy, placed.2 = some copy -> SafeCopy bb.availableCapacity copy) ∧
        bb.forceReserve size fresh =
          ⟨placed.1.openRegion size, some placed.1.aEnd, size, placed.2⟩) := by
  by_cases taken : 0 < bb.getReservationSize ∨ size = 0
  · exact Or.inl (by simp only [forceReserve, if_pos taken])
  · rcases not_or.mp taken with ⟨closed, nonzero⟩
    by_cases full : bb.availableCapacity - bb.getCommittedSize = 0
    · exact Or.inl (by simp only [forceReserve, if_neg taken, if_pos full])
    · refine Or.inr ⟨by omega, by omega, ?_⟩
      by_cases short : bb.availableCapacity - bb.getCommittedSize < size
      · refine ⟨bb.growForSize size fresh, growForSize_placed valid fresh (by omega) bounded,
          fun copy => growForSize_safe valid fresh, ?_⟩
        simp only [forceReserve, if_neg taken, if_neg full, if_pos short]
      · have free : bb.getCommittedSize + size ≤ bb.availableCapacity := by
          have := valid.committedSize_le
          omega
        refine ⟨bb.wrapForSize size, wrapForSize_placed valid free,
          fun copy => wrapForSize_safe valid free, ?_⟩
        simp only [forceReserve, if_neg taken, if_neg full, if_neg short]

theorem reserve_refines {bb : BipBuf} (valid : bb.Valid) :
    bb.reserve.bb.Valid ∧ bb.view.Step .reserve bb.reserve.bb.view := by
  rcases reserve_cases valid with
    ⟨taken, same⟩ | ⟨closed, full, same⟩ | ⟨closed, less, placed, at_size, capacity, _, same⟩
  · rw [same]
    refine ⟨valid, rfl, rfl, fun _ => rfl, fun empty => ?_⟩
    exact absurd ((reserved_eq_nil_iff bb).mp empty) (by omega)
  · rw [same]
    refine ⟨valid, rfl, rfl, fun _ => rfl, fun _ => ?_⟩
    simp only [view, length_reserved, length_committed]
    omega
  · rw [same]
    refine ⟨at_size.openRegion_valid (by omega), capacity, at_size.openRegion_committed,
      fun nonempty => ?_, fun _ => ?_⟩
    · exact absurd ((reserved_eq_nil_iff bb).mpr closed) nonempty
    · simp only [view, length_reserved, length_committed, openRegion_reservationSize]

theorem forceReserve_refines {bb : BipBuf} (valid : bb.Valid) (size : Nat) (fresh : Memory UInt8)
    (bounded : bb.availableCapacity + size ≤ 2 ^ 31) :
    (bb.forceReserve size fresh).bb.Valid ∧
      bb.view.Step (.forceReserve size fresh) (bb.forceReserve size fresh).bb.view := by
  rcases forceReserve_cases valid size fresh bounded with
    same | ⟨closed, positive, placed, at_size, _, same⟩
  · rw [same]
    exact ⟨valid, rfl, Nat.le_refl _, Or.inl rfl⟩
  · rw [same]
    refine ⟨at_size.openRegion_valid positive, at_size.openRegion_committed, at_size.capacity,
      Or.inr ⟨(reserved_eq_nil_iff bb).mpr closed, ?_, ?_⟩⟩
    · simp only [view, length_reserved, openRegion_reservationSize]
    · simp only [view, length_committed]
      exact at_size.fits

theorem writeReserved_refines {bb : BipBuf} (valid : bb.Valid) {offset : Nat} {values : List UInt8}
    (inside : offset + values.length ≤ bb.getReservationSize) :
    (bb.writeReserved offset values).Valid ∧
      bb.view.Step (.write offset values) (bb.writeReserved offset values).view := by
  refine ⟨⟨valid.ordered, valid.inside, valid.fits, valid.region⟩, ?_, ?_⟩
  · simpa only [view, length_reserved] using inside
  · have committed : (bb.writeReserved offset values).committed = bb.committed := by
      rcases valid.region with ⟨first, second⟩ | ⟨starts, _⟩
      · have nothing : values = [] := by
          unfold getReservationSize at inside
          exact List.length_eq_zero_iff.mp (by omega)
        simp only [writeReserved, nothing, Memory.write_nil]
      · refine Memory.read_write_disjoint bb.buffer (Or.inl ?_)
        have := valid.ordered
        change bb.aStart + (bb.aEnd - bb.aStart) ≤ bb.rStart + offset
        omega
    have region : (bb.writeReserved offset values).reserved =
        BoundedFifo.splice bb.reserved offset values :=
      Memory.read_write_inside bb.buffer inside
    simp only [view, committed, region]
    rfl

theorem commit_refines {bb : BipBuf} (valid : bb.Valid) (size : Nat) :
    (bb.commit size).Valid ∧ bb.view.Step (.commit size) (bb.commit size).view := by
  have ordered := valid.ordered
  by_cases taken : 0 < bb.getReservationSize
  · rcases valid.opened taken with ⟨starts, nonempty, room, within⟩
    have clipped : (if size > bb.getReservationSize then bb.getReservationSize else size) =
        min size bb.getReservationSize := by
      split
      · omega
      · omega
    have ends : (bb.commit size).aEnd = bb.rStart + min size bb.getReservationSize := by
      simp only [commit, gt_iff_lt, if_pos taken]
      rw [clipped]
    have begins : (bb.commit size).aStart = bb.aStart := rfl
    have capacity : (bb.commit size).availableCapacity = bb.availableCapacity := rfl
    have least : min size bb.getReservationSize ≤ bb.rEnd - bb.rStart := Nat.min_le_right _ _
    refine ⟨⟨by omega, by omega, by omega, Or.inl ⟨rfl, rfl⟩⟩, ?_⟩
    have appended : (bb.commit size).committed = bb.committed ++ bb.reserved.take size := by
      have length : (bb.commit size).getCommittedSize =
          bb.getCommittedSize + min size bb.getReservationSize := by
        unfold getCommittedSize
        omega
      have reaches : bb.aStart + bb.getCommittedSize = bb.rStart := by
        unfold getCommittedSize
        omega
      unfold committed reserved
      rw [length, Memory.take_read]
      change bb.buffer.read bb.aStart _ = bb.buffer.read bb.aStart _ ++ _
      rw [Memory.read_add, reaches]
    change view _ = _
    simp only [view, appended]
    rfl
  · have closed : bb.getReservationSize = 0 := by omega
    have same : (bb.commit size).aEnd = bb.aEnd := by
      simp only [commit, gt_iff_lt, if_neg taken]
    have nothing : bb.reserved = [] := (reserved_eq_nil_iff bb).mpr closed
    have kept : (bb.commit size).committed = bb.committed := by
      unfold committed getCommittedSize
      rw [same]
      rfl
    refine ⟨⟨same.symm ▸ ordered, same.symm ▸ valid.inside, same.symm ▸ valid.fits,
      Or.inl ⟨rfl, rfl⟩⟩, ?_⟩
    change view _ = _
    simp only [view, kept, nothing, List.take_nil, List.append_nil]
    rfl

theorem decommit_refines {bb : BipBuf} (valid : bb.Valid) (size : Nat) :
    (bb.decommit size).1.Valid ∧ bb.view.Step (.decommit size) (bb.decommit size).1.view := by
  have ordered := valid.ordered
  have bytes : (if size ≥ bb.getCommittedSize then bb.getCommittedSize else size) =
      min size bb.getCommittedSize := by
    split
    · omega
    · omega
  have begins : (bb.decommit size).1.aStart = bb.aStart + min size bb.getCommittedSize := by
    simp only [decommit]
    rw [bytes]
  have same : (bb.decommit size).1.aEnd = bb.aEnd := rfl
  have least : min size bb.getCommittedSize ≤ bb.aEnd - bb.aStart := Nat.min_le_right _ _
  have capacity : (bb.decommit size).1.availableCapacity = bb.availableCapacity := rfl
  have fits := valid.fits
  constructor
  · refine ⟨by omega, valid.inside, by omega, ?_⟩
    rcases valid.region with closed | ⟨starts, nonempty, room, within⟩
    · exact Or.inl closed
    · refine Or.inr ⟨starts, nonempty, room, ?_⟩
      rw [begins, capacity]
      change bb.rEnd ≤ _
      omega
  · have dropped : (bb.decommit size).1.committed = bb.committed.drop size := by
      have length : (bb.decommit size).1.getCommittedSize =
          bb.getCommittedSize - min size bb.getCommittedSize := by
        unfold getCommittedSize at begins ⊢
        omega
      have clipped : bb.committed.drop size = bb.committed.drop (min size bb.getCommittedSize) := by
        by_cases short : size ≤ bb.getCommittedSize
        · rw [Nat.min_eq_left short]
        · rw [Nat.min_eq_right (by omega), ← length_committed, List.drop_length]
          exact List.drop_eq_nil_of_le (by rw [length_committed]; omega)
      rw [clipped]
      unfold committed
      rw [length, Memory.drop_read]
      unfold getContiguousBlock
      rw [begins]
      rfl
    change view _ = _
    simp only [view, dropped]
    rfl

/-- One step of the buffer is one step of the queue it stands for. -/
theorem step_refines {bb next : BipBuf} {op : FifoOp UInt8} (valid : bb.Valid)
    (step : bb.Step op next) : next.Valid ∧ bb.view.Step op next.view := by
  unfold Step at step
  cases op with
  | reserve =>
      cases step
      exact reserve_refines valid
  | forceReserve size fresh =>
      simp only [perform] at step
      split at step
      · rename_i bounded
        cases step
        exact forceReserve_refines valid size fresh bounded
      · cases step
  | write offset values =>
      simp only [perform] at step
      split at step
      · rename_i inside
        cases step
        exact writeReserved_refines valid inside
      · cases step
  | commit size =>
      cases step
      exact commit_refines valid size
  | decommit size =>
      cases step
      exact decommit_refines valid size
  | reset =>
      cases step
      exact ⟨reset_valid bb, rfl⟩

end BipBuf
end NetSystem
