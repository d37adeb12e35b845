import NetSystem.Base.BipBufRefinement

namespace NetSystem
namespace BipBuf

/-!
# Growing the receive buffer

`bip_buf_force_reserve` should make room whatever the free space is.  It does so unless
the buffer is full, which it refuses, or `next_power_of_two` has no 32-bit result for
the new capacity.  The result is then zero, or what is left of the sum is rounded up, and
in either case the new capacity is too small.
-/

/-! ## Rounding up what does not fit -/

/-- The topmost bits of a word are set. -/
def TopBits (count : Nat) (word : UInt32) : Prop :=
  forall position, 32 ≤ position + count -> position < 32 -> word.toNat.testBit position = true

theorem smear_topBits (shift : UInt32) {word : UInt32} {count : Nat} (small : shift.toNat < 32)
    (same : shift.toNat = count) (top : TopBits count word) :
    TopBits (count + count) (smear shift word) := by
  intro position high below
  rw [smear, UInt32.toNat_or, UInt32.toNat_shiftRight, Nat.testBit_or, Nat.testBit_shiftRight,
    Nat.mod_eq_of_lt small, same, Bool.or_eq_true]
  by_cases already : 32 ≤ position + count
  · exact .inl (top position already below)
  · exact .inr (top (count + position) (by omega) (by omega))

/-- A value above `2 ^ 31` is rounded to zero. -/
theorem nextPowerOfTwo_of_large {value : UInt32} (large : 2 ^ 31 < value.toNat) :
    nextPowerOfTwo value = 0 := by
  have below := value.toNat_lt
  have start : (value - 1).toNat = value.toNat - 1 := by
    rw [UInt32.toNat_sub_of_le]
    · rfl
    · rw [UInt32.le_iff_toNat_le]
      change 1 ≤ value.toNat
      omega
  have first : TopBits 1 (value - 1) := by
    intro position high inside
    have same : position = 31 := by omega
    rw [same, start, Nat.testBit_eq_decide_div_mod_eq, decide_eq_true_eq]
    omega
  have second : TopBits 2 _ := smear_topBits 1 (by decide) rfl first
  have fourth : TopBits 4 _ := smear_topBits 2 (by decide) rfl second
  have eighth : TopBits 8 _ := smear_topBits 4 (by decide) rfl fourth
  have half : TopBits 16 _ := smear_topBits 8 (by decide) rfl eighth
  have all : TopBits 32 _ := smear_topBits 16 (by decide) rfl half
  have ones : smear 16 (smear 8 (smear 4 (smear 2 (smear 1 (value - 1))))) = 0xFFFFFFFF := by
    refine UInt32.toNat.inj (Nat.eq_of_testBit_eq fun position => ?_)
    change _ = (2 ^ 32 - 1).testBit position
    rw [Nat.testBit_two_pow_sub_one]
    rcases Nat.lt_or_ge position 32 with inside | outside
    · rw [all position (by omega) inside, decide_eq_true inside]
    · have power : 2 ^ 32 ≤ 2 ^ position := Nat.pow_le_pow_right (by decide) outside
      rw [decide_eq_false (Nat.not_lt.mpr outside)]
      exact Nat.testBit_lt_two_pow (Nat.lt_of_lt_of_le (UInt32.toNat_lt _) power)
  rw [nextPowerOfTwo, ones]
  rfl

/-- No value is rounded to more than `2 ^ 31`. -/
theorem nextPowerOfTwo_le (value : UInt32) : (nextPowerOfTwo value).toNat ≤ 2 ^ 31 := by
  rcases Nat.lt_or_ge (2 ^ 31) value.toNat with large | small
  · rw [nextPowerOfTwo_of_large large]
    exact Nat.zero_le _
  · by_cases zero : value = 0
    · rw [zero]
      decide
    · have positive : 1 ≤ value.toNat :=
        Nat.one_le_iff_ne_zero.mpr fun same => zero (UInt32.toNat.inj same)
      have start : (value - 1).toNat = value.toNat - 1 := by
        rw [UInt32.toNat_sub_of_le]
        · rfl
        · rw [UInt32.le_iff_toNat_le]
          exact positive
      have first := smear_bounds 1 (value - 1) (by omega)
      have second := smear_bounds 2 _ first.2
      have third := smear_bounds 4 _ second.2
      have fourth := smear_bounds 8 _ third.2
      have fifth := smear_bounds 16 _ fourth.2
      rw [nextPowerOfTwo, UInt32.toNat_add]
      refine Nat.le_trans (Nat.mod_le _ _) ?_
      change _ + 1 ≤ _
      omega

/-! ## What a call should do -/

/-- The call returns a region of the asked size behind the committed bytes, which it keeps,
and the capacity is then large enough for both. -/
structure Grows (bb : BipBuf) (size : Nat) (fresh : Memory UInt8) : Prop where
  pointer : (bb.forceReserve size fresh).pointer = some (bb.forceReserve size fresh).bb.rStart
  region : (bb.forceReserve size fresh).size = size ∧
    (bb.forceReserve size fresh).bb.getReservationSize = size
  inside : (bb.forceReserve size fresh).bb.rEnd ≤
    2 * (bb.forceReserve size fresh).bb.availableCapacity
  kept : (bb.forceReserve size fresh).bb.committed = bb.committed
  capacity : bb.getCommittedSize + size ≤ (bb.forceReserve size fresh).bb.availableCapacity

/-- The buffer is not full, and the free space is enough or the new capacity has a 32-bit
result. -/
def CanGrow (bb : BipBuf) (size : Nat) : Prop :=
  bb.getCommittedSize < bb.availableCapacity ∧
    (size ≤ bb.availableCapacity - bb.getCommittedSize ∨ bb.availableCapacity + size ≤ 2 ^ 31)

instance (bb : BipBuf) (size : Nat) : Decidable (bb.CanGrow size) :=
  inferInstanceAs (Decidable (_ ∧ _))

variable {bb next : BipBuf} {size : Nat} {fresh : Memory UInt8}

theorem Placed.grows {copied : Option BufferCopy} {placed : BipBuf} (at_size : Placed bb placed size)
    (same : bb.forceReserve size fresh =
      ⟨placed.openRegion size, some placed.aEnd, size, copied⟩) : bb.Grows size fresh := by
  constructor
  · rw [same]
    rfl
  · rw [same]
    exact ⟨rfl, openRegion_reservationSize placed size⟩
  · rw [same]
    exact at_size.room
  · rw [same]
    exact at_size.openRegion_committed
  · rw [same]
    exact at_size.fits

/-- A size that needs more than 31 bits is not made room for. -/
theorem growForSize_small (short : bb.availableCapacity - bb.getCommittedSize < size)
    (large : 2 ^ 31 < bb.availableCapacity + size) :
    (bb.growForSize size fresh).1.availableCapacity < bb.getCommittedSize + size := by
  have capacity : (bb.growForSize size fresh).1.availableCapacity =
      (nextPowerOfTwo (UInt32.ofNat (bb.availableCapacity + size))).toNat := by
    unfold growForSize
    dsimp only
    split <;> rfl
  rw [capacity]
  rcases Nat.lt_or_ge (bb.availableCapacity + size) (2 ^ 32) with below | above
  · have value : (UInt32.ofNat (bb.availableCapacity + size)).toNat =
        bb.availableCapacity + size := by
      rw [UInt32.toNat_ofNat']
      exact Nat.mod_eq_of_lt below
    rw [nextPowerOfTwo_of_large (by rw [value]; exact large)]
    change 0 < _
    omega
  · have rounded := nextPowerOfTwo_le (UInt32.ofNat (bb.availableCapacity + size))
    omega

theorem grows_iff (valid : bb.Valid) (closed : bb.getReservationSize = 0) (positive : 0 < size) :
    bb.Grows size fresh ↔ bb.CanGrow size := by
  have small := valid.committedSize_le
  have open_ : ¬ (0 < bb.getReservationSize ∨ size = 0) := by omega
  by_cases full : bb.availableCapacity - bb.getCommittedSize = 0
  · have same : bb.forceReserve size fresh = ⟨bb, none, 0, none⟩ := by
      simp only [forceReserve, if_neg open_, if_pos full]
    constructor
    · intro grows
      have impossible := grows.pointer
      rw [same] at impossible
      cases impossible
    · intro canGrow
      have room := canGrow.1
      omega
  · by_cases short : bb.availableCapacity - bb.getCommittedSize < size
    · have same : bb.forceReserve size fresh = ⟨(bb.growForSize size fresh).1.openRegion size,
          some (bb.growForSize size fresh).1.aEnd, size, (bb.growForSize size fresh).2⟩ := by
        simp only [forceReserve, if_neg open_, if_neg full, if_pos short]
      rcases Nat.lt_or_ge (2 ^ 31) (bb.availableCapacity + size) with large | bounded
      · have tight := @growForSize_small bb size fresh short large
        constructor
        · intro grows
          have capacity := grows.capacity
          rw [same] at capacity
          exact absurd tight (Nat.not_lt.mpr capacity)
        · rintro ⟨_, enough | bounded⟩
          · exact absurd short (Nat.not_lt.mpr enough)
          · exact absurd large (Nat.not_lt.mpr bounded)
      · refine iff_of_true ?_ ⟨by omega, .inr bounded⟩
        exact (growForSize_placed valid fresh positive bounded).grows same
    · have enough : bb.getCommittedSize + size ≤ bb.availableCapacity := by omega
      have same : bb.forceReserve size fresh = ⟨(bb.wrapForSize size).1.openRegion size,
          some (bb.wrapForSize size).1.aEnd, size, (bb.wrapForSize size).2⟩ := by
        simp only [forceReserve, if_neg open_, if_neg full, if_neg short]
      exact iff_of_true ((wrapForSize_placed valid enough).grows same)
        ⟨by omega, .inl (Nat.not_lt.mp short)⟩

/-! ## Reachable buffers -/

/-- One operation.  Growth is refused, or can be made room for; where it cannot, the
region that is returned is not inside the storage. -/
def performGrowing (bb : BipBuf) : FifoOp UInt8 -> Option BipBuf
  | .forceReserve size fresh =>
      if 0 < bb.getReservationSize ∨ size = 0 ∨ bb.isFull ∨ bb.CanGrow size then
        some (bb.forceReserve size fresh).bb
      else none
  | op => bb.perform op

def GrowingStep (bb : BipBuf) (op : FifoOp UInt8) (next : BipBuf) : Prop :=
  bb.performGrowing op = some next

theorem Valid.forceReserve (valid : bb.Valid)
    (allowed : 0 < bb.getReservationSize ∨ size = 0 ∨ bb.isFull = true ∨ bb.CanGrow size) :
    (bb.forceReserve size fresh).bb.Valid := by
  have small := valid.committedSize_le
  by_cases refused : 0 < bb.getReservationSize ∨ size = 0
  · simp only [BipBuf.forceReserve, if_pos refused]
    exact valid
  · by_cases full : bb.availableCapacity - bb.getCommittedSize = 0
    · simp only [BipBuf.forceReserve, if_neg refused, if_pos full]
      exact valid
    · have canGrow : bb.CanGrow size := by
        rcases allowed with taken | zero | isFull | canGrow
        · exact absurd (.inl taken) refused
        · exact absurd (.inr zero) refused
        · rw [isFull_iff] at isFull
          change bb.committed.length = bb.availableCapacity at isFull
          rw [length_committed] at isFull
          omega
        · exact canGrow
      rcases canGrow.2 with enough | bounded
      · have short : ¬ bb.availableCapacity - bb.getCommittedSize < size := Nat.not_lt.mpr enough
        simp only [BipBuf.forceReserve, if_neg refused, if_neg full, if_neg short]
        exact (wrapForSize_placed valid (by omega)).openRegion_valid (by omega)
      · exact (forceReserve_refines valid size fresh bounded).1

theorem Valid.growingStep {op : FifoOp UInt8} (valid : bb.Valid)
    (step : bb.GrowingStep op next) : next.Valid := by
  cases op with
  | forceReserve size fresh =>
      dsimp only [GrowingStep, performGrowing] at step
      split at step
      · rename_i allowed
        cases step
        exact valid.forceReserve allowed
      · cases step
  | reserve => exact (step_refines valid (show bb.Step .reserve next from step)).1
  | write offset values =>
      exact (step_refines valid (show bb.Step (.write offset values) next from step)).1
  | commit size => exact (step_refines valid (show bb.Step (.commit size) next from step)).1
  | decommit size => exact (step_refines valid (show bb.Step (.decommit size) next from step)).1
  | reset => exact (step_refines valid (show bb.Step .reset next from step)).1

/-- In every buffer that can be reached a call makes room if and only if the buffer is not
full and the size can be rounded up. -/
theorem forceReserve_grows_iff {capacity : Nat} {uninitialised : Memory UInt8}
    {ops : List (FifoOp UInt8)} (run : Run GrowingStep (create capacity uninitialised) ops bb)
    (closed : bb.getReservationSize = 0) (positive : 0 < size) (fresh : Memory UInt8) :
    bb.Grows size fresh ↔ bb.CanGrow size := by
  have valid : bb.Valid := run.invariant Valid (fun _ _ _ valid step => valid.growingStep step)
    (create_valid capacity uninitialised)
  exact grows_iff valid closed positive

/-- Five bytes are committed in a buffer of eight, and sixteen more are asked for. -/
theorem forceReserve_grows_iff_sixteen :
    Exists fun bb : BipBuf =>
      Run GrowingStep (create 8 fun _ => 0) [.reserve, .commit 5] bb ∧
      bb.Grows 16 fun _ => 0 := by
  have run : Exists fun bb : BipBuf =>
      Run GrowingStep (create 8 fun _ => 0) [.reserve, .commit 5] bb ∧
      bb.getReservationSize = 0 ∧ bb.CanGrow 16 :=
    ⟨_, .cons rfl (.cons rfl (.nil _)), rfl, by decide⟩
  rcases run with ⟨bb, run, closed, canGrow⟩
  exact ⟨bb, run, (forceReserve_grows_iff run closed (by decide) _).mpr canGrow⟩

/-- A full buffer gets no region.  A buffer with one byte that is asked for `2 ^ 31` more
has no capacity left afterwards. -/
theorem full_buffer_refused :
    (Exists fun bb : BipBuf =>
      Run GrowingStep (create 2 fun _ => 0) [.reserve, .commit 2] bb ∧
      bb.getReservationSize = 0 ∧ (bb.forceReserve 1 fun _ => 0).pointer = none ∧
      ¬ bb.Grows 1 fun _ => 0) ∧
    Exists fun bb : BipBuf =>
      Run GrowingStep (create 8 fun _ => 0) [.reserve, .commit 1] bb ∧
      bb.getReservationSize = 0 ∧
      (bb.forceReserve (2 ^ 31) fun _ => 0).bb.availableCapacity = 0 ∧
      ¬ bb.Grows (2 ^ 31) fun _ => 0 := by
  constructor
  · refine ⟨_, .cons rfl (.cons rfl (.nil _)), rfl, rfl, fun grows => ?_⟩
    have pointer := grows.pointer
    cases pointer
  · refine ⟨_, .cons rfl (.cons rfl (.nil _)), rfl, by decide, fun grows => ?_⟩
    have capacity := grows.capacity
    revert capacity
    decide

end BipBuf
end NetSystem
