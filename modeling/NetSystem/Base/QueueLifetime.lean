import Mathlib.Data.List.Range
import NetSystem.Base.QueueLinearizability
import NetSystem.Foundation.BitSmear

namespace NetSystem

universe u

/-!
# The constructor and the destructor of the lock-free queue
-/

/-- One of the steps of `ceilToPow2`. -/
theorem smearedBy_shift (shift : UInt64) {width x : Nat} {y : UInt64}
    (smeared : SmearedBy width x y.toNat)
    (amount : shift.toNat % 64 = width) :
    SmearedBy (width + width) x (y ||| y >>> shift).toNat := by
  rw [UInt64.toNat_or, UInt64.toNat_shiftRight, amount]
  exact smeared.double

/-- The least power of two that is not below the argument, as long as there is one. -/
theorem ceilToPow2_eq {x : UInt64} (positive : 0 < x.toNat) (small : x.toNat ≤ 2 ^ 63) :
    Exists fun exponent => exponent ≤ 63 ∧ (ceilToPow2 x).toNat = 2 ^ exponent ∧
      x.toNat ≤ 2 ^ exponent ∧ 2 ^ exponent < 2 * x.toNat := by
  have before : (x - 1).toNat = x.toNat - 1 :=
    UInt64.toNat_sub_of_le x 1 (UInt64.le_iff_toNat_le.mpr positive)
  have all := smearedBy_shift 32 (smearedBy_shift 16 (smearedBy_shift 8 (smearedBy_shift 4
    (smearedBy_shift 2 (smearedBy_shift 1 (SmearedBy.one (x - 1).toNat) rfl) rfl) rfl) rfl) rfl) rfl
  by_cases none : (x - 1).toNat = 0
  · have one : x = 1 := UInt64.toNat.inj (by rw [none] at before; change x.toNat = 1; omega)
    rw [one]
    exact ⟨0, Nat.zero_le _, rfl, Nat.le_refl _, by decide⟩
  · have power := all.succ_eq none (x - 1).toNat_lt
    have high : (x - 1).toNat.log2 < 63 := (Nat.log2_lt none).mpr (by omega)
    have most : 2 ^ ((x - 1).toNat.log2 + 1) ≤ 2 ^ 63 := Nat.pow_le_pow_right Nat.two_pos (by omega)
    have sum : (ceilToPow2 x).toNat = 2 ^ ((x - 1).toNat.log2 + 1) % 2 ^ 64 := by
      change (_ + 1 : UInt64).toNat = _
      rw [UInt64.toNat_add, ← power]
      rfl
    refine ⟨(x - 1).toNat.log2 + 1, high, ?_, ?_, ?_⟩
    · rw [sum, Nat.mod_eq_of_lt (Nat.lt_of_le_of_lt most (by decide))]
    · have above : (x - 1).toNat < 2 ^ ((x - 1).toNat.log2 + 1) := Nat.lt_log2_self
      omega
    · have below := Nat.log2_self_le none
      rw [Nat.pow_succ]
      omega

namespace ReaderWriterQueue

variable {α : Type u}

/-! ## The constructor -/

/-- The blocks that the constructor has made: each is linked to the next one, and the last
to the first. -/
theorem initialBlocks_eq (size : Nat) {count block : Nat} (within : block < count) :
    (initialBlocks size count : Nat -> QueueBlock α) block =
      QueueBlock.make size (if block + 1 < count then block + 1 else 0) := by
  induction count with
  | zero => exact absurd within (Nat.not_lt_zero _)
  | succ count inductionHypothesis =>
      rw [initialBlocks]
      by_cases last : block = count
      · rw [last, Function.update_self, if_neg (Nat.lt_irrefl _)]
      · have old : block < count := by omega
        have several : count ≠ 0 := by omega
        rw [Function.update_of_ne last, if_neg several, if_pos (by omega)]
        by_cases previous : block = count - 1
        · rw [← previous, Function.update_self, inductionHypothesis old]
          have next : count = block + 1 := by omega
          rw [next]
          rfl
        · rw [Function.update_of_ne previous, inductionHypothesis old, if_pos (by omega)]

theorem initialBlocks_sizeMask (size : Nat) {count block : Nat} (within : block < count) :
    ((initialBlocks size count : Nat -> QueueBlock α) block).sizeMask = size - 1 := by
  rw [initialBlocks_eq size within]
  rfl

/-- A queue of empty blocks that are linked in the order of their numbers. -/
theorem laid_initialBlocks {size : Nat} (blockSize : IsBlockSize size) {largestBlockSize : Nat}
    (largest : IsBlockSize largestBlockSize) (count : Nat) :
    (⟨initialBlocks size (count + 1), count + 1, 0, 0, largestBlockSize⟩ :
      ReaderWriterQueue α).Laid ⟨fun _ => BlockView.empty, [], List.range' 1 count⟩ where
  holds := by
    intro block within
    dsimp only at within ⊢
    rw [initialBlocks_eq size within]
    exact QueueBlock.make_holds blockSize _
  linked := by
    have all : 0 :: List.range' 1 count = List.range (count + 1) := by
      rw [List.range_eq_range']
      rfl
    change LinkedRing _ (0 :: List.range' 1 count)
    refine ⟨?_, ?_⟩
    · rw [all]
      exact List.nodup_range
    · rw [List.take_succ_cons, List.take_zero, all]
      refine ((List.isChain_range_succ _ count).mpr fun block within => ?_).append
        (List.isChain_singleton 0) ?_
      · dsimp only
        rw [initialBlocks_eq size (by omega), if_pos (by omega)]
        rfl
      · intro last isLast first isFirst
        cases isFirst
        rw [List.range_succ, List.getLast?_concat] at isLast
        cases isLast
        dsimp only
        rw [initialBlocks_eq size (Nat.lt_succ_self _), if_neg (Nat.lt_irrefl _)]
        rfl
  allocated := by
    intro block inside
    rcases List.mem_cons.mp inside with rfl | inside
    · exact Nat.succ_pos _
    · have range := List.mem_range'_1.mp inside
      change block < count + 1
      omega
  tail := rfl
  waiting := fun _ inside => absurd inside (List.not_mem_nil)
  full := fun _ inside => absurd inside (List.not_mem_nil)
  largest := largest

/-- The room in blocks of one size. -/
theorem room_eq_mul {queue : ReaderWriterQueue α} {blocks : List Nat} (sizeMask : Nat)
    (same : forall block, block ∈ blocks -> (queue.blocks block).sizeMask = sizeMask) :
    queue.room blocks = blocks.length * sizeMask := by
  rw [room, List.map_congr_left same, List.map_const', List.sum_replicate_nat]

/-- What the constructor makes: `count + 1` blocks of one size, the greater size being the
one that further blocks start from. -/
def initial (size count largestBlockSize : Nat) : ReaderWriterQueue α :=
  ⟨initialBlocks size (count + 1), count + 1, 0, 0, largestBlockSize⟩

/-- Nothing has passed through, and all blocks but the first one are free. -/
def initialView (count : Nat) : QueueView α :=
  ⟨fun _ => BlockView.empty, [], List.range' 1 count⟩

theorem initial_roomy_single {size maxSize : Nat} (fits : maxSize < size) :
    (initial size 0 size : ReaderWriterQueue α).Roomy maxSize (initialView 0) where
  single := by
    intro _
    rw [initial]
    dsimp only
    rw [initialBlocks_sizeMask _ Nat.zero_lt_one]
    omega
  beside := fun more => absurd more (Nat.not_succ_le_self 1)

theorem initial_roomy {size count maxSize : Nat} (blockSize : IsBlockSize size)
    (positive : 0 < maxSize) (fits : maxSize ≤ count * (size - 1)) :
    (initial size count size : ReaderWriterQueue α).Roomy maxSize (initialView count) where
  single := by
    intro one
    have none : count = 0 := by
      change (List.range' 1 count).length + 1 = 1 at one
      rw [List.length_range'] at one
      omega
    rw [none, Nat.zero_mul] at fits
    omega
  beside := by
    intro _ block inside
    have laid : (initial size count size : ReaderWriterQueue α).Laid (initialView count) :=
      laid_initialBlocks blockSize blockSize count
    rw [room_eq_mul (size - 1), List.length_erase_of_mem inside]
    · change maxSize ≤ ((List.range' 1 count).length + 1 - 1) * (size - 1)
      rw [List.length_range', Nat.add_sub_cancel]
      exact fits
    · intro other member
      exact initialBlocks_sizeMask _ (laid.allocated other (List.mem_of_mem_erase member))

/-- The number of blocks of which one may be missing. -/
theorem initialBlockCount_eq (maxSize : Nat) {maxBlockSize : Nat} (two : 2 ≤ maxBlockSize) :
    Exists fun count =>
      (maxSize + maxBlockSize * 2 - 3) / (maxBlockSize - 1) = count + 1 ∧
        maxSize ≤ count * (maxBlockSize - 1) := by
  have split : maxSize + maxBlockSize * 2 - 3 =
      maxSize + maxBlockSize - 2 + (maxBlockSize - 1) := by omega
  refine ⟨(maxSize + maxBlockSize - 2) / (maxBlockSize - 1), ?_, ?_⟩
  · rw [split, Nat.add_div_right _ (by omega)]
  · have whole := Nat.div_add_mod (maxSize + maxBlockSize - 2) (maxBlockSize - 1)
    have rest := Nat.mod_lt (maxSize + maxBlockSize - 2) (Nat.sub_pos_of_lt two)
    rw [Nat.mul_comm]
    omega

/-- The constructor makes blocks with room for its size. -/
theorem construct_eq {maxBlockSize maxSize : UInt64} (blockSize : IsBlockSize maxBlockSize.toNat)
    (limit : maxBlockSize.toNat ≤ 2 ^ 62) (positive : 0 < maxSize.toNat)
    (small : maxSize.toNat < 2 ^ 63) :
    Exists fun size => Exists fun count =>
      (construct maxBlockSize maxSize : ReaderWriterQueue α) = initial size count size ∧
        IsBlockSize size ∧
        (initial size count size : ReaderWriterQueue α).Roomy maxSize.toNat
          (initialView count) := by
  have two := blockSize.two_le
  have next : (maxSize + 1).toNat = maxSize.toNat + 1 := by
    rw [UInt64.toNat_add]
    exact Nat.mod_eq_of_lt (by change _ + 1 < _; omega)
  rcases ceilToPow2_eq (x := maxSize + 1) (by omega) (by omega) with
    ⟨exponent, high, power, above, _⟩
  rw [next] at above
  have sized : IsBlockSize (2 ^ exponent) := by
    cases exponent with
    | zero => exact absurd above (by omega)
    | succ exponent => exact ⟨exponent, high, rfl⟩
  rw [construct]
  dsimp only
  split
  case isTrue =>
    rcases initialBlockCount_eq maxSize.toNat two with ⟨count, total, fits⟩
    have double : (maxBlockSize * 2).toNat = maxBlockSize.toNat * 2 := by
      rw [UInt64.toNat_mul]
      exact Nat.mod_eq_of_lt (by change _ * 2 < _; omega)
    have sum : (maxSize + maxBlockSize * 2).toNat = maxSize.toNat + maxBlockSize.toNat * 2 := by
      rw [UInt64.toNat_add, double]
      exact Nat.mod_eq_of_lt (by omega)
    have blocks : ((maxSize + maxBlockSize * 2 - 3) / (maxBlockSize - 1)).toNat = count + 1 := by
      rw [← total, UInt64.toNat_div, UInt64.toNat_sub_of_le, UInt64.toNat_sub_of_le, sum]
      · rfl
      · rw [UInt64.le_iff_toNat_le]
        exact Nat.le_of_lt two
      · rw [UInt64.le_iff_toNat_le, sum]
        change 3 ≤ _
        omega
    rw [blocks]
    exact ⟨maxBlockSize.toNat, count, rfl, blockSize, initial_roomy blockSize positive fits⟩
  case isFalse =>
    rw [power]
    exact ⟨2 ^ exponent, 0, rfl, sized, initial_roomy_single above⟩

/-! ## The destructor -/

/-- The inner loop destroys the elements from an index on. -/
theorem destroyElements_eq {block : QueueBlock α} {view : BlockView α} (holds : block.Holds view)
    (whole : view.buffer.taken = view.buffer.popped) {fuel number : Nat}
    (above : view.buffer.popped ≤ number) (within : number ≤ view.buffer.pushed)
    (enough : view.buffer.pushed < number + fuel) :
    destroyElements block fuel (number % block.size) =
      some ((view.buffer.written.take view.buffer.pushed).drop number) := by
  have lap := holds.pushed_lt
  induction fuel generalizing number with
  | zero => exact absurd enough (Nat.not_lt.mpr within)
  | succ fuel inductionHypothesis =>
      rw [destroyElements, holds.buffer.tail_eq]
      by_cases last : number = view.buffer.pushed
      · rw [if_pos (congrArg (· % block.size) last), last, List.drop_eq_nil_of_le]
        exact List.length_take_le ..
      · have less : number < view.buffer.pushed := Nat.lt_of_le_of_ne within last
        have further : number % block.size ≠ view.buffer.pushed % block.size := by
          intro same
          exact last ((mod_eq_mod_iff_of_lap within (by omega)).mp same)
        have inside := Nat.lt_of_lt_of_le less holds.buffer.pushed_le
        rw [if_neg further, holds.buffer.slots number above (by omega), CircularView.slot,
          if_pos (by omega), List.getElem?_eq_getElem inside, Option.bind_some,
          QueueBlock.following_eq holds.blockSize, Nat.mod_add_mod,
          inductionHypothesis (Nat.le_succ_of_le above) less (by omega), Option.map_some]
        have first : (view.buffer.written.take view.buffer.pushed)[number]? =
            some view.buffer.written[number] := by
          rw [List.getElem?_take_of_lt less, List.getElem?_eq_getElem inside]
        rcases List.getElem?_eq_some_iff.mp first with ⟨short, same⟩
        rw [List.drop_eq_getElem_cons short, same]

/-- The loop destroys the elements of the blocks that are left, and frees these blocks. -/
theorem destroyBlocks_eq {queue : ReaderWriterQueue α} {view : QueueView α}
    (laid : queue.Laid view)
    (whole : forall block, block < queue.blockCount ->
      (view.blocks block).buffer.taken = (view.blocks block).buffer.popped)
    {fuel block : Nat} {freed left : List Nat}
    (ring : queue.ring view = freed ++ block :: left) (enough : left.length < fuel) :
    queue.destroyBlocks fuel block freed =
      some ((block :: left).flatMap fun block => (view.blocks block).buffer.items,
        queue.ring view) := by
  induction fuel generalizing block freed left with
  | zero => exact absurd enough (Nat.not_lt_zero _)
  | succ fuel inductionHypothesis =>
      have linked := laid.linked
      have closing : (queue.ring view).take 1 = [queue.frontBlock] := rfl
      rw [ring] at linked closing
      have within : block < queue.blockCount := by
        refine laid.allocated block ?_
        rw [ring]
        exact List.mem_append_right _ (List.mem_cons_self ..)
      have holds := laid.holds block within
      have fresh : block ∉ freed := fun inside =>
        (List.nodup_append.mp linked.nodup).2.2 block inside block (List.mem_cons_self ..) rfl
      have elements := destroyElements_eq holds (whole block within) (Nat.le_refl _)
        holds.popped_le holds.pushed_lt
      have leads := linked.next_eq
      rw [closing] at leads
      rw [destroyBlocks, if_neg fresh, holds.buffer.front_eq]
      change (destroyElements (queue.blocks block) (queue.blocks block).size _).bind _ = _
      rw [elements, Option.bind_some]
      cases left with
      | nil =>
          have link : queue.frontBlock = (queue.blocks block).next := Option.some.inj leads
          rw [if_neg (fun further => further link.symm), ring, List.flatMap_singleton]
          rfl
      | cons next left =>
          have link : next = (queue.blocks block).next := Option.some.inj leads
          have further : (queue.blocks block).next ≠ queue.frontBlock := by
            rw [← link]
            refine linked.ne_first ?_
            rw [← ring]
            rfl
          rw [List.append_cons] at ring
          rw [if_pos further, ← link,
            inductionHypothesis ring (Nat.lt_of_succ_lt_succ enough), Option.map_some,
            List.flatMap_cons (x := block)]
          rfl

end ReaderWriterQueue
end NetSystem
