import Mathlib.Data.Nat.ModEq
import NetSystem.Base.QueueProducerSteps

namespace NetSystem

universe u

/-!
# Counting the elements

While the producer is in `size_approx` the ring stays as it is, and the consumer only
removes elements.  The count is therefore between the numbers of elements at the end and at
the start of the call, and since they are removed one by one it is one that the queue has
had in between.
-/

/-- The number of elements between two indices, from their places. -/
theorem sizeApprox_difference {sizeMask seen pushed : Nat} (blockSize : IsBlockSize (sizeMask + 1))
    (order : seen ≤ pushed) (lap : pushed < seen + (sizeMask + 1)) :
    (pushed % (sizeMask + 1) + 2 ^ 64 - seen % (sizeMask + 1)) % 2 ^ 64 &&& sizeMask =
      pushed - seen := by
  rcases blockSize with ⟨exponent, small, size⟩
  have mask : sizeMask = 2 ^ (exponent + 1) - 1 := by omega
  have divides : 2 ^ (exponent + 1) ∣ 2 ^ 64 := Nat.pow_dvd_pow 2 (by omega)
  rw [size] at lap ⊢
  rw [mask, Nat.and_two_pow_sub_one_eq_mod, Nat.mod_mod_of_dvd _ divides]
  have inside : seen % 2 ^ (exponent + 1) ≤ 2 ^ 64 :=
    Nat.le_trans (Nat.le_of_lt (Nat.mod_lt _ (Nat.two_pow_pos _)))
      (Nat.le_of_dvd (Nat.two_pow_pos _) divides)
  have same : pushed % 2 ^ (exponent + 1) + 2 ^ 64 - seen % 2 ^ (exponent + 1) ≡
      pushed - seen [MOD 2 ^ (exponent + 1)] := by
    refine Nat.ModEq.add_right_cancel (Nat.mod_modEq seen _) ?_
    rw [Nat.sub_add_cancel (Nat.le_add_left_of_le inside), Nat.sub_add_cancel order]
    rcases divides with ⟨laps, all⟩
    rw [all]
    change (pushed % 2 ^ (exponent + 1) + 2 ^ (exponent + 1) * laps) % 2 ^ (exponent + 1) = _
    rw [Nat.add_mul_mod_self_left, Nat.mod_mod]
  rw [same, Nat.mod_eq_of_lt (by omega)]

namespace ReaderWriterQueue

variable {α : Type u} {queue : ReaderWriterQueue α} {view : QueueView α} {maxSize : Nat}
  {status : QueueStatus α}

/-- The count begins with all blocks left, and with the number of elements noted. -/
theorem Laid.counts_start (laid : queue.Laid view)
    (free : forall block, block ∈ view.spare ->
      (view.blocks block).buffer.popped = (view.blocks block).buffer.pushed)
    (noted : QueueResult α -> Prop) :
    queue.Counts view (.called .sizeApprox fun other =>
        other = .size (queue.content view).length ∨ noted other)
      queue.frontBlock queue.frontBlock 0 fun after => queue.frontBlock :: after := by
  have none : (view.spare.map (waitingIn view)).sum = 0 := by
    refine List.sum_eq_zero_iff_forall_eq_nat.mpr fun waiting inside => ?_
    rcases List.mem_map.mp inside with ⟨block, spare, rfl⟩
    rw [waitingIn, free block spare]
    exact Nat.sub_self _
  have whole : ((queue.frontBlock :: (view.others ++ view.spare)).map (waitingIn view)).sum =
      (queue.content view).length := by
    rw [laid.length_content, used, ← List.cons_append, List.map_append, List.sum_append, none,
      Nat.add_zero]
  refine ⟨_, (queue.content view).length, [], view.others ++ view.spare, rfl, ?_,
    List.Perm.refl _, rfl, laid.linked, ?_, ?_⟩
  · exact fun size least most => .inl (congrArg QueueResult.size (Nat.le_antisymm most least))
  · rw [whole, Nat.zero_add]
  · rw [whole, Nat.zero_add]

theorem Counts.lt (laid : queue.Laid view) {frontBlock_ block count : Nat}
    {rest : List Nat -> List Nat} (counts : queue.Counts view status frontBlock_ block count rest) :
    block < queue.blockCount := by
  rcases counts with ⟨_, _, before, after, _, _, perm, _⟩
  exact laid.allocated block
    (perm.subset (List.mem_append_right _ (List.mem_cons_self ..)))

/-- The elements of a block are counted. -/
theorem Counts.block {frontBlock_ block count : Nat}
    (counts : queue.Counts view status frontBlock_ block count fun after => block :: after) :
    queue.Counts view status frontBlock_ block (count + waitingIn view block)
      fun after => after := by
  rcases counts with ⟨noted, limit, before, after, same, known, perm, first, linked, least, most⟩
  rw [List.map_cons, List.sum_cons, ← Nat.add_assoc] at least most
  exact ⟨noted, limit, before, after, same, known, perm, first, linked, least, most⟩

/-- The count goes on with the next block, or ends with a number that has been noted. -/
theorem Counts.next {frontBlock_ block count : Nat}
    (counts : queue.Counts view status frontBlock_ block count fun after => after) :
    ((queue.blocks block).next ≠ frontBlock_ ->
        queue.Counts view status frontBlock_ (queue.blocks block).next count
          fun after => (queue.blocks block).next :: after) ∧
      ((queue.blocks block).next = frontBlock_ -> Answered (.size count) status) := by
  rcases counts with ⟨noted, limit, before, after, same, known, perm, first, linked, least, most⟩
  have leads := linked.next_eq
  have closing : (before ++ block :: after).take 1 = [frontBlock_] := by
    rcases List.head?_eq_some_iff.mp first with ⟨rest, split⟩
    rw [split]
    rfl
  rw [closing] at leads
  cases after with
  | nil =>
      have link : frontBlock_ = (queue.blocks block).next := Option.some.inj leads
      refine ⟨fun further => absurd link.symm further, fun _ => .inr ⟨_, noted, same, ?_⟩⟩
      exact known count least most
  | cons next after =>
      have link : next = (queue.blocks block).next := Option.some.inj leads
      rw [← link]
      refine ⟨fun _ => ?_, fun back => ?_⟩
      · rw [List.append_cons] at perm first linked
        exact ⟨noted, limit, before ++ [block], after, same, known, perm, first, linked, least, most⟩
      · exact absurd back (linked.ne_first first)

theorem sizeApprox_moves (laid : queue.Laid view) {size later : SizeApprox}
    (free : forall block, block ∈ view.spare ->
      (view.blocks block).buffer.popped = (view.blocks block).buffer.pushed)
    (knows : size.Knows queue view status) (step : queue.sizeApprox size = some later) :
    Exists fun now => later.Knows queue view now ∧
      NotingStatus.Move (queueObject maxSize) (queue.content view) status
        (queue.content view) now := by
  cases size with
  | called =>
      cases step
      rcases knows with ⟨noted, rfl⟩
      exact ⟨_, laid.counts_start free noted, .note (.sizeApprox _)⟩
  | loadFront frontBlock_ block result =>
      cases step
      have holds := laid.holds block (knows.lt laid)
      exact ⟨status, ⟨(view.blocks block).buffer.popped, holds.buffer.front_eq, Nat.le_refl _,
        holds.pushed_lt, knows.block⟩, .skip ..⟩
  | loadTail frontBlock_ block blockFront result =>
      cases step
      rcases knows with ⟨seen, rfl, order, lap, counts⟩
      have holds := laid.holds block (counts.lt laid)
      refine ⟨status, ?_, .skip ..⟩
      rw [holds.buffer.tail_eq, QueueBlock.size, sizeApprox_difference holds.blockSize
        (Nat.le_trans order holds.popped_le) lap]
      exact counts
  | loadNext frontBlock_ block result =>
      dsimp only [sizeApprox] at step
      split at step
      case isTrue further =>
        cases step
        exact ⟨status, knows.next.1 further, .skip ..⟩
      case isFalse back =>
        cases step
        exact ⟨status, knows.next.2 (Decidable.not_not.mp back), .skip ..⟩
  | done result => cases step

/-- A step of the producer, wherever it is. -/
theorem produce_moves (laid : queue.Laid view) (roomy : queue.Roomy maxSize view)
    {maxBlockSize : Nat} (blockSize : IsBlockSize maxBlockSize) {producer later : QueueProducer α}
    (owns : producer.Owns queue view) (knows : producer.Knows maxSize queue view status)
    {next : ReaderWriterQueue α}
    (step : queue.produce maxBlockSize producer = some (next, later)) :
    queue.ProducerMoves maxSize view status next later := by
  cases producer with
  | idle => cases step
  | called element mode => exact produce_called laid roomy owns knows step
  | loadFront element mode tailBlock_ blockTail nextBlockTail =>
      exact produce_loadFront laid roomy owns knows step
  | construct element block blockTail nextBlockTail publish =>
      exact produce_construct laid roomy owns knows step
  | storeTail element block nextBlockTail publish =>
      exact produce_storeTail laid roomy owns knows step
  | loadFrontBlock element mode tailBlock_ =>
      exact produce_loadFrontBlock laid roomy owns knows step
  | loadNextFront element tailBlockNext => exact produce_loadNextFront laid roomy owns knows step
  | makeBlock element memory tailBlock_ =>
      exact produce_makeBlock laid roomy blockSize owns knows step
  | storeNext element tailBlock_ newBlock => exact produce_storeNext laid roomy owns knows step
  | storeTailBlock element block => exact produce_storeTailBlock laid roomy owns knows step
  | done element success => cases step
  | counting size =>
      rcases Option.map_eq_some_iff.mp step with ⟨after, counted, same⟩
      cases same
      have free : forall block, block ∈ view.spare ->
          (view.blocks block).buffer.popped = (view.blocks block).buffer.pushed :=
        fun block spare => owns.spare block spare nofun
      rcases sizeApprox_moves laid free knows counted with ⟨now, later, move⟩
      exact .stay laid roomy ⟨owns.written, owns.spare, owns.linked⟩ later rfl move

end ReaderWriterQueue
end NetSystem
