import NetSystem.Base.QueueInterference

namespace NetSystem

universe u

/-!
# The steps of the consumer

A call removes its element when it moves the front, and `peek` reads it when it is known to
be there.  The queue has been empty for a call that finds nothing in the tail block.
-/

theorem QueueConsumer.Owns.modify {α : Type u} {queue : ReaderWriterQueue α} {view : QueueView α}
    {consumer later : QueueConsumer α} (owns : consumer.Owns queue view) {block : Nat}
    (change : QueueBlock α -> QueueBlock α) {changeView : BlockView α -> BlockView α}
    (here : (changeView (view.blocks block)).buffer.taken =
      (changeView (view.blocks block)).buffer.popped + later.taking block)
    (elsewhere : forall other, other ≠ block -> later.taking other = consumer.taking other) :
    later.Owns (queue.modify block change) (view.modify block changeView) where
  taken := by
    intro other within
    by_cases same : other = block
    · rw [same, ReaderWriterQueue.view_modify_blocks_self]
      exact here
    · rw [ReaderWriterQueue.view_modify_blocks_of_ne same, elsewhere other same]
      exact owns.taken other within

namespace ReaderWriterQueue

variable {α : Type u}

/-- What a step of the consumer leads to: there is a view of the queue with what the
consumer knows next, and with what has become of its call. -/
def ConsumerMoves (maxSize : Nat) (queue : ReaderWriterQueue α) (view : QueueView α)
    (status : QueueStatus α) (next : ReaderWriterQueue α) (later : QueueConsumer α) : Prop :=
  Exists fun nextView => Exists fun now =>
    next.Laid nextView ∧ later.Owns next nextView ∧ later.Knows next nextView now ∧
      queue.ConsumerKeeps view next nextView ∧
      queue.content view = later.received ++ next.content nextView ∧
      NotingStatus.Move (queueObject maxSize) (queue.content view) status
        (next.content nextView) now

variable {queue : ReaderWriterQueue α} {view : QueueView α} {maxSize : Nat}
  {status now : QueueStatus α} {consumer later : QueueConsumer α}

theorem received_done {removal : QueueRemoval} (removes : removal ≠ .peek) (result : Option α) :
    (QueueConsumer.done removal result).received = result.toList := by
  cases removal with
  | peek => exact absurd rfl removes
  | tryDequeue => rfl
  | pop => rfl

/-- A step that changes nothing. -/
theorem ConsumerMoves.stay (laid : queue.Laid view) (owns : later.Owns queue view)
    (knows : later.Knows queue view now) (none : later.received = [])
    (move : NotingStatus.Move (queueObject maxSize) (queue.content view) status
      (queue.content view) now) :
    queue.ConsumerMoves maxSize view status queue later :=
  ⟨view, now, laid, owns, knows, .refl .., by rw [none]; rfl, move⟩

theorem ConsumerKeeps.modify {block : Nat} {change : QueueBlock α -> QueueBlock α}
    {changeView : BlockView α -> BlockView α}
    (kept : KeptByConsumer (queue.blocks block) (change (queue.blocks block))
      (view.blocks block) (changeView (view.blocks block)))
    (popped : (changeView (view.blocks block)).buffer.popped = (view.blocks block).buffer.popped) :
    queue.ConsumerKeeps view (queue.modify block change) (view.modify block changeView) where
  blockCount := rfl
  tailBlock := rfl
  largestBlockSize := rfl
  blocks := by
    intro other
    by_cases here : other = block
    · rw [here, modify_blocks_self, view_modify_blocks_self]
      exact kept
    · rw [modify_blocks_of_ne here, view_modify_blocks_of_ne here]
      exact .refl ..
  ring := .inl ⟨rfl, rfl, rfl⟩
  popped := by
    refine .inl ⟨fun other => ?_, content_modify _ _ _ _ fun _ => ?_⟩
    · by_cases here : other = block
      · rw [here, view_modify_blocks_self]
        exact popped
      · rw [view_modify_blocks_of_ne here]
    · rw [CircularView.items, kept.written, kept.pushed, popped]
      rfl

/-- The consumer copies the tail of a block. -/
theorem ConsumerMoves.noteTail (laid : queue.Laid view) (owns : consumer.Owns queue view)
    {block : Nat} (within : block < queue.blockCount)
    (same : forall other, later.taking other = consumer.taking other)
    (knows : later.Knows
      (queue.modify block fun b => { b with localTail := (queue.blocks block).tail })
      (view.modify block fun b => { b with seenTail := b.buffer.pushed }) now)
    (none : later.received = [])
    (move : NotingStatus.Move (queueObject maxSize) (queue.content view) status
      (queue.content view) now) :
    queue.ConsumerMoves maxSize view status
      (queue.modify block fun b => { b with localTail := (queue.blocks block).tail }) later := by
  refine ⟨_, now, laid.modify_quiet (laid.holds block within).noteTail rfl rfl rfl rfl, ?_, knows,
    .modify ⟨rfl, rfl, rfl, rfl, rfl, rfl⟩ rfl, ?_, ?_⟩
  · refine owns.modify _ ?_ fun other _ => same other
    rw [same]
    exact owns.taken block within
  · rw [none, content_modify _ _ _ _ fun _ => rfl]
    rfl
  · rw [content_modify _ _ _ _ fun _ => rfl]
    exact move

/-! ## The front block -/

theorem Laid.front_lt_of_ne (laid : queue.Laid view) {block : Nat}
    (within : block < queue.blockCount)
    (different : (queue.blocks block).front ≠ (queue.blocks block).tail) :
    (view.blocks block).buffer.popped < (view.blocks block).buffer.pushed := by
  have holds := laid.holds block within
  refine Nat.lt_of_le_of_ne holds.popped_le fun same => different ?_
  exact holds.buffer.front_eq_tail_iff.mpr same

theorem consume_called (laid : queue.Laid view) {removal : QueueRemoval}
    (owns : (QueueConsumer.called removal : QueueConsumer α).Owns queue view)
    (knows : (QueueConsumer.called removal : QueueConsumer α).Knows queue view status)
    {next : ReaderWriterQueue α} (step : queue.consume (.called removal) = some (next, later)) :
    queue.ConsumerMoves maxSize view status next later := by
  have holds := laid.holds _ laid.frontBlock_lt
  dsimp only [consume] at step
  split at step
  case isTrue different =>
    cases step
    refine .stay laid ⟨owns.taken⟩ ⟨knows, rfl, .inl ⟨rfl, ?_⟩⟩ rfl (.skip ..)
    refine Nat.lt_of_le_of_ne holds.seenTail_ge fun same => different ?_
    exact holds.front_eq_localTail_iff.mpr same
  case isFalse =>
    cases step
    exact .stay laid ⟨owns.taken⟩ ⟨knows, rfl, rfl⟩ rfl (.skip ..)

theorem Laid.content_eq_nil (laid : queue.Laid view) (others : view.others = [])
    (empty : (queue.blocks queue.frontBlock).front = (queue.blocks queue.frontBlock).tail) :
    queue.content view = [] := by
  have same := (laid.holds _ laid.frontBlock_lt).buffer.front_eq_tail_iff.mp empty
  rw [content, used, others, List.flatMap_singleton]
  exact CircularView.items_eq_nil same

theorem consume_loadTail (laid : queue.Laid view) {removal : QueueRemoval}
    {frontBlock_ blockFront : Nat}
    (owns : (QueueConsumer.loadTail removal frontBlock_ blockFront : QueueConsumer α).Owns
      queue view)
    (knows : (QueueConsumer.loadTail removal frontBlock_ blockFront : QueueConsumer α).Knows
      queue view status)
    {next : ReaderWriterQueue α}
    (step : queue.consume (.loadTail removal frontBlock_ blockFront) = some (next, later)) :
    queue.ConsumerMoves maxSize view status next later := by
  rcases knows with ⟨running, rfl, rfl⟩
  dsimp only [consume] at step
  split at step
  case isTrue different =>
    cases step
    refine .noteTail laid owns laid.frontBlock_lt (fun _ => rfl) ⟨running, ?_, .inl ⟨rfl, ?_⟩⟩
      rfl (.skip ..)
    · rw [modify_blocks_self]
    · rw [view_modify_blocks_self]
      exact laid.front_lt_of_ne laid.frontBlock_lt different
  case isFalse same =>
    cases step
    rcases running with ⟨noted, rfl⟩
    by_cases others : view.others = []
    · -- nothing is in the queue now, whatever becomes of the call
      have nothing := laid.content_eq_nil others (Decidable.not_not.mp same)
      refine .noteTail laid owns laid.frontBlock_lt (fun _ => rfl)
        ⟨rfl, _, rfl, .inl (.inl rfl)⟩ rfl (.note ?_)
      rw [nothing]
      exact .nothing removal
    · exact .noteTail laid owns laid.frontBlock_lt (fun _ => rfl)
        ⟨rfl, noted, rfl, .inr others⟩ rfl (.skip ..)

/-! ## The element -/

/-- The first element of the queue is in the front block, or in the one behind it. -/
theorem head?_content {block : Nat} {element : α}
    (first : (view.blocks block).buffer.items.head? = some element)
    (place : block = queue.frontBlock ∨ QueueConsumer.Leaves queue view block) :
    (queue.content view).head? = some element := by
  rcases place with rfl | ⟨empty, next⟩
  · rw [content, used, List.flatMap_cons, List.head?_append, first]
    rfl
  · rcases List.head?_eq_some_iff.mp next with ⟨rest, others⟩
    rw [content, used, List.flatMap_cons, CircularView.items_eq_nil empty, others,
      List.nil_append, List.flatMap_cons, List.head?_append, first]
    rfl

/-- There is an element where the consumer looks for one. -/
theorem Laid.element (laid : queue.Laid view) {removal : QueueRemoval} {block blockFront : Nat}
    (owns : (QueueConsumer.element removal block blockFront : QueueConsumer α).Owns queue view)
    (knows : (QueueConsumer.element removal block blockFront : QueueConsumer α).Knows
      queue view status) :
    block < queue.blockCount ∧
      (view.blocks block).buffer.popped < (view.blocks block).buffer.pushed ∧
      Exists fun result => (queue.blocks block).data blockFront = some result ∧
        (view.blocks block).buffer.items.head? = some result := by
  rcases knows with ⟨_, rfl, place⟩
  have inside : block < queue.blockCount ∧
      (view.blocks block).buffer.popped < (view.blocks block).buffer.pushed := by
    rcases place with ⟨rfl, more⟩ | ⟨_, leaves⟩
    · exact ⟨laid.frontBlock_lt,
        Nat.lt_of_lt_of_le more (laid.holds _ laid.frontBlock_lt).seenTail_le⟩
    · have other := List.mem_of_head? leaves.2
      exact ⟨laid.others_lt other, laid.waiting block other⟩
  rcases inside with ⟨within, more⟩
  have whole : (view.blocks block).buffer.taken = (view.blocks block).buffer.popped :=
    owns.taken block within
  exact ⟨within, more, (laid.holds block within).buffer.slot_front whole more⟩

theorem consume_element (laid : queue.Laid view) {removal : QueueRemoval}
    {block blockFront : Nat}
    (owns : (QueueConsumer.element removal block blockFront : QueueConsumer α).Owns queue view)
    (knows : (QueueConsumer.element removal block blockFront : QueueConsumer α).Knows
      queue view status)
    {next : ReaderWriterQueue α}
    (step : queue.consume (.element removal block blockFront) = some (next, later)) :
    queue.ConsumerMoves maxSize view status next later := by
  rcases laid.element owns knows with ⟨within, more, result, data, first⟩
  rcases knows with ⟨running, rfl, place⟩
  dsimp only [consume] at step
  rw [data] at step
  dsimp only at step
  split at step
  case isTrue peek =>
    cases step
    rcases running with ⟨noted, rfl⟩
    rw [peek]
    refine .stay laid ⟨owns.taken⟩ (.inl rfl) rfl (.perform (.peek ?_))
    exact head?_content first (place.imp And.left And.right)
  case isFalse removes =>
    cases step
    have front := place.resolve_right fun ⟨peek, _⟩ => removes peek
    rcases front with ⟨rfl, seen⟩
    have whole : (view.blocks queue.frontBlock).buffer.taken =
        (view.blocks queue.frontBlock).buffer.popped :=
      owns.taken _ within
    refine ⟨view.modify queue.frontBlock fun b => { b with buffer := b.buffer.clear }, status,
      laid.modify_quiet ((laid.holds _ within).clear whole more) rfl rfl rfl rfl, ?_, ?_,
      .modify ⟨rfl, rfl, rfl, rfl, rfl, rfl⟩ rfl, ?_, ?_⟩
    · refine owns.modify _ ?_ ?_
      · change _ + 1 = _ + _
        rw [whole, QueueConsumer.taking, if_pos rfl]
        rfl
      · intro other different
        rw [QueueConsumer.taking, if_neg different]
        rfl
    · refine ⟨removes, running, rfl, ?_, ?_, ?_⟩
      · rw [modify_blocks_self]
        rfl
      · rw [view_modify_blocks_self]
        exact seen
      · rw [view_modify_blocks_self, ← first]
        exact (CircularView.head?_items more).symm
    · rw [content_modify _ _ _ _ fun _ => rfl]
      rfl
    · rw [content_modify _ _ _ _ fun _ => rfl]
      exact .skip ..

theorem consume_storeFront (laid : queue.Laid view) {removal : QueueRemoval}
    {block blockFront : Nat} {result : α}
    (owns : (QueueConsumer.storeFront removal block blockFront result).Owns queue view)
    (knows : (QueueConsumer.storeFront removal block blockFront result).Knows
      queue view status)
    {next : ReaderWriterQueue α}
    (step : queue.consume (.storeFront removal block blockFront result) = some (next, later)) :
    queue.ConsumerMoves maxSize view status next later := by
  rcases knows with ⟨removes, ⟨noted, rfl⟩, rfl, rfl, seen, written⟩
  dsimp only [consume] at step
  cases step
  have more := Nat.lt_of_lt_of_le seen (laid.holds _ laid.frontBlock_lt).seenTail_le
  have cleared := owns.taken _ laid.frontBlock_lt
  rw [QueueConsumer.taking, if_pos rfl] at cleared
  have content := laid.content_release
    (fun b => { b with front := b.following b.front })
    ((CircularView.head?_items more).trans written)
  refine ⟨view.modify queue.frontBlock fun b => { b with buffer := b.buffer.release }, _,
    laid.release cleared seen, ?_, .inl rfl, ?_, ?_, ?_⟩
  · refine owns.modify _ cleared ?_
    intro other different
    rw [QueueConsumer.taking, if_neg different]
    rfl
  · refine ⟨rfl, rfl, rfl, ?_, .inl ⟨rfl, rfl, rfl⟩, .inr ⟨?_, result, content⟩⟩
    · intro other
      by_cases here : other = queue.frontBlock
      · rw [here, modify_blocks_self, view_modify_blocks_self]
        exact ⟨rfl, rfl, rfl, rfl, rfl, rfl⟩
      · rw [modify_blocks_of_ne here, view_modify_blocks_of_ne here]
        exact .refl ..
    · intro other
      by_cases here : other = queue.frontBlock
      · rw [here, view_modify_blocks_self, if_pos rfl]
        rfl
      · rw [view_modify_blocks_of_ne here, if_neg here]
        rfl
  · rw [content, received_done removes]
    rfl
  · rw [content]
    exact .perform (.take removes ..)

/-! ## The block behind the front block -/

theorem consume_loadTailBlock (laid : queue.Laid view) {removal : QueueRemoval}
    {frontBlock_ : Nat}
    (owns : (QueueConsumer.loadTailBlock removal frontBlock_ : QueueConsumer α).Owns queue view)
    (knows : (QueueConsumer.loadTailBlock removal frontBlock_ : QueueConsumer α).Knows
      queue view status)
    {next : ReaderWriterQueue α}
    (step : queue.consume (.loadTailBlock removal frontBlock_) = some (next, later)) :
    queue.ConsumerMoves maxSize view status next later := by
  rcases knows with ⟨rfl, noted, rfl, known⟩
  dsimp only [consume] at step
  split at step
  case isTrue different =>
    cases step
    refine .stay laid ⟨owns.taken⟩ ⟨⟨noted, rfl⟩, fun none => different ?_⟩ rfl (.skip ..)
    exact (laid.tailBlock_eq_iff.mpr none).symm
  case isFalse same =>
    cases step
    have none := laid.tailBlock_eq_iff.mp (Decidable.not_not.mp same).symm
    exact .stay laid ⟨owns.taken⟩ (.inr ⟨_, noted, rfl, known.resolve_right fun more => more none⟩)
      (by cases removal <;> rfl) (.skip ..)

theorem consume_reload (laid : queue.Laid view) {removal : QueueRemoval}
    (owns : (QueueConsumer.reload removal : QueueConsumer α).Owns queue view)
    (knows : (QueueConsumer.reload removal : QueueConsumer α).Knows queue view status)
    {next : ReaderWriterQueue α} (step : queue.consume (.reload removal) = some (next, later)) :
    queue.ConsumerMoves maxSize view status next later := by
  rcases knows with ⟨running, more⟩
  dsimp only [consume] at step
  split at step
  case isTrue different =>
    cases step
    refine .noteTail laid owns laid.frontBlock_lt (fun _ => rfl) ⟨running, ?_, .inl ⟨rfl, ?_⟩⟩
      rfl (.skip ..)
    · rw [modify_blocks_self]
    · rw [view_modify_blocks_self]
      exact laid.front_lt_of_ne laid.frontBlock_lt different
  case isFalse same =>
    cases step
    rcases List.exists_cons_of_ne_nil more with ⟨nextBlock, rest, others⟩
    refine .noteTail laid owns laid.frontBlock_lt (fun _ => rfl)
      ⟨running, rfl, nextBlock, ?_, ?_⟩ rfl (.skip ..)
    · change ((view.modify queue.frontBlock _).blocks queue.frontBlock).buffer.popped =
        ((view.modify queue.frontBlock _).blocks queue.frontBlock).buffer.pushed
      rw [view_modify_blocks_self]
      exact (laid.holds _ laid.frontBlock_lt).buffer.front_eq_tail_iff.mp
        (Decidable.not_not.mp same)
    · change view.others.head? = some nextBlock
      rw [others]
      rfl

theorem consume_loadNext (laid : queue.Laid view) {removal : QueueRemoval} {frontBlock_ : Nat}
    (owns : (QueueConsumer.loadNext removal frontBlock_ : QueueConsumer α).Owns queue view)
    (knows : (QueueConsumer.loadNext removal frontBlock_ : QueueConsumer α).Knows
      queue view status)
    {next : ReaderWriterQueue α}
    (step : queue.consume (.loadNext removal frontBlock_) = some (next, later)) :
    queue.ConsumerMoves maxSize view status next later := by
  rcases knows with ⟨running, rfl, nextBlock, leaves⟩
  dsimp only [consume] at step
  cases step
  rw [laid.next_frontBlock leaves.2]
  exact .stay laid ⟨owns.taken⟩ ⟨running, leaves⟩ rfl (.skip ..)

theorem consume_loadNextTail (laid : queue.Laid view) {removal : QueueRemoval} {nextBlock : Nat}
    (owns : (QueueConsumer.loadNextTail removal nextBlock : QueueConsumer α).Owns queue view)
    (knows : (QueueConsumer.loadNextTail removal nextBlock : QueueConsumer α).Knows
      queue view status)
    {next : ReaderWriterQueue α}
    (step : queue.consume (.loadNextTail removal nextBlock) = some (next, later)) :
    queue.ConsumerMoves maxSize view status next later := by
  rcases knows with ⟨running, leaves⟩
  have other := List.mem_of_head? leaves.2
  have apart : queue.frontBlock ≠ nextBlock := by
    intro same
    rw [← same] at other
    exact laid.frontBlock_notMem other
  dsimp only [consume] at step
  split at step
  case isFalse => cases step
  case isTrue =>
    split at step
    case isTrue peek =>
      cases step
      rw [peek] at running
      exact .stay laid ⟨owns.taken⟩ ⟨running, rfl, .inr ⟨rfl, leaves⟩⟩ rfl (.skip ..)
    case isFalse removes =>
      cases step
      refine .noteTail laid owns (laid.others_lt other) (fun _ => rfl)
        ⟨removes, running, ⟨?_, leaves.2⟩, ?_, ?_⟩ rfl (.skip ..)
      · change ((view.modify nextBlock _).blocks queue.frontBlock).buffer.popped =
          ((view.modify nextBlock _).blocks queue.frontBlock).buffer.pushed
        rw [view_modify_blocks_of_ne apart]
        exact leaves.1
      · rw [modify_blocks_self]
      · rw [view_modify_blocks_self]
        exact laid.waiting nextBlock other

theorem consume_storeFrontBlock (laid : queue.Laid view) {removal : QueueRemoval}
    {nextBlock nextBlockFront : Nat}
    (owns : (QueueConsumer.storeFrontBlock removal nextBlock nextBlockFront :
      QueueConsumer α).Owns queue view)
    (knows : (QueueConsumer.storeFrontBlock removal nextBlock nextBlockFront :
      QueueConsumer α).Knows queue view status)
    {next : ReaderWriterQueue α}
    (step : queue.consume (.storeFrontBlock removal nextBlock nextBlockFront) =
      some (next, later)) :
    queue.ConsumerMoves maxSize view status next later := by
  rcases knows with ⟨removes, running, ⟨empty, first⟩, rfl, seen⟩
  dsimp only [consume] at step
  cases step
  rcases List.head?_eq_some_iff.mp first with ⟨rest, others⟩
  have content := content_advance others (view.spare ++ [queue.frontBlock])
    (CircularView.items_eq_nil empty)
  refine ⟨_, status, laid.advance others, ⟨owns.taken⟩, ⟨running, rfl, .inl ⟨rfl, seen⟩⟩,
    ⟨rfl, rfl, rfl, fun _ => .refl .., .inr ⟨others, rfl, empty⟩, .inl ⟨fun _ => rfl, content⟩⟩,
    content.symm, ?_⟩
  rw [content]
  exact .skip ..

/-- A step of the consumer, wherever it is. -/
theorem consume_moves (laid : queue.Laid view) (owns : consumer.Owns queue view)
    (knows : consumer.Knows queue view status) {next : ReaderWriterQueue α}
    (step : queue.consume consumer = some (next, later)) :
    queue.ConsumerMoves maxSize view status next later := by
  cases consumer with
  | idle => cases step
  | called removal => exact consume_called laid owns knows step
  | loadTail removal frontBlock_ blockFront => exact consume_loadTail laid owns knows step
  | element removal block blockFront => exact consume_element laid owns knows step
  | storeFront removal block blockFront result => exact consume_storeFront laid owns knows step
  | loadTailBlock removal frontBlock_ => exact consume_loadTailBlock laid owns knows step
  | reload removal => exact consume_reload laid owns knows step
  | loadNext removal frontBlock_ => exact consume_loadNext laid owns knows step
  | loadNextTail removal nextBlock => exact consume_loadNextTail laid owns knows step
  | storeFrontBlock removal nextBlock nextBlockFront =>
      exact consume_storeFrontBlock laid owns knows step
  | done removal result => cases step

end ReaderWriterQueue
end NetSystem
