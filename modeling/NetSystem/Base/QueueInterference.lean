import NetSystem.Base.QueueKnowledge

namespace NetSystem

universe u

/-!
# What the threads of the lock-free queue leave to each other

Each thread writes what belongs to it.  What the other one knows stays true then: the
producer finds no less room and the consumer no fewer elements than before.
-/

/-- What the consumer leaves of a block. -/
structure KeptByConsumer {α : Type u} (block next : QueueBlock α) (view nextView : BlockView α) :
    Prop where
  link : next.next = block.next
  tail : next.tail = block.tail
  sizeMask : next.sizeMask = block.sizeMask
  written : nextView.buffer.written = view.buffer.written
  pushed : nextView.buffer.pushed = view.buffer.pushed
  seenFront : nextView.seenFront = view.seenFront

/-- What the producer leaves of a block. -/
structure KeptByProducer {α : Type u} (block next : QueueBlock α) (view nextView : BlockView α) :
    Prop where
  front : next.front = block.front
  sizeMask : next.sizeMask = block.sizeMask
  written : view.buffer.written <+: nextView.buffer.written
  pushed : view.buffer.pushed ≤ nextView.buffer.pushed
  taken : nextView.buffer.taken = view.buffer.taken
  popped : nextView.buffer.popped = view.buffer.popped
  seenTail : nextView.seenTail = view.seenTail

theorem KeptByConsumer.refl {α : Type u} (block : QueueBlock α) (view : BlockView α) :
    KeptByConsumer block block view view :=
  ⟨rfl, rfl, rfl, rfl, rfl, rfl⟩

theorem KeptByProducer.refl {α : Type u} (block : QueueBlock α) (view : BlockView α) :
    KeptByProducer block block view view :=
  ⟨rfl, rfl, List.prefix_rfl, Nat.le_refl _, rfl, rfl, rfl⟩

/-- One block of several has one element less. -/
theorem sum_map_succ {blocks : List Nat} (nodup : blocks.Nodup) {before after : Nat -> Nat}
    {front : Nat} (others : forall block, block ≠ front -> before block = after block)
    (once : before front = after front + 1) :
    (blocks.map after).sum ≤ (blocks.map before).sum ∧
      (blocks.map before).sum ≤ (blocks.map after).sum + 1 := by
  induction blocks with
  | nil => exact ⟨Nat.le_refl 0, Nat.zero_le 1⟩
  | cons block blocks inductionHypothesis =>
      rw [List.nodup_cons] at nodup
      rw [List.map_cons, List.map_cons, List.sum_cons, List.sum_cons]
      by_cases here : block = front
      · have same : blocks.map before = blocks.map after := by
          refine List.map_congr_left fun other inside => others other fun again => ?_
          rw [again, ← here] at inside
          exact nodup.1 inside
        rw [same, here, once]
        omega
      · rcases inductionHypothesis nodup.2 with ⟨no_more, one⟩
        rw [others block here]
        omega

namespace ReaderWriterQueue

variable {α : Type u}

/-- The consumer moves on to the block behind the front block, which it has emptied. -/
def MovesOn (queue : ReaderWriterQueue α) (view : QueueView α) (next : ReaderWriterQueue α)
    (nextView : QueueView α) : Prop :=
  view.others = next.frontBlock :: nextView.others ∧
    nextView.spare = view.spare ++ [queue.frontBlock] ∧
    (nextView.blocks queue.frontBlock).buffer.popped =
      (view.blocks queue.frontBlock).buffer.pushed

/-- What the consumer leaves of the queue.  It may remove the first element, from the front
block. -/
structure ConsumerKeeps (queue : ReaderWriterQueue α) (view : QueueView α)
    (next : ReaderWriterQueue α) (nextView : QueueView α) : Prop where
  blockCount : next.blockCount = queue.blockCount
  tailBlock : next.tailBlock = queue.tailBlock
  largestBlockSize : next.largestBlockSize = queue.largestBlockSize
  blocks : forall block, KeptByConsumer (queue.blocks block) (next.blocks block)
    (view.blocks block) (nextView.blocks block)
  ring : next.frontBlock = queue.frontBlock ∧ nextView.others = view.others ∧
      nextView.spare = view.spare ∨ queue.MovesOn view next nextView
  popped : (forall block,
      (nextView.blocks block).buffer.popped = (view.blocks block).buffer.popped) ∧
        next.content nextView = queue.content view ∨
    (forall block, (nextView.blocks block).buffer.popped = (view.blocks block).buffer.popped +
      if block = queue.frontBlock then 1 else 0) ∧
        Exists fun element => queue.content view = element :: next.content nextView

/-- What the producer leaves of the queue.  It may fill the front block only while that is
the tail block, and it links blocks in behind the tail block. -/
structure ProducerKeeps (queue : ReaderWriterQueue α) (view : QueueView α)
    (next : ReaderWriterQueue α) (nextView : QueueView α) : Prop where
  blockCount : queue.blockCount ≤ next.blockCount
  frontBlock : next.frontBlock = queue.frontBlock
  blocks : forall block, block < queue.blockCount -> KeptByProducer (queue.blocks block)
    (next.blocks block) (view.blocks block) (nextView.blocks block)
  fresh : forall block, queue.blockCount ≤ block -> block < next.blockCount ->
    (nextView.blocks block).buffer.taken = (nextView.blocks block).buffer.popped
  others : view.others <+: nextView.others
  front : view.others ≠ [] -> (nextView.blocks queue.frontBlock).buffer.pushed =
    (view.blocks queue.frontBlock).buffer.pushed

namespace ConsumerKeeps

variable {queue next : ReaderWriterQueue α} {view nextView : QueueView α}

theorem refl (queue : ReaderWriterQueue α) (view : QueueView α) :
    queue.ConsumerKeeps view queue view :=
  ⟨rfl, rfl, rfl, fun _ => .refl .., .inl ⟨rfl, rfl, rfl⟩, .inl ⟨fun _ => rfl, rfl⟩⟩

theorem size (keeps : queue.ConsumerKeeps view next nextView) (block : Nat) :
    (next.blocks block).size = (queue.blocks block).size := by
  rw [QueueBlock.size, (keeps.blocks block).sizeMask]
  rfl

theorem following (keeps : queue.ConsumerKeeps view next nextView) (block index : Nat) :
    (next.blocks block).following index = (queue.blocks block).following index := by
  rw [QueueBlock.following, (keeps.blocks block).sizeMask]
  rfl

theorem ring_perm (keeps : queue.ConsumerKeeps view next nextView) :
    (next.ring nextView).Perm (queue.ring view) := by
  rcases keeps.ring with ⟨front, others, spare⟩ | ⟨others, spare, _⟩
  · rw [ReaderWriterQueue.ring, used, front, others, spare]
    exact List.Perm.refl _
  · rw [ReaderWriterQueue.ring, ReaderWriterQueue.ring, used, used, others, spare,
      ← List.append_assoc]
    exact List.perm_append_singleton ..

theorem popped_of_ne (keeps : queue.ConsumerKeeps view next nextView) {block : Nat}
    (different : block ≠ queue.frontBlock) :
    (nextView.blocks block).buffer.popped = (view.blocks block).buffer.popped := by
  rcases keeps.popped with ⟨same, _⟩ | ⟨same, _⟩
  · exact same block
  · rw [same, if_neg different, Nat.add_zero]

theorem items_of_ne (keeps : queue.ConsumerKeeps view next nextView) {block : Nat}
    (different : block ≠ queue.frontBlock) :
    (nextView.blocks block).buffer.items = (view.blocks block).buffer.items := by
  rw [CircularView.items, (keeps.blocks block).written, (keeps.blocks block).pushed,
    keeps.popped_of_ne different]
  rfl

theorem popped_le (keeps : queue.ConsumerKeeps view next nextView) (block : Nat) :
    (view.blocks block).buffer.popped ≤ (nextView.blocks block).buffer.popped := by
  rcases keeps.popped with ⟨same, _⟩ | ⟨same, _⟩
  · exact Nat.le_of_eq (same block).symm
  · rw [same]
    exact Nat.le_add_right ..

theorem roomy (keeps : queue.ConsumerKeeps view next nextView) {maxSize : Nat}
    (roomy : queue.Roomy maxSize view) : next.Roomy maxSize nextView :=
  roomy.congr keeps.ring_perm (fun block _ => (keeps.blocks block).sizeMask)
    (Nat.le_of_eq keeps.largestBlockSize.symm)

/-- The first free block stays the first one. -/
theorem head_spare (keeps : queue.ConsumerKeeps view next nextView) {block : Nat}
    (first : view.spare.head? = some block) : nextView.spare.head? = some block := by
  rcases keeps.ring with ⟨_, _, spare⟩ | ⟨_, spare, _⟩
  · rw [spare]
    exact first
  · rw [spare, List.head?_append, first]
    rfl

theorem fullTail (keeps : queue.ConsumerKeeps view next nextView) (laid : queue.Laid view)
    (full : queue.FullTail view) : next.FullTail nextView := by
  rw [FullTail, keeps.tailBlock]
  by_cases same : queue.tailBlock = queue.frontBlock
  · left
    rcases keeps.ring with ⟨front, _⟩ | ⟨others, _⟩
    · rw [front]
      exact same
    · rw [laid.tailBlock_eq_iff.mp same] at others
      cases others
  · right
    rw [(keeps.blocks _).pushed, keeps.popped_of_ne same, keeps.size]
    exact full.resolve_left same

theorem place (keeps : queue.ConsumerKeeps view next nextView) (laid : queue.Laid view)
    {block : Nat} {publish : Bool} (place : queue.Place view block publish) :
    next.Place nextView block publish := by
  cases publish with
  | false => exact Eq.trans place keeps.tailBlock.symm
  | true => exact ⟨keeps.head_spare place.1, keeps.fullTail laid place.2⟩

/-- What waits in some blocks becomes no more, and less by no more than what the queue
contains does. -/
theorem waitingIn_sum (keeps : queue.ConsumerKeeps view next nextView)
    (nextLaid : next.Laid nextView) (within : queue.frontBlock < queue.blockCount)
    {blocks : List Nat} (nodup : blocks.Nodup) :
    (blocks.map (waitingIn nextView)).sum ≤ (blocks.map (waitingIn view)).sum ∧
      (next.content nextView).length + (blocks.map (waitingIn view)).sum ≤
        (queue.content view).length + (blocks.map (waitingIn nextView)).sum := by
  rcases keeps.popped with ⟨same, content⟩ | ⟨released, element, content⟩
  · have waiting : waitingIn nextView = waitingIn view := by
      funext block
      rw [waitingIn, waitingIn, same, (keeps.blocks block).pushed]
    rw [waiting, content]
    exact ⟨Nat.le_refl _, Nat.le_refl _⟩
  · rw [← keeps.blockCount] at within
    have order := (nextLaid.holds _ within).popped_le
    rw [released, if_pos rfl, (keeps.blocks _).pushed] at order
    have front : waitingIn view queue.frontBlock = waitingIn nextView queue.frontBlock + 1 := by
      rw [waitingIn, waitingIn, released, if_pos rfl, (keeps.blocks _).pushed]
      omega
    have others : forall block, block ≠ queue.frontBlock ->
        waitingIn view block = waitingIn nextView block := by
      intro block different
      rw [waitingIn, waitingIn, released, if_neg different, (keeps.blocks block).pushed]
      rfl
    have sums := sum_map_succ nodup others front
    rw [content, List.length_cons]
    omega

/-- The part of the producer stays as it is. -/
theorem owns (keeps : queue.ConsumerKeeps view next nextView) (laid : queue.Laid view)
    {producer : QueueProducer α} (owns : producer.Owns queue view) :
    producer.Owns next nextView where
  written := by
    intro block within
    rw [keeps.blockCount] at within
    rw [(keeps.blocks block).written, (keeps.blocks block).pushed]
    exact owns.written block within
  spare := by
    intro block spare unstarted
    rw [(keeps.blocks block).pushed]
    have free : block ∈ view.spare -> (nextView.blocks block).buffer.popped =
        (view.blocks block).buffer.pushed := by
      intro old
      have apart : block ≠ queue.frontBlock := by
        intro same
        refine laid.notMem_used_of_spare old ?_
        rw [same]
        exact List.mem_cons_self ..
      rw [keeps.popped_of_ne apart]
      exact owns.spare block old unstarted
    rcases keeps.ring with ⟨_, _, same⟩ | ⟨_, more, emptied⟩
    · rw [same] at spare
      exact free spare
    · rw [more] at spare
      rcases List.mem_append.mp spare with old | front
      · exact free old
      · rw [List.mem_singleton.mp front]
        exact emptied
  linked := by
    intro block within
    rw [keeps.blockCount] at within
    rw [keeps.ring_perm.mem_iff]
    exact owns.linked block within

theorem length_content_le (keeps : queue.ConsumerKeeps view next nextView) :
    (next.content nextView).length ≤ (queue.content view).length ∧
      (queue.content view).length ≤ (next.content nextView).length + 1 := by
  rcases keeps.popped with ⟨_, content⟩ | ⟨_, element, content⟩
  · rw [content]
    exact ⟨Nat.le_refl _, Nat.le_succ _⟩
  · rw [content, List.length_cons]
    exact ⟨Nat.le_succ _, Nat.le_refl _⟩

/-- A count notes how many elements there are now. -/
theorem counts (keeps : queue.ConsumerKeeps view next nextView) (laid : queue.Laid view)
    (nextLaid : next.Laid nextView) (maxSize : Nat) {status : QueueStatus α}
    {frontBlock_ block count : Nat} {rest : List Nat -> List Nat}
    (left : forall after, (rest after).Sublist (block :: after))
    (counts : queue.Counts view status frontBlock_ block count rest) :
    Exists fun now =>
      NotingStatus.Move (queueObject maxSize) (next.content nextView) status
          (next.content nextView) now ∧
        next.Counts nextView now frontBlock_ block count rest := by
  rcases counts with ⟨noted, limit, before, after, rfl, known, perm, first, linked, least, most⟩
  have nodup : (rest after).Nodup := (left after).nodup (List.nodup_append.mp linked.nodup).2.1
  rcases keeps.waitingIn_sum nextLaid laid.frontBlock_lt nodup with ⟨fewer, slower⟩
  refine ⟨_, .note (.sizeApprox _), _, limit, before, after, rfl, ?_, ?_, first, ?_, ?_, ?_⟩
  · intro size least within
    by_cases old : (queue.content view).length ≤ size
    · exact .inr (known size old within)
    · left
      have order := keeps.length_content_le
      exact congrArg QueueResult.size (by omega)
  · exact perm.trans keeps.ring_perm.symm
  · exact linked.congr fun other _ => (keeps.blocks other).link
  · omega
  · omega

/-- What a count knows stays true, with more noted. -/
theorem knows_sizeApprox (keeps : queue.ConsumerKeeps view next nextView)
    (laid : queue.Laid view) (nextLaid : next.Laid nextView) (maxSize : Nat)
    {status : QueueStatus α} {size : SizeApprox} (knows : size.Knows queue view status) :
    Exists fun now =>
      NotingStatus.Move (queueObject maxSize) (next.content nextView) status
          (next.content nextView) now ∧ size.Knows next nextView now := by
  cases size with
  | called => exact ⟨status, .skip .., knows⟩
  | loadFront frontBlock_ block result =>
      exact keeps.counts laid nextLaid maxSize (fun _ => List.Sublist.refl _) knows
  | loadTail frontBlock_ block blockFront result =>
      rcases knows with ⟨seen, same, order, lap, counts⟩
      rcases keeps.counts laid nextLaid maxSize (fun _ => List.sublist_cons_self ..) counts with
        ⟨now, move, counts⟩
      refine ⟨now, move, seen, ?_, Nat.le_trans order (keeps.popped_le block), ?_, ?_⟩
      · rw [keeps.size]
        exact same
      · rw [(keeps.blocks block).pushed, keeps.size]
        exact lap
      · rw [(keeps.blocks block).pushed]
        exact counts
  | loadNext frontBlock_ block result =>
      exact keeps.counts laid nextLaid maxSize (fun _ => List.sublist_cons_self ..) knows
  | done result => exact ⟨status, .skip .., knows⟩

/-- What the producer knows stays true. -/
theorem knows (keeps : queue.ConsumerKeeps view next nextView) (laid : queue.Laid view)
    (nextLaid : next.Laid nextView) {maxSize : Nat} {status : QueueStatus α}
    {producer : QueueProducer α} (knows : producer.Knows maxSize queue view status) :
    Exists fun now =>
      NotingStatus.Move (queueObject maxSize) (next.content nextView) status
          (next.content nextView) now ∧ producer.Knows maxSize next nextView now := by
  cases producer with
  | counting size => exact keeps.knows_sizeApprox laid nextLaid maxSize knows
  | idle => exact ⟨status, .skip .., knows⟩
  | called element mode => exact ⟨status, .skip .., knows⟩
  | loadFront element mode tailBlock_ blockTail nextBlockTail =>
      rcases knows with ⟨running, tailBlock, tail, following⟩
      refine ⟨status, .skip .., running, ?_, ?_, ?_⟩
      · rw [keeps.tailBlock]
        exact tailBlock
      · rw [(keeps.blocks _).tail]
        exact tail
      · rw [keeps.following]
        exact following
  | construct element block blockTail nextBlockTail publish =>
      rcases knows with ⟨running, place, tail, following, room⟩
      refine ⟨status, .skip .., running, keeps.place laid place, ?_, ?_, ?_⟩
      · rw [(keeps.blocks _).tail]
        exact tail
      · rw [keeps.following]
        exact following
      · rw [(keeps.blocks _).pushed, (keeps.blocks _).seenFront, keeps.size]
        exact room
  | storeTail element block nextBlockTail publish =>
      rcases knows with ⟨running, place, following, room, filled⟩
      refine ⟨status, .skip .., running, keeps.place laid place, ?_, ?_, ?_⟩
      · rw [keeps.following, (keeps.blocks _).tail]
        exact following
      · rw [(keeps.blocks _).pushed, (keeps.blocks _).seenFront, keeps.size]
        exact room
      · rw [(keeps.blocks _).pushed, (keeps.blocks _).written]
        exact filled
  | loadFrontBlock element mode tailBlock_ =>
      rcases knows with ⟨tailBlock, full, noted, running, known⟩
      refine ⟨status, .skip .., ?_, keeps.fullTail laid full, noted, running, ?_⟩
      · rw [keeps.tailBlock]
        exact tailBlock
      · rw [keeps.ring_perm.length_eq]
        exact known
  | loadNextFront element tailBlockNext =>
      rcases knows with ⟨running, full, spare⟩
      exact ⟨status, .skip .., running, keeps.fullTail laid full, keeps.head_spare spare⟩
  | makeBlock element memory tailBlock_ =>
      rcases knows with ⟨tailBlock, full, noted⟩
      refine ⟨status, .skip .., ?_, keeps.fullTail laid full, noted⟩
      rw [keeps.tailBlock]
      exact tailBlock
  | storeNext element tailBlock_ newBlock =>
      rcases knows with ⟨running, tailBlock, full, within, fresh, onward, items, large⟩
      refine ⟨status, .skip .., running, ?_, keeps.fullTail laid full, ?_, ?_, ?_, ?_, ?_⟩
      · rw [keeps.tailBlock]
        exact tailBlock
      · rw [keeps.blockCount]
        exact within
      · rw [keeps.ring_perm.mem_iff]
        exact fresh
      · rw [keeps.tailBlock, (keeps.blocks _).link, (keeps.blocks _).link]
        exact onward
      · rw [keeps.items_of_ne]
        · exact items
        · intro same
          rw [same] at fresh
          exact fresh (List.mem_append_left _ (List.mem_cons_self ..))
      · rw [keeps.ring_perm.length_eq, (keeps.blocks _).sizeMask]
        exact large
  | storeTailBlock element block =>
      rcases knows with ⟨running, full, spare, items⟩
      refine ⟨status, .skip .., running, keeps.fullTail laid full, keeps.head_spare spare, ?_⟩
      rw [keeps.items_of_ne]
      · exact items
      · intro same
        rw [same] at spare
        exact laid.notMem_used_of_spare (List.mem_of_head? spare) (List.mem_cons_self ..)
  | done element success => exact ⟨status, .skip .., knows⟩

end ConsumerKeeps

namespace ProducerKeeps

variable {queue next : ReaderWriterQueue α} {view nextView : QueueView α}

theorem refl (queue : ReaderWriterQueue α) (view : QueueView α) :
    queue.ProducerKeeps view queue view where
  blockCount := Nat.le_refl _
  frontBlock := rfl
  blocks := fun _ _ => .refl ..
  fresh := fun _ above below => absurd below (Nat.not_lt.mpr above)
  others := List.prefix_rfl
  front := fun _ => rfl

/-- The part of the consumer stays as it is. -/
theorem owns (keeps : queue.ProducerKeeps view next nextView) (laid : queue.Laid view)
    {status : QueueStatus α} {consumer : QueueConsumer α} (owns : consumer.Owns queue view)
    (knows : consumer.Knows queue view status) : consumer.Owns next nextView where
  taken := by
    intro block within
    by_cases old : block < queue.blockCount
    · rw [(keeps.blocks block old).taken, (keeps.blocks block old).popped]
      exact owns.taken block old
    · rw [keeps.fresh block (Nat.le_of_not_lt old) within]
      cases consumer with
      | storeFront removal other blockFront result =>
          have apart : block ≠ other := by
            intro same
            rw [same, knows.2.2.1] at old
            exact old laid.frontBlock_lt
          rw [QueueConsumer.taking, if_neg apart]
          rfl
      | _ => rfl

theorem leaves (keeps : queue.ProducerKeeps view next nextView) (laid : queue.Laid view)
    {nextBlock : Nat} (leaves : QueueConsumer.Leaves queue view nextBlock) :
    QueueConsumer.Leaves next nextView nextBlock := by
  rcases leaves with ⟨empty, first⟩
  have more : view.others ≠ [] := by
    intro none
    rw [none] at first
    cases first
  constructor
  · rw [keeps.frontBlock, (keeps.blocks _ laid.frontBlock_lt).popped, keeps.front more]
    exact empty
  · rcases keeps.others with ⟨later, same⟩
    rw [← same, List.head?_append, first]
    rfl

theorem others_ne_nil (keeps : queue.ProducerKeeps view next nextView)
    (more : view.others ≠ []) : nextView.others ≠ [] := by
  intro none
  have shorter := keeps.others
  rw [none] at shorter
  exact more (List.prefix_nil.mp shorter)

/-- What the consumer knows stays true. -/
theorem knows (keeps : queue.ProducerKeeps view next nextView) (laid : queue.Laid view)
    {status : QueueStatus α} {consumer : QueueConsumer α}
    (knows : consumer.Knows queue view status) : consumer.Knows next nextView status := by
  have front := keeps.blocks _ laid.frontBlock_lt
  cases consumer with
  | idle => exact knows
  | called removal => exact knows
  | loadTail removal frontBlock_ blockFront =>
      rcases knows with ⟨running, rfl, rfl⟩
      exact ⟨running, keeps.frontBlock.symm, front.front.symm⟩
  | element removal block blockFront =>
      rcases knows with ⟨running, rfl, ⟨rfl, more⟩ | ⟨peek, leaves⟩⟩
      · refine ⟨running, front.front.symm, .inl ⟨keeps.frontBlock.symm, ?_⟩⟩
        rw [front.popped, front.seenTail]
        exact more
      · have within := laid.others_lt (List.mem_of_head? leaves.2)
        exact ⟨running, (keeps.blocks _ within).front.symm, .inr ⟨peek, keeps.leaves laid leaves⟩⟩
  | storeFront removal block blockFront result =>
      rcases knows with ⟨removes, running, rfl, rfl, more, written⟩
      refine ⟨removes, running, keeps.frontBlock.symm, ?_, ?_, ?_⟩
      · rw [QueueBlock.following, QueueBlock.following, front.sizeMask, front.front]
      · rw [front.popped, front.seenTail]
        exact more
      · rw [front.popped]
        rcases front.written with ⟨later, same⟩
        rw [← same, List.getElem?_append_left (List.getElem?_eq_some_iff.mp written).1]
        exact written
  | loadTailBlock removal frontBlock_ =>
      rcases knows with ⟨rfl, noted, running, known⟩
      exact ⟨keeps.frontBlock.symm, noted, running, known.imp_right keeps.others_ne_nil⟩
  | reload removal => exact ⟨knows.1, keeps.others_ne_nil knows.2⟩
  | loadNext removal frontBlock_ =>
      rcases knows with ⟨running, rfl, nextBlock, leaves⟩
      exact ⟨running, keeps.frontBlock.symm, nextBlock, keeps.leaves laid leaves⟩
  | loadNextTail removal nextBlock => exact ⟨knows.1, keeps.leaves laid knows.2⟩
  | storeFrontBlock removal nextBlock nextBlockFront =>
      rcases knows with ⟨removes, running, leaves, rfl, more⟩
      have kept := keeps.blocks _ (laid.others_lt (List.mem_of_head? leaves.2))
      refine ⟨removes, running, keeps.leaves laid leaves, kept.front.symm, ?_⟩
      rw [kept.popped, kept.seenTail]
      exact more
  | done removal result => exact knows

end ProducerKeeps
end ReaderWriterQueue
end NetSystem
