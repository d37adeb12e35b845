import NetSystem.Base.QueueInterference

namespace NetSystem

universe u

/-!
# The steps of the producer

An element is in the queue when the tail moves or, for one that is put into another block,
when the tail block does.  A call that finds no room has come by a moment at which the
queue had at least as many elements as it was made for.
-/

theorem QueueProducer.Owns.modify {α : Type u} {queue : ReaderWriterQueue α} {view : QueueView α}
    {producer later : QueueProducer α} (owns : producer.Owns queue view) {block : Nat}
    (change : QueueBlock α -> QueueBlock α) {changeView : BlockView α -> BlockView α}
    (written : (changeView (view.blocks block)).buffer.written.length =
      (changeView (view.blocks block)).buffer.pushed + later.making block)
    (elsewhere : forall other, other ≠ block -> later.making other = producer.making other)
    (spare : block ∈ view.spare -> later.started ≠ some block ->
      (changeView (view.blocks block)).buffer.popped =
        (changeView (view.blocks block)).buffer.pushed)
    (unstarted : producer.started = none) (linked : producer.unlinked = none) :
    later.Owns (queue.modify block change) (view.modify block changeView) where
  written := by
    intro other within
    by_cases same : other = block
    · rw [same, ReaderWriterQueue.view_modify_blocks_self]
      exact written
    · rw [ReaderWriterQueue.view_modify_blocks_of_ne same, elsewhere other same]
      exact owns.written other within
  spare := by
    intro other free notStarted
    by_cases same : other = block
    · rw [same] at free notStarted ⊢
      rw [ReaderWriterQueue.view_modify_blocks_self]
      exact spare free notStarted
    · rw [ReaderWriterQueue.view_modify_blocks_of_ne same]
      refine owns.spare other free ?_
      rw [unstarted]
      exact nofun
  linked := by
    intro other within
    refine .inl ((owns.linked other within).resolve_right ?_)
    rw [linked]
    exact nofun

namespace ReaderWriterQueue

variable {α : Type u}

/-- What a step of the producer leads to: there is a view of the queue with what the
producer knows next, and with what has become of its call. -/
def ProducerMoves (maxSize : Nat) (queue : ReaderWriterQueue α) (view : QueueView α)
    (status : QueueStatus α) (next : ReaderWriterQueue α) (later : QueueProducer α) : Prop :=
  Exists fun nextView => Exists fun now =>
    next.Laid nextView ∧ next.Roomy maxSize nextView ∧ later.Owns next nextView ∧
      later.Knows maxSize next nextView now ∧ queue.ProducerKeeps view next nextView ∧
      next.content nextView = queue.content view ++ later.accepted ∧
      NotingStatus.Move (queueObject maxSize) (queue.content view) status
        (next.content nextView) now

variable {queue : ReaderWriterQueue α} {view : QueueView α} {maxSize : Nat}
  {status now : QueueStatus α} {producer later : QueueProducer α}

/-- A step that changes nothing. -/
theorem ProducerMoves.stay (laid : queue.Laid view) (roomy : queue.Roomy maxSize view)
    (owns : later.Owns queue view) (knows : later.Knows maxSize queue view now)
    (none : later.accepted = [])
    (move : NotingStatus.Move (queueObject maxSize) (queue.content view) status
      (queue.content view) now) :
    queue.ProducerMoves maxSize view status queue later :=
  ⟨view, now, laid, roomy, owns, knows, .refl .., by rw [none, List.append_nil], move⟩

theorem ProducerKeeps.modify {block : Nat} {change : QueueBlock α -> QueueBlock α}
    {changeView : BlockView α -> BlockView α}
    (kept : KeptByProducer (queue.blocks block) (change (queue.blocks block))
      (view.blocks block) (changeView (view.blocks block)))
    (front : view.others ≠ [] -> block = queue.frontBlock ->
      (changeView (view.blocks block)).buffer.pushed = (view.blocks block).buffer.pushed) :
    queue.ProducerKeeps view (queue.modify block change) (view.modify block changeView) where
  blockCount := Nat.le_refl _
  frontBlock := rfl
  blocks := by
    intro other _
    by_cases here : other = block
    · rw [here, modify_blocks_self, view_modify_blocks_self]
      exact kept
    · rw [modify_blocks_of_ne here, view_modify_blocks_of_ne here]
      exact .refl ..
  fresh := fun _ above below => absurd below (Nat.not_lt.mpr above)
  others := List.prefix_rfl
  front := by
    intro more
    by_cases here : queue.frontBlock = block
    · rw [here, view_modify_blocks_self]
      exact front more here.symm
    · rw [view_modify_blocks_of_ne here]

theorem Roomy.modify (roomy : queue.Roomy maxSize view) (block : Nat)
    {change : QueueBlock α -> QueueBlock α} (changeView : BlockView α -> BlockView α)
    (same : (change (queue.blocks block)).sizeMask = (queue.blocks block).sizeMask) :
    (queue.modify block change).Roomy maxSize (view.modify block changeView) := by
  refine roomy.congr (List.Perm.refl _) (fun other _ => ?_) (Nat.le_refl _)
  by_cases here : other = block
  · rw [here, modify_blocks_self]
    exact same
  · rw [modify_blocks_of_ne here]

/-- The tail block stays full. -/
theorem FullTail.modify (full : queue.FullTail view) {block : Nat}
    {change : QueueBlock α -> QueueBlock α} {changeView : BlockView α -> BlockView α}
    (same : block = queue.tailBlock ->
      (change (queue.blocks block)).size = (queue.blocks block).size ∧
        (changeView (view.blocks block)).buffer.pushed = (view.blocks block).buffer.pushed ∧
        (changeView (view.blocks block)).buffer.popped = (view.blocks block).buffer.popped) :
    (queue.modify block change).FullTail (view.modify block changeView) := by
  refine full.imp_right fun full => ?_
  change ((view.modify block changeView).blocks queue.tailBlock).buffer.pushed + 1 =
    ((view.modify block changeView).blocks queue.tailBlock).buffer.popped +
      ((queue.modify block change).blocks queue.tailBlock).size
  by_cases here : queue.tailBlock = block
  · rcases same here.symm with ⟨size, pushed, popped⟩
    rw [here, modify_blocks_self, view_modify_blocks_self, size, pushed, popped, ← here]
    exact full
  · rw [modify_blocks_of_ne here, view_modify_blocks_of_ne here]
    exact full

/-- The producer copies the front of a block. -/
theorem ProducerMoves.noteFront (laid : queue.Laid view) (roomy : queue.Roomy maxSize view)
    (owns : producer.Owns queue view) {block : Nat} (within : block < queue.blockCount)
    (same : forall other, later.making other = producer.making other)
    (unstarted : producer.started = none) (linked : producer.unlinked = none)
    (knows : later.Knows maxSize
      (queue.modify block fun b => { b with localFront := (queue.blocks block).front })
      (view.modify block fun b => { b with seenFront := b.buffer.popped }) now)
    (none : later.accepted = [])
    (move : NotingStatus.Move (queueObject maxSize) (queue.content view) status
      (queue.content view) now) :
    queue.ProducerMoves maxSize view status
      (queue.modify block fun b => { b with localFront := (queue.blocks block).front }) later := by
  refine ⟨_, now, laid.modify_quiet (laid.holds block within).noteFront rfl rfl rfl rfl,
    roomy.modify _ _ rfl, ?_, knows,
    .modify ⟨rfl, rfl, List.prefix_rfl, Nat.le_refl _, rfl, rfl, rfl⟩ fun _ _ => rfl, ?_, ?_⟩
  · refine owns.modify _ ?_ (fun other _ => same other) ?_ unstarted linked
    · rw [same]
      exact owns.written block within
    · intro free _
      refine owns.spare block free ?_
      rw [unstarted]
      exact nofun
  · rw [none, content_modify _ _ _ _ fun _ => rfl, List.append_nil]
  · rw [content_modify _ _ _ _ fun _ => rfl]
    exact move

/-! ## The tail block -/

theorem produce_called (laid : queue.Laid view) (roomy : queue.Roomy maxSize view)
    {maxBlockSize : Nat} {element : α} {mode : AllocationMode}
    (owns : (QueueProducer.called element mode).Owns queue view)
    (knows : (QueueProducer.called element mode).Knows maxSize queue view status)
    {next : ReaderWriterQueue α}
    (step : queue.produce maxBlockSize (.called element mode) = some (next, later)) :
    queue.ProducerMoves maxSize view status next later := by
  have holds := laid.holds _ laid.tailBlock_lt
  dsimp only [produce] at step
  split at step
  case isTrue different =>
    cases step
    refine .stay laid roomy ⟨owns.written, owns.spare, owns.linked⟩ ⟨⟨mode, knows⟩, rfl, rfl, rfl, ?_⟩
      rfl (.skip ..)
    refine Nat.lt_of_le_of_ne holds.lap fun same => different ?_
    exact holds.following_tail_eq_localFront_iff.mpr same
  case isFalse =>
    cases step
    exact .stay laid roomy ⟨owns.written, owns.spare, owns.linked⟩ ⟨knows, rfl, rfl, rfl⟩ rfl (.skip ..)

theorem produce_loadFront (laid : queue.Laid view) (roomy : queue.Roomy maxSize view)
    {maxBlockSize : Nat} {element : α} {mode : AllocationMode}
    {tailBlock_ blockTail nextBlockTail : Nat}
    (owns : (QueueProducer.loadFront element mode tailBlock_ blockTail nextBlockTail).Owns
      queue view)
    (knows : (QueueProducer.loadFront element mode tailBlock_ blockTail nextBlockTail).Knows
      maxSize queue view status)
    {next : ReaderWriterQueue α}
    (step : queue.produce maxBlockSize
      (.loadFront element mode tailBlock_ blockTail nextBlockTail) = some (next, later)) :
    queue.ProducerMoves maxSize view status next later := by
  rcases knows with ⟨running, rfl, rfl, rfl⟩
  have holds := laid.holds _ laid.tailBlock_lt
  dsimp only [produce] at step
  split at step
  case isTrue different =>
    cases step
    refine .noteFront laid roomy owns laid.tailBlock_lt (fun _ => rfl) rfl rfl
      ⟨⟨mode, running⟩, rfl, ?_, ?_, ?_⟩ rfl (.skip ..)
    · rw [modify_blocks_self]
    · rw [modify_blocks_self]
      rfl
    · rw [modify_blocks_self, view_modify_blocks_self]
      refine Nat.lt_of_le_of_ne holds.pushed_lt fun same => different ?_
      exact holds.following_tail_eq_front_iff.mpr same
  case isFalse same =>
    cases step
    rcases running with ⟨noted, rfl⟩
    have full := holds.following_tail_eq_front_iff.mp (Decidable.not_not.mp same)
    have fullTail : queue.FullTail view := .inr full
    have after : (queue.modify queue.tailBlock fun b =>
        { b with localFront := (queue.blocks queue.tailBlock).front }).FullTail
          (view.modify queue.tailBlock fun b => { b with seenFront := b.buffer.popped }) :=
      fullTail.modify fun _ => ⟨rfl, rfl, rfl⟩
    by_cases refused : mode ≠ .canAlloc true ∧ (queue.ring view).length = 1
    · exact .noteFront laid roomy owns laid.tailBlock_lt (fun _ => rfl) rfl rfl
        ⟨rfl, after, _, rfl, fun _ _ => .inl rfl⟩
        rfl (.note (.refuse element refused.1 (roomy.refuse_single laid refused.2 full)))
    · exact .noteFront laid roomy owns laid.tailBlock_lt (fun _ => rfl) rfl rfl
        ⟨rfl, after, noted, rfl, fun limited one => absurd ⟨limited, one⟩ refused⟩ rfl (.skip ..)

/-! ## The element -/

theorem Place.lt (laid : queue.Laid view) {block : Nat} {publish : Bool}
    (place : queue.Place view block publish) : block < queue.blockCount := by
  cases publish with
  | false => exact Nat.lt_of_le_of_lt (Nat.le_of_eq place) laid.tailBlock_lt
  | true => exact laid.spare_lt (List.mem_of_head? place.1)

theorem Place.eq_tailBlock_of_used (laid : queue.Laid view) {block : Nat} {publish : Bool}
    (place : queue.Place view block publish) (used : block ∈ queue.used view) :
    block = queue.tailBlock := by
  cases publish with
  | false => exact place
  | true => exact absurd used (laid.notMem_used_of_spare (List.mem_of_head? place.1))

/-- The producer fills a block that the consumer does not leave. -/
theorem Place.front_eq (laid : queue.Laid view) {block : Nat} {publish : Bool}
    (place : queue.Place view block publish) (front : block = queue.frontBlock) :
    view.others = [] := by
  have used : block ∈ queue.used view := by
    rw [front]
    exact List.mem_cons_self ..
  rw [← laid.tailBlock_eq_iff, ← place.eq_tailBlock_of_used laid used]
  exact front

/-- The place of the next element is raw memory. -/
theorem Laid.construct (laid : queue.Laid view) {element : α}
    {block blockTail nextBlockTail : Nat} {publish : Bool}
    (owns : (QueueProducer.construct element block blockTail nextBlockTail publish).Owns
      queue view)
    (knows : (QueueProducer.construct element block blockTail nextBlockTail publish).Knows
      maxSize queue view status) :
    (queue.blocks block).data blockTail = none := by
  rcases knows with ⟨_, place, rfl, _, _⟩
  have within := place.lt laid
  exact (laid.holds block within).buffer.slot_tail (owns.written block within)

theorem produce_construct (laid : queue.Laid view) (roomy : queue.Roomy maxSize view)
    {maxBlockSize : Nat} {element : α} {block blockTail nextBlockTail : Nat} {publish : Bool}
    (owns : (QueueProducer.construct element block blockTail nextBlockTail publish).Owns
      queue view)
    (knows : (QueueProducer.construct element block blockTail nextBlockTail publish).Knows
      maxSize queue view status)
    {next : ReaderWriterQueue α}
    (step : queue.produce maxBlockSize
      (.construct element block blockTail nextBlockTail publish) = some (next, later)) :
    queue.ProducerMoves maxSize view status next later := by
  have raw := laid.construct owns knows
  rcases knows with ⟨running, place, rfl, rfl, room⟩
  have within := place.lt laid
  have all : (view.blocks block).buffer.written.length = (view.blocks block).buffer.pushed :=
    owns.written block within
  dsimp only [produce] at step
  rw [raw, Option.isNone_none, if_pos rfl] at step
  cases step
  refine ⟨view.modify block fun b => { b with buffer := b.buffer.fill element }, status,
    laid.modify_quiet ((laid.holds block within).fill all room element) rfl rfl rfl rfl,
    roomy.modify _ _ rfl, ?_, ⟨running, ?_, ?_, ?_, ?_⟩, .modify ?_ fun _ _ => rfl, ?_, ?_⟩
  · refine owns.modify _ ?_ ?_ ?_ rfl rfl
    · change ((view.blocks block).buffer.written ++ [element]).length = _ + _
      rw [List.length_append, all, QueueProducer.making, if_pos rfl]
      rfl
    · intro other different
      rw [QueueProducer.making, if_neg different]
      rfl
    · exact fun free _ => owns.spare block free nofun
  · cases publish with
    | false => exact place
    | true => exact ⟨place.1, place.2.modify fun _ => ⟨rfl, rfl, rfl⟩⟩
  · rw [modify_blocks_self]
    rfl
  · rw [modify_blocks_self, view_modify_blocks_self]
    exact room
  · rw [view_modify_blocks_self]
    change ((view.blocks block).buffer.written ++ [element])[
      (view.blocks block).buffer.pushed]? = some element
    rw [← all]
    exact List.getElem?_concat_length ..
  · exact ⟨rfl, rfl, List.prefix_append .., Nat.le_refl _, rfl, rfl, rfl⟩
  · rw [content_modify _ _ _ _ fun _ => CircularView.items_fill element (Nat.le_of_eq all.symm)]
    exact (List.append_nil _).symm
  · rw [content_modify _ _ _ _ fun _ => CircularView.items_fill element (Nat.le_of_eq all.symm)]
    exact .skip ..

theorem produce_storeTail (laid : queue.Laid view) (roomy : queue.Roomy maxSize view)
    {maxBlockSize : Nat} {element : α} {block nextBlockTail : Nat} {publish : Bool}
    (owns : (QueueProducer.storeTail element block nextBlockTail publish).Owns queue view)
    (knows : (QueueProducer.storeTail element block nextBlockTail publish).Knows
      maxSize queue view status)
    {next : ReaderWriterQueue α}
    (step : queue.produce maxBlockSize (.storeTail element block nextBlockTail publish) =
      some (next, later)) :
    queue.ProducerMoves maxSize view status next later := by
  rcases knows with ⟨⟨mode, noted, rfl⟩, place, rfl, room, filled⟩
  have within := place.lt laid
  have more := (List.getElem?_eq_some_iff.mp filled).1
  have one := owns.written block within
  rw [QueueProducer.making, if_pos rfl] at one
  have elsewhere : forall other, other ≠ block -> 0 =
      (QueueProducer.storeTail element block
        ((queue.blocks block).following (queue.blocks block).tail) publish).making other := by
    intro other different
    rw [QueueProducer.making, if_neg different]
  have keeps : queue.ProducerKeeps view
      (queue.modify block fun b => { b with tail := b.following b.tail })
      (view.modify block fun b => { b with buffer := b.buffer.announce }) :=
    .modify ⟨rfl, rfl, List.prefix_rfl, Nat.le_succ _, rfl, rfl, rfl⟩ fun others front =>
      absurd (place.front_eq laid front) others
  have announced := laid.announce within (place.eq_tailBlock_of_used laid) more room
  dsimp only [produce] at step
  cases publish with
  | false =>
      cases step
      cases place
      refine ⟨_, _, announced, roomy.modify _ _ rfl,
        owns.modify _ one elsewhere ?_ rfl rfl, .inl rfl, keeps, laid.content_announce _ filled, ?_⟩
      · exact fun free _ => absurd laid.tailBlock_mem (laid.notMem_used_of_spare free)
      · rw [laid.content_announce _ filled]
        exact .perform (.enqueue ..)
  | true =>
      cases step
      have free := List.mem_of_head? place.1
      have apart := laid.notMem_used_of_spare free
      have empty := owns.spare block free nofun
      have holds := laid.holds block within
      refine ⟨_, _, announced, roomy.modify _ _ rfl, owns.modify _ one elsewhere ?_ rfl rfl,
        ⟨⟨mode, noted, rfl⟩, place.2.modify ?_, place.1, ?_⟩, keeps, ?_, ?_⟩
      · exact fun _ unstarted => absurd rfl unstarted
      · intro same
        rw [same] at apart
        exact absurd laid.tailBlock_mem apart
      · rw [view_modify_blocks_self]
        have items := CircularView.items_announce holds.popped_le filled
        rw [CircularView.items_eq_nil empty] at items
        exact items
      · rw [content_modify _ _ _ _ fun used => absurd used apart]
        exact (List.append_nil _).symm
      · rw [content_modify _ _ _ _ fun used => absurd used apart]
        exact .skip ..

/-! ## Another block -/

theorem produce_loadFrontBlock (laid : queue.Laid view) (roomy : queue.Roomy maxSize view)
    {maxBlockSize : Nat} {element : α} {mode : AllocationMode} {tailBlock_ : Nat}
    (owns : (QueueProducer.loadFrontBlock element mode tailBlock_).Owns queue view)
    (knows : (QueueProducer.loadFrontBlock element mode tailBlock_).Knows maxSize queue view
      status)
    {next : ReaderWriterQueue α}
    (step : queue.produce maxBlockSize (.loadFrontBlock element mode tailBlock_) =
      some (next, later)) :
    queue.ProducerMoves maxSize view status next later := by
  rcases knows with ⟨rfl, full, noted, rfl, known⟩
  dsimp only [produce] at step
  split at step
  case isTrue behind =>
    cases step
    exact .stay laid roomy ⟨owns.written, owns.spare, owns.linked⟩
      ⟨⟨mode, noted, rfl⟩, full, laid.head_spare behind⟩ rfl (.skip ..)
  case isFalse same =>
    have none := laid.next_eq_frontBlock_iff.mp (Decidable.not_not.mp same)
    -- no block is free, so that all blocks that the consumer is not in are full
    have reached : (queue.ring view).length ≠ 1 -> maxSize ≤ (queue.content view).length := by
      intro more
      refine roomy.refuse_several laid ?_ none full
      have positive := List.length_pos_of_mem
        (show queue.frontBlock ∈ queue.ring view from
          List.mem_append_left _ (List.mem_cons_self ..))
      omega
    cases mode with
    | canAlloc memory =>
        cases step
        cases memory with
        | true =>
            exact .stay laid roomy ⟨owns.written, owns.spare, owns.linked⟩ ⟨rfl, full, noted, rfl, nofun⟩
              rfl (.skip ..)
        | false =>
            by_cases one : (queue.ring view).length = 1
            · exact .stay laid roomy ⟨owns.written, owns.spare, owns.linked⟩
                ⟨rfl, full, noted, rfl, fun _ => known nofun one⟩ rfl (.skip ..)
            · exact .stay laid roomy ⟨owns.written, owns.spare, owns.linked⟩
                ⟨rfl, full, _, rfl, fun _ => .inl rfl⟩ rfl (.note (.refuse element nofun (reached one)))
    | cannotAlloc =>
        cases step
        by_cases one : (queue.ring view).length = 1
        · exact .stay laid roomy ⟨owns.written, owns.spare, owns.linked⟩
            (.inr ⟨_, noted, rfl, known nofun one⟩) rfl (.skip ..)
        · exact .stay laid roomy ⟨owns.written, owns.spare, owns.linked⟩ (.inl rfl) rfl
            (.perform (.refuse element nofun (reached one)))

theorem produce_loadNextFront (laid : queue.Laid view) (roomy : queue.Roomy maxSize view)
    {maxBlockSize : Nat} {element : α} {tailBlockNext : Nat}
    (owns : (QueueProducer.loadNextFront element tailBlockNext).Owns queue view)
    (knows : (QueueProducer.loadNextFront element tailBlockNext).Knows maxSize queue view status)
    {next : ReaderWriterQueue α}
    (step : queue.produce maxBlockSize (.loadNextFront element tailBlockNext) =
      some (next, later)) :
    queue.ProducerMoves maxSize view status next later := by
  rcases knows with ⟨running, full, first⟩
  have free := List.mem_of_head? first
  have empty := owns.spare tailBlockNext free nofun
  have blockSize := (laid.holds _ (laid.spare_lt free)).blockSize.two_le
  dsimp only [produce] at step
  split at step
  case isFalse => cases step
  case isTrue =>
    cases step
    refine .noteFront laid roomy owns (laid.spare_lt free) (fun _ => rfl) rfl rfl
      ⟨running, ⟨first, full.modify fun _ => ⟨rfl, rfl, rfl⟩⟩, ?_, ?_, ?_⟩ rfl (.skip ..)
    · rw [modify_blocks_self]
    · rw [modify_blocks_self]
      rfl
    · rw [modify_blocks_self, view_modify_blocks_self]
      change _ < (view.blocks tailBlockNext).buffer.popped + (queue.blocks tailBlockNext).size
      rw [empty]
      exact Nat.add_lt_add_left blockSize _

theorem largest_le_newBlockSize (queue : ReaderWriterQueue α) (maxBlockSize : Nat) :
    queue.largestBlockSize ≤ queue.newBlockSize maxBlockSize := by
  rw [newBlockSize]
  split <;> omega

theorem produce_makeBlock (laid : queue.Laid view) (roomy : queue.Roomy maxSize view)
    {maxBlockSize : Nat} (blockSize : IsBlockSize maxBlockSize) {element : α} {memory : Bool}
    {tailBlock_ : Nat}
    (owns : (QueueProducer.makeBlock element memory tailBlock_).Owns queue view)
    (knows : (QueueProducer.makeBlock element memory tailBlock_).Knows maxSize queue view status)
    {next : ReaderWriterQueue α}
    (step : queue.produce maxBlockSize (.makeBlock element memory tailBlock_) =
      some (next, later)) :
    queue.ProducerMoves maxSize view status next later := by
  rcases knows with ⟨rfl, full, noted, rfl, known⟩
  cases memory with
  | false =>
      cases step
      exact .stay laid roomy ⟨owns.written, owns.spare, owns.linked⟩ (.inr ⟨_, noted, rfl, known rfl⟩)
        rfl (.skip ..)
  | true =>
      cases step
      have fresh : forall block, block ∈ queue.ring view -> block ≠ queue.blockCount :=
        fun block inside => Nat.ne_of_lt (laid.allocated block inside)
      have apart := Nat.ne_of_lt laid.tailBlock_lt
      have larger := queue.largest_le_newBlockSize maxBlockSize
      have same : (queue.addBlock maxBlockSize element queue.tailBlock).content
          (view.modify queue.blockCount fun _ => BlockView.single element) =
            queue.content view := by
        refine content_congr rfl rfl fun block inside => ?_
        rw [view_modify_blocks_of_ne (fresh block (List.mem_append_left _ inside))]
      refine ⟨_, _, laid.addBlock blockSize element, ?_, ⟨?_, ?_, ?_⟩,
        ⟨⟨.canAlloc true, noted, rfl⟩, rfl, ?_, Nat.lt_succ_self _, ?_, ?_, ?_, ?_⟩,
        ⟨?_, rfl, ?_, ?_, ?_, ?_⟩, ?_, ?_⟩
      · refine roomy.congr (List.Perm.refl _) (fun block inside => ?_) larger
        rw [addBlock_blocks_of_ne (fresh block inside)]
      · intro block within
        by_cases new : block = queue.blockCount
        · rw [new, view_modify_blocks_self]
          rfl
        · rw [view_modify_blocks_of_ne new]
          exact owns.written block (Nat.lt_of_le_of_ne (Nat.le_of_lt_succ within) new)
      · intro block free _
        rw [view_modify_blocks_of_ne (Nat.ne_of_lt (laid.spare_lt free))]
        exact owns.spare block free nofun
      · intro block within
        by_cases new : block = queue.blockCount
        · exact .inr (congrArg some new.symm)
        · have old := Nat.lt_of_le_of_ne (Nat.le_of_lt_succ within) new
          exact .inl ((owns.linked block old).resolve_right nofun)
      · refine full.imp_right fun full => ?_
        change ((view.modify _ _).blocks queue.tailBlock).buffer.pushed + 1 =
          ((view.modify _ _).blocks queue.tailBlock).buffer.popped +
            ((queue.addBlock maxBlockSize element queue.tailBlock).blocks queue.tailBlock).size
        rw [view_modify_blocks_of_ne apart, addBlock_blocks_of_ne apart]
        exact full
      · exact fun inside => fresh _ inside rfl
      · change ((queue.addBlock maxBlockSize element queue.tailBlock).blocks _).next =
          ((queue.addBlock maxBlockSize element queue.tailBlock).blocks queue.tailBlock).next
        rw [addBlock_blocks_self, addBlock_blocks_of_ne apart]
        rfl
      · rw [view_modify_blocks_self]
        rfl
      · intro one
        rw [addBlock_blocks_self]
        have less := (roomy.single one).2
        change maxSize ≤ queue.newBlockSize maxBlockSize - 1
        omega
      · exact Nat.le_succ _
      · intro block within
        rw [view_modify_blocks_of_ne (Nat.ne_of_lt within),
          addBlock_blocks_of_ne (Nat.ne_of_lt within)]
        exact .refl ..
      · intro block above below
        have new : block = queue.blockCount := Nat.le_antisymm (Nat.le_of_lt_succ below) above
        rw [new, view_modify_blocks_self]
        rfl
      · exact List.prefix_rfl
      · intro _
        rw [view_modify_blocks_of_ne (Nat.ne_of_lt laid.frontBlock_lt)]
      · rw [same]
        exact (List.append_nil _).symm
      · rw [same]
        exact .skip ..

theorem produce_storeNext (laid : queue.Laid view) (roomy : queue.Roomy maxSize view)
    {maxBlockSize : Nat} {element : α} {tailBlock_ newBlock : Nat}
    (owns : (QueueProducer.storeNext element tailBlock_ newBlock).Owns queue view)
    (knows : (QueueProducer.storeNext element tailBlock_ newBlock).Knows maxSize queue view
      status)
    {next : ReaderWriterQueue α}
    (step : queue.produce maxBlockSize (.storeNext element tailBlock_ newBlock) =
      some (next, later)) :
    queue.ProducerMoves maxSize view status next later := by
  rcases knows with ⟨running, rfl, full, within, fresh, onward, items, large⟩
  cases step
  refine ⟨_, status, laid.link within fresh onward, ?_, ⟨owns.written, ?_, ?_⟩,
    ⟨running, ?_, rfl, items⟩, ⟨Nat.le_refl _, rfl, ?_, ?_, List.prefix_rfl, fun _ => rfl⟩,
    (List.append_nil _).symm, .skip ..⟩
  · refine roomy.link List.perm_middle (fun block => ?_) large
    by_cases here : block = queue.tailBlock
    · rw [here, modify_blocks_self]
    · rw [modify_blocks_of_ne here]
  · intro block free unstarted
    rcases List.mem_cons.mp free with new | old
    · rw [new] at unstarted
      exact absurd rfl unstarted
    · exact owns.spare block old nofun
  · intro block known
    left
    rcases owns.linked block known with old | new
    · rcases List.mem_append.mp old with used | spare
      · exact List.mem_append_left _ used
      · exact List.mem_append_right _ (List.mem_cons_of_mem _ spare)
    · rw [← Option.some.inj new]
      exact List.mem_append_right _ (List.mem_cons_self ..)
  · refine full.imp_right fun full => ?_
    change _ = _ + ((queue.modify queue.tailBlock _).blocks queue.tailBlock).size
    rw [modify_blocks_self]
    exact full
  · intro block _
    by_cases here : block = queue.tailBlock
    · rw [here, modify_blocks_self]
      exact ⟨rfl, rfl, List.prefix_rfl, Nat.le_refl _, rfl, rfl, rfl⟩
    · rw [modify_blocks_of_ne here]
      exact .refl ..
  · exact fun _ above below => absurd below (Nat.not_lt.mpr above)

theorem produce_storeTailBlock (laid : queue.Laid view) (roomy : queue.Roomy maxSize view)
    {maxBlockSize : Nat} {element : α} {block : Nat}
    (owns : (QueueProducer.storeTailBlock element block).Owns queue view)
    (knows : (QueueProducer.storeTailBlock element block).Knows maxSize queue view status)
    {next : ReaderWriterQueue α}
    (step : queue.produce maxBlockSize (.storeTailBlock element block) = some (next, later)) :
    queue.ProducerMoves maxSize view status next later := by
  rcases knows with ⟨⟨mode, noted, rfl⟩, full, first, items⟩
  cases step
  rcases List.head?_eq_some_iff.mp first with ⟨rest, spare⟩
  have within := laid.spare_lt (List.mem_of_head? first)
  have filled : (view.blocks block).buffer.popped < (view.blocks block).buffer.pushed := by
    have length := (laid.holds block within).buffer.items_length
    rw [items, List.length_singleton] at length
    omega
  have others : block ∉ rest := by
    have nodup := (List.nodup_append.mp laid.linked.nodup).2.1
    rw [spare] at nodup
    exact (List.nodup_cons.mp nodup).1
  have same : { queue with tailBlock := block }.ring
      { view with others := view.others ++ [block], spare := rest } = queue.ring view := by
    change (queue.frontBlock :: (view.others ++ [block])) ++ rest = queue.used view ++ view.spare
    rw [spare, used, ← List.cons_append, List.append_assoc]
    rfl
  refine ⟨_, _, laid.publish spare filled full, ?_, ⟨owns.written, ?_, ?_⟩, .inl rfl,
    ⟨Nat.le_refl _, rfl, fun _ _ => .refl .., ?_, List.prefix_append .., fun _ => rfl⟩, ?_, ?_⟩
  · exact roomy.congr (List.Perm.of_eq same) (fun _ _ => rfl) (Nat.le_refl _)
  · intro other free _
    refine owns.spare other ?_ ?_
    · rw [spare]
      exact List.mem_cons_of_mem _ free
    · intro same
      rw [← Option.some.inj same] at free
      exact others free
  · intro other known
    rw [same]
    exact .inl ((owns.linked other known).resolve_right (Option.some_ne_none other).symm)
  · exact fun _ above below => absurd below (Nat.not_lt.mpr above)
  · rw [content_publish, items]
    rfl
  · rw [content_publish, items]
    exact .perform (.enqueue ..)

end ReaderWriterQueue
end NetSystem
