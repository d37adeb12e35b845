import Mathlib.Data.List.Nodup
import NetSystem.Foundation.Transition
import NetSystem.Packet.PageDecoding

namespace NetSystem

/-!
# The receive buffers of all objects of a class

The objects of a packet class share one receive free list.  A buffer obtained
with `malloc` is conserved when it is in the free list or with exactly one
object; `Conserved` says so with one permutation, and every branch of
`ConsumePacket`, `Clear` and destruction keeps it, except one.  A page with
only the start flag takes a buffer without looking at the one the object has,
which is then neither free nor referenced.

A step is one page handed to one object, under whatever leading it has
stored.  `consumeFramePage_run` says that a call of `ConsumeFramePage` is a
sequence of such steps.
-/

/-- The objects of one packet class that exist, with the static lists of the
class. -/
structure PoolWorld where
  recvPool : BufferPool
  sendPool : BufferPool
  objects : List TcpPacket

/-- What can happen to the objects.  `keep` is the bookkeeping of
`ConsumeFramePage` between two pages. -/
inductive PoolEvent where
  | create
  | keep (index : Nat) (pageState : FramePageState) (leading : PageLeading)
  | page (index : Nat) (memory : Memory UInt8) (pBuf nLen : Nat)
  | clear (index : Nat)
  | destroy (index : Nat)

namespace PoolWorld

/-- After `InitPacketBuffer`, before the first object. -/
def initial (codec : Codec) (uninitialised : Nat -> Memory UInt8) (sendPool : BufferPool) :
    PoolWorld :=
  ⟨(BufferPool.initial uninitialised).initPacketBuffer codec.recvCapSize codec.recvNumHint,
    sendPool, []⟩

/-- An object with the lists it uses. -/
def focus (world : PoolWorld) (packet : TcpPacket) : PacketState :=
  ⟨world.recvPool, world.sendPool, packet⟩

/-- The world after an operation on one object. -/
def put (world : PoolWorld) (index : Nat) (state : PacketState) : PoolWorld :=
  ⟨state.recvPool, state.sendPool, world.objects.set index state.packet⟩

/-- One event; none when there is no such object. -/
def perform (codec : Codec) (world : PoolWorld) : PoolEvent -> Option PoolWorld
  | .create => some { world with objects := world.objects ++ [TcpPacket.initial] }
  | .keep index pageState leading =>
      (world.objects[index]?).map fun packet =>
        world.put index (((world.focus packet).setLeading leading).setPageState pageState)
  | .page index memory pBuf nLen =>
      (world.objects[index]?).map fun packet =>
        world.put index (consumePacket codec (world.focus packet) memory pBuf nLen).state
  | .clear index =>
      (world.objects[index]?).map fun packet => world.put index (world.focus packet).clear
  | .destroy index =>
      (world.objects[index]?).map fun packet =>
        let cleared := world.put index (world.focus packet).clear
        { cleared with objects := cleared.objects.eraseIdx index }

def Step (codec : Codec) (world : PoolWorld) (event : PoolEvent) (next : PoolWorld) : Prop :=
  world.perform codec event = some next

/-- A page with only the start flag is not given to an object that is in the
middle of a packet. -/
def clean (world : PoolWorld) : PoolEvent -> Bool
  | .page index _ _ _ =>
      match world.objects[index]? with
      | some packet =>
          !(packet.recvPageLeading.pageStart && !packet.recvPageLeading.pageEnd &&
            packet.refRecvBuf.isSome)
      | none => true
  | _ => true

/-- The steps in which no object is given a first page in the middle of a
packet. -/
def CleanStep (codec : Codec) (world : PoolWorld) (event : PoolEvent) (next : PoolWorld) : Prop :=
  (if world.clean event then world.perform codec event else none) = some next

/-- The buffers the objects refer to. -/
def held (world : PoolWorld) : List Nat := world.objects.filterMap TcpPacket.refRecvBuf

/-- How many objects are in the middle of a packet. -/
def holders (world : PoolWorld) : Nat := world.held.length

/-- The largest number of objects in the middle of a packet along a run. -/
def peak (codec : Codec) : PoolWorld -> List PoolEvent -> Nat
  | world, [] => world.holders
  | world, event :: events =>
      match world.perform codec event with
      | some next => max world.holders (peak codec next events)
      | none => world.holders

/-- Every buffer obtained is free or with an object, once. -/
structure Conserved (codec : Codec) (world : PoolWorld) : Prop where
  sized : forall entry, entry < world.recvPool.allocated ->
    (world.recvPool.entries entry).capSize = codec.recvCapSize
  perm : (world.recvPool.freeList ++ world.held).Perm (List.range world.recvPool.allocated)

theorem Conserved.nodup {codec : Codec} {world : PoolWorld} (conserved : world.Conserved codec) :
    (world.recvPool.freeList ++ world.held).Nodup :=
  conserved.perm.nodup_iff.mpr List.nodup_range

theorem Conserved.mem_iff {codec : Codec} {world : PoolWorld} (conserved : world.Conserved codec)
    (entry : Nat) : entry ∈ world.recvPool.freeList ∨ entry ∈ world.held ↔
      entry < world.recvPool.allocated := by
  rw [← List.mem_append, conserved.perm.mem_iff, List.mem_range]

theorem Conserved.formed {codec : Codec} {world : PoolWorld} (conserved : world.Conserved codec) :
    world.recvPool.WellFormed codec.recvCapSize :=
  ⟨(List.nodup_append.mp conserved.nodup).1,
    fun entry listed => (conserved.mem_iff entry).mp (Or.inl listed), conserved.sized⟩

theorem Conserved.count {codec : Codec} {world : PoolWorld} (conserved : world.Conserved codec) :
    world.recvPool.freeList.length + world.holders = world.recvPool.allocated := by
  have lengths := conserved.perm.length_eq
  rw [List.length_append, List.length_range] at lengths
  exact lengths

end PoolWorld

/-! ## What one object does to the lists -/

/-- The effect of an operation of one object: its buffer and the free ones are
those there were before and the ones obtained, which are obtained only when the
list is empty. -/
structure PoolEffect (codec : Codec) (before after : PacketState) : Prop where
  sized : forall entry, entry < after.recvPool.allocated ->
    (after.recvPool.entries entry).capSize = codec.recvCapSize
  perm : (after.recvPool.freeList ++ after.packet.refRecvBuf.toList).Perm
    (before.recvPool.freeList ++ before.packet.refRecvBuf.toList ++
      List.range' before.recvPool.allocated
        (after.recvPool.allocated - before.recvPool.allocated))
  counted : after.recvPool.allocated = before.recvPool.allocated ∨
    (before.recvPool.freeList = [] ∧
      after.recvPool.allocated = before.recvPool.allocated + codec.recvNumHint)

namespace PoolEffect

variable {codec : Codec} {before after : PacketState}

/-- Nothing obtained, nothing moved. -/
theorem unmoved (sized : forall entry, entry < after.recvPool.allocated ->
      (after.recvPool.entries entry).capSize = codec.recvCapSize)
    (free : after.recvPool.freeList = before.recvPool.freeList)
    (allocated : after.recvPool.allocated = before.recvPool.allocated)
    (ref : after.packet.refRecvBuf = before.packet.refRecvBuf) :
    PoolEffect codec before after := by
  refine ⟨sized, ?_, Or.inl allocated⟩
  rw [free, ref, allocated, Nat.sub_self, List.range'_zero, List.append_nil]

/-- The object's buffer goes back to the list. -/
theorem freed {entry : Nat} (sized : forall other, other < after.recvPool.allocated ->
      (after.recvPool.entries other).capSize = codec.recvCapSize)
    (holds : before.packet.refRecvBuf = some entry)
    (free : after.recvPool.freeList = entry :: before.recvPool.freeList)
    (allocated : after.recvPool.allocated = before.recvPool.allocated)
    (ref : after.packet.refRecvBuf = none) : PoolEffect codec before after := by
  refine ⟨sized, ?_, Or.inl allocated⟩
  rw [free, ref, holds, allocated, Nat.sub_self, List.range'_zero, List.append_nil,
    Option.toList_none, List.append_nil, Option.toList_some]
  exact (List.perm_append_singleton entry _).symm

/-- A buffer is taken, by an object that has none, and kept or given back. -/
theorem taken {entry : Nat} {pool : BufferPool}
    (allocates : BufferPool.Allocates before.recvPool codec.recvCapSize codec.recvNumHint entry pool)
    (nothing : before.packet.refRecvBuf = none)
    (sized : forall other, other < after.recvPool.allocated ->
      (after.recvPool.entries other).capSize = codec.recvCapSize)
    (allocated : after.recvPool.allocated = pool.allocated)
    (bag : (after.recvPool.freeList ++ after.packet.refRecvBuf.toList).Perm
      (entry :: pool.freeList)) : PoolEffect codec before after := by
  refine ⟨sized, ?_, ?_⟩
  · rw [nothing, Option.toList_none, List.append_nil, allocated]
    exact bag.trans allocates.perm
  · rw [allocated]
    rcases allocates.source with ⟨same, _⟩ | ⟨more, free, _⟩
    · exact Or.inl same
    · exact Or.inr ⟨free, more⟩

end PoolEffect

/-- `ConsumePacket` on any page, unless only the start flag is set and the
object has a buffer. -/
theorem consumePacket_effect {codec : Codec} {state : PacketState} (sound : state.Sound codec)
    (memory : Memory UInt8) (pBuf nLen : Nat)
    (clean : state.packet.recvPageLeading.pageStart = true ->
      state.packet.recvPageLeading.pageEnd = false -> state.packet.refRecvBuf = none) :
    PoolEffect codec state (consumePacket codec state memory pBuf nLen).state := by
  have same : PoolEffect codec state state := .unmoved sound.pool.sized rfl rfl rfl
  have released : forall entry, state.packet.refRecvBuf = some entry ->
      PoolEffect codec state (state.freeRecvBuf entry) := by
    intro entry holds
    exact .freed sound.pool.sized holds rfl rfl rfl
  have kept : forall entry bytes, state.packet.refRecvBuf = some entry ->
      PoolEffect codec state (state.setRecvBuf (state.recvPool.set entry
        ((state.recvPool.entries entry).append bytes)) (some entry)) := by
    intro entry bytes holds
    exact .unmoved (sound.store holds bytes).pool.sized rfl rfl holds.symm
  have stored : forall entry bytes, state.packet.refRecvBuf = some entry ->
      PoolEffect codec state ((state.setRecvBuf (state.recvPool.set entry
        ((state.recvPool.entries entry).append bytes)) (some entry)).freeRecvBuf entry) := by
    intro entry bytes holds
    exact .freed (sound.store holds bytes).pool.sized holds rfl rfl rfl
  cases first : state.packet.recvPageLeading.pageStart with
  | true =>
      cases last : state.packet.recvPageLeading.pageEnd with
      | true =>
          simp only [consumePacket, first, last, and_self, if_true]
          split
          · exact same
          · exact same
      | false =>
          have nothing := clean first last
          rcases BufferPool.packetBufferAlloc_spec sound.pool codec.recvNumHint_pos with
            ⟨entry, pool, alloc, allocates⟩
          simp only [consumePacket, first, last, Bool.false_eq_true, and_false, if_false, if_true,
            alloc]
          split
          · refine .taken allocates nothing ?_ rfl ?_
            · have capacity : ((pool.entries entry).append (memory.read pBuf nLen)).capSize =
                  codec.recvCapSize := allocates.formed.sized entry allocates.below
              exact (BufferPool.set_wellFormed allocates.formed capacity).sized
            · exact List.perm_append_singleton entry _
          · refine .taken allocates nothing allocates.formed.sized rfl ?_
            exact (List.append_nil _).symm ▸ List.Perm.refl _
  | false =>
      simp only [consumePacket, first, Bool.false_eq_true, false_and, if_false]
      cases holds : state.packet.refRecvBuf with
      | none => exact same
      | some entry =>
          cases last : state.packet.recvPageLeading.pageEnd with
          | true =>
              simp only [if_true]
              split
              · split
                · exact stored entry _ holds
                · exact stored entry _ holds
              · exact released entry holds
          | false =>
              simp only [Bool.false_eq_true, if_false]
              split
              · exact kept entry _ holds
              · exact released entry holds

/-- `Clear` gives the buffer back. -/
theorem clear_effect {codec : Codec} {state : PacketState} (sound : state.Sound codec) :
    PoolEffect codec state state.clear ∧ state.clear.packet.refRecvBuf = none := by
  refine ⟨?_, state.clear_waiting.2⟩
  have sized := sound.clear.pool.sized
  cases receives : state.packet.refRecvBuf with
  | none =>
      refine .unmoved sized ?_ ?_ (state.clear_waiting.2.trans receives.symm)
      · cases sends : state.packet.refSendBuf <;>
          simp [PacketState.clear, PacketState.setPageState, receives, sends]
      · cases sends : state.packet.refSendBuf <;>
          simp [PacketState.clear, PacketState.setPageState, receives, sends]
  | some entry =>
      refine .freed sized receives ?_ ?_ state.clear_waiting.2
      · cases sends : state.packet.refSendBuf <;>
          simp [PacketState.clear, PacketState.setPageState, PacketState.freeRecvBuf,
            PacketState.setRecvBuf, BufferPool.packetBufferFree, receives, sends]
      · cases sends : state.packet.refSendBuf <;>
          simp [PacketState.clear, PacketState.setPageState, PacketState.freeRecvBuf,
            PacketState.setRecvBuf, BufferPool.packetBufferFree, receives, sends]

/-! ## No buffer goes back to the system -/

/-- `ConsumePacket` obtains buffers and returns none, whatever the page. -/
theorem consumePacket_allocated_le (codec : Codec) (state : PacketState) (memory : Memory UInt8)
    (pBuf nLen : Nat) : state.recvPool.allocated ≤
      (consumePacket codec state memory pBuf nLen).state.recvPool.allocated := by
  unfold consumePacket
  dsimp only
  split
  · split <;> exact Nat.le_refl _
  · split
    · cases alloc : state.recvPool.packetBufferAlloc codec.recvCapSize codec.recvNumHint with
      | none => exact Nat.le_refl _
      | some taken =>
          have more := BufferPool.packetBufferAlloc_allocated_le alloc
          dsimp only
          split <;> exact more
    · split
      · exact Nat.le_refl _
      · split
        · split
          · split <;> exact Nat.le_refl _
          · exact Nat.le_refl _
        · split <;> exact Nat.le_refl _

theorem clear_allocated (state : PacketState) :
    state.clear.recvPool.allocated = state.recvPool.allocated := by
  cases receives : state.packet.refRecvBuf <;> cases sends : state.packet.refSendBuf <;>
    simp [PacketState.clear, PacketState.setPageState, PacketState.freeRecvBuf,
      PacketState.setRecvBuf, BufferPool.packetBufferFree, receives, sends]

/-! ## Steps of the world -/

namespace PoolWorld

variable {codec : Codec} {world : PoolWorld} {index : Nat} {packet : TcpPacket}

/-- An object among the others. -/
theorem objects_split (present : world.objects[index]? = some packet) :
    world.objects = world.objects.take index ++ packet :: world.objects.drop (index + 1) ∧
      forall other, world.objects.set index other =
        world.objects.take index ++ other :: world.objects.drop (index + 1) := by
  rcases List.getElem?_eq_some_iff.mp present with ⟨below, same⟩
  constructor
  · rw [← same, ← List.drop_eq_getElem_cons below, List.take_append_drop]
  · intro other
    rw [List.set_eq_take_append_cons_drop, if_pos below]

theorem held_eq (present : world.objects[index]? = some packet) :
    world.held = (world.objects.take index).filterMap TcpPacket.refRecvBuf ++
      (packet.refRecvBuf.toList ++
        (world.objects.drop (index + 1)).filterMap TcpPacket.refRecvBuf) := by
  unfold held
  conv => lhs; rw [(objects_split present).1]
  rw [List.filterMap_append]
  cases ref : packet.refRecvBuf with
  | none => rw [List.filterMap_cons_none ref]; rfl
  | some entry => rw [List.filterMap_cons_some ref]; rfl

theorem held_put_eq (present : world.objects[index]? = some packet) (state : PacketState) :
    (world.put index state).held = (world.objects.take index).filterMap TcpPacket.refRecvBuf ++
      (state.packet.refRecvBuf.toList ++
        (world.objects.drop (index + 1)).filterMap TcpPacket.refRecvBuf) := by
  unfold held put
  simp only
  rw [(objects_split present).2, List.filterMap_append]
  cases ref : state.packet.refRecvBuf with
  | none => rw [List.filterMap_cons_none ref]; rfl
  | some entry => rw [List.filterMap_cons_some ref]; rfl

/-- An object's buffer is its own. -/
theorem Conserved.sound (conserved : world.Conserved codec)
    (present : world.objects[index]? = some packet) : (world.focus packet).Sound codec := by
  refine ⟨conserved.formed, ?_⟩
  intro entry holds
  have member : entry ∈ world.held := by
    rw [held_eq present, show packet.refRecvBuf = some entry from holds]
    simp
  refine ⟨(conserved.mem_iff entry).mp (Or.inr member), fun listed => ?_⟩
  exact (List.nodup_append.mp conserved.nodup).2.2 entry listed entry member rfl

/-- An operation of one object keeps every buffer where it can be found. -/
theorem Conserved.put (conserved : world.Conserved codec)
    (present : world.objects[index]? = some packet) {state : PacketState}
    (effect : PoolEffect codec (world.focus packet) state) :
    (world.put index state).Conserved codec := by
  refine ⟨effect.sized, ?_⟩
  have grown : world.recvPool.allocated ≤ state.recvPool.allocated := by
    rcases effect.counted with same | ⟨_, more⟩
    · exact Nat.le_of_eq same.symm
    · rw [more]
      exact Nat.le_add_right _ _
  have whole : List.range state.recvPool.allocated =
      List.range world.recvPool.allocated ++ List.range' world.recvPool.allocated
        (state.recvPool.allocated - world.recvPool.allocated) := by
    rw [List.range_eq_range', List.range_eq_range']
    have joined := List.range'_append_1 (s := 0) (m := world.recvPool.allocated)
      (n := state.recvPool.allocated - world.recvPool.allocated)
    rw [Nat.zero_add] at joined
    rw [joined]
    congr 1
    omega
  rw [List.perm_iff_count]
  intro entry
  have bag := List.perm_iff_count.mp effect.perm entry
  have before := List.perm_iff_count.mp conserved.perm entry
  rw [held_eq present] at before
  change List.count entry (state.recvPool.freeList ++ (world.put index state).held) =
    List.count entry (List.range state.recvPool.allocated)
  rw [held_put_eq present state, whole]
  simp only [List.count_append, focus] at bag before ⊢
  omega

/-- The effect of an operation on the number of buffers. -/
theorem Conserved.put_allocated (conserved : world.Conserved codec) (index : Nat)
    {state : PacketState}
    (effect : PoolEffect codec (world.focus packet) state) :
    (world.put index state).recvPool.allocated = world.recvPool.allocated ∨
      (world.put index state).recvPool.allocated = world.holders + codec.recvNumHint := by
  rcases effect.counted with same | ⟨empty, more⟩
  · exact Or.inl same
  · refine Or.inr (more.trans ?_)
    have count := conserved.count
    change world.recvPool.freeList = [] at empty
    rw [empty, List.length_nil, Nat.zero_add] at count
    rw [count]
    rfl

/-- One step: every buffer stays where it can be found, and new ones are
obtained only when all are held. -/
theorem Conserved.step {next : PoolWorld} {event : PoolEvent} (conserved : world.Conserved codec)
    (clean : world.clean event = true) (step : world.Step codec event next) :
    next.Conserved codec ∧ (next.recvPool.allocated = world.recvPool.allocated ∨
      next.recvPool.allocated = world.holders + codec.recvNumHint) := by
  unfold Step at step
  cases event with
  | create =>
      cases step
      refine ⟨⟨conserved.sized, ?_⟩, Or.inl rfl⟩
      have same : PoolWorld.held { world with objects := world.objects ++ [TcpPacket.initial] } =
          world.held := by
        simp [held, TcpPacket.initial]
      rw [same]
      exact conserved.perm
  | keep index pageState leading =>
      rcases Option.map_eq_some_iff.mp step with ⟨packet, present, rfl⟩
      have effect : PoolEffect codec (world.focus packet)
          (((world.focus packet).setLeading leading).setPageState pageState) :=
        .unmoved conserved.sized rfl rfl rfl
      exact ⟨conserved.put present effect, conserved.put_allocated index effect⟩
  | page index memory pBuf nLen =>
      rcases Option.map_eq_some_iff.mp step with ⟨packet, present, rfl⟩
      have closed : packet.recvPageLeading.pageStart = true ->
          packet.recvPageLeading.pageEnd = false -> packet.refRecvBuf = none := by
        intro first notLast
        simpa [PoolWorld.clean, present, first, notLast] using clean
      have effect := consumePacket_effect (conserved.sound present) memory pBuf nLen closed
      exact ⟨conserved.put present effect, conserved.put_allocated index effect⟩
  | clear index =>
      rcases Option.map_eq_some_iff.mp step with ⟨packet, present, rfl⟩
      have effect := (clear_effect (conserved.sound present)).1
      exact ⟨conserved.put present effect, conserved.put_allocated index effect⟩
  | destroy index =>
      rcases Option.map_eq_some_iff.mp step with ⟨packet, present, rfl⟩
      rcases clear_effect (conserved.sound present) with ⟨effect, nothing⟩
      have cleared := conserved.put present effect
      refine ⟨⟨cleared.sized, ?_⟩, conserved.put_allocated index effect⟩
      have same : PoolWorld.held { world.put index (world.focus packet).clear with
          objects := (world.put index (world.focus packet).clear).objects.eraseIdx index } =
          (world.put index (world.focus packet).clear).held := by
        rw [held_put_eq present, nothing]
        change List.filterMap TcpPacket.refRecvBuf
          ((world.objects.set index (world.focus packet).clear.packet).eraseIdx index) = _
        rw [List.eraseIdx_set_eq, List.eraseIdx_eq_take_drop_succ, List.filterMap_append]
        rfl
      change (_ ++ PoolWorld.held { world.put index (world.focus packet).clear with
        objects := (world.put index (world.focus packet).clear).objects.eraseIdx index }).Perm _
      rw [same]
      exact cleared.perm

/-- Any step, clean or not, leaves the buffers allocated. -/
theorem Step.allocated_le {next : PoolWorld} {event : PoolEvent}
    (step : world.Step codec event next) :
    world.recvPool.allocated ≤ next.recvPool.allocated := by
  unfold Step at step
  cases event with
  | create =>
      cases step
      exact Nat.le_refl _
  | keep index pageState leading =>
      rcases Option.map_eq_some_iff.mp step with ⟨packet, present, rfl⟩
      exact Nat.le_refl _
  | page index memory pBuf nLen =>
      rcases Option.map_eq_some_iff.mp step with ⟨packet, present, rfl⟩
      exact consumePacket_allocated_le codec (world.focus packet) memory pBuf nLen
  | clear index =>
      rcases Option.map_eq_some_iff.mp step with ⟨packet, present, rfl⟩
      exact Nat.le_of_eq (clear_allocated (world.focus packet)).symm
  | destroy index =>
      rcases Option.map_eq_some_iff.mp step with ⟨packet, present, rfl⟩
      exact Nat.le_of_eq (clear_allocated (world.focus packet)).symm

/-! ## The steps of a call -/

theorem put_present (present : world.objects[index]? = some packet) (state : PacketState) :
    (world.put index state).objects[index]? = some state.packet := by
  rcases List.getElem?_eq_some_iff.mp present with ⟨below, _⟩
  exact List.getElem?_set_self below

theorem put_put (world : PoolWorld) (index : Nat) (first second : PacketState) :
    (world.put index first).put index second = world.put index second := by
  unfold put
  rw [List.set_set]

/-- Bookkeeping of the object is a step. -/
theorem keep_step (present : world.objects[index]? = some packet) (state : PacketState)
    (pageState : FramePageState) (leading : PageLeading) :
    (world.put index state).Step codec (.keep index pageState leading)
      (world.put index ((state.setLeading leading).setPageState pageState)) := by
  unfold Step perform
  simp only [put_present present state, Option.map_some, put_put]
  rfl

theorem leading_step (present : world.objects[index]? = some packet) (state : PacketState)
    (leading : PageLeading) :
    (world.put index state).Step codec (.keep index state.packet.eRecvPageState leading)
      (world.put index (state.setLeading leading)) :=
  keep_step present state state.packet.eRecvPageState leading

theorem waiting_step (present : world.objects[index]? = some packet) (state : PacketState)
    (pageState : FramePageState) :
    (world.put index state).Step codec (.keep index pageState state.packet.recvPageLeading)
      (world.put index (state.setPageState pageState)) :=
  keep_step present state pageState state.packet.recvPageLeading

/-- A call of `ConsumePacket` is a step. -/
theorem page_step (codec : Codec) (present : world.objects[index]? = some packet) (state : PacketState)
    (memory : Memory UInt8) (pBuf nLen : Nat) :
    (world.put index state).Step codec (.page index memory pBuf nLen)
      (world.put index (consumePacket codec state memory pBuf nLen).state) := by
  unfold Step perform
  simp only [put_present present state, Option.map_some, put_put]
  rfl

/-- One pass of the loop of `ConsumeFramePage` is at most two steps. -/
theorem turn_run (present : world.objects[index]? = some packet) (memory : Memory UInt8)
    (nCapacity : Int) (cursor : FrameCursor) :
    Exists fun events => Run (Step codec) (world.put index cursor.state) events
      (world.put index (framePageTurn codec memory nCapacity cursor).result.state) := by
  cases pageState : cursor.state.packet.eRecvPageState with
  | receiveLeading =>
      simp only [framePageTurn, pageState]
      split
      · exact ⟨[], .nil _⟩
      · split
        · exact ⟨_, .single (leading_step present cursor.state _)⟩
        · split
          · exact ⟨_, .single (keep_step present cursor.state _ _)⟩
          · exact ⟨_, .single (keep_step present cursor.state _ _)⟩
  | receiveBody =>
      simp only [framePageTurn, pageState]
      split
      · exact ⟨[], .nil _⟩
      · split
        · exact ⟨_, .single (page_step codec present cursor.state memory _ _)⟩
        · have page := page_step codec present cursor.state memory
            (cursor.ptr + sizeOfFramePageLeading)
            cursor.state.packet.recvPageLeading.dataSize.toNat
          exact ⟨_, .cons page (.single (waiting_step present _ .receiveLeading))⟩
  | skip =>
      simp only [framePageTurn, pageState]
      split
      · exact ⟨_, .single (keep_step present cursor.state _ _)⟩
      · exact ⟨_, .single (leading_step present cursor.state _)⟩

/-- A call of `ConsumeFramePage` is a run of such steps. -/
theorem consumeFramePage_run (present : world.objects[index]? = some packet)
    (memory : Memory UInt8) (pBuf : Nat) (nLen nCapacity : Int) :
    Exists fun events => Run (Step codec) world events
      (world.put index
        (consumeFramePage codec (world.focus packet) memory pBuf nLen nCapacity).state) := by
  have start : world.put index (world.focus packet) = world := by
    rcases List.getElem?_eq_some_iff.mp present with ⟨below, same⟩
    unfold put focus
    rw [← same, List.set_getElem_self]
  refine (framePageLoop codec memory nCapacity).exec_invariant
    (fun cursor => Exists fun events => Run (Step codec) world events
      (world.put index cursor.state)) ?_ _ ⟨[], ?_⟩
  · rintro cursor ⟨before, run⟩
    rcases turn_run present memory nCapacity cursor with ⟨events, once⟩
    exact ⟨before ++ events, run.append once⟩
  · change Run (Step codec) world [] (world.put index (world.focus packet))
    rw [start]
    exact .nil world

/-! ## Whole runs -/

/-- `InitPacketBuffer` leaves its buffers in the free list. -/
theorem initial_conserved (codec : Codec) (uninitialised : Nat -> Memory UInt8)
    (sendPool : BufferPool) :
    (initial codec uninitialised sendPool).Conserved codec ∧
      (initial codec uninitialised sendPool).recvPool.allocated = codec.recvNumHint := by
  rcases BufferPool.packetBufferAlloc_spec
    (BufferPool.initial_wellFormed uninitialised codec.recvCapSize) codec.recvNumHint_pos with
      ⟨entry, taken, alloc, allocates⟩
  have pool : (initial codec uninitialised sendPool).recvPool = taken.packetBufferFree entry := by
    simp only [initial, BufferPool.initPacketBuffer, alloc]
  have count : taken.allocated = codec.recvNumHint := by
    rcases allocates.source with ⟨_, impossible⟩ | ⟨count, _⟩
    · cases impossible
    · rw [count]
      exact Nat.zero_add _
  refine ⟨⟨?_, ?_⟩, ?_⟩
  · rw [pool]
    exact allocates.formed.sized
  · rw [pool]
    have perm := allocates.perm
    change (entry :: taken.freeList).Perm ([] ++ List.range' 0 (taken.allocated - 0)) at perm
    rw [List.nil_append, Nat.sub_zero, ← List.range_eq_range'] at perm
    change ((entry :: taken.freeList) ++ []).Perm (List.range taken.allocated)
    rw [List.append_nil]
    exact perm
  · rw [pool]
    exact count

/-- An object refers to a buffer. -/
def Holds (world : PoolWorld) (index entry : Nat) : Prop :=
  Exists fun packet => world.objects[index]? = some packet ∧ packet.refRecvBuf = some entry

theorem Holds.mem {entry : Nat} (holds : world.Holds index entry) : entry ∈ world.held := by
  rcases holds with ⟨packet, present, ref⟩
  rw [held_eq present, ref]
  simp

theorem holds_of_mem {entry : Nat} (member : entry ∈ world.held) :
    Exists fun index => world.Holds index entry := by
  rcases List.mem_filterMap.mp member with ⟨packet, inside, ref⟩
  rcases List.mem_iff_getElem?.mp inside with ⟨index, present⟩
  exact ⟨index, packet, present, ref⟩

theorem Conserved.holds_lt (conserved : world.Conserved codec) {first second entry : Nat}
    (one : world.Holds first entry) (two : world.Holds second entry) : ¬ first < second := by
  intro less
  rcases one with ⟨packet, present, ref⟩
  rcases two with ⟨other, otherPresent, otherRef⟩
  have later : entry ∈ (world.objects.drop (first + 1)).filterMap TcpPacket.refRecvBuf := by
    refine List.mem_filterMap.mpr ⟨other, ?_, otherRef⟩
    apply List.mem_of_getElem? (i := second - (first + 1))
    rw [List.getElem?_drop, ← otherPresent]
    congr 1
    omega
  have unique := (List.nodup_append.mp conserved.nodup).2.1
  rw [held_eq present, ref] at unique
  exact (List.nodup_cons.mp (List.nodup_append.mp unique).2.1).1 later

/-- A buffer is with one object at most. -/
theorem Conserved.holds_unique (conserved : world.Conserved codec) {first second entry : Nat}
    (one : world.Holds first entry) (two : world.Holds second entry) : first = second := by
  have notLess := conserved.holds_lt one two
  have notMore := conserved.holds_lt two one
  omega

theorem CleanStep.split {next : PoolWorld} {event : PoolEvent}
    (once : world.CleanStep codec event next) :
    world.clean event = true ∧ world.Step codec event next := by
  unfold CleanStep at once
  split at once
  · rename_i clean
    exact ⟨clean, once⟩
  · cases once

/-- Along a run no more buffers are obtained than were ever held at once, but
for those of one allocation. -/
theorem run_allocated {last : PoolWorld} {events : List PoolEvent} (conserved : world.Conserved codec)
    (run : Run (CleanStep codec) world events last) (bound : Nat)
    (start : world.recvPool.allocated ≤ bound + codec.recvNumHint)
    (enough : peak codec world events ≤ bound) :
    last.Conserved codec ∧ last.recvPool.allocated ≤ bound + codec.recvNumHint := by
  induction run with
  | nil => exact ⟨conserved, start⟩
  | @cons state middle last event events once rest inductionHypothesis =>
      rcases once.split with ⟨clean, step⟩
      rcases conserved.step clean step with ⟨middleConserved, count⟩
      unfold Step at step
      simp only [peak, step] at enough
      refine inductionHypothesis middleConserved ?_ (by omega)
      omega

/-- A buffer that has been obtained is listed as free once or is with exactly one object,
and not both, and no other one is. -/
structure Accounted (world : PoolWorld) : Prop where
  placed : forall entry, entry < world.recvPool.allocated ->
    (world.recvPool.freeList.count entry = 1 ∧ forall index, ¬ world.Holds index entry) ∨
    (world.recvPool.freeList.count entry = 0 ∧ Exists fun index => world.Holds index entry ∧
      forall other, world.Holds other entry -> other = index)
  obtained : forall entry, entry ∈ world.recvPool.freeList ∨
    (Exists fun index => world.Holds index entry) -> entry < world.recvPool.allocated

theorem Conserved.accounted (conserved : world.Conserved codec) : world.Accounted := by
  have parts := List.nodup_append.mp conserved.nodup
  constructor
  · intro entry below
    by_cases listed : entry ∈ world.recvPool.freeList
    · refine Or.inl ⟨List.count_eq_one_of_mem parts.1 listed, fun index holds => ?_⟩
      exact parts.2.2 entry listed entry holds.mem rfl
    · rcases (conserved.mem_iff entry).mpr below with impossible | member
      · exact absurd impossible listed
      · rcases holds_of_mem member with ⟨index, holds⟩
        exact Or.inr ⟨List.count_eq_zero.mpr listed, index, holds,
          fun other same => conserved.holds_unique same holds⟩
  · rintro entry (listed | ⟨index, holds⟩)
    · exact (conserved.mem_iff entry).mp (Or.inl listed)
    · exact (conserved.mem_iff entry).mp (Or.inr holds.mem)

/-- What `InitPacketBuffer` obtains is there in every state of a run. -/
theorem recvNumHint_le_of_run {uninitialised : Nat -> Memory UInt8} {sendPool : BufferPool}
    {events : List PoolEvent} {last : PoolWorld}
    (run : Run (Step codec) (initial codec uninitialised sendPool) events last) :
    codec.recvNumHint ≤ last.recvPool.allocated :=
  run.invariant (fun state => codec.recvNumHint ≤ state.recvPool.allocated)
    (fun _ _ _ obtained step => Nat.le_trans obtained (Step.allocated_le step))
    (Nat.le_of_eq (initial_conserved codec uninitialised sendPool).2.symm)

/-- Along every run in which no page with only the start flag is given to an object that
is in the middle of a packet, every buffer is accounted for, and no more are obtained than
were ever with objects at the same time, beyond those that `InitPacketBuffer` obtains.
That is one for the inner class.  For the outer class it is 64, and as long as fewer than
63 objects have been in the middle of a packet at once there are more buffers, whatever
the run. -/
theorem pool_conserved (codec : Codec) (uninitialised : Nat -> Memory UInt8)
    (sendPool : BufferPool) {events : List PoolEvent} {world : PoolWorld}
    (run : Run (Step codec) (initial codec uninitialised sendPool) events world) :
    (Run (CleanStep codec) (initial codec uninitialised sendPool) events world ->
      world.Accounted ∧
      world.recvPool.allocated ≤
        peak codec (initial codec uninitialised sendPool) events + codec.recvNumHint ∧
      (codec.kind = .inner -> world.recvPool.allocated ≤
        peak codec (initial codec uninitialised sendPool) events + 1)) ∧
    (codec.kind = .outer -> peak codec (initial codec uninitialised sendPool) events < 63 ->
      ¬ world.recvPool.allocated ≤
        peak codec (initial codec uninitialised sendPool) events + 1) := by
  constructor
  · intro clean
    rcases initial_conserved codec uninitialised sendPool with ⟨start, count⟩
    rcases run_allocated start clean _ (by rw [count]; exact Nat.le_add_left _ _)
      (Nat.le_refl _) with ⟨conserved, bound⟩
    refine ⟨conserved.accounted, bound, fun inner => ?_⟩
    rw [Codec.recvNumHint_inner inner] at bound
    exact bound
  · intro outer few
    have obtained := recvNumHint_le_of_run run
    rw [Codec.recvNumHint_outer outer] at obtained
    omega

/-- Two first pages for one object of the inner class. -/
def twoFirstPages : List PoolEvent :=
  [.create, .keep 0 .receiveBody ⟨true, false, 1⟩, .page 0 (fun _ => 0) 0 1,
    .page 0 (fun _ => 0) 0 1]

/-- A second first page loses the buffer of the first one, and the outer class has 64
buffers before there is an object. -/
theorem buffer_lost :
    (¬ forall events world,
      Run (Step ⟨.inner, .pointer32⟩)
        (initial ⟨.inner, .pointer32⟩ (fun _ _ => 0) (.initial fun _ _ => 0)) events world ->
      world.Accounted) ∧
    ¬ forall events world,
      Run (Step ⟨.outer, .pointer32⟩)
        (initial ⟨.outer, .pointer32⟩ (fun _ _ => 0) (.initial fun _ _ => 0)) events world ->
      world.recvPool.allocated ≤ peak ⟨.outer, .pointer32⟩
        (initial ⟨.outer, .pointer32⟩ (fun _ _ => 0) (.initial fun _ _ => 0)) events + 1 := by
  refine ⟨fun accounted => ?_, fun bounded => absurd (bounded [] _ (.nil _)) (by decide)⟩
  have run : Exists fun world : PoolWorld =>
      Run (Step ⟨.inner, .pointer32⟩)
        (initial ⟨.inner, .pointer32⟩ (fun _ _ => 0) (.initial fun _ _ => 0)) twoFirstPages world ∧
      world.recvPool.allocated = 2 ∧ world.recvPool.freeList = [] ∧ world.held = [1] :=
    ⟨_, Run.of_foldlM twoFirstPages rfl, rfl, rfl, rfl⟩
  rcases run with ⟨world, run, allocated, free, held⟩
  rcases (accounted twoFirstPages world run).placed 0 (by rw [allocated]; decide) with
    ⟨listed, _⟩ | ⟨_, index, holds, _⟩
  · rw [free] at listed
    exact absurd listed (by decide)
  · have member := holds.mem
    rw [held] at member
    exact absurd member (by decide)

/-- A first page and a last page for one object, and a first page for another. -/
def cleanPages : List PoolEvent :=
  [.create, .keep 0 .receiveBody ⟨true, false, 1⟩, .page 0 (fun _ => 1) 0 17, .create,
    .keep 1 .receiveBody ⟨true, false, 1⟩, .page 1 (fun _ => 1) 0 1,
    .keep 0 .receiveBody ⟨false, true, 1⟩, .page 0 (fun _ => 1) 0 17]

theorem pool_conserved_two_objects :
    (Exists fun world : PoolWorld =>
      Run (CleanStep ⟨.inner, .pointer32⟩)
        (initial ⟨.inner, .pointer32⟩ (fun _ _ => 0) (.initial fun _ _ => 0)) cleanPages world ∧
      world.recvPool.freeList = [0] ∧ world.held = [1] ∧
      world.recvPool.allocated ≤ peak ⟨.inner, .pointer32⟩
        (initial ⟨.inner, .pointer32⟩ (fun _ _ => 0) (.initial fun _ _ => 0)) cleanPages + 1) ∧
    Exists fun world : PoolWorld =>
      Run (Step ⟨.outer, .pointer32⟩)
        (initial ⟨.outer, .pointer32⟩ (fun _ _ => 0) (.initial fun _ _ => 0)) cleanPages world ∧
      world.held = [62] ∧
      ¬ world.recvPool.allocated ≤ peak ⟨.outer, .pointer32⟩
        (initial ⟨.outer, .pointer32⟩ (fun _ _ => 0) (.initial fun _ _ => 0)) cleanPages + 1 := by
  constructor
  · have run : Exists fun world : PoolWorld =>
        Run (CleanStep ⟨.inner, .pointer32⟩)
          (initial ⟨.inner, .pointer32⟩ (fun _ _ => 0) (.initial fun _ _ => 0)) cleanPages world ∧
        world.recvPool.freeList = [0] ∧ world.held = [1] :=
      ⟨_, Run.of_foldlM cleanPages rfl, rfl, rfl⟩
    rcases run with ⟨world, run, free, held⟩
    have steps := run.mono fun _ _ _ once => once.split.2
    exact ⟨world, run, free, held, ((pool_conserved ⟨.inner, .pointer32⟩ (fun _ _ => 0)
      (.initial fun _ _ => 0) steps).1 run).2.2 rfl⟩
  · have run : Exists fun world : PoolWorld =>
        Run (Step ⟨.outer, .pointer32⟩)
          (initial ⟨.outer, .pointer32⟩ (fun _ _ => 0) (.initial fun _ _ => 0)) cleanPages world ∧
        world.held = [62] :=
      ⟨_, Run.of_foldlM cleanPages rfl, rfl⟩
    rcases run with ⟨world, run, held⟩
    exact ⟨world, run, held, (pool_conserved ⟨.outer, .pointer32⟩ (fun _ _ => 0)
      (.initial fun _ _ => 0) run).2 rfl (by decide)⟩

end PoolWorld
end NetSystem
