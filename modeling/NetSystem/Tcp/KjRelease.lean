import NetSystem.Tcp.KjCounting
import NetSystem.Tcp.KjRegular

namespace NetSystem

/-!
# A deleted connection is not used again

`RecyclerPop` tests that a connection is disposed and flushed and that no
command and no callback is on its way.  A function that `taskFailed` has handed
to `ScheduleEvalLaterFunc` is counted nowhere, so the tests do not see it.  As
long as `Recycle` meets no connection with such a function, and the counters
have not gone round, a deleted connection is referred to by nothing.
-/

namespace ConnView

/-- Whether `Recycle` can delete the connection only when nothing refers to
it. -/
def ReleasedIdle (view : ConnView) (event : WorldEvent) : Prop :=
  event = .recycle -> view.recycled = true -> view.conn.flags.SafeToRelease ->
    view.deferred = 0 ∧ view.pendingCmds.length < 2 ^ 32 ∧ view.callbacks.length < 2 ^ 32

/-- A command for a connection that does not block is counted. -/
theorem counted_of_fits {client : Bool} {cmd : NetCmd} (fits : cmd.fits client = true)
    (plain : cmd.blocking = false) : cmd.counted.isSome = true := by
  cases cmd <;> first | rfl | cases fits | cases plain

theorem pendingCmds_of_clean {view : ConnView} (counted : view.Counted) (regular : view.Regular)
    (few : view.pendingCmds.length < 2 ^ 32)
    (unblocked : forall cmd, cmd ∈ view.pendingCmds -> cmd.blocking = false)
    (clean : view.conn.flags.isFrontEndClean = true) : view.pendingCmds = [] := by
  have fewer : view.countedCmds < 2 ^ 32 := Nat.lt_of_le_of_lt List.countP_le_length few
  have none_ := (counter_eq_iff _ fewer counted.cmds).mp clean
  apply List.eq_nil_iff_forall_not_mem.mpr
  intro cmd member
  exact List.countP_eq_zero.mp none_ cmd member
    (counted_of_fits (regular.cmds cmd member) (unblocked cmd member))

/-- What a deleted connection leaves behind: nothing. -/
structure Sound (view : ConnView) : Prop where
  counted : view.Counted
  regular : view.Regular
  absent : view.created = false -> view.Untouched
  released : view.deleted = true -> view.created = true ∧ view.Untouched

theorem initial_sound : initial.Sound where
  counted := ⟨rfl, rfl⟩
  regular := .initial
  absent := fun _ => initial_untouched
  released := by
    intro impossible
    cases impossible

/-- `Recycle` deletes a connection that nothing refers to. -/
theorem Sound.deletes {view : ConnView} (sound : view.Sound)
    (idle : view.ReleasedIdle .recycle) (recycled : view.recycled = true) (rests : view.rests = [])
    (unblocked : forall cmd, cmd ∈ view.pendingCmds -> cmd.blocking = false)
    (safe : view.conn.flags.SafeToRelease) :
    Untouched { view with recycled := false, deleted := true } := by
  rcases idle rfl recycled safe with ⟨deferred, fewCmds, fewCallbacks⟩
  rcases safe with ⟨_, backClean, frontClean, disposed, _⟩
  have noCmds := pendingCmds_of_clean sound.counted sound.regular fewCmds unblocked frontClean
  have noCallbacks := (counter_eq_iff _ fewCallbacks sound.counted.callbacks).mp backClean
  rcases sound.regular.conn.disposed disposed with ⟨connecting, reading, timer⟩
  rcases sound.regular.recycled recycled with ⟨isolated, held⟩
  rcases List.append_eq_nil_iff.mp noCmds with ⟨executing, todo⟩
  exact ⟨Option.toList_eq_nil_iff.mp executing, todo, List.length_eq_zero_iff.mp noCallbacks, rests,
    deferred, connecting, reading, timer, isolated, held, rfl⟩

theorem Sound.step {ref : ConnRef} {view next : ConnView} {event : WorldEvent} (sound : view.Sound)
    (idle : view.ReleasedIdle event) (step : ConnStep ref view event next) : next.Sound := by
  refine ⟨sound.counted.step step, sound.regular.step step, ?_, ?_⟩
  · intro still
    have absent : view.created = false := by
      apply Bool.eq_false_iff.mpr
      intro created
      exact absurd (still.symm.trans (created_of_step step created)) Bool.false_ne_true
    refine ((sound.absent absent).step ?_ step (still.trans absent.symm)).1
    intro live
    exact absurd (absent.symm.trans live.1) Bool.false_ne_true
  · intro deleted
    rcases life_of_step step with ⟨created_eq, deleted_eq⟩ | ⟨absent, _, born⟩ |
      ⟨rfl, recycled, rests, unblocked, safe, rfl⟩
    · have before := deleted_eq.symm.trans deleted
      rcases sound.released before with ⟨created, untouched⟩
      refine ⟨created_eq.trans created, (untouched.step ?_ step created_eq).1⟩
      intro live
      exact absurd (live.2.symm.trans before) Bool.false_ne_true
    · have created := (sound.released (born.life.2.symm.trans deleted)).1
      exact absurd (absent.symm.trans created) Bool.false_ne_true
    · refine ⟨?_, sound.deletes idle recycled rests unblocked safe⟩
      apply Bool.not_eq_false _ |>.mp
      intro absent
      exact absurd ((sound.absent absent).recycled.symm.trans recycled) Bool.false_ne_true

end ConnView

namespace KjWorld

/-- The steps that use a connection object: a callback about it, what is left of
a call on it, a command for it or for the server it is registered at, the result
callback of a command, the function of a failed task, a task, and the loops of
the manager.  The calls of the user are on connections that exist. -/
inductive Uses (world : KjWorld) (ref : ConnRef) : WorldEvent -> Prop
  | callback (workCb : TrunkCb) (queue : List TrunkCb) (first : world.trunkQueue = workCb :: queue)
      (mine : workCb.conn = some ref) : Uses world ref .runCallback
  | rest (rest : FrontRest) (stack : List FrontRest) (first : world.frontStack = rest :: stack)
      (mine : rest.conn = ref) : Uses world ref .handlersReturn
  | command (cmd : NetCmd) (queue : List NetCmd) (order : List ConnEntry)
      (first : world.workQueue = cmd :: queue) (mine : cmd.conn = some ref) :
      Uses world ref (.execute order)
  | closing (server : Nat) (queue : List NetCmd) (order : List ConnEntry)
      (first : world.workQueue = .closeTcpServer server :: queue)
      (held : ref ∈ (world.manager.clientsOf server).values) : Uses world ref (.execute order)
  | result (cmd : NetCmd) (executing : world.executing = some cmd) (mine : cmd.conn = some ref) :
      Uses world ref .resultCallback
  | deferred (scheduled : ref ∈ world.deferred) : Uses world ref (.evalLater ref)
  | linkUp (connecting : (world.conn ref).connecting = true) : Uses world ref (.linkUp ref)
  | connectFailed (connecting : (world.conn ref).connecting = true) :
      Uses world ref (.connectFailed ref)
  | received (body : PacketBody) (reading : (world.conn ref).reading = true) :
      Uses world ref (.received ref body)
  | readFailed (reading : (world.conn ref).reading = true) : Uses world ref (.readFailed ref)
  | timerFired (timer : (world.conn ref).timer = true) : Uses world ref (.timerFired ref)
  | releaseAllClients (server : Nat) (order : List ConnEntry)
      (held : ref ∈ (world.manager.clientsOf server).values) :
      Uses world ref (.releaseAllClients server order)
  | releaseAllIsolateds (order : List ConnEntry) (isolated : ref ∈ world.manager.isolateds) :
      Uses world ref (.releaseAllIsolateds order)
  | recycle (recycled : ref ∈ world.manager.vRecycler) : Uses world ref .recycle

/-- `Recycle` meets no connection that passes its tests although a function of
`taskFailed` is scheduled for it, or although 2^32 messages are on their way. -/
def ReleasesIdle (world : KjWorld) (event : WorldEvent) : Prop :=
  event = .recycle -> forall ref, ref ∈ world.manager.vRecycler ->
    (world.manager.flags ref).SafeToRelease ->
    ref ∉ world.deferred ∧
      (world.pendingCmds.filter fun cmd => cmd.conn == some ref).length < 2 ^ 32 ∧
      (world.trunkQueue.filter fun workCb => workCb.conn == some ref).length < 2 ^ 32

instance (world : KjWorld) (event : WorldEvent) : Decidable (world.ReleasesIdle event) :=
  inferInstanceAs (Decidable (_ -> _))

variable {world : KjWorld}

theorem releasedIdle_of_releasesIdle {event : WorldEvent} (idle : world.ReleasesIdle event)
    (ref : ConnRef) : (world.view ref).ReleasedIdle event := by
  intro recycles recycled safe
  rcases idle recycles ref (of_decide_eq_true recycled) safe with ⟨unscheduled, fewCmds, fewCallbacks⟩
  refine ⟨List.count_eq_zero.mpr unscheduled, ?_, fewCallbacks⟩
  rw [pendingCmds_view]
  exact fewCmds

theorem not_uses_of_untouched {ref : ConnRef} (untouched : (world.view ref).Untouched)
    (event : WorldEvent) : ¬ world.Uses ref event := by
  intro uses
  cases uses with
  | callback workCb queue first mine =>
      refine List.filter_eq_nil_iff.mp untouched.callbacks workCb ?_ (beq_iff_eq.mpr mine)
      rw [first]
      exact List.mem_cons_self ..
  | rest rest stack first mine =>
      refine List.filter_eq_nil_iff.mp untouched.rests rest ?_ (beq_iff_eq.mpr mine)
      rw [first]
      exact List.mem_cons_self ..
  | command cmd queue order first mine =>
      refine List.filter_eq_nil_iff.mp untouched.todo cmd ?_ (beq_iff_eq.mpr mine)
      rw [first]
      exact List.mem_cons_self ..
  | closing server queue order first held => exact of_decide_eq_false (untouched.held server) held
  | result cmd executing mine =>
      have idle : (world.executing.filter fun cmd => cmd.conn == some ref) = none :=
        untouched.executing
      rw [executing, Option.filter_some, mine, beq_self_eq_true, if_pos rfl] at idle
      cases idle
  | deferred scheduled => exact List.count_eq_zero.mp untouched.deferred scheduled
  | linkUp connecting =>
      exact absurd (untouched.connecting.symm.trans connecting) Bool.false_ne_true
  | connectFailed connecting =>
      exact absurd (untouched.connecting.symm.trans connecting) Bool.false_ne_true
  | received body reading => exact absurd (untouched.reading.symm.trans reading) Bool.false_ne_true
  | readFailed reading => exact absurd (untouched.reading.symm.trans reading) Bool.false_ne_true
  | timerFired timer => exact absurd (untouched.timer.symm.trans timer) Bool.false_ne_true
  | releaseAllClients server order held => exact of_decide_eq_false (untouched.held server) held
  | releaseAllIsolateds order isolated => exact of_decide_eq_false untouched.isolated isolated
  | recycle recycled => exact of_decide_eq_false untouched.recycled recycled

/-- In every interleaving in which `Recycle` meets no connection with a pending
function of `taskFailed`, no step uses a connection that has been deleted. -/
theorem deleted_never_used {gate : Bool} {events : List WorldEvent}
    (run : Run (fun state event next => state.Step event next ∧ state.ReleasesIdle event)
      (initial gate) events world)
    {ref : ConnRef} (deleted : world.manager.Deleted ref) (event : WorldEvent) :
    ¬ world.Uses ref event := by
  have sound := (view_invariant (fun view => view.Sound)
    (fun _ _ _ kept idle step => kept.step idle step) (initial_valid gate) ConnView.initial_sound
    (run.mono fun state event next step =>
      ⟨step.1, releasedIdle_of_releasesIdle step.2 ref⟩)).2
  exact not_uses_of_untouched (sound.released (decide_eq_true deleted)).2 event

/-- A client is accepted and confirmed, and the front end disconnects it. -/
def clientGone : List WorldEvent :=
  [.openTcpServer 1, .execute [], .resultCallback, .accept 1 7, .runCallback, .execute [],
    .resultCallback, .disconnect 0, .handlersReturn, .execute [], .resultCallback, .recycle]

/-- The same, but the read loop of the client fails before the disconnect. -/
def clientFailing : List WorldEvent :=
  [.openTcpServer 1, .execute [], .resultCallback, .accept 1 7, .runCallback, .execute [],
    .resultCallback, .readFailed 0, .disconnect 0, .handlersReturn, .execute [], .resultCallback,
    .recycle]

theorem deleted_never_used_gone :
    (after false clientGone).manager.Deleted 0 ∧
      forall event, ¬ (after false clientGone).Uses 0 event :=
  ⟨by decide, deleted_never_used (run_after_of_allowed ReleasesIdle (by decide)) (by decide)⟩

/-- The function that `taskFailed` has scheduled uses the connection after it
has been deleted. -/
theorem deferred_uses_deleted :
    Exists fun world => Run Step (initial false) clientFailing world ∧ world.manager.Deleted 0 ∧
      world.Uses 0 (.evalLater 0) ∧ (world.perform (.evalLater 0)).isSome = true :=
  ⟨after false clientFailing, run_after (by decide), by decide, .deferred (by decide), by decide⟩

end KjWorld
end NetSystem
