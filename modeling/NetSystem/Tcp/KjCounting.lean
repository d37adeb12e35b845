import NetSystem.Tcp.KjSteps

namespace NetSystem

/-!
# The counters of a connection

`_frontEndProduceNum` is ahead of `_backEndConsumeNum` by the number of counted
commands whose result callback has not run, and `_backEndProduceNum` is ahead
of `_frontEndConsumeNum` by the number of callbacks that have not been started.
The counters are 32 bits wide, so the tests for equality are exact as long as
fewer than 2^32 messages are on their way.
-/

namespace ConnView

/-- The number of commands on their way that are counted. -/
def countedCmds (view : ConnView) : Nat := view.pendingCmds.countP fun cmd => cmd.counted.isSome

/-- The counters agree with what is on its way. -/
structure Counted (view : ConnView) : Prop where
  cmds : view.conn.flags.frontEndProduceNum =
    view.conn.flags.backEndConsumeNum + UInt32.ofNat view.countedCmds
  callbacks : view.conn.flags.backEndProduceNum =
    view.conn.flags.frontEndConsumeNum + UInt32.ofNat view.callbacks.length

namespace Counted

variable {ref : ConnRef} {view next : ConnView}

theorem of_same (counted : view.Counted) (counters : next.conn.counters = view.conn.counters)
    (cmds : next.pendingCmds = view.pendingCmds) (callbacks : next.callbacks = view.callbacks) :
    next.Counted := by
  have cmdCounters := congrArg Prod.fst counters
  have cbCounters := congrArg Prod.snd counters
  constructor
  · unfold countedCmds
    rw [show next.conn.flags.frontEndProduceNum = _ from congrArg Prod.fst cmdCounters,
      show next.conn.flags.backEndConsumeNum = _ from congrArg Prod.snd cmdCounters, cmds]
    exact counted.cmds
  · rw [show next.conn.flags.backEndProduceNum = _ from congrArg Prod.fst cbCounters,
      show next.conn.flags.frontEndConsumeNum = _ from congrArg Prod.snd cbCounters, callbacks]
    exact counted.callbacks

theorem commit (counted : view.Counted) (cmd : NetCmd) : (view.commit cmd).Counted := by
  refine ⟨?_, counted.callbacks⟩
  have more : (view.commit cmd).countedCmds =
      view.countedCmds + if cmd.counted.isSome then 1 else 0 := by
    unfold countedCmds pendingCmds
    change (view.executing.toList ++ (view.todo ++ [cmd])).countP _ = _
    rw [← List.append_assoc, List.countP_append, List.countP_singleton]
  rw [more, UInt32.ofNat_add, ← UInt32.add_assoc]
  change view.conn.flags.frontEndProduceNum + _ = view.conn.flags.backEndConsumeNum + _ + _
  rw [counted.cmds]
  split <;> rfl

theorem post (counted : view.Counted) (workCb : TrunkCb) : (view.post workCb).Counted := by
  refine ⟨counted.cmds, ?_⟩
  change view.conn.flags.backEndProduceNum + 1 =
    view.conn.flags.frontEndConsumeNum + UInt32.ofNat (view.callbacks ++ [workCb]).length
  rw [List.length_append, UInt32.ofNat_add, ← UInt32.add_assoc, counted.callbacks]
  rfl

theorem postLinks (counted : view.Counted) (links : List LinkCb) :
    (view.postLinks ref links).Counted := by
  induction links generalizing view with
  | nil => exact counted
  | cons link links inductionHypothesis => exact inductionHypothesis (counted.post _)

theorem start (counted : view.Counted) {workCb : TrunkCb} {callbacks : List TrunkCb}
    (first : view.callbacks = workCb :: callbacks) : (view.start callbacks).Counted := by
  refine ⟨counted.cmds, ?_⟩
  change view.conn.flags.backEndProduceNum =
    view.conn.flags.frontEndConsumeNum + 1 + UInt32.ofNat callbacks.length
  rw [counted.callbacks, first, List.length_cons, Nat.add_comm, UInt32.ofNat_add,
    ← UInt32.add_assoc]
  rfl

/-- The result callback of a command has run. -/
theorem finished (counted : view.Counted) {cmd : NetCmd} (executing : view.executing = some cmd) :
    Counted { view with
      conn.flags.backEndConsumeNum :=
        view.conn.flags.backEndConsumeNum + if cmd.counted.isSome then 1 else 0
      executing := none } := by
  refine ⟨?_, counted.callbacks⟩
  have before := counted.cmds
  unfold countedCmds pendingCmds at before ⊢
  rw [executing, Option.toList_some, List.singleton_append, List.countP_cons, Nat.add_comm,
    UInt32.ofNat_add, ← UInt32.add_assoc] at before
  rw [before]
  dsimp only [Option.toList_none, List.nil_append]
  split <;> rfl

/-- The connection has been told of something. -/
theorem tell (counted : view.Counted) {result : KjConn × List ConnNotice}
    (same : KjConn.SameObject view.conn result.1) : (view.tell ref result).Counted :=
  counted.of_same same.counters rfl rfl

/-- A connection that nothing refers to and that has just been constructed. -/
theorem constructed (untouched : view.Untouched) (cmds : next.pendingCmds = view.pendingCmds)
    (callbacks : next.callbacks = view.callbacks)
    (new : next.conn.counters = ((0, 0), (0, 0))) : next.Counted := by
  have fresh : ConnView.initial.Counted := ⟨rfl, rfl⟩
  refine fresh.of_same new (cmds.trans untouched.pendingCmds) ?_
  rw [callbacks, untouched.callbacks]
  rfl

end Counted

theorem releaseIsolated_counted {ref : ConnRef} {view : ConnView} (counted : view.Counted) :
    (view.releaseIsolated ref).Counted := by
  unfold releaseIsolated
  dsimp only
  split
  · exact ((counted.tell (KjConn.stopRunning_sameObject _)).commit _).commit _
  · exact counted.commit _

end ConnView

variable {ref : ConnRef} {view next : ConnView}

theorem RestStep.counted {rest : FrontRest} (runs : RestStep ref view rest next)
    (counted : view.Counted) : next.Counted := by
  cases runs with
  | removed => exact (counted.commit _).of_same rfl rfl rfl
  | absent => exact counted
  | released => exact counted.commit _
  | delayed => exact counted.commit _

theorem CmdStep.counted {cmd : NetCmd} (runs : CmdStep ref view cmd next)
    (counted : view.Counted) : next.Counted := by
  cases runs with
  | disposed => exact counted.of_same (KjConn.disposeConnection_sameObject _).counters rfl rfl
  | posted => exact counted
  | confirmed => exact counted.of_same (KjConn.confirmClientIsReady_sameObject _ _).counters rfl rfl
  | notReady => exact counted
  | connected _ _ done => exact counted.of_same (KjConn.connect_sameObject done).counters rfl rfl
  | delayed _ _ done =>
      exact counted.of_same (KjConn.delayReconnect_sameObject done).counters rfl rfl

theorem CbStep.counted {workCb : TrunkCb} (runs : CbStep ref view workCb next)
    (counted : view.Counted) : next.Counted := by
  cases runs with
  | clientLost =>
      have told : (view.tell ref view.conn.onDisconnect).Counted :=
        counted.tell (KjConn.onDisconnect_sameObject _)
      exact told.of_same rfl rfl rfl
  | clientGone _ _ _ removes => exact removes.counted counted
  | linkReported => exact counted.tell (KjConn.onConnect_sameObject _)
  | linkLost => exact counted.tell (KjConn.onDisconnect_sameObject _)
  | packet => exact counted.of_same rfl rfl rfl
  | innerPacket => exact counted.of_same rfl rfl rfl

/-- Every step of the factory keeps count. -/
theorem ConnView.Counted.step {event : WorldEvent} (counted : view.Counted)
    (step : ConnStep ref view event next) : next.Counted := by
  cases step with
  | other => exact counted
  | displaced => exact counted.of_same rfl rfl rfl
  | accepted kind server streamptr _ untouched =>
      apply ConnView.Counted.tell _ (KjConn.onConnect_sameObject _)
      apply ConnView.Counted.commit
      exact .constructed untouched rfl rfl rfl
  | isolatedCreated _ kind _ _ untouched => exact .constructed untouched rfl rfl rfl
  | connectCommitted => exact counted.commit _
  | sent => exact counted.commit _
  | disconnectIgnored => exact counted
  | stopped =>
      have told : (view.tell ref view.conn.stopRunning).Counted :=
        counted.tell (KjConn.stopRunning_sameObject _)
      exact told.of_same rfl rfl rfl
  | stoppedUnconnected _ _ _ _ _ releases =>
      exact releases.counted
        (counted.of_same (KjConn.stopRunning_sameObject _).counters rfl rfl)
  | reopenIgnored => exact counted
  | reopened => exact counted.commit _
  | returned _ _ _ _ runs => exact runs.counted (counted.of_same rfl rfl rfl)
  | called _ _ _ first _ runs => exact runs.counted (counted.start first)
  | clientReleased => exact (counted.commit _).of_same rfl rfl rfl
  | isolatedReleased =>
      have released : (view.releaseIsolated ref).Counted :=
        ConnView.releaseIsolated_counted counted
      exact released.of_same rfl rfl rfl
  | deleted => exact counted.of_same rfl rfl rfl
  | executed _ _ _ _ idle first runs =>
      refine runs.counted (counted.of_same rfl ?_ rfl)
      rw [ConnView.pendingCmds, ConnView.pendingCmds, idle, first]
      rfl
  | serverClosed =>
      have disposed : ConnView.Counted { view with conn := view.conn.disposeConnection } :=
        counted.of_same (KjConn.disposeConnection_sameObject _).counters rfl rfl
      exact (disposed.post _).of_same rfl rfl rfl
  | closedElsewhere => exact counted.of_same rfl rfl rfl
  | finished _ executing => exact counted.finished executing
  | clientFailed =>
      apply ConnView.Counted.post
      exact counted.of_same ((KjConn.flushStream_sameObject _).trans
        (KjConn.disposeConnection_sameObject _)).counters rfl rfl
  | isolatedFailed _ _ _ _ error =>
      apply ConnView.Counted.postLinks
      exact counted.of_same ((KjConn.flushStream_sameObject _).trans
        (KjConn.onIsolatedError_sameObject error)).counters rfl rfl
  | linkUp =>
      apply ConnView.Counted.postLinks
      exact counted.of_same (KjConn.linkUp_sameObject _).counters rfl rfl
  | connectFailed => exact counted.of_same rfl rfl rfl
  | received => exact counted.post _
  | readFailed => exact counted.of_same rfl rfl rfl
  | timerFired _ _ _ fired =>
      exact counted.of_same (KjConn.timerFired_sameObject fired).counters rfl rfl

/-! ## The tests of the recycler -/

/-- A counter that is ahead by fewer than 2^32 is equal exactly when it is not
ahead. -/
theorem counter_eq_iff (ahead : UInt32) {behind : UInt32} {number : Nat} (few : number < 2 ^ 32)
    (counts : ahead = behind + UInt32.ofNat number) : (ahead == behind) = true ↔ number = 0 := by
  rw [beq_iff_eq, counts]
  constructor
  · intro same
    have none_ : UInt32.ofNat number = 0 := UInt32.add_eq_left.mp same
    have value := congrArg UInt32.toNat none_
    rw [UInt32.toNat_ofNat', Nat.mod_eq_of_lt few] at value
    exact value
  · rintro rfl
    exact UInt32.add_zero behind

namespace KjWorld

variable {world : KjWorld}

theorem pendingCmds_view (ref : ConnRef) :
    (world.view ref).pendingCmds = world.pendingCmds.filter fun cmd => cmd.conn == some ref := by
  unfold ConnView.pendingCmds pendingCmds
  rw [List.filter_append]
  congr 1
  change (world.executing.filter _).toList = _
  cases world.executing with
  | none => rfl
  | some cmd =>
      rw [Option.filter_some, Option.toList_some, List.filter_singleton]
      cases cmd.conn == some ref <;> rfl

theorem counted_of_conn {cmd : NetCmd} {ref : ConnRef} (plain : cmd.blocking = false)
    (mine : cmd.conn = some ref) : cmd.counted = some ref := by
  cases cmd <;> first | exact mine | cases plain

theorem countedCmds_eq_zero (ref : ConnRef) :
    (world.view ref).countedCmds = 0 ↔ forall cmd, cmd ∈ world.pendingCmds ->
      cmd.counted ≠ some ref := by
  unfold ConnView.countedCmds
  rw [pendingCmds_view, List.countP_eq_zero]
  constructor
  · intro none_ cmd member counted
    refine none_ cmd (List.mem_filter.mpr ⟨member, ?_⟩) ?_
    · exact beq_iff_eq.mpr (counted_conn counted)
    · rw [counted]
      rfl
  · intro none_ cmd member counted
    rcases List.mem_filter.mp member with ⟨pending, mine⟩
    rcases Option.isSome_iff_exists.mp counted with ⟨conn, counts⟩
    have same : conn = ref :=
      Option.some.inj ((counted_conn counts).symm.trans (beq_iff_eq.mp mine))
    subst same
    exact none_ cmd pending counts

/-- The number of counted commands is at most that of all commands for the
connection. -/
theorem countedCmds_le (ref : ConnRef) : (world.view ref).countedCmds ≤
    (world.pendingCmds.filter fun cmd => cmd.conn == some ref).length := by
  unfold ConnView.countedCmds
  rw [pendingCmds_view]
  exact List.countP_le_length

theorem callbacks_eq_nil (ref : ConnRef) : (world.view ref).callbacks.length = 0 ↔
    forall workCb, workCb ∈ world.trunkQueue -> workCb.conn ≠ some ref := by
  rw [List.length_eq_zero_iff]
  change world.trunkQueue.filter _ = [] ↔ _
  rw [List.filter_eq_nil_iff]
  constructor
  · intro none_ workCb member mine
    exact none_ workCb member (beq_iff_eq.mpr mine)
  · intro none_ workCb member mine
    exact none_ workCb member (beq_iff_eq.mp mine)

/-- In every interleaving of the two threads, with fewer than 2^32 messages for
the connection on their way, `IsFrontEndClean` says exactly that no command of
the four kinds for the connection is queued or executing, and `IsBackEndClean`
that no callback about it is queued.  While the front end does not wait for a
blocking command, `IsFrontEndClean` says that no command for it is left at
all. -/
theorem clean_iff_nothing_pending {gate : Bool} {events : List WorldEvent}
    (run : Run Step (initial gate) events world) (ref : ConnRef)
    (fewCmds : (world.pendingCmds.filter fun cmd => cmd.conn == some ref).length < 2 ^ 32)
    (fewCallbacks :
      (world.trunkQueue.filter fun workCb => workCb.conn == some ref).length < 2 ^ 32) :
    ((world.manager.flags ref).isFrontEndClean = true ↔
      forall cmd, cmd ∈ world.pendingCmds -> cmd.counted ≠ some ref) ∧
    (¬ world.Blocked -> ((world.manager.flags ref).isFrontEndClean = true ↔
      forall cmd, cmd ∈ world.pendingCmds -> cmd.conn ≠ some ref)) ∧
    ((world.manager.flags ref).isBackEndClean = true ↔
      forall workCb, workCb ∈ world.trunkQueue -> workCb.conn ≠ some ref) := by
  have counted : (world.view ref).Counted :=
    (view_invariant_of_run (fun view => view.Counted) (fun _ _ _ kept step => kept.step step)
      ⟨rfl, rfl⟩ run).2
  have front : (world.manager.flags ref).isFrontEndClean = true ↔
      forall cmd, cmd ∈ world.pendingCmds -> cmd.counted ≠ some ref := by
    rw [← countedCmds_eq_zero]
    exact counter_eq_iff _ (Nat.lt_of_le_of_lt (countedCmds_le ref) fewCmds) counted.cmds
  refine ⟨front, ?_, ?_⟩
  · intro unblocked
    rw [front]
    constructor
    · intro none_ cmd member mine
      exact none_ cmd member (counted_of_conn (unblocked_iff.mp unblocked cmd member) mine)
    · intro none_ cmd member mine
      exact none_ cmd member (counted_conn mine)
  · rw [← callbacks_eq_nil]
    exact counter_eq_iff _ fewCallbacks counted.callbacks

/-- A client has been accepted, confirmed and sent a packet, and it has
answered. -/
def packetsCrossing : KjWorld :=
  after false [.openTcpServer 1, .execute [], .resultCallback, .accept 1 7, .runCallback,
    .execute [], .resultCallback, .sendPacket 0 ⟨1, 2, [], []⟩, .received 0 ⟨3, 4, [], []⟩]

theorem clean_iff_nothing_pending_crossing :
    ((packetsCrossing.manager.flags 0).isFrontEndClean = true ↔
      forall cmd, cmd ∈ packetsCrossing.pendingCmds -> cmd.counted ≠ some 0) ∧
    (¬ packetsCrossing.Blocked -> ((packetsCrossing.manager.flags 0).isFrontEndClean = true ↔
      forall cmd, cmd ∈ packetsCrossing.pendingCmds -> cmd.conn ≠ some 0)) ∧
    ((packetsCrossing.manager.flags 0).isBackEndClean = true ↔
      forall workCb, workCb ∈ packetsCrossing.trunkQueue -> workCb.conn ≠ some 0) :=
  clean_iff_nothing_pending (run_after (by decide)) 0 (by decide) (by decide)

end KjWorld
end NetSystem
