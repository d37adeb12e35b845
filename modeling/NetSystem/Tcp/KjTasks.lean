import NetSystem.Tcp.KjLinkState

namespace NetSystem

/-!
# What the tasks of a connection need

The timer of a delayed reconnect is a task of the connection, and `Reconnect` starts the
connect task.  Both need the task set, which only `Connect` creates.  So a connection
that has never been connected has no timer and gets none, and one that has been keeps
its task set until it is disposed of.
-/

namespace KjConn

/-- `DelayReconnect` can be carried out: it has nothing to do, or there is a task set. -/
def canDelay (conn : KjConn) : Bool :=
  conn.bDelayReconnecting || conn.flags.bDisposed || conn.thrTasks

variable {conn next : KjConn}

theorem canDelay_of_done (done : conn.delayReconnect = some next) : conn.canDelay = true := by
  unfold delayReconnect at done
  unfold canDelay
  split at done
  · split at done
    · rename_i tasks
      rw [tasks, Bool.or_true]
    · cases done
  · rename_i idle
    cases delaying : conn.bDelayReconnecting with
    | true => rfl
    | false =>
        rw [delaying, Bool.not_false, Bool.true_and, Bool.not_eq_true', Bool.not_eq_false] at idle
        rw [idle]
        rfl

theorem delayReconnect_canDelay (done : conn.delayReconnect = some next) :
    next.canDelay = true := by
  have can := canDelay_of_done done
  rcases delayReconnect_eq_some done with rfl | ⟨_, _, rfl⟩
  · exact can
  · rfl

/-- Afterwards a reconnect is scheduled, if the connection is not disposed of. -/
theorem delayReconnect_delaying (undisposed : conn.flags.bDisposed = false)
    (done : conn.delayReconnect = some next) : next.bDelayReconnecting = true := by
  unfold delayReconnect at done
  rw [undisposed, Bool.not_false, Bool.and_true] at done
  split at done
  · split at done
    · cases done
      rfl
    · cases done
  · rename_i delaying
    cases done
    rw [Bool.not_eq_true', Bool.not_eq_false] at delaying
    exact delaying

theorem disposeConnection_canDelay (conn : KjConn) : conn.disposeConnection.canDelay = true := by
  rw [canDelay, disposeConnection_disposed, Bool.or_true, Bool.true_or]

theorem confirmClientIsReady_canDelay (can : conn.canDelay = true) (found : Bool) :
    (conn.confirmClientIsReady found).canDelay = true := by
  unfold confirmClientIsReady
  split
  · exact Bool.or_true _
  · exact can

/-- The timer of a flushed connection fires: the connection connects. -/
theorem timerFired_flushed (delaying : conn.bDelayReconnecting = true)
    (undisposed : conn.flags.bDisposed = false) (flushed : conn.flags.bFlushed = true)
    (tasks : conn.thrTasks = true) : conn.timerFired = some { conn with
      timer := false
      bDelayReconnecting := false
      bRunning := true
      flags.bFlushed := false
      thrTcpStream := true
      connecting := true } := by
  simp [timerFired, reconnect, delaying, undisposed, flushed, tasks]

/-- `Reconnect` gives up while the stream is not flushed. -/
theorem timerFired_unflushed (delaying : conn.bDelayReconnecting = true)
    (undisposed : conn.flags.bDisposed = false) (unflushed : conn.flags.bFlushed = false) :
    conn.timerFired = some { conn with
      timer := false
      bDelayReconnecting := false
      bRunning := true } := by
  simp [timerFired, reconnect, delaying, undisposed, unflushed]

theorem flushStream_attached (unflushed : conn.flags.bFlushed = false)
    (stream : conn.thrTcpStream = true) : conn.flushStream = { conn with
      stream := false
      connecting := false
      reading := false
      flags.bFlushed := true } := by
  rw [flushStream, stream, unflushed]
  rfl

/-- A running connection that loses its stream schedules a reconnect. -/
theorem onIsolatedError_attached (running : conn.bRunning = true)
    (calm : conn.bDelayReconnecting = false) (undisposed : conn.flags.bDisposed = false)
    (tasks : conn.thrTasks = true) (packet : conn.thrPacket = true) :
    Exists fun posted => Exists fun links => conn.onIsolatedError = some ({ conn with
      bConnectedEventPosted := posted
      bDelayReconnecting := true
      timer := true }, links) := by
  have reports : Exists fun posted => Exists fun links =>
      (if conn.thrTcpStream then conn.onLowLevelDisconnect else (conn, [])) =
        ({ conn with bConnectedEventPosted := posted }, links) := by
    split
    · rcases onLowLevelDisconnect_changes conn with ⟨posted, reported⟩
      exact ⟨posted, conn.onLowLevelDisconnect.2, Prod.ext reported rfl⟩
    · exact ⟨_, _, rfl⟩
  rcases reports with ⟨posted, links, reported⟩
  refine ⟨posted, links, ?_⟩
  rw [onIsolatedError, if_pos packet, reported]
  simp [running, delayReconnect, calm, undisposed, tasks]

theorem disposeConnection_timer (tasks : conn.timer = true -> conn.thrTasks = true)
    (timer : conn.disposeConnection.timer = true) : conn.disposeConnection.thrTasks = true := by
  unfold disposeConnection at timer ⊢
  split
  · rename_i disposed
    rw [if_pos disposed] at timer
    exact tasks timer
  · rename_i undisposed
    rw [if_neg undisposed] at timer
    cases timer

end KjConn

namespace ConnView

/-- A connected connection runs, and a timer belongs to a task set.  The task set comes
with a packet object.  While the stream of an isolated connection is not flushed, the
connection has its tasks, and one of them has not come to an end yet. -/
structure Equipped (view : ConnView) : Prop where
  running : view.conn.flags.bConnected = true -> view.conn.bRunning = true
  timer : view.conn.timer = true -> view.conn.thrTasks = true
  packet : view.conn.flags.bDisposed = false -> view.conn.thrTasks = true ->
    view.conn.thrPacket = true
  tasks : view.created = true -> view.conn.kind.isClient = false ->
    view.conn.flags.bDisposed = false -> view.conn.flags.bFlushed = false ->
    view.conn.thrTasks = true ∧ view.conn.thrTcpStream = true
  busy : view.created = true -> view.conn.kind.isClient = false ->
    view.conn.flags.bDisposed = false -> view.conn.flags.bFlushed = false ->
    view.conn.connecting = true ∨ view.conn.reading = true ∨ 0 < view.deferred

namespace Equipped

variable {ref : ConnRef} {view next : ConnView}

theorem initial : ConnView.initial.Equipped := by
  constructor
  · intro impossible
    cases impossible
  · intro impossible
    cases impossible
  · intro _ impossible
    cases impossible
  · intro impossible
    cases impossible
  · intro impossible
    cases impossible

/-- The front end changes the connection. -/
theorem of_back (equipped : view.Equipped) (created : next.created = view.created)
    (back : next.conn.back = view.conn.back) (deferred : next.deferred = view.deferred)
    (running : next.conn.flags.bConnected = true -> next.conn.bRunning = true) :
    next.Equipped := by
  have state : next.conn.back.1 = view.conn.back.1 := congrArg Prod.fst back
  have flags : next.conn.back.2 = view.conn.back.2 := congrArg Prod.snd back
  have timer : next.conn.timer = view.conn.timer :=
    (congrArg KjState.timer state).trans rfl
  have tasks : next.conn.thrTasks = view.conn.thrTasks :=
    (congrArg KjState.thrTasks state).trans rfl
  have packet : next.conn.thrPacket = view.conn.thrPacket :=
    (congrArg KjState.thrPacket state).trans rfl
  have stream : next.conn.thrTcpStream = view.conn.thrTcpStream :=
    (congrArg KjState.thrTcpStream state).trans rfl
  have kind : next.conn.kind = view.conn.kind :=
    (congrArg KjState.kind state).trans rfl
  have connecting : next.conn.connecting = view.conn.connecting :=
    (congrArg KjState.connecting state).trans rfl
  have reading : next.conn.reading = view.conn.reading :=
    (congrArg KjState.reading state).trans rfl
  have disposed : next.conn.flags.bDisposed = view.conn.flags.bDisposed := congrArg Prod.fst flags
  have flushed : next.conn.flags.bFlushed = view.conn.flags.bFlushed := congrArg Prod.snd flags
  refine ⟨running, ?_, ?_, ?_, ?_⟩
  · rw [timer, tasks]
    exact equipped.timer
  · rw [disposed, tasks, packet]
    exact equipped.packet
  · rw [created, kind, disposed, flushed, tasks, stream]
    exact equipped.tasks
  · rw [created, kind, disposed, flushed, connecting, reading, deferred]
    exact equipped.busy

/-- Nothing is asked of a connection that is disposed of but what `dispose` leaves. -/
theorem of_disposed (running : next.conn.flags.bConnected = true -> next.conn.bRunning = true)
    (timer : next.conn.timer = true -> next.conn.thrTasks = true)
    (disposed : next.conn.flags.bDisposed = true) : next.Equipped := by
  have gone : next.conn.flags.bDisposed ≠ false := by
    rw [disposed]
    exact Bool.noConfusion
  exact ⟨running, timer, fun undisposed => absurd undisposed gone,
    fun _ _ undisposed => absurd undisposed gone, fun _ _ undisposed => absurd undisposed gone⟩

theorem commit (equipped : view.Equipped) (cmd : NetCmd) : (view.commit cmd).Equipped :=
  equipped.of_back rfl rfl rfl equipped.running

theorem dispose (equipped : view.Equipped) :
    Equipped { view with conn := view.conn.disposeConnection } := by
  apply of_disposed
  · intro connected
    rw [KjConn.disposeConnection_connected] at connected
    rw [KjConn.disposeConnection_running]
    exact equipped.running connected
  · exact KjConn.disposeConnection_timer equipped.timer
  · exact KjConn.disposeConnection_disposed view.conn

theorem post (equipped : view.Equipped) (workCb : TrunkCb) : (view.post workCb).Equipped :=
  equipped.of_back rfl rfl rfl equipped.running

theorem postLinks (equipped : view.Equipped) (ref : ConnRef) (links : List LinkCb) :
    (view.postLinks ref links).Equipped := by
  induction links generalizing view with
  | nil => exact equipped
  | cons link links inductionHypothesis => exact inductionHypothesis (equipped.post _)

theorem stopRunning (equipped : view.Equipped) :
    Equipped { view with conn := view.conn.stopRunning.1 } := by
  refine equipped.of_back rfl (KjConn.stopRunning_back view.conn) rfl ?_
  rw [KjConn.stopRunning_eq]
  intro impossible
  cases impossible

theorem notify (equipped : view.Equipped) (notices : List ConnNotice) :
    (view.notify ref notices).Equipped :=
  equipped.of_back rfl rfl rfl equipped.running

theorem releaseIsolated (equipped : view.Equipped) : (view.releaseIsolated ref).Equipped := by
  unfold ConnView.releaseIsolated
  dsimp only
  split
  · exact ((equipped.stopRunning.notify _).commit _).commit _
  · exact equipped.commit _

theorem linkUp (equipped : view.Equipped) :
    Equipped { view with conn := view.conn.linkUp.1 } := by
  have reading : view.conn.linkUp.1.reading = true := by
    unfold KjConn.linkUp KjConn.onLowLevelConnect
    split <;> rfl
  have kept : view.conn.linkUp.1.flags = view.conn.flags ∧
      view.conn.linkUp.1.bRunning = view.conn.bRunning ∧
      view.conn.linkUp.1.timer = view.conn.timer ∧
      view.conn.linkUp.1.thrTasks = view.conn.thrTasks ∧
      view.conn.linkUp.1.thrPacket = view.conn.thrPacket ∧
      view.conn.linkUp.1.thrTcpStream = view.conn.thrTcpStream := by
    unfold KjConn.linkUp KjConn.onLowLevelConnect
    split <;> exact ⟨rfl, rfl, rfl, rfl, rfl, rfl⟩
  have kind := (KjConn.linkUp_sameObject view.conn).kind
  rcases kept with ⟨flags, running, timer, tasks, packet, stream⟩
  refine ⟨?_, ?_, ?_, ?_, fun _ _ _ _ => .inr (.inl reading)⟩
  · rw [flags, running]
    exact equipped.running
  · rw [timer, tasks]
    exact equipped.timer
  · rw [flags, tasks, packet]
    exact equipped.packet
  · rw [flags, kind, tasks, stream]
    exact equipped.tasks

end Equipped
end ConnView

variable {ref : ConnRef} {view next : ConnView}

theorem RestStep.equipped {rest : FrontRest} (runs : RestStep ref view rest next)
    (equipped : view.Equipped) : next.Equipped := by
  cases runs with
  | removed => exact (equipped.commit _).of_back rfl rfl rfl equipped.running
  | absent => exact equipped
  | released => exact equipped.commit _
  | delayed => exact equipped.commit _

theorem CbStep.equipped {workCb : TrunkCb} (runs : CbStep ref view workCb next)
    (equipped : view.Equipped) : next.Equipped := by
  have lost : view.conn.onDisconnect.1.flags.bConnected = true ->
      view.conn.onDisconnect.1.bRunning = true := by
    rw [KjConn.onDisconnect_eq]
    intro impossible
    cases impossible
  cases runs with
  | clientLost => exact equipped.of_back rfl (KjConn.onDisconnect_back _) rfl lost
  | clientGone _ _ _ removes => exact removes.equipped equipped
  | linkReported =>
      refine equipped.of_back rfl (KjConn.onConnect_back _) rfl ?_
      change view.conn.onConnect.1.flags.bConnected = true -> view.conn.onConnect.1.bRunning = true
      rw [KjConn.onConnect_eq]
      intro connected
      rcases Bool.or_eq_true _ _ |>.mp connected with running | before
      · exact running
      · exact equipped.running before
  | linkLost => exact equipped.of_back rfl (KjConn.onDisconnect_back _) rfl lost
  | packet => exact equipped.notify _
  | innerPacket => exact equipped.notify _

theorem CmdStep.equipped {cmd : NetCmd} (runs : CmdStep ref view cmd next)
    (equipped : view.Equipped) : next.Equipped := by
  cases runs with
  | disposed => exact equipped.dispose
  | posted => exact equipped
  | confirmed =>
      exact ⟨equipped.running, fun impossible => absurd impossible Bool.false_ne_true,
        fun _ _ => rfl, fun _ _ _ _ => ⟨rfl, rfl⟩, fun _ _ _ _ => .inr (.inl rfl)⟩
  | notReady => exact equipped
  | connected _ conn done =>
      rcases KjConn.connect_eq_some done with ⟨_, rfl | rfl⟩
      · exact equipped
      · exact ⟨fun _ => rfl, fun impossible => absurd impossible Bool.false_ne_true,
          fun _ _ => rfl, fun _ _ _ _ => ⟨rfl, rfl⟩, fun _ _ _ _ => .inl rfl⟩
  | delayed _ conn done =>
      rcases KjConn.delayReconnect_eq_some done with rfl | ⟨_, tasks, rfl⟩
      · exact equipped
      · exact ⟨equipped.running, fun _ => tasks, equipped.packet, equipped.tasks, equipped.busy⟩

/-- The timer fires: a flushed connection connects again. -/
theorem ConnView.Equipped.timerFired {conn : KjConn} (equipped : view.Equipped)
    (timer : view.conn.timer = true) (fired : view.conn.timerFired = some conn) :
    ConnView.Equipped { view with conn := conn } := by
  have tasks := equipped.timer timer
  rcases KjConn.timerFired_eq_some fired with rfl | ⟨_, _, rfl⟩ | ⟨_, _, rfl⟩
  · exact ⟨equipped.running, fun impossible => absurd impossible Bool.false_ne_true,
      equipped.packet, equipped.tasks, equipped.busy⟩
  · exact ⟨fun _ => rfl, fun impossible => absurd impossible Bool.false_ne_true, equipped.packet,
      fun _ _ _ _ => ⟨tasks, rfl⟩, fun _ _ _ _ => .inl rfl⟩
  · exact ⟨fun _ => rfl, fun impossible => absurd impossible Bool.false_ne_true, equipped.packet,
      equipped.tasks, equipped.busy⟩

/-- A task has failed: the stream is flushed. -/
theorem ConnView.Equipped.failed {lost : KjConn × List LinkCb} (equipped : view.Equipped)
    (created : view.created = true) (isolated : view.conn.kind.isClient = false)
    (error : view.conn.flushStream.onIsolatedError = some lost) :
    ConnView.Equipped { view with deferred := view.deferred - 1, conn := lost.1 } := by
  have kept : view.conn.flushStream.timer = view.conn.timer ∧
      view.conn.flushStream.thrTasks = view.conn.thrTasks ∧
      view.conn.flushStream.thrPacket = view.conn.thrPacket := by
    unfold KjConn.flushStream
    split <;> exact ⟨rfl, rfl, rfl⟩
  have flushed : view.conn.flags.bDisposed = false ->
      view.conn.flushStream.flags.bFlushed = true := by
    intro undisposed
    apply KjConn.flushStream_flushed
    cases unflushed : view.conn.flags.bFlushed with
    | true => exact .inr rfl
    | false => exact .inl (equipped.tasks created isolated undisposed unflushed).2
  rcases KjConn.onIsolatedError_eq_some error with ⟨report, reported, rest⟩
  have reports : Exists fun posted =>
      report.1 = { view.conn.flushStream with bConnectedEventPosted := posted } := by
    rw [reported]
    split
    · apply KjConn.onLowLevelDisconnect_changes
    · exact ⟨_, rfl⟩
  have result : Exists fun posted => Exists fun delaying => Exists fun timer =>
      (timer = true -> view.conn.thrTasks = true) ∧ lost.1 = { view.conn.flushStream with
        bConnectedEventPosted := posted
        bDelayReconnecting := delaying
        timer := timer } := by
    rcases reports with ⟨posted, reports⟩
    have own : view.conn.flushStream.timer = true -> view.conn.thrTasks = true := by
      rw [kept.1]
      exact equipped.timer
    rcases rest with ⟨_, delayed, done, rfl⟩ | ⟨_, rfl⟩
    · rw [reports] at done
      rcases KjConn.delayReconnect_eq_some done with rfl | ⟨_, tasks, rfl⟩
      · exact ⟨posted, _, _, own, rfl⟩
      · exact ⟨posted, true, true, fun _ => kept.2.1.symm.trans tasks, rfl⟩
    · exact ⟨posted, _, _, own, reports⟩
  rcases result with ⟨posted, delaying, timer, tasks, result⟩
  rw [result]
  have unflushed : view.conn.flushStream.flags.bDisposed = false ->
      view.conn.flushStream.flags.bFlushed = false -> False := by
    intro undisposed unflushed
    rw [KjConn.flushStream_disposed] at undisposed
    exact absurd (unflushed.symm.trans (flushed undisposed)) Bool.false_ne_true
  refine ⟨?_, ?_, ?_, fun _ _ undisposed waits => (unflushed undisposed waits).elim,
    fun _ _ undisposed waits => (unflushed undisposed waits).elim⟩
  · rw [KjConn.flushStream_connected, KjConn.flushStream_running]
    exact equipped.running
  · intro armed
    exact kept.2.1.trans (tasks armed)
  · rw [KjConn.flushStream_disposed, kept.2.1, kept.2.2]
    exact equipped.packet

theorem ConnView.Equipped.step {event : WorldEvent} (equipped : view.Equipped)
    (absent : view.created = false -> view.Untouched) (step : ConnStep ref view event next) :
    next.Equipped := by
  -- A task set and what is scheduled belong to a connection that exists.
  have created : 0 < view.deferred -> view.created = true := by
    intro pending
    apply Bool.eq_true_of_not_eq_false
    intro missing
    rw [(absent missing).deferred] at pending
    exact absurd pending (Nat.lt_irrefl 0)
  cases step with
  | other => exact equipped
  | displaced => exact equipped.of_back rfl rfl rfl equipped.running
  | accepted kind server streamptr _ _ client =>
      have running : kind.isClient = true := client
      refine ⟨fun _ => ?_, ?_, ?_, ?_, ?_⟩
      · change (KjConn.onConnect _).1.bRunning = true
        rw [KjConn.onConnect_eq]
        exact running
      · change (KjConn.onConnect _).1.timer = true -> _
        rw [KjConn.onConnect_eq]
        intro impossible
        cases impossible
      · change _ -> (KjConn.onConnect _).1.thrTasks = true -> _
        rw [KjConn.onConnect_eq]
        intro _ impossible
        cases impossible
      · change _ -> (KjConn.onConnect _).1.kind.isClient = false -> _
        rw [KjConn.onConnect_eq]
        intro _ isolated
        exact absurd (isolated.symm.trans client) Bool.false_ne_true
      · change _ -> (KjConn.onConnect _).1.kind.isClient = false -> _
        rw [KjConn.onConnect_eq]
        intro _ isolated
        exact absurd (isolated.symm.trans client) Bool.false_ne_true
  | isolatedCreated =>
      constructor
      · intro impossible
        cases impossible
      · intro impossible
        cases impossible
      · intro _ impossible
        cases impossible
      · intro _ _ _ impossible
        cases impossible
      · intro _ _ _ impossible
        cases impossible
  | connectCommitted => exact equipped.commit _
  | sent => exact equipped.commit _
  | disconnectIgnored => exact equipped
  | stopped => exact equipped.stopRunning.of_back rfl rfl rfl equipped.stopRunning.running
  | stoppedUnconnected _ _ _ _ _ releases => exact releases.equipped equipped.stopRunning
  | reopenIgnored => exact equipped
  | reopened => exact equipped.commit _
  | returned _ _ _ _ runs =>
      exact runs.equipped (equipped.of_back rfl rfl rfl equipped.running)
  | called _ _ _ _ _ runs =>
      exact runs.equipped (equipped.of_back rfl rfl rfl equipped.running)
  | clientReleased => exact (equipped.commit _).of_back rfl rfl rfl equipped.running
  | isolatedReleased =>
      exact equipped.releaseIsolated.of_back rfl rfl rfl equipped.releaseIsolated.running
  | deleted => exact equipped.of_back rfl rfl rfl equipped.running
  | executed _ _ _ _ _ _ runs =>
      exact runs.equipped (equipped.of_back rfl rfl rfl equipped.running)
  | serverClosed _ server =>
      exact (equipped.dispose.post (.clientDisconnect server ref)).of_back rfl rfl rfl
        equipped.dispose.running
  | closedElsewhere => exact equipped.of_back rfl rfl rfl equipped.running
  | finished => exact equipped.of_back rfl rfl rfl equipped.running
  | clientFailed _ _ _ =>
      apply post
      apply of_disposed
      · intro connected
        rw [KjConn.disposeConnection_connected, KjConn.flushStream_connected] at connected
        rw [KjConn.disposeConnection_running, KjConn.flushStream_running]
        exact equipped.running connected
      · apply KjConn.disposeConnection_timer
        unfold KjConn.flushStream
        split <;> exact equipped.timer
      · exact KjConn.disposeConnection_disposed _
  | isolatedFailed lost _ pending isolated error =>
      exact (equipped.failed (created pending) isolated error).postLinks ref _
  | linkUp => exact equipped.linkUp.postLinks ref _
  | connectFailed =>
      exact ⟨equipped.running, equipped.timer, equipped.packet, equipped.tasks,
        fun _ _ _ _ => .inr (.inr (Nat.succ_pos _))⟩
  | received => exact equipped.post _
  | readFailed =>
      exact ⟨equipped.running, equipped.timer, equipped.packet, equipped.tasks,
        fun _ _ _ _ => .inr (.inr (Nat.succ_pos _))⟩
  | timerFired conn _ timer fired => exact equipped.timerFired timer fired

end NetSystem
