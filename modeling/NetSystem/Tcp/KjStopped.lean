import NetSystem.Foundation.History
import NetSystem.Tcp.KjLinkState

namespace NetSystem

/-!
# A stopped isolated connection

`Disconnect` clears `bRunning` and sends the command that disposes of the
connection.  Until the command has been carried out, the timer of a delayed
reconnect makes the connection run again, and so does a `Connect` that the
handlers of the disconnect event call before the command is sent.  Otherwise the
connection stays stopped: connect callbacks that are still on their way are
ignored.
-/

/-- The command of `Connect`. -/
def NetCmd.isConnect : NetCmd -> Bool
  | .isolatedConnConnect _ _ => true
  | _ => false

/-- A command that connects comes after one that disposes of the connection. -/
def DisposedFirst (cmds : List NetCmd) : Prop :=
  EachAfter (fun before cmd => cmd.isConnect = true ->
    Exists fun conn => .disposeConnection conn ∈ before) cmds

namespace DisposedFirst

theorem of_none {cmds : List NetCmd} (none_ : forall cmd, cmd ∈ cmds -> cmd.isConnect = false) :
    DisposedFirst cmds := by
  apply EachAfter.of_forall
  intro cmd member before connects
  exact absurd ((none_ cmd member).symm.trans connects) Bool.false_ne_true

theorem tail {cmd : NetCmd} {cmds : List NetCmd} (first : DisposedFirst (cmd :: cmds))
    (plain : forall conn, cmd ≠ .disposeConnection conn) : DisposedFirst cmds := by
  refine (EachAfter.tail first).mono ?_
  intro before other covered connects
  rcases covered connects with ⟨conn, member⟩
  rcases List.mem_cons.mp member with same | later
  · exact absurd same.symm (plain conn)
  · exact ⟨conn, later⟩

theorem head {cmd : NetCmd} {cmds : List NetCmd} (first : DisposedFirst (cmd :: cmds)) :
    cmd.isConnect = false := by
  apply Bool.eq_false_iff.mpr
  intro connects
  rcases EachAfter.head first connects with ⟨conn, impossible⟩
  cases impossible

end DisposedFirst

namespace ConnView

/-- The connection will be disposed of before it can be connected again. -/
structure Disposing (ref : ConnRef) (view : ConnView) : Prop where
  waiting : (Exists fun conn => .disposeConnection conn ∈ view.todo) ∨
    .releaseConnection ref ∈ view.rests
  first : DisposedFirst view.todo

/-- The connection has been stopped, and no connect event has been raised since
the log was `log`. -/
structure Stopped (ref : ConnRef) (log : List Notice) (view : ConnView) : Prop where
  created : view.created = true
  isolated : view.conn.kind.isClient = false
  stopped : view.conn.bRunning = false
  disconnected : view.conn.flags.bConnected = false
  disposed : view.conn.flags.bDisposed = true ∨ view.Disposing ref
  silent : Exists fun more => view.log = log ++ more ∧
    forall notice, notice ∈ more -> notice.notice ≠ .connected

/-- The timer of a delayed reconnect does not fire between `Disconnect` and the
command that disposes of the connection, and `Connect` is not called by the
handlers of that `Disconnect`. -/
def steady (ref : ConnRef) (view : ConnView) : WorldEvent -> Bool
  | .timerFired isolated =>
      isolated != ref || view.conn.bRunning || view.conn.flags.bDisposed
  | .isolatedConnConnect isolated _ =>
      isolated != ref || !view.rests.contains (.releaseConnection ref)
  | _ => true

namespace Stopped

variable {ref : ConnRef} {log : List Notice} {view next : ConnView}

/-- The connection stays as it is for the front end, and nothing is said. -/
theorem of_same (stopped : view.Stopped ref log) (created : next.created = view.created)
    (kind : next.conn.kind = view.conn.kind) (front : next.conn.link.2 = view.conn.link.2)
    (disposing : view.Disposing ref -> next.Disposing ref) (same : next.log = view.log) :
    next.Stopped ref log := by
  have running : next.conn.bRunning = view.conn.bRunning := congrArg Prod.fst front
  have connected : next.conn.flags.bConnected = view.conn.flags.bConnected :=
    congrArg (fun part => part.2.1) front
  have disposed : next.conn.flags.bDisposed = view.conn.flags.bDisposed :=
    congrArg (fun part => part.2.2) front
  refine ⟨created.trans stopped.created, (congrArg KjClass.isClient kind).trans stopped.isolated,
    running.trans stopped.stopped, connected.trans stopped.disconnected, ?_, ?_⟩
  · rcases stopped.disposed with gone | waiting
    · exact .inl (disposed.trans gone)
    · exact .inr (disposing waiting)
  · rw [same]
    exact stopped.silent

theorem commit (stopped : view.Stopped ref log) {cmd : NetCmd}
    (covered : cmd.isConnect = true -> view.Disposing ref ->
      Exists fun conn => .disposeConnection conn ∈ view.todo) :
    (view.commit cmd).Stopped ref log := by
  refine stopped.of_same rfl rfl rfl ?_ rfl
  intro disposing
  refine ⟨?_, EachAfter.append disposing.first fun connects => covered connects disposing⟩
  rcases disposing.waiting with ⟨conn, member⟩ | release
  · exact .inl ⟨conn, List.mem_append_left _ member⟩
  · exact .inr release

/-- A command that disposes of the connection is sent. -/
theorem dispose (stopped : view.Stopped ref log) :
    (view.commit (.disposeConnection ref)).Stopped ref log :=
  stopped.commit (by intro impossible; cases impossible)

theorem notify (stopped : view.Stopped ref log) {notices : List ConnNotice}
    (silent : forall notice, notice ∈ notices -> notice ≠ .connected) :
    (view.notify ref notices).Stopped ref log := by
  refine ⟨stopped.created, stopped.isolated, stopped.stopped, stopped.disconnected, ?_, ?_⟩
  · rcases stopped.disposed with gone | waiting
    · exact .inl gone
    · exact .inr ⟨waiting.waiting, waiting.first⟩
  · rcases stopped.silent with ⟨more, extends_, none_⟩
    refine ⟨more ++ notices.map fun notice => ⟨ref, notice, view.conn.flags.bConnected⟩, ?_, ?_⟩
    · change view.log ++ _ = _
      rw [extends_, List.append_assoc]
    · intro notice member
      rcases List.mem_append.mp member with before | added
      · exact none_ notice before
      · rcases List.mem_map.mp added with ⟨raised, inside, rfl⟩
        exact silent raised inside

end Stopped
end ConnView

variable {ref : ConnRef} {log : List Notice} {view next : ConnView}

theorem RestStep.stopped {rest : FrontRest} {rests : List FrontRest}
    (first : view.rests = rest :: rests) (fits : rest.fits false = true)
    (stopped : view.Stopped ref log) (runs : RestStep ref { view with rests := rests } rest next) :
    next.Stopped ref log := by
  cases runs with
  | removed => cases fits
  | absent => cases fits
  | released =>
      refine stopped.of_same rfl rfl rfl ?_ rfl
      intro disposing
      refine ⟨.inl ⟨ref, List.mem_append_right _ (List.mem_singleton_self _)⟩, ?_⟩
      exact EachAfter.append disposing.first (by intro impossible; cases impossible)
  | delayed nDelaySeconds =>
      refine stopped.of_same rfl rfl rfl ?_ rfl
      intro disposing
      refine ⟨?_, EachAfter.append disposing.first (by intro impossible; cases impossible)⟩
      rcases disposing.waiting with ⟨conn, member⟩ | release
      · exact .inl ⟨conn, List.mem_append_left _ member⟩
      · rw [first] at release
        rcases List.mem_cons.mp release with impossible | later
        · cases impossible
        · exact .inr later

theorem CbStep.stopped {workCb : TrunkCb} (fits : workCb.fits false = true)
    (stopped : view.Stopped ref log) (runs : CbStep ref view workCb next) :
    next.Stopped ref log := by
  cases runs with
  | clientLost => cases fits
  | clientGone => cases fits
  | linkReported =>
      have ignored : view.conn.onConnect = (view.conn, []) := by
        rw [KjConn.onConnect, stopped.stopped]
        rfl
      rw [ignored]
      exact stopped.notify (by intro notice impossible; cases impossible)
  | linkLost =>
      have ignored : view.conn.onDisconnect = (view.conn, []) := by
        rw [KjConn.onDisconnect, stopped.disconnected]
        rfl
      rw [ignored]
      exact stopped.notify (by intro notice impossible; cases impossible)
  | packet uConnId body =>
      apply stopped.notify
      intro notice member
      rw [List.mem_singleton.mp member]
      intro impossible
      cases impossible
  | innerPacket uConnId body =>
      apply stopped.notify
      intro notice member
      rw [List.mem_singleton.mp member]
      intro impossible
      cases impossible

theorem CmdStep.stopped {cmd : NetCmd} {todo : List NetCmd} (fits : cmd.fits false = true)
    (first : view.todo = cmd :: todo) (stopped : view.Stopped ref log)
    (runs : CmdStep ref { view with executing := some cmd, todo := todo } cmd next) :
    next.Stopped ref log := by
  -- Any command but the one that disposes of the connection leaves that one in the queue.
  have later : (forall conn, cmd ≠ .disposeConnection conn) -> view.Disposing ref ->
      ConnView.Disposing ref { view with executing := some cmd, todo := todo } := by
    intro plain disposing
    have order := disposing.first
    rw [first] at order
    refine ⟨?_, order.tail plain⟩
    rcases disposing.waiting with ⟨conn, member⟩ | release
    · rw [first] at member
      rcases List.mem_cons.mp member with same | rest
      · exact absurd same.symm (plain conn)
      · exact .inl ⟨conn, rest⟩
    · exact .inr release
  cases runs with
  | disposed =>
      refine ⟨stopped.created, ?_, ?_, ?_, .inl (KjConn.disposeConnection_disposed _),
        stopped.silent⟩
      · exact (congrArg KjClass.isClient (KjConn.disposeConnection_sameObject view.conn).kind).trans
          stopped.isolated
      · exact (KjConn.disposeConnection_running view.conn).trans stopped.stopped
      · exact (KjConn.disposeConnection_connected view.conn).trans stopped.disconnected
  | posted body =>
      exact stopped.of_same rfl rfl rfl (later (by intro conn impossible; cases impossible)) rfl
  | confirmed => cases fits
  | notReady => cases fits
  | connected sIpOrHostname conn done =>
      rcases KjConn.connect_eq_some done with ⟨⟨_, alive, _, _⟩, _⟩
      rcases stopped.disposed with gone | disposing
      · exact absurd (alive.symm.trans gone) Bool.false_ne_true
      · have order := disposing.first
        rw [first] at order
        cases order.head
  | delayed nDelaySeconds conn done =>
      have kept := later (by intro conn impossible; cases impossible)
      rcases KjConn.delayReconnect_eq_some done with rfl | ⟨_, _, rfl⟩
      · exact stopped.of_same rfl rfl rfl kept rfl
      · exact stopped.of_same rfl rfl rfl (fun disposing => ⟨(kept disposing).waiting,
          (kept disposing).first⟩) rfl

namespace ConnView.Stopped

/-- The link changes and callbacks about it are posted. -/
theorem links (stopped : view.Stopped ref log) {conn : KjConn} {deferred : Nat}
    {links : List LinkCb} (kind : conn.kind = view.conn.kind)
    (front : conn.link.2 = view.conn.link.2) :
    ({ view with deferred := deferred, conn := conn }.postLinks ref links).Stopped ref log := by
  rw [postLinks_eq]
  exact stopped.of_same rfl kind front (fun disposing => ⟨disposing.waiting, disposing.first⟩) rfl

/-- `ReleaseAllIsolateds` only sends the command that disposes of the
connection. -/
theorem released (stopped : view.Stopped ref log) : (view.releaseIsolated ref).Stopped ref log := by
  have idle : ¬ (!view.conn.flags.bDisposed && view.conn.bRunning) = true := by
    rw [stopped.stopped, Bool.and_false]
    exact Bool.false_ne_true
  unfold releaseIsolated
  dsimp only
  rw [if_neg idle]
  exact stopped.dispose

theorem step {event : WorldEvent} (stopped : view.Stopped ref log) (regular : view.Regular)
    (steady : view.steady ref event = true) (step : ConnStep ref view event next) :
    next.Stopped ref log := by
  have again : ¬ view.conn.bRunning = true := Bool.eq_false_iff.mp stopped.stopped
  have keep : forall {view next : ConnView}, next.todo = view.todo -> next.rests = view.rests ->
      view.Disposing ref -> next.Disposing ref := by
    intro view next todo rests disposing
    refine ⟨?_, ?_⟩
    · rw [todo, rests]
      exact disposing.waiting
    · rw [todo]
      exact disposing.first
  have plain : forall {cmd : NetCmd}, cmd.isConnect = false -> cmd.isConnect = true ->
      view.Disposing ref -> Exists fun conn => .disposeConnection conn ∈ view.todo := by
    intro cmd other connects
    exact absurd (other.symm.trans connects) Bool.false_ne_true
  cases step with
  | other => exact stopped
  | displaced => exact stopped.of_same rfl rfl rfl (keep rfl rfl) rfl
  | accepted _ _ _ absent => exact absurd (absent.symm.trans stopped.created) Bool.false_ne_true
  | isolatedCreated _ _ _ absent =>
      exact absurd (absent.symm.trans stopped.created) Bool.false_ne_true
  | connectCommitted =>
      apply stopped.commit
      intro _ disposing
      rcases disposing.waiting with sent | release
      · exact sent
      · simp [ConnView.steady, release] at steady
  | sent => exact stopped.commit (plain rfl)
  | disconnectIgnored => exact stopped
  | stopped _ _ _ _ _ running => exact absurd running.2 again
  | stoppedUnconnected _ _ _ running => exact absurd running.2 again
  | reopenIgnored => exact stopped
  | reopened => exact stopped.commit (plain rfl)
  | returned _ rest rests first runs =>
      have fits := regular.rests rest (by rw [first]; exact List.mem_cons_self ..)
      rw [stopped.isolated] at fits
      exact RestStep.stopped first fits stopped runs
  | called _ workCb callbacks first _ runs =>
      have fits := regular.callbacks workCb (by rw [first]; exact List.mem_cons_self ..)
      rw [stopped.isolated] at fits
      have started : (view.start callbacks).Stopped ref log :=
        stopped.of_same rfl rfl rfl (keep rfl rfl) rfl
      exact CbStep.stopped fits started runs
  | clientReleased server _ held =>
      exact absurd ((regular.isolated stopped.isolated server).symm.trans held) Bool.false_ne_true
  | isolatedReleased =>
      exact stopped.released.of_same rfl rfl rfl (keep rfl rfl) rfl
  | deleted => exact stopped.of_same rfl rfl rfl (keep rfl rfl) rfl
  | executed _ _ cmd todo _ first runs =>
      have fits := regular.cmds cmd (by
        rw [pendingCmds, first]
        exact List.mem_append_right _ (List.mem_cons_self ..))
      rw [stopped.isolated] at fits
      exact CmdStep.stopped fits first stopped runs
  | serverClosed _ server _ _ held =>
      exact absurd ((regular.isolated stopped.isolated server).symm.trans held) Bool.false_ne_true
  | closedElsewhere => exact stopped.of_same rfl rfl rfl (keep rfl rfl) rfl
  | finished => exact stopped.of_same rfl rfl rfl (keep rfl rfl) rfl
  | clientFailed _ _ client => exact absurd (stopped.isolated.symm.trans client) Bool.false_ne_true
  | isolatedFailed lost _ _ _ error =>
      refine stopped.links ?_ ?_
      · exact (KjConn.onIsolatedError_sameObject error).kind.trans
          (KjConn.flushStream_sameObject _).kind
      · exact (KjConn.onIsolatedError_front error).trans KjConn.flushStream_front
  | linkUp => exact stopped.links (KjConn.linkUp_sameObject _).kind KjConn.linkUp_front
  | connectFailed => exact stopped.of_same rfl rfl rfl (keep rfl rfl) rfl
  | received => exact stopped.of_same rfl rfl rfl (keep rfl rfl) rfl
  | readFailed => exact stopped.of_same rfl rfl rfl (keep rfl rfl) rfl
  | timerFired conn _ timer =>
      -- Only a connection that has not been disposed of has a timer.
      have disposed : view.conn.flags.bDisposed = true := by
        simpa [ConnView.steady, stopped.stopped] using steady
      exact absurd ((regular.conn.disposed disposed).2.2.symm.trans timer) Bool.false_ne_true

/-- `Disconnect` stops a running connection. -/
theorem of_disconnect (isolated : view.conn.kind.isClient = false)
    (alive : view.conn.flags.bDisposed = false) (running : view.conn.bRunning = true)
    (step : ConnStep ref view (.disconnect ref) next) : next.Stopped ref view.log := by
  -- `Connect` blocks the front end, so none of its commands is pending.
  have unconnected : (forall cmd, cmd ∈ view.pendingCmds -> cmd.blocking = false) ->
      DisposedFirst view.todo := by
    intro unblocked
    apply DisposedFirst.of_none
    intro cmd member
    have other := unblocked cmd (List.mem_append_right _ member)
    cases cmd <;> first | rfl | cases other
  have kind : view.conn.stopRunning.1.kind.isClient = false := by
    rw [KjConn.stopRunning_eq]
    exact isolated
  have stopped : view.conn.stopRunning.1.bRunning = false := by rw [KjConn.stopRunning_eq]
  have disconnected : view.conn.stopRunning.1.flags.bConnected = false := by
    rw [KjConn.stopRunning_eq]
  have release : view.release ref = .releaseConnection ref := by
    rw [ConnView.release, isolated]
    rfl
  cases step with
  | other _ elsewhere => exact absurd rfl elsewhere
  | displaced _ _ _ elsewhere => cases elsewhere
  | isolatedCreated _ _ elsewhere => cases elsewhere
  | disconnectIgnored ignored =>
      rcases ignored with disposed | idle
      · exact absurd (alive.symm.trans disposed) Bool.false_ne_true
      · exact absurd (idle.symm.trans running) Bool.false_ne_true
  | stopped _ _ live unblocked _ _ connected =>
      refine ⟨live.1, kind, stopped, disconnected, .inr ⟨.inr ?_, unconnected unblocked⟩, ?_⟩
      · rw [release]
        exact List.mem_cons_self ..
      · refine ⟨_, rfl, ?_⟩
        intro notice member
        rcases List.mem_map.mp member with ⟨raised, inside, rfl⟩
        rw [KjWorld.stopRunning_connected connected, List.mem_singleton] at inside
        rw [inside]
        intro impossible
        cases impossible
  | stoppedUnconnected _ live unblocked _ _ releases =>
      rw [release] at releases
      cases releases
      refine ⟨live.1, kind, stopped, disconnected, .inr ⟨.inl ⟨ref, ?_⟩, ?_⟩, [], ?_, ?_⟩
      · exact List.mem_append_right _ (List.mem_singleton_self _)
      · exact EachAfter.append (unconnected unblocked) (by intro impossible; cases impossible)
      · exact (List.append_nil _).symm
      · intro notice impossible
        cases impossible

end ConnView.Stopped

namespace KjWorld

/-- After `Disconnect` on a running isolated connection, `IsConnected()` is
false for good and no connect event is raised any more, as long as the timer of a
delayed reconnect does not fire before the connection is disposed of and the
handlers of the disconnect event do not call `Connect`. -/
theorem stopped_stays_stopped {gate : Bool} {before later : List WorldEvent}
    {world stopped last : KjWorld} {ref : ConnRef} (run : Run Step (initial gate) before world)
    (isolated : (world.conn ref).kind.isClient = false)
    (running : (world.conn ref).flags.bDisposed = false ∧ (world.conn ref).bRunning = true)
    (disconnect : world.Step (.disconnect ref) stopped)
    (steady : Run (fun state event next => state.Step event next ∧
      (state.view ref).steady ref event = true) stopped later last) :
    (last.conn ref).flags.bConnected = false ∧ Exists fun more =>
      (last.log.filter fun notice => notice.conn == ref) =
        (world.log.filter fun notice => notice.conn == ref) ++ more ∧
      forall notice, notice ∈ more -> notice.notice ≠ .connected := by
  rcases view_invariant_of_run ConnView.Regular (fun _ _ _ regular step => regular.step step)
    ConnView.Regular.initial run with ⟨valid, regular⟩
  have seen := view_step ref valid disconnect
  have kept := view_invariant
    (fun view => view.Regular ∧ view.Stopped ref (world.view ref).log)
    (fun view event next both allowed step => ⟨both.1.step step, both.2.step both.1 allowed step⟩)
    (valid.step disconnect) ⟨regular.step seen, .of_disconnect isolated running.1 running.2 seen⟩
    steady
  exact ⟨kept.2.2.disconnected, kept.2.2.silent⟩

/-- An isolated connection is created and connected, and its link is
established. -/
def linkEstablished : List WorldEvent :=
  [.createTcpIsolated, .isolatedConnConnect 0 ['1', '.', '2'], .execute [], .resultCallback,
    .linkUp 0]

/-- The connect callback is run, and the connection is disposed of. -/
def disposeStopped : List WorldEvent := [.runCallback, .execute [], .resultCallback]

theorem stopped_stays_stopped_ignored :
    (((after false (linkEstablished ++ [.disconnect 0])).proceed disposeStopped).conn
        0).flags.bConnected = false ∧ Exists fun more =>
      ((((after false (linkEstablished ++ [.disconnect 0])).proceed disposeStopped).log).filter
        fun notice => notice.conn == 0) =
        ((after false linkEstablished).log.filter fun notice => notice.conn == 0) ++ more ∧
      forall notice, notice ∈ more -> notice.notice ≠ .connected :=
  stopped_stays_stopped (run_after (by decide)) (by decide) (by decide) (by rfl)
    (run_proceed (fun state event => (state.view 0).steady 0 event = true) (by decide))

/-- The link is lost again after the front end has connected. -/
def linkDropped : List WorldEvent :=
  linkEstablished ++ [.runCallback, .readFailed 0, .evalLater 0]

/-- The timer fires before the connection is disposed of. -/
def firesStopped : List WorldEvent :=
  [.handlersReturn, .timerFired 0, .linkUp 0, .runCallback, .runCallback]

/-- The timer of a delayed reconnect makes a stopped connection run again, and
it connects. -/
theorem stopped_connects_again :
    (after false linkDropped).Step (.disconnect 0)
        (after false (linkDropped ++ [.disconnect 0])) ∧
      Run Step (initial false) (linkDropped ++ .disconnect 0 :: firesStopped)
        (after false (linkDropped ++ .disconnect 0 :: firesStopped)) ∧
      ((after false linkDropped).conn 0).kind = .isolatedConn ∧
      ((after false linkDropped).conn 0).bRunning = true ∧
      ((after false (linkDropped ++ .disconnect 0 :: firesStopped)).conn 0).flags.bConnected =
        true ∧
      (after false (linkDropped ++ .disconnect 0 :: firesStopped)).log.map Notice.notice =
        [.connected, .disconnected, .connected] :=
  ⟨by rfl, run_after (by decide), by decide, by decide, by decide, by decide⟩

end KjWorld
end NetSystem
