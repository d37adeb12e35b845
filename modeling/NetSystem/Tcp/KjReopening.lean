import NetSystem.Tcp.KjDownStreams
import NetSystem.Tcp.KjSettling

namespace NetSystem

/-!
# `Reopen` of an isolated connection

`Reopen` of a connected one disconnects it first.  When the handlers of the disconnect
event have returned, the front end sends the command that disposes of it, and then the
one that would schedule the reconnect.  Of one that is not connected it sends only the
latter, which needs the task set of the connection.

The back end may carry out commands before the call has returned.  What the call has
done is looked at when it has returned and no command is left.
-/

/-- The back end works on the link of the connection. -/
def WorldEvent.isOwn (isolated : ConnRef) : WorldEvent -> Bool
  | .timerFired other => other == isolated
  | .linkUp other => other == isolated
  | .readFailed other => other == isolated
  | .evalLater other => other == isolated
  | _ => false

namespace KjWorld

/-- The link of a running connection is up, and the front end will be told. -/
structure LinkedAgain (world : KjWorld) (isolated : ConnRef) : Prop where
  undisposed : (world.conn isolated).flags.bDisposed = false
  running : (world.conn isolated).bRunning = true
  stream : (world.conn isolated).stream = true
  told : .isolatedConnect isolated ∈ world.trunkQueue

/-- The back end brings the link up again, without the front end having to do anything. -/
def LinksAgain (world : KjWorld) (isolated : ConnRef) : Prop :=
  Exists fun events => Exists fun last =>
    (forall event, event ∈ events -> event.isOwn isolated = true) ∧
      Run Step world events last ∧ last.LinkedAgain isolated

/-- What stays so while the back end brings the link of a connection up again. -/
structure Alone (world : KjWorld) (isolated : ConnRef) : Prop where
  idle : world.executing = none
  plain : (world.conn isolated).kind.isClient = false
  undisposed : (world.conn isolated).flags.bDisposed = false
  unconnected : (world.conn isolated).flags.bConnected = false
  tasks : (world.conn isolated).thrTasks = true
  packet : (world.conn isolated).thrPacket = true

variable {world next : KjWorld} {isolated : ConnRef}

theorem LinksAgain.of_step (event : WorldEvent) (own : event.isOwn isolated = true)
    (step : world.Step event next) (again : next.LinksAgain isolated) :
    world.LinksAgain isolated := by
  rcases again with ⟨events, last, owns, run, up⟩
  refine ⟨event :: events, last, ?_, .cons step run, up⟩
  intro other member
  rcases List.mem_cons.mp member with rfl | later
  · exact own
  · exact owns other later

/-- The callbacks about the link are only counted. -/
theorem links_conn (world : KjWorld) (isolated : ConnRef) (links : List LinkCb) :
    Exists fun produced =>
      (links.foldl (fun state link => state.addLinkCb isolated link) world).conn isolated =
        { world.conn isolated with flags.backEndProduceNum := produced } := by
  have viewed := view_links isolated world links
  rw [ConnView.postLinks_eq] at viewed
  exact ⟨_, congrArg ConnView.conn viewed⟩

theorem links_pendings (world : KjWorld) (isolated : ConnRef) (links : List LinkCb) :
    (links.foldl (fun state link => state.addLinkCb isolated link) world).pendings =
      world.pendings := by
  induction links generalizing world with
  | nil => rfl
  | cons link links inductionHypothesis =>
      have posted : (world.addLinkCb isolated link).pendings = world.pendings := by
        rw [addLinkCb_eq]
        exact post_pendings world _
      exact (inductionHypothesis _).trans posted

theorem post_trunkQueue (world : KjWorld) (workCb : TrunkCb) :
    (world.post workCb).trunkQueue = world.trunkQueue ++ [workCb] := by
  unfold post
  cases workCb.conn <;> rfl

namespace Alone

/-- The link that is being connected comes up. -/
theorem linkUp (alone : world.Alone isolated) (running : (world.conn isolated).bRunning = true)
    (connecting : (world.conn isolated).connecting = true) : world.LinksAgain isolated := by
  have up : (world.conn isolated).linkUp = ({ world.conn isolated with
      stream := true
      connecting := false
      bConnectedEventPosted := true
      reading := true }, [.connect]) := by
    rw [KjConn.linkUp, KjConn.onLowLevelConnect]
    dsimp only
    rw [alone.unconnected]
    rfl
  have step : world.Step (.linkUp isolated)
      ((world.setConn isolated (world.conn isolated).linkUp.1).post (.isolatedConnect isolated)) := by
    unfold Step perform
    dsimp only
    rw [if_pos connecting, backEnd_of_idle alone.idle, up]
    rfl
  have viewed := congrArg ConnView.conn
    (view_post_self (world.setConn isolated (world.conn isolated).linkUp.1) isolated
      (show TrunkCb.conn (.isolatedConnect isolated) = some isolated from rfl))
  rw [view_setConn_self, conn_view] at viewed
  refine .of_step (.linkUp isolated) (beq_self_eq_true isolated) step
    ⟨[], _, ?_, .nil _, ?_, ?_, ?_, ?_⟩
  · intro event impossible
    cases impossible
  · rw [viewed, up]
    exact alone.undisposed
  · rw [viewed, up]
    exact running
  · rw [viewed, up]
    rfl
  · rw [post_trunkQueue]
    exact List.mem_append_right _ (List.mem_singleton_self _)

theorem setConn (alone : world.Alone isolated) (conn : KjConn)
    (kind : conn.kind = (world.conn isolated).kind)
    (flags : conn.flags.bDisposed = false ∧ conn.flags.bConnected = false)
    (held : conn.thrTasks = true ∧ conn.thrPacket = true) :
    (world.setConn isolated conn).Alone isolated := by
  refine ⟨alone.idle, ?_, ?_, ?_, ?_, ?_⟩
  · rw [conn_setConn_self, kind]
    exact alone.plain
  · rw [conn_setConn_self]
    exact flags.1
  · rw [conn_setConn_self]
    exact flags.2
  · rw [conn_setConn_self]
    exact held.1
  · rw [conn_setConn_self]
    exact held.2

/-- The timer fires, whatever `Reconnect` makes of it. -/
theorem timerFired (alone : world.Alone isolated) {conn : KjConn}
    (timer : (world.conn isolated).timer = true)
    (fired : (world.conn isolated).timerFired = some conn)
    (again : (world.setConn isolated conn).LinksAgain isolated) : world.LinksAgain isolated := by
  have step : world.Step (.timerFired isolated) (world.setConn isolated conn) := by
    unfold Step perform
    dsimp only
    rw [if_pos timer, backEnd_of_idle alone.idle, fired]
    rfl
  exact .of_step (.timerFired isolated) (beq_self_eq_true isolated) step again

/-- The timer of a flushed connection fires, and the connection connects. -/
theorem flushed (alone : world.Alone isolated)
    (delaying : (world.conn isolated).bDelayReconnecting = true)
    (timer : (world.conn isolated).timer = true)
    (flushed : (world.conn isolated).flags.bFlushed = true) : world.LinksAgain isolated := by
  have fired := KjConn.timerFired_flushed delaying alone.undisposed flushed alone.tasks
  apply alone.timerFired timer fired
  apply linkUp
  · exact alone.setConn _ rfl ⟨alone.undisposed, alone.unconnected⟩ ⟨alone.tasks, alone.packet⟩
  · rw [conn_setConn_self]
  · rw [conn_setConn_self]

/-- The function of a failed task runs. -/
theorem evalLater (alone : world.Alone isolated) (running : (world.conn isolated).bRunning = true)
    (calm : (world.conn isolated).bDelayReconnecting = false)
    (unflushed : (world.conn isolated).flags.bFlushed = false)
    (stream : (world.conn isolated).thrTcpStream = true)
    (failed : isolated ∈ world.deferred) : world.LinksAgain isolated := by
  have flush := KjConn.flushStream_attached unflushed stream
  have lost : Exists fun posted => Exists fun links =>
      (world.conn isolated).flushStream.onIsolatedError = some ({ world.conn isolated with
        stream := false
        connecting := false
        reading := false
        flags.bFlushed := true
        bConnectedEventPosted := posted
        bDelayReconnecting := true
        timer := true }, links) := by
    rw [flush]
    exact KjConn.onIsolatedError_attached running calm alone.undisposed alone.tasks alone.packet
  rcases lost with ⟨posted, links, lost⟩
  have kind : (world.conn isolated).flushStream.kind.isClient = false := by
    rw [(KjConn.flushStream_sameObject _).kind]
    exact alone.plain
  let conn := { world.conn isolated with
    stream := false
    connecting := false
    reading := false
    flags.bFlushed := true
    bConnectedEventPosted := posted
    bDelayReconnecting := true
    timer := true }
  let middle := KjWorld.setConn { world with deferred := world.deferred.erase isolated } isolated conn
  have step : world.Step (.evalLater isolated)
      (links.foldl (fun state link => state.addLinkCb isolated link) middle) := by
    unfold Step perform
    dsimp only
    rw [if_pos failed, backEnd_of_idle alone.idle, runDeferred]
    change (if (world.conn isolated).flushStream.kind.isClient = true then _ else
      (world.conn isolated).flushStream.onIsolatedError.map _) = _
    rw [if_neg (Bool.eq_false_iff.mp kind), lost]
    rfl
  rcases links_conn middle isolated links with ⟨produced, viewed⟩
  have idle := congrArg (fun pendings => pendings.2.1) (links_pendings middle isolated links)
  have same : middle.conn isolated = conn := conn_setConn_self _ isolated conn
  rw [same] at viewed
  apply LinksAgain.of_step (.evalLater isolated) (beq_self_eq_true isolated) step
  apply flushed
  · constructor
    · exact idle.trans alone.idle
    · rw [viewed]
      exact alone.plain
    · rw [viewed]
      exact alone.undisposed
    · rw [viewed]
      exact alone.unconnected
    · rw [viewed]
      exact alone.tasks
    · rw [viewed]
      exact alone.packet
  · rw [viewed]
  · rw [viewed]
  · rw [viewed]

/-- The read loop fails. -/
theorem readFailed (alone : world.Alone isolated) (running : (world.conn isolated).bRunning = true)
    (calm : (world.conn isolated).bDelayReconnecting = false)
    (unflushed : (world.conn isolated).flags.bFlushed = false)
    (stream : (world.conn isolated).thrTcpStream = true)
    (reading : (world.conn isolated).reading = true) : world.LinksAgain isolated := by
  have failed := alone.setConn { world.conn isolated with reading := false } rfl
    ⟨alone.undisposed, alone.unconnected⟩ ⟨alone.tasks, alone.packet⟩
  have step : world.Step (.readFailed isolated)
      ((world.setConn isolated { world.conn isolated with reading := false }).taskFailed
        isolated) := by
    unfold Step perform
    dsimp only
    rw [if_pos reading, backEnd_of_idle alone.idle]
  have same : ((world.setConn isolated { world.conn isolated with reading := false }).taskFailed
      isolated).conn isolated = { world.conn isolated with reading := false } :=
    conn_setConn_self _ isolated _
  apply LinksAgain.of_step (.readFailed isolated) (beq_self_eq_true isolated) step
  apply evalLater
  · exact ⟨failed.idle, failed.plain, failed.undisposed, failed.unconnected, failed.tasks,
      failed.packet⟩
  · rw [same]
    exact running
  · rw [same]
    exact calm
  · rw [same]
    exact unflushed
  · rw [same]
    exact stream
  · exact List.mem_append_right _ (List.mem_singleton_self _)

/-- The timer fires and the connection connects.  If its stream is not flushed, it first
waits for what keeps the stream. -/
theorem again (alone : world.Alone isolated) (equipped : (world.view isolated).Equipped)
    (created : (world.view isolated).created = true)
    (delaying : (world.conn isolated).bDelayReconnecting = true)
    (timer : (world.conn isolated).timer = true) : world.LinksAgain isolated := by
  cases unflushed : (world.conn isolated).flags.bFlushed with
  | true => exact alone.flushed delaying timer unflushed
  | false =>
      have stream := (equipped.tasks created alone.plain alone.undisposed unflushed).2
      have busy := equipped.busy created alone.plain alone.undisposed unflushed
      have fired := KjConn.timerFired_unflushed delaying alone.undisposed unflushed
      have next := alone.setConn { world.conn isolated with
          timer := false
          bDelayReconnecting := false
          bRunning := true } rfl ⟨alone.undisposed, alone.unconnected⟩ ⟨alone.tasks, alone.packet⟩
      have same := conn_setConn_self world isolated { world.conn isolated with
          timer := false
          bDelayReconnecting := false
          bRunning := true }
      apply alone.timerFired timer fired
      rcases busy with connecting | reading | pending
      · apply next.linkUp
        · rw [same]
        · rw [same]
          exact connecting
      · apply next.readFailed
        · rw [same]
        · rw [same]
        · rw [same]
          exact unflushed
        · rw [same]
          exact stream
        · rw [same]
          exact reading
      · apply next.evalLater
        · rw [same]
        · rw [same]
        · rw [same]
          exact unflushed
        · rw [same]
          exact stream
        · exact List.count_pos_iff.mp pending

end Alone

/-! ## The call -/

/-- A run to a state in which an isolated connection exists and is not disposed of. -/
structure Reopenable (world : KjWorld) (isolated : ConnRef) : Prop where
  reached : Exists fun gate => Exists fun events => Run Step (initial gate) events world
  live : world.Live isolated
  kind : (world.conn isolated).kind.isClient = false
  undisposed : (world.conn isolated).flags.bDisposed = false

namespace Reopenable

variable {last : KjWorld} {nDelaySeconds : Int}

theorem known (reopenable : world.Reopenable isolated) : world.Known isolated := by
  rcases reopenable.reached with ⟨gate, events, run⟩
  have regular : forall ref, world.Valid ∧ (world.view ref).Regular := fun ref =>
    view_invariant_of_run ConnView.Regular (fun _ _ _ regular step => regular.step step)
      ConnView.Regular.initial run
  have equipped : world.Valid ∧ (world.view isolated).Equipped := by
    apply run.invariant fun state => state.Valid ∧ (state.view isolated).Equipped
    · rintro state event next ⟨valid, equipped⟩ step
      have seen := view_step isolated valid step
      exact ⟨valid.step step, equipped.step (valid.absent isolated) seen⟩
    · exact ⟨initial_valid gate, ConnView.Equipped.initial⟩
  exact ⟨equipped.1, fun ref => (regular ref).2, equipped.2,
    (view_live isolated reopenable.live).1, reopenable.kind⟩

end Reopenable
end KjWorld
end NetSystem
