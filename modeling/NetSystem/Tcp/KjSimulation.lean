import NetSystem.Tcp.KjTraffic
import NetSystem.Tcp.KjView

namespace NetSystem

/-!
# The view of a connection through the calls of the front end

A change of the factory that concerns one connection changes the view of that
connection and spares the others.  The calls of the front end and the callbacks
of the trunk queue are composed of such changes, and the loops of the manager
meet every connection at most once.
-/

namespace KjWorld

/-- The view of a connection. -/
def view (world : KjWorld) (ref : ConnRef) : ConnView where
  created := decide (ref < world.manager.created)
  deleted := decide (world.manager.Deleted ref)
  recycled := decide (ref ∈ world.manager.vRecycler)
  isolated := decide (ref ∈ world.manager.isolateds)
  held := fun server => decide (ref ∈ (world.manager.clientsOf server).values)
  closed := fun server => (world.servers server).closed
  conn := world.conn ref
  executing := world.executing.filter fun cmd => cmd.conn == some ref
  todo := world.workQueue.filter fun cmd => cmd.conn == some ref
  callbacks := world.trunkQueue.filter fun workCb => workCb.conn == some ref
  rests := world.frontStack.filter fun rest => rest.conn == ref
  deferred := world.deferred.count ref
  log := world.log.filter fun notice => notice.conn == ref

variable (world : KjWorld) (ref : ConnRef)

/-! ## The parts of a step -/

@[simp] theorem conn_setConn_self (conn : KjConn) : (world.setConn ref conn).conn ref = conn := by
  simp [setConn, KjWorld.conn]

theorem conn_setConn_ne {other : ConnRef} (different : other ≠ ref) (conn : KjConn) :
    (world.setConn ref conn).conn other = world.conn other := by
  simp [setConn, KjWorld.conn, Function.update_of_ne different]

theorem conn_view : (world.view ref).conn = world.conn ref := rfl

theorem view_setConn_self (conn : KjConn) :
    (world.setConn ref conn).view ref = { world.view ref with conn := conn } := by
  have same := world.conn_setConn_self ref conn
  unfold view
  rw [same]
  rfl

theorem view_setConn_ne {other : ConnRef} (different : other ≠ ref) (conn : KjConn) :
    (world.setConn ref conn).view other = world.view other := by
  have same := world.conn_setConn_ne ref different conn
  unfold view
  rw [same]
  rfl

theorem view_notify_self (notices : List ConnNotice) :
    (world.notify ref notices).view ref = (world.view ref).notify ref notices := by
  have kept : (notices.map fun notice =>
      (⟨ref, notice, (world.conn ref).flags.bConnected⟩ : Notice)).filter
        (fun notice => notice.conn == ref) =
      notices.map fun notice => ⟨ref, notice, (world.conn ref).flags.bConnected⟩ := by
    apply List.filter_eq_self.mpr
    intro notice member
    rcases List.mem_map.mp member with ⟨_, _, rfl⟩
    exact beq_self_eq_true ref
  simp only [view, notify, ConnView.notify, List.filter_append, kept]
  rfl

theorem view_notify_ne {other : ConnRef} (different : other ≠ ref) (notices : List ConnNotice) :
    (world.notify ref notices).view other = world.view other := by
  have dropped : (notices.map fun notice =>
      (⟨ref, notice, (world.conn ref).flags.bConnected⟩ : Notice)).filter
        (fun notice => notice.conn == other) = [] := by
    apply List.filter_eq_nil_iff.mpr
    intro notice member
    rcases List.mem_map.mp member with ⟨_, _, rfl⟩
    simpa using different.symm
  simp only [view, notify, List.filter_append, dropped, List.append_nil]
  rfl

theorem counted_conn {cmd : NetCmd} {conn : ConnRef} (counted : cmd.counted = some conn) :
    cmd.conn = some conn := by
  cases cmd <;> first | exact counted | cases counted

theorem view_workQueue (workQueue : List NetCmd) :
    { world with workQueue := workQueue }.view ref =
      { world.view ref with todo := workQueue.filter fun cmd => cmd.conn == some ref } := rfl

theorem view_trunkQueue (trunkQueue : List TrunkCb) :
    { world with trunkQueue := trunkQueue }.view ref =
      { world.view ref with
        callbacks := trunkQueue.filter fun workCb => workCb.conn == some ref } := rfl

theorem view_frontStack (frontStack : List FrontRest) :
    { world with frontStack := frontStack }.view ref =
      { world.view ref with rests := frontStack.filter fun rest => rest.conn == ref } := rfl

theorem view_deferred (deferred : List ConnRef) :
    { world with deferred := deferred }.view ref =
      { world.view ref with deferred := deferred.count ref } := rfl

theorem view_enqueueCmd_self {cmd : NetCmd} (forRef : cmd.conn = some ref) :
    { world with workQueue := world.workQueue ++ [cmd] }.view ref =
      { world.view ref with todo := (world.view ref).todo ++ [cmd] } := by
  rw [view_workQueue, List.filter_append, List.filter_singleton, forRef, beq_self_eq_true]
  rfl

theorem view_enqueueCmd_ne {cmd : NetCmd} (forOther : cmd.conn ≠ some ref) :
    { world with workQueue := world.workQueue ++ [cmd] }.view ref = world.view ref := by
  rw [view_workQueue, List.filter_append, List.filter_singleton,
    beq_eq_false_iff_ne.mpr forOther, Bool.cond_false, List.append_nil]
  rfl

theorem view_commit_self {cmd : NetCmd} (forRef : cmd.conn = some ref) :
    (world.commit cmd).view ref = (world.view ref).commit cmd := by
  unfold commit ConnView.commit
  cases counted : cmd.counted with
  | none =>
      rw [Option.elim_none, view_enqueueCmd_self _ _ forRef]
      simp
  | some conn =>
      have same : conn = ref := Option.some.inj ((counted_conn counted).symm.trans forRef)
      subst same
      rw [Option.elim_some, view_enqueueCmd_self _ _ forRef, incrFrontEndProduceNum,
        view_setConn_self]
      rfl

theorem view_commit_ne {cmd : NetCmd} (forOther : cmd.conn ≠ some ref) :
    (world.commit cmd).view ref = world.view ref := by
  unfold commit
  rw [view_enqueueCmd_ne _ _ forOther]
  cases counted : cmd.counted with
  | none => rfl
  | some conn =>
      have different : ref ≠ conn := by
        rintro rfl
        exact forOther (counted_conn counted)
      exact view_setConn_ne _ _ different _

theorem view_enqueueCb_self {workCb : TrunkCb} (forRef : workCb.conn = some ref) :
    { world with trunkQueue := world.trunkQueue ++ [workCb] }.view ref =
      { world.view ref with callbacks := (world.view ref).callbacks ++ [workCb] } := by
  rw [view_trunkQueue, List.filter_append, List.filter_singleton, forRef, beq_self_eq_true]
  rfl

theorem view_enqueueCb_ne {workCb : TrunkCb} (forOther : workCb.conn ≠ some ref) :
    { world with trunkQueue := world.trunkQueue ++ [workCb] }.view ref = world.view ref := by
  rw [view_trunkQueue, List.filter_append, List.filter_singleton,
    beq_eq_false_iff_ne.mpr forOther, Bool.cond_false, List.append_nil]
  rfl

theorem view_post_self {workCb : TrunkCb} (forRef : workCb.conn = some ref) :
    (world.post workCb).view ref = (world.view ref).post workCb := by
  unfold post
  rw [view_enqueueCb_self _ _ forRef, forRef, Option.elim_some, incrBackEndProduceNum,
    view_setConn_self]
  rfl

theorem view_post_ne {workCb : TrunkCb} (forOther : workCb.conn ≠ some ref) :
    (world.post workCb).view ref = world.view ref := by
  unfold post
  rw [view_enqueueCb_ne _ _ forOther]
  cases posted : workCb.conn with
  | none => rfl
  | some conn =>
      have different : ref ≠ conn := by
        rintro rfl
        exact forOther posted
      exact view_setConn_ne _ _ different _

theorem view_manager (manager : ConnManager) :
    { world with manager := manager }.view ref =
      { world.view ref with
        created := decide (ref < manager.created)
        deleted := decide (manager.Deleted ref)
        recycled := decide (ref ∈ manager.vRecycler)
        isolated := decide (ref ∈ manager.isolateds)
        held := fun server => decide (ref ∈ (manager.clientsOf server).values)
        conn := ⟨world.states ref, manager.flags ref⟩ } := rfl

/-- A change of the manager that leaves the connection where it is. -/
theorem view_keeps {manager : ConnManager} (created : manager.created = world.manager.created)
    (flags : manager.flags = world.manager.flags)
    (keeps : ConnManager.Keeps world.manager manager ref) :
    { world with manager := manager }.view ref = world.view ref := by
  have held : (fun server => decide (ref ∈ (manager.clientsOf server).values)) =
      fun server => decide (ref ∈ (world.manager.clientsOf server).values) := by
    funext server
    exact decide_eq_decide.mpr (keeps.held server)
  rw [view_manager, created, flags, held, decide_eq_decide.mpr keeps.deleted,
    decide_eq_decide.mpr keeps.recycled, decide_eq_decide.mpr keeps.isolated]
  rfl

/-- A change of the manager that moves the connection to the recycler. -/
theorem view_recycled {manager : ConnManager}
    (created : manager.created = world.manager.created)
    (flags : manager.flags = world.manager.flags)
    (deleted : manager.Deleted ref ↔ world.manager.Deleted ref)
    (recycled : ref ∈ manager.vRecycler) :
    { world with manager := manager }.view ref =
      { world.view ref with
        recycled := true
        isolated := decide (ref ∈ manager.isolateds)
        held := fun server => decide (ref ∈ (manager.clientsOf server).values) } := by
  rw [view_manager, created, flags, decide_eq_decide.mpr deleted, decide_eq_true recycled]
  rfl

/-! ## The calls of the front end -/

variable {world} {next : KjWorld}

/-- The step concerns no other connection. -/
def Spares (world next : KjWorld) (ref : ConnRef) : Prop :=
  forall other, other ≠ ref -> next.view other = world.view other

theorem Spares.trans {middle : KjWorld} (first : Spares world middle ref)
    (second : Spares middle next ref) : Spares world next ref :=
  fun other different => (second other different).trans (first other different)

theorem spares_setConn (conn : KjConn) : Spares world (world.setConn ref conn) ref :=
  fun _ different => world.view_setConn_ne ref different conn

theorem spares_notify (notices : List ConnNotice) : Spares world (world.notify ref notices) ref :=
  fun _ different => world.view_notify_ne ref different notices

theorem spares_commit {cmd : NetCmd} (forRef : cmd.conn = some ref) :
    Spares world (world.commit cmd) ref := by
  intro other different
  apply view_commit_ne
  rw [forRef]
  intro same
  exact different (Option.some.inj same).symm

theorem spares_post {workCb : TrunkCb} (forRef : workCb.conn = some ref) :
    Spares world (world.post workCb) ref := by
  intro other different
  apply view_post_ne
  rw [forRef]
  intro same
  exact different (Option.some.inj same).symm

/-- `OnRemoveClient` of the factory. -/
theorem view_onRemoveClient (valid : world.manager.Formed ∧ world.manager.Placed) {server : Nat}
    {client : ConnRef} (done : world.onRemoveClient server client = some next) :
    RestStep client (world.view client) (.removeClient server client) (next.view client) ∧
      Spares world next client := by
  unfold onRemoveClient at done
  rw [← ConnManager.lookup_clientsOf] at done
  cases found : (world.manager.clientsOf server).lookup (world.manager.connId client) with
  | none =>
      rw [found] at done
      rcases Option.map_eq_some_iff.mp done with ⟨manager, removed, rfl⟩
      rcases ConnManager.onRemoveClient_places valid.1 valid.2 removed with ⟨rfl, _⟩ | ⟨held, _⟩
      · refine ⟨.absent _ server (decide_eq_false fun held => ?_), fun _ _ => rfl⟩
        rw [valid.1.held_iff.mp held] at found
        cases found
      · rw [show (world.manager.clientsOf server).lookup _ = _ from held] at found
        cases found
  | some client2 =>
      rw [found] at done
      simp only [Option.isSome_some, if_true] at done
      rcases Option.map_eq_some_iff.mp done with ⟨manager, removed, rfl⟩
      have released : (world.releaseConnection client).manager.Formed ∧
          (world.releaseConnection client).manager.Placed :=
        (world.routine_releaseConnection client).managed.valid valid
      rcases ConnManager.onRemoveClient_places released.1 released.2 removed with
        ⟨_, absent⟩ | ⟨_, created, flags, recycled, unheld, deleted, isolated, others⟩
      · have same : (world.manager.clientsOf server).lookup (world.manager.connId client) = none :=
          absent
        rw [same] at found
        cases found
      · have view_eq : { world.releaseConnection client with manager := manager }.view client =
            { (world.view client).commit (.disposeConnection client) with
              held := fun _ => false, recycled := true } := by
          have nowhere : (fun place => decide (client ∈ (manager.clientsOf place).values)) =
              fun _ => false := by
            funext place
            exact decide_eq_false (unheld place)
          have committed : (world.releaseConnection client).view client =
              (world.view client).commit (.disposeConnection client) := view_commit_self _ _ rfl
          rw [view_recycled _ _ created flags deleted recycled, nowhere,
            decide_eq_decide.mpr isolated, ← committed]
          rfl
        rw [view_eq]
        refine ⟨.removed _ server, ?_⟩
        intro other different
        rw [view_keeps _ _ created flags (others other different)]
        exact spares_commit client rfl other different

theorem view_runRest (valid : world.manager.Formed ∧ world.manager.Placed) {rest : FrontRest}
    (mine : rest.conn = ref) (done : world.runRest rest = some next) :
    RestStep ref (world.view ref) rest (next.view ref) ∧ Spares world next ref := by
  subst mine
  cases rest with
  | removeClient server client => exact view_onRemoveClient valid done
  | releaseConnection conn =>
      cases done
      refine ⟨?_, spares_commit conn rfl⟩
      have committed : (world.releaseConnection conn).view conn =
          (world.view conn).commit (.disposeConnection conn) := view_commit_self _ _ rfl
      rw [FrontRest.conn, committed]
      exact .released _
  | delayReconnect isolated nDelaySeconds =>
      cases done
      refine ⟨?_, spares_commit isolated rfl⟩
      rw [FrontRest.conn, view_commit_self _ _ rfl]
      exact .delayed _ nDelaySeconds

/-- A call on the object that notifies. -/
theorem view_tell (world : KjWorld) (result : KjConn × List ConnNotice) :
    ((world.setConn ref result.1).notify ref result.2).view ref =
      (world.view ref).tell ref result := by
  rw [view_notify_self, view_setConn_self]
  rfl

theorem spares_tell (world : KjWorld) (result : KjConn × List ConnNotice) :
    Spares world ((world.setConn ref result.1).notify ref result.2) ref :=
  (spares_setConn ref _).trans ref (spares_notify ref _)

/-- What is left for after the handlers is about this connection. -/
theorem view_push (world : KjWorld) {rests : List FrontRest}
    (mine : forall rest, rest ∈ rests -> rest.conn = ref) :
    { world with frontStack := rests ++ world.frontStack }.view ref =
      { world.view ref with rests := rests ++ (world.view ref).rests } := by
  have kept : rests.filter (fun rest => rest.conn == ref) = rests := by
    apply List.filter_eq_self.mpr
    intro rest member
    exact beq_iff_eq.mpr (mine rest member)
  rw [view_frontStack, List.filter_append, kept]
  rfl

theorem spares_push (world : KjWorld) {rests : List FrontRest}
    (mine : forall rest, rest ∈ rests -> rest.conn = ref) :
    Spares world { world with frontStack := rests ++ world.frontStack } ref := by
  intro other different
  have dropped : rests.filter (fun rest => rest.conn == other) = [] := by
    apply List.filter_eq_nil_iff.mpr
    intro rest member
    rw [mine rest member, beq_iff_eq]
    exact different.symm
  rw [view_frontStack, List.filter_append, dropped, List.nil_append]
  rfl

theorem continueWith_nil (world : KjWorld) (rests : List FrontRest) :
    world.continueWith [] rests = rests.foldlM runRest world := rfl

theorem stopRunning_connected {conn : KjConn} (connected : conn.flags.bConnected = true) :
    conn.stopRunning.2 = [.disconnected] := by
  simp [KjConn.stopRunning, KjConn.onDisconnect, connected]

theorem stopRunning_disconnected {conn : KjConn} (disconnected : conn.flags.bConnected = false) :
    conn.stopRunning = ({ conn with bRunning := false }, []) := by
  simp [KjConn.stopRunning, KjConn.onDisconnect, disconnected]

theorem release_conn (view : ConnView) : (view.release ref).conn = ref := by
  unfold ConnView.release
  split <;> rfl

/-- The half of `Disconnect` before the handlers. -/
theorem view_stopped (world : KjWorld) {rests : List FrontRest}
    (mine : forall rest, rest ∈ rests -> rest.conn = ref)
    (running : (world.conn ref).flags.bDisposed = false ∧ (world.conn ref).bRunning = true)
    (connected : (world.conn ref).flags.bConnected = true)
    (done : world.disconnectThen ref rests = some next) :
    next.view ref = { (world.view ref).tell ref (world.view ref).conn.stopRunning with
        rests := (world.view ref).release ref :: rests ++ (world.view ref).rests } ∧
      Spares world next ref := by
  have notified : (world.conn ref).stopRunning.2.isEmpty = false := by
    rw [stopRunning_connected connected]
    rfl
  unfold disconnectThen at done
  dsimp only at done
  rw [running.1, running.2, Bool.not_false, Bool.and_self, if_pos rfl, continueWith, notified,
    if_neg Bool.false_ne_true] at done
  cases done
  have all : forall rest, rest ∈ (world.view ref).release ref :: rests -> rest.conn = ref := by
    intro rest member
    rcases List.mem_cons.mp member with rfl | later
    · exact release_conn ref _
    · exact mine rest later
  refine ⟨(view_push ref _ all).trans ?_, (spares_tell ref world _).trans ref
    (spares_push ref _ all)⟩
  rw [view_tell]
  rfl

/-- `Disconnect` of a connection that is not connected. -/
theorem view_stoppedUnconnected (valid : world.manager.Formed ∧ world.manager.Placed)
    (running : (world.conn ref).flags.bDisposed = false ∧ (world.conn ref).bRunning = true)
    (disconnected : (world.conn ref).flags.bConnected = false)
    (done : world.disconnectThen ref [] = some next) :
    RestStep ref { world.view ref with conn := (world.view ref).conn.stopRunning.1 }
        ((world.view ref).release ref) (next.view ref) ∧ Spares world next ref := by
  have quiet : (world.conn ref).stopRunning.2 = [] := by
    rw [stopRunning_disconnected disconnected]
  unfold disconnectThen at done
  dsimp only at done
  rw [running.1, running.2, Bool.not_false, Bool.and_self, if_pos rfl, quiet, continueWith_nil,
    List.foldlM_cons] at done
  rcases Option.bind_eq_some_iff.mp done with ⟨last, released, same⟩
  cases same
  have routine : Routine true world ((world.setConn ref (world.conn ref).stopRunning.1).notify
      ref []) :=
    (world.routine_setConn ref (KjConn.stopRunning_sameObject _).refServer).trans
      (routine_notify _ ref _)
  have runs := view_runRest ref (routine.managed.valid valid) (release_conn ref (world.view ref))
    released
  have view_eq : ((world.setConn ref (world.conn ref).stopRunning.1).notify ref []).view ref =
      { world.view ref with conn := (world.conn ref).stopRunning.1 } := by
    rw [view_notify_self, view_setConn_self, ConnView.notify]
    simp
  rw [view_eq] at runs
  exact ⟨runs.1, ((spares_setConn ref _).trans ref (spares_notify ref _)).trans ref runs.2⟩

/-! ## The callbacks -/

/-- The first callback is taken out and counted. -/
theorem view_start {workCb : TrunkCb} {queue : List TrunkCb}
    (first : world.trunkQueue = workCb :: queue) (forRef : workCb.conn = some ref) :
    Exists fun callbacks => (world.view ref).callbacks = workCb :: callbacks ∧
      ({ world with trunkQueue := queue }.incrFrontEndConsumeNum ref).view ref =
        (world.view ref).start callbacks ∧
      Spares world ({ world with trunkQueue := queue }.incrFrontEndConsumeNum ref) ref := by
  have mine : (workCb.conn == some ref) = true := by
    rw [forRef]
    exact beq_self_eq_true _
  refine ⟨queue.filter fun other => other.conn == some ref, ?_, ?_, ?_⟩
  · change world.trunkQueue.filter _ = _
    rw [first, List.filter_cons, if_pos mine]
  · rw [incrFrontEndConsumeNum, view_setConn_self]
    rfl
  · intro other different
    have foreign : ¬ (workCb.conn == some other) = true := by
      rw [forRef, beq_iff_eq]
      intro same
      exact different (Option.some.inj same).symm
    rw [incrFrontEndConsumeNum, view_setConn_ne _ _ different, view_trunkQueue]
    have skipped : (world.view other).callbacks =
        queue.filter fun workCb => workCb.conn == some other := by
      change world.trunkQueue.filter _ = _
      rw [first, List.filter_cons, if_neg foreign]
    rw [← skipped]

theorem onDisconnect_connected {conn : KjConn} (connected : conn.flags.bConnected = true) :
    conn.onDisconnect.2 = [.disconnected] := by
  simp [KjConn.onDisconnect, connected]

theorem onDisconnect_disconnected {conn : KjConn} (disconnected : conn.flags.bConnected = false) :
    conn.onDisconnect = (conn, []) := by
  simp [KjConn.onDisconnect, disconnected]

/-- The disconnect callback of a client, once it has been counted. -/
theorem view_clientDisconnect (valid : world.manager.Formed ∧ world.manager.Placed) {server : Nat}
    {client : ConnRef}
    (done : ((world.setConn client (world.conn client).onDisconnect.1).notify client
      (world.conn client).onDisconnect.2).continueWith (world.conn client).onDisconnect.2
        [.removeClient server client] = some next) :
    CbStep client (world.view client) (.clientDisconnect server client) (next.view client) ∧
      Spares world next client := by
  have spared := spares_tell client world (world.conn client).onDisconnect
  have told := view_tell client world (world.conn client).onDisconnect
  cases connected : (world.conn client).flags.bConnected with
  | true =>
      have notified : (world.conn client).onDisconnect.2.isEmpty = false := by
        rw [onDisconnect_connected connected]
        rfl
      rw [continueWith, notified, if_neg Bool.false_ne_true] at done
      cases done
      have mine : forall rest, rest ∈ [FrontRest.removeClient server client] ->
          rest.conn = client := by
        intro rest member
        rw [List.mem_singleton.mp member]
        rfl
      refine ⟨?_, spared.trans client (spares_push client _ mine)⟩
      rw [view_push client _ mine, told]
      exact .clientLost _ server connected
  | false =>
      have routine : Routine true world ((world.setConn client
          (world.conn client).onDisconnect.1).notify client (world.conn client).onDisconnect.2) :=
        (world.routine_setConn client (KjConn.onDisconnect_sameObject _).refServer).trans
          (routine_notify _ client _)
      have view_eq : (world.view client).tell client (world.conn client).onDisconnect =
          world.view client := by
        rw [onDisconnect_disconnected connected, ConnView.tell, ConnView.notify]
        simp [view]
      rw [view_eq] at told
      rw [onDisconnect_disconnected connected] at done told spared routine
      rw [continueWith_nil, List.foldlM_cons] at done
      rcases Option.bind_eq_some_iff.mp done with ⟨last, removed, same⟩
      cases same
      have runs := view_runRest client (routine.managed.valid valid) rfl removed
      rw [told] at runs
      exact ⟨.clientGone _ _ server connected runs.1, spared.trans client runs.2⟩

/-- A callback about a connection. -/
theorem view_runWorkCb (valid : world.manager.Formed ∧ world.manager.Placed) {workCb : TrunkCb}
    {queue : List TrunkCb} (first : world.trunkQueue = workCb :: queue)
    (forRef : workCb.conn = some ref)
    (done : { world with trunkQueue := queue }.runWorkCb workCb = some next) :
    (Exists fun callbacks => (world.view ref).callbacks = workCb :: callbacks ∧
      CbStep ref ((world.view ref).start callbacks) workCb (next.view ref)) ∧
    Spares world next ref := by
  rcases view_start ref first forRef with ⟨callbacks, split, started, spared⟩
  have counted : Routine true { world with trunkQueue := queue }
      ({ world with trunkQueue := queue }.incrFrontEndConsumeNum ref) :=
    routine_incrFrontEndConsumeNum _ ref
  cases workCb with
  | acceptClient server streamptr => cases forRef
  | clientDisconnect server client =>
      cases forRef
      rcases view_clientDisconnect (counted.managed.valid valid) done with ⟨runs, others⟩
      rw [started] at runs
      exact ⟨⟨callbacks, split, runs⟩, spared.trans ref others⟩
  | isolatedConnect isolated =>
      cases forRef
      cases done
      refine ⟨⟨callbacks, split, ?_⟩, spared.trans ref (spares_tell ref _ _)⟩
      rw [onConnect, view_tell, started]
      have same : ({ world with trunkQueue := queue }.incrFrontEndConsumeNum ref).conn ref =
          ((world.view ref).start callbacks).conn := congrArg ConnView.conn started
      rw [same]
      exact .linkReported _
  | isolatedDisconnect isolated =>
      cases forRef
      cases done
      refine ⟨⟨callbacks, split, ?_⟩, spared.trans ref (spares_tell ref _ _)⟩
      rw [view_tell, started]
      have same : ({ world with trunkQueue := queue }.incrFrontEndConsumeNum ref).conn ref =
          ((world.view ref).start callbacks).conn := congrArg ConnView.conn started
      rw [same]
      exact .linkLost _
  | packet conn uConnId body =>
      cases forRef
      simp only [runWorkCb] at done
      split at done
      · cases done
        refine ⟨⟨callbacks, split, ?_⟩, spared.trans ref (spares_notify ref _)⟩
        rw [view_notify_self, started]
        exact .packet _ uConnId body
      · cases done
  | innerPacket conn uConnId body =>
      cases forRef
      simp only [runWorkCb] at done
      split at done
      · cases done
        refine ⟨⟨callbacks, split, ?_⟩, spared.trans ref (spares_notify ref _)⟩
        rw [view_notify_self, started]
        exact .innerPacket _ uConnId body
      · cases done

/-! ## New connections -/

theorem conn_created (world : KjWorld) {manager : ConnManager} {state : KjState} {bFlushed : Bool}
    (flags : manager.flags =
      Function.update world.manager.flags world.manager.created (.initial bFlushed)) :
    { world with
      manager := manager
      states := Function.update world.states world.manager.created state }.conn
        world.manager.created = ⟨state, .initial bFlushed⟩ := by
  simp [KjWorld.conn, flags]

theorem conn_created_ne (world : KjWorld) {manager : ConnManager} {state : KjState} {bFlushed : Bool}
    (flags : manager.flags =
      Function.update world.manager.flags world.manager.created (.initial bFlushed))
    {other : ConnRef} (different : other ≠ world.manager.created) :
    { world with
      manager := manager
      states := Function.update world.states world.manager.created state }.conn other =
      world.conn other := by
  simp [KjWorld.conn, flags, Function.update_of_ne different]

theorem view_manager_states (world : KjWorld) (manager : ConnManager)
    (states : ConnRef -> KjState) :
    { world with manager := manager, states := states }.view ref =
      { world.view ref with
        created := decide (ref < manager.created)
        deleted := decide (manager.Deleted ref)
        recycled := decide (ref ∈ manager.vRecycler)
        isolated := decide (ref ∈ manager.isolateds)
        held := fun server => decide (ref ∈ (manager.clientsOf server).values)
        conn := { world with manager := manager, states := states }.conn ref } := rfl

/-- An older connection keeps its view, but may lose its entry. -/
theorem view_displaced (world : KjWorld) {manager : ConnManager} (state : KjState) {bFlushed : Bool}
    (more : manager.created = world.manager.created + 1)
    (flags : manager.flags =
      Function.update world.manager.flags world.manager.created (.initial bFlushed))
    (recycler : manager.vRecycler = world.manager.vRecycler)
    (deletions : manager.deletions = world.manager.deletions)
    {other : ConnRef} (different : other ≠ world.manager.created) :
    { world with
      manager := manager
      states := Function.update world.states world.manager.created state }.view other =
      { world.view other with
        held := fun server => decide (other ∈ (manager.clientsOf server).values)
        isolated := decide (other ∈ manager.isolateds) } := by
  have older : (decide (other < manager.created)) = decide (other < world.manager.created) := by
    apply decide_eq_decide.mpr
    rw [more]
    constructor
    · intro below
      exact Nat.lt_of_le_of_ne (Nat.le_of_lt_succ below) different
    · exact Nat.lt_succ_of_lt
  have deleted : decide (manager.Deleted other) = decide (world.manager.Deleted other) := by
    apply decide_eq_decide.mpr
    rw [ConnManager.Deleted, deletions]
    rfl
  rw [view_manager_states, conn_created_ne world flags different, older, deleted, recycler]
  rfl

theorem view_new (world : KjWorld) {manager : ConnManager} (state : KjState) {bFlushed : Bool}
    (more : manager.created = world.manager.created + 1)
    (flags : manager.flags =
      Function.update world.manager.flags world.manager.created (.initial bFlushed))
    (recycler : manager.vRecycler = world.manager.vRecycler)
    (deletions : manager.deletions = world.manager.deletions) :
    { world with
      manager := manager
      states := Function.update world.states world.manager.created state }.view
        world.manager.created =
      { world.view world.manager.created with
        created := true
        held := fun server =>
          decide (world.manager.created ∈ (manager.clientsOf server).values)
        isolated := decide (world.manager.created ∈ manager.isolateds)
        conn := ⟨state, .initial bFlushed⟩ } := by
  have newer : decide (world.manager.created < manager.created) = true := by
    apply decide_eq_true
    omega
  have deleted : decide (manager.Deleted world.manager.created) =
      decide (world.manager.Deleted world.manager.created) := by
    apply decide_eq_decide.mpr
    rw [ConnManager.Deleted, deletions]
    rfl
  rw [view_manager_states, conn_created world flags, newer, deleted, recycler]
  rfl

/-- A callback about no connection is taken out. -/
theorem view_dequeueCb {workCb : TrunkCb} {queue : List TrunkCb}
    (first : world.trunkQueue = workCb :: queue) (forNone : workCb.conn = none) :
    { world with trunkQueue := queue }.view ref = world.view ref := by
  have foreign : ¬ (workCb.conn == some ref) = true := by
    rw [forNone]
    exact Bool.false_ne_true
  have skipped : (world.view ref).callbacks =
      queue.filter fun workCb => workCb.conn == some ref := by
    change world.trunkQueue.filter _ = _
    rw [first, List.filter_cons, if_neg foreign]
  rw [view_trunkQueue, ← skipped]

/-- A client is accepted. -/
theorem view_onAcceptClient (consistent : world.Consistent)
    (untouched : (world.view world.manager.created).Untouched) {server streamptr : Nat}
    (open_ : (world.servers server).closed = false)
    (done : world.onAcceptClient server streamptr = some next) :
    ConnStep ref (world.view ref) .runCallback (next.view ref) := by
  rcases Option.map_eq_some_iff.mp done with ⟨manager, created, rfl⟩
  rcases ConnManager.createTcpClientOnServer_places consistent.manager.2 created with
    ⟨more, flags, recycler, isolateds, deletions, held, others⟩
  by_cases new : ref = world.manager.created
  · subst new
    have absent : (world.view world.manager.created).created = false :=
      decide_eq_false (Nat.lt_irrefl _)
    have here : (fun place => decide (world.manager.created ∈ (manager.clientsOf place).values)) =
        fun place => decide (place = server) := by
      funext place
      exact decide_eq_decide.mpr (held place)
    have made := view_new world
      (.initial (if world.gate then .gateClientConn else .clientConn) server)
      more flags recycler deletions
    rw [here, isolateds] at made
    rw [onConnect, view_tell, ← conn_view, view_commit_self _ _ rfl, made]
    refine .accepted _ (if world.gate then .gateClientConn else .clientConn) server streamptr absent
      untouched ?_ open_
    split <;> rfl
  · rw [onConnect, spares_tell _ _ _ ref new, spares_commit _ rfl ref new,
      view_displaced world _ more flags recycler deletions new, isolateds]
    refine .displaced _ _ _ _ rfl ?_ id ?_
    · intro place lost
      exact decide_eq_true (others ref new place (of_decide_eq_true lost))
    · intro place closed
      have elsewhere : place ≠ server := by
        rintro rfl
        exact absurd (open_.symm.trans closed) Bool.false_ne_true
      change decide (ref ∈ (manager.clientsOf place).values) = _
      rw [ConnManager.createTcpClientOnServer_elsewhere created elsewhere]
      rfl

theorem view_createIsolated (untouched : (world.view world.manager.created).Untouched)
    {kind : KjClass} (isolated : kind.isClient = false) {event : WorldEvent}
    (elsewhere : event.target = none) (done : world.createIsolated kind = some next) :
    ConnStep ref (world.view ref) event (next.view ref) := by
  rcases Option.map_eq_some_iff.mp done with ⟨manager, created, rfl⟩
  rcases ConnManager.createTcpIsolated_places created with
    ⟨more, flags, recycler, entries, deletions, added, others⟩
  have held : forall conn, (fun server => decide (conn ∈ (manager.clientsOf server).values)) =
      (world.view conn).held := by
    intro conn
    funext server
    rw [ConnManager.clientsOf, entries]
    rfl
  by_cases new : ref = world.manager.created
  · subst new
    have absent : (world.view world.manager.created).created = false :=
      decide_eq_false (Nat.lt_irrefl _)
    rw [view_new world _ more flags recycler deletions, held, decide_eq_true added]
    exact .isolatedCreated _ event kind elsewhere absent untouched isolated
  · rw [view_displaced world _ more flags recycler deletions new, held]
    refine .displaced _ _ _ _ elsewhere (fun _ => id) ?_ fun _ _ => rfl
    intro still
    exact decide_eq_true (others ref new (of_decide_eq_true still))

/-! ## Loops over connections -/

/-- A loop that meets no connection twice does to each what its body does. -/
theorem view_foldl {body : KjWorld -> ConnEntry -> KjWorld}
    (effect : ConnRef -> ConnView -> ConnView) (Fits : KjWorld -> Prop) (order : List ConnEntry)
    (keep : forall state entry, Fits state -> Fits (body state entry))
    (self : forall state entry, entry ∈ order -> Fits state ->
      (body state entry).view entry.2 = effect entry.2 (state.view entry.2))
    (spares : forall state entry, Spares state (body state entry) entry.2)
    (nodup : (order.map Sigma.snd).Nodup) (world : KjWorld) (start : Fits world) :
    (order.foldl body world).view ref =
      if ref ∈ order.map Sigma.snd then effect ref (world.view ref) else world.view ref := by
  induction order generalizing world with
  | nil => rfl
  | cons entry order inductionHypothesis =>
      rw [List.map_cons, List.nodup_cons] at nodup
      have later := inductionHypothesis
        (fun state other member => self state other (List.mem_cons_of_mem _ member)) nodup.2
        (body world entry) (keep world entry start)
      rw [List.foldl_cons, later, List.map_cons]
      by_cases here : ref = entry.2
      · subst here
        rw [if_neg nodup.1, if_pos (List.mem_cons_self ..)]
        exact self world entry (List.mem_cons_self ..) start
      · have same := spares world entry ref here
        simp only [List.mem_cons, here, false_or, same]

theorem view_releaseAllClients (valid : world.manager.Formed ∧ world.manager.Placed)
    {server : Nat} {order : List ConnEntry} (closed : (world.servers server).closed = true)
    (done : world.releaseAllClients server order = some next) :
    ConnStep ref (world.view ref) (.releaseAllClients server order) (next.view ref) := by
  unfold releaseAllClients at done
  split at done
  · rename_i iterates
    rcases Option.map_eq_some_iff.mp done with ⟨manager, released, rfl⟩
    have loop : (order.foldl (fun state entry => state.releaseConnection entry.2) world).view ref =
        _ := view_foldl ref (fun conn view => view.commit (.disposeConnection conn))
      (fun _ => True) order (fun _ _ _ => trivial)
      (fun state entry _ _ => state.view_commit_self entry.2 rfl)
      (fun state entry => spares_commit entry.2 rfl)
      (valid.2.clientsOf_nodup iterates) world trivial
    have routine : Routine true world
        (order.foldl (fun state entry => state.releaseConnection entry.2) world) :=
      Routine.foldl _ (fun state entry => state.routine_releaseConnection entry.2) order world
    rcases routine.managed.valid valid with ⟨formed, placed⟩
    rcases ConnManager.releaseAllClients_places formed placed released with ⟨created, flags, moved⟩
    by_cases member : ref ∈ order.map Sigma.snd
    · have held : (world.view ref).held server = true :=
        decide_eq_true ((KeyedMap.values_of_perm iterates).mem_iff.mp member)
      rw [if_pos member] at loop
      have heldAfter := (congrArg (fun view => ConnView.held view server) loop).trans held
      rcases (moved ref).1 (of_decide_eq_true heldAfter) with ⟨recycled, unheld, deleted, isolated⟩
      have nowhere : (fun place => decide (ref ∈ (manager.clientsOf place).values)) =
          fun _ => false := by
        funext place
        exact decide_eq_false (unheld place)
      have isolatedBefore : decide (ref ∈ manager.isolateds) = (world.view ref).isolated :=
        (decide_eq_decide.mpr isolated).trans (congrArg ConnView.isolated loop)
      rw [view_recycled _ _ created flags deleted recycled, nowhere, isolatedBefore, loop]
      exact .clientReleased _ server order held closed
    · have absent : (world.view ref).held server = false := by
        apply decide_eq_false
        intro held
        exact member ((KeyedMap.values_of_perm iterates).mem_iff.mpr held)
      rw [if_neg member] at loop
      have absentAfter := (congrArg (fun view => ConnView.held view server) loop).trans absent
      rw [view_keeps _ _ created flags ((moved ref).2 (of_decide_eq_false absentAfter))]
      rw [loop]
      exact .other _ _ (by intro impossible; cases impossible)
  · cases done

theorem view_releaseIsolated (world : KjWorld) (isolated : ConnRef) :
    (world.releaseIsolated isolated).view isolated =
      (world.view isolated).releaseIsolated isolated ∧
    Spares world (world.releaseIsolated isolated) isolated := by
  unfold releaseIsolated ConnView.releaseIsolated
  dsimp only
  rw [conn_view]
  split
  · refine ⟨?_, ?_⟩
    · rw [releaseConnection, releaseConnection, view_commit_self _ _ rfl, view_commit_self _ _ rfl,
        view_tell]
    · exact ((spares_tell isolated world _).trans isolated (spares_commit isolated rfl)).trans
        isolated (spares_commit isolated rfl)
  · exact ⟨view_commit_self _ _ rfl, spares_commit isolated rfl⟩

theorem view_unblocked (unblocked : ¬ world.Blocked) :
    forall cmd, cmd ∈ (world.view ref).pendingCmds -> cmd.blocking = false := by
  intro cmd member
  apply unblocked_iff.mp unblocked cmd
  unfold ConnView.pendingCmds at member
  unfold pendingCmds
  rcases List.mem_append.mp member with executing | todo
  · have filtered := Option.mem_toList.mp executing
    exact List.mem_append_left _ (Option.mem_toList.mpr (Option.filter_eq_some_iff.mp filtered).1)
  · exact List.mem_append_right _ (List.mem_filter.mp todo).1

theorem view_releaseAllIsolateds (valid : world.manager.Formed ∧ world.manager.Placed)
    (unblocked : ¬ world.Blocked) {order : List ConnEntry}
    (done : world.releaseAllIsolateds order = some next) :
    ConnStep ref (world.view ref) (.releaseAllIsolateds order) (next.view ref) := by
  unfold releaseAllIsolateds at done
  dsimp only at done
  rcases Option.map_eq_some_iff.mp done with ⟨manager, released, rfl⟩
  rcases ConnManager.releaseAllIsolateds_places released with ⟨iterates, created, flags, moved⟩
  have routine : Routine true world
      (order.foldl (fun state entry => state.releaseIsolated entry.2) world) :=
    Routine.foldl _ (fun state entry => routine_releaseIsolated state entry.2) order world
  have nodup := (routine.managed.valid valid).2.isolateds_nodup iterates
  have loop : (order.foldl (fun state entry => state.releaseIsolated entry.2) world).view ref = _ :=
    view_foldl ref (fun conn view => view.releaseIsolated conn) (fun _ => True) order
      (fun _ _ _ => trivial) (fun state entry _ _ => (view_releaseIsolated state entry.2).1)
      (fun state entry => (view_releaseIsolated state entry.2).2) nodup world trivial
  have same : (world.view ref).isolated = (ConnView.isolated
      ((order.foldl (fun state entry => state.releaseIsolated entry.2) world).view ref)) := by
    rw [loop]
    split
    · unfold ConnView.releaseIsolated
      dsimp only
      split <;> rfl
    · rfl
  have met : ref ∈ order.map Sigma.snd ↔ ref ∈ ConnManager.isolateds
      (order.foldl (fun state entry => state.releaseIsolated entry.2) world).manager :=
    (KeyedMap.values_of_perm iterates).mem_iff
  by_cases member : ref ∈ order.map Sigma.snd
  · have isolated : (world.view ref).isolated = true := same.trans (decide_eq_true (met.mp member))
    rcases (moved ref).1 (met.mp member) with ⟨recycled, gone, deleted, held⟩
    rw [if_pos member] at loop
    have heldBefore : (fun place => decide (ref ∈ (manager.clientsOf place).values)) =
        ((world.view ref).releaseIsolated ref).held := by
      rw [← loop]
      funext place
      exact decide_eq_decide.mpr (held place)
    rw [view_recycled _ _ created flags deleted recycled, decide_eq_false gone, heldBefore, loop]
    exact .isolatedReleased _ order isolated (view_unblocked ref unblocked)
  · rw [if_neg member] at loop
    rw [view_keeps _ _ created flags ((moved ref).2 (fun isolated => member (met.mpr isolated))),
      loop]
    exact .other _ _ (by intro impossible; cases impossible)

/-- `Recycle`. -/
theorem view_recycle (idle : world.manager.vSafeToRelease = []) (unblocked : ¬ world.Blocked)
    (returned : world.frontStack = []) :
    ConnStep ref (world.view ref) .recycle
      ({ world with manager := world.manager.recycle }.view ref) := by
  rcases ConnManager.recycle_places idle ref with ⟨taken, kept⟩
  by_cases releases : ref ∈ world.manager.vRecycler ∧ (world.manager.flags ref).SafeToRelease
  · rcases taken releases with ⟨deleted, gone⟩
    rw [view_manager _ _ world.manager.recycle, decide_eq_true deleted, decide_eq_false gone]
    have rests : (world.view ref).rests = [] := by
      change world.frontStack.filter _ = []
      rw [returned]
      rfl
    exact .deleted _ (decide_eq_true releases.1) rests (view_unblocked ref unblocked) releases.2
  · have same : { world with manager := world.manager.recycle }.view ref = world.view ref :=
      view_keeps _ _ rfl rfl (kept releases)
    rw [same]
    exact .other _ _ (by intro impossible; cases impossible)

end KjWorld
end NetSystem
