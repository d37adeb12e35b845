import NetSystem.Tcp.ConnPlaces
import NetSystem.Tcp.KjWorld

namespace NetSystem

/-!
# Blocking commands and accepted streams

Two facts about the whole factory that the connections rely on.  A blocking
command is the last command there is: the front end waits for it.  And the
stream of a client is in the dictionary of its server from the accept callback
until the client is confirmed, which happens before the server is closed.

Most of a step is routine: it changes connections, sends them commands and
posts callbacks about them, which neither fact notices.
-/

/-- A command that does not block and does not concern the streams of a
server. -/
def NetCmd.plain : NetCmd -> Bool
  | .disposeConnection _ => true
  | .postPacket _ _ => true
  | .isolatedDelayReconnect _ _ => true
  | _ => false

theorem NetCmd.not_blocking_of_plain {cmd : NetCmd} (plain : cmd.plain = true) :
    cmd.blocking = false := by
  cases cmd <;> first | rfl | cases plain

namespace KjWorld

/-! ## Routine parts of a step -/

/-- The manager has taken steps of its own. -/
def Managed (world next : KjWorld) : Prop :=
  Exists fun events => Run ConnManager.Step world.manager events next.manager

namespace Managed

variable {world middle next : KjWorld}

theorem refl (world : KjWorld) : Managed world world := ⟨[], .nil _⟩

theorem of_manager_eq (same : next.manager = world.manager) : Managed world next := by
  rw [Managed, same]
  exact ⟨[], .nil _⟩

theorem trans (first : Managed world middle) (second : Managed middle next) :
    Managed world next := by
  rcases first with ⟨before, left⟩
  rcases second with ⟨after, right⟩
  exact ⟨before ++ after, left.append right⟩

theorem single {event : ConnEvent} (step : world.manager.Step event next.manager) :
    Managed world next :=
  ⟨[event], .single step⟩

theorem valid (managed : Managed world next)
    (before : world.manager.Formed ∧ world.manager.Placed) :
    next.manager.Formed ∧ next.manager.Placed := by
  rcases managed with ⟨events, run⟩
  exact run.invariant (fun manager => manager.Formed ∧ manager.Placed)
    (fun _ _ _ kept step => ⟨kept.1.step step, kept.2.step kept.1 step⟩) before

theorem created_le (managed : Managed world next) :
    world.manager.created ≤ next.manager.created := by
  rcases managed with ⟨events, run⟩
  exact ConnManager.created_le_of_run run

end Managed

/-- A part of a step that concerns connections only.  Where `commits` is false
it adds no command. -/
structure Routine (commits : Bool) (world next : KjWorld) : Prop where
  managed : Managed world next
  executing : next.executing = world.executing
  servers : next.servers = world.servers
  refServer : forall ref, (next.states ref).refServer = (world.states ref).refServer
  cmds : Exists fun cmds => next.workQueue = world.workQueue ++ cmds ∧
    (forall cmd, cmd ∈ cmds -> cmd.plain = true) ∧ (commits = false -> cmds = [])
  callbacks : Exists fun callbacks => next.trunkQueue = world.trunkQueue ++ callbacks ∧
    forall workCb, workCb ∈ callbacks -> workCb.conn.isSome = true

namespace Routine

variable {commits : Bool} {world middle next : KjWorld}

theorem refl (commits : Bool) (world : KjWorld) : Routine commits world world where
  managed := .refl world
  executing := rfl
  servers := rfl
  refServer := fun _ => rfl
  cmds := ⟨[], by simp⟩
  callbacks := ⟨[], by simp⟩

theorem trans (first : Routine commits world middle) (second : Routine commits middle next) :
    Routine commits world next where
  managed := first.managed.trans second.managed
  executing := second.executing.trans first.executing
  servers := second.servers.trans first.servers
  refServer := fun ref => (second.refServer ref).trans (first.refServer ref)
  cmds := by
    rcases first.cmds with ⟨before, beforeEq, beforePlain, beforeNone⟩
    rcases second.cmds with ⟨after, afterEq, afterPlain, afterNone⟩
    refine ⟨before ++ after, by rw [afterEq, beforeEq, List.append_assoc], ?_, ?_⟩
    · intro cmd member
      rcases List.mem_append.mp member with early | late
      · exact beforePlain cmd early
      · exact afterPlain cmd late
    · intro none_
      rw [beforeNone none_, afterNone none_]
      rfl
  callbacks := by
    rcases first.callbacks with ⟨before, beforeEq, beforeConn⟩
    rcases second.callbacks with ⟨after, afterEq, afterConn⟩
    refine ⟨before ++ after, by rw [afterEq, beforeEq, List.append_assoc], ?_⟩
    intro workCb member
    rcases List.mem_append.mp member with early | late
    · exact beforeConn workCb early
    · exact afterConn workCb late

/-- A loop of routine parts. -/
theorem foldl {α : Type} (body : KjWorld -> α -> KjWorld)
    (once : forall state item, Routine commits state (body state item)) (items : List α)
    (world : KjWorld) : Routine commits world (items.foldl body world) := by
  induction items generalizing world with
  | nil => exact .refl commits world
  | cons item items inductionHypothesis => exact (once world item).trans (inductionHypothesis _)

end Routine

variable {commits : Bool} (world : KjWorld) (ref : ConnRef)

theorem routine_setConn {conn : KjConn} (same : conn.refServer = (world.conn ref).refServer) :
    Routine commits world (world.setConn ref conn) where
  managed := .single (show world.manager.Step (.setFlags ref conn.flags) _ from rfl)
  executing := rfl
  servers := rfl
  refServer := by
    intro other
    by_cases here : other = ref
    · subst here
      have kept : conn.refServer = (world.states other).refServer := same
      simpa [setConn] using kept
    · simp [setConn, Function.update_of_ne here]
  cmds := ⟨[], by simp [setConn]⟩
  callbacks := ⟨[], by simp [setConn]⟩

theorem routine_incrFrontEndProduceNum : Routine commits world (world.incrFrontEndProduceNum ref) :=
  world.routine_setConn ref rfl

theorem routine_incrBackEndProduceNum : Routine commits world (world.incrBackEndProduceNum ref) :=
  world.routine_setConn ref rfl

theorem routine_incrFrontEndConsumeNum : Routine commits world (world.incrFrontEndConsumeNum ref) :=
  world.routine_setConn ref rfl

theorem routine_incrBackEndConsumeNum : Routine commits world (world.incrBackEndConsumeNum ref) :=
  world.routine_setConn ref rfl

theorem routine_notify (notices : List ConnNotice) :
    Routine commits world (world.notify ref notices) where
  managed := .of_manager_eq rfl
  executing := rfl
  servers := rfl
  refServer := fun _ => rfl
  cmds := ⟨[], by simp [notify]⟩
  callbacks := ⟨[], by simp [notify]⟩

theorem routine_enqueueCmd {cmd : NetCmd} (plain : cmd.plain = true) :
    Routine true world { world with workQueue := world.workQueue ++ [cmd] } where
  managed := .of_manager_eq rfl
  executing := rfl
  servers := rfl
  refServer := fun _ => rfl
  cmds := ⟨[cmd], rfl, by simpa using plain, by simp⟩
  callbacks := ⟨[], by simp⟩

theorem routine_commit {cmd : NetCmd} (plain : cmd.plain = true) :
    Routine true world (world.commit cmd) := by
  unfold commit
  cases cmd.counted with
  | none => exact routine_enqueueCmd world plain
  | some conn =>
      exact (world.routine_incrFrontEndProduceNum conn).trans (routine_enqueueCmd _ plain)

theorem routine_enqueueCb {workCb : TrunkCb} (forConn : workCb.conn.isSome = true) :
    Routine commits world { world with trunkQueue := world.trunkQueue ++ [workCb] } where
  managed := .of_manager_eq rfl
  executing := rfl
  servers := rfl
  refServer := fun _ => rfl
  cmds := ⟨[], by simp⟩
  callbacks := ⟨[workCb], rfl, by simpa using forConn⟩

theorem routine_post {workCb : TrunkCb} (forConn : workCb.conn.isSome = true) :
    Routine commits world (world.post workCb) := by
  unfold post
  cases workCb.conn with
  | none => exact routine_enqueueCb world forConn
  | some conn =>
      exact (world.routine_incrBackEndProduceNum conn).trans (routine_enqueueCb _ forConn)

theorem routine_manager {manager : ConnManager} {event : ConnEvent}
    (step : world.manager.Step event manager) :
    Routine commits world { world with manager := manager } where
  managed := .single step
  executing := rfl
  servers := rfl
  refServer := fun _ => rfl
  cmds := ⟨[], by simp⟩
  callbacks := ⟨[], by simp⟩

theorem routine_frontStack (frontStack : List FrontRest) :
    Routine commits world { world with frontStack := frontStack } where
  managed := .of_manager_eq rfl
  executing := rfl
  servers := rfl
  refServer := fun _ => rfl
  cmds := ⟨[], by simp⟩
  callbacks := ⟨[], by simp⟩

theorem routine_deferred (deferred : List ConnRef) :
    Routine commits world { world with deferred := deferred } where
  managed := .of_manager_eq rfl
  executing := rfl
  servers := rfl
  refServer := fun _ => rfl
  cmds := ⟨[], by simp⟩
  callbacks := ⟨[], by simp⟩

theorem routine_taskFailed {conn : KjConn} (same : conn.refServer = (world.conn ref).refServer) :
    Routine commits world ((world.setConn ref conn).taskFailed ref) :=
  (world.routine_setConn ref same).trans (routine_deferred _ _)

/-! ## The calls of the front end -/

theorem routine_onConnect : Routine commits world (world.onConnect ref) :=
  (world.routine_setConn ref (KjConn.onConnect_sameObject _).refServer).trans (routine_notify _ ref _)

theorem routine_releaseConnection : Routine true world (world.releaseConnection ref) :=
  world.routine_commit rfl

variable {world} {next : KjWorld}

theorem routine_onRemoveClient {server : Nat} {client : ConnRef}
    (done : world.onRemoveClient server client = some next) : Routine true world next := by
  unfold onRemoveClient at done
  dsimp only at done
  rcases Option.map_eq_some_iff.mp done with ⟨manager, removed, rfl⟩
  refine Routine.trans ?_ (routine_manager _
    (show ConnManager.Step _ (.onRemoveClient server client) manager from removed))
  split
  · exact world.routine_releaseConnection client
  · exact .refl true world

theorem routine_runRest {rest : FrontRest} (done : world.runRest rest = some next) :
    Routine true world next := by
  cases rest with
  | removeClient server client => exact routine_onRemoveClient done
  | releaseConnection conn =>
      cases done
      exact world.routine_releaseConnection conn
  | delayReconnect isolated nDelaySeconds =>
      cases done
      exact world.routine_commit rfl

theorem routine_runRests {rests : List FrontRest} (done : rests.foldlM runRest world = some next) :
    Routine true world next := by
  induction rests generalizing world with
  | nil =>
      cases done
      exact .refl true _
  | cons rest rests inductionHypothesis =>
      rw [List.foldlM_cons] at done
      rcases Option.bind_eq_some_iff.mp done with ⟨middle, first, later⟩
      exact (routine_runRest first).trans (inductionHypothesis later)

theorem routine_continueWith {notices : List ConnNotice} {rests : List FrontRest}
    (done : world.continueWith notices rests = some next) : Routine true world next := by
  unfold continueWith at done
  split at done
  · exact routine_runRests done
  · cases done
    exact world.routine_frontStack _

theorem routine_disconnectThen {rests : List FrontRest}
    (done : world.disconnectThen ref rests = some next) : Routine true world next := by
  unfold disconnectThen at done
  dsimp only at done
  split at done
  · refine Routine.trans ?_ (routine_continueWith done)
    exact (world.routine_setConn ref (KjConn.stopRunning_sameObject _).refServer).trans
      (routine_notify _ ref _)
  · exact routine_runRests done

theorem routine_reopen {nDelaySeconds : Int}
    (done : world.reopen ref nDelaySeconds = some next) : Routine true world next := by
  unfold reopen at done
  dsimp only at done
  split at done
  · cases done
    exact .refl true _
  · split at done
    · exact routine_disconnectThen ref done
    · cases done
      exact world.routine_commit rfl

/-- The callbacks about connections. -/
theorem routine_runWorkCb {workCb : TrunkCb} (forConn : workCb.conn.isSome = true)
    (done : world.runWorkCb workCb = some next) : Routine true world next := by
  cases workCb with
  | acceptClient server streamptr => cases forConn
  | clientDisconnect server client =>
      refine Routine.trans ?_ (routine_continueWith done)
      refine (world.routine_incrFrontEndConsumeNum client).trans ?_
      exact (routine_setConn _ client (KjConn.onDisconnect_sameObject _).refServer).trans
        (routine_notify _ client _)
  | isolatedConnect isolated =>
      cases done
      exact (world.routine_incrFrontEndConsumeNum isolated).trans (routine_onConnect _ isolated)
  | isolatedDisconnect isolated =>
      cases done
      refine (world.routine_incrFrontEndConsumeNum isolated).trans ?_
      exact (routine_setConn _ isolated (KjConn.onDisconnect_sameObject _).refServer).trans
        (routine_notify _ isolated _)
  | packet conn uConnId body =>
      simp only [runWorkCb] at done
      split at done
      · cases done
        exact (world.routine_incrFrontEndConsumeNum conn).trans (routine_notify _ conn _)
      · cases done
  | innerPacket conn uConnId body =>
      simp only [runWorkCb] at done
      split at done
      · cases done
        exact (world.routine_incrFrontEndConsumeNum conn).trans (routine_notify _ conn _)
      · cases done

theorem routine_releaseAllClients {server : Nat} {order : List ConnEntry}
    (done : world.releaseAllClients server order = some next) : Routine true world next := by
  unfold releaseAllClients at done
  split at done
  · rcases Option.map_eq_some_iff.mp done with ⟨manager, released, rfl⟩
    refine Routine.trans ?_ (routine_manager _
      (show ConnManager.Step _ (.releaseAllClients server order) manager from released))
    exact Routine.foldl _ (fun state entry => state.routine_releaseConnection entry.2) order world
  · cases done

theorem routine_releaseIsolated (world : KjWorld) (isolated : ConnRef) :
    Routine true world (world.releaseIsolated isolated) := by
  unfold releaseIsolated
  dsimp only
  refine Routine.trans ?_ (routine_releaseConnection _ isolated)
  split
  · refine Routine.trans ?_ (routine_releaseConnection _ isolated)
    exact (world.routine_setConn isolated (KjConn.stopRunning_sameObject _).refServer).trans
      (routine_notify _ isolated _)
  · exact .refl true world

theorem routine_releaseAllIsolateds {order : List ConnEntry}
    (done : world.releaseAllIsolateds order = some next) : Routine true world next := by
  unfold releaseAllIsolateds at done
  dsimp only at done
  rcases Option.map_eq_some_iff.mp done with ⟨manager, released, rfl⟩
  refine Routine.trans ?_ (routine_manager _
    (show ConnManager.Step _ (.releaseAllIsolateds order) manager from released))
  exact Routine.foldl _ (fun state entry => routine_releaseIsolated state entry.2) order world

/-! ## The turns of the back end -/

theorem routine_addLinkCb (world : KjWorld) (isolated : ConnRef) (link : LinkCb) :
    Routine commits world (world.addLinkCb isolated link) := by
  cases link with
  | connect => exact world.routine_post rfl
  | disconnect => exact world.routine_post rfl

theorem routine_onGotPacket (world : KjWorld) (conn : ConnRef) (body : PacketBody) :
    Routine commits world (world.onGotPacket conn body) := by
  unfold onGotPacket
  split <;> exact world.routine_post rfl

theorem routine_disposeDownStream (world : KjWorld) (server : Nat) (entry : ConnEntry) :
    Routine commits world (world.disposeDownStream server entry) := by
  unfold disposeDownStream
  split
  · exact (world.routine_setConn entry.2 (KjConn.disposeConnection_sameObject _).refServer).trans
      (routine_post _ rfl)
  · exact .refl commits world

theorem routine_runDeferred (done : world.runDeferred ref = some next) :
    Routine commits world next := by
  unfold runDeferred at done
  dsimp only at done
  have flushed := KjConn.flushStream_sameObject (world.conn ref)
  split at done
  · cases done
    exact (world.routine_setConn ref
      (flushed.trans (KjConn.disposeConnection_sameObject _)).refServer).trans (routine_post _ rfl)
  · rcases Option.map_eq_some_iff.mp done with ⟨lost, error, rfl⟩
    have sameServer := (flushed.trans (KjConn.onIsolatedError_sameObject error)).refServer
    exact (world.routine_setConn ref sameServer).trans
      (Routine.foldl _ (fun state link => routine_addLinkCb state ref link) lost.2 _)

end KjWorld

/-! ## A blocking command is the last -/

/-- No command follows a blocking one. -/
def BlockingLast (cmds : List NetCmd) : Prop :=
  forall before cmd after, cmds = before ++ cmd :: after -> cmd.blocking = true -> after = []

namespace BlockingLast

theorem of_append {cmds : List NetCmd} {last : List NetCmd}
    (unblocked : forall cmd, cmd ∈ cmds -> cmd.blocking = false) (short : last.length ≤ 1) :
    BlockingLast (cmds ++ last) := by
  intro before cmd after split blocking
  rcases List.append_eq_append_iff.mp split with ⟨front, _, rest⟩ | ⟨front, cmds_eq, rest⟩
  · have sizes := congrArg List.length rest
    simp only [List.length_append, List.length_cons] at sizes
    exact List.length_eq_zero_iff.mp (by omega)
  · cases front with
    | nil =>
        rw [List.nil_append] at rest
        have sizes := congrArg List.length rest
        simp only [List.length_cons] at sizes
        exact List.length_eq_zero_iff.mp (by omega)
    | cons head front =>
        rw [List.cons_append] at rest
        cases rest
        have member : cmd ∈ cmds := by
          rw [cmds_eq]
          exact List.mem_append_right _ (List.mem_cons_self ..)
        rw [unblocked cmd member] at blocking
        cases blocking

theorem of_unblocked {cmds : List NetCmd}
    (unblocked : forall cmd, cmd ∈ cmds -> cmd.blocking = false) : BlockingLast cmds := by
  have whole : BlockingLast (cmds ++ []) := of_append unblocked (Nat.zero_le _)
  rw [List.append_nil] at whole
  exact whole

theorem tail {cmd : NetCmd} {cmds : List NetCmd} (waits : BlockingLast (cmd :: cmds)) :
    BlockingLast cmds := by
  intro before later after split
  exact waits (cmd :: before) later after (by rw [split]; rfl)

end BlockingLast

namespace KjWorld

theorem unblocked_iff {world : KjWorld} :
    ¬ world.Blocked ↔ forall cmd, cmd ∈ world.pendingCmds -> cmd.blocking = false := by
  unfold Blocked
  simp

/-! ## The streams of the clients -/

/-- The stream that a callback brings to the front end of a server. -/
def acceptedStream (server : Nat) : TrunkCb -> Option Nat
  | .acceptClient place streamptr => if place = server then some streamptr else none
  | _ => none

/-- The stream that a command attaches to a client of a server. -/
def confirmedStream (states : ConnRef -> KjState) (server : Nat) : NetCmd -> Option Nat
  | .confirmClientIsReady client streamptr =>
      if (states client).refServer = server then some streamptr else none
  | _ => none

/-- The streams of a server on their way. -/
def streams (world : KjWorld) (server : Nat) : List Nat :=
  world.trunkQueue.filterMap (acceptedStream server) ++
    world.workQueue.filterMap (confirmedStream world.states server)

/-- What holds of the whole factory: the manager is consistent, a blocking
command is the last one, the streams on their way are in the dictionary of a
server that is not closed, and a server with a client to confirm is not
closed. -/
structure Consistent (world : KjWorld) : Prop where
  manager : world.manager.Formed ∧ world.manager.Placed
  waits : BlockingLast world.pendingCmds
  nodup : forall server, (world.streams server).Nodup
  kept : forall server, (world.servers server).closed = false ->
    forall streamptr, streamptr ∈ world.streams server ->
      streamptr ∈ (world.servers server).thrTcpStreamDict
  confirms : forall client streamptr, .confirmClientIsReady client streamptr ∈ world.workQueue ->
    client < world.manager.created ∧
      (world.servers (world.states client).refServer).closed = false
  flushes : forall server streamptr,
    .flushTcpServerDownStream server streamptr ∈ world.workQueue ->
      (world.servers server).closed = true

theorem initial_consistent (gate : Bool) : (initial gate).Consistent where
  manager := ⟨ConnManager.initial_formed, ConnManager.initial_placed⟩
  waits := by
    intro before cmd after split
    cases before <;> cases split
  nodup := fun _ => List.nodup_nil
  kept := by
    intro server _ streamptr impossible
    cases impossible
  confirms := by
    intro client streamptr impossible
    cases impossible
  flushes := by
    intro server streamptr impossible
    cases impossible

theorem acceptedStream_of_conn {server : Nat} {workCb : TrunkCb}
    (forConn : workCb.conn.isSome = true) : acceptedStream server workCb = none := by
  cases workCb <;> first | rfl | cases forConn

theorem confirmedStream_of_plain {states : ConnRef -> KjState} {server : Nat} {cmd : NetCmd}
    (plain : cmd.plain = true) : confirmedStream states server cmd = none := by
  cases cmd <;> first | rfl | cases plain

theorem filterMap_eq_nil_of_none {α β : Type} {f : α -> Option β} {items : List α}
    (none_ : forall item, item ∈ items -> f item = none) : items.filterMap f = [] :=
  List.filterMap_eq_nil_iff.mpr none_

variable {commits : Bool} {world next : KjWorld}

theorem Routine.streams (routine : Routine commits world next) (server : Nat) :
    next.streams server = world.streams server := by
  rcases routine.cmds with ⟨cmds, cmds_eq, plain, _⟩
  rcases routine.callbacks with ⟨callbacks, callbacks_eq, forConn⟩
  have same : confirmedStream next.states server = confirmedStream world.states server := by
    funext cmd
    cases cmd <;> simp [confirmedStream, routine.refServer]
  unfold KjWorld.streams
  rw [cmds_eq, callbacks_eq, same, List.filterMap_append, List.filterMap_append,
    filterMap_eq_nil_of_none (fun cmd member => confirmedStream_of_plain (plain cmd member)),
    filterMap_eq_nil_of_none (fun workCb member => acceptedStream_of_conn (forConn workCb member)),
    List.append_nil, List.append_nil]

theorem Routine.mem_workQueue (routine : Routine commits world next) {cmd : NetCmd}
    (special : cmd.plain = false) (member : cmd ∈ next.workQueue) : cmd ∈ world.workQueue := by
  rcases routine.cmds with ⟨cmds, cmds_eq, plain, _⟩
  rw [cmds_eq] at member
  rcases List.mem_append.mp member with before | added
  · exact before
  · rw [plain cmd added] at special
    cases special

/-- What a routine part keeps, besides the order of the commands. -/
theorem Consistent.of_routine (consistent : world.Consistent) (routine : Routine commits world next)
    (waits : BlockingLast next.pendingCmds) : next.Consistent where
  manager := routine.managed.valid consistent.manager
  waits := waits
  nodup := by
    intro server
    rw [routine.streams]
    exact consistent.nodup server
  kept := by
    intro server
    rw [routine.streams, routine.servers]
    exact consistent.kept server
  confirms := by
    intro client streamptr member
    rcases consistent.confirms client streamptr (routine.mem_workQueue rfl member) with ⟨below, open_⟩
    rw [routine.refServer, routine.servers]
    exact ⟨Nat.lt_of_lt_of_le below routine.managed.created_le, open_⟩
  flushes := by
    intro server streamptr member
    rw [routine.servers]
    exact consistent.flushes server streamptr (routine.mem_workQueue rfl member)

theorem Routine.pendingCmds (routine : Routine false world next) :
    next.pendingCmds = world.pendingCmds := by
  rcases routine.cmds with ⟨cmds, cmds_eq, _, none_⟩
  unfold KjWorld.pendingCmds
  rw [cmds_eq, none_ rfl, routine.executing, List.append_nil]

/-- A turn of the back end. -/
theorem Consistent.of_turn (consistent : world.Consistent) (routine : Routine false world next) :
    next.Consistent := by
  refine consistent.of_routine routine ?_
  rw [routine.pendingCmds]
  exact consistent.waits

/-- A call of the front end. -/
theorem Consistent.of_call (consistent : world.Consistent) (unblocked : ¬ world.Blocked)
    (routine : Routine true world next) : next.Consistent := by
  refine consistent.of_routine routine (BlockingLast.of_unblocked ?_)
  rcases routine.cmds with ⟨cmds, cmds_eq, plain, _⟩
  intro cmd member
  unfold KjWorld.pendingCmds at member
  rw [cmds_eq, routine.executing, ← List.append_assoc] at member
  rcases List.mem_append.mp member with before | added
  · exact unblocked_iff.mp unblocked cmd before
  · exact NetCmd.not_blocking_of_plain (plain cmd added)

/-- A blocking commit. -/
theorem Consistent.of_blocking (consistent : world.Consistent) (unblocked : ¬ world.Blocked)
    {cmd : NetCmd} (blocking : cmd.blocking = true) : (world.commit cmd).Consistent := by
  have committed : world.commit cmd = { world with workQueue := world.workQueue ++ [cmd] } := by
    cases cmd <;> first | rfl | cases blocking
  have stream : forall server, confirmedStream world.states server cmd = none := by
    intro server
    cases cmd <;> first | rfl | cases blocking
  have same : forall server, (world.commit cmd).streams server = world.streams server := by
    intro server
    rw [committed]
    change _ ++ List.filterMap _ (world.workQueue ++ [cmd]) = _
    rw [List.filterMap_append, List.filterMap_cons_none (stream server)]
    simp [streams]
  have older : forall other, other ∈ (world.commit cmd).workQueue -> other.blocking = false ->
      other ∈ world.workQueue := by
    intro other member plain
    rw [committed] at member
    rcases List.mem_append.mp member with before | added
    · exact before
    · rw [List.mem_singleton.mp added, blocking] at plain
      cases plain
  refine ⟨?_, ?_, ?_, ?_, ?_, ?_⟩
  · rw [committed]
    exact consistent.manager
  · rw [committed]
    change BlockingLast (world.executing.toList ++ (world.workQueue ++ [cmd]))
    rw [← List.append_assoc]
    exact BlockingLast.of_append (unblocked_iff.mp unblocked) (Nat.le_refl 1)
  · intro server
    rw [same]
    exact consistent.nodup server
  · intro server
    rw [same, committed]
    exact consistent.kept server
  · intro client streamptr member
    rw [committed]
    exact consistent.confirms client streamptr (older _ member rfl)
  · intro server streamptr member
    rw [committed]
    exact consistent.flushes server streamptr (older _ member rfl)

/-- A client that is to be confirmed is older than a new connection. -/
theorem Consistent.states_created (consistent : world.Consistent) {client : ConnRef}
    {streamptr : Nat} (member : .confirmClientIsReady client streamptr ∈ world.workQueue)
    (state : KjState) :
    Function.update world.states world.manager.created state client = world.states client :=
  Function.update_of_ne (Nat.ne_of_lt (consistent.confirms client streamptr member).1) _ _

theorem Consistent.streams_created (consistent : world.Consistent) (manager : ConnManager)
    (state : KjState) (server : Nat) :
    { world with
      manager := manager
      states := Function.update world.states world.manager.created state }.streams server =
      world.streams server := by
  change _ ++ List.filterMap _ world.workQueue = _
  rw [streams]
  congr 1
  apply List.filterMap_congr
  intro cmd member
  cases cmd with
  | confirmClientIsReady client streamptr =>
      simp only [confirmedStream, consistent.states_created member]
  | openTcpServer => rfl
  | closeTcpServer => rfl
  | disposeConnection => rfl
  | postPacket => rfl
  | flushTcpServerDownStream => rfl
  | isolatedConnConnect => rfl
  | isolatedDelayReconnect => rfl

/-- A new connection. -/
theorem Consistent.of_created (consistent : world.Consistent) {manager : ConnManager}
    {event : ConnEvent} (step : world.manager.Step event manager) (state : KjState) :
    { world with
      manager := manager
      states := Function.update world.states world.manager.created state }.Consistent := by
  rcases consistent.manager with ⟨formed, placed⟩
  refine ⟨⟨formed.step step, placed.step formed step⟩, consistent.waits, ?_, ?_, ?_,
    consistent.flushes⟩
  · intro server
    rw [consistent.streams_created]
    exact consistent.nodup server
  · intro server
    rw [consistent.streams_created]
    exact consistent.kept server
  · intro client streamptr member
    rcases consistent.confirms client streamptr member with ⟨below, open_⟩
    refine ⟨Nat.lt_of_lt_of_le below (ConnManager.created_le_of_step step), ?_⟩
    have kept := congrArg KjState.refServer (consistent.states_created member state)
    rw [← kept] at open_
    exact open_

/-- The callback of an accepted stream is taken out: the stream goes to the
back end again, with a client or to be flushed. -/
theorem Consistent.of_ignored (consistent : world.Consistent) (unblocked : ¬ world.Blocked)
    {server streamptr : Nat} {queue : List TrunkCb}
    (first : world.trunkQueue = .acceptClient server streamptr :: queue)
    (closed : (world.servers server).closed = true) :
    ({ world with trunkQueue := queue }.commit
      (.flushTcpServerDownStream server streamptr)).Consistent := by
  have fewer : forall place, List.Sublist
      (({ world with trunkQueue := queue }.commit
        (.flushTcpServerDownStream server streamptr)).streams place) (world.streams place) := by
    intro place
    change List.Sublist (queue.filterMap _ ++ List.filterMap _ (world.workQueue ++ [_])) _
    rw [streams, first, List.filterMap_append, List.filterMap_cons_none rfl, List.filterMap_nil,
      List.append_nil]
    exact ((List.sublist_cons_self _ _).filterMap _).append (List.Sublist.refl _)
  refine ⟨consistent.manager, ?_, ?_, ?_, ?_, ?_⟩
  · apply BlockingLast.of_unblocked
    intro cmd member
    change cmd ∈ world.executing.toList ++ (world.workQueue ++ [_]) at member
    rw [← List.append_assoc] at member
    rcases List.mem_append.mp member with before | added
    · exact unblocked_iff.mp unblocked cmd before
    · rw [List.mem_singleton.mp added]
      rfl
  · intro place
    exact (consistent.nodup place).sublist (fewer place)
  · intro place open_ stream member
    exact consistent.kept place open_ stream ((fewer place).subset member)
  · intro client stream member
    rcases List.mem_append.mp member with before | added
    · exact consistent.confirms client stream before
    · cases List.mem_singleton.mp added
  · intro place stream member
    rcases List.mem_append.mp member with before | added
    · exact consistent.flushes place stream before
    · cases List.mem_singleton.mp added
      exact closed

/-- The stream of a new client is sent to the back end. -/
theorem Consistent.of_confirm (consistent : world.Consistent) (unblocked : ¬ world.Blocked)
    {client : ConnRef} {server streamptr : Nat}
    (below : client < world.manager.created) (home : (world.states client).refServer = server)
    (open_ : (world.servers server).closed = false)
    (absent : streamptr ∉ world.streams server)
    (held : streamptr ∈ (world.servers server).thrTcpStreamDict) :
    { world with
      workQueue := world.workQueue ++ [NetCmd.confirmClientIsReady client streamptr] }.Consistent := by
  have streams_eq : forall place, { world with
      workQueue := world.workQueue ++ [NetCmd.confirmClientIsReady client streamptr] }.streams place =
        world.streams place ++ if server = place then [streamptr] else [] := by
    intro place
    change _ ++ List.filterMap _ (world.workQueue ++ [_]) = _
    rw [List.filterMap_append, streams, List.append_assoc]
    congr 2
    simp only [List.filterMap_cons, List.filterMap_nil, confirmedStream, home]
    split <;> simp_all
  refine ⟨consistent.manager, ?_, ?_, ?_, ?_, ?_⟩
  · apply BlockingLast.of_unblocked
    intro cmd member
    change cmd ∈ world.executing.toList ++ (world.workQueue ++ [_]) at member
    rw [← List.append_assoc] at member
    rcases List.mem_append.mp member with before | added
    · exact unblocked_iff.mp unblocked cmd before
    · rw [List.mem_singleton.mp added]
      rfl
  · intro place
    rw [streams_eq]
    split
    · rename_i here
      subst here
      exact (consistent.nodup server).append (List.nodup_singleton _)
        (List.disjoint_singleton.mpr absent)
    · rw [List.append_nil]
      exact consistent.nodup place
  · intro place placeOpen stream member
    rw [streams_eq] at member
    rcases List.mem_append.mp member with before | added
    · exact consistent.kept place placeOpen stream before
    · split at added
      · rename_i here
        subst here
        rw [List.mem_singleton.mp added]
        exact held
      · cases added
  · intro other stream member
    rcases List.mem_append.mp member with before | added
    · exact consistent.confirms other stream before
    · cases List.mem_singleton.mp added
      rw [home]
      exact ⟨below, open_⟩
  · intro place stream member
    rcases List.mem_append.mp member with before | added
    · exact consistent.flushes place stream before
    · cases List.mem_singleton.mp added

/-- The first callback is taken out. -/
theorem Consistent.of_dequeueCb (consistent : world.Consistent) {workCb : TrunkCb}
    {queue : List TrunkCb} (first : world.trunkQueue = workCb :: queue) :
    { world with trunkQueue := queue }.Consistent := by
  have fewer : forall place,
      List.Sublist ({ world with trunkQueue := queue }.streams place) (world.streams place) := by
    intro place
    rw [streams, streams, first]
    exact ((List.sublist_cons_self _ _).filterMap _).append (List.Sublist.refl _)
  refine ⟨consistent.manager, consistent.waits, ?_, ?_, consistent.confirms, consistent.flushes⟩
  · intro place
    exact (consistent.nodup place).sublist (fewer place)
  · intro place open_ stream member
    exact consistent.kept place open_ stream ((fewer place).subset member)

/-- The first command is taken out. -/
theorem Consistent.of_dequeueCmd (consistent : world.Consistent) (idle : world.executing = none)
    {cmd : NetCmd} {queue : List NetCmd} (first : world.workQueue = cmd :: queue) :
    { world with workQueue := queue, executing := some cmd }.Consistent := by
  have fewer : forall place, List.Sublist
      ({ world with workQueue := queue, executing := some cmd }.streams place)
      (world.streams place) := by
    intro place
    rw [streams, streams, first]
    exact (List.Sublist.refl _).append ((List.sublist_cons_self _ _).filterMap _)
  refine ⟨consistent.manager, ?_, ?_, ?_, ?_, ?_⟩
  · have waits := consistent.waits
    unfold pendingCmds at waits ⊢
    rw [idle, first] at waits
    exact waits
  · intro place
    exact (consistent.nodup place).sublist (fewer place)
  · intro place open_ stream member
    exact consistent.kept place open_ stream ((fewer place).subset member)
  · intro client stream member
    exact consistent.confirms client stream (by rw [first]; exact List.mem_cons_of_mem _ member)
  · intro place stream member
    exact consistent.flushes place stream (by rw [first]; exact List.mem_cons_of_mem _ member)

/-- A server changes, but keeps every stream that is on its way. -/
theorem Consistent.of_setServer (consistent : world.Consistent) {server : Nat} {state : KjServer}
    (closed : state.closed = (world.servers server).closed)
    (kept : state.closed = false -> forall streamptr, streamptr ∈ world.streams server ->
      streamptr ∈ state.thrTcpStreamDict) : (world.setServer server state).Consistent := by
  have same : forall place,
      (Function.update world.servers server state place).closed = (world.servers place).closed := by
    intro place
    by_cases here : place = server
    · subst here
      rw [Function.update_self, closed]
    · rw [Function.update_of_ne here]
  refine ⟨consistent.manager, consistent.waits, consistent.nodup, ?_, ?_, ?_⟩
  · intro place open_ stream member
    by_cases here : place = server
    · subst here
      change stream ∈ (Function.update world.servers place state place).thrTcpStreamDict
      change (Function.update world.servers place state place).closed = false at open_
      rw [Function.update_self] at open_ ⊢
      exact kept open_ stream member
    · change (Function.update world.servers server state place).closed = false at open_
      change stream ∈ (Function.update world.servers server state place).thrTcpStreamDict
      rw [Function.update_of_ne here] at open_ ⊢
      exact consistent.kept place open_ stream member
  · intro client stream member
    change _ ∧ (Function.update world.servers server state _).closed = false
    rw [same]
    exact consistent.confirms client stream member
  · intro place stream member
    change (Function.update world.servers server state _).closed = true
    rw [same]
    exact consistent.flushes place stream member

/-- A stream that is taken out of the dictionary is not on its way any more. -/
theorem Consistent.of_removeStream (consistent : world.Consistent) {server streamptr : Nat}
    (gone : (world.servers server).closed = false -> streamptr ∉ world.streams server) :
    (world.removeStream server streamptr).Consistent := by
  refine consistent.of_setServer rfl ?_
  intro open_ stream member
  have different : stream ≠ streamptr := by
    rintro rfl
    exact gone open_ member
  exact (List.mem_erase_of_ne different).mpr (consistent.kept server open_ stream member)

/-- The server is closed when no other command is left. -/
theorem Consistent.of_closeServer (consistent : world.Consistent) {server : Nat} {state : KjServer}
    (closed : state.closed = true) (last : world.workQueue = []) :
    (world.setServer server state).Consistent := by
  refine ⟨consistent.manager, consistent.waits, consistent.nodup, ?_, ?_, ?_⟩
  · intro place open_ stream member
    change (Function.update world.servers server state place).closed = false at open_
    change stream ∈ (Function.update world.servers server state place).thrTcpStreamDict
    by_cases here : place = server
    · subst here
      rw [Function.update_self, closed] at open_
      cases open_
    · rw [Function.update_of_ne here] at open_ ⊢
      exact consistent.kept place open_ stream member
  · intro client stream member
    change _ ∈ world.workQueue at member
    rw [last] at member
    cases member
  · intro place stream member
    change _ ∈ world.workQueue at member
    rw [last] at member
    cases member

theorem Consistent.of_close (consistent : world.Consistent) {server : Nat} {order : List ConnEntry}
    (last : world.workQueue = []) (done : world.close server order = some next) :
    next.Consistent := by
  unfold close at done
  split at done
  · cases done
    exact consistent
  · split at done
    · cases done
      have closed : KjServer.closed
          { world.servers server with closed := true, thrTcpStreamDict := [] } = true := rfl
      apply (consistent.of_closeServer closed last).of_turn
      exact Routine.foldl _ (fun state entry => routine_disposeDownStream state server entry) order _
    · cases done

/-- A stream that the first command confirms is on its way nowhere else. -/
theorem Consistent.confirmed_gone (consistent : world.Consistent) {client : ConnRef} {streamptr : Nat}
    {queue : List NetCmd}
    (first : world.workQueue = .confirmClientIsReady client streamptr :: queue)
    (executing : Option NetCmd) :
    streamptr ∉ { world with workQueue := queue, executing := executing }.streams
      (world.states client).refServer := by
  have distinct := consistent.nodup (world.states client).refServer
  have confirmed : confirmedStream world.states (world.states client).refServer
      (.confirmClientIsReady client streamptr) = some streamptr := by
    simp [confirmedStream]
  rw [streams, first, List.filterMap_cons_some confirmed] at distinct
  exact (List.nodup_cons.mp (List.nodup_middle.mp distinct)).1

/-- The first command is carried out. -/
theorem Consistent.of_execute (consistent : world.Consistent) (idle : world.executing = none)
    {cmd : NetCmd} {queue : List NetCmd} (first : world.workQueue = cmd :: queue)
    {order : List ConnEntry}
    (done : { world with workQueue := queue, executing := some cmd }.runCmd order cmd = some next) :
    next.Consistent := by
  have taken := consistent.of_dequeueCmd idle first
  cases cmd with
  | openTcpServer server =>
      cases done
      exact taken.of_setServer rfl (fun open_ stream member => taken.kept server open_ stream member)
  | closeTcpServer server =>
      have last : queue = [] := taken.waits [] _ queue rfl rfl
      exact taken.of_close last done
  | disposeConnection conn =>
      cases done
      exact taken.of_turn (routine_setConn _ conn (KjConn.disposeConnection_sameObject _).refServer)
  | postPacket conn body =>
      cases done
      exact taken
  | flushTcpServerDownStream server streamptr =>
      cases done
      apply taken.of_removeStream
      intro open_
      have closed : (world.servers server).closed = true :=
        consistent.flushes server streamptr (by rw [first]; exact List.mem_cons_self ..)
      change (world.servers server).closed = false at open_
      rw [closed] at open_
      cases open_
  | confirmClientIsReady client streamptr =>
      simp only [runCmd] at done
      split at done
      · cases done
        refine Consistent.of_turn ?_
          (routine_setConn _ client (KjConn.confirmClientIsReady_sameObject _ _).refServer)
        apply taken.of_removeStream
        intro _
        exact consistent.confirmed_gone first _
      · cases done
        exact taken
  | isolatedConnConnect isolated sIpOrHostname =>
      rcases Option.map_eq_some_iff.mp done with ⟨conn, connected, rfl⟩
      exact taken.of_turn
        (routine_setConn _ isolated (KjConn.connect_sameObject connected).refServer)
  | isolatedDelayReconnect isolated nDelaySeconds =>
      rcases Option.map_eq_some_iff.mp done with ⟨conn, delayed, rfl⟩
      exact taken.of_turn
        (routine_setConn _ isolated (KjConn.delayReconnect_sameObject delayed).refServer)

/-- The result callback of a command has run. -/
theorem Consistent.of_finished (consistent : world.Consistent) {cmd : NetCmd}
    (executing : world.executing = some cmd) : { world with executing := none }.Consistent := by
  refine ⟨consistent.manager, ?_, consistent.nodup, consistent.kept, consistent.confirms,
    consistent.flushes⟩
  have waits := consistent.waits
  unfold pendingCmds at waits ⊢
  rw [executing] at waits
  exact BlockingLast.tail waits

/-- A new stream is accepted. -/
theorem Consistent.of_accept (consistent : world.Consistent) {server streamptr : Nat}
    (open_ : (world.servers server).closed = false)
    (fresh : streamptr ∉ (world.servers server).thrTcpStreamDict) :
    ((world.setServer server { world.servers server with
      thrTcpStreamDict := (world.servers server).thrTcpStreamDict ++ [streamptr]
      }).addAcceptClientCb server streamptr).Consistent := by
  have absent : streamptr ∉ world.streams server :=
    fun member => fresh (consistent.kept server open_ streamptr member)
  have wider : (world.setServer server { world.servers server with
      thrTcpStreamDict := (world.servers server).thrTcpStreamDict ++ [streamptr] }).Consistent := by
    refine consistent.of_setServer rfl ?_
    intro _ stream member
    exact List.mem_append_left _ (consistent.kept server open_ stream member)
  have streams_eq : forall place, List.Perm (((world.setServer server { world.servers server with
      thrTcpStreamDict := (world.servers server).thrTcpStreamDict ++ [streamptr]
      }).addAcceptClientCb server streamptr).streams place)
      ((if server = place then [streamptr] else []) ++ world.streams place) := by
    intro place
    change List.Perm (List.filterMap _ (world.trunkQueue ++ [_]) ++ _) _
    rw [List.filterMap_append, streams]
    refine (List.perm_append_comm.append_right _).trans ?_
    rw [List.append_assoc]
    apply List.Perm.append_right
    simp only [List.filterMap_cons, List.filterMap_nil, acceptedStream]
    split <;> simp_all
  refine ⟨wider.manager, wider.waits, ?_, ?_, wider.confirms, wider.flushes⟩
  · intro place
    rw [(streams_eq place).nodup_iff]
    split
    · rename_i here
      subst here
      exact List.nodup_cons.mpr ⟨absent, consistent.nodup server⟩
    · exact consistent.nodup place
  · intro place placeOpen stream member
    rw [(streams_eq place).mem_iff] at member
    rcases List.mem_append.mp member with added | before
    · split at added
      · rename_i here
        subst here
        rw [List.mem_singleton.mp added]
        change streamptr ∈ (Function.update world.servers server _ server).thrTcpStreamDict
        rw [Function.update_self]
        exact List.mem_append_right _ (List.mem_singleton_self _)
      · cases added
    · exact wider.kept place placeOpen stream before

/-- A stream reaches the front end while its server is open. -/
theorem Consistent.of_onAcceptClient (consistent : world.Consistent) (unblocked : ¬ world.Blocked)
    {server streamptr : Nat} {queue : List TrunkCb}
    (first : world.trunkQueue = .acceptClient server streamptr :: queue)
    (open_ : (world.servers server).closed = false)
    (done : { world with trunkQueue := queue }.onAcceptClient server streamptr = some next) :
    next.Consistent := by
  have taken := consistent.of_dequeueCb first
  have accepted : acceptedStream server (.acceptClient server streamptr) = some streamptr := by
    simp [acceptedStream]
  have distinct := consistent.nodup server
  have held := consistent.kept server open_ streamptr
  rw [streams, first, List.filterMap_cons_some accepted] at distinct held
  have absent : streamptr ∉ { world with trunkQueue := queue }.streams server :=
    (List.nodup_cons.mp distinct).1
  rcases Option.map_eq_some_iff.mp done with ⟨manager, created, rfl⟩
  have more : manager.created = world.manager.created + 1 :=
    ConnManager.createTcpClientOnServer_created created
  have made := taken.of_created
    (show world.manager.Step (.createTcpClientOnServer server) manager from created)
    (.initial (if world.gate then .gateClientConn else .clientConn) server)
  have counted := made.of_turn (routine_incrFrontEndProduceNum _ world.manager.created)
  refine Consistent.of_turn
    (Consistent.of_confirm counted ?_ ?_ ?_ open_ ?_ (held (List.mem_cons_self ..)))
    (routine_onConnect _ world.manager.created)
  · exact unblocked
  · change world.manager.created < manager.created
    omega
  · rw [Routine.refServer (routine_incrFrontEndProduceNum _ _ : Routine false _ _)]
    simp [KjState.initial]
  · rw [Routine.streams (routine_incrFrontEndProduceNum _ _ : Routine false _ _),
      taken.streams_created]
    exact absent

/-! ## Every step -/

theorem frontEnd_eq_some {call : Option KjWorld} (done : world.frontEnd call = some next) :
    ¬ world.Blocked ∧ call = some next := by
  unfold frontEnd at done
  split at done
  · cases done
  · rename_i unblocked
    exact ⟨unblocked, done⟩

theorem mainLoop_eq_some {call : Option KjWorld} (done : world.mainLoop call = some next) :
    world.frontStack = [] ∧ ¬ world.Blocked ∧ call = some next := by
  unfold mainLoop at done
  split at done
  · rename_i empty
    exact ⟨List.isEmpty_iff.mp empty, frontEnd_eq_some done⟩
  · cases done

theorem backEnd_eq_some {turn : Option KjWorld} (done : world.backEnd turn = some next) :
    world.executing = none ∧ turn = some next := by
  unfold backEnd at done
  split at done
  · rename_i idle
    exact ⟨Option.isNone_iff_eq_none.mp idle, done⟩
  · cases done

/-- A blocking command is always the last one, and every stream on its way can
be attached. -/
theorem Consistent.step {event : WorldEvent} (consistent : world.Consistent)
    (step : world.Step event next) : next.Consistent := by
  unfold Step at step
  cases event with
  | openTcpServer server =>
      rcases frontEnd_eq_some step with ⟨unblocked, done⟩
      cases done
      exact consistent.of_blocking unblocked rfl
  | closeTcpServer server =>
      rcases frontEnd_eq_some step with ⟨unblocked, done⟩
      cases done
      exact consistent.of_blocking unblocked rfl
  | createTcpIsolated =>
      rcases frontEnd_eq_some step with ⟨_, done⟩
      rcases Option.map_eq_some_iff.mp done with ⟨manager, created, rfl⟩
      exact consistent.of_created
        (show world.manager.Step .createTcpIsolated manager from created) _
  | createTcpIsolated2 =>
      rcases frontEnd_eq_some step with ⟨_, done⟩
      rcases Option.map_eq_some_iff.mp done with ⟨manager, created, rfl⟩
      exact consistent.of_created
        (show world.manager.Step .createTcpIsolated manager from created) _
  | isolatedConnConnect isolated sIpOrHostname =>
      simp only [perform] at step
      split at step
      · rcases frontEnd_eq_some step with ⟨unblocked, done⟩
        cases done
        exact consistent.of_blocking unblocked rfl
      · cases step
  | sendPacket conn body =>
      simp only [perform] at step
      split at step
      · rcases frontEnd_eq_some step with ⟨unblocked, done⟩
        cases done
        exact consistent.of_call unblocked (world.routine_commit rfl)
      · cases step
  | disconnect conn =>
      simp only [perform] at step
      split at step
      · rcases frontEnd_eq_some step with ⟨unblocked, done⟩
        exact consistent.of_call unblocked (routine_disconnectThen conn done)
      · cases step
  | reopen isolated nDelaySeconds =>
      simp only [perform] at step
      split at step
      · rcases frontEnd_eq_some step with ⟨unblocked, done⟩
        exact consistent.of_call unblocked (routine_reopen isolated done)
      · cases step
  | handlersReturn =>
      simp only [perform] at step
      split at step
      · cases step
      · rcases frontEnd_eq_some step with ⟨unblocked, done⟩
        exact consistent.of_call unblocked
          ((world.routine_frontStack _).trans (routine_runRest done))
  | runCallback =>
      simp only [perform] at step
      split at step
      · cases step
      · rename_i workCb queue first
        rcases mainLoop_eq_some step with ⟨_, unblocked, done⟩
        have taken := consistent.of_dequeueCb first
        cases workCb with
        | acceptClient server streamptr =>
            simp only [runWorkCb] at done
            split at done
            · rename_i closed
              cases done
              exact consistent.of_ignored unblocked first closed
            · rename_i open_
              exact consistent.of_onAcceptClient unblocked first (Bool.eq_false_iff.mpr open_) done
        | clientDisconnect => exact taken.of_call unblocked (routine_runWorkCb rfl done)
        | isolatedConnect => exact taken.of_call unblocked (routine_runWorkCb rfl done)
        | isolatedDisconnect => exact taken.of_call unblocked (routine_runWorkCb rfl done)
        | packet => exact taken.of_call unblocked (routine_runWorkCb rfl done)
        | innerPacket => exact taken.of_call unblocked (routine_runWorkCb rfl done)
  | releaseAllClients server order =>
      simp only [perform] at step
      split at step
      · rcases mainLoop_eq_some step with ⟨_, unblocked, done⟩
        exact consistent.of_call unblocked (routine_releaseAllClients done)
      · cases step
  | releaseAllIsolateds order =>
      rcases mainLoop_eq_some step with ⟨_, unblocked, done⟩
      exact consistent.of_call unblocked (routine_releaseAllIsolateds done)
  | recycle =>
      rcases mainLoop_eq_some step with ⟨_, unblocked, done⟩
      cases done
      exact consistent.of_call unblocked
        (world.routine_manager (show world.manager.Step .recycle _ from rfl))
  | execute order =>
      simp only [perform] at step
      split at step
      · cases step
      · rename_i cmd queue first
        rcases backEnd_eq_some step with ⟨idle, done⟩
        exact consistent.of_execute idle first done
  | resultCallback =>
      simp only [perform] at step
      split at step
      · cases step
      · rename_i cmd executing
        cases step
        cases cmd.counted with
        | none => exact consistent.of_finished executing
        | some conn =>
            have counted : Routine false world (world.incrBackEndConsumeNum conn) :=
              world.routine_incrBackEndConsumeNum conn
            exact (consistent.of_turn counted).of_finished (counted.executing.trans executing)
  | accept server streamptr =>
      simp only [perform] at step
      split at step
      · rename_i condition
        rcases backEnd_eq_some step with ⟨_, done⟩
        cases done
        exact consistent.of_accept condition.2.1 condition.2.2
      · cases step
  | evalLater conn =>
      simp only [perform] at step
      split at step
      · rcases backEnd_eq_some step with ⟨_, done⟩
        exact consistent.of_turn ((world.routine_deferred _).trans (routine_runDeferred conn done))
      · cases step
  | linkUp isolated =>
      simp only [perform] at step
      split at step
      · rcases backEnd_eq_some step with ⟨_, done⟩
        cases done
        have sameServer := (KjConn.linkUp_sameObject (world.conn isolated)).refServer
        exact consistent.of_turn ((world.routine_setConn isolated sameServer).trans
          (Routine.foldl _ (fun state link => routine_addLinkCb state isolated link) _ _))
      · cases step
  | connectFailed isolated =>
      simp only [perform] at step
      split at step
      · rcases backEnd_eq_some step with ⟨_, done⟩
        cases done
        exact consistent.of_turn (world.routine_taskFailed isolated rfl)
      · cases step
  | received conn body =>
      simp only [perform] at step
      split at step
      · rcases backEnd_eq_some step with ⟨_, done⟩
        cases done
        exact consistent.of_turn (world.routine_onGotPacket conn body)
      · cases step
  | readFailed conn =>
      simp only [perform] at step
      split at step
      · rcases backEnd_eq_some step with ⟨_, done⟩
        cases done
        exact consistent.of_turn (world.routine_taskFailed conn rfl)
      · cases step
  | timerFired isolated =>
      simp only [perform] at step
      split at step
      · rcases backEnd_eq_some step with ⟨_, done⟩
        rcases Option.map_eq_some_iff.mp done with ⟨conn, fired, rfl⟩
        exact consistent.of_turn
          (world.routine_setConn isolated (KjConn.timerFired_sameObject fired).refServer)
      · cases step

end KjWorld
end NetSystem
