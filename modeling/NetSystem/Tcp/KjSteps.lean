import NetSystem.Tcp.KjSimulation

namespace NetSystem

/-!
# Every step of the factory, seen by one connection

The commands of the work queue and the turns of the back end, and with them
every step: in a factory that is consistent, each step of the factory is a step
of every connection's view.
-/

namespace KjWorld

variable {world next : KjWorld} (ref : ConnRef)

/-! ## The commands -/

theorem view_setServer (world : KjWorld) (server : Nat) (state : KjServer) :
    (world.setServer server state).view ref =
      { world.view ref with
        closed := Function.update (world.view ref).closed server state.closed } := by
  have closed : (fun place => (Function.update world.servers server state place).closed) =
      Function.update (world.view ref).closed server state.closed := by
    funext place
    by_cases here : place = server
    · rw [here, Function.update_self, Function.update_self]
    · rw [Function.update_of_ne here, Function.update_of_ne here]
      rfl
  rw [← closed]
  rfl

theorem view_setServer_same (world : KjWorld) {server : Nat} {state : KjServer}
    (closed : state.closed = (world.servers server).closed) :
    (world.setServer server state).view ref = world.view ref := by
  rw [view_setServer, closed]
  have same : Function.update (world.view ref).closed server (world.servers server).closed =
      (world.view ref).closed := Function.update_eq_self server (world.view ref).closed
  rw [same]

theorem view_idle (idle : world.executing = none) : (world.view ref).executing = none := by
  change world.executing.filter _ = none
  rw [idle]
  rfl

/-- A command for the connection is taken out. -/
theorem view_dequeueCmd_self {cmd : NetCmd} {queue : List NetCmd} (idle : world.executing = none)
    (first : world.workQueue = cmd :: queue) (forRef : cmd.conn = some ref) :
    Exists fun todo => (world.view ref).executing = none ∧
      (world.view ref).todo = cmd :: todo ∧
      { world with workQueue := queue, executing := some cmd }.view ref =
        { world.view ref with executing := some cmd, todo := todo } := by
  have mine : (cmd.conn == some ref) = true := by
    rw [forRef]
    exact beq_self_eq_true _
  refine ⟨queue.filter fun other => other.conn == some ref, ?_, ?_, ?_⟩
  · exact view_idle ref idle
  · change world.workQueue.filter _ = _
    rw [first, List.filter_cons, if_pos mine]
  · have taken : (some cmd).filter (fun cmd => cmd.conn == some ref) = some cmd := by
      rw [Option.filter_some, if_pos mine]
    have both : { world with workQueue := queue, executing := some cmd }.view ref =
        { world.view ref with
          executing := (some cmd).filter fun cmd => cmd.conn == some ref
          todo := queue.filter fun cmd => cmd.conn == some ref } := rfl
    rw [both, taken]

theorem view_dequeueCmd_ne {cmd : NetCmd} {queue : List NetCmd} (idle : world.executing = none)
    (first : world.workQueue = cmd :: queue) (forOther : cmd.conn ≠ some ref) :
    { world with workQueue := queue, executing := some cmd }.view ref = world.view ref := by
  have foreign : ¬ (cmd.conn == some ref) = true := by
    rw [beq_iff_eq]
    exact forOther
  have todo : (world.view ref).todo = queue.filter fun cmd => cmd.conn == some ref := by
    change world.workQueue.filter _ = _
    rw [first, List.filter_cons, if_neg foreign]
  have executing : (world.view ref).executing =
      (some cmd).filter fun cmd => cmd.conn == some ref := by
    change world.executing.filter _ = _
    rw [idle, Option.filter_some, if_neg foreign]
    rfl
  have both : { world with workQueue := queue, executing := some cmd }.view ref =
      { world.view ref with
        executing := (some cmd).filter fun cmd => cmd.conn == some ref
        todo := queue.filter fun cmd => cmd.conn == some ref } := rfl
  rw [both, ← todo, ← executing]

theorem view_disposeDownStream (world : KjWorld) {server : Nat} {entry : ConnEntry}
    (key : world.manager.connId entry.2 = entry.1) :
    (world.disposeDownStream server entry).view entry.2 =
      { world.view entry.2 with
        conn := (world.view entry.2).conn.disposeConnection }.post
          (.clientDisconnect server entry.2) := by
  rw [disposeDownStream, if_pos key, addClientDisconnectCb, view_post_self _ _ rfl,
    view_setConn_self]
  rfl

theorem spares_disposeDownStream (world : KjWorld) (server : Nat) (entry : ConnEntry) :
    Spares world (world.disposeDownStream server entry) entry.2 := by
  unfold disposeDownStream
  split
  · exact (spares_setConn entry.2 _).trans entry.2 (spares_post entry.2 rfl)
  · exact fun _ _ => rfl

theorem disposeDownStream_connId (world : KjWorld) (server : Nat) (entry : ConnEntry) :
    (world.disposeDownStream server entry).manager.connId = world.manager.connId := by
  unfold disposeDownStream
  split <;> rfl

/-- `CKjServer::Close` disposes of the clients of the server and posts a callback for
each of them. -/
theorem view_closed (valid : world.manager.Formed ∧ world.manager.Placed)
    {server : Nat} {order : List ConnEntry} (unclosed : (world.servers server).closed = false)
    (done : world.close server order = some next) :
    order.Perm (world.manager.clientsOf server).entries ∧ next.view ref =
      { (if (world.view ref).held server = true then
          { world.view ref with conn := (world.view ref).conn.disposeConnection }.post
            (.clientDisconnect server ref)
        else world.view ref) with
        closed := Function.update (world.view ref).closed server true } := by
  unfold close at done
  rw [if_neg (Bool.eq_false_iff.mp unclosed)] at done
  split at done
  · rename_i condition
    have iterates := of_decide_eq_true (Bool.and_eq_true_iff.mp condition).2
    refine ⟨iterates, ?_⟩
    cases done
    have loop := view_foldl ref
      (fun conn view => { view with conn := view.conn.disposeConnection }.post
        (.clientDisconnect server conn))
      (fun state => state.manager.connId = world.manager.connId) order
      (fun state entry same => (disposeDownStream_connId state server entry).trans same)
      (fun state entry member same => view_disposeDownStream state
        ((congrFun same entry.2).trans (valid.1.connId_of_entry (iterates.mem_iff.mp member))))
      (fun state entry => spares_disposeDownStream state server entry)
      (valid.2.clientsOf_nodup iterates)
      (world.setServer server { world.servers server with closed := true, thrTcpStreamDict := [] })
      rfl
    have held : ref ∈ order.map Sigma.snd ↔ (world.view ref).held server = true := by
      rw [(KeyedMap.values_of_perm iterates).mem_iff]
      exact (decide_eq_true_iff).symm
    rw [loop, view_setServer, if_congr held rfl rfl]
    split <;> rfl
  · cases done

/-- `CKjServer::Close`, when no other command is left. -/
theorem view_close (valid : world.manager.Formed ∧ world.manager.Placed)
    {server : Nat} {order : List ConnEntry} (idle : (world.view ref).executing = none)
    (last : (world.view ref).todo = []) (done : world.close server order = some next) :
    ConnStep ref (world.view ref) (.execute order) (next.view ref) := by
  cases closed : (world.servers server).closed with
  | true =>
      unfold close at done
      rw [if_pos closed] at done
      cases done
      exact .other _ _ (by intro impossible; cases impossible)
  | false =>
      rw [(view_closed ref valid closed done).2]
      split
      · rename_i held
        exact .serverClosed _ order server idle last held
      · rename_i unheld
        exact .closedElsewhere _ order server (Bool.eq_false_iff.mpr unheld)

/-- The stream of a client that is being confirmed is still in the dictionary of
its server, and the id of the client is not 0. -/
theorem Consistent.stream_found (consistent : world.Consistent) {client : ConnRef}
    {streamptr : Nat} {queue : List NetCmd}
    (first : world.workQueue = .confirmClientIsReady client streamptr :: queue) :
    0 < world.manager.connId client ∧
      streamptr ∈ (world.servers (world.states client).refServer).thrTcpStreamDict := by
  have member : .confirmClientIsReady client streamptr ∈ world.workQueue := by
    rw [first]
    exact List.mem_cons_self ..
  rcases consistent.confirms client streamptr member with ⟨below, open_⟩
  constructor
  · rw [consistent.manager.1.ids client below]
    exact Nat.lt_of_le_of_lt (Nat.zero_le _) (ConnManager.drawnId_bounds client).1
  · apply consistent.kept _ open_
    apply List.mem_append_right
    apply List.mem_filterMap.mpr
    refine ⟨_, member, ?_⟩
    rw [confirmedStream, if_pos rfl]

theorem view_removeStream (world : KjWorld) (server streamptr : Nat) :
    (world.removeStream server streamptr).view ref = world.view ref :=
  view_setServer_same ref world rfl

theorem view_addStream (world : KjWorld) (server streamptr : Nat) :
    (world.setServer server { world.servers server with
      thrTcpStreamDict := (world.servers server).thrTcpStreamDict ++ [streamptr] }).view ref =
      world.view ref :=
  view_setServer_same ref world rfl

theorem view_opened (world : KjWorld) (server : Nat) :
    (world.setServer server { world.servers server with opened := true }).view ref =
      world.view ref :=
  view_setServer_same ref world rfl

theorem view_confirm (world : KjWorld) {order : List ConnEntry} {streamptr : Nat}
    (positive : 0 < world.manager.connId ref)
    (kept : streamptr ∈ (world.servers (world.states ref).refServer).thrTcpStreamDict)
    (done : world.runCmd order (.confirmClientIsReady ref streamptr) = some next) :
    CmdStep ref (world.view ref) (.confirmClientIsReady ref streamptr) (next.view ref) ∧
      Spares world next ref := by
  have ready_eq : (world.conn ref).isReady (world.manager.connId ref) =
      (!(world.conn ref).flags.bDisposed && !(world.conn ref).flags.bFlushed) := by
    rw [KjConn.isReady, decide_eq_true positive, Bool.true_and]
  have found : decide (streamptr ∈
      (world.servers (world.conn ref).refServer).thrTcpStreamDict) = true := decide_eq_true kept
  simp only [runCmd] at done
  rw [ready_eq, found] at done
  split at done
  · rename_i ready
    cases done
    rw [view_setConn_self, view_removeStream]
    refine ⟨.confirmed _ streamptr ?_, ?_⟩
    · rw [conn_view]
      simpa using ready
    · intro other different
      rw [view_setConn_ne _ _ different, view_removeStream]
  · rename_i unready
    rw [Bool.and_eq_true_iff, not_and_or, Bool.not_eq_true', Bool.not_eq_true',
      Bool.not_eq_false, Bool.not_eq_false] at unready
    cases done
    exact ⟨.notReady _ streamptr unready, fun _ _ => rfl⟩

/-- A command for a connection. -/
theorem view_runCmd (consistent : world.Consistent) (idle : world.executing = none) {cmd : NetCmd}
    {queue : List NetCmd} (first : world.workQueue = cmd :: queue) (forRef : cmd.conn = some ref)
    {order : List ConnEntry}
    (done : { world with workQueue := queue, executing := some cmd }.runCmd order cmd = some next) :
    ConnStep ref (world.view ref) (.execute order) (next.view ref) ∧ Spares world next ref := by
  rcases view_dequeueCmd_self ref idle first forRef with ⟨todo, vidle, vfirst, taken⟩
  have others : Spares world { world with workQueue := queue, executing := some cmd } ref := by
    intro other different
    apply view_dequeueCmd_ne other idle first
    rw [forRef]
    intro same
    exact different (Option.some.inj same).symm
  suffices runs : CmdStep ref ({ world with workQueue := queue, executing := some cmd }.view ref) cmd
      (next.view ref) ∧ Spares { world with workQueue := queue, executing := some cmd } next ref by
    rw [taken] at runs
    exact ⟨.executed _ _ order cmd todo vidle vfirst runs.1, others.trans ref runs.2⟩
  cases cmd with
  | openTcpServer server => cases forRef
  | closeTcpServer server => cases forRef
  | flushTcpServerDownStream server streamptr => cases forRef
  | disposeConnection conn =>
      cases forRef
      cases done
      rw [view_setConn_self]
      exact ⟨.disposed _, spares_setConn ref _⟩
  | postPacket conn body =>
      cases forRef
      cases done
      exact ⟨.posted _ body, fun _ _ => rfl⟩
  | confirmClientIsReady client streamptr =>
      cases forRef
      rcases consistent.stream_found first with ⟨positive, kept⟩
      exact view_confirm ref { world with workQueue := queue, executing := _ } positive kept done
  | isolatedConnConnect isolated sIpOrHostname =>
      cases forRef
      rcases Option.map_eq_some_iff.mp done with ⟨conn, connected, rfl⟩
      rw [view_setConn_self]
      exact ⟨.connected _ sIpOrHostname conn connected, spares_setConn ref _⟩
  | isolatedDelayReconnect isolated nDelaySeconds =>
      cases forRef
      rcases Option.map_eq_some_iff.mp done with ⟨conn, delayed, rfl⟩
      rw [view_setConn_self]
      exact ⟨.delayed _ nDelaySeconds conn delayed, spares_setConn ref _⟩

/-- A command that is about servers. -/
theorem view_runCmd_server (consistent : world.Consistent) (idle : world.executing = none)
    {cmd : NetCmd} {queue : List NetCmd} (first : world.workQueue = cmd :: queue)
    (forNone : cmd.conn = none) {order : List ConnEntry}
    (done : { world with workQueue := queue, executing := some cmd }.runCmd order cmd = some next) :
    ConnStep ref (world.view ref) (.execute order) (next.view ref) := by
  have taken : { world with workQueue := queue, executing := some cmd }.view ref = world.view ref := by
    apply view_dequeueCmd_ne ref idle first
    rw [forNone]
    exact Option.some_ne_none ref |>.symm
  rw [← taken]
  cases cmd with
  | openTcpServer server =>
      cases done
      rw [view_opened]
      exact .other _ _ (by intro impossible; cases impossible)
  | closeTcpServer server =>
      have started := consistent.of_dequeueCmd idle first
      have last : queue = [] := started.waits [] _ queue rfl rfl
      subst last
      exact view_close ref started.manager rfl rfl done
  | flushTcpServerDownStream server streamptr =>
      cases done
      rw [view_removeStream]
      exact .other _ _ (by intro impossible; cases impossible)
  | disposeConnection conn => cases forNone
  | postPacket conn body => cases forNone
  | confirmClientIsReady client streamptr => cases forNone
  | isolatedConnConnect isolated sIpOrHostname => cases forNone
  | isolatedDelayReconnect isolated nDelaySeconds => cases forNone

/-- The result callback of a command. -/
theorem view_finished {cmd : NetCmd} (executing : world.executing = some cmd) :
    ConnStep ref (world.view ref) .resultCallback
      ({ cmd.counted.elim world world.incrBackEndConsumeNum with executing := none }.view ref) := by
  have idle : forall state : KjWorld, { state with executing := none }.view ref =
      { state.view ref with executing := none } := fun _ => rfl
  rw [idle]
  by_cases mine : cmd.conn = some ref
  · have running : (world.view ref).executing = some cmd := by
      change world.executing.filter _ = _
      rw [executing, Option.filter_some, mine, beq_self_eq_true, if_pos rfl]
    have step : ConnStep ref (world.view ref) .resultCallback _ := .finished _ cmd running
    cases counted : cmd.counted with
    | none =>
        rw [counted] at step
        simpa using step
    | some conn =>
        have same : conn = ref := Option.some.inj ((counted_conn counted).symm.trans mine)
        subst same
        rw [counted] at step
        rw [Option.elim_some, incrBackEndConsumeNum, view_setConn_self]
        exact step
  · have absent : (world.view ref).executing = none := by
      change world.executing.filter _ = _
      rw [executing, Option.filter_some, beq_eq_false_iff_ne.mpr mine, if_neg Bool.false_ne_true]
    have same : (cmd.counted.elim world world.incrBackEndConsumeNum).view ref = world.view ref := by
      cases counted : cmd.counted with
      | none => rfl
      | some conn =>
          have different : ref ≠ conn := by
            rintro rfl
            exact mine (counted_conn counted)
          exact view_setConn_ne _ _ different _
    rw [same, ← absent]
    exact .other _ _ (by intro impossible; cases impossible)

/-! ## The turns of the back end -/

theorem addLinkCb_eq (world : KjWorld) (isolated : ConnRef) (link : LinkCb) :
    world.addLinkCb isolated link = world.post (.link isolated link) := by
  cases link <;> rfl

theorem link_conn (isolated : ConnRef) (link : LinkCb) :
    (TrunkCb.link isolated link).conn = some isolated := by
  cases link <;> rfl

theorem view_links (world : KjWorld) (links : List LinkCb) :
    (links.foldl (fun state link => state.addLinkCb ref link) world).view ref =
      (world.view ref).postLinks ref links := by
  induction links generalizing world with
  | nil => rfl
  | cons link links inductionHypothesis =>
      have posted : (world.addLinkCb ref link).view ref =
          (world.view ref).post (.link ref link) := by
        rw [addLinkCb_eq]
        exact view_post_self _ _ (link_conn ref link)
      rw [List.foldl_cons, inductionHypothesis, posted]
      rfl

theorem spares_links (world : KjWorld) (links : List LinkCb) :
    Spares world (links.foldl (fun state link => state.addLinkCb ref link) world) ref := by
  induction links generalizing world with
  | nil => exact fun _ _ => rfl
  | cons link links inductionHypothesis =>
      have posted : Spares world (world.addLinkCb ref link) ref := by
        rw [addLinkCb_eq]
        exact spares_post ref (link_conn ref link)
      exact posted.trans ref (inductionHypothesis _)

/-- A function of the connection leaves the list of `ScheduleEvalLaterFunc`. -/
theorem view_undefer (world : KjWorld) :
    { world with deferred := world.deferred.erase ref }.view ref =
      { world.view ref with deferred := (world.view ref).deferred - 1 } := by
  rw [view_deferred, List.count_erase_self]
  rfl

theorem spares_undefer (world : KjWorld) :
    Spares world { world with deferred := world.deferred.erase ref } ref := by
  intro other different
  rw [view_deferred, List.count_erase_of_ne different]
  rfl

theorem view_runDeferred (idle : world.executing = none) (scheduled : ref ∈ world.deferred)
    (done : { world with deferred := world.deferred.erase ref }.runDeferred ref = some next) :
    ConnStep ref (world.view ref) (.evalLater ref) (next.view ref) ∧ Spares world next ref := by
  have vidle := view_idle ref idle
  have pending : 0 < (world.view ref).deferred := List.count_pos_iff.mpr scheduled
  have undeferred := view_undefer ref world
  have others := spares_undefer ref world
  have kind : (world.conn ref).flushStream.kind = (world.conn ref).kind :=
    (KjConn.flushStream_sameObject _).kind
  have server : (world.conn ref).flushStream.refServer = (world.conn ref).refServer :=
    (KjConn.flushStream_sameObject _).refServer
  unfold runDeferred at done
  dsimp only at done
  split at done
  · rename_i client
    cases done
    constructor
    · rw [addClientDisconnectCb, view_post_self _ _ rfl, view_setConn_self, undeferred]
      have step : ConnStep ref (world.view ref) (.evalLater ref) _ :=
        .clientFailed _ vidle pending ((congrArg KjClass.isClient kind).symm.trans client)
      rw [← conn_view] at server
      rw [← server] at step
      exact step
    · exact (others.trans ref (spares_setConn ref _)).trans ref (spares_post ref rfl)
  · rename_i client
    rcases Option.map_eq_some_iff.mp done with ⟨lost, error, rfl⟩
    constructor
    · rw [view_links, view_setConn_self, undeferred]
      refine .isolatedFailed _ lost vidle pending ?_ error
      exact (congrArg KjClass.isClient kind).symm.trans (Bool.eq_false_iff.mpr client)
    · exact (others.trans ref (spares_setConn ref _)).trans ref (spares_links ref _ _)

theorem view_linkUp (world : KjWorld) (idle : world.executing = none)
    (connecting : (world.conn ref).connecting = true) :
    ConnStep ref (world.view ref) (.linkUp ref)
      (((world.conn ref).linkUp.2.foldl (fun state workCb => state.addLinkCb ref workCb)
        (world.setConn ref (world.conn ref).linkUp.1)).view ref) := by
  rw [view_links, view_setConn_self]
  exact .linkUp _ (view_idle ref idle) connecting

/-- A task of the connection fails. -/
theorem view_taskFailed (world : KjWorld) (conn : KjConn) :
    ((world.setConn ref conn).taskFailed ref).view ref =
      { world.view ref with conn := conn, deferred := (world.view ref).deferred + 1 } := by
  have appended : { world.setConn ref conn with deferred := world.deferred ++ [ref] }.view ref =
      { (world.setConn ref conn).view ref with deferred := (world.deferred ++ [ref]).count ref } :=
    rfl
  unfold taskFailed
  refine appended.trans ?_
  rw [view_setConn_self, List.count_append, List.count_singleton_self]
  rfl

theorem spares_taskFailed (world : KjWorld) (conn : KjConn) :
    Spares world ((world.setConn ref conn).taskFailed ref) ref := by
  intro other different
  have appended : { world.setConn ref conn with deferred := world.deferred ++ [ref] }.view other =
      { (world.setConn ref conn).view other with
        deferred := (world.deferred ++ [ref]).count other } := rfl
  have absent : List.count other [ref] = 0 := List.count_eq_zero.mpr (by simpa using different)
  unfold taskFailed
  refine appended.trans ?_
  rw [view_setConn_ne _ _ different, List.count_append, absent]
  rfl

theorem view_onGotPacket (world : KjWorld) (body : PacketBody) :
    Exists fun workCb => ((Exists fun uConnId => workCb = .packet ref uConnId body) ∨
        Exists fun uConnId => workCb = .innerPacket ref uConnId body) ∧
      (world.onGotPacket ref body).view ref = (world.view ref).post workCb ∧
      Spares world (world.onGotPacket ref body) ref := by
  have packet : Exists fun workCb => ((Exists fun uConnId => workCb = .packet ref uConnId body) ∨
      Exists fun uConnId => workCb = .innerPacket ref uConnId body) ∧
      world.onGotPacket ref body = world.post workCb ∧ workCb.conn = some ref := by
    unfold onGotPacket
    split
    · exact ⟨_, .inr ⟨_, rfl⟩, rfl, rfl⟩
    · exact ⟨_, .inl ⟨_, rfl⟩, rfl, rfl⟩
    · exact ⟨_, .inr ⟨_, rfl⟩, rfl, rfl⟩
    · exact ⟨_, .inl ⟨_, rfl⟩, rfl, rfl⟩
    · exact ⟨_, .inl ⟨_, rfl⟩, rfl, rfl⟩
    · exact ⟨_, .inr ⟨_, rfl⟩, rfl, rfl⟩
  rcases packet with ⟨workCb, isPacket, posted, mine⟩
  rw [posted]
  exact ⟨workCb, isPacket, view_post_self _ _ mine, spares_post ref mine⟩

/-! ## The other calls of the front end -/

theorem view_live (live : world.Live ref) : (world.view ref).Live :=
  ⟨decide_eq_true live.1, decide_eq_false live.2⟩

theorem view_disconnect (valid : world.manager.Formed ∧ world.manager.Placed)
    (unblocked : ¬ world.Blocked) (live : world.Live ref)
    (done : world.disconnectThen ref [] = some next) :
    ConnStep ref (world.view ref) (.disconnect ref) (next.view ref) ∧ Spares world next ref := by
  have none_ : forall rest : FrontRest, rest ∈ [] -> rest.conn = ref := by
    intro rest impossible
    cases impossible
  have waits := view_unblocked ref unblocked
  by_cases running : (world.conn ref).flags.bDisposed = false ∧ (world.conn ref).bRunning = true
  · cases connected : (world.conn ref).flags.bConnected with
    | true =>
        rcases view_stopped ref world none_ running connected done with ⟨same, others⟩
        rw [same]
        exact ⟨.stopped _ _ [] (view_live ref live) waits (.inl ⟨rfl, rfl⟩) running connected,
          others⟩
    | false =>
        rcases view_stoppedUnconnected ref valid running connected done with ⟨releases, others⟩
        exact ⟨.stoppedUnconnected _ _ (view_live ref live) waits running connected releases,
          others⟩
  · have ignored : (!(world.conn ref).flags.bDisposed && (world.conn ref).bRunning) = false := by
      rw [Bool.eq_false_iff, ne_eq, Bool.and_eq_true_iff, Bool.not_eq_true']
      exact running
    rw [disconnectThen, ignored, if_neg Bool.false_ne_true] at done
    cases done
    refine ⟨.disconnectIgnored _ ?_, fun _ _ => rfl⟩
    rw [not_and_or, Bool.not_eq_false, Bool.not_eq_true] at running
    exact running

theorem view_reopen (unblocked : ¬ world.Blocked) (live : world.Live ref)
    (client : (world.conn ref).kind.isClient = false) {nDelaySeconds : Int}
    (done : world.reopen ref nDelaySeconds = some next) :
    ConnStep ref (world.view ref) (.reopen ref nDelaySeconds) (next.view ref) ∧
      Spares world next ref := by
  have committed : ((world.conn ref).flags.bConnected = false ∨ (world.conn ref).bRunning = false) ->
      ConnStep ref (world.view ref) (.reopen ref nDelaySeconds)
        ((world.commit (.isolatedDelayReconnect ref nDelaySeconds)).view ref) := by
    intro stays
    rw [view_commit_self _ _ rfl]
    exact .reopened _ nDelaySeconds (view_live ref live) client stays
  have mine : forall rest, rest ∈ [FrontRest.delayReconnect ref nDelaySeconds] ->
      rest.conn = ref := by
    intro rest member
    rw [List.mem_singleton.mp member]
    rfl
  unfold reopen at done
  dsimp only at done
  split at done
  · rename_i disposed
    cases done
    exact ⟨.reopenIgnored _ nDelaySeconds disposed, fun _ _ => rfl⟩
  · rename_i alive
    rw [Bool.not_eq_true] at alive
    split at done
    · rename_i connected
      cases running : (world.conn ref).bRunning with
      | true =>
          rcases view_stopped ref world mine ⟨alive, running⟩ connected done with ⟨same, others⟩
          rw [same]
          exact ⟨.stopped _ _ _ (view_live ref live) (view_unblocked ref unblocked)
            (.inr ⟨nDelaySeconds, rfl, rfl, client⟩) ⟨alive, running⟩ connected, others⟩
      | false =>
          rw [disconnectThen, running, Bool.and_false, if_neg Bool.false_ne_true] at done
          cases done
          exact ⟨committed (.inr running), spares_commit ref rfl⟩
    · rename_i disconnected
      rw [Bool.not_eq_true] at disconnected
      cases done
      exact ⟨committed (.inl disconnected), spares_commit ref rfl⟩

/-- The handlers of an event return. -/
theorem view_handlersReturn (valid : world.manager.Formed ∧ world.manager.Placed)
    {rest : FrontRest} {stack : List FrontRest} (first : world.frontStack = rest :: stack)
    (done : { world with frontStack := stack }.runRest rest = some next) :
    ConnStep rest.conn (world.view rest.conn) .handlersReturn (next.view rest.conn) ∧
      Spares world next rest.conn := by
  rcases view_runRest rest.conn (by exact valid) rfl done with ⟨runs, others⟩
  constructor
  · refine .returned _ _ rest (stack.filter fun other => other.conn == rest.conn) ?_ runs
    change world.frontStack.filter _ = _
    rw [first, List.filter_cons, beq_self_eq_true, if_pos rfl]
  · refine Spares.trans rest.conn ?_ others
    intro other different
    have skipped : (world.view other).rests = stack.filter fun rest => rest.conn == other := by
      change world.frontStack.filter _ = _
      rw [first, List.filter_cons, beq_eq_false_iff_ne.mpr different.symm,
        if_neg Bool.false_ne_true]
    rw [view_frontStack, ← skipped]

/-- A callback of the trunk queue. -/
theorem view_runCallback (consistent : world.Consistent)
    (untouched : (world.view world.manager.created).Untouched) (returned : world.frontStack = [])
    {workCb : TrunkCb} {queue : List TrunkCb} (first : world.trunkQueue = workCb :: queue)
    (done : { world with trunkQueue := queue }.runWorkCb workCb = some next) :
    ConnStep ref (world.view ref) .runCallback (next.view ref) := by
  have taken := consistent.of_dequeueCb first
  cases forConn : workCb.conn with
  | some conn =>
      rcases view_runWorkCb conn consistent.manager first forConn done with
        ⟨⟨callbacks, split, runs⟩, others⟩
      by_cases here : ref = conn
      · subst here
        have idle : (world.view ref).rests = [] := by
          change world.frontStack.filter _ = []
          rw [returned]
          rfl
        exact .called _ _ workCb callbacks split idle runs
      · rw [others ref here]
        exact .other _ _ (by intro impossible; cases impossible)
  | none =>
      cases workCb with
      | acceptClient server streamptr =>
          have skipped := fun conn => view_dequeueCb conn first forConn
          rw [← skipped ref]
          simp only [runWorkCb] at done
          split at done
          · cases done
            rw [view_commit_ne _ _ (by intro impossible; cases impossible)]
            exact .other _ _ (by intro impossible; cases impossible)
          · rename_i open_
            have fresh := untouched
            rw [← skipped world.manager.created] at fresh
            exact view_onAcceptClient ref taken fresh (Bool.eq_false_iff.mpr open_) done
      | clientDisconnect => cases forConn
      | isolatedConnect => cases forConn
      | isolatedDisconnect => cases forConn
      | packet => cases forConn
      | innerPacket => cases forConn

/-! ## Every step -/

/-- A step that concerns one connection only. -/
theorem step_of_spares {event : WorldEvent} {conn : ConnRef}
    (elsewhere : forall other, other ≠ conn -> event.target ≠ some other)
    (own : ConnStep conn (world.view conn) event (next.view conn))
    (others : Spares world next conn) : ConnStep ref (world.view ref) event (next.view ref) := by
  by_cases here : ref = conn
  · subst here
    exact own
  · rw [others ref here]
    exact .other _ _ (elsewhere ref here)

/-- What every reachable factory keeps.  Nothing refers to a connection that
does not exist yet. -/
structure Valid (world : KjWorld) : Prop where
  consistent : world.Consistent
  untouched : forall ref, world.manager.created ≤ ref -> (world.view ref).Untouched

theorem view_step {event : WorldEvent} (valid : world.Valid) (step : world.Step event next) :
    ConnStep ref (world.view ref) event (next.view ref) := by
  have manager := valid.consistent.manager
  have fresh := valid.untouched world.manager.created (Nat.le_refl _)
  have none_ : forall conn other : ConnRef, other ≠ conn -> (none : Option ConnRef) ≠ some other := by
    intro conn other _ impossible
    cases impossible
  have named : forall conn other : ConnRef, other ≠ conn -> some conn ≠ some other := by
    intro conn other different same
    exact different (Option.some.inj same).symm
  unfold Step at step
  cases event with
  | openTcpServer server =>
      rcases frontEnd_eq_some step with ⟨_, done⟩
      cases done
      rw [view_commit_ne _ _ (by intro impossible; cases impossible)]
      exact .other _ _ (by intro impossible; cases impossible)
  | closeTcpServer server =>
      rcases frontEnd_eq_some step with ⟨_, done⟩
      cases done
      rw [view_commit_ne _ _ (by intro impossible; cases impossible)]
      exact .other _ _ (by intro impossible; cases impossible)
  | createTcpIsolated =>
      rcases frontEnd_eq_some step with ⟨_, done⟩
      exact view_createIsolated ref fresh (by split <;> rfl) rfl done
  | createTcpIsolated2 =>
      rcases frontEnd_eq_some step with ⟨_, done⟩
      exact view_createIsolated ref fresh (by split <;> rfl) rfl done
  | isolatedConnConnect isolated sIpOrHostname =>
      simp only [perform] at step
      split at step
      · rename_i live
        rcases frontEnd_eq_some step with ⟨_, done⟩
        cases done
        refine step_of_spares ref (named isolated) ?_ (spares_commit isolated rfl)
        rw [view_commit_self _ _ rfl]
        exact .connectCommitted _ sIpOrHostname (view_live isolated live.1) live.2
      · cases step
  | sendPacket conn body =>
      simp only [perform] at step
      split at step
      · rename_i live
        rcases frontEnd_eq_some step with ⟨_, done⟩
        cases done
        refine step_of_spares ref (named conn) ?_ (spares_commit conn rfl)
        rw [view_commit_self _ _ rfl]
        exact .sent _ body (view_live conn live)
      · cases step
  | disconnect conn =>
      simp only [perform] at step
      split at step
      · rename_i live
        rcases frontEnd_eq_some step with ⟨unblocked, done⟩
        rcases view_disconnect conn manager unblocked live done with ⟨own, others⟩
        exact step_of_spares ref (named conn) own others
      · cases step
  | reopen isolated nDelaySeconds =>
      simp only [perform] at step
      split at step
      · rename_i live
        rcases frontEnd_eq_some step with ⟨unblocked, done⟩
        rcases view_reopen isolated unblocked live.1 live.2 done with ⟨own, others⟩
        exact step_of_spares ref (named isolated) own others
      · cases step
  | handlersReturn =>
      simp only [perform] at step
      split at step
      · cases step
      · rename_i rest stack first
        rcases frontEnd_eq_some step with ⟨_, done⟩
        rcases view_handlersReturn manager first done with ⟨own, others⟩
        exact step_of_spares ref (none_ _) own others
  | runCallback =>
      simp only [perform] at step
      split at step
      · cases step
      · rename_i workCb queue first
        rcases mainLoop_eq_some step with ⟨returned, _, done⟩
        exact view_runCallback ref valid.consistent fresh returned first done
  | releaseAllClients server order =>
      simp only [perform] at step
      split at step
      · rename_i closed
        rcases mainLoop_eq_some step with ⟨_, _, done⟩
        exact view_releaseAllClients ref manager closed done
      · cases step
  | releaseAllIsolateds order =>
      rcases mainLoop_eq_some step with ⟨_, unblocked, done⟩
      exact view_releaseAllIsolateds ref manager unblocked done
  | recycle =>
      rcases mainLoop_eq_some step with ⟨returned, unblocked, done⟩
      cases done
      exact view_recycle ref manager.1.idle unblocked returned
  | execute order =>
      simp only [perform] at step
      split at step
      · cases step
      · rename_i cmd queue first
        rcases backEnd_eq_some step with ⟨idle, done⟩
        cases forConn : cmd.conn with
        | none => exact view_runCmd_server ref valid.consistent idle first forConn done
        | some conn =>
            rcases view_runCmd conn valid.consistent idle first forConn done with ⟨own, others⟩
            exact step_of_spares ref (none_ _) own others
  | resultCallback =>
      simp only [perform] at step
      split at step
      · cases step
      · rename_i cmd executing
        cases step
        exact view_finished ref executing
  | accept server streamptr =>
      simp only [perform] at step
      split at step
      · rcases backEnd_eq_some step with ⟨_, done⟩
        cases done
        rw [addAcceptClientCb, view_post_ne _ _ (by intro impossible; cases impossible)]
        rw [view_addStream]
        exact .other _ _ (by intro impossible; cases impossible)
      · cases step
  | evalLater conn =>
      simp only [perform] at step
      split at step
      · rename_i scheduled
        rcases backEnd_eq_some step with ⟨idle, done⟩
        rcases view_runDeferred conn idle scheduled done with ⟨own, others⟩
        exact step_of_spares ref (named conn) own others
      · cases step
  | linkUp isolated =>
      simp only [perform] at step
      split at step
      · rename_i connecting
        rcases backEnd_eq_some step with ⟨idle, done⟩
        cases done
        exact step_of_spares ref (named isolated) (view_linkUp isolated world idle connecting)
          ((spares_setConn isolated _).trans isolated (spares_links isolated _ _))
      · cases step
  | connectFailed isolated =>
      simp only [perform] at step
      split at step
      · rename_i connecting
        rcases backEnd_eq_some step with ⟨idle, done⟩
        cases done
        refine step_of_spares ref (named isolated) ?_ (spares_taskFailed isolated world _)
        rw [view_taskFailed]
        exact .connectFailed _ (view_idle isolated idle) connecting
      · cases step
  | received conn body =>
      simp only [perform] at step
      split at step
      · rename_i reading
        rcases backEnd_eq_some step with ⟨idle, done⟩
        cases done
        rcases view_onGotPacket conn world body with ⟨workCb, packet, posted, others⟩
        refine step_of_spares ref (named conn) ?_ others
        rw [posted]
        exact .received _ body workCb (view_idle conn idle) reading packet
      · cases step
  | readFailed conn =>
      simp only [perform] at step
      split at step
      · rename_i reading
        rcases backEnd_eq_some step with ⟨idle, done⟩
        cases done
        refine step_of_spares ref (named conn) ?_ (spares_taskFailed conn world _)
        rw [view_taskFailed]
        exact .readFailed _ (view_idle conn idle) reading
      · cases step
  | timerFired isolated =>
      simp only [perform] at step
      split at step
      · rename_i timer
        rcases backEnd_eq_some step with ⟨idle, done⟩
        rcases Option.map_eq_some_iff.mp done with ⟨conn, fired, rfl⟩
        refine step_of_spares ref (named isolated) ?_ (spares_setConn isolated _)
        rw [view_setConn_self]
        exact .timerFired _ conn (view_idle isolated idle) timer fired
      · cases step

end KjWorld

/-! ## Reachable factories -/

theorem RestStep.life_eq {ref : ConnRef} {view next : ConnView} {rest : FrontRest}
    (runs : RestStep ref view rest next) :
    next.created = view.created ∧ next.deleted = view.deleted := by
  cases runs <;> exact ⟨rfl, rfl⟩

theorem CmdStep.life_eq {ref : ConnRef} {view next : ConnView} {cmd : NetCmd}
    (runs : CmdStep ref view cmd next) :
    next.created = view.created ∧ next.deleted = view.deleted := by
  cases runs <;> exact ⟨rfl, rfl⟩

theorem CbStep.life_eq {ref : ConnRef} {view next : ConnView} {workCb : TrunkCb}
    (runs : CbStep ref view workCb next) :
    next.created = view.created ∧ next.deleted = view.deleted := by
  cases runs with
  | clientGone _ _ _ removes => exact removes.life_eq
  | _ => exact ⟨rfl, rfl⟩

namespace ConnView

theorem postLinks_eq (view : ConnView) (ref : ConnRef) (links : List LinkCb) :
    view.postLinks ref links =
      { view with
        conn.flags.backEndProduceNum :=
          view.conn.flags.backEndProduceNum + UInt32.ofNat links.length
        callbacks := view.callbacks ++ links.map (TrunkCb.link ref) } := by
  induction links generalizing view with
  | nil => simp [postLinks]
  | cons link links inductionHypothesis =>
      change (view.post (.link ref link)).postLinks ref links = _
      rw [inductionHypothesis]
      simp only [post, List.length_cons, List.map_cons, List.append_assoc, List.singleton_append,
        UInt32.ofNat_add, UInt32.add_assoc, UInt32.add_comm 1]
      rfl

theorem releaseIsolated_life_eq (view : ConnView) (ref : ConnRef) :
    (view.releaseIsolated ref).created = view.created ∧
      (view.releaseIsolated ref).deleted = view.deleted := by
  unfold releaseIsolated
  dsimp only
  split <;> exact ⟨rfl, rfl⟩

/-- A connection that has just been created. -/
inductive Born (ref : ConnRef) (view : ConnView) : ConnView -> Prop
  | client (kind : KjClass) (server streamptr : Nat) (client : kind.isClient = true)
      (open_ : view.closed server = false) :
      Born ref view (view.accepted ref kind server streamptr)
  | isolated (kind : KjClass) (client : kind.isClient = false) :
      Born ref view { view with
        created := true
        isolated := true
        conn := ⟨.initial kind 0, .initial true⟩ }

variable {ref : ConnRef} {view next : ConnView} {event : WorldEvent}

theorem Born.life (born : Born ref view next) :
    next.created = true ∧ next.deleted = view.deleted := by
  cases born <;> exact ⟨rfl, rfl⟩

/-- A connection is created once, and deleted by `Recycle` only. -/
theorem life_of_step (step : ConnStep ref view event next) :
    (next.created = view.created ∧ next.deleted = view.deleted) ∨
    (view.created = false ∧ view.Untouched ∧ Born ref view next) ∨
    (event = .recycle ∧ view.recycled = true ∧ view.rests = [] ∧
      (forall cmd, cmd ∈ view.pendingCmds -> cmd.blocking = false) ∧
      view.conn.flags.SafeToRelease ∧
      next = { view with recycled := false, deleted := true }) := by
  cases step with
  | accepted kind server streamptr absent untouched client open_ =>
      exact .inr (.inl ⟨absent, untouched, .client kind server streamptr client open_⟩)
  | isolatedCreated _ kind _ absent untouched isolated =>
      exact .inr (.inl ⟨absent, untouched, .isolated kind isolated⟩)
  | deleted recycled idle unblocked safe =>
      exact .inr (.inr ⟨rfl, recycled, idle, unblocked, safe, rfl⟩)
  | stoppedUnconnected _ _ _ _ _ releases => exact .inl releases.life_eq
  | returned _ _ _ _ runs => exact .inl runs.life_eq
  | called _ _ _ _ _ runs => exact .inl runs.life_eq
  | executed _ _ _ _ _ _ runs => exact .inl runs.life_eq
  | isolatedReleased => exact .inl (releaseIsolated_life_eq _ _)
  | isolatedFailed lost =>
      rw [postLinks_eq]
      exact .inl ⟨rfl, rfl⟩
  | linkUp =>
      rw [postLinks_eq]
      exact .inl ⟨rfl, rfl⟩
  | _ => exact .inl ⟨rfl, rfl⟩

theorem created_of_step (step : ConnStep ref view event next) (created : view.created = true) :
    next.created = true := by
  rcases life_of_step step with ⟨same, _⟩ | ⟨_, _, born⟩ | ⟨_, _, _, _, _, rfl⟩
  · exact same.trans created
  · exact born.life.1
  · exact created

/-- Nothing comes to refer to a connection that does not exist. -/
theorem Untouched.step (untouched : view.Untouched) (dead : ¬ view.Live)
    (step : ConnStep ref view event next) (still : next.created = view.created) :
    next.Untouched ∧ next.conn = view.conn ∧ next.log = view.log := by
  cases step with
  | other => exact ⟨untouched, rfl, rfl⟩
  | displaced _ _ _ _ fewer fewerIsolated =>
      refine ⟨{ untouched with isolated := ?_, held := ?_ }, rfl, rfl⟩
      · apply Bool.eq_false_iff.mpr
        intro kept
        have before := fewerIsolated kept
        rw [untouched.isolated] at before
        cases before
      · intro server
        apply Bool.eq_false_iff.mpr
        intro kept
        have before := fewer server kept
        rw [untouched.held server] at before
        cases before
  | accepted _ _ _ absent => exact absurd (absent.symm.trans still.symm) Bool.false_ne_true
  | isolatedCreated _ _ _ absent =>
      exact absurd (absent.symm.trans still.symm) Bool.false_ne_true
  | connectCommitted _ live => exact absurd live dead
  | sent _ live => exact absurd live dead
  | disconnectIgnored => exact ⟨untouched, rfl, rfl⟩
  | stopped _ _ live => exact absurd live dead
  | stoppedUnconnected _ live => exact absurd live dead
  | reopenIgnored => exact ⟨untouched, rfl, rfl⟩
  | reopened _ live => exact absurd live dead
  | returned _ _ _ first =>
      rw [untouched.rests] at first
      cases first
  | called _ _ _ first =>
      rw [untouched.callbacks] at first
      cases first
  | clientReleased server _ held =>
      rw [untouched.held server] at held
      cases held
  | isolatedReleased _ isolated =>
      rw [untouched.isolated] at isolated
      cases isolated
  | deleted recycled =>
      rw [untouched.recycled] at recycled
      cases recycled
  | executed _ _ _ _ _ first =>
      rw [untouched.todo] at first
      cases first
  | serverClosed _ server _ _ held =>
      rw [untouched.held server] at held
      cases held
  | closedElsewhere => exact ⟨{ untouched with }, rfl, rfl⟩
  | finished _ executing =>
      rw [untouched.executing] at executing
      cases executing
  | clientFailed _ pending =>
      rw [untouched.deferred] at pending
      exact absurd pending (Nat.lt_irrefl 0)
  | isolatedFailed _ _ pending =>
      rw [untouched.deferred] at pending
      exact absurd pending (Nat.lt_irrefl 0)
  | linkUp _ connecting =>
      rw [untouched.connecting] at connecting
      cases connecting
  | connectFailed _ connecting =>
      rw [untouched.connecting] at connecting
      cases connecting
  | received _ _ _ reading =>
      rw [untouched.reading] at reading
      cases reading
  | readFailed _ reading =>
      rw [untouched.reading] at reading
      cases reading
  | timerFired _ _ timer =>
      rw [untouched.timer] at timer
      cases timer

/-- A connection that does not exist yet stays as it is until it is created. -/
theorem absent_of_step (untouched : view.created = false -> view.Untouched)
    (step : ConnStep ref view event next) (still : next.created = false) :
    view.created = false ∧ next.Untouched ∧ next.conn = view.conn ∧ next.log = view.log := by
  have absent : view.created = false := by
    apply Bool.eq_false_iff.mpr
    intro created
    exact absurd (still.symm.trans (created_of_step step created)) Bool.false_ne_true
  have dead : ¬ view.Live := by
    intro live
    exact absurd (absent.symm.trans live.1) Bool.false_ne_true
  exact ⟨absent, (untouched absent).step dead step (still.trans absent.symm)⟩

/-- A connection before it is created. -/
def initial : ConnView where
  created := false
  deleted := false
  recycled := false
  isolated := false
  held := fun _ => false
  closed := fun _ => false
  conn := ⟨.initial .isolatedConn 0, .initial false⟩
  executing := none
  todo := []
  callbacks := []
  rests := []
  deferred := 0
  log := []

theorem initial_untouched : initial.Untouched := by
  constructor <;> first | rfl | exact fun _ => rfl

end ConnView

namespace KjWorld

variable {world next : KjWorld}

theorem initial_view (gate : Bool) (ref : ConnRef) : (initial gate).view ref = .initial := rfl

theorem initial_valid (gate : Bool) : (initial gate).Valid := by
  refine ⟨initial_consistent gate, ?_⟩
  intro ref _
  rw [initial_view]
  exact ConnView.initial_untouched

theorem Valid.step {event : WorldEvent} (valid : world.Valid) (step : world.Step event next) :
    next.Valid := by
  refine ⟨valid.consistent.step step, ?_⟩
  intro ref above
  have still : (next.view ref).created = false := decide_eq_false (Nat.not_lt_of_le above)
  have fresh : (world.view ref).created = false -> (world.view ref).Untouched := by
    intro absent
    exact valid.untouched ref (Nat.le_of_not_lt (of_decide_eq_false absent))
  exact (ConnView.absent_of_step fresh (view_step ref valid step) still).2.1

/-- An invariant of the view of a connection, kept by the steps that some
condition on the view allows, holds in every factory that such steps reach. -/
theorem view_invariant {ref : ConnRef} {Allowed : ConnView -> WorldEvent -> Prop}
    (Invariant : ConnView -> Prop)
    (keep : forall view event next, Invariant view -> Allowed view event ->
      ConnStep ref view event next -> Invariant next)
    {first : KjWorld} (valid : first.Valid) (start : Invariant (first.view ref))
    {events : List WorldEvent}
    (run : Run (fun state event next => state.Step event next ∧ Allowed (state.view ref) event)
      first events world) : world.Valid ∧ Invariant (world.view ref) := by
  refine run.invariant (fun state => state.Valid ∧ Invariant (state.view ref)) ?_ ⟨valid, start⟩
  rintro state event next ⟨valid, kept⟩ ⟨step, allowed⟩
  exact ⟨valid.step step, keep _ event _ kept allowed (view_step ref valid step)⟩

/-- An invariant of every step. -/
theorem view_invariant_of_run {gate : Bool} {ref : ConnRef} (Invariant : ConnView -> Prop)
    (keep : forall view event next, Invariant view -> ConnStep ref view event next ->
      Invariant next)
    (start : Invariant .initial) {events : List WorldEvent}
    (run : Run Step (initial gate) events world) : world.Valid ∧ Invariant (world.view ref) := by
  have allowed : forall view event next, Invariant view -> True -> ConnStep ref view event next ->
      Invariant next := fun view event next kept _ step => keep view event next kept step
  exact view_invariant Invariant allowed (initial_valid gate) start
    (run.mono fun state event next step => ⟨step, trivial⟩)

/-- The factory after the events, if they are possible. -/
def proceed (world : KjWorld) (events : List WorldEvent) : KjWorld :=
  (events.foldlM perform world).getD world

/-- A new factory after the events, if they are possible. -/
def after (gate : Bool) (events : List WorldEvent) : KjWorld :=
  (events.foldlM perform (initial gate)).getD (initial gate)

/-- The run of events that some condition allows. -/
theorem run_proceed {events : List WorldEvent} (Allowed : KjWorld -> WorldEvent -> Prop)
    [forall state event, Decidable (Allowed state event)]
    (possible : (events.foldlM (fun state event =>
      if Allowed state event then state.perform event else none) world).isSome = true) :
    Run (fun state event next => state.Step event next ∧ Allowed state event) world events
      (world.proceed events) := by
  rcases Option.isSome_iff_exists.mp possible with ⟨last, done⟩
  have run : Run (fun state event next => state.Step event next ∧ Allowed state event)
      world events last := by
    refine (Run.of_foldlM events done).mono ?_
    intro state event next step
    split at step
    · rename_i allowed
      exact ⟨step, allowed⟩
    · cases step
  have result : events.foldlM perform world = some last :=
    (run.mono fun _ _ _ step => step.1).foldlM_eq
  rw [proceed, result]
  exact run

theorem run_after {gate : Bool} {events : List WorldEvent}
    (possible : (events.foldlM perform (initial gate)).isSome = true) :
    Run Step (initial gate) events (after gate events) := by
  apply Run.of_foldlM
  rcases Option.isSome_iff_exists.mp possible with ⟨world, done⟩
  rw [after, done]
  rfl

theorem run_after_of_allowed {gate : Bool} {events : List WorldEvent}
    (Allowed : KjWorld -> WorldEvent -> Prop) [forall state event, Decidable (Allowed state event)]
    (possible : (events.foldlM (fun state event =>
      if Allowed state event then state.perform event else none) (initial gate)).isSome = true) :
    Run (fun state event next => state.Step event next ∧ Allowed state event) (initial gate) events
      (after gate events) :=
  run_proceed Allowed possible

end KjWorld
end NetSystem
