import NetSystem.Tcp.UvClientSteps

namespace NetSystem

/-!
# The client handles of the Uv factory

A client handle is freed with its connection, and the close callback of its stream reads
both.  `FlushStream` sets the flag that lets the recycler delete the connection when it
has called `uv_close`, and not when the callback has come.  So `Recycle` can delete the
connection and its handle before `on_stream_close` reads them: when a factory is deleted,
the recycler runs before the loop does.  When a server that is not ready rejects a client,
`on_connection` frees the handle and then assigns its buffer, if `bip_buf_destroy` of the
buffer that it has not made yet lets it get so far.

As long as no client is rejected, every new handle comes with a new client, and the handle
of a client has the number of the client.
-/

/-- The client that is waited for. -/
def UvRest.client : UvRest -> ConnRef
  | .accepted _ client => client
  | .removeClient _ client => client
  | .disposeDownStreams _ client _ => client

/-- A use of a handle or a connection that has been given back. -/
def UvFault.ofFreed : UvFault -> Bool
  | .handleFreed _ => true
  | .connDeleted _ => true
  | _ => false

theorem UvFault.ofFreed_of_isMemory {fault : UvFault} (other : fault.isMemory = false) :
    fault.ofFreed = false := by
  cases fault with
  | handleFreed _ => exact other
  | connDeleted _ => exact other
  | bufferUnset _ => rfl
  | implNull _ => rfl
  | erasedCurrent _ _ => rfl

/-- The handle of a client, which may not have been created yet, may wait for the handlers
of its connect event, and may have been deleted. -/
structure UvHandle.Kept (handle : UvHandle) (client : ConnRef) (created waits deleted : Prop) :
    Prop where
  alive : ¬ deleted -> handle.frees = 0
  gone : deleted -> handle.frees = 1 ∧ handle.stream = .closed
  running : handle.sockimpl = true -> handle.stream = .running
  written : handle.stream = .closed -> handle.writes = 0
  connimpl : handle.connimpl = some client ∨ (handle.connimpl = none ∧ (created -> waits))
  unborn : ¬ created -> handle.stream = .absent ∧ handle.writes = 0

namespace UvClients

variable {world next last : UvClients} {server clnt : Nat} {client other : ConnRef}
  {event : UvClientsEvent}

/-- Each handle has been freed at most once, no freed handle and no deleted connection has
been used, and none is going to be: the stream of a freed handle is closed. -/
structure HandlesKept (world : UvClients) : Prop where
  once : forall clnt, (world.handles clnt).frees ≤ 1
  unused : forall fault, fault ∈ world.faults -> fault.ofFreed = false
  closed : forall clnt, (world.handles clnt).frees ≠ 0 -> (world.handles clnt).stream = .closed

/-- No client is rejected, and `Recycle` deletes a connection only when the close callback
of its stream has come. -/
def SafeOrder (world : UvClients) : UvClientsEvent -> Prop
  | .onConnection server created => created = true -> (world.servers server).impl ≠ none ->
      (world.servers server).closed = false ∧ (world.servers server).ready = true
  | .recycle => forall client clnt, client ∈ world.releasable ->
      (world.states client).clnt = some clnt -> (world.handles clnt).stream = .closed
  | _ => True

/-- The handle of a client, with what is known of the client. -/
def HandleKept (world : UvClients) (client : ConnRef) (handle : UvHandle) : Prop :=
  handle.Kept client (client < world.manager.created) (.accepted client client ∈ world.stack)
    (world.manager.Deleted client)

/-- What holds as long as the order is safe. -/
structure Sound (world : UvClients) : Prop where
  allocated : world.allocated = world.manager.created
  owner : forall client, client < world.manager.created ->
    (world.states client).clnt = some client
  handle : forall client, world.HandleKept client (world.handles client)
  present : forall rest, rest ∈ world.stack -> ¬ world.manager.Deleted rest.client
  accepted : forall clnt client, .accepted clnt client ∈ world.stack -> client = clnt
  dropped : forall server, (world.servers server).tcpStreamDict = []
  unused : forall fault, fault ∈ world.faults -> fault.isMemory = false

theorem initial_sound : initial.Sound where
  allocated := rfl
  owner := fun _ below => absurd below (Nat.not_lt_zero _)
  handle := fun client => {
    alive := fun _ => rfl
    gone := fun impossible => by cases impossible
    running := fun impossible => Bool.noConfusion impossible
    written := fun impossible => by cases impossible
    connimpl := .inr ⟨rfl, fun below => absurd below (Nat.not_lt_zero _)⟩
    unborn := fun _ => ⟨rfl, rfl⟩ }
  present := fun _ impossible => by cases impossible
  accepted := fun _ _ impossible => by cases impossible
  dropped := fun _ => rfl
  unused := fun _ impossible => by cases impossible

theorem handlesKept_of_sound (sound : world.Sound) : world.HandlesKept where
  once := by
    intro clnt
    have kept := sound.handle clnt
    by_cases deleted : world.manager.Deleted clnt
    · exact Nat.le_of_eq (kept.gone deleted).1
    · rw [kept.alive deleted]
      exact Nat.zero_le 1
  unused := fun fault member => UvFault.ofFreed_of_isMemory (sound.unused fault member)
  closed := by
    intro clnt freed
    by_cases deleted : world.manager.Deleted clnt
    · exact ((sound.handle clnt).gone deleted).2
    · exact absurd ((sound.handle clnt).alive deleted) freed

/-! ## What leaves the handles alone -/

theorem Sound.same (sound : world.Sound) (handles : next.handles = world.handles)
    (clnts : forall client, (next.states client).clnt = (world.states client).clnt)
    (allocated : next.allocated = world.allocated)
    (created : next.manager.created = world.manager.created)
    (deleted : forall client, next.manager.Deleted client ↔ world.manager.Deleted client)
    (stack : next.stack = world.stack)
    (dicts : forall server, (next.servers server).tcpStreamDict = [])
    (faults : next.faults = world.faults) : next.Sound where
  allocated := by rw [allocated, created, sound.allocated]
  owner := by
    intro client below
    rw [created] at below
    rw [clnts, sound.owner client below]
  handle := by
    intro client
    unfold HandleKept
    rw [handles, created, stack, propext (deleted client)]
    exact sound.handle client
  present := by
    intro rest member
    rw [stack] at member
    rw [deleted]
    exact sound.present rest member
  accepted := by
    rw [stack]
    exact sound.accepted
  dropped := dicts
  unused := by
    rw [faults]
    exact sound.unused

theorem Sound.fault (sound : world.Sound) {fault : UvFault} (other : fault.isMemory = false) :
    (world.fault fault).Sound := by
  refine ⟨sound.allocated, sound.owner, sound.handle, sound.present, sound.accepted,
    sound.dropped, fun found member => ?_⟩
  rcases List.mem_append.mp member with before | here
  · exact sound.unused found before
  · rw [List.mem_singleton.mp here]
    exact other

theorem Sound.setFlags (sound : world.Sound) (client : ConnRef) (flags : ConnFlags) :
    (world.setFlags client flags).Sound :=
  sound.same rfl (fun _ => rfl) rfl rfl (fun _ => Iff.rfl) rfl sound.dropped rfl

theorem Sound.setState (sound : world.Sound) (client : ConnRef) {state : UvClientState}
    (kept : state.clnt = (world.states client).clnt) : (world.setState client state).Sound := by
  refine sound.same rfl (fun other => ?_) rfl rfl (fun _ => Iff.rfl) rfl sound.dropped rfl
  by_cases same : other = client
  · rw [same, states_setState, kept]
  · rw [states_setState_ne state same]

theorem Sound.setServer (sound : world.Sound) {state : UvServer}
    (dropped : state.tcpStreamDict = []) : (world.setServer server state).Sound := by
  refine sound.same rfl (fun _ => rfl) rfl rfl (fun _ => Iff.rfl) rfl (fun place => ?_) rfl
  by_cases same : place = server
  · rw [same, servers_setServer, dropped]
  · rw [servers_setServer_ne state same, sound.dropped]

theorem Sound.onDisconnect (sound : world.Sound) (client : ConnRef) :
    (world.onDisconnect client).1.Sound := by
  rcases world.onDisconnect_cases client with ⟨_, lost⟩ | ⟨_, lost⟩
  · rw [lost]
    exact (sound.setFlags client _).same rfl (fun _ => rfl) rfl rfl (fun _ => Iff.rfl) rfl
      sound.dropped rfl
  · rw [lost]
    exact sound

/-- Something else than the end of an accept is left to do. -/
theorem Sound.push (sound : world.Sound) {rest : UvRest}
    (kind : forall clnt client, rest ≠ .accepted clnt client)
    (present : ¬ world.manager.Deleted rest.client) : (world.push rest).Sound := by
  refine ⟨sound.allocated, sound.owner, fun client => ?_, ?_, ?_, sound.dropped, sound.unused⟩
  · have kept := sound.handle client
    refine { kept with connimpl := kept.connimpl.imp_right fun none_ => ⟨none_.1, fun below => ?_⟩ }
    exact List.mem_cons_of_mem _ (none_.2 below)
  · intro frame member
    rcases List.mem_cons.mp member with rfl | before
    · exact present
    · exact sound.present frame before
  · intro clnt client member
    rcases List.mem_cons.mp member with here | before
    · exact absurd here.symm (kind clnt client)
    · exact sound.accepted clnt client before

/-- Something else than the end of an accept is taken off the stack. -/
theorem Sound.popped (sound : world.Sound) {rest : UvRest} {stack : List UvRest}
    (first : world.stack = rest :: stack) (kind : forall clnt client, rest ≠ .accepted clnt client) :
    Sound { world with stack := stack } := by
  have before : forall frame, frame ∈ stack -> frame ∈ world.stack := by
    intro frame member
    rw [first]
    exact List.mem_cons_of_mem _ member
  refine ⟨sound.allocated, sound.owner, fun client => ?_, fun frame member =>
    sound.present frame (before frame member), fun clnt client member =>
    sound.accepted clnt client (before _ member), sound.dropped, sound.unused⟩
  have kept := sound.handle client
  refine { kept with connimpl := kept.connimpl.imp_right fun none_ => ⟨none_.1, fun below => ?_⟩ }
  have member := none_.2 below
  rw [first] at member
  exact (List.mem_cons.mp member).resolve_left fun same => kind _ _ same.symm

/-! ## What changes one handle -/

theorem Sound.setHandle (sound : world.Sound) {handle : UvHandle}
    (kept : world.HandleKept client handle) : (world.setHandle client handle).Sound := by
  refine ⟨sound.allocated, sound.owner, fun other => ?_, sound.present, sound.accepted,
    sound.dropped, sound.unused⟩
  by_cases same : other = client
  · subst same
    rw [handles_setHandle]
    exact kept
  · rw [handles_setHandle_ne handle same]
    exact sound.handle other

/-- The handle of a client that has not been deleted can be used. -/
theorem Sound.touchHandle (sound : world.Sound) (present : ¬ world.manager.Deleted client) :
    world.touchHandle client = world :=
  if_pos ((sound.handle client).alive present)

theorem touchConn_of_present (present : ¬ world.manager.Deleted client) :
    world.touchConn client = world :=
  if_neg present

theorem Sound.flushStream (sound : world.Sound) (live : world.Live client) :
    (world.flushStream client).Sound := by
  unfold UvClients.flushStream
  rw [sound.owner client live.1]
  dsimp only
  rw [sound.touchHandle live.2]
  split
  · rename_i open_
    have kept := sound.handle client
    have points := (Bool.and_eq_true .. ▸ open_).1
    have running := kept.running points
    refine Sound.setFlags ?_ client _
    have closes : world.uvClose client .onStreamClose = world.setHandle client
        { world.handles client with stream := .closing .onStreamClose } :=
      if_pos ⟨points, running⟩
    have closed : (world.uvClose client .onStreamClose).clearSockimpl client = world.setHandle client
        { world.handles client with
          sockimpl := false
          stream := .closing .onStreamClose } := by
      rw [closes]
      unfold clearSockimpl
      rw [handles_setHandle]
      unfold UvClients.setHandle
      rw [Function.update_idem]
    rw [closed]
    refine sound.setHandle ⟨kept.alive, fun deleted => absurd deleted live.2, nofun, nofun,
      kept.connimpl, fun unborn => absurd live.1 unborn⟩
  · exact sound

theorem Sound.disposeConnection (sound : world.Sound) (live : world.Live client) :
    (world.disposeConnection client).Sound := by
  unfold UvClients.disposeConnection
  rw [touchConn_of_live live]
  dsimp only
  split
  · exact sound
  · refine Sound.flushStream ?_ live
    exact (sound.setFlags client _).setState client rfl

theorem Sound.released (sound : world.Sound) (live : world.Live client) (server : Nat)
    (iterating : Bool) : (world.released server client iterating).Sound := by
  unfold UvClients.released
  dsimp only
  split
  · exact (sound.disposeConnection live).fault rfl
  · exact sound.disposeConnection live

theorem Sound.onRemoveClient (sound : world.Sound) (valid : world.Valid) {iterating : Bool}
    (done : world.onRemoveClient server client iterating = some next) : next.Sound := by
  rcases onRemoveClient_cases valid done with ⟨live, ⟨_, rfl⟩ | removed⟩
  · exact sound
  · have released := sound.released live server iterating
    have aside := world.aside_disposeConnection client
    have manager := (released_manager world server client iterating).trans aside.manager
    have deleted : forall conn, next.manager.Deleted conn ↔ world.manager.Deleted conn := by
      intro conn
      by_cases same : conn = client
      · rw [same]
        exact removed.deleted
      · exact (removed.others conn same).deleted
    rw [removed.rest]
    refine released.same rfl (fun _ => rfl) rfl ?_ (fun conn => ?_) rfl released.dropped rfl
    · rw [manager]
      exact removed.created
    · rw [manager]
      exact deleted conn

/-! ## The calls -/

/-- The state of a client is changed and it is told, if it is connected. -/
theorem Sound.disconnect (sound : world.Sound) (valid : world.Valid) (live : world.Live client)
    (done : world.disconnect client = some next) : next.Sound := by
  unfold UvClients.disconnect at done
  rw [touchConn_of_live live] at done
  dsimp only at done
  split at done
  · have stopped : (world.setState client { world.states client with bRunning := false }).Sound :=
      sound.setState client rfl
    have validStopped : (world.setState client
        { world.states client with bRunning := false }).Valid := valid.same rfl rfl rfl
    have told := stopped.onDisconnect client
    rcases onDisconnect_cases (world.setState client
        { world.states client with bRunning := false }) client with ⟨_, lost⟩ | ⟨_, lost⟩
    · rw [if_pos (congrArg Prod.snd lost)] at done
      cases done
      refine told.push nofun ?_
      rw [lost]
      exact live.2
    · rw [lost] at done
      exact stopped.onRemoveClient validStopped done
  · cases done
    exact sound

theorem Sound.sendRaw (sound : world.Sound) (live : world.Live client) {started : Bool}
    (done : world.sendRaw client started = some next) : next.Sound := by
  unfold UvClients.sendRaw at done
  rw [touchConn_of_live live] at done
  dsimp only at done
  rw [sound.owner client live.1] at done
  dsimp only at done
  split at done
  · cases done
    exact sound.fault rfl
  · rw [sound.touchHandle live.2] at done
    split at done
    · rename_i points
      split at done
      · cases done
        have kept := sound.handle client
        refine sound.setHandle ⟨kept.alive, fun deleted => absurd deleted live.2, kept.running,
          fun closed => ?_, kept.connimpl, fun unborn => absurd live.1 unborn⟩
        have running := kept.running points
        rw [closed] at running
        cases running
      · cases done
        exact sound.disposeConnection live
    · cases done

/-- The loop over the clients of a server. -/
theorem Sound.disposeDownStreams (sound : world.Sound) (valid : world.Valid)
    {order : List ConnEntry} (done : disposeDownStreams server order world = some next) :
    next.Sound := by
  have ends := disposeDownStreams_cases (fun state => state.Valid ∧ state.Sound) ?_
    (fun _ => And.left) ⟨valid, sound⟩ done
  · rcases ends with ⟨last, ⟨validLast, soundLast⟩, rfl | ⟨client, later, held, _, rfl⟩⟩
    · exact soundLast.setServer (soundLast.dropped server)
    · have live := validLast.live held
      have disposes := last.aside_disposeConnection client
      refine ((soundLast.disposeConnection live).onDisconnect client).push nofun ?_
      rw [onDisconnect_manager]
      exact ((disposes.live client).mpr live).2
  · rintro state client after ⟨validState, soundState⟩ held _ removes
    have validDisposed := (state.aside_disposeConnection client).valid validState
    exact ⟨validDisposed.onRemoveClient removes,
      (soundState.disposeConnection (validState.live held)).onRemoveClient validDisposed removes⟩

theorem Sound.close (sound : world.Sound) (valid : world.Valid) {order : List ConnEntry}
    (done : world.close server order = some next) : next.Sound := by
  unfold UvClients.close at done
  dsimp only at done
  split at done
  · cases done
    exact sound
  · split at done
    · -- no stream is between its accept and its client
      rw [sound.dropped server, List.foldl_nil] at done
      rcases Option.bind_eq_some_iff.mp done with ⟨cleared, disposes, loop⟩
      rcases disposeListener_cases rfl disposes with ⟨open_, rfl⟩
      exact (sound.setServer rfl).disposeDownStreams (valid.closing open_) loop
    · cases done

/-- The end of an accept. -/
theorem Sound.endAccept (sound : world.Sound) {stack : List UvRest}
    (first : world.stack = .accepted clnt client :: stack) :
    (UvClients.accepted { world with stack := stack } clnt client).Sound := by
  have member : .accepted clnt client ∈ world.stack := by
    rw [first]
    exact List.mem_cons_self ..
  have present : ¬ world.manager.Deleted client := sound.present _ member
  have same : client = clnt := sound.accepted clnt client member
  subst same
  have before : forall frame, frame ∈ stack -> frame ∈ world.stack := by
    intro frame inside
    rw [first]
    exact List.mem_cons_of_mem _ inside
  have untouched : UvClients.touchHandle { world with stack := stack } client =
      { world with stack := stack } := if_pos ((sound.handle client).alive present)
  unfold UvClients.accepted
  rw [untouched]
  refine ⟨sound.allocated, sound.owner, fun other => ?_, fun frame inside =>
    sound.present frame (before frame inside), fun clnt client inside =>
    sound.accepted clnt client (before _ inside), sound.dropped, sound.unused⟩
  have kept := sound.handle other
  by_cases same : other = client
  · subst same
    rw [handles_setHandle]
    exact { kept with connimpl := .inl rfl }
  · rw [handles_setHandle_ne _ same]
    refine { kept with connimpl := kept.connimpl.imp_right fun none_ => ⟨none_.1, fun below => ?_⟩ }
    have inside := none_.2 below
    rw [first] at inside
    refine (List.mem_cons.mp inside).resolve_left fun here => same ?_
    cases here
    rfl

/-- A client is accepted, and waits for the handlers of its connect event. -/
theorem Sound.admitted (sound : world.Sound) (valid : world.Valid) {manager : ConnManager}
    (done : world.manager.createTcpClientOnServer server = some manager) :
    (world.admittedWith server manager).Sound := by
  rcases ConnManager.createTcpClientOnServer_places valid.placed done with
    ⟨created, _, _, _, deletions, _, _⟩
  have deleted : forall client, (world.admittedWith server manager).manager.Deleted client ↔
      world.manager.Deleted client := by
    intro client
    change client ∈ manager.deletions.map Prod.fst ↔ _
    rw [deletions]
    rfl
  have grown : (world.admittedWith server manager).manager.created = world.manager.created + 1 :=
    created
  have fresh : ¬ world.manager.Deleted world.manager.created :=
    ((valid.placed.exclusive _).2.2 (Nat.le_refl _)).2.2.2
  have new : (world.admittedWith server manager).handles world.manager.created =
      ⟨true, none, .running, 0, 0⟩ := by
    rw [← sound.allocated]
    exact handles_admittedWith ..
  have frame : (world.admittedWith server manager).stack =
      .accepted world.manager.created world.manager.created :: world.stack := by
    change .accepted world.allocated world.manager.created :: world.stack = _
    rw [sound.allocated]
  refine ⟨?_, fun client below => ?_, fun client => ?_, fun rest member => ?_,
    fun clnt client member => ?_, fun place => ?_, sound.unused⟩
  · rw [grown, ← sound.allocated]
    rfl
  · rw [grown] at below
    by_cases same : client = world.manager.created
    · rw [same, states_admittedWith, sound.allocated]
    · rw [states_admittedWith_ne _ _ _ same, sound.owner client (by omega)]
  · unfold HandleKept
    rw [grown, propext (deleted client), frame]
    by_cases same : client = world.manager.created
    · subst same
      rw [new]
      exact ⟨fun _ => rfl, fun gone => absurd gone fresh, fun _ => rfl, nofun,
        .inr ⟨rfl, fun _ => List.mem_cons_self ..⟩, fun unborn => absurd (Nat.lt_succ_self _) unborn⟩
    · have kept := sound.handle client
      rw [handles_admittedWith_ne _ _ _ (sound.allocated ▸ same)]
      refine { kept with
        connimpl := kept.connimpl.imp_right fun none_ => ⟨none_.1, fun below => ?_⟩
        unborn := fun unborn => kept.unborn fun below => unborn (Nat.lt_succ_of_lt below) }
      have before : client < world.manager.created :=
        Nat.lt_of_le_of_ne (Nat.le_of_lt_succ below) same
      exact List.mem_cons_of_mem _ (none_.2 before)
  · rw [frame] at member
    rw [deleted]
    rcases List.mem_cons.mp member with rfl | before
    · exact fresh
    · exact sound.present rest before
  · rw [frame] at member
    rcases List.mem_cons.mp member with here | before
    · cases here
      rfl
    · exact sound.accepted clnt client before
  · by_cases same : place = server
    · rw [same]
      exact tcpStreamDict_admittedWith _ _ _ (sound.dropped server)
    · rw [servers_admittedWith_ne _ _ _ same]
      exact sound.dropped place

/-! ## The callbacks -/

/-- A stream that may still call back belongs to a client that has not been deleted. -/
theorem Sound.live_of_active (sound : world.Sound)
    (active : (world.handles client).stream = .running ∨ 0 < (world.handles client).writes) :
    world.Live client := by
  have kept := sound.handle client
  refine ⟨?_, fun deleted => ?_⟩
  · by_contra unborn
    rcases kept.unborn unborn with ⟨absent, idle⟩
    rcases active with running | writing
    · rw [absent] at running
      cases running
    · omega
  · have closed := (kept.gone deleted).2
    rcases active with running | writing
    · rw [closed] at running
      cases running
    · have idle := kept.written closed
      omega

/-- While no handlers run, the handle of a client points to the client. -/
theorem Sound.connimpl_of_idle (sound : world.Sound) (idle : world.stack = [])
    (below : client < world.manager.created) : (world.handles client).connimpl = some client := by
  rcases (sound.handle client).connimpl with points | ⟨_, waits⟩
  · exact points
  · have member := waits below
    rw [idle] at member
    cases member

theorem Sound.failHandle (sound : world.Sound) (valid : world.Valid) (idle : world.stack = [])
    (live : world.Live client) (done : world.failHandle client = some next) : next.Sound := by
  unfold UvClients.failHandle at done
  rw [sound.touchHandle live.2] at done
  dsimp only at done
  rw [sound.connimpl_of_idle idle live.1] at done
  exact sound.disconnect valid live done

theorem Sound.onClientRead (sound : world.Sound) (valid : world.Valid) (idle : world.stack = [])
    (running : (world.handles client).stream = .running) {outcome : StreamReport}
    (done : world.onClientRead client outcome = some next) : next.Sound := by
  have live := sound.live_of_active (.inl running)
  unfold UvClients.onClientRead at done
  split at done
  · exact sound.failHandle valid idle live done
  · rw [sound.touchHandle live.2] at done
    cases done
    exact sound
  · rw [sound.touchHandle live.2] at done
    dsimp only at done
    rw [sound.connimpl_of_idle idle live.1] at done
    cases done
    change (world.touchConn client).Sound
    rw [touchConn_of_live live]
    exact sound

theorem Sound.written (sound : world.Sound) (client : ConnRef) : (world.written client).Sound := by
  have kept := sound.handle client
  refine sound.setHandle { kept with written := fun closed => ?_, unborn := fun unborn => ?_ }
  · have idle := kept.written closed
    change (world.handles client).writes - 1 = 0
    omega
  · rcases kept.unborn unborn with ⟨absent, idle⟩
    refine ⟨absent, ?_⟩
    change (world.handles client).writes - 1 = 0
    omega

theorem Sound.onClientWrite (sound : world.Sound) (valid : world.Valid) (idle : world.stack = [])
    (writing : 0 < (world.handles client).writes) {status : WriteStatus}
    (done : world.onClientWrite client status = some next) : next.Sound := by
  unfold UvClients.onClientWrite at done
  split at done
  · rcases Option.map_eq_some_iff.mp done with ⟨failed, fails, rfl⟩
    exact (sound.failHandle valid idle (sound.live_of_active (.inr writing)) fails).written client
  · cases done
    exact sound.written client

/-- The close callback sets the flag of the connection that the handle points to. -/
theorem Sound.told (sound : world.Sound) (present : ¬ world.manager.Deleted client) :
    Sound (let touched := world.touchHandle client
      (touched.handles client).connimpl.elim touched fun client =>
        let told := touched.touchConn client
        told.setFlags client { told.manager.flags client with bFlushed := true }) := by
  rw [sound.touchHandle present]
  dsimp only
  rcases (sound.handle client).connimpl with points | ⟨none_, _⟩
  · rw [points]
    change Sound ((world.touchConn client).setFlags client _)
    rw [touchConn_of_present present]
    exact sound.setFlags client _
  · rw [none_]
    exact sound

theorem Sound.onStreamClosed (sound : world.Sound)
    (due : (world.handles client).stream.Due) (idle : (world.handles client).writes = 0) :
    (world.onStreamClosed client).Sound := by
  have kept := sound.handle client
  have present : ¬ world.manager.Deleted client := by
    intro deleted
    rw [(kept.gone deleted).2] at due
    exact due
  have created : client < world.manager.created := by
    by_contra unborn
    rw [(kept.unborn unborn).1] at due
    exact due
  have closed : (world.setHandle client { world.handles client with stream := .closed }).Sound := by
    refine sound.setHandle ⟨kept.alive, fun deleted => absurd deleted present, fun points => ?_,
      fun _ => idle, kept.connimpl, fun unborn => absurd created unborn⟩
    rw [kept.running points] at due
    cases due
  unfold UvClients.onStreamClosed
  dsimp only
  split
  · exact closed.told present
  · exact closed

theorem Sound.onServerClose (sound : world.Sound) (server : Nat) :
    (world.onServerClose server).Sound := by
  unfold UvClients.onServerClose
  dsimp only
  split
  · refine Sound.fault ?_ rfl
    exact sound.setServer (sound.dropped server)
  · exact sound.setServer (sound.dropped server)

/-- A handle for a new stream is given to a new client, unless it is rejected. -/
theorem Sound.onConnection (sound : world.Sound) (valid : world.Valid) {created : Bool}
    (safe : SafeOrder world (.onConnection server created))
    (done : world.onConnection server created = some next) : next.Sound := by
  unfold UvClients.onConnection at done
  dsimp only at done
  split at done
  · cases done
    exact sound.fault rfl
  · rename_i open_
    split at done
    · rename_i started
      rcases safe started fun null => open_ (Option.isNone_iff_eq_none.mpr null) with
        ⟨unclosed, ready⟩
      rw [unclosed, ready] at done
      rcases onAcceptClient_cases done with ⟨manager, admits, _, rfl⟩
      exact sound.admitted valid admits
    · cases done
      exact sound

/-- The handlers of an event have returned. -/
theorem Sound.handlersReturn (sound : world.Sound) (valid : world.Valid)
    (done : world.perform .handlersReturn = some next) : next.Sound := by
  unfold perform at done
  dsimp only at done
  split at done
  · cases done
  · rename_i rest stack first
    have validPopped := valid.popped first
    cases rest with
    | accepted clnt client =>
        cases done
        exact sound.endAccept first
    | removeClient server client => exact (sound.popped first nofun).onRemoveClient validPopped done
    | disposeDownStreams server client later =>
        rcases Option.bind_eq_some_iff.mp done with ⟨removed, removes, loop⟩
        have soundRemoved := (sound.popped first nofun).onRemoveClient validPopped removes
        exact soundRemoved.disposeDownStreams (validPopped.onRemoveClient removes) loop

/-! ## The recycler -/

/-- The handles of deleted clients are freed. -/
def withFreed (world : UvClients) (clients : List ConnRef) : UvClients :=
  { world with handles := fun clnt =>
      if clnt ∈ clients then { world.handles clnt with frees := 1 } else world.handles clnt }

theorem handles_withFreed {clients : List ConnRef} (freed : clnt ∈ clients) :
    (world.withFreed clients).handles clnt = { world.handles clnt with frees := 1 } :=
  if_pos freed

theorem handles_withFreed_ne {clients : List ConnRef} (kept : clnt ∉ clients) :
    (world.withFreed clients).handles clnt = world.handles clnt :=
  if_neg kept

/-- Deleting clients frees their handles. -/
theorem foldl_deleteClient (clients : List ConnRef) (once : clients.Nodup)
    (owner : forall client, client ∈ clients -> (world.states client).clnt = some client)
    (alive : forall client, client ∈ clients -> (world.handles client).frees = 0) :
    clients.foldl deleteClient world = world.withFreed clients := by
  induction clients generalizing world with
  | nil => rfl
  | cons client clients inductionHypothesis =>
      have member : client ∈ client :: clients := List.mem_cons_self ..
      rcases List.nodup_cons.mp once with ⟨absent, onceLater⟩
      have deleted : world.deleteClient client =
          world.setHandle client { world.handles client with frees := 1 } := by
        unfold deleteClient
        rw [owner client member]
        change world.freeHandle client = _
        unfold freeHandle touchHandle
        rw [if_pos (alive client member)]
        dsimp only
        rw [alive client member]
      rw [List.foldl_cons, deleted, inductionHypothesis onceLater]
      · unfold withFreed
        congr 1
        funext clnt
        by_cases same : clnt = client
        · rw [same, if_neg absent, if_pos member, handles_setHandle]
        · rw [handles_setHandle_ne _ same]
          refine if_congr ?_ rfl rfl
          rw [List.mem_cons, or_iff_right same]
      · exact fun other later => owner other (List.mem_cons_of_mem _ later)
      · intro other later
        have different : other ≠ client := fun same => absent (same ▸ later)
        rw [handles_setHandle_ne _ different]
        exact alive other (List.mem_cons_of_mem _ later)

theorem mem_releasable : client ∈ world.releasable ↔
    client ∈ world.manager.vRecycler ∧ (world.manager.flags client).SafeToRelease := by
  unfold releasable
  rw [List.mem_filter, decide_eq_true_iff]

/-- What `Recycle` does as long as the handles are sound. -/
theorem Sound.recycle_eq (sound : world.Sound) (valid : world.Valid) :
    world.recycle = UvClients.withFreed { world with
      manager := world.manager.recycle
      inLoop := false } world.releasable := by
  refine foldl_deleteClient _ ?_ (fun client member => ?_) (fun client member => ?_)
  · exact valid.placed.vRecycler_nodup.filter _
  · exact sound.owner client (valid.placed.created_of_recycled (mem_releasable.mp member).1)
  · have recycled := (mem_releasable.mp member).1
    exact (sound.handle client).alive ((valid.placed.exclusive client).1 recycled).2.2

theorem Sound.recycle (sound : world.Sound) (valid : world.Valid) (idle : world.stack = [])
    (safe : SafeOrder world .recycle) : world.recycle.Sound := by
  rw [sound.recycle_eq valid]
  refine ⟨sound.allocated, sound.owner, fun client => ?_, ?_, ?_, sound.dropped, sound.unused⟩
  · have places := ConnManager.recycle_places valid.formed.idle client
    have kept := sound.handle client
    by_cases releasable : client ∈ world.releasable
    · have recycled := mem_releasable.mp releasable
      have owner := sound.owner client (valid.placed.created_of_recycled recycled.1)
      have deleted := (places.1 recycled).1
      rw [handles_withFreed releasable]
      exact { kept with
        alive := fun present => absurd deleted present
        gone := fun _ => ⟨rfl, safe client client releasable owner⟩ }
    · have keeps := places.2 fun recycled => releasable (mem_releasable.mpr recycled)
      rw [handles_withFreed_ne releasable]
      exact { kept with
        alive := fun present => kept.alive fun gone => present (keeps.deleted.mpr gone)
        gone := fun gone => kept.gone (keeps.deleted.mp gone) }
  · intro rest member
    change rest ∈ world.stack at member
    rw [idle] at member
    cases member
  · intro clnt client member
    change _ ∈ world.stack at member
    rw [idle] at member
    cases member

/-! ## Steps and runs -/

/-- A step in a safe order keeps the handles sound. -/
theorem Sound.step (sound : world.Sound) (valid : world.Valid) (safe : SafeOrder world event)
    (step : world.Step event next) : next.Sound := by
  cases event with
  | openTcpServer server started =>
      rcases Option.ite_none_right_eq_some.mp step with ⟨_, done⟩
      split at done
      · cases done
        exact sound.setServer (sound.dropped server)
      · cases done
        exact sound
  | setReady server ready =>
      cases step
      exact sound.setServer (sound.dropped server)
  | closeTcpServer server order => exact sound.close valid step
  | disconnect client =>
      rcases Option.ite_none_right_eq_some.mp step with ⟨live, done⟩
      exact sound.disconnect valid live done
  | sendRaw client started =>
      rcases Option.ite_none_right_eq_some.mp step with ⟨live, done⟩
      exact sound.sendRaw live done
  | handlersReturn => exact sound.handlersReturn valid step
  | onConnection server created =>
      rcases callback_eq_some step with ⟨_, done⟩
      exact sound.onConnection valid safe done
  | onClientRead clnt outcome =>
      rcases callback_eq_some step with ⟨⟨idle, running⟩, done⟩
      exact sound.onClientRead valid idle running done
  | onClientWrite clnt status =>
      rcases callback_eq_some step with ⟨⟨idle, writing⟩, done⟩
      exact sound.onClientWrite valid idle writing done
  | onStreamClosed clnt =>
      rcases callback_eq_some step with ⟨⟨_, due, idle⟩, done⟩
      cases done
      exact sound.onStreamClosed due idle
  | onServerClose server =>
      rcases callback_eq_some step with ⟨_, done⟩
      cases done
      exact sound.onServerClose server
  | runOnce =>
      rcases Option.ite_none_right_eq_some.mp step with ⟨_, done⟩
      cases done
      exact sound.same rfl (fun _ => rfl) rfl rfl (fun _ => Iff.rfl) rfl sound.dropped rfl
  | recycle =>
      rcases Option.ite_none_right_eq_some.mp step with ⟨idle, done⟩
      cases done
      exact sound.recycle valid idle safe

/-- A handle that has just been freed is used. -/
theorem mem_faults_rejected (world : UvClients) (clnt : Nat) :
    .handleFreed clnt ∈ (world.rejected clnt).faults := by
  have freed : forall state : UvClients, ((state.freeHandle clnt).handles clnt).frees ≠ 0 := by
    intro state
    unfold freeHandle
    dsimp only
    rw [handles_setHandle]
    exact Nat.succ_ne_zero _
  unfold rejected
  dsimp only
  unfold UvClients.touchHandle
  rw [if_neg (freed _)]
  exact List.mem_append_right _ (List.mem_singleton_self _)

/-- A step that leaves the handles as they should be is in a safe order. -/
theorem Sound.safeOrder (sound : world.Sound) (valid : world.Valid)
    (step : world.Step event next) (kept : next.HandlesKept) : SafeOrder world event := by
  cases event with
  | onConnection server created =>
      intro started open_
      rcases callback_eq_some step with ⟨_, done⟩
      unfold UvClients.onConnection at done
      dsimp only at done
      rw [if_neg fun null => open_ (Option.isNone_iff_eq_none.mp null), if_pos started] at done
      split at done
      · rename_i admits
        rw [Bool.and_eq_true, Bool.not_eq_true'] at admits
        exact admits
      · cases done
        have memory := kept.unused _ (mem_faults_rejected world.newHandle world.allocated)
        cases memory
  | recycle =>
      intro client clnt releasable owner
      rcases Option.ite_none_right_eq_some.mp step with ⟨_, done⟩
      cases done
      have recycled := (mem_releasable.mp releasable).1
      rw [sound.owner client (valid.placed.created_of_recycled recycled)] at owner
      cases owner
      have closed := kept.closed client
      rw [sound.recycle_eq valid, handles_withFreed releasable] at closed
      exact closed Nat.one_ne_zero
  | _ => trivial

/-- The handles are as they should be in every state of a run if and only if every step
of the run is in a safe order. -/
theorem handles_kept_iff (events : List UvClientsEvent) (last : UvClients) :
    Run (fun world event next => Step world event next ∧ next.HandlesKept) initial events last ↔
      Run (fun world event next => Step world event next ∧ SafeOrder world event) initial
        events last := by
  refine Run.congr (fun state => state.Valid ∧ state.Sound) ?_ ?_ ⟨initial_valid, initial_sound⟩
  · rintro world event next ⟨valid, sound⟩
    constructor
    · exact fun both => ⟨both.1, sound.safeOrder valid both.1 both.2⟩
    · exact fun both => ⟨both.1, handlesKept_of_sound (sound.step valid both.2 both.1)⟩
  · rintro world event next ⟨valid, sound⟩ ⟨step, kept⟩
    exact ⟨valid.step step, sound.step valid (sound.safeOrder valid step kept) step⟩

/-- A client that the application disconnects between two iterations of the loop is deleted
after its close callback. -/
example : ([.openTcpServer 7 true, .setReady 7 true, .runOnce, .onConnection 7 true,
      .handlersReturn, .recycle, .disconnect 0, .handlersReturn, .runOnce, .onStreamClosed 0,
      .recycle].foldlM perform initial).map (fun last => (last.faults, (last.handles 0).frees)) =
    some ([], 1) := by
  decide

/-- The only client of a server is disconnected after an iteration of the loop, and
`OnDelete` runs the recycler before the loop. -/
def deletedBeforeClosed : List UvClientsEvent :=
  [.openTcpServer 7 true, .setReady 7 true, .runOnce, .onConnection 7 true, .handlersReturn,
    .recycle, .disconnect 0, .handlersReturn, .recycle, .runOnce, .onStreamClosed 0]

/-- The close callback reads the handle and the connection that the recycler has deleted,
and a rejected accept destroys a buffer that does not exist and writes the handle that it
has freed. -/
theorem freed_handle_used :
    (Exists fun last => Run Step initial deletedBeforeClosed last ∧
      last.faults = [.handleFreed 0, .connDeleted 0] ∧ ¬ last.HandlesKept) ∧
    Exists fun last => Run Step initial
        [.openTcpServer 7 true, .runOnce, .onConnection 7 true] last ∧
      last.faults = [.bufferUnset 0, .handleFreed 0] ∧ ¬ last.HandlesKept := by
  have used : forall {last : UvClients}, .handleFreed 0 ∈ last.faults -> ¬ last.HandlesKept := by
    intro last member kept
    cases kept.unused _ member
  constructor
  · have computed : (deletedBeforeClosed.foldlM perform initial).map (fun last => last.faults) =
        some [.handleFreed 0, .connDeleted 0] := by decide
    rcases Option.map_eq_some_iff.mp computed with ⟨last, done, faults⟩
    exact ⟨last, Run.of_foldlM _ done, faults, used (faults ▸ List.mem_cons_self ..)⟩
  · have computed : ([.openTcpServer 7 true, .runOnce, .onConnection 7 true].foldlM perform
        initial).map (fun last => last.faults) = some [.bufferUnset 0, .handleFreed 0] := by
      decide
    rcases Option.map_eq_some_iff.mp computed with ⟨last, done, faults⟩
    exact ⟨last, Run.of_foldlM _ done, faults,
      used (faults ▸ List.mem_cons_of_mem _ (List.mem_cons_self ..))⟩

end UvClients
end NetSystem
