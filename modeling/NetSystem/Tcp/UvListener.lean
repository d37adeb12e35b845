import NetSystem.Foundation.Transition
import NetSystem.Tcp.UvClientSteps

namespace NetSystem

/-!
# The implementation block of a server

`Close` sets `_server_closed` before it calls `uv_server_dispose_`, which then does not
wait for `on_server_close`: it frees the block and clears the pointer to it.  The close
callback of the listener comes later, follows the null pointer, and never gets to free
the listener.  In between `SendRaw` follows the same pointer for every client of the
server, which the handlers of the disconnect events can call.
-/

namespace UvClients

variable {world next last : UvClients} {server : Nat} {event : UvClientsEvent}

/-- At the end of a run, the pointer to the block was never followed when it was null, and
the listener has been freed once. -/
def BlockOutlivesUsers (world : UvClients) (server : Nat) : Prop :=
  .implNull server ∉ world.faults ∧ (world.servers server).listenerFrees = 1

/-- The event does not need the block of the server. -/
def SparesBlock (server : Nat) (world : UvClients) (event : UvClientsEvent) : Prop :=
  event ≠ .onServerClose server ∧ forall client started, event = .sendRaw client started ->
    (world.states client).refServer ≠ server

/-! ## The block and the listener through a step -/

/-- The block and the listener are as they were, and clients come to the server only
through its listener. -/
structure SameBlock (server : Nat) (world next : UvClients) : Prop where
  impl : (next.servers server).impl = (world.servers server).impl
  listener : (next.servers server).listener = (world.servers server).listener
  frees : (next.servers server).listenerFrees = (world.servers server).listenerFrees
  clients : forall client, client < next.manager.created -> (next.states client).refServer = server ->
    (client < world.manager.created ∧ (world.states client).refServer = server) ∨
      (world.servers server).listener = .running
  fault : .implNull server ∈ next.faults ↔ .implNull server ∈ world.faults

theorem SameBlock.of_servers (servers : next.servers server = world.servers server)
    (created : next.manager.created = world.manager.created)
    (refServer : forall client, (next.states client).refServer = (world.states client).refServer)
    (fault : .implNull server ∈ next.faults ↔ .implNull server ∈ world.faults) :
    SameBlock server world next where
  impl := by rw [servers]
  listener := by rw [servers]
  frees := by rw [servers]
  clients := by
    intro client below refers
    rw [created] at below
    rw [refServer] at refers
    exact .inl ⟨below, refers⟩
  fault := fault

theorem Aside.sameBlock {gone : Option ConnRef} (aside : Aside gone world next) (server : Nat) :
    SameBlock server world next := by
  refine .of_servers (congrFun aside.servers server) (by rw [aside.manager]) (fun client => ?_)
    (aside.mem_faults rfl)
  rw [aside.states client]

theorem SameBlock.trans {middle : UvClients} (first : SameBlock server world middle)
    (second : SameBlock server middle next) : SameBlock server world next where
  impl := second.impl.trans first.impl
  listener := second.listener.trans first.listener
  frees := second.frees.trans first.frees
  clients := by
    intro client below refers
    rcases second.clients client below refers with ⟨before, refersBefore⟩ | running
    · exact first.clients client before refersBefore
    · exact .inr (first.listener ▸ running)
  fault := second.fault.trans first.fault

theorem sameBlock_fault (world : UvClients) {fault : UvFault}
    (different : fault ≠ .implNull server) : SameBlock server world (world.fault fault) := by
  refine .of_servers rfl rfl (fun _ => rfl) ?_
  change _ ∈ world.faults ++ [fault] ↔ _
  rw [List.mem_append, List.mem_singleton, or_iff_left different.symm]

theorem sameBlock_setServer (world : UvClients) {place : Nat} {state : UvServer}
    (kept : place = server -> state.impl = (world.servers server).impl ∧
      state.listener = (world.servers server).listener ∧
      state.listenerFrees = (world.servers server).listenerFrees) :
    SameBlock server world (world.setServer place state) := by
  by_cases here : server = place
  · subst here
    rcases kept rfl with ⟨impl, listener, frees⟩
    refine ⟨?_, ?_, ?_, fun client below refers => .inl ⟨below, refers⟩, Iff.rfl⟩
    · rw [servers_setServer, impl]
    · rw [servers_setServer, listener]
    · rw [servers_setServer, frees]
  · exact .of_servers (servers_setServer_ne state here) rfl (fun _ => rfl) Iff.rfl

theorem sameBlock_onDisconnect (world : UvClients) (client : ConnRef) :
    SameBlock server world (world.onDisconnect client).1 := by
  rcases world.onDisconnect_cases client with ⟨_, lost⟩ | ⟨_, lost⟩
  · rw [lost]
    exact .of_servers rfl rfl (fun _ => rfl) Iff.rfl
  · rw [lost]
    exact .of_servers rfl rfl (fun _ => rfl) Iff.rfl

theorem sameBlock_push (world : UvClients) (rest : UvRest) :
    SameBlock server world (world.push rest) :=
  .of_servers rfl rfl (fun _ => rfl) Iff.rfl

theorem sameBlock_released (world : UvClients) (server place : Nat) (client : ConnRef)
    (iterating : Bool) :
    SameBlock server world (world.released place client iterating) := by
  have disposes := (world.aside_disposeConnection client).sameBlock server
  unfold released
  dsimp only
  split
  · exact disposes.trans (sameBlock_fault _ nofun)
  · exact disposes

theorem sameBlock_onRemoveClient (valid : world.Valid) {place : Nat} {client : ConnRef}
    {iterating : Bool} (done : world.onRemoveClient place client iterating = some next) :
    SameBlock server world next := by
  rcases onRemoveClient_cases valid done with ⟨_, ⟨_, rfl⟩ | removed⟩
  · exact (Aside.refl next).sameBlock server
  · have released := world.sameBlock_released server place client iterating
    have created : next.manager.created =
        (world.released place client iterating).manager.created := by
      rw [removed.created, released_manager, (world.aside_disposeConnection client).manager]
    refine released.trans ?_
    rw [removed.rest]
    exact .of_servers rfl created (fun _ => rfl) Iff.rfl

theorem sameBlock_onServerClose (world : UvClients) {place : Nat} (different : place ≠ server) :
    SameBlock server world (world.onServerClose place) := by
  unfold onServerClose
  dsimp only
  split
  · refine (sameBlock_setServer world fun same => absurd same different).trans (sameBlock_fault _ ?_)
    exact fun same => different (UvFault.implNull.inj same)
  · exact sameBlock_setServer world fun same => absurd same different

theorem sameBlock_admittedWith {place : Nat} {manager : ConnManager}
    (created : world.manager.createTcpClientOnServer place = some manager)
    (listening : (world.servers place).listener = .running) :
    SameBlock server world (world.admittedWith place manager) := by
  have stream : SameBlock server world
      (world.setServer place { world.servers place with
        tcpStreamDict :=
          ((world.servers place).tcpStreamDict ++ [world.allocated]).erase world.allocated }) := by
    refine sameBlock_setServer world ?_
    rintro rfl
    exact ⟨rfl, rfl, rfl⟩
  refine ⟨stream.impl, stream.listener, stream.frees, ?_, stream.fault⟩
  intro client below refers
  have grown : manager.created = world.manager.created + 1 :=
    ConnManager.createTcpClientOnServer_created created
  change client < manager.created at below
  by_cases new : client = world.manager.created
  · right
    rw [new, states_admittedWith] at refers
    rw [← refers]
    exact listening
  · left
    rw [states_admittedWith_ne _ _ _ new] at refers
    exact ⟨by omega, refers⟩

/-- What a part of a step does to the block and the listener of a server. -/
inductive BlockChange (server : Nat) (event : UvClientsEvent) (world : UvClients) :
    UvClients -> Prop
  | same (next : UvClients) (same : SameBlock server world next) :
      BlockChange server event world next
  | opened (null : (world.servers server).impl = none)
      (absent : (world.servers server).listener = .absent) :
      BlockChange server event world (world.setServer server { world.servers server with
        impl := some false
        listener := .running })
  | closing (order : List ConnEntry) (closes : event = .closeTcpServer server order)
      (open_ : (world.servers server).impl ≠ none) :
      BlockChange server event world (world.setServer server (world.closing server))
  | listenerClosed (calls : event = .onServerClose server)
      (due : (world.servers server).listener.Due) :
      BlockChange server event world (world.onServerClose server)
  | used (client : ConnRef) (started : Bool) (sends : event = .sendRaw client started)
      (live : world.Live client) (refers : (world.states client).refServer = server)
      (null : (world.servers server).impl = none) :
      BlockChange server event world (world.fault (.implNull server))
  | unconnectable (null : (world.servers server).impl = none)
      (listening : (world.servers server).listener = .running) :
      BlockChange server event world (world.fault (.implNull server))

theorem blockChange_of_part (valid : world.Valid) (server : Nat) (part : Part event world next) :
    BlockChange server event world next := by
  cases part with
  | aside _ aside => exact .same _ (aside.sameBlock server)
  | sendFailed _ client sends live aside => exact .same _ (aside.sameBlock server)
  | implNull client started sends live null =>
      by_cases here : (world.states client).refServer = server
      · rw [here] at null ⊢
        exact .used client started sends live here null
      · exact .same _ (sameBlock_fault world fun same => here (UvFault.implNull.inj same))
  | unconnectable place null listening =>
      by_cases here : place = server
      · subst here
        exact .unconnectable null listening
      · exact .same _ (sameBlock_fault world fun same => here (UvFault.implNull.inj same))
  | stopped client undisposed =>
      refine .same _ (.of_servers rfl rfl (fun other => ?_) Iff.rfl)
      by_cases same : other = client
      · rw [same, states_setState]
      · rw [states_setState_ne _ same]
  | lost place client undisposed connected =>
      exact .same _ ((world.sameBlock_onDisconnect client).trans (sameBlock_push ..))
  | removed _ place client disconnected done => exact .same _ (sameBlock_onRemoveClient valid done)
  | returned clnt client stack first => exact .same _ (.of_servers rfl rfl (fun _ => rfl) Iff.rfl)
  | resumed _ place client rest stack iterating first names done =>
      have popped : SameBlock server world { world with stack := stack } :=
        .of_servers rfl rfl (fun _ => rfl) Iff.rfl
      exact .same _ (popped.trans (sameBlock_onRemoveClient (valid.popped first) done))
  | visited _ place client visits held disconnected done =>
      have disposes := world.aside_disposeConnection client
      exact .same _ ((disposes.sameBlock server).trans
        (sameBlock_onRemoveClient (disposes.valid valid) done))
  | visiting place client later visits held connected =>
      exact .same _ (((world.aside_disposeConnection client).sameBlock server).trans <|
        (sameBlock_onDisconnect _ client).trans (sameBlock_push ..))
  | finished place visits =>
      refine .same _ (sameBlock_setServer world ?_)
      rintro rfl
      exact ⟨rfl, rfl, rfl⟩
  | closing place order closes unclosed open_ =>
      by_cases here : place = server
      · subst here
        exact .closing order closes open_
      · exact .same _ (sameBlock_setServer world fun same => absurd same here)
  | opened place null absent =>
      by_cases here : place = server
      · subst here
        exact .opened null absent
      · exact .same _ (sameBlock_setServer world fun same => absurd same here)
  | readied place ready =>
      refine .same _ (sameBlock_setServer world ?_)
      rintro rfl
      exact ⟨rfl, rfl, rfl⟩
  | admitted _ place idle listening accepted =>
      rcases onAcceptClient_cases accepted with ⟨manager, created, _, rfl⟩
      exact .same _ (sameBlock_admittedWith created listening)
  | listenerClosed place calls due =>
      by_cases here : place = server
      · subst here
        exact .listenerClosed calls due
      · exact .same _ (sameBlock_onServerClose world here)
  | iterated idle => exact .same _ (.of_servers rfl rfl (fun _ => rfl) Iff.rfl)
  | recycled idle =>
      have swept : SameBlock server world
          { world with manager := world.manager.recycle, inLoop := false } :=
        .of_servers rfl rfl (fun _ => rfl) Iff.rfl
      have deletes := Aside.foldl deleteClient (fun state client => state.aside_deleteClient client)
        world.releasable { world with manager := world.manager.recycle, inLoop := false }
      exact .same _ (swept.trans (deletes.sameBlock server))

/-! ## Before and after `Close` -/

/-- The server has not been opened, and no client was created for it. -/
structure Unopened (server : Nat) (world : UvClients) : Prop where
  impl : (world.servers server).impl = none
  listener : (world.servers server).listener = .absent
  clients : forall client, client < world.manager.created ->
    (world.states client).refServer ≠ server

/-- Nothing has gone wrong with the block, and the server has not been opened or is
listening. -/
structure Intact (server : Nat) (world : UvClients) : Prop where
  fault : .implNull server ∉ world.faults
  frees : (world.servers server).listenerFrees = 0
  phase : Unopened server world ∨
    ((world.servers server).impl ≠ none ∧ (world.servers server).listener = .running)

/-- The block has been freed, and its listener has not been. -/
structure BlockFreed (server : Nat) (world : UvClients) : Prop where
  impl : (world.servers server).impl = none
  frees : (world.servers server).listenerFrees = 0
  phase : (world.servers server).listener = .closing () ∨
    ((world.servers server).listener = .closed ∧ .implNull server ∈ world.faults)

theorem initial_intact (server : Nat) : Intact server initial where
  fault := List.not_mem_nil
  frees := rfl
  phase := .inl ⟨rfl, rfl, fun _ below => absurd below (Nat.not_lt_zero _)⟩

theorem BlockFreed.not_running (freed : BlockFreed server world) :
    (world.servers server).listener ≠ .running := by
  rcases freed.phase with closing | ⟨closed, _⟩
  · rw [closing]
    nofun
  · rw [closed]
    nofun

theorem Intact.not_due (intact : Intact server world) :
    ¬ (world.servers server).listener.Due := by
  rcases intact.phase with unopened | ⟨_, running⟩
  · rw [unopened.listener]
    exact id
  · rw [running]
    exact id

theorem blockFreed_closing {world : UvClients} (frees : (world.servers server).listenerFrees = 0)
    (running : (world.servers server).listener = .running) :
    BlockFreed server (world.setServer server (world.closing server)) := by
  refine ⟨?_, ?_, .inl ?_⟩
  · rw [servers_setServer]
    rfl
  · rw [servers_setServer]
    exact frees
  · rw [servers_setServer]
    exact if_pos running

/-- The block is freed by `Close`, and nothing goes wrong with it before. -/
theorem Intact.change (intact : Intact server world) (change : BlockChange server event world next) :
    Intact server next ∨ ((Exists fun order => event = .closeTcpServer server order) ∧
      BlockFreed server next ∧ .implNull server ∉ next.faults) := by
  cases change with
  | same _ same =>
      left
      refine ⟨fun fault => intact.fault (same.fault.mp fault), same.frees.trans intact.frees, ?_⟩
      rcases intact.phase with unopened | ⟨open_, running⟩
      · refine .inl ⟨same.impl.trans unopened.impl, same.listener.trans unopened.listener, ?_⟩
        intro client below refers
        rcases same.clients client below refers with ⟨before, refersBefore⟩ | running
        · exact unopened.clients client before refersBefore
        · rw [unopened.listener] at running
          cases running
      · exact .inr ⟨same.impl ▸ open_, same.listener.trans running⟩
  | opened null absent =>
      left
      refine ⟨intact.fault, ?_, .inr ⟨?_, ?_⟩⟩
      · rw [servers_setServer]
        exact intact.frees
      · rw [servers_setServer]
        nofun
      · rw [servers_setServer]
  | closing order closes open_ =>
      right
      rcases intact.phase with unopened | ⟨_, running⟩
      · exact absurd unopened.impl open_
      · exact ⟨⟨order, closes⟩, blockFreed_closing intact.frees running, intact.fault⟩
  | listenerClosed calls due => exact absurd due intact.not_due
  | used client started sends live refers null =>
      rcases intact.phase with unopened | ⟨open_, _⟩
      · exact absurd refers (unopened.clients client live.1)
      · exact absurd null open_
  | unconnectable null listening =>
      rcases intact.phase with unopened | ⟨open_, _⟩
      · rw [unopened.listener] at listening
        cases listening
      · exact absurd null open_

theorem mem_fault (world : UvClients) (fault : UvFault) : fault ∈ (world.fault fault).faults :=
  List.mem_append_right _ (List.mem_singleton_self _)

theorem onServerClose_of_null (null : (world.servers server).impl = none) :
    world.onServerClose server =
      (world.setServer server { world.servers server with listener := .closed }).fault
        (.implNull server) :=
  if_pos (Option.isNone_iff_eq_none.mpr null)

/-- Once the block has been freed, what follows the pointer to it is recorded. -/
theorem BlockFreed.change (freed : BlockFreed server world)
    (change : BlockChange server event world next) :
    BlockFreed server next ∧ (.implNull server ∈ world.faults -> .implNull server ∈ next.faults) ∧
      (.implNull server ∈ next.faults -> .implNull server ∈ world.faults ∨
        event = .onServerClose server ∨
        Exists fun client => Exists fun started => event = .sendRaw client started) := by
  cases change with
  | same _ same =>
      refine ⟨⟨same.impl.trans freed.impl, same.frees.trans freed.frees, ?_⟩, same.fault.mpr,
        fun fault => .inl (same.fault.mp fault)⟩
      rw [same.listener, same.fault]
      exact freed.phase
  | opened null absent =>
      rcases freed.phase with closing | ⟨closed, _⟩
      · rw [absent] at closing
        cases closing
      · rw [absent] at closed
        cases closed
  | closing order closes open_ => exact absurd freed.impl open_
  | listenerClosed calls due =>
      rw [onServerClose_of_null freed.impl]
      refine ⟨⟨?_, ?_, .inr ⟨?_, mem_fault ..⟩⟩, fun _ => mem_fault .., fun _ => .inr (.inl calls)⟩
      · exact (congrArg UvServer.impl (servers_setServer _)).trans freed.impl
      · exact (congrArg UvServer.listenerFrees (servers_setServer _)).trans freed.frees
      · exact congrArg UvServer.listener (servers_setServer _)
  | used client started sends live refers null =>
      refine ⟨⟨null, freed.frees, ?_⟩, fun _ => mem_fault .., fun _ => .inr (.inr ⟨_, _, sends⟩)⟩
      exact freed.phase.imp_right fun closed => ⟨closed.1, mem_fault ..⟩
  | unconnectable null listening => exact absurd listening freed.not_running

/-! ## Steps -/

/-- In every reachable state nothing has gone wrong with the block, or it is freed. -/
theorem intact_or_freed_of_step (valid : world.Valid)
    (either : Intact server world ∨ BlockFreed server world) (step : world.Step event next) :
    next.Valid ∧ (Intact server next ∨ BlockFreed server next) := by
  refine invariant_of_parts (fun state => Intact server state ∨ BlockFreed server state) ?_ valid
    either step
  rintro before after validBefore kept part
  have change := blockChange_of_part validBefore server part
  rcases kept with intact | freed
  · exact (intact.change change).imp_right fun freed => freed.2.1
  · exact .inr (freed.change change).1

/-- Once the block has been freed, a step goes wrong exactly where it needs the block. -/
theorem BlockFreed.step (freed : BlockFreed server world) (valid : world.Valid)
    (step : world.Step event next) :
    BlockFreed server next ∧ (.implNull server ∈ next.faults ↔
      .implNull server ∈ world.faults ∨ ¬ SparesBlock server world event) := by
  have parts := invariant_of_parts (fun state => BlockFreed server state ∧
      (.implNull server ∈ world.faults -> .implNull server ∈ state.faults) ∧
      (.implNull server ∈ state.faults -> .implNull server ∈ world.faults ∨
        event = .onServerClose server ∨
        Exists fun client => Exists fun started => event = .sendRaw client started)) ?_ valid
    ⟨freed, id, .inl⟩ step
  · rcases parts with ⟨_, freedNext, stays, comes⟩
    refine ⟨freedNext, ?_⟩
    constructor
    · intro fault
      rcases comes fault with before | closes | ⟨client, started, rfl⟩
      · exact .inl before
      · exact .inr fun spares => spares.1 closes
      · rcases Option.ite_none_right_eq_some.mp step with ⟨live, done⟩
        rcases sendRaw_cases live done with ⟨_, rfl⟩ | ⟨_, aside⟩
        · rcases List.mem_append.mp fault with before | here
          · exact .inl before
          · have same := UvFault.implNull.inj (List.mem_singleton.mp here)
            exact .inr fun spares => spares.2 client started rfl same.symm
        · exact .inl ((aside.mem_faults rfl).mp fault)
    · rintro (before | needs)
      · exact stays before
      · by_cases closes : event = .onServerClose server
        · subst closes
          rcases callback_eq_some step with ⟨_, done⟩
          cases done
          rw [onServerClose_of_null freed.impl]
          exact mem_fault ..
        · have sends : Exists fun client => Exists fun started =>
              event = .sendRaw client started ∧ (world.states client).refServer = server := by
            by_contra none_
            refine needs ⟨closes, fun client started sends refers => ?_⟩
            exact none_ ⟨client, started, sends, refers⟩
          rcases sends with ⟨client, started, rfl, refers⟩
          rcases Option.ite_none_right_eq_some.mp step with ⟨live, done⟩
          rcases sendRaw_cases live done with ⟨_, rfl⟩ | ⟨open_, _⟩
          · rw [refers]
            exact mem_fault ..
          · rw [refers] at open_
            exact absurd freed.impl open_
  · rintro before after validBefore ⟨freedBefore, stays, comes⟩ part
    rcases freedBefore.change (blockChange_of_part validBefore server part) with
      ⟨freedAfter, staysHere, comesHere⟩
    refine ⟨freedAfter, fun fault => staysHere (stays fault), fun fault => ?_⟩
    rcases comesHere fault with before | needs
    · exact comes before
    · exact .inr needs

/-- `Close` frees the block, and nothing has gone wrong with it by then. -/
theorem Intact.close (intact : Intact server world) (valid : world.Valid)
    (unclosed : (world.servers server).closed = false) {order : List ConnEntry}
    (step : world.Step (.closeTcpServer server order) next) :
    BlockFreed server next ∧ .implNull server ∉ next.faults := by
  rcases close_cases unclosed step with ⟨_, dropped, drops, open_, loop⟩
  have same := drops.sameBlock server
  have running : (dropped.servers server).listener = .running := by
    rw [same.listener]
    rcases intact.phase with unopened | listening
    · exact absurd unopened.impl open_
    · exact listening.2
  have freed := blockFreed_closing (same.frees.trans intact.frees) running
  have clean : .implNull server ∉ (dropped.setServer server (dropped.closing server)).faults :=
    fun fault => intact.fault (same.fault.mp fault)
  rw [← congrFun drops.servers server] at unclosed open_
  have visits := (drops.valid valid).visits unclosed open_
  have validClosing := (drops.valid valid).part (.closing server order rfl unclosed open_)
  -- the loop over the clients has the same parts whatever the event
  have parts : Relation.ReflTransGen (Part .recycle) _ next :=
    parts_disposeDownStreams validClosing visits loop
  refine (kept_of_parts (fun state => BlockFreed server state ∧ .implNull server ∉ state.faults) ?_
    validClosing ⟨freed, clean⟩ parts).2
  rintro before after validBefore ⟨freedBefore, cleanBefore⟩ part
  rcases freedBefore.change (blockChange_of_part validBefore server part) with ⟨freedAfter, _, comes⟩
  refine ⟨freedAfter, fun fault => ?_⟩
  rcases comes fault with before | impossible | ⟨_, _, impossible⟩
  · exact cleanBefore before
  · cases impossible
  · cases impossible

/-! ## Runs -/

variable {events : List UvClientsEvent}

theorem intact_or_freed_of_run (run : Run Step initial events world) (server : Nat) :
    world.Valid ∧ (Intact server world ∨ BlockFreed server world) :=
  Run.invariant (fun state => state.Valid ∧ (Intact server state ∨ BlockFreed server state))
    (fun _ _ _ kept step => intact_or_freed_of_step kept.1 kept.2 step) run
    ⟨initial_valid, .inl (initial_intact server)⟩

/-- Nothing has gone wrong after `Close` exactly where nothing needed the block. -/
theorem BlockFreed.run (freed : BlockFreed server world) (valid : world.Valid)
    (run : Run Step world events last) :
    BlockFreed server last ∧ (.implNull server ∉ last.faults ↔ .implNull server ∉ world.faults ∧
      Run (fun before event after => Step before event after ∧ SparesBlock server before event)
        world events last) := by
  induction run with
  | nil state => exact ⟨freed, fun clean => ⟨clean, .nil state⟩, And.left⟩
  | cons step _ inductionHypothesis =>
      rcases freed.step valid step with ⟨freedNext, fault⟩
      have validNext := (intact_or_freed_of_step valid (.inr freed) step).1
      rcases inductionHypothesis freedNext validNext with ⟨freedLast, clean⟩
      refine ⟨freedLast, ?_⟩
      rw [clean, fault, not_or, not_not]
      constructor
      · rintro ⟨⟨before, spares⟩, rest⟩
        exact ⟨before, .cons ⟨step, spares⟩ rest⟩
      · rintro ⟨before, spared⟩
        cases spared with
        | cons once rest =>
            cases (Option.some.inj (step.symm.trans once.1) : _ = _)
            exact ⟨⟨before, once.2⟩, rest⟩

/-- Whatever is called after `Close` of a server, its listener is never freed, and its
close callback follows a null pointer, as does `SendRaw` of every client of the server.
Before these are called nothing has gone wrong. -/
theorem block_never_outlives_users {before : UvClients} {order : List ConnEntry}
    {earlier later : List UvClientsEvent} (reached : Run Step initial earlier before)
    (unclosed : (before.servers server).closed = false)
    (closes : before.Step (.closeTcpServer server order) next)
    (goesOn : Run Step next later last) :
    ¬ BlockOutlivesUsers last server ∧ (last.servers server).listenerFrees = 0 ∧
      ((last.servers server).listener = .closed -> .implNull server ∈ last.faults) ∧
      (.implNull server ∉ last.faults ↔
        Run (fun world event after => Step world event after ∧ SparesBlock server world event)
          next later last) := by
  rcases intact_or_freed_of_run reached server with ⟨valid, either⟩
  have intact : Intact server before := by
    rcases either with intact | freed
    · exact intact
    · rcases close_cases unclosed closes with ⟨_, _, _, open_, _⟩
      exact absurd freed.impl open_
  rcases intact.close valid unclosed closes with ⟨freed, clean⟩
  have validNext := (intact_or_freed_of_step valid (.inl intact) closes).1
  rcases freed.run validNext goesOn with ⟨freedLast, spared⟩
  refine ⟨fun outlives => ?_, freedLast.frees, fun closed => ?_, ?_⟩
  · have once := outlives.2
    rw [freedLast.frees] at once
    cases once
  · rcases freedLast.phase with closing | ⟨_, fault⟩
    · rw [closed] at closing
      cases closing
    · exact fault
  · rw [spared]
    exact and_iff_right clean

/-- A server with two clients. -/
def twoClients : List UvClientsEvent :=
  [.openTcpServer 7 true, .setReady 7 true, .runOnce, .onConnection 7 true, .handlersReturn,
    .onConnection 7 true, .handlersReturn, .recycle]

/-- `Close` of the server, up to the handlers of the client it meets first. -/
def closeTwo : UvClientsEvent := .closeTcpServer 7 [⟨1000000002, 1⟩, ⟨1000000001, 0⟩]

/-- The server is closed, and the close callback of its listener has not come yet. -/
theorem block_never_outlives_users_two :
    Exists fun before => Exists fun next => Exists fun last =>
      Run Step initial twoClients before ∧ before.Step closeTwo next ∧
      Run Step next [.handlersReturn, .handlersReturn, .runOnce, .recycle] last ∧
      ¬ BlockOutlivesUsers last 7 ∧
      Run (fun world event after => Step world event after ∧ SparesBlock 7 world event)
        next [.handlersReturn, .handlersReturn, .runOnce, .recycle] last := by
  have computed : ((twoClients.foldlM perform initial).bind fun before =>
      (before.perform closeTwo).bind fun next =>
        ([.handlersReturn, .handlersReturn, .runOnce, .recycle].foldlM perform next).map fun last =>
          ((before.servers 7).closed, decide (.implNull 7 ∈ last.faults))) =
      some (false, false) := by decide
  rcases Option.bind_eq_some_iff.mp computed with ⟨before, reached, computed⟩
  rcases Option.bind_eq_some_iff.mp computed with ⟨next, closes, computed⟩
  rcases Option.map_eq_some_iff.mp computed with ⟨last, goesOn, facts⟩
  simp only [Prod.mk.injEq, decide_eq_false_iff_not] at facts
  have run : Run Step next _ last := Run.of_foldlM _ goesOn
  have never := block_never_outlives_users (Run.of_foldlM _ reached) facts.1 closes run
  exact ⟨before, next, last, Run.of_foldlM _ reached, closes, run, never.1,
    never.2.2.2.mp facts.2⟩

/-- The close callback of a listener without clients follows the null pointer and leaves
the listener unfreed, and so does a handler that sends to the other client. -/
theorem close_follows_null :
    (Exists fun last => Run Step initial
        [.openTcpServer 7 true, .closeTcpServer 7 [], .runOnce, .onServerClose 7] last ∧
      last.faults = [.implNull 7] ∧ (last.servers 7).listener = .closed ∧
      (last.servers 7).listenerFrees = 0 ∧ ¬ BlockOutlivesUsers last 7) ∧
    Exists fun last => Run Step initial (twoClients ++ [closeTwo, .sendRaw 0 true]) last ∧
      last.faults = [.implNull 7] := by
  constructor
  · have computed : ([.openTcpServer 7 true, .closeTcpServer 7 [], .runOnce,
        .onServerClose 7].foldlM perform initial).map (fun last => (last.faults,
          (last.servers 7).listener, (last.servers 7).listenerFrees)) =
        some ([.implNull 7], .closed, 0) := by decide
    rcases Option.map_eq_some_iff.mp computed with ⟨last, done, facts⟩
    simp only [Prod.mk.injEq] at facts
    rcases facts with ⟨faults, closed, frees⟩
    refine ⟨last, Run.of_foldlM _ done, faults, closed, frees, fun outlives => outlives.1 ?_⟩
    rw [faults]
    exact List.mem_singleton_self _
  · have computed : ((twoClients ++ [closeTwo, .sendRaw 0 true]).foldlM perform initial).map
        (fun last => last.faults) = some [.implNull 7] := by decide
    rcases Option.map_eq_some_iff.mp computed with ⟨last, done, faults⟩
    exact ⟨last, Run.of_foldlM _ done, faults⟩

end UvClients
end NetSystem
