import NetSystem.Tcp.KjRegular
import NetSystem.Tcp.KjSteps

namespace NetSystem

/-!
# The loop over the clients of a Kj server

`AddClientDisconnectCb` of the trunk queue only posts a callback, so the loop of
`DisposeDownStreams` leaves the map alone.  Each client of the closed server has been
disposed of when the loop ends, and waits for its callback.  The callback tells a client
that is still connected, and removes it when the handlers have returned.  No other
client takes its entry, since a closed server accepts none.
-/

namespace ConnView

variable {ref : ConnRef} {view next : ConnView} {server total : Nat}

/-- How often the connection has been told of a disconnect, or is still to be told. -/
def disconnections (view : ConnView) : Nat :=
  (view.log.countP fun entry => entry.notice == .disconnected) +
    if view.conn.flags.bConnected = true then 1 else 0

/-- A client of a closed server that has been disposed of, between its callback and the
recycler. -/
structure Leaving (server : Nat) (ref : ConnRef) (total : Nat) (view : ConnView) : Prop where
  created : view.created = true
  client : view.conn.kind.isClient = true
  closed : view.closed server = true
  disposed : view.conn.flags.bDisposed = true
  somewhere : view.held server = true ∨ view.recycled = true ∨ view.deleted = true
  waits : view.held server = true ->
    .clientDisconnect server ref ∈ view.callbacks ∨ .removeClient server ref ∈ view.rests
  loses : view.conn.flags.bConnected = true ->
    Exists fun place => .clientDisconnect place ref ∈ view.callbacks
  told : view.disconnections = total

namespace Leaving

/-- The client stays where it is, and what it waits for is not taken away. -/
theorem of_kept (leaving : view.Leaving server ref total) (created : next.created = view.created)
    (kind : next.conn.kind = view.conn.kind) (closed : next.closed server = true)
    (disposed : next.conn.flags.bDisposed = true)
    (place : next.held server = view.held server ∧ next.recycled = view.recycled ∧
      next.deleted = view.deleted)
    (callbacks : forall other, .clientDisconnect other ref ∈ view.callbacks ->
      .clientDisconnect other ref ∈ next.callbacks)
    (rests : .removeClient server ref ∈ view.rests -> .removeClient server ref ∈ next.rests)
    (connected : next.conn.flags.bConnected = view.conn.flags.bConnected)
    (told : next.disconnections = view.disconnections) : next.Leaving server ref total where
  created := created.trans leaving.created
  client := (congrArg KjClass.isClient kind).trans leaving.client
  closed := closed
  disposed := disposed
  somewhere := by
    rw [place.1, place.2.1, place.2.2]
    exact leaving.somewhere
  waits := by
    intro held
    exact (leaving.waits (place.1.symm.trans held)).imp (callbacks server) rests
  loses := by
    intro still
    rcases leaving.loses (connected.symm.trans still) with ⟨other, member⟩
    exact ⟨other, callbacks other member⟩
  told := told.trans leaving.told

theorem commit (leaving : view.Leaving server ref total) (cmd : NetCmd) :
    (view.commit cmd).Leaving server ref total :=
  leaving.of_kept rfl rfl leaving.closed leaving.disposed ⟨rfl, rfl, rfl⟩ (fun _ => id) id rfl rfl

theorem post (leaving : view.Leaving server ref total) (workCb : TrunkCb) :
    (view.post workCb).Leaving server ref total :=
  leaving.of_kept rfl rfl leaving.closed leaving.disposed ⟨rfl, rfl, rfl⟩
    (fun _ => List.mem_append_left _) id rfl rfl

end Leaving

/-- A packet is no disconnect. -/
theorem disconnections_notify (view : ConnView) (ref : ConnRef) {notice : ConnNotice}
    (other : notice ≠ .disconnected) :
    (view.notify ref [notice]).disconnections = view.disconnections := by
  unfold disconnections
  change List.countP _ (view.log ++ [_]) + _ = _
  rw [List.countP_append, List.countP_singleton, if_neg]
  · rfl
  · rw [beq_iff_eq]
    exact other

/-- A client that loses its connection is told of it. -/
theorem disconnections_tell (view : ConnView) (ref : ConnRef) :
    (view.tell ref view.conn.onDisconnect).disconnections = view.disconnections := by
  unfold disconnections tell notify KjConn.onDisconnect
  cases connected : view.conn.flags.bConnected with
  | true =>
      rw [if_pos rfl, if_pos rfl]
      dsimp only
      rw [if_neg Bool.false_ne_true, List.map_singleton, List.countP_append, List.countP_singleton,
        if_pos (beq_self_eq_true _)]
  | false =>
      rw [if_neg Bool.false_ne_true]
      dsimp only
      rw [List.map_nil, List.append_nil, connected]

end ConnView

open ConnView

variable {ref : ConnRef} {view next : ConnView} {server total : Nat}

/-- What carries out the end of a call either moves the client to the recycler or leaves
it to what comes later. -/
theorem RestStep.leaving {rest : FrontRest}
    (later : (rest = .removeClient server ref -> view.held server = false) ->
      view.Leaving server ref total)
    (gone : Leaving server ref total { view with held := fun _ => false, recycled := true })
    (runs : RestStep ref view rest next) : next.Leaving server ref total := by
  cases runs with
  | removed place => exact gone.commit _
  | absent place unheld =>
      refine later fun same => ?_
      cases same
      exact unheld
  | released => exact (later fun impossible => by cases impossible).commit _
  | delayed => exact (later fun impossible => by cases impossible).commit _

/-- The handlers of an event have returned. -/
theorem RestStep.returns_leaving {rest : FrontRest} {rests : List FrontRest}
    (leaving : view.Leaving server ref total) (first : view.rests = rest :: rests)
    (runs : RestStep ref { view with rests := rests } rest next) :
    next.Leaving server ref total := by
  refine RestStep.leaving (fun other => ?_) ?_ runs
  · refine ⟨leaving.created, leaving.client, leaving.closed, leaving.disposed, leaving.somewhere,
      fun held => (leaving.waits held).imp_right fun member => ?_, leaving.loses, leaving.told⟩
    rw [first] at member
    refine (List.mem_cons.mp member).resolve_left fun same => ?_
    exact Bool.false_ne_true ((other same.symm).symm.trans held)
  · exact ⟨leaving.created, leaving.client, leaving.closed, leaving.disposed, .inr (.inl rfl),
      fun impossible => Bool.noConfusion impossible, leaving.loses, leaving.told⟩

theorem CbStep.leaving {workCb : TrunkCb} {callbacks : List TrunkCb}
    (leaving : view.Leaving server ref total) (fits : workCb.fits true = true)
    (first : view.callbacks = workCb :: callbacks)
    (runs : CbStep ref (view.start callbacks) workCb next) : next.Leaving server ref total := by
  have remain : forall place, workCb ≠ .clientDisconnect place ref ->
      .clientDisconnect place ref ∈ view.callbacks -> .clientDisconnect place ref ∈ callbacks := by
    intro place other member
    rw [first] at member
    exact (List.mem_cons.mp member).resolve_left fun same => other same.symm
  have packet : (forall place, workCb ≠ .clientDisconnect place ref) ->
      (view.start callbacks).Leaving server ref total := by
    intro other
    refine ⟨leaving.created, leaving.client, leaving.closed, leaving.disposed, leaving.somewhere,
      fun held => (leaving.waits held).imp_left (remain server (other server)), ?_, leaving.told⟩
    intro connected
    rcases leaving.loses connected with ⟨place, member⟩
    exact ⟨place, remain place (other place) member⟩
  cases runs with
  | clientLost place connected =>
      have object := KjConn.onDisconnect_eq (view.start callbacks).conn
      have silent : (view.start callbacks).conn.onDisconnect.1.flags.bConnected = false := by
        rw [object]
      refine ⟨leaving.created, ?_, leaving.closed, ?_, leaving.somewhere, ?_, ?_, ?_⟩
      · exact (congrArg (fun conn => conn.kind.isClient) object).trans leaving.client
      · exact (congrArg (fun conn => conn.flags.bDisposed) object).trans leaving.disposed
      · intro held
        rcases leaving.waits held with member | member
        · rw [first] at member
          rcases List.mem_cons.mp member with same | later
          · cases same
            exact .inr (List.mem_cons_self ..)
          · exact .inl later
        · exact .inr (List.mem_cons_of_mem _ member)
      · exact fun still => absurd (silent.symm.trans still) Bool.false_ne_true
      · exact (disconnections_tell (view.start callbacks) ref).trans leaving.told
  | clientGone _ place disconnected removes =>
      have silent : forall {property : Prop}, view.conn.flags.bConnected = true -> property :=
        fun still => absurd (disconnected.symm.trans still) Bool.false_ne_true
      refine RestStep.leaving (fun unheld => ?_) ?_ removes
      · refine ⟨leaving.created, leaving.client, leaving.closed, leaving.disposed,
          leaving.somewhere, fun held => (leaving.waits held).imp_left (remain server ?_), silent,
          leaving.told⟩
        intro same
        cases same
        exact Bool.false_ne_true ((unheld rfl).symm.trans held)
      · exact ⟨leaving.created, leaving.client, leaving.closed, leaving.disposed, .inr (.inl rfl),
          fun impossible => Bool.noConfusion impossible, silent, leaving.told⟩
  | linkReported => cases fits
  | linkLost => cases fits
  | packet uConnId body =>
      have rest := packet (fun _ impossible => by cases impossible)
      exact rest.of_kept rfl rfl rest.closed rest.disposed ⟨rfl, rfl, rfl⟩ (fun _ => id) id rfl
        (disconnections_notify _ ref nofun)
  | innerPacket uConnId body =>
      have rest := packet (fun _ impossible => by cases impossible)
      exact rest.of_kept rfl rfl rest.closed rest.disposed ⟨rfl, rfl, rfl⟩ (fun _ => id) id rfl
        (disconnections_notify _ ref nofun)

theorem CmdStep.leaving {cmd : NetCmd} {todo : List NetCmd}
    (leaving : view.Leaving server ref total) (fits : cmd.fits true = true)
    (runs : CmdStep ref { view with executing := some cmd, todo := todo } cmd next) :
    next.Leaving server ref total := by
  have taken : Leaving server ref total { view with executing := some cmd, todo := todo } :=
    leaving.of_kept rfl rfl leaving.closed leaving.disposed ⟨rfl, rfl, rfl⟩ (fun _ => id) id rfl rfl
  cases runs with
  | disposed =>
      refine taken.of_kept rfl ?_ leaving.closed (KjConn.disposeConnection_disposed _)
        ⟨rfl, rfl, rfl⟩ (fun _ => id) id (KjConn.disposeConnection_connected _) ?_
      · exact (KjConn.disposeConnection_sameObject _).kind
      · exact congrArg (fun connected => _ + if connected = true then 1 else 0)
          (KjConn.disposeConnection_connected view.conn)
  | posted body => exact taken
  | confirmed streamptr ready =>
      exact absurd (ready.1.symm.trans leaving.disposed) Bool.false_ne_true
  | notReady streamptr => exact taken
  | connected => cases fits
  | delayed => cases fits

namespace ConnView

/-- A client that is disposed of and reported lost. -/
theorem Leaving.dispose {conn : KjConn} (leaving : view.Leaving server ref total)
    (kind : conn.kind = view.conn.kind)
    (connected : conn.flags.bConnected = view.conn.flags.bConnected) {deferred : Nat}
    {closed : Nat -> Bool} (still : closed server = true) (place : Nat) :
    Leaving server ref total
      { { view with conn := conn.disposeConnection, deferred := deferred }.post
        (.clientDisconnect place ref) with closed := closed } := by
  have silent := (KjConn.disposeConnection_connected conn).trans connected
  refine leaving.of_kept rfl ?_ still (KjConn.disposeConnection_disposed _) ⟨rfl, rfl, rfl⟩
    (fun _ => List.mem_append_left _) id silent ?_
  · exact (KjConn.disposeConnection_sameObject conn).kind.trans kind
  · exact congrArg (fun connected => _ + if connected = true then 1 else 0) silent

/-- Nothing brings a client back that is leaving. -/
theorem Leaving.step {event : WorldEvent} (leaving : view.Leaving server ref total)
    (regular : view.Regular) (step : ConnStep ref view event next) :
    next.Leaving server ref total := by
  have isolated : view.conn.kind.isClient ≠ false := by
    rw [leaving.client]
    nofun
  have undisposed : view.conn.flags.bDisposed ≠ false := by
    rw [leaving.disposed]
    nofun
  have created : view.created ≠ false := by
    rw [leaving.created]
    nofun
  cases step with
  | other => exact leaving
  | displaced _ held _ _ _ _ kept =>
      exact leaving.of_kept rfl rfl leaving.closed leaving.disposed
        ⟨kept server leaving.closed, rfl, rfl⟩ (fun _ => id) id rfl rfl
  | accepted _ _ _ absent => exact absurd absent created
  | isolatedCreated _ _ _ absent => exact absurd absent created
  | connectCommitted => exact leaving.commit _
  | sent => exact leaving.commit _
  | disconnectIgnored => exact leaving
  | stopped _ _ _ _ _ running => exact absurd running.1 undisposed
  | stoppedUnconnected _ _ _ running => exact absurd running.1 undisposed
  | reopenIgnored => exact leaving
  | reopened => exact leaving.commit _
  | returned _ _ _ first runs => exact RestStep.returns_leaving leaving first runs
  | called _ workCb _ first _ runs =>
      have fits := regular.callbacks workCb (by rw [first]; exact List.mem_cons_self ..)
      rw [leaving.client] at fits
      exact CbStep.leaving leaving fits first runs
  | clientReleased place =>
      exact ⟨leaving.created, leaving.client, leaving.closed, leaving.disposed, .inr (.inl rfl),
        fun impossible => Bool.noConfusion impossible, leaving.loses, leaving.told⟩
  | isolatedReleased _ here =>
      exact absurd ((regular.client leaving.client).symm.trans here) Bool.false_ne_true
  | deleted =>
      exact ⟨leaving.created, leaving.client, leaving.closed, leaving.disposed, .inr (.inr rfl),
        leaving.waits, leaving.loses, leaving.told⟩
  | executed _ _ cmd todo _ first runs =>
      have fits := regular.cmds cmd (by
        rw [pendingCmds, first]
        exact List.mem_append_right _ (List.mem_cons_self ..))
      rw [leaving.client] at fits
      exact CmdStep.leaving leaving fits runs
  | serverClosed _ place =>
      refine leaving.dispose rfl rfl ?_ place
      by_cases here : server = place
      · rw [here, Function.update_self]
      · rw [Function.update_of_ne here, leaving.closed]
  | closedElsewhere _ place =>
      refine leaving.of_kept rfl rfl ?_ leaving.disposed ⟨rfl, rfl, rfl⟩ (fun _ => id) id rfl rfl
      change Function.update view.closed place true server = true
      by_cases here : server = place
      · rw [here, Function.update_self]
      · rw [Function.update_of_ne here, leaving.closed]
  | finished =>
      exact leaving.of_kept rfl rfl leaving.closed leaving.disposed ⟨rfl, rfl, rfl⟩ (fun _ => id) id
        rfl rfl
  | clientFailed =>
      exact leaving.dispose (KjConn.flushStream_sameObject _).kind (KjConn.flushStream_connected _)
        leaving.closed _
  | isolatedFailed _ _ _ here => exact absurd here isolated
  | linkUp _ connecting =>
      exact absurd ((regular.conn.client leaving.client).1.symm.trans connecting) Bool.false_ne_true
  | connectFailed _ connecting =>
      exact absurd ((regular.conn.client leaving.client).1.symm.trans connecting) Bool.false_ne_true
  | received => exact leaving.post _
  | readFailed =>
      exact leaving.of_kept rfl rfl leaving.closed leaving.disposed ⟨rfl, rfl, rfl⟩ (fun _ => id) id
        rfl rfl
  | timerFired _ _ timer =>
      exact absurd ((regular.conn.client leaving.client).2.symm.trans timer) Bool.false_ne_true

end ConnView

namespace KjWorld

variable {world before after last : KjWorld} {client : ConnRef}

/-- How often the connection has been told of a disconnect. -/
def toldDisconnected (world : KjWorld) (ref : ConnRef) : Nat :=
  world.log.countP fun entry => entry.conn == ref && entry.notice == .disconnected

theorem disconnections_view (world : KjWorld) (ref : ConnRef) :
    (world.view ref).disconnections = world.toldDisconnected ref +
      if (world.manager.flags ref).bConnected = true then 1 else 0 := by
  refine congrArg (· + _) ?_
  change (world.log.filter _).countP _ = _
  rw [List.countP_filter]
  refine List.countP_congr fun entry _ => ?_
  rw [Bool.and_comm]

theorem disposeDownStream_mapServerEntry (world : KjWorld) (server : Nat) (entry : ConnEntry) :
    (world.disposeDownStream server entry).manager.mapServerEntry = world.manager.mapServerEntry := by
  unfold disposeDownStream
  split <;> rfl

/-- The loop leaves the map of clients alone. -/
theorem disposeDownStreams_mapServerEntry (world : KjWorld) (server : Nat) (order : List ConnEntry) :
    (order.foldl (fun state entry => state.disposeDownStream server entry)
      world).manager.mapServerEntry = world.manager.mapServerEntry := by
  induction order generalizing world with
  | nil => rfl
  | cons entry order inductionHypothesis =>
      exact (inductionHypothesis _).trans (world.disposeDownStream_mapServerEntry server entry)

theorem close_mapServerEntry {order : List ConnEntry} (done : before.close server order = some after) :
    after.manager.mapServerEntry = before.manager.mapServerEntry := by
  unfold close at done
  split at done
  · cases done
    rfl
  · split at done
    · cases done
      exact disposeDownStreams_mapServerEntry _ server order
    · cases done

/-- What carries out the command to close a server. -/
theorem close_of_execute {queue : List NetCmd} {order : List ConnEntry}
    (command : before.workQueue = .closeTcpServer server :: queue)
    (step : before.Step (.execute order) after) :
    before.executing = none ∧ close { before with
      workQueue := queue, executing := some (.closeTcpServer server) } server order = some after := by
  simp only [Step, perform, command] at step
  rcases backEnd_eq_some step with ⟨idle, done⟩
  exact ⟨idle, done⟩

/-- When the loop has ended, every client of the server is leaving. -/
theorem leaving_of_close (valid : before.Valid) (regular : (before.view client).Regular)
    {queue : List NetCmd} {order : List ConnEntry}
    (command : before.workQueue = .closeTcpServer server :: queue)
    (unclosed : (before.servers server).closed = false)
    (step : before.Step (.execute order) after)
    (held : client ∈ (before.manager.clientsOf server).values) :
    (after.view client).Leaving server client (before.view client).disconnections := by
  rcases close_of_execute command step with ⟨idle, done⟩
  have here : (before.view client).held server = true := decide_eq_true held
  have taken := view_dequeueCmd_ne client idle command
    (show NetCmd.conn (.closeTcpServer server) ≠ some client from nofun)
  have closed := (view_closed client (valid.consistent.of_dequeueCmd idle command).manager unclosed
    done).2
  rw [taken, if_pos here] at closed
  rw [closed]
  have silent := KjConn.disposeConnection_connected (before.conn client)
  refine ⟨decide_eq_true (valid.consistent.manager.2.created_of_held held), ?_, ?_, ?_, .inl here,
    fun _ => .inl ?_,
    fun _ => ⟨server, ?_⟩, ?_⟩
  · exact (congrArg KjClass.isClient (KjConn.disposeConnection_sameObject _).kind).trans
      (regular.client_of_held here)
  · exact Function.update_self ..
  · exact KjConn.disposeConnection_disposed _
  · exact List.mem_append_right _ (List.mem_singleton_self _)
  · exact List.mem_append_right _ (List.mem_singleton_self _)
  · exact congrArg (fun connected => _ + if connected = true then 1 else 0) silent

/-- A client that is leaving has left when nothing is on its way to the front end. -/
theorem left_of_leaving {total : Nat} (valid : last.Valid)
    (leaving : (last.view client).Leaving server client total)
    (drained : last.trunkQueue = []) (returned : last.frontStack = []) :
    (last.manager.flags client).bDisposed = true ∧ last.toldDisconnected client = total ∧
      (forall place, client ∉ (last.manager.clientsOf place).values) ∧
      (last.manager.vRecycler ++ last.manager.deleted).count client = 1 := by
  have callbacks : (last.view client).callbacks = [] := by
    change last.trunkQueue.filter _ = []
    rw [drained]
    rfl
  have rests : (last.view client).rests = [] := by
    change last.frontStack.filter _ = []
    rw [returned]
    rfl
  have disconnected : (last.manager.flags client).bConnected ≠ true := by
    intro connected
    rcases leaving.loses connected with ⟨place, member⟩
    rw [callbacks] at member
    cases member
  have told := leaving.told
  rw [disconnections_view, if_neg disconnected] at told
  have gone : client ∈ last.manager.vRecycler ++ last.manager.deleted := by
    rcases leaving.somewhere with held | recycled | deleted
    · rcases leaving.waits held with member | member
      · rw [callbacks] at member
        cases member
      · rw [rests] at member
        cases member
    · exact List.mem_append_left _ (of_decide_eq_true recycled)
    · exact List.mem_append_right _ (of_decide_eq_true deleted)
  rcases valid.consistent.manager.2.recycled_once gone with ⟨once, unheld⟩
  exact ⟨leaving.disposed, told, unheld, once⟩

/-- A client that is leaving goes on leaving. -/
theorem leaving_of_run {total : Nat} {events : List WorldEvent} (valid : after.Valid)
    (regular : (after.view client).Regular) (leaving : (after.view client).Leaving server client total)
    (run : Run Step after events last) :
    last.Valid ∧ (last.view client).Leaving server client total := by
  have kept := run.invariant
    (fun state => state.Valid ∧ (state.view client).Regular ∧
      (state.view client).Leaving server client total) ?_ ⟨valid, regular, leaving⟩
  · exact ⟨kept.1, kept.2.2⟩
  · rintro state event next ⟨validState, regularState, leavingState⟩ step
    have viewed := view_step client validState step
    exact ⟨validState.step step, regularState.step viewed, leavingState.step regularState viewed⟩

/-- Every client of a server that is closed is disposed of in the loop.  Whatever happens
then, when nothing is on its way to the front end it has been told that it lost its
connection, if it had one, and is in the recycler or deleted from there. -/
theorem clients_leave {gate : Bool} {earlier later : List WorldEvent} {queue : List NetCmd}
    {order : List ConnEntry} (reached : Run Step (initial gate) earlier before)
    (command : before.workQueue = .closeTcpServer server :: queue)
    (unclosed : (before.servers server).closed = false)
    (step : before.Step (.execute order) after) (goesOn : Run Step after later last)
    (held : client ∈ (before.manager.clientsOf server).values) :
    (after.manager.flags client).bDisposed = true ∧
      (last.trunkQueue = [] -> last.frontStack = [] ->
        (last.manager.flags client).bDisposed = true ∧
        last.toldDisconnected client = before.toldDisconnected client +
          (if (before.manager.flags client).bConnected = true then 1 else 0) ∧
        (forall place, client ∉ (last.manager.clientsOf place).values) ∧
        (last.manager.vRecycler ++ last.manager.deleted).count client = 1) := by
  rcases view_invariant_of_run (fun view => view.Regular) (fun _ _ _ kept step => kept.step step)
    .initial reached with ⟨valid, regular⟩
  have leaving := leaving_of_close valid regular command unclosed step held
  refine ⟨leaving.disposed, fun drained returned => ?_⟩
  have validAfter := valid.step step
  have regularAfter := regular.step (view_step client valid step)
  rcases leaving_of_run validAfter regularAfter leaving goesOn with ⟨validLast, leavingLast⟩
  rw [← disconnections_view]
  exact left_of_leaving validLast leavingLast drained returned

end KjWorld
end NetSystem
