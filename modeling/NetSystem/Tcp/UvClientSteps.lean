import NetSystem.Tcp.ConnPlaces
import NetSystem.Tcp.UvClients

namespace NetSystem

/-!
# What the calls of the Uv factory do

Most of a call reads, writes and frees memory, closes streams and sets flags.  It
leaves the map of clients, the servers, the stack and the notifications alone, and of
what it can do wrong it records only uses of memory (`Aside`).  What remains are the
removal of a client, the handlers, and the loop over the clients of a server, which
removes those without handlers at once and stops at the first one with handlers.
-/

/-- What is in the middle of `DisposeDownStreams` of a server. -/
def UvRest.loopsOver (server : Nat) : UvRest -> Bool
  | .disposeDownStreams place _ _ => place == server
  | _ => false

/-- A use of memory that has been given back, or of a buffer that has not been made. -/
def UvFault.isMemory : UvFault -> Bool
  | .handleFreed _ => true
  | .connDeleted _ => true
  | .bufferUnset _ => true
  | _ => false

namespace UvClients

variable {world middle next : UvClients} {server clnt : Nat} {client other : ConnRef}
  {gone : Option ConnRef}

/-! ## Single members -/

theorem states_setState (state : UvClientState) :
    (world.setState client state).states client = state :=
  Function.update_self ..

theorem states_setState_ne (state : UvClientState) (different : other ≠ client) :
    (world.setState client state).states other = world.states other :=
  Function.update_of_ne different ..

theorem flags_setFlags (flags : ConnFlags) :
    (world.setFlags client flags).manager.flags client = flags :=
  Function.update_self ..

theorem flags_setFlags_ne (flags : ConnFlags) (different : other ≠ client) :
    (world.setFlags client flags).manager.flags other = world.manager.flags other :=
  Function.update_of_ne different ..

theorem handles_setHandle (handle : UvHandle) :
    (world.setHandle clnt handle).handles clnt = handle :=
  Function.update_self ..

theorem handles_setHandle_ne (handle : UvHandle) {another : Nat} (different : another ≠ clnt) :
    (world.setHandle clnt handle).handles another = world.handles another :=
  Function.update_of_ne different ..

theorem servers_setServer (state : UvServer) :
    (world.setServer server state).servers server = state :=
  Function.update_self ..

theorem servers_setServer_ne (state : UvServer) {place : Nat} (different : place ≠ server) :
    (world.setServer server state).servers place = world.servers place :=
  Function.update_of_ne different ..

/-! ## Memory, streams and flags -/

/-- At most the client that is gone has been disposed of. -/
structure Aside (gone : Option ConnRef) (world next : UvClients) : Prop where
  manager : next.manager = { world.manager with flags := next.manager.flags }
  connected : forall client,
    (next.manager.flags client).bConnected = (world.manager.flags client).bConnected
  disposed : forall client, (next.manager.flags client).bDisposed =
    ((world.manager.flags client).bDisposed || decide (gone = some client))
  states : forall client,
    next.states client = { world.states client with packet := (next.states client).packet }
  servers : next.servers = world.servers
  stack : next.stack = world.stack
  log : next.log = world.log
  faults : Exists fun extra => next.faults = world.faults ++ extra ∧
    forall fault, fault ∈ extra -> fault.isMemory = true

namespace Aside

theorem refl (world : UvClients) : Aside none world world where
  manager := rfl
  connected := fun _ => rfl
  disposed := fun _ => (Bool.or_false _).symm
  states := fun _ => rfl
  servers := rfl
  stack := rfl
  log := rfl
  faults := ⟨[], (List.append_nil _).symm, fun _ member => absurd member List.not_mem_nil⟩

/-- One part after the other, where at most one of them disposes of a client. -/
theorem compose {first second : Option ConnRef} (left : Aside first world middle)
    (right : Aside second middle next)
    (either : forall client, decide (gone = some client) =
      (decide (first = some client) || decide (second = some client))) :
    Aside gone world next where
  manager := by
    rw [right.manager, left.manager]
  connected := fun client => (right.connected client).trans (left.connected client)
  disposed := by
    intro client
    rw [right.disposed, left.disposed, either, Bool.or_assoc]
  states := by
    intro client
    rw [right.states, left.states]
  servers := right.servers.trans left.servers
  stack := right.stack.trans left.stack
  log := right.log.trans left.log
  faults := by
    rcases left.faults with ⟨before, leftEq, leftMemory⟩
    rcases right.faults with ⟨after, rightEq, rightMemory⟩
    refine ⟨before ++ after, by rw [rightEq, leftEq, List.append_assoc], ?_⟩
    intro fault member
    rcases List.mem_append.mp member with early | late
    · exact leftMemory fault early
    · exact rightMemory fault late

theorem trans (left : Aside none world middle) (right : Aside gone middle next) :
    Aside gone world next :=
  left.compose right fun _ => (Bool.false_or _).symm

theorem trans_none (left : Aside gone world middle) (right : Aside none middle next) :
    Aside gone world next :=
  left.compose right fun _ => (Bool.or_false _).symm

/-- Repeated for every element of a list. -/
theorem foldl {α : Type} (body : UvClients -> α -> UvClients)
    (each : forall world item, Aside none world (body world item)) (items : List α)
    (world : UvClients) : Aside none world (items.foldl body world) := by
  induction items generalizing world with
  | nil => exact .refl world
  | cons item items inductionHypothesis =>
      exact (each world item).trans (inductionHypothesis (body world item))

theorem registered (aside : Aside gone world next) (server : Nat) (client : ConnRef) :
    next.registered server client = world.registered server client := by
  unfold UvClients.registered
  rw [aside.manager]
  rfl

theorem clientsOf (aside : Aside gone world next) (server : Nat) :
    next.manager.clientsOf server = world.manager.clientsOf server := by
  rw [aside.manager]
  rfl

theorem live (aside : Aside gone world next) (client : ConnRef) :
    next.Live client ↔ world.Live client := by
  unfold Live
  rw [aside.manager]
  rfl

/-- No other fault has been recorded. -/
theorem mem_faults (aside : Aside gone world next) {fault : UvFault}
    (other : fault.isMemory = false) : fault ∈ next.faults ↔ fault ∈ world.faults := by
  rcases aside.faults with ⟨extra, eq, memory⟩
  rw [eq, List.mem_append, or_iff_left]
  intro member
  rw [memory fault member] at other
  cases other

end Aside

theorem aside_fault (world : UvClients) {fault : UvFault} (memory : fault.isMemory = true) :
    Aside none world (world.fault fault) :=
  { Aside.refl world with
    faults := ⟨[fault], rfl, fun _ member => (List.mem_singleton.mp member) ▸ memory⟩ }

theorem aside_touchHandle (world : UvClients) (clnt : Nat) :
    Aside none world (world.touchHandle clnt) := by
  unfold touchHandle
  split
  · exact .refl world
  · exact world.aside_fault rfl

theorem aside_touchConn (world : UvClients) (client : ConnRef) :
    Aside none world (world.touchConn client) := by
  unfold touchConn
  split
  · exact world.aside_fault rfl
  · exact .refl world

theorem aside_setHandle (world : UvClients) (clnt : Nat) (handle : UvHandle) :
    Aside none world (world.setHandle clnt handle) :=
  ⟨rfl, fun _ => rfl, fun _ => (Bool.or_false _).symm, fun _ => rfl, rfl, rfl, rfl,
    (Aside.refl world).faults⟩

theorem aside_uvClose (world : UvClients) (clnt : Nat) (callback : StreamCloseCb) :
    Aside none world (world.uvClose clnt callback) := by
  unfold uvClose
  dsimp only
  split
  · exact world.aside_setHandle clnt _
  · exact .refl world

theorem aside_clearSockimpl (world : UvClients) (clnt : Nat) :
    Aside none world (world.clearSockimpl clnt) :=
  world.aside_setHandle clnt _

theorem aside_freeHandle (world : UvClients) (clnt : Nat) :
    Aside none world (world.freeHandle clnt) :=
  (world.aside_touchHandle clnt).trans (aside_setHandle ..)

theorem aside_setFlags (world : UvClients) (client : ConnRef) {flags : ConnFlags}
    (connected : flags.bConnected = (world.manager.flags client).bConnected)
    (disposed : flags.bDisposed =
      ((world.manager.flags client).bDisposed || decide (gone = some client)))
    (alone : forall other, other ≠ client -> gone ≠ some other) :
    Aside gone world (world.setFlags client flags) := by
  refine ⟨rfl, fun other => ?_, fun other => ?_, fun _ => rfl, rfl, rfl, rfl,
    (Aside.refl world).faults⟩
  · by_cases same : other = client
    · rw [same, flags_setFlags, connected]
    · rw [flags_setFlags_ne flags same]
  · by_cases same : other = client
    · rw [same, flags_setFlags, disposed]
    · rw [flags_setFlags_ne flags same, decide_eq_false (alone other same), Bool.or_false]

theorem aside_flushed (world : UvClients) (client : ConnRef) :
    Aside none world
      (world.setFlags client { world.manager.flags client with bFlushed := true }) :=
  world.aside_setFlags client rfl (Bool.or_false _).symm nofun

theorem aside_setState (world : UvClients) (client : ConnRef) {state : UvClientState}
    (packet : state = { world.states client with packet := state.packet }) :
    Aside none world (world.setState client state) := by
  refine ⟨rfl, fun _ => rfl, fun _ => (Bool.or_false _).symm, fun other => ?_, rfl, rfl, rfl,
    (Aside.refl world).faults⟩
  by_cases same : other = client
  · rw [same, states_setState]
    exact packet
  · rw [states_setState_ne state same]

theorem aside_flushStream (world : UvClients) (client : ConnRef) :
    Aside none world (world.flushStream client) := by
  unfold flushStream
  split
  · exact .refl world
  · rename_i clnt _
    dsimp only
    split
    · exact (world.aside_touchHandle clnt).trans <| (aside_uvClose ..).trans <|
        (aside_clearSockimpl ..).trans (aside_flushed ..)
    · exact world.aside_touchHandle clnt

theorem aside_disposeConnection (world : UvClients) (client : ConnRef) :
    Aside (some client) world (world.disposeConnection client) := by
  have touched := world.aside_touchConn client
  unfold disposeConnection
  dsimp only
  split
  · rename_i already
    refine { touched with disposed := fun other => ?_ }
    by_cases same : other = client
    · rw [same, already, decide_eq_true rfl, Bool.or_true]
    · rw [touched.disposed, decide_eq_false, decide_eq_false]
      · exact fun here => same (Option.some.inj here).symm
      · nofun
  · have marked : Aside (some client) (world.touchConn client)
        ((world.touchConn client).setFlags client
          { (world.touchConn client).manager.flags client with bDisposed := true }) := by
      refine aside_setFlags _ client rfl ?_ ?_
      · rw [decide_eq_true rfl, Bool.or_true]
      · exact fun other different same => different (Option.some.inj same).symm
    exact (touched.trans marked).trans_none <|
      (aside_setState _ client rfl).trans (aside_flushStream ..)

theorem aside_accepted (world : UvClients) (clnt : Nat) (client : ConnRef) :
    Aside none world (world.accepted clnt client) :=
  (world.aside_touchHandle clnt).trans (aside_setHandle ..)

theorem aside_rejected (world : UvClients) (clnt : Nat) :
    Aside none world (world.rejected clnt) :=
  (world.aside_uvClose clnt _).trans <| (aside_clearSockimpl ..).trans <|
    (aside_uvClose ..).trans <| (aside_fault _ rfl).trans <|
      (aside_freeHandle ..).trans (aside_touchHandle ..)

theorem aside_dropStream (world : UvClients) (clnt : Nat) :
    Aside none world (world.dropStream clnt) :=
  (world.aside_touchHandle clnt).trans <| (aside_uvClose ..).trans <|
    (aside_clearSockimpl ..).trans (aside_freeHandle ..)

theorem aside_dropHandle (world : UvClients) (clnt : Nat) :
    Aside none world (world.dropHandle clnt) :=
  (world.aside_uvClose clnt _).trans (aside_freeHandle ..)

theorem aside_deleteClient (world : UvClients) (client : ConnRef) :
    Aside none world (world.deleteClient client) := by
  unfold deleteClient
  cases (world.states client).clnt with
  | none => exact .refl world
  | some clnt => exact world.aside_freeHandle clnt

theorem aside_newHandle (world : UvClients) : Aside none world world.newHandle :=
  ⟨rfl, fun _ => rfl, fun _ => (Bool.or_false _).symm, fun _ => rfl, rfl, rfl, rfl,
    (Aside.refl world).faults⟩

theorem aside_onStreamClosed (world : UvClients) (clnt : Nat) :
    Aside none world (world.onStreamClosed clnt) := by
  have closed := world.aside_setHandle clnt { world.handles clnt with stream := .closed }
  unfold onStreamClosed
  dsimp only
  split
  · have touched := closed.trans (aside_touchHandle _ clnt)
    cases ((_ : UvClients).handles clnt).connimpl with
    | none => exact touched
    | some client => exact touched.trans <| (aside_touchConn ..).trans (aside_flushed ..)
  · exact closed

/-! ## Where the clients are, and which loops are in progress -/

/-- How many loops over the clients of a server are to be resumed. -/
def loops (world : UvClients) (server : Nat) : Nat :=
  world.stack.countP (UvRest.loopsOver server)

/-- A server that is being closed, while its loop runs. -/
structure Closing (world : UvClients) (server : Nat) : Prop where
  unclosed : (world.servers server).closed = false
  impl : (world.servers server).impl = none
  listened : (world.servers server).listener ≠ .absent

/-- A server is closed at most once, and it has been opened before. -/
structure Looping (world : UvClients) (server : Nat) : Prop where
  listened : (world.servers server).impl ≠ none -> (world.servers server).listener ≠ .absent
  once : world.loops server = 0 ∨ (world.loops server = 1 ∧ world.Closing server)

theorem Closing.congr (closing : world.Closing server)
    (closed : (next.servers server).closed = (world.servers server).closed)
    (impl : (next.servers server).impl = (world.servers server).impl)
    (listener : (next.servers server).listener = (world.servers server).listener) :
    next.Closing server :=
  ⟨closed.trans closing.unclosed, impl.trans closing.impl, listener ▸ closing.listened⟩

theorem Looping.congr (looping : world.Looping server) (loops : next.loops server = world.loops server)
    (closed : (next.servers server).closed = (world.servers server).closed)
    (impl : (next.servers server).impl = (world.servers server).impl)
    (listener : (next.servers server).listener = (world.servers server).listener) :
    next.Looping server where
  listened := by
    rw [impl, listener]
    exact looping.listened
  once := by
    rw [loops]
    exact looping.once.imp_right fun one => ⟨one.1, one.2.congr closed impl listener⟩

theorem Looping.same (looping : world.Looping server) (loops : next.loops server = world.loops server)
    (servers : next.servers server = world.servers server) : next.Looping server :=
  looping.congr loops (by rw [servers]) (by rw [servers]) (by rw [servers])

/-- While a server has its block, no loop over its clients is on the stack. -/
theorem Looping.of_open (looping : world.Looping server) (open_ : (world.servers server).impl ≠ none) :
    world.loops server = 0 :=
  looping.once.resolve_right fun one => open_ one.2.impl

/-- What holds in every state. -/
structure Valid (world : UvClients) : Prop where
  formed : world.manager.Formed
  placed : world.manager.Placed
  looping : forall server, world.Looping server

theorem Valid.of_step (valid : world.Valid) (event : ConnEvent)
    (step : world.manager.Step event next.manager)
    (loops : forall server, next.loops server = world.loops server)
    (servers : next.servers = world.servers) : next.Valid where
  formed := valid.formed.step step
  placed := valid.placed.step valid.formed step
  looping := fun server => (valid.looping server).same (loops server) (congrFun servers server)

theorem Valid.of_flags (valid : world.Valid)
    (manager : next.manager = { world.manager with flags := next.manager.flags })
    (looping : forall server, next.Looping server) : next.Valid := by
  refine ⟨?_, ?_, looping⟩
  · rw [manager]
    exact valid.formed.congr rfl rfl rfl (fun _ _ _ holds => holds) (fun _ _ found => found)
      valid.formed.idle valid.formed.safe
  · rw [manager]
    exact valid.placed

theorem Valid.same (valid : world.Valid) (manager : next.manager = world.manager)
    (stack : next.stack = world.stack) (servers : next.servers = world.servers) : next.Valid :=
  valid.of_flags (by rw [manager]) fun server =>
    (valid.looping server).same (congrArg (List.countP _) stack) (congrFun servers server)

/-- One server is changed. -/
theorem Valid.setServer (valid : world.Valid) {state : UvServer}
    (here : (world.setServer server state).Looping server) :
    (world.setServer server state).Valid := by
  refine valid.of_flags rfl fun place => ?_
  by_cases same : place = server
  · rw [same]
    exact here
  · exact (valid.looping place).same rfl (servers_setServer_ne state same)

theorem Valid.setServer_congr (valid : world.Valid) {state : UvServer}
    (closed : state.closed = (world.servers server).closed)
    (impl : state.impl = (world.servers server).impl)
    (listener : state.listener = (world.servers server).listener) :
    (world.setServer server state).Valid := by
  refine valid.setServer ((valid.looping server).congr rfl ?_ ?_ ?_) <;> rw [servers_setServer]
  · exact closed
  · exact impl
  · exact listener

theorem loops_push (world : UvClients) (rest : UvRest) (server : Nat) :
    (world.push rest).loops server =
      world.loops server + if rest.loopsOver server = true then 1 else 0 :=
  List.countP_cons

theorem loops_cons {rest : UvRest} {stack : List UvRest} (first : world.stack = rest :: stack)
    (server : Nat) : world.loops server = List.countP (UvRest.loopsOver server) stack +
      if rest.loopsOver server = true then 1 else 0 := by
  unfold loops
  rw [first]
  exact List.countP_cons

theorem Aside.loops (aside : Aside gone world next) (server : Nat) :
    next.loops server = world.loops server :=
  congrArg (List.countP _) aside.stack

theorem Aside.valid (aside : Aside gone world next) (valid : world.Valid) : next.Valid :=
  valid.of_flags aside.manager fun server =>
    (valid.looping server).same (aside.loops server) (congrFun aside.servers server)

theorem Valid.registered_iff (valid : world.Valid) :
    world.registered server client = some client ↔
      client ∈ (world.manager.clientsOf server).values :=
  valid.formed.held_iff.symm

/-- A registered client exists. -/
theorem Valid.live (valid : world.Valid)
    (held : client ∈ (world.manager.clientsOf server).values) : world.Live client := by
  refine ⟨valid.placed.created_of_held held, fun deleted => ?_⟩
  exact ((valid.placed.exclusive client).2.1 deleted).1 (ConnManager.mem_clients_of_held held)

theorem touchConn_of_live (live : world.Live client) : world.touchConn client = world :=
  if_neg live.2

/-! ## Removing a client -/

/-- A registered client has been disposed of and moved to the recycler. -/
structure Removed (server : Nat) (client : ConnRef) (iterating : Bool) (world next : UvClients) :
    Prop where
  held : client ∈ (world.manager.clientsOf server).values
  rest : next = { world.released server client iterating with manager := next.manager }
  flags : next.manager.flags = (world.disposeConnection client).manager.flags
  created : next.manager.created = world.manager.created
  recycled : client ∈ next.manager.vRecycler
  gone : forall place, client ∉ (next.manager.clientsOf place).values
  deleted : next.manager.Deleted client ↔ world.manager.Deleted client
  others : forall conn, conn ≠ client -> ConnManager.Keeps world.manager next.manager conn
  valid : next.Valid

theorem released_manager (world : UvClients) (server : Nat) (client : ConnRef) (iterating : Bool) :
    (world.released server client iterating).manager = (world.disposeConnection client).manager := by
  unfold released
  dsimp only
  split <;> rfl

theorem released_servers (world : UvClients) (server : Nat) (client : ConnRef) (iterating : Bool) :
    (world.released server client iterating).servers = world.servers := by
  unfold released
  dsimp only
  split <;> exact (world.aside_disposeConnection client).servers

theorem released_stack (world : UvClients) (server : Nat) (client : ConnRef) (iterating : Bool) :
    (world.released server client iterating).stack = world.stack := by
  unfold released
  dsimp only
  split <;> exact (world.aside_disposeConnection client).stack

theorem released_log (world : UvClients) (server : Nat) (client : ConnRef) (iterating : Bool) :
    (world.released server client iterating).log = world.log := by
  unfold released
  dsimp only
  split <;> exact (world.aside_disposeConnection client).log

theorem live_of_removed {manager after : ConnManager}
    (done : manager.onRemoveClient server client = some after) :
    client < manager.created ∧ ¬ manager.Deleted client := by
  unfold ConnManager.onRemoveClient at done
  dsimp only at done
  split at done
  · rename_i admitted
    exact ⟨admitted.1, admitted.2.1⟩
  · cases done

theorem Removed.servers {iterating : Bool} (removed : Removed server client iterating world next) :
    next.servers = world.servers := by
  rw [removed.rest]
  exact released_servers ..

theorem Removed.stack {iterating : Bool} (removed : Removed server client iterating world next) :
    next.stack = world.stack := by
  rw [removed.rest]
  exact released_stack ..

theorem Removed.log {iterating : Bool} (removed : Removed server client iterating world next) :
    next.log = world.log := by
  rw [removed.rest]
  exact released_log ..

/-- `OnRemoveClient` of a client that is not registered does nothing. -/
theorem onRemoveClient_cases (valid : world.Valid) {iterating : Bool}
    (done : world.onRemoveClient server client iterating = some next) :
    world.Live client ∧
      ((client ∉ (world.manager.clientsOf server).values ∧ next = world) ∨
        Removed server client iterating world next) := by
  have disposes := (world.aside_touchConn client).trans (aside_disposeConnection _ client)
  unfold onRemoveClient at done
  dsimp only at done
  rcases Option.map_eq_some_iff.mp done with ⟨manager, removed, rfl⟩
  have live : world.Live client := by
    split at removed
    · rw [released_manager] at removed
      exact (disposes.live client).mp (live_of_removed removed)
    · exact ((world.aside_touchConn client).live client).mp (live_of_removed removed)
  rw [touchConn_of_live live] at removed disposes ⊢
  refine ⟨live, ?_⟩
  split at removed
  · rename_i found
    rw [released_manager] at removed
    have validDisposed := disposes.valid valid
    rcases ConnManager.onRemoveClient_places validDisposed.formed validDisposed.placed removed with
      ⟨_, absent⟩ | ⟨held, created, flags, recycled, gone, deleted, _, others⟩
    · have none_ : (world.disposeConnection client).registered server client = none := absent
      rw [disposes.registered] at none_
      rw [none_] at found
      cases found
    · have here : (world.disposeConnection client).registered server client = some client := held
      rw [disposes.registered] at here
      rw [disposes.manager] at created deleted others
      rw [if_pos found]
      refine .inr ⟨valid.registered_iff.mp here, rfl, flags, created, recycled, gone, deleted, ?_, ?_⟩
      · intro conn different
        have kept := others conn different
        exact ⟨kept.deleted, kept.recycled, kept.isolated, kept.held⟩
      · refine validDisposed.of_step (.onRemoveClient server client) removed (fun place => ?_) ?_
        · refine congrArg (List.countP _) ?_
          exact (released_stack ..).trans disposes.stack.symm
        · exact (released_servers ..).trans disposes.servers.symm
  · rename_i absent
    rw [if_neg absent]
    have none_ : world.registered server client = none := by
      cases found : world.registered server client with
      | none => rfl
      | some other =>
          rw [found] at absent
          exact absurd rfl absent
    rcases ConnManager.onRemoveClient_places valid.formed valid.placed removed with
      ⟨rfl, _⟩ | ⟨held, _⟩
    · refine .inl ⟨fun held => ?_, rfl⟩
      rw [valid.registered_iff.mpr held] at none_
      cases none_
    · have here : world.registered server client = some client := held
      rw [none_] at here
      cases here

/-! ## The handlers of the disconnect event -/

/-- A connected client is told that it has lost its connection. -/
theorem onDisconnect_cases (world : UvClients) (client : ConnRef) :
    ((world.manager.flags client).bConnected = true ∧
      world.onDisconnect client = ((world.setFlags client
        { world.manager.flags client with bConnected := false }).notify client .disconnected,
          true)) ∨
    ((world.manager.flags client).bConnected = false ∧ world.onDisconnect client = (world, false)) := by
  unfold onDisconnect
  dsimp only
  split
  · next connected => exact .inl ⟨connected, rfl⟩
  · next disconnected => exact .inr ⟨Bool.eq_false_iff.mpr disconnected, rfl⟩

/-- What holds at the end of the loop of `DisposeDownStreams`, or where it stops, if
every removal without handlers keeps it. -/
theorem disposeDownStreams_cases (Kept : UvClients -> Prop)
    (visit : forall world client next, Kept world ->
      client ∈ (world.manager.clientsOf server).values ->
      (world.manager.flags client).bConnected = false ->
      (world.disposeConnection client).onRemoveClient server client true = some next -> Kept next)
    (valid : forall world, Kept world -> world.Valid) {order : List ConnEntry}
    (start : Kept world) (done : disposeDownStreams server order world = some next) :
    Exists fun last => Kept last ∧
      (next = last.setServer server { last.servers server with closed := true } ∨
        Exists fun client => Exists fun later =>
          client ∈ (last.manager.clientsOf server).values ∧
          (last.manager.flags client).bConnected = true ∧
          next = ((last.disposeConnection client).onDisconnect client).1.push
            (.disposeDownStreams server client later)) := by
  induction order generalizing world with
  | nil =>
      cases done
      exact ⟨world, start, .inl rfl⟩
  | cons entry later inductionHypothesis =>
      rw [disposeDownStreams] at done
      split at done
      · rename_i found
        have held := (valid world start).registered_iff.mp found.1
        have disposes := world.aside_disposeConnection entry.2
        rcases (world.disposeConnection entry.2).onDisconnect_cases entry.2 with
          ⟨connected, lost⟩ | ⟨disconnected, lost⟩
        · rw [disposes.connected] at connected
          rw [lost] at done
          dsimp only at done
          rw [if_pos rfl] at done
          cases done
          refine ⟨world, start, .inr ⟨entry.2, later, held, connected, ?_⟩⟩
          rw [lost]
        · rw [disposes.connected] at disconnected
          rw [lost] at done
          dsimp only at done
          rw [if_neg Bool.false_ne_true] at done
          rcases Option.bind_eq_some_iff.mp done with ⟨removed, removes, rest⟩
          exact inductionHypothesis (visit world entry.2 removed start held disconnected removes) rest
      · exact inductionHypothesis start done

/-! ## The parts of a step -/

/-- The members of the server that `Close` changes before it disposes of the clients. -/
def closing (world : UvClients) (server : Nat) : UvServer :=
  let state := world.servers server
  { state with
    tcpStreamDict := []
    impl := none
    listener :=
      if state.listener = .running then .closing () else state.listener }

/-- The loop over the clients of a server runs, and is not also on the stack. -/
structure Visits (world : UvClients) (server : Nat) : Prop extends world.Closing server where
  alone : world.loops server = 0

theorem Visits.same (visits : world.Visits server) (servers : next.servers = world.servers)
    (stack : next.stack = world.stack) : next.Visits server where
  unclosed := (congrFun servers server) ▸ visits.unclosed
  impl := (congrFun servers server) ▸ visits.impl
  listened := (congrFun servers server) ▸ visits.listened
  alone := (congrArg (List.countP _) stack).trans visits.alone

/-- `Close` frees the block of an open server. -/
theorem Valid.closing (valid : world.Valid) (open_ : (world.servers server).impl ≠ none) :
    (world.setServer server (world.closing server)).Valid := by
  refine valid.setServer ⟨?_, .inl ((valid.looping server).of_open open_)⟩
  rw [servers_setServer]
  exact fun open_ => absurd rfl open_

/-- A part of what an event does. -/
inductive Part (event : UvClientsEvent) (world : UvClients) : UvClients -> Prop
  | aside (next : UvClients) (aside : Aside none world next) : Part event world next
  | sendFailed (next : UvClients) (client : ConnRef) (sends : event = .sendRaw client false)
      (live : world.Live client) (aside : Aside (some client) world next) : Part event world next
  | implNull (client : ConnRef) (started : Bool)
      (sends : event = .sendRaw client started) (live : world.Live client)
      (null : (world.servers (world.states client).refServer).impl = none) :
      Part event world (world.fault (.implNull (world.states client).refServer))
  | unconnectable (server : Nat)
      (null : (world.servers server).impl = none)
      (listening : (world.servers server).listener = .running) :
      Part event world (world.fault (.implNull server))
  | stopped (client : ConnRef)
      (undisposed : (world.manager.flags client).bDisposed = false) :
      Part event world
        (world.setState client { world.states client with bRunning := false })
  | lost (server : Nat) (client : ConnRef)
      (undisposed : (world.manager.flags client).bDisposed = false)
      (connected : (world.manager.flags client).bConnected = true) :
      Part event world ((world.onDisconnect client).1.push (.removeClient server client))
  | removed (next : UvClients) (server : Nat) (client : ConnRef)
      (disconnected : (world.manager.flags client).bConnected = false)
      (done : world.onRemoveClient server client false = some next) : Part event world next
  | returned (clnt : Nat) (client : ConnRef) (stack : List UvRest)
      (first : world.stack = .accepted clnt client :: stack) :
      Part event world { world with stack := stack }
  | resumed (next : UvClients) (server : Nat) (client : ConnRef) (rest : UvRest)
      (stack : List UvRest) (iterating : Bool) (first : world.stack = rest :: stack)
      (names : (rest = .removeClient server client ∧ iterating = false) ∨
        Exists fun later => rest = .disposeDownStreams server client later ∧ iterating = true)
      (done : { world with stack := stack }.onRemoveClient server client iterating = some next) :
      Part event world next
  | visited (next : UvClients) (server : Nat) (client : ConnRef) (visits : world.Visits server)
      (held : client ∈ (world.manager.clientsOf server).values)
      (disconnected : (world.manager.flags client).bConnected = false)
      (done : (world.disposeConnection client).onRemoveClient server client true = some next) :
      Part event world next
  | visiting (server : Nat) (client : ConnRef) (later : List ConnEntry)
      (visits : world.Visits server)
      (held : client ∈ (world.manager.clientsOf server).values)
      (connected : (world.manager.flags client).bConnected = true) :
      Part event world (((world.disposeConnection client).onDisconnect client).1.push
        (.disposeDownStreams server client later))
  | finished (server : Nat) (visits : world.Visits server) :
      Part event world (world.setServer server { world.servers server with closed := true })
  | closing (server : Nat) (order : List ConnEntry)
      (closes : event = .closeTcpServer server order)
      (unclosed : (world.servers server).closed = false)
      (open_ : (world.servers server).impl ≠ none) :
      Part event world (world.setServer server (world.closing server))
  | opened (server : Nat) (null : (world.servers server).impl = none)
      (absent : (world.servers server).listener = .absent) :
      Part event world (world.setServer server { world.servers server with
        impl := some false
        listener := .running })
  | readied (server : Nat) (ready : Bool) :
      Part event world (world.setServer server { world.servers server with ready := ready })
  | admitted (next : UvClients) (server : Nat) (idle : world.stack = [])
      (listening : (world.servers server).listener = .running)
      (accepted : (world.newHandle.addStream server world.allocated).onAcceptClient server
        world.allocated = some next) : Part event world next
  | listenerClosed (server : Nat) (calls : event = .onServerClose server)
      (due : (world.servers server).listener.Due) :
      Part event world (world.onServerClose server)
  | iterated (idle : world.stack = []) :
      Part event world { world with inLoop := true }
  | recycled (idle : world.stack = []) : Part event world world.recycle

theorem onDisconnect_manager (world : UvClients) (client : ConnRef) :
    (world.onDisconnect client).1.manager =
      { world.manager with flags := (world.onDisconnect client).1.manager.flags } := by
  rcases world.onDisconnect_cases client with ⟨_, lost⟩ | ⟨_, lost⟩
  · rw [lost]
    rfl
  · rw [lost]

theorem onDisconnect_servers (world : UvClients) (client : ConnRef) :
    (world.onDisconnect client).1.servers = world.servers := by
  rcases world.onDisconnect_cases client with ⟨_, lost⟩ | ⟨_, lost⟩ <;> rw [lost]
  rfl

theorem onDisconnect_stack (world : UvClients) (client : ConnRef) :
    (world.onDisconnect client).1.stack = world.stack := by
  rcases world.onDisconnect_cases client with ⟨_, lost⟩ | ⟨_, lost⟩ <;> rw [lost]
  rfl

/-- The handlers of a disconnect event are called. -/
theorem Valid.disconnecting (valid : world.Valid) {rest : UvRest}
    (alone : forall server, rest.loopsOver server = true -> world.Visits server) :
    ((world.onDisconnect client).1.push rest).Valid := by
  refine valid.of_flags (world.onDisconnect_manager client) fun server => ?_
  have loops : ((world.onDisconnect client).1.push rest).loops server =
      world.loops server + if rest.loopsOver server = true then 1 else 0 := by
    rw [loops_push]
    exact congrArg (fun stack => List.countP _ stack + _) (world.onDisconnect_stack client)
  have servers : ((world.onDisconnect client).1.push rest).servers = world.servers :=
    world.onDisconnect_servers client
  by_cases looping : rest.loopsOver server = true
  · have visits := alone server looping
    rw [if_pos looping, visits.alone] at loops
    refine ⟨?_, .inr ⟨loops, ?_, ?_, ?_⟩⟩ <;> rw [servers]
    · exact (valid.looping server).listened
    · exact visits.unclosed
    · exact visits.impl
    · exact visits.listened
  · rw [if_neg looping] at loops
    exact (valid.looping server).same loops (congrFun servers server)

/-- The handlers of an event have returned. -/
theorem Valid.popped (valid : world.Valid) {rest : UvRest} {stack : List UvRest}
    (first : world.stack = rest :: stack) : Valid { world with stack := stack } := by
  refine valid.of_flags rfl fun server => ⟨(valid.looping server).listened, ?_⟩
  have loops := loops_cons first server
  rcases (valid.looping server).once with none_ | ⟨one, closing⟩
  · left
    change List.countP _ stack = 0
    omega
  · by_cases looping : rest.loopsOver server = true
    · left
      rw [if_pos looping] at loops
      change List.countP _ stack = 0
      omega
    · right
      rw [if_neg looping] at loops
      refine ⟨?_, closing.unclosed, closing.impl, closing.listened⟩
      change List.countP _ stack = 1
      omega

/-- The loop that is resumed is not on the stack any more. -/
theorem Valid.resumes (valid : world.Valid) {later : List ConnEntry} {stack : List UvRest}
    (first : world.stack = .disposeDownStreams server client later :: stack) :
    Visits { world with stack := stack } server := by
  have loops := loops_cons first server
  rw [show UvRest.loopsOver server (.disposeDownStreams server client later) = true from
    beq_self_eq_true server, if_pos rfl] at loops
  rcases (valid.looping server).once with none_ | ⟨one, closing⟩
  · omega
  · refine ⟨⟨closing.unclosed, closing.impl, closing.listened⟩, ?_⟩
    change List.countP _ stack = 0
    omega

theorem Visits.onRemoveClient (visits : world.Visits server) (valid : world.Valid) {place : Nat}
    {iterating : Bool} (done : world.onRemoveClient place client iterating = some next) :
    next.Visits server := by
  rcases onRemoveClient_cases valid done with ⟨_, ⟨_, rfl⟩ | removed⟩
  · exact visits
  · exact visits.same removed.servers removed.stack

theorem Valid.onRemoveClient (valid : world.Valid) {iterating : Bool}
    (done : world.onRemoveClient server client iterating = some next) : next.Valid := by
  rcases onRemoveClient_cases valid done with ⟨_, ⟨_, rfl⟩ | removed⟩
  · exact valid
  · exact removed.valid

/-- The factory with a client that has just been told that it is connected. -/
def admittedWith (world : UvClients) (server : Nat) (manager : ConnManager) : UvClients :=
  let client := world.manager.created
  let state := world.servers server
  { world.newHandle with
    manager := { manager with
      flags := Function.update manager.flags client
        { manager.flags client with bConnected := true } }
    states := Function.update world.states client ⟨server, true, some world.allocated, true⟩
    servers := Function.update world.servers server { state with
      tcpStreamDict := (state.tcpStreamDict ++ [world.allocated]).erase world.allocated }
    log := world.log ++ [(client, .connected)]
    stack := .accepted world.allocated client :: world.stack }

section AdmittedWith

variable (world : UvClients) (server : Nat) (manager : ConnManager)

theorem states_admittedWith : (world.admittedWith server manager).states world.manager.created =
    ⟨server, true, some world.allocated, true⟩ :=
  Function.update_self ..

theorem states_admittedWith_ne (old : client ≠ world.manager.created) :
    (world.admittedWith server manager).states client = world.states client :=
  Function.update_of_ne old ..

theorem handles_admittedWith : (world.admittedWith server manager).handles world.allocated =
    ⟨true, none, .running, 0, 0⟩ :=
  Function.update_self ..

theorem handles_admittedWith_ne (old : clnt ≠ world.allocated) :
    (world.admittedWith server manager).handles clnt = world.handles clnt :=
  Function.update_of_ne old ..

theorem servers_admittedWith_ne {place : Nat} (elsewhere : place ≠ server) :
    (world.admittedWith server manager).servers place = world.servers place :=
  Function.update_of_ne elsewhere ..

/-- The stream has been removed from the dictionary again. -/
theorem tcpStreamDict_admittedWith (empty : (world.servers server).tcpStreamDict = []) :
    ((world.admittedWith server manager).servers server).tcpStreamDict = [] := by
  unfold admittedWith
  dsimp only
  rw [Function.update_self, empty]
  exact List.erase_cons_head ..

end AdmittedWith

/-- A new stream is found in the dictionary, and a new client hears of its connection. -/
theorem onAcceptClient_cases
    (done : (world.newHandle.addStream server world.allocated).onAcceptClient server
      world.allocated = some next) :
    Exists fun manager => world.manager.createTcpClientOnServer server = some manager ∧
      manager.flags = Function.update world.manager.flags world.manager.created (.initial false) ∧
      next = world.admittedWith server manager := by
  rcases Option.map_eq_some_iff.mp done with ⟨manager, created, accepted⟩
  have flags : manager.flags =
      Function.update world.manager.flags world.manager.created (.initial false) := by
    simp only [ConnManager.createTcpClientOnServer, ConnManager.onAddClient] at created
    split at created
    · cases created
      rfl
    · cases created
  refine ⟨manager, created, flags, ?_⟩
  have fresh : (manager.flags world.manager.created).bConnected = false := by
    rw [flags, Function.update_self]
    rfl
  have member : world.allocated ∈ (world.servers server).tcpStreamDict ++ [world.allocated] :=
    List.mem_append_right _ (List.mem_singleton_self _)
  rw [← accepted]
  simp only [addStream, newHandle, confirmClientIsReady, removeStream, setServer,
    Function.update_self, member, if_true, setState, onConnect, fresh, Function.update_idem]
  rfl

/-- Every part keeps what holds of the manager. -/
theorem Valid.part {event : UvClientsEvent} (valid : world.Valid) (part : Part event world next) :
    next.Valid := by
  cases part with
  | aside _ aside => exact aside.valid valid
  | sendFailed _ client sends live aside => exact aside.valid valid
  | implNull client started sends live null => exact valid.same rfl rfl rfl
  | unconnectable server null listening => exact valid.same rfl rfl rfl
  | stopped client undisposed => exact valid.same rfl rfl rfl
  | lost server client undisposed connected =>
      exact valid.disconnecting fun _ impossible => Bool.noConfusion impossible
  | removed _ server client disconnected done => exact valid.onRemoveClient done
  | returned clnt client stack first => exact valid.popped first
  | resumed _ server client rest stack iterating first names done =>
      exact (valid.popped first).onRemoveClient done
  | visited _ server client visits held disconnected done =>
      exact ((world.aside_disposeConnection client).valid valid).onRemoveClient done
  | visiting server client later visits held connected =>
      have disposes := world.aside_disposeConnection client
      refine (disposes.valid valid).disconnecting fun place looping => ?_
      rw [← (eq_of_beq looping : server = place)]
      exact visits.same disposes.servers disposes.stack
  | finished server visits =>
      refine valid.setServer ⟨?_, .inl visits.alone⟩
      rw [servers_setServer]
      exact (valid.looping server).listened
  | closing server order closes unclosed open_ => exact valid.closing open_
  | opened server null absent =>
      refine valid.setServer ⟨?_, .inl ?_⟩
      · rw [servers_setServer]
        nofun
      · exact (valid.looping server).once.resolve_right fun one => one.2.listened absent
  | readied server ready =>
      exact valid.setServer_congr rfl rfl rfl
  | admitted _ server idle listening accepted =>
      rcases onAcceptClient_cases accepted with ⟨manager, created, _, rfl⟩
      have grown : Valid { world with manager := manager } :=
        valid.of_step (.createTcpClientOnServer server) created (fun _ => rfl) rfl
      have streamed : Valid ({ world with manager := manager }.setServer server
          { world.servers server with
            tcpStreamDict :=
              ((world.servers server).tcpStreamDict ++ [world.allocated]).erase world.allocated }) :=
        grown.setServer_congr rfl rfl rfl
      refine streamed.of_flags rfl fun place => (streamed.looping place).same ?_ rfl
      exact (loops_push _ (.accepted world.allocated world.manager.created) place).trans rfl
  | listenerClosed server calls due =>
      unfold onServerClose
      dsimp only
      have looping := valid.looping server
      split
      · have called : (world.setServer server
            { world.servers server with listener := .closed }).Valid := by
          refine valid.setServer ⟨?_, looping.once.imp_right fun one => ⟨one.1, ?_, ?_, ?_⟩⟩ <;>
            rw [servers_setServer]
          · nofun
          · exact one.2.unclosed
          · exact one.2.impl
          · nofun
        exact called.same rfl rfl rfl
      · rename_i open_
        refine valid.setServer ⟨?_, .inl (looping.of_open fun null => ?_)⟩
        · rw [servers_setServer]
          nofun
        · exact open_ (Option.isNone_iff_eq_none.mpr null)
  | iterated idle => exact valid.same rfl rfl rfl
  | recycled idle =>
      have swept : Valid { world with manager := world.manager.recycle, inLoop := false } :=
        valid.of_step .recycle rfl (fun _ => rfl) rfl
      exact (Aside.foldl deleteClient (fun world client => world.aside_deleteClient client) _ _).valid
        swept

/-! ## Steps and their parts -/

open Relation (ReflTransGen)

variable {event : UvClientsEvent}

theorem parts_aside (aside : Aside none world next) : ReflTransGen (Part event) world next :=
  .single (.aside next aside)

theorem parts_disposeDownStreams (valid : world.Valid) (visits : world.Visits server)
    {order : List ConnEntry} (done : disposeDownStreams server order world = some next) :
    ReflTransGen (Part event) world next := by
  have ends := disposeDownStreams_cases
    (fun state => state.Valid ∧ state.Visits server ∧ ReflTransGen (Part event) world state) ?_
    (fun _ => And.left) ⟨valid, visits, .refl⟩ done
  · rcases ends with ⟨last, ⟨_, visitsLast, parts⟩, rfl | ⟨client, later, held, connected, rfl⟩⟩
    · exact parts.tail (.finished server visitsLast)
    · exact parts.tail (.visiting server client later visitsLast held connected)
  · rintro state client after ⟨validState, visitsState, parts⟩ held disconnected removes
    have visit : Part event state after :=
      .visited after server client visitsState held disconnected removes
    have disposes := state.aside_disposeConnection client
    refine ⟨validState.part visit, ?_, parts.tail visit⟩
    exact (visitsState.same disposes.servers disposes.stack).onRemoveClient
      (disposes.valid validState) removes

theorem parts_disconnect (done : world.disconnect client = some next) :
    ReflTransGen (Part event) world next := by
  refine (parts_aside (world.aside_touchConn client)).trans ?_
  unfold disconnect at done
  dsimp only at done
  split at done
  · rename_i runs
    rw [Bool.and_eq_true, Bool.not_eq_true'] at runs
    have stops : Part event (world.touchConn client) _ := .stopped client runs.1
    refine .head stops ?_
    rcases onDisconnect_cases ((world.touchConn client).setState client
        { (world.touchConn client).states client with bRunning := false }) client with
      ⟨connected, lost⟩ | ⟨disconnected, lost⟩
    · rw [if_pos (congrArg Prod.snd lost)] at done
      cases done
      exact .single (.lost _ client runs.1 connected)
    · rw [lost] at done
      exact .single (.removed next _ client disconnected done)
  · cases done
    exact .refl

theorem parts_failHandle (done : world.failHandle clnt = some next) :
    ReflTransGen (Part event) world next := by
  refine (parts_aside (world.aside_touchHandle clnt)).trans ?_
  unfold failHandle at done
  dsimp only at done
  split at done
  · exact parts_disconnect done
  · cases done
    exact parts_aside (aside_dropHandle ..)

/-- `SendRaw` follows the pointer to the block before anything else of the server, and
disposes of the client where `uv_write` does not start. -/
theorem sendRaw_cases {client : ConnRef} {started : Bool} (live : world.Live client)
    (done : world.sendRaw client started = some next) :
    ((world.servers (world.states client).refServer).impl = none ∧
      next = world.fault (.implNull (world.states client).refServer)) ∨
    ((world.servers (world.states client).refServer).impl ≠ none ∧
      Aside (if started then none else some client) world next) := by
  unfold sendRaw at done
  rw [touchConn_of_live live] at done
  dsimp only at done
  split at done
  · cases done
  · rename_i clnt _
    have touched := world.aside_touchHandle clnt
    split at done
    · rename_i null
      cases done
      exact .inl ⟨Option.isNone_iff_eq_none.mp null, rfl⟩
    · rename_i open_
      right
      refine ⟨fun null => open_ (Option.isNone_iff_eq_none.mpr null), ?_⟩
      split at done
      · cases started with
        | true =>
            cases done
            exact touched.trans (aside_setHandle ..)
        | false =>
            cases done
            exact touched.trans (aside_disposeConnection ..)
      · cases done

theorem parts_sendRaw {started : Bool} (sends : event = .sendRaw client started)
    (live : world.Live client) (done : world.sendRaw client started = some next) :
    ReflTransGen (Part event) world next := by
  rcases sendRaw_cases live done with ⟨null, rfl⟩ | ⟨_, aside⟩
  · exact .single (.implNull client started sends live null)
  · cases started with
    | true => exact parts_aside aside
    | false => exact .single (.sendFailed _ client sends live aside)

theorem parts_onConnection {created : Bool} (idle : world.stack = [])
    (listening : (world.servers server).listener = .running)
    (done : world.onConnection server created = some next) :
    ReflTransGen (Part event) world next := by
  unfold onConnection at done
  dsimp only at done
  split at done
  · rename_i null
    cases done
    exact .single (.unconnectable server (Option.isNone_iff_eq_none.mp null) listening)
  · split at done
    · split at done
      · exact .single (.admitted next server idle listening done)
      · cases done
        exact parts_aside (world.aside_newHandle.trans (aside_rejected ..))
    · cases done
      exact .refl

theorem disposeListener_cases {dropped cleared : UvClients} {state : UvServer}
    (here : dropped.servers server = state)
    (done : (dropped.setServer server { state with
      tcpStreamDict := []
      impl := state.impl.map fun _ => true }).disposeListener server = some cleared) :
    (dropped.servers server).impl ≠ none ∧
      cleared = dropped.setServer server (dropped.closing server) := by
  subst here
  unfold disposeListener at done
  dsimp only at done
  rw [servers_setServer] at done
  split at done
  · rename_i held
    refine ⟨fun null => ?_, ?_⟩
    · rw [null] at held
      cases held
    · cases done
      unfold setServer closing
      simp only [Function.update_idem]
  · cases done

/-- `Close` of a server that has not been closed drops the streams, frees the block and
goes on to the clients. -/
theorem close_cases {order : List ConnEntry} (unclosed : (world.servers server).closed = false)
    (done : world.close server order = some next) :
    order.Perm (world.manager.clientsOf server).entries ∧ Exists fun dropped =>
      Aside none world dropped ∧ (world.servers server).impl ≠ none ∧
      disposeDownStreams server order (dropped.setServer server (dropped.closing server)) =
        some next := by
  unfold close at done
  dsimp only at done
  split at done
  · rename_i closed
    rw [unclosed] at closed
    cases closed
  · split at done
    · rename_i iterates
      have drops := Aside.foldl dropStream (fun state clnt => state.aside_dropStream clnt)
        (world.servers server).tcpStreamDict world
      rcases Option.bind_eq_some_iff.mp done with ⟨cleared, disposes, loop⟩
      have same := congrFun drops.servers server
      rcases disposeListener_cases same disposes with ⟨open_, rfl⟩
      rw [same] at open_
      exact ⟨iterates, _, drops, open_, loop⟩
    · cases done

/-- `Close` comes to the loop over the clients. -/
theorem Valid.visits (valid : world.Valid) (unclosed : (world.servers server).closed = false)
    (open_ : (world.servers server).impl ≠ none) :
    (world.setServer server (world.closing server)).Visits server := by
  have looping := valid.looping server
  refine ⟨⟨?_, ?_, ?_⟩, looping.of_open open_⟩ <;> rw [servers_setServer]
  · exact unclosed
  · rfl
  · change (if _ then _ else _) ≠ _
    split
    · nofun
    · exact looping.listened open_

theorem parts_close (valid : world.Valid) {order : List ConnEntry}
    (closes : event = .closeTcpServer server order)
    (done : world.close server order = some next) : ReflTransGen (Part event) world next := by
  cases closed : (world.servers server).closed with
  | true =>
      unfold close at done
      dsimp only at done
      rw [if_pos closed] at done
      cases done
      exact .refl
  | false =>
      rcases close_cases closed done with ⟨_, dropped, drops, open_, loop⟩
      rw [← congrFun drops.servers server] at closed open_
      have closing := Part.closing server order closes closed open_
      refine (parts_aside drops).trans (.head closing ?_)
      have visits : (dropped.setServer server (dropped.closing server)).Visits server :=
        (drops.valid valid).visits closed open_
      exact parts_disposeDownStreams ((drops.valid valid).part closing) visits loop

theorem callback_eq_some {due : Prop} [Decidable due] {call : Option UvClients}
    (done : world.callback due call = some next) :
    (world.stack = [] ∧ due) ∧ call = some next := by
  unfold callback at done
  split at done
  · rename_i idle
    exact ⟨idle.2, done⟩
  · cases done

theorem parts_handlersReturn (valid : world.Valid) (done : world.perform .handlersReturn = some next) :
    ReflTransGen (Part event) world next := by
  unfold perform at done
  dsimp only at done
  split at done
  · cases done
  · rename_i rest stack first
    cases rest with
    | accepted clnt client =>
        cases done
        refine .head (.returned clnt client stack first) (parts_aside (aside_accepted ..))
    | removeClient server client =>
        exact .single (.resumed next server client _ stack false first (.inl ⟨rfl, rfl⟩) done)
    | disposeDownStreams server client later =>
        rcases Option.bind_eq_some_iff.mp done with ⟨removed, removes, loop⟩
        have resume : Part event world removed :=
          .resumed removed server client _ stack true first (.inr ⟨later, rfl, rfl⟩) removes
        have visits := (valid.resumes first).onRemoveClient (valid.popped first) removes
        exact .head resume (parts_disposeDownStreams (valid.part resume) visits loop)

/-- Every step is made of parts. -/
theorem parts_of_step (valid : world.Valid) (step : world.Step event next) :
    ReflTransGen (Part event) world next := by
  unfold Step at step
  cases event with
  | openTcpServer server started =>
      unfold perform openServer at step
      dsimp only at step
      split at step
      · rename_i unopened
        split at step
        · cases step
          exact .single (.opened server unopened.1 unopened.2)
        · cases step
          exact .refl
      · cases step
  | setReady server ready =>
      cases step
      exact .single (.readied server ready)
  | closeTcpServer server order => exact parts_close valid rfl step
  | disconnect client =>
      rcases Option.ite_none_right_eq_some.mp step with ⟨_, done⟩
      exact parts_disconnect done
  | sendRaw client started =>
      rcases Option.ite_none_right_eq_some.mp step with ⟨live, done⟩
      exact parts_sendRaw rfl live done
  | handlersReturn => exact parts_handlersReturn valid step
  | onConnection server created =>
      rcases callback_eq_some step with ⟨⟨idle, listening⟩, done⟩
      exact parts_onConnection idle listening done
  | onClientRead clnt outcome =>
      rcases callback_eq_some step with ⟨_, done⟩
      have touched := world.aside_touchHandle clnt
      cases outcome with
      | ended => exact parts_failHandle done
      | failed =>
          cases done
          exact parts_aside touched
      | data =>
          cases done
          refine parts_aside (touched.trans ?_)
          cases ((world.touchHandle clnt).handles clnt).connimpl with
          | none => exact .refl _
          | some client => exact aside_touchConn ..
  | onClientWrite clnt status =>
      rcases callback_eq_some step with ⟨_, done⟩
      cases status with
      | written =>
          cases done
          exact parts_aside (aside_setHandle ..)
      | failed ioPending =>
          cases ioPending with
          | true =>
              cases done
              exact parts_aside (aside_setHandle ..)
          | false =>
              rcases Option.map_eq_some_iff.mp done with ⟨failed, fails, rfl⟩
              exact (parts_failHandle fails).trans (parts_aside (aside_setHandle ..))
  | onStreamClosed clnt =>
      rcases callback_eq_some step with ⟨_, done⟩
      cases done
      exact parts_aside (world.aside_onStreamClosed clnt)
  | onServerClose server =>
      rcases callback_eq_some step with ⟨⟨_, due⟩, done⟩
      cases done
      exact .single (.listenerClosed server rfl due)
  | runOnce =>
      rcases Option.ite_none_right_eq_some.mp step with ⟨idle, done⟩
      cases done
      exact .single (.iterated idle.2)
  | recycle =>
      rcases Option.ite_none_right_eq_some.mp step with ⟨idle, done⟩
      cases done
      exact .single (.recycled idle)

/-- What every part keeps holds at the end of any parts. -/
theorem kept_of_parts (Kept : UvClients -> Prop)
    (keep : forall before after, before.Valid -> Kept before -> Part event before after -> Kept after)
    (valid : world.Valid) (start : Kept world) (parts : ReflTransGen (Part event) world next) :
    next.Valid ∧ Kept next := by
  induction parts with
  | refl => exact ⟨valid, start⟩
  | tail _ part inductionHypothesis =>
      exact ⟨inductionHypothesis.1.part part, keep _ _ inductionHypothesis.1 inductionHypothesis.2 part⟩

/-- What every part keeps is kept by every step. -/
theorem invariant_of_parts (Kept : UvClients -> Prop)
    (keep : forall before after, before.Valid -> Kept before -> Part event before after -> Kept after)
    (valid : world.Valid) (start : Kept world) (step : world.Step event next) :
    next.Valid ∧ Kept next :=
  kept_of_parts Kept keep valid start (parts_of_step valid step)

theorem Valid.step (valid : world.Valid) (step : world.Step event next) : next.Valid :=
  (invariant_of_parts (fun _ => True) (fun _ _ _ _ _ => trivial) valid trivial step).1

theorem initial_valid : initial.Valid where
  formed := ConnManager.initial_formed
  placed := ConnManager.initial_placed
  looping := fun _ => ⟨fun open_ => absurd rfl open_, .inl rfl⟩

end UvClients
end NetSystem
