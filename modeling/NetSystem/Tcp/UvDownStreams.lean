import NetSystem.Tcp.UvListener

namespace NetSystem

/-!
# The loop over the clients of a Uv server

`AddClientDisconnectCb` of the Uv factory calls `OnDisconnect` and `OnRemoveClient` at
once, which erases the client from the map that `DisposeDownStreams` iterates over.  The
iteration stands on this very element, whether the loop body erases it or a handler of
the disconnect event has disconnected the client before.  So the iteration survives
exactly where there is nothing to iterate over.
-/

namespace UvClients

variable {world next last : UvClients} {server place : Nat} {client : ConnRef}
  {event : UvClientsEvent}

/-- The element that an iteration over the clients of the server stood on was erased. -/
def ErasedCurrent (server : Nat) (world : UvClients) : Prop :=
  Exists fun client => .erasedCurrent server client ∈ world.faults

/-- An iteration over the clients of the server stands on a client that is registered. -/
def StandsOnClient (server : Nat) (world : UvClients) : Prop :=
  Exists fun client => Exists fun later =>
    .disposeDownStreams server client later ∈ world.stack ∧
      client ∈ (world.manager.clientsOf server).values

/-! ## What a part of a step does to the iteration -/

/-- An element is erased under an iteration only while the server is closed, and an
iteration that stands on a client goes on only after its erasure. -/
structure Onward (server : Nat) (world next : UvClients) : Prop where
  closed : (world.servers server).closed = true -> (next.servers server).closed = true
  stays : ErasedCurrent server world -> ErasedCurrent server next
  erased : ErasedCurrent server next -> ErasedCurrent server world ∨ world.Closing server
  current : StandsOnClient server world -> ErasedCurrent server next ∨ StandsOnClient server next

/-- Nothing is erased under an iteration. -/
theorem Onward.of_kept
    (closed : (world.servers server).closed = true -> (next.servers server).closed = true)
    (faults : ErasedCurrent server next ↔ ErasedCurrent server world)
    (current : StandsOnClient server world -> StandsOnClient server next) :
    Onward server world next :=
  ⟨closed, faults.mpr, fun erased => .inl (faults.mp erased), fun stands => .inr (current stands)⟩

theorem StandsOnClient.mono (stands : StandsOnClient server world)
    (stack : forall rest, rest.loopsOver server = true -> rest ∈ world.stack -> rest ∈ next.stack)
    (clients : next.manager.clientsOf server = world.manager.clientsOf server) :
    StandsOnClient server next := by
  rcases stands with ⟨client, later, member, held⟩
  exact ⟨client, later, stack _ (beq_self_eq_true server) member, clients ▸ held⟩

theorem Aside.onward {gone : Option ConnRef} (aside : Aside gone world next) (server : Nat) :
    Onward server world next := by
  refine .of_kept (fun closed => (congrFun aside.servers server) ▸ closed) ?_ fun stands => ?_
  · exact exists_congr fun client => aside.mem_faults rfl
  · exact stands.mono (fun _ _ member => aside.stack ▸ member) (aside.clientsOf server)

theorem erasedCurrent_fault (world : UvClients) {fault : UvFault}
    (other : forall client, .erasedCurrent server client ≠ fault) :
    ErasedCurrent server (world.fault fault) ↔ ErasedCurrent server world := by
  refine exists_congr fun client => ?_
  change _ ∈ world.faults ++ [fault] ↔ _
  rw [List.mem_append, List.mem_singleton, or_iff_left (other client)]

theorem onward_fault (world : UvClients) {fault : UvFault}
    (other : forall client, .erasedCurrent server client ≠ fault) :
    Onward server world (world.fault fault) :=
  .of_kept id (world.erasedCurrent_fault other) id

theorem onward_setServer (world : UvClients) {state : UvServer}
    (closed : place = server -> (world.servers server).closed = true -> state.closed = true) :
    Onward server world (world.setServer place state) := by
  refine .of_kept (fun before => ?_) Iff.rfl id
  by_cases here : server = place
  · subst here
    rw [servers_setServer]
    exact closed rfl before
  · rw [servers_setServer_ne state here]
    exact before

theorem onward_disconnecting (world : UvClients) (client : ConnRef) (rest : UvRest) :
    Onward server world ((world.onDisconnect client).1.push rest) := by
  have servers : ((world.onDisconnect client).1.push rest).servers = world.servers :=
    world.onDisconnect_servers client
  have faults : ((world.onDisconnect client).1.push rest).faults = world.faults := by
    rcases world.onDisconnect_cases client with ⟨_, lost⟩ | ⟨_, lost⟩ <;> rw [lost] <;> rfl
  have manager := world.onDisconnect_manager client
  have stack := world.onDisconnect_stack client
  refine .of_kept (fun closed => (congrFun servers server) ▸ closed) ?_ fun stands => ?_
  · exact exists_congr fun other => by rw [faults]
  · refine stands.mono (fun _ _ member => List.mem_cons_of_mem _ (stack ▸ member)) ?_
    change (world.onDisconnect client).1.manager.clientsOf server = _
    rw [manager]
    rfl

/-- A client is removed while an iteration stands on it or on another one. -/
theorem onward_onRemoveClient (valid : world.Valid) (server : Nat) {iterating : Bool}
    (closing : iterating = true -> world.Closing place)
    (done : world.onRemoveClient place client iterating = some next) :
    Onward server world next ∧ (iterating = true -> place = server ->
      client ∈ (world.manager.clientsOf server).values -> ErasedCurrent server next) := by
  rcases onRemoveClient_cases valid done with ⟨_, ⟨absent, rfl⟩ | removed⟩
  · refine ⟨(Aside.refl next).onward server, fun _ here held => absurd held ?_⟩
    rw [← here]
    exact absent
  · have disposes := world.aside_disposeConnection client
    have servers := removed.servers
    have stack := removed.stack
    have faults : next.faults = (world.released place client iterating).faults := by
      rw [removed.rest]
    unfold released at faults
    dsimp only at faults
    rw [disposes.stack] at faults
    split at faults
    · rename_i current
      have recorded : .erasedCurrent place client ∈ next.faults := by
        rw [faults]
        exact List.mem_append_right _ (List.mem_singleton_self _)
      have closes : world.Closing place := by
        rcases (Bool.or_eq_true _ _).mp current with iterates | stands
        · exact closing iterates
        · refine ((valid.looping place).once.resolve_left fun none_ => ?_).2
          rcases List.any_eq_true.mp stands with ⟨rest, member, standsOn⟩
          refine (List.countP_eq_zero.mp none_) rest member ?_
          cases rest with
          | disposeDownStreams _ _ _ => exact ((Bool.and_eq_true _ _).mp standsOn).1
          | accepted _ _ => cases standsOn
          | removeClient _ _ => cases standsOn
      refine ⟨⟨?_, ?_, ?_, ?_⟩, fun _ here _ => ⟨client, here ▸ recorded⟩⟩
      · exact fun closed => (congrFun servers server) ▸ closed
      · rintro ⟨other, member⟩
        rw [← disposes.mem_faults rfl] at member
        exact ⟨other, faults ▸ List.mem_append_left _ member⟩
      · rintro ⟨other, member⟩
        rw [faults] at member
        rcases List.mem_append.mp member with before | here
        · exact .inl ⟨other, (disposes.mem_faults rfl).mp before⟩
        · right
          have same := UvFault.erasedCurrent.inj (List.mem_singleton.mp here)
          rw [same.1]
          exact closes
      · rintro ⟨other, later, member, held⟩
        by_cases same : other = client
        · left
          rw [same] at held
          rw [valid.placed.server_unique held removed.held] at recorded
          exact ⟨client, recorded⟩
        · right
          exact ⟨other, later, stack ▸ member, ((removed.others other same).held server).mpr held⟩
    · rename_i elsewhere
      rw [Bool.not_eq_true, Bool.or_eq_false_iff] at elsewhere
      have same : ErasedCurrent server next ↔ ErasedCurrent server world :=
        exists_congr fun other => by rw [faults, disposes.mem_faults rfl]
      refine ⟨.of_kept (fun closed => (congrFun servers server) ▸ closed) same ?_, ?_⟩
      · rintro ⟨other, later, member, held⟩
        have different : other ≠ client := by
          rintro rfl
          rw [valid.placed.server_unique held removed.held] at elsewhere
          have stands := List.any_eq_false.mp elsewhere.2 _ member
          refine stands ?_
          exact (Bool.and_eq_true _ _).mpr ⟨beq_self_eq_true server, beq_self_eq_true other⟩
        exact ⟨other, later, stack ▸ member, ((removed.others other different).held server).mpr held⟩
      · intro iterates
        rw [elsewhere.1] at iterates
        cases iterates

theorem Onward.trans {middle : UvClients} (first : Onward server world middle)
    (second : Onward server middle next) (servers : middle.servers = world.servers) :
    Onward server world next where
  closed := fun closed => second.closed (first.closed closed)
  stays := fun erased => second.stays (first.stays erased)
  erased := by
    intro erased
    rcases second.erased erased with before | closing
    · exact first.erased before
    · have same := congrFun servers server
      exact .inr (closing.congr (by rw [same]) (by rw [same]) (by rw [same]))
  current := by
    intro stands
    rcases first.current stands with erased | standsMiddle
    · exact .inl (second.stays erased)
    · exact second.current standsMiddle

theorem onward_onServerClose (world : UvClients) (place : Nat) :
    Onward server world (world.onServerClose place) := by
  have kept : place = server -> (world.servers server).closed = true ->
      (world.servers place).closed = true := by
    rintro rfl closed
    exact closed
  unfold onServerClose
  dsimp only
  split
  · refine .of_kept (fun closed => ?_) (erasedCurrent_fault _ nofun) id
    change ((world.setServer place _).servers server).closed = true
    refine (onward_setServer world ?_).closed closed
    exact kept
  · exact onward_setServer world kept

/-- What handlers return to is taken off the stack. -/
theorem onward_popped {rest : UvRest} {stack : List UvRest} (first : world.stack = rest :: stack)
    (other : rest.loopsOver server = false) :
    Onward server world { world with stack := stack } := by
  refine .of_kept id Iff.rfl fun stands => stands.mono (fun frame looping member => ?_) rfl
  rw [first] at member
  rcases List.mem_cons.mp member with same | later
  · rw [same, other] at looping
    cases looping
  · exact later

/-- The iteration that is resumed erases the client it stands on. -/
theorem onward_resumed (valid : world.Valid) {later : List ConnEntry} {stack : List UvRest}
    (first : world.stack = .disposeDownStreams place client later :: stack)
    (done : { world with stack := stack }.onRemoveClient place client true = some next) :
    Onward server world next := by
  have visits := valid.resumes first
  have removes := onward_onRemoveClient (valid.popped first) server
    (fun _ => visits.toClosing) done
  refine ⟨removes.1.closed, removes.1.stays, fun erased => ?_, ?_⟩
  · exact (removes.1.erased erased).imp_right fun closing => closing.congr rfl rfl rfl
  · rintro ⟨other, remaining, member, held⟩
    rw [first] at member
    rcases List.mem_cons.mp member with same | below
    · rcases UvRest.disposeDownStreams.inj same with ⟨rfl, rfl, rfl⟩
      exact .inl (removes.2 rfl rfl held)
    · exact removes.1.current ⟨other, remaining, below, held⟩

theorem onward_removed (valid : world.Valid)
    (done : world.onRemoveClient place client false = some next) : Onward server world next :=
  (onward_onRemoveClient valid server (fun impossible => Bool.noConfusion impossible) done).1

theorem onward_of_part (valid : world.Valid) (server : Nat) (part : Part event world next) :
    Onward server world next := by
  cases part with
  | aside _ aside => exact aside.onward server
  | sendFailed _ client sends live aside => exact aside.onward server
  | implNull client started sends live null => exact onward_fault world nofun
  | unconnectable place null listening => exact onward_fault world nofun
  | stopped client undisposed => exact .of_kept id Iff.rfl id
  | lost place client undisposed connected => exact onward_disconnecting world client _
  | removed _ place client disconnected done => exact (onward_removed valid done)
  | returned clnt client stack first => exact onward_popped first rfl
  | resumed _ place client rest stack iterating first names done =>
      rcases names with ⟨rfl, rfl⟩ | ⟨later, rfl, rfl⟩
      · exact (onward_popped first rfl).trans (onward_removed (valid.popped first) done) rfl
      · exact onward_resumed valid first done
  | visited _ place client visits held disconnected done =>
      have disposes := world.aside_disposeConnection client
      have visitsDisposed := visits.same disposes.servers disposes.stack
      exact (disposes.onward server).trans (onward_onRemoveClient (disposes.valid valid) server
        (fun _ => visitsDisposed.toClosing) done).1 disposes.servers
  | visiting place client later visits held connected =>
      have disposes := world.aside_disposeConnection client
      exact (disposes.onward server).trans (onward_disconnecting _ client _) disposes.servers
  | finished place visits => exact onward_setServer world fun _ _ => rfl
  | closing place order closes unclosed open_ =>
      refine onward_setServer world ?_
      rintro rfl closed
      exact closed
  | opened place null absent =>
      refine onward_setServer world ?_
      rintro rfl closed
      exact closed
  | readied place ready =>
      refine onward_setServer world ?_
      rintro rfl closed
      exact closed
  | admitted _ place idle listening accepted =>
      rcases onAcceptClient_cases accepted with ⟨manager, created, _, rfl⟩
      refine .of_kept ?_ Iff.rfl ?_
      · refine (onward_setServer world ?_).closed
        rintro rfl closed
        exact closed
      · rintro ⟨client, later, member, _⟩
        rw [idle] at member
        cases member
  | listenerClosed place calls due => exact onward_onServerClose world place
  | iterated idle => exact .of_kept id Iff.rfl id
  | recycled idle =>
      have swept : Onward server world
          { world with manager := world.manager.recycle, inLoop := false } :=
        .of_kept id Iff.rfl fun stands => stands.mono (fun _ _ => id) rfl
      have deletes := Aside.foldl deleteClient (fun state client => state.aside_deleteClient client)
        world.releasable { world with manager := world.manager.recycle, inLoop := false }
      exact swept.trans (deletes.onward server) rfl

/-! ## `Close` -/

/-- The block of the server has been freed by `Close`. -/
structure CloseBegun (server : Nat) (world : UvClients) : Prop where
  impl : (world.servers server).impl = none
  listened : (world.servers server).listener ≠ .absent

theorem CloseBegun.change (begun : CloseBegun server world)
    (change : BlockChange server event world next) : CloseBegun server next := by
  cases change with
  | same _ same => exact ⟨same.impl.trans begun.impl, same.listener ▸ begun.listened⟩
  | opened null absent => exact absurd absent begun.listened
  | closing order closes open_ => exact absurd begun.impl open_
  | listenerClosed calls due =>
      rw [onServerClose_of_null begun.impl]
      constructor
      · exact (congrArg UvServer.impl (servers_setServer _)).trans begun.impl
      · change ((world.setServer server _).servers server).listener ≠ _
        rw [servers_setServer]
        nofun
  | used client started sends live refers null => exact ⟨begun.impl, begun.listened⟩
  | unconnectable null listening => exact ⟨begun.impl, begun.listened⟩

/-- Before `Close` nothing has been erased under an iteration. -/
theorem erased_after_close {events : List UvClientsEvent} (run : Run Step initial events world)
    (server : Nat) :
    world.Valid ∧ (ErasedCurrent server world -> CloseBegun server world) := by
  refine Run.invariant (fun state => state.Valid ∧
    (ErasedCurrent server state -> CloseBegun server state)) ?_ run
    ⟨initial_valid, fun erased => absurd erased.choose_spec List.not_mem_nil⟩
  rintro state event after ⟨valid, begun⟩ step
  refine invariant_of_parts (fun state => ErasedCurrent server state -> CloseBegun server state) ?_
    valid begun step
  intro before after validBefore begunBefore part erased
  have begunHere : CloseBegun server before := by
    rcases (onward_of_part validBefore server part).erased erased with earlier | closing
    · exact begunBefore earlier
    · exact ⟨closing.impl, closing.listened⟩
  exact begunHere.change (blockChange_of_part validBefore server part)

/-- An entry of the map is what the loop takes it for. -/
theorem Valid.registered_entry (valid : world.Valid) {entry : ConnEntry}
    (member : entry ∈ (world.manager.clientsOf server).entries) :
    world.registered server entry.2 = some entry.2 ∧ world.manager.connId entry.2 = entry.1 := by
  have held : entry.2 ∈ (world.manager.clientsOf server).values := List.mem_map_of_mem member
  exact ⟨valid.registered_iff.mpr held, valid.formed.connId_of_entry member⟩

/-- `Close` of a server without clients is over at once. -/
theorem close_of_empty {order : List ConnEntry}
    (empty : (world.manager.clientsOf server).values = [])
    (unclosed : (world.servers server).closed = false)
    (done : world.close server order = some next) :
    (next.servers server).closed = true ∧
      (ErasedCurrent server next ↔ ErasedCurrent server world) := by
  rcases close_cases unclosed done with ⟨iterates, dropped, drops, _, loop⟩
  have none_ : (world.manager.clientsOf server).entries = [] := List.map_eq_nil_iff.mp empty
  rw [none_, List.perm_nil] at iterates
  subst iterates
  cases loop
  refine ⟨?_, ?_⟩
  · rw [servers_setServer]
  · exact exists_congr fun client => drops.mem_faults rfl

/-- `Close` of a server with clients stands on one of them, or has erased it. -/
theorem close_of_clients (valid : world.Valid) {order : List ConnEntry}
    (clients : (world.manager.clientsOf server).values ≠ [])
    (unclosed : (world.servers server).closed = false)
    (done : world.close server order = some next) :
    ErasedCurrent server next ∨ StandsOnClient server next := by
  rcases close_cases unclosed done with ⟨iterates, dropped, drops, open_, loop⟩
  have clientsOf := drops.clientsOf server
  rw [← congrFun drops.servers server] at unclosed open_
  have visits := (drops.valid valid).visits unclosed open_
  have validStart := (drops.valid valid).part (.closing server order rfl unclosed open_)
  cases order with
  | nil =>
      refine absurd ?_ clients
      exact List.map_eq_nil_iff.mpr (List.nil_perm.mp iterates)
  | cons entry later =>
      have member : entry ∈ (dropped.manager.clientsOf server).entries := by
        rw [clientsOf]
        exact iterates.mem_iff.mp (List.mem_cons_self ..)
      have found := validStart.registered_entry member
      have held := validStart.registered_iff.mp found.1
      rw [disposeDownStreams, if_pos found] at loop
      dsimp only at loop
      have disposes := (dropped.setServer server (dropped.closing server)).aside_disposeConnection
        entry.2
      split at loop
      · cases loop
        right
        refine ⟨entry.2, later, List.mem_cons_self .., ?_⟩
        change entry.2 ∈ (ConnManager.clientsOf (onDisconnect _ entry.2).1.manager server).values
        rw [onDisconnect_manager]
        change entry.2 ∈ ((disposeConnection _ entry.2).manager.clientsOf server).values
        rw [disposes.clientsOf]
        exact held
      · rename_i disconnected
        rcases onDisconnect_cases (disposeConnection _ entry.2) entry.2 with
          ⟨_, lost⟩ | ⟨_, lost⟩
        · exact absurd (congrArg Prod.snd lost) disconnected
        · rw [lost] at loop
          left
          rcases Option.bind_eq_some_iff.mp loop with ⟨removed, removes, rest⟩
          have validDisposed := disposes.valid validStart
          have visitsDisposed := visits.same disposes.servers disposes.stack
          have erased := (onward_onRemoveClient validDisposed server
            (fun _ => visitsDisposed.toClosing) removes).2 rfl rfl
            ((disposes.clientsOf server).symm ▸ held)
          have validRemoved := validDisposed.onRemoveClient removes
          have parts : Relation.ReflTransGen (Part .recycle) removed next :=
            parts_disposeDownStreams validRemoved
              (visitsDisposed.onRemoveClient validDisposed removes) rest
          exact (kept_of_parts (ErasedCurrent server) (fun _ _ valid erased part =>
            (onward_of_part valid server part).stays erased) validRemoved erased parts).2

/-! ## Runs -/

variable {events : List UvClientsEvent}

/-- A server that has been closed has no loop to resume. -/
theorem not_standsOn_of_closed (valid : world.Valid) (closed : (world.servers server).closed = true) :
    ¬ StandsOnClient server world := by
  rintro ⟨client, later, member, _⟩
  rcases (valid.looping server).once with none_ | ⟨_, closing⟩
  · exact List.countP_eq_zero.mp none_ _ member (beq_self_eq_true server)
  · exact Bool.false_ne_true (closing.unclosed.symm.trans closed)

theorem erased_or_stands_of_run (valid : world.Valid)
    (either : ErasedCurrent server world ∨ StandsOnClient server world)
    (run : Run Step world events last) :
    last.Valid ∧ (ErasedCurrent server last ∨ StandsOnClient server last) := by
  refine Run.invariant (fun state => state.Valid ∧ (ErasedCurrent server state ∨
    StandsOnClient server state)) ?_ run ⟨valid, either⟩
  rintro state event after ⟨validState, kept⟩ step
  refine invariant_of_parts (fun state => ErasedCurrent server state ∨ StandsOnClient server state)
    ?_ validState kept step
  intro before after validBefore kept part
  have onward := onward_of_part validBefore server part
  rcases kept with erased | stands
  · exact .inl (onward.stays erased)
  · exact onward.current stands

theorem unerased_of_run (valid : world.Valid) (closed : (world.servers server).closed = true)
    (unerased : ¬ ErasedCurrent server world) (run : Run Step world events last) :
    ¬ ErasedCurrent server last := by
  have kept := Run.invariant (fun state => state.Valid ∧ (state.servers server).closed = true ∧
    ¬ ErasedCurrent server state) ?_ run ⟨valid, closed, unerased⟩
  · exact kept.2.2
  rintro state event after ⟨validState, keptState⟩ step
  refine invariant_of_parts (fun state => (state.servers server).closed = true ∧
    ¬ ErasedCurrent server state) ?_ validState keptState step
  rintro before after validBefore ⟨closedBefore, clean⟩ part
  have onward := onward_of_part validBefore server part
  refine ⟨onward.closed closedBefore, fun erased => ?_⟩
  rcases onward.erased erased with earlier | closing
  · exact clean earlier
  · exact Bool.false_ne_true (closing.unclosed.symm.trans closedBefore)

/-- When `Close` has returned, the element that its iteration stood on has been erased if
and only if the server had clients. -/
theorem erasedCurrent_iff_clients {before : UvClients} {earlier later : List UvClientsEvent}
    {order : List ConnEntry} (reached : Run Step initial earlier before)
    (unclosed : (before.servers server).closed = false)
    (closes : before.Step (.closeTcpServer server order) next)
    (goesOn : Run Step next later last) (returned : (last.servers server).closed = true) :
    ErasedCurrent server last ↔ (before.manager.clientsOf server).values ≠ [] := by
  rcases erased_after_close reached server with ⟨valid, begun⟩
  have validNext := valid.step closes
  constructor
  · intro erased empty
    rcases close_of_empty empty unclosed closes with ⟨closed, same⟩
    refine unerased_of_run validNext closed (fun earlier => ?_) goesOn erased
    rcases close_cases unclosed closes with ⟨_, _, _, open_, _⟩
    exact open_ (begun (same.mp earlier)).impl
  · intro clients
    have either := close_of_clients valid clients unclosed closes
    rcases erased_or_stands_of_run validNext either goesOn with ⟨validLast, erased | stands⟩
    · exact erased
    · exact absurd stands (not_standsOn_of_closed validLast returned)

end UvClients
end NetSystem
