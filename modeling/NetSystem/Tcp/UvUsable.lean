import NetSystem.Tcp.UvListener

namespace NetSystem

/-!
# Registered clients of the Uv factory

Whatever disposes of a client also tells it that it has lost its connection and moves it
to the recycler: `Disconnect` does so before it returns, and `DisposeDownStreams` when
the handlers of the event have returned.  `SendRaw` does not.  When `uv_write` fails it
disposes of the client and leaves it registered and connected, and from then on
`Disconnect` finds it disposed of and does nothing.
-/

/-- What is left to do names the client. -/
def UvRest.names (client : ConnRef) : UvRest -> Bool
  | .accepted _ _ => false
  | .removeClient _ other => other == client
  | .disposeDownStreams _ other _ => other == client

theorem UvRest.names_removeClient (server : Nat) (client : ConnRef) :
    UvRest.names client (.removeClient server client) = true :=
  beq_self_eq_true client

theorem UvRest.names_disposeDownStreams (server : Nat) (client : ConnRef) (later : List ConnEntry) :
    UvRest.names client (.disposeDownStreams server client later) = true :=
  beq_self_eq_true client

namespace UvClients

variable {world next last : UvClients} {server : Nat} {client other : ConnRef}
  {event : UvClientsEvent}

/-- `DisposeDownStreams` has disposed of the client, and removes it when the handlers have
returned. -/
def BeingRemoved (world : UvClients) (client : ConnRef) : Prop :=
  Exists fun server => Exists fun later =>
    .disposeDownStreams server client later ∈ world.stack ∧
      client ∈ (world.manager.clientsOf server).values

/-- The client has been told of the loss of its connection and has been moved to the
recycler, once. -/
structure HasLeft (world : UvClients) (client : ConnRef) : Prop where
  unregistered : forall server, client ∉ (world.manager.clientsOf server).values
  disconnected : (world.manager.flags client).bConnected = false
  told : world.log.count (client, .disconnected) = world.log.count (client, .connected)
  recycled : (world.manager.vRecycler ++ world.manager.deleted).count client = 1

/-- A registered client has not been disposed of, unless `DisposeDownStreams` is about to
remove it, and one that has been disposed of has left. -/
def Usable (world : UvClients) : Prop :=
  forall client, (world.manager.flags client).bDisposed = true ->
    world.HasLeft client ∨ world.BeingRemoved client

/-- No `uv_write` fails, except for a client that has been disposed of, or without the
block of its server. -/
def SendsSucceed (world : UvClients) (event : UvClientsEvent) : Prop :=
  forall client, event = .sendRaw client false -> (world.manager.flags client).bDisposed = true ∨
    (world.servers (world.states client).refServer).impl = none

/-! ## One client -/

/-- What holds of a client as long as no send of it fails. -/
structure Tracked (client : ConnRef) (world : UvClients) : Prop where
  unborn : world.manager.created ≤ client -> (world.manager.flags client).bConnected = false
  told : world.log.count (client, .connected) = world.log.count (client, .disconnected) +
    if (world.manager.flags client).bConnected = true then 1 else 0
  left : (world.manager.flags client).bDisposed = true ->
    ((world.manager.flags client).bConnected = false ∧
      client ∈ world.manager.vRecycler ++ world.manager.deleted) ∨ world.BeingRemoved client
  recycled : client ∈ world.manager.vRecycler ++ world.manager.deleted ->
    (world.manager.flags client).bDisposed = true
  removes : forall server, .removeClient server client ∈ world.stack ->
    (world.manager.flags client).bConnected = false
  loops : forall server later, .disposeDownStreams server client later ∈ world.stack ->
    (world.manager.flags client).bDisposed = true ∧ (world.manager.flags client).bConnected = false

/-- Everything about the client is as it was. -/
structure SameClient (client : ConnRef) (world next : UvClients) : Prop where
  created : next.manager.created ≤ client -> world.manager.created ≤ client
  connected : (next.manager.flags client).bConnected = (world.manager.flags client).bConnected
  disposed : (next.manager.flags client).bDisposed = (world.manager.flags client).bDisposed
  log : forall notice, next.log.count (client, notice) = world.log.count (client, notice)
  recycled : client ∈ next.manager.vRecycler ++ next.manager.deleted ↔
    client ∈ world.manager.vRecycler ++ world.manager.deleted
  frames : forall rest, rest.names client = true -> (rest ∈ next.stack ↔ rest ∈ world.stack)
  held : world.stack ≠ [] -> forall server, client ∈ (next.manager.clientsOf server).values ↔
    client ∈ (world.manager.clientsOf server).values

theorem Tracked.of_same (tracked : world.Tracked client) (same : SameClient client world next) :
    next.Tracked client where
  unborn := fun above => same.connected.trans (tracked.unborn (same.created above))
  told := by
    rw [same.log, same.log, same.connected]
    exact tracked.told
  left := by
    rw [same.disposed, same.connected, same.recycled]
    intro disposed
    refine (tracked.left disposed).imp_right ?_
    rintro ⟨server, later, member, held⟩
    refine ⟨server, later, (same.frames _ (UvRest.names_disposeDownStreams ..)).mpr member, ?_⟩
    exact (same.held (List.ne_nil_of_mem member) server).mpr held
  recycled := by
    rw [same.recycled, same.disposed]
    exact tracked.recycled
  removes := by
    intro server member
    rw [same.connected]
    exact tracked.removes server ((same.frames _ (UvRest.names_removeClient ..)).mp member)
  loops := by
    intro server later member
    rw [same.connected, same.disposed]
    exact tracked.loops server later
      ((same.frames _ (UvRest.names_disposeDownStreams ..)).mp member)

theorem SameClient.trans {middle : UvClients} (first : SameClient client world middle)
    (second : SameClient client middle next) (stack : world.stack ≠ [] -> middle.stack ≠ []) :
    SameClient client world next where
  created := fun above => first.created (second.created above)
  connected := second.connected.trans first.connected
  disposed := second.disposed.trans first.disposed
  log := fun notice => (second.log notice).trans (first.log notice)
  recycled := second.recycled.trans first.recycled
  frames := fun rest names => (second.frames rest names).trans (first.frames rest names)
  held := fun busy server => (second.held (stack busy) server).trans (first.held busy server)

/-- The manager, the notifications and the stack are as they were. -/
theorem SameClient.of_eq (client : ConnRef) (manager : next.manager = world.manager)
    (log : next.log = world.log) (stack : next.stack = world.stack) :
    SameClient client world next where
  created := by rw [manager]; exact id
  connected := by rw [manager]
  disposed := by rw [manager]
  log := fun _ => by rw [log]
  recycled := by rw [manager]
  frames := fun _ _ => by rw [stack]
  held := fun _ _ => by rw [manager]

theorem Aside.sameClient {gone : Option ConnRef} (aside : Aside gone world next) (client : ConnRef)
    (spared : gone = some client -> (world.manager.flags client).bDisposed = true) :
    SameClient client world next where
  created := by
    rw [aside.manager]
    exact id
  connected := aside.connected client
  disposed := by
    rw [aside.disposed]
    by_cases here : gone = some client
    · rw [spared here, Bool.true_or]
    · rw [decide_eq_false here, Bool.or_false]
  log := fun _ => by rw [aside.log]
  recycled := by
    rw [aside.manager]
    rfl
  frames := fun _ _ => by rw [aside.stack]
  held := fun _ server => by rw [aside.clientsOf]

/-- What handlers return to is taken off the stack. -/
theorem sameClient_popped {rest : UvRest} {stack : List UvRest} (first : world.stack = rest :: stack)
    (others : rest.names client = false) :
    SameClient client world { world with stack := stack } where
  created := id
  connected := rfl
  disposed := rfl
  log := fun _ => rfl
  recycled := Iff.rfl
  frames := by
    intro frame names
    rw [first, List.mem_cons]
    refine (or_iff_right fun same => ?_).symm
    rw [same, others] at names
    cases names
  held := fun _ _ => Iff.rfl

/-- Another client is told, and something is left to do about it. -/
theorem sameClient_disconnecting (different : client ≠ other) {rest : UvRest}
    (others : rest.names client = false) :
    SameClient client world ((world.onDisconnect other).1.push rest) := by
  have frames : forall frame, frame.names client = true ->
      (frame ∈ rest :: world.stack ↔ frame ∈ world.stack) := by
    intro frame names
    rw [List.mem_cons]
    refine or_iff_right fun same => ?_
    rw [same, others] at names
    cases names
  rcases world.onDisconnect_cases other with ⟨_, lost⟩ | ⟨_, lost⟩
  · rw [lost]
    refine ⟨id, ?_, ?_, fun notice => ?_, Iff.rfl, frames, fun _ _ => Iff.rfl⟩
    · exact congrArg ConnFlags.bConnected (flags_setFlags_ne _ different)
    · exact congrArg ConnFlags.bDisposed (flags_setFlags_ne _ different)
    · refine List.count_append.trans ?_
      rw [List.count_singleton, if_neg, Nat.add_zero]
      · rfl
      · rw [beq_iff_eq]
        exact fun same => different (congrArg Prod.fst same).symm
  · rw [lost]
    exact ⟨id, rfl, rfl, fun _ => rfl, Iff.rfl, frames, fun _ _ => Iff.rfl⟩

/-- Another client is removed. -/
theorem Removed.sameClient {iterating : Bool} (removed : Removed server other iterating world next)
    (different : client ≠ other) : SameClient client world next := by
  have disposes := (world.aside_disposeConnection other).sameClient client
    fun gone => absurd (Option.some.inj gone).symm different
  have keeps := removed.others client different
  refine ⟨?_, ?_, ?_, fun notice => ?_, ?_, fun rest _ => ?_, fun _ place => keeps.held place⟩
  · rw [removed.created]
    exact id
  · rw [removed.flags]
    exact disposes.connected
  · rw [removed.flags]
    exact disposes.disposed
  · rw [removed.log]
  · rw [List.mem_append, List.mem_append, keeps.recycled]
    exact or_congr_right keeps.deleted
  · rw [removed.stack]

/-- The client has been told of every loss of its connection. -/
def Told (client : ConnRef) (world : UvClients) : Prop :=
  world.log.count (client, .connected) = world.log.count (client, .disconnected) +
    if (world.manager.flags client).bConnected = true then 1 else 0

/-- The client is removed. -/
theorem Removed.tracked {iterating : Bool} (removed : Removed server client iterating world next)
    (told : Told client world) (disconnected : (world.manager.flags client).bConnected = false) :
    next.Tracked client := by
  have disposes := world.aside_disposeConnection client
  have connected : (next.manager.flags client).bConnected = false := by
    rw [removed.flags, disposes.connected]
    exact disconnected
  have disposed : (next.manager.flags client).bDisposed = true := by
    rw [removed.flags, disposes.disposed, decide_eq_true rfl, Bool.or_true]
  refine ⟨fun _ => connected, ?_, fun _ => .inl ⟨connected, ?_⟩, fun _ => disposed,
    fun _ _ => connected, fun _ _ _ => ⟨disposed, connected⟩⟩
  · unfold Told at told
    rw [disconnected] at told
    rw [removed.log, connected]
    exact told
  · exact List.mem_append_left _ removed.recycled

theorem tracked_onRemoveClient (valid : world.Valid) {iterating : Bool}
    (tracked : world.Tracked client)
    (disconnected : other = client -> (world.manager.flags client).bConnected = false)
    (done : world.onRemoveClient server other iterating = some next) : next.Tracked client := by
  rcases onRemoveClient_cases valid done with ⟨_, ⟨_, rfl⟩ | removed⟩
  · exact tracked
  · by_cases same : other = client
    · subst same
      exact removed.tracked tracked.told (disconnected rfl)
    · exact tracked.of_same (removed.sameClient fun here => same here.symm)

/-- The client is told that it has lost its connection. -/
theorem tracked_disconnecting {rest : UvRest} (told : Told client world)
    (connected : (world.manager.flags client).bConnected = true)
    (left : (world.manager.flags client).bDisposed = true ->
      BeingRemoved ((world.onDisconnect client).1.push rest) client)
    (recycled : client ∈ world.manager.vRecycler ++ world.manager.deleted ->
      (world.manager.flags client).bDisposed = true)
    (loops : forall server later, .disposeDownStreams server client later ∈ rest :: world.stack ->
      (world.manager.flags client).bDisposed = true) :
    ((world.onDisconnect client).1.push rest).Tracked client := by
  rcases world.onDisconnect_cases client with ⟨_, lost⟩ | ⟨disconnected, _⟩
  · rw [lost] at left ⊢
    have flags : (((world.setFlags client { world.manager.flags client with
        bConnected := false }).notify client .disconnected).push rest).manager.flags client =
        { world.manager.flags client with bConnected := false } := flags_setFlags _
    have silent := congrArg ConnFlags.bConnected flags
    have same := congrArg ConnFlags.bDisposed flags
    refine ⟨fun _ => silent, ?_, fun disposed => .inr (left (same.symm.trans disposed)),
      fun member => same.trans (recycled member), fun _ _ => silent,
      fun server later member => ⟨same.trans (loops server later member), silent⟩⟩
    unfold Told at told
    rw [if_pos connected] at told
    rw [flags, if_neg Bool.false_ne_true]
    change (world.log ++ [(client, ConnNotice.disconnected)]).count (client, ConnNotice.connected) =
      (world.log ++ [(client, ConnNotice.disconnected)]).count (client, ConnNotice.disconnected) + 0
    rw [List.count_append, List.count_append, told, List.count_singleton_self,
      List.count_singleton, if_neg]
    rw [beq_iff_eq]
    nofun
  · rw [disconnected] at connected
    cases connected

/-! ## Every part of a step -/

theorem tracked_resumed (valid : world.Valid) (tracked : world.Tracked client) {rest : UvRest}
    {stack : List UvRest} {iterating : Bool} (first : world.stack = rest :: stack)
    (names : (rest = .removeClient server other ∧ iterating = false) ∨
      Exists fun later => rest = .disposeDownStreams server other later ∧ iterating = true)
    (done : { world with stack := stack }.onRemoveClient server other iterating = some next) :
    next.Tracked client := by
  have validPopped := valid.popped first
  have member : rest ∈ world.stack := by
    rw [first]
    exact List.mem_cons_self ..
  by_cases same : other = client
  · subst same
    have disconnected : (world.manager.flags other).bConnected = false := by
      rcases names with ⟨rfl, _⟩ | ⟨later, rfl, _⟩
      · exact tracked.removes server member
      · exact (tracked.loops server later member).2
    rcases onRemoveClient_cases validPopped done with ⟨_, ⟨absent, rfl⟩ | removed⟩
    · -- the client had been removed by a handler
      have fewer : forall frame, frame ∈ stack -> frame ∈ world.stack := by
        intro frame inside
        rw [first]
        exact List.mem_cons_of_mem _ inside
      refine ⟨tracked.unborn, tracked.told, fun disposed => ?_, tracked.recycled,
        fun place inside => tracked.removes place (fewer _ inside),
        fun place later inside => tracked.loops place later (fewer _ inside)⟩
      refine (tracked.left disposed).imp_right ?_
      rintro ⟨place, later, inside, held⟩
      refine ⟨place, later, ?_, held⟩
      rw [first] at inside
      refine (List.mem_cons.mp inside).resolve_left fun here => ?_
      rcases names with ⟨rfl, _⟩ | ⟨_, rfl, _⟩
      · cases here
      · cases here
        exact absent held
    · exact removed.tracked tracked.told disconnected
  · have others : rest.names client = false := by
      rcases names with ⟨rfl, _⟩ | ⟨later, rfl, _⟩
      · exact beq_eq_false_iff_ne.mpr same
      · exact beq_eq_false_iff_ne.mpr same
    exact tracked_onRemoveClient validPopped (tracked.of_same (sameClient_popped first others))
      (fun here => absurd here same) done

theorem tracked_visited (valid : world.Valid) (tracked : world.Tracked client)
    (held : other ∈ (world.manager.clientsOf server).values)
    (disconnected : (world.manager.flags other).bConnected = false)
    (done : (world.disposeConnection other).onRemoveClient server other true = some next) :
    next.Tracked client := by
  have disposes := world.aside_disposeConnection other
  have validDisposed := disposes.valid valid
  by_cases same : other = client
  · subst same
    rcases onRemoveClient_cases validDisposed done with ⟨_, ⟨absent, _⟩ | removed⟩
    · rw [disposes.clientsOf] at absent
      exact absurd held absent
    · refine removed.tracked ?_ ((disposes.connected other).trans disconnected)
      unfold Told
      rw [disposes.log, disposes.connected]
      exact tracked.told
  · have spared := disposes.sameClient client fun gone => absurd (Option.some.inj gone) same
    exact tracked_onRemoveClient validDisposed (tracked.of_same spared)
      (fun here => absurd here same) done

theorem tracked_visiting (tracked : world.Tracked client) {later : List ConnEntry}
    (held : other ∈ (world.manager.clientsOf server).values)
    (connected : (world.manager.flags other).bConnected = true) :
    Tracked client (((world.disposeConnection other).onDisconnect other).1.push
      (.disposeDownStreams server other later)) := by
  have disposes := world.aside_disposeConnection other
  by_cases same : other = client
  · subst same
    have disposed : ((world.disposeConnection other).manager.flags other).bDisposed = true := by
      rw [disposes.disposed, decide_eq_true rfl, Bool.or_true]
    refine tracked_disconnecting ?_ ((disposes.connected other).trans connected) (fun _ => ?_)
      (fun _ => disposed) (fun _ _ _ => disposed)
    · unfold Told
      rw [disposes.log, disposes.connected]
      exact tracked.told
    · refine ⟨server, later, List.mem_cons_self .., ?_⟩
      change other ∈ (ConnManager.clientsOf (onDisconnect _ other).1.manager server).values
      rw [onDisconnect_manager]
      change other ∈ ((world.disposeConnection other).manager.clientsOf server).values
      rw [disposes.clientsOf]
      exact held
  · have spared := disposes.sameClient client fun gone => absurd (Option.some.inj gone) same
    have others : UvRest.names client (.disposeDownStreams server other later) = false :=
      beq_eq_false_iff_ne.mpr same
    refine (tracked.of_same spared).of_same ?_
    exact sameClient_disconnecting (fun here => same here.symm) others

theorem tracked_lost (tracked : world.Tracked client)
    (undisposed : (world.manager.flags other).bDisposed = false)
    (connected : (world.manager.flags other).bConnected = true) :
    Tracked client ((world.onDisconnect other).1.push (.removeClient server other)) := by
  by_cases same : other = client
  · subst same
    refine tracked_disconnecting tracked.told connected (fun disposed => ?_) tracked.recycled ?_
    · exact absurd (undisposed.symm.trans disposed) Bool.false_ne_true
    · intro place later member
      rcases List.mem_cons.mp member with impossible | before
      · cases impossible
      · exact (tracked.loops place later before).1
  · exact tracked.of_same (sameClient_disconnecting (fun here => same here.symm)
      (beq_eq_false_iff_ne.mpr same))

theorem recycled_of_created {manager : ConnManager} (placed : world.manager.Placed)
    (created : world.manager.createTcpClientOnServer server = some manager) :
    manager.vRecycler ++ manager.deleted = world.manager.vRecycler ++ world.manager.deleted := by
  rcases ConnManager.createTcpClientOnServer_places placed created with
    ⟨_, _, recycler, _, deletions, _, _⟩
  unfold ConnManager.deleted
  rw [recycler, deletions]

/-- The handlers of a connect event are waited for, and nothing else. -/
theorem mem_stack_admittedWith {manager : ConnManager} {rest : UvRest}
    (names : rest.names client = true) :
    rest ∈ (world.admittedWith server manager).stack ↔ rest ∈ world.stack := by
  refine List.mem_cons.trans (or_iff_right fun same => ?_)
  rw [same] at names
  cases names

/-- A new client has been told that it is connected. -/
theorem tracked_created (valid : world.Valid) (tracked : world.Tracked world.manager.created)
    (idle : world.stack = []) {manager : ConnManager}
    (created : world.manager.createTcpClientOnServer server = some manager) :
    (world.admittedWith server manager).Tracked world.manager.created := by
  rcases ConnManager.createTcpClientOnServer_places valid.placed created with ⟨more, flags, _⟩
  have fresh : (world.admittedWith server manager).manager.flags world.manager.created =
      { ConnFlags.initial false with bConnected := true } := by
    refine (Function.update_self ..).trans ?_
    rw [flags, Function.update_self]
  have undisposed : ((world.admittedWith server manager).manager.flags
      world.manager.created).bDisposed ≠ true := by
    rw [fresh]
    nofun
  refine ⟨fun above => ?_, ?_, fun disposed => absurd disposed undisposed, fun member => ?_,
    fun place member => ?_, fun place later member => ?_⟩
  · change manager.created ≤ world.manager.created at above
    omega
  · have told := tracked.told
    rw [tracked.unborn (Nat.le_refl _), if_neg Bool.false_ne_true] at told
    rw [fresh, if_pos rfl]
    change (world.log ++ [(world.manager.created, ConnNotice.connected)]).count
        (world.manager.created, ConnNotice.connected) =
      (world.log ++ [(world.manager.created, ConnNotice.connected)]).count
        (world.manager.created, ConnNotice.disconnected) + 1
    rw [List.count_append, List.count_append, told, List.count_singleton_self,
      List.count_singleton, if_neg]
    rw [beq_iff_eq]
    nofun
  · change world.manager.created ∈ manager.vRecycler ++ manager.deleted at member
    rw [recycled_of_created valid.placed created] at member
    have nowhere := (valid.placed.exclusive world.manager.created).2.2 (Nat.le_refl _)
    rcases List.mem_append.mp member with recycled | deleted
    · exact absurd recycled nowhere.2.2.1
    · exact absurd deleted nowhere.2.2.2
  · rw [mem_stack_admittedWith (UvRest.names_removeClient ..), idle] at member
    cases member
  · rw [mem_stack_admittedWith (UvRest.names_disposeDownStreams ..), idle] at member
    cases member

theorem sameClient_admittedWith (valid : world.Valid) (idle : world.stack = [])
    {manager : ConnManager}
    (created : world.manager.createTcpClientOnServer server = some manager)
    (old : client ≠ world.manager.created) :
    SameClient client world (world.admittedWith server manager) := by
  rcases ConnManager.createTcpClientOnServer_places valid.placed created with ⟨more, flags, _⟩
  have kept : (world.admittedWith server manager).manager.flags client =
      world.manager.flags client := by
    refine (Function.update_of_ne old ..).trans ?_
    rw [flags]
    exact Function.update_of_ne old ..
  refine ⟨fun above => ?_, by rw [kept], by rw [kept], fun notice => ?_, ?_,
    fun _ names => mem_stack_admittedWith names, fun busy => absurd idle busy⟩
  · change manager.created ≤ client at above
    omega
  · refine List.count_append.trans ?_
    rw [List.count_singleton, if_neg, Nat.add_zero]
    rw [beq_iff_eq]
    exact fun same => old (congrArg Prod.fst same).symm
  · change client ∈ manager.vRecycler ++ manager.deleted ↔ _
    rw [recycled_of_created valid.placed created]

theorem tracked_admitted (valid : world.Valid) (tracked : world.Tracked client)
    (idle : world.stack = []) {manager : ConnManager}
    (created : world.manager.createTcpClientOnServer server = some manager) :
    (world.admittedWith server manager).Tracked client := by
  by_cases new : client = world.manager.created
  · subst new
    exact tracked_created valid tracked idle created
  · exact tracked.of_same (sameClient_admittedWith valid idle created new)

theorem sameClient_recycled (valid : world.Valid) (idle : world.stack = []) (client : ConnRef) :
    SameClient client world world.recycle := by
  have deletes := Aside.foldl deleteClient (fun state client => state.aside_deleteClient client)
    world.releasable { world with manager := world.manager.recycle, inLoop := false }
  have swept : SameClient client world
      { world with manager := world.manager.recycle, inLoop := false } := by
    refine ⟨id, rfl, rfl, fun _ => rfl, ?_, fun _ _ => Iff.rfl, fun busy => absurd idle busy⟩
    have places := ConnManager.recycle_places valid.formed.idle client
    change client ∈ world.manager.recycle.vRecycler ++ world.manager.recycle.deleted ↔ _
    rw [List.mem_append, List.mem_append]
    by_cases safe : client ∈ world.manager.vRecycler ∧ (world.manager.flags client).SafeToRelease
    · exact ⟨fun _ => .inl safe.1, fun _ => .inr (places.1 safe).1⟩
    · exact or_congr (places.2 safe).recycled (places.2 safe).deleted
  exact swept.trans (deletes.sameClient client fun gone => by cases gone) id

/-- No part of a step but a failing send leaves a client that has been disposed of where
it is. -/
theorem tracked_of_part (valid : world.Valid) (tracked : world.Tracked client)
    (sends : forall other, event ≠ .sendRaw other false) (part : Part event world next) :
    next.Tracked client := by
  cases part with
  | aside _ aside => exact tracked.of_same (aside.sameClient client fun gone => by cases gone)
  | sendFailed _ other fails live aside => exact absurd fails (sends other)
  | implNull other started sends live null => exact tracked.of_same (.of_eq client rfl rfl rfl)
  | unconnectable server null listening => exact tracked.of_same (.of_eq client rfl rfl rfl)
  | stopped other undisposed => exact tracked.of_same (.of_eq client rfl rfl rfl)
  | lost server other undisposed connected => exact tracked_lost tracked undisposed connected
  | removed _ server other disconnected done =>
      exact tracked_onRemoveClient valid tracked (fun same => same ▸ disconnected) done
  | returned clnt other stack first => exact tracked.of_same (sameClient_popped first rfl)
  | resumed _ server other rest stack iterating first names done =>
      exact tracked_resumed valid tracked first names done
  | visited _ server other visits held disconnected done =>
      exact tracked_visited valid tracked held disconnected done
  | visiting server other later visits held connected => exact tracked_visiting tracked held connected
  | finished server visits => exact tracked.of_same (.of_eq client rfl rfl rfl)
  | closing server order closes unclosed open_ => exact tracked.of_same (.of_eq client rfl rfl rfl)
  | opened server null absent => exact tracked.of_same (.of_eq client rfl rfl rfl)
  | readied server ready => exact tracked.of_same (.of_eq client rfl rfl rfl)
  | admitted _ server idle listening accepted =>
      rcases onAcceptClient_cases accepted with ⟨manager, created, _, rfl⟩
      exact tracked_admitted valid tracked idle created
  | listenerClosed server calls due =>
      refine tracked.of_same ?_
      unfold onServerClose
      dsimp only
      split
      · exact .of_eq client rfl rfl rfl
      · exact .of_eq client rfl rfl rfl
  | iterated idle => exact tracked.of_same (.of_eq client rfl rfl rfl)
  | recycled idle => exact tracked.of_same (sameClient_recycled valid idle client)

/-! ## Steps and runs -/

theorem initial_tracked (client : ConnRef) : Tracked client initial where
  unborn := fun _ => rfl
  told := rfl
  left := fun impossible => Bool.noConfusion impossible
  recycled := fun impossible => by cases impossible
  removes := fun _ impossible => by cases impossible
  loops := fun _ _ impossible => by cases impossible

/-- All clients are tracked. -/
theorem usable_of_tracked (valid : world.Valid) (tracked : forall client, world.Tracked client) :
    world.Usable := by
  intro client disposed
  rcases (tracked client).left disposed with ⟨disconnected, gone⟩ | removing
  · left
    have told := (tracked client).told
    rw [disconnected] at told
    rcases valid.placed.recycled_once gone with ⟨once, unregistered⟩
    exact ⟨unregistered, disconnected, told.symm, once⟩
  · exact .inr removing

/-- A step whose sends succeed keeps every client tracked. -/
theorem tracked_of_step (valid : world.Valid) (tracked : forall client, world.Tracked client)
    (succeeds : SendsSucceed world event) (step : world.Step event next) :
    next.Valid ∧ forall client, next.Tracked client := by
  by_cases fails : Exists fun other => event = .sendRaw other false
  · rcases fails with ⟨other, rfl⟩
    rcases Option.ite_none_right_eq_some.mp step with ⟨live, done⟩
    rcases sendRaw_cases live done with ⟨_, rfl⟩ | ⟨open_, aside⟩
    · exact ⟨valid.same rfl rfl rfl, fun client =>
        (tracked client).of_same (.of_eq client rfl rfl rfl)⟩
    · have disposed := (succeeds other rfl).resolve_right open_
      refine ⟨aside.valid valid, fun client => (tracked client).of_same (aside.sameClient client ?_)⟩
      intro gone
      cases gone
      exact disposed
  · refine invariant_of_parts (fun state => forall client, state.Tracked client) ?_ valid tracked step
    intro before after validBefore trackedBefore part client
    exact tracked_of_part validBefore (trackedBefore client)
      (fun other sends => fails ⟨other, sends⟩) part

/-- A send that fails leaves its client disposed of where it is. -/
theorem not_usable_of_failed (tracked : world.Tracked client)
    (undisposed : (world.manager.flags client).bDisposed = false)
    (open_ : (world.servers (world.states client).refServer).impl ≠ none)
    (step : world.Step (.sendRaw client false) next) : ¬ next.Usable := by
  rcases Option.ite_none_right_eq_some.mp step with ⟨live, done⟩
  have aside : Aside (some client) world next := by
    rcases sendRaw_cases live done with ⟨null, _⟩ | ⟨_, aside⟩
    · exact absurd null open_
    · exact aside
  have disposed : (next.manager.flags client).bDisposed = true := by
    rw [aside.disposed, decide_eq_true rfl, Bool.or_true]
  have contradictory : (world.manager.flags client).bDisposed ≠ true := by
    rw [undisposed]
    exact Bool.false_ne_true
  intro usable
  rcases usable client disposed with left | ⟨server, later, member, _⟩
  · have once := left.recycled
    rw [aside.manager] at once
    refine contradictory (tracked.recycled (List.count_pos_iff.mp ?_))
    exact Nat.lt_of_lt_of_eq Nat.zero_lt_one once.symm
  · rw [aside.stack] at member
    exact contradictory (tracked.loops server later member).1

/-- The states of a run are usable if and only if no send of the run fails. -/
theorem clients_usable_iff (events : List UvClientsEvent) (last : UvClients) :
    Run (fun world event next => Step world event next ∧ next.Usable) initial events last ↔
      Run (fun world event next => Step world event next ∧ SendsSucceed world event) initial
        events last := by
  have succeeds : forall world event next, (forall client, Tracked client world) ->
      Step world event next -> next.Usable -> SendsSucceed world event := by
    rintro world event next tracked step usable client rfl
    by_contra fails
    rcases not_or.mp fails with ⟨undisposed, open_⟩
    exact not_usable_of_failed (tracked client) (eq_false_of_ne_true undisposed) open_ step usable
  refine Run.congr (fun state => state.Valid ∧ forall client, state.Tracked client) ?_ ?_
    ⟨initial_valid, initial_tracked⟩
  · rintro world event next ⟨valid, tracked⟩
    constructor
    · exact fun both => ⟨both.1, succeeds world event next tracked both.1 both.2⟩
    · rintro ⟨step, sends⟩
      rcases tracked_of_step valid tracked sends step with ⟨validNext, trackedNext⟩
      exact ⟨step, usable_of_tracked validNext trackedNext⟩
  · rintro world event next ⟨valid, tracked⟩ ⟨step, usable⟩
    exact tracked_of_step valid tracked (succeeds world event next tracked step usable) step

/-- A send to the only client of a server fails, and then the application disconnects the
client. -/
def failedSend : List UvClientsEvent :=
  [.openTcpServer 7 true, .setReady 7 true, .runOnce, .onConnection 7 true, .handlersReturn,
    .recycle, .sendRaw 0 false, .disconnect 0, .runOnce, .recycle]

/-- The client stays registered and connected, is never told, and cannot be removed. -/
theorem failed_send_strands_client :
    Exists fun last => Run Step initial failedSend last ∧
      0 ∈ (last.manager.clientsOf 7).values ∧ (last.manager.flags 0).bDisposed = true ∧
      (last.manager.flags 0).bConnected = true ∧ last.log = [(0, .connected)] ∧
      last.manager.vRecycler = [] ∧ last.stack = [] ∧ ¬ last.Usable := by
  have computed : (failedSend.foldlM perform initial).map (fun last =>
      (decide (0 ∈ (last.manager.clientsOf 7).values ∧ (last.manager.flags 0).bDisposed = true ∧
        (last.manager.flags 0).bConnected = true ∧ last.log = [(0, .connected)] ∧
        last.manager.vRecycler = [] ∧ last.stack = []))) = some true := by decide
  rcases Option.map_eq_some_iff.mp computed with ⟨last, done, facts⟩
  rcases decide_eq_true_iff.mp facts with ⟨held, disposed, connected, log, recycler, stack⟩
  refine ⟨last, Run.of_foldlM _ done, held, disposed, connected, log, recycler, stack, ?_⟩
  intro usable
  rcases usable 0 disposed with left | ⟨_, _, member, _⟩
  · exact left.unregistered 7 held
  · rw [stack] at member
    cases member

end UvClients
end NetSystem
