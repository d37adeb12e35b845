import NetSystem.Tcp.ConnManager

namespace NetSystem

/-!
# Where the connections are

In every run the id of a connection is determined by the number of ids drawn
before it, and a map holds a connection only under its own id (`Formed`).  So a
draw clashes with a registered connection only when a whole number of periods
of the counter lies between the two.

In a run without a clash nothing is ever overwritten: each connection that has
been created is in exactly one place (`Owned`), and the client count is the
number of registered clients.  A run that draws fewer ids than one period has
no clash.
-/

/-- The event draws an id. -/
def ConnEvent.Draws : ConnEvent -> Prop
  | .createTcpClientOnServer _ => True
  | .createTcpIsolated => True
  | _ => False

namespace ConnManager

/-- The registered clients of all servers. -/
def clients (manager : ConnManager) : List ConnRef := manager.mapServerEntry.allValues

def isolateds (manager : ConnManager) : List ConnRef := manager.mapIsolated.values

/-- The connections that are in some map. -/
def registered (manager : ConnManager) : List ConnRef := manager.clients ++ manager.isolateds

/-- The connections that have been deleted, in order. -/
def deleted (manager : ConnManager) : List ConnRef := manager.deletions.map Prod.fst

/-- How many different ids there are. -/
def connIdPeriod : Nat := tcpConnIdMax - tcpConnIdBase - 1

theorem connIdPeriod_eq : connIdPeriod = 998999999999 := rfl

/-- The id that the draw with the given number returns. -/
def drawnId (number : Nat) : Nat := tcpConnIdBase + 1 + number % connIdPeriod

theorem drawnId_bounds (number : Nat) :
    tcpConnIdBase < drawnId number ∧ drawnId number < tcpConnIdMax := by
  have below := Nat.mod_lt number (show 0 < connIdPeriod by decide)
  unfold drawnId
  rw [connIdPeriod_eq] at below ⊢
  unfold tcpConnIdBase tcpConnIdMax
  omega

/-- Two draws return the same id when a whole number of periods lies between. -/
theorem drawnId_eq_iff {earlier later : Nat} (ordered : earlier ≤ later) :
    drawnId earlier = drawnId later ↔ (later - earlier) % connIdPeriod = 0 := by
  unfold drawnId
  rw [connIdPeriod_eq]
  omega

/-! ## What a step does -/

/-- The loops that move connections to the recycler. -/
theorem recyclerPush_all (manager : ConnManager) (order : List ConnEntry) :
    order.foldl (fun state entry => state.recyclerPush entry.2) manager =
      { manager with vRecycler := manager.vRecycler ++ order.map Sigma.snd } := by
  induction order generalizing manager with
  | nil => simp
  | cons entry order inductionHypothesis =>
      rw [List.foldl_cons, inductionHypothesis]
      simp [recyclerPush]

/-- The loop of `ReleaseAllClients`: besides the recycler only the count
changes, by one for each client as long as it does not wrap. -/
theorem releaseClients_eq {manager next : ConnManager} {order : List ConnEntry}
    (done : manager.releaseClients order = some next) :
    Exists fun count => Exists fun decrements =>
      next = { manager with
        vRecycler := manager.vRecycler ++ order.map Sigma.snd
        szClientCount := count
        decrements := decrements } ∧
      (order.length ≤ manager.szClientCount -> count + order.length = manager.szClientCount ∧
        forall before, before ∈ decrements -> before ∈ manager.decrements ∨ 0 < before) := by
  induction order generalizing manager with
  | nil =>
      cases done
      refine ⟨next.szClientCount, next.decrements, ?_, ?_⟩
      · simp
      · intro _
        exact ⟨rfl, fun before member => Or.inl member⟩
  | cons entry order inductionHypothesis =>
      rcases entry with ⟨uConnId, client⟩
      rw [releaseClients] at done
      split at done
      · rcases inductionHypothesis done with ⟨count, decrements, rfl, counted⟩
        refine ⟨count, decrements, ?_, ?_⟩
        · simp [decrement, recyclerPush]
        · intro enough
          rw [List.length_cons] at enough
          have one : (manager.recyclerPush client).decrement.szClientCount + 1 =
              manager.szClientCount := by
            have positive : manager.szClientCount ≠ 0 := by omega
            change (if manager.szClientCount = 0 then 2 ^ 64 - 1 else manager.szClientCount - 1)
              + 1 = manager.szClientCount
            rw [if_neg positive]
            omega
          rcases counted (by omega) with ⟨total, recorded⟩
          refine ⟨by rw [List.length_cons]; omega, ?_⟩
          intro before member
          rcases recorded before member with old | positive
          · rcases List.mem_append.mp old with older | last
            · exact Or.inl older
            · right
              rw [List.mem_singleton.mp last]
              change 0 < manager.szClientCount
              omega
          · exact Or.inr positive
      · cases done

/-- Every way a step can change the manager. -/
inductive Effect (manager : ConnManager) (event : ConnEvent) (next : ConnManager) : Prop
  | clientAdded (server : Nat) (draws : event.Draws)
      (next_eq : next = { manager.newConnection false with
        mapServerEntry :=
          manager.mapServerEntry.assign server manager.getNextConnectionId manager.created
        szClientCount := manager.szClientCount + 1 })
  | isolatedAdded (draws : event.Draws)
      (next_eq : next = { manager.newConnection true with
        mapIsolated := manager.mapIsolated.insert manager.getNextConnectionId manager.created })
  | clientRemoved (server uConnId : Nat) (entry : ConnMap) (client : ConnRef)
      (found : manager.mapServerEntry.lookup server = some entry)
      (held : entry.lookup uConnId = some client)
      (next_eq : next = { manager with
        mapServerEntry := manager.mapServerEntry.insert server (entry.erase uConnId)
        vRecycler := manager.vRecycler ++ [client]
        szClientCount :=
          if manager.szClientCount = 0 then 2 ^ 64 - 1 else manager.szClientCount - 1
        decrements := manager.decrements ++ [manager.szClientCount] })
  | clientsReleased (server : Nat) (entry : ConnMap) (order : List ConnEntry) (count : Nat)
      (decrements : List Nat)
      (found : manager.mapServerEntry.lookup server = some entry)
      (iterates : order.Perm entry.entries)
      (next_eq : next = { manager with
        mapServerEntry := manager.mapServerEntry.insert server ∅
        vRecycler := manager.vRecycler ++ order.map Sigma.snd
        szClientCount := count
        decrements := decrements })
      (counted : order.length ≤ manager.szClientCount ->
        count + order.length = manager.szClientCount ∧
          forall before, before ∈ decrements -> before ∈ manager.decrements ∨ 0 < before)
  | isolatedsReleased (order : List ConnEntry) (iterates : order.Perm manager.mapIsolated.entries)
      (next_eq : next = { manager with
        mapIsolated := ∅
        vRecycler := manager.vRecycler ++ order.map Sigma.snd })
  | recycled (next_eq : next = manager.recycle)
  | flagged (flags : ConnRef -> ConnFlags) (next_eq : next = { manager with flags := flags })

@[simp] theorem newConnection_connId (manager : ConnManager) (bFlushed : Bool) :
    (manager.newConnection bFlushed).connId manager.created = manager.getNextConnectionId := by
  simp [newConnection]

theorem onRemoveClient_effect {manager next : ConnManager} {server : Nat} {client : ConnRef}
    (done : manager.onRemoveClient server client = some next) :
    Effect manager (.onRemoveClient server client) next := by
  have unchanged : Effect manager (.onRemoveClient server client) manager :=
    .flagged manager.flags rfl
  unfold onRemoveClient at done
  dsimp only at done
  split at done
  · cases found : manager.mapServerEntry.lookup server with
    | none =>
        rw [found] at done
        cases done
        exact unchanged
    | some entry =>
        rw [found] at done
        dsimp only at done
        cases held : entry.lookup (manager.connId client) with
        | none =>
            rw [held] at done
            cases done
            exact unchanged
        | some client2 =>
            rw [held] at done
            dsimp only at done
            split at done
            · cases done
              exact .clientRemoved server _ entry client2 found held rfl
            · cases done
  · cases done

theorem releaseAllClients_effect {manager next : ConnManager} {server : Nat}
    {order : List ConnEntry} (done : manager.releaseAllClients server order = some next) :
    Effect manager (.releaseAllClients server order) next := by
  unfold releaseAllClients at done
  split at done
  · cases found : manager.mapServerEntry.lookup server with
    | none =>
        rw [found] at done
        cases done
        exact .flagged manager.flags rfl
    | some entry =>
        rw [found] at done
        dsimp only at done
        split at done
        · rename_i iterates
          rcases Option.map_eq_some_iff.mp done with ⟨released, loop, rfl⟩
          rcases releaseClients_eq loop with ⟨count, decrements, rfl, counted⟩
          exact .clientsReleased server entry order count decrements found iterates rfl counted
        · cases done
  · cases done

/-- The inversion of a step. -/
theorem step_effect {manager next : ConnManager} {event : ConnEvent}
    (step : manager.Step event next) : Effect manager event next := by
  unfold Step at step
  cases event with
  | createTcpClientOnServer server =>
      simp only [perform, createTcpClientOnServer, onAddClient, newConnection_connId] at step
      split at step
      · cases step
        exact .clientAdded server trivial rfl
      · cases step
  | createTcpIsolated =>
      simp only [perform, createTcpIsolated, onAddIsolated, newConnection_connId] at step
      split at step
      · cases step
        exact .isolatedAdded trivial rfl
      · cases step
  | onRemoveClient server client => exact onRemoveClient_effect step
  | releaseAllClients server order => exact releaseAllClients_effect step
  | releaseAllIsolateds order =>
      simp only [perform, releaseAllIsolateds] at step
      split at step
      · rename_i iterates
        cases step
        exact .isolatedsReleased order iterates (by rw [recyclerPush_all])
      · cases step
  | recycle =>
      cases step
      exact .recycled rfl
  | setFlags conn flags =>
      cases step
      exact .flagged _ rfl

/-! ## What holds in every run -/

/-- Ids follow the draws, and a map holds a connection under its id. -/
structure Formed (manager : ConnManager) : Prop where
  next : manager.getNextConnectionId = drawnId manager.created
  ids : forall conn, conn < manager.created -> manager.connId conn = drawnId conn
  client : forall server key conn, manager.mapServerEntry.Holds server key conn ->
    conn < manager.created ∧ key = manager.connId conn
  isolated : forall key conn, manager.mapIsolated.lookup key = some conn ->
    conn < manager.created ∧ key = manager.connId conn
  idle : manager.vSafeToRelease = []
  safe : forall entry, entry ∈ manager.deletions -> entry.2.SafeToRelease

theorem initial_formed : initial.Formed := by
  refine ⟨rfl, ?_, ?_, ?_, rfl, ?_⟩
  · intro conn impossible
    exact absurd impossible (Nat.not_lt_zero _)
  · rintro server key conn ⟨inner, impossible, _⟩
    cases impossible
  · intro key conn impossible
    cases impossible
  · intro entry impossible
    cases impossible

/-- A manager that differs only in the members that `Formed` does not mention. -/
theorem Formed.congr {manager next : ConnManager} (formed : manager.Formed)
    (counter : next.uNextId = manager.uNextId) (created : next.created = manager.created)
    (connId : next.connId = manager.connId)
    (client : forall server key conn, next.mapServerEntry.Holds server key conn ->
      manager.mapServerEntry.Holds server key conn)
    (isolated : forall key conn, next.mapIsolated.lookup key = some conn ->
      manager.mapIsolated.lookup key = some conn)
    (idle : next.vSafeToRelease = [])
    (safe : forall entry, entry ∈ next.deletions -> entry.2.SafeToRelease) : next.Formed := by
  refine ⟨?_, ?_, ?_, ?_, idle, safe⟩
  · rw [getNextConnectionId, counter, created]
    exact formed.next
  · rw [created, connId]
    exact formed.ids
  · intro server key conn holds
    rw [created, connId]
    exact formed.client server key conn (client server key conn holds)
  · intro key conn found
    rw [created, connId]
    exact formed.isolated key conn (isolated key conn found)

/-- Older connections keep their ids. -/
theorem newConnection_connId_of_lt {manager : ConnManager} {conn : ConnRef}
    (older : conn < manager.created) (bFlushed : Bool) :
    (manager.newConnection bFlushed).connId conn = manager.connId conn :=
  Function.update_of_ne (Nat.ne_of_lt older) _ _

/-- The counter and the ids through a draw. -/
theorem newConnection_ids {manager : ConnManager} (formed : manager.Formed) (bFlushed : Bool) :
    (manager.newConnection bFlushed).getNextConnectionId = drawnId (manager.created + 1) ∧
      forall conn, conn < manager.created + 1 ->
        (manager.newConnection bFlushed).connId conn = drawnId conn := by
  constructor
  · have drawn := formed.next
    change (if tcpConnIdMax ≤ manager.getNextConnectionId + 1 then tcpConnIdBase + 1
      else manager.getNextConnectionId + 1) = _
    rw [drawn]
    unfold drawnId
    rw [connIdPeriod_eq]
    unfold tcpConnIdBase tcpConnIdMax
    split <;> omega
  · intro conn below
    by_cases newest : conn = manager.created
    · rw [newest, newConnection_connId, formed.next]
    · have older : conn < manager.created := by omega
      rw [newConnection_connId_of_lt older]
      exact formed.ids conn older

/-- The loop of `RecyclerPop` divides the recycler. -/
theorem recyclerLoop_count (flags : ConnRef -> ConnFlags) (conns : List ConnRef) (conn : ConnRef) :
    (recyclerLoop flags conns).1.count conn + (recyclerLoop flags conns).2.count conn =
      conns.count conn := by
  induction conns with
  | nil => rfl
  | cons head rest inductionHypothesis =>
      rw [recyclerLoop]
      split
      · simp only [List.count_cons]
        omega
      · simp only [List.count_cons]
        omega

theorem recyclerLoop_safe (flags : ConnRef -> ConnFlags) (conns : List ConnRef) :
    forall conn, conn ∈ (recyclerLoop flags conns).2 -> (flags conn).SafeToRelease := by
  induction conns with
  | nil =>
      intro conn impossible
      cases impossible
  | cons head rest inductionHypothesis =>
      intro conn member
      rw [recyclerLoop] at member
      split at member
      · rename_i safe
        rcases List.mem_cons.mp member with same | later
        · exact same ▸ safe
        · exact inductionHypothesis conn later
      · exact inductionHypothesis conn member

theorem Formed.step {manager next : ConnManager} {event : ConnEvent} (formed : manager.Formed)
    (step : manager.Step event next) : next.Formed := by
  cases step_effect step with
  | clientAdded server _ next_eq =>
      subst next_eq
      rcases newConnection_ids formed false with ⟨counter, ids⟩
      refine ⟨counter, ids, ?_, ?_, formed.idle, formed.safe⟩
      · intro place key conn holds
        rcases holds.of_assign with ⟨rfl, rfl⟩ | before
        · exact ⟨Nat.lt_succ_self _, (newConnection_connId manager false).symm⟩
        · rcases formed.client place key conn before with ⟨older, same⟩
          exact ⟨Nat.lt_succ_of_lt older,
            same.trans (newConnection_connId_of_lt older false).symm⟩
      · intro key conn found
        rcases formed.isolated key conn found with ⟨older, same⟩
        exact ⟨Nat.lt_succ_of_lt older, same.trans (newConnection_connId_of_lt older false).symm⟩
  | isolatedAdded _ next_eq =>
      subst next_eq
      rcases newConnection_ids formed true with ⟨counter, ids⟩
      refine ⟨counter, ids, ?_, ?_, formed.idle, formed.safe⟩
      · intro place key conn holds
        rcases formed.client place key conn holds with ⟨older, same⟩
        exact ⟨Nat.lt_succ_of_lt older, same.trans (newConnection_connId_of_lt older true).symm⟩
      · intro key conn found
        by_cases newest : key = manager.getNextConnectionId
        · rw [newest, AList.lookup_insert] at found
          cases found
          exact ⟨Nat.lt_succ_self _, newest.trans (newConnection_connId manager true).symm⟩
        · rw [AList.lookup_insert_ne newest] at found
          rcases formed.isolated key conn found with ⟨older, same⟩
          exact ⟨Nat.lt_succ_of_lt older, same.trans (newConnection_connId_of_lt older true).symm⟩
  | clientRemoved server uConnId entry client found held next_eq =>
      subst next_eq
      exact formed.congr rfl rfl rfl (fun _ _ _ holds => holds.of_erase found)
        (fun _ _ found => found) formed.idle formed.safe
  | clientsReleased server entry order count decrements found iterates next_eq counted =>
      subst next_eq
      exact formed.congr rfl rfl rfl (fun _ _ _ holds => holds.of_clear)
        (fun _ _ found => found) formed.idle formed.safe
  | isolatedsReleased order iterates next_eq =>
      subst next_eq
      exact formed.congr rfl rfl rfl (fun _ _ _ holds => holds) nofun formed.idle formed.safe
  | recycled next_eq =>
      subst next_eq
      refine formed.congr rfl rfl rfl (fun _ _ _ holds => holds) (fun _ _ found => found) rfl ?_
      intro entry member
      rcases List.mem_append.mp member with old | new
      · exact formed.safe entry old
      · rcases List.mem_map.mp new with ⟨conn, popped, rfl⟩
        change conn ∈ manager.vSafeToRelease ++ (recyclerLoop manager.flags manager.vRecycler).2
          at popped
        rw [formed.idle, List.nil_append] at popped
        exact recyclerLoop_safe _ _ conn popped
  | flagged flags next_eq =>
      subst next_eq
      exact formed.congr rfl rfl rfl (fun _ _ _ holds => holds) (fun _ _ found => found)
        formed.idle formed.safe

theorem formed_of_run {manager : ConnManager} {events : List ConnEvent}
    (run : Run Step initial events manager) : manager.Formed :=
  run.invariant Formed (fun _ _ _ formed step => formed.step step) initial_formed

/-! ## Runs without a clash -/

/-- No connection whose id was drawn a whole number of periods ago is still
registered. -/
def NoClash (manager : ConnManager) : Prop :=
  forall conn, conn ∈ manager.registered -> (manager.created - conn) % connIdPeriod ≠ 0

/-- A step that, if it draws an id, draws it without a clash. -/
def FreshStep (manager : ConnManager) (event : ConnEvent) (next : ConnManager) : Prop :=
  manager.Step event next ∧ (event.Draws -> manager.NoClash)

/-- Every connection that was created is in one place: in the map of one
server, in the map of isolated connections, in the recycler, or deleted. -/
structure Owned (manager : ConnManager) : Prop where
  partition : forall conn, manager.clients.count conn + manager.isolateds.count conn +
    manager.vRecycler.count conn + manager.deleted.count conn =
      if conn < manager.created then 1 else 0
  count : manager.szClientCount = manager.clients.length
  positive : forall before, before ∈ manager.decrements -> 0 < before

theorem initial_owned : initial.Owned := by
  refine ⟨?_, rfl, ?_⟩
  · intro conn
    exact (if_neg (Nat.not_lt_zero conn)).symm
  · intro before impossible
    cases impossible

theorem mem_registered_of_client {manager : ConnManager} {server key : Nat} {conn : ConnRef}
    (holds : manager.mapServerEntry.Holds server key conn) : conn ∈ manager.registered :=
  List.mem_append_left _ (KeyedMap.mem_allValues_iff.mpr ⟨server, key, holds⟩)

theorem mem_registered_of_isolated {manager : ConnManager} {key : Nat} {conn : ConnRef}
    (found : manager.mapIsolated.lookup key = some conn) : conn ∈ manager.registered :=
  List.mem_append_right _ (KeyedMap.mem_values_iff.mpr ⟨key, found⟩)

/-- A registered connection exists and is found under its id. -/
theorem Formed.of_registered {manager : ConnManager} (formed : manager.Formed) {conn : ConnRef}
    (member : conn ∈ manager.registered) :
    conn < manager.created ∧ manager.connId conn = drawnId conn := by
  have below : conn < manager.created := by
    rcases List.mem_append.mp member with client | isolated
    · rcases KeyedMap.mem_allValues_iff.mp client with ⟨server, key, holds⟩
      exact (formed.client server key conn holds).1
    · rcases KeyedMap.mem_values_iff.mp isolated with ⟨key, found⟩
      exact (formed.isolated key conn found).1
  exact ⟨below, formed.ids conn below⟩

/-- A draw returns the id of a registered connection exactly when it clashes. -/
theorem Formed.fresh_iff {manager : ConnManager} (formed : manager.Formed) :
    (forall conn, conn ∈ manager.registered ->
      manager.connId conn ≠ manager.getNextConnectionId) ↔ manager.NoClash := by
  constructor
  · intro fresh conn member clash
    rcases formed.of_registered member with ⟨below, id⟩
    apply fresh conn member
    rw [id, formed.next]
    exact (drawnId_eq_iff (Nat.le_of_lt below)).mpr clash
  · intro noClash conn member same
    rcases formed.of_registered member with ⟨below, id⟩
    rw [id, formed.next] at same
    exact noClash conn member ((drawnId_eq_iff (Nat.le_of_lt below)).mp same)

/-- Without a clash the key of the new entry is not in use. -/
theorem Formed.unused {manager : ConnManager} (formed : manager.Formed)
    (noClash : manager.NoClash) :
    (forall server other,
      ¬ manager.mapServerEntry.Holds server manager.getNextConnectionId other) ∧
    manager.mapIsolated.lookup manager.getNextConnectionId = none := by
  have fresh := formed.fresh_iff.mpr noClash
  constructor
  · intro server other holds
    exact fresh other (mem_registered_of_client holds) (formed.client _ _ _ holds).2.symm
  · cases found : manager.mapIsolated.lookup manager.getNextConnectionId with
    | none => rfl
    | some other =>
        exact absurd (formed.isolated _ _ found).2.symm
          (fresh other (mem_registered_of_isolated found))

/-- One more connection, and one more place. -/
theorem one_more (created conn : Nat) :
    (if conn < created then 1 else 0) + [created].count conn =
      if conn < created + 1 then 1 else 0 := by
  rw [List.count_singleton]
  simp only [beq_iff_eq]
  split <;> split <;> split <;> omega

section Steps

variable {manager next : ConnManager}

/-- A connection that has just been created is registered as a client. -/
theorem Owned.of_clientAdded (owned : manager.Owned)
    (clients : next.clients.Perm (manager.created :: manager.clients))
    (isolateds : next.isolateds = manager.isolateds) (recycler : next.vRecycler = manager.vRecycler)
    (deleted : next.deleted = manager.deleted) (created : next.created = manager.created + 1)
    (count : next.szClientCount = manager.szClientCount + 1)
    (decrements : next.decrements = manager.decrements) : next.Owned := by
  refine ⟨?_, ?_, ?_⟩
  · intro conn
    have before := owned.partition conn
    have more := one_more manager.created conn
    rw [clients.count_eq, isolateds, recycler, deleted, created, ← List.singleton_append,
      List.count_append]
    omega
  · rw [count, clients.length_eq, List.length_cons, owned.count]
  · rw [decrements]
    exact owned.positive

/-- A connection that has just been created is registered as isolated. -/
theorem Owned.of_isolatedAdded (owned : manager.Owned) (clients : next.clients = manager.clients)
    (isolateds : next.isolateds = manager.created :: manager.isolateds)
    (recycler : next.vRecycler = manager.vRecycler) (deleted : next.deleted = manager.deleted)
    (created : next.created = manager.created + 1)
    (count : next.szClientCount = manager.szClientCount)
    (decrements : next.decrements = manager.decrements) : next.Owned := by
  refine ⟨?_, ?_, ?_⟩
  · intro conn
    have before := owned.partition conn
    have more := one_more manager.created conn
    rw [clients, isolateds, recycler, deleted, created, ← List.singleton_append,
      List.count_append]
    omega
  · rw [count, clients, owned.count]
  · rw [decrements]
    exact owned.positive

/-- Connections move from one place to another. -/
theorem Owned.of_moved (owned : manager.Owned) (created : next.created = manager.created)
    (moved : (next.clients ++ next.isolateds ++ next.vRecycler ++ next.deleted).Perm
      (manager.clients ++ manager.isolateds ++ manager.vRecycler ++ manager.deleted))
    (count : next.szClientCount = next.clients.length)
    (positive : forall before, before ∈ next.decrements -> 0 < before) : next.Owned := by
  refine ⟨?_, count, positive⟩
  intro conn
  have same := moved.count_eq conn
  simp only [List.count_append] at same
  rw [same, created]
  exact owned.partition conn

end Steps

/-- Registered clients are removed one by one, or all of a server together. -/
theorem perm_recycled {clients kept gone isolateds recycler deleted order : List ConnRef}
    (split : clients.Perm (gone ++ kept)) (iterates : order.Perm gone) :
    (kept ++ isolateds ++ (recycler ++ order) ++ deleted).Perm
      (clients ++ isolateds ++ recycler ++ deleted) := by
  rw [List.perm_iff_count]
  intro conn
  have first := split.count_eq conn
  have second := iterates.count_eq conn
  simp only [List.count_append] at first ⊢
  omega

/-- What is popped from the recycler is deleted. -/
theorem recycle_deleted {manager : ConnManager} (idle : manager.vSafeToRelease = []) :
    manager.recycle.deleted =
      manager.deleted ++ (recyclerLoop manager.flags manager.vRecycler).2 := by
  rw [ConnManager.deleted, recycle, safeRelease, recyclerPop, idle]
  simp [ConnManager.deleted, Function.comp_def]

theorem Owned.step {manager next : ConnManager} {event : ConnEvent} (formed : manager.Formed)
    (owned : manager.Owned) (step : manager.FreshStep event next) : next.Owned := by
  have counted := owned.count
  cases step_effect step.1 with
  | clientAdded server draws next_eq =>
      have noClash := step.2 draws
      subst next_eq
      exact owned.of_clientAdded
        (KeyedMap.allValues_assign manager.created ((formed.unused noClash).1 server))
        rfl rfl rfl rfl rfl rfl
  | isolatedAdded draws next_eq =>
      have unused := (formed.unused (step.2 draws)).2
      subst next_eq
      refine owned.of_isolatedAdded rfl ?_ rfl rfl rfl rfl rfl
      change KeyedMap.values (manager.mapIsolated.insert _ _) = _
      rw [KeyedMap.values_insert, KeyedMap.values_erase_of_absent unused]
      rfl
  | clientRemoved server uConnId entry client found held next_eq =>
      subst next_eq
      have split : manager.clients.Perm ([client] ++ _) := KeyedMap.allValues_erase found held
      have size := split.length_eq
      rw [List.length_append, List.length_singleton] at size
      refine owned.of_moved rfl (perm_recycled split (List.Perm.refl _)) ?_ ?_
      · change (if manager.szClientCount = 0 then _ else _) = _
        rw [if_neg (by omega), counted, size, Nat.add_sub_cancel_left]
        rfl
      · intro before member
        rcases List.mem_append.mp member with old | last
        · exact owned.positive before old
        · rw [List.mem_singleton.mp last]
          omega
  | clientsReleased server entry order count decrements found iterates next_eq loop =>
      subst next_eq
      have split := KeyedMap.allValues_clear found
      have size : manager.clients.length = _ := split.length_eq
      have orderSize := iterates.length_eq
      rw [List.length_append, KeyedMap.length_values] at size
      rcases loop (by omega) with ⟨total, recorded⟩
      refine owned.of_moved rfl (perm_recycled split (KeyedMap.values_of_perm iterates)) ?_ ?_
      · change count = (KeyedMap.allValues (manager.mapServerEntry.insert server ∅)).length
        omega
      · intro before member
        rcases recorded before member with old | positive
        · exact owned.positive before old
        · exact positive
  | isolatedsReleased order iterates next_eq =>
      subst next_eq
      refine owned.of_moved rfl ?_ owned.count owned.positive
      rw [List.perm_iff_count]
      intro conn
      have moved := (KeyedMap.values_of_perm iterates).count_eq conn
      simp only [List.count_append]
      change manager.clients.count conn + 0 + _ + manager.deleted.count conn =
        manager.clients.count conn + manager.mapIsolated.values.count conn + _ + _
      omega
  | recycled next_eq =>
      subst next_eq
      refine owned.of_moved rfl ?_ owned.count owned.positive
      rw [List.perm_iff_count]
      intro conn
      have divided := recyclerLoop_count manager.flags manager.vRecycler conn
      rw [recycle_deleted formed.idle]
      simp only [List.count_append]
      change manager.clients.count conn + manager.isolateds.count conn +
        (recyclerLoop manager.flags manager.vRecycler).1.count conn + _ = _
      omega
  | flagged flags next_eq =>
      subst next_eq
      exact ⟨owned.partition, owned.count, owned.positive⟩

/-! ## Fewer ids than one period -/

theorem created_le_of_step {manager next : ConnManager} {event : ConnEvent}
    (step : manager.Step event next) : manager.created ≤ next.created := by
  cases step_effect step with
  | clientAdded server _ next_eq =>
      rw [next_eq]
      exact Nat.le_succ _
  | isolatedAdded _ next_eq =>
      rw [next_eq]
      exact Nat.le_succ _
  | clientRemoved server uConnId entry client found held next_eq => rw [next_eq]
  | clientsReleased server entry order count decrements found iterates next_eq => rw [next_eq]
  | isolatedsReleased order iterates next_eq => rw [next_eq]
  | recycled next_eq =>
      rw [next_eq]
      exact Nat.le_refl _
  | flagged flags next_eq => rw [next_eq]

theorem created_le_of_run {manager last : ConnManager} {events : List ConnEvent}
    (run : Run Step manager events last) : manager.created ≤ last.created := by
  induction run with
  | nil => exact Nat.le_refl _
  | cons once _ inductionHypothesis => exact Nat.le_trans (created_le_of_step once) inductionHypothesis

/-- Before a period is over there is no clash. -/
theorem Formed.noClash {manager : ConnManager} (formed : manager.Formed)
    (few : manager.created < connIdPeriod) : manager.NoClash := by
  intro conn member
  have below := (formed.of_registered member).1
  rw [Nat.mod_eq_of_lt (by omega)]
  exact Nat.sub_ne_zero_of_lt below

theorem freshRun_of_few {manager last : ConnManager} {events : List ConnEvent}
    (run : Run Step manager events last) (formed : manager.Formed)
    (few : last.created < connIdPeriod) : Run FreshStep manager events last := by
  induction run with
  | nil => exact .nil _
  | cons once rest inductionHypothesis =>
      have bound := created_le_of_run (.cons once rest)
      refine .cons ⟨once, fun _ => formed.noClash (by omega)⟩ ?_
      exact inductionHypothesis (formed.step once) few

/-! ## Assertions -/

/-- What the callers promise: a server is not null, a client to remove exists,
and an iteration takes each entry of the map once. -/
def Admits (manager : ConnManager) : ConnEvent -> Prop
  | .createTcpClientOnServer server => 0 < server
  | .onRemoveClient server client =>
      0 < server ∧ client < manager.created ∧ ¬ manager.Deleted client
  | .releaseAllClients server order =>
      0 < server ∧ forall clients, manager.mapServerEntry.lookup server = some clients ->
        order.Perm clients.entries
  | .releaseAllIsolateds order => order.Perm manager.mapIsolated.entries
  | .createTcpIsolated => True
  | .recycle => True
  | .setFlags _ _ => True

theorem Formed.nextConnectionId_pos {manager : ConnManager} (formed : manager.Formed) :
    0 < manager.getNextConnectionId := by
  rw [formed.next]
  exact Nat.lt_of_le_of_lt (Nat.zero_le _) (drawnId_bounds manager.created).1

/-- Before a period is over, connections with the same id are the same. -/
theorem Formed.connId_inj {manager : ConnManager} (formed : manager.Formed)
    (few : manager.created < connIdPeriod) {conn other : ConnRef} (below : conn < manager.created)
    (otherBelow : other < manager.created) (same : manager.connId conn = manager.connId other) :
    conn = other := by
  rw [formed.ids conn below, formed.ids other otherBelow] at same
  unfold drawnId at same
  rw [Nat.mod_eq_of_lt (Nat.lt_trans below few),
    Nat.mod_eq_of_lt (Nat.lt_trans otherBelow few)] at same
  exact Nat.add_left_cancel same

/-- `OnRemoveClient` finds the client it was given, or nothing. -/
theorem onRemoveClient_defined {manager : ConnManager} (formed : manager.Formed)
    (few : manager.created < connIdPeriod) {server : Nat} {client : ConnRef} (named : 0 < server)
    (below : client < manager.created) (alive : ¬ manager.Deleted client) :
    Exists fun next => manager.onRemoveClient server client = some next := by
  have positive : 0 < manager.connId client := by
    rw [formed.ids client below]
    exact Nat.lt_of_le_of_lt (Nat.zero_le _) (drawnId_bounds client).1
  unfold onRemoveClient
  rw [if_pos ⟨below, alive, named, positive⟩]
  cases found : manager.mapServerEntry.lookup server with
  | none => exact ⟨_, rfl⟩
  | some entry =>
      dsimp only
      cases held : entry.lookup (manager.connId client) with
      | none => exact ⟨_, rfl⟩
      | some client2 =>
          rcases formed.client _ _ _ ⟨entry, found, held⟩ with ⟨otherBelow, sameId⟩
          have same : client2 = client := (formed.connId_inj few below otherBelow sameId).symm
          dsimp only
          rw [if_pos same]
          exact ⟨_, rfl⟩

/-- The loop of `ReleaseAllClients` meets each client under its id. -/
theorem releaseClients_defined {manager : ConnManager} {order : List ConnEntry}
    (keyed : forall entry, entry ∈ order -> entry.1 = manager.connId entry.2) :
    Exists fun next => manager.releaseClients order = some next := by
  induction order generalizing manager with
  | nil => exact ⟨manager, rfl⟩
  | cons entry order inductionHypothesis =>
      rcases entry with ⟨uConnId, client⟩
      rw [releaseClients, if_pos (keyed _ List.mem_cons_self)]
      exact inductionHypothesis fun entry member => keyed entry (List.mem_cons_of_mem _ member)

theorem releaseAllClients_defined {manager : ConnManager} (formed : manager.Formed) {server : Nat}
    {order : List ConnEntry} (named : 0 < server)
    (iterates : forall clients, manager.mapServerEntry.lookup server = some clients ->
      order.Perm clients.entries) :
    Exists fun next => manager.releaseAllClients server order = some next := by
  unfold releaseAllClients
  rw [if_pos named]
  cases found : manager.mapServerEntry.lookup server with
  | none => exact ⟨_, rfl⟩
  | some clients =>
      have keyed : forall entry, entry ∈ order -> entry.1 = manager.connId entry.2 := by
        intro entry member
        have inside := (iterates clients found).mem_iff.mp member
        exact (formed.client server _ _
          ⟨clients, found, AList.mem_lookup_iff.mpr inside⟩).2
      rcases releaseClients_defined keyed with ⟨released, loop⟩
      dsimp only
      rw [if_pos (iterates clients found), loop]
      exact ⟨_, rfl⟩

/-- No assertion fails before a period of ids is over. -/
theorem step_defined {manager : ConnManager} (formed : manager.Formed)
    (few : manager.created < connIdPeriod) {event : ConnEvent} (admits : manager.Admits event) :
    Exists fun next => manager.Step event next := by
  unfold Step
  cases event with
  | createTcpClientOnServer server =>
      simp only [perform, createTcpClientOnServer, onAddClient, newConnection_connId]
      rw [if_pos ⟨admits, formed.nextConnectionId_pos⟩]
      exact ⟨_, rfl⟩
  | createTcpIsolated =>
      simp only [perform, createTcpIsolated, onAddIsolated, newConnection_connId]
      rw [if_pos formed.nextConnectionId_pos]
      exact ⟨_, rfl⟩
  | onRemoveClient server client =>
      rcases admits with ⟨named, below, alive⟩
      exact onRemoveClient_defined formed few named below alive
  | releaseAllClients server order => exact releaseAllClients_defined formed admits.1 admits.2
  | releaseAllIsolateds order =>
      have iterates : order.Perm manager.mapIsolated.entries := admits
      simp only [perform, releaseAllIsolateds]
      rw [if_pos iterates]
      exact ⟨_, rfl⟩
  | recycle => exact ⟨_, rfl⟩
  | setFlags conn flags => exact ⟨_, rfl⟩

/-- Where nothing is overwritten, every connection is in one place. -/
theorem owned_of_freshRun {manager : ConnManager} {events : List ConnEvent}
    (run : Run FreshStep initial events manager) : manager.Formed ∧ manager.Owned :=
  run.invariant (fun manager => manager.Formed ∧ manager.Owned)
    (fun _ _ _ kept step => ⟨kept.1.step step.1, kept.2.step kept.1 step⟩)
    ⟨initial_formed, initial_owned⟩

theorem Owned.count_clients_le {manager : ConnManager} (owned : manager.Owned) (conn : ConnRef) :
    manager.clients.count conn ≤ 1 := by
  have whole := owned.partition conn
  split at whole <;> omega

/-- In every run that has drawn fewer ids than there are, each connection is in
exactly one of the maps of the servers, the map of isolated connections, the
recycler and the deleted ones, and in the map of one server only.  No
connection is deleted twice, and each is deleted only when nothing uses it.
The client count is the sum of the sizes of the servers' maps and is never
decremented below zero.  No assertion fails in the next call. -/
theorem connections_owned_once {events : List ConnEvent} {manager : ConnManager}
    (run : Run Step initial events manager) (few : manager.created < 998999999999) :
    (forall conn, conn < manager.created ->
      manager.clients.count conn + manager.isolateds.count conn + manager.vRecycler.count conn +
        manager.deleted.count conn = 1) ∧
    (forall conn server key otherServer otherKey,
      manager.mapServerEntry.Holds server key conn ->
      manager.mapServerEntry.Holds otherServer otherKey conn ->
      otherServer = server ∧ otherKey = key) ∧
    manager.deleted.Nodup ∧
    (forall conn flags, (conn, flags) ∈ manager.deletions ->
      flags.bConnected = false ∧ flags.isFrontEndClean = true ∧ flags.isBackEndClean = true ∧
        flags.bDisposed = true ∧ flags.bFlushed = true) ∧
    manager.szClientCount =
      (manager.mapServerEntry.values.map fun clients => clients.entries.length).sum ∧
    (forall before, before ∈ manager.decrements -> 0 < before) ∧
    (forall event, manager.Admits event -> Exists fun next => manager.Step event next) := by
  rcases owned_of_freshRun (freshRun_of_few run initial_formed few) with ⟨formed, owned⟩
  refine ⟨?_, ?_, ?_, ?_, ?_, owned.positive, fun _ admits => step_defined formed few admits⟩
  · intro conn below
    rw [owned.partition conn, if_pos below]
  · intro conn server key otherServer otherKey holds again
    refine ⟨holds.place_unique (owned.count_clients_le conn) again, ?_⟩
    rw [(formed.client _ _ _ again).2, (formed.client _ _ _ holds).2]
  · rw [List.nodup_iff_count_le_one]
    intro conn
    have whole := owned.partition conn
    split at whole <;> omega
  · intro conn flags member
    rcases formed.safe _ member with ⟨connected, backEnd, frontEnd, disposed, flushed⟩
    exact ⟨connected, frontEnd, backEnd, disposed, flushed⟩
  · rw [owned.count]
    exact KeyedMap.length_allValues _

/-- Flags of a connection that nothing uses any more. -/
def releasedFlags : ConnFlags := ⟨false, true, true, 3, 3, 5, 5⟩

/-- Two clients and an isolated connection; the first client is removed twice,
also from the wrong server, and deleted, and everything else is released. -/
def releaseEvents : List ConnEvent :=
  [.createTcpClientOnServer 1, .createTcpClientOnServer 1, .createTcpIsolated,
    .onRemoveClient 2 0, .onRemoveClient 1 0, .recycle, .setFlags 0 releasedFlags,
    .onRemoveClient 1 0, .recycle, .releaseAllClients 1 [⟨1000000002, 1⟩],
    .releaseAllIsolateds [⟨1000000003, 2⟩]]

theorem connections_owned_once_released :
    Exists fun manager : ConnManager => Run Step initial releaseEvents manager ∧
      manager.created < 998999999999 ∧ manager.deleted = [0] ∧ manager.vRecycler = [1, 2] ∧
      manager.szClientCount =
        (manager.mapServerEntry.values.map fun clients => clients.entries.length).sum := by
  have run : Exists fun manager : ConnManager => Run Step initial releaseEvents manager ∧
      manager.created = 3 ∧ manager.deleted = [0] ∧ manager.vRecycler = [1, 2] :=
    ⟨_, Run.of_foldlM _ rfl, rfl, rfl, rfl⟩
  rcases run with ⟨manager, run, three, deleted, recycler⟩
  have few : manager.created < 998999999999 := by
    rw [three]
    decide
  exact ⟨manager, run, few, deleted, recycler, (connections_owned_once run few).2.2.2.2.1⟩

end ConnManager
end NetSystem
