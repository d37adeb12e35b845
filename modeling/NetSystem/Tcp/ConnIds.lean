import NetSystem.Tcp.ConnOwnership

namespace NetSystem

/-!
# Connection ids of live connections

The counter of `GetNextConnectionId` runs through all ids between
`TCP_CONNID_BASE` and `TCP_CONNID_MAX` and starts over without looking at the
ids in use.  So an id is unique among the registered connections as long as no
connection stays registered for a whole period of the counter, and a connection
that does is overwritten, or found under an id that another one has as well.
-/

namespace ConnManager

/-- Registered connections have different ids. -/
def Distinct (manager : ConnManager) : Prop :=
  forall conn other, conn ∈ manager.registered -> other ∈ manager.registered ->
    manager.connId conn = manager.connId other -> conn = other

/-- A connection that is registered after a step was registered before, or has
just been created. -/
theorem registered_of_step {manager next : ConnManager} {event : ConnEvent}
    (step : manager.Step event next) {conn : ConnRef} (member : conn ∈ next.registered) :
    conn ∈ manager.registered ∨ (event.Draws ∧ conn = manager.created) := by
  have cases_of : (conn ∈ next.clients -> conn ∈ manager.clients ∨
        (event.Draws ∧ conn = manager.created)) ∧
      (conn ∈ next.isolateds -> conn ∈ manager.isolateds ∨
        (event.Draws ∧ conn = manager.created)) := by
    cases step_effect step with
    | clientAdded server draws next_eq =>
        subst next_eq
        refine ⟨?_, Or.inl⟩
        intro inside
        rcases KeyedMap.mem_allValues_iff.mp inside with ⟨place, key, holds⟩
        rcases holds.of_assign with ⟨_, newest⟩ | before
        · exact Or.inr ⟨draws, newest⟩
        · exact Or.inl (KeyedMap.mem_allValues_iff.mpr ⟨place, key, before⟩)
    | isolatedAdded draws next_eq =>
        subst next_eq
        refine ⟨Or.inl, ?_⟩
        intro inside
        rcases KeyedMap.mem_values_iff.mp inside with ⟨key, found⟩
        change (manager.mapIsolated.insert manager.getNextConnectionId manager.created).lookup key =
          some conn at found
        by_cases newest : key = manager.getNextConnectionId
        · rw [newest, AList.lookup_insert] at found
          exact Or.inr ⟨draws, (Option.some.inj found).symm⟩
        · rw [AList.lookup_insert_ne newest] at found
          exact Or.inl (KeyedMap.mem_values_iff.mpr ⟨key, found⟩)
    | clientRemoved server uConnId entry client found held next_eq =>
        subst next_eq
        refine ⟨?_, Or.inl⟩
        intro inside
        exact Or.inl ((KeyedMap.allValues_erase found held).mem_iff.mpr
          (List.mem_cons_of_mem _ inside))
    | clientsReleased server entry order count decrements found iterates next_eq =>
        subst next_eq
        refine ⟨?_, Or.inl⟩
        intro inside
        exact Or.inl ((KeyedMap.allValues_clear found).mem_iff.mpr
          (List.mem_append_right _ inside))
    | isolatedsReleased order iterates next_eq =>
        subst next_eq
        refine ⟨Or.inl, ?_⟩
        intro impossible
        cases impossible
    | recycled next_eq =>
        subst next_eq
        exact ⟨Or.inl, Or.inl⟩
    | flagged flags next_eq =>
        subst next_eq
        exact ⟨Or.inl, Or.inl⟩
  rcases List.mem_append.mp member with client | isolated
  · rcases cases_of.1 client with before | drawn
    · exact Or.inl (List.mem_append_left _ before)
    · exact Or.inr drawn
  · rcases cases_of.2 isolated with before | drawn
    · exact Or.inl (List.mem_append_right _ before)
    · exact Or.inr drawn

theorem Distinct.step {manager next : ConnManager} {event : ConnEvent} (formed : manager.Formed)
    (distinct : manager.Distinct) (step : manager.FreshStep event next) : next.Distinct := by
  have nextFormed := formed.step step.1
  have fresh : forall conn, event.Draws -> conn ∈ manager.registered ->
      drawnId conn ≠ drawnId manager.created := by
    intro conn draws member same
    rcases formed.of_registered member with ⟨below, _⟩
    exact step.2 draws conn member ((drawnId_eq_iff (Nat.le_of_lt below)).mp same)
  intro conn other member otherMember same
  rw [(nextFormed.of_registered member).2, (nextFormed.of_registered otherMember).2] at same
  rcases registered_of_step step.1 member with before | ⟨draws, rfl⟩
  · rcases registered_of_step step.1 otherMember with otherBefore | ⟨draws, rfl⟩
    · apply distinct conn other before otherBefore
      rw [(formed.of_registered before).2, (formed.of_registered otherBefore).2]
      exact same
    · exact absurd same (fresh conn draws before)
  · rcases registered_of_step step.1 otherMember with otherBefore | ⟨_, rfl⟩
    · exact absurd same.symm (fresh other draws otherBefore)
    · rfl

theorem distinct_of_freshRun {manager : ConnManager} {events : List ConnEvent}
    (run : Run FreshStep initial events manager) : manager.Distinct := by
  have kept := run.invariant (fun manager => manager.Formed ∧ manager.Distinct)
    (fun _ _ _ kept step => ⟨kept.1.step step.1, kept.2.step kept.1 step⟩)
    ⟨initial_formed, nofun⟩
  exact kept.2

/-- The search through the servers, when one client only has the id. -/
theorem lookupClientByConnId_eq {manager : ConnManager} {uConnId : Nat} {conn : ConnRef}
    (only : forall server client, manager.mapServerEntry.Holds server uConnId client ->
      client = conn)
    {servers : List Nat} {server : Nat} (listed : server ∈ servers)
    (holds : manager.mapServerEntry.Holds server uConnId conn) :
    manager.lookupClientByConnId uConnId servers = some conn := by
  induction servers with
  | nil => cases listed
  | cons head rest inductionHypothesis =>
      rw [lookupClientByConnId]
      cases here : (manager.mapServerEntry.lookup head).bind
        fun clients => clients.lookup uConnId with
      | some client =>
          rcases Option.bind_eq_some_iff.mp here with ⟨clients, found, held⟩
          exact congrArg some (only head client ⟨clients, found, held⟩)
      | none =>
          rcases List.mem_cons.mp listed with rfl | later
          · rcases holds with ⟨clients, found, held⟩
            rw [found, Option.bind_some, held] at here
            cases here
          · exact inductionHypothesis later

/-- In every run of any length the ids lie strictly between the bounds, and a
draw returns an id that no registered connection has exactly when no connection
whose id was drawn a whole number of periods before is still registered.  When
all draws of the run met this condition, nothing was overwritten, the
registered connections have different ids, and the search for the id of a
registered client finds that client, in whichever order the servers come. -/
theorem connection_ids_unique {events : List ConnEvent} {manager : ConnManager}
    (run : Run Step initial events manager) :
    (forall conn, conn < manager.created ->
      tcpConnIdBase < manager.connId conn ∧ manager.connId conn < tcpConnIdMax) ∧
    (tcpConnIdBase < manager.getNextConnectionId ∧
      manager.getNextConnectionId < tcpConnIdMax) ∧
    ((forall conn, conn ∈ manager.registered ->
        manager.connId conn ≠ manager.getNextConnectionId) ↔
      forall conn, conn ∈ manager.registered -> (manager.created - conn) % 998999999999 ≠ 0) ∧
    (Run FreshStep initial events manager ->
      (forall conn, conn < manager.created ->
        manager.clients.count conn + manager.isolateds.count conn +
          manager.vRecycler.count conn + manager.deleted.count conn = 1) ∧
      (forall conn other, conn ∈ manager.registered -> other ∈ manager.registered ->
        manager.connId conn = manager.connId other -> conn = other) ∧
      (forall conn servers, conn ∈ manager.clients ->
        servers.Perm manager.mapServerEntry.keys ->
        manager.lookupClientByConnId (manager.connId conn) servers = some conn)) := by
  have formed := formed_of_run run
  refine ⟨?_, ?_, formed.fresh_iff, ?_⟩
  · intro conn below
    rw [formed.ids conn below]
    exact drawnId_bounds conn
  · rw [formed.next]
    exact drawnId_bounds manager.created
  · intro freshRun
    have owned := (owned_of_freshRun freshRun).2
    have distinct := distinct_of_freshRun freshRun
    refine ⟨?_, distinct, ?_⟩
    · intro conn below
      rw [owned.partition conn, if_pos below]
    · intro conn servers member complete
      rcases KeyedMap.mem_allValues_iff.mp member with ⟨server, key, holds⟩
      have id := (formed.client server key conn holds).2
      rw [id] at holds
      have listed : server ∈ servers := by
        rcases holds with ⟨clients, found, _⟩
        rw [complete.mem_iff]
        exact AList.lookup_isSome.mp (by rw [found]; rfl)
      refine lookupClientByConnId_eq ?_ listed holds
      intro otherServer client otherHolds
      exact distinct client conn (mem_registered_of_client otherHolds)
        (mem_registered_of_client holds) (formed.client _ _ _ otherHolds).2.symm

/-! ## A connection that outlives a period -/

/-- The flags of a connection that may be released. -/
def spent : ConnFlags := ⟨false, true, true, 0, 0, 0, 0⟩

/-- A client connects, disconnects and is deleted. -/
def visit (client : ConnRef) : List ConnEvent :=
  [.createTcpClientOnServer 1, .onRemoveClient 1 client, .setFlags client spent, .recycle]

/-- A server with one client. -/
def onlyClient (uConnId : Nat) (client : ConnRef) : ConnMap := AList.singleton uConnId client

theorem lookup_onlyClient (uConnId : Nat) (client : ConnRef) :
    AList.lookup uConnId (onlyClient uConnId client) = some client := by
  rw [onlyClient, ← AList.insert_empty, AList.lookup_insert]

theorem erase_onlyClient (uConnId : Nat) (client : ConnRef) :
    AList.erase uConnId (onlyClient uConnId client) = ∅ := by
  apply AList.ext
  exact List.kerase_cons_eq rfl

/-- A client has come to a server without one. -/
def joined (manager : ConnManager) : ConnManager :=
  { manager.newConnection false with
    mapServerEntry := AList.singleton 1 (onlyClient manager.getNextConnectionId manager.created)
    szClientCount := manager.szClientCount + 1 }

/-- It has gone again. -/
def parted (manager : ConnManager) : ConnManager :=
  ({ manager.joined with mapServerEntry := AList.singleton 1 ∅ }.recyclerPush
    manager.created).decrement

/-- Its flags let it be released. -/
def retired (manager : ConnManager) : ConnManager :=
  { manager.parted with flags := Function.update manager.parted.flags manager.created spent }

/-- The first connection is an isolated one that is still registered, and the
clients that came after it have been deleted. -/
structure Outlived (manager : ConnManager) : Prop where
  servers : manager.mapServerEntry = ∅ ∨ manager.mapServerEntry = AList.singleton 1 ∅
  isolated : manager.mapIsolated = AList.singleton (drawnId 0) 0
  recycler : manager.vRecycler = [] ∧ manager.vSafeToRelease = []
  deleted : forall conn, conn ∈ manager.deleted -> conn < manager.created

namespace Outlived

variable {manager : ConnManager}

theorem registered (outlived : manager.Outlived) : manager.registered = [0] := by
  have none_left : manager.clients = [] := by
    rw [clients]
    rcases outlived.servers with unused | emptied
    · rw [unused]
      rfl
    · rw [emptied]
      rfl
  rw [ConnManager.registered, none_left, isolateds, outlived.isolated]
  rfl

theorem assign (outlived : manager.Outlived) (uConnId : Nat) (client : ConnRef) :
    manager.mapServerEntry.assign 1 uConnId client =
      AList.singleton 1 (onlyClient uConnId client) := by
  rcases outlived.servers with unused | emptied
  · rw [unused]
    rfl
  · rw [emptied]
    rfl

theorem joins (outlived : manager.Outlived) (formed : manager.Formed) :
    manager.Step (.createTcpClientOnServer 1) manager.joined := by
  have assigned := outlived.assign manager.getNextConnectionId manager.created
  simp only [Step, perform, createTcpClientOnServer, onAddClient, newConnection_connId]
  rw [if_pos ⟨Nat.one_pos, formed.nextConnectionId_pos⟩]
  simp only [newConnection, assigned]
  rfl

theorem leaves (outlived : manager.Outlived) (formed : manager.Formed) :
    manager.joined.Step (.onRemoveClient 1 manager.created) manager.parted := by
  have connId : manager.joined.connId manager.created = manager.getNextConnectionId :=
    newConnection_connId manager false
  have positive : 0 < manager.joined.connId manager.created := by
    rw [connId]
    exact formed.nextConnectionId_pos
  have undeleted : ¬ manager.joined.Deleted manager.created :=
    fun deleted => Nat.lt_irrefl _ (outlived.deleted _ deleted)
  have server : manager.joined.mapServerEntry.lookup 1 =
      some (onlyClient (manager.joined.connId manager.created) manager.created) := by
    rw [connId]
    rfl
  simp only [Step, perform, onRemoveClient]
  rw [if_pos ⟨Nat.lt_succ_self _, undeleted, Nat.one_pos, positive⟩, server]
  simp only [lookup_onlyClient, if_true, erase_onlyClient]
  rfl

/-- The client that has gone is all there is to release. -/
theorem recyclerLoop_retired (outlived : manager.Outlived) :
    recyclerLoop manager.retired.flags manager.retired.vRecycler = ([], [manager.created]) := by
  have recycler : manager.retired.vRecycler = [manager.created] := by
    change manager.vRecycler ++ [manager.created] = [manager.created]
    rw [outlived.recycler.1, List.nil_append]
  have flags : manager.retired.flags manager.created = spent := Function.update_self ..
  have free : (manager.retired.flags manager.created).SafeToRelease := by
    rw [flags]
    decide
  rw [recycler, recyclerLoop, if_pos free]
  rfl

theorem recycled (outlived : manager.Outlived) : manager.retired.recycle.Outlived := by
  have loop := outlived.recyclerLoop_retired
  constructor
  · exact .inr rfl
  · exact outlived.isolated
  · exact ⟨congrArg Prod.fst loop, rfl⟩
  · intro conn deleted
    have waiting : manager.retired.vSafeToRelease = [] := outlived.recycler.2
    have all : manager.retired.recycle.deleted = manager.deleted ++ [manager.created] := by
      simp only [recycle, safeRelease, recyclerPop, loop, waiting, ConnManager.deleted,
        List.map_append]
      rfl
    rw [all] at deleted
    rcases List.mem_append.mp deleted with earlier | last
    · exact Nat.lt_succ_of_lt (outlived.deleted conn earlier)
    · rw [List.mem_singleton.mp last]
      exact Nat.lt_succ_self _

/-- After a client has come and gone it is as before, and one id further. -/
theorem visit (outlived : manager.Outlived) (formed : manager.Formed) :
    Exists fun next => Run Step manager (visit manager.created) next ∧
      next.created = manager.created + 1 ∧ next.Outlived :=
  ⟨manager.retired.recycle,
    .cons (outlived.joins formed) (.cons (outlived.leaves formed) (.cons rfl (.single rfl))),
    rfl, outlived.recycled⟩

end Outlived

/-- The first connection is still there after any number of others. -/
theorem outlived_run (number : Nat) : Exists fun events => Exists fun manager : ConnManager =>
    Run Step initial events manager ∧ manager.created = number + 1 ∧ manager.Outlived := by
  induction number with
  | zero =>
      refine ⟨[.createTcpIsolated], _, Run.of_foldlM _ rfl, rfl, .inl rfl, rfl, ⟨rfl, rfl⟩, ?_⟩
      intro conn deleted
      cases deleted
  | succ number inductionHypothesis =>
      rcases inductionHypothesis with ⟨events, manager, run, created, outlived⟩
      rcases outlived.visit (formed_of_run run) with ⟨next, visited, further, again⟩
      rw [created] at further
      exact ⟨_, next, run.append visited, further, again⟩

/-- After a whole period of draws the next id is that of the first connection,
which is still registered, though nothing else is. -/
theorem id_drawn_again :
    ¬ forall events manager, Run Step initial events manager ->
      forall conn, conn ∈ manager.registered ->
        manager.connId conn ≠ manager.getNextConnectionId := by
  intro fresh
  have positive : 0 < connIdPeriod := by decide
  rcases outlived_run (connIdPeriod - 1) with ⟨events, manager, run, created, outlived⟩
  rw [Nat.sub_add_cancel positive] at created
  have formed := formed_of_run run
  have member : 0 ∈ manager.registered := by
    rw [outlived.registered]
    exact List.mem_singleton_self 0
  apply fresh events manager run 0 member
  rw [(formed.of_registered member).2, formed.next, created,
    drawnId_eq_iff (Nat.zero_le connIdPeriod), Nat.sub_zero, Nat.mod_self]

/-- Two clients of different servers and an isolated connection. -/
def threeConnections : List ConnEvent :=
  [.createTcpClientOnServer 1, .createTcpIsolated, .createTcpClientOnServer 2]

theorem connection_ids_unique_three :
    Exists fun manager : ConnManager => Run FreshStep initial threeConnections manager ∧
      manager.clients = [2, 0] ∧
      (tcpConnIdBase < manager.getNextConnectionId ∧
        manager.getNextConnectionId < tcpConnIdMax) ∧
      (forall conn other, conn ∈ manager.registered -> other ∈ manager.registered ->
        manager.connId conn = manager.connId other -> conn = other) := by
  have run : Exists fun manager : ConnManager => Run Step initial threeConnections manager ∧
      manager.created = 3 ∧ manager.clients = [2, 0] :=
    ⟨_, Run.of_foldlM _ rfl, rfl, rfl⟩
  rcases run with ⟨manager, run, three, clients⟩
  have few : manager.created < connIdPeriod := by
    rw [three]
    decide
  have freshRun := freshRun_of_few run initial_formed few
  rcases connection_ids_unique run with ⟨_, bounds, _, unique⟩
  exact ⟨manager, freshRun, clients, bounds, (unique freshRun).2.1⟩

end ConnManager
end NetSystem
