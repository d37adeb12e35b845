import NetSystem.Tcp.ConnOwnership

namespace NetSystem

/-!
# At most one place

Also where ids clash, a connection is never in two places: an entry that is
overwritten is lost, so the connection is in none.
-/

namespace KeyedMap

universe u v w

variable {σ : Type w} {κ : Type u} {ν : Type v} [DecidableEq σ] [DecidableEq κ] [DecidableEq ν]

theorem count_values_erase_le (map : KeyedMap κ ν) (key : κ) (value : ν) :
    (values (map.erase key)).count value ≤ map.values.count value := by
  cases found : map.lookup key with
  | none => rw [values_erase_of_absent found]
  | some held =>
      rw [(values_split found).count_eq, List.count_cons]
      exact Nat.le_add_right _ _

theorem mem_values_of_erase {map : KeyedMap κ ν} {key : κ} {value : ν}
    (held : value ∈ values (map.erase key)) : value ∈ map.values :=
  List.count_pos_iff.mp
    (Nat.lt_of_lt_of_le (List.count_pos_iff.mpr held) (count_values_erase_le map key value))

theorem count_values_insert_le (map : KeyedMap κ ν) (key : κ) (added value : ν) :
    (values (map.insert key added)).count value ≤
      [added].count value + map.values.count value := by
  rw [values_insert, ← List.singleton_append, List.count_append]
  exact Nat.add_le_add_left (count_values_erase_le map key value) _

/-- Assigning adds at most the one value. -/
theorem count_allValues_assign_le (outer : KeyedMap σ (KeyedMap κ ν)) (place : σ) (key : κ)
    (added value : ν) :
    (outer.assign place key added).allValues.count value ≤
      [added].count value + outer.allValues.count value := by
  rw [assign, allValues_insert, List.count_append,
    (allValues_split_getD outer place).count_eq, List.count_append, ← Nat.add_assoc]
  exact Nat.add_le_add_right
    (count_values_insert_le ((outer.lookup place).getD ∅) key added value) _

end KeyedMap

namespace ConnManager

/-- In how many places the connection is. -/
def places (manager : ConnManager) (conn : ConnRef) : Nat :=
  manager.clients.count conn + manager.isolateds.count conn + manager.vRecycler.count conn +
    manager.deleted.count conn

/-- Each connection is in one place at most, and only if it has been created. -/
def Placed (manager : ConnManager) : Prop :=
  forall conn, manager.places conn ≤ if conn < manager.created then 1 else 0

theorem initial_placed : initial.Placed := by
  intro conn
  exact Nat.zero_le _

theorem Placed.of_le {manager next : ConnManager} (placed : manager.Placed)
    (created : next.created = manager.created)
    (fewer : forall conn, next.places conn ≤ manager.places conn) : next.Placed := by
  intro conn
  rw [created]
  exact Nat.le_trans (fewer conn) (placed conn)

/-- A new connection is put in one place. -/
theorem Placed.of_added {manager next : ConnManager} (placed : manager.Placed)
    (created : next.created = manager.created + 1)
    (added : forall conn, next.places conn ≤
      manager.places conn + [manager.created].count conn) : next.Placed := by
  intro conn
  rw [created, ← one_more]
  exact Nat.le_trans (added conn) (Nat.add_le_add_right (placed conn) _)

theorem Placed.step {manager next : ConnManager} {event : ConnEvent} (formed : manager.Formed)
    (placed : manager.Placed) (step : manager.Step event next) : next.Placed := by
  cases step_effect step with
  | clientAdded server _ next_eq =>
      subst next_eq
      refine placed.of_added rfl ?_
      intro conn
      have assigned := KeyedMap.count_allValues_assign_le manager.mapServerEntry server
        manager.getNextConnectionId manager.created conn
      change (KeyedMap.assign _ _ _ _).allValues.count conn + manager.isolateds.count conn +
        manager.vRecycler.count conn + manager.deleted.count conn ≤ _
      unfold places clients
      omega
  | isolatedAdded _ next_eq =>
      subst next_eq
      refine placed.of_added rfl ?_
      intro conn
      have inserted := KeyedMap.count_values_insert_le manager.mapIsolated
        manager.getNextConnectionId manager.created conn
      change manager.clients.count conn +
        (KeyedMap.values (AList.insert _ _ _)).count conn + manager.vRecycler.count conn +
          manager.deleted.count conn ≤ _
      unfold places isolateds
      omega
  | clientRemoved server uConnId entry client found held next_eq =>
      subst next_eq
      refine placed.of_le rfl ?_
      intro conn
      have split := (KeyedMap.allValues_erase found held).count_eq conn
      change (KeyedMap.allValues (AList.insert _ _ _)).count conn + manager.isolateds.count conn +
        (manager.vRecycler ++ [client]).count conn + manager.deleted.count conn ≤ _
      unfold places clients
      rw [List.count_append, List.count_singleton, split, List.count_cons]
      omega
  | clientsReleased server entry order count decrements found iterates next_eq _ =>
      subst next_eq
      refine placed.of_le rfl ?_
      intro conn
      have split := (KeyedMap.allValues_clear found).count_eq conn
      have moved := (KeyedMap.values_of_perm iterates).count_eq conn
      change (KeyedMap.allValues (AList.insert _ _ _)).count conn + manager.isolateds.count conn +
        (manager.vRecycler ++ order.map Sigma.snd).count conn + manager.deleted.count conn ≤ _
      unfold places clients
      rw [List.count_append, split, List.count_append]
      omega
  | isolatedsReleased order iterates next_eq =>
      subst next_eq
      refine placed.of_le rfl ?_
      intro conn
      have moved := (KeyedMap.values_of_perm iterates).count_eq conn
      change manager.clients.count conn + 0 +
        (manager.vRecycler ++ order.map Sigma.snd).count conn + manager.deleted.count conn ≤ _
      unfold places isolateds
      rw [List.count_append]
      omega
  | recycled next_eq =>
      subst next_eq
      refine placed.of_le rfl ?_
      intro conn
      have divided := recyclerLoop_count manager.flags manager.vRecycler conn
      change manager.clients.count conn + manager.isolateds.count conn +
        (recyclerLoop manager.flags manager.vRecycler).1.count conn +
          manager.recycle.deleted.count conn ≤ _
      unfold places
      rw [recycle_deleted formed.idle, List.count_append]
      omega
  | flagged flags next_eq =>
      subst next_eq
      exact placed

/-- In every history, whatever the ids, a connection is in at most one place. -/
theorem placed_of_run {manager : ConnManager} {events : List ConnEvent}
    (run : Run Step initial events manager) : manager.Formed ∧ manager.Placed :=
  run.invariant (fun manager => manager.Formed ∧ manager.Placed)
    (fun _ _ _ kept step => ⟨kept.1.step step, kept.2.step kept.1 step⟩)
    ⟨initial_formed, initial_placed⟩

/-! ## Where one connection is -/

theorem lookup_clientsOf (manager : ConnManager) (server key : Nat) :
    (manager.clientsOf server).lookup key =
      (manager.mapServerEntry.lookup server).bind fun clients => clients.lookup key := by
  unfold clientsOf
  cases manager.mapServerEntry.lookup server <;> rfl

theorem holds_of_lookup {manager : ConnManager} {server key : Nat} {conn : ConnRef}
    (found : (manager.clientsOf server).lookup key = some conn) :
    manager.mapServerEntry.Holds server key conn := by
  rw [lookup_clientsOf] at found
  exact Option.bind_eq_some_iff.mp found

/-- An entry of the map of a server has the id of the client as its key. -/
theorem Formed.connId_of_entry {manager : ConnManager} (formed : manager.Formed) {server : Nat}
    {entry : ConnEntry} (member : entry ∈ (manager.clientsOf server).entries) :
    manager.connId entry.2 = entry.1 :=
  (formed.client server entry.1 entry.2 (holds_of_lookup (AList.mem_lookup_iff.mpr member))).2.symm

theorem holds_of_held {manager : ConnManager} {server : Nat} {conn : ConnRef}
    (held : conn ∈ (manager.clientsOf server).values) :
    Exists fun key => manager.mapServerEntry.Holds server key conn := by
  rcases KeyedMap.mem_values_iff.mp held with ⟨key, found⟩
  exact ⟨key, holds_of_lookup found⟩

/-- A client is registered under its id. -/
theorem Formed.held_iff {manager : ConnManager} (formed : manager.Formed) {server : Nat}
    {conn : ConnRef} : conn ∈ (manager.clientsOf server).values ↔
      (manager.clientsOf server).lookup (manager.connId conn) = some conn := by
  constructor
  · intro held
    rcases KeyedMap.mem_values_iff.mp held with ⟨key, found⟩
    rwa [← (formed.client server key conn (holds_of_lookup found)).2]
  · exact fun found => KeyedMap.mem_values_iff.mpr ⟨_, found⟩

theorem mem_clients_of_held {manager : ConnManager} {server : Nat} {conn : ConnRef}
    (held : conn ∈ (manager.clientsOf server).values) : conn ∈ manager.clients := by
  rcases holds_of_held held with ⟨key, entry, found, at_key⟩
  exact KeyedMap.mem_allValues_iff.mpr ⟨server, key, entry, found, at_key⟩

theorem held_of_mem_clients {manager : ConnManager} {conn : ConnRef}
    (client : conn ∈ manager.clients) :
    Exists fun server => conn ∈ (manager.clientsOf server).values := by
  rcases KeyedMap.mem_allValues_iff.mp client with ⟨server, key, entry, found, at_key⟩
  refine ⟨server, ?_⟩
  rw [clientsOf, found]
  exact KeyedMap.mem_values_iff.mpr ⟨key, at_key⟩

/-- The places exclude each other. -/
theorem Placed.exclusive {manager : ConnManager} (placed : manager.Placed) (conn : ConnRef) :
    (conn ∈ manager.vRecycler ->
      conn ∉ manager.clients ∧ conn ∉ manager.isolateds ∧ conn ∉ manager.deleted) ∧
    (conn ∈ manager.deleted ->
      conn ∉ manager.clients ∧ conn ∉ manager.isolateds ∧ conn ∉ manager.vRecycler) ∧
    (manager.created ≤ conn -> conn ∉ manager.clients ∧ conn ∉ manager.isolateds ∧
      conn ∉ manager.vRecycler ∧ conn ∉ manager.deleted) := by
  have total := placed conn
  unfold places at total
  simp only [← List.count_pos_iff]
  rcases Nat.lt_or_ge conn manager.created with below | above
  · rw [if_pos below] at total
    refine ⟨by omega, by omega, ?_⟩
    intro above
    exact absurd below (Nat.not_lt.mpr above)
  · rw [if_neg (Nat.not_lt.mpr above)] at total
    omega

theorem Placed.created_of_held {manager : ConnManager} (placed : manager.Placed) {conn : ConnRef}
    {server : Nat} (held : conn ∈ (manager.clientsOf server).values) : conn < manager.created :=
  Nat.lt_of_not_le fun above => ((placed.exclusive conn).2.2 above).1 (mem_clients_of_held held)

theorem Placed.created_of_recycled {manager : ConnManager} (placed : manager.Placed)
    {conn : ConnRef} (recycled : conn ∈ manager.vRecycler) : conn < manager.created :=
  Nat.lt_of_not_le fun above => ((placed.exclusive conn).2.2 above).2.2.1 recycled

/-- No connection is in the recycler twice. -/
theorem Placed.vRecycler_nodup {manager : ConnManager} (placed : manager.Placed) :
    manager.vRecycler.Nodup := by
  rw [List.nodup_iff_count_le_one]
  intro conn
  have total := placed conn
  unfold places at total
  split at total <;> omega

/-- A connection in the recycler, or deleted from there, is there once and not
registered. -/
theorem Placed.recycled_once {manager : ConnManager} (placed : manager.Placed) {conn : ConnRef}
    (recycled : conn ∈ manager.vRecycler ++ manager.deleted) :
    (manager.vRecycler ++ manager.deleted).count conn = 1 ∧
      forall server, conn ∉ (manager.clientsOf server).values := by
  have positive := List.count_pos_iff.mpr recycled
  have total := placed conn
  unfold places at total
  rw [List.count_append] at positive ⊢
  refine ⟨?_, fun server held => ?_⟩
  · split at total <;> omega
  · have registered := List.count_pos_iff.mpr (mem_clients_of_held held)
    split at total <;> omega

/-- A client is registered at one server. -/
theorem Placed.server_unique {manager : ConnManager} (placed : manager.Placed) {conn : ConnRef}
    {server place : Nat} (held : conn ∈ (manager.clientsOf server).values)
    (again : conn ∈ (manager.clientsOf place).values) : place = server := by
  rcases holds_of_held held with ⟨key, holds⟩
  rcases holds_of_held again with ⟨other, holdsAgain⟩
  refine holds.place_unique ?_ holdsAgain
  have total := placed conn
  change manager.clients.count conn ≤ 1
  unfold places at total
  split at total <;> omega

/-- An iteration over the clients of a server meets none twice. -/
theorem Placed.clientsOf_nodup {manager : ConnManager} (placed : manager.Placed) {server : Nat}
    {order : List ConnEntry} (iterates : order.Perm (manager.clientsOf server).entries) :
    (order.map Sigma.snd).Nodup := by
  rw [(KeyedMap.values_of_perm iterates).nodup_iff, List.nodup_iff_count_le_one]
  intro conn
  have total := placed conn
  have split : manager.clients.count conn = _ :=
    (KeyedMap.allValues_split_getD manager.mapServerEntry server).count_eq conn
  rw [List.count_append] at split
  unfold places at total
  change ((manager.mapServerEntry.lookup server).getD ∅).values.count conn ≤ 1
  split at total <;> omega

/-- An iteration over the isolated connections meets none twice. -/
theorem Placed.isolateds_nodup {manager : ConnManager} (placed : manager.Placed)
    {order : List ConnEntry} (iterates : order.Perm manager.mapIsolated.entries) :
    (order.map Sigma.snd).Nodup := by
  rw [(KeyedMap.values_of_perm iterates).nodup_iff, List.nodup_iff_count_le_one]
  intro conn
  have total := placed conn
  unfold places isolateds at total
  split at total <;> omega

/-- A change that leaves the connection where it is. -/
structure Keeps (manager next : ConnManager) (conn : ConnRef) : Prop where
  deleted : next.Deleted conn ↔ manager.Deleted conn
  recycled : conn ∈ next.vRecycler ↔ conn ∈ manager.vRecycler
  isolated : conn ∈ next.isolateds ↔ conn ∈ manager.isolateds
  held : forall server,
    conn ∈ (next.clientsOf server).values ↔ conn ∈ (manager.clientsOf server).values

theorem clientsOf_insert (manager : ConnManager) (server other : Nat) (entry : ConnMap) :
    { manager with mapServerEntry := manager.mapServerEntry.insert server entry }.clientsOf other =
      if other = server then entry else manager.clientsOf other := by
  unfold clientsOf
  by_cases same : other = server
  · rw [if_pos same, same, AList.lookup_insert]
    rfl
  · rw [if_neg same, AList.lookup_insert_ne same]

/-- Erasing one entry leaves the other connections. -/
theorem mem_values_erase_iff {map : ConnMap} {key : Nat} {client conn : ConnRef}
    (found : map.lookup key = some client) (different : conn ≠ client) :
    conn ∈ KeyedMap.values (map.erase key) ↔ conn ∈ map.values := by
  rw [(KeyedMap.values_split found).mem_iff, List.mem_cons]
  constructor
  · exact Or.inr
  · rintro (same | later)
    · exact absurd same different
    · exact later

/-- What `OnRemoveClient` does: nothing, or it moves the client to the
recycler. -/
theorem onRemoveClient_places {manager next : ConnManager} {server : Nat} {client : ConnRef}
    (formed : manager.Formed) (placed : manager.Placed)
    (done : manager.onRemoveClient server client = some next) :
    (next = manager ∧ (manager.clientsOf server).lookup (manager.connId client) = none) ∨
    ((manager.clientsOf server).lookup (manager.connId client) = some client ∧
      next.created = manager.created ∧ next.flags = manager.flags ∧
      client ∈ next.vRecycler ∧ (forall place, client ∉ (next.clientsOf place).values) ∧
      (next.Deleted client ↔ manager.Deleted client) ∧
      (client ∈ next.isolateds ↔ client ∈ manager.isolateds) ∧
      forall conn, conn ≠ client -> Keeps manager next conn) := by
  have nextPlaced : next.Placed := placed.step formed
    (show manager.Step (.onRemoveClient server client) next from done)
  unfold onRemoveClient at done
  dsimp only at done
  split at done
  · cases found : manager.mapServerEntry.lookup server with
    | none =>
        rw [found] at done
        cases done
        left
        refine ⟨rfl, ?_⟩
        unfold clientsOf
        rw [found]
        rfl
    | some entry =>
        have entry_eq : manager.clientsOf server = entry := by
          unfold clientsOf
          rw [found]
          rfl
        rw [found] at done
        dsimp only at done
        cases held : entry.lookup (manager.connId client) with
        | none =>
            rw [held] at done
            cases done
            exact Or.inl ⟨rfl, by rw [entry_eq]; exact held⟩
        | some client2 =>
            rw [held] at done
            dsimp only at done
            split at done
            · rename_i same
              subst same
              cases done
              right
              have pushed : client2 ∈ manager.vRecycler ++ [client2] :=
                List.mem_append_right _ (List.mem_singleton_self _)
              refine ⟨by rw [entry_eq]; exact held, rfl, rfl, pushed, ?_, Iff.rfl, Iff.rfl, ?_⟩
              · intro place still
                exact ((nextPlaced.exclusive client2).1 pushed).1 (mem_clients_of_held still)
              · intro conn different
                refine ⟨Iff.rfl, ?_, Iff.rfl, ?_⟩
                · change conn ∈ manager.vRecycler ++ [client2] ↔ _
                  rw [List.mem_append, List.mem_singleton]
                  constructor
                  · rintro (before | same)
                    · exact before
                    · exact absurd same different
                  · exact Or.inl
                · intro place
                  change conn ∈ ((({ manager with
                    mapServerEntry := manager.mapServerEntry.insert server _ } :
                      ConnManager)).clientsOf place).values ↔ _
                  rw [clientsOf_insert]
                  split
                  · rename_i here
                    rw [here, entry_eq]
                    exact mem_values_erase_iff held different
                  · rfl
            · cases done
  · cases done

/-- What `ReleaseAllClients` does: it moves the clients of the server to the
recycler. -/
theorem releaseAllClients_places {manager next : ConnManager} {server : Nat}
    {order : List ConnEntry} (formed : manager.Formed) (placed : manager.Placed)
    (done : manager.releaseAllClients server order = some next) :
    next.created = manager.created ∧ next.flags = manager.flags ∧ forall conn,
      (conn ∈ (manager.clientsOf server).values -> conn ∈ next.vRecycler ∧
        (forall place, conn ∉ (next.clientsOf place).values) ∧
        (next.Deleted conn ↔ manager.Deleted conn) ∧
        (conn ∈ next.isolateds ↔ conn ∈ manager.isolateds)) ∧
      (conn ∉ (manager.clientsOf server).values -> Keeps manager next conn) := by
  have nextPlaced : next.Placed :=
    placed.step formed (show manager.Step (.releaseAllClients server order) next from done)
  unfold releaseAllClients at done
  split at done
  · cases found : manager.mapServerEntry.lookup server with
    | none =>
        have empty : manager.clientsOf server = ∅ := by
          unfold clientsOf
          rw [found]
          rfl
        rw [found] at done
        cases done
        refine ⟨rfl, rfl, fun conn => ⟨?_, fun _ => ⟨Iff.rfl, Iff.rfl, Iff.rfl, fun _ => Iff.rfl⟩⟩⟩
        intro impossible
        rw [empty] at impossible
        cases impossible
    | some entry =>
        have entry_eq : manager.clientsOf server = entry := by
          unfold clientsOf
          rw [found]
          rfl
        rw [found] at done
        dsimp only at done
        split at done
        · rename_i iterates
          rcases Option.map_eq_some_iff.mp done with ⟨released, loop, rfl⟩
          rcases releaseClients_eq loop with ⟨count, decrements, rfl, _⟩
          have moved : forall conn, conn ∈ order.map Sigma.snd ↔
              conn ∈ (manager.clientsOf server).values := by
            intro conn
            rw [entry_eq]
            exact (KeyedMap.values_of_perm iterates).mem_iff
          refine ⟨rfl, rfl, fun conn => ⟨?_, ?_⟩⟩
          · intro held
            have pushed : conn ∈ manager.vRecycler ++ order.map Sigma.snd :=
              List.mem_append_right _ ((moved conn).mpr held)
            refine ⟨pushed, ?_, Iff.rfl, Iff.rfl⟩
            intro place still
            exact ((nextPlaced.exclusive conn).1 pushed).1 (mem_clients_of_held still)
          · intro absent
            refine ⟨Iff.rfl, ?_, Iff.rfl, ?_⟩
            · change conn ∈ manager.vRecycler ++ order.map Sigma.snd ↔ _
              rw [List.mem_append, moved]
              exact or_iff_left absent
            · intro place
              change conn ∈ ((({ manager with
                mapServerEntry := manager.mapServerEntry.insert server ∅ } :
                  ConnManager)).clientsOf place).values ↔ _
              rw [clientsOf_insert]
              split
              · rename_i here
                rw [here]
                exact ⟨fun impossible => (by cases impossible), fun held => absurd held absent⟩
              · rfl
        · cases done
  · cases done

/-- What `ReleaseAllIsolateds` does to the places. -/
theorem releaseAllIsolateds_places {manager next : ConnManager} {order : List ConnEntry}
    (done : manager.releaseAllIsolateds order = some next) :
    order.Perm manager.mapIsolated.entries ∧
    next.created = manager.created ∧ next.flags = manager.flags ∧ forall conn,
      (conn ∈ manager.isolateds -> conn ∈ next.vRecycler ∧ conn ∉ next.isolateds ∧
        (next.Deleted conn ↔ manager.Deleted conn) ∧
        forall place, conn ∈ (next.clientsOf place).values ↔
          conn ∈ (manager.clientsOf place).values) ∧
      (conn ∉ manager.isolateds -> Keeps manager next conn) := by
  unfold releaseAllIsolateds at done
  split at done
  · rename_i iterates
    rw [recyclerPush_all] at done
    cases done
    have moved : forall conn, conn ∈ order.map Sigma.snd ↔ conn ∈ manager.isolateds :=
      fun conn => (KeyedMap.values_of_perm iterates).mem_iff
    refine ⟨iterates, rfl, rfl, fun conn => ⟨?_, ?_⟩⟩
    · intro isolated
      refine ⟨List.mem_append_right _ ((moved conn).mpr isolated), ?_, Iff.rfl, fun _ => Iff.rfl⟩
      intro impossible
      cases impossible
    · intro absent
      refine ⟨Iff.rfl, ?_, ?_, fun _ => Iff.rfl⟩
      · change conn ∈ manager.vRecycler ++ order.map Sigma.snd ↔ _
        rw [List.mem_append, moved]
        exact or_iff_left absent
      · exact ⟨fun impossible => (by cases impossible), fun isolated => absurd isolated absent⟩
  · cases done

/-- The loop of `RecyclerPop` takes out exactly what is safe to release. -/
theorem mem_recyclerLoop (flags : ConnRef -> ConnFlags) (conns : List ConnRef) (conn : ConnRef) :
    (conn ∈ (recyclerLoop flags conns).1 ↔ conn ∈ conns ∧ ¬ (flags conn).SafeToRelease) ∧
      (conn ∈ (recyclerLoop flags conns).2 ↔ conn ∈ conns ∧ (flags conn).SafeToRelease) := by
  induction conns with
  | nil => simp [recyclerLoop]
  | cons head rest inductionHypothesis =>
      rcases inductionHypothesis with ⟨kept, taken⟩
      rw [recyclerLoop]
      by_cases safe : (flags head).SafeToRelease
      · rw [if_pos safe]
        refine ⟨?_, ?_⟩
        · rw [kept, List.mem_cons]
          constructor
          · exact fun inside => ⟨Or.inr inside.1, inside.2⟩
          · rintro ⟨rfl | inside, unsafe_⟩
            · exact absurd safe unsafe_
            · exact ⟨inside, unsafe_⟩
        · rw [List.mem_cons, taken, List.mem_cons]
          constructor
          · rintro (rfl | inside)
            · exact ⟨Or.inl rfl, safe⟩
            · exact ⟨Or.inr inside.1, inside.2⟩
          · rintro ⟨same | inside, safeHere⟩
            · exact Or.inl same
            · exact Or.inr ⟨inside, safeHere⟩
      · rw [if_neg safe]
        refine ⟨?_, ?_⟩
        · rw [List.mem_cons, kept, List.mem_cons]
          constructor
          · rintro (rfl | inside)
            · exact ⟨Or.inl rfl, safe⟩
            · exact ⟨Or.inr inside.1, inside.2⟩
          · rintro ⟨same | inside, unsafeHere⟩
            · exact Or.inl same
            · exact Or.inr ⟨inside, unsafeHere⟩
        · rw [taken, List.mem_cons]
          constructor
          · exact fun inside => ⟨Or.inr inside.1, inside.2⟩
          · rintro ⟨rfl | inside, safeHere⟩
            · exact absurd safeHere safe
            · exact ⟨inside, safeHere⟩

/-- What `Recycle` does: it deletes the connections in the recycler that are
safe to release. -/
theorem recycle_places {manager : ConnManager} (idle : manager.vSafeToRelease = [])
    (conn : ConnRef) :
    (conn ∈ manager.vRecycler ∧ (manager.flags conn).SafeToRelease ->
      manager.recycle.Deleted conn ∧ conn ∉ manager.recycle.vRecycler) ∧
    (¬ (conn ∈ manager.vRecycler ∧ (manager.flags conn).SafeToRelease) ->
      Keeps manager manager.recycle conn) := by
  rcases mem_recyclerLoop manager.flags manager.vRecycler conn with ⟨kept, taken⟩
  have deleted : manager.recycle.Deleted conn ↔ manager.Deleted conn ∨
      conn ∈ (recyclerLoop manager.flags manager.vRecycler).2 := by
    change conn ∈ manager.recycle.deleted ↔ _
    rw [recycle_deleted idle, List.mem_append]
    rfl
  refine ⟨?_, ?_⟩
  · rintro ⟨recycled, safe⟩
    refine ⟨deleted.mpr (Or.inr (taken.mpr ⟨recycled, safe⟩)), ?_⟩
    intro still
    exact (kept.mp still).2 safe
  · intro stays
    refine ⟨?_, ?_, Iff.rfl, fun _ => Iff.rfl⟩
    · rw [deleted, taken]
      exact or_iff_left stays
    · change conn ∈ (recyclerLoop manager.flags manager.vRecycler).1 ↔ _
      rw [kept]
      exact ⟨fun inside => inside.1, fun recycled => ⟨recycled, fun safe => stays ⟨recycled, safe⟩⟩⟩

theorem values_clientsOf_assign (manager : ConnManager) {next : ConnManager} {server key : Nat}
    {conn : ConnRef}
    (assigned : next.mapServerEntry = manager.mapServerEntry.assign server key conn) (place : Nat) :
    (next.clientsOf place).values =
      if place = server then conn :: KeyedMap.values ((manager.clientsOf server).erase key)
      else (manager.clientsOf place).values := by
  unfold clientsOf
  rw [assigned, KeyedMap.assign]
  split
  · rename_i here
    rw [here, AList.lookup_insert]
    exact KeyedMap.values_insert _ _ _
  · rename_i elsewhere
    rw [AList.lookup_insert_ne elsewhere]

theorem createTcpClientOnServer_created {manager next : ConnManager} {server : Nat}
    (done : manager.createTcpClientOnServer server = some next) :
    next.created = manager.created + 1 := by
  simp only [createTcpClientOnServer, onAddClient] at done
  split at done
  · cases done
    rfl
  · cases done

/-- Creating a client leaves the clients of the other servers. -/
theorem createTcpClientOnServer_elsewhere {manager next : ConnManager} {server place : Nat}
    (done : manager.createTcpClientOnServer server = some next) (elsewhere : place ≠ server) :
    (next.clientsOf place).values = (manager.clientsOf place).values := by
  simp only [createTcpClientOnServer, onAddClient] at done
  split at done
  · cases done
    rw [values_clientsOf_assign manager rfl place, if_neg elsewhere]
  · cases done

/-- What creating a client does: another connection can only lose its entry. -/
theorem createTcpClientOnServer_places {manager next : ConnManager} {server : Nat}
    (placed : manager.Placed) (done : manager.createTcpClientOnServer server = some next) :
    next.created = manager.created + 1 ∧
    next.flags = Function.update manager.flags manager.created (.initial false) ∧
    next.vRecycler = manager.vRecycler ∧ next.isolateds = manager.isolateds ∧
    next.deletions = manager.deletions ∧
    (forall place, manager.created ∈ (next.clientsOf place).values ↔ place = server) ∧
    forall conn, conn ≠ manager.created -> forall place,
      conn ∈ (next.clientsOf place).values -> conn ∈ (manager.clientsOf place).values := by
  have absent : manager.created ∉ manager.clients :=
    ((placed.exclusive manager.created).2.2 (Nat.le_refl _)).1
  simp only [createTcpClientOnServer, onAddClient, newConnection_connId] at done
  split at done
  · cases done
    refine ⟨rfl, rfl, rfl, rfl, rfl, ?_, ?_⟩
    · intro place
      rw [values_clientsOf_assign manager rfl place]
      split
      · rename_i here
        exact ⟨fun _ => here, fun _ => List.mem_cons_self ..⟩
      · rename_i elsewhere
        exact ⟨fun held => absurd (mem_clients_of_held held) absent, fun here => absurd here elsewhere⟩
    · intro conn different place held
      rw [values_clientsOf_assign manager rfl place] at held
      split at held
      · rename_i here
        rcases List.mem_cons.mp held with same | later
        · exact absurd same different
        · rw [here]
          exact KeyedMap.mem_values_of_erase later
      · exact held
  · cases done

/-- What creating an isolated connection does. -/
theorem createTcpIsolated_places {manager next : ConnManager}
    (done : manager.createTcpIsolated = some next) :
    next.created = manager.created + 1 ∧
    next.flags = Function.update manager.flags manager.created (.initial true) ∧
    next.vRecycler = manager.vRecycler ∧ next.mapServerEntry = manager.mapServerEntry ∧
    next.deletions = manager.deletions ∧ manager.created ∈ next.isolateds ∧
    forall conn, conn ≠ manager.created -> conn ∈ next.isolateds -> conn ∈ manager.isolateds := by
  simp only [createTcpIsolated, onAddIsolated, newConnection_connId] at done
  split at done
  · cases done
    refine ⟨rfl, rfl, rfl, rfl, rfl, ?_, ?_⟩
    · change manager.created ∈ KeyedMap.values (manager.mapIsolated.insert _ _)
      rw [KeyedMap.values_insert]
      exact List.mem_cons_self ..
    · intro conn different isolated
      change conn ∈ KeyedMap.values (manager.mapIsolated.insert _ _) at isolated
      rw [KeyedMap.values_insert] at isolated
      rcases List.mem_cons.mp isolated with same | later
      · exact absurd same different
      · exact KeyedMap.mem_values_of_erase later
  · cases done

end ConnManager
end NetSystem
