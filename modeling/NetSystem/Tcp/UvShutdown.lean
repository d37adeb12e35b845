import NetSystem.Tcp.ConnPlaces
import NetSystem.Tcp.UpstreamSteps

namespace NetSystem

/-!
# Shutting down the isolated connections

`OnDelete` of the factory releases all isolated connections and then waits until
`Recycle` has found everything in the recycler safe to release.  A connection whose
stream was never flushed, or which still looks connected, is never found so.

`releases` is the condition on one step of a connection under which it can still be
released.  In a run whose steps all meet it, `ReleaseAllIsolateds` leaves only
connections in the recycler that the next `Recycle` deletes.

Nothing in this backend counts: the four counters of a connection stay zero.  The
event handlers of a connection are cleared before it is released, so nothing is called
while it is.  Clients are only seen through what they do to the manager.
-/

namespace LinkPhase

/-- A connection in this phase can be released. -/
def Releasable : LinkPhase -> Prop
  | .stranded | .broken => False
  | .disposed connected flushed => connected = false ∧ flushed = true
  | _ => True

end LinkPhase

namespace UpstreamLink

/-- The move does not lead to a link that cannot be released. -/
def keepsReleasable (link : UpstreamLink) : LinkMove -> Prop
  | .retry _ started => link.phase = .unopened ∨ link.phase = .down -> started = true
  | .breakDown => False
  | .dispose => link.phase ≠ .established
  | _ => True

theorem releasable_move_iff {link : UpstreamLink} (releasable : link.phase.Releasable)
    (move : LinkMove) : (link.move move).phase.Releasable ↔ link.keepsReleasable move := by
  rcases link with ⟨phase, delaying, armed, orphans⟩
  cases move with
  | idle => exact ⟨fun _ => trivial, fun _ => releasable⟩
  | delay =>
      rw [UpstreamLink.move, delayed_phase]
      exact ⟨fun _ => trivial, fun _ => releasable⟩
  | lose =>
      rw [UpstreamLink.move, delayed_phase]
      refine ⟨fun _ => trivial, fun _ => ?_⟩
      cases phase <;> exact releasable
  | start begun => cases begun <;> exact ⟨fun _ => trivial, fun _ => trivial⟩
  | retry own started =>
      cases phase <;> cases started <;>
        simp_all [UpstreamLink.move, LinkPhase.retried, LinkPhase.Releasable, keepsReleasable]
  | up => exact ⟨fun _ => trivial, fun _ => trivial⟩
  | breakDown => exact Iff.rfl
  | stop =>
      cases phase <;>
        simp_all [UpstreamLink.move, LinkPhase.disposedOf, LinkPhase.Releasable, keepsReleasable]
  | dispose =>
      cases phase <;>
        simp_all [UpstreamLink.move, LinkPhase.disposedOf, LinkPhase.Releasable, keepsReleasable]

end UpstreamLink

/-! ## One connection -/

namespace UvUpstream

/-- What the recycler looks at. -/
def flags (world : UvUpstream) : ConnFlags :=
  ⟨world.conn.bConnected, world.conn.bDisposed, world.conn.bFlushed, 0, 0, 0, 0⟩

/-- `Disconnect`, and `ReleaseConnection` of the factory. -/
def release (world : UvUpstream) : Option UvUpstream :=
  (world.conn.disconnect.map world.settle).bind fun stopped =>
    stopped.conn.disposeConnection.map stopped.settle

/-- The event does not keep the connection from being released.  A timer that finds the
stream flushed can start its request, a connection that has been made can be set up, and
the connection is disposed of otherwise than by `Disconnect` only while it does not look
connected. -/
def releases (world : UvUpstream) : UpstreamEvent -> Bool
  | .timer started | .orphanTimer started => !world.conn.bFlushed || started
  | .connectCb _ .setupFailed => false
  | .disposeConnection => !(world.disposes .disposeConnection && world.conn.bConnected)
  | .sendRaw started => !(world.disposes (.sendRaw started) && world.conn.bConnected)
  | _ => true

namespace Regular

variable {world after : UvUpstream}

theorem connected_iff (regular : world.Regular) (undisposed : world.conn.bDisposed = false) :
    world.conn.bConnected = true ↔ world.link.phase = .established := by
  have connected := regular.coherent.connected undisposed
  exact (iff_of_eq (congrArg (· = true) connected)).trans
    (regular.coherent.established_iff undisposed).symm

/-- A timer fires. -/
theorem retry_iff (regular : world.Regular) (undisposed : world.conn.bDisposed = false)
    (own started : Bool) :
    (!world.conn.bFlushed || started) = true ↔ world.link.keepsReleasable (.retry own started) := by
  rw [regular.flushed_iff undisposed, Bool.or_eq_true, Bool.not_eq_true', decide_eq_false_iff_not]
  exact (Decidable.imp_iff_not_or).symm

/-- A disposal without `Disconnect`, if it takes effect. -/
theorem disposes_iff (regular : world.Regular) (takes : Bool)
    (undisposed : takes = true -> world.conn.bDisposed = false) :
    (!(takes && world.conn.bConnected)) = true ↔
      world.link.keepsReleasable (if takes then .dispose else .idle) := by
  cases takes with
  | false => exact ⟨fun _ => trivial, fun _ => rfl⟩
  | true =>
      rw [Bool.true_and, if_pos rfl, Bool.not_eq_true']
      change _ ↔ ¬ world.link.phase = .established
      rw [← regular.connected_iff (undisposed rfl), Bool.not_eq_true]

theorem releases_iff {codec : Codec} {event : UpstreamEvent} (regular : world.Regular)
    (done : world.Step codec event after) :
    world.releases event = true ↔ world.link.keepsReleasable (world.moveOf event) := by
  unfold Step perform at done
  split at done
  · cases done
  · cases event with
    | connect ip parsed started uninitialised =>
        rw [moveOf]
        split <;> exact ⟨fun _ => trivial, fun _ => rfl⟩
    | disconnect =>
        rw [moveOf]
        split <;> exact ⟨fun _ => trivial, fun _ => rfl⟩
    | reopen =>
        rw [moveOf]
        split
        · exact ⟨fun _ => trivial, fun _ => rfl⟩
        · split <;> exact ⟨fun _ => trivial, fun _ => rfl⟩
    | disposeConnection =>
        have same : world.moveOf .disposeConnection =
            if world.disposes .disposeConnection then .dispose else .idle := by
          rw [moveOf, disposes]
          cases world.conn.bDisposed <;> rfl
        rw [same]
        refine regular.disposes_iff _ fun takes => ?_
        rw [disposes, Bool.not_eq_true'] at takes
        exact takes
    | sendRaw started =>
        refine regular.disposes_iff _ fun takes => ?_
        cases started with
        | true => cases takes
        | false =>
            rw [disposes, Bool.and_assoc, Bool.and_eq_true, Bool.and_eq_true,
              Bool.not_eq_true'] at takes
            exact takes.2.1
    | timer started =>
        rcases Option.map_eq_some_iff.mp done with ⟨next, called, rfl⟩
        exact regular.retry_iff (UvIsolatedConn.onTimer_undisposed called) true started
    | orphanTimer started => exact regular.retry_iff (orphanTimer_fired done).2 false started
    | connectCb socket outcome =>
        cases outcome with
        | connected => exact ⟨fun _ => trivial, fun _ => rfl⟩
        | setupFailed =>
            exact iff_of_false (fun impossible => by cases impossible) (fun impossible => impossible)
        | failed => exact ⟨fun _ => trivial, fun _ => rfl⟩
    | writeCb socket status =>
        cases status with
        | written => exact ⟨fun _ => trivial, fun _ => rfl⟩
        | failed ioPending => cases ioPending <;> exact ⟨fun _ => trivial, fun _ => rfl⟩
    | _ => exact ⟨fun _ => trivial, fun _ => rfl⟩

/-- A step keeps a connection one that can be released exactly if it meets the condition. -/
theorem releasable_iff {codec : Codec} {event : UpstreamEvent} (regular : world.Regular)
    (releasable : world.link.phase.Releasable) (done : world.Step codec event after) :
    after.link.phase.Releasable ↔ world.releases event = true := by
  rw [(regular.step done).2, UpstreamLink.releasable_move_iff releasable,
    regular.releases_iff done]

/-- A connection that is disposed of is left as it is. -/
theorem dispose_again (regular : world.Regular) (disposed : world.conn.bDisposed = true) :
    Exists fun next => world.conn.disposeConnection.map world.settle = some next ∧
      next.Regular ∧ next.link = world.link := by
  rcases regular.unchanged_settle (rfl : world.conn.view = world.conn.view) with ⟨regularAfter, same⟩
  refine ⟨world.settle world.conn, ?_, regularAfter, same⟩
  rw [UvIsolatedConn.disposeConnection, if_pos disposed, Option.map_some]

/-- `Disconnect` of a connection that is disposed of or not running. -/
theorem disconnect_stays (regular : world.Regular)
    (idle : (!world.conn.bDisposed && world.conn.bRunning) = false) :
    Exists fun next => world.conn.disconnect.map world.settle = some next ∧
      next.conn = world.conn ∧ next.Regular ∧ next.link = world.link := by
  have stays : world.conn.disconnect = some world.conn := by
    rw [UvIsolatedConn.disconnect, if_neg]
    simpa using idle
  rcases regular.unchanged_settle (rfl : world.conn.view = world.conn.view) with ⟨regularAfter, same⟩
  refine ⟨world.settle world.conn, ?_, (world.settle_requests world.conn).1, regularAfter, same⟩
  rw [stays, Option.map_some]

theorem phase_of_disposed (disposed : world.conn.bDisposed = true) :
    world.link.phase = .disposed world.conn.bConnected world.conn.bFlushed := by
  change world.conn.view.phase world.reads = _
  rw [UpstreamView.phase, if_pos (c := world.conn.view.disposed = true) disposed]
  rfl

theorem kept_of_releasable (regular : world.Regular) (releasable : world.link.phase.Releasable) :
    world.conn.clnt ≠ .freed := by
  intro freed
  have state : world.conn.view.handle = .freed := by
    change world.conn.handleState = .freed
    rw [UvIsolatedConn.handleState, freed]
  have usable := regular.coherent.freed state
  have broken : world.link.phase = .broken := by
    change world.conn.view.phase world.reads = .broken
    rw [UpstreamView.phase, usable.1, usable.2, state]
    rfl
  rw [broken] at releasable
  exact releasable

theorem release_eq {stopped next : UvUpstream}
    (stop : world.conn.disconnect.map world.settle = some stopped)
    (dispose : stopped.conn.disposeConnection.map stopped.settle = some next) :
    world.release = some next := by
  rw [release, stop, Option.bind_some, dispose]

/-- A connection that can be released is released, and is then safe to delete. -/
theorem release_defined (regular : world.Regular) (releasable : world.link.phase.Releasable) :
    Exists fun next => world.release = some next ∧ next.Regular ∧
      next.link.phase = .disposed false true := by
  have kept := regular.kept_of_releasable releasable
  cases disposed : world.conn.bDisposed with
  | true =>
      rcases regular.disconnect_stays (by rw [disposed]; rfl) with
        ⟨stopped, stop, conn, regularStopped, same⟩
      rcases regularStopped.dispose_again (by rw [conn]; exact disposed) with
        ⟨next, dispose, regularNext, sameNext⟩
      refine ⟨next, release_eq stop dispose, regularNext, ?_⟩
      rw [sameNext, same, phase_of_disposed disposed]
      rw [phase_of_disposed disposed] at releasable
      rw [releasable.1, releasable.2]
  | false =>
      cases running : world.conn.bRunning with
      | true =>
          rcases UvIsolatedConn.disconnect_defined kept with ⟨conn, stop⟩
          rcases regular.stop disposed running stop with ⟨regularStopped, moved⟩
          have gone : (world.settle conn).conn.bDisposed = true := by
            rw [(world.settle_requests conn).1]
            exact (UvIsolatedConn.disconnect_disposes disposed running stop).disposed
          rcases regularStopped.dispose_again gone with ⟨next, dispose, regularNext, sameNext⟩
          refine ⟨next, release_eq (by rw [stop]; rfl) dispose, regularNext, ?_⟩
          rw [sameNext, moved]
          have usable : world.link.phase ≠ .stranded := fun stranded => by
            rw [stranded] at releasable
            exact releasable
          change world.link.phase.disposedOf false = _
          rw [LinkPhase.disposedOf, decide_eq_true usable]
      | false =>
          rcases regular.disconnect_stays (by rw [running, Bool.and_false]) with
            ⟨stopped, stop, conn, regularStopped, same⟩
          rcases UvIsolatedConn.disposeConnection_defined
            (show stopped.conn.clnt ≠ .freed by rw [conn]; exact kept) with ⟨after, dispose⟩
          rcases regularStopped.dispose (by rw [conn]; exact disposed) dispose with
            ⟨regularNext, moved⟩
          refine ⟨stopped.settle after, release_eq stop (by rw [dispose]; rfl), regularNext, ?_⟩
          have unopened : world.link.phase = .unopened := by
            change world.conn.view.phase world.reads = .unopened
            have flushed : world.conn.view.flushed = true := regular.coherent.idle running disposed
            rw [UpstreamView.phase, flushed,
              if_neg (c := world.conn.view.disposed = true) (Bool.eq_false_iff.mp disposed),
              if_neg (c := world.conn.view.running = true) (Bool.eq_false_iff.mp running)]
            rfl
          rw [moved, same, UpstreamLink.move, unopened]
          rfl

theorem disposed_iff (regular : world.Regular) :
    world.conn.bDisposed = true ↔
      Exists fun connected => Exists fun flushed => world.link.phase = .disposed connected flushed := by
  constructor
  · exact fun disposed => ⟨_, _, phase_of_disposed disposed⟩
  · rintro ⟨connected, flushed, phase⟩
    have stands := regular.stands
    rw [phase] at stands
    cases stands with
    | disposed disposed _ => exact disposed

/-- What still happens to a connection that is disposed of. -/
theorem moveOf_disposed {codec : Codec} {event : UpstreamEvent} (regular : world.Regular)
    (disposed : world.conn.bDisposed = true) (done : world.Step codec event after) :
    world.moveOf event = .idle ∨ world.moveOf event = .lose := by
  have closed := regular.disposed_closed disposed
  unfold Step perform at done
  split at done
  · cases done
  · cases event with
    | connect ip parsed started uninitialised =>
        rcases Option.map_eq_some_iff.mp done with ⟨next, called, rfl⟩
        have undisposed := (UvIsolatedConn.connect_view called).1.undisposed
        exact absurd (undisposed.symm.trans disposed) Bool.false_ne_true
    | disconnect => exact .inl (if_neg (by rw [disposed]; exact Bool.false_ne_true))
    | reopen => exact .inl (if_pos disposed)
    | disposeConnection => exact .inl (if_pos disposed)
    | sendRaw started =>
        refine .inl (if_neg ?_)
        cases started <;> simp [disposes, disposed]
    | timer started =>
        rcases Option.map_eq_some_iff.mp done with ⟨next, called, rfl⟩
        have undisposed := UvIsolatedConn.onTimer_undisposed called
        exact absurd (undisposed.symm.trans disposed) Bool.false_ne_true
    | orphanTimer started =>
        exact absurd ((orphanTimer_fired done).2.symm.trans disposed) Bool.false_ne_true
    | connectCb socket outcome =>
        dsimp only at done
        split at done
        · rename_i due
          rcases due.2 with opened | failed
          · have current := regular.opened socket opened
            rw [closed] at current
            cases current
          · rw [failed]
            exact .inr rfl
        · cases done
    | recvEnd socket allocated => exact .inr rfl
    | writeCb socket status =>
        cases status with
        | written => exact .inl rfl
        | failed ioPending =>
            cases ioPending with
            | true => exact .inl rfl
            | false => exact .inr rfl
    | recv socket chunk => exact .inl rfl
    | recvError socket allocated => exact .inl rfl
    | closeCb socket => exact .inl rfl

/-- A connection that is disposed of stays so. -/
theorem disposed_step {codec : Codec} {event : UpstreamEvent} (regular : world.Regular)
    (disposed : world.conn.bDisposed = true) (done : world.Step codec event after) :
    after.conn.bDisposed = true := by
  rcases regular.step done with ⟨regularAfter, moved⟩
  rcases regular.disposed_iff.mp disposed with ⟨connected, flushed, phase⟩
  refine regularAfter.disposed_iff.mpr ⟨connected, flushed, ?_⟩
  rw [moved]
  rcases regular.moveOf_disposed disposed done with idle | lost
  · rw [idle]
    exact phase
  · rw [lost, UpstreamLink.move, UpstreamLink.delayed_phase, phase]
    rfl

end Regular
end UvUpstream

/-! ## The backend -/

/-- The connection manager, with the isolated connections that have been created. -/
structure UvBackend where
  manager : ConnManager
  upstream : ConnRef -> Option UvUpstream

/-- What happens in the backend: to isolated connections, and to the manager because of
clients. -/
inductive UvBackendEvent where
  | createTcpIsolated (recvPool sendPool : BufferPool)
  | isolated (conn : ConnRef) (event : UpstreamEvent)
  | clients (event : ConnEvent)
  | releaseAllIsolateds (order : List ConnEntry)

namespace UvBackend

def initial : UvBackend := ⟨.initial, fun _ => none⟩

/-- An isolated connection has changed. -/
def setUpstream (backend : UvBackend) (conn : ConnRef) (world : UvUpstream) : UvBackend where
  manager :=
    { backend.manager with
      flags := Function.update backend.manager.flags conn world.flags }
  upstream := Function.update backend.upstream conn (some world)

/-- The event leaves the isolated connections alone. -/
def spares (backend : UvBackend) : ConnEvent -> Bool
  | .createTcpIsolated | .releaseAllIsolateds _ => false
  | .setFlags conn _ => (backend.upstream conn).isNone
  | _ => true

/-- What the loop of `ReleaseAllIsolateds` does to the connections. -/
def releaseIsolateds (backend : UvBackend) : List ConnEntry -> Option UvBackend
  | [] => some backend
  | ⟨_, isolated⟩ :: order =>
      match backend.upstream isolated with
      | none => none
      | some world =>
          world.release.bind fun next => (backend.setUpstream isolated next).releaseIsolateds order

def releaseAllIsolateds (backend : UvBackend) (order : List ConnEntry) : Option UvBackend :=
  (backend.releaseIsolateds order).bind fun released =>
    (released.manager.releaseAllIsolateds order).map fun manager => { released with manager }

/-- One event.  `codec` is the packet class of each connection. -/
def perform (codec : ConnRef -> Codec) (backend : UvBackend) : UvBackendEvent -> Option UvBackend
  | .createTcpIsolated recvPool sendPool =>
      backend.manager.createTcpIsolated.map fun manager =>
        { manager
          upstream := Function.update backend.upstream backend.manager.created
            (some (.initial false recvPool sendPool)) }
  | .isolated conn event =>
      match backend.upstream conn with
      | none => none
      | some world =>
          if backend.manager.Deleted conn then none
          else (world.perform (codec conn) event).map (backend.setUpstream conn)
  | .clients event =>
      if backend.spares event then
        (backend.manager.perform event).map fun manager => { backend with manager }
      else none
  | .releaseAllIsolateds order => backend.releaseAllIsolateds order

def Step (codec : ConnRef -> Codec) (backend : UvBackend) (event : UvBackendEvent)
    (next : UvBackend) : Prop :=
  backend.perform codec event = some next

/-- The event does not keep a connection from being released. -/
def releases (backend : UvBackend) : UvBackendEvent -> Bool
  | .isolated conn event => (backend.upstream conn).all fun world => world.releases event
  | _ => true

def ReleasableStep (codec : ConnRef -> Codec) (backend : UvBackend) (event : UvBackendEvent)
    (next : UvBackend) : Prop :=
  backend.Step codec event next ∧ backend.releases event = true

/-- The loop of `ReleaseAllIsolateds` changes nothing of the manager but flags. -/
theorem releaseIsolateds_manager {backend next : UvBackend} {order : List ConnEntry}
    (loop : backend.releaseIsolateds order = some next) :
    next.manager = { backend.manager with flags := next.manager.flags } := by
  induction order generalizing backend with
  | nil =>
      cases loop
      rfl
  | cons entry order inductionHypothesis =>
      rw [releaseIsolateds] at loop
      split at loop
      · cases loop
      · rcases Option.bind_eq_some_iff.mp loop with ⟨after, _, rest⟩
        rw [inductionHypothesis rest]
        rfl

theorem releaseAllIsolateds_iterates {backend next : UvBackend} {order : List ConnEntry}
    (done : backend.releaseAllIsolateds order = some next) :
    order.Perm backend.manager.mapIsolated.entries := by
  rcases Option.bind_eq_some_iff.mp done with ⟨released, loop, moved⟩
  rcases Option.map_eq_some_iff.mp moved with ⟨manager, pushed, _⟩
  have iterates := (ConnManager.releaseAllIsolateds_places pushed).1
  rw [releaseIsolateds_manager loop] at iterates
  exact iterates

/-- Every isolated connection can be released, and those in the recycler have been. -/
structure Prepared (backend : UvBackend) : Prop where
  formed : backend.manager.Formed
  placed : backend.manager.Placed
  created : forall conn world, backend.upstream conn = some world ->
    conn < backend.manager.created
  client : forall conn, conn ∈ backend.manager.clients -> backend.upstream conn = none
  isolated : forall conn, conn ∈ backend.manager.isolateds ->
    (backend.upstream conn).isSome = true
  releasable : forall conn world, backend.upstream conn = some world ->
    world.Regular ∧ world.link.phase.Releasable ∧ backend.manager.flags conn = world.flags
  recycled : forall conn world, conn ∈ backend.manager.vRecycler ->
    backend.upstream conn = some world -> world.conn.bDisposed = true

namespace Prepared

variable {backend next : UvBackend}

theorem setUpstream (prepared : backend.Prepared) {conn : ConnRef} {world after : UvUpstream}
    (held : backend.upstream conn = some world) (regular : after.Regular)
    (releasable : after.link.phase.Releasable)
    (stays : world.conn.bDisposed = true -> after.conn.bDisposed = true) :
    (backend.setUpstream conn after).Prepared := by
  have flagged : backend.manager.Step (.setFlags conn after.flags)
      (backend.setUpstream conn after).manager := rfl
  have other : forall place, place ≠ conn ->
      (backend.setUpstream conn after).upstream place = backend.upstream place :=
    fun place different => Function.update_of_ne different _ _
  have here : (backend.setUpstream conn after).upstream conn = some after :=
    Function.update_self _ _ _
  refine ⟨prepared.formed.step flagged, prepared.placed.step prepared.formed flagged, ?_, ?_, ?_,
    ?_, ?_⟩
  · intro place now found
    by_cases same : place = conn
    · rw [same]
      exact prepared.created conn world held
    · rw [other place same] at found
      exact prepared.created place now found
  · intro place client
    have absent := prepared.client place client
    by_cases same : place = conn
    · rw [same, held] at absent
      cases absent
    · rw [other place same]
      exact absent
  · intro place isolated
    by_cases same : place = conn
    · rw [same, here]
      rfl
    · rw [other place same]
      exact prepared.isolated place isolated
  · intro place now found
    by_cases same : place = conn
    · rw [same, here] at found
      cases found
      refine ⟨regular, releasable, ?_⟩
      rw [same]
      exact Function.update_self _ _ _
    · rw [other place same] at found
      rcases prepared.releasable place now found with ⟨regularNow, releasableNow, flags⟩
      exact ⟨regularNow, releasableNow, (Function.update_of_ne same _ _).trans flags⟩
  · intro place now recycled found
    by_cases same : place = conn
    · rw [same, here] at found
      cases found
      rw [same] at recycled
      exact stays (prepared.recycled conn world recycled held)
    · rw [other place same] at found
      exact prepared.recycled place now recycled found

/-- The loop of `ReleaseAllIsolateds` disposes of the connections it meets. -/
theorem releaseIsolateds (prepared : backend.Prepared) (order : List ConnEntry)
    (all : forall entry, entry ∈ order -> (backend.upstream entry.2).isSome = true) :
    Exists fun next => backend.releaseIsolateds order = some next ∧ next.Prepared ∧
      forall conn world, next.upstream conn = some world ->
        conn ∈ order.map Sigma.snd ∨
            (Exists fun before =>
              backend.upstream conn = some before ∧ before.conn.bDisposed = true) ->
          world.conn.bDisposed = true := by
  induction order generalizing backend with
  | nil =>
      refine ⟨backend, rfl, prepared, fun conn world held reason => ?_⟩
      rcases reason with impossible | ⟨before, found, disposed⟩
      · cases impossible
      · rw [held] at found
        cases found
        exact disposed
  | cons entry order inductionHypothesis =>
      rcases entry with ⟨uConnId, isolated⟩
      rcases Option.isSome_iff_exists.mp (all ⟨uConnId, isolated⟩ (List.mem_cons_self ..)) with
        ⟨world, held⟩
      rcases prepared.releasable isolated world held with ⟨regular, releasable, _⟩
      rcases regular.release_defined releasable with ⟨after, released, regularAfter, phase⟩
      have disposed := regularAfter.disposed_iff.mpr ⟨false, true, phase⟩
      have middle := prepared.setUpstream held regularAfter (by rw [phase]; exact ⟨rfl, rfl⟩)
        (fun _ => disposed)
      have here : (backend.setUpstream isolated after).upstream isolated = some after :=
        Function.update_self _ _ _
      have other : forall place, place ≠ isolated ->
          (backend.setUpstream isolated after).upstream place = backend.upstream place :=
        fun place different => Function.update_of_ne different _ _
      have rest : forall entry, entry ∈ order ->
          ((backend.setUpstream isolated after).upstream entry.2).isSome = true := by
        intro entry member
        by_cases same : entry.2 = isolated
        · rw [same, here]
          rfl
        · rw [other entry.2 same]
          exact all entry (List.mem_cons_of_mem _ member)
      rcases inductionHypothesis middle rest with ⟨next, loop, preparedNext, gone⟩
      refine ⟨next, ?_, preparedNext, ?_⟩
      · rw [UvBackend.releaseIsolateds, held]
        dsimp only
        rw [released, Option.bind_some]
        exact loop
      · intro conn now found reason
        refine gone conn now found ?_
        by_cases same : conn = isolated
        · rw [same]
          exact .inr ⟨after, here, disposed⟩
        · rcases reason with member | before
          · rw [List.map_cons] at member
            rcases List.mem_cons.mp member with head | tail
            · exact absurd head same
            · exact .inl tail
          · rw [other conn same]
            exact .inr before

/-- The manager moves no isolated connection to the recycler. -/
theorem keep (prepared : backend.Prepared) {event : ConnEvent} {manager : ConnManager}
    (step : backend.manager.Step event manager) (created : backend.manager.created ≤ manager.created)
    (clients : forall conn, conn ∈ manager.clients ->
      conn ∈ backend.manager.clients ∨ conn = backend.manager.created)
    (isolateds : forall conn, conn ∈ manager.isolateds -> conn ∈ backend.manager.isolateds)
    (flags : forall conn, (backend.upstream conn).isSome = true ->
      manager.flags conn = backend.manager.flags conn)
    (recycled : forall conn, conn ∈ manager.vRecycler ->
      conn ∈ backend.manager.vRecycler ∨ conn ∈ backend.manager.clients) :
    UvBackend.Prepared { backend with manager } := by
  refine ⟨prepared.formed.step step, prepared.placed.step prepared.formed step, ?_, ?_, ?_, ?_, ?_⟩
  · exact fun conn world held => Nat.lt_of_lt_of_le (prepared.created conn world held) created
  · intro conn client
    rcases clients conn client with before | new
    · exact prepared.client conn before
    · cases held : backend.upstream conn with
      | none => rfl
      | some world =>
          have below := prepared.created conn world held
          rw [new] at below
          exact absurd below (Nat.lt_irrefl _)
  · exact fun conn isolated => prepared.isolated conn (isolateds conn isolated)
  · intro conn world held
    rcases prepared.releasable conn world held with ⟨regular, releasable, same⟩
    exact ⟨regular, releasable, (flags conn (by rw [held]; rfl)).trans same⟩
  · intro conn world member held
    rcases recycled conn member with before | client
    · exact prepared.recycled conn world before held
    · rw [prepared.client conn client] at held
      cases held

/-- What clients do to the manager. -/
theorem clients (prepared : backend.Prepared) {event : ConnEvent} {manager : ConnManager}
    (spared : backend.spares event = true) (step : backend.manager.Step event manager) :
    UvBackend.Prepared { backend with manager } := by
  cases event with
  | createTcpIsolated => cases spared
  | releaseAllIsolateds order => cases spared
  | createTcpClientOnServer server =>
      rcases ConnManager.createTcpClientOnServer_places prepared.placed step with
        ⟨created, flags, recycled, isolateds, _, _, others⟩
      refine prepared.keep step (by rw [created]; exact Nat.le_succ _) ?_ ?_ ?_ ?_
      · intro conn client
        by_cases new : conn = backend.manager.created
        · exact .inr new
        · rcases ConnManager.held_of_mem_clients client with ⟨place, held⟩
          exact .inl (ConnManager.mem_clients_of_held (others conn new place held))
      · intro conn isolated
        rw [isolateds] at isolated
        exact isolated
      · intro conn held
        rcases Option.isSome_iff_exists.mp held with ⟨world, found⟩
        rw [flags]
        exact Function.update_of_ne (Nat.ne_of_lt (prepared.created conn world found)) _ _
      · intro conn member
        rw [recycled] at member
        exact .inl member
  | setFlags conn flags =>
      cases step
      have step : backend.manager.Step (.setFlags conn flags) { backend.manager with
        flags := Function.update backend.manager.flags conn flags } := rfl
      refine prepared.keep step (Nat.le_refl _)
        (fun _ => .inl) (fun _ => id) ?_ (fun _ => .inl)
      intro place held
      refine Function.update_of_ne ?_ _ _
      rintro rfl
      rw [spares, Option.isNone_iff_eq_none] at spared
      rw [spared] at held
      cases held
  | recycle =>
      cases step
      have recycles : backend.manager.Step .recycle backend.manager.recycle := rfl
      refine prepared.keep recycles (Nat.le_refl _) (fun _ => .inl) (fun _ => id)
        (fun _ _ => rfl) fun conn member => .inl ?_
      exact ((ConnManager.mem_recyclerLoop _ _ conn).1.mp member).1
  | onRemoveClient server client =>
      rcases ConnManager.onRemoveClient_places prepared.formed prepared.placed step with
        ⟨rfl, _⟩ | ⟨found, created, flags, recycled, gone, _, isolated, others⟩
      · exact prepared
      · have registered : client ∈ backend.manager.clients :=
          ConnManager.mem_clients_of_held (KeyedMap.mem_values_iff.mpr ⟨_, found⟩)
        refine prepared.keep step (Nat.le_of_eq created.symm) ?_ ?_ (fun _ _ => by rw [flags]) ?_
        · intro conn member
          rcases ConnManager.held_of_mem_clients member with ⟨place, held⟩
          by_cases same : conn = client
          · rw [same] at held
            exact absurd held (gone place)
          · exact .inl (ConnManager.mem_clients_of_held (((others conn same).held place).mp held))
        · intro conn member
          by_cases same : conn = client
          · rw [same] at member ⊢
            exact isolated.mp member
          · exact (others conn same).isolated.mp member
        · intro conn member
          by_cases same : conn = client
          · rw [same]
            exact .inr registered
          · exact .inl ((others conn same).recycled.mp member)
  | releaseAllClients server order =>
      rcases ConnManager.releaseAllClients_places prepared.formed prepared.placed step with
        ⟨created, flags, moved⟩
      refine prepared.keep step (Nat.le_of_eq created.symm) ?_ ?_ (fun _ _ => by rw [flags]) ?_
      · intro conn member
        rcases ConnManager.held_of_mem_clients member with ⟨place, held⟩
        by_cases here : conn ∈ (backend.manager.clientsOf server).values
        · exact absurd held (((moved conn).1 here).2.1 place)
        · exact .inl (ConnManager.mem_clients_of_held ((((moved conn).2 here).held place).mp held))
      · intro conn member
        by_cases here : conn ∈ (backend.manager.clientsOf server).values
        · exact ((moved conn).1 here).2.2.2.mp member
        · exact ((moved conn).2 here).isolated.mp member
      · intro conn member
        by_cases here : conn ∈ (backend.manager.clientsOf server).values
        · exact .inr (ConnManager.mem_clients_of_held here)
        · exact .inl (((moved conn).2 here).recycled.mp member)

/-- What `ReleaseAllIsolateds` does when every connection can be released. -/
theorem releaseAllIsolateds (prepared : backend.Prepared) {order : List ConnEntry}
    (iterates : order.Perm backend.manager.mapIsolated.entries) :
    Exists fun next => backend.releaseAllIsolateds order = some next ∧ next.Prepared := by
  have members : forall conn, conn ∈ order.map Sigma.snd ↔ conn ∈ backend.manager.isolateds :=
    fun conn => (KeyedMap.values_of_perm iterates).mem_iff
  rcases prepared.releaseIsolateds order (fun entry member =>
    prepared.isolated entry.2 ((members entry.2).mp (List.mem_map_of_mem member))) with
    ⟨released, loop, preparedReleased, gone⟩
  have flagsOnly : released.manager.mapIsolated = backend.manager.mapIsolated := by
    rw [releaseIsolateds_manager loop]
  rcases Option.isSome_iff_exists.mp (show
    (released.manager.releaseAllIsolateds order).isSome = true by
      rw [ConnManager.releaseAllIsolateds, flagsOnly, if_pos iterates]
      rfl) with ⟨manager, moved⟩
  rcases ConnManager.releaseAllIsolateds_places moved with ⟨_, created, flags, places⟩
  have step : released.manager.Step (.releaseAllIsolateds order) manager := moved
  refine ⟨{ released with manager }, ?_, ?_⟩
  · rw [UvBackend.releaseAllIsolateds, loop, Option.bind_some, moved, Option.map_some]
  · refine ⟨preparedReleased.formed.step step,
      preparedReleased.placed.step preparedReleased.formed step, ?_, ?_, ?_, ?_, ?_⟩
    · intro conn world held
      rw [created]
      exact preparedReleased.created conn world held
    · intro conn client
      rcases ConnManager.held_of_mem_clients client with ⟨place, held⟩
      suffices held : conn ∈ (released.manager.clientsOf place).values from
        preparedReleased.client conn (ConnManager.mem_clients_of_held held)
      by_cases isolated : conn ∈ released.manager.isolateds
      · exact (((places conn).1 isolated).2.2.2 place).mp held
      · exact (((places conn).2 isolated).held place).mp held
    · intro conn isolated
      by_cases before : conn ∈ released.manager.isolateds
      · exact absurd isolated ((places conn).1 before).2.1
      · exact absurd (((places conn).2 before).isolated.mp isolated) before
    · intro conn world held
      rcases preparedReleased.releasable conn world held with ⟨regular, releasable, same⟩
      exact ⟨regular, releasable, by rw [flags]; exact same⟩
    · intro conn world member held
      by_cases isolated : conn ∈ released.manager.isolateds
      · refine gone conn world held (.inl ((members conn).mpr ?_))
        rw [ConnManager.isolateds, flagsOnly] at isolated
        exact isolated
      · exact preparedReleased.recycled conn world (((places conn).2 isolated).recycled.mp member)
          held

theorem createTcpIsolated (prepared : backend.Prepared) {manager : ConnManager}
    (done : backend.manager.createTcpIsolated = some manager) (recvPool sendPool : BufferPool) :
    UvBackend.Prepared
      { manager
        upstream := Function.update backend.upstream backend.manager.created
          (some (.initial false recvPool sendPool)) } := by
  rcases ConnManager.createTcpIsolated_places done with
    ⟨created, flags, recycled, servers, _, _, others⟩
  have step : backend.manager.Step .createTcpIsolated manager := done
  have regular := UvUpstream.initial_regular recvPool sendPool
  have new : Function.update backend.upstream backend.manager.created
      (some (.initial false recvPool sendPool)) backend.manager.created =
        some (.initial false recvPool sendPool) := Function.update_self _ _ _
  have old : forall conn, conn ≠ backend.manager.created ->
      Function.update backend.upstream backend.manager.created
        (some (.initial false recvPool sendPool)) conn = backend.upstream conn :=
    fun conn different => Function.update_of_ne different _ _
  have unplaced := (prepared.placed.exclusive backend.manager.created).2.2 (Nat.le_refl _)
  refine ⟨prepared.formed.step step, prepared.placed.step prepared.formed step, ?_, ?_, ?_, ?_, ?_⟩
  · intro conn world held
    rw [created]
    by_cases same : conn = backend.manager.created
    · exact Nat.lt_succ_of_le (Nat.le_of_eq same)
    · exact Nat.lt_succ_of_lt (prepared.created conn world ((old conn same).symm.trans held))
  · intro conn client
    rw [ConnManager.clients, servers] at client
    have different : conn ≠ backend.manager.created := by
      rintro rfl
      exact unplaced.1 client
    exact (old conn different).trans (prepared.client conn client)
  · intro conn isolated
    by_cases same : conn = backend.manager.created
    · rw [same]
      exact congrArg Option.isSome new
    · exact (congrArg Option.isSome (old conn same)).trans
        (prepared.isolated conn (others conn same isolated))
  · intro conn world held
    by_cases same : conn = backend.manager.created
    · rw [same] at held ⊢
      cases new.symm.trans held
      refine ⟨regular, trivial, ?_⟩
      rw [flags]
      exact Function.update_self _ _ _
    · rcases prepared.releasable conn world ((old conn same).symm.trans held) with
        ⟨regularWorld, releasable, sameFlags⟩
      refine ⟨regularWorld, releasable, ?_⟩
      rw [flags]
      exact (Function.update_of_ne same _ _).trans sameFlags
  · intro conn world member held
    rw [recycled] at member
    have different : conn ≠ backend.manager.created := by
      rintro rfl
      exact unplaced.2.2.1 member
    exact prepared.recycled conn world member ((old conn different).symm.trans held)

theorem step {codec : ConnRef -> Codec} {event : UvBackendEvent} (prepared : backend.Prepared)
    (step : backend.ReleasableStep codec event next) : next.Prepared := by
  rcases step with ⟨step, releases⟩
  unfold Step perform at step
  cases event with
  | createTcpIsolated recvPool sendPool =>
      rcases Option.map_eq_some_iff.mp step with ⟨manager, done, rfl⟩
      exact prepared.createTcpIsolated done recvPool sendPool
  | isolated conn event =>
      dsimp only at step
      cases held : backend.upstream conn with
      | none =>
          rw [held] at step
          cases step
      | some world =>
          rw [held] at step
          dsimp only at step
          split at step
          · cases step
          · rcases Option.map_eq_some_iff.mp step with ⟨after, done, rfl⟩
            rcases prepared.releasable conn world held with ⟨regular, releasable, _⟩
            rw [UvBackend.releases, held, Option.all_some] at releases
            exact prepared.setUpstream held (regular.step done).1
              ((regular.releasable_iff releasable done).mpr releases)
              fun disposed => regular.disposed_step disposed done
  | clients event =>
      dsimp only at step
      split at step
      · rename_i spared
        rcases Option.map_eq_some_iff.mp step with ⟨manager, done, rfl⟩
        exact prepared.clients spared done
      · cases step
  | releaseAllIsolateds order =>
      rcases prepared.releaseAllIsolateds (releaseAllIsolateds_iterates step) with
        ⟨after, done, preparedAfter⟩
      cases step.symm.trans done
      exact preparedAfter

/-- A connection in the recycler is safe to release. -/
theorem safe (prepared : backend.Prepared) {conn : ConnRef} {world : UvUpstream}
    (recycled : conn ∈ backend.manager.vRecycler) (held : backend.upstream conn = some world) :
    (backend.manager.flags conn).SafeToRelease := by
  rcases prepared.releasable conn world held with ⟨regular, releasable, same⟩
  rw [UvUpstream.Regular.phase_of_disposed (prepared.recycled conn world recycled held)]
    at releasable
  rw [same]
  exact ⟨releasable.1, rfl, rfl, prepared.recycled conn world recycled held, releasable.2⟩

end Prepared

theorem initial_prepared : initial.Prepared := by
  have none : forall conn, initial.upstream conn = none := fun _ => rfl
  refine ⟨ConnManager.initial_formed, ConnManager.initial_placed, ?_, fun _ _ => rfl, ?_, ?_, ?_⟩
  · intro conn world held
    rw [none] at held
    cases held
  · intro conn impossible
    cases impossible
  · intro conn world held
    rw [none] at held
    cases held
  · intro conn world impossible
    cases impossible

/-- What `OnDelete` relies on.  The isolated connections can be released, in whatever
order the map has them; each is then in the recycler, and an isolated connection in the
recycler is safe to release and not left there by `Recycle`. -/
def ShutsDown (backend : UvBackend) : Prop :=
  forall order, order.Perm backend.manager.mapIsolated.entries ->
    Exists fun next => backend.releaseAllIsolateds order = some next ∧
      (forall conn, conn ∈ backend.manager.isolateds -> conn ∈ next.manager.vRecycler) ∧
      forall conn, conn ∈ next.manager.vRecycler -> (next.upstream conn).isSome = true ->
        (next.manager.flags conn).SafeToRelease ∧ conn ∉ next.manager.recycle.vRecycler

theorem Prepared.shutsDown {backend : UvBackend} (prepared : backend.Prepared) :
    backend.ShutsDown := by
  intro order iterates
  rcases prepared.releaseAllIsolateds iterates with ⟨next, done, preparedNext⟩
  refine ⟨next, done, ?_, ?_⟩
  · intro conn isolated
    rcases Option.bind_eq_some_iff.mp done with ⟨released, loop, moved⟩
    rcases Option.map_eq_some_iff.mp moved with ⟨manager, pushed, rfl⟩
    refine (((ConnManager.releaseAllIsolateds_places pushed).2.2.2 conn).1 ?_).1
    rw [ConnManager.isolateds, releaseIsolateds_manager loop]
    exact isolated
  · intro conn recycled isolated
    rcases Option.isSome_iff_exists.mp isolated with ⟨world, held⟩
    have safe := preparedNext.safe recycled held
    exact ⟨safe, ((ConnManager.recycle_places preparedNext.formed.idle conn).1
      ⟨recycled, safe⟩).2⟩

/-- In a run whose steps all leave the connections releasable, shutting down ends for
the isolated connections. -/
theorem isolateds_shut_down (codec : ConnRef -> Codec) {events : List UvBackendEvent}
    {backend : UvBackend} (run : Run (ReleasableStep codec) initial events backend) :
    backend.ShutsDown :=
  (run.invariant Prepared (fun _ _ _ prepared step => prepared.step step)
    initial_prepared).shutsDown

/-- One isolated connection, to which the events happen. -/
def oneIsolated (events : List UpstreamEvent) : List UvBackendEvent :=
  .createTcpIsolated (.initial fun _ _ => 0) (.initial fun _ _ => 0) :: events.map (.isolated 0)

/-- A connection is made and lost, and a retry is pending. -/
theorem isolateds_shut_down_lost :
    Exists fun backend : UvBackend =>
      Run (ReleasableStep fun _ => ⟨.inner, .pointer32⟩) initial
        (oneIsolated [UvUpstream.connects, .connectCb 0 .connected, .recvEnd 0 false, .timer true])
        backend ∧
      backend.ShutsDown := by
  have run : Exists fun backend : UvBackend =>
      Run (ReleasableStep fun _ => ⟨.inner, .pointer32⟩) initial
        (oneIsolated [UvUpstream.connects, .connectCb 0 .connected, .recvEnd 0 false, .timer true])
        backend :=
    ⟨_, .cons ⟨rfl, rfl⟩ (.cons ⟨rfl, rfl⟩ (.cons ⟨rfl, rfl⟩ (.cons ⟨rfl, rfl⟩
      (.cons ⟨rfl, rfl⟩ (.nil _)))))⟩
  rcases run with ⟨backend, run⟩
  exact ⟨backend, run, isolateds_shut_down _ run⟩

/-- A first connect fails, the retry cannot be started, and the connection is never safe
to release.  So it is after a send has failed on a connection that has been made. -/
theorem stranded_is_never_released :
    (Exists fun backend : UvBackend =>
      Run (Step fun _ => ⟨.inner, .pointer32⟩) initial
        (oneIsolated [UvUpstream.connects, .connectCb 0 .failed, .timer false]) backend ∧
      ¬ backend.ShutsDown) ∧
    Exists fun backend : UvBackend =>
      Run (Step fun _ => ⟨.inner, .pointer32⟩) initial
        (oneIsolated [UvUpstream.connects, .connectCb 0 .connected, .sendRaw false]) backend ∧
      ¬ backend.ShutsDown := by
  constructor
  · refine ⟨_, .cons rfl (.cons rfl (.cons rfl (.cons rfl (.nil _)))), fun shuts => ?_⟩
    rcases shuts _ (List.Perm.refl _) with ⟨next, done, _, safe⟩
    cases done
    have flushed := (safe 0 (List.mem_cons_self ..) rfl).1.2.2.2.2
    cases flushed
  · refine ⟨_, .cons rfl (.cons rfl (.cons rfl (.cons rfl (.nil _)))), fun shuts => ?_⟩
    rcases shuts _ (List.Perm.refl _) with ⟨next, done, _, safe⟩
    cases done
    have connected := (safe 0 (List.mem_cons_self ..) rfl).1.1
    cases connected

end UvBackend
end NetSystem
