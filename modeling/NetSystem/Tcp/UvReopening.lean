import NetSystem.Tcp.UvReconnecting

namespace NetSystem

/-!
# `Reopen` of an upstream connection

`Reopen` of a connected one disconnects it first, which disposes of it, and then
schedules nothing.  Of one that is not connected it schedules a reconnect, which
gets somewhere only when the connection has once been connecting: then it still
has its handle and its timer.  A timer that is started with a negative delay does not
fire: the product is converted to an unsigned number of milliseconds.  As long as a
reconnect is delayed, no other timer is started.
-/

namespace UpstreamView

/-- Whoever runs or has a packet object has a timer, whoever runs with its stream
flushed has a handle, and whoever delays a reconnect has a timer running. -/
structure Equipped (orphans : Nat) (view : UpstreamView) : Prop where
  timer : view.disposed = false -> view.running = true ∨ view.packet = true ->
    view.timer.isSome = true
  handle : view.disposed = false -> view.running = true -> view.flushed = true ->
    Exists fun socket => view.handle = .live socket
  scheduled : view.disposed = false -> view.delaying = true ->
    view.timer = some true ∨ orphans ≠ 0

namespace Equipped

variable {orphans : Nat} {view : UpstreamView}

theorem of_disposed (disposed : view.disposed = true) : view.Equipped orphans := by
  constructor
  · intro undisposed
    exact absurd (undisposed.symm.trans disposed) Bool.false_ne_true
  · intro undisposed
    exact absurd (undisposed.symm.trans disposed) Bool.false_ne_true
  · intro undisposed
    exact absurd (undisposed.symm.trans disposed) Bool.false_ne_true

theorem flush (equipped : view.Equipped orphans) : view.flush.Equipped orphans := by
  unfold UpstreamView.flush
  split
  · exact ⟨equipped.timer, fun _ _ _ => ⟨false, rfl⟩, equipped.scheduled⟩
  · exact equipped

theorem delay (equipped : view.Equipped orphans) : view.delay.Equipped orphans := by
  unfold UpstreamView.delay
  split
  · exact equipped
  · exact ⟨fun _ _ => rfl, equipped.handle, fun _ _ => Or.inl rfl⟩

theorem cut (equipped : view.Equipped orphans) : view.cut.Equipped orphans :=
  ⟨equipped.timer, equipped.handle, equipped.scheduled⟩

theorem error (equipped : view.Equipped orphans) : view.error.Equipped orphans := by
  unfold UpstreamView.error
  split
  · exact equipped.cut.delay
  · exact equipped.cut

theorem dispose (view : UpstreamView) : view.dispose.Equipped orphans := by
  apply of_disposed
  unfold UpstreamView.dispose
  split
  · assumption
  · unfold UpstreamView.flush
    split <;> rfl

theorem disconnect (equipped : view.Equipped orphans) : view.disconnect.Equipped orphans := by
  unfold UpstreamView.disconnect
  split
  · apply dispose
  · exact equipped

/-- A timer calls `Reconnect` of a connection with a timer. -/
theorem retry (timer : view.timer.isSome = true) (started : Bool) (orphans : Nat) :
    (view.retry started).Equipped orphans := by
  unfold UpstreamView.retry
  split
  · exact ⟨fun _ _ => timer, nofun, nofun⟩
  · rename_i unflushed
    exact ⟨fun _ _ => timer, fun _ _ flushed => absurd flushed unflushed, nofun⟩

/-- A timer that was running is not forgotten. -/
theorem start (equipped : view.Equipped orphans) (unopened : view.Unopened) (begun : Bool)
    {later : Nat} (kept : view.timer = some true ∨ orphans ≠ 0 -> later ≠ 0) :
    (view.start begun).Equipped later := by
  have running : view.delaying = true -> some false = some true ∨ later ≠ 0 :=
    fun delaying => Or.inr (kept (equipped.scheduled unopened.undisposed delaying))
  unfold UpstreamView.start
  split
  · exact ⟨fun _ _ => rfl, nofun, fun _ => running⟩
  · refine ⟨fun _ _ => rfl, fun _ runs => ?_, fun _ => running⟩
    exact absurd (unopened.stopped.symm.trans runs) Bool.false_ne_true

theorem establish (equipped : view.Equipped orphans) (running : view.running = true) :
    view.establish.Equipped orphans :=
  ⟨fun undisposed _ => equipped.timer undisposed (Or.inl running), fun _ _ _ => ⟨true, rfl⟩,
    equipped.scheduled⟩

/-- The handle of a connection that is not flushed is lost. -/
theorem breakDown (equipped : view.Equipped orphans) (unflushed : view.flushed = false) :
    Equipped orphans { view with handle := .freed } := by
  refine ⟨equipped.timer, fun _ _ flushed => ?_, equipped.scheduled⟩
  exact absurd (unflushed.symm.trans flushed) Bool.false_ne_true

end Equipped

end UpstreamView

namespace UvIsolatedConn

variable {conn : UvIsolatedConn}

theorem live_of_handle {socket : Bool} (handle : conn.view.handle = .live socket) :
    Exists fun clnt => conn.clnt = .live clnt := by
  rw [view, handleState] at handle
  cases pointer : conn.clnt with
  | live clnt => exact ⟨clnt, rfl⟩
  | null =>
      rw [pointer] at handle
      cases handle
  | freed =>
      rw [pointer] at handle
      cases handle

/-- `Reconnect` of a flushed connection with a handle begins an attempt. -/
theorem reconnect_defined {clnt : ClientHandle} (undisposed : conn.bDisposed = false)
    (flushed : conn.bFlushed = true) (live : conn.clnt = .live clnt) :
    Exists fun next => conn.reconnect true = some next ∧ next.thrown = conn.thrown := by
  rw [reconnect, if_neg (Bool.eq_false_iff.mp undisposed), if_pos flushed, live]
  exact ⟨_, rfl, rfl⟩

end UvIsolatedConn

namespace UvUpstream

variable {world after : UvUpstream} {codec : Codec} {event : UpstreamEvent}

@[simp] theorem settle_conn (world : UvUpstream) (next : UvIsolatedConn) :
    (world.settle next).conn = next := (world.settle_requests next).1

@[simp] theorem settle_orphans (world : UvUpstream) (next : UvIsolatedConn) :
    (world.settle next).orphans = world.orphans := by
  rcases settle_cases world next with ⟨socket, _, settled⟩ | ⟨_, settled⟩
  · rw [settled]
    rfl
  · rw [settled]

/-- The flags of a connection fit its timers, and its socket is open. -/
structure Equipped (world : UvUpstream) : Prop where
  view : world.conn.view.Equipped world.orphans
  opened : forall socket, world.current = some socket -> socket ∈ world.opened

namespace Equipped

theorem initial (recvPool sendPool : BufferPool) : (initial false recvPool sendPool).Equipped := by
  constructor
  · refine ⟨?_, nofun, nofun⟩
    rintro _ (impossible | impossible) <;> cases impossible
  · intro socket impossible
    cases impossible

theorem settle (equipped : world.Equipped) {next : UvIsolatedConn}
    (view : next.view.Equipped world.orphans) : (world.settle next).Equipped := by
  constructor
  · rw [settle_conn, settle_orphans]
    exact view
  · rcases settle_cases world next with ⟨socket, _, settled⟩ | ⟨_, settled⟩
    · rw [settled]
      intro other impossible
      cases impossible
    · rw [settled]
      exact equipped.opened

/-- An attempt begins with a new socket, or none does. -/
theorem attempt (equipped : world.Equipped) (orphans : Nat) {next : UvIsolatedConn}
    (view : next.view.Equipped orphans) (begins : Bool) :
    (if begins then { world with orphans := orphans }.opens next
      else { world with orphans := orphans, conn := next }).Equipped := by
  split
  · refine ⟨view, ?_⟩
    intro socket current
    cases current
    exact List.mem_append_right _ (List.mem_singleton_self _)
  · exact ⟨view, equipped.opened⟩

theorem connect (equipped : world.Equipped) {ip : List Char} {parsed started : Bool}
    {uninitialised : Memory UInt8} {next : UvIsolatedConn}
    (done : world.conn.connect ip parsed started uninitialised = some next) :
    next.view.Equipped (world.orphansAfter ip) := by
  rcases UvIsolatedConn.connect_view done with ⟨unopened, viewed⟩
  rw [viewed]
  unfold orphansAfter
  cases address : UvIsolatedConn.isIpAddress ip with
  | false => exact equipped.view
  | true =>
      rw [if_pos rfl, Bool.true_and]
      apply equipped.view.start unopened
      rintro (armed | orphaned)
      · rw [if_pos (decide_eq_true (p := world.conn.reconnectTimer = some true) armed)]
        exact Nat.succ_ne_zero _
      · split
        · exact Nat.succ_ne_zero _
        · exact orphaned

theorem reopen (equipped : world.Equipped) {next : UvIsolatedConn} {nDelaySeconds : Int}
    (done : world.conn.reopen nDelaySeconds = some next) : next.view.Equipped world.orphans := by
  cases disposed : world.conn.bDisposed with
  | true =>
      rw [UvIsolatedConn.reopen, if_pos disposed] at done
      cases done
      exact equipped.view
  | false =>
      rcases UvIsolatedConn.reopen_view disposed done with ⟨_, viewed, _⟩ | ⟨_, viewed, _⟩
      · rw [viewed]
        exact equipped.view.disconnect.delay
      · rw [viewed]
        exact equipped.view.delay

theorem dispose (equipped : world.Equipped) {next : UvIsolatedConn}
    (done : world.conn.disposeConnection = some next) : (world.settle next).Equipped := by
  apply equipped.settle
  rw [(UvIsolatedConn.disposeConnection_view done).1]
  apply UpstreamView.Equipped.dispose

/-- A failure that a callback reports. -/
theorem lost (equipped : world.Equipped) {conn next : UvIsolatedConn}
    (same : conn.view = world.conn.view) (lost : conn.flushAndError = some next) :
    (world.settle next).Equipped := by
  apply equipped.settle
  rw [(UvIsolatedConn.flushAndError_view lost).2.1, same]
  exact equipped.view.flush.error

theorem requests (equipped : world.Equipped) (connecting writing closing : List Nat) :
    ({ world with connecting, writing, closing } : UvUpstream).Equipped :=
  ⟨equipped.view, equipped.opened⟩

theorem flushAndError (equipped : world.Equipped) (done : world.flushAndError = some after) :
    after.Equipped := by
  rcases Option.map_eq_some_iff.mp done with ⟨next, called, rfl⟩
  rcases UvIsolatedConn.withClient_eq called with ⟨clnt, _, failed⟩
  exact equipped.lost rfl failed

theorem timer {started : Bool} (equipped : world.Equipped) {next : UvIsolatedConn}
    (done : world.conn.onTimer started = some next) :
    (if world.conn.bFlushed && started then world.opens next
      else { world with conn := next }).Equipped := by
  unfold UvIsolatedConn.onTimer at done
  split at done
  · have viewed := (UvIsolatedConn.reconnect_view done).2.1
    apply equipped.attempt world.orphans
    rw [viewed]
    exact .retry rfl started world.orphans
  · cases done

theorem orphanTimer {started : Bool} (equipped : world.Equipped) (regular : world.Regular)
    (done : world.onOrphanTimer started = some after) : after.Equipped := by
  rcases Regular.orphanTimer_fired done with ⟨orphaned, undisposed⟩
  have packet := regular.coherent.packet undisposed (.inr (.inr orphaned))
  have timer := equipped.view.timer undisposed (.inr packet)
  rcases Option.ite_none_right_eq_some.mp done with ⟨_, fires⟩
  rcases Option.map_eq_some_iff.mp fires with ⟨next, called, rfl⟩
  have viewed := (UvIsolatedConn.reconnect_view called).2.1
  apply equipped.attempt
  rw [viewed]
  exact .retry timer started _

theorem sendRaw {started : Bool} (equipped : world.Equipped)
    (done : world.sendRaw started = some after) : after.Equipped := by
  unfold UvUpstream.sendRaw at done
  split at done
  · split at done
    · cases started with
      | true =>
          cases done
          exact ⟨equipped.view, equipped.opened⟩
      | false =>
          rcases Option.map_eq_some_iff.mp done with ⟨next, called, rfl⟩
          exact equipped.dispose called
    · cases done
  · cases done
    exact equipped

theorem onConnectCb {socket : Nat} {outcome : ConnectOutcome} (equipped : world.Equipped)
    (regular : world.Regular) (due : socket ∈ world.connecting)
    (isOpen : socket ∈ world.opened ∨ outcome = .failed)
    (done : UvUpstream.onConnectCb { world with connecting := world.connecting.erase socket }
      outcome = some after) : after.Equipped := by
  cases outcome with
  | connected =>
      have opened := isOpen.resolve_right fun impossible => by cases impossible
      rcases regular.setUp due opened with ⟨_, live, _⟩
      have undisposed := (regular.coherent.usable live).2
      rcases Option.map_eq_some_iff.mp done with ⟨next, called, rfl⟩
      rcases UvIsolatedConn.withClient_eq called with ⟨clnt, _, established⟩
      split at established
      · cases established
        have kept := equipped.view.establish (regular.coherent.runs undisposed live)
        rw [← UvIsolatedConn.established_view world.conn clnt] at kept
        exact ⟨kept, equipped.opened⟩
      · cases established
  | setupFailed =>
      have opened := isOpen.resolve_right fun impossible => by cases impossible
      rcases regular.setUp due opened with ⟨current, live, _⟩
      simp only [UvUpstream.onConnectCb, current] at done
      cases done
      refine ⟨equipped.view.breakDown (regular.coherent.usable live).1, ?_⟩
      intro socket impossible
      cases impossible
  | failed => exact (equipped.requests _ world.writing world.closing).flushAndError done

theorem whileReading {socket : Nat} {callback : ClientHandle -> Option UvIsolatedConn}
    (keeps : forall clnt next, world.conn.clnt = .live clnt -> callback clnt = some next ->
      (world.settle next).Equipped)
    (done : world.whileReading socket callback = some after) : after.Equipped := by
  unfold UvUpstream.whileReading at done
  split at done
  · rcases Option.map_eq_some_iff.mp done with ⟨next, called, rfl⟩
    rcases UvIsolatedConn.withClient_eq called with ⟨clnt, live, answered⟩
    exact keeps clnt next live answered
  · cases done

theorem step (equipped : world.Equipped) (regular : world.Regular)
    (done : world.Step codec event after) : after.Equipped := by
  have unchanged : forall next, next.view = world.conn.view -> (world.settle next).Equipped := by
    intro next same
    apply equipped.settle
    rw [same]
    exact equipped.view
  unfold Step perform at done
  split at done
  · cases done
  · cases event with
    | connect ip parsed started uninitialised =>
        rcases Option.map_eq_some_iff.mp done with ⟨next, called, rfl⟩
        exact equipped.attempt _ (equipped.connect called) _
    | disconnect =>
        rcases Option.map_eq_some_iff.mp done with ⟨next, called, rfl⟩
        apply equipped.settle
        rw [(UvIsolatedConn.disconnect_view called).1]
        exact equipped.view.disconnect
    | reopen nDelaySeconds =>
        rcases Option.map_eq_some_iff.mp done with ⟨next, called, rfl⟩
        exact equipped.settle (equipped.reopen called)
    | disposeConnection =>
        rcases Option.map_eq_some_iff.mp done with ⟨next, called, rfl⟩
        exact equipped.dispose called
    | sendRaw started => exact equipped.sendRaw done
    | timer started =>
        rcases Option.map_eq_some_iff.mp done with ⟨next, called, rfl⟩
        exact equipped.timer called
    | orphanTimer started => exact equipped.orphanTimer regular done
    | connectCb socket outcome =>
        dsimp only at done
        split at done
        · rename_i due
          exact equipped.onConnectCb regular due.1 due.2 done
        · cases done
    | recv socket chunk =>
        refine whileReading (fun clnt next live received => ?_) done
        exact unchanged next (UvIsolatedConn.onRecv_view live received)
    | recvEnd socket allocated =>
        refine whileReading (fun clnt next live ended => ?_) done
        exact equipped.lost (UvIsolatedConn.setClient_view live _) ended
    | recvError socket allocated =>
        refine whileReading (fun clnt next live waiting => ?_) done
        cases waiting
        exact unchanged _ (UvIsolatedConn.setClient_view live _)
    | writeCb socket status =>
        dsimp only at done
        have written :=
          equipped.requests world.connecting (world.writing.erase socket) world.closing
        split at done
        · split at done
          · exact written.flushAndError done
          · cases done
            exact written
        · cases done
    | closeCb socket =>
        dsimp only at done
        split at done
        · rw [onStreamClose, if_neg (by rw [regular.plain]; exact Bool.false_ne_true)] at done
          cases done
          exact equipped.requests world.connecting world.writing _
        · cases done

end Equipped
end UvUpstream

/-! ## Without the front end -/

/-- What the loop does about the link on its own: timers fire, and connect requests end. -/
def UpstreamEvent.isOwn : UpstreamEvent -> Bool
  | .timer _ => true
  | .orphanTimer _ => true
  | .connectCb _ _ => true
  | _ => false

namespace UvUpstream

variable {world after : UvUpstream} {codec : Codec} {event : UpstreamEvent}

/-- A connect request that is in flight succeeds. -/
theorem Regular.connects (regular : world.Regular) (codec : Codec) (equipped : world.Equipped)
    (quiet : world.conn.thrown = none) (phase : world.link.phase = .connecting) :
    Exists fun socket => Exists fun last =>
      world.Step codec (.connectCb socket .connected) last ∧ last.conn.bConnected = true := by
  have stands := regular.stands
  rw [phase] at stands
  cases stands with
  | connecting _ _ running _ socket current request _ =>
      have opened := equipped.opened socket current
      rcases regular.setUp request opened with ⟨_, live, _⟩
      have isOpen := (socket_iff world.conn).mpr live
      rcases UvIsolatedConn.live_of_socket isOpen with ⟨clnt, handle⟩
      have present : clnt.sockimpl.isSome = true := by
        rw [UvIsolatedConn.socket, handle] at isOpen
        exact isOpen
      refine ⟨socket, { world with
        connecting := world.connecting.erase socket
        conn := (world.conn.established clnt).onConnect
        reading := world.reading ++ world.current.toList }, ?_, ?_⟩
      · unfold Step perform
        rw [quiet, if_neg (by decide)]
        dsimp only
        rw [if_pos ⟨request, .inl opened⟩, onConnectCb, UvIsolatedConn.withClient, handle]
        dsimp only
        rw [if_pos present]
        rfl
      · have viewed := congrArg UpstreamView.connected
          (UvIsolatedConn.established_view world.conn clnt)
        refine viewed.trans ?_
        exact Bool.or_eq_true _ _ |>.mpr (.inr running)

/-- Only timers make a link try again. -/
theorem retry_of_moveOf {own started : Bool} (retries : world.moveOf event = .retry own started) :
    (own = true ∧ event = .timer started) ∨ (own = false ∧ event = .orphanTimer started) := by
  unfold moveOf at retries
  split at retries
  · split at retries <;> cases retries
  · split at retries <;> cases retries
  · split at retries
    · cases retries
    · split at retries <;> cases retries
  · split at retries <;> cases retries
  · split at retries <;> cases retries
  · cases retries
    exact .inl ⟨rfl, rfl⟩
  · cases retries
    exact .inr ⟨rfl, rfl⟩
  all_goals cases retries

/-- A retry comes from a timer that is running. -/
theorem fires_of_step (done : world.Step codec event after) {own started : Bool}
    (retries : world.moveOf event = .retry own started) : world.link.Fires own := by
  unfold Step perform at done
  split at done
  · cases done
  · rcases retry_of_moveOf retries with ⟨rfl, rfl⟩ | ⟨rfl, rfl⟩
    · rcases Option.map_eq_some_iff.mp done with ⟨next, called, _⟩
      exact decide_eq_true (Option.ite_none_right_eq_some.mp called).1.1
    · exact (Regular.orphanTimer_fired done).1

theorem Regular.single_step (regular : world.Regular) (single : world.link.Single)
    (done : world.Step codec event after) : after.link.Single := by
  rw [(regular.step done).2]
  exact single.move fun own started retries => fires_of_step done retries

theorem Regular.connecting_of_retry {own : Bool} (regular : world.Regular)
    (phase : world.link.phase = .down) (done : world.Step codec event after)
    (retries : world.moveOf event = .retry own true) : after.link.phase = .connecting := by
  rw [(regular.step done).2, retries, UpstreamLink.move, phase]
  rfl

/-- A timer fires, and the request of the retry starts. -/
theorem Regular.retries_down (regular : world.Regular) (codec : Codec)
    (equipped : world.Equipped) (quiet : world.conn.thrown = none)
    (phase : world.link.phase = .down)
    (scheduled : world.conn.reconnectTimer = some true ∨ world.orphans ≠ 0)
    (timely : UvIsolatedConn.Timely world.conn.reconnectTimeout) :
    Exists fun event => Exists fun next => event.isOwn = true ∧ world.Step codec event next ∧
      next.conn.thrown = none ∧ next.link.phase = .connecting := by
  have stands := regular.stands
  rw [phase] at stands
  cases stands with
  | down undisposed flushed running _ _ =>
      rcases equipped.view.handle undisposed running flushed with ⟨socket, handle⟩
      rcases UvIsolatedConn.live_of_handle handle with ⟨clnt, live⟩
      rcases scheduled with armed | orphaned
      · have fires : Exists fun next => UvIsolatedConn.reconnect
            { world.conn with reconnectTimer := some false } true = some next ∧
              next.thrown = world.conn.thrown :=
          UvIsolatedConn.reconnect_defined undisposed flushed live
        rcases fires with ⟨next, retried, calm⟩
        have done : world.Step codec (.timer true) (world.opens next) := by
          unfold Step perform
          rw [quiet, if_neg (by decide)]
          dsimp only
          rw [UvIsolatedConn.onTimer, if_pos ⟨armed, timely⟩]
          dsimp only
          rw [retried, flushed]
          rfl
        exact ⟨.timer true, _, rfl, done, calm.trans quiet,
          regular.connecting_of_retry phase done rfl⟩
      · rcases UvIsolatedConn.reconnect_defined undisposed flushed live with ⟨next, retried, calm⟩
        have done : world.Step codec (.orphanTimer true)
            (UvUpstream.opens { world with orphans := world.orphans - 1 } next) := by
          unfold Step perform
          rw [quiet, if_neg (by decide)]
          dsimp only
          rw [onOrphanTimer, if_pos ⟨orphaned, timely⟩, retried, flushed]
          rfl
        exact ⟨.orphanTimer true, _, rfl, done, calm.trans quiet,
          regular.connecting_of_retry phase done rfl⟩

/-! ## What `Reopen` is for -/

/-- One timer is running, that of the connection or one that `Connect` has replaced, and
it will fire. -/
structure Armed (world : UvUpstream) : Prop where
  single : (world.conn.reconnectTimer = some true ∧ world.orphans = 0) ∨
    (world.conn.reconnectTimer ≠ some true ∧ world.orphans = 1)
  timely : UvIsolatedConn.Timely world.conn.reconnectTimeout

namespace Regular

/-- A timer that fires brings the connection up again. -/
theorem again (regular : world.Regular) (equipped : world.Equipped)
    (quiet : world.conn.thrown = none)
    (phase : world.link.phase = .down ∨ world.link.phase = .connecting) (armed : world.Armed) :
    Exists fun events => Exists fun last =>
      (forall event, event ∈ events -> event.isOwn = true) ∧
        Run (Step codec) world events last ∧ last.conn.bConnected = true := by
  rcases phase with down | connecting
  · have scheduled : world.conn.reconnectTimer = some true ∨ world.orphans ≠ 0 :=
      armed.single.imp (fun own => own.1) fun orphaned => by rw [orphaned.2]; exact Nat.one_ne_zero
    rcases regular.retries_down codec equipped quiet down scheduled armed.timely with
      ⟨event, next, own, done, calm, connecting⟩
    rcases (regular.step done).1.connects codec (equipped.step regular done) calm
      connecting with ⟨socket, last, up, connected⟩
    refine ⟨[event, .connectCb socket .connected], last, ?_, .cons done (.single up), connected⟩
    intro other member
    rcases List.mem_cons.mp member with rfl | later
    · exact own
    · rw [List.mem_singleton.mp later]
      rfl
  · rcases regular.connects codec equipped quiet connecting with
      ⟨socket, last, up, connected⟩
    refine ⟨[.connectCb socket .connected], last, ?_, .single up, connected⟩
    intro other member
    rw [List.mem_singleton.mp member]
    rfl

end Regular

/-- A run to a state in which the connection is not disposed of. -/
structure Reopenable (codec : Codec) (world : UvUpstream) : Prop where
  reached : Exists fun recvPool => Exists fun sendPool => Exists fun events =>
    Run (Step codec) (initial false recvPool sendPool) events world
  undisposed : world.conn.bDisposed = false

namespace Reopenable

theorem known (reopenable : Reopenable codec world) :
    world.Regular ∧ world.Equipped ∧ world.link.Single := by
  rcases reopenable.reached with ⟨recvPool, sendPool, events, run⟩
  apply run.invariant fun world => world.Regular ∧ world.Equipped ∧ world.link.Single
  · rintro state event next ⟨regular, equipped, single⟩ done
    exact ⟨(regular.step done).1, equipped.step regular done, regular.single_step single done⟩
  · exact ⟨initial_regular recvPool sendPool, .initial recvPool sendPool,
      ⟨fun _ => ⟨rfl, rfl⟩, nofun, Nat.zero_le 1⟩⟩

end Reopenable
end UvUpstream
end NetSystem
