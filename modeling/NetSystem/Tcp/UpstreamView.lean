import NetSystem.Tcp.UvIsolatedInvariant

namespace NetSystem

/-!
# The flags of an upstream connection

`UpstreamView` is what the flags and pointers of a connection say, without the packet
object, the pools and the buffer.  Each operation of `CUvIsolatedConn` has a
counterpart on views, and its lemma says that the operation does to the view what
the counterpart does.  Whether the handle has been freed decides only if the
operation has a result.
-/

/-- The state of the client handle, with whether it has a socket. -/
inductive HandleState where
  | null
  | live (socket : Bool)
  | freed
deriving DecidableEq

/-- The flags and pointers of a connection. -/
structure UpstreamView where
  handle : HandleState
  packet : Bool
  timer : Option Bool
  running : Bool
  connected : Bool
  disposed : Bool
  flushed : Bool
  delaying : Bool
deriving DecidableEq

namespace UpstreamView

def flush (view : UpstreamView) : UpstreamView :=
  if view.handle = .live true ∧ view.flushed = false then
    { view with handle := .live false, flushed := true }
  else view

def delay (view : UpstreamView) : UpstreamView :=
  if view.delaying || view.disposed then view
  else { view with delaying := true, timer := some true }

def cut (view : UpstreamView) : UpstreamView := { view with connected := false }

def error (view : UpstreamView) : UpstreamView := if view.running then view.cut.delay else view.cut

def dispose (view : UpstreamView) : UpstreamView :=
  if view.disposed then view
  else { { view with disposed := true, packet := false }.flush with timer := none }

def disconnect (view : UpstreamView) : UpstreamView :=
  if !view.disposed && view.running then
    { view with running := false, connected := false }.dispose
  else view

def retry (started : Bool) (view : UpstreamView) : UpstreamView :=
  if view.flushed then
    { view with
      handle := if started then .live true else view.handle
      delaying := false
      running := true
      flushed := false }
  else { view with delaying := false, running := true }

/-- What `Connect` asserts. -/
structure Unopened (view : UpstreamView) : Prop where
  unconnected : view.connected = false
  undisposed : view.disposed = false
  flushed : view.flushed = true
  stopped : view.running = false

/-- `Connect` of an address. -/
def start (begun : Bool) (view : UpstreamView) : UpstreamView :=
  if begun then
    { view with
      handle := .live true
      packet := true
      timer := some false
      running := true
      flushed := false }
  else { view with handle := .null, packet := true, timer := some false }

def establish (view : UpstreamView) : UpstreamView :=
  { view with handle := .live true, connected := view.connected || view.running }

end UpstreamView

namespace UvIsolatedConn

def handleState (conn : UvIsolatedConn) : HandleState :=
  match conn.clnt with
  | .null => .null
  | .live clnt => .live clnt.sockimpl.isSome
  | .freed => .freed

def view (conn : UvIsolatedConn) : UpstreamView where
  handle := conn.handleState
  packet := conn.packet.isSome
  timer := conn.reconnectTimer
  running := conn.bRunning
  connected := conn.bConnected
  disposed := conn.bDisposed
  flushed := conn.bFlushed
  delaying := conn.bDelayReconnecting

variable {conn next : UvIsolatedConn}

theorem handle_ne (kept : conn.clnt ≠ .freed) :
    conn.view.handle ≠ .freed := by
  rw [view, handleState]
  cases handle : conn.clnt with
  | null => nofun
  | live clnt => nofun
  | freed => exact absurd handle kept

theorem handleState_live {clnt : ClientHandle} (live : conn.clnt = .live clnt) :
    conn.handleState = .live clnt.sockimpl.isSome := by
  rw [handleState, live]

theorem flushStream_view (done : conn.flushStream = some next) :
    next.view = conn.view.flush ∧ conn.clnt ≠ .freed := by
  unfold flushStream at done
  cases handle : conn.clnt with
  | null =>
      rw [handle] at done
      cases done
      exact ⟨by simp [UpstreamView.flush, view, handleState, handle], nofun⟩
  | freed =>
      rw [handle] at done
      cases done
  | live clnt =>
      rw [handle] at done
      refine ⟨?_, nofun⟩
      have shown : conn.view.handle = .live clnt.sockimpl.isSome := handleState_live handle
      have isOpen : conn.view.handle = .live true ↔ clnt.sockimpl.isSome = true := by
        rw [shown, HandleState.live.injEq]
      rw [UpstreamView.flush]
      dsimp only at done
      split at done
      · rename_i closes
        rw [if_pos ⟨isOpen.mpr closes.1, Bool.eq_false_iff.mpr closes.2⟩]
        cases done
        rfl
      · rename_i stays
        rw [if_neg fun closes => stays ⟨isOpen.mp closes.1, Bool.eq_false_iff.mp closes.2⟩]
        cases done
        rfl

theorem delayReconnect_view {nDelaySeconds : Int}
    (done : conn.delayReconnect nDelaySeconds = some next) :
    next.view = conn.view.delay ∧
      (conn.bDelayReconnecting = false -> conn.bDisposed = false ->
        conn.reconnectTimer.isSome = true) := by
  rw [UpstreamView.delay]
  rcases delayReconnect_cases done with ⟨stays, same⟩ | ⟨waits, undisposed, timer, timeout, _, rfl⟩
  · have condition : (conn.view.delaying || conn.view.disposed) = true :=
      (Bool.or_eq_true ..).mpr stays
    rw [same, condition, if_pos rfl]
    refine ⟨rfl, fun waits undisposed => ?_⟩
    rcases stays with delaying | disposed
    · exact absurd (waits.symm.trans delaying) Bool.false_ne_true
    · exact absurd (undisposed.symm.trans disposed) Bool.false_ne_true
  · have condition : (conn.view.delaying || conn.view.disposed) = false :=
      Bool.or_eq_false_iff.mpr ⟨waits, undisposed⟩
    rw [condition, if_neg Bool.false_ne_true]
    exact ⟨rfl, fun _ _ => timer⟩

theorem onIsolatedError_view (done : conn.onIsolatedError = some next) :
    conn.view.packet = true ∧ next.view = conn.view.error := by
  unfold onIsolatedError at done
  cases holds : conn.packet with
  | none =>
      rw [holds] at done
      cases done
  | some packet =>
      rw [holds] at done
      have present : conn.view.packet = true := by
        rw [view, holds]
        rfl
      have cleared : (conn.cleared packet).view = conn.view.cut := by
        rw [UpstreamView.cut, present]
        rfl
      refine ⟨present, ?_⟩
      change next.view = if conn.bRunning = true then conn.view.cut.delay else conn.view.cut
      rw [← cleared]
      change (if conn.bRunning = true then
        (conn.cleared packet).delayReconnect reconnectDelaySeconds
        else some (conn.cleared packet)) = some next at done
      split at done
      · rename_i running
        rw [if_pos running]
        exact (delayReconnect_view done).1
      · rename_i stopped
        rw [if_neg stopped]
        cases done
        rfl

theorem flushAndError_view (done : conn.flushAndError = some next) :
    conn.view.packet = true ∧ next.view = conn.view.flush.error ∧ conn.clnt ≠ .freed := by
  rcases Option.bind_eq_some_iff.mp done with ⟨flushed, flush, error⟩
  rcases flushStream_view flush with ⟨viewed, present⟩
  rcases onIsolatedError_view error with ⟨packet, result⟩
  rw [viewed] at packet result
  refine ⟨?_, result, present⟩
  rw [UpstreamView.flush] at packet
  split at packet
  · exact packet
  · exact packet

theorem deletePacket_view (conn : UvIsolatedConn) :
    conn.deletePacket.view = { conn.view with packet := false } := by
  unfold deletePacket
  split
  · rename_i missing
    rw [view, missing]
    rfl
  · rfl

theorem disposeConnection_view (done : conn.disposeConnection = some next) :
    next.view = conn.view.dispose ∧ (conn.bDisposed = false -> conn.clnt ≠ .freed) := by
  unfold disposeConnection at done
  rw [UpstreamView.dispose]
  split at done
  · rename_i disposed
    cases done
    rw [if_pos (c := conn.view.disposed = true) disposed]
    exact ⟨rfl, fun undisposed => absurd (undisposed.symm.trans disposed) Bool.false_ne_true⟩
  · rename_i undisposed
    rcases Option.map_eq_some_iff.mp done with ⟨flushed, flush, rfl⟩
    rcases flushStream_view flush with ⟨viewed, present⟩
    rw [deletePacket_view] at viewed
    refine ⟨?_, fun _ freed => present ((deletePacket_rest _).1.trans freed)⟩
    rw [if_neg (c := conn.view.disposed = true) undisposed]
    change { flushed.view with timer := none } = _
    rw [viewed]
    rfl

theorem flushStream_defined (kept : conn.clnt ≠ .freed) :
    Exists fun next => conn.flushStream = some next := by
  unfold flushStream
  split
  · exact ⟨conn, rfl⟩
  · rename_i freed
    exact absurd freed kept
  · split
    · exact ⟨_, rfl⟩
    · exact ⟨conn, rfl⟩

theorem disposeConnection_defined (kept : conn.clnt ≠ .freed) :
    Exists fun next => conn.disposeConnection = some next := by
  unfold disposeConnection
  split
  · exact ⟨conn, rfl⟩
  · have same := (deletePacket_rest { conn with bDisposed := true }).1
    rcases flushStream_defined fun freed => kept (same.symm.trans freed) with ⟨flushed, flush⟩
    exact ⟨{ flushed with reconnectTimer := none }, Option.map_eq_some_iff.mpr ⟨flushed, flush, rfl⟩⟩

theorem disconnect_defined (kept : conn.clnt ≠ .freed) :
    Exists fun next => conn.disconnect = some next := by
  unfold disconnect
  split
  · exact @disposeConnection_defined { conn with bRunning := false, bConnected := false } kept
  · exact ⟨conn, rfl⟩

theorem disconnect_view (done : conn.disconnect = some next) :
    next.view = conn.view.disconnect ∧
      (conn.bDisposed = false -> conn.bRunning = true -> conn.clnt ≠ .freed) := by
  unfold disconnect at done
  rw [UpstreamView.disconnect]
  split at done
  · rename_i takes
    rcases disposeConnection_view done with ⟨viewed, present⟩
    have condition : (!conn.view.disposed && conn.view.running) = true := by
      rw [Bool.and_eq_true, Bool.not_eq_true']
      exact ⟨Bool.eq_false_iff.mpr takes.1, takes.2⟩
    rw [if_pos condition]
    exact ⟨viewed, fun undisposed _ => present undisposed⟩
  · rename_i stays
    have condition : ¬ (!conn.view.disposed && conn.view.running) = true := by
      rw [Bool.and_eq_true, Bool.not_eq_true']
      exact fun takes => stays ⟨Bool.eq_false_iff.mp takes.1, takes.2⟩
    rw [if_neg condition]
    cases done
    exact ⟨rfl, fun undisposed running =>
      absurd ⟨Bool.eq_false_iff.mp undisposed, running⟩ stays⟩

theorem reconnect_view {started : Bool} (done : conn.reconnect started = some next) :
    conn.bDisposed = false ∧ next.view = conn.view.retry started ∧
      (conn.bFlushed = true -> started = true -> Exists fun clnt => conn.clnt = .live clnt) := by
  rcases reconnect_cases done with
    ⟨undisposed, ⟨unflushed, rfl⟩ | ⟨flushed, clnt, live, rfl⟩ | ⟨flushed, fails, missing, rfl⟩⟩
  · refine ⟨undisposed, ?_, fun flushed => ?_⟩
    · rw [UpstreamView.retry, if_neg (c := conn.view.flushed = true) (Bool.eq_false_iff.mp unflushed)]
      rfl
    · exact absurd (unflushed.symm.trans flushed) Bool.false_ne_true
  · refine ⟨undisposed, ?_, fun _ _ => ⟨clnt, live⟩⟩
    have shown : conn.view.handle = .live clnt.sockimpl.isSome := handleState_live live
    rw [UpstreamView.retry, if_pos (c := conn.view.flushed = true) flushed, shown]
    cases started with
    | true => rfl
    | false => rfl
  · refine ⟨undisposed, ?_, fun _ starts => ?_⟩
    · rw [UpstreamView.retry, if_pos (c := conn.view.flushed = true) flushed, fails]
      rfl
    · exact absurd (fails.symm.trans starts) Bool.false_ne_true

theorem onTimer_undisposed {started : Bool} (done : conn.onTimer started = some next) :
    conn.bDisposed = false := by
  unfold onTimer at done
  split at done
  · exact (reconnect_cases done).1
  · cases done

/-- The buffer of the handle changes, or what the packet object holds. -/
theorem onRecv_view {codec : Codec} {chunk : List UInt8} {clnt : ClientHandle}
    (live : conn.clnt = .live clnt) (done : conn.onRecv codec chunk clnt = some next) :
    next.view = conn.view := by
  have shown : conn.handleState = .live clnt.sockimpl.isSome := handleState_live live
  unfold onRecv at done
  split at done
  · split at done
    · cases done
    · cases done
      rw [view, view, shown]
      rfl
  · split at done
    · cases done
    · rename_i packet holds
      split at done
      · cases done
        rw [view, view, shown, holds]
        rfl
      · cases done
        rw [view, view, shown, holds]
        rfl
      · cases done

theorem setClient_view {clnt : ClientHandle} (live : conn.clnt = .live clnt) (bb : BipBuf) :
    (conn.setClient { clnt with bb := bb }).view = conn.view := by
  rw [view, view, handleState_live live]
  rfl

end UvIsolatedConn

namespace UvIsolatedConn

variable {conn next : UvIsolatedConn}

theorem connect_view {ip : List Char} {parsed started : Bool} {uninitialised : Memory UInt8}
    (done : conn.connect ip parsed started uninitialised = some next) :
    conn.view.Unopened ∧
      next.view =
        if isIpAddress ip then conn.view.start (parsed && started) else conn.view := by
  unfold connect at done
  split at done
  · rename_i fresh
    have unopened : conn.view.Unopened :=
      ⟨Bool.eq_false_iff.mpr fresh.1, Bool.eq_false_iff.mpr fresh.2.1, fresh.2.2.1,
        Bool.eq_false_iff.mpr fresh.2.2.2⟩
    refine ⟨unopened, ?_⟩
    split at done
    · rename_i address
      rw [if_pos address, UpstreamView.start]
      dsimp only at done
      split at done
      · rename_i begins
        rw [if_pos (by rw [begins.1, begins.2]; rfl)]
        cases done
        rfl
      · rename_i fails
        rw [if_neg (by rw [Bool.and_eq_true]; exact fails)]
        cases done
        rfl
    · rename_i hostname
      rw [if_neg hostname]
      cases done
      rfl
  · cases done

theorem established_view (conn : UvIsolatedConn) (clnt : ClientHandle) :
    (conn.established clnt).onConnect.view = conn.view.establish := by
  unfold onConnect
  rw [UpstreamView.establish]
  split
  · rename_i takes
    have running : conn.bRunning = true := takes.1
    have condition : (conn.view.connected || conn.view.running) = true := by
      rw [Bool.or_eq_true]
      exact .inr running
    rw [condition]
    rfl
  · rename_i stays
    have same : (conn.view.connected || conn.view.running) = conn.bConnected := by
      change (conn.bConnected || conn.bRunning) = conn.bConnected
      cases running : conn.bRunning with
      | false => exact Bool.or_false _
      | true =>
          cases connected : conn.bConnected with
          | true => rfl
          | false => exact absurd ⟨running, Bool.eq_false_iff.mp connected⟩ stays
    rw [same]
    rfl

/-- `Reopen` of a connection that is not disposed of. -/
theorem reopen_view {nDelaySeconds : Int} (undisposed : conn.bDisposed = false)
    (done : conn.reopen nDelaySeconds = some next) :
    (conn.bConnected = true ∧ next.view = conn.view.disconnect.delay ∧
      (conn.bRunning = true -> conn.clnt ≠ .freed)) ∨
    (conn.bConnected = false ∧ next.view = conn.view.delay ∧
      (conn.bDelayReconnecting = false -> conn.reconnectTimer.isSome = true)) := by
  rw [reopen, if_neg (Bool.eq_false_iff.mp undisposed)] at done
  rcases Option.bind_eq_some_iff.mp done with ⟨middle, stopped, delayed⟩
  rcases delayReconnect_view delayed with ⟨viewed, timer⟩
  split at stopped
  · rename_i connected
    rcases disconnect_view stopped with ⟨between, present⟩
    rw [between] at viewed
    exact .inl ⟨connected, viewed, present undisposed⟩
  · rename_i unconnected
    cases stopped
    exact .inr ⟨Bool.eq_false_iff.mpr unconnected, viewed, fun waits => timer waits undisposed⟩

end UvIsolatedConn
end NetSystem
