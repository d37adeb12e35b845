import NetSystem.Tcp.UvRequests
import NetSystem.Tcp.UpstreamLink

namespace NetSystem

/-!
# The steps of an upstream connection

`UvUpstream.moveOf` says which move of the link an event is.  A connection of
`CUvIsolatedConn` has at most one open socket, that of its client handle.  Every
step keeps this, together with the flags being coherent, and moves the link as
its event says.
-/

namespace UvUpstream

/-- The loop reads from a socket. -/
def reads (world : UvUpstream) : Bool := !world.reading.isEmpty

def link (world : UvUpstream) : UpstreamLink := world.conn.view.link world.reads world.orphans

/-- What an event does to the link. -/
def moveOf (world : UvUpstream) : UpstreamEvent -> LinkMove
  | .connect ip parsed started _ =>
      if UvIsolatedConn.isIpAddress ip then .start (parsed && started) else .idle
  | .disconnect => if !world.conn.bDisposed && world.conn.bRunning then .stop else .idle
  | .reopen _ =>
      if world.conn.bDisposed then .idle else if world.conn.bConnected then .stop else .delay
  | .disposeConnection => if world.conn.bDisposed then .idle else .dispose
  | .sendRaw started => if world.disposes (.sendRaw started) then .dispose else .idle
  | .timer started => .retry true started
  | .orphanTimer started => .retry false started
  | .connectCb _ .connected => .up
  | .connectCb _ .setupFailed => .breakDown
  | .connectCb _ .failed => .lose
  | .recvEnd _ _ => .lose
  | .writeCb _ (.failed false) => .lose
  | _ => .idle

/-- The sockets of a connection of `CUvIsolatedConn`: at most one is open, that of
the client handle. -/
structure Linked (world : UvUpstream) : Prop where
  plain : world.gate = false
  coherent : world.conn.view.Coherent world.reads world.orphans
  socket : world.current.isSome = true ↔ world.conn.view.handle = .live true
  opened : forall socket, socket ∈ world.opened -> world.current = some socket
  reading : forall socket, socket ∈ world.reading -> world.current = some socket
  fresh : forall socket, socket ∈ world.connecting -> socket < world.sockets
  nodup : world.connecting.Nodup

/-- In addition, a socket that is open is either read from or still connecting. -/
structure Regular (world : UvUpstream) : Prop extends Linked world where
  apart : forall socket, socket ∈ world.reading -> socket ∉ world.connecting
  requested : forall socket, world.current = some socket ->
    socket ∈ world.reading ∨ socket ∈ world.connecting

/-- What a phase says about the connection. -/
inductive Stands (world : UvUpstream) : LinkPhase -> Prop where
  | disposed (disposed : world.conn.bDisposed = true) (closed : world.current = none) :
      Stands world (.disposed world.conn.bConnected world.conn.bFlushed)
  | unopened (undisposed : world.conn.bDisposed = false) (flushed : world.conn.bFlushed = true)
      (stopped : world.conn.bRunning = false) (unconnected : world.conn.bConnected = false)
      (closed : world.current = none) : Stands world .unopened
  | down (undisposed : world.conn.bDisposed = false) (flushed : world.conn.bFlushed = true)
      (running : world.conn.bRunning = true) (unconnected : world.conn.bConnected = false)
      (closed : world.current = none) : Stands world .down
  | stranded (undisposed : world.conn.bDisposed = false) (unflushed : world.conn.bFlushed = false)
      (running : world.conn.bRunning = true) (unconnected : world.conn.bConnected = false)
      (closed : world.current = none) (kept : world.conn.clnt ≠ .freed) : Stands world .stranded
  | broken (undisposed : world.conn.bDisposed = false) (unflushed : world.conn.bFlushed = false)
      (running : world.conn.bRunning = true) (unconnected : world.conn.bConnected = false)
      (closed : world.current = none) (freed : world.conn.clnt = .freed) : Stands world .broken
  | connecting (undisposed : world.conn.bDisposed = false)
      (unflushed : world.conn.bFlushed = false) (running : world.conn.bRunning = true)
      (unconnected : world.conn.bConnected = false) (socket : Nat)
      (current : world.current = some socket) (request : socket ∈ world.connecting)
      (silent : forall other, other ∉ world.reading) : Stands world .connecting
  | established (undisposed : world.conn.bDisposed = false)
      (unflushed : world.conn.bFlushed = false) (running : world.conn.bRunning = true)
      (connected : world.conn.bConnected = true) (socket : Nat)
      (current : world.current = some socket) (reads : socket ∈ world.reading) :
      Stands world .established

theorem initial_regular (recvPool sendPool : BufferPool) :
    (initial false recvPool sendPool).Regular where
  plain := rfl
  coherent := by
    constructor <;> simp [initial, reads, UvIsolatedConn.view, UvIsolatedConn.handleState,
      UvIsolatedConn.initial]
  socket := by simp [initial, UvIsolatedConn.view, UvIsolatedConn.handleState,
      UvIsolatedConn.initial]
  opened := nofun
  reading := nofun
  fresh := nofun
  nodup := .nil
  apart := nofun
  requested := nofun

theorem socket_iff (conn : UvIsolatedConn) :
    conn.socket.isSome = true ↔ conn.view.handle = .live true := by
  rw [UvIsolatedConn.socket, UvIsolatedConn.view, UvIsolatedConn.handleState]
  cases conn.clnt with
  | null => simp
  | freed => simp
  | live clnt => simp

theorem reads_iff (world : UvUpstream) :
    world.reads = true ↔ Exists fun socket => socket ∈ world.reading := by
  rw [reads, Bool.not_eq_true', List.isEmpty_eq_false_iff_exists_mem]

theorem not_reads {world : UvUpstream} (silent : forall socket, socket ∉ world.reading) :
    world.reads = false := by
  rw [reads, List.eq_nil_iff_forall_not_mem.mpr silent]
  rfl

namespace Linked

variable {world : UvUpstream} {next : UvIsolatedConn}

/-- Without a socket nothing is read. -/
theorem silent (linked : world.Linked) (closed : world.current = none) : world.reads = false := by
  refine not_reads fun socket member => ?_
  have current := linked.reading socket member
  rw [closed] at current
  cases current

/-- Requests are done. -/
theorem fewer (linked : world.Linked) {connecting : List Nat} (writing closing : List Nat)
    (fewer : forall socket, socket ∈ connecting -> socket ∈ world.connecting)
    (nodup : connecting.Nodup) :
    ({ world with connecting, writing, closing } : UvUpstream).Linked :=
  ⟨linked.plain, linked.coherent, linked.socket, linked.opened, linked.reading,
    fun socket member => linked.fresh socket (fewer socket member), nodup⟩

/-- A connection without a socket. -/
theorem regular_of_closed {world : UvUpstream} (linked : world.Linked)
    (closed : world.current = none) : world.Regular := by
  refine ⟨linked, fun socket member => ?_, fun socket current => ?_⟩
  · have current := linked.reading socket member
    rw [closed] at current
    cases current
  · rw [closed] at current
    cases current

/-- The call has closed the socket, if there was one. -/
theorem closes (linked : world.Linked) (coherent : next.view.Coherent false world.orphans)
    (closed : next.view.handle ≠ .live true) :
    (world.settle next).Regular ∧
      (world.settle next).link = next.view.link false world.orphans := by
  have noSocket : next.socket.isSome ≠ true := fun isOpen => closed ((socket_iff next).mp isOpen)
  rcases settle_cases world next with ⟨last, current, result⟩ | ⟨still, result⟩
  · rw [result]
    have gone : forall socket, socket ∉ (world.forget last).reading := by
      intro socket member
      rcases List.mem_filter.mp member with ⟨reading, other⟩
      have same := current.symm.trans (linked.reading socket reading)
      rw [Option.some.inj same] at other
      simp at other
    have silent : ({ world.forget last with
        conn := next, closing := world.closing ++ [last] } : UvUpstream).reads = false :=
      not_reads gone
    have after : ({ world.forget last with
        conn := next, closing := world.closing ++ [last] } : UvUpstream).Linked := by
      refine ⟨linked.plain, ?_, ?_, ?_, ?_, linked.fresh, linked.nodup⟩
      · rw [silent]
        exact coherent
      · exact ⟨nofun, fun isOpen => absurd isOpen closed⟩
      · intro socket member
        rcases List.mem_filter.mp member with ⟨opened, other⟩
        have same := current.symm.trans (linked.opened socket opened)
        rw [Option.some.inj same] at other
        simp at other
      · exact fun socket member => absurd member (gone socket)
    refine ⟨after.regular_of_closed rfl, ?_⟩
    rw [UvUpstream.link, silent]
    rfl
  · rw [result]
    have none : world.current = none := by
      cases current : world.current with
      | none => rfl
      | some socket => exact absurd (still socket current) noSocket
    have silent : ({ world with conn := next } : UvUpstream).reads = false := linked.silent none
    have after : ({ world with conn := next } : UvUpstream).Linked := by
      refine ⟨linked.plain, ?_, ?_, linked.opened, linked.reading, linked.fresh, linked.nodup⟩
      · rw [silent]
        exact coherent
      · rw [none]
        exact ⟨nofun, fun isOpen => absurd isOpen closed⟩
    refine ⟨after.regular_of_closed none, ?_⟩
    rw [UvUpstream.link, silent]

end Linked

namespace Regular

variable {world after : UvUpstream} {next : UvIsolatedConn}

/-- The members of the connection change, and no socket is opened or closed. -/
theorem replace (regular : world.Regular)
    (coherent : next.view.Coherent world.reads world.orphans)
    (same : next.view.handle = .live true ↔ world.conn.view.handle = .live true) :
    ({ world with conn := next } : UvUpstream).Regular :=
  { regular with coherent := coherent, socket := regular.socket.trans same.symm }

/-- Neither the flags nor the sockets change. -/
theorem unchanged (regular : world.Regular) (same : next.view = world.conn.view) :
    ({ world with conn := next } : UvUpstream).Regular ∧
      ({ world with conn := next } : UvUpstream).link = world.link := by
  constructor
  · refine regular.replace ?_ (by rw [same])
    rw [same]
    exact regular.coherent
  · rw [UvUpstream.link, UvUpstream.link, same]
    rfl

/-- A call that leaves the socket as it was. -/
theorem settle_eq (regular : world.Regular)
    (same : next.view.handle = .live true ↔ world.conn.view.handle = .live true) :
    world.settle next = { world with conn := next } := by
  unfold settle
  split
  · rename_i socket current closed
    have live := same.mpr (regular.socket.mp (by rw [current]; rfl))
    have isOpen := (socket_iff next).mpr live
    rw [closed] at isOpen
    cases isOpen
  · rfl

theorem unchanged_settle (regular : world.Regular) (same : next.view = world.conn.view) :
    (world.settle next).Regular ∧ (world.settle next).link = world.link := by
  rw [regular.settle_eq (by rw [same])]
  exact regular.unchanged same

/-- A connection without a socket gets one. -/
theorem opens (regular : world.Regular) (closed : world.current = none)
    (coherent : next.view.Coherent false world.orphans) (live : next.view.handle = .live true) :
    (world.opens next).Regular ∧
      (world.opens next).link = next.view.link false world.orphans := by
  have silent : (world.opens next).reads = false := regular.silent closed
  have nothing : forall socket, socket ∉ world.reading := by
    intro socket member
    have current := regular.reading socket member
    rw [closed] at current
    cases current
  refine ⟨⟨⟨regular.plain, ?_, ⟨fun _ => live, fun _ => rfl⟩, ?_, ?_, ?_, ?_⟩, ?_, ?_⟩, ?_⟩
  · rw [silent]
    exact coherent
  · intro socket member
    rcases List.mem_append.mp member with opened | added
    · have current := regular.opened socket opened
      rw [closed] at current
      cases current
    · rw [List.mem_singleton.mp added]
      rfl
  · exact fun socket member => absurd member (nothing socket)
  · intro socket member
    rcases List.mem_append.mp member with connecting | added
    · exact Nat.lt_succ_of_lt (regular.fresh socket connecting)
    · rw [List.mem_singleton.mp added]
      exact Nat.lt_succ_self _
  · refine List.nodup_append.mpr ⟨regular.nodup, List.pairwise_singleton _ _, ?_⟩
    rintro socket connecting _ added rfl
    rw [List.mem_singleton.mp added] at connecting
    exact Nat.lt_irrefl _ (regular.fresh _ connecting)
  · exact fun socket member => absurd member (nothing socket)
  · rintro _ ⟨⟩
    exact .inr (List.mem_append_right _ (List.mem_singleton_self _))
  · rw [UvUpstream.link, silent]
    rfl

theorem flushed_closed (regular : world.Regular) (flushed : world.conn.bFlushed = true) :
    world.current = none := by
  cases current : world.current with
  | none => rfl
  | some socket =>
      have live := regular.socket.mp (by rw [current]; rfl)
      exact absurd ((regular.coherent.usable live).1.symm.trans flushed) Bool.false_ne_true

theorem disposed_closed (regular : world.Regular) (disposed : world.conn.bDisposed = true) :
    world.current = none := by
  cases current : world.current with
  | none => rfl
  | some socket =>
      have live := regular.socket.mp (by rw [current]; rfl)
      exact absurd ((regular.coherent.usable live).2.symm.trans disposed) Bool.false_ne_true

/-- A connection that is not flushed either has a socket, or has lost it for good. -/
theorem stands_unflushed (regular : world.Regular) (undisposed : world.conn.bDisposed = false)
    (unflushed : world.conn.bFlushed = false) : world.Stands world.link.phase := by
  have connected := regular.coherent.connected undisposed
  have running : world.conn.bRunning = true := by
    cases running : world.conn.bRunning with
    | true => rfl
    | false =>
        have flushed := regular.coherent.idle running undisposed
        exact absurd (unflushed.symm.trans flushed) Bool.false_ne_true
  change world.Stands (world.conn.view.phase world.reads)
  rw [UpstreamView.phase,
    if_neg (c := world.conn.view.disposed = true) (Bool.eq_false_iff.mp undisposed),
    if_neg (c := world.conn.view.flushed = true) (Bool.eq_false_iff.mp unflushed)]
  cases current : world.current with
  | some socket =>
      rw [regular.socket.mp (by rw [current]; rfl)]
      cases reads : world.reads with
      | true =>
          rcases (reads_iff world).mp reads with ⟨other, reading⟩
          have same := Option.some.inj (current.symm.trans (regular.reading other reading))
          rw [← same] at reading
          exact .established undisposed unflushed running (connected.trans reads) socket current
            reading
      | false =>
          have silent : forall other, other ∉ world.reading := fun other reading =>
            absurd (reads.symm.trans ((reads_iff world).mpr ⟨other, reading⟩)) Bool.false_ne_true
          have request := (regular.requested socket current).resolve_left (silent socket)
          exact .connecting undisposed unflushed running (connected.trans reads) socket current
            request silent
  | none =>
      have unconnected := connected.trans (regular.silent current)
      split
      · rename_i live
        have isOpen := regular.socket.mpr live
        rw [current] at isOpen
        cases isOpen
      · rename_i freed
        refine .broken undisposed unflushed running unconnected current ?_
        have state : world.conn.handleState = .freed := freed
        unfold UvIsolatedConn.handleState at state
        split at state
        · cases state
        · cases state
        · rename_i handle
          exact handle
      · rename_i kept
        refine .stranded undisposed unflushed running unconnected current fun freed => kept ?_
        change world.conn.handleState = .freed
        rw [UvIsolatedConn.handleState, freed]

theorem stands (regular : world.Regular) : world.Stands world.link.phase := by
  cases disposed : world.conn.bDisposed with
  | true =>
      have stands := Stands.disposed disposed (regular.disposed_closed disposed)
      change world.Stands (world.conn.view.phase world.reads)
      rw [UpstreamView.phase, if_pos (c := world.conn.view.disposed = true) disposed]
      exact stands
  | false =>
      cases flushed : world.conn.bFlushed with
      | false => exact regular.stands_unflushed disposed flushed
      | true =>
          have closed := regular.flushed_closed flushed
          have unconnected :=
            (regular.coherent.connected disposed).trans (regular.silent closed)
          change world.Stands (world.conn.view.phase world.reads)
          rw [UpstreamView.phase,
            if_neg (c := world.conn.view.disposed = true) (Bool.eq_false_iff.mp disposed),
            if_pos (c := world.conn.view.flushed = true) flushed]
          split
          · rename_i running
            exact .down disposed flushed running unconnected closed
          · rename_i stopped
            exact .unopened disposed flushed (Bool.eq_false_iff.mpr stopped) unconnected closed

/-- A timer that fires begins an attempt if the stream is flushed. -/
theorem flushed_iff (regular : world.Regular) (undisposed : world.conn.bDisposed = false) :
    world.conn.bFlushed = decide (world.link.phase = .unopened ∨ world.link.phase = .down) := by
  have stands := regular.stands
  generalize world.link.phase = phase at stands ⊢
  cases stands with
  | disposed disposed closed => exact absurd (undisposed.symm.trans disposed) Bool.false_ne_true
  | unopened _ flushed stopped unconnected closed => exact flushed
  | down _ flushed running unconnected closed => exact flushed
  | stranded _ unflushed running unconnected closed kept => exact unflushed
  | broken _ unflushed running unconnected closed freed => exact unflushed
  | connecting _ unflushed running unconnected socket current request silent => exact unflushed
  | established _ unflushed running connected socket current reads => exact unflushed

/-- The stream is flushed and the error reported. -/
theorem lost (regular : world.Regular) {conn : UvIsolatedConn} (same : conn.view = world.conn.view)
    {clnt : ClientHandle} (live : world.conn.clnt = .live clnt)
    (lost : conn.flushAndError = some next) :
    next.view.handle ≠ .live true ∧ next.view.Coherent false world.orphans ∧
      next.view.link false world.orphans = world.link.move .lose := by
  rcases UvIsolatedConn.flushAndError_view lost with ⟨packet, viewed, _⟩
  rw [same] at packet viewed
  rw [viewed]
  exact regular.coherent.lose packet (UvIsolatedConn.handleState_live live)

/-- A failure that a callback reports when its request is done. -/
theorem flushAndError {connecting : List Nat} (regular : world.Regular)
    (writing closing : List Nat)
    (fewer : forall socket, socket ∈ connecting -> socket ∈ world.connecting)
    (nodup : connecting.Nodup)
    (done : ({ world with connecting, writing, closing } : UvUpstream).flushAndError = some after) :
    after.Regular ∧ after.link = world.link.move .lose := by
  rcases Option.map_eq_some_iff.mp done with ⟨next, called, rfl⟩
  rcases UvIsolatedConn.withClient_eq called with ⟨clnt, live, failed⟩
  rcases regular.lost rfl live failed with ⟨closed, coherent, linked⟩
  rcases (regular.toLinked.fewer writing closing fewer nodup).closes coherent closed with
    ⟨regularAfter, linkAfter⟩
  exact ⟨regularAfter, linkAfter.trans linked⟩

/-- The connection has been disposed of. -/
theorem disposal {link : UpstreamLink} (regular : world.Regular)
    (coherent : next.view.Coherent false world.orphans) (disposed : next.view.disposed = true)
    (linked : next.view.link false world.orphans = link) :
    (world.settle next).Regular ∧ (world.settle next).link = link := by
  have closed : next.view.handle ≠ .live true := fun isOpen =>
    absurd ((coherent.usable isOpen).2.symm.trans disposed) Bool.false_ne_true
  rcases regular.toLinked.closes coherent closed with ⟨regularAfter, linkAfter⟩
  exact ⟨regularAfter, linkAfter.trans linked⟩

theorem dispose (regular : world.Regular) (undisposed : world.conn.bDisposed = false)
    (done : world.conn.disposeConnection = some next) :
    (world.settle next).Regular ∧ (world.settle next).link = world.link.move .dispose := by
  rcases UvIsolatedConn.disposeConnection_view done with ⟨viewed, present⟩
  rcases regular.coherent.dispose undisposed (UvIsolatedConn.handle_ne (present undisposed)) with
    ⟨coherent, linked⟩
  rw [← viewed] at coherent linked
  refine regular.disposal coherent ?_ linked
  exact (UvIsolatedConn.disposeConnection_disposes undisposed done).disposed

theorem stop (regular : world.Regular) (undisposed : world.conn.bDisposed = false)
    (running : world.conn.bRunning = true) (done : world.conn.disconnect = some next) :
    (world.settle next).Regular ∧ (world.settle next).link = world.link.move .stop := by
  rcases UvIsolatedConn.disconnect_view done with ⟨viewed, present⟩
  rcases regular.coherent.stop undisposed running
    (UvIsolatedConn.handle_ne (present undisposed running)) with ⟨coherent, linked⟩
  rw [← viewed] at coherent linked
  refine regular.disposal coherent ?_ linked
  exact (UvIsolatedConn.disconnect_disposes undisposed running done).disposed

theorem reopen {nDelaySeconds : Int} (regular : world.Regular)
    (undisposed : world.conn.bDisposed = false)
    (done : world.conn.reopen nDelaySeconds = some next) :
    (world.settle next).Regular ∧ (world.settle next).link =
      world.link.move (if world.conn.bConnected then .stop else .delay) := by
  rcases UvIsolatedConn.reopen_view undisposed done with
    ⟨connected, viewed, present⟩ | ⟨unconnected, viewed, timer⟩
  · have reads := (regular.coherent.connected undisposed).symm.trans connected
    have running := regular.coherent.runs undisposed (regular.coherent.reading reads)
    have disposed : world.conn.view.disconnect.disposed = true :=
      UpstreamView.disconnect_disposed undisposed running
    rcases regular.coherent.stop undisposed running
      (UvIsolatedConn.handle_ne (present running)) with ⟨coherent, linked⟩
    rw [UpstreamView.delay_of_disposed disposed] at viewed
    rw [← viewed] at coherent linked disposed
    rw [if_pos connected]
    exact regular.disposal coherent disposed linked
  · rcases regular.coherent.delay undisposed timer with ⟨coherent, linked⟩
    rw [← viewed] at coherent linked
    have same : next.view.handle = .live true ↔ world.conn.view.handle = .live true := by
      rw [viewed, UpstreamView.delay_handle]
    rw [if_neg (Bool.eq_false_iff.mp unconnected), regular.settle_eq same]
    exact ⟨regular.replace coherent same, linked⟩

/-- `Reconnect`, whichever timer calls it. -/
theorem reconnect {started : Bool} (regular : world.Regular)
    (packet : world.conn.bDisposed = false -> world.conn.view.packet = true)
    (done : world.conn.reconnect started = some next) :
    (if world.conn.bFlushed && started then world.opens next
      else { world with conn := next }).Regular ∧
    (if world.conn.bFlushed && started then world.opens next
      else { world with conn := next }).link =
        { world.link with phase := world.link.phase.retried started, delaying := false } := by
  rcases UvIsolatedConn.reconnect_view done with ⟨undisposed, viewed, handle⟩
  have live : world.conn.view.flushed = true -> started = true -> Exists fun socket =>
      world.conn.view.handle = .live socket := by
    intro flushed starts
    rcases handle flushed starts with ⟨clnt, live⟩
    exact ⟨_, UvIsolatedConn.handleState_live live⟩
  rcases regular.coherent.retry undisposed live (packet undisposed) with ⟨coherent, linked⟩
  rw [← viewed] at coherent linked
  split
  · rename_i begins
    rw [Bool.and_eq_true] at begins
    have closed := regular.flushed_closed begins.1
    have silent : world.reads = false := regular.silent closed
    rw [silent] at coherent linked
    have isOpen : next.view.handle = .live true := by
      rw [viewed, UpstreamView.retry, if_pos (c := world.conn.view.flushed = true) begins.1, begins.2]
      rfl
    rcases regular.opens closed coherent isOpen with ⟨opened, linkAfter⟩
    refine ⟨opened, linkAfter.trans (linked.trans ?_)⟩
    rw [UvUpstream.link, silent]
    rfl
  · rename_i stays
    have same : next.view.handle = world.conn.view.handle := by
      rw [viewed, UpstreamView.retry]
      split
      · rename_i flushed
        have fails : started = false := by
          cases started with
          | false => rfl
          | true =>
              rw [Bool.and_true] at stays
              exact absurd flushed stays
        rw [fails]
        rfl
      · rfl
    exact ⟨regular.replace coherent (by rw [same]), linked⟩

theorem timer {started : Bool} (regular : world.Regular)
    (done : world.conn.onTimer started = some next) :
    (if world.conn.bFlushed && started then world.opens next
      else { world with conn := next }).Regular ∧
    (if world.conn.bFlushed && started then world.opens next
      else { world with conn := next }).link = world.link.move (.retry true started) := by
  unfold UvIsolatedConn.onTimer at done
  split at done
  · rename_i armed
    have timer : world.conn.view.timer.isSome = true := by
      rw [UvIsolatedConn.view, armed.1]
      rfl
    have stopped : ({ world with conn.reconnectTimer := some false } : UvUpstream).Regular := by
      refine regular.replace ?_ Iff.rfl
      refine { regular.coherent with stopped := ?_, packet := ?_ }
      · intro disposed
        have none := (regular.coherent.stopped disposed).1
        rw [none] at timer
        cases timer
      · exact fun undisposed _ => regular.coherent.packet undisposed (.inr (.inl timer))
    exact stopped.reconnect
      (fun undisposed => regular.coherent.packet undisposed (.inr (.inl timer))) done
  · cases done

theorem orphanTimer_fired {started : Bool} (done : world.onOrphanTimer started = some after) :
    world.orphans ≠ 0 ∧ world.conn.bDisposed = false := by
  rcases Option.ite_none_right_eq_some.mp done with ⟨due, fired⟩
  rcases Option.map_eq_some_iff.mp fired with ⟨next, called, rfl⟩
  exact ⟨due.1, (UvIsolatedConn.reconnect_cases called).1⟩

theorem orphanTimer {started : Bool} (regular : world.Regular)
    (done : world.onOrphanTimer started = some after) :
    after.Regular ∧ after.link = world.link.move (.retry false started) := by
  rcases Option.ite_none_right_eq_some.mp done with ⟨due, fires⟩
  rcases Option.map_eq_some_iff.mp fires with ⟨next, called, rfl⟩
  have packet : world.conn.bDisposed = false -> world.conn.view.packet = true :=
    fun undisposed => regular.coherent.packet undisposed (.inr (.inr due.1))
  have fired : ({ world with orphans := world.orphans - 1 } : UvUpstream).Regular := by
    refine { regular with coherent := { regular.coherent with packet := ?_ } }
    exact fun undisposed _ => packet undisposed
  exact fired.reconnect packet called

/-- A timer of which the pointer is lost was running. -/
theorem orphaned (regular : world.Regular) (ip : List Char) :
    ({ world with orphans := world.orphansAfter ip } : UvUpstream).Regular := by
  refine { regular with coherent := { regular.coherent with packet := ?_ } }
  rintro undisposed (unflushed | timer | orphans)
  · exact regular.coherent.packet undisposed (.inl unflushed)
  · exact regular.coherent.packet undisposed (.inr (.inl timer))
  · refine regular.coherent.packet undisposed (.inr ?_)
    rw [orphansAfter] at orphans
    split at orphans
    · rename_i replaced
      rw [Bool.and_eq_true, decide_eq_true_eq] at replaced
      refine .inl ?_
      rw [UvIsolatedConn.view, replaced.2]
      rfl
    · exact .inr orphans

theorem connect {ip : List Char} {parsed started : Bool} {uninitialised : Memory UInt8}
    (regular : world.Regular)
    (done : world.conn.connect ip parsed started uninitialised = some next) :
    (if UvIsolatedConn.isIpAddress ip && parsed && started then
        { world with orphans := world.orphansAfter ip }.opens next
      else { world with orphans := world.orphansAfter ip, conn := next }).Regular ∧
    (if UvIsolatedConn.isIpAddress ip && parsed && started then
        { world with orphans := world.orphansAfter ip }.opens next
      else { world with orphans := world.orphansAfter ip, conn := next }).link =
        world.link.move (world.moveOf (.connect ip parsed started uninitialised)) := by
  rcases UvIsolatedConn.connect_view done with ⟨unopened, viewed⟩
  cases address : UvIsolatedConn.isIpAddress ip with
  | false =>
      have orphans : world.orphansAfter ip = world.orphans := by
        rw [orphansAfter, address]
        rfl
      rw [address] at viewed
      rw [moveOf, address, orphans]
      exact regular.unchanged viewed
  | true =>
      rw [address, if_pos rfl] at viewed
      rw [moveOf, address, Bool.true_and, if_pos rfl]
      have closed := regular.flushed_closed unopened.flushed
      have silent : world.reads = false := regular.silent closed
      have prepared := regular.orphaned ip
      rcases regular.coherent.start unopened (parsed && started) (world.orphansAfter ip) with
        ⟨coherent, linked⟩
      rw [← viewed] at coherent linked
      have orphans : world.orphansAfter ip =
          if decide (world.conn.reconnectTimer = some true) then world.orphans + 1
          else world.orphans := by
        rw [orphansAfter, address, Bool.true_and]
      cases begun : (parsed && started) with
      | true =>
          rw [begun] at viewed linked
          rw [if_pos rfl]
          have live : next.view.handle = .live true := by
            rw [viewed]
            rfl
          rcases prepared.opens closed coherent live with ⟨opened, linkAfter⟩
          refine ⟨opened, linkAfter.trans (linked.trans ?_)⟩
          rw [orphans]
          rfl
      | false =>
          rw [begun] at viewed linked
          rw [if_neg Bool.false_ne_true]
          have handle : next.view.handle = .null := by
            rw [viewed]
            rfl
          have same : next.view.handle = .live true ↔ world.conn.view.handle = .live true := by
            rw [handle, ← regular.socket, closed]
            exact ⟨nofun, nofun⟩
          have linkAfter : ({ world with
              orphans := world.orphansAfter ip, conn := next } : UvUpstream).link =
                next.view.link false (world.orphansAfter ip) :=
            congrArg (fun reads => next.view.link reads (world.orphansAfter ip)) silent
          refine ⟨prepared.replace ?_ same, linkAfter.trans (linked.trans ?_)⟩
          · rw [← silent] at coherent
            exact coherent
          · rw [orphans]
            rfl

/-- The set-up of a connection that was being made. -/
theorem setUp {socket : Nat} (regular : world.Regular) (due : socket ∈ world.connecting)
    (opened : socket ∈ world.opened) :
    world.current = some socket ∧ world.conn.view.handle = .live true ∧ world.reads = false := by
  have current := regular.opened socket opened
  refine ⟨current, regular.socket.mp (by rw [current]; rfl), not_reads fun other member => ?_⟩
  have same := current.symm.trans (regular.reading other member)
  rw [← Option.some.inj same] at member
  exact regular.apart socket member due

theorem connected {socket : Nat} (regular : world.Regular) (due : socket ∈ world.connecting)
    (opened : socket ∈ world.opened)
    (done : onConnectCb { world with connecting := world.connecting.erase socket } .connected =
      some after) : after.Regular ∧ after.link = world.link.move .up := by
  rcases regular.setUp due opened with ⟨current, live, silent⟩
  rcases Option.map_eq_some_iff.mp done with ⟨next, called, rfl⟩
  rcases UvIsolatedConn.withClient_eq called with ⟨clnt, _, established⟩
  split at established
  · cases established
    have viewed := UvIsolatedConn.established_view world.conn clnt
    rcases regular.coherent.establish live silent with ⟨coherent, linked⟩
    rw [← viewed] at coherent linked
    have read : forall other, other ∈ world.reading ++ world.current.toList -> other = socket := by
      intro other member
      rcases List.mem_append.mp member with reading | added
      · exact (Option.some.inj (current.symm.trans (regular.reading other reading))).symm
      · rw [current] at added
        exact List.mem_singleton.mp added
    have member : socket ∈ world.reading ++ world.current.toList := by
      rw [current]
      exact List.mem_append_right _ (List.mem_singleton_self _)
    have reads : ({ world with
        connecting := world.connecting.erase socket
        conn := (world.conn.established clnt).onConnect
        reading := world.reading ++ world.current.toList } : UvUpstream).reads = true :=
      (reads_iff _).mpr ⟨socket, member⟩
    refine ⟨⟨⟨regular.plain, ?_, ?_, regular.opened, ?_, ?_, regular.nodup.erase socket⟩, ?_, ?_⟩, ?_⟩
    · rw [reads]
      exact coherent
    · rw [current]
      exact ⟨fun _ => by rw [viewed]; rfl, fun _ => rfl⟩
    · intro other reading
      rw [read other reading]
      exact current
    · exact fun other connecting => regular.fresh other (List.mem_of_mem_erase connecting)
    · intro other reading
      rw [read other reading]
      exact fun connecting => (regular.nodup.mem_erase_iff.mp connecting).1 rfl
    · intro other isCurrent
      rw [← Option.some.inj (current.symm.trans isCurrent)]
      exact .inl member
    · rw [UvUpstream.link, reads]
      exact linked
  · cases established

theorem setupFailed {socket : Nat} (regular : world.Regular) (due : socket ∈ world.connecting)
    (opened : socket ∈ world.opened)
    (done : onConnectCb { world with connecting := world.connecting.erase socket } .setupFailed =
      some after) : after.Regular ∧ after.link = world.link.move .breakDown := by
  rcases regular.setUp due opened with ⟨current, live, silent⟩
  simp only [onConnectCb, current] at done
  cases done
  rcases regular.coherent.breakDown live silent with ⟨coherent, linked⟩
  have nothing : world.reading = [] := by
    rw [reads, Bool.not_eq_false', List.isEmpty_iff] at silent
    exact silent
  have gone : forall other, other ∉ world.opened.filter fun other => other != socket := by
    intro other member
    rcases List.mem_filter.mp member with ⟨isOpen, different⟩
    have same := Option.some.inj (current.symm.trans (regular.opened other isOpen))
    rw [same] at different
    simp at different
  have nobody : forall other, other ∉ world.reading.filter fun other => other != socket := by
    rw [nothing]
    intro other impossible
    cases impossible
  have silentAfter : ({ world.forget socket with
      connecting := world.connecting.erase socket, conn.clnt := .freed } : UvUpstream).reads =
        false := not_reads nobody
  have linkedAfter : ({ world.forget socket with
      connecting := world.connecting.erase socket, conn.clnt := .freed } : UvUpstream).Linked := by
    refine ⟨regular.plain, ?_, ?_, ?_, ?_, ?_, regular.nodup.erase socket⟩
    · rw [silentAfter]
      exact coherent
    · exact iff_of_false (fun impossible => by cases impossible) (fun impossible => by cases impossible)
    · exact fun other member => absurd member (gone other)
    · exact fun other member => absurd member (nobody other)
    · exact fun other connecting => regular.fresh other (List.mem_of_mem_erase connecting)
  refine ⟨linkedAfter.regular_of_closed rfl, ?_⟩
  refine Eq.trans ?_ linked
  exact congrArg (fun reads => UpstreamView.link reads world.orphans
    { world.conn.view with handle := .freed }) silentAfter

/-- A callback about data that arrives. -/
theorem recv {codec : Codec} {socket : Nat} {chunk : List UInt8} (regular : world.Regular)
    (done : world.whileReading socket (world.conn.onRecv codec chunk) = some after) :
    after.Regular ∧ after.link = world.link := by
  unfold whileReading at done
  split at done
  · rcases Option.map_eq_some_iff.mp done with ⟨next, called, rfl⟩
    rcases UvIsolatedConn.withClient_eq called with ⟨clnt, live, received⟩
    exact regular.unchanged_settle (UvIsolatedConn.onRecv_view live received)
  · cases done

theorem recvError {socket : Nat} {allocated : Bool} (regular : world.Regular)
    (done : world.whileReading socket (world.conn.onRecvError allocated) = some after) :
    after.Regular ∧ after.link = world.link := by
  unfold whileReading at done
  split at done
  · rcases Option.map_eq_some_iff.mp done with ⟨next, called, rfl⟩
    rcases UvIsolatedConn.withClient_eq called with ⟨clnt, live, waiting⟩
    cases waiting
    exact regular.unchanged_settle (UvIsolatedConn.setClient_view live _)
  · cases done

theorem recvEnd {socket : Nat} {allocated : Bool} (regular : world.Regular)
    (done : world.whileReading socket (world.conn.onRecvEnd allocated) = some after) :
    after.Regular ∧ after.link = world.link.move .lose := by
  unfold whileReading at done
  split at done
  · rcases Option.map_eq_some_iff.mp done with ⟨next, called, rfl⟩
    rcases UvIsolatedConn.withClient_eq called with ⟨clnt, live, ended⟩
    rcases regular.lost (UvIsolatedConn.setClient_view live _) live ended with
      ⟨closed, coherent, linked⟩
    rcases regular.toLinked.closes coherent closed with ⟨regularAfter, linkAfter⟩
    exact ⟨regularAfter, linkAfter.trans linked⟩
  · cases done

theorem sendRaw {started : Bool} (regular : world.Regular)
    (done : world.sendRaw started = some after) :
    after.Regular ∧ after.link = world.link.move (world.moveOf (.sendRaw started)) := by
  unfold UvUpstream.sendRaw at done
  split at done
  · rename_i ready
    split at done
    · rename_i last current
      cases started with
      | true =>
          cases done
          exact ⟨{ regular with }, rfl⟩
      | false =>
          rcases Option.map_eq_some_iff.mp done with ⟨next, called, rfl⟩
          have usable := regular.coherent.usable (regular.socket.mp (by rw [current]; rfl))
          rw [moveOf, if_pos (c := world.disposes (.sendRaw false) = true) ready]
          exact regular.dispose usable.2 called
    · cases done
  · rename_i busy
    cases done
    rw [moveOf]
    cases started with
    | true => exact ⟨regular, rfl⟩
    | false =>
        rw [if_neg (c := world.disposes (.sendRaw false) = true) busy]
        exact ⟨regular, rfl⟩

/-- A step moves the link as its event says. -/
theorem step {codec : Codec} {event : UpstreamEvent} (regular : world.Regular)
    (done : world.Step codec event after) :
    after.Regular ∧ after.link = world.link.move (world.moveOf event) := by
  unfold Step perform at done
  split at done
  · cases done
  · cases event with
    | connect ip parsed started uninitialised =>
        rcases Option.map_eq_some_iff.mp done with ⟨next, called, rfl⟩
        exact regular.connect called
    | disconnect =>
        rcases Option.map_eq_some_iff.mp done with ⟨next, called, rfl⟩
        rw [moveOf]
        split
        · rename_i takes
          rw [Bool.and_eq_true, Bool.not_eq_true'] at takes
          exact regular.stop takes.1 takes.2 called
        · rename_i idle
          rw [UvIsolatedConn.disconnect_idle (Bool.eq_false_iff.mpr idle) called]
          exact regular.unchanged_settle rfl
    | reopen nDelaySeconds =>
        rcases Option.map_eq_some_iff.mp done with ⟨next, called, rfl⟩
        rw [moveOf]
        split
        · rename_i disposed
          rw [UvIsolatedConn.reopen, if_pos disposed] at called
          cases called
          exact regular.unchanged_settle rfl
        · rename_i undisposed
          exact regular.reopen (Bool.eq_false_iff.mpr undisposed) called
    | disposeConnection =>
        rcases Option.map_eq_some_iff.mp done with ⟨next, called, rfl⟩
        rw [moveOf]
        split
        · rename_i disposed
          rw [UvIsolatedConn.disposeConnection, if_pos disposed] at called
          cases called
          exact regular.unchanged_settle rfl
        · rename_i undisposed
          exact regular.dispose (Bool.eq_false_iff.mpr undisposed) called
    | sendRaw started => exact regular.sendRaw done
    | timer started =>
        rcases Option.map_eq_some_iff.mp done with ⟨next, called, rfl⟩
        exact regular.timer called
    | orphanTimer started => exact regular.orphanTimer done
    | connectCb socket outcome =>
        dsimp only at done
        split at done
        · rename_i due
          cases outcome with
          | connected =>
              have opened := due.2.resolve_right fun impossible => by cases impossible
              exact regular.connected due.1 opened done
          | setupFailed =>
              have opened := due.2.resolve_right fun impossible => by cases impossible
              exact regular.setupFailed due.1 opened done
          | failed =>
              exact regular.flushAndError world.writing world.closing
                (fun _ => List.mem_of_mem_erase) (regular.nodup.erase socket) done
        · cases done
    | recv socket chunk => exact regular.recv done
    | recvEnd socket allocated => exact regular.recvEnd done
    | recvError socket allocated => exact regular.recvError done
    | writeCb socket status =>
        dsimp only at done
        split at done
        · split at done
          · exact regular.flushAndError (world.writing.erase socket) world.closing
              (fun _ => id) regular.nodup done
          · rename_i passedOver
            cases done
            refine ⟨{ regular with }, ?_⟩
            cases status with
            | written => rfl
            | failed ioPending =>
                cases ioPending with
                | true => rfl
                | false => exact absurd rfl passedOver
        · cases done
    | closeCb socket =>
        dsimp only at done
        split at done
        · rw [onStreamClose, if_neg (by rw [regular.plain]; exact Bool.false_ne_true)] at done
          cases done
          exact ⟨{ regular with }, rfl⟩
        · cases done

end Regular

end UvUpstream
end NetSystem
