import NetSystem.Tcp.UpstreamSteps

namespace NetSystem

/-!
# What `IsReady` means

`IsReady` reads two flags, and `Connect` and `Reconnect` change one of them when they
begin.  A connection is then ready although its socket is still connecting, or could
not be made at all; it stays so until a connection has been made or the stream is
flushed.

`unanswered` follows the history of a connection: it says whether an attempt has been
begun since the last one that succeeded.  A ready connection is established if and
only if none has.  `Post` asks `IsReady` once and then sends page after page, so it
reaches an established socket each time if in addition no page but the last fails.
-/

namespace UpstreamLink

/-- Whether an attempt is unanswered after a move. -/
def unanswered (link : UpstreamLink) (before : Bool) : LinkMove -> Bool
  | .start begun => before || begun
  | .retry _ _ => before || decide (link.phase = .unopened ∨ link.phase = .down)
  | .up => false
  | _ => before

/-- The stream is not flushed, nor the connection disposed of. -/
def Open (link : UpstreamLink) : Prop :=
  link.phase = .connecting ∨ link.phase = .established ∨ link.phase = .stranded ∨
    link.phase = .broken

/-- An open link is established unless an attempt is unanswered. -/
def Answered (link : UpstreamLink) (unanswered : Bool) : Prop :=
  link.Open -> (unanswered = false ↔ link.phase = .established)

theorem Answered.move {link : UpstreamLink} {before : Bool} (answered : link.Answered before)
    {move : LinkMove} (set_up : move = .breakDown -> link.phase = .connecting) :
    (link.move move).Answered (link.unanswered before move) := by
  unfold Answered Open at *
  rcases link with ⟨phase, delaying, armed, orphans⟩
  cases move with
  | idle => exact answered
  | delay =>
      rw [UpstreamLink.move, delayed_phase]
      exact answered
  | lose =>
      rw [UpstreamLink.move, delayed_phase]
      cases phase <;> simp_all [LinkPhase.lost, unanswered]
  | start begun => cases begun <;> simp [UpstreamLink.move, unanswered]
  | retry own started =>
      cases phase <;> cases started <;>
        simp_all [UpstreamLink.move, LinkPhase.retried, unanswered]
  | up => exact fun _ => ⟨fun _ => rfl, fun _ => rfl⟩
  | breakDown =>
      have connecting : phase = .connecting := set_up rfl
      subst connecting
      simp_all [UpstreamLink.move, unanswered]
  | stop => simp [UpstreamLink.move, LinkPhase.disposedOf]
  | dispose => simp [UpstreamLink.move, LinkPhase.disposedOf]

end UpstreamLink

namespace UvUpstream

/-- `IsReady`.  The id of a connection is never zero. -/
def isReady (world : UvUpstream) : Bool := !world.conn.bDisposed && !world.conn.bFlushed

/-- The socket exists and its connection is established. -/
def Established (world : UvUpstream) : Prop :=
  Exists fun socket => world.current = some socket ∧ socket ∈ world.reading

/-- Whether an attempt of `Connect` or `Reconnect` is unanswered after an event. -/
def unanswered (world : UvUpstream) (before : Bool) : UpstreamEvent -> Bool
  | .connect ip parsed started _ =>
      before || (UvIsolatedConn.isIpAddress ip && parsed && started)
  | .timer _ | .orphanTimer _ => before || world.conn.bFlushed
  | .connectCb _ .connected => false
  | _ => before

/-- Whether an attempt is unanswered after the events. -/
def unansweredAfter (codec : Codec) (world : UvUpstream) (before : Bool) :
    List UpstreamEvent -> Bool
  | [] => before
  | event :: events =>
      match world.perform codec event with
      | some next => next.unansweredAfter codec (world.unanswered before event) events
      | none => before

/-- The sockets on which the pages of one packet are sent.  `Post` goes on after a page
that could not be sent, which has disposed of the connection. -/
def postTargets (world : UvUpstream) : List Bool -> List (Option Nat)
  | [] => []
  | started :: pages =>
      let rest :=
        if started then world.postTargets pages
        else
          match world.conn.disposeConnection with
          | some next => (world.settle next).postTargets pages
          | none => []
      world.current :: if world.current.isSome then rest else []

/-- `PostPacket` sends the pages, each on an established socket. -/
def PostsWell (world : UvUpstream) (pages : List Bool) : Prop :=
  world.conn.packet.isSome = true -> world.isReady = true ->
    forall target, target ∈ world.postTargets pages ->
      Exists fun socket => target = some socket ∧ socket ∈ world.reading

namespace Regular

variable {world after : UvUpstream}

theorem isReady_iff (regular : world.Regular) : world.isReady = true ↔ world.link.Open := by
  have stands := regular.stands
  unfold UpstreamLink.Open isReady
  generalize world.link.phase = phase at stands ⊢
  cases stands with
  | disposed disposed closed => simp [disposed]
  | unopened undisposed flushed stopped unconnected closed => simp [flushed]
  | down undisposed flushed running unconnected closed => simp [flushed]
  | stranded undisposed unflushed running unconnected closed kept => simp [undisposed, unflushed]
  | broken undisposed unflushed running unconnected closed freed => simp [undisposed, unflushed]
  | connecting undisposed unflushed running unconnected socket current request silent =>
      simp [undisposed, unflushed]
  | established undisposed unflushed running connected socket current reads =>
      simp [undisposed, unflushed]

theorem established_iff (regular : world.Regular) :
    world.Established ↔ world.link.phase = .established := by
  have stands := regular.stands
  generalize world.link.phase = phase at stands ⊢
  have absent : world.current = none -> ¬ world.Established := by
    rintro closed ⟨socket, current, _⟩
    rw [closed] at current
    cases current
  cases stands with
  | disposed disposed closed => simp [absent closed]
  | unopened undisposed flushed stopped unconnected closed => simp [absent closed]
  | down undisposed flushed running unconnected closed => simp [absent closed]
  | stranded undisposed unflushed running unconnected closed kept => simp [absent closed]
  | broken undisposed unflushed running unconnected closed freed => simp [absent closed]
  | connecting undisposed unflushed running unconnected socket current request silent =>
      simp [Established, silent]
  | established undisposed unflushed running connected socket current reads =>
      simp [Established, current, reads]

theorem unanswered_eq {codec : Codec} {event : UpstreamEvent} (regular : world.Regular)
    (before : Bool) (done : world.Step codec event after) :
    world.unanswered before event = world.link.unanswered before (world.moveOf event) := by
  unfold Step perform at done
  split at done
  · cases done
  · cases event with
    | connect ip parsed started uninitialised =>
        rw [unanswered, moveOf, Bool.and_assoc]
        cases UvIsolatedConn.isIpAddress ip with
        | true => rfl
        | false => exact Bool.or_false before
    | timer started =>
        rcases Option.map_eq_some_iff.mp done with ⟨next, called, rfl⟩
        rw [unanswered, regular.flushed_iff (UvIsolatedConn.onTimer_undisposed called)]
        rfl
    | orphanTimer started =>
        rw [unanswered, regular.flushed_iff (orphanTimer_fired done).2]
        rfl
    | disconnect =>
        rw [moveOf]
        split <;> rfl
    | reopen =>
        rw [moveOf]
        split
        · rfl
        · split <;> rfl
    | disposeConnection =>
        rw [moveOf]
        split <;> rfl
    | sendRaw started =>
        rw [moveOf]
        split <;> rfl
    | connectCb socket outcome => cases outcome <;> rfl
    | writeCb socket status =>
        cases status with
        | written => rfl
        | failed ioPending => cases ioPending <;> rfl
    | _ => rfl

theorem breakDown_event {event : UpstreamEvent} (breaks : world.moveOf event = .breakDown) :
    Exists fun socket => event = .connectCb socket .setupFailed := by
  unfold moveOf at breaks
  split at breaks
  · split at breaks <;> cases breaks
  · split at breaks <;> cases breaks
  · split at breaks
    · cases breaks
    · split at breaks <;> cases breaks
  · split at breaks <;> cases breaks
  · split at breaks <;> cases breaks
  · cases breaks
  · cases breaks
  · cases breaks
  · rename_i socket
    exact ⟨socket, rfl⟩
  all_goals cases breaks

theorem set_up {codec : Codec} {event : UpstreamEvent} (regular : world.Regular)
    (done : world.Step codec event after) (breaks : world.moveOf event = .breakDown) :
    world.link.phase = .connecting := by
  rcases breakDown_event breaks with ⟨socket, rfl⟩
  unfold Step perform at done
  split at done
  · cases done
  · dsimp only at done
    split at done
    · rename_i due
      rcases regular.setUp due.1 (due.2.resolve_right nofun) with ⟨current, live, silent⟩
      have stands := regular.stands
      generalize world.link.phase = phase at stands ⊢
      cases stands with
      | connecting => rfl
      | established _ _ _ _ other _ reads =>
          exact absurd (silent.symm.trans ((reads_iff world).mpr ⟨other, reads⟩))
            Bool.false_ne_true
      | disposed _ closed => rw [closed] at current; cases current
      | unopened _ _ _ _ closed => rw [closed] at current; cases current
      | down _ _ _ _ closed => rw [closed] at current; cases current
      | stranded _ _ _ _ closed => rw [closed] at current; cases current
      | broken _ _ _ _ closed => rw [closed] at current; cases current
    · cases done

/-- A page that cannot be sent disposes of the connection, whose socket is then gone. -/
theorem dispose_closes (regular : world.Regular) {socket : Nat}
    (current : world.current = some socket) :
    Exists fun next => world.conn.disposeConnection = some next ∧
      (world.settle next).current = none := by
  have live := regular.socket.mp (by rw [current]; rfl)
  have undisposed : world.conn.bDisposed = false := (regular.coherent.usable live).2
  rcases UvIsolatedConn.live_of_socket ((socket_iff world.conn).mpr live) with ⟨clnt, handle⟩
  have kept : world.conn.clnt ≠ .freed := by
    rw [handle]
    nofun
  rcases UvIsolatedConn.disposeConnection_defined kept with ⟨next, done⟩
  refine ⟨next, done, (regular.dispose undisposed done).1.disposed_closed ?_⟩
  rw [(world.settle_requests next).1]
  exact (UvIsolatedConn.disposeConnection_disposes undisposed done).disposed

theorem postTargets_iff (regular : world.Regular) (established : world.Established)
    (pages : List Bool) :
    (forall target, target ∈ world.postTargets pages ->
      Exists fun socket => target = some socket ∧ socket ∈ world.reading) ↔
    forall earlier, earlier ∈ pages.dropLast -> earlier = true := by
  rcases established with ⟨socket, current, reading⟩
  have first : Exists fun socket => world.current = some socket ∧ socket ∈ world.reading :=
    ⟨socket, current, reading⟩
  induction pages with
  | nil => exact ⟨fun _ _ => nofun, fun _ _ => nofun⟩
  | cons started pages inductionHypothesis =>
      have targets : world.postTargets (started :: pages) = world.current ::
          if started then world.postTargets pages
          else
            match world.conn.disposeConnection with
            | some next => (world.settle next).postTargets pages
            | none => [] := by
        rw [postTargets, current]
        rfl
      rw [targets, List.forall_mem_cons]
      cases pages with
      | nil =>
          refine ⟨fun _ _ => nofun, fun _ => ⟨first, ?_⟩⟩
          cases started with
          | true => exact fun _ => nofun
          | false =>
              rcases regular.dispose_closes current with ⟨next, done, _⟩
              rw [if_neg Bool.false_ne_true, done]
              exact fun _ => nofun
      | cons page pages =>
          rw [List.dropLast_cons_cons, List.forall_mem_cons]
          cases started with
          | true =>
              rw [if_pos rfl]
              exact ⟨fun facts => ⟨rfl, inductionHypothesis.mp facts.2⟩,
                fun facts => ⟨first, inductionHypothesis.mpr facts.2⟩⟩
          | false =>
              rcases regular.dispose_closes current with ⟨next, done, closed⟩
              rw [if_neg Bool.false_ne_true, done]
              refine ⟨fun facts => ?_, fun facts => absurd facts.1 Bool.false_ne_true⟩
              rcases facts.2 _ (List.mem_cons_self ..) with ⟨other, impossible, _⟩
              rw [closed] at impossible
              cases impossible

/-- A ready connection has a packet object. -/
theorem packet_of_ready (regular : world.Regular) (ready : world.isReady = true) :
    world.conn.packet.isSome = true := by
  rw [isReady, Bool.and_eq_true, Bool.not_eq_true', Bool.not_eq_true'] at ready
  exact regular.coherent.packet ready.1 (.inl ready.2)

theorem postsWell_iff (regular : world.Regular) (page : Bool) (pages : List Bool) :
    world.PostsWell (page :: pages) ↔
      (world.isReady = true -> world.Established ∧
        forall earlier, earlier ∈ (page :: pages).dropLast -> earlier = true) := by
  constructor
  · intro posts ready
    have targets := posts (regular.packet_of_ready ready) ready
    have established : world.Established := targets world.current (List.mem_cons_self ..)
    exact ⟨established, (regular.postTargets_iff established _).mp targets⟩
  · intro well _ ready
    exact (regular.postTargets_iff (well ready).1 _).mpr (well ready).2

end Regular

/-- In every run the history of the attempts tells whether an open link is established. -/
theorem answered_of_run {codec : Codec} {events : List UpstreamEvent} {first last : UvUpstream}
    (run : Run (Step codec) first events last) {before : Bool} (regular : first.Regular)
    (answered : first.link.Answered before) :
    last.Regular ∧ last.link.Answered (first.unansweredAfter codec before events) := by
  induction run generalizing before with
  | nil => exact ⟨regular, answered⟩
  | cons once _ inductionHypothesis =>
      rcases regular.step once with ⟨regularNext, moved⟩
      rw [unansweredAfter, once, regular.unanswered_eq before once]
      refine inductionHypothesis regularNext ?_
      rw [moved]
      exact answered.move (regular.set_up once)

/-- A connection that is ready is established if and only if no attempt is unanswered.
`Post` sends only on an established socket if and only if moreover it can send every
page but the last. -/
theorem ready_iff_answered (codec : Codec) (recvPool sendPool : BufferPool)
    {events : List UpstreamEvent} {world : UvUpstream}
    (run : Run (Step codec) (initial false recvPool sendPool) events world) :
    ((world.isReady = true -> world.Established) ↔
      (world.isReady = true ->
        (initial false recvPool sendPool).unansweredAfter codec false events = false)) ∧
    forall page pages, world.PostsWell (page :: pages) ↔
      (world.isReady = true ->
        (initial false recvPool sendPool).unansweredAfter codec false events = false ∧
          forall earlier, earlier ∈ (page :: pages).dropLast -> earlier = true) := by
  have start : (initial false recvPool sendPool).link.Answered false := nofun
  rcases answered_of_run run (initial_regular recvPool sendPool) start with ⟨regular, answered⟩
  have same : world.isReady = true -> (world.Established ↔
      (initial false recvPool sendPool).unansweredAfter codec false events = false) := by
    intro ready
    rw [regular.established_iff]
    exact (answered (regular.isReady_iff.mp ready)).symm
  refine ⟨forall_congr' same, fun page pages => ?_⟩
  rw [regular.postsWell_iff]
  exact forall_congr' fun ready => and_congr_left fun _ => same ready

/-- The first connection has been made. -/
theorem ready_iff_answered_connected :
    Exists fun world : UvUpstream =>
      Run (Step ⟨.inner, .pointer32⟩) (unused false) [connects, .connectCb 0 .connected] world ∧
      world.isReady = true ∧ world.Established := by
  have run : Exists fun world : UvUpstream =>
      Run (Step ⟨.inner, .pointer32⟩) (unused false) [connects, .connectCb 0 .connected] world ∧
      world.isReady = true := ⟨_, .cons rfl (.cons rfl (.nil _)), rfl⟩
  rcases run with ⟨world, run, ready⟩
  exact ⟨world, run, ready, (ready_iff_answered _ _ _ run).1.mpr (fun _ => rfl) ready⟩

/-- A connection is ready while its first connect request is pending, and after a retry
that could not be started.  A packet is then sent on a socket that is still connecting,
or on none. -/
theorem connecting_is_ready :
    (Exists fun world : UvUpstream =>
      Run (Step ⟨.inner, .pointer32⟩) (unused false) [connects] world ∧
      world.isReady = true ∧ ¬ world.Established ∧ world.postTargets [true] = [some 0]) ∧
    Exists fun world : UvUpstream =>
      Run (Step ⟨.inner, .pointer32⟩) (unused false)
        [connects, .connectCb 0 .failed, .timer false] world ∧
      world.isReady = true ∧ ¬ world.Established ∧ world.postTargets [true] = [none] := by
  constructor
  · refine ⟨_, .cons rfl (.nil _), rfl, ?_, rfl⟩
    rintro ⟨socket, _, impossible⟩
    cases impossible
  · refine ⟨_, .cons rfl (.cons rfl (.cons rfl (.nil _))), rfl, ?_, rfl⟩
    rintro ⟨socket, impossible, _⟩
    cases impossible

end UvUpstream
end NetSystem
