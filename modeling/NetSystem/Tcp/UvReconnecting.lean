import NetSystem.Tcp.UpstreamSteps

namespace NetSystem

/-!
# A running connection tries again

A running connection that is neither connected nor disposed of has a connect
request in flight on its socket, or its reconnect timer is running, and
`_bDelayReconnecting` is set exactly while the timer is.  This is so as long as
every retry can be started, a connection that was made is also set up, and nothing
replaces or kills the timer while it is running.

`retries` is this condition on one step.  It is exact: a step from a state in which
the connection tries again leads to such a state if and only if it is met.
-/

namespace UpstreamLink

/-- Without a socket a link has a retry scheduled. -/
structure Retrying (link : UpstreamLink) : Prop where
  scheduled : link.delaying = true ↔ link.armed = true
  waits : link.phase = .down ∨ link.phase = .stranded ∨ link.phase = .broken ->
    link.delaying = true

/-- The move is not one that leaves a link without a retry. -/
def keepsRetrying (link : UpstreamLink) : LinkMove -> Prop
  | .start _ | .stop | .dispose => link.delaying = false
  | .retry own started =>
      match link.phase with
      | .unopened | .down => own = true ∧ started = true
      | .stranded | .broken => False
      | _ => own = true
  | .breakDown => link.delaying = true
  | _ => True

variable {link : UpstreamLink}

theorem retrying_iff (link : UpstreamLink) :
    link.Retrying ↔ (link.delaying = true ↔ link.armed = true) ∧
      (link.phase = .down ∨ link.phase = .stranded ∨ link.phase = .broken ->
        link.delaying = true) :=
  ⟨fun retrying => ⟨retrying.scheduled, retrying.waits⟩, fun facts => ⟨facts.1, facts.2⟩⟩

theorem Retrying.delayed (scheduled : link.delaying = true ↔ link.armed = true) :
    link.delayed.Retrying := by
  unfold UpstreamLink.delayed
  split
  · rename_i delaying
    exact ⟨scheduled, fun _ => delaying⟩
  · exact ⟨⟨fun _ => rfl, fun _ => rfl⟩, fun _ => rfl⟩

/-- A link whose timer does not run, and which does not need it. -/
theorem retrying_iff_calm (idle : link.armed = false)
    (content : ¬ (link.phase = .down ∨ link.phase = .stranded ∨ link.phase = .broken)) :
    link.Retrying ↔ link.delaying = false := by
  constructor
  · intro retrying
    rw [Bool.eq_false_iff]
    intro delaying
    exact absurd (idle.symm.trans (retrying.scheduled.mp delaying)) Bool.false_ne_true
  · intro calm
    refine ⟨?_, fun waits => absurd waits content⟩
    rw [calm, idle]

theorem Retrying.move_iff (retrying : link.Retrying) {move : LinkMove}
    (owned : forall started, move ≠ .retry false started) :
    (link.move move).Retrying ↔ link.keepsRetrying move := by
  have scheduled := retrying.scheduled
  rcases link with ⟨phase, delaying, armed, orphans⟩
  cases move with
  | idle => exact ⟨fun _ => trivial, fun _ => retrying⟩
  | delay => exact ⟨fun _ => trivial, fun _ => .delayed scheduled⟩
  | lose => exact ⟨fun _ => trivial, fun _ => .delayed scheduled⟩
  | up =>
      refine ⟨fun _ => trivial, fun _ => ⟨scheduled, ?_⟩⟩
      rintro (impossible | impossible | impossible) <;> cases impossible
  | breakDown =>
      exact ⟨fun after => after.waits (.inr (.inr rfl)), fun delays => ⟨scheduled, fun _ => delays⟩⟩
  | start begun =>
      refine retrying_iff_calm rfl ?_
      cases begun <;> simp [UpstreamLink.move]
  | stop => exact retrying_iff_calm rfl (by simp [UpstreamLink.move, LinkPhase.disposedOf])
  | dispose => exact retrying_iff_calm rfl (by simp [UpstreamLink.move, LinkPhase.disposedOf])
  | retry own started =>
      cases own with
      | false => exact absurd rfl (owned started)
      | true => cases phase <;> cases started <;>
          simp [UpstreamLink.move, LinkPhase.retried, keepsRetrying, retrying_iff]

/-- No running timer loses its pointer. -/
theorem Retrying.move_alone (retrying : link.Retrying) {move : LinkMove}
    (keeps : link.keepsRetrying move) (alone : link.orphans = 0) :
    (link.move move).orphans = 0 := by
  cases move with
  | start begun =>
      have idle : link.armed = false := by
        rw [Bool.eq_false_iff]
        intro armed
        exact absurd (keeps.symm.trans (retrying.scheduled.mpr armed)) Bool.false_ne_true
      simp only [UpstreamLink.move, idle]
      exact alone
  | retry own started => cases own <;> simp [UpstreamLink.move, alone]
  | lose => exact (delayed_orphans _).trans alone
  | delay => exact (delayed_orphans _).trans alone
  | idle => exact alone
  | up => exact alone
  | breakDown => exact alone
  | stop => exact alone
  | dispose => exact alone

end UpstreamLink

namespace UvUpstream

/-- A connection that is not stuck. -/
structure NeverStuck (world : UvUpstream) : Prop where
  retries : world.conn.bRunning = true -> world.conn.bDisposed = false ->
    world.conn.bConnected = false ->
      (Exists fun socket => world.current = some socket ∧ socket ∈ world.connecting) ∨
      (world.conn.reconnectTimer = some true ∧ world.conn.bDelayReconnecting = true)
  scheduled : world.conn.bDelayReconnecting = true ↔ world.conn.reconnectTimer = some true

/-- The event does not leave the connection stuck.  When the timer fires, either the
request can be started, or the connection still has its socket.  The set-up of a
connection fails only with the timer running.  The timer is not replaced by
`Connect`, nor killed by a disposal, while it is running. -/
def retries (world : UvUpstream) : UpstreamEvent -> Bool
  | .connect ip _ _ _ => !(UvIsolatedConn.isIpAddress ip && world.conn.bDelayReconnecting)
  | .timer started => if world.conn.bFlushed then started else world.current.isSome
  | .connectCb _ .setupFailed => world.conn.bDelayReconnecting
  | event => !(world.disposes event && world.conn.bDelayReconnecting)

namespace Regular

variable {world : UvUpstream}

/-- A link that lacks a socket belongs to a connection that has no request in flight. -/
theorem lacks_iff (regular : world.Regular) :
    (world.link.phase = .down ∨ world.link.phase = .stranded ∨ world.link.phase = .broken) ↔
      world.conn.bRunning = true ∧ world.conn.bDisposed = false ∧ world.conn.bConnected = false ∧
        ¬ Exists fun socket => world.current = some socket ∧ socket ∈ world.connecting := by
  have stands := regular.stands
  generalize world.link.phase = phase at stands ⊢
  have absent : world.current = none ->
      ¬ Exists fun socket => world.current = some socket ∧ socket ∈ world.connecting := by
    rintro closed ⟨socket, current, _⟩
    rw [closed] at current
    cases current
  cases stands with
  | disposed disposed closed => simp [disposed]
  | unopened undisposed flushed stopped unconnected closed => simp [stopped]
  | down undisposed flushed running unconnected closed =>
      simp [undisposed, running, unconnected, absent closed]
  | stranded undisposed unflushed running unconnected closed kept =>
      simp [undisposed, running, unconnected, absent closed]
  | broken undisposed unflushed running unconnected closed freed =>
      simp [undisposed, running, unconnected, absent closed]
  | connecting undisposed unflushed running unconnected socket current request silent =>
      simp [current, request]
  | established undisposed unflushed running connected socket current reads => simp [connected]

theorem neverStuck_iff (regular : world.Regular) : world.NeverStuck ↔ world.link.Retrying := by
  have armed : world.link.armed = true ↔ world.conn.reconnectTimer = some true :=
    decide_eq_true_iff
  constructor
  · intro unstuck
    refine ⟨unstuck.scheduled.trans armed.symm, fun lacks => ?_⟩
    rcases regular.lacks_iff.mp lacks with ⟨running, undisposed, unconnected, nothing⟩
    rcases unstuck.retries running undisposed unconnected with request | waits
    · exact absurd request nothing
    · exact waits.2
  · intro retrying
    refine ⟨fun running undisposed unconnected => ?_, retrying.scheduled.trans armed⟩
    by_cases request : Exists fun socket =>
        world.current = some socket ∧ socket ∈ world.connecting
    · exact .inl request
    · have delays := retrying.waits
        (regular.lacks_iff.mpr ⟨running, undisposed, unconnected, request⟩)
      exact .inr ⟨armed.mp (retrying.scheduled.mp delays), delays⟩

/-- An event that may do nothing, and otherwise needs the timer not to be running. -/
theorem calm_iff (takes : Bool) (link : UpstreamLink) {move : LinkMove}
    (calm : link.keepsRetrying move ↔ link.delaying = false) :
    (!(takes && link.delaying)) = true ↔ link.keepsRetrying (if takes then move else .idle) := by
  cases takes with
  | true =>
      rw [Bool.true_and, Bool.not_eq_true', if_pos rfl]
      exact calm.symm
  | false => exact ⟨fun _ => trivial, fun _ => rfl⟩

/-- The timer fires. -/
theorem timer_iff (regular : world.Regular) (undisposed : world.conn.bDisposed = false)
    (started : Bool) :
    world.retries (.timer started) = true ↔ world.link.keepsRetrying (.retry true started) := by
  have stands := regular.stands
  unfold UpstreamLink.keepsRetrying retries
  generalize world.link.phase = phase at stands ⊢
  cases stands with
  | disposed disposed closed => exact absurd (undisposed.symm.trans disposed) Bool.false_ne_true
  | unopened _ flushed stopped unconnected closed => simp [flushed]
  | down _ flushed running unconnected closed => simp [flushed]
  | stranded _ unflushed running unconnected closed kept => simp [unflushed, closed]
  | broken _ unflushed running unconnected closed freed => simp [unflushed, closed]
  | connecting _ unflushed running unconnected socket current request silent =>
      simp [unflushed, current]
  | established _ unflushed running connected socket current reads => simp [unflushed, current]

/-- A connection that is connected and not disposed of is running. -/
theorem disposes_reopen (regular : world.Regular) (nDelaySeconds : Int) :
    world.disposes (.reopen nDelaySeconds) = (!world.conn.bDisposed && world.conn.bConnected) := by
  change (!world.conn.bDisposed && world.conn.bConnected && world.conn.bRunning) = _
  cases disposed : world.conn.bDisposed with
  | true => rfl
  | false =>
      cases connected : world.conn.bConnected with
      | false => rfl
      | true =>
          have reads := (regular.coherent.connected disposed).symm.trans connected
          exact regular.coherent.runs disposed (regular.coherent.reading reads)

theorem retries_iff {codec : Codec} {event : UpstreamEvent} {after : UvUpstream}
    (regular : world.Regular) (alone : world.orphans = 0)
    (done : world.Step codec event after) :
    world.retries event = true ↔ world.link.keepsRetrying (world.moveOf event) := by
  unfold Step perform at done
  split at done
  · cases done
  · cases event with
    | connect ip parsed started uninitialised =>
        exact calm_iff (UvIsolatedConn.isIpAddress ip) world.link Iff.rfl
    | disconnect =>
        exact calm_iff (!world.conn.bDisposed && world.conn.bRunning) world.link Iff.rfl
    | reopen nDelaySeconds =>
        change (!(world.disposes (.reopen nDelaySeconds) && world.conn.bDelayReconnecting)) = true ↔ _
        rw [moveOf, regular.disposes_reopen]
        cases disposed : world.conn.bDisposed with
        | true => exact ⟨fun _ => trivial, fun _ => rfl⟩
        | false =>
            cases connected : world.conn.bConnected with
            | true => exact calm_iff true world.link Iff.rfl
            | false => exact ⟨fun _ => trivial, fun _ => rfl⟩
    | disposeConnection =>
        change (!(!world.conn.bDisposed && world.conn.bDelayReconnecting)) = true ↔ _
        rw [moveOf]
        cases world.conn.bDisposed with
        | true => exact ⟨fun _ => trivial, fun _ => rfl⟩
        | false => exact calm_iff true world.link Iff.rfl
    | sendRaw started => exact calm_iff (world.disposes (.sendRaw started)) world.link Iff.rfl
    | timer started =>
        rcases Option.map_eq_some_iff.mp done with ⟨next, called, rfl⟩
        exact regular.timer_iff (UvIsolatedConn.onTimer_undisposed called) started
    | orphanTimer started => exact absurd alone (orphanTimer_fired done).1
    | connectCb socket outcome =>
        cases outcome with
        | setupFailed => exact Iff.rfl
        | connected => exact ⟨fun _ => trivial, fun _ => rfl⟩
        | failed => exact ⟨fun _ => trivial, fun _ => rfl⟩
    | writeCb socket status =>
        cases status with
        | written => exact ⟨fun _ => trivial, fun _ => rfl⟩
        | failed ioPending => cases ioPending <;> exact ⟨fun _ => trivial, fun _ => rfl⟩
    | _ => exact ⟨fun _ => trivial, fun _ => rfl⟩

/-- Only a timer that has lost its pointer retries without being the own one. -/
theorem owned {codec : Codec} {event : UpstreamEvent} {after : UvUpstream}
    (alone : world.orphans = 0) (done : world.Step codec event after) (started : Bool) :
    world.moveOf event ≠ .retry false started := by
  unfold Step perform at done
  split at done
  · cases done
  · unfold moveOf
    split
    · split <;> nofun
    · split <;> nofun
    · split
      · nofun
      · split <;> nofun
    · split <;> nofun
    · split <;> nofun
    · nofun
    · exact absurd alone (orphanTimer_fired done).1
    all_goals nofun

end Regular

/-! ## Runs -/

/-- A step to a connection that is not stuck. -/
def UnstuckStep (codec : Codec) (world : UvUpstream) (event : UpstreamEvent)
    (next : UvUpstream) : Prop :=
  world.Step codec event next ∧ next.NeverStuck

/-- A step that does not leave the connection stuck. -/
def RetryStep (codec : Codec) (world : UvUpstream) (event : UpstreamEvent)
    (next : UvUpstream) : Prop :=
  world.Step codec event next ∧ world.retries event = true

/-- A connection that tries again, and whose timers are its own. -/
structure Tireless (world : UvUpstream) : Prop where
  regular : world.Regular
  unstuck : world.NeverStuck
  alone : world.orphans = 0

namespace Tireless

variable {world after : UvUpstream} {codec : Codec} {event : UpstreamEvent}

theorem step_iff (tireless : world.Tireless) :
    world.UnstuckStep codec event after ↔ world.RetryStep codec event after := by
  have retrying := tireless.regular.neverStuck_iff.mp tireless.unstuck
  refine and_congr_right fun done => ?_
  rcases tireless.regular.step done with ⟨regularAfter, moved⟩
  rw [regularAfter.neverStuck_iff, moved,
    retrying.move_iff (Regular.owned tireless.alone done)]
  exact (tireless.regular.retries_iff tireless.alone done).symm

theorem step (tireless : world.Tireless) (step : world.UnstuckStep codec event after) :
    after.Tireless := by
  have retried := tireless.step_iff.mp step
  have keeps := (tireless.regular.retries_iff tireless.alone step.1).mp retried.2
  rcases tireless.regular.step step.1 with ⟨regularAfter, moved⟩
  refine ⟨regularAfter, step.2, ?_⟩
  have retrying := tireless.regular.neverStuck_iff.mp tireless.unstuck
  exact (congrArg UpstreamLink.orphans moved).trans (retrying.move_alone keeps tireless.alone)

end Tireless

theorem initial_tireless (recvPool sendPool : BufferPool) :
    (initial false recvPool sendPool).Tireless :=
  ⟨initial_regular recvPool sendPool, ⟨nofun, ⟨nofun, nofun⟩⟩, rfl⟩

/-- A new connection is not stuck, and it is never stuck in a run if and only if no
step of the run leaves it so. -/
theorem never_stuck_iff_retries (codec : Codec) (recvPool sendPool : BufferPool)
    (events : List UpstreamEvent) (world : UvUpstream) :
    (initial false recvPool sendPool).NeverStuck ∧
      (Run (UnstuckStep codec) (initial false recvPool sendPool) events world ↔
        Run (RetryStep codec) (initial false recvPool sendPool) events world) := by
  have start := initial_tireless recvPool sendPool
  refine ⟨start.unstuck, Run.congr Tireless ?_ ?_ start⟩
  · exact fun _ _ _ tireless => tireless.step_iff
  · exact fun _ _ _ tireless step => tireless.step step

/-- A first connect fails, and the retry cannot be started; or the connection is made
and cannot be set up.  Nothing is in flight then, and no timer runs. -/
theorem failed_retry_stuck :
    (Exists fun world : UvUpstream =>
      Run (Step ⟨.inner, .pointer32⟩) (unused false)
        [connects, .connectCb 0 .failed, .timer false] world ∧ ¬ world.NeverStuck) ∧
    Exists fun world : UvUpstream =>
      Run (Step ⟨.inner, .pointer32⟩) (unused false)
        [connects, .connectCb 0 .setupFailed] world ∧ ¬ world.NeverStuck := by
  constructor
  · refine ⟨_, .cons rfl (.cons rfl (.cons rfl (.nil _))), fun unstuck => ?_⟩
    rcases unstuck.retries rfl rfl rfl with ⟨socket, impossible, _⟩ | ⟨impossible, _⟩
    · cases impossible
    · cases impossible
  · refine ⟨_, .cons rfl (.cons rfl (.nil _)), fun unstuck => ?_⟩
    rcases unstuck.retries rfl rfl rfl with ⟨socket, impossible, _⟩ | ⟨impossible, _⟩
    · cases impossible
    · cases impossible

end UvUpstream
end NetSystem
