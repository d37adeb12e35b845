import NetSystem.Tcp.UpstreamView

namespace NetSystem

/-!
# The life of an upstream link

An upstream connection is opened once and then reconnects by itself until it is
disposed of.  `UpstreamLink` says how far it has come, whether a retry is
scheduled, and how many timers are running that nobody points to any more.
`LinkMove` lists what can happen to it.

The link of a connection is read off its flags.  `UpstreamView.Coherent` is what the
flags have to do with each other, and one lemma for each operation says that it
keeps this and which move it is.
-/

/-- How far a link has come.  A stranded link has no socket and is not flushed: a
request could not be started.  A broken one has lost its client handle.  Of a link
that is disposed of, the connected and the flushed flag are left. -/
inductive LinkPhase where
  | unopened
  | connecting
  | established
  | down
  | stranded
  | broken
  | disposed (connected flushed : Bool)
deriving DecidableEq

/-- A link with its timers. -/
structure UpstreamLink where
  phase : LinkPhase
  delaying : Bool
  armed : Bool
  orphans : Nat
deriving DecidableEq

/-- What happens to a link.  A retry comes from the timer of the connection, or
from one that it has lost. -/
inductive LinkMove where
  | idle
  | start (begun : Bool)
  | retry (own started : Bool)
  | up
  | breakDown
  | lose
  | delay
  | stop
  | dispose
deriving DecidableEq

namespace LinkPhase

/-- The phase after `Reconnect`, which gives up unless the stream is flushed. -/
def retried (started : Bool) : LinkPhase -> LinkPhase
  | .unopened | .down => if started then .connecting else .stranded
  | phase => phase

/-- The phase after the socket, if there is one, has been closed. -/
def lost : LinkPhase -> LinkPhase
  | .connecting | .established => .down
  | phase => phase

/-- The phase after a disposal that leaves the connected flag as given. -/
def disposedOf (connected : Bool) (phase : LinkPhase) : LinkPhase :=
  .disposed connected (decide (phase ≠ .stranded))

end LinkPhase

namespace UpstreamLink

/-- A retry is scheduled unless one is. -/
def delayed (link : UpstreamLink) : UpstreamLink :=
  if link.delaying then link else { link with delaying := true, armed := true }

theorem delayed_phase (link : UpstreamLink) : link.delayed.phase = link.phase := by
  unfold delayed
  split
  · rfl
  · rfl

theorem delayed_orphans (link : UpstreamLink) : link.delayed.orphans = link.orphans := by
  unfold UpstreamLink.delayed
  split
  · rfl
  · rfl

/-- The link after a move. -/
def move (link : UpstreamLink) : LinkMove -> UpstreamLink
  | .idle => link
  | .start begun =>
      { link with
        phase := if begun then .connecting else .unopened
        armed := false
        orphans := if link.armed then link.orphans + 1 else link.orphans }
  | .retry own started =>
      { phase := link.phase.retried started
        delaying := false
        armed := !own && link.armed
        orphans := if own then link.orphans else link.orphans - 1 }
  | .up => { link with phase := .established }
  | .breakDown => { link with phase := .broken }
  | .lose => { link with phase := link.phase.lost }.delayed
  | .delay => link.delayed
  | .stop => { link with phase := link.phase.disposedOf false, armed := false }
  | .dispose =>
      { link with
        phase := link.phase.disposedOf (decide (link.phase = .established))
        armed := false }

/-- At most one timer runs, and none unless a reconnect is delayed. -/
structure Single (link : UpstreamLink) : Prop where
  idle : link.delaying = false -> link.armed = false ∧ link.orphans = 0
  apart : link.armed = true -> link.orphans = 0
  once : link.orphans ≤ 1

/-- The timer that a retry comes from is running. -/
def Fires (link : UpstreamLink) (own : Bool) : Prop :=
  if own then link.armed = true else link.orphans ≠ 0

theorem Single.delayed {link : UpstreamLink} (single : link.Single) : link.delayed.Single := by
  unfold UpstreamLink.delayed
  split
  · exact single
  · rename_i calm
    have alone := (single.idle (Bool.eq_false_iff.mpr calm)).2
    exact ⟨nofun, fun _ => alone, single.once⟩

/-- A timer is started only while no other one is running. -/
theorem Single.move {link : UpstreamLink} (single : link.Single) {move : LinkMove}
    (fires : forall own started, move = .retry own started -> link.Fires own) :
    (link.move move).Single := by
  cases move with
  | idle => exact single
  | start begun =>
      refine ⟨fun calm => ⟨rfl, ?_⟩, nofun, ?_⟩
      · rcases single.idle calm with ⟨stopped, alone⟩
        simp only [UpstreamLink.move, stopped, Bool.false_eq_true, if_false]
        exact alone
      · simp only [UpstreamLink.move]
        split
        · rename_i armed
          rw [single.apart armed]
        · exact single.once
  | retry own started =>
      have running := fires own started rfl
      cases own with
      | true =>
          have alone := single.apart running
          exact ⟨fun _ => ⟨rfl, alone⟩, nofun, single.once⟩
      | false =>
          have one : link.orphans = 1 := by
            have some : link.orphans ≠ 0 := running
            have once := single.once
            omega
          have stopped : link.armed = false := by
            apply Bool.eq_false_iff.mpr
            intro armed
            exact running (single.apart armed)
          have none : link.orphans - 1 = 0 := by omega
          exact ⟨fun _ => ⟨stopped, none⟩, fun _ => none, Nat.le_succ_of_le (Nat.le_of_eq none)⟩
  | up => exact ⟨single.idle, single.apart, single.once⟩
  | breakDown => exact ⟨single.idle, single.apart, single.once⟩
  | lose => exact Single.delayed ⟨single.idle, single.apart, single.once⟩
  | delay => exact single.delayed
  | stop => exact ⟨fun calm => ⟨rfl, (single.idle calm).2⟩, nofun, single.once⟩
  | dispose => exact ⟨fun calm => ⟨rfl, (single.idle calm).2⟩, nofun, single.once⟩

end UpstreamLink

/-! ## The link of a connection -/

namespace UpstreamView

/-- How far the link has come, where `reading` says whether the loop reads. -/
def phase (reading : Bool) (view : UpstreamView) : LinkPhase :=
  if view.disposed then .disposed view.connected view.flushed
  else if view.flushed then
    if view.running then .down else .unopened
  else
    match view.handle with
    | .live true => if reading then .established else .connecting
    | .freed => .broken
    | _ => .stranded

def link (reading : Bool) (orphans : Nat) (view : UpstreamView) : UpstreamLink where
  phase := view.phase reading
  delaying := view.delaying
  armed := decide (view.timer = some true)
  orphans := orphans

theorem delay_handle (view : UpstreamView) : view.delay.handle = view.handle := by
  rw [delay]
  split
  · rfl
  · rfl

theorem delay_of_disposed {view : UpstreamView} (disposed : view.disposed = true) :
    view.delay = view := by
  rw [delay, if_pos]
  rw [disposed, Bool.or_true]

theorem disconnect_disposed {view : UpstreamView} (undisposed : view.disposed = false)
    (running : view.running = true) : view.disconnect.disposed = true := by
  rw [disconnect, if_pos (by rw [undisposed, running]; rfl)]
  rw [dispose, if_neg (Bool.eq_false_iff.mp undisposed), flush]
  split
  · rfl
  · rfl

/-- What the flags of a connection have to do with each other. -/
structure Coherent (reading : Bool) (orphans : Nat) (view : UpstreamView) : Prop where
  usable : view.handle = .live true -> view.flushed = false ∧ view.disposed = false
  started : forall socket, view.handle = .live socket ->
    view.running = true ∨ view.disposed = true
  connected : view.disposed = false -> view.connected = reading
  reading : reading = true -> view.handle = .live true
  idle : view.running = false -> view.disposed = false -> view.flushed = true
  freed : view.handle = .freed -> view.flushed = false ∧ view.disposed = false
  stopped : view.disposed = true -> view.timer = none ∧ view.packet = false
  packet : view.disposed = false ->
    (view.flushed = false ∨ view.timer.isSome = true ∨ orphans ≠ 0) -> view.packet = true

namespace Coherent

variable {reading : Bool} {orphans : Nat} {view : UpstreamView}

theorem undisposed (coherent : view.Coherent reading orphans) (packet : view.packet = true) :
    view.disposed = false := by
  cases disposed : view.disposed with
  | false => rfl
  | true =>
      have deleted := (coherent.stopped disposed).2
      rw [packet] at deleted
      cases deleted

theorem runs (coherent : view.Coherent reading orphans) (undisposed : view.disposed = false)
    {socket : Bool} (live : view.handle = .live socket) : view.running = true := by
  rcases coherent.started socket live with running | disposed
  · exact running
  · exact absurd (undisposed.symm.trans disposed) Bool.false_ne_true

/-- A link without a socket is not established. -/
theorem silent (coherent : view.Coherent reading orphans) (closed : view.handle ≠ .live true) :
    reading = false := by
  cases reads : reading with
  | false => rfl
  | true => exact absurd (coherent.reading reads) closed

theorem lose (coherent : view.Coherent reading orphans) (packet : view.packet = true)
    {socket : Bool} (live : view.handle = .live socket) :
    view.flush.error.handle ≠ .live true ∧ view.flush.error.Coherent false orphans ∧
      view.flush.error.link false orphans = (view.link reading orphans).move .lose := by
  have undisposed := coherent.undisposed packet
  have running := coherent.runs undisposed live
  have usable := coherent.usable
  have silent := coherent.silent
  rcases view with ⟨handle, _, timer, _, connected, _, flushed, delaying⟩
  dsimp only at undisposed running live packet usable silent
  subst undisposed running live packet
  cases socket with
  | true =>
      rcases usable rfl with ⟨rfl, _⟩
      refine ⟨by cases delaying <;> simp [flush, error, cut, delay], ?_, ?_⟩
      · constructor <;> cases delaying <;> simp [flush, error, cut, delay]
      · cases reading <;> cases delaying <;> rfl
  | false =>
      rw [silent (by simp)]
      refine ⟨by cases delaying <;> simp [flush, error, cut, delay], ?_, ?_⟩
      · constructor <;> cases delaying <;> simp [flush, error, cut, delay]
      · cases flushed <;> cases delaying <;> rfl

theorem delay (coherent : view.Coherent reading orphans) (undisposed : view.disposed = false)
    (timer : view.delaying = false -> view.timer.isSome = true) :
    view.delay.Coherent reading orphans ∧
      view.delay.link reading orphans = (view.link reading orphans).move .delay := by
  rcases view with ⟨handle, packet, timer, running, connected, _, flushed, delaying⟩
  dsimp only at undisposed timer
  subst undisposed
  cases delaying with
  | true => exact ⟨coherent, rfl⟩
  | false =>
      refine ⟨⟨coherent.usable, coherent.started, coherent.connected, coherent.reading,
        coherent.idle, coherent.freed, nofun, ?_⟩, rfl⟩
      intro _ _
      exact coherent.packet rfl (.inr (.inl (timer rfl)))

/-- The link after `DisposeConnection`, whatever the other two flags were. -/
theorem dispose_link (coherent : view.Coherent reading orphans)
    (undisposed : view.disposed = false) (kept : view.handle ≠ .freed) (running connected : Bool) :
    ({ view with running := running, connected := connected } : UpstreamView).dispose.Coherent
        false orphans ∧
      ({ view with running := running, connected := connected } : UpstreamView).dispose.link
          false orphans =
        { view.link reading orphans with
          phase := (view.phase reading).disposedOf connected
          armed := false } := by
  have usable := coherent.usable
  rcases view with ⟨handle, packet, timer, was, _, _, flushed, delaying⟩
  dsimp only at undisposed kept usable
  subst undisposed
  cases handle with
  | freed => exact absurd rfl kept
  | null =>
      constructor
      · constructor <;> simp [dispose, flush]
      · cases flushed <;> cases was <;> rfl
  | live socket =>
      cases socket with
      | true =>
          rcases usable rfl with ⟨rfl, _⟩
          constructor
          · constructor <;> simp [dispose, flush]
          · cases reading <;> rfl
      | false =>
          constructor
          · constructor <;> simp [dispose, flush]
          · cases flushed <;> cases was <;> rfl

theorem established_iff (coherent : view.Coherent reading orphans)
    (undisposed : view.disposed = false) : view.phase reading = .established ↔ reading = true := by
  rw [phase, undisposed]
  cases reads : reading with
  | true =>
      have live := coherent.reading reads
      rw [(coherent.usable live).1, live]
      exact ⟨fun _ => rfl, fun _ => rfl⟩
  | false =>
      refine ⟨fun established => ?_, nofun⟩
      simp only [Bool.false_eq_true, if_false] at established
      split at established
      · split at established
        · cases established
        · cases established
      · split at established
        · cases established
        · cases established
        · cases established

theorem dispose (coherent : view.Coherent reading orphans) (undisposed : view.disposed = false)
    (kept : view.handle ≠ .freed) :
    view.dispose.Coherent false orphans ∧
      view.dispose.link false orphans = (view.link reading orphans).move .dispose := by
  rcases coherent.dispose_link undisposed kept view.running view.connected with
    ⟨disposed, linked⟩
  refine ⟨disposed, linked.trans ?_⟩
  have connected : view.connected = decide (view.phase reading = .established) := by
    rw [coherent.connected undisposed, Bool.eq_iff_iff, decide_eq_true_eq]
    exact (coherent.established_iff undisposed).symm
  rw [connected]
  rfl

theorem stop (coherent : view.Coherent reading orphans) (undisposed : view.disposed = false)
    (running : view.running = true) (kept : view.handle ≠ .freed) :
    view.disconnect.Coherent false orphans ∧
      view.disconnect.link false orphans = (view.link reading orphans).move .stop := by
  rw [UpstreamView.disconnect, if_pos (by rw [undisposed, running]; rfl)]
  exact coherent.dispose_link undisposed kept false false

/-- A timer calls `Reconnect`. -/
theorem retry {started : Bool} (coherent : view.Coherent reading orphans)
    (undisposed : view.disposed = false)
    (handle : view.flushed = true -> started = true -> Exists fun socket =>
      view.handle = .live socket) (packet : view.packet = true) :
    (view.retry started).Coherent reading orphans ∧
      (view.retry started).link reading orphans =
        { view.link reading orphans with
          phase := (view.phase reading).retried started
          delaying := false } := by
  have usable := coherent.usable
  have freed := coherent.freed
  have connected := coherent.connected undisposed
  have silent := coherent.silent
  have idle := coherent.idle
  rcases view with ⟨state, _, timer, running, reads, _, flushed, delaying⟩
  dsimp only at undisposed packet handle usable freed connected silent idle
  subst undisposed packet connected
  cases flushed with
  | false =>
      cases running with
      | false => cases idle rfl rfl
      | true =>
          refine ⟨⟨coherent.usable, fun _ _ => .inl rfl, coherent.connected, coherent.reading,
            nofun, coherent.freed, nofun, fun _ _ => rfl⟩, ?_⟩
          cases state with
          | null => rfl
          | freed => rfl
          | live socket =>
              cases socket with
              | false => rfl
              | true => cases reads <;> rfl
  | true =>
      have closed : state ≠ .live true := fun live => by cases (usable live).1
      rw [silent closed]
      cases state with
      | freed => cases (freed rfl).1
      | live socket =>
          cases socket with
          | true => exact absurd rfl closed
          | false =>
              cases started with
              | true => exact ⟨by constructor <;> simp [UpstreamView.retry], by cases running <;> rfl⟩
              | false => exact ⟨by constructor <;> simp [UpstreamView.retry], by cases running <;> rfl⟩
      | null =>
          cases started with
          | true =>
              rcases handle rfl rfl with ⟨socket, impossible⟩
              cases impossible
          | false => exact ⟨by constructor <;> simp [UpstreamView.retry], by cases running <;> rfl⟩

theorem start (coherent : view.Coherent reading orphans) (unopened : view.Unopened)
    (begun : Bool) (later : Nat) :
    (view.start begun).Coherent false later ∧
      (view.start begun).link false later =
        { view.link reading orphans with
          phase := if begun then .connecting else .unopened
          armed := false
          orphans := later } := by
  rcases unopened with ⟨unconnected, undisposed, flushed, stopped⟩
  rcases view with ⟨state, packet, timer, _, _, _, _, delaying⟩
  dsimp only at unconnected undisposed flushed stopped
  subst unconnected undisposed flushed stopped
  cases begun with
  | true => exact ⟨by constructor <;> simp [UpstreamView.start], rfl⟩
  | false => exact ⟨by constructor <;> simp [UpstreamView.start], rfl⟩

theorem establish (coherent : view.Coherent reading orphans) (live : view.handle = .live true)
    (silent : reading = false) :
    view.establish.Coherent true orphans ∧
      view.establish.link true orphans = (view.link reading orphans).move .up := by
  rcases coherent.usable live with ⟨unflushed, undisposed⟩
  have running := coherent.runs undisposed live
  have packet := coherent.packet undisposed (.inl unflushed)
  have connected := (coherent.connected undisposed).trans silent
  rcases view with ⟨_, _, timer, _, _, _, _, delaying⟩
  dsimp only at live unflushed undisposed running packet connected
  subst live unflushed undisposed running packet connected
  exact ⟨by constructor <;> simp [UpstreamView.establish], rfl⟩

theorem breakDown (coherent : view.Coherent reading orphans) (live : view.handle = .live true)
    (silent : reading = false) :
    ({ view with handle := .freed } : UpstreamView).Coherent false orphans ∧
      ({ view with handle := .freed } : UpstreamView).link false orphans =
        (view.link reading orphans).move .breakDown := by
  rcases coherent.usable live with ⟨unflushed, undisposed⟩
  have running := coherent.runs undisposed live
  have packet := coherent.packet undisposed (.inl unflushed)
  have connected := (coherent.connected undisposed).trans silent
  rcases view with ⟨_, _, timer, _, _, _, _, delaying⟩
  dsimp only at live unflushed undisposed running packet connected
  subst live unflushed undisposed running packet connected
  exact ⟨by constructor <;> simp, rfl⟩

end Coherent
end UpstreamView

end NetSystem
