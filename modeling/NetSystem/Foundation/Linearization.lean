import Mathlib.Logic.Function.Basic
import NetSystem.Foundation.Transition

namespace NetSystem

universe u v w x

/-!
# Linearizability

A sequential object says what one call may answer and what becomes of the state.  Threads
that call it one at a time, each call being performed in one step between its call and its
answer, have the histories that the object allows; a concurrent implementation is
linearizable if all of its histories are among them.

A call that leaves the state as it is may be placed at any moment of its duration, and
which moment that was is often known only later.  The proof of an implementation may
therefore let a running call note the answers that it could give, and give one of them in
the end: every history of noting threads is a history of the object.
-/

/-- What an object may answer to a call, and the state behind it. -/
structure SequentialObject (σ : Type u) (ι : Type v) (ρ : Type w) where
  Performs : σ -> ι -> ρ -> σ -> Prop

/-- What the threads and the object do.  A history does not show what is internal. -/
inductive CallEvent (θ : Type x) (ι : Type v) (ρ : Type w) where
  | call (thread : θ) (call : ι)
  | internal
  | answer (thread : θ) (result : ρ)

namespace CallEvent

variable {θ : Type x} {ι : Type v} {ρ : Type w}

def isVisible : CallEvent θ ι ρ -> Bool
  | .internal => false
  | _ => true

/-- The history of a run. -/
def history (events : List (CallEvent θ ι ρ)) : List (CallEvent θ ι ρ) :=
  events.filter isVisible

theorem history_append (before after : List (CallEvent θ ι ρ)) :
    history (before ++ after) = history before ++ history after :=
  List.filter_append ..

end CallEvent

/-- What has become of the last call of a thread. -/
inductive CallStatus (ι : Type v) (ρ : Type w) where
  | idle
  | called (call : ι)
  | done (result : ρ)

/-- An object and the threads that use it. -/
structure AtomicState (θ : Type x) (σ : Type u) (ι : Type v) (ρ : Type w) where
  state : σ
  status : θ -> CallStatus ι ρ

/-- As `CallStatus`, with the answers that a running call has noted. -/
inductive NotingStatus (ι : Type v) (ρ : Type w) where
  | idle
  | called (call : ι) (noted : ρ -> Prop)
  | done (result : ρ)

/-- An object and threads that note answers. -/
structure NotingState (θ : Type x) (σ : Type u) (ι : Type v) (ρ : Type w) where
  state : σ
  status : θ -> NotingStatus ι ρ

section Object

variable {θ : Type x} {σ : Type u} {ι : Type v} {ρ : Type w} [DecidableEq θ]
  {object : SequentialObject σ ι ρ}

/-- A call is performed in one step. -/
inductive AtomicStep (object : SequentialObject σ ι ρ) :
    AtomicState θ σ ι ρ -> CallEvent θ ι ρ -> AtomicState θ σ ι ρ -> Prop
  | call {view : AtomicState θ σ ι ρ} {thread : θ} (call : ι)
      (idle : view.status thread = .idle) :
      AtomicStep object view (.call thread call)
        { view with status := Function.update view.status thread (.called call) }
  | perform {view : AtomicState θ σ ι ρ} {thread : θ} {call : ι} {result : ρ} {next : σ}
      (called : view.status thread = .called call)
      (performs : object.Performs view.state call result next) :
      AtomicStep object view .internal
        ⟨next, Function.update view.status thread (.done result)⟩
  | answer {view : AtomicState θ σ ι ρ} {thread : θ} {result : ρ}
      (done : view.status thread = .done result) :
      AtomicStep object view (.answer thread result)
        { view with status := Function.update view.status thread .idle }

/-- A call is performed in one step, or answers what it has noted. -/
inductive NotingStep (object : SequentialObject σ ι ρ) :
    NotingState θ σ ι ρ -> CallEvent θ ι ρ -> NotingState θ σ ι ρ -> Prop
  | call {view : NotingState θ σ ι ρ} {thread : θ} (call : ι)
      (idle : view.status thread = .idle) :
      NotingStep object view (.call thread call)
        { view with
          status := Function.update view.status thread (.called call fun _ => False) }
  | skip (view : NotingState θ σ ι ρ) : NotingStep object view .internal view
  | note {view : NotingState θ σ ι ρ} {thread : θ} {call : ι} {noted : ρ -> Prop} {result : ρ}
      (called : view.status thread = .called call noted)
      (performs : object.Performs view.state call result view.state) :
      NotingStep object view .internal
        { view with
          status := Function.update view.status thread
            (.called call fun other => other = result ∨ noted other) }
  | perform {view : NotingState θ σ ι ρ} {thread : θ} {call : ι} {noted : ρ -> Prop}
      {result : ρ} {next : σ} (called : view.status thread = .called call noted)
      (performs : object.Performs view.state call result next) :
      NotingStep object view .internal
        ⟨next, Function.update view.status thread (.done result)⟩
  | answer {view : NotingState θ σ ι ρ} {thread : θ} {result : ρ}
      (done : view.status thread = .done result) :
      NotingStep object view (.answer thread result)
        { view with status := Function.update view.status thread .idle }
  | answerNoted {view : NotingState θ σ ι ρ} {thread : θ} {call : ι} {noted : ρ -> Prop}
      {result : ρ} (called : view.status thread = .called call noted) (known : noted result) :
      NotingStep object view (.answer thread result)
        { view with status := Function.update view.status thread .idle }

/-- What becomes of the object and of one thread's call in an internal step. -/
inductive NotingStatus.Move (object : SequentialObject σ ι ρ) :
    σ -> NotingStatus ι ρ -> σ -> NotingStatus ι ρ -> Prop
  | skip (state : σ) (status : NotingStatus ι ρ) : Move object state status state status
  | note {state : σ} {call : ι} {noted : ρ -> Prop} {result : ρ}
      (performs : object.Performs state call result state) :
      Move object state (.called call noted) state
        (.called call fun other => other = result ∨ noted other)
  | perform {state next : σ} {call : ι} {noted : ρ -> Prop} {result : ρ}
      (performs : object.Performs state call result next) :
      Move object state (.called call noted) next (.done result)

theorem NotingStep.of_move {view : NotingState θ σ ι ρ} {thread : θ} {next : σ}
    {status now : NotingStatus ι ρ} (same : view.status thread = status)
    (move : NotingStatus.Move object view.state status next now) :
    NotingStep object view .internal ⟨next, Function.update view.status thread now⟩ := by
  cases move with
  | skip =>
      rw [← same, Function.update_eq_self]
      exact .skip view
  | note performs => exact .note same performs
  | perform performs => exact .perform same performs

/-- The object with idle threads. -/
def AtomicState.start (start : σ) : AtomicState θ σ ι ρ := ⟨start, fun _ => .idle⟩

def NotingState.start (start : σ) : NotingState θ σ ι ρ := ⟨start, fun _ => .idle⟩

/-- The history is one of the object, used from the given state on. -/
def Linearizes (object : SequentialObject σ ι ρ) (start : σ)
    (history : List (CallEvent θ ι ρ)) : Prop :=
  Exists fun events => Exists fun last =>
    Run (AtomicStep object) (AtomicState.start start) events last ∧
      CallEvent.history events = history

end Object

/-! ## Noted answers -/

section Choices

variable {θ : Type x} {σ : Type u} {ι : Type v} {ρ : Type w}

/-- A call that has noted an answer may have been performed with it already. -/
inductive NotingStatus.Chosen : NotingStatus ι ρ -> CallStatus ι ρ -> Prop
  | idle : Chosen .idle .idle
  | called (call : ι) (noted : ρ -> Prop) : Chosen (.called call noted) (.called call)
  | noted (call : ι) {noted : ρ -> Prop} {result : ρ} (known : noted result) :
      Chosen (.called call noted) (.done result)
  | done (result : ρ) : Chosen (.done result) (.done result)

theorem NotingStatus.Chosen.eq_idle {chosen : CallStatus ι ρ}
    (choice : NotingStatus.idle.Chosen chosen) : chosen = .idle := by
  cases choice
  rfl

theorem NotingStatus.Chosen.eq_done {chosen : CallStatus ι ρ} {result : ρ}
    (choice : (NotingStatus.done result).Chosen chosen) : chosen = .done result := by
  cases choice
  rfl

theorem NotingStatus.Chosen.of_called {chosen : CallStatus ι ρ} {call : ι} {noted : ρ -> Prop}
    (choice : (NotingStatus.called call noted).Chosen chosen) :
    chosen = .called call ∨ Exists fun result => noted result ∧ chosen = .done result := by
  cases choice with
  | called => exact .inl rfl
  | noted _ known => exact .inr ⟨_, known, rfl⟩

theorem NotingStatus.exists_chosen (status : NotingStatus ι ρ) :
    Exists fun chosen => status.Chosen chosen := by
  cases status with
  | idle => exact ⟨_, .idle⟩
  | called call noted => exact ⟨_, .called call noted⟩
  | done result => exact ⟨_, .done result⟩

/-- A choice for every thread. -/
structure NotingState.Chosen (view : NotingState θ σ ι ρ) (chosen : AtomicState θ σ ι ρ) :
    Prop where
  state : chosen.state = view.state
  status : forall thread, (view.status thread).Chosen (chosen.status thread)

theorem NotingState.exists_chosen (view : NotingState θ σ ι ρ) :
    Exists fun chosen => view.Chosen chosen := by
  rcases Classical.axiomOfChoice fun thread => (view.status thread).exists_chosen with
    ⟨status, chosen⟩
  exact ⟨⟨view.state, status⟩, rfl, chosen⟩

theorem NotingState.chosen_start {start : σ} {chosen : AtomicState θ σ ι ρ}
    (related : (NotingState.start start : NotingState θ σ ι ρ).Chosen chosen) :
    chosen = AtomicState.start start := by
  rcases chosen with ⟨state, status⟩
  rcases related with ⟨rfl, same⟩
  congr 1
  funext thread
  have here := same thread
  dsimp only [start] at here ⊢
  generalize status thread = now at here ⊢
  cases here
  rfl

variable [DecidableEq θ] {object : SequentialObject σ ι ρ}

/-- Going back, the thread of the step has the choice that the step began with. -/
theorem NotingStatus.Chosen.back {before : θ -> NotingStatus ι ρ} {status : θ -> CallStatus ι ρ}
    {thread : θ} {now : NotingStatus ι ρ} {chosen : CallStatus ι ρ}
    (after : forall other, (Function.update before thread now other).Chosen (status other))
    (here : (before thread).Chosen chosen) (other : θ) :
    (before other).Chosen (Function.update status thread chosen other) := by
  by_cases same : other = thread
  · rw [same, Function.update_self]
    exact here
  · have elsewhere := after other
    rw [Function.update_of_ne same] at elsewhere ⊢
    exact elsewhere

/-- A choice that the step before left open too. -/
theorem NotingStatus.Chosen.keep {before : θ -> NotingStatus ι ρ} {status : θ -> CallStatus ι ρ}
    {thread : θ} {now : NotingStatus ι ρ}
    (after : forall other, (Function.update before thread now other).Chosen (status other))
    (here : (before thread).Chosen (status thread)) (other : θ) :
    (before other).Chosen (status other) := by
  have back := NotingStatus.Chosen.back after here other
  rw [Function.update_eq_self] at back
  exact back

/-- The one choice of the thread that has made the step. -/
theorem NotingStatus.Chosen.self {before : θ -> NotingStatus ι ρ} {status : θ -> CallStatus ι ρ}
    {thread : θ} {now : NotingStatus ι ρ}
    (after : forall other, (Function.update before thread now other).Chosen (status other)) :
    now.Chosen (status thread) := by
  have here := after thread
  rw [Function.update_self] at here
  exact here

theorem update_back (status : θ -> CallStatus ι ρ) (thread : θ) (before : CallStatus ι ρ)
    {now : CallStatus ι ρ} (same : status thread = now) :
    Function.update (Function.update status thread before) thread now = status := by
  rw [Function.update_idem, ← same, Function.update_eq_self]

/-- The step of a thread, from the statuses behind it. -/
theorem AtomicStep.call_to {state : σ} {status : θ -> CallStatus ι ρ} {thread : θ} {call : ι}
    (now : status thread = .called call) :
    AtomicStep object ⟨state, Function.update status thread .idle⟩ (.call thread call)
      ⟨state, status⟩ := by
  have step : AtomicStep object ⟨state, Function.update status thread .idle⟩
      (.call thread call)
      ⟨state, Function.update (Function.update status thread .idle) thread (.called call)⟩ :=
    .call call (Function.update_self ..)
  rw [update_back status thread .idle now] at step
  exact step

theorem AtomicStep.perform_to {state next : σ} {status : θ -> CallStatus ι ρ} {thread : θ}
    {call : ι} {result : ρ} (performs : object.Performs state call result next)
    (now : status thread = .done result) :
    AtomicStep object ⟨state, Function.update status thread (.called call)⟩ .internal
      ⟨next, status⟩ := by
  have step : AtomicStep object ⟨state, Function.update status thread (.called call)⟩ .internal
      ⟨next, Function.update (Function.update status thread (.called call)) thread
        (.done result)⟩ :=
    .perform (Function.update_self ..) performs
  rw [update_back status thread (.called call) now] at step
  exact step

theorem AtomicStep.answer_to {state : σ} {status : θ -> CallStatus ι ρ} {thread : θ} {result : ρ}
    (now : status thread = .idle) :
    AtomicStep object ⟨state, Function.update status thread (.done result)⟩
      (.answer thread result) ⟨state, status⟩ := by
  have step : AtomicStep object ⟨state, Function.update status thread (.done result)⟩
      (.answer thread result)
      ⟨state, Function.update (Function.update status thread (.done result)) thread .idle⟩ :=
    .answer (Function.update_self ..)
  rw [update_back status thread (.done result) now] at step
  exact step

/-- Whatever has been chosen in the end, the step before leads there from a choice. -/
theorem NotingStep.chosen {view next : NotingState θ σ ι ρ} {event : CallEvent θ ι ρ}
    (step : NotingStep object view event next) {last : AtomicState θ σ ι ρ}
    (related : next.Chosen last) :
    Exists fun first => view.Chosen first ∧ Exists fun events =>
      Run (AtomicStep object) first events last ∧
        CallEvent.history events = CallEvent.history [event] := by
  rcases last with ⟨state, status⟩
  rcases related with ⟨rfl, chosen⟩
  cases step with
  | @call thread call idle =>
      have now := (NotingStatus.Chosen.self chosen).of_called.resolve_right fun ⟨_, known, _⟩ => known
      refine ⟨_, ⟨rfl, NotingStatus.Chosen.back chosen ?_⟩, _, Run.single (.call_to now), rfl⟩
      rw [idle]
      exact .idle
  | skip => exact ⟨_, ⟨rfl, chosen⟩, [], .nil _, rfl⟩
  | @note thread call noted result called performs =>
      dsimp only at chosen
      -- the answer is given now only if it is the one that is noted now
      rcases (NotingStatus.Chosen.self chosen).of_called with now | ⟨other, known | known, now⟩
      · refine ⟨_, ⟨rfl, NotingStatus.Chosen.keep chosen ?_⟩, [], .nil _, rfl⟩
        dsimp only
        rw [called, now]
        exact .called call noted
      · rw [known] at now
        refine ⟨_, ⟨rfl, NotingStatus.Chosen.back chosen ?_⟩, _,
          Run.single (.perform_to performs now), rfl⟩
        rw [called]
        exact .called call noted
      · refine ⟨_, ⟨rfl, NotingStatus.Chosen.keep chosen ?_⟩, [], .nil _, rfl⟩
        dsimp only
        rw [called, now]
        exact .noted call known
  | @perform thread call noted result after called performs =>
      have now := (NotingStatus.Chosen.self chosen).eq_done
      refine ⟨_, ⟨rfl, NotingStatus.Chosen.back chosen ?_⟩, _,
        Run.single (.perform_to performs now), rfl⟩
      rw [called]
      exact .called call noted
  | @answer thread result done =>
      have now := (NotingStatus.Chosen.self chosen).eq_idle
      refine ⟨_, ⟨rfl, NotingStatus.Chosen.back chosen ?_⟩, _, Run.single (.answer_to now), rfl⟩
      rw [done]
      exact .done result
  | @answerNoted thread call noted result called known =>
      have now := (NotingStatus.Chosen.self chosen).eq_idle
      refine ⟨_, ⟨rfl, NotingStatus.Chosen.back chosen ?_⟩, _, Run.single (.answer_to now), rfl⟩
      rw [called]
      exact .noted call known

/-- A run of noting threads, for every choice that its end leaves open. -/
theorem Run.chosen {first last : NotingState θ σ ι ρ} {events : List (CallEvent θ ι ρ)}
    (run : Run (NotingStep object) first events last) {end_ : AtomicState θ σ ι ρ}
    (related : last.Chosen end_) :
    Exists fun start => first.Chosen start ∧ Exists fun performed =>
      Run (AtomicStep object) start performed end_ ∧
        CallEvent.history performed = CallEvent.history events := by
  induction run with
  | nil view => exact ⟨end_, related, [], .nil _, rfl⟩
  | @cons view middle last event events once _ inductionHypothesis =>
      rcases inductionHypothesis related with ⟨next, choice, later, rest, sameLater⟩
      rcases once.chosen choice with ⟨start, first, now, step, sameNow⟩
      refine ⟨start, first, now ++ later, step.append rest, ?_⟩
      rw [CallEvent.history_append, sameNow, sameLater, ← CallEvent.history_append]
      rfl

/-- The history of noting threads is a history of the object. -/
theorem Run.linearizes {start : σ} {events : List (CallEvent θ ι ρ)}
    {last : NotingState θ σ ι ρ}
    (run : Run (NotingStep object) (NotingState.start start) events last) :
    Linearizes object start (CallEvent.history events) := by
  rcases last.exists_chosen with ⟨end_, choice⟩
  rcases run.chosen choice with ⟨first, idle, performed, atomic, same⟩
  rw [NotingState.chosen_start idle] at atomic
  exact ⟨performed, end_, atomic, same⟩

end Choices
end NetSystem
