import NetSystem.Tcp.KjCounting
import NetSystem.Tcp.KjRegular

namespace NetSystem

/-!
# Clients can always be released

The first command for a client attaches its stream, so when the client is
disposed of there is a stream to flush.  A client reaches the recycler together
with a command that disposes of it, and if it is connected then, the callback
that disconnects it has already been posted.  So when both queues are empty the
recycler can delete every client in it.
-/

/-- The command that attaches a stream. -/
def NetCmd.isConfirm : NetCmd -> Bool
  | .confirmClientIsReady _ _ => true
  | _ => false

namespace ConnView

/-- The stream has not been attached yet, and nothing has happened to it. -/
structure Unconfirmed (view : ConnView) : Prop where
  first : Exists fun cmd => Exists fun todo => view.todo = cmd :: todo ∧ cmd.isConfirm = true ∧
    forall other, other ∈ todo -> other.isConfirm = false
  disposed : view.conn.flags.bDisposed = false
  flushed : view.conn.flags.bFlushed = false
  reading : view.conn.reading = false
  deferred : view.deferred = 0

/-- The stream has been attached. -/
structure Confirmed (view : ConnView) : Prop where
  cmds : forall cmd, cmd ∈ view.todo -> cmd.isConfirm = false
  attached : view.conn.flags.bDisposed = false -> view.conn.thrTcpStream = true
  flushed : view.conn.flags.bDisposed = true -> view.conn.flags.bFlushed = true

/-- Where a client is between its creation and its end. -/
def Attached (view : ConnView) : Prop := view.Unconfirmed ∨ view.Confirmed

namespace Attached

variable {ref : ConnRef} {view next : ConnView}

theorem of_same (attached : view.Attached) (todo : next.todo = view.todo)
    (back : next.conn.back = view.conn.back) (deferred : next.deferred = view.deferred) :
    next.Attached := by
  have state : next.conn.back.1 = view.conn.back.1 := congrArg Prod.fst back
  have flags : next.conn.back.2 = view.conn.back.2 := congrArg Prod.snd back
  have disposed : next.conn.flags.bDisposed = view.conn.flags.bDisposed := congrArg Prod.fst flags
  have flushed : next.conn.flags.bFlushed = view.conn.flags.bFlushed := congrArg Prod.snd flags
  rcases attached with early | late
  · left
    refine ⟨?_, disposed.trans early.disposed, flushed.trans early.flushed, ?_,
      deferred.trans early.deferred⟩
    · rw [todo]
      exact early.first
    · exact (congrArg KjState.reading state).trans early.reading
  · right
    refine ⟨?_, ?_, ?_⟩
    · rw [todo]
      exact late.cmds
    · intro alive
      exact (congrArg KjState.thrTcpStream state).trans (late.attached (disposed.symm.trans alive))
    · intro gone
      exact flushed.trans (late.flushed (disposed.symm.trans gone))

theorem commit (attached : view.Attached) {cmd : NetCmd} (plain : cmd.isConfirm = false) :
    (view.commit cmd).Attached := by
  have added : forall todo : List NetCmd, (forall other, other ∈ todo -> other.isConfirm = false) ->
      forall other, other ∈ todo ++ [cmd] -> other.isConfirm = false := by
    intro todo none_ other member
    rcases List.mem_append.mp member with before | new
    · exact none_ other before
    · rw [List.mem_singleton.mp new]
      exact plain
  rcases attached with early | late
  · left
    rcases early.first with ⟨confirm, todo, split, isConfirm, none_⟩
    refine ⟨⟨confirm, todo ++ [cmd], ?_, isConfirm, added todo none_⟩, early.disposed,
      early.flushed, early.reading, early.deferred⟩
    change view.todo ++ [cmd] = _
    rw [split]
    rfl
  · exact .inr ⟨added view.todo late.cmds, late.attached, late.flushed⟩

end Attached

namespace Confirmed

variable {view : ConnView}

/-- A client that is disposed of has been flushed. -/
theorem dispose (confirmed : view.Confirmed) :
    Confirmed { view with conn := view.conn.disposeConnection } := by
  refine ⟨confirmed.cmds, ?_, ?_⟩
  · intro alive
    rw [KjConn.disposeConnection_disposed] at alive
    cases alive
  · intro _
    exact view.conn.disposeConnection_flushed (fun alive => .inl (confirmed.attached alive))
      confirmed.flushed

theorem flush (confirmed : view.Confirmed) :
    Confirmed { view with conn := view.conn.flushStream } := by
  refine ⟨confirmed.cmds, ?_, ?_⟩
  · intro alive
    rw [KjConn.flushStream_disposed] at alive
    rw [KjConn.flushStream_thrTcpStream]
    exact confirmed.attached alive
  · intro gone
    rw [KjConn.flushStream_disposed] at gone
    exact view.conn.flushStream_flushed (.inr (confirmed.flushed gone))

end Confirmed
end ConnView

variable {ref : ConnRef} {view next : ConnView}

theorem RestStep.attached {rest : FrontRest} (runs : RestStep ref view rest next)
    (attached : view.Attached) : next.Attached := by
  cases runs with
  | removed =>
      have committed : (view.commit (.disposeConnection ref)).Attached := attached.commit rfl
      exact committed.of_same rfl rfl rfl
  | absent => exact attached
  | released => exact attached.commit rfl
  | delayed => exact attached.commit rfl

theorem CbStep.attached {workCb : TrunkCb} (runs : CbStep ref view workCb next)
    (attached : view.Attached) : next.Attached := by
  cases runs with
  | clientLost => exact attached.of_same rfl (KjConn.onDisconnect_back _) rfl
  | clientGone _ _ _ removes => exact removes.attached attached
  | linkReported => exact attached.of_same rfl (KjConn.onConnect_back _) rfl
  | linkLost => exact attached.of_same rfl (KjConn.onDisconnect_back _) rfl
  | packet => exact attached.of_same rfl rfl rfl
  | innerPacket => exact attached.of_same rfl rfl rfl

/-- The command of an unconfirmed client attaches the stream. -/
theorem CmdStep.attached {cmd : NetCmd} {todo : List NetCmd} (attached : view.Attached)
    (fits : cmd.fits true = true) (first : view.todo = cmd :: todo)
    (runs : CmdStep ref { view with executing := some cmd, todo := todo } cmd next) :
    next.Attached := by
  rcases attached with early | late
  · rcases early.first with ⟨confirm, rest, split, isConfirm, none_⟩
    rw [first] at split
    cases split
    cases runs with
    | confirmed streamptr ready =>
        refine .inr ⟨none_, fun _ => rfl, ?_⟩
        intro disposed
        exact absurd (ready.1.symm.trans disposed) Bool.false_ne_true
    | notReady streamptr unready =>
        rcases unready with disposed | flushed
        · exact absurd (early.disposed.symm.trans disposed) Bool.false_ne_true
        · exact absurd (early.flushed.symm.trans flushed) Bool.false_ne_true
    | disposed => cases isConfirm
    | posted => cases isConfirm
    | connected => cases isConfirm
    | delayed => cases isConfirm
  · have none_ := late.cmds
    rw [first] at none_
    have later : forall other, other ∈ todo -> other.isConfirm = false :=
      fun other member => none_ other (List.mem_cons_of_mem _ member)
    have plain := none_ cmd (List.mem_cons_self ..)
    have taken : ConnView.Confirmed { view with executing := some cmd, todo := todo } :=
      ⟨later, late.attached, late.flushed⟩
    cases runs with
    | disposed => exact .inr taken.dispose
    | posted => exact .inr taken
    | confirmed => cases plain
    | notReady => cases plain
    | connected => cases fits
    | delayed => cases fits

namespace ConnView

/-- The stream of a client is attached before anything else is done with it. -/
theorem Attached.step {event : WorldEvent} (created : view.created = true) (regular : view.Regular)
    (client : view.conn.kind.isClient = true) (attached : view.Attached)
    (step : ConnStep ref view event next) : next.Attached := by
  cases step with
  | other => exact attached
  | displaced => exact attached.of_same rfl rfl rfl
  | accepted _ _ _ absent => exact absurd (absent.symm.trans created) Bool.false_ne_true
  | isolatedCreated _ _ _ absent => exact absurd (absent.symm.trans created) Bool.false_ne_true
  | connectCommitted => exact attached.commit rfl
  | sent => exact attached.commit rfl
  | disconnectIgnored => exact attached
  | stopped => exact attached.of_same rfl (KjConn.stopRunning_back _) rfl
  | stoppedUnconnected _ _ _ _ _ releases =>
      exact releases.attached (attached.of_same rfl (KjConn.stopRunning_back _) rfl)
  | reopenIgnored => exact attached
  | reopened => exact attached.commit rfl
  | returned _ _ _ _ runs => exact runs.attached (attached.of_same rfl rfl rfl)
  | called _ _ _ _ _ runs => exact runs.attached (attached.of_same rfl rfl rfl)
  | clientReleased =>
      have committed : (view.commit (.disposeConnection ref)).Attached := attached.commit rfl
      exact committed.of_same rfl rfl rfl
  | isolatedReleased _ isolated =>
      exact absurd ((regular.client client).symm.trans isolated) Bool.false_ne_true
  | deleted => exact attached.of_same rfl rfl rfl
  | executed _ _ cmd todo _ first runs =>
      have fits := regular.cmds cmd (by
        rw [pendingCmds, first]
        exact List.mem_append_right _ (List.mem_cons_self ..))
      rw [client] at fits
      exact CmdStep.attached attached fits first runs
  | serverClosed _ _ _ last =>
      rcases attached with early | late
      · rcases early.first with ⟨_, _, split, _⟩
        rw [last] at split
        cases split
      · exact .inr ⟨late.cmds, late.dispose.attached, late.dispose.flushed⟩
  | closedElsewhere => exact attached.of_same rfl rfl rfl
  | finished => exact attached.of_same rfl rfl rfl
  | clientFailed _ pending =>
      rcases attached with early | late
      · rw [early.deferred] at pending
        exact absurd pending (Nat.lt_irrefl 0)
      · have gone := late.flush.dispose
        exact .inr ⟨gone.cmds, gone.attached, gone.flushed⟩
  | isolatedFailed _ _ _ isolated => exact absurd (isolated.symm.trans client) Bool.false_ne_true
  | linkUp _ connecting =>
      exact absurd ((regular.conn.client client).1.symm.trans connecting) Bool.false_ne_true
  | connectFailed _ connecting =>
      exact absurd ((regular.conn.client client).1.symm.trans connecting) Bool.false_ne_true
  | received => exact attached.of_same rfl rfl rfl
  | readFailed _ reading =>
      rcases attached with early | late
      · exact absurd (early.reading.symm.trans reading) Bool.false_ne_true
      · exact .inr ⟨late.cmds, late.attached, late.flushed⟩
  | timerFired _ _ timer =>
      exact absurd ((regular.conn.client client).2.symm.trans timer) Bool.false_ne_true

/-- What the recycler and a closed server can rely on. -/
structure Closing (view : ConnView) : Prop where
  disposes : view.recycled = true -> view.conn.flags.bDisposed = true ∨
    Exists fun conn => .disposeConnection conn ∈ view.todo
  loses : view.conn.flags.bConnected = true ->
    (view.recycled = true ∨
      Exists fun server => view.held server = true ∧ view.closed server = true) ->
    Exists fun server => Exists fun client => .clientDisconnect server client ∈ view.callbacks
  returns : view.rests ≠ [] -> view.conn.flags.bConnected = false

namespace Closing

/-- A client that is not connected only has to be disposed of. -/
theorem of_disconnected (disconnected : next.conn.flags.bConnected = false)
    (disposes : next.recycled = true -> next.conn.flags.bDisposed = true ∨
      Exists fun conn => .disposeConnection conn ∈ next.todo) : next.Closing where
  disposes := disposes
  loses := fun connected => absurd (disconnected.symm.trans connected) Bool.false_ne_true
  returns := fun _ => disconnected

theorem commit (closing : view.Closing) (cmd : NetCmd) : (view.commit cmd).Closing where
  disposes := by
    intro recycled
    rcases closing.disposes recycled with disposed | ⟨conn, member⟩
    · exact .inl disposed
    · exact .inr ⟨conn, List.mem_append_left _ member⟩
  loses := closing.loses
  returns := closing.returns

theorem post (closing : view.Closing) (workCb : TrunkCb) : (view.post workCb).Closing where
  disposes := closing.disposes
  loses := by
    intro connected leaving
    rcases closing.loses connected leaving with ⟨server, client, member⟩
    exact ⟨server, client, List.mem_append_left _ member⟩
  returns := closing.returns

end Closing
end ConnView

theorem RestStep.closing {rest : FrontRest} (runs : RestStep ref view rest next)
    (closing : view.Closing) (disconnected : view.conn.flags.bConnected = false) :
    next.Closing := by
  cases runs with
  | removed =>
      refine .of_disconnected disconnected fun _ => .inr ⟨ref, ?_⟩
      exact List.mem_append_right _ (List.mem_singleton_self _)
  | absent => exact closing
  | released => exact closing.commit _
  | delayed => exact closing.commit _

theorem CbStep.closing {workCb : TrunkCb} {callbacks : List TrunkCb}
    (first : view.callbacks = workCb :: callbacks) (fits : workCb.fits true = true)
    (closing : view.Closing) (runs : CbStep ref (view.start callbacks) workCb next) : next.Closing := by
  have later : (forall server client, workCb ≠ .clientDisconnect server client) ->
      (view.start callbacks).Closing := by
    intro packet
    refine ⟨closing.disposes, ?_, closing.returns⟩
    intro connected leaving
    rcases closing.loses connected leaving with ⟨server, client, member⟩
    rw [first] at member
    rcases List.mem_cons.mp member with same | rest
    · exact absurd same.symm (packet server client)
    · exact ⟨server, client, rest⟩
  cases runs with
  | clientLost server connected =>
      refine .of_disconnected ?_ ?_
      · exact congrArg (fun conn => conn.flags.bConnected) (KjConn.onDisconnect_eq _)
      · intro recycled
        rcases closing.disposes recycled with disposed | waiting
        · left
          exact (congrArg (fun conn => conn.flags.bDisposed)
            (KjConn.onDisconnect_eq (view.start callbacks).conn)).trans disposed
        · exact .inr waiting
  | clientGone _ server disconnected removes =>
      exact removes.closing (.of_disconnected disconnected closing.disposes) disconnected
  | linkReported => cases fits
  | linkLost => cases fits
  | packet uConnId body =>
      have rest := later (by intro server client impossible; cases impossible)
      exact ⟨rest.disposes, rest.loses, rest.returns⟩
  | innerPacket uConnId body =>
      have rest := later (by intro server client impossible; cases impossible)
      exact ⟨rest.disposes, rest.loses, rest.returns⟩

theorem CmdStep.closing {cmd : NetCmd} {todo : List NetCmd} (closing : view.Closing)
    (fits : cmd.fits true = true) (first : view.todo = cmd :: todo)
    (runs : CmdStep ref { view with executing := some cmd, todo := todo } cmd next) :
    next.Closing := by
  have later : (forall conn, cmd ≠ .disposeConnection conn) -> view.recycled = true ->
      view.conn.flags.bDisposed = true ∨ Exists fun conn => .disposeConnection conn ∈ todo := by
    intro plain recycled
    rcases closing.disposes recycled with disposed | ⟨conn, member⟩
    · exact .inl disposed
    · rw [first] at member
      rcases List.mem_cons.mp member with same | rest
      · exact absurd same.symm (plain conn)
      · exact .inr ⟨conn, rest⟩
  cases runs with
  | disposed =>
      refine ⟨fun _ => .inl (KjConn.disposeConnection_disposed _), ?_, ?_⟩
      · intro connected
        rw [KjConn.disposeConnection_connected] at connected
        exact closing.loses connected
      · intro returning
        rw [KjConn.disposeConnection_connected]
        exact closing.returns returning
  | posted body =>
      exact ⟨later (by intro conn impossible; cases impossible), closing.loses, closing.returns⟩
  | confirmed streamptr =>
      exact ⟨later (by intro conn impossible; cases impossible), closing.loses, closing.returns⟩
  | notReady streamptr =>
      exact ⟨later (by intro conn impossible; cases impossible), closing.loses, closing.returns⟩
  | connected => cases fits
  | delayed => cases fits

namespace ConnView

/-- A client that is disposed of and reported lost. -/
theorem Closing.dispose {conn : KjConn} (closing : view.Closing)
    (connected : conn.flags.bConnected = view.conn.flags.bConnected) {deferred : Nat}
    {closed : Nat -> Bool} (server : Nat) :
    Closing { { view with conn := conn.disposeConnection, deferred := deferred }.post
      (.clientDisconnect server ref) with closed := closed } where
  disposes := fun _ => .inl (KjConn.disposeConnection_disposed _)
  loses := fun _ _ => ⟨server, ref, List.mem_append_right _ (List.mem_singleton_self _)⟩
  returns := by
    intro returning
    have same : conn.disposeConnection.flags.bConnected = view.conn.flags.bConnected :=
      (KjConn.disposeConnection_connected _).trans connected
    exact same.trans (closing.returns returning)

theorem Closing.step {event : WorldEvent} (created : view.created = true) (regular : view.Regular)
    (client : view.conn.kind.isClient = true) (closing : view.Closing)
    (step : ConnStep ref view event next) : next.Closing := by
  cases step with
  | other => exact closing
  | displaced _ _ _ _ fewer =>
      refine ⟨closing.disposes, ?_, closing.returns⟩
      intro connected leaving
      apply closing.loses connected
      rcases leaving with recycled | ⟨server, held, closed⟩
      · exact .inl recycled
      · exact .inr ⟨server, fewer server held, closed⟩
  | accepted _ _ _ absent => exact absurd (absent.symm.trans created) Bool.false_ne_true
  | isolatedCreated _ _ _ absent => exact absurd (absent.symm.trans created) Bool.false_ne_true
  | connectCommitted => exact closing.commit _
  | sent => exact closing.commit _
  | disconnectIgnored => exact closing
  | stopped =>
      have stops := KjConn.stopRunning_eq view.conn
      refine .of_disconnected (congrArg (fun conn => conn.flags.bConnected) stops) ?_
      intro recycled
      rcases closing.disposes recycled with disposed | waiting
      · exact .inl ((congrArg (fun conn => conn.flags.bDisposed) stops).trans disposed)
      · exact .inr waiting
  | stoppedUnconnected _ _ _ _ disconnected releases =>
      rw [KjConn.stopRunning_eq] at releases
      refine releases.closing (.of_disconnected rfl closing.disposes) rfl
  | reopenIgnored => exact closing
  | reopened => exact closing.commit _
  | returned _ _ _ first runs =>
      have disconnected : view.conn.flags.bConnected = false := by
        apply closing.returns
        rw [first]
        exact List.cons_ne_nil _ _
      exact runs.closing (.of_disconnected disconnected closing.disposes) disconnected
  | called _ workCb _ first _ runs =>
      have fits := regular.callbacks workCb (by rw [first]; exact List.mem_cons_self ..)
      rw [client] at fits
      exact CbStep.closing first fits closing runs
  | clientReleased server _ held closed =>
      refine ⟨fun _ => .inr ⟨ref, List.mem_append_right _ (List.mem_singleton_self _)⟩, ?_,
        closing.returns⟩
      intro connected _
      exact closing.loses connected (.inr ⟨server, held, closed⟩)
  | isolatedReleased _ isolated =>
      exact absurd ((regular.client client).symm.trans isolated) Bool.false_ne_true
  | deleted =>
      refine ⟨fun impossible => absurd impossible Bool.false_ne_true, ?_, closing.returns⟩
      intro connected leaving
      rcases leaving with impossible | registered
      · cases impossible
      · exact closing.loses connected (.inr registered)
  | executed _ _ cmd todo _ first runs =>
      have fits := regular.cmds cmd (by
        rw [pendingCmds, first]
        exact List.mem_append_right _ (List.mem_cons_self ..))
      rw [client] at fits
      exact CmdStep.closing closing fits first runs
  | serverClosed _ server => exact closing.dispose rfl server
  | closedElsewhere _ server absent =>
      refine ⟨closing.disposes, ?_, closing.returns⟩
      intro connected leaving
      apply closing.loses connected
      rcases leaving with recycled | ⟨place, held, closed⟩
      · exact .inl recycled
      · have elsewhere : place ≠ server := by
          rintro rfl
          exact absurd (absent.symm.trans held) Bool.false_ne_true
        exact .inr ⟨place, held, (Function.update_of_ne elsewhere true view.closed).symm.trans closed⟩
  | finished => exact ⟨closing.disposes, closing.loses, closing.returns⟩
  | clientFailed => exact closing.dispose (view.conn.flushStream_connected) _
  | isolatedFailed _ _ _ isolated => exact absurd (isolated.symm.trans client) Bool.false_ne_true
  | linkUp _ connecting =>
      exact absurd ((regular.conn.client client).1.symm.trans connecting) Bool.false_ne_true
  | connectFailed _ connecting =>
      exact absurd ((regular.conn.client client).1.symm.trans connecting) Bool.false_ne_true
  | received => exact closing.post _
  | readFailed => exact ⟨closing.disposes, closing.loses, closing.returns⟩
  | timerFired _ _ timer =>
      exact absurd ((regular.conn.client client).2.symm.trans timer) Bool.false_ne_true

/-- What holds of every connection, and of the clients among them. -/
structure Orderly (view : ConnView) : Prop where
  counted : view.Counted
  regular : view.Regular
  client : view.created = true -> view.conn.kind.isClient = true -> view.Attached ∧ view.Closing

/-- A client that has just been accepted. -/
theorem accepted_attached {kind : KjClass} {server streamptr : Nat} (untouched : view.Untouched)
    (open_ : view.closed server = false) :
    (view.accepted ref kind server streamptr).Attached ∧
      (view.accepted ref kind server streamptr).Closing := by
  constructor
  · left
    refine ⟨⟨.confirmClientIsReady ref streamptr, [], ?_, rfl, ?_⟩, ?_, ?_, ?_, untouched.deferred⟩
    · change view.todo ++ [_] = _
      rw [untouched.todo]
      rfl
    · intro other impossible
      cases impossible
    · exact congrArg (fun conn => conn.flags.bDisposed) (KjConn.onConnect_eq _)
    · exact congrArg (fun conn => conn.flags.bFlushed) (KjConn.onConnect_eq _)
    · exact congrArg (fun conn => conn.reading) (KjConn.onConnect_eq _)
  · refine ⟨?_, ?_, ?_⟩
    · intro recycled
      exact absurd (untouched.recycled.symm.trans recycled) Bool.false_ne_true
    · intro _ leaving
      rcases leaving with recycled | ⟨place, held, closed⟩
      · exact absurd (untouched.recycled.symm.trans recycled) Bool.false_ne_true
      · have here : place = server := of_decide_eq_true held
        subst here
        exact absurd (open_.symm.trans closed) Bool.false_ne_true
    · intro returning
      exact absurd untouched.rests returning

theorem Orderly.step {event : WorldEvent} (orderly : view.Orderly)
    (step : ConnStep ref view event next) : next.Orderly := by
  refine ⟨orderly.counted.step step, orderly.regular.step step, ?_⟩
  intro exists_ client
  cases created : view.created with
  | true =>
      rw [kind_of_step created step] at client
      rcases orderly.client created client with ⟨attached, closing⟩
      exact ⟨attached.step created orderly.regular client step,
        closing.step created orderly.regular client step⟩
  | false =>
      rcases life_of_step step with ⟨same, _⟩ | ⟨_, untouched, born⟩ | ⟨_, _, _, _, _, rfl⟩
      · exact absurd (created.symm.trans (same.symm.trans exists_)) Bool.false_ne_true
      · cases born with
        | client kind server streamptr _ open_ => exact accepted_attached untouched open_
        | isolated kind isolated => exact absurd (isolated.symm.trans client) Bool.false_ne_true
      · exact absurd (created.symm.trans exists_) Bool.false_ne_true

/-- With nothing on its way, a client in the recycler can be deleted. -/
theorem Orderly.safeToRelease (orderly : view.Orderly) (created : view.created = true)
    (client : view.conn.kind.isClient = true) (recycled : view.recycled = true)
    (noCmds : view.pendingCmds = []) (noCallbacks : view.callbacks = []) :
    view.conn.flags.SafeToRelease := by
  rcases orderly.client created client with ⟨attached, closing⟩
  have todo : view.todo = [] := (List.append_eq_nil_iff.mp noCmds).2
  have disconnected : view.conn.flags.bConnected = false := by
    apply Bool.eq_false_iff.mpr
    intro connected
    rcases closing.loses connected (.inl recycled) with ⟨_, _, member⟩
    rw [noCallbacks] at member
    cases member
  have disposed : view.conn.flags.bDisposed = true := by
    rcases closing.disposes recycled with disposed | ⟨_, member⟩
    · exact disposed
    · rw [todo] at member
      cases member
  have flushed : view.conn.flags.bFlushed = true := by
    rcases attached with early | late
    · exact absurd (early.disposed.symm.trans disposed) Bool.false_ne_true
    · exact late.flushed disposed
  have back : view.conn.flags.isBackEndClean = true := by
    have counts := orderly.counted.callbacks
    rw [noCallbacks] at counts
    exact (counter_eq_iff _ (by decide) counts).mpr rfl
  have front : view.conn.flags.isFrontEndClean = true := by
    have counts := orderly.counted.cmds
    rw [countedCmds, noCmds] at counts
    exact (counter_eq_iff _ (by decide) counts).mpr rfl
  exact ⟨disconnected, back, front, disposed, flushed⟩

theorem initial_orderly : initial.Orderly where
  counted := ⟨rfl, rfl⟩
  regular := .initial
  client := by
    intro impossible
    cases impossible

end ConnView

namespace KjWorld

variable {world : KjWorld}

/-- In every interleaving of accepts, packets, disconnects, task failures,
closing servers and `ReleaseAllClients`: whenever no command is queued or
executing and no callback is queued, every client in the recycler passes its
five tests, so the next `Recycle` leaves no client in it.  Functions of
`taskFailed` that are still pending make no difference. -/
theorem clients_releasable {gate : Bool} {events : List WorldEvent}
    (run : Run Step (initial gate) events world) (noCmds : world.pendingCmds = [])
    (noCallbacks : world.trunkQueue = []) :
    (forall client, client ∈ world.manager.vRecycler ->
      (world.conn client).kind.isClient = true -> (world.manager.flags client).SafeToRelease) ∧
    forall conn, conn ∈ world.manager.recycle.vRecycler ->
      (world.conn conn).kind.isClient = false := by
  have safe : forall client, client ∈ world.manager.vRecycler ->
      (world.conn client).kind.isClient = true ->
      (world.manager.flags client).SafeToRelease := by
    intro client member kind
    rcases view_invariant_of_run (fun view => view.Orderly) (fun _ _ _ kept step => kept.step step)
      ConnView.initial_orderly run with ⟨valid, orderly⟩
    have recycled : (world.view client).recycled = true := decide_eq_true member
    have created : client < world.manager.created := by
      apply Nat.lt_of_not_le
      intro above
      exact absurd ((valid.untouched client above).recycled.symm.trans recycled)
        Bool.false_ne_true
    refine orderly.safeToRelease (decide_eq_true created) kind recycled ?_ ?_
    · rw [pendingCmds_view, noCmds]
      rfl
    · change world.trunkQueue.filter _ = []
      rw [noCallbacks]
      rfl
  refine ⟨safe, ?_⟩
  intro conn member
  rcases (ConnManager.mem_recyclerLoop world.manager.flags world.manager.vRecycler conn).1.mp member
    with ⟨before, unsafe_⟩
  apply Bool.eq_false_iff.mpr
  intro kind
  exact unsafe_ (safe conn before kind)

/-- Two clients are accepted.  The front end disconnects the first, the server
is closed, and its clients are released. -/
def serverClosing : KjWorld :=
  after false [.openTcpServer 1, .execute [], .resultCallback, .accept 1 7, .accept 1 8,
    .runCallback, .runCallback, .execute [], .resultCallback, .execute [], .resultCallback,
    .disconnect 0, .handlersReturn, .closeTcpServer 1, .execute [], .resultCallback,
    .execute [⟨1000000002, 1⟩], .resultCallback, .releaseAllClients 1 [⟨1000000002, 1⟩], .runCallback,
    .handlersReturn, .execute [], .resultCallback]

theorem clients_releasable_closing :
    (forall client, client ∈ serverClosing.manager.vRecycler ->
      (serverClosing.conn client).kind.isClient = true ->
      (serverClosing.manager.flags client).SafeToRelease) ∧
    forall conn, conn ∈ serverClosing.manager.recycle.vRecycler ->
      (serverClosing.conn conn).kind.isClient = false :=
  clients_releasable (run_after (by decide)) (by decide) (by decide)

end KjWorld
end NetSystem
