import NetSystem.Tcp.KjRegular

namespace NetSystem

/-!
# What the front end knows about the link of an isolated connection

`IsConnected()` follows the link with a delay: the callbacks in the trunk queue
say what it will be when they have been run.  `OnLowLevelConnect` posts nothing
when `IsConnected()` still holds from an earlier link, so the front end hears of
every link exactly when it has been told of the loss of the previous one before
the next one is established.
-/

namespace TrunkCb

/-- `IsConnected()` of a running connection after the callback. -/
def linkAfter (connected : Bool) : TrunkCb -> Bool
  | .clientDisconnect _ _ => false
  | .isolatedConnect _ => true
  | .isolatedDisconnect _ => false
  | _ => connected

/-- The events that the callback raises on a running connection. -/
def raises (connected : Bool) : TrunkCb -> List ConnNotice
  | .clientDisconnect _ _ => if connected then [.disconnected] else []
  | .isolatedConnect _ => if connected then [] else [.connected]
  | .isolatedDisconnect _ => if connected then [.disconnected] else []
  | _ => []

end TrunkCb

/-- `IsConnected()` when the callbacks have been run. -/
def settled (connected : Bool) (callbacks : List TrunkCb) : Bool :=
  callbacks.foldl TrunkCb.linkAfter connected

/-- The events that the callbacks will raise. -/
def raised (connected : Bool) : List TrunkCb -> List ConnNotice
  | [] => []
  | workCb :: callbacks => workCb.raises connected ++ raised (workCb.linkAfter connected) callbacks

theorem settled_append (connected : Bool) (callbacks : List TrunkCb) (workCb : TrunkCb) :
    settled connected (callbacks ++ [workCb]) = workCb.linkAfter (settled connected callbacks) := by
  rw [settled, List.foldl_append]
  rfl

theorem raised_append (connected : Bool) (callbacks : List TrunkCb) (workCb : TrunkCb) :
    raised connected (callbacks ++ [workCb]) =
      raised connected callbacks ++ workCb.raises (settled connected callbacks) := by
  induction callbacks generalizing connected with
  | nil => exact List.append_nil _
  | cons first callbacks inductionHypothesis =>
      rw [List.cons_append, raised, inductionHypothesis, raised, List.append_assoc]
      rfl

/-- The events about the link, not the packets. -/
def ConnNotice.isLink : ConnNotice -> Bool
  | .connected => true
  | .disconnected => true
  | _ => false

/-- The events about the link in a log. -/
def linkLog (log : List Notice) : List ConnNotice :=
  (log.map Notice.notice).filter ConnNotice.isLink

theorem linkLog_append (log more : List Notice) :
    linkLog (log ++ more) = linkLog log ++ linkLog more := by
  rw [linkLog, List.map_append, List.filter_append]
  rfl

/-- A log of events about the link. -/
theorem linkLog_raises (ref : ConnRef) (connected now : Bool) (workCb : TrunkCb) :
    linkLog ((workCb.raises connected).map fun notice => ⟨ref, notice, now⟩) =
      workCb.raises connected := by
  cases workCb <;> cases connected <;> rfl

/-- What a change of the link should be reported as. -/
def linkChange : Bool -> Bool -> List ConnNotice
  | false, true => [.connected]
  | true, false => [.disconnected]
  | _, _ => []

theorem linkChange_self (link : Bool) : linkChange link link = [] := by
  cases link <;> rfl

namespace KjConn

variable {conn : KjConn}

theorem onConnect_raises (running : conn.bRunning = true) (isolated : ConnRef) :
    conn.onConnect.2 = (TrunkCb.isolatedConnect isolated).raises conn.flags.bConnected := by
  unfold onConnect TrunkCb.raises
  rw [running]
  cases conn.flags.bConnected <;> rfl

theorem onDisconnect_raises (isolated : ConnRef) :
    conn.onDisconnect.2 = (TrunkCb.isolatedDisconnect isolated).raises conn.flags.bConnected := by
  unfold onDisconnect TrunkCb.raises
  cases conn.flags.bConnected <;> rfl

/-- The members that say what both ends know about the link. -/
def link (conn : KjConn) : (Bool × Bool × Bool) × (Bool × Bool × Bool) :=
  ((conn.stream, conn.connecting, conn.bConnectedEventPosted),
    (conn.bRunning, conn.flags.bConnected, conn.flags.bDisposed))

theorem linkUp_stream : conn.linkUp.1.stream = true := by
  unfold linkUp onLowLevelConnect
  split <;> rfl

theorem flushStream_front : conn.flushStream.link.2 = conn.link.2 := by
  unfold flushStream
  split <;> rfl

theorem linkUp_front : conn.linkUp.1.link.2 = conn.link.2 := by
  unfold linkUp onLowLevelConnect
  split <;> rfl

/-- The back end does not stop a connection, nor connect or dispose of it, when
its link is lost. -/
theorem onIsolatedError_front {lost : KjConn × List LinkCb}
    (error : conn.onIsolatedError = some lost) : lost.1.link.2 = conn.link.2 := by
  rcases onIsolatedError_changes error with ⟨posted, delaying, timer, result⟩
  rw [result]
  rfl

theorem flushStream_link (regular : conn.Regular) :
    conn.flushStream.link = ((false, false, conn.bConnectedEventPosted),
      (conn.bRunning, conn.flags.bConnected, conn.flags.bDisposed)) := by
  rcases regular.flushStream_down with ⟨connecting, _, stream⟩
  have kept : conn.flushStream.bConnectedEventPosted = conn.bConnectedEventPosted ∧
      conn.flushStream.link.2 = conn.link.2 := by
    unfold flushStream
    split <;> exact ⟨rfl, rfl⟩
  unfold link
  rw [connecting, stream, kept.1]
  exact congrArg (Prod.mk _) kept.2

/-- A `CKjIsolatedConn` that loses an established link says so. -/
theorem isolatedConn_lost (regular : conn.Regular) (kind : conn.kind = .isolatedConn)
    (posted : conn.bConnectedEventPosted = conn.stream) {lost : KjConn × List LinkCb}
    (error : conn.flushStream.onIsolatedError = some lost) :
    lost.1.link = ((false, false, false),
      (conn.bRunning, conn.flags.bConnected, conn.flags.bDisposed)) ∧
    (lost.2 = [.disconnect] ∨ (lost.2 = [] ∧ conn.stream = false)) := by
  have flushed := flushStream_link regular
  have same : conn.flushStream.kind = .isolatedConn :=
    (flushStream_sameObject conn).kind.trans kind
  have stream : conn.flushStream.stream = false := congrArg (fun link => link.1.1) flushed
  have connecting : conn.flushStream.connecting = false := congrArg (fun link => link.1.2.1) flushed
  have front : conn.flushStream.link.2 = _ := congrArg Prod.snd flushed
  have saved : conn.flushStream.bConnectedEventPosted = conn.bConnectedEventPosted :=
    congrArg (fun link => link.1.2.2) flushed
  rcases onIsolatedError_eq_some error with ⟨report, reported, rest⟩
  have result : report.1.link = ((false, false, false),
      (conn.bRunning, conn.flags.bConnected, conn.flags.bDisposed)) ∧
      (report.2 = [.disconnect] ∨ (report.2 = [] ∧ conn.stream = false)) := by
    rw [flushStream_thrTcpStream] at reported
    cases attached : conn.thrTcpStream with
    | true =>
        rw [attached, if_pos rfl] at reported
        simp only [onLowLevelDisconnect, same, isolatedConnOnLowLevelDisconnect,
          lowLevelDisconnect] at reported
        split at reported
        · rw [reported]
          refine ⟨?_, .inl rfl⟩
          change ((conn.flushStream.stream, conn.flushStream.connecting, false),
            conn.flushStream.link.2) = _
          rw [stream, connecting, front]
        · rename_i silent
          rw [Bool.or_eq_true, not_or, saved, posted, Bool.not_eq_true] at silent
          rw [reported, flushed, posted, Bool.eq_false_iff.mpr silent.2]
          exact ⟨rfl, .inr ⟨rfl, rfl⟩⟩
    | false =>
        have down : conn.stream = false := by
          apply Bool.eq_false_iff.mpr
          intro up
          exact absurd (attached.symm.trans (regular.streamed (.inr (.inr up))).1)
            Bool.false_ne_true
        rw [attached, if_neg Bool.false_ne_true] at reported
        rw [reported, flushed, posted, down]
        exact ⟨rfl, .inr ⟨rfl, rfl⟩⟩
  rcases rest with ⟨_, delayed, done, rfl⟩ | ⟨_, rfl⟩
  · refine ⟨?_, result.2⟩
    rcases delayReconnect_eq_some done with rfl | ⟨_, _, rfl⟩
    · exact result.1
    · exact result.1
  · exact result

end KjConn

namespace ConnView

/-- Both ends agree on the link of an isolated connection that has not been
stopped, but for the callbacks on their way.  `history` is what the link has
done. -/
structure Agreeing (history : List ConnNotice) (view : ConnView) : Prop where
  alive : view.conn.flags.bDisposed = false
  undisposed : forall conn, .disposeConnection conn ∉ view.todo
  returned : view.rests = []
  posted : view.conn.bConnectedEventPosted = view.conn.stream
  settles : settled view.conn.flags.bConnected view.callbacks = view.conn.stream
  connecting : view.conn.connecting = true -> view.conn.stream = false
  running : (view.conn.connecting = true ∨
    Exists fun isolated => .isolatedConnect isolated ∈ view.callbacks) -> view.conn.bRunning = true
  notified : linkLog view.log ++ raised view.conn.flags.bConnected view.callbacks = history

namespace Agreeing

variable {ref : ConnRef} {history : List ConnNotice} {view next : ConnView}

theorem of_same (agreeing : view.Agreeing history) (link : next.conn.link = view.conn.link)
    (undisposed : forall conn, .disposeConnection conn ∉ next.todo)
    (rests : next.rests = view.rests) (callbacks : next.callbacks = view.callbacks)
    (log : next.log = view.log) : next.Agreeing history := by
  have back := congrArg Prod.fst link
  have front := congrArg Prod.snd link
  have stream : next.conn.stream = view.conn.stream := congrArg Prod.fst back
  have connecting : next.conn.connecting = view.conn.connecting :=
    congrArg (fun part => part.2.1) back
  have posted : next.conn.bConnectedEventPosted = view.conn.bConnectedEventPosted :=
    congrArg (fun part => part.2.2) back
  have running : next.conn.bRunning = view.conn.bRunning := congrArg Prod.fst front
  have connected : next.conn.flags.bConnected = view.conn.flags.bConnected :=
    congrArg (fun part => part.2.1) front
  have disposed : next.conn.flags.bDisposed = view.conn.flags.bDisposed :=
    congrArg (fun part => part.2.2) front
  refine ⟨disposed.trans agreeing.alive, undisposed, rests.trans agreeing.returned, ?_, ?_, ?_, ?_,
    ?_⟩
  · rw [posted, stream]
    exact agreeing.posted
  · rw [connected, callbacks, stream]
    exact agreeing.settles
  · rw [connecting, stream]
    exact agreeing.connecting
  · rw [connecting, callbacks, running]
    exact agreeing.running
  · rw [log, connected, callbacks]
    exact agreeing.notified

theorem commit (agreeing : view.Agreeing history) {cmd : NetCmd}
    (plain : forall conn, cmd ≠ .disposeConnection conn) : (view.commit cmd).Agreeing history := by
  refine agreeing.of_same rfl ?_ rfl rfl rfl
  intro conn member
  rcases List.mem_append.mp member with before | added
  · exact agreeing.undisposed conn before
  · exact plain conn (List.mem_singleton.mp added).symm

/-- A packet is posted. -/
theorem post (agreeing : view.Agreeing history) {workCb : TrunkCb}
    (same : forall connected, workCb.linkAfter connected = connected)
    (silent : forall connected, workCb.raises connected = [])
    (packet : forall isolated, workCb ≠ .isolatedConnect isolated) :
    (view.post workCb).Agreeing history := by
  refine ⟨agreeing.alive, agreeing.undisposed, agreeing.returned, agreeing.posted, ?_,
    agreeing.connecting, ?_, ?_⟩
  · change settled view.conn.flags.bConnected (view.callbacks ++ [workCb]) = _
    rw [settled_append, same]
    exact agreeing.settles
  · rintro (connecting | ⟨isolated, member⟩)
    · exact agreeing.running (.inl connecting)
    · rcases List.mem_append.mp member with before | added
      · exact agreeing.running (.inr ⟨isolated, before⟩)
      · exact absurd (List.mem_singleton.mp added).symm (packet isolated)
  · change linkLog view.log ++ raised view.conn.flags.bConnected (view.callbacks ++ [workCb]) = _
    rw [raised_append, silent, List.append_nil]
    exact agreeing.notified

/-- A callback about the link has been run. -/
theorem told (agreeing : view.Agreeing history) {workCb : TrunkCb} {callbacks : List TrunkCb}
    (first : view.callbacks = workCb :: callbacks) {result : KjConn × List ConnNotice}
    (conn : result.1.link = { view.conn with
      flags.bConnected := workCb.linkAfter view.conn.flags.bConnected }.link)
    (notices : forall now, linkLog (result.2.map fun notice => ⟨ref, notice, now⟩) =
      workCb.raises view.conn.flags.bConnected) :
    ((view.start callbacks).tell ref result).Agreeing history := by
  have back := congrArg Prod.fst conn
  have front := congrArg Prod.snd conn
  have stream : result.1.stream = view.conn.stream := congrArg Prod.fst back
  have connecting : result.1.connecting = view.conn.connecting :=
    congrArg (fun part => part.2.1) back
  have posted : result.1.bConnectedEventPosted = view.conn.bConnectedEventPosted :=
    congrArg (fun part => part.2.2) back
  have running : result.1.bRunning = view.conn.bRunning := congrArg Prod.fst front
  have connected : result.1.flags.bConnected = workCb.linkAfter view.conn.flags.bConnected :=
    congrArg (fun part => part.2.1) front
  have disposed : result.1.flags.bDisposed = view.conn.flags.bDisposed :=
    congrArg (fun part => part.2.2) front
  have settles := agreeing.settles
  have notified := agreeing.notified
  rw [first] at settles notified
  refine ⟨disposed.trans agreeing.alive, agreeing.undisposed, agreeing.returned, ?_, ?_, ?_, ?_, ?_⟩
  · exact (posted.trans agreeing.posted).trans stream.symm
  · change settled result.1.flags.bConnected callbacks = result.1.stream
    rw [connected, stream]
    exact settles
  · intro starting
    exact stream.trans (agreeing.connecting (connecting.symm.trans starting))
  · rintro (starting | ⟨isolated, member⟩)
    · exact running.trans (agreeing.running (.inl (connecting.symm.trans starting)))
    · refine running.trans (agreeing.running (.inr ⟨isolated, ?_⟩))
      rw [first]
      exact List.mem_cons_of_mem _ member
  · change linkLog (view.log ++ result.2.map _) ++ raised result.1.flags.bConnected callbacks = _
    rw [linkLog_append, notices, connected, List.append_assoc]
    exact notified

end Agreeing
end ConnView

variable {ref : ConnRef} {history : List ConnNotice} {view next : ConnView}

theorem CbStep.agreeing {workCb : TrunkCb} {callbacks : List TrunkCb}
    (first : view.callbacks = workCb :: callbacks) (fits : workCb.fits false = true)
    (agreeing : view.Agreeing history)
    (runs : CbStep ref (view.start callbacks) workCb next) :
    next.Agreeing history ∧ next.conn.stream = view.conn.stream := by
  cases runs with
  | clientLost => cases fits
  | clientGone => cases fits
  | linkReported =>
      have running : (view.start callbacks).conn.bRunning = true := by
        apply agreeing.running
        right
        refine ⟨ref, ?_⟩
        rw [first]
        exact List.mem_cons_self ..
      refine ⟨agreeing.told first ?_ ?_,
        congrArg (fun conn => conn.stream) (KjConn.onConnect_eq (view.start callbacks).conn)⟩
      · rw [KjConn.onConnect_eq, running]
        rfl
      · intro now
        rw [KjConn.onConnect_raises running ref]
        exact linkLog_raises ref _ now _
  | linkLost =>
      refine ⟨agreeing.told first ?_ ?_,
        congrArg (fun conn => conn.stream) (KjConn.onDisconnect_eq (view.start callbacks).conn)⟩
      · rw [KjConn.onDisconnect_eq]
        rfl
      · intro now
        rw [KjConn.onDisconnect_raises ref]
        exact linkLog_raises ref _ now _
  | packet uConnId body =>
      have silent : ((view.start callbacks).tell ref
          ((view.start callbacks).conn, [.packet body])).Agreeing history :=
        agreeing.told first rfl fun _ => rfl
      exact ⟨silent, rfl⟩
  | innerPacket uConnId body =>
      have silent : ((view.start callbacks).tell ref
          ((view.start callbacks).conn, [.innerPacket body])).Agreeing history :=
        agreeing.told first rfl fun _ => rfl
      exact ⟨silent, rfl⟩

theorem CmdStep.agreeing {cmd : NetCmd} {todo : List NetCmd} (regular : view.Regular)
    (agreeing : view.Agreeing history) (fits : cmd.fits false = true)
    (first : view.todo = cmd :: todo)
    (runs : CmdStep ref { view with executing := some cmd, todo := todo } cmd next) :
    next.Agreeing history ∧ next.conn.stream = view.conn.stream := by
  have undisposed : forall conn, .disposeConnection conn ∉ todo := by
    intro conn member
    apply agreeing.undisposed conn
    rw [first]
    exact List.mem_cons_of_mem _ member
  have taken : ConnView.Agreeing history { view with executing := some cmd, todo := todo } :=
    agreeing.of_same rfl undisposed rfl rfl rfl
  cases runs with
  | disposed =>
      refine absurd ?_ (agreeing.undisposed ref)
      rw [first]
      exact List.mem_cons_self ..
  | posted => exact ⟨taken, rfl⟩
  | confirmed => cases fits
  | notReady => cases fits
  | connected _ conn done =>
      rcases KjConn.connect_eq_some done with ⟨⟨_, _, flushed, _⟩, rfl | rfl⟩
      · exact ⟨taken, rfl⟩
      · have down := regular.conn.stream_of_flushed flushed
        refine ⟨⟨agreeing.alive, undisposed, agreeing.returned, agreeing.posted.trans down,
          agreeing.settles.trans down, fun _ => rfl, fun _ => rfl, agreeing.notified⟩, down.symm⟩
  | delayed _ conn done =>
      rcases KjConn.delayReconnect_eq_some done with rfl | ⟨_, _, rfl⟩
      · exact ⟨taken, rfl⟩
      · exact ⟨taken.of_same rfl undisposed rfl rfl rfl, rfl⟩

namespace ConnView

theorem postLinks_stream (view : ConnView) (links : List LinkCb) :
    (view.postLinks ref links).conn.stream = view.conn.stream := by
  rw [postLinks_eq]

namespace Agreeing

/-- The link is established while the front end is not connected. -/
theorem linkUp (agreeing : view.Agreeing history) (connecting : view.conn.connecting = true)
    (disconnected : view.conn.flags.bConnected = false) :
    ({ view with conn := view.conn.linkUp.1 }.postLinks ref view.conn.linkUp.2).Agreeing
      (history ++ [ConnNotice.connected]) := by
  have down := agreeing.connecting connecting
  have up : view.conn.linkUp = ({ view.conn with
      stream := true
      connecting := false
      bConnectedEventPosted := true
      reading := true }, [.connect]) := by
    unfold KjConn.linkUp KjConn.onLowLevelConnect
    rw [if_pos (by rw [disconnected]; rfl)]
  rw [up]
  refine ⟨agreeing.alive, agreeing.undisposed, agreeing.returned, rfl, ?_, ?_, ?_, ?_⟩
  · change settled view.conn.flags.bConnected (view.callbacks ++ [.isolatedConnect ref]) = true
    rw [settled_append]
    rfl
  · intro impossible
    cases impossible
  · intro _
    exact agreeing.running (.inl connecting)
  · change linkLog view.log ++ raised view.conn.flags.bConnected
      (view.callbacks ++ [.isolatedConnect ref]) = _
    rw [raised_append, agreeing.settles, down, ← List.append_assoc, agreeing.notified]
    rfl

/-- The link is lost, or a connect task has failed. -/
theorem linkLost (agreeing : view.Agreeing history) (regular : view.Regular)
    (kind : view.conn.kind = .isolatedConn) {lost : KjConn × List LinkCb} {deferred : Nat}
    (error : view.conn.flushStream.onIsolatedError = some lost) :
    ({ view with deferred := deferred, conn := lost.1 }.postLinks ref lost.2).Agreeing
      (history ++ linkChange view.conn.stream lost.1.stream) := by
  rcases KjConn.isolatedConn_lost regular.conn kind agreeing.posted error with ⟨link, links⟩
  have stream : lost.1.stream = false := congrArg (fun link => link.1.1) link
  have connecting : lost.1.connecting = false := congrArg (fun link => link.1.2.1) link
  have posted : lost.1.bConnectedEventPosted = false := congrArg (fun link => link.1.2.2) link
  have running : lost.1.bRunning = view.conn.bRunning := congrArg (fun link => link.2.1) link
  have connected : lost.1.flags.bConnected = view.conn.flags.bConnected :=
    congrArg (fun link => link.2.2.1) link
  have disposed : lost.1.flags.bDisposed = view.conn.flags.bDisposed :=
    congrArg (fun link => link.2.2.2) link
  have starting : ¬ lost.1.connecting = true := Bool.eq_false_iff.mp connecting
  rw [postLinks_eq]
  rcases links with reported | ⟨silent, down⟩
  · rw [reported]
    refine ⟨disposed.trans agreeing.alive, agreeing.undisposed, agreeing.returned,
      posted.trans stream.symm, ?_, fun impossible => absurd impossible starting, ?_, ?_⟩
    · change settled lost.1.flags.bConnected (view.callbacks ++ [.isolatedDisconnect ref]) = _
      rw [settled_append]
      exact stream.symm
    · rintro (impossible | ⟨isolated, member⟩)
      · exact absurd impossible starting
      · rcases List.mem_append.mp member with before | added
        · exact running.trans (agreeing.running (.inr ⟨isolated, before⟩))
        · cases List.mem_singleton.mp added
    · change linkLog view.log ++ raised lost.1.flags.bConnected
        (view.callbacks ++ [.isolatedDisconnect ref]) = _
      rw [connected, raised_append, agreeing.settles, ← List.append_assoc, agreeing.notified, stream]
      cases view.conn.stream <;> rfl
  · rw [silent, down, stream, linkChange_self, List.append_nil]
    refine ⟨disposed.trans agreeing.alive, agreeing.undisposed, agreeing.returned,
      posted.trans stream.symm, ?_, fun impossible => absurd impossible starting, ?_, ?_⟩
    · change settled lost.1.flags.bConnected (view.callbacks ++ []) = _
      rw [connected, List.append_nil, agreeing.settles, down]
      exact stream.symm
    · rintro (impossible | ⟨isolated, member⟩)
      · exact absurd impossible starting
      · rw [List.map_nil, List.append_nil] at member
        exact running.trans (agreeing.running (.inr ⟨isolated, member⟩))
    · change linkLog view.log ++ raised lost.1.flags.bConnected (view.callbacks ++ []) = _
      rw [connected, List.append_nil]
      exact agreeing.notified

/-- The timer of a delayed reconnect fires. -/
theorem timerFired (agreeing : view.Agreeing history) (regular : view.Regular) {conn : KjConn}
    (fired : view.conn.timerFired = some conn) :
    Agreeing history { view with conn := conn } ∧ conn.stream = view.conn.stream := by
  rcases KjConn.timerFired_eq_some fired with rfl | ⟨_, flushed, rfl⟩ | ⟨_, _, rfl⟩
  · exact ⟨agreeing.of_same rfl agreeing.undisposed rfl rfl rfl, rfl⟩
  · have down := regular.conn.stream_of_flushed flushed
    exact ⟨⟨agreeing.alive, agreeing.undisposed, agreeing.returned, agreeing.posted,
      agreeing.settles, fun _ => down, fun _ => rfl, agreeing.notified⟩, rfl⟩
  · exact ⟨⟨agreeing.alive, agreeing.undisposed, agreeing.returned, agreeing.posted,
      agreeing.settles, agreeing.connecting, fun _ => rfl, agreeing.notified⟩, rfl⟩

end Agreeing

/-- The front end does not call `Disconnect` on the connection, which `Reopen`
of a connected one and `ReleaseAllIsolateds` do as well. -/
def undisturbed (ref : ConnRef) (view : ConnView) : WorldEvent -> Bool
  | .disconnect conn => conn != ref
  | .reopen isolated _ => isolated != ref || !view.conn.flags.bConnected
  | .releaseAllIsolateds _ => !view.isolated
  | _ => true

/-- A link is established only when the front end is not connected. -/
def CaughtUp (ref : ConnRef) (view : ConnView) (event : WorldEvent) : Prop :=
  event = .linkUp ref -> view.conn.flags.bConnected = false

instance (ref : ConnRef) (view : ConnView) (event : WorldEvent) : Decidable (view.CaughtUp ref event) :=
  inferInstanceAs (Decidable (_ -> _))

theorem Agreeing.step {event : WorldEvent} (agreeing : view.Agreeing history)
    (created : view.created = true) (regular : view.Regular)
    (kind : view.conn.kind = .isolatedConn) (undisturbed : view.undisturbed ref event = true)
    (caughtUp : view.CaughtUp ref event) (step : ConnStep ref view event next) :
    next.Agreeing (history ++ linkChange view.conn.stream next.conn.stream) := by
  have isolated : view.conn.kind.isClient = false := by
    rw [kind]
    rfl
  -- A step that leaves the link as it is adds nothing to the history.
  have still : next.Agreeing history -> next.conn.stream = view.conn.stream ->
      next.Agreeing (history ++ linkChange view.conn.stream next.conn.stream) := by
    intro kept same
    rw [same, linkChange_self, List.append_nil]
    exact kept
  cases step with
  | other => exact still agreeing rfl
  | displaced => exact still (agreeing.of_same rfl agreeing.undisposed rfl rfl rfl) rfl
  | accepted _ _ _ absent => exact absurd (absent.symm.trans created) Bool.false_ne_true
  | isolatedCreated _ _ _ absent => exact absurd (absent.symm.trans created) Bool.false_ne_true
  | connectCommitted =>
      exact still (agreeing.commit (by intro conn impossible; cases impossible)) rfl
  | sent => exact still (agreeing.commit (by intro conn impossible; cases impossible)) rfl
  | disconnectIgnored => exact still agreeing rfl
  | stopped _ _ _ _ names _ connected =>
      rcases names with ⟨rfl, _⟩ | ⟨nDelaySeconds, rfl, _⟩
      · simp [ConnView.undisturbed] at undisturbed
      · simp [ConnView.undisturbed, connected] at undisturbed
  | stoppedUnconnected => simp [ConnView.undisturbed] at undisturbed
  | reopenIgnored => exact still agreeing rfl
  | reopened => exact still (agreeing.commit (by intro conn impossible; cases impossible)) rfl
  | returned _ _ _ first =>
      rw [agreeing.returned] at first
      cases first
  | called _ workCb callbacks first _ runs =>
      have fits := regular.callbacks workCb (by rw [first]; exact List.mem_cons_self ..)
      rw [isolated] at fits
      rcases CbStep.agreeing first fits agreeing runs with ⟨kept, same⟩
      exact still kept same
  | clientReleased server _ held =>
      exact absurd ((regular.isolated isolated server).symm.trans held) Bool.false_ne_true
  | isolatedReleased order registered =>
      simp [ConnView.undisturbed, registered] at undisturbed
  | deleted => exact still (agreeing.of_same rfl agreeing.undisposed rfl rfl rfl) rfl
  | executed _ _ cmd todo _ first runs =>
      have fits := regular.cmds cmd (by
        rw [pendingCmds, first]
        exact List.mem_append_right _ (List.mem_cons_self ..))
      rw [isolated] at fits
      rcases CmdStep.agreeing regular agreeing fits first runs with ⟨kept, same⟩
      exact still kept same
  | serverClosed _ server _ _ held =>
      exact absurd ((regular.isolated isolated server).symm.trans held) Bool.false_ne_true
  | closedElsewhere => exact still (agreeing.of_same rfl agreeing.undisposed rfl rfl rfl) rfl
  | finished => exact still (agreeing.of_same rfl agreeing.undisposed rfl rfl rfl) rfl
  | clientFailed _ _ client => exact absurd (isolated.symm.trans client) Bool.false_ne_true
  | isolatedFailed lost _ _ _ error =>
      rw [postLinks_stream]
      exact agreeing.linkLost regular kind error
  | linkUp _ connecting =>
      rw [postLinks_stream, KjConn.linkUp_stream, agreeing.connecting connecting]
      exact agreeing.linkUp connecting (caughtUp rfl)
  | connectFailed _ connecting =>
      refine still ⟨agreeing.alive, agreeing.undisposed, agreeing.returned, agreeing.posted,
        agreeing.settles, ?_, ?_, agreeing.notified⟩ rfl
      · intro impossible
        cases impossible
      · rintro (impossible | posted)
        · cases impossible
        · exact agreeing.running (.inr posted)
  | received _ workCb _ _ packet =>
      rcases packet with ⟨uConnId, rfl⟩ | ⟨uConnId, rfl⟩
      · exact still (agreeing.post (fun _ => rfl) (fun _ => rfl)
          (by intro conn impossible; cases impossible)) rfl
      · exact still (agreeing.post (fun _ => rfl) (fun _ => rfl)
          (by intro conn impossible; cases impossible)) rfl
  | readFailed => exact still (agreeing.of_same rfl agreeing.undisposed rfl rfl rfl) rfl
  | timerFired conn _ _ fired =>
      rcases agreeing.timerFired regular fired with ⟨kept, same⟩
      exact still kept same

/-- An isolated connection that has just been created. -/
theorem Agreeing.created {class_ : KjClass} (untouched : view.Untouched)
    (stream : view.conn.stream = false) (log : view.log = []) (none_ : history = []) :
    Agreeing (history ++ linkChange view.conn.stream false) { view with
      created := true
      isolated := true
      conn := ⟨.initial class_ 0, .initial true⟩ } := by
  refine ⟨rfl, ?_, untouched.rests, rfl, ?_, fun _ => rfl, ?_, ?_⟩
  · rw [untouched.todo]
    intro conn impossible
    cases impossible
  · rw [untouched.callbacks]
    rfl
  · rw [untouched.callbacks]
    rintro (impossible | ⟨isolated, impossible⟩) <;> cases impossible
  · rw [untouched.callbacks, log, none_, stream]
    rfl

/-- What holds of every view along with what its link has done. -/
structure Tracked (history : List ConnNotice) (view : ConnView) : Prop where
  regular : view.Regular
  absent : view.created = false ->
    view.Untouched ∧ view.conn.stream = false ∧ view.log = [] ∧ history = []
  agreeing : view.created = true -> view.conn.kind = .isolatedConn -> view.Agreeing history

theorem initial_tracked : initial.Tracked [] where
  regular := .initial
  absent := fun _ => ⟨initial_untouched, rfl, rfl, rfl⟩
  agreeing := by
    intro impossible
    cases impossible

theorem Tracked.step {event : WorldEvent} (tracked : view.Tracked history)
    (undisturbed : view.undisturbed ref event = true) (caughtUp : view.CaughtUp ref event)
    (step : ConnStep ref view event next) :
    next.Tracked (history ++ linkChange view.conn.stream next.conn.stream) := by
  refine ⟨tracked.regular.step step, ?_, ?_⟩
  · intro still
    rcases absent_of_step (fun absent => (tracked.absent absent).1) step still with
      ⟨absent, kept, conn, sameLog⟩
    rcases tracked.absent absent with ⟨_, stream, log, none_⟩
    rw [conn, sameLog, none_, linkChange_self]
    exact ⟨kept, stream, log, rfl⟩
  · intro exists_ kind
    cases created : view.created with
    | true =>
        rw [kind_of_step created step] at kind
        exact (tracked.agreeing created kind).step created tracked.regular kind undisturbed caughtUp
          step
    | false =>
        rcases tracked.absent created with ⟨_, stream, log, none_⟩
        rcases life_of_step step with ⟨same, _⟩ | ⟨_, untouched, born⟩ | ⟨_, _, _, _, _, rfl⟩
        · exact absurd (created.symm.trans (same.symm.trans exists_)) Bool.false_ne_true
        · cases born with
          | client class_ server streamptr client =>
              have same : class_ = .isolatedConn :=
                (KjConn.onConnect_sameObject _).kind.symm.trans kind
              rw [same] at client
              cases client
          | isolated class_ => exact .created untouched stream log none_
        · exact absurd (created.symm.trans exists_) Bool.false_ne_true

end ConnView

namespace KjWorld

/-- What the link of the connection does in the course of the events. -/
def linkHistory (ref : ConnRef) : KjWorld -> List WorldEvent -> List ConnNotice
  | _, [] => []
  | world, event :: events =>
      match world.perform event with
      | none => []
      | some next =>
          linkChange (world.conn ref).stream (next.conn ref).stream ++ linkHistory ref next events

theorem tracked_of_run {first last : KjWorld} {events : List WorldEvent}
    (run : Run (fun state event next => state.Step event next ∧
      (state.view ref).undisturbed ref event = true ∧ (state.view ref).CaughtUp ref event)
      first events last) {history : List ConnNotice} (valid : first.Valid)
    (tracked : (first.view ref).Tracked history) :
    (last.view ref).Tracked (history ++ linkHistory ref first events) := by
  induction run generalizing history with
  | nil =>
      rw [linkHistory, List.append_nil]
      exact tracked
  | cons once _ inductionHypothesis =>
      rcases once with ⟨step, undisturbed, caughtUp⟩
      have later := inductionHypothesis (valid.step step)
        (tracked.step undisturbed caughtUp (view_step ref valid step))
      rw [List.append_assoc] at later
      rw [linkHistory, show perform _ _ = _ from step]
      exact later

variable {world : KjWorld}

/-- As long as the front end has not called `Disconnect` on a
`CKjIsolatedConn`, and no link is established while `IsConnected()` still holds
from an earlier one: whenever no callback about the connection is queued,
`IsConnected()` says whether the link is established, and the front end has been
notified of everything the link has done, in order. -/
theorem isolated_state_agrees {gate : Bool} {events : List WorldEvent} {ref : ConnRef}
    (run : Run (fun state event next => state.Step event next ∧
      (state.view ref).undisturbed ref event = true ∧ (state.view ref).CaughtUp ref event)
      (initial gate) events world)
    (created : ref < world.manager.created) (kind : (world.conn ref).kind = .isolatedConn)
    (noCallbacks : forall workCb, workCb ∈ world.trunkQueue -> workCb.conn ≠ some ref) :
    (world.conn ref).flags.bConnected = (world.conn ref).stream ∧
      linkLog (world.log.filter fun notice => notice.conn == ref) =
        linkHistory ref (initial gate) events := by
  have agreeing := (tracked_of_run run (initial_valid gate) ConnView.initial_tracked).agreeing
    (decide_eq_true created) kind
  have empty : (world.view ref).callbacks = [] := by
    apply List.filter_eq_nil_iff.mpr
    intro workCb member mine
    exact noCallbacks workCb member (beq_iff_eq.mp mine)
  have settles := agreeing.settles
  have notified := agreeing.notified
  rw [empty] at settles notified
  refine ⟨settles, ?_⟩
  rw [raised, List.append_nil, List.nil_append] at notified
  exact notified

/-- An isolated connection is created and connected, and loses its link.  The
front end runs both callbacks before the link is established again. -/
def linkRestored : List WorldEvent :=
  [.createTcpIsolated, .isolatedConnConnect 0 ['1', '.', '2'], .execute [], .resultCallback,
    .linkUp 0, .readFailed 0, .evalLater 0, .runCallback, .runCallback, .timerFired 0, .linkUp 0,
    .runCallback]

/-- The same, but the front end has run only the connect callback by then. -/
def linkUnnoticed : List WorldEvent :=
  [.createTcpIsolated, .isolatedConnConnect 0 ['1', '.', '2'], .execute [], .resultCallback,
    .linkUp 0, .runCallback, .readFailed 0, .evalLater 0, .timerFired 0, .linkUp 0, .runCallback]

theorem isolated_state_agrees_restored :
    ((after false linkRestored).conn 0).flags.bConnected =
        ((after false linkRestored).conn 0).stream ∧
      linkLog ((after false linkRestored).log.filter fun notice => notice.conn == 0) =
        linkHistory 0 (initial false) linkRestored :=
  isolated_state_agrees
    (run_after_of_allowed (fun state event => (state.view 0).undisturbed 0 event = true ∧
      (state.view 0).CaughtUp 0 event) (by decide)) (by decide) (by decide) (by decide)

/-- A link that is established again before the front end has noticed the loss
of the first is never reported: it is up, nothing is queued, and the front end
is not connected. -/
theorem second_link_unnoticed :
    Exists fun world => Run (fun state event next => state.Step event next ∧
        (state.view 0).undisturbed 0 event = true) (initial false) linkUnnoticed world ∧
      (world.conn 0).kind = .isolatedConn ∧ (world.conn 0).bRunning = true ∧
      (forall workCb, workCb ∈ world.trunkQueue -> workCb.conn ≠ some 0) ∧
      (world.conn 0).stream = true ∧ (world.conn 0).flags.bConnected = false :=
  ⟨after false linkUnnoticed,
    run_after_of_allowed (fun state event => (state.view 0).undisturbed 0 event = true)
      (by decide), by decide, by decide, by decide, by decide, by decide⟩

end KjWorld
end NetSystem
