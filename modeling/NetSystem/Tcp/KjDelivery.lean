import Mathlib.Data.List.Induction
import NetSystem.Foundation.History
import NetSystem.Tcp.KjLinkState

namespace NetSystem

/-!
# When packets are delivered

Packets wait in the trunk queue behind the callbacks about the link, so a packet
is delivered on a connected connection if the link was reported before the packet
was received and the front end does not stop the connection in between.
`Disconnect` does not look at the queue: packets that are queued, or received
before the connection is disposed of, are delivered after the disconnect event.
A link that is established while `IsConnected()` still holds from the previous
one is not reported, and its packets come after the disconnect event of that one.
-/

def TrunkCb.isPacket : TrunkCb -> Bool
  | .packet _ _ _ => true
  | .innerPacket _ _ _ => true
  | _ => false

def ConnNotice.isPacket : ConnNotice -> Bool
  | .packet _ => true
  | .innerPacket _ => true
  | _ => false

/-- What the last event about the link in a log said. -/
def reported (log : List Notice) : Bool :=
  log.foldl (fun connected notice =>
    match notice.notice with
    | .connected => true
    | .disconnected => false
    | _ => connected) false

theorem reported_append (log : List Notice) (notice : Notice) :
    reported (log ++ [notice]) =
      match notice.notice with
      | .connected => true
      | .disconnected => false
      | _ => reported log := by
  rw [reported, List.foldl_append]
  rfl

/-- The last event about the link was a connect event. -/
theorem connected_of_reported {log : List Notice} (connected : reported log = true) :
    Exists fun first => Exists fun notice => Exists fun second =>
      log = first ++ notice :: second ∧ notice.notice = .connected ∧
        forall other, other ∈ second -> other.notice ≠ .disconnected := by
  induction log using List.reverseRecOn with
  | nil => cases connected
  | append_singleton log last inductionHypothesis =>
      -- A packet leaves what was reported before it.
      have earlier : reported log = true -> last.notice ≠ .disconnected -> Exists fun first =>
          Exists fun notice => Exists fun second => log ++ [last] = first ++ notice :: second ∧
            notice.notice = .connected ∧
              forall other, other ∈ second -> other.notice ≠ .disconnected := by
        intro before packet
        rcases inductionHypothesis before with ⟨first, notice, second, rfl, opened, still⟩
        refine ⟨first, notice, second ++ [last], by simp, opened, ?_⟩
        intro other member
        rcases List.mem_append.mp member with inside | added
        · exact still other inside
        · rw [List.mem_singleton.mp added]
          exact packet
      rw [reported_append] at connected
      cases said : last.notice with
      | connected =>
          refine ⟨log, last, [], rfl, said, ?_⟩
          intro other impossible
          cases impossible
      | disconnected =>
          rw [said] at connected
          cases connected
      | packet =>
          rw [said] at connected
          exact earlier connected (by rw [said]; intro impossible; cases impossible)
      | innerPacket =>
          rw [said] at connected
          exact earlier connected (by rw [said]; intro impossible; cases impossible)

/-- Every packet in the log was delivered between a connect event and the next
disconnect event, while `IsConnected()` was true. -/
def Delivered (log : List Notice) : Prop :=
  EachAfter (fun before notice => notice.notice.isPacket = true ->
    notice.isConnected = true ∧ reported before = true) log

namespace ConnView

/-- The log says what `IsConnected()` is, and its packets were delivered while
the connection was connected. -/
structure Logged (view : ConnView) : Prop where
  follows : reported view.log = view.conn.flags.bConnected
  delivered : Delivered view.log

namespace Logged

variable {ref : ConnRef} {view next : ConnView}

theorem of_same (logged : view.Logged)
    (connected : next.conn.flags.bConnected = view.conn.flags.bConnected)
    (log : next.log = view.log) : next.Logged := by
  refine ⟨?_, ?_⟩
  · rw [log, connected]
    exact logged.follows
  · rw [log]
    exact logged.delivered

theorem onConnect (logged : view.Logged) : (view.tell ref view.conn.onConnect).Logged := by
  unfold KjConn.onConnect
  split
  · refine ⟨reported_append .., EachAfter.append logged.delivered ?_⟩
    intro impossible
    cases impossible
  · exact logged.of_same rfl (List.append_nil _)

theorem onDisconnect (logged : view.Logged) : (view.tell ref view.conn.onDisconnect).Logged := by
  unfold KjConn.onDisconnect
  split
  · refine ⟨reported_append .., EachAfter.append logged.delivered ?_⟩
    intro impossible
    cases impossible
  · exact logged.of_same rfl (List.append_nil _)

theorem stopRunning (logged : view.Logged) : (view.tell ref view.conn.stopRunning).Logged := by
  have idle : Logged { view with conn.bRunning := false } := logged.of_same rfl rfl
  exact idle.onDisconnect

/-- A packet is delivered. -/
theorem packet (logged : view.Logged) (connected : view.conn.flags.bConnected = true)
    {notice : ConnNotice} (isPacket : notice.isPacket = true) :
    (view.notify ref [notice]).Logged := by
  refine ⟨?_, EachAfter.append logged.delivered fun _ => ⟨connected, logged.follows.trans connected⟩⟩
  change reported (view.log ++ [⟨ref, notice, view.conn.flags.bConnected⟩]) = _
  rw [reported_append]
  cases notice with
  | connected => cases isPacket
  | disconnected => cases isPacket
  | packet => exact logged.follows
  | innerPacket => exact logged.follows

theorem release (logged : view.Logged) : (view.releaseIsolated ref).Logged := by
  unfold releaseIsolated
  dsimp only
  split
  · exact logged.stopRunning.of_same rfl rfl
  · exact logged.of_same rfl rfl

end Logged
end ConnView

variable {ref : ConnRef} {view next : ConnView}

theorem RestStep.logged {rest : FrontRest} (runs : RestStep ref view rest next)
    (logged : view.Logged) : next.Logged := by
  cases runs <;> exact logged.of_same rfl rfl

theorem CmdStep.logged {cmd : NetCmd} (runs : CmdStep ref view cmd next) (logged : view.Logged) :
    next.Logged := by
  cases runs with
  | disposed => exact logged.of_same (KjConn.disposeConnection_connected _) rfl
  | posted => exact logged
  | confirmed => exact logged.of_same rfl rfl
  | notReady => exact logged
  | connected _ conn done =>
      rcases KjConn.connect_eq_some done with ⟨_, rfl | rfl⟩
      · exact logged
      · exact logged.of_same rfl rfl
  | delayed _ conn done =>
      rcases KjConn.delayReconnect_eq_some done with rfl | ⟨_, _, rfl⟩
      · exact logged
      · exact logged.of_same rfl rfl

theorem CbStep.logged {workCb : TrunkCb} (runs : CbStep ref view workCb next)
    (logged : view.Logged)
    (connected : workCb.isPacket = true -> view.conn.flags.bConnected = true) : next.Logged := by
  cases runs with
  | clientLost => exact logged.onDisconnect.of_same rfl rfl
  | clientGone _ _ _ removes => exact removes.logged logged
  | linkReported => exact logged.onConnect
  | linkLost => exact logged.onDisconnect
  | packet => exact logged.packet (connected rfl) rfl
  | innerPacket => exact logged.packet (connected rfl) rfl

/-- A step keeps the log if it delivers a packet on a connected connection
only. -/
theorem ConnView.Logged.step {event : WorldEvent} (logged : view.Logged)
    (absent : view.created = false -> view.log = [])
    (connected : forall workCb callbacks, view.callbacks = workCb :: callbacks ->
      workCb.isPacket = true -> view.conn.flags.bConnected = true)
    (step : ConnStep ref view event next) : next.Logged := by
  cases step with
  | accepted kind server streamptr missing =>
      have created : Logged { view with
          created := true
          held := fun place => decide (place = server)
          conn := ⟨.initial kind server, .initial false⟩ } := by
        refine ⟨?_, logged.delivered⟩
        change reported view.log = false
        rw [absent missing]
        rfl
      exact Logged.onConnect (created.of_same rfl rfl)
  | isolatedCreated _ kind _ missing =>
      refine ⟨?_, logged.delivered⟩
      change reported view.log = false
      rw [absent missing]
      rfl
  | stopped => exact logged.stopRunning.of_same rfl rfl
  | stoppedUnconnected _ _ _ _ disconnected releases =>
      refine releases.logged (logged.of_same ?_ rfl)
      rw [KjWorld.stopRunning_disconnected disconnected]
  | returned _ _ _ _ runs => exact runs.logged (logged.of_same rfl rfl)
  | called _ workCb callbacks first _ runs =>
      exact runs.logged (logged.of_same rfl rfl) (connected workCb callbacks first)
  | isolatedReleased => exact logged.release.of_same rfl rfl
  | executed _ _ _ _ _ _ runs => exact runs.logged (logged.of_same rfl rfl)
  | serverClosed => exact logged.of_same (KjConn.disposeConnection_connected _) rfl
  | clientFailed =>
      refine logged.of_same ?_ rfl
      exact (KjConn.disposeConnection_connected _).trans (KjConn.flushStream_connected _)
  | isolatedFailed lost _ _ _ error =>
      rw [postLinks_eq]
      have front := (KjConn.onIsolatedError_front error).trans KjConn.flushStream_front
      exact logged.of_same (congrArg (fun part => part.2.1) front) rfl
  | linkUp =>
      rw [postLinks_eq]
      exact logged.of_same (congrArg (fun part => part.2.1) KjConn.linkUp_front) rfl
  | timerFired conn _ _ fired =>
      rcases KjConn.timerFired_eq_some fired with rfl | ⟨_, _, rfl⟩ | ⟨_, _, rfl⟩
      · exact logged.of_same rfl rfl
      · exact logged.of_same rfl rfl
      · exact logged.of_same rfl rfl
  | _ => exact logged.of_same rfl rfl

/-! ## The packets in the queue -/

/-- Every packet among the callbacks will be delivered while `IsConnected()` is
true. -/
def expected (connected : Bool) : List TrunkCb -> Bool
  | [] => true
  | workCb :: callbacks =>
      (!workCb.isPacket || connected) && expected (workCb.linkAfter connected) callbacks

theorem expected_append (connected : Bool) (callbacks more : List TrunkCb) :
    expected connected (callbacks ++ more) =
      (expected connected callbacks && expected (settled connected callbacks) more) := by
  induction callbacks generalizing connected with
  | nil => rfl
  | cons workCb callbacks inductionHypothesis =>
      rw [List.cons_append, expected, inductionHypothesis, expected, Bool.and_assoc]
      rfl

/-- There are no packets among the callbacks. -/
def noPackets (callbacks : List TrunkCb) : Bool := callbacks.all fun workCb => !workCb.isPacket

theorem expected_of_noPackets {callbacks : List TrunkCb} (none_ : noPackets callbacks = true)
    (connected : Bool) : expected connected callbacks = true := by
  induction callbacks generalizing connected with
  | nil => rfl
  | cons workCb callbacks inductionHypothesis =>
      rw [noPackets, List.all_cons, Bool.and_eq_true] at none_
      rw [expected, none_.1, inductionHypothesis none_.2]
      rfl

theorem noPackets_links (ref : ConnRef) (links : List LinkCb) :
    noPackets (links.map (TrunkCb.link ref)) = true := by
  apply List.all_eq_true.mpr
  intro workCb member
  rcases List.mem_map.mp member with ⟨link, _, rfl⟩
  cases link <;> rfl

/-- Packets of the connection may be received: its read loop runs, or it is a
client whose read loop may still be started. -/
def KjConn.receives (conn : KjConn) : Bool :=
  conn.reading || (conn.kind.isClient && !conn.flags.bDisposed)

namespace ConnView

/-- No packet of a stopped connection is queued, and the packets of a running
one, those that are queued and those to come, find it connected. -/
structure Expecting (view : ConnView) : Prop where
  quiet : view.conn.bRunning = false -> noPackets view.callbacks = true
  expects : view.conn.bRunning = true ->
    expected view.conn.flags.bConnected view.callbacks = true
  settles : view.conn.bRunning = true -> view.conn.receives = true ->
    settled view.conn.flags.bConnected view.callbacks = true

namespace Expecting

variable {view next : ConnView}

/-- Callbacks about the link are posted. -/
theorem links (expecting : view.Expecting) {more : List TrunkCb}
    (running : next.conn.bRunning = view.conn.bRunning)
    (connected : next.conn.flags.bConnected = view.conn.flags.bConnected)
    (callbacks : next.callbacks = view.callbacks ++ more) (plain : noPackets more = true)
    (settles : next.conn.bRunning = true -> next.conn.receives = true ->
      settled view.conn.flags.bConnected (view.callbacks ++ more) = true) : next.Expecting := by
  refine ⟨?_, ?_, ?_⟩
  · intro stopped
    rw [callbacks, noPackets, List.all_append, Bool.and_eq_true]
    exact ⟨expecting.quiet (running.symm.trans stopped), plain⟩
  · intro runs
    rw [callbacks, connected, expected_append, expected_of_noPackets plain, Bool.and_true]
    exact expecting.expects (running.symm.trans runs)
  · intro runs receives
    rw [callbacks, connected]
    exact settles runs receives

theorem of_same (expecting : view.Expecting)
    (running : next.conn.bRunning = view.conn.bRunning)
    (connected : next.conn.flags.bConnected = view.conn.flags.bConnected)
    (receives : next.conn.receives = true -> view.conn.receives = true)
    (callbacks : next.callbacks = view.callbacks) : next.Expecting := by
  refine expecting.links running connected (callbacks.trans (List.append_nil _).symm) rfl ?_
  intro runs still
  rw [List.append_nil]
  exact expecting.settles (running.symm.trans runs) (receives still)

/-- The connection runs from now on. -/
theorem run (expecting : view.Expecting) (running : next.conn.bRunning = true)
    (connected : next.conn.flags.bConnected = view.conn.flags.bConnected)
    (callbacks : next.callbacks = view.callbacks)
    (settles : next.conn.receives = true ->
      settled view.conn.flags.bConnected view.callbacks = true) : next.Expecting := by
  refine ⟨fun stopped => absurd (stopped.symm.trans running) Bool.false_ne_true, ?_, ?_⟩
  · intro _
    rw [callbacks, connected]
    cases before : view.conn.bRunning with
    | true => exact expecting.expects before
    | false => exact expected_of_noPackets (expecting.quiet before) _
  · intro _ receives
    rw [callbacks, connected]
    exact settles receives

/-- The connection is stopped while none of its packets is queued. -/
theorem stop (stopped : view.conn.bRunning = false) (quiet : noPackets view.callbacks = true) :
    view.Expecting where
  quiet := fun _ => quiet
  expects := fun running => absurd (stopped.symm.trans running) Bool.false_ne_true
  settles := fun running => absurd (stopped.symm.trans running) Bool.false_ne_true

/-- The first callback has been run. -/
theorem told (expecting : view.Expecting) {workCb : TrunkCb} {callbacks : List TrunkCb}
    (first : view.callbacks = workCb :: callbacks) (rest : next.callbacks = callbacks)
    {connected : Bool}
    (conn : next.conn = { (view.start callbacks).conn with flags.bConnected := connected })
    (link : view.conn.bRunning = true ->
      connected = workCb.linkAfter view.conn.flags.bConnected) : next.Expecting := by
  have running : next.conn.bRunning = view.conn.bRunning := by rw [conn]; rfl
  have receives : next.conn.receives = view.conn.receives := by rw [conn]; rfl
  have now : next.conn.flags.bConnected = connected := by rw [conn]
  refine ⟨?_, ?_, ?_⟩
  · intro stopped
    have quiet := expecting.quiet (running.symm.trans stopped)
    rw [first, noPackets, List.all_cons, Bool.and_eq_true] at quiet
    rw [rest]
    exact quiet.2
  · intro runs
    have before := running.symm.trans runs
    have expects := expecting.expects before
    rw [first, expected, Bool.and_eq_true] at expects
    rw [rest, now, link before]
    exact expects.2
  · intro runs still
    have before := running.symm.trans runs
    have settles := expecting.settles before (receives.symm.trans still)
    rw [first] at settles
    rw [rest, now, link before]
    exact settles

/-- A packet that is delivered finds the connection connected. -/
theorem connected (expecting : view.Expecting) {workCb : TrunkCb} {callbacks : List TrunkCb}
    (first : view.callbacks = workCb :: callbacks) (packet : workCb.isPacket = true) :
    view.conn.flags.bConnected = true := by
  cases running : view.conn.bRunning with
  | true =>
      have expects := expecting.expects running
      rw [first, expected, packet, Bool.and_eq_true] at expects
      exact expects.1
  | false =>
      have quiet := expecting.quiet running
      rw [first, noPackets, List.all_cons, packet] at quiet
      cases quiet

end Expecting
end ConnView

theorem KjConn.Regular.receives_of_disposed {conn : KjConn} (regular : conn.Regular)
    (disposed : conn.flags.bDisposed = true) : conn.receives = false := by
  rw [KjConn.receives, (regular.disposed disposed).2.1, disposed, Bool.not_true, Bool.and_false]
  rfl

/-- An isolated connection whose link is lost does not read. -/
theorem KjConn.Regular.receives_of_error {conn : KjConn} {lost : KjConn × List LinkCb}
    (regular : conn.Regular) (isolated : conn.kind.isClient = false)
    (error : conn.flushStream.onIsolatedError = some lost) : lost.1.receives = false := by
  rcases KjConn.onIsolatedError_changes error with ⟨posted, delaying, timer, result⟩
  rw [result]
  change (conn.flushStream.reading || (conn.flushStream.kind.isClient && _)) = false
  rw [regular.flushStream_down.2.1, (KjConn.flushStream_sameObject _).kind, isolated]
  rfl

theorem RestStep.expecting {rest : FrontRest} (runs : RestStep ref view rest next)
    (expecting : view.Expecting) : next.Expecting := by
  cases runs <;> exact expecting.of_same rfl rfl id rfl

theorem CmdStep.expecting {cmd : NetCmd} (runs : CmdStep ref view cmd next)
    (regular : view.conn.Regular) (fits : cmd.fits view.conn.kind.isClient = true)
    (expecting : view.Expecting) : next.Expecting := by
  cases runs with
  | disposed =>
      have gone := regular.disposeConnection.receives_of_disposed
        (KjConn.disposeConnection_disposed _)
      exact expecting.of_same (KjConn.disposeConnection_running _)
        (KjConn.disposeConnection_connected _)
        (fun still => absurd (gone.symm.trans still) Bool.false_ne_true) rfl
  | posted => exact expecting
  | confirmed _ ready =>
      -- The read loop of a client that has not been disposed of may always be started.
      refine expecting.of_same rfl rfl (fun _ => ?_) rfl
      have client : view.conn.kind.isClient = true := fits
      rw [KjConn.receives, client, ready.1]
      exact Bool.or_true _
  | notReady => exact expecting
  | connected _ conn done =>
      have isolated : view.conn.kind.isClient = false := by
        rw [NetCmd.fits] at fits
        exact Bool.not_eq_true' _ |>.mp fits
      rcases KjConn.connect_eq_some done with ⟨_, rfl | rfl⟩
      · exact expecting
      · refine expecting.run rfl rfl rfl ?_
        intro receives
        rw [KjConn.receives, isolated] at receives
        cases receives
  | delayed _ conn done =>
      rcases KjConn.delayReconnect_eq_some done with rfl | ⟨_, _, rfl⟩
      · exact expecting
      · exact expecting.of_same rfl rfl id rfl

theorem CbStep.expecting {workCb : TrunkCb} {callbacks : List TrunkCb}
    (runs : CbStep ref (view.start callbacks) workCb next)
    (first : view.callbacks = workCb :: callbacks) (expecting : view.Expecting) :
    next.Expecting := by
  cases runs with
  | clientLost => exact expecting.told first rfl (KjConn.onDisconnect_eq _) fun _ => rfl
  | clientGone _ _ disconnected removes =>
      exact removes.expecting (expecting.told first rfl rfl fun _ => disconnected)
  | linkReported =>
      refine expecting.told first rfl (KjConn.onConnect_eq _) ?_
      intro running
      change (view.conn.bRunning || view.conn.flags.bConnected) = true
      rw [running]
      rfl
  | linkLost => exact expecting.told first rfl (KjConn.onDisconnect_eq _) fun _ => rfl
  | packet => exact expecting.told first rfl rfl fun _ => rfl
  | innerPacket => exact expecting.told first rfl rfl fun _ => rfl

/-- `Disconnect` has an effect. -/
def KjConn.stops (conn : KjConn) : Bool := !conn.flags.bDisposed && conn.bRunning

namespace ConnView

/-- `Disconnect`, which `Reopen` and `ReleaseAllIsolateds` call as well, stops
the connection only when none of its packets is queued, and no packet is
received after that.  A link is established, and a connection whose read loop
runs is made to run again, only if `IsConnected()` is going to be true. -/
def orderly (ref : ConnRef) (view : ConnView) : WorldEvent -> Bool
  | .disconnect conn => conn != ref || !view.conn.stops || noPackets view.callbacks
  | .reopen isolated _ =>
      isolated != ref || !view.conn.stops || !view.conn.flags.bConnected ||
        noPackets view.callbacks
  | .releaseAllIsolateds _ => !view.isolated || !view.conn.stops || noPackets view.callbacks
  | .received conn _ => conn != ref || view.conn.bRunning
  | .timerFired isolated =>
      isolated != ref || view.conn.bRunning || !view.conn.reading ||
        settled view.conn.flags.bConnected view.callbacks
  | .linkUp isolated =>
      isolated != ref || !view.conn.flags.bConnected ||
        settled view.conn.flags.bConnected view.callbacks
  | _ => true

namespace Expecting

/-- The link is established: its packets come after the callback about it. -/
theorem linkUp (expecting : view.Expecting)
    (orderly : view.conn.flags.bConnected = false ∨
      settled view.conn.flags.bConnected view.callbacks = true) :
    ({ view with conn := view.conn.linkUp.1 }.postLinks ref view.conn.linkUp.2).Expecting := by
  have front : view.conn.linkUp.1.link.2 = view.conn.link.2 := KjConn.linkUp_front
  rw [postLinks_eq]
  refine expecting.links (congrArg Prod.fst front) (congrArg (fun part => part.2.1) front) rfl
    (noPackets_links ref _) ?_
  intro _ _
  unfold KjConn.linkUp KjConn.onLowLevelConnect
  split
  · exact settled_append ..
  · rename_i connected
    rw [List.map_nil, List.append_nil]
    rcases orderly with disconnected | settles
    · exact absurd (by rw [Bool.not_eq_true']; exact disconnected) connected
    · exact settles

/-- A packet is received on a running connection. -/
theorem received (expecting : view.Expecting) (running : view.conn.bRunning = true)
    (reading : view.conn.reading = true) {workCb : TrunkCb} (packet : workCb.isPacket = true) :
    (view.post workCb).Expecting := by
  have receives : view.conn.receives = true := by
    rw [KjConn.receives, reading]
    rfl
  have settles := expecting.settles running receives
  have same : forall connected, workCb.linkAfter connected = connected := by
    intro connected
    cases workCb <;> first | rfl | cases packet
  refine ⟨fun stopped => absurd (stopped.symm.trans running) Bool.false_ne_true, ?_, ?_⟩
  · intro _
    change expected view.conn.flags.bConnected (view.callbacks ++ [workCb]) = true
    rw [expected_append, expecting.expects running, settles, expected, packet]
    rfl
  · intro _ _
    change settled view.conn.flags.bConnected (view.callbacks ++ [workCb]) = true
    rw [settled_append, same]
    exact settles

/-- `ReleaseAllIsolateds` stops a running connection. -/
theorem release (expecting : view.Expecting)
    (orderly : view.conn.stops = false ∨ noPackets view.callbacks = true) :
    (view.releaseIsolated ref).Expecting := by
  unfold releaseIsolated
  dsimp only
  split
  · rename_i stops
    rcases orderly with idle | quiet
    · exact absurd (idle.symm.trans stops) Bool.false_ne_true
    · exact .stop (congrArg (fun conn => conn.bRunning) (KjConn.stopRunning_eq view.conn)) quiet
  · exact expecting.of_same rfl rfl id rfl

/-- A new client is connected and nothing is queued. -/
theorem accepted {kind : KjClass} (untouched : view.Untouched) (client : kind.isClient = true)
    (server streamptr : Nat) : (view.accepted ref kind server streamptr).Expecting := by
  have empty : (view.accepted ref kind server streamptr).callbacks = [] := untouched.callbacks
  have connected : (view.accepted ref kind server streamptr).conn.flags.bConnected = true := by
    refine (congrArg (fun conn => conn.flags.bConnected) (KjConn.onConnect_eq _)).trans ?_
    change (kind.isClient || false) = true
    rw [client]
    rfl
  refine ⟨fun _ => ?_, fun _ => ?_, fun _ _ => ?_⟩
  · rw [empty]
    rfl
  · rw [empty]
    rfl
  · rw [empty]
    exact connected

/-- The timer starts the connection again.  A connection that reads then is one
that will be connected. -/
theorem timerFired {conn : KjConn} (expecting : view.Expecting)
    (isolated : view.conn.kind.isClient = false)
    (orderly : view.orderly ref (.timerFired ref) = true)
    (fired : view.conn.timerFired = some conn) : Expecting { view with conn := conn } := by
  have settles : view.conn.receives = true ->
      settled view.conn.flags.bConnected view.callbacks = true := by
    intro receives
    have reading : view.conn.reading = true := by
      rw [KjConn.receives, isolated] at receives
      simpa using receives
    cases running : view.conn.bRunning with
    | true => exact expecting.settles running receives
    | false => simpa [ConnView.orderly, running, reading] using orderly
  rcases KjConn.timerFired_eq_some fired with rfl | ⟨_, _, rfl⟩ | ⟨_, _, rfl⟩
  · exact expecting.of_same rfl rfl id rfl
  · exact expecting.run rfl rfl rfl settles
  · exact expecting.run rfl rfl rfl settles

theorem step {event : WorldEvent} (expecting : view.Expecting) (regular : view.Regular)
    (orderly : view.orderly ref event = true) (step : ConnStep ref view event next) :
    next.Expecting := by
  cases step with
  | other => exact expecting
  | displaced => exact expecting.of_same rfl rfl id rfl
  | accepted kind server streamptr _ untouched client =>
      exact .accepted untouched client server streamptr
  | isolatedCreated _ kind _ _ untouched isolated =>
      refine .stop isolated ?_
      change noPackets view.callbacks = true
      rw [untouched.callbacks]
      rfl
  | connectCommitted => exact expecting.of_same rfl rfl id rfl
  | sent => exact expecting.of_same rfl rfl id rfl
  | disconnectIgnored => exact expecting
  | stopped _ _ _ _ names running connected =>
      have stops : view.conn.stops = true := by
        rw [KjConn.stops, running.1, running.2]
        rfl
      have quiet : noPackets view.callbacks = true := by
        rcases names with ⟨rfl, _⟩ | ⟨nDelaySeconds, rfl, _⟩
        · simpa [ConnView.orderly, stops] using orderly
        · simpa [ConnView.orderly, stops, connected] using orderly
      exact .stop (congrArg (fun conn => conn.bRunning) (KjConn.stopRunning_eq view.conn)) quiet
  | stoppedUnconnected _ _ _ running _ releases =>
      have stops : view.conn.stops = true := by
        rw [KjConn.stops, running.1, running.2]
        rfl
      have quiet : noPackets view.callbacks = true := by
        simpa [ConnView.orderly, stops] using orderly
      exact releases.expecting
        (.stop (congrArg (fun conn => conn.bRunning) (KjConn.stopRunning_eq view.conn)) quiet)
  | reopenIgnored => exact expecting
  | reopened => exact expecting.of_same rfl rfl id rfl
  | returned _ _ _ _ runs => exact runs.expecting (expecting.of_same rfl rfl id rfl)
  | called _ workCb callbacks first _ runs => exact runs.expecting first expecting
  | clientReleased => exact expecting.of_same rfl rfl id rfl
  | isolatedReleased _ isolated =>
      have quiet : view.conn.stops = false ∨ noPackets view.callbacks = true := by
        simpa [ConnView.orderly, isolated] using orderly
      exact (expecting.release quiet).of_same rfl rfl id rfl
  | deleted => exact expecting.of_same rfl rfl id rfl
  | executed _ _ cmd todo _ first runs =>
      have fits := regular.cmds cmd (by
        rw [pendingCmds, first]
        exact List.mem_append_right _ (List.mem_cons_self ..))
      exact runs.expecting regular.conn fits (expecting.of_same rfl rfl id rfl)
  | serverClosed =>
      have gone := regular.conn.disposeConnection.receives_of_disposed
        (KjConn.disposeConnection_disposed _)
      exact expecting.links (KjConn.disposeConnection_running _)
        (KjConn.disposeConnection_connected _) rfl rfl
        (fun _ still => absurd (gone.symm.trans still) Bool.false_ne_true)
  | closedElsewhere => exact expecting.of_same rfl rfl id rfl
  | finished => exact expecting.of_same rfl rfl id rfl
  | clientFailed =>
      have gone := regular.conn.flushStream.disposeConnection.receives_of_disposed
        (KjConn.disposeConnection_disposed _)
      exact expecting.links
        ((KjConn.disposeConnection_running _).trans (KjConn.flushStream_running _))
        ((KjConn.disposeConnection_connected _).trans (KjConn.flushStream_connected _)) rfl rfl
        (fun _ still => absurd (gone.symm.trans still) Bool.false_ne_true)
  | isolatedFailed lost _ _ isolated error =>
      have gone := regular.conn.receives_of_error isolated error
      have front := (KjConn.onIsolatedError_front error).trans KjConn.flushStream_front
      rw [postLinks_eq]
      exact expecting.links (congrArg Prod.fst front) (congrArg (fun part => part.2.1) front) rfl
        (noPackets_links ref _)
        (fun _ still => absurd (gone.symm.trans still) Bool.false_ne_true)
  | linkUp =>
      apply expecting.linkUp
      simpa [ConnView.orderly] using orderly
  | connectFailed => exact expecting.of_same rfl rfl id rfl
  | received _ workCb _ reading packet =>
      have running : view.conn.bRunning = true := by simpa [ConnView.orderly] using orderly
      apply expecting.received running reading
      rcases packet with ⟨uConnId, rfl⟩ | ⟨uConnId, rfl⟩ <;> rfl
  | readFailed =>
      refine expecting.of_same rfl rfl ?_ rfl
      intro still
      exact Bool.or_eq_true _ _ |>.mpr (.inr still)
  | timerFired conn _ timer fired =>
      exact expecting.timerFired (regular.conn.isolated_of_timer timer) orderly fired

end Expecting

/-- What holds of every view in a factory whose steps are orderly. -/
structure Delivering (view : ConnView) : Prop where
  regular : view.Regular
  absent : view.created = false -> view.Untouched ∧ view.log = []
  expecting : view.Expecting
  logged : view.Logged

theorem initial_delivering : initial.Delivering where
  regular := .initial
  absent := fun _ => ⟨initial_untouched, rfl⟩
  expecting := .stop rfl rfl
  logged := ⟨rfl, .nil⟩

theorem Delivering.step {event : WorldEvent} (delivering : view.Delivering)
    (orderly : view.orderly ref event = true) (step : ConnStep ref view event next) :
    next.Delivering where
  regular := delivering.regular.step step
  absent := by
    intro still
    rcases absent_of_step (fun absent => (delivering.absent absent).1) step still with
      ⟨absent, untouched, _, log⟩
    exact ⟨untouched, log.trans (delivering.absent absent).2⟩
  expecting := delivering.expecting.step delivering.regular orderly step
  logged := delivering.logged.step (fun absent => (delivering.absent absent).2)
    (fun _ _ first packet => delivering.expecting.connected first packet) step

end ConnView

namespace KjWorld

/-- If the steps of the factory are orderly for the connection, every packet is
delivered while `IsConnected()` is true, after a connect event of the connection
and before its next disconnect event. -/
theorem packets_delivered_connected {gate : Bool} {events : List WorldEvent} {world : KjWorld}
    {ref : ConnRef}
    (run : Run (fun state event next => state.Step event next ∧
      (state.view ref).orderly ref event = true) (initial gate) events world)
    {before after : List Notice} {notice : Notice}
    (delivered : (world.log.filter fun notice => notice.conn == ref) = before ++ notice :: after)
    (packet : notice.notice.isPacket = true) :
    notice.isConnected = true ∧
      Exists fun first => Exists fun opened => Exists fun second =>
        before = first ++ opened :: second ∧ opened.notice = .connected ∧
          forall other, other ∈ second -> other.notice ≠ .disconnected := by
  rcases view_invariant ConnView.Delivering
    (fun _ _ _ delivering orderly step => delivering.step orderly step) (initial_valid gate)
    ConnView.initial_delivering run with ⟨_, delivering⟩
  rcases delivering.logged.delivered before notice after delivered packet with ⟨now, last⟩
  exact ⟨now, connected_of_reported last⟩

def emptyPacket : PacketBody := ⟨0, 0, [], []⟩

/-- A client is accepted, and its read loop receives a packet. -/
def clientReceives : List WorldEvent :=
  [.openTcpServer 1, .execute [], .resultCallback, .accept 1 7, .runCallback, .execute [],
    .resultCallback, .received 0 emptyPacket]

theorem packets_delivered_connected_received :
    Run Step (initial false) (clientReceives ++ [.runCallback])
        (after false (clientReceives ++ [.runCallback])) ∧
      ((after false (clientReceives ++ [.runCallback])).log.filter
        fun notice => notice.conn == 0) =
        [⟨0, .connected, true⟩] ++ ⟨0, .innerPacket emptyPacket, true⟩ :: [] ∧
      Exists fun first => Exists fun opened => Exists fun second =>
        ([⟨0, .connected, true⟩] : List Notice) = first ++ opened :: second ∧
          opened.notice = .connected ∧
            forall other, other ∈ second -> other.notice ≠ .disconnected := by
  have delivered : ((after false (clientReceives ++ [.runCallback])).log.filter
      fun notice => notice.conn == 0) =
        [⟨0, .connected, true⟩] ++ ⟨0, .innerPacket emptyPacket, true⟩ :: [] := by decide
  refine ⟨run_after (by decide), delivered, ?_⟩
  exact (packets_delivered_connected
    (run_after_of_allowed (fun state event => (state.view 0).orderly 0 event = true) (by decide))
    delivered rfl).2

/-- The front end disconnects the client while its packet is queued: the packet
is delivered after the disconnect event. -/
theorem packet_after_disconnect :
    Run Step (initial false) (clientReceives ++ [.disconnect 0, .handlersReturn, .runCallback])
        (after false (clientReceives ++ [.disconnect 0, .handlersReturn, .runCallback])) ∧
      (after false (clientReceives ++ [.disconnect 0, .handlersReturn, .runCallback])).log =
        [⟨0, .connected, true⟩, ⟨0, .disconnected, false⟩, ⟨0, .innerPacket emptyPacket, false⟩] :=
  ⟨run_after (by decide), by decide⟩

end KjWorld
end NetSystem
