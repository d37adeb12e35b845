import NetSystem.Foundation.History
import NetSystem.Tcp.KjTasks

namespace NetSystem

/-!
# Until a call has been carried out

A call of the front end has been carried out when the handlers it has called have
returned and no command is left.  Meanwhile the back end goes on with its commands.
`DelayReconnect` needs the task set of its connection, so the commands can be carried
out exactly when each of these finds one, or the connection is disposed of before.

`SettleStep` is all that can happen to an isolated connection until then.
-/

/-- The handlers of an event return, or the back end goes on with its commands. -/
def WorldEvent.settles : WorldEvent -> Bool
  | .handlersReturn => true
  | .execute _ => true
  | .resultCallback => true
  | _ => false

namespace KjWorld

/-- The task set that each of the commands needs is there when it is carried out. -/
def Executable (world : KjWorld) (cmds : List NetCmd) : Prop :=
  EachAfter (fun before cmd => forall isolated nDelaySeconds,
    cmd = .isolatedDelayReconnect isolated nDelaySeconds ->
      (world.conn isolated).canDelay = true ∨ .disposeConnection isolated ∈ before) cmds

/-! ## The commands -/

/-- The two queues of commands and the calls that have not returned. -/
def pendings (world : KjWorld) : List NetCmd × Option NetCmd × List FrontRest :=
  (world.workQueue, world.executing, world.frontStack)

variable {world next : KjWorld} {isolated : ConnRef}

theorem post_pendings (world : KjWorld) (workCb : TrunkCb) :
    (world.post workCb).pendings = world.pendings := by
  unfold post
  cases workCb.conn <;> rfl

/-- What a command that does not block the front end does to a connection. -/
inductive CmdChange (conn : KjConn) (isolated : ConnRef) : NetCmd -> KjConn -> Prop
  | same (cmd : NetCmd) (kept : cmd ≠ .disposeConnection isolated)
      (other : forall nDelaySeconds, cmd ≠ .isolatedDelayReconnect isolated nDelaySeconds) :
      CmdChange conn isolated cmd conn
  | disposed : CmdChange conn isolated (.disposeConnection isolated) conn.disposeConnection
  | confirmed (streamptr : Nat) (found : Bool) :
      CmdChange conn isolated (.confirmClientIsReady isolated streamptr)
        (conn.confirmClientIsReady found)
  | delayed (nDelaySeconds : Int) (next : KjConn) (done : conn.delayReconnect = some next) :
      CmdChange conn isolated (.isolatedDelayReconnect isolated nDelaySeconds) next

theorem runCmd_change {order : List ConnEntry} {cmd : NetCmd} (plain : cmd.blocking = false)
    (done : world.runCmd order cmd = some next) (isolated : ConnRef) :
    CmdChange (world.conn isolated) isolated cmd (next.conn isolated) := by
  cases cmd with
  | openTcpServer server => cases plain
  | closeTcpServer server => cases plain
  | isolatedConnConnect other sIpOrHostname => cases plain
  | disposeConnection conn =>
      cases done
      by_cases mine : isolated = conn
      · rw [mine, conn_setConn_self]
        exact .disposed
      · rw [conn_setConn_ne _ _ mine]
        refine .same _ (fun same => mine ?_) (by intro _ impossible; cases impossible)
        cases same
        rfl
  | postPacket conn body =>
      cases done
      exact .same _ (by intro impossible; cases impossible)
        (by intro _ impossible; cases impossible)
  | flushTcpServerDownStream server streamptr =>
      cases done
      exact .same _ (by intro impossible; cases impossible)
        (by intro _ impossible; cases impossible)
  | confirmClientIsReady client streamptr =>
      unfold runCmd at done
      dsimp only at done
      split at done
      · cases done
        by_cases mine : isolated = client
        · rw [mine, conn_setConn_self]
          exact .confirmed _ _
        · rw [conn_setConn_ne _ _ mine]
          exact .same _ (by intro impossible; cases impossible)
            (by intro _ impossible; cases impossible)
      · cases done
        exact .same _ (by intro impossible; cases impossible)
          (by intro _ impossible; cases impossible)
  | isolatedDelayReconnect other nDelaySeconds =>
      rcases Option.map_eq_some_iff.mp done with ⟨conn, delayed, rfl⟩
      by_cases mine : isolated = other
      · rw [mine, conn_setConn_self]
        exact .delayed _ conn delayed
      · rw [conn_setConn_ne _ _ mine]
        refine .same _ (by intro impossible; cases impossible) fun seconds same => mine ?_
        cases same
        rfl

theorem CmdChange.canDelay {conn after : KjConn} {cmd : NetCmd}
    (change : CmdChange conn isolated cmd after) (can : conn.canDelay = true) :
    after.canDelay = true := by
  cases change with
  | same => exact can
  | disposed => exact KjConn.disposeConnection_canDelay conn
  | confirmed => exact KjConn.confirmClientIsReady_canDelay can _
  | delayed _ _ done => exact KjConn.delayReconnect_canDelay done

theorem CmdChange.disposed_canDelay {conn after : KjConn}
    (change : CmdChange conn isolated (.disposeConnection isolated) after) :
    after.canDelay = true := by
  cases change with
  | same _ kept => exact absurd rfl kept
  | disposed => exact KjConn.disposeConnection_canDelay conn

theorem backEnd_of_idle (idle : world.executing = none) (turn : Option KjWorld) :
    world.backEnd turn = turn := by
  rw [backEnd, idle]
  rfl

end KjWorld

/-- What an event that settles a call does to an isolated connection: nothing but count
a result, or the return of its handlers, or one of its commands. -/
inductive SettleStep (ref : ConnRef) (view next : ConnView) : WorldEvent -> Prop
  | still (event : WorldEvent) (consumed : UInt32)
      (conn : next.conn = { view.conn with flags.backEndConsumeNum := consumed })
      (todo : next.todo = view.todo) (rests : next.rests = view.rests) :
      SettleStep ref view next event
  | returned (rest : FrontRest) (rests : List FrontRest) (first : view.rests = rest :: rests)
      (runs : RestStep ref { view with rests := rests } rest next) :
      SettleStep ref view next .handlersReturn
  | executed (order : List ConnEntry) (cmd : NetCmd) (todo : List NetCmd)
      (first : view.todo = cmd :: todo)
      (runs : CmdStep ref { view with executing := some cmd, todo := todo } cmd next) :
      SettleStep ref view next (.execute order)

namespace ConnView

variable {ref : ConnRef} {view next : ConnView} {event : WorldEvent}

theorem settleStep (created : view.created = true) (isolated : view.conn.kind.isClient = false)
    (regular : view.Regular) (settles : event.settles = true)
    (step : ConnStep ref view event next) : SettleStep ref view next event := by
  cases step with
  | other => exact .still _ view.conn.flags.backEndConsumeNum rfl rfl rfl
  | displaced => exact .still _ view.conn.flags.backEndConsumeNum rfl rfl rfl
  | isolatedCreated _ _ _ absent => exact absurd (absent.symm.trans created) Bool.false_ne_true
  | stopped _ _ _ _ names =>
      rcases names with ⟨rfl, _⟩ | ⟨nDelaySeconds, rfl, _⟩
      · cases settles
      · cases settles
  | returned _ rest rests first runs => exact .returned rest rests first runs
  | executed _ order cmd todo _ first runs => exact .executed order cmd todo first runs
  | serverClosed _ server _ _ held =>
      exact absurd ((regular.isolated isolated server).symm.trans held) Bool.false_ne_true
  | closedElsewhere => exact .still _ view.conn.flags.backEndConsumeNum rfl rfl rfl
  | finished => exact .still _ _ rfl rfl rfl
  | _ => cases settles

/-- What a command leaves to be done. -/
theorem todo_of_cmd {cmd : NetCmd} (runs : CmdStep ref view cmd next) :
    next.todo = view.todo ∧ next.rests = view.rests := by
  cases runs <;> exact ⟨rfl, rfl⟩

/-- The connection is disposed of, or a command will do it. -/
def Doomed (ref : ConnRef) (view : ConnView) : Prop :=
  view.conn.flags.bDisposed = true ∨ .disposeConnection ref ∈ view.todo

/-- `Disconnect` of a connected connection will dispose of it when its handlers have
returned, and only then does `Reopen` go on. -/
def Departing (ref : ConnRef) (nDelaySeconds : Int) (rests : List FrontRest) (view : ConnView) :
    Prop :=
  view.rests = .releaseConnection ref :: .delayReconnect ref nDelaySeconds :: rests ∨
    view.Doomed ref

/-- The flag says that a reconnect is scheduled, but there is no timer. -/
def Forgotten (view : ConnView) : Prop :=
  view.conn.bDelayReconnecting = true ∧ view.conn.timer = false

/-- The reconnect is scheduled, or will be by a command, and nothing comes between. -/
structure Awaiting (ref : ConnRef) (view : ConnView) : Prop where
  undisposed : view.conn.flags.bDisposed = false
  unconnected : view.conn.flags.bConnected = false
  kept : .disposeConnection ref ∉ view.todo
  unblocked : forall cmd, cmd ∈ view.todo -> cmd.blocking = false
  timer : view.conn.bDelayReconnecting = true -> view.conn.timer = true
  scheduled : view.conn.bDelayReconnecting = true ∨
    Exists fun nDelaySeconds => .isolatedDelayReconnect ref nDelaySeconds ∈ view.todo

theorem Doomed.settle (doomed : view.Doomed ref) (step : SettleStep ref view next event) :
    next.Doomed ref := by
  cases step with
  | still _ _ conn todo =>
      unfold Doomed
      rw [conn, todo]
      exact doomed
  | returned rest rests first runs =>
      cases runs with
      | removed => exact doomed.imp_right (List.mem_append_left _)
      | absent => exact doomed
      | released => exact doomed.imp_right (List.mem_append_left _)
      | delayed => exact doomed.imp_right (List.mem_append_left _)
  | executed order cmd todo first runs =>
      have later : (forall conn, cmd ≠ .disposeConnection conn) ->
          Doomed ref { view with executing := some cmd, todo := todo } := by
        intro other
        refine doomed.imp_right fun member => ?_
        rw [first] at member
        exact (List.mem_cons.mp member).resolve_left fun same => other ref same.symm
      cases runs with
      | disposed => exact .inl (KjConn.disposeConnection_disposed view.conn)
      | posted => exact later (by intro conn impossible; cases impossible)
      | confirmed _ ready =>
          exact (later (by intro conn impossible; cases impossible)).imp_left fun disposed =>
            absurd (ready.1.symm.trans disposed) Bool.false_ne_true
      | notReady => exact later (by intro conn impossible; cases impossible)
      | connected _ conn done =>
          have kept := later (by intro conn impossible; cases impossible)
          rcases KjConn.connect_eq_some done with ⟨_, rfl | rfl⟩
          · exact kept
          · exact kept
      | delayed _ conn done =>
          have kept := later (by intro conn impossible; cases impossible)
          rcases KjConn.delayReconnect_eq_some done with rfl | ⟨_, _, rfl⟩
          · exact kept
          · exact kept

theorem Departing.settle {nDelaySeconds : Int} {rests : List FrontRest}
    (departing : view.Departing ref nDelaySeconds rests)
    (step : SettleStep ref view next event) : next.Departing ref nDelaySeconds rests := by
  rcases departing with waits | doomed
  · cases step with
    | still _ _ _ _ same => exact .inl (same.trans waits)
    | returned rest stack first runs =>
        right
        rw [waits] at first
        cases first
        cases runs with
        | released => exact .inr (List.mem_append_right _ (List.mem_singleton_self _))
    | executed order cmd todo first runs => exact .inl ((todo_of_cmd runs).2.trans waits)
  · exact .inr (doomed.settle step)

theorem Forgotten.settle (forgotten : view.Forgotten) (step : SettleStep ref view next event) :
    next.Forgotten := by
  cases step with
  | still _ _ conn =>
      unfold Forgotten
      rw [conn]
      exact forgotten
  | returned rest rests first runs => cases runs <;> exact forgotten
  | executed order cmd todo first runs =>
      rcases forgotten with ⟨delaying, idle⟩
      cases runs with
      | disposed =>
          unfold Forgotten KjConn.disposeConnection
          dsimp only
          split
          · exact ⟨delaying, idle⟩
          · unfold KjConn.flushStream
            split
            · exact ⟨delaying, rfl⟩
            · exact ⟨delaying, rfl⟩
      | posted => exact ⟨delaying, idle⟩
      | confirmed => exact ⟨delaying, rfl⟩
      | notReady => exact ⟨delaying, idle⟩
      | connected _ conn done =>
          rcases KjConn.connect_eq_some done with ⟨_, rfl | rfl⟩
          · exact ⟨delaying, idle⟩
          · exact ⟨delaying, rfl⟩
      | delayed _ conn done =>
          have same : conn = view.conn := by
            unfold KjConn.delayReconnect at done
            dsimp only at done
            rw [delaying] at done
            exact (Option.some.inj done).symm
          rw [same]
          exact ⟨delaying, idle⟩

theorem Awaiting.settle (awaiting : view.Awaiting ref) (isolated : view.conn.kind.isClient = false)
    (regular : view.Regular) (other : event ≠ .handlersReturn)
    (step : SettleStep ref view next event) : next.Awaiting ref := by
  cases step with
  | still _ _ conn todo =>
      refine ⟨?_, ?_, ?_, ?_, ?_, ?_⟩
      · rw [conn]
        exact awaiting.undisposed
      · rw [conn]
        exact awaiting.unconnected
      · rw [todo]
        exact awaiting.kept
      · rw [todo]
        exact awaiting.unblocked
      · rw [conn]
        exact awaiting.timer
      · rw [conn, todo]
        exact awaiting.scheduled
  | returned => exact absurd rfl other
  | executed order cmd todo first runs =>
      have member : cmd ∈ view.todo := by
        rw [first]
        exact List.mem_cons_self ..
      have fits := regular.cmds cmd (List.mem_append_right _ member)
      rw [isolated] at fits
      have unblocked := awaiting.unblocked cmd member
      have kept : .disposeConnection ref ∉ todo := by
        intro later
        apply awaiting.kept
        rw [first]
        exact List.mem_cons_of_mem _ later
      have plain : forall cmd, cmd ∈ todo -> cmd.blocking = false := by
        intro cmd later
        apply awaiting.unblocked
        rw [first]
        exact List.mem_cons_of_mem _ later
      cases runs with
      | disposed => exact absurd member awaiting.kept
      | posted body =>
          refine ⟨awaiting.undisposed, awaiting.unconnected, kept, plain, awaiting.timer, ?_⟩
          refine awaiting.scheduled.imp_right fun ⟨nDelaySeconds, waits⟩ => ⟨nDelaySeconds, ?_⟩
          rw [first] at waits
          exact (List.mem_cons.mp waits).resolve_left fun impossible => by cases impossible
      | confirmed => cases fits
      | notReady => cases fits
      | connected => cases unblocked
      | delayed nDelaySeconds conn done =>
          have scheduled : conn.bDelayReconnecting = true ∧ conn.timer = true ∧
              conn.flags = view.conn.flags := by
            rcases KjConn.delayReconnect_eq_some done with rfl | ⟨_, _, rfl⟩
            · have delaying := KjConn.delayReconnect_delaying awaiting.undisposed done
              exact ⟨delaying, awaiting.timer delaying, rfl⟩
            · exact ⟨rfl, rfl, rfl⟩
          rcases scheduled with ⟨delaying, timer, flags⟩
          refine ⟨?_, ?_, kept, plain, fun _ => timer, .inl delaying⟩
          · change conn.flags.bDisposed = false
            rw [flags]
            exact awaiting.undisposed
          · change conn.flags.bConnected = false
            rw [flags]
            exact awaiting.unconnected

end ConnView

namespace KjWorld

variable {world next last : KjWorld} {isolated : ConnRef} {events : List WorldEvent}

/-- What is known in a reachable state of an isolated connection that exists. -/
structure Known (world : KjWorld) (isolated : ConnRef) : Prop where
  valid : world.Valid
  regular : forall ref, (world.view ref).Regular
  equipped : (world.view isolated).Equipped
  created : (world.view isolated).created = true
  isolated : (world.view isolated).conn.kind.isClient = false

theorem Valid.absent (valid : world.Valid) (ref : ConnRef)
    (missing : (world.view ref).created = false) :
    (world.view ref).Untouched :=
  valid.untouched ref (Nat.le_of_not_lt (of_decide_eq_false missing))

theorem Known.step {event : WorldEvent} (known : world.Known isolated)
    (step : world.Step event next) : next.Known isolated := by
  have seen := view_step isolated known.valid step
  refine ⟨known.valid.step step, fun ref => ?_, known.equipped.step (known.valid.absent isolated) seen,
    ConnView.created_of_step seen known.created, ?_⟩
  · exact (known.regular ref).step (view_step ref known.valid step)
  · rw [ConnView.kind_of_step known.created seen]
    exact known.isolated

/-- What the events that settle a call keep. -/
theorem Known.settled (Invariant : ConnView -> Prop) (known : world.Known isolated)
    (settles : forall event, event ∈ events -> event.settles = true)
    (keep : forall view event next, event ∈ events -> view.Regular ->
      view.conn.kind.isClient = false -> Invariant view ->
      SettleStep isolated view next event -> Invariant next)
    (run : Run Step world events last) (start : Invariant (world.view isolated)) :
    last.Known isolated ∧ Invariant (last.view isolated) := by
  apply run.invariant_mem fun state => state.Known isolated ∧ Invariant (state.view isolated)
  · rintro state event next member ⟨known, kept⟩ step
    have regular := known.regular isolated
    have settled := ConnView.settleStep known.created known.isolated regular (settles event member)
      (view_step isolated known.valid step)
    exact ⟨known.step step, keep _ event _ member regular known.isolated kept settled⟩
  · exact ⟨known, start⟩

/-! ## Whether the commands can be carried out -/

/-- The commands that are left when the first has been carried out. -/
theorem Executable.tail {cmd : NetCmd} {queue : List NetCmd} {order : List ConnEntry}
    (executable : world.Executable (cmd :: queue)) (plain : cmd.blocking = false)
    (done : world.runCmd order cmd = some next) : next.Executable queue := by
  refine EachAfter.mono (EachAfter.tail executable) ?_
  intro before found covered other nDelaySeconds same
  have change := runCmd_change plain done other
  rcases covered other nDelaySeconds same with can | member
  · exact .inl (change.canDelay can)
  · rcases List.mem_cons.mp member with rfl | later
    · exact .inl change.disposed_canDelay
    · exact .inr later

theorem Executable.congr {cmds : List NetCmd}
    (same : forall isolated, (next.conn isolated).canDelay = (world.conn isolated).canDelay) :
    next.Executable cmds ↔ world.Executable cmds := by
  unfold Executable
  simp only [same]

/-- No connection is both confirmed, which is done to clients, and reopened. -/
theorem Known.apart {ref : ConnRef} {nDelaySeconds : Int} {streamptr : Nat}
    (known : world.Known isolated)
    (delays : .isolatedDelayReconnect ref nDelaySeconds ∈ world.workQueue)
    (confirms : .confirmClientIsReady ref streamptr ∈ world.workQueue) : False := by
  have mine : forall cmd, cmd.conn = some ref -> cmd ∈ world.workQueue ->
      cmd.fits (world.view ref).conn.kind.isClient = true := by
    intro cmd forRef member
    apply (known.regular ref).cmds
    apply List.mem_append_right
    exact List.mem_filter.mpr ⟨member, beq_iff_eq.mpr forRef⟩
  have isolatedOnly := mine _ rfl delays
  have clientOnly := mine _ rfl confirms
  cases kind : (world.view ref).conn.kind.isClient with
  | true =>
      rw [kind] at isolatedOnly
      cases isolatedOnly
  | false =>
      rw [kind] at clientOnly
      cases clientOnly

end KjWorld
end NetSystem
