import NetSystem.Tcp.KjSteps

namespace NetSystem

/-!
# What holds of every connection

A client and an isolated connection receive different commands and callbacks,
and are kept at different places.  A disposed connection has no tasks, and the
link of a connection is up only while its stream is attached and not flushed.
-/

namespace KjConn

/-- What holds of a connection object. -/
structure Regular (conn : KjConn) : Prop where
  disposed : conn.flags.bDisposed = true ->
    conn.connecting = false ∧ conn.reading = false ∧ conn.timer = false
  client : conn.kind.isClient = true -> conn.connecting = false ∧ conn.timer = false
  streamed : conn.connecting = true ∨ conn.reading = true ∨ conn.stream = true ->
    conn.thrTcpStream = true ∧ conn.flags.bFlushed = false

namespace Regular

variable {conn next : KjConn}

theorem initial (kind : KjClass) (server : Nat) (bFlushed : Bool) :
    Regular ⟨.initial kind server, .initial bFlushed⟩ where
  disposed := fun _ => ⟨rfl, rfl, rfl⟩
  client := fun _ => ⟨rfl, rfl⟩
  streamed := by
    rintro (impossible | impossible | impossible) <;> cases impossible

theorem stream_of_flushed (regular : conn.Regular) (flushed : conn.flags.bFlushed = true) :
    conn.stream = false := by
  apply Bool.eq_false_iff.mpr
  intro up
  exact absurd ((regular.streamed (.inr (.inr up))).2.symm.trans flushed) Bool.false_ne_true

theorem onConnect (regular : conn.Regular) : conn.onConnect.1.Regular := by
  unfold KjConn.onConnect
  split
  · exact ⟨regular.disposed, regular.client, regular.streamed⟩
  · exact regular

theorem onDisconnect (regular : conn.Regular) : conn.onDisconnect.1.Regular := by
  unfold KjConn.onDisconnect
  split
  · exact ⟨regular.disposed, regular.client, regular.streamed⟩
  · exact regular

theorem stopRunning (regular : conn.Regular) : conn.stopRunning.1.Regular := by
  apply onDisconnect
  exact ⟨regular.disposed, regular.client, regular.streamed⟩

/-- After `FlushStream` the link is down. -/
theorem flushStream_down (regular : conn.Regular) :
    conn.flushStream.connecting = false ∧ conn.flushStream.reading = false ∧
      conn.flushStream.stream = false := by
  unfold KjConn.flushStream
  split
  · exact ⟨rfl, rfl, rfl⟩
  · rename_i unattached
    have down : ¬ (conn.connecting = true ∨ conn.reading = true ∨ conn.stream = true) := by
      intro up
      rcases regular.streamed up with ⟨attached, flushed⟩
      rw [attached, flushed] at unattached
      exact unattached rfl
    rw [not_or, not_or, Bool.not_eq_true, Bool.not_eq_true, Bool.not_eq_true] at down
    exact down

theorem flushStream (regular : conn.Regular) : conn.flushStream.Regular := by
  rcases regular.flushStream_down with ⟨connecting, reading, stream⟩
  refine ⟨?_, ?_, ?_⟩
  · intro disposed
    refine ⟨connecting, reading, ?_⟩
    have same : conn.flushStream.timer = conn.timer ∧
        conn.flushStream.flags.bDisposed = conn.flags.bDisposed := by
      unfold KjConn.flushStream
      split <;> exact ⟨rfl, rfl⟩
    rw [same.1]
    exact (regular.disposed (same.2.symm.trans disposed)).2.2
  · intro client
    refine ⟨connecting, ?_⟩
    have same : conn.flushStream.timer = conn.timer := by
      unfold KjConn.flushStream
      split <;> rfl
    rw [(flushStream_sameObject conn).kind] at client
    rw [same]
    exact (regular.client client).2
  · rw [connecting, reading, stream]
    rintro (impossible | impossible | impossible) <;> cases impossible

/-- After `DisposeConnection` the connection is disposed and nothing runs. -/
theorem disposeConnection (regular : conn.Regular) : conn.disposeConnection.Regular := by
  unfold KjConn.disposeConnection
  split
  · exact regular
  · refine ⟨fun _ => ⟨rfl, rfl, rfl⟩, fun _ => ⟨rfl, rfl⟩, ?_⟩
    rintro (impossible | impossible | impossible) <;> cases impossible

theorem confirmClientIsReady
    (ready : conn.flags.bDisposed = false ∧ conn.flags.bFlushed = false) :
    (conn.confirmClientIsReady true).Regular where
  disposed := by
    intro disposed
    have alive : (conn.confirmClientIsReady true).flags.bDisposed = false := ready.1
    rw [alive] at disposed
    cases disposed
  client := fun _ => ⟨rfl, rfl⟩
  streamed := fun _ => ⟨rfl, ready.2⟩

theorem connect (isolated : conn.kind.isClient = false) (regular : conn.Regular)
    {sIpOrHostname : List Char} (done : conn.connect sIpOrHostname = some next) :
    next.Regular := by
  rcases connect_eq_some done with ⟨⟨_, alive, _, _⟩, rfl | rfl⟩
  · exact regular
  · refine ⟨?_, ?_, fun _ => ⟨rfl, rfl⟩⟩
    · intro disposed
      exact absurd (alive.symm.trans disposed) Bool.false_ne_true
    · intro client
      exact absurd (isolated.symm.trans client) Bool.false_ne_true

theorem delayReconnect (isolated : conn.kind.isClient = false) (regular : conn.Regular)
    (done : conn.delayReconnect = some next) : next.Regular := by
  rcases delayReconnect_eq_some done with rfl | ⟨alive, _, rfl⟩
  · exact regular
  · refine ⟨?_, ?_, regular.streamed⟩
    · intro disposed
      exact absurd (alive.symm.trans disposed) Bool.false_ne_true
    · intro client
      exact absurd (isolated.symm.trans client) Bool.false_ne_true

theorem timerFired (isolated : conn.kind.isClient = false) (regular : conn.Regular)
    (done : conn.timerFired = some next) : next.Regular := by
  rcases timerFired_eq_some done with rfl | ⟨alive, _, rfl⟩ | ⟨alive, _, rfl⟩
  · exact ⟨fun disposed => ⟨(regular.disposed disposed).1, (regular.disposed disposed).2.1, rfl⟩,
      fun client => ⟨(regular.client client).1, rfl⟩, regular.streamed⟩
  · exact ⟨fun disposed => absurd (alive.symm.trans disposed) Bool.false_ne_true,
      fun client => absurd (isolated.symm.trans client) Bool.false_ne_true, fun _ => ⟨rfl, rfl⟩⟩
  · exact ⟨fun disposed => absurd (alive.symm.trans disposed) Bool.false_ne_true,
      fun client => absurd (isolated.symm.trans client) Bool.false_ne_true, regular.streamed⟩

theorem isolated_of_connecting (regular : conn.Regular) (connecting : conn.connecting = true) :
    conn.kind.isClient = false := by
  apply Bool.eq_false_iff.mpr
  intro client
  exact absurd ((regular.client client).1.symm.trans connecting) Bool.false_ne_true

theorem isolated_of_timer (regular : conn.Regular) (timer : conn.timer = true) :
    conn.kind.isClient = false := by
  apply Bool.eq_false_iff.mpr
  intro client
  exact absurd ((regular.client client).2.symm.trans timer) Bool.false_ne_true

theorem linkUp (regular : conn.Regular) (connecting : conn.connecting = true) :
    conn.linkUp.1.Regular := by
  have attached := regular.streamed (.inl connecting)
  have alive : conn.flags.bDisposed = false := by
    apply Bool.eq_false_iff.mpr
    intro disposed
    rw [(regular.disposed disposed).1] at connecting
    cases connecting
  have isolated := regular.isolated_of_connecting connecting
  unfold KjConn.linkUp KjConn.onLowLevelConnect
  split
  · exact ⟨fun disposed => absurd (alive.symm.trans disposed) Bool.false_ne_true,
      fun client => absurd (isolated.symm.trans client) Bool.false_ne_true, fun _ => attached⟩
  · exact ⟨fun disposed => absurd (alive.symm.trans disposed) Bool.false_ne_true,
      fun client => absurd (isolated.symm.trans client) Bool.false_ne_true, fun _ => attached⟩

/-- The connect task has failed. -/
theorem connectFailed (regular : conn.Regular) : { conn with connecting := false }.Regular := by
  refine ⟨?_, ?_, ?_⟩
  · intro disposed
    exact ⟨rfl, (regular.disposed disposed).2⟩
  · intro client
    exact ⟨rfl, (regular.client client).2⟩
  · rintro (impossible | up)
    · cases impossible
    · exact regular.streamed (.inr up)

/-- The read loop has failed. -/
theorem readFailed (regular : conn.Regular) : { conn with reading := false }.Regular := by
  refine ⟨?_, regular.client, ?_⟩
  · intro disposed
    exact ⟨(regular.disposed disposed).1, rfl, (regular.disposed disposed).2.2⟩
  · rintro (connecting | impossible | stream)
    · exact regular.streamed (.inl connecting)
    · cases impossible
    · exact regular.streamed (.inr (.inr stream))

theorem onIsolatedError (isolated : conn.kind.isClient = false) (regular : conn.Regular)
    {lost : KjConn × List LinkCb} (error : conn.onIsolatedError = some lost) :
    lost.1.Regular := by
  rcases onIsolatedError_eq_some error with ⟨report, reported, rest⟩
  have kept : report.1.Regular ∧ report.1.kind = conn.kind := by
    rw [reported]
    split
    · rcases onLowLevelDisconnect_changes conn with ⟨posted, result⟩
      rw [result]
      exact ⟨⟨regular.disposed, regular.client, regular.streamed⟩, rfl⟩
    · exact ⟨regular, rfl⟩
  rcases rest with ⟨_, delayed, done, rfl⟩ | ⟨_, rfl⟩
  · exact delayReconnect (by rw [kept.2]; exact isolated) kept.1 done
  · exact kept.1

end Regular
end KjConn

/-! ## The messages of each kind of connection -/

/-- A command for a client, or one for an isolated connection. -/
def NetCmd.fits (client : Bool) : NetCmd -> Bool
  | .disposeConnection _ => true
  | .postPacket _ _ => true
  | .confirmClientIsReady _ _ => client
  | .isolatedConnConnect _ _ => !client
  | .isolatedDelayReconnect _ _ => !client
  | _ => false

def TrunkCb.fits (client : Bool) : TrunkCb -> Bool
  | .clientDisconnect _ _ => client
  | .isolatedConnect _ => !client
  | .isolatedDisconnect _ => !client
  | _ => true

def FrontRest.fits (client : Bool) : FrontRest -> Bool
  | .removeClient _ _ => client
  | .releaseConnection _ => !client
  | .delayReconnect _ _ => !client

theorem TrunkCb.link_fits (ref : ConnRef) (link : LinkCb) :
    (TrunkCb.link ref link).fits false = true := by
  cases link <;> rfl

namespace ConnView

theorem releaseIsolated_kind (view : ConnView) (ref : ConnRef) :
    (view.releaseIsolated ref).conn.kind = view.conn.kind := by
  unfold releaseIsolated
  dsimp only
  split
  · exact (KjConn.stopRunning_sameObject view.conn).kind
  · rfl

/-- What holds of the view of a connection. -/
structure Regular (view : ConnView) : Prop where
  conn : view.conn.Regular
  cmds : forall cmd, cmd ∈ view.pendingCmds -> cmd.fits view.conn.kind.isClient = true
  callbacks : forall workCb, workCb ∈ view.callbacks -> workCb.fits view.conn.kind.isClient = true
  rests : forall rest, rest ∈ view.rests -> rest.fits view.conn.kind.isClient = true
  client : view.conn.kind.isClient = true -> view.isolated = false
  isolated : view.conn.kind.isClient = false -> forall server, view.held server = false
  recycled : view.recycled = true -> view.isolated = false ∧ forall server, view.held server = false

namespace Regular

variable {ref : ConnRef} {view : ConnView}

theorem initial : ConnView.initial.Regular where
  conn := .initial .isolatedConn 0 false
  cmds := by
    intro cmd impossible
    cases impossible
  callbacks := by
    intro workCb impossible
    cases impossible
  rests := by
    intro rest impossible
    cases impossible
  client := fun _ => rfl
  isolated := fun _ _ => rfl
  recycled := fun _ => ⟨rfl, fun _ => rfl⟩

/-- A new object takes over a reference that nothing is pending for. -/
theorem of_untouched (untouched : view.Untouched) {conn : KjConn} {held : Nat -> Bool}
    {isolated : Bool} (regular : conn.Regular)
    (client : conn.kind.isClient = true -> isolated = false)
    (isolate : conn.kind.isClient = false -> forall server, held server = false) :
    Regular { view with created := true, held := held, isolated := isolated, conn := conn } := by
  refine ⟨regular, ?_, ?_, ?_, client, isolate, ?_⟩
  · change forall cmd, cmd ∈ view.pendingCmds -> _
    rw [untouched.pendingCmds]
    intro cmd impossible
    cases impossible
  · rw [untouched.callbacks]
    intro workCb impossible
    cases impossible
  · rw [untouched.rests]
    intro rest impossible
    cases impossible
  · intro recycled
    exact absurd (untouched.recycled.symm.trans recycled) Bool.false_ne_true

/-- Another connection has taken a place of this one. -/
theorem displace (regular : view.Regular) {held : Nat -> Bool} {isolated : Bool}
    (fewer : forall server, held server = true -> view.held server = true)
    (fewerIsolated : isolated = true -> view.isolated = true) :
    Regular { view with held := held, isolated := isolated } := by
  have unheld : forall server, view.held server = false -> held server = false := by
    intro server none_
    apply Bool.eq_false_iff.mpr
    intro kept
    exact absurd (none_.symm.trans (fewer server kept)) Bool.false_ne_true
  have absent : view.isolated = false -> isolated = false := by
    intro none_
    apply Bool.eq_false_iff.mpr
    intro kept
    exact absurd (none_.symm.trans (fewerIsolated kept)) Bool.false_ne_true
  exact ⟨regular.conn, regular.cmds, regular.callbacks, regular.rests,
    fun client => absent (regular.client client),
    fun kind server => unheld server (regular.isolated kind server),
    fun recycled => ⟨absent (regular.recycled recycled).1,
      fun server => unheld server ((regular.recycled recycled).2 server)⟩⟩

/-- The object changes. -/
theorem set_conn (regular : view.Regular) {conn : KjConn} (kind : conn.kind = view.conn.kind)
    (kept : conn.Regular) : Regular { view with conn := conn } := by
  refine ⟨kept, ?_, ?_, ?_, ?_, ?_, regular.recycled⟩
  · rw [kind]
    exact regular.cmds
  · rw [kind]
    exact regular.callbacks
  · rw [kind]
    exact regular.rests
  · rw [kind]
    exact regular.client
  · rw [kind]
    exact regular.isolated

theorem commit (regular : view.Regular) {cmd : NetCmd}
    (fits : cmd.fits view.conn.kind.isClient = true) : (view.commit cmd).Regular := by
  refine ⟨?_, ?_, regular.callbacks, regular.rests, regular.client, regular.isolated,
    regular.recycled⟩
  · exact ⟨regular.conn.disposed, regular.conn.client, regular.conn.streamed⟩
  · intro other member
    have split : other ∈ view.pendingCmds ++ [cmd] := by
      rw [pendingCmds, List.append_assoc]
      exact member
    rcases List.mem_append.mp split with before | added
    · exact regular.cmds other before
    · rw [List.mem_singleton.mp added]
      exact fits

theorem post (regular : view.Regular) {workCb : TrunkCb}
    (fits : workCb.fits view.conn.kind.isClient = true) : (view.post workCb).Regular := by
  refine ⟨?_, regular.cmds, ?_, regular.rests, regular.client, regular.isolated, regular.recycled⟩
  · exact ⟨regular.conn.disposed, regular.conn.client, regular.conn.streamed⟩
  · intro other member
    rcases List.mem_append.mp member with before | added
    · exact regular.callbacks other before
    · rw [List.mem_singleton.mp added]
      exact fits

theorem postLinks (regular : view.Regular) (isolated : view.conn.kind.isClient = false)
    (links : List LinkCb) : (view.postLinks ref links).Regular := by
  induction links generalizing view with
  | nil => exact regular
  | cons link links inductionHypothesis =>
      refine inductionHypothesis (regular.post ?_) isolated
      rw [isolated]
      exact TrunkCb.link_fits ref link

theorem tell (regular : view.Regular) {result : KjConn × List ConnNotice}
    (kind : result.1.kind = view.conn.kind) (kept : result.1.Regular) :
    (view.tell ref result).Regular := by
  rcases regular.set_conn kind kept with
    ⟨conn, cmds, callbacks, rests, client, isolated, recycled⟩
  exact ⟨conn, cmds, callbacks, rests, client, isolated, recycled⟩

theorem start (regular : view.Regular) {workCb : TrunkCb} {callbacks : List TrunkCb}
    (first : view.callbacks = workCb :: callbacks) : (view.start callbacks).Regular := by
  refine ⟨?_, regular.cmds, ?_, regular.rests, regular.client, regular.isolated, regular.recycled⟩
  · exact ⟨regular.conn.disposed, regular.conn.client, regular.conn.streamed⟩
  · intro other member
    apply regular.callbacks
    rw [first]
    exact List.mem_cons_of_mem _ member

/-- What is left for after the handlers. -/
theorem push (regular : view.Regular) {rests : List FrontRest}
    (fits : forall rest, rest ∈ rests -> rest.fits view.conn.kind.isClient = true) :
    Regular { view with rests := rests ++ view.rests } := by
  refine ⟨regular.conn, regular.cmds, regular.callbacks, ?_, regular.client, regular.isolated,
    regular.recycled⟩
  intro rest member
  rcases List.mem_append.mp member with added | before
  · exact fits rest added
  · exact regular.rests rest before

/-- The connection moves to the recycler. -/
theorem recycle (regular : view.Regular) {isolated : Bool} (gone : isolated = false) :
    Regular { view with held := fun _ => false, isolated := isolated, recycled := true } :=
  ⟨regular.conn, regular.cmds, regular.callbacks, regular.rests, fun _ => gone, fun _ _ => rfl,
    fun _ => ⟨gone, fun _ => rfl⟩⟩

/-- The object changes, and so do the functions scheduled for later. -/
theorem undefer (regular : view.Regular) {deferred : Nat} {conn : KjConn}
    (kind : conn.kind = view.conn.kind) (kept : conn.Regular) :
    Regular { view with conn := conn, deferred := deferred } := by
  rcases regular.set_conn kind kept with
    ⟨conn, cmds, callbacks, rests, client, isolated, recycled⟩
  exact ⟨conn, cmds, callbacks, rests, client, isolated, recycled⟩

theorem client_of_held (regular : view.Regular) {server : Nat} (held : view.held server = true) :
    view.conn.kind.isClient = true := by
  cases kind : view.conn.kind.isClient with
  | true => rfl
  | false =>
      exact absurd ((regular.isolated kind server).symm.trans held) Bool.false_ne_true

theorem isolated_of_isolated (regular : view.Regular) (isolated : view.isolated = true) :
    view.conn.kind.isClient = false := by
  cases kind : view.conn.kind.isClient with
  | true => exact absurd ((regular.client kind).symm.trans isolated) Bool.false_ne_true
  | false => rfl

/-- A notification changes nothing here. -/
theorem notify (regular : view.Regular) (notices : List ConnNotice) :
    (view.notify ref notices).Regular :=
  ⟨regular.conn, regular.cmds, regular.callbacks, regular.rests, regular.client, regular.isolated,
    regular.recycled⟩

theorem releaseIsolated (regular : view.Regular) : (view.releaseIsolated ref).Regular := by
  unfold ConnView.releaseIsolated
  dsimp only
  split
  · exact ((regular.tell (KjConn.stopRunning_sameObject _).kind regular.conn.stopRunning).commit
      rfl).commit rfl
  · exact regular.commit rfl

end Regular
end ConnView

variable {ref : ConnRef} {view next : ConnView}

theorem RestStep.regular {rest : FrontRest} (runs : RestStep ref view rest next)
    (regular : view.Regular) (fits : rest.fits view.conn.kind.isClient = true) : next.Regular := by
  cases runs with
  | removed server => exact (regular.commit rfl).recycle (regular.client fits)
  | absent => exact regular
  | released => exact regular.commit rfl
  | delayed => exact regular.commit fits

theorem CmdStep.regular {cmd : NetCmd} (runs : CmdStep ref view cmd next)
    (regular : view.Regular) (fits : cmd.fits view.conn.kind.isClient = true) : next.Regular := by
  cases runs with
  | disposed =>
      exact regular.set_conn (KjConn.disposeConnection_sameObject _).kind
        regular.conn.disposeConnection
  | posted => exact regular
  | confirmed streamptr ready =>
      exact regular.set_conn (KjConn.confirmClientIsReady_sameObject _ _).kind
        (.confirmClientIsReady ready)
  | notReady => exact regular
  | connected _ conn done =>
      exact regular.set_conn (KjConn.connect_sameObject done).kind
        (regular.conn.connect (Bool.eq_false_of_not_eq_true' fits) done)
  | delayed _ conn done =>
      exact regular.set_conn (KjConn.delayReconnect_sameObject done).kind
        (regular.conn.delayReconnect (Bool.eq_false_of_not_eq_true' fits) done)

theorem CbStep.regular {workCb : TrunkCb} (runs : CbStep ref view workCb next)
    (regular : view.Regular) (fits : workCb.fits view.conn.kind.isClient = true) :
    next.Regular := by
  have lost : (view.tell ref view.conn.onDisconnect).Regular :=
    regular.tell (KjConn.onDisconnect_sameObject _).kind regular.conn.onDisconnect
  cases runs with
  | clientLost server =>
      have client : (view.tell ref view.conn.onDisconnect).conn.kind.isClient = true :=
        (congrArg KjClass.isClient (KjConn.onDisconnect_sameObject view.conn).kind).trans fits
      have fit : forall rest, rest ∈ [FrontRest.removeClient server ref] ->
          rest.fits (view.tell ref view.conn.onDisconnect).conn.kind.isClient = true := by
        intro rest member
        rw [List.mem_singleton.mp member]
        exact client
      exact lost.push fit
  | clientGone _ server _ removes => exact removes.regular regular fits
  | linkReported =>
      exact regular.tell (KjConn.onConnect_sameObject _).kind regular.conn.onConnect
  | linkLost => exact lost
  | packet => exact regular.notify _
  | innerPacket => exact regular.notify _

theorem ConnView.release_fits (view : ConnView) :
    (view.release ref).fits view.conn.kind.isClient = true := by
  unfold ConnView.release
  split
  · rename_i client
    exact client
  · rename_i isolated
    rw [Bool.eq_false_iff.mpr isolated]
    rfl

theorem ConnView.Regular.step {event : WorldEvent} (regular : view.Regular)
    (step : ConnStep ref view event next) : next.Regular := by
  cases step with
  | other => exact regular
  | displaced _ _ _ _ fewer fewerIsolated => exact regular.displace fewer fewerIsolated
  | accepted kind server streamptr _ untouched client =>
      have created : Regular { view with
          created := true
          held := fun place => decide (place = server)
          conn := ⟨.initial kind server, .initial false⟩ } := by
        refine of_untouched untouched (.initial kind server false) (fun _ => untouched.isolated) ?_
        intro isolated
        exact absurd (isolated.symm.trans client) Bool.false_ne_true
      have fits : NetCmd.fits kind.isClient (.confirmClientIsReady ref streamptr) = true := client
      have confirmed := created.commit fits
      exact confirmed.tell (KjConn.onConnect_sameObject _).kind confirmed.conn.onConnect
  | isolatedCreated _ kind _ _ untouched isolated =>
      refine of_untouched untouched (.initial kind 0 true) ?_ (fun _ => untouched.held)
      intro client
      exact absurd (isolated.symm.trans client) Bool.false_ne_true
  | connectCommitted _ _ isolated => exact regular.commit (by rw [isolated]; rfl)
  | sent => exact regular.commit rfl
  | disconnectIgnored => exact regular
  | stopped _ rests _ _ names =>
      have told : (view.tell ref view.conn.stopRunning).Regular :=
        regular.tell (KjConn.stopRunning_sameObject _).kind regular.conn.stopRunning
      have kind : (view.tell ref view.conn.stopRunning).conn.kind = view.conn.kind :=
        (KjConn.stopRunning_sameObject _).kind
      refine told.push ?_
      rw [kind]
      intro rest member
      rcases List.mem_cons.mp member with rfl | later
      · exact view.release_fits
      · rcases names with ⟨_, rfl⟩ | ⟨nDelaySeconds, _, rfl, isolated⟩
        · cases later
        · rw [List.mem_singleton.mp later, isolated]
          rfl
  | stoppedUnconnected _ _ _ _ _ releases =>
      have kind := (KjConn.stopRunning_sameObject view.conn).kind
      refine releases.regular (regular.set_conn kind regular.conn.stopRunning) ?_
      rw [kind]
      exact view.release_fits
  | reopenIgnored => exact regular
  | reopened _ _ isolated => exact regular.commit (by rw [isolated]; rfl)
  | returned _ rest rests first runs =>
      have fits := regular.rests
      rw [first] at fits
      refine runs.regular ⟨regular.conn, regular.cmds, regular.callbacks, ?_, regular.client,
        regular.isolated, regular.recycled⟩ (fits rest (List.mem_cons_self ..))
      intro other member
      exact fits other (List.mem_cons_of_mem _ member)
  | called _ workCb callbacks first _ runs =>
      refine runs.regular (regular.start first) (regular.callbacks workCb ?_)
      rw [first]
      exact List.mem_cons_self ..
  | clientReleased server _ held =>
      exact (regular.commit rfl).recycle (regular.client (regular.client_of_held held))
  | isolatedReleased _ isolated =>
      have released : (view.releaseIsolated ref).Regular := regular.releaseIsolated
      have kind : (view.releaseIsolated ref).conn.kind.isClient = false := by
        rw [ConnView.releaseIsolated_kind]
        exact regular.isolated_of_isolated isolated
      exact ⟨released.conn, released.cmds, released.callbacks, released.rests, fun _ => rfl,
        released.isolated, fun _ => ⟨rfl, released.isolated kind⟩⟩
  | deleted =>
      exact ⟨regular.conn, regular.cmds, regular.callbacks, regular.rests, regular.client,
        regular.isolated, fun impossible => absurd impossible Bool.false_ne_true⟩
  | executed _ _ cmd todo idle first runs =>
      have fits := regular.cmds
      rw [pendingCmds, idle, first] at fits
      exact runs.regular ⟨regular.conn, fits, regular.callbacks, regular.rests, regular.client,
        regular.isolated, regular.recycled⟩ (fits cmd (List.mem_cons_self ..))
  | serverClosed _ server _ _ held =>
      have kind := (KjConn.disposeConnection_sameObject view.conn).kind
      have disposed : Regular { view with conn := view.conn.disposeConnection } :=
        regular.set_conn kind regular.conn.disposeConnection
      have fits : TrunkCb.fits view.conn.disposeConnection.kind.isClient
          (.clientDisconnect server ref) = true := by
        rw [kind]
        exact regular.client_of_held held
      rcases disposed.post fits with ⟨conn, cmds, callbacks, rests, client, isolated, recycled⟩
      exact ⟨conn, cmds, callbacks, rests, client, isolated, recycled⟩
  | closedElsewhere =>
      exact ⟨regular.conn, regular.cmds, regular.callbacks, regular.rests, regular.client,
        regular.isolated, regular.recycled⟩
  | finished cmd =>
      refine ⟨⟨regular.conn.disposed, regular.conn.client, regular.conn.streamed⟩, ?_,
        regular.callbacks, regular.rests, regular.client, regular.isolated, regular.recycled⟩
      intro other member
      exact regular.cmds other (List.mem_append_right _ member)
  | clientFailed _ _ client =>
      have same := (KjConn.flushStream_sameObject view.conn).trans
        (KjConn.disposeConnection_sameObject _)
      refine post (regular.undefer same.kind regular.conn.flushStream.disposeConnection) ?_
      exact (congrArg KjClass.isClient same.kind).trans client
  | isolatedFailed lost _ _ isolated error =>
      have flushed := (KjConn.flushStream_sameObject view.conn)
      have same := flushed.trans (KjConn.onIsolatedError_sameObject error)
      refine postLinks (regular.undefer same.kind ?_) ?_ _
      · refine regular.conn.flushStream.onIsolatedError ?_ error
        rw [flushed.kind]
        exact isolated
      · exact (congrArg KjClass.isClient same.kind).trans isolated
  | linkUp _ connecting =>
      have kind := (KjConn.linkUp_sameObject view.conn).kind
      refine postLinks (regular.set_conn kind (regular.conn.linkUp connecting)) ?_ _
      exact (congrArg KjClass.isClient kind).trans (regular.conn.isolated_of_connecting connecting)
  | connectFailed _ connecting =>
      exact regular.undefer rfl regular.conn.connectFailed
  | received _ workCb _ reading packet =>
      refine regular.post ?_
      rcases packet with ⟨uConnId, rfl⟩ | ⟨uConnId, rfl⟩ <;> rfl
  | readFailed _ reading =>
      exact regular.undefer rfl regular.conn.readFailed
  | timerFired conn _ timer fired =>
      exact regular.set_conn (KjConn.timerFired_sameObject fired).kind
        (regular.conn.timerFired (regular.conn.isolated_of_timer timer) fired)

/-! ## The class of a connection does not change -/

theorem RestStep.kind_eq {rest : FrontRest} (runs : RestStep ref view rest next) :
    next.conn.kind = view.conn.kind := by
  cases runs <;> rfl

theorem CmdStep.kind_eq {cmd : NetCmd} (runs : CmdStep ref view cmd next) :
    next.conn.kind = view.conn.kind := by
  cases runs with
  | disposed => exact (KjConn.disposeConnection_sameObject _).kind
  | posted => rfl
  | confirmed => exact (KjConn.confirmClientIsReady_sameObject _ _).kind
  | notReady => rfl
  | connected _ _ done => exact (KjConn.connect_sameObject done).kind
  | delayed _ _ done => exact (KjConn.delayReconnect_sameObject done).kind

theorem CbStep.kind_eq {workCb : TrunkCb} (runs : CbStep ref view workCb next) :
    next.conn.kind = view.conn.kind := by
  cases runs with
  | clientLost => exact (KjConn.onDisconnect_sameObject _).kind
  | clientGone _ _ _ removes => exact removes.kind_eq
  | linkReported => exact (KjConn.onConnect_sameObject _).kind
  | linkLost => exact (KjConn.onDisconnect_sameObject _).kind
  | packet => rfl
  | innerPacket => rfl

theorem ConnView.kind_of_step {event : WorldEvent} (created : view.created = true)
    (step : ConnStep ref view event next) : next.conn.kind = view.conn.kind := by
  cases step with
  | accepted _ _ _ absent => exact absurd (absent.symm.trans created) Bool.false_ne_true
  | isolatedCreated _ _ _ absent => exact absurd (absent.symm.trans created) Bool.false_ne_true
  | stopped => exact (KjConn.stopRunning_sameObject _).kind
  | stoppedUnconnected _ _ _ _ _ releases =>
      exact releases.kind_eq.trans (KjConn.stopRunning_sameObject _).kind
  | returned _ _ _ _ runs => exact runs.kind_eq
  | called _ _ _ _ _ runs => exact runs.kind_eq
  | isolatedReleased => exact releaseIsolated_kind _ _
  | executed _ _ _ _ _ _ runs => exact runs.kind_eq
  | serverClosed => exact (KjConn.disposeConnection_sameObject _).kind
  | clientFailed =>
      exact ((KjConn.flushStream_sameObject _).trans (KjConn.disposeConnection_sameObject _)).kind
  | isolatedFailed _ _ _ _ error =>
      rw [postLinks_eq]
      exact ((KjConn.flushStream_sameObject _).trans
        (KjConn.onIsolatedError_sameObject error)).kind
  | linkUp =>
      rw [postLinks_eq]
      exact (KjConn.linkUp_sameObject _).kind
  | timerFired _ _ _ fired => exact (KjConn.timerFired_sameObject fired).kind
  | _ => rfl

end NetSystem
