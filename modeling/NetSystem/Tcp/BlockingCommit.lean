import NetSystem.Tcp.KjConn

namespace NetSystem

universe u

/-!
# Blocking calls through the work queue

`CKjConnFactoryWorkQueue` with `BlockingCommit` and the loop of
`read_pipe_loop`.  The front end queues a command and waits on a promise; the
back end takes the commands off in order, runs each and hands the `int` of the
dispatch to its result callback.

The queue has one producer, the thread that waits, so nothing is queued behind
a blocking command before it is done.  The servers and connections are called
through their interfaces, so what a call does to them is a parameter; the
bodies of `Connect` of the isolated classes share the test of the address and
the two results, which are written out.  Assertions are compiled out.
-/

/-- `CMD_TYPE`. -/
inductive CmdType where
  | openTcpServer
  | closeTcpServer
  | disposeConnection
  | postPacket
  | flushTcpServerDownStream
  | confirmClientIsReady
  | postBroadcastPacket
  | isolatedConnConnect
  | isolatedDelayReconnect
deriving DecidableEq

/-- `result_cb_t`: what the callback does with the result, or the promise that
a blocking call waits for. -/
inductive ResultCb (σ : Type u) where
  | call (effect : Int -> σ -> σ)
  | setValue (prms : Nat)

/-- `net_cmd_t`, as `CreateCmdPipeline` fills it in. -/
structure CmdPipeline (σ : Type u) where
  sn : Int
  type : CmdType
  handle : Nat
  ipOrHostname : List Char
  port : UInt16
  streamptr : BitVec 64
  uInnerUuid : UInt64
  uSerialNo : UInt8
  typeName : List UInt8
  body : List UInt8
  resultCb : Option (ResultCb σ)

/-- The interfaces that the loop calls, over the state of the back end. -/
structure Callees (σ : Type u) where
  openServer : Nat -> UInt16 -> σ -> Int × σ
  closeServer : Nat -> σ -> σ
  disposeConnection : Nat -> σ -> σ
  postPacket : Nat -> UInt64 -> UInt8 -> List UInt8 -> List UInt8 -> σ -> σ
  flushDownStream : Nat -> BitVec 64 -> σ -> σ
  isReady : Nat -> σ -> Bool
  confirmClientIsReady : Nat -> BitVec 64 -> σ -> σ
  beginConnect : Nat -> List Char -> UInt16 -> σ -> σ
  delayReconnect : Nat -> Int -> σ -> σ

/-- The state of the back end and the promises handed out so far, each with
its value once it is set. -/
structure BackEnd (σ : Type u) where
  env : σ
  prms : List (Option Int)

/-- A command sets no promise that has not been made yet. -/
def CmdPipeline.SetsMade {σ : Type u} (cmd : CmdPipeline σ) (made : Nat) : Prop :=
  forall prms, cmd.resultCb = some (.setValue prms) -> prms < made

/-- The members of `CKjConnFactoryWorkQueue`, with the back end. -/
structure WorkQueue (σ : Type u) where
  callbacks : List (CmdPipeline σ)
  done : Bool
  nextSn : Int
  backEnd : BackEnd σ
  setsMade : forall cmd, cmd ∈ callbacks -> cmd.SetsMade backEnd.prms.length

namespace Callees

variable {σ : Type u} (callees : Callees σ)

/-- `c_str`, as far as `strlen` reads it. -/
def cStr (text : List Char) : List Char := text.takeWhile fun c => c != '\x00'

/-- `Connect` of an isolated connection. -/
def connect (isolated : Nat) (sIpOrHostname : List Char) (nPort : UInt16) (env : σ) : Int × σ :=
  if isIpAddress (cStr sIpOrHostname) then
    (0, callees.beginConnect isolated sIpOrHostname nPort env)
  else
    (-1, env)

/-- The `switch` of `read_pipe_loop`, with the value of `r` behind it. -/
def dispatch (cmd : CmdPipeline σ) (env : σ) : Int × σ :=
  match cmd.type with
  | .openTcpServer => callees.openServer cmd.handle cmd.port env
  | .closeTcpServer => (0, callees.closeServer cmd.handle env)
  | .disposeConnection => (0, callees.disposeConnection cmd.handle env)
  | .postPacket =>
      (0, callees.postPacket cmd.handle cmd.uInnerUuid cmd.uSerialNo cmd.typeName cmd.body env)
  | .flushTcpServerDownStream => (0, callees.flushDownStream cmd.handle cmd.streamptr env)
  | .confirmClientIsReady =>
      if callees.isReady cmd.handle env then
        (0, callees.confirmClientIsReady cmd.handle cmd.streamptr env)
      else (0, env)
  | .postBroadcastPacket => (0, env)
  | .isolatedConnConnect =>
      -- what `Connect` returns is dropped here
      (0, (callees.connect cmd.handle cmd.ipOrHostname cmd.port env).2)
  | .isolatedDelayReconnect =>
      (0, callees.delayReconnect cmd.handle (cmd.streamptr.setWidth 32).toInt env)

/-- `if (cmd._resultCb) cmd._resultCb(r)`. -/
def resultCallback (cmd : CmdPipeline σ) (r : Int) (backEnd : BackEnd σ) : BackEnd σ :=
  match cmd.resultCb with
  | none => backEnd
  | some (.call effect) => { backEnd with env := effect r backEnd.env }
  | some (.setValue prms) => { backEnd with prms := backEnd.prms.set prms (some r) }

/-- One turn of the loop. -/
def runCommand (cmd : CmdPipeline σ) (backEnd : BackEnd σ) : BackEnd σ :=
  let outcome := callees.dispatch cmd backEnd.env
  resultCallback cmd outcome.1 { backEnd with env := outcome.2 }

/-- `while (q.Callbacks().try_dequeue(q._opCmd))`. -/
def readPipeLoop : List (CmdPipeline σ) -> BackEnd σ -> BackEnd σ
  | [], backEnd => backEnd
  | cmd :: callbacks, backEnd => readPipeLoop callbacks (callees.runCommand cmd backEnd)

theorem readPipeLoop_append (front rest : List (CmdPipeline σ)) (backEnd : BackEnd σ) :
    callees.readPipeLoop (front ++ rest) backEnd =
      callees.readPipeLoop rest (callees.readPipeLoop front backEnd) := by
  induction front generalizing backEnd with
  | nil => rfl
  | cons cmd front inductionHypothesis =>
      simp only [List.cons_append, readPipeLoop, inductionHypothesis]

/-! ## What the commands ahead leave alone -/

@[simp] theorem length_prms_runCommand (cmd : CmdPipeline σ) (backEnd : BackEnd σ) :
    (callees.runCommand cmd backEnd).prms.length = backEnd.prms.length := by
  unfold runCommand resultCallback
  cases cmd.resultCb with
  | none => rfl
  | some callback => cases callback <;> simp

/-- A command that sets promises made before leaves a later one unset, and does
to the state what it does without the later one. -/
theorem runCommand_push (cmd : CmdPipeline σ) (env : σ) (made : List (Option Int))
    (sets : cmd.SetsMade made.length) (later : Option Int) :
    callees.runCommand cmd ⟨env, made ++ [later]⟩ =
      ⟨(callees.runCommand cmd ⟨env, made⟩).env,
        (callees.runCommand cmd ⟨env, made⟩).prms ++ [later]⟩ := by
  unfold runCommand resultCallback
  cases callback : cmd.resultCb with
  | none => rfl
  | some callback' =>
      cases callback' with
      | call effect => rfl
      | setValue prms =>
          have before := sets prms callback
          simp [List.set_append_left _ _ before]

theorem readPipeLoop_push (callbacks : List (CmdPipeline σ)) (env : σ)
    (made : List (Option Int))
    (sets : forall cmd, cmd ∈ callbacks -> cmd.SetsMade made.length) (later : Option Int) :
    callees.readPipeLoop callbacks ⟨env, made ++ [later]⟩ =
      ⟨(callees.readPipeLoop callbacks ⟨env, made⟩).env,
        (callees.readPipeLoop callbacks ⟨env, made⟩).prms ++ [later]⟩ := by
  induction callbacks generalizing env made with
  | nil => rfl
  | cons cmd callbacks inductionHypothesis =>
      have first := callees.runCommand_push cmd env made
        (sets cmd (List.mem_cons_self ..)) later
      have same := callees.length_prms_runCommand cmd ⟨env, made⟩
      simp only [readPipeLoop]
      rw [first]
      apply inductionHypothesis
      intro other member
      rw [same]
      exact sets other (List.mem_cons_of_mem _ member)

theorem length_prms_readPipeLoop (callbacks : List (CmdPipeline σ)) (backEnd : BackEnd σ) :
    (callees.readPipeLoop callbacks backEnd).prms.length = backEnd.prms.length := by
  induction callbacks generalizing backEnd with
  | nil => rfl
  | cons cmd callbacks inductionHypothesis =>
      simp only [readPipeLoop, inductionHypothesis, length_prms_runCommand]

end Callees

namespace WorkQueue

variable {σ : Type u} (callees : Callees σ) (queue : WorkQueue σ)

/-- The command of a blocking call. -/
def blockingCmd (eType : CmdType) (handle : Nat) (sIpOrHostname : List Char) (nPort : UInt16) :
    CmdPipeline σ where
  sn := queue.nextSn + 1
  type := eType
  handle := handle
  ipOrHostname := sIpOrHostname
  port := nPort
  streamptr := 0
  uInnerUuid := 0
  uSerialNo := 0
  typeName := []
  body := []
  resultCb := some (.setValue queue.backEnd.prms.length)

/-- The back end once it has run what was queued before the call. -/
def drained : BackEnd σ := callees.readPipeLoop queue.callbacks queue.backEnd

/-- `BlockingCommit`, to the end of the loop that runs its command.  A queue
that is done drops the command, and the call never returns. -/
def blockingCommit (eType : CmdType) (handle : Nat) (sIpOrHostname : List Char) (nPort : UInt16) :
    Option (Int × BackEnd σ) :=
  if queue.done then none
  else
    let cp := queue.blockingCmd eType handle sIpOrHostname nPort
    let prms := queue.backEnd.prms.length
    let after := callees.readPipeLoop (queue.callbacks ++ [cp])
      { queue.backEnd with prms := queue.backEnd.prms ++ [none] }
    (after.prms[prms]?.join).map fun nResult => (nResult, after)

/-- What a blocking call returns is the `r` of its own command, run on what the
commands before it left. -/
theorem blockingCommit_eq (eType : CmdType) (handle : Nat) (sIpOrHostname : List Char)
    (nPort : UInt16) (open_ : queue.done = false) :
    queue.blockingCommit callees eType handle sIpOrHostname nPort =
      let outcome := callees.dispatch
        (queue.blockingCmd eType handle sIpOrHostname nPort) (queue.drained callees).env
      some (outcome.1, ⟨outcome.2, (queue.drained callees).prms ++ [some outcome.1]⟩) := by
  have length := callees.length_prms_readPipeLoop queue.callbacks queue.backEnd
  have pushed := callees.readPipeLoop_push queue.callbacks queue.backEnd.env queue.backEnd.prms
    queue.setsMade none
  simp only [blockingCommit, open_, Bool.false_eq_true, if_false, Callees.readPipeLoop_append,
    Callees.readPipeLoop, pushed, Callees.runCommand, Callees.resultCallback, blockingCmd, drained]
  rw [← length]
  simp

end WorkQueue

/-! ## The two calls with a result -/

/-- `OpenTcpServer` and `IsolatedConnConnect` of the factory. -/
inductive BlockingCall where
  | openTcpServer (server : Nat) (nPort : UInt16)
  | isolatedConnConnect (isolated : Nat) (sIpOrHostname : List Char) (nPort : UInt16)
deriving DecidableEq

namespace BlockingCall

variable {σ : Type u} (callees : Callees σ)

/-- The call itself, as the `Uv` factory makes it. -/
def direct (call : BlockingCall) (env : σ) : Int × σ :=
  match call with
  | .openTcpServer server nPort => callees.openServer server nPort env
  | .isolatedConnConnect isolated sIpOrHostname nPort =>
      callees.connect isolated sIpOrHostname nPort env

/-- The call as `CKjConnFactoryWorkQueue` makes it. -/
def commit (call : BlockingCall) (queue : WorkQueue σ) : Option (Int × BackEnd σ) :=
  match call with
  | .openTcpServer server nPort =>
      queue.blockingCommit callees .openTcpServer server [] nPort
  | .isolatedConnConnect isolated sIpOrHostname nPort =>
      queue.blockingCommit callees .isolatedConnConnect isolated sIpOrHostname nPort

/-- The `int` that the caller gets. -/
def returned (call : BlockingCall) (queue : WorkQueue σ) : Option Int :=
  (call.commit callees queue).map Prod.fst

/-- The call that is queued does to the state what the direct call does. -/
theorem commit_env (call : BlockingCall) (queue : WorkQueue σ) (open_ : queue.done = false) :
    (call.commit callees queue).map (fun answer => answer.2.env) =
      some (call.direct callees (queue.drained callees).env).2 := by
  cases call with
  | openTcpServer server nPort =>
      simp only [commit, queue.blockingCommit_eq callees _ _ _ _ open_]
      rfl
  | isolatedConnConnect isolated sIpOrHostname nPort =>
      simp only [commit, queue.blockingCommit_eq callees _ _ _ _ open_]
      rfl

theorem returned_openTcpServer (server : Nat) (nPort : UInt16) (queue : WorkQueue σ)
    (open_ : queue.done = false) :
    (openTcpServer server nPort).returned callees queue =
      some (callees.openServer server nPort (queue.drained callees).env).1 := by
  simp only [returned, commit, queue.blockingCommit_eq callees _ _ _ _ open_]
  rfl

theorem returned_isolatedConnConnect (isolated : Nat) (sIpOrHostname : List Char)
    (nPort : UInt16) (queue : WorkQueue σ) (open_ : queue.done = false) :
    (isolatedConnConnect isolated sIpOrHostname nPort).returned callees queue = some 0 := by
  simp only [returned, commit, queue.blockingCommit_eq callees _ _ _ _ open_]
  rfl

theorem returned_of_done (call : BlockingCall) (queue : WorkQueue σ) (done : queue.done = true) :
    call.returned callees queue = none := by
  cases call <;> simp [returned, commit, WorkQueue.blockingCommit, done]

/-- A server is opened, or the address is one that `Connect` accepts. -/
def Accepted : BlockingCall -> Prop
  | .openTcpServer _ _ => True
  | .isolatedConnConnect _ sIpOrHostname _ => isIpAddress (Callees.cStr sIpOrHostname) = true

theorem direct_connect_eq_zero_iff (isolated : Nat) (sIpOrHostname : List Char) (nPort : UInt16)
    (env : σ) :
    (callees.connect isolated sIpOrHostname nPort env).1 = 0 ↔
      isIpAddress (Callees.cStr sIpOrHostname) = true := by
  unfold Callees.connect
  split
  case isTrue address => simp [address]
  case isFalse hostname => simp [hostname]

/-- The caller gets what the callee returned exactly when the queue still takes
commands and the call is no connect to a host name. -/
theorem returned_eq_direct_iff (call : BlockingCall) (queue : WorkQueue σ) :
    call.returned callees queue = some (call.direct callees (queue.drained callees).env).1 ↔
      queue.done = false ∧ call.Accepted := by
  cases done : queue.done with
  | true => simp [returned_of_done callees call queue done]
  | false =>
      cases call with
      | openTcpServer server nPort =>
          simp [returned_openTcpServer callees server nPort queue done, direct, Accepted]
      | isolatedConnConnect isolated sIpOrHostname nPort =>
          rw [returned_isolatedConnConnect callees isolated sIpOrHostname nPort queue done]
          have zero := direct_connect_eq_zero_iff callees isolated sIpOrHostname nPort
            (queue.drained callees).env
          simp only [direct, Accepted, ← zero, Option.some.injEq, true_and]
          exact eq_comm

/-- A host name, on an idle queue: `Connect` returns -1 and the caller gets 0. -/
theorem returned_ne_direct_of_hostname :
    Not (forall (callees : Callees Unit) (queue : WorkQueue Unit) (call : BlockingCall),
      queue.done = false ->
        call.returned callees queue =
          some (call.direct callees (queue.drained callees).env).1) := by
  intro always
  have wrong := always
    ⟨fun _ _ _ => (0, ()), fun _ _ => (), fun _ _ => (), fun _ _ _ _ _ _ => (), fun _ _ _ => (),
      fun _ _ => false, fun _ _ _ => (), fun _ _ _ _ => (), fun _ _ _ => ()⟩
    ⟨[], false, 0, ⟨(), []⟩, by intro cmd member; cases member⟩
    (.isolatedConnConnect 1 "localhost".toList 80) rfl
  revert wrong
  decide

end BlockingCall

end NetSystem
