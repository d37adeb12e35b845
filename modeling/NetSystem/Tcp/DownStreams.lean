import NetSystem.Tcp.KjDownStreams
import NetSystem.Tcp.UvDownStreams

namespace NetSystem

/-!
# `DisposeDownStreams` over both factories

The loop iterates over the clients of a server, disposes of each and hands it to
`AddClientDisconnectCb` of the factory.  The Kj factory only posts a callback there, so
each client is handled once by the time the queue has been drained.  The Uv factory
removes the client at once, and with it the element that the iteration stands on.
-/

/-- What should have happened to a client between the call of `DisposeDownStreams` and its
end: it was told that it lost its connection if it had one, and it is in the recycler, or
deleted from there, once. -/
structure HandledOnce (before after : ConnManager) (told toldAfter : Nat) (client : ConnRef) :
    Prop where
  disposed : (after.flags client).bDisposed = true
  notified : toldAfter = told + if (before.flags client).bConnected = true then 1 else 0
  removed : forall server, client ∉ (after.clientsOf server).values
  recycled : (after.vRecycler ++ after.deleted).count client = 1

/-- The back end of the Kj factory closes a server, which disposes of its clients, and the
factory goes on. -/
structure KjWorld.Closes (server : Nat) (before after last : KjWorld) : Prop where
  reached : Exists fun gate => Exists fun events => Run Step (initial gate) events before
  command : Exists fun queue => before.workQueue = .closeTcpServer server :: queue
  unclosed : (before.servers server).closed = false
  step : Exists fun order => before.Step (.execute order) after
  goesOn : Exists fun events => Run Step after events last

/-- The loop leaves the map alone and disposes of every client, and each has been handled
once when the queue has been drained. -/
structure KjWorld.HandlesClients (server : Nat) (before after last : KjWorld) : Prop where
  position : after.manager.mapServerEntry = before.manager.mapServerEntry
  disposed : forall client, client ∈ (before.manager.clientsOf server).values ->
    (after.manager.flags client).bDisposed = true
  handled : last.trunkQueue = [] -> last.frontStack = [] ->
    forall client, client ∈ (before.manager.clientsOf server).values ->
      HandledOnce before.manager last.manager (before.toldDisconnected client)
        (last.toldDisconnected client) client

/-- A server of the Uv factory is closed, and the factory goes on until `Close` has
returned. -/
structure UvClients.Closes (server : Nat) (before next last : UvClients) : Prop where
  reached : Exists fun events => Run Step initial events before
  unclosed : (before.servers server).closed = false
  step : Exists fun order => before.Step (.closeTcpServer server order) next
  goesOn : Exists fun events => Run Step next events last
  returned : (last.servers server).closed = true

/-- The iteration never lost the element it stood on, and each client has been handled
once. -/
structure UvClients.HandlesClients (server : Nat) (before last : UvClients) : Prop where
  position : ¬ ErasedCurrent server last
  handled : forall client, client ∈ (before.manager.clientsOf server).values ->
    HandledOnce before.manager last.manager (before.log.count (client, .disconnected))
      (last.log.count (client, .disconnected)) client

/-- With the Kj factory every client is handled once, and with the Uv factory only where
there is none. -/
theorem clients_handled_once (server : Nat) :
    (forall before after last, KjWorld.Closes server before after last ->
      KjWorld.HandlesClients server before after last) ∧
    forall before next last, UvClients.Closes server before next last ->
      (UvClients.HandlesClients server before last ↔
        (before.manager.clientsOf server).values = []) := by
  constructor
  · intro before after last closes
    rcases closes.reached with ⟨gate, earlier, reached⟩
    rcases closes.command with ⟨queue, command⟩
    rcases closes.step with ⟨order, step⟩
    rcases closes.goesOn with ⟨later, goesOn⟩
    refine ⟨?_, fun client held => ?_, fun drained returned client held => ?_⟩
    · have kept := KjWorld.close_mapServerEntry (KjWorld.close_of_execute command step).2
      exact kept
    · exact (KjWorld.clients_leave reached command closes.unclosed step goesOn held).1
    · have leaves := KjWorld.clients_leave reached command closes.unclosed step goesOn held
      rcases leaves.2 drained returned with ⟨disposed, told, removed, recycled⟩
      exact ⟨disposed, told, removed, recycled⟩
  · intro before next last closes
    rcases closes.reached with ⟨earlier, reached⟩
    rcases closes.step with ⟨order, step⟩
    rcases closes.goesOn with ⟨later, goesOn⟩
    have erased := UvClients.erasedCurrent_iff_clients reached closes.unclosed step goesOn
      closes.returned
    constructor
    · exact fun handles => by_contra fun clients => handles.position (erased.mpr clients)
    · intro empty
      refine ⟨fun wrong => erased.mp wrong empty, fun client held => ?_⟩
      rw [empty] at held
      cases held

namespace KjWorld

/-- A server with two clients is to be closed. -/
def closingTwo : List WorldEvent :=
  [.openTcpServer 1, .execute [], .resultCallback, .accept 1 7, .accept 1 8, .runCallback,
    .runCallback, .execute [], .resultCallback, .execute [], .resultCallback, .closeTcpServer 1]

/-- The loop has ended, and its callbacks run. -/
def closedTwo : List WorldEvent :=
  [.resultCallback, .runCallback, .handlersReturn, .runCallback, .handlersReturn]

theorem closes_two :
    Exists fun before => Exists fun after => Exists fun last => Closes 1 before after last ∧
      (before.manager.clientsOf 1).values = [1, 0] ∧ last.trunkQueue = [] ∧ last.frontStack = [] := by
  have computed : ((closingTwo.foldlM perform (initial false)).bind fun before =>
      (before.perform (.execute [⟨1000000002, 1⟩, ⟨1000000001, 0⟩])).bind fun after =>
        (closedTwo.foldlM perform after).map fun last =>
          ((before.workQueue, (before.servers 1).closed, (before.manager.clientsOf 1).values),
            last.trunkQueue, last.frontStack)) =
      some (([.closeTcpServer 1], false, [1, 0]), [], []) := by decide
  rcases Option.bind_eq_some_iff.mp computed with ⟨before, reached, computed⟩
  rcases Option.bind_eq_some_iff.mp computed with ⟨after, step, computed⟩
  rcases Option.map_eq_some_iff.mp computed with ⟨last, goesOn, facts⟩
  simp only [Prod.mk.injEq] at facts
  rcases facts with ⟨⟨command, unclosed, clients⟩, drained, returned⟩
  refine ⟨before, after, last, ⟨⟨false, _, Run.of_foldlM _ reached⟩, ⟨[], command⟩, unclosed,
    ⟨_, step⟩, ⟨_, Run.of_foldlM _ goesOn⟩⟩, clients, drained, returned⟩

end KjWorld

namespace UvClients

/-- A server with a client. -/
def oneClient : List UvClientsEvent :=
  [.openTcpServer 7 true, .setReady 7 true, .runOnce, .onConnection 7 true, .handlersReturn,
    .recycle]

/-- `Close` of the server, with handlers that do nothing. -/
def closeOne : UvClientsEvent := .closeTcpServer 7 [⟨1000000001, 0⟩]

theorem closes_one :
    Exists fun before => Exists fun next => Exists fun last => Closes 7 before next last ∧
      (before.manager.clientsOf 7).values = [0] ∧ last.faults = [.erasedCurrent 7 0] := by
  have computed : ((oneClient.foldlM perform initial).bind fun before =>
      (before.perform closeOne).bind fun next =>
        ([.handlersReturn].foldlM perform next).map fun last =>
          (((before.servers 7).closed, (before.manager.clientsOf 7).values),
            (last.servers 7).closed, last.faults)) =
      some ((false, [0]), true, [.erasedCurrent 7 0]) := by decide
  rcases Option.bind_eq_some_iff.mp computed with ⟨before, reached, computed⟩
  rcases Option.bind_eq_some_iff.mp computed with ⟨next, step, computed⟩
  rcases Option.map_eq_some_iff.mp computed with ⟨last, goesOn, facts⟩
  simp only [Prod.mk.injEq] at facts
  rcases facts with ⟨⟨unclosed, clients⟩, returned, faults⟩
  exact ⟨before, next, last, ⟨⟨_, Run.of_foldlM _ reached⟩, unclosed, ⟨_, step⟩,
    ⟨_, Run.of_foldlM _ goesOn⟩, returned⟩, clients, faults⟩

end UvClients

/-- Both clients of the Kj server have been handled, and the client of the Uv server has
not. -/
theorem clients_handled_once_both :
    (Exists fun before => Exists fun after => Exists fun last =>
      KjWorld.Closes 1 before after last ∧ (before.manager.clientsOf 1).values = [1, 0] ∧
      last.trunkQueue = [] ∧ last.frontStack = [] ∧ KjWorld.HandlesClients 1 before after last) ∧
    Exists fun before => Exists fun next => Exists fun last =>
      UvClients.Closes 7 before next last ∧ (before.manager.clientsOf 7).values = [0] ∧
      ¬ UvClients.HandlesClients 7 before last := by
  rcases KjWorld.closes_two with ⟨before, after, last, closes, clients, drained, returned⟩
  rcases UvClients.closes_one with ⟨uvBefore, uvNext, uvLast, uvCloses, uvClients, _⟩
  refine ⟨⟨before, after, last, closes, clients, drained, returned, ?_⟩,
    uvBefore, uvNext, uvLast, uvCloses, uvClients, fun handles => ?_⟩
  · exact (clients_handled_once 1).1 before after last closes
  · have empty := ((clients_handled_once 7).2 uvBefore uvNext uvLast uvCloses).mp handles
    rw [uvClients] at empty
    cases empty

/-- `Close` of a Uv server with one client erases the element that its iteration stands
on. -/
theorem close_erases_current :
    Exists fun before => Exists fun next => Exists fun last =>
      UvClients.Closes 7 before next last ∧ (before.manager.clientsOf 7).values = [0] ∧
      last.faults = [.erasedCurrent 7 0] ∧ ¬ UvClients.HandlesClients 7 before last := by
  rcases UvClients.closes_one with ⟨before, next, last, closes, clients, faults⟩
  refine ⟨before, next, last, closes, clients, faults, fun handles => handles.position ⟨0, ?_⟩⟩
  rw [faults]
  exact List.mem_singleton_self _

end NetSystem
