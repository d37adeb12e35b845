import NetSystem.Tcp.UvIsolatedInvariant

namespace NetSystem

/-!
# Sessions of an upstream connection

Where every loss is clean, what is delivered after a connection has been
established again depends only on the chunks then received.  Otherwise the
bytes of an unfinished page are decoded in front of the first bytes of the new
connection, and a reservation that a read error left open keeps the new
connection from receiving anything.
-/

namespace UvIsolatedConn

/-- Two reading connections whose receivers are alike, or two that have thrown
after delivering the same. -/
inductive Alike (codec : Codec) (left right : UvIsolatedConn) : Prop
  | reading (clnt other : ClientHandle) (packet otherPacket : TcpPacket)
      (live : left.clnt = .live clnt) (otherLive : right.clnt = .live other)
      (socket : clnt.sockimpl = some .reading) (otherSocket : other.sockimpl = some .reading)
      (holds : left.packet = some packet) (otherHolds : right.packet = some otherPacket)
      (running : left.thrown = none) (otherRunning : right.thrown = none)
      (alike : Receiver.Alike codec ⟨clnt.bb, left.packetState packet, left.events⟩
        ⟨other.bb, right.packetState otherPacket, right.events⟩)
  | thrown (ended : left.thrown.isSome) (otherEnded : right.thrown.isSome)
      (packets : Receiver.packetsOf left.events = Receiver.packetsOf right.events)

theorem Alike.delivered {codec : Codec} {left right : UvIsolatedConn}
    (alike : left.Alike codec right) : left.delivered codec = right.delivered codec := by
  unfold UvIsolatedConn.delivered
  cases alike with
  | reading _ _ _ _ _ _ _ _ _ _ _ _ alike => rw [alike.packets]
  | thrown _ _ packets => rw [packets]

theorem perform_recv {codec : Codec} {conn : UvIsolatedConn} {clnt : ClientHandle}
    (running : conn.thrown = none) (live : conn.clnt = .live clnt)
    (socket : clnt.sockimpl = some .reading) (chunk : List UInt8) :
    conn.perform codec (.recv chunk) = conn.onRecv codec chunk clnt := by
  simp only [perform, inPhase, withClient, running, live, socket, Option.isSome_none,
    Bool.false_eq_true, if_false, if_true]

/-- A read without bytes. -/
theorem alike_commit_zero {codec : Codec} {left right : Receiver} (alike : left.Alike codec right) :
    Receiver.Alike codec ⟨left.bb.reserve.bb.commit 0, left.state, left.events⟩
      ⟨right.bb.reserve.bb.commit 0, right.state, right.events⟩ := by
  rcases commit_zero_keeps alike.poised.valid true with ⟨valid, capacity, bytes, closed⟩
  rcases commit_zero_keeps alike.otherPoised.valid true with
    ⟨otherValid, otherCapacity, otherBytes, otherClosed⟩
  exact ⟨poised_setBuffer alike.poised valid capacity bytes,
    poised_setBuffer alike.otherPoised otherValid otherCapacity otherBytes, closed, otherClosed,
    bytes.trans (alike.committed.trans otherBytes.symm), alike.held, alike.skipping,
    alike.remaining, alike.packets⟩

/-- The next chunk. -/
theorem Alike.recv {codec : Codec} {left right : UvIsolatedConn} (alike : left.Alike codec right)
    (chunk : List UInt8) :
    Option.Rel (Alike codec) (left.perform codec (.recv chunk))
      (right.perform codec (.recv chunk)) := by
  cases alike with
  | thrown ended otherEnded packets =>
      simp only [perform, if_pos ended, if_pos otherEnded]
      exact .none
  | reading clnt other packet otherPacket live otherLive socket otherSocket holds otherHolds running
      otherRunning alike =>
      rw [perform_recv running live socket, perform_recv otherRunning otherLive otherSocket]
      by_cases nothing : chunk = []
      · rcases ((alike.poised.ready alike.closed).reserve alike.poised.room).1 with
          ⟨pointer, returned⟩
        rcases ((alike.otherPoised.ready alike.otherClosed).reserve alike.otherPoised.room).1 with
          ⟨otherPointer, otherReturned⟩
        simp only [onRecv, if_pos nothing, returned, otherReturned]
        exact .some (.reading _ _ packet otherPacket rfl rfl socket otherSocket holds otherHolds
          running otherRunning (alike_commit_zero alike))
      · simp only [onRecv, if_neg nothing, holds, otherHolds]
        have fed := alike.feed chunk
        generalize Receiver.feed codec ⟨clnt.bb, left.packetState packet, left.events⟩ chunk =
          leftFed at fed ⊢
        generalize Receiver.feed codec ⟨other.bb, right.packetState otherPacket, right.events⟩ chunk =
          rightFed at fed ⊢
        cases fed with
        | decoded nextAlike =>
            exact .some (.reading _ _ _ _ rfl rfl socket otherSocket rfl rfl running otherRunning
              nextAlike)
        | thrown errno packets => exact .some (.thrown rfl rfl packets)
        | refused => exact .none

/-- All chunks. -/
theorem Alike.receiveAll {codec : Codec} {left right : UvIsolatedConn}
    (alike : left.Alike codec right) (chunks : List (List UInt8)) :
    Option.Rel (Alike codec) (left.receiveAll codec chunks) (right.receiveAll codec chunks) := by
  induction chunks generalizing left right with
  | nil => exact .some alike
  | cons chunk chunks inductionHypothesis =>
      have next := alike.recv chunk
      simp only [UvIsolatedConn.receiveAll, List.foldlM_cons]
      generalize left.perform codec (.recv chunk) = leftNext at next ⊢
      generalize right.perform codec (.recv chunk) = rightNext at next ⊢
      cases next with
      | none => exact .none
      | some nextAlike => exact inductionHypothesis nextAlike

/-- A connection that is established in a clean history reads, from an empty
buffer, with a packet object that holds nothing. -/
theorem established_empty {codec : Codec} {lost conn : UvIsolatedConn} (kept : lost.Kept codec)
    (connected : lost.Step codec (.connectCb .connected) conn) :
    Exists fun clnt => Exists fun packet => conn.clnt = .live clnt ∧
      clnt.sockimpl = some .reading ∧ conn.packet = some packet ∧ conn.thrown = none ∧
      conn.events = [] ∧ Poised codec clnt.bb (conn.packetState packet) ∧
      clnt.bb.committed = [] ∧ clnt.bb.getReservationSize = 0 ∧ packet.Idle := by
  unfold Step perform at connected
  split at connected
  · cases connected
  · rename_i notThrown
    rcases kept with thrown | ⟨intact, vacant⟩
    · exact absurd thrown notThrown
    · rcases inPhase_eq connected with ⟨clnt, live, socket, called⟩
      rcases onConnect_eq (lost.established clnt) with ⟨isConnected, same⟩
      rw [same] at called
      cases called
      rcases intact.poised_of_socket live socket with ⟨packet, holds, poised⟩
      rcases vacant clnt packet live holds (by rw [socket]; exact nofun) with ⟨empty, closed, idle⟩
      exact ⟨{ clnt with sockimpl := some .reading }, packet, rfl, rfl, holds,
        Option.not_isSome_iff_eq_none.mp notThrown, rfl, poised, empty, closed, idle⟩

/-- Sessions are isolated where every loss is clean: of two histories that end
with the connection established, the same chunks then bring the same packets,
or end the reception in the same place. -/
theorem session_isolated (codec : Codec) {recvPool otherRecvPool : BufferPool}
    (formed : recvPool.WellFormed codec.recvCapSize)
    (otherFormed : otherRecvPool.WellFormed codec.recvCapSize)
    (sendPool otherSendPool : BufferPool) {history otherHistory : List UvEvent}
    {lost conn otherLost other : UvIsolatedConn}
    (run : Run (CleanStep codec) (initial recvPool sendPool) history lost)
    (connected : lost.Step codec (.connectCb .connected) conn)
    (otherRun : Run (CleanStep codec) (initial otherRecvPool otherSendPool) otherHistory otherLost)
    (otherConnected : otherLost.Step codec (.connectCb .connected) other)
    (chunks : List (List UInt8)) :
    (conn.receiveAll codec chunks).map (delivered codec) =
      (other.receiveAll codec chunks).map (delivered codec) := by
  have kept := run.invariant (Kept codec) (fun _ _ _ kept step => kept.step step)
    (initial_kept formed sendPool)
  have otherKept := otherRun.invariant (Kept codec) (fun _ _ _ kept step => kept.step step)
    (initial_kept otherFormed otherSendPool)
  rcases established_empty kept connected with
    ⟨clnt, packet, live, socket, holds, running, report, poised, empty, closed, idle⟩
  rcases established_empty otherKept otherConnected with
    ⟨otherClnt, otherPacket, otherLive, otherSocket, otherHolds, otherRunning, otherReport,
      otherPoised, otherEmpty, otherClosed, otherIdle⟩
  have nothing : (conn.packetState packet).held = none := by
    rw [PacketState.held, packetState, idle.2]
    rfl
  have otherNothing : (other.packetState otherPacket).held = none := by
    rw [PacketState.held, packetState, otherIdle.2]
    rfl
  have alike : conn.Alike codec other := by
    refine .reading clnt otherClnt packet otherPacket live otherLive socket otherSocket holds
      otherHolds running otherRunning ⟨poised, otherPoised, closed, otherClosed,
        empty.trans otherEmpty.symm, nothing.trans otherNothing.symm, ?_, ?_, ?_⟩
    · change packet.eRecvPageState = .skip ↔ otherPacket.eRecvPageState = .skip
      rw [idle.1, otherIdle.1]
    · change packet.eRecvPageState = .skip -> _
      rw [idle.1]
      intro impossible
      cases impossible
    · change Receiver.packetsOf conn.events = Receiver.packetsOf other.events
      rw [report, otherReport]
  have same := alike.receiveAll chunks
  generalize conn.receiveAll codec chunks = received at same ⊢
  generalize other.receiveAll codec chunks = otherReceived at same ⊢
  cases same with
  | none => rfl
  | some last => exact congrArg some last.delivered

/-! ## A page that is lost in the middle -/

/-- The class of packets an upstream connection exchanges. -/
def innerCodec : Codec := ⟨.inner, .pointer32⟩

/-- A new connection with unused pools. -/
def newIsolated : UvIsolatedConn := initial (.initial fun _ _ => 0) (.initial fun _ _ => 0)

/-- A page that is a packet of the inner class, with the name `A`. -/
def innerPage : Page := ⟨true, true, [1] ++ List.replicate 15 0 ++ [65], by decide⟩

/-- The connection is established for the first time. -/
def firstConnect : List UvEvent :=
  [.connect ['1', '0', '.', '0', '.', '0', '.', '1'] true true fun _ => 0, .connectCb .connected]

/-- The first byte of a page arrives before the connection is lost, and the
packet that arrives after the reconnect is not delivered. -/
theorem leftover_page_matters :
    ¬ forall history otherHistory lost conn otherLost other chunks,
      Run (Step innerCodec) newIsolated history lost ->
      lost.Step innerCodec (.connectCb .connected) conn ->
      Run (Step innerCodec) newIsolated otherHistory otherLost ->
      otherLost.Step innerCodec (.connectCb .connected) other ->
      (conn.receiveAll innerCodec chunks).map (delivered innerCodec) =
        (other.receiveAll innerCodec chunks).map (delivered innerCodec) := by
  intro same
  have interrupted : Exists fun lost => Exists fun conn =>
      Run (Step innerCodec) newIsolated
        (firstConnect ++ [.recv [0], .recvEnd true, .timer true]) lost ∧
      lost.Step innerCodec (.connectCb .connected) conn ∧
      (conn.receiveAll innerCodec [innerPage.bytes]).map (delivered innerCodec) = some [] :=
    ⟨_, _, Run.of_foldlM _ rfl, rfl, rfl⟩
  have undisturbed : Exists fun lost => Exists fun conn =>
      Run (Step innerCodec) newIsolated (firstConnect ++ [.recvEnd true, .timer true]) lost ∧
      lost.Step innerCodec (.connectCb .connected) conn ∧
      ((conn.receiveAll innerCodec [innerPage.bytes]).map (delivered innerCodec)).map
        List.length = some 1 :=
    ⟨_, _, Run.of_foldlM _ rfl, rfl, rfl⟩
  rcases interrupted with ⟨lost, conn, run, connected, nothing⟩
  rcases undisturbed with ⟨otherLost, other, otherRun, otherConnected, one⟩
  rw [← same _ _ _ _ _ _ [innerPage.bytes] run connected otherRun otherConnected, nothing] at one
  cases one

/-- One connection is lost by the peer's end after a packet, the other by a
failed write; both deliver the packet that comes next. -/
theorem session_isolated_reconnected :
    Exists fun lost : UvIsolatedConn => Exists fun conn : UvIsolatedConn =>
    Exists fun otherLost : UvIsolatedConn => Exists fun other : UvIsolatedConn =>
      Run (CleanStep innerCodec) newIsolated
        (firstConnect ++ [.recv innerPage.bytes, .recvEnd true, .timer true]) lost ∧
      lost.Step innerCodec (.connectCb .connected) conn ∧
      Run (CleanStep innerCodec) newIsolated
        (firstConnect ++ [.sendFailed, .reconnect true]) otherLost ∧
      otherLost.Step innerCodec (.connectCb .connected) other ∧
      (conn.receiveAll innerCodec [innerPage.bytes]).map (delivered innerCodec) =
        (other.receiveAll innerCodec [innerPage.bytes]).map (delivered innerCodec) := by
  have formed := BufferPool.initial_wellFormed (fun _ _ => 0) innerCodec.recvCapSize
  have ended : Exists fun lost => Exists fun conn =>
      Run (CleanStep innerCodec) newIsolated
        (firstConnect ++ [.recv innerPage.bytes, .recvEnd true, .timer true]) lost ∧
      lost.Step innerCodec (.connectCb .connected) conn :=
    ⟨_, _, .cons ⟨rfl, trivial⟩ (.cons ⟨rfl, trivial⟩ (.cons ⟨rfl, trivial⟩
      (.cons ⟨rfl, rfl⟩ (.cons ⟨rfl, trivial⟩ (.nil _))))), rfl⟩
  have failed : Exists fun lost => Exists fun conn =>
      Run (CleanStep innerCodec) newIsolated
        (firstConnect ++ [.sendFailed, .reconnect true]) lost ∧
      lost.Step innerCodec (.connectCb .connected) conn :=
    ⟨_, _, .cons ⟨rfl, trivial⟩ (.cons ⟨rfl, trivial⟩ (.cons ⟨rfl, ⟨rfl, rfl⟩⟩
      (.cons ⟨rfl, trivial⟩ (.nil _)))), rfl⟩
  rcases ended with ⟨lost, conn, run, connected⟩
  rcases failed with ⟨otherLost, other, otherRun, otherConnected⟩
  exact ⟨lost, conn, otherLost, other, run, connected, otherRun, otherConnected,
    session_isolated innerCodec formed formed _ _ run connected otherRun otherConnected _⟩

end UvIsolatedConn
end NetSystem
