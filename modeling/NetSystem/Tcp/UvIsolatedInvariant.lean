import NetSystem.Tcp.UvIsolatedConn

namespace NetSystem

/-!
# What an upstream connection keeps

A lost connection keeps its client handle, and with it the receive buffer;
nothing on the way to the next connection empties that buffer or closes a
reservation in it.  `CleanLoss` says when a loss leaves nothing behind.

`Intact` is kept by every operation: the buffer and the packet object stay in a
state between two reads, and a socket is open only with a packet object.  Where
every loss is clean, the connection is also `Vacant` while it is down.
-/

/-- The object waits for a page leading and holds no packet. -/
def TcpPacket.Idle (packet : TcpPacket) : Prop :=
  packet.eRecvPageState = .receiveLeading ∧ packet.refRecvBuf = none

namespace UvIsolatedConn

/-- The bytes in the receive buffer. -/
def committedSize (conn : UvIsolatedConn) : Nat :=
  match conn.clnt with
  | .live clnt => clnt.bb.getCommittedSize
  | _ => 0

/-- The reservation left open in the receive buffer. -/
def reservationSize (conn : UvIsolatedConn) : Nat :=
  match conn.clnt with
  | .live clnt => clnt.bb.getReservationSize
  | _ => 0

/-- The receive buffer is empty and has no reservation open. -/
def Drained (conn : UvIsolatedConn) : Prop := conn.committedSize = 0 ∧ conn.reservationSize = 0

def BetweenPackets (conn : UvIsolatedConn) : Prop :=
  forall packet, conn.packet = some packet -> packet.Idle

/-- `FlushStream` has a socket to close. -/
def flushes (conn : UvIsolatedConn) : Bool :=
  match conn.clnt with
  | .live clnt => clnt.sockimpl.isSome && !conn.bFlushed
  | _ => false

/-- A loss that leaves nothing behind.  `UV_EOF` and `UV_ECONNRESET` close the
reservation themselves; all callbacks clear the packet object, and `FlushStream`
on its own does not.  Without a socket it does nothing. -/
def CleanLoss (conn : UvIsolatedConn) : UvEvent -> Prop
  | .recvEnd _ => conn.committedSize = 0
  | .connectCb .failed => conn.Drained
  | .sendFailed => conn.Drained
  | .flushStream => conn.flushes = true -> conn.Drained ∧ conn.BetweenPackets
  | _ => True

/-- A step that, if it loses the connection, leaves nothing behind. -/
def CleanStep (codec : Codec) (conn : UvIsolatedConn) (event : UvEvent)
    (next : UvIsolatedConn) : Prop :=
  conn.Step codec event next ∧ conn.CleanLoss event

/-! ## The invariant -/

/-- What holds of a connection in any history. -/
structure Intact (codec : Codec) (conn : UvIsolatedConn) : Prop where
  formed : conn.recvPool.WellFormed codec.recvCapSize
  sound : forall packet, conn.packet = some packet -> (conn.packetState packet).Sound codec
  poised : forall clnt packet, conn.clnt = .live clnt -> conn.packet = some packet ->
    Poised codec clnt.bb (conn.packetState packet)
  opened : forall clnt phase, conn.clnt = .live clnt -> clnt.sockimpl = some phase ->
    conn.bFlushed = false ∧ conn.packet.isSome
  present : forall clnt, conn.clnt = .live clnt -> conn.bDisposed = false -> conn.packet.isSome
  started : forall clnt, conn.clnt = .live clnt -> conn.bRunning = true ∨ conn.bDisposed = true
  unused : conn.bRunning = false -> conn.bDisposed = false -> conn.BetweenPackets

/-- Nothing is left over while the connection is not reading. -/
def Vacant (conn : UvIsolatedConn) : Prop :=
  forall clnt packet, conn.clnt = .live clnt -> conn.packet = some packet ->
    clnt.sockimpl ≠ some .reading ->
      clnt.bb.committed = [] ∧ clnt.bb.getReservationSize = 0 ∧ packet.Idle

theorem Drained.bb {conn : UvIsolatedConn} (drained : conn.Drained) {clnt : ClientHandle}
    (live : conn.clnt = .live clnt) :
    clnt.bb.committed = [] ∧ clnt.bb.getReservationSize = 0 := by
  rw [Drained, committedSize, reservationSize, live] at drained
  exact ⟨(BipBuf.committed_eq_nil_iff _).mpr drained.1, drained.2⟩

section Operations

variable {codec : Codec} {conn next : UvIsolatedConn}

/-! ## `FlushStream` -/

theorem flushStream_cases (done : conn.flushStream = some next) :
    (next = conn ∧ forall clnt, conn.clnt = .live clnt ->
      clnt.sockimpl = none ∨ conn.bFlushed = true) ∨
    (Exists fun clnt => conn.clnt = .live clnt ∧
      next = { conn with clnt := .live { clnt with sockimpl := none }, bFlushed := true }) := by
  unfold flushStream at done
  cases handle : conn.clnt with
  | null =>
      rw [handle] at done
      cases done
      exact Or.inl ⟨rfl, nofun⟩
  | freed =>
      rw [handle] at done
      cases done
  | live clnt =>
      rw [handle] at done
      dsimp only at done
      split at done
      · cases done
        exact Or.inr ⟨clnt, rfl, rfl⟩
      · rename_i stays
        cases done
        refine Or.inl ⟨rfl, ?_⟩
        rintro _ ⟨⟩
        cases socket : clnt.sockimpl with
        | none => exact Or.inl rfl
        | some phase =>
            right
            simpa [socket] using stays

theorem flushStream_of_idle (idle : conn.flushes = false) (done : conn.flushStream = some next) :
    next = conn := by
  unfold flushes at idle
  unfold flushStream at done
  cases handle : conn.clnt with
  | null =>
      rw [handle] at done
      exact (Option.some.inj done).symm
  | freed =>
      rw [handle] at done
      cases done
  | live clnt =>
      rw [handle] at done idle
      dsimp only at done idle
      have stays : ¬ (clnt.sockimpl.isSome = true ∧ ¬ conn.bFlushed = true) := by
        rintro ⟨socket, unflushed⟩
        rw [socket, Bool.eq_false_iff.mpr unflushed] at idle
        cases idle
      rw [if_neg stays] at done
      exact (Option.some.inj done).symm

theorem Intact.flushStream (intact : conn.Intact codec) (done : conn.flushStream = some next) :
    next.Intact codec := by
  rcases flushStream_cases done with ⟨rfl, _⟩ | ⟨clnt, live, rfl⟩
  · exact intact
  · refine ⟨intact.formed, intact.sound, ?_, ?_, ?_, ?_, intact.unused⟩
    · rintro _ packet ⟨⟩ holds
      exact intact.poised clnt packet live holds
    · rintro _ phase ⟨⟩ impossible
      cases impossible
    · rintro _ ⟨⟩
      exact intact.present clnt live
    · rintro _ ⟨⟩
      exact intact.started clnt live

/-! ## `OnIsolatedError` -/

/-- A connection that delays a reconnect already, or is disposed of, is left alone. -/
theorem delayReconnect_cases {nDelaySeconds : Int}
    (done : conn.delayReconnect nDelaySeconds = some next) :
    ((conn.bDelayReconnecting = true ∨ conn.bDisposed = true) ∧ next = conn) ∨
    (conn.bDelayReconnecting = false ∧ conn.bDisposed = false ∧
      conn.reconnectTimer.isSome = true ∧ Exists fun timeout =>
        uDelaySecondsInMs nDelaySeconds = some timeout ∧ next = { conn with
          bDelayReconnecting := true
          reconnectTimer := some true
          reconnectTimeout := timeout }) := by
  unfold delayReconnect at done
  split at done
  · rename_i takes
    right
    refine ⟨Bool.eq_false_iff.mpr takes.1, Bool.eq_false_iff.mpr takes.2, ?_⟩
    cases timer : conn.reconnectTimer with
    | none =>
        rw [timer] at done
        cases done
    | some started =>
        rw [timer] at done
        refine ⟨rfl, ?_⟩
        cases product : uDelaySecondsInMs nDelaySeconds with
        | none =>
            rw [product] at done
            cases done
        | some timeout =>
            rw [product] at done
            cases done
            exact ⟨timeout, rfl, rfl⟩
  · rename_i stays
    cases done
    left
    refine ⟨?_, rfl⟩
    rcases Decidable.not_and_iff_not_or_not.mp stays with delaying | disposed
    · exact .inl (Decidable.of_not_not delaying)
    · exact .inr (Decidable.of_not_not disposed)

theorem Intact.delayReconnect {nDelaySeconds : Int} (intact : conn.Intact codec)
    (done : conn.delayReconnect nDelaySeconds = some next) : next.Intact codec := by
  rcases delayReconnect_cases done with ⟨_, rfl⟩ | ⟨_, _, _, timeout, _, rfl⟩
  · exact intact
  · exact ⟨intact.formed, intact.sound, intact.poised, intact.opened, intact.present,
      intact.started, intact.unused⟩

theorem Vacant.delayReconnect {nDelaySeconds : Int} (vacant : conn.Vacant)
    (done : conn.delayReconnect nDelaySeconds = some next) : next.Vacant := by
  rcases delayReconnect_cases done with ⟨_, rfl⟩ | ⟨_, _, _, timeout, _, rfl⟩
  · exact vacant
  · exact vacant

/-- The connection after `Clear` and the disconnect event. -/
def cleared (conn : UvIsolatedConn) (packet : TcpPacket) : UvIsolatedConn :=
  (conn.setPacketState (conn.packetState packet).clear).onDisconnect

theorem onIsolatedError_cases (done : conn.onIsolatedError = some next) :
    Exists fun packet => conn.packet = some packet ∧
      (next = conn.cleared packet ∨
        (conn.cleared packet).delayReconnect reconnectDelaySeconds = some next) := by
  unfold onIsolatedError at done
  cases holds : conn.packet with
  | none =>
      rw [holds] at done
      cases done
  | some packet =>
      rw [holds] at done
      change (if (conn.cleared packet).bRunning = true then
        (conn.cleared packet).delayReconnect reconnectDelaySeconds
        else some (conn.cleared packet)) = some next at done
      refine ⟨packet, rfl, ?_⟩
      split at done
      · exact Or.inr done
      · cases done
        exact Or.inl rfl

/-- A cleared object waits for a leading, wherever the bytes in front of it
come from. -/
theorem Intact.cleared (intact : conn.Intact codec) {packet : TcpPacket}
    (holds : conn.packet = some packet) : (conn.cleared packet).Intact codec := by
  have sound := (intact.sound packet holds).clear
  have idle := (conn.packetState packet).clear_waiting
  refine ⟨sound.pool, ?_, ?_, ?_, fun _ _ _ => rfl, intact.started, ?_⟩
  · rintro _ ⟨⟩
    exact sound
  · rintro clnt _ live ⟨⟩
    have poised := intact.poised clnt packet live holds
    exact ⟨poised.valid, poised.capacity, poised.room, sound, Or.inl (Or.inl idle.1)⟩
  · intro clnt phase live socket
    exact ⟨(intact.opened clnt phase live socket).1, rfl⟩
  · rintro _ _ _ ⟨⟩
    exact idle

theorem Intact.onIsolatedError (intact : conn.Intact codec)
    (done : conn.onIsolatedError = some next) : next.Intact codec := by
  rcases onIsolatedError_cases done with ⟨packet, holds, rfl | delayed⟩
  · exact intact.cleared holds
  · exact (intact.cleared holds).delayReconnect delayed

/-- The packet object is cleared, so only the buffer is left to speak about. -/
theorem onIsolatedError_vacant
    (empty : forall clnt, conn.clnt = .live clnt -> clnt.sockimpl ≠ some .reading ->
      clnt.bb.committed = [] ∧ clnt.bb.getReservationSize = 0)
    (done : conn.onIsolatedError = some next) : next.Vacant := by
  have vacant : forall packet, (conn.cleared packet).Vacant := by
    rintro packet clnt _ live ⟨⟩ down
    rcases empty clnt live down with ⟨nothing, closed⟩
    exact ⟨nothing, closed, (conn.packetState packet).clear_waiting⟩
  rcases onIsolatedError_cases done with ⟨packet, holds, rfl | delayed⟩
  · exact vacant packet
  · exact (vacant packet).delayReconnect delayed

/-- A lost connection whose buffer is drained. -/
theorem flushAndError_kept (intact : conn.Intact codec) (drained : conn.Drained)
    (done : conn.flushAndError = some next) : next.Intact codec ∧ next.Vacant := by
  rcases Option.bind_eq_some_iff.mp done with ⟨flushed, flush, error⟩
  refine ⟨(intact.flushStream flush).onIsolatedError error, ?_⟩
  refine onIsolatedError_vacant ?_ error
  rcases flushStream_cases flush with ⟨rfl, _⟩ | ⟨clnt, live, rfl⟩
  · intro clnt live _
    exact drained.bb live
  · have empty := drained.bb live
    rintro _ ⟨⟩ _
    exact empty

/-! ## `DisposeConnection` -/

/-- A disposed connection has no packet object and no socket. -/
theorem kept_of_disposed (formed : conn.recvPool.WellFormed codec.recvCapSize)
    (deleted : conn.packet = none) (disposed : conn.bDisposed = true)
    (closed : forall clnt, conn.clnt = .live clnt -> clnt.sockimpl = none) :
    conn.Intact codec ∧ conn.Vacant := by
  have absurdity : forall packet, conn.packet ≠ some packet := by
    intro packet holds
    rw [deleted] at holds
    cases holds
  refine ⟨⟨formed, ?_, ?_, ?_, ?_, fun _ _ => Or.inr disposed, ?_⟩, ?_⟩
  · exact fun packet holds => absurd holds (absurdity packet)
  · exact fun _ packet _ holds => absurd holds (absurdity packet)
  · intro clnt phase live socket
    rw [closed clnt live] at socket
    cases socket
  · intro _ _ alive
    rw [disposed] at alive
    cases alive
  · exact fun _ _ packet holds => absurd holds (absurdity packet)
  · exact fun _ packet _ holds => absurd holds (absurdity packet)

theorem deletePacket_packet (conn : UvIsolatedConn) : conn.deletePacket.packet = none := by
  cases holds : conn.packet <;> simp [deletePacket, holds]

theorem deletePacket_rest (conn : UvIsolatedConn) :
    conn.deletePacket.clnt = conn.clnt ∧ conn.deletePacket.bFlushed = conn.bFlushed ∧
      conn.deletePacket.bDisposed = conn.bDisposed := by
  cases holds : conn.packet <;> simp [deletePacket, setPacketState, holds]

/-- Deleting the packet object keeps the pools in order. -/
theorem deletePacket_formed (formed : conn.recvPool.WellFormed codec.recvCapSize)
    (sound : forall packet, conn.packet = some packet -> (conn.packetState packet).Sound codec) :
    conn.deletePacket.recvPool.WellFormed codec.recvCapSize := by
  cases holds : conn.packet with
  | none =>
      simp only [deletePacket, holds]
      exact formed
  | some packet =>
      simp only [deletePacket, holds]
      exact (sound packet holds).clear.pool

/-- The first call of `DisposeConnection`, also on a connection that has
already stopped running. -/
theorem disposeConnection_first (formed : conn.recvPool.WellFormed codec.recvCapSize)
    (sound : forall packet, conn.packet = some packet -> (conn.packetState packet).Sound codec)
    (opened : forall clnt phase, conn.clnt = .live clnt -> clnt.sockimpl = some phase ->
      conn.bFlushed = false)
    (alive : conn.bDisposed = false) (done : conn.disposeConnection = some next) :
    next.Intact codec ∧ next.Vacant := by
  unfold disposeConnection at done
  rw [alive] at done
  rcases Option.map_eq_some_iff.mp done with ⟨flushed, flush, rfl⟩
  rcases deletePacket_rest { conn with bDisposed := true } with ⟨sameClnt, sameFlushed, disposed⟩
  have deleted := deletePacket_packet { conn with bDisposed := true }
  have pool : ({ conn with bDisposed := true } : UvIsolatedConn).deletePacket.recvPool.WellFormed
      codec.recvCapSize := deletePacket_formed formed sound
  rcases flushStream_cases flush with ⟨rfl, closed_or⟩ | ⟨clnt, live, rfl⟩
  · refine kept_of_disposed pool deleted disposed ?_
    intro clnt live
    cases socket : clnt.sockimpl with
    | none => rfl
    | some phase =>
        have isOpen := opened clnt phase (sameClnt.symm.trans live) socket
        rcases closed_or clnt live with closed | isFlushed
        · rw [socket] at closed
          cases closed
        · rw [sameFlushed] at isFlushed
          exact absurd (isOpen.symm.trans isFlushed) Bool.false_ne_true
  · refine kept_of_disposed pool deleted disposed ?_
    rintro _ ⟨⟩
    rfl

theorem disposeConnection_kept (intact : conn.Intact codec) (vacant : conn.Vacant)
    (done : conn.disposeConnection = some next) : next.Intact codec ∧ next.Vacant := by
  cases disposed : conn.bDisposed with
  | false =>
      exact disposeConnection_first intact.formed intact.sound
        (fun clnt phase live socket => (intact.opened clnt phase live socket).1) disposed done
  | true =>
      rw [disposeConnection, if_pos disposed] at done
      cases done
      exact ⟨intact, vacant⟩

theorem disconnect_kept (intact : conn.Intact codec) (vacant : conn.Vacant)
    (done : conn.disconnect = some next) : next.Intact codec ∧ next.Vacant := by
  unfold disconnect at done
  split at done
  · rename_i running
    have opened : forall clnt phase, conn.clnt = .live clnt -> clnt.sockimpl = some phase ->
        conn.bFlushed = false :=
      fun clnt phase live socket => (intact.opened clnt phase live socket).1
    exact @disposeConnection_first codec { conn with bRunning := false, bConnected := false } next
      intact.formed intact.sound opened (Bool.eq_false_iff.mpr running.1) done
  · cases done
    exact ⟨intact, vacant⟩

theorem reopen_kept {nDelaySeconds : Int} (intact : conn.Intact codec) (vacant : conn.Vacant)
    (done : conn.reopen nDelaySeconds = some next) : next.Intact codec ∧ next.Vacant := by
  unfold reopen at done
  split at done
  · cases done
    exact ⟨intact, vacant⟩
  · rcases Option.bind_eq_some_iff.mp done with ⟨middle, stopped, delayed⟩
    have kept : middle.Intact codec ∧ middle.Vacant := by
      split at stopped
      · exact disconnect_kept intact vacant stopped
      · cases stopped
        exact ⟨intact, vacant⟩
    exact ⟨kept.1.delayReconnect delayed, kept.2.delayReconnect delayed⟩

/-! ## `Connect` and `Reconnect` -/

theorem poised_create {packet : TcpPacket} (sound : (conn.packetState packet).Sound codec)
    (idle : packet.Idle) (uninitialised : Memory UInt8) :
    Poised codec (BipBuf.create tcpStreamReadSize uninitialised) (conn.packetState packet) :=
  ⟨BipBuf.create_valid _ _, rfl, Nat.zero_lt_succ _, sound, Or.inl (Or.inl idle.1)⟩

theorem connect_kept {ip : List Char} {parsed started : Bool} {uninitialised : Memory UInt8}
    (intact : conn.Intact codec)
    (vacant : conn.Vacant) (done : conn.connect ip parsed started uninitialised = some next) :
    next.Intact codec ∧ next.Vacant := by
  unfold connect at done
  split at done
  · rename_i fresh
    rcases fresh with ⟨_, notDisposed, flushed, notRunning⟩
    have between := intact.unused (Bool.eq_false_iff.mpr notRunning)
      (Bool.eq_false_iff.mpr notDisposed)
    have idle : (conn.packet.getD .initial).Idle := by
      cases holds : conn.packet with
      | none => exact ⟨rfl, rfl⟩
      | some packet => exact between packet holds
    have sound : (conn.packetState (conn.packet.getD .initial)).Sound codec := by
      cases holds : conn.packet with
      | none => exact ⟨intact.formed, nofun⟩
      | some packet => exact intact.sound packet holds
    split at done
    · dsimp only at done
      split at done
      · cases done
        refine ⟨⟨intact.formed, ?_, ?_, ?_, ?_, ?_, nofun⟩, ?_⟩
        · rintro _ ⟨⟩
          exact sound
        · rintro _ _ ⟨⟩ ⟨⟩
          exact poised_create sound idle uninitialised
        · intro _ _ _ _
          exact ⟨rfl, rfl⟩
        · intro _ _ _
          rfl
        · intro _ _
          exact Or.inl rfl
        · rintro _ _ ⟨⟩ ⟨⟩ _
          exact ⟨rfl, rfl, idle⟩
      · cases done
        refine ⟨⟨intact.formed, ?_, nofun, nofun, nofun, nofun, ?_⟩, nofun⟩
        · rintro _ ⟨⟩
          exact sound
        · rintro _ _ _ ⟨⟩
          exact idle
    · cases done
      exact ⟨intact, vacant⟩
  · cases done

/-- What `Reconnect` does: it gives up while the stream is not flushed, it starts a
request on the handle, or it fails without a handle. -/
theorem reconnect_cases {started : Bool} (done : conn.reconnect started = some next) :
    conn.bDisposed = false ∧
    ((conn.bFlushed = false ∧
        next = { conn with bDelayReconnecting := false, bRunning := true }) ∨
      (conn.bFlushed = true ∧ Exists fun clnt => conn.clnt = .live clnt ∧
        next =
          { conn with
            clnt := .live { clnt with
              sockimpl := if started then some .connecting else clnt.sockimpl }
            bDelayReconnecting := false
            bRunning := true
            bFlushed := false }) ∨
      (conn.bFlushed = true ∧ started = false ∧ (forall clnt, conn.clnt ≠ .live clnt) ∧
        next =
          { conn with bDelayReconnecting := false, bRunning := true, bFlushed := false })) := by
  unfold reconnect at done
  split at done
  · cases done
  · rename_i kept
    refine ⟨Bool.eq_false_iff.mpr kept, ?_⟩
    dsimp only at done
    split at done
    · rename_i flushed
      split at done
      · rename_i clnt live
        cases done
        exact .inr (.inl ⟨flushed, clnt, live, rfl⟩)
      · rename_i missing
        split at done
        · cases done
        · rename_i fails
          cases done
          exact .inr (.inr ⟨flushed, Bool.eq_false_iff.mpr fails, missing, rfl⟩)
    · rename_i unflushed
      cases done
      exact .inl ⟨Bool.eq_false_iff.mpr unflushed, rfl⟩

theorem reconnect_kept {started : Bool} (intact : conn.Intact codec) (vacant : conn.Vacant)
    (done : conn.reconnect started = some next) : next.Intact codec ∧ next.Vacant := by
  rcases reconnect_cases done with
    ⟨undisposed, ⟨_, rfl⟩ | ⟨flushed, clnt, handle, rfl⟩ | ⟨_, _, missing, rfl⟩⟩
  · exact ⟨⟨intact.formed, intact.sound, intact.poised, intact.opened, intact.present,
      fun _ _ => Or.inl rfl, nofun⟩, vacant⟩
  · have present := intact.present clnt handle undisposed
    have down : clnt.sockimpl = none := by
      cases socket : clnt.sockimpl with
      | none => rfl
      | some phase =>
          have opened := (intact.opened clnt phase handle socket).1
          exact absurd (opened.symm.trans flushed) Bool.false_ne_true
    have notReading : clnt.sockimpl ≠ some .reading := by
      rw [down]
      nofun
    refine ⟨⟨intact.formed, intact.sound, ?_, fun _ _ _ _ => ⟨rfl, present⟩,
      fun _ _ _ => present, fun _ _ => Or.inl rfl, nofun⟩, ?_⟩
    · rintro _ packet ⟨⟩ holds
      exact intact.poised clnt packet handle holds
    · rintro _ packet ⟨⟩ holds _
      exact vacant clnt packet handle holds notReading
  · refine ⟨⟨intact.formed, intact.sound, ?_, ?_, ?_, fun _ _ => Or.inl rfl, nofun⟩, ?_⟩
    · exact fun clnt _ live _ => absurd live (missing clnt)
    · exact fun clnt _ live _ => absurd live (missing clnt)
    · exact fun clnt live _ => absurd live (missing clnt)
    · exact fun clnt _ live _ _ => absurd live (missing clnt)

/-! ## The callbacks -/

theorem withClient_eq {callback : ClientHandle -> Option UvIsolatedConn}
    (done : conn.withClient callback = some next) :
    Exists fun clnt => conn.clnt = .live clnt ∧ callback clnt = some next := by
  unfold withClient at done
  cases handle : conn.clnt with
  | null =>
      rw [handle] at done
      cases done
  | freed =>
      rw [handle] at done
      cases done
  | live clnt =>
      rw [handle] at done
      exact ⟨clnt, rfl, done⟩

theorem inPhase_eq {phase : SocketPhase} {callback : ClientHandle -> Option UvIsolatedConn}
    (done : conn.inPhase phase callback = some next) :
    Exists fun clnt => conn.clnt = .live clnt ∧ clnt.sockimpl = some phase ∧
      callback clnt = some next := by
  rcases withClient_eq done with ⟨clnt, live, called⟩
  split at called
  · rename_i socket
    exact ⟨clnt, live, socket, called⟩
  · cases called

/-- A change of the buffer that keeps its bytes. -/
theorem poised_setBuffer {bb other : BipBuf} {state : PacketState} (poised : Poised codec bb state)
    (valid : other.Valid) (capacity : other.availableCapacity = bb.availableCapacity)
    (same : other.committed = bb.committed) : Poised codec other state := by
  refine ⟨valid, capacity.trans poised.capacity, ?_, poised.sound, ?_⟩
  · rw [← BipBuf.length_committed, same, BipBuf.length_committed]
    exact poised.room
  · rw [same]
    exact poised.position

theorem Intact.setBuffer (intact : conn.Intact codec) {clnt : ClientHandle}
    (live : conn.clnt = .live clnt) {bb : BipBuf} (valid : bb.Valid)
    (capacity : bb.availableCapacity = clnt.bb.availableCapacity)
    (same : bb.committed = clnt.bb.committed) :
    (conn.setClient { clnt with bb := bb }).Intact codec := by
  refine ⟨intact.formed, intact.sound, ?_, ?_, ?_, ?_, intact.unused⟩
  · rintro _ packet ⟨⟩ holds
    exact poised_setBuffer (intact.poised clnt packet live holds) valid capacity same
  · rintro _ phase ⟨⟩ socket
    exact intact.opened clnt phase live socket
  · rintro _ ⟨⟩
    exact intact.present clnt live
  · rintro _ ⟨⟩
    exact intact.started clnt live

/-- A reading connection has nothing to be vacant about. -/
theorem vacant_of_reading {clnt : ClientHandle} (live : conn.clnt = .live clnt)
    (reading : clnt.sockimpl = some .reading) : conn.Vacant := by
  intro other packet same _ notReading
  rw [live] at same
  cases same
  exact absurd reading notReading

/-- `alloc_cb` keeps the committed bytes. -/
theorem allocated_keeps {bb : BipBuf} (valid : bb.Valid) (called : Bool) :
    (allocated bb called).Valid ∧
      (allocated bb called).availableCapacity = bb.availableCapacity ∧
      (allocated bb called).committed = bb.committed := by
  cases called with
  | false => exact ⟨valid, rfl, rfl⟩
  | true =>
      rcases BipBuf.reserve_refines valid with ⟨reservedValid, capacity, queue, _⟩
      exact ⟨reservedValid, capacity, queue⟩

/-- Committing nothing after `alloc_cb` closes the reservation and keeps the
bytes. -/
theorem commit_zero_keeps {bb : BipBuf} (valid : bb.Valid) (called : Bool) :
    ((allocated bb called).commit 0).Valid ∧
      ((allocated bb called).commit 0).availableCapacity = bb.availableCapacity ∧
      ((allocated bb called).commit 0).committed = bb.committed ∧
      ((allocated bb called).commit 0).getReservationSize = 0 := by
  rcases allocated_keeps valid called with ⟨allocatedValid, capacity, bytes⟩
  rcases BipBuf.commit_refines allocatedValid 0 with ⟨committedValid, step⟩
  have queue : ((allocated bb called).commit 0).committed =
      (allocated bb called).committed ++ (allocated bb called).reserved.take 0 :=
    congrArg BoundedFifo.queue step
  rw [List.take_zero, List.append_nil] at queue
  exact ⟨committedValid, capacity, queue.trans bytes, rfl⟩

/-- A connection with a socket has a packet object. -/
theorem Intact.poised_of_socket (intact : conn.Intact codec) {clnt : ClientHandle}
    {phase : SocketPhase} (live : conn.clnt = .live clnt) (socket : clnt.sockimpl = some phase) :
    Exists fun packet => conn.packet = some packet ∧
      Poised codec clnt.bb (conn.packetState packet) := by
  rcases Option.isSome_iff_exists.mp (intact.opened clnt phase live socket).2 with ⟨packet, holds⟩
  exact ⟨packet, holds, intact.poised clnt packet live holds⟩

/-- A chunk is only read into a new reservation. -/
theorem closed_of_feed {receiver : Receiver} {chunk : List UInt8} (valid : receiver.bb.Valid)
    (fed : receiver.feed codec chunk ≠ .refused) : receiver.bb.getReservationSize = 0 := by
  rcases BipBuf.reserve_cases valid with ⟨_, same⟩ | ⟨closed, _⟩ | ⟨closed, _⟩
  · refine absurd ?_ fed
    rw [Receiver.feed, same]
  · exact closed
  · exact closed

theorem received_kept {clnt : ClientHandle} {packet : TcpPacket} {chunk : List UInt8}
    {receiver : Receiver} (intact : conn.Intact codec) (live : conn.clnt = .live clnt)
    (holds : conn.packet = some packet)
    (fed : Receiver.feed codec ⟨clnt.bb, conn.packetState packet, conn.events⟩ chunk =
      .decoded receiver) : (conn.received clnt receiver).Intact codec := by
  have poised := intact.poised clnt packet live holds
  have closed : clnt.bb.getReservationSize = 0 :=
    closed_of_feed poised.valid (by rw [fed]; exact nofun)
  have nextPoised := (Receiver.feed_poised poised closed fed).1
  refine ⟨nextPoised.sound.pool, ?_, ?_, ?_, fun _ _ _ => rfl, ?_, ?_⟩
  · rintro _ ⟨⟩
    exact nextPoised.sound
  · rintro _ _ ⟨⟩ ⟨⟩
    exact nextPoised
  · rintro _ phase ⟨⟩ socket
    exact ⟨(intact.opened clnt phase live socket).1, rfl⟩
  · rintro _ ⟨⟩
    exact intact.started clnt live
  · intro (stopped : conn.bRunning = false) (alive : conn.bDisposed = false)
    rcases intact.started clnt live with running | disposed
    · rw [stopped] at running
      cases running
    · rw [alive] at disposed
      cases disposed

/-- Reading: nothing is lost, or the exception has left the callback. -/
theorem onRecv_kept {clnt : ClientHandle} {chunk : List UInt8} (intact : conn.Intact codec)
    (live : conn.clnt = .live clnt) (reading : clnt.sockimpl = some .reading)
    (done : conn.onRecv codec chunk clnt = some next) :
    next.thrown.isSome ∨ (next.Intact codec ∧ next.Vacant) := by
  unfold onRecv at done
  split at done
  · cases pointer : clnt.bb.reserve.pointer with
    | none =>
        rw [pointer] at done
        cases done
    | some _ =>
        rw [pointer] at done
        cases done
        rcases intact.poised_of_socket live reading with ⟨_, _, poised⟩
        rcases commit_zero_keeps poised.valid true with ⟨valid, capacity, bytes, _⟩
        exact Or.inr ⟨intact.setBuffer live valid capacity bytes, vacant_of_reading rfl reading⟩
  · cases holds : conn.packet with
    | none =>
        rw [holds] at done
        cases done
    | some packet =>
        rw [holds] at done
        dsimp only at done
        split at done
        · rename_i receiver fed
          cases done
          exact Or.inr ⟨received_kept intact live holds fed, vacant_of_reading rfl reading⟩
        · cases done
          exact Or.inl rfl
        · cases done

theorem onRecvEnd_kept {clnt : ClientHandle} {called : Bool} (intact : conn.Intact codec)
    (live : conn.clnt = .live clnt) (reading : clnt.sockimpl = some .reading)
    (empty : conn.committedSize = 0) (done : conn.onRecvEnd called clnt = some next) :
    next.Intact codec ∧ next.Vacant := by
  rcases intact.poised_of_socket live reading with ⟨_, _, poised⟩
  rcases commit_zero_keeps poised.valid called with ⟨valid, capacity, bytes, closed⟩
  rw [committedSize, live] at empty
  refine flushAndError_kept (intact.setBuffer live valid capacity bytes) ⟨?_, closed⟩ done
  change ((allocated clnt.bb called).commit 0).getCommittedSize = 0
  rw [← BipBuf.committed_eq_nil_iff, bytes, BipBuf.committed_eq_nil_iff]
  exact empty

theorem onRecvError_kept {clnt : ClientHandle} {called : Bool} (intact : conn.Intact codec)
    (live : conn.clnt = .live clnt) (reading : clnt.sockimpl = some .reading)
    (done : conn.onRecvError called clnt = some next) : next.Intact codec ∧ next.Vacant := by
  rcases intact.poised_of_socket live reading with ⟨_, _, poised⟩
  rcases allocated_keeps poised.valid called with ⟨valid, capacity, bytes⟩
  cases done
  exact ⟨intact.setBuffer live valid capacity bytes, vacant_of_reading rfl reading⟩

theorem onConnect_eq (conn : UvIsolatedConn) :
    Exists fun connected => conn.onConnect = { conn with bConnected := connected } := by
  unfold onConnect
  split
  · exact ⟨true, rfl⟩
  · exact ⟨conn.bConnected, rfl⟩

theorem onConnectCb_kept {outcome : ConnectOutcome} (intact : conn.Intact codec)
    (clean : conn.CleanLoss (.connectCb outcome)) (done : conn.onConnectCb outcome = some next) :
    next.Intact codec ∧ next.Vacant := by
  cases outcome with
  | connected =>
      rcases inPhase_eq done with ⟨clnt, live, socket, called⟩
      rcases onConnect_eq (conn.established clnt) with ⟨connected, same⟩
      rw [same] at called
      cases called
      refine ⟨⟨intact.formed, intact.sound, ?_, ?_, ?_, ?_, intact.unused⟩,
        vacant_of_reading rfl rfl⟩
      · rintro _ packet ⟨⟩ holds
        exact intact.poised clnt packet live holds
      · rintro _ phase ⟨⟩ _
        exact intact.opened clnt _ live socket
      · rintro _ ⟨⟩
        exact intact.present clnt live
      · rintro _ ⟨⟩
        exact intact.started clnt live
  | setupFailed =>
      rcases inPhase_eq done with ⟨clnt, live, socket, called⟩
      cases called
      exact ⟨⟨intact.formed, intact.sound, nofun, nofun, nofun, nofun, intact.unused⟩, nofun⟩
  | failed =>
      rcases withClient_eq done with ⟨clnt, live, called⟩
      exact flushAndError_kept intact clean called

end Operations

/-! ## Whole histories -/

/-- A connection that has thrown, or that holds nothing while it is down. -/
def Kept (codec : Codec) (conn : UvIsolatedConn) : Prop :=
  conn.thrown.isSome ∨ (conn.Intact codec ∧ conn.Vacant)

theorem Kept.step {codec : Codec} {conn next : UvIsolatedConn} {event : UvEvent}
    (kept : conn.Kept codec) (step : conn.CleanStep codec event next) : next.Kept codec := by
  rcases step with ⟨done, clean⟩
  unfold Step perform at done
  split at done
  · cases done
  · rename_i notThrown
    rcases kept with thrown | ⟨intact, vacant⟩
    · exact absurd thrown notThrown
    · cases event with
      | connect ip parsed started uninitialised => exact Or.inr (connect_kept intact vacant done)
      | connectCb outcome => exact Or.inr (onConnectCb_kept intact clean done)
      | recv chunk =>
          rcases inPhase_eq done with ⟨clnt, live, reading, called⟩
          exact onRecv_kept intact live reading called
      | recvEnd called =>
          rcases inPhase_eq done with ⟨clnt, live, reading, ended⟩
          exact Or.inr (onRecvEnd_kept intact live reading clean ended)
      | recvError called =>
          rcases inPhase_eq done with ⟨clnt, live, reading, waiting⟩
          exact Or.inr (onRecvError_kept intact live reading waiting)
      | sendFailed =>
          rcases withClient_eq done with ⟨clnt, live, called⟩
          exact Or.inr (flushAndError_kept intact clean called)
      | timer started =>
          change conn.onTimer started = some next at done
          unfold onTimer at done
          split at done
          · have stopped : ({ conn with reconnectTimer := some false } : UvIsolatedConn).Intact codec :=
              ⟨intact.formed, intact.sound, intact.poised, intact.opened, intact.present,
                intact.started, intact.unused⟩
            exact Or.inr (reconnect_kept stopped vacant done)
          · cases done
      | reconnect started => exact Or.inr (reconnect_kept intact vacant done)
      | reopen nDelaySeconds => exact Or.inr (reopen_kept intact vacant done)
      | flushStream =>
          refine Or.inr ⟨intact.flushStream done, ?_⟩
          cases flushes : conn.flushes with
          | false =>
              rw [flushStream_of_idle flushes done]
              exact vacant
          | true =>
              rcases flushStream_cases done with ⟨rfl, _⟩ | ⟨clnt, live, rfl⟩
              · exact vacant
              · rcases clean flushes with ⟨drained, between⟩
                have empty := drained.bb live
                rintro _ packet ⟨⟩ holds _
                exact ⟨empty.1, empty.2, between packet holds⟩
      | onIsolatedError =>
          refine Or.inr ⟨intact.onIsolatedError done, onIsolatedError_vacant ?_ done⟩
          rcases onIsolatedError_cases done with ⟨packet, holds, _⟩
          intro clnt live down
          have facts := vacant clnt packet live holds down
          exact ⟨facts.1, facts.2.1⟩
      | disconnect => exact Or.inr (disconnect_kept intact vacant done)
      | disposeConnection => exact Or.inr (disposeConnection_kept intact vacant done)

theorem initial_kept {codec : Codec} {recvPool : BufferPool}
    (formed : recvPool.WellFormed codec.recvCapSize) (sendPool : BufferPool) :
    (initial recvPool sendPool).Kept codec :=
  Or.inr ⟨⟨formed, nofun, nofun, nofun, nofun, nofun, nofun⟩, nofun⟩

end UvIsolatedConn
end NetSystem
