import NetSystem.Tcp.KjConn

namespace NetSystem

/-!
# The link events of the four isolated classes

What an isolated connection posts to the front end when its link comes up or is
lost, with the front end running the posted callbacks one at a time in between.
The classes differ in one condition: `CKjIsolatedConn` and
`CKjGateIsolatedConn2` report a lost link also when the connect callback has
been posted and not yet run, `CKjIsolatedConn2` and `CKjGateIsolatedConn` do
not.
-/

namespace KjConn

/-- The same flags on an object of another class. -/
def ofClass (conn : KjConn) (kind : KjClass) : KjConn := { conn with kind := kind }

@[simp] theorem ofClass_ofClass (conn : KjConn) (kind other : KjClass) :
    (conn.ofClass kind).ofClass other = conn.ofClass other := rfl

@[simp] theorem onConnect_ofClass (conn : KjConn) (kind : KjClass) :
    (conn.ofClass kind).onConnect = (conn.onConnect.1.ofClass kind, conn.onConnect.2) := by
  cases running : conn.bRunning <;> cases connected : conn.flags.bConnected <;>
    simp [onConnect, ofClass, running, connected]

@[simp] theorem onDisconnect_ofClass (conn : KjConn) (kind : KjClass) :
    (conn.ofClass kind).onDisconnect =
      (conn.onDisconnect.1.ofClass kind, conn.onDisconnect.2) := by
  cases connected : conn.flags.bConnected <;> simp [onDisconnect, ofClass, connected]

@[simp] theorem onLowLevelConnect_ofClass (conn : KjConn) (kind : KjClass) :
    (conn.ofClass kind).onLowLevelConnect =
      (conn.onLowLevelConnect.1.ofClass kind, conn.onLowLevelConnect.2) := by
  cases connected : conn.flags.bConnected <;> simp [onLowLevelConnect, ofClass, connected]

theorem lowLevelDisconnect_ofClass (conn : KjConn) (kind : KjClass) (condition : Bool) :
    (conn.ofClass kind).lowLevelDisconnect condition =
      (((conn.ofClass .isolatedConn).lowLevelDisconnect condition).1.ofClass kind,
        ((conn.ofClass .isolatedConn).lowLevelDisconnect condition).2) := by
  cases condition <;> rfl

end KjConn

/-- An isolated connection with its callbacks that the front end has not run. -/
structure LinkMachine where
  conn : KjConn
  trunkQueue : List LinkCb

/-- What happens to the link, and the front end running one callback. -/
inductive LinkEvent where
  | lowLevelConnect
  | lowLevelDisconnect
  | runCallback
deriving DecidableEq

namespace LinkMachine

/-- The front end runs the first callback. -/
def runCallback (machine : LinkMachine) : LinkMachine :=
  match machine.trunkQueue with
  | [] => machine
  | .connect :: later => ⟨machine.conn.onConnect.1, later⟩
  | .disconnect :: later => ⟨machine.conn.onDisconnect.1, later⟩

/-- One event, with what it posts. -/
def perform (machine : LinkMachine) : LinkEvent -> LinkMachine × List LinkCb
  | .lowLevelConnect =>
      let reported := machine.conn.onLowLevelConnect
      (⟨reported.1, machine.trunkQueue ++ reported.2⟩, reported.2)
  | .lowLevelDisconnect =>
      let reported := machine.conn.onLowLevelDisconnect
      (⟨reported.1, machine.trunkQueue ++ reported.2⟩, reported.2)
  | .runCallback => (machine.runCallback, [])

/-- The state after a sequence of events. -/
def after (machine : LinkMachine) (events : List LinkEvent) : LinkMachine :=
  events.foldl (fun state event => (state.perform event).1) machine

/-- The callbacks posted along a sequence of events, in order. -/
def posted (machine : LinkMachine) : List LinkEvent -> List LinkCb
  | [] => []
  | event :: events => (machine.perform event).2 ++ (machine.perform event).1.posted events

/-- The same callbacks of an object of another class. -/
def ofClass (machine : LinkMachine) (kind : KjClass) : LinkMachine :=
  { machine with conn := machine.conn.ofClass kind }

/-- The connect callback of the link has been posted, but not run. -/
def Unseen (machine : LinkMachine) : Prop :=
  machine.conn.bConnectedEventPosted = true ∧ machine.conn.flags.bConnected = false

instance (machine : LinkMachine) : Decidable machine.Unseen := inferInstanceAs (Decidable (_ ∧ _))

/-- All four classes post the same callbacks, at every point of the sequence. -/
def SameLogic (machine : LinkMachine) (events : List LinkEvent) : Prop :=
  forall before, before <+: events ->
    (machine.ofClass .isolatedConn2).posted before =
        (machine.ofClass .isolatedConn).posted before ∧
      (machine.ofClass .gateIsolatedConn).posted before =
        (machine.ofClass .isolatedConn).posted before ∧
      (machine.ofClass .gateIsolatedConn2).posted before =
        (machine.ofClass .isolatedConn).posted before

/-- No link is lost while its connect callback is unseen. -/
def AllSeen (machine : LinkMachine) (events : List LinkEvent) : Prop :=
  forall before later, events = before ++ .lowLevelDisconnect :: later ->
    ¬ ((machine.ofClass .isolatedConn).after before).Unseen

/-! ## One event -/

/-- A class with the condition of `CKjIsolatedConn`. -/
def ReportsUnseen (kind : KjClass) : Prop :=
  kind = .isolatedConn ∨ kind = .gateIsolatedConn2

/-- An isolated class. -/
def IsIsolated (kind : KjClass) : Prop :=
  ReportsUnseen kind ∨ kind = .isolatedConn2 ∨ kind = .gateIsolatedConn

/-- An event of another class that reports the same under the same flags. -/
theorem perform_ofClass_of_reported {kind : KjClass} {machine : LinkMachine} {event : LinkEvent}
    (reported : event = .lowLevelDisconnect ->
      (machine.ofClass kind).conn.onLowLevelDisconnect =
        ((machine.ofClass .isolatedConn).conn.onLowLevelDisconnect.1.ofClass kind,
          (machine.ofClass .isolatedConn).conn.onLowLevelDisconnect.2)) :
    (machine.ofClass kind).perform event =
      (((machine.ofClass .isolatedConn).perform event).1.ofClass kind,
        ((machine.ofClass .isolatedConn).perform event).2) := by
  cases event with
  | lowLevelConnect => simp [perform, ofClass]
  | lowLevelDisconnect =>
      have known := reported rfl
      simp only [ofClass] at known
      simp [perform, ofClass, known]
  | runCallback =>
      rcases machine with ⟨conn, trunkQueue⟩
      cases trunkQueue with
      | nil => rfl
      | cons first later => cases first <;> simp [perform, runCallback, ofClass]

theorem perform_reportsUnseen {kind : KjClass} (reports : ReportsUnseen kind)
    (machine : LinkMachine) (event : LinkEvent) :
    (machine.ofClass kind).perform event =
      (((machine.ofClass .isolatedConn).perform event).1.ofClass kind,
        ((machine.ofClass .isolatedConn).perform event).2) := by
  apply perform_ofClass_of_reported
  intro _
  rcases reports with rfl | rfl
  · exact machine.conn.lowLevelDisconnect_ofClass .isolatedConn _
  · exact machine.conn.lowLevelDisconnect_ofClass .gateIsolatedConn2 _

/-- The other classes differ only on an unseen link that is lost. -/
theorem perform_seen {kind : KjClass} (isolated : IsIsolated kind) {machine : LinkMachine}
    {event : LinkEvent} (seen : event = .lowLevelDisconnect -> ¬ machine.Unseen) :
    (machine.ofClass kind).perform event =
      (((machine.ofClass .isolatedConn).perform event).1.ofClass kind,
        ((machine.ofClass .isolatedConn).perform event).2) := by
  rcases isolated with reports | other
  · exact perform_reportsUnseen reports machine event
  · apply perform_ofClass_of_reported
    intro lost
    have condition : (machine.conn.flags.bConnected || machine.conn.bConnectedEventPosted) =
        machine.conn.flags.bConnected := by
      have known := seen lost
      unfold Unseen at known
      revert known
      cases machine.conn.flags.bConnected <;> cases machine.conn.bConnectedEventPosted <;> simp
    have same : (machine.ofClass .isolatedConn).conn.onLowLevelDisconnect =
        (machine.ofClass .isolatedConn).conn.lowLevelDisconnect machine.conn.flags.bConnected :=
      congrArg (machine.ofClass .isolatedConn).conn.lowLevelDisconnect condition
    rw [same]
    rcases other with rfl | rfl
    · exact machine.conn.lowLevelDisconnect_ofClass .isolatedConn2 _
    · exact machine.conn.lowLevelDisconnect_ofClass .gateIsolatedConn _

/-- An unseen link that is lost is reported by one class and not by the other. -/
theorem posted_unseen {machine : LinkMachine} (unseen : machine.Unseen) :
    (machine.ofClass .isolatedConn).posted [.lowLevelDisconnect] = [.disconnect] ∧
      (machine.ofClass .isolatedConn2).posted [.lowLevelDisconnect] = [] := by
  rcases unseen with ⟨flagged, disconnected⟩
  simp [posted, perform, ofClass, KjConn.ofClass, KjConn.onLowLevelDisconnect,
    KjConn.isolatedConnOnLowLevelDisconnect, KjConn.isolatedConn2OnLowLevelDisconnect,
    KjConn.lowLevelDisconnect, flagged, disconnected]

/-! ## Sequences of events -/

/-- The class is read only where a lost link is reported. -/
@[simp] theorem unseen_ofClass (machine : LinkMachine) (kind : KjClass) :
    (machine.ofClass kind).Unseen ↔ machine.Unseen := Iff.rfl

/-- One step of `CKjIsolatedConn` leaves an object of that class. -/
theorem perform_ofClass (machine : LinkMachine) (event : LinkEvent) :
    (((machine.ofClass .isolatedConn).perform event).1).ofClass .isolatedConn =
      ((machine.ofClass .isolatedConn).perform event).1 :=
  (congrArg Prod.fst (perform_reportsUnseen (Or.inl rfl) machine event)).symm

theorem AllSeen.cons_iff {machine : LinkMachine} {event : LinkEvent} {events : List LinkEvent} :
    machine.AllSeen (event :: events) ↔ (event = .lowLevelDisconnect -> ¬ machine.Unseen) ∧
      ((machine.ofClass .isolatedConn).perform event).1.AllSeen events := by
  constructor
  · intro allSeen
    refine ⟨?_, ?_⟩
    · rintro rfl
      exact allSeen [] events rfl
    · intro before later split
      rw [perform_ofClass]
      exact allSeen (event :: before) later (by rw [split]; rfl)
  · rintro ⟨first, rest⟩ before later split
    cases before with
    | nil =>
        cases split
        exact first rfl
    | cons head before =>
        cases split
        have seen := rest before later rfl
        rw [perform_ofClass] at seen
        exact seen

/-- Where every lost link has been seen, a class posts what `CKjIsolatedConn`
posts. -/
theorem posted_eq_of_allSeen {kind : KjClass} (isolated : IsIsolated kind)
    (events : List LinkEvent) (machine : LinkMachine) (allSeen : machine.AllSeen events) :
    (machine.ofClass kind).posted events = (machine.ofClass .isolatedConn).posted events := by
  induction events generalizing machine with
  | nil => rfl
  | cons event events inductionHypothesis =>
      rcases AllSeen.cons_iff.mp allSeen with ⟨first, rest⟩
      have later := inductionHypothesis _ rest
      rw [perform_ofClass] at later
      rw [posted, posted, perform_seen isolated first, later]

theorem AllSeen.of_prefix {machine : LinkMachine} {before events : List LinkEvent}
    (allSeen : machine.AllSeen events) (initial : before <+: events) : machine.AllSeen before := by
  rcases initial with ⟨rest, rfl⟩
  intro front later split
  exact allSeen front (later ++ rest) (by rw [split]; simp)

/-- The classes that post the same have seen every lost link. -/
theorem allSeen_of_posted_eq (events : List LinkEvent) (machine : LinkMachine)
    (same : forall before, before <+: events -> (machine.ofClass .isolatedConn2).posted before =
      (machine.ofClass .isolatedConn).posted before) : machine.AllSeen events := by
  induction events generalizing machine with
  | nil =>
      intro before later split
      cases before <;> cases split
  | cons event events inductionHypothesis =>
      have first : event = .lowLevelDisconnect -> ¬ machine.Unseen := by
        rintro rfl unseen
        rcases posted_unseen unseen with ⟨reported, missing⟩
        have equal := same [.lowLevelDisconnect] ⟨events, rfl⟩
        rw [reported, missing] at equal
        cases equal
      refine AllSeen.cons_iff.mpr ⟨first, inductionHypothesis _ ?_⟩
      intro before initial
      have longer := same (event :: before) (List.cons_prefix_cons.mpr ⟨rfl, initial⟩)
      have matched : (machine.ofClass .isolatedConn2).perform event = _ :=
        perform_seen (Or.inr (Or.inl rfl)) first
      rw [posted, posted, matched] at longer
      rw [perform_ofClass]
      exact List.append_cancel_left longer

/-- The four classes post the same callbacks exactly when no link is lost while
its connect callback has been posted and not yet run. -/
theorem sameLogic_iff_allSeen (machine : LinkMachine) (events : List LinkEvent) :
    machine.SameLogic events ↔ machine.AllSeen events := by
  constructor
  · intro same
    exact allSeen_of_posted_eq events machine fun before initial => (same before initial).1
  · intro allSeen before initial
    have seen := allSeen.of_prefix initial
    exact ⟨posted_eq_of_allSeen (Or.inr (Or.inl rfl)) before machine seen,
      posted_eq_of_allSeen (Or.inr (Or.inr rfl)) before machine seen,
      posted_eq_of_allSeen (Or.inl (Or.inr rfl)) before machine seen⟩

/-- A running isolated connection without a link. -/
def unlinked : LinkMachine where
  conn := { KjState.initial .isolatedConn 0 with
    bRunning := true
    thrTasks := true
    thrTcpStream := true
    thrPacket := true
    connecting := true
    flags := .initial false }
  trunkQueue := []

/-- The link comes up and is lost before the front end has run the connect
callback: two of the classes never report the loss. -/
theorem link_lost_unseen :
    (unlinked.ofClass .isolatedConn).posted [.lowLevelConnect, .lowLevelDisconnect] =
        [.connect, .disconnect] ∧
      (unlinked.ofClass .gateIsolatedConn2).posted [.lowLevelConnect, .lowLevelDisconnect] =
        [.connect, .disconnect] ∧
      (unlinked.ofClass .isolatedConn2).posted [.lowLevelConnect, .lowLevelDisconnect] =
        [.connect] ∧
      (unlinked.ofClass .gateIsolatedConn).posted [.lowLevelConnect, .lowLevelDisconnect] =
        [.connect] ∧
      ¬ unlinked.SameLogic [.lowLevelConnect, .lowLevelDisconnect] := by
  refine ⟨rfl, rfl, rfl, rfl, ?_⟩
  intro same
  have equal := (same _ (List.prefix_refl _)).1
  exact absurd equal (by decide)

end LinkMachine
end NetSystem
