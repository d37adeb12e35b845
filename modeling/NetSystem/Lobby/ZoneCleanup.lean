import NetSystem.Lobby.ZoneUpdates

namespace NetSystem

/-!
# Removing a zone with what belongs to it

What `Register` and `Unregister` leave of the channels and peer lists, and what
`UnregisterByConnId` leaves of them, compared with unregistering each zone of
the connection.
-/

namespace SimpleZoneManager

/-! ## One zone -/

/-- `Register` or `Unregister` of a zone, with the other arguments. -/
inductive ZoneVisit where
  | register (uConnId : UInt64) (sDomain sIp : List Char) (nPort : UInt16) (ip : IpNumArray)
  | unregister

namespace ZoneVisit

def run (visit : ZoneVisit) (nZoneId : Int) (manager : SimpleZoneManager) : SimpleZoneManager :=
  match visit with
  | .register uConnId sDomain sIp nPort ip =>
      manager.register nZoneId uConnId sDomain sIp nPort ip
  | .unregister => manager.unregister nZoneId

/-- The call does something: the address may register, or the zone is there. -/
def TakesEffect (visit : ZoneVisit) (nZoneId : Int) (manager : SimpleZoneManager) : Prop :=
  match visit with
  | .register _ _ sIp _ ip => manager.checkIpInWhiteList sIp ip = true
  | .unregister => (manager.getZone nZoneId).isSome = true

instance (visit : ZoneVisit) (nZoneId : Int) (manager : SimpleZoneManager) :
    Decidable (visit.TakesEffect nZoneId manager) := by
  cases visit <;> exact inferInstanceAs (Decidable (_ = true))

section Run

variable {visit : ZoneVisit} {nZoneId : Int} {manager : SimpleZoneManager}

theorem run_of_idle (idle : Not (visit.TakesEffect nZoneId manager)) :
    visit.run nZoneId manager = manager := by
  cases visit with
  | register uConnId sDomain sIp nPort ip =>
      apply register_of_refused
      simpa [TakesEffect] using idle
  | unregister =>
      apply unregister_of_absent
      simpa [TakesEffect] using idle

theorem getChannel_run_iff (effective : visit.TakesEffect nZoneId manager) (channel : Int)
    (info : MyChannelInfo) :
    (visit.run nZoneId manager).getChannel channel = some info ↔
      manager.getChannel channel = some info ∧ info.nZoneId ≠ nZoneId := by
  cases visit with
  | register uConnId sDomain sIp nPort ip => exact getChannel_register_iff effective channel info
  | unregister =>
      rcases Option.isSome_iff_exists.mp effective with ⟨there, found⟩
      exact getChannel_unregister_iff found channel info

theorem getChannelPeers_run_iff (effective : visit.TakesEffect nZoneId manager) (channel : Int)
    (peers : List MyChannelPeer) :
    (visit.run nZoneId manager).getChannelPeers channel = some peers ↔
      manager.getChannelPeers channel = some peers ∧ manager.Kept [nZoneId] channel := by
  cases visit with
  | register uConnId sDomain sIp nPort ip =>
      exact getChannelPeers_register_iff effective channel peers
  | unregister =>
      rcases Option.isSome_iff_exists.mp effective with ⟨there, found⟩
      exact getChannelPeers_unregister_iff found channel peers

end Run

end ZoneVisit

/-- Channels of other registered zones, with their peer lists, are as before,
and of the zone itself no channel is left and no peer list of one. -/
structure TouchesOnly (before : SimpleZoneManager) (nZoneId : Int) (after : SimpleZoneManager) :
    Prop where
  channels : forall channel info zone, 0 ≤ channel -> before.getChannel channel = some info ->
    info.nZoneId ≠ nZoneId -> before.getZone info.nZoneId = some zone ->
      after.getChannel channel = some info
  peers : forall channel info zone, 0 ≤ channel -> before.getChannel channel = some info ->
    info.nZoneId ≠ nZoneId -> before.getZone info.nZoneId = some zone ->
      after.getChannelPeers channel = before.getChannelPeers channel
  noChannel : forall channel info, after.getChannel channel = some info -> info.nZoneId ≠ nZoneId
  noPeers : forall channel info, before.getChannel channel = some info ->
    info.nZoneId = nZoneId -> after.getChannelPeers channel = none

/-- Each registered channel of another registered zone either has no peer list,
or is not channel 0 and its zone does not carry the number of the given one. -/
def PeersApart (manager : SimpleZoneManager) (nZoneId : Int) : Prop :=
  forall channel info zone, 0 ≤ channel -> manager.getChannel channel = some info ->
    info.nZoneId ≠ nZoneId -> manager.getZone info.nZoneId = some zone ->
      manager.getChannelPeers channel = none ∨ (channel ≠ 0 ∧ zone.nZoneId ≠ nZoneId)

section Frame

variable {visit : ZoneVisit} {nZoneId : Int} {manager : SimpleZoneManager}

/-- The peer list of a channel of another zone is kept exactly when the test of
`RemoveDirtyPeers` finds the zone under a number of its own. -/
theorem getChannelPeers_run_eq_iff (effective : visit.TakesEffect nZoneId manager) {channel : Int}
    {info : MyChannelInfo} {zone : MyZoneInfo} (accepted : 0 ≤ channel)
    (registered : manager.getChannel channel = some info) (other : info.nZoneId ≠ nZoneId)
    (found : manager.getZone info.nZoneId = some zone) :
    (visit.run nZoneId manager).getChannelPeers channel = manager.getChannelPeers channel ↔
      manager.getChannelPeers channel = none ∨ (channel ≠ 0 ∧ zone.nZoneId ≠ nZoneId) := by
  have spared : manager.Kept [nZoneId] channel ↔ channel ≠ 0 ∧ zone.nZoneId ≠ nZoneId := by
    unfold Kept
    constructor
    · rintro ⟨positive, info', zone', registered', _, found', different⟩
      rw [registered] at registered'
      rw [← Option.some.inj registered', found] at found'
      rw [← Option.some.inj found'] at different
      exact ⟨by omega, by simpa using different⟩
    · rintro ⟨nonzero, different⟩
      exact ⟨by omega, info, zone, registered, by simpa using other, found, by simpa using different⟩
  have run := ZoneVisit.getChannelPeers_run_iff effective channel
  cases before : manager.getChannelPeers channel with
  | none =>
      simp only [true_or, iff_true]
      cases after : (visit.run nZoneId manager).getChannelPeers channel with
      | none => rfl
      | some peers =>
          have kept := ((run peers).mp after).1
          rw [before] at kept
          cases kept
  | some peers =>
      rw [run peers, spared, before]
      simp

/-- A call touches only its own zone exactly when it takes effect and finds the
peers apart, or does nothing and there is no channel of the zone. -/
theorem touchesOnly_run_iff (visit : ZoneVisit) (nZoneId : Int) (manager : SimpleZoneManager) :
    manager.TouchesOnly nZoneId (visit.run nZoneId manager) ↔
      (visit.TakesEffect nZoneId manager ∧ manager.PeersApart nZoneId) ∨
        (Not (visit.TakesEffect nZoneId manager) ∧
          forall channel info, manager.getChannel channel = some info ->
            info.nZoneId ≠ nZoneId) := by
  by_cases effective : visit.TakesEffect nZoneId manager
  · have channels := ZoneVisit.getChannel_run_iff effective
    simp only [effective, true_and, not_true_eq_false, false_and, or_false]
    constructor
    · intro touches channel info zone accepted registered other found
      exact (getChannelPeers_run_eq_iff effective accepted registered other found).mp
        (touches.peers channel info zone accepted registered other found)
    · intro apart
      constructor
      · intro channel info zone _ registered other _
        exact (channels channel info).mpr ⟨registered, other⟩
      · intro channel info zone accepted registered other found
        exact (getChannelPeers_run_eq_iff effective accepted registered other found).mpr
          (apart channel info zone accepted registered other found)
      · intro channel info after
        exact ((channels channel info).mp after).2
      · intro channel info registered same
        cases after : (visit.run nZoneId manager).getChannelPeers channel with
        | none => rfl
        | some peers =>
            rcases ((ZoneVisit.getChannelPeers_run_iff effective channel peers).mp after).2 with
              ⟨_, info', _, registered', other, _⟩
            rw [registered] at registered'
            rw [← Option.some.inj registered', same] at other
            simp at other
  · rw [ZoneVisit.run_of_idle effective]
    simp only [effective, false_and, not_false_eq_true, true_and, false_or]
    constructor
    · intro touches
      exact touches.noChannel
    · intro noChannel
      constructor
      · intro channel info zone _ registered _ _
        exact registered
      · intro channel info zone _ _ _ _
        rfl
      · exact noChannel
      · intro channel info registered same
        exact absurd same (noChannel channel info registered)

/-- The peers of channel 0 are lost when another zone registers. -/
theorem not_touchesOnly_of_channel_zero :
    Not (forall (visit : ZoneVisit) (nZoneId : Int) (manager : SimpleZoneManager),
      visit.TakesEffect nZoneId manager ->
        manager.TouchesOnly nZoneId (visit.run nZoneId manager)) := by
  intro always
  let calls : List ZoneCall :=
    [.register 1 7 [] [] 80 fun _ => 0, .registerChannel ⟨0, 0, [], false, 1⟩,
      .addChannelPeer 0 9]
  let manager := calls.foldl (fun manager call => manager.perform call) initial
  have touches := always (.register 8 [] [] 80 fun _ => 0) 2 manager (by decide)
  have same := touches.peers 0 ⟨0, 0, [], false, 1⟩ (registeredInfo 1 7 [] [] 80) (by decide)
    (by decide) (by decide) (by decide)
  revert same
  decide

end Frame

/-! ## Whole runs -/

/-- Every zone carries the number that it is found under. -/
def Numbered (manager : SimpleZoneManager) : Prop :=
  forall zone info, manager.getZone zone = some info -> info.nZoneId = zone

theorem Numbered.perform {manager : SimpleZoneManager} (numbered : manager.Numbered)
    (call : ZoneCall) : (manager.perform call).Numbered := by
  intro zone info found
  cases call with
  | register nZoneId uConnId sDomain sIp nPort ip =>
      change (manager.register nZoneId uConnId sDomain sIp nPort ip).getZone zone = _ at found
      cases white : manager.checkIpInWhiteList sIp ip with
      | false =>
          rw [register_of_refused white] at found
          exact numbered zone info found
      | true =>
          rcases (getZone_register_iff white zone info).mp found with ⟨same, written⟩ | ⟨_, before⟩
          · rw [same, written]
            rfl
          · exact numbered zone info before
  | unregister nZoneId =>
      exact numbered zone info ((getZone_unregister_iff nZoneId zone info).mp found).2
  | unregisterByConnId uConnId =>
      exact numbered zone info ((getZone_unregisterByConnId_iff uConnId zone info).mp found).1
  | setWhiteName buffer sIp sMask ipPair =>
      apply numbered zone info
      rw [← getZone_setWhiteName buffer sIp sMask ipPair zone]
      exact found
  | registerChannel pChannelInfo =>
      apply numbered zone info
      rw [← getZone_registerChannel pChannelInfo zone]
      exact found
  | addChannelPeer nChannelId nPeerId =>
      apply numbered zone info
      rw [← getZone_addChannelPeer nChannelId nPeerId zone]
      exact found
  | removeChannelPeer nChannelId nPeerId =>
      apply numbered zone info
      rw [← getZone_removeChannelPeer nChannelId nPeerId zone]
      exact found

theorem Numbered.run {manager : SimpleZoneManager} (numbered : manager.Numbered)
    (calls : List ZoneCall) :
    (calls.foldl (fun manager call => manager.perform call) manager).Numbered := by
  induction calls generalizing manager with
  | nil => exact numbered
  | cons call calls inductionHypothesis =>
      rw [List.foldl_cons]
      exact inductionHypothesis (numbered.perform call)

theorem numbered_initial : initial.Numbered := by
  intro zone info found
  cases found

/-- After any calls, only the peers of channel 0 are in the way. -/
theorem peersApart_run (calls : List ZoneCall) {nZoneId : Int}
    (empty : (calls.foldl (fun manager call => manager.perform call) initial).getChannelPeers 0 =
      none) :
    (calls.foldl (fun manager call => manager.perform call) initial).PeersApart nZoneId := by
  intro channel info zone _ _ other found
  by_cases zero : channel = 0
  · rw [zero]
    exact Or.inl empty
  · apply Or.inr
    rw [(numbered_initial.run calls) _ _ found]
    exact ⟨zero, other⟩

/-! ## All zones of a connection -/

/-- The zones that hold the connection id. -/
def zonesOf (uConnId : UInt64) (manager : SimpleZoneManager) : List Int :=
  KeyedMap.keysIf (fun _ pZoneInfo => hasConnId uConnId pZoneInfo) manager.mapZoneInfos

/-- `Unregister` for each of the zones. -/
def unregisterAll : List Int -> SimpleZoneManager -> SimpleZoneManager
  | [], manager => manager
  | nZoneId :: zones, manager => unregisterAll zones (manager.unregister nZoneId)

theorem getZone_unregisterAll_iff (zones : List Int) (manager : SimpleZoneManager) (zone : Int)
    (info : MyZoneInfo) :
    (unregisterAll zones manager).getZone zone = some info ↔
      zone ∉ zones ∧ manager.getZone zone = some info := by
  induction zones generalizing manager with
  | nil => simp [unregisterAll]
  | cons nZoneId zones inductionHypothesis =>
      rw [unregisterAll, inductionHypothesis, getZone_unregister_iff]
      simp only [List.mem_cons, not_or, ← and_assoc]
      exact and_congr_left' and_comm

/-- The zones are registered, each listed once. -/
structure AllThere (manager : SimpleZoneManager) (zones : List Int) : Prop where
  nodup : zones.Nodup
  there : forall zone, zone ∈ zones -> Exists fun info => manager.getZone zone = some info

theorem AllThere.next {manager : SimpleZoneManager} {nZoneId : Int} {zones : List Int}
    (all : manager.AllThere (nZoneId :: zones)) : (manager.unregister nZoneId).AllThere zones where
  nodup := (List.nodup_cons.mp all.nodup).2
  there := by
    intro zone member
    rcases all.there zone (List.mem_cons_of_mem _ member) with ⟨info, found⟩
    have other : zone ≠ nZoneId := by
      intro same
      exact (List.nodup_cons.mp all.nodup).1 (same ▸ member)
    exact ⟨info, (getZone_unregister_iff nZoneId zone info).mpr ⟨other, found⟩⟩

section UnregisterAll

variable {manager : SimpleZoneManager} {zones : List Int}

theorem getChannel_unregisterAll_iff (all : manager.AllThere zones) (channel : Int)
    (info : MyChannelInfo) :
    (unregisterAll zones manager).getChannel channel = some info ↔
      manager.getChannel channel = some info ∧ info.nZoneId ∉ zones := by
  induction zones generalizing manager with
  | nil => simp [unregisterAll]
  | cons nZoneId zones inductionHypothesis =>
      rcases all.there nZoneId (List.mem_cons_self ..) with ⟨there, found⟩
      rw [unregisterAll, inductionHypothesis all.next, getChannel_unregister_iff found]
      simp only [List.mem_cons, not_or, and_assoc]

/-- Unregistering one zone and then others keeps what unregistering all of them
keeps. -/
theorem kept_unregister_iff {nZoneId : Int} {there : MyZoneInfo}
    (found : manager.getZone nZoneId = some there) (channel : Int) :
    manager.Kept [nZoneId] channel ∧ (manager.unregister nZoneId).Kept zones channel ↔
      manager.Kept (nZoneId :: zones) channel := by
  unfold Kept
  constructor
  · rintro ⟨⟨positive, info, zone, registered, outside, before, different⟩,
      _, info', zone', registered', outside', before', different'⟩
    rcases (getChannel_unregister_iff found channel info').mp registered' with ⟨old, _⟩
    rw [registered] at old
    cases old
    rcases (getZone_unregister_iff nZoneId _ zone').mp before' with ⟨_, old⟩
    rw [before] at old
    cases old
    simp only [List.mem_singleton] at outside different
    refine ⟨positive, info, zone, registered, ?_, before, ?_⟩
    · simp [outside, outside']
    · simp [different, different']
  · rintro ⟨positive, info, zone, registered, outside, before, different⟩
    simp only [List.mem_cons, not_or] at outside different
    constructor
    · exact ⟨positive, info, zone, registered, by simp [outside.1], before, by simp [different.1]⟩
    · refine ⟨positive, info, zone, ?_, outside.2, ?_, different.2⟩
      · exact (getChannel_unregister_iff found channel info).mpr ⟨registered, outside.1⟩
      · exact (getZone_unregister_iff nZoneId _ zone).mpr ⟨outside.1, before⟩

theorem getChannelPeers_unregisterAll_iff (all : manager.AllThere zones) (some_zone : zones ≠ [])
    (channel : Int) (peers : List MyChannelPeer) :
    (unregisterAll zones manager).getChannelPeers channel = some peers ↔
      manager.getChannelPeers channel = some peers ∧ manager.Kept zones channel := by
  induction zones generalizing manager with
  | nil => exact absurd rfl some_zone
  | cons nZoneId zones inductionHypothesis =>
      rcases all.there nZoneId (List.mem_cons_self ..) with ⟨there, found⟩
      rw [unregisterAll]
      by_cases last : zones = []
      · subst last
        exact getChannelPeers_unregister_iff found channel peers
      · rw [inductionHypothesis all.next last, getChannelPeers_unregister_iff found, and_assoc,
          kept_unregister_iff found]

end UnregisterAll

/-! ## Losing the connection -/

/-- The same zones, channels and peer lists. -/
structure SameMaps (left right : SimpleZoneManager) : Prop where
  zones : forall zone, left.getZone zone = right.getZone zone
  channels : forall channel, left.getChannel channel = right.getChannel channel
  peers : forall channel, left.getChannelPeers channel = right.getChannelPeers channel

/-- The connection's zones are cleaned up as by unregistering them in any
order, and nothing is left of their channels. -/
structure CleansUp (before : SimpleZoneManager) (uConnId : UInt64) (after : SimpleZoneManager) :
    Prop where
  same : forall order, order.Perm (before.zonesOf uConnId) ->
    after.SameMaps (unregisterAll order before)
  noChannel : forall channel info, after.getChannel channel = some info ->
    info.nZoneId ∉ before.zonesOf uConnId
  noPeers : forall channel info, before.getChannel channel = some info ->
    info.nZoneId ∈ before.zonesOf uConnId -> after.getChannelPeers channel = none

section Connection

variable {manager : SimpleZoneManager} {uConnId : UInt64}

theorem mem_zonesOf_iff (zone : Int) :
    zone ∈ manager.zonesOf uConnId ↔
      Exists fun info => manager.getZone zone = some info ∧ hasConnId uConnId info = true :=
  KeyedMap.mem_keysIf_iff _ _ _

theorem allThere_of_perm {order : List Int} (lists : order.Perm (manager.zonesOf uConnId)) :
    manager.AllThere order where
  nodup := lists.nodup_iff.mpr (KeyedMap.nodup_keysIf _ _)
  there := by
    intro zone member
    rcases (mem_zonesOf_iff zone).mp (lists.mem_iff.mp member) with ⟨info, found, _⟩
    exact ⟨info, found⟩

theorem getZone_unregisterByConnId_eq {order : List Int}
    (lists : order.Perm (manager.zonesOf uConnId)) (zone : Int) :
    (manager.unregisterByConnId uConnId).getZone zone =
      (unregisterAll order manager).getZone zone := by
  apply Option.ext
  intro info
  rw [getZone_unregisterByConnId_iff, getZone_unregisterAll_iff, lists.mem_iff, mem_zonesOf_iff]
  constructor
  · rintro ⟨found, missed⟩
    refine ⟨?_, found⟩
    rintro ⟨info', found', has⟩
    rw [found] at found'
    rw [← Option.some.inj found', missed] at has
    cases has
  · rintro ⟨outside, found⟩
    refine ⟨found, ?_⟩
    by_contra has
    exact outside ⟨info, found, by simpa using has⟩

/-- No channel belongs to a zone of the connection, and no peer list is one
that unregistering those zones drops. -/
def NothingToClean (manager : SimpleZoneManager) (uConnId : UInt64) : Prop :=
  (forall channel info, manager.getChannel channel = some info ->
    info.nZoneId ∉ manager.zonesOf uConnId) ∧
  forall channel peers, manager.getChannelPeers channel = some peers ->
    manager.Kept (manager.zonesOf uConnId) channel

/-- Removing the zones leaves every channel registered when none is of these zones. -/
theorem getChannel_unregisterAll_kept {order : List Int}
    (lists : order.Perm (manager.zonesOf uConnId))
    (condition : manager.zonesOf uConnId = [] ∨ manager.NothingToClean uConnId) (channel : Int) :
    (unregisterAll order manager).getChannel channel = manager.getChannel channel := by
  apply Option.ext
  intro info
  rw [getChannel_unregisterAll_iff (allThere_of_perm lists), lists.mem_iff]
  rcases condition with idle | nothing
  · simp [idle]
  · constructor
    · exact And.left
    · intro registered
      exact ⟨registered, nothing.1 channel info registered⟩

theorem getChannelPeers_unregisterAll_kept {order : List Int}
    (lists : order.Perm (manager.zonesOf uConnId))
    (condition : manager.zonesOf uConnId = [] ∨ manager.NothingToClean uConnId) (channel : Int) :
    (unregisterAll order manager).getChannelPeers channel = manager.getChannelPeers channel := by
  rcases condition with idle | nothing
  · rw [idle] at lists
    rw [List.perm_nil.mp lists]
    rfl
  · by_cases none_listed : order = []
    · rw [none_listed]
      rfl
    · apply Option.ext
      intro peers
      rw [getChannelPeers_unregisterAll_iff (allThere_of_perm lists) none_listed]
      constructor
      · exact And.left
      · intro listed
        rcases nothing.2 channel peers listed with
          ⟨positive, info, zone, registered, outside, found, different⟩
        refine ⟨listed, positive, info, zone, registered, ?_, found, ?_⟩
        · rw [lists.mem_iff]
          exact outside
        · rw [lists.mem_iff]
          exact different

/-- `UnregisterByConnId` cleans up exactly when the connection has no zone or
there is nothing to clean. -/
theorem cleansUp_iff (manager : SimpleZoneManager) (uConnId : UInt64) :
    manager.CleansUp uConnId (manager.unregisterByConnId uConnId) ↔
      manager.zonesOf uConnId = [] ∨ manager.NothingToClean uConnId := by
  have perm := List.Perm.refl (manager.zonesOf uConnId)
  constructor
  · intro cleans
    by_cases idle : manager.zonesOf uConnId = []
    · exact Or.inl idle
    · apply Or.inr
      constructor
      · exact cleans.noChannel
      · intro channel peers listed
        have after := (cleans.same _ perm).peers channel
        change manager.getChannelPeers channel = _ at after
        rw [listed] at after
        exact ((getChannelPeers_unregisterAll_iff (allThere_of_perm perm) idle channel peers).mp
          after.symm).2
  · intro condition
    constructor
    · intro order lists
      constructor
      · exact getZone_unregisterByConnId_eq lists
      · intro channel
        exact (getChannel_unregisterAll_kept lists condition channel).symm
      · intro channel
        exact (getChannelPeers_unregisterAll_kept lists condition channel).symm
    · intro channel info registered
      rcases condition with idle | nothing
      · simp [idle]
      · exact nothing.1 channel info registered
    · intro channel info registered member
      rcases condition with idle | nothing
      · simp [idle] at member
      · exact absurd member (nothing.1 channel info registered)

/-- The channel of a zone outlives the zone's connection. -/
theorem not_cleansUp_of_channel :
    Not (forall (manager : SimpleZoneManager) (uConnId : UInt64), uConnId.toNat < 2 ^ 32 ->
      manager.CleansUp uConnId (manager.unregisterByConnId uConnId)) := by
  intro always
  let calls : List ZoneCall :=
    [.register 1 7 [] [] 80 fun _ => 0, .registerChannel ⟨5, 0, [], false, 1⟩]
  have cleans := always (calls.foldl (fun manager call => manager.perform call) initial) 7
    (by decide)
  have outside := cleans.noChannel 5 ⟨5, 0, [], false, 1⟩ (by decide)
  apply outside
  decide

end Connection

end SimpleZoneManager
end NetSystem
