import NetSystem.Lobby.ZoneUpdates
import NetSystem.Tcp.ConnIds

namespace NetSystem

/-!
# Zones by the connection that registered them

A zone keeps the lower half of the connection id it was registered with.  The
whole id is kept beside the manager here, so that it can be said which
connection a zone belongs to.
-/

/-- A manager with the connection id of the latest registration of each zone,
half of which is what the zone holds. -/
structure TrackedZones where
  manager : SimpleZoneManager
  registeredBy : Int -> UInt64
  stored : forall zone info, manager.getZone zone = some info ->
    info.uConnId = (registeredBy zone).toUInt32

namespace TrackedZones

open SimpleZoneManager

def initial : TrackedZones where
  manager := .initial
  registeredBy := fun _ => 0
  stored := by
    intro zone info found
    cases found

/-- `Register`, which a refused address leaves without a trace. -/
def register (nZoneId : Int) (uConnId : UInt64) (sDomain sIp : List Char) (nPort : UInt16)
    (ip : IpNumArray) (state : TrackedZones) : TrackedZones where
  manager := state.manager.register nZoneId uConnId sDomain sIp nPort ip
  registeredBy :=
    if state.manager.checkIpInWhiteList sIp ip then
      Function.update state.registeredBy nZoneId uConnId
    else state.registeredBy
  stored := by
    intro zone info found
    cases white : state.manager.checkIpInWhiteList sIp ip with
    | false =>
        rw [register_of_refused white] at found
        exact state.stored zone info found
    | true =>
        rcases (getZone_register_iff white zone info).mp found with ⟨same, written⟩ | ⟨other, before⟩
        · simp [same, written, registeredInfo]
        · simpa [other] using state.stored zone info before

/-- A call that writes no connection id. -/
def keeping (next : SimpleZoneManager) (state : TrackedZones)
    (kept : forall zone info, next.getZone zone = some info ->
      state.manager.getZone zone = some info) : TrackedZones where
  manager := next
  registeredBy := state.registeredBy
  stored := fun zone info found => state.stored zone info (kept zone info found)

/-- One call. -/
def perform (call : ZoneCall) (state : TrackedZones) : TrackedZones :=
  match call with
  | .register nZoneId uConnId sDomain sIp nPort ip =>
      state.register nZoneId uConnId sDomain sIp nPort ip
  | .unregister nZoneId =>
      keeping (state.manager.unregister nZoneId) state fun zone info found =>
        ((getZone_unregister_iff nZoneId zone info).mp found).2
  | .unregisterByConnId uConnId =>
      keeping (state.manager.unregisterByConnId uConnId) state fun zone info found =>
        ((getZone_unregisterByConnId_iff uConnId zone info).mp found).1
  | .setWhiteName buffer sIp sMask ipPair =>
      keeping (state.manager.perform (.setWhiteName buffer sIp sMask ipPair)) state
        fun zone _ found => getZone_setWhiteName buffer sIp sMask ipPair zone ▸ found
  | .registerChannel pChannelInfo =>
      keeping (state.manager.registerChannel pChannelInfo) state fun zone _ found =>
        (getZone_registerChannel pChannelInfo zone) ▸ found
  | .addChannelPeer nChannelId nPeerId =>
      keeping (state.manager.addChannelPeer nChannelId nPeerId).2 state fun zone _ found =>
        (getZone_addChannelPeer nChannelId nPeerId zone) ▸ found
  | .removeChannelPeer nChannelId nPeerId =>
      keeping (state.manager.removeChannelPeer nChannelId nPeerId) state fun zone _ found =>
        (getZone_removeChannelPeer nChannelId nPeerId zone) ▸ found

/-- The calls act on the manager as they do without the ids. -/
theorem manager_perform (call : ZoneCall) (state : TrackedZones) :
    (state.perform call).manager = state.manager.perform call := by
  cases call <;> rfl

theorem manager_run (calls : List ZoneCall) (state : TrackedZones) :
    (calls.foldl (fun state call => state.perform call) state).manager =
      calls.foldl (fun manager call => manager.perform call) state.manager := by
  induction calls generalizing state with
  | nil => rfl
  | cons call calls inductionHypothesis =>
      simp only [List.foldl_cons, inductionHypothesis, manager_perform]

/-! ## Finding a zone again -/

/-- A zone is taken for one of the connection when the id agrees with the lower
half of the one it was registered with. -/
theorem hasConnId_iff (state : TrackedZones) {zone : Int} {info : MyZoneInfo}
    (found : state.manager.getZone zone = some info) (uConnId : UInt64) :
    hasConnId uConnId info = true ↔
      (state.registeredBy zone).toNat % 2 ^ 32 = uConnId.toNat := by
  rw [hasConnId, state.stored zone info found, beq_iff_eq, ← UInt64.toNat_inj]
  simp

/-- The zone is found and removed by the connection, which removes no zone of
another one. -/
structure OwnedByConnId (state : TrackedZones) (nZoneId : Int) (uConnId : UInt64) : Prop where
  found : forall order, order.Perm state.manager.mapZoneInfos.entries ->
    Exists fun entry => getZoneByConnId uConnId order = some entry ∧
      state.registeredBy entry.1 = uConnId
  removed : (state.manager.unregisterByConnId uConnId).getZone nZoneId = none
  spared : forall zone info, state.manager.getZone zone = some info ->
    state.registeredBy zone ≠ uConnId ->
      (state.manager.unregisterByConnId uConnId).getZone zone = some info

section Register

variable (state : TrackedZones) (nZoneId : Int) (uConnId : UInt64) (sDomain : List Char)
  (nPort : UInt16) {sIp : List Char} {ip : IpNumArray}

theorem registeredBy_register_self (white : state.manager.checkIpInWhiteList sIp ip = true) :
    (state.register nZoneId uConnId sDomain sIp nPort ip).registeredBy nZoneId = uConnId := by
  simp [register, white]

theorem registeredBy_register_other (white : state.manager.checkIpInWhiteList sIp ip = true)
    {zone : Int} (other : zone ≠ nZoneId) :
    (state.register nZoneId uConnId sDomain sIp nPort ip).registeredBy zone =
      state.registeredBy zone := by
  simp [register, white, other]

theorem getZone_register_self (white : state.manager.checkIpInWhiteList sIp ip = true) :
    (state.register nZoneId uConnId sDomain sIp nPort ip).manager.getZone nZoneId =
      some (registeredInfo nZoneId uConnId sDomain sIp nPort) :=
  (getZone_register_iff white nZoneId _).mpr (Or.inl ⟨rfl, rfl⟩)

theorem getZone_register_other (white : state.manager.checkIpInWhiteList sIp ip = true)
    {zone : Int} (other : zone ≠ nZoneId) {info : MyZoneInfo}
    (before : state.manager.getZone zone = some info) :
    (state.register nZoneId uConnId sDomain sIp nPort ip).manager.getZone zone = some info :=
  (getZone_register_iff white zone _).mpr (Or.inr ⟨other, before⟩)

/-- The id fits into the half that is kept, and no other zone holds it as the
half of a different id. -/
def Distinguished (state : TrackedZones) (nZoneId : Int) (uConnId : UInt64) : Prop :=
  uConnId.toNat < 2 ^ 32 ∧
    forall zone info, zone ≠ nZoneId -> state.manager.getZone zone = some info ->
      state.registeredBy zone ≠ uConnId ->
        (state.registeredBy zone).toNat % 2 ^ 32 ≠ uConnId.toNat

/-- The zone is taken for one of its connection exactly when the id fits into the half. -/
theorem hasConnId_registeredInfo_iff
    (white : state.manager.checkIpInWhiteList sIp ip = true) :
    hasConnId uConnId (registeredInfo nZoneId uConnId sDomain sIp nPort) = true ↔
      uConnId.toNat < 2 ^ 32 := by
  rw [hasConnId_iff _ (getZone_register_self state nZoneId uConnId sDomain nPort white) uConnId,
    registeredBy_register_self state nZoneId uConnId sDomain nPort white]
  omega

/-- A zone that the id is taken for was registered with it. -/
theorem registeredBy_of_hasConnId (white : state.manager.checkIpInWhiteList sIp ip = true)
    (others : forall zone info, zone ≠ nZoneId -> state.manager.getZone zone = some info ->
      state.registeredBy zone ≠ uConnId ->
        (state.registeredBy zone).toNat % 2 ^ 32 ≠ uConnId.toNat)
    {zone : Int} {info : MyZoneInfo}
    (found : (state.register nZoneId uConnId sDomain sIp nPort ip).manager.getZone zone =
      some info)
    (has : hasConnId uConnId info = true) :
    (state.register nZoneId uConnId sDomain sIp nPort ip).registeredBy zone = uConnId := by
  have half := (hasConnId_iff _ found uConnId).mp has
  rcases (getZone_register_iff white zone info).mp found with ⟨same, _⟩ | ⟨other, before⟩
  · rw [same]
    exact registeredBy_register_self state nZoneId uConnId sDomain nPort white
  · rw [registeredBy_register_other state nZoneId uConnId sDomain nPort white other] at half ⊢
    by_contra different
    exact others zone info other before different half

/-- A zone that belongs to its connection has a distinguished id. -/
theorem OwnedByConnId.distinguished (white : state.manager.checkIpInWhiteList sIp ip = true)
    (owned : (state.register nZoneId uConnId sDomain sIp nPort ip).OwnedByConnId nZoneId uConnId) :
    state.Distinguished nZoneId uConnId := by
  have self := getZone_register_self state nZoneId uConnId sDomain nPort white
  constructor
  · apply (hasConnId_registeredInfo_iff state nZoneId uConnId sDomain nPort white).mp
    by_contra spared
    have kept := (getZone_unregisterByConnId_iff uConnId nZoneId _).mpr
      ⟨self, by simpa using spared⟩
    rw [owned.removed] at kept
    cases kept
  · intro zone info other before different half
    have after := getZone_register_other state nZoneId uConnId sDomain nPort white other before
    have same := registeredBy_register_other state nZoneId uConnId sDomain nPort white other
    have kept := owned.spared zone info after (by rw [same]; exact different)
    have missed := ((getZone_unregisterByConnId_iff uConnId zone info).mp kept).2
    rw [(hasConnId_iff _ after uConnId).mpr (by rw [same]; exact half)] at missed
    cases missed

/-- A zone just registered belongs to its connection exactly when the id is
distinguished. -/
theorem ownedByConnId_register_iff (state : TrackedZones) (nZoneId : Int) (uConnId : UInt64)
    (sDomain sIp : List Char) (nPort : UInt16) (ip : IpNumArray)
    (white : state.manager.checkIpInWhiteList sIp ip = true) :
    (state.register nZoneId uConnId sDomain sIp nPort ip).OwnedByConnId nZoneId uConnId ↔
      state.Distinguished nZoneId uConnId := by
  have self := getZone_register_self state nZoneId uConnId sDomain nPort white
  constructor
  · exact OwnedByConnId.distinguished state nZoneId uConnId sDomain nPort white
  · rintro ⟨small, others⟩
    have taken := (hasConnId_registeredInfo_iff state nZoneId uConnId sDomain nPort white).mpr small
    constructor
    · intro order iterates
      have member : Sigma.mk nZoneId (registeredInfo nZoneId uConnId sDomain sIp nPort) ∈ order :=
        iterates.mem_iff.mpr (AList.mem_lookup_iff.mp self)
      cases search : getZoneByConnId uConnId order with
      | none =>
          have refused := List.find?_eq_none.mp search _ member
          exact absurd taken refused
      | some entry =>
          have inside := iterates.mem_iff.mp (List.mem_of_find?_eq_some search)
          have has := List.find?_some search
          exact ⟨entry, rfl, registeredBy_of_hasConnId state nZoneId uConnId sDomain nPort white
            others (AList.mem_lookup_iff.mpr inside) has⟩
    · by_contra there
      rcases Option.ne_none_iff_exists'.mp there with ⟨info, kept⟩
      rcases (getZone_unregisterByConnId_iff uConnId nZoneId info).mp kept with ⟨found, missed⟩
      rw [self] at found
      rw [← Option.some.inj found, taken] at missed
      cases missed
    · intro zone info found different
      apply (getZone_unregisterByConnId_iff uConnId zone info).mpr
      refine ⟨found, ?_⟩
      by_contra has
      exact different (registeredBy_of_hasConnId state nZoneId uConnId sDomain nPort white others
        found (by simpa using has))

end Register

/-! ## The ids that are issued -/

/-- `GetNextConnectionId` may return the id. -/
def Issued (uConnId : Nat) : Prop :=
  Exists fun events => Exists fun manager : ConnManager =>
    Run ConnManager.Step .initial events manager ∧ manager.getNextConnectionId = uConnId

/-- The first id that does not fit into the half is issued. -/
theorem issued_first_wide : Issued (2 ^ 32) := by
  rcases ConnManager.outlived_run 3294967294 with ⟨events, manager, run, created, _⟩
  refine ⟨events, manager, run, ?_⟩
  rw [(ConnManager.formed_of_run run).next, created]
  rfl

/-- A zone registered with that id is not found. -/
theorem not_ownedByConnId_of_wide :
    Not (forall (state : TrackedZones) (nZoneId : Int) (uConnId : UInt64)
      (sDomain sIp : List Char) (nPort : UInt16) (ip : IpNumArray),
        state.manager.checkIpInWhiteList sIp ip = true -> Issued uConnId.toNat ->
          (state.register nZoneId uConnId sDomain sIp nPort ip).OwnedByConnId nZoneId uConnId) := by
  intro always
  have owned := always initial 1 4294967296 [] [] 80 (fun _ => 0) rfl issued_first_wide
  rcases owned.found _ (List.Perm.refl _) with ⟨entry, found, _⟩
  have missed : getZoneByConnId 4294967296
      (initial.register 1 4294967296 [] [] 80 fun _ => 0).manager.mapZoneInfos.entries = none := by
    decide
  rw [missed] at found
  cases found

/-- The hypothesis at the first id of all, on a manager without a white list. -/
theorem ownedByConnId_register_first :
    initial.manager.checkIpInWhiteList [] (fun _ => 0) = true ∧
      ((initial.register 1 1000000001 [] [] 80 fun _ => 0).OwnedByConnId 1 1000000001 ↔
        initial.Distinguished 1 1000000001) :=
  ⟨rfl, ownedByConnId_register_iff initial 1 1000000001 [] [] 80 (fun _ => 0) rfl⟩

end TrackedZones
end NetSystem
