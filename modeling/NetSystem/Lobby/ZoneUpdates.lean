import NetSystem.Lobby.ZoneManager

namespace NetSystem
namespace SimpleZoneManager

/-!
# What a call does to the maps

Each call on zones said by what can be found afterwards, map by map.
-/

section Zones

variable {manager : SimpleZoneManager}

theorem getZone_eraseZone_iff (nZoneId zone : Int) (info : MyZoneInfo) :
    (manager.mapZoneInfos.erase nZoneId).lookup zone = some info ↔
      zone ≠ nZoneId ∧ manager.getZone zone = some info := by
  by_cases same : zone = nZoneId
  · subst same
    simp [AList.lookup_erase]
  · simp [AList.lookup_erase_ne same, same, getZone]

/-- Writing a zone, whether or not it was there. -/
theorem getZone_writeZone_iff (nZoneId zone : Int) (written info : MyZoneInfo) :
    ((manager.getZoneWithCreate nZoneId).2.mapZoneInfos.insert nZoneId written).lookup zone =
        some info ↔
      (zone = nZoneId ∧ info = written) ∨
        (zone ≠ nZoneId ∧ manager.getZone zone = some info) := by
  by_cases same : zone = nZoneId
  · subst same
    simp only [AList.lookup_insert, Option.some.injEq, true_and, ne_eq, not_true_eq_false,
      false_and, or_false]
    exact eq_comm
  · simp only [AList.lookup_insert_ne same, same, false_and, ne_eq, not_false_eq_true, true_and,
      false_or, getZoneWithCreate]
    cases manager.getZone nZoneId with
    | some old => rfl
    | none =>
        change (manager.mapZoneInfos.insert nZoneId createdZone).lookup zone = some info ↔ _
        rw [AList.lookup_insert_ne same]
        rfl

theorem getZone_register_iff {nZoneId : Int} {uConnId : UInt64} {sDomain sIp : List Char}
    {nPort : UInt16} {ip : IpNumArray} (white : manager.checkIpInWhiteList sIp ip = true)
    (zone : Int) (info : MyZoneInfo) :
    (manager.register nZoneId uConnId sDomain sIp nPort ip).getZone zone = some info ↔
      (zone = nZoneId ∧ info = registeredInfo nZoneId uConnId sDomain sIp nPort) ∨
        (zone ≠ nZoneId ∧ manager.getZone zone = some info) := by
  unfold register
  rw [if_pos white]
  apply getZone_writeZone_iff

theorem register_of_refused {sIp : List Char} {ip : IpNumArray}
    (refused : manager.checkIpInWhiteList sIp ip = false) (nZoneId : Int) (uConnId : UInt64)
    (sDomain : List Char) (nPort : UInt16) :
    manager.register nZoneId uConnId sDomain sIp nPort ip = manager := by
  unfold register
  rw [if_neg (by simp [refused])]

theorem unregister_of_absent {nZoneId : Int} (absent : manager.getZone nZoneId = none) :
    manager.unregister nZoneId = manager := by
  simp only [unregister, absent]

theorem unregister_of_found {nZoneId : Int} {found : MyZoneInfo}
    (there : manager.getZone nZoneId = some found) :
    manager.unregister nZoneId =
      ((SimpleZoneManager.removeDirtyPeers nZoneId
        { manager with mapZoneInfos := manager.mapZoneInfos.erase nZoneId }).removeDirtyChannels
          nZoneId) := by
  simp only [unregister, there]

theorem getZone_unregister_iff (nZoneId zone : Int) (info : MyZoneInfo) :
    (manager.unregister nZoneId).getZone zone = some info ↔
      zone ≠ nZoneId ∧ manager.getZone zone = some info := by
  cases there : manager.getZone nZoneId with
  | none =>
      rw [unregister_of_absent there]
      constructor
      · intro found
        constructor
        · intro same
          rw [same, there] at found
          cases found
        · exact found
      · exact And.right
  | some found =>
      rw [unregister_of_found there]
      exact getZone_eraseZone_iff nZoneId zone info

theorem getZone_unregisterByConnId_iff (uConnId : UInt64) (zone : Int) (info : MyZoneInfo) :
    (manager.unregisterByConnId uConnId).getZone zone = some info ↔
      manager.getZone zone = some info ∧ hasConnId uConnId info = false :=
  KeyedMap.lookup_eraseIf_iff _ _ _ _

theorem getZone_addChannelPeer (nChannelId nPeerId zone : Int) :
    (manager.addChannelPeer nChannelId nPeerId).2.getZone zone = manager.getZone zone := by
  unfold addChannelPeer
  dsimp only
  split <;> rfl

theorem getZone_removeChannelPeer (nChannelId nPeerId zone : Int) :
    (manager.removeChannelPeer nChannelId nPeerId).getZone zone = manager.getZone zone := by
  unfold removeChannelPeer
  split <;> rfl

theorem getZone_registerChannel (info : MyChannelInfo) (zone : Int) :
    (manager.registerChannel info).getZone zone = manager.getZone zone := by
  unfold registerChannel
  split <;> rfl

theorem getZone_setWhiteName (buffer : List Char) (sIp sMask : Nat) (ipPair : IpPair) (zone : Int) :
    (manager.perform (.setWhiteName buffer sIp sMask ipPair)).getZone zone =
      manager.getZone zone := by
  simp only [perform, setWhiteName]
  cases splitIp buffer sIp (Int32.ofNat (strlen buffer sIp)) ipPair.ip with
  | none => rfl
  | some ip =>
      cases masked : splitIp ip.buffer sMask (Int32.ofNat (strlen ip.buffer sMask)) ipPair.mask with
      | none => simp [masked]
      | some mask =>
          simp only [Option.bind_eq_bind, Option.bind_some, masked]
          rfl

end Zones

/-! ## Channels and their peers -/

section Channels

variable {manager : SimpleZoneManager}

theorem getChannel_removeDirtyChannels_iff (nZoneId channel : Int) (info : MyChannelInfo) :
    (manager.removeDirtyChannels nZoneId).getChannel channel = some info ↔
      manager.getChannel channel = some info ∧ info.nZoneId ≠ nZoneId := by
  have erased := KeyedMap.lookup_eraseIf_iff (fun _ pChannelInfo => pChannelInfo.nZoneId == nZoneId)
    manager.mapChannels channel info
  rw [beq_eq_false_iff_ne] at erased
  exact erased

/-- The channel has a positive id, is registered, and its zone is registered
under a number that is none of those given. -/
def Held (manager : SimpleZoneManager) (gone : List Int) (channel : Int) : Prop :=
  0 < channel ∧ Exists fun info => Exists fun zone =>
    manager.getChannel channel = some info ∧ manager.getZone info.nZoneId = some zone ∧
      zone.nZoneId ∉ gone

/-- And its zone is itself none of those given. -/
def Kept (manager : SimpleZoneManager) (gone : List Int) (channel : Int) : Prop :=
  0 < channel ∧ Exists fun info => Exists fun zone =>
    manager.getChannel channel = some info ∧ info.nZoneId ∉ gone ∧
      manager.getZone info.nZoneId = some zone ∧ zone.nZoneId ∉ gone

theorem dirtyPeers_eq_false_iff (nZoneId channel : Int) :
    manager.dirtyPeers nZoneId channel = false ↔ manager.Held [nZoneId] channel := by
  unfold dirtyPeers getZoneByChannel Held
  by_cases positive : 0 < channel
  · rw [if_pos positive]
    cases registered : manager.getChannel channel with
    | none => simp
    | some info =>
        cases found : manager.getZone info.nZoneId with
        | none => simp [found]
        | some zone => simp [found, positive]
  · rw [if_neg positive]
    simp [positive]

theorem getChannelPeers_removeDirtyPeers_iff (nZoneId channel : Int)
    (peers : List MyChannelPeer) :
    (manager.removeDirtyPeers nZoneId).getChannelPeers channel = some peers ↔
      manager.getChannelPeers channel = some peers ∧ manager.Held [nZoneId] channel := by
  have erased := KeyedMap.lookup_eraseIf_iff (fun nChannelId _ =>
    manager.dirtyPeers nZoneId nChannelId) manager.mapChannelPeers channel peers
  rw [dirtyPeers_eq_false_iff] at erased
  exact erased

/-! ### `Register` -/

section Register

variable {nZoneId : Int} {uConnId : UInt64} {sDomain sIp : List Char} {nPort : UInt16}
  {ip : IpNumArray}

theorem getChannel_created (nZoneId channel : Int) :
    (manager.getZoneWithCreate nZoneId).2.getChannel channel = manager.getChannel channel := by
  unfold getZoneWithCreate
  cases manager.getZone nZoneId <;> rfl

theorem getChannelPeers_created (nZoneId channel : Int) :
    (manager.getZoneWithCreate nZoneId).2.getChannelPeers channel =
      manager.getChannelPeers channel := by
  unfold getZoneWithCreate
  cases manager.getZone nZoneId <;> rfl

theorem getChannel_register_iff (white : manager.checkIpInWhiteList sIp ip = true)
    (channel : Int) (info : MyChannelInfo) :
    (manager.register nZoneId uConnId sDomain sIp nPort ip).getChannel channel = some info ↔
      manager.getChannel channel = some info ∧ info.nZoneId ≠ nZoneId := by
  unfold register
  rw [if_pos white, getChannel_removeDirtyChannels_iff]
  change (manager.getZoneWithCreate nZoneId).2.getChannel channel = some info ∧ _ ↔ _
  rw [getChannel_created]

/-- A peer list stays when its channel belongs to another zone that has a
number of its own. -/
theorem getChannelPeers_register_iff (white : manager.checkIpInWhiteList sIp ip = true)
    (channel : Int) (peers : List MyChannelPeer) :
    (manager.register nZoneId uConnId sDomain sIp nPort ip).getChannelPeers channel = some peers ↔
      manager.getChannelPeers channel = some peers ∧ manager.Kept [nZoneId] channel := by
  unfold register
  rw [if_pos white]
  change (SimpleZoneManager.removeDirtyPeers nZoneId _).getChannelPeers channel = some peers ↔ _
  rw [getChannelPeers_removeDirtyPeers_iff]
  change (manager.getZoneWithCreate nZoneId).2.getChannelPeers channel = some peers ∧ _ ↔ _
  rw [getChannelPeers_created]
  apply and_congr Iff.rfl
  apply and_congr Iff.rfl
  constructor
  · rintro ⟨info, zone, registered, found, different⟩
    change (manager.getZoneWithCreate nZoneId).2.getChannel channel = some info at registered
    rw [getChannel_created] at registered
    rcases (getZone_writeZone_iff nZoneId _ _ _).mp found with ⟨_, written⟩ | ⟨other, before⟩
    · rw [written] at different
      simp [registeredInfo] at different
    · exact ⟨info, zone, registered, by simpa using other, before, different⟩
  · rintro ⟨info, zone, registered, outside, before, different⟩
    have other : info.nZoneId ≠ nZoneId := by simpa using outside
    refine ⟨info, zone, ?_, ?_, different⟩
    · change (manager.getZoneWithCreate nZoneId).2.getChannel channel = some info
      rw [getChannel_created]
      exact registered
    · exact (getZone_writeZone_iff nZoneId _ _ _).mpr (Or.inr ⟨other, before⟩)

end Register

/-! ### `Unregister` -/

section Unregister

variable {nZoneId : Int} {there : MyZoneInfo}

theorem getChannel_unregister_iff (found : manager.getZone nZoneId = some there) (channel : Int)
    (info : MyChannelInfo) :
    (manager.unregister nZoneId).getChannel channel = some info ↔
      manager.getChannel channel = some info ∧ info.nZoneId ≠ nZoneId := by
  rw [unregister_of_found found, getChannel_removeDirtyChannels_iff]
  rfl

theorem getChannelPeers_unregister_iff (found : manager.getZone nZoneId = some there)
    (channel : Int) (peers : List MyChannelPeer) :
    (manager.unregister nZoneId).getChannelPeers channel = some peers ↔
      manager.getChannelPeers channel = some peers ∧ manager.Kept [nZoneId] channel := by
  rw [unregister_of_found found]
  change (SimpleZoneManager.removeDirtyPeers nZoneId _).getChannelPeers channel = some peers ↔ _
  rw [getChannelPeers_removeDirtyPeers_iff]
  apply and_congr Iff.rfl
  apply and_congr Iff.rfl
  constructor
  · rintro ⟨info, zone, registered, kept, different⟩
    rcases (getZone_eraseZone_iff nZoneId _ _).mp kept with ⟨other, before⟩
    exact ⟨info, zone, registered, by simpa using other, before, different⟩
  · rintro ⟨info, zone, registered, outside, before, different⟩
    have other : info.nZoneId ≠ nZoneId := by simpa using outside
    refine ⟨info, zone, registered, ?_, different⟩
    exact (getZone_eraseZone_iff nZoneId _ _).mpr ⟨other, before⟩

end Unregister

end Channels

end SimpleZoneManager
end NetSystem
