import NetSystem.Base.SplitIp
import NetSystem.Foundation.KeyedMap

namespace NetSystem

/-!
# The zone manager

`CSimpleZoneManager`: zones with the connection that registered them, the
channels of the zones, the peers of the channels, and the white list of
addresses that zones may register from.

The maps are unordered; a lookup by connection id walks over the zones in an
order that is an argument.  A walk that erases tests each entry against maps
that the walk leaves alone, so its order decides nothing.  Arrays of characters
hold at most one character less than their size.  The local arrays of octets
are uninitialised; what they hold is an argument too.  The members of `misc`
are never read.

`SetWhiteName` writes to the strings that it is passed, which may share memory,
so they are places in a buffer there.  `CheckIpInWhiteList` only reads the text
that it is passed, and splits a copy.
-/

/-- `ip_pair_t`. -/
structure IpPair where
  ip : IpNumArray
  mask : IpNumArray

/-- `MyZoneInfo`. -/
structure MyZoneInfo where
  nZoneId : Int
  nType : Int
  chName : List Char
  chIp : List Char
  chDomain : List Char
  nPort : UInt16
  uConnId : UInt32
deriving DecidableEq

/-- `MyChannelInfo`. -/
structure MyChannelInfo where
  nChannelId : Int
  nChannelType : Int
  chChannelDesc : List Char
  bHasLock : Bool
  nZoneId : Int
deriving DecidableEq

/-- `MyChannelPeer`. -/
structure MyChannelPeer where
  nPeerId : Int
  chNick : List Char
  nSex : Int
  nTitleId : Int
  nFlag : Int
deriving DecidableEq

/-- `o_snprintf` of a text into an array of the given size. -/
def snprintf (size : Nat) (text : List Char) : List Char := text.take (size - 1)

/-- An array of characters that was zeroed before the text was written to it. -/
def charArray (size : Nat) (text : List Char) : List Char :=
  text ++ List.replicate (size - text.length) '\x00'

/-- The members of `CSimpleZoneManager`. -/
structure SimpleZoneManager where
  mapZoneInfos : KeyedMap Int MyZoneInfo
  mapChannels : KeyedMap Int MyChannelInfo
  mapChannelPeers : KeyedMap Int (List MyChannelPeer)
  vWhiteList : List IpPair

/-- An entry of the zone map, as an iteration meets it. -/
abbrev ZoneEntry := Sigma fun _ : Int => MyZoneInfo

namespace SimpleZoneManager

def initial : SimpleZoneManager where
  mapZoneInfos := ∅
  mapChannels := ∅
  mapChannelPeers := ∅
  vWhiteList := []

/-! ## Lookups -/

def getZone (nZoneId : Int) (manager : SimpleZoneManager) : Option MyZoneInfo :=
  manager.mapZoneInfos.lookup nZoneId

def getChannel (nChannelId : Int) (manager : SimpleZoneManager) : Option MyChannelInfo :=
  manager.mapChannels.lookup nChannelId

def getChannelPeers (nChannelId : Int) (manager : SimpleZoneManager) :
    Option (List MyChannelPeer) :=
  manager.mapChannelPeers.lookup nChannelId

def getZoneByChannel (nChannelId : Int) (manager : SimpleZoneManager) : Option MyZoneInfo :=
  if 0 < nChannelId then
    match manager.getChannel nChannelId with
    | some pChannelInfo => manager.getZone pChannelInfo.nZoneId
    | none => none
  else none

/-- `pZoneInfo->uConnId == uConnId`, where the member is the narrower one. -/
def hasConnId (uConnId : UInt64) (pZoneInfo : MyZoneInfo) : Bool :=
  pZoneInfo.uConnId.toUInt64 == uConnId

/-- `GetZoneByConnId`, with the entry that it points to. -/
def getZoneByConnId (uConnId : UInt64) (order : List ZoneEntry) : Option ZoneEntry :=
  order.find? fun entry => hasConnId uConnId entry.2

/-! ## The white list -/

/-- `SetWhiteName`, with the memory that its two strings are in. -/
def setWhiteName (buffer : List Char) (sIp sMask : Nat) (ipPair : IpPair)
    (manager : SimpleZoneManager) : Option (List Char × SimpleZoneManager) := do
  let ip <- splitIp buffer sIp (Int32.ofNat (strlen buffer sIp)) ipPair.ip
  let mask <- splitIp ip.buffer sMask (Int32.ofNat (strlen ip.buffer sMask)) ipPair.mask
  return (mask.buffer,
    { manager with vWhiteList := manager.vWhiteList ++ [⟨ip.av, mask.av⟩] })

/-- The comparison of an address with an entry. -/
def allMatched (ip : IpNumArray) (entry : IpPair) : Bool :=
  (List.finRange 8).all fun i => ip i &&& entry.mask i == entry.ip i &&& entry.mask i

/-- `CheckIpInWhiteList`.  The copy ends with NUL, so it can always be split. -/
def checkIpInWhiteList (sIp : List Char) (ip : IpNumArray) (manager : SimpleZoneManager) : Bool :=
  if manager.vWhiteList.length = 0 then true
  else
    let chIp := charArray 32 (snprintf 32 sIp)
    match splitIp chIp 0 (Int32.ofNat (strlen chIp 0)) ip with
    | some split => manager.vWhiteList.any fun entry => allMatched split.av entry
    | none => false

/-! ## Channels and peers -/

/-- `RegisterChannel`. -/
def registerChannel (pChannelInfo : MyChannelInfo) (manager : SimpleZoneManager) :
    SimpleZoneManager :=
  if 0 ≤ pChannelInfo.nChannelId then
    { manager with
      mapChannels := manager.mapChannels.insert pChannelInfo.nChannelId pChannelInfo }
  else manager

/-- A peer as `AddChannelPeer` fills it in. -/
def newPeer (nPeerId : Int) : MyChannelPeer where
  nPeerId := nPeerId
  chNick := []
  nSex := -1
  nTitleId := 0
  nFlag := 0

/-- `AddChannelPeer`, with the peer that it points to. -/
def addChannelPeer (nChannelId nPeerId : Int) (manager : SimpleZoneManager) :
    MyChannelPeer × SimpleZoneManager :=
  let pList := (manager.getChannelPeers nChannelId).getD []
  match pList.find? fun peer => peer.nPeerId == nPeerId with
  | some peer =>
      (peer, { manager with mapChannelPeers := manager.mapChannelPeers.insert nChannelId pList })
  | none =>
      (newPeer nPeerId,
        { manager with
          mapChannelPeers :=
            manager.mapChannelPeers.insert nChannelId (pList ++ [newPeer nPeerId]) })

/-- `RemoveChannelPeer`: the first peer with the id. -/
def removeChannelPeer (nChannelId nPeerId : Int) (manager : SimpleZoneManager) :
    SimpleZoneManager :=
  match manager.getChannelPeers nChannelId with
  | some pList =>
      { manager with
        mapChannelPeers := manager.mapChannelPeers.insert nChannelId
          (pList.eraseP fun peer => peer.nPeerId == nPeerId) }
  | none => manager

/-- `RemoveDirtyChannels`. -/
def removeDirtyChannels (nZoneId : Int) (manager : SimpleZoneManager) : SimpleZoneManager :=
  { manager with
    mapChannels := KeyedMap.eraseIf (fun _ pChannelInfo => pChannelInfo.nZoneId == nZoneId)
      manager.mapChannels }

/-- The test of `RemoveDirtyPeers`. -/
def dirtyPeers (nZoneId nChannelId : Int) (manager : SimpleZoneManager) : Bool :=
  match manager.getZoneByChannel nChannelId with
  | none => true
  | some pZoneInfo => pZoneInfo.nZoneId == nZoneId

/-- `RemoveDirtyPeers`. -/
def removeDirtyPeers (nZoneId : Int) (manager : SimpleZoneManager) : SimpleZoneManager :=
  { manager with
    mapChannelPeers := KeyedMap.eraseIf (fun nChannelId _ => manager.dirtyPeers nZoneId nChannelId)
      manager.mapChannelPeers }

/-! ## Zones -/

/-- A zone as the map creates it. -/
def createdZone : MyZoneInfo where
  nZoneId := 0
  nType := 0
  chName := []
  chIp := []
  chDomain := []
  nPort := 0
  uConnId := 0

/-- `GetZoneWithCreate`, with the zone that it points to. -/
def getZoneWithCreate (nZoneId : Int) (manager : SimpleZoneManager) :
    MyZoneInfo × SimpleZoneManager :=
  match manager.getZone nZoneId with
  | some pZoneInfo => (pZoneInfo, manager)
  | none =>
      (createdZone, { manager with
        mapZoneInfos := manager.mapZoneInfos.insert nZoneId createdZone })

/-- What `Register` writes to the zone. -/
def registeredInfo (nZoneId : Int) (uConnId : UInt64) (sDomain sIp : List Char) (nPort : UInt16) :
    MyZoneInfo where
  nZoneId := nZoneId
  nType := 0
  chName := snprintf 32 ("Server".toList ++ (toString nZoneId).toList)
  chIp := snprintf 32 sIp
  chDomain := snprintf 64 sDomain
  nPort := nPort
  uConnId := uConnId.toUInt32

/-- `Register`. -/
def register (nZoneId : Int) (uConnId : UInt64) (sDomain sIp : List Char) (nPort : UInt16)
    (ip : IpNumArray) (manager : SimpleZoneManager) : SimpleZoneManager :=
  if manager.checkIpInWhiteList sIp ip then
    let created := (manager.getZoneWithCreate nZoneId).2
    let written := { created with
      mapZoneInfos := created.mapZoneInfos.insert nZoneId
        (registeredInfo nZoneId uConnId sDomain sIp nPort) }
    (written.removeDirtyPeers nZoneId).removeDirtyChannels nZoneId
  else manager

/-- `Unregister`. -/
def unregister (nZoneId : Int) (manager : SimpleZoneManager) : SimpleZoneManager :=
  match manager.getZone nZoneId with
  | some _ =>
      let erased := { manager with mapZoneInfos := manager.mapZoneInfos.erase nZoneId }
      (erased.removeDirtyPeers nZoneId).removeDirtyChannels nZoneId
  | none => manager

/-- `UnregisterByConnId`. -/
def unregisterByConnId (uConnId : UInt64) (manager : SimpleZoneManager) : SimpleZoneManager :=
  { manager with
    mapZoneInfos := KeyedMap.eraseIf (fun _ pZoneInfo => hasConnId uConnId pZoneInfo)
      manager.mapZoneInfos }

end SimpleZoneManager

/-- A call that may change the manager, with what its local arrays hold and, where it writes
to its arguments, the memory that these are in. -/
inductive ZoneCall where
  | register (nZoneId : Int) (uConnId : UInt64) (sDomain sIp : List Char) (nPort : UInt16)
      (ip : IpNumArray)
  | unregister (nZoneId : Int)
  | unregisterByConnId (uConnId : UInt64)
  | setWhiteName (buffer : List Char) (sIp sMask : Nat) (ipPair : IpPair)
  | registerChannel (pChannelInfo : MyChannelInfo)
  | addChannelPeer (nChannelId nPeerId : Int)
  | removeChannelPeer (nChannelId nPeerId : Int)

namespace SimpleZoneManager

/-- One call.  A `SetWhiteName` of what is no string in memory has no result; the manager is
taken to be left alone then. -/
def perform (call : ZoneCall) (manager : SimpleZoneManager) : SimpleZoneManager :=
  match call with
  | .register nZoneId uConnId sDomain sIp nPort ip =>
      manager.register nZoneId uConnId sDomain sIp nPort ip
  | .unregister nZoneId => manager.unregister nZoneId
  | .unregisterByConnId uConnId => manager.unregisterByConnId uConnId
  | .setWhiteName buffer sIp sMask ipPair =>
      (manager.setWhiteName buffer sIp sMask ipPair).elim manager Prod.snd
  | .registerChannel pChannelInfo => manager.registerChannel pChannelInfo
  | .addChannelPeer nChannelId nPeerId => (manager.addChannelPeer nChannelId nPeerId).2
  | .removeChannelPeer nChannelId nPeerId => manager.removeChannelPeer nChannelId nPeerId

end SimpleZoneManager

end NetSystem
