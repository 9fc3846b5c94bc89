import OpenLighting.ArtNetPort
import OpenLighting.FiniteMap
import OpenLighting.RdmCommand

/- RDM discovery on an input port of an `ArtNetNodeImpl`: the lists of UIDs it gets from other
nodes in ArtTodData packets, and the discoveries that wait for them. -/
namespace OpenLighting.ArtNet

open OpenLighting.Network

def artnetMaxUidCount : Nat := 200

def rdmVersion : UInt8 := 0x01

def rdmMissedTodDataLimit : UInt8 := 3

def todFlushCommand : UInt8 := 0x01

/-- The size of an `artnet_toddata_t` without the UIDs. -/
def todHeaderSize : Nat := 18

/-- An `artnet_toddata_t`. The spare bytes are zero and nothing looks at them. -/
structure TodData where
  version : UInt16
  rdmVersion : UInt8
  port : UInt8
  net : UInt8
  commandResponse : UInt8
  address : UInt8
  uidTotal : UInt16
  blockCount : UInt8
  uidCount : UInt8
  tod : List UID
  full : tod.length = artnetMaxUidCount

/-- A `uid_map`: the address a UID came from, and the discoveries since it was last seen. -/
abbrev UidMap := AList (fun _ : UID => IPV4Address × UInt8)

/-- The number of a discovery callback, and of a timer of the select server. -/
abbrev Callback := Nat
abbrev TimeoutId := Nat

/-- An `InputPort`. `todCallback` says whether there is one. -/
structure InputPort where
  enabled : Bool
  portAddress : UInt8
  subscribedNodes : Finset IPV4Address
  uids : UidMap
  todCallback : Bool
  discoveryCallback : Option Callback
  discoveryNodeSet : Finset IPV4Address
  discoveryTimeout : Option TimeoutId

/-- The packets a discovery starts with, as far as they are not constant. -/
inductive DiscoveryPacket where
  | todControl (net command address : UInt8)
  | todRequest (net : UInt8) (addresses : List UInt8)
  deriving DecidableEq

/-- What the node lets others know. -/
inductive Report where
  | sent (packet : DiscoveryPacket)
  | discovered (callback : Callback) (uids : UIDSet)
  | unsolicited (uids : UIDSet)
  deriving DecidableEq

/-- An `ArtNetNodeImpl` with one of its input ports, and the timers for this port that the select
server has. -/
structure DiscoveryNode where
  running : Bool
  netAddress : UInt8
  port : InputPort
  timeouts : List TimeoutId
  nextTimeout : TimeoutId

/-- The UIDs a callback gets. -/
def UidMap.uidSet (uids : UidMap) : UIDSet := uids.keys.toFinset

/-- A UID has reached the limit. -/
def missed (_ : UID) (entry : IPV4Address × UInt8) : Bool := entry.2 == rdmMissedTodDataLimit

variable (port : InputPort)

namespace InputPort

def runTodCallback : List Report :=
  if port.todCallback then [.unsolicited port.uids.uidSet] else []

def runDiscoveryCallback : InputPort × List Report :=
  match port.discoveryCallback with
  | none => (port, [])
  | some callback =>
    ({ port with discoveryCallback := none }, [.discovered callback port.uids.uidSet])

def incrementUidCounts : InputPort :=
  { port with uids := FiniteMap.mapValues (fun entry => (entry.1, entry.2 + 1)) port.uids }

end InputPort

variable (node : DiscoveryNode) (source : IPV4Address) (callback : Callback) (seen : List UID)

namespace DiscoveryNode

/-- `RemoveTimeout` of the select server, for the timer in `discovery_timeout`. -/
def removeTimeout : DiscoveryNode :=
  match node.port.discoveryTimeout with
  | none => node
  | some timeout => { node with timeouts := node.timeouts.erase timeout }

def runDiscoveryCallback (node : DiscoveryNode) : DiscoveryNode × List Report :=
  let (port, reports) := node.port.runDiscoveryCallback
  ({ node with port := port }, reports)

def releaseDiscoveryLock : DiscoveryNode × List Report :=
  runDiscoveryCallback { node with
    port := { node.port with
      discoveryTimeout := none
      discoveryNodeSet := ∅
      uids := FiniteMap.filter (fun uid entry => !missed uid entry) node.port.uids } }

/-- `StartDiscoveryProcess` while no discovery is running. -/
def startDiscoveryProcess : DiscoveryNode :=
  { node with
    port := { node.port.incrementUidCounts with
      discoveryCallback := some callback
      discoveryNodeSet := node.port.subscribedNodes
      discoveryTimeout := some node.nextTimeout }
    timeouts := node.timeouts ++ [node.nextTimeout]
    nextTimeout := node.nextTimeout + 1 }

/-- What `RunFullDiscovery` and `RunIncrementalDiscovery` have in common. `sent` says whether
`SendPacket` succeeds. -/
def runDiscovery (packet : DiscoveryPacket) (node : DiscoveryNode) (callback : Callback)
    (sent : Bool) : DiscoveryNode × List Report :=
  if node.running = false ∨ node.port.enabled = false then (node, [.discovered callback ∅])
  else if node.port.discoveryCallback.isSome then (node, node.port.runTodCallback)
  else
    let node := node.startDiscoveryProcess callback
    if sent then (node, [.sent packet]) else node.runDiscoveryCallback

def runFullDiscovery (sent : Bool) : DiscoveryNode × List Report :=
  runDiscovery (.todControl node.netAddress todFlushCommand node.port.portAddress) node callback
    sent

def runIncrementalDiscovery (sent : Bool) : DiscoveryNode × List Report :=
  runDiscovery (.todRequest node.netAddress [node.port.portAddress]) node callback sent

def received (packet : TodData) (packetSize : Nat) : List UID :=
  packet.tod.take (min ((packetSize - todHeaderSize) / 6) packet.uidCount.toNat)

/-- The packet has all UIDs of its sender. -/
def complete (packet : TodData) (packetSize : Nat) : Bool :=
  packet.uidTotal.toNat ≤ min ((packetSize - todHeaderSize) / 6) packet.uidCount.toNat

/-- The UIDs are stored as seen, whether they are new or not. -/
def see (uids : UidMap) : UidMap :=
  seen.foldl (fun uids uid => uids.insert uid (source, 0)) uids

/-- A UID of the sender that is not in its packet. -/
def gone (uid : UID) (entry : IPV4Address × UInt8) : Bool :=
  entry.1 == source && !seen.contains uid

/-- The node is marked as complete, which may end the discovery. -/
def markComplete : DiscoveryNode × List Report :=
  if source ∈ node.port.discoveryNodeSet then
    let node := { node with
      port := { node.port with
        discoveryNodeSet := node.port.discoveryNodeSet.erase source } }
    if node.port.discoveryNodeSet = ∅ ∧ node.port.discoveryCallback.isSome then
      node.removeTimeout.releaseDiscoveryLock
    else (node, [])
  else (node, [])

def updatePortFromTodPacket (packet : TodData) (packetSize : Nat) : DiscoveryNode × List Report :=
  let seen := received packet packetSize
  let uids := see source seen node.port.uids
  let (node, reports) :=
    if complete packet packetSize then
      markComplete { node with
        port := { node.port with
          uids := FiniteMap.filter (fun uid entry => !gone source seen uid entry) uids } } source
    else ({ node with port := { node.port with uids := uids } }, [])
  if node.port.discoveryCallback.isSome then (node, reports)
  else (node, reports ++ node.port.runTodCallback)

/-- The packet passes the checks of `HandleTodData` and is for the port. -/
def accepts (packet : TodData) (packetSize : Nat) : Bool :=
  todHeaderSize ≤ packetSize && packet.version == artnetVersion &&
    packet.rdmVersion == rdmVersion && packet.net == node.netAddress &&
    packet.commandResponse == 0 && node.port.enabled && node.port.portAddress == packet.address

/-- `HandleTodData`, for the port. -/
def handleTodData (packet : TodData) (packetSize : Nat) : DiscoveryNode × List Report :=
  if node.accepts packet packetSize then node.updatePortFromTodPacket source packet packetSize
  else (node, [])

/-- A timer of the port expires. -/
def expire (timeout : TimeoutId) : DiscoveryNode × List Report :=
  if timeout ∈ node.timeouts then
    releaseDiscoveryLock { node with timeouts := node.timeouts.erase timeout }
  else (node, [])

/-- `Stop`, for the discovery state of the port. -/
def stop : DiscoveryNode × List Report :=
  if node.running then
    let node := node.removeTimeout
    runDiscoveryCallback { node with
      running := false
      port := { node.port with discoveryTimeout := none } }
  else (node, [])

theorem lookup_see (uids : UidMap) (uid : UID) :
    (see source seen uids).lookup uid = if uid ∈ seen then some (source, 0) else uids.lookup uid :=
  FiniteMap.lookup_insertAll seen (source, 0) uids uid

@[simp] theorem runDiscoveryCallback_uids :
    node.runDiscoveryCallback.1.port.uids = node.port.uids := by
  unfold runDiscoveryCallback InputPort.runDiscoveryCallback
  cases node.port.discoveryCallback <;> rfl

@[simp] theorem releaseDiscoveryLock_uids : node.releaseDiscoveryLock.1.port.uids =
      FiniteMap.filter (fun uid entry => !missed uid entry) node.port.uids :=
  runDiscoveryCallback_uids _

@[simp] theorem removeTimeout_port : node.removeTimeout.port = node.port := by
  unfold removeTimeout
  cases node.port.discoveryTimeout <;> rfl

/-- A discovery that ends drops the UIDs that have reached the limit. -/
theorem markComplete_uids : (node.markComplete source).1.port.uids = node.port.uids ∨
      (node.markComplete source).1.port.uids =
        FiniteMap.filter (fun uid entry => !missed uid entry) node.port.uids := by
  unfold markComplete
  split
  · dsimp only
    split
    · apply Or.inr
      rw [releaseDiscoveryLock_uids, removeTimeout_port]
    · exact Or.inl rfl
  · exact Or.inl rfl

/-- The UIDs the port knows with the packet, before a discovery ends. -/
def known (uids : UidMap) (source : IPV4Address) (packet : TodData) (packetSize : Nat) : UidMap :=
  let seen := received packet packetSize
  if complete packet packetSize then
    FiniteMap.filter (fun uid entry => !gone source seen uid entry) (see source seen uids)
  else see source seen uids

theorem updatePortFromTodPacket_uids (packet : TodData) (packetSize : Nat) :
    let uids := (node.updatePortFromTodPacket source packet packetSize).1.port.uids
    let known := known node.port.uids source packet packetSize
    uids = known ∨ uids = FiniteMap.filter (fun uid entry => !missed uid entry) known := by
  unfold updatePortFromTodPacket known
  by_cases whole : complete packet packetSize = true
  · simp only [if_pos whole]
    split <;> exact markComplete_uids _ source
  · simp only [if_neg whole]
    split <;> exact Or.inl rfl

/-- What no packet changes: the addresses that packets have to have. -/
def place : UInt8 × Bool × UInt8 :=
  (node.netAddress, node.port.enabled, node.port.portAddress)

@[simp] theorem place_runDiscoveryCallback : node.runDiscoveryCallback.1.place = node.place := by
  unfold runDiscoveryCallback InputPort.runDiscoveryCallback place
  cases node.port.discoveryCallback <;> rfl

@[simp] theorem place_releaseDiscoveryLock : node.releaseDiscoveryLock.1.place = node.place :=
  place_runDiscoveryCallback _

@[simp] theorem place_removeTimeout : node.removeTimeout.place = node.place := by
  unfold removeTimeout
  cases node.port.discoveryTimeout <;> rfl

theorem place_markComplete : (node.markComplete source).1.place = node.place := by
  unfold markComplete
  split
  · dsimp only
    split
    · rw [place_releaseDiscoveryLock, place_removeTimeout]
      rfl
    · rfl
  · rfl

theorem place_handleTodData (packet : TodData)
    (packetSize : Nat) : (node.handleTodData source packet packetSize).1.place = node.place := by
  unfold handleTodData updatePortFromTodPacket
  split
  · by_cases whole : complete packet packetSize = true
    · simp only [if_pos whole]
      split <;> exact place_markComplete _ source
    · simp only [if_neg whole]
      split <;> rfl
  · rfl

end DiscoveryNode

end OpenLighting.ArtNet
