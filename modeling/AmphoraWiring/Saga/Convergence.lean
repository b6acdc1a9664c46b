import AmphoraWiring.Delta.Basic
import AmphoraWiring.Saga.Step

/-!
Applying deltas. New interfaces come first, so that new subnets find their ports, and interfaces
that are not needed any more go last. The ports that were changed are collected by their networks.
Whatever fails on the way is told in terms of the amphora and its networks.
-/
namespace AmphoraWiring

/-- The changed ports of one amphora by their networks. -/
abbrev ChangedPorts := IdMap Port

/-- Whether a message speaks of something. -/
def mentions (message word : String) : Bool :=
  (List.range (message.length + 1)).any fun i => word.toList.isPrefixOf (message.toList.drop i)

namespace NetworkError

/-- Why a port on the network could not be created. -/
def whenCreatingPort (networkId : String) : NetworkError → NetworkError
  | .networkNotFound id => .networkNotFound id
  | .notFound what => if mentions what "Network" then .networkNotFound what else .createPort what
  | e => .createPort ("Error creating a port on network " ++ networkId ++ ": " ++ e.message)

/-- Why a port on the network could not be plugged into the instance. -/
def whenPlugging (computeId networkId : String) : NetworkError → NetworkError
  | .amphoraNotFound id => .amphoraNotFound id
  | .notFound what => if mentions what "Instance" then .amphoraNotFound what else .plugNetwork what
  | e => .plugNetwork ("Error plugging amphora (compute_id: " ++ computeId ++ ") into network "
      ++ networkId ++ ": " ++ e.message)

end NetworkError

open Deployment

namespace Delta

/-- Of the addresses of a new interface, the first is asked for when its port is created. -/
def portRequest (amphora : Amphora) (nic : Interface) : PortRequest where
  networkId := nic.networkId
  name := memberPortName amphora.id
  fixedIps := nic.fixedIps.take 1
  vnicType := nic.vnicType

/-- Removes a port that could not be plugged in. A port that stays behind is reported. -/
def discardPort (portId : String) : Work Unit := do
  match ← Flow.outcome (onSubstrate (Substrate.deletePort portId)) with
  | .ok () => return
  | .error e => record fun a => a.resourceLeaked "port" portId e.message

def plugNewPort (amphora : Amphora) (port : Port) (networkId : String) : Work Unit := do
  match ← Flow.outcome (onSubstrate (Substrate.plugPort amphora port)) with
  | .ok () => return
  | .error e =>
    discardPort port.id
    throw (e.whenPlugging amphora.instanceId networkId)

def createMemberPort (amphora : Amphora) (nic : Interface) : Work Port := do
  match ← Flow.outcome (onSubstrate (Substrate.createPort (portRequest amphora nic))) with
  | .ok port => return port
  | .error e => throw (e.whenCreatingPort nic.networkId)

/-- Creates the port of a new interface, plugs it in, and records whom it belongs to. -/
def addNic (amphora : Amphora) (changed : ChangedPorts) (nic : Interface) :
    Work ChangedPorts := do
  let port ← createMemberPort amphora nic
  plugNewPort amphora port nic.networkId
  record fun a => a.portCreated port.id nic.networkId (some amphora.id)
  onRepository (Repository.createMemberPort
    { amphoraId := amphora.id, portId := port.id, networkId := nic.networkId })
  record fun a => a.memberPortRecorded amphora.id port.id
  let port ← fillPort port
  return changed.insert port.networkId port

/-- Adds an address on a subnet to the port of its network, unless the port was created with one. -/
def addSubnet (changed : ChangedPorts) (change : SubnetChange) : Work ChangedPorts := do
  let existing := changed.get? change.networkId
  let portId ← Action.orFail
    (.invalidInput ("no port on network " ++ change.networkId ++ " for subnet " ++ change.subnetId))
    (change.portId.or (existing.map (·.id)))
  if existing.any fun p => p.hasSubnet change.subnetId then return changed
  let port ← onSubstrate (Substrate.plugFixedIp portId change.subnetId)
  let port ← fillPort port
  return changed.insert change.networkId port

/-- Removes the addresses on a subnet. A port that keeps them has not changed. -/
def deleteSubnet (changed : ChangedPorts) (change : SubnetChange) : Work ChangedPorts := do
  match change.portId with
  | none => return changed
  | some portId =>
    let port ← onSubstrate (Substrate.unplugFixedIp portId change.subnetId)
    let port ← fillPort port
    return if port.hasSubnet change.subnetId then changed
      else changed.insert change.networkId port

/-- Forgets whom a port belonged to; there need not be a record of it. -/
def unbind (amphoraId portId : String) : Work Unit := do
  match ← Flow.outcome (onRepository (Repository.deleteMemberPort portId)) with
  | .ok () => record fun a => a.memberPortRemoved amphoraId portId
  | .error (.store (.notFound _)) => return
  | .error e => throw e

/-- Detaches an interface and deletes its port, as far as that succeeds. -/
def deleteNic (amphora : Amphora) (changed : ChangedPorts) (nic : Interface) :
    Work ChangedPorts := do
  let _ ← Flow.outcome (onSubstrate (Substrate.unplugNetwork amphora.instanceId nic.networkId))
  match nic.portId with
  | none => pure ()
  | some portId =>
    match ← Flow.outcome (onSubstrate (Substrate.deletePort portId)) with
    | .ok () => record fun a => a.portDeleted portId
    | .error _ => pure ()
    unbind amphora.id portId
  return changed.erase nic.networkId

/-- Applies a delta to its amphora and gives back the ports that it changed. -/
def apply (delta : Delta) (amphora : Amphora) : Work (List Port) := do
  let changed ← delta.addNics.foldlM (addNic amphora) .empty
  let changed ← delta.addSubnets.foldlM addSubnet changed
  let changed ← delta.deleteSubnets.foldlM deleteSubnet changed
  let changed ← delta.deleteNics.foldlM (deleteNic amphora) changed
  return changed.values

/-- The port that was created for a new interface, if it is known. -/
def portOf (ports : List Port) (nic : Interface) : Option String :=
  nic.portId.or ((ports.find? fun p => p.networkId = nic.networkId).map (·.id))

def removeAddedPort (portId : String) : Effect Deployment Unit := do
  match ← Flow.settle (onSubstrate (Substrate.deletePort portId)) with
  | .ok () => record fun a => a.portDeleted portId
  | .error e => record fun a => a.resourceLeaked "port" portId e.message
  let _ ← Flow.settle (onRepository (Repository.deleteMemberPort portId))

def removeAddedNic (delta : Delta) (ports : List Port) (nic : Interface) :
    Effect Deployment Unit := do
  let _ ← Flow.settle (onSubstrate (Substrate.unplugNetwork delta.computeId nic.networkId))
  match portOf ports nic with
  | none => return
  | some portId => removeAddedPort portId

/-- Takes away the interfaces that a delta added. A port that stays behind is reported. -/
def unwind (delta : Delta) (ports : List Port) : Effect Deployment Unit :=
  delta.addNics.forM (removeAddedNic delta ports)

end Delta

namespace Step

def applyDelta (amphoraId : String) (delta : Delta) : Step (IdMap (List Port)) where
  name := "apply-delta"
  execute := do
    let amphora ← amphora amphoraId
    let ports ← delta.apply amphora
    return IdMap.empty.insert amphoraId ports
  revert changed := delta.unwind ((changed.get? amphoraId).getD [])

/-- Applies the delta of one of the amphorae of a load balancer. -/
def applyTo (lb : LoadBalancer) (changed : IdMap (List Port)) (entry : String × Delta) :
    Work (IdMap (List Port)) := do
  let amphora ← Action.orFail (.amphoraNotFound entry.1)
    (lb.amphorae.find? fun a => a.id = entry.1)
  let ports ← entry.2.apply amphora
  return changed.insert entry.1 ports

def applyDeltas (loadBalancerId : String) (deltas : IdMap Delta) :
    Step (IdMap (List Port)) where
  name := "apply-deltas"
  execute := do
    let lb ← loadBalancer loadBalancerId
    deltas.entries.foldlM (applyTo lb) .empty
  revert changed := deltas.entries.forM fun (amphoraId, delta) =>
    delta.unwind ((changed.get? amphoraId).getD [])

end Step

end AmphoraWiring
