import AmphoraWiring.Delta.Topology

/-!
The delta of an amphora leads from what it is attached to, to what it is to be attached to.
-/
namespace AmphoraWiring

/-- The management networks: the one that the zone declares, or else the boot networks. -/
def managementNetworks (bootNetworks : List String) (zone : Option AvailabilityZone) :
    List String :=
  match zone.bind (·.managementNetwork) with
  | some networkId => [networkId]
  | none => bootNetworks

namespace Delta

/-- The network by which each plugged subnet is reached; of several the last counts. -/
def pluggedSubnets (plugged : IdMap Interface) : IdMap String :=
  .ofList (plugged.values.flatMap fun i => i.fixedIps.map fun ip => (ip.subnetId, i.networkId))

/-- A new interface on a network, with an address to be chosen on each of its subnets. -/
def newNic (desired : Topology) (networkId : String) : Interface where
  networkId := networkId
  fixedIps := (desired.subnetsOn networkId).map fun id => { subnetId := id }
  vnicType := (desired.vnicTypes.get? networkId).getD .normal

/-- An interface to be removed is known by its network and its port. -/
def staleNic (i : Interface) : Interface where
  networkId := i.networkId
  portId := i.portId

def subnetChange (plugged : IdMap Interface) (subnetId networkId : String) : SubnetChange where
  subnetId := subnetId
  networkId := networkId
  portId := (plugged.get? networkId).bind (·.portId)

def between (amphora : Amphora) (desired : Topology) (plugged : IdMap Interface) : Delta :=
  let networks := desired.networks
  let subnets := pluggedSubnets plugged
  let changes (wanted present : IdMap String) : List SubnetChange :=
    (wanted.entries.filter fun e => !present.contains e.1).map
      fun e => subnetChange plugged e.1 e.2
  { amphoraId := amphora.id
    computeId := amphora.instanceId
    addNics := (networks.filter fun id => !plugged.contains id).map (newNic desired)
    deleteNics := (plugged.values.filter fun i => !networks.contains i.networkId).map staleNic
    addSubnets := changes desired.subnets subnets
    deleteSubnets := changes subnets desired.subnets }

end Delta

namespace Substrate

def computeDeltaKnowing (management : List String) (lb : LoadBalancer) (amphora : Amphora)
    (known : KnownSubnets) : Call (Delta × KnownSubnets) := do
  let (desired, known) ← desiredTopology lb known
  let plugged ← attachments management amphora
  return (.between amphora desired plugged, known)

def computeDelta (management : List String) (lb : LoadBalancer) (amphora : Amphora) :
    Call Delta := do
  let (delta, _) ← computeDeltaKnowing management lb amphora .empty
  return delta

def computeDeltasKnowing (management : List String) (lb : LoadBalancer)
    (known : KnownSubnets) : List Amphora → Call (List (String × Delta))
  | [] => return []
  | amphora :: amphorae => do
    let (delta, known) ← computeDeltaKnowing management lb amphora known
    let deltas ← computeDeltasKnowing management lb known amphorae
    return (amphora.id, delta) :: deltas

/-- The delta of every allocated amphora. No subnet is looked up twice. -/
def computeDeltas (management : List String) (lb : LoadBalancer) : Call (IdMap Delta) := do
  let deltas ← computeDeltasKnowing management lb .empty lb.allocatedAmphorae
  return .ofList deltas

end Substrate

end AmphoraWiring
