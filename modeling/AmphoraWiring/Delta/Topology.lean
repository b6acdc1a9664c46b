import AmphoraWiring.Delta.Basic
import AmphoraWiring.Substrate.Instance

/-!
What an amphora is to be attached to, and what it is attached to. It has to reach the subnet of
the virtual address and those of all live members of its load balancer. Of what is plugged in, the
management networks are left out: they belong to the service and are never touched.
-/
namespace AmphoraWiring

/-- `subnets` gives the network of each subnet to be reached, `vnicTypes` the kind of interface
that the members on a network ask for. -/
structure Topology where
  subnets : IdMap String
  vnicTypes : IdMap VnicType

namespace Topology

/-- Without members, the virtual address alone is to be reached. -/
def ofVip (vip : Vip) : Topology :=
  ⟨IdMap.empty.insert vip.subnetId vip.networkId, .empty⟩

/-- Of the members on one network the last determines the kind of interface. -/
def addMember (t : Topology) (subnetId networkId : String) (vnicType : VnicType) : Topology :=
  ⟨t.subnets.insert subnetId networkId, t.vnicTypes.insert networkId vnicType⟩

/-- The networks to be reached, each once, in the order of their ids. -/
def networks (t : Topology) : List String :=
  (IdMap.ofList (t.subnets.values.map fun networkId => (networkId, ()))).keys

/-- The subnets to be reached on a network. -/
def subnetsOn (t : Topology) (networkId : String) : List String :=
  (t.subnets.entries.filter fun e => e.2 = networkId).map (·.1)

end Topology

/-- A member asks for its subnet unless it is about to be deleted or names none. -/
def Member.demand (m : Member) : Option (String × VnicType) :=
  if m.provisioningStatus = .pendingDelete then none
  else m.subnetId.map fun subnetId => (subnetId, m.vnicType)

def LoadBalancer.demands (lb : LoadBalancer) : List (String × VnicType) :=
  lb.members.filterMap (·.demand)

/-- The networks of the subnets that have been looked up so far. -/
abbrev KnownSubnets := IdMap String

namespace Substrate

/-- The network of a subnet, which is looked up once only. -/
def networkOfSubnet (known : KnownSubnets) (subnetId : String) :
    Call (String × KnownSubnets) := do
  match known.get? subnetId with
  | some networkId => return (networkId, known)
  | none =>
    let subnet ← getSubnet subnetId
    return (subnet.networkId, known.insert subnetId subnet.networkId)

def addDemands (t : Topology) (known : KnownSubnets) :
    List (String × VnicType) → Call (Topology × KnownSubnets)
  | [] => return (t, known)
  | (subnetId, vnicType) :: demands => do
    let (networkId, known) ← networkOfSubnet known subnetId
    addDemands (t.addMember subnetId networkId vnicType) known demands

def desiredTopology (lb : LoadBalancer) (known : KnownSubnets) :
    Call (Topology × KnownSubnets) :=
  addDemands (.ofVip lb.vip) known lb.demands

/-- The interfaces of an amphora by their networks, those on management networks left out. Of
several on one network the last counts. -/
def attachments (management : List String) (amphora : Amphora) : Call (IdMap Interface) := do
  let interfaces ← getPluggedNetworks amphora.instanceId
  let others := interfaces.filter fun i => !management.contains i.networkId
  return .ofList (others.map fun i => (i.networkId, i))

end Substrate

end AmphoraWiring
