import AmphoraWiring.Model.Network

/-!
The records of the load balancer service: a load balancer with its virtual addresses, pools of
members, and the amphorae, the virtual machines that carry its traffic.
-/
namespace AmphoraWiring

inductive ProvisioningStatus where
  | active
  | pendingCreate
  | pendingUpdate
  | pendingDelete
  | deleted
  | error
deriving DecidableEq, Repr

def ProvisioningStatus.name : ProvisioningStatus → String
  | .active => "ACTIVE"
  | .pendingCreate => "PENDING_CREATE"
  | .pendingUpdate => "PENDING_UPDATE"
  | .pendingDelete => "PENDING_DELETE"
  | .deleted => "DELETED"
  | .error => "ERROR"

inductive AmphoraStatus where
  | allocated
  | booting
  | ready
  | pendingCreate
  | pendingDelete
  | deleted
  | error
deriving DecidableEq, Repr

def AmphoraStatus.name : AmphoraStatus → String
  | .allocated => "ALLOCATED"
  | .booting => "BOOTING"
  | .ready => "READY"
  | .pendingCreate => "PENDING_CREATE"
  | .pendingDelete => "PENDING_DELETE"
  | .deleted => "DELETED"
  | .error => "ERROR"

structure Member where
  id : String
  subnetId : Option String := none
  provisioningStatus : ProvisioningStatus := .active
  vnicType : VnicType := .normal
deriving DecidableEq, Repr

structure Pool where
  id : String
  members : List Member := []
deriving DecidableEq, Repr

/-- The primary virtual address. `sgIds` are the security groups that the user adds to the one
that the service keeps. -/
structure Vip where
  ipAddress : Option Address := none
  subnetId : String
  networkId : String
  portId : Option String := none
  qosPolicyId : Option String := none
  sgIds : List String := []
  vnicType : VnicType := .normal
  loadBalancerId : Option String := none
deriving DecidableEq, Repr

structure AdditionalVip where
  ipAddress : Option Address := none
  subnetId : String
  networkId : Option String := none
  portId : Option String := none
deriving DecidableEq, Repr

/-- A virtual machine of the service. `lbNetworkIp` is its address on the management network; the
`vrrp` fields name its base port and the `ha` fields the port of the virtual address. -/
structure Amphora where
  id : String
  loadBalancerId : Option String := none
  computeId : Option String := none
  status : AmphoraStatus := .allocated
  lbNetworkIp : Option Address := none
  vrrpPortId : Option String := none
  vrrpIp : Option Address := none
  haPortId : Option String := none
  haIp : Option Address := none
  vrrpId : Option Nat := none
deriving DecidableEq, Repr

namespace Amphora

/-- Only allocated amphorae take part in reconciliation. -/
def isAllocated (a : Amphora) : Bool := a.status = .allocated

/-- The instance the amphora runs on; the empty id, which no instance has, when it has none. -/
def instanceId (a : Amphora) : String := a.computeId.getD ""

end Amphora

structure LoadBalancer where
  id : String
  vip : Vip
  additionalVips : List AdditionalVip := []
  pools : List Pool := []
  amphorae : List Amphora := []
deriving DecidableEq, Repr

namespace LoadBalancer

def allocatedAmphorae (lb : LoadBalancer) : List Amphora := lb.amphorae.filter (·.isAllocated)

def members (lb : LoadBalancer) : List Member := lb.pools.flatMap (·.members)

end LoadBalancer

/-- Ownership record of a port that was created to reach backend members. -/
structure MemberPortBinding where
  amphoraId : String
  portId : String
  networkId : String
deriving DecidableEq, Repr

structure AvailabilityZone where
  name : Option String := none
  managementNetwork : Option String := none
deriving DecidableEq, Repr

/-- Network detail of one amphora. -/
structure AmphoraNetworkConfig where
  amphoraId : String
  vipSubnet : Option Subnet := none
  vipPort : Option Port := none
  vrrpSubnet : Option Subnet := none
  vrrpPort : Option Port := none
  haSubnet : Option Subnet := none
  haPort : Option Port := none
deriving DecidableEq, Repr

/-- What an allocation of virtual addresses yields. -/
structure AllocatedVip where
  vip : Vip
  additionalVips : List AdditionalVip
deriving DecidableEq, Repr

/-- A requested change of the virtual address. The policy is left alone (`none`), cleared
(`some none`) or set. -/
structure VipUpdate where
  qosPolicyId : Option (Option String) := none
deriving DecidableEq, Repr

structure LoadBalancerUpdate where
  vip : Option VipUpdate := none
deriving DecidableEq, Repr

namespace LoadBalancerUpdate

def touchesQos (u : LoadBalancerUpdate) : Bool :=
  u.vip.any fun vip => vip.qosPolicyId.isSome

/-- The policy that the update sets, if it sets one. -/
def requestedQos (u : LoadBalancerUpdate) : Option String :=
  u.vip.bind fun vip => vip.qosPolicyId.bind fun policy => policy

end LoadBalancerUpdate

/-- What became of a port that was to be deleted. -/
inductive PortDeletion where
  | skipped
  | deleted
  | abandoned
deriving DecidableEq, Repr

def PortDeletion.name : PortDeletion → String
  | .skipped => "skipped"
  | .deleted => "deleted"
  | .abandoned => "abandoned"

/-! Names of the things that the service creates -/

/-- Name of a port that reaches the members of an amphora. -/
def memberPortName (amphoraId : String) : String := "lb-member-" ++ amphoraId

/-- Name of the base port of an amphora, which carries the virtual address. -/
def basePortName (amphoraId : String) : String := "lb-vrrp-" ++ amphoraId

def vipPortName (loadBalancerId : String) : String := "lb-vip-" ++ loadBalancerId

def vipSecurityGroupName (loadBalancerId : String) : String := "lb-" ++ loadBalancerId

end AmphoraWiring
