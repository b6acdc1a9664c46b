import AmphoraWiring.Address.Cidr

/-!
The records of the network substrate: networks, their subnets, ports with fixed addresses, and
the interfaces by which a compute instance is attached to networks.
-/
namespace AmphoraWiring

/-- Kind of virtual interface; `direct` hands a part of the physical card to the instance. -/
inductive VnicType where
  | normal
  | direct
deriving DecidableEq, Repr

def VnicType.name : VnicType → String
  | .normal => "normal"
  | .direct => "direct"

inductive PortStatus where
  | active
  | build
  | down
  | error
deriving DecidableEq, Repr

def PortStatus.name : PortStatus → String
  | .active => "ACTIVE"
  | .build => "BUILD"
  | .down => "DOWN"
  | .error => "ERROR"

structure Subnet where
  id : String
  networkId : String
  cidr : Option Cidr := none
  gatewayIp : Option Address := none
  ipv6AddressMode : Option String := none
deriving DecidableEq, Repr

structure Network where
  id : String
  name : String := ""
  subnets : List String := []
  mtu : Option Nat := none
deriving DecidableEq, Repr

/-- An address of a port on a subnet. Without an address it is a wish for any one; the subnet
itself is filled in on demand. -/
structure FixedIp where
  subnetId : String
  ipAddress : Option Address := none
  subnet : Option Subnet := none
deriving DecidableEq, Repr

/-- An attachment of a compute instance to a network, actual or desired. -/
structure Interface where
  networkId : String
  portId : Option String := none
  fixedIps : List FixedIp := []
  vnicType : VnicType := .normal
deriving DecidableEq, Repr

def Interface.hasSubnet (i : Interface) (subnetId : String) : Bool :=
  i.fixedIps.any fun ip => ip.subnetId = subnetId

/-- `allowedAddressPairs` are the addresses other than the fixed ones that the port may carry
traffic for; the network is filled in on demand. -/
structure Port where
  id : String
  name : String := ""
  networkId : String
  fixedIps : List FixedIp := []
  adminStateUp : Bool := true
  status : PortStatus := .active
  deviceId : Option String := none
  qosPolicyId : Option String := none
  securityGroupIds : List String := []
  vnicType : VnicType := .normal
  allowedAddressPairs : List Address := []
  network : Option Network := none
deriving DecidableEq, Repr

namespace Port

def hasSubnet (p : Port) (subnetId : String) : Bool :=
  p.fixedIps.any fun ip => ip.subnetId = subnetId

def hasIp (p : Port) (a : Address) : Bool :=
  p.fixedIps.any fun ip => ip.ipAddress = some a

/-- The interface that an instance has by the port. -/
def toInterface (p : Port) : Interface where
  networkId := p.networkId
  portId := some p.id
  fixedIps := p.fixedIps
  vnicType := p.vnicType

end Port

structure SecurityGroup where
  id : String
  name : String
deriving DecidableEq, Repr

end AmphoraWiring
