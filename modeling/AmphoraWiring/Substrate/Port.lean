import AmphoraWiring.Substrate.Basic

/-!
Ports of the substrate: creation with addresses, plugging into instances, removal, and the calls
that do one of these.
-/
namespace AmphoraWiring

/-- What a new port is to be like. Without fixed addresses the substrate picks a subnet. -/
structure PortRequest where
  networkId : String
  name : String
  fixedIps : List FixedIp := []
  secondaryIps : List Address := []
  securityGroupIds : List String := []
  qosPolicyId : Option String := none
  vnicType : VnicType := .normal

namespace Substrate

/-- The next host address of a subnet; none on a subnet without a range. The first host is left
to the gateway. -/
def allocateIp (subnetId : String) : Call (Option Address) := do
  match (← subnetById subnetId).cidr with
  | none => return none
  | some cidr =>
    let next := ((← get).allocations.get? subnetId).getD 0 + 1
    modify fun s => { s with allocations := s.allocations.insert subnetId next }
    match cidr.host? next with
    | some a => return some a
    | none => throw (.driver ("subnet " ++ subnetId ++ " is exhausted"))

/-- A fixed address on a subnet of the network, the one asked for or a new one. -/
def resolveFixedIp (networkId : String) (wish : FixedIp) : Call FixedIp := do
  let subnet ← subnetById wish.subnetId
  if subnet.networkId ≠ networkId then
    throw (.invalidInput ("subnet " ++ wish.subnetId ++ " is not on network " ++ networkId))
  let ipAddress ←
    match wish.ipAddress with
    | some a => pure (some a)
    | none => allocateIp wish.subnetId
  return { subnetId := wish.subnetId, ipAddress }

def resolveFixedIps (networkId : String) : List FixedIp → Call (List FixedIp)
  | [] => return []
  | wish :: wishes => do
    let ip ← resolveFixedIp networkId wish
    let ips ← resolveFixedIps networkId wishes
    return ip :: ips

/-- The addresses that a request asks for on a network. -/
def PortRequest.wishes (request : PortRequest) (network : Network) : List FixedIp :=
  if request.fixedIps.isEmpty then network.subnets.head?.toList.map fun id => { subnetId := id }
  else request.fixedIps

/-- An id is drawn once nothing can fail any more. -/
def newPort (request : PortRequest) : Call Port := do
  let network ← Action.orFail
    (.notFound ("Network " ++ request.networkId ++ " could not be found"))
    ((← get).networks.get? request.networkId)
  let fixedIps ← resolveFixedIps request.networkId (PortRequest.wishes request network)
  let id ← drawId
  let port : Port :=
    { id
      name := request.name
      networkId := request.networkId
      fixedIps
      qosPolicyId := request.qosPolicyId
      securityGroupIds := request.securityGroupIds
      vnicType := request.vnicType
      allowedAddressPairs := request.secondaryIps }
  putPort port
  return port

def plug (computeId portId : String) : Call Unit := do
  let _ ← portById portId
  let plugged ← portsOfInstance computeId
  let plugged := if plugged.contains portId then plugged else plugged ++ [portId]
  modify fun s => { s with plugged := s.plugged.insert computeId plugged }
  let _ ← updatePort portId fun p => { p with deviceId := some computeId }

/-- Removes a port wherever it is plugged in. A port that does not exist is removed already. -/
def removePort (s : Substrate) (portId : String) : Substrate :=
  { s with
    ports := s.ports.erase portId
    pendingDown := s.pendingDown.erase portId
    plugged := s.plugged.map fun ids => ids.filter fun id => id ≠ portId }

/-! Calls -/

def createPort (request : PortRequest) : Call Port := do
  begin .createPort request.name
  newPort request

def deletePort (portId : String) : Call Unit := do
  begin .deletePort portId
  modify fun s => s.removePort portId

/-- Reading a port that is going down counts down; when nothing is left it is down. -/
def getPort (portId : String) : Call Port := do
  begin .getPort portId
  match (← get).pendingDown.get? portId with
  | some 0 =>
    modify fun s => { s with pendingDown := s.pendingDown.erase portId }
    updatePort portId fun p => { p with status := .down }
  | some (left + 1) =>
    modify fun s => { s with pendingDown := s.pendingDown.insert portId left }
    portById portId
  | none => portById portId

def adminDownPort (portId : String) : Call Unit := do
  begin .adminDownPort portId
  let _ ← updatePort portId fun p => { p with adminStateUp := false, status := .down }

def setPortAdminStateUp (portId : String) (up : Bool) : Call Port := do
  begin .setPortAdminStateUp (portId ++ "=" ++ toString up)
  let port ← updatePort portId fun p => { p with adminStateUp := up }
  if up then
    modify fun s => { s with pendingDown := s.pendingDown.erase portId }
    updatePort portId fun p => { p with status := .active }
  else if 0 < (← get).downDelay then
    modify fun s => { s with pendingDown := s.pendingDown.insert portId s.downDelay }
    return port
  else updatePort portId fun p => { p with status := .down }

def plugFixedIp (portId subnetId : String) : Call Port := do
  begin .plugFixedIp (portId ++ "/" ++ subnetId)
  let port ← portById portId
  if port.hasSubnet subnetId then return port
  let ip ← resolveFixedIp port.networkId { subnetId }
  updatePort portId fun p => { p with fixedIps := p.fixedIps ++ [ip] }

/-- Addresses on such subnets come and go with the router, not with the port. -/
def keepsAddresses (s : Substrate) (subnetId : String) : Bool :=
  (s.subnets.get? subnetId).any fun subnet => subnet.ipv6AddressMode = some "slaac"

def unplugFixedIp (portId subnetId : String) : Call Port := do
  begin .unplugFixedIp (portId ++ "/" ++ subnetId)
  if (← get).keepsAddresses subnetId then portById portId
  else updatePort portId fun p =>
    { p with fixedIps := p.fixedIps.filter fun ip => ip.subnetId ≠ subnetId }

def applyQosOnPort (qosPolicyId : Option String) (portId : String) : Call Unit := do
  begin .applyQosOnPort (portId ++ "=" ++ qosPolicyId.getD "none")
  let _ ← updatePort portId fun p => { p with qosPolicyId }

end Substrate

end AmphoraWiring
