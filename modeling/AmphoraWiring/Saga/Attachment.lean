import AmphoraWiring.Delta.Compute
import AmphoraWiring.Saga.Step

/-!
Steps that compute deltas, list what an amphora is attached to, and attach or detach it directly.
-/
namespace AmphoraWiring

namespace Amphora

/-- The port by which the service reaches the amphora is known by its address. -/
def isManagementPort (a : Amphora) (p : Port) : Bool := a.lbNetworkIp.any fun ip => p.hasIp ip

end Amphora

namespace Step

open Deployment

def calculateAmphoraDelta (bootNetworks : List String) (loadBalancerId : String)
    (amphora : Amphora) (zone : Option AvailabilityZone) : Step Delta where
  name := "calculate-amphora-delta"
  execute := do
    let lb ← loadBalancer loadBalancerId
    onSubstrate (Substrate.computeDelta (managementNetworks bootNetworks zone) lb amphora)

def calculateDelta (bootNetworks : List String) (loadBalancerId : String)
    (zone : Option AvailabilityZone) : Step (IdMap Delta) where
  name := "calculate-delta"
  execute := do
    let lb ← loadBalancer loadBalancerId
    onSubstrate (Substrate.computeDeltas (managementNetworks bootNetworks zone) lb)

def interfacesOf (amphora : Amphora) : Work (List Interface) :=
  onSubstrate (Substrate.getPluggedNetworks amphora.instanceId)

def listInterfaces (amphora : Amphora) : Step (List Interface) where
  name := "get-plumbed-networks"
  execute := interfacesOf amphora

/-- Detaches an amphora from a network as far as that succeeds. -/
def detach (amphora : Amphora) (nic : Interface) : Work Unit := do
  let _ ← Flow.outcome (onSubstrate (Substrate.unplugNetwork amphora.instanceId nic.networkId))

/-- Detaches the networks that a delta removes; without a delta there is nothing to do. -/
def unplugNetworks (amphora : Amphora) (delta : Option Delta) : Step Unit where
  name := "unplug-networks"
  execute :=
    match delta with
    | none => pure ()
    | some delta => delta.deleteNics.forM (detach amphora)

/-- The port with its details if it reaches members: not on the network of the virtual address,
and not the management port. -/
def memberPort? (amphora : Amphora) (vipPort : Port) (portId : String) : Work (Option Port) := do
  let port ← onSubstrate (Substrate.getPort portId)
  if port.networkId = vipPort.networkId || amphora.isManagementPort port then return none
  return some (← fillPort port)

def portIdsOf (amphora : Amphora) : Work (List String) := do
  return (← interfacesOf amphora).filterMap (·.portId)

def listMemberPorts (lb : LoadBalancer) (amphora : Amphora) : Step (List Port) where
  name := "get-member-ports"
  execute := do
    let vipPortId ← Action.orFail (.invalidInput ("load balancer " ++ lb.id ++ " has no VIP port"))
      lb.vip.portId
    let vipPort ← onSubstrate (Substrate.getPort vipPortId)
    let portIds ← portIdsOf amphora
    let ports ← portIds.mapM (memberPort? amphora vipPort)
    return ports.filterMap id

/-- Adds a port to those found, unless it is among them or is the management port. -/
def collectPort (amphora : Amphora) (found : List Port) (portId : String) : Work (List Port) := do
  if found.any fun p => p.id = portId then return found
  let port ← onSubstrate (Substrate.getPort portId)
  return if amphora.isManagementPort port then found else found ++ [port]

def listServicePorts (amphora : Amphora) : Step (List Port) where
  name := "retrieve-port-ids-except-lb-network"
  execute := do
    let portIds ← portIdsOf amphora
    portIds.foldlM (collectPort amphora) []

def plugPorts (amphoraId : String) (ports : List Port) : Step Unit where
  name := "plug-ports"
  execute := do
    let amphora ← amphora amphoraId
    ports.forM fun port => onSubstrate (Substrate.plugPort amphora port)

end Step

end AmphoraWiring
