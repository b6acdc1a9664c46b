import AmphoraWiring.Saga.Step

/-!
Steps in the life of a virtual address: its allocation, its wiring to the amphorae, and its
release.
-/
namespace AmphoraWiring

namespace Step

open Deployment

def allocate (loadBalancerId : String) : Work AllocatedVip := do
  let lb ← loadBalancer loadBalancerId
  let allocated ← onSubstrate (Substrate.allocateVip lb)
  match allocated.vip.portId with
  | some portId => record fun a => a.vipAllocated lb.id portId
  | none => pure ()
  return allocated

/-- Releases an address that was allocated in vain. One that stays in use is reported. -/
def release (loadBalancerId : String) (vip : Vip) : Effect Deployment Unit := do
  match ← Flow.settle (onSubstrate (Substrate.deallocateVip vip)) with
  | .ok () =>
    match vip.portId with
    | some portId => record fun a => a.vipDeallocated loadBalancerId portId
    | none => return
  | .error e => record fun a => a.resourceLeaked "vip" (vip.portId.getD loadBalancerId) e.message

def allocateVip (loadBalancerId : String) : Step AllocatedVip where
  name := "allocate-vip"
  execute := allocate loadBalancerId
  revert allocated := release loadBalancerId allocated.vip

/-- During a failover the address stays with the load balancer, whatever becomes of the saga. -/
def allocateVipForFailover (loadBalancerId : String) : Step AllocatedVip where
  name := "allocate-vip-for-failover"
  execute := allocate loadBalancerId

def deallocateVip (loadBalancerId : String) : Step Unit where
  name := "deallocate-vip"
  execute := do
    let lb ← loadBalancer loadBalancerId
    onSubstrate (Substrate.deallocateVip lb.vip)
    match lb.vip.portId with
    | some portId => record fun a => a.vipDeallocated lb.id portId
    | none => return

/-- Removes the base port of an amphora that was given its ports as `plugged` says. -/
def unplugFrom (loadBalancerId subnetId : String) (amphoraId : String) (plugged : Amphora) :
    Work Unit := do
  onRepository (Repository.updateAmphoraPorts amphoraId plugged.vrrpPortId plugged.haPortId)
  let amphora ← amphora amphoraId
  let _ ← subnet subnetId
  let _ ← loadBalancer loadBalancerId
  onSubstrate (Substrate.unplugAapPort amphora)

def plugVip (loadBalancerId amphoraId subnetId : String) : Step Amphora where
  name := "plug-vip-amphora"
  execute := do
    let amphora ← amphora amphoraId
    let lb ← loadBalancer loadBalancerId
    let subnet ← subnet subnetId
    onSubstrate (Substrate.plugAapPort lb.vip amphora subnet)
  revert plugged := do
    match ← Flow.settle (unplugFrom loadBalancerId subnetId amphoraId plugged) with
    | .ok () => return
    | .error e =>
      record fun a => a.resourceLeaked "vrrp port" (plugged.vrrpPortId.getD "-") e.message

def unplugVip (loadBalancerId : String) : Step Unit where
  name := "unplug-vip"
  execute := do
    let _ ← Flow.outcome do
      let lb ← loadBalancer loadBalancerId
      onSubstrate (Substrate.unplugVip lb)

def refreshVip (loadBalancerId : String) (forDelete : Bool) : Work Unit := do
  let _ ← Flow.outcome do
    let lb ← loadBalancer loadBalancerId
    onSubstrate (Substrate.updateVip lb forDelete)

def updateVip (loadBalancerId : String) : Step Unit where
  name := "update-vip"
  execute := refreshVip loadBalancerId false

def updateVipForDelete (loadBalancerId : String) : Step Unit where
  name := "update-vip-for-delete"
  execute := refreshVip loadBalancerId true

def findVipSubnet (lb : LoadBalancer) : Step Subnet where
  name := "get-subnet-from-vip"
  execute := subnet lb.vip.subnetId

/-- The amphora with what its base port and the virtual address tell about it. -/
def describeAmphora (lb : LoadBalancer) (amphora : Amphora) (port : Port) : Step Amphora where
  name := "build-amphora-data"
  execute := do
    let vrrpIp ← Action.orFail (.invalidInput ("port " ++ port.id ++ " has no fixed IP"))
      (port.fixedIps.head?.bind (·.ipAddress))
    return { amphora with
      haIp := lb.vip.ipAddress
      haPortId := lb.vip.portId
      vrrpId := some 1
      vrrpPortId := some port.id
      vrrpIp := some vrrpIp }

/-! Network configurations -/

def amphoraNetworkConfig (loadBalancerId amphoraId : String) :
    Step (IdMap AmphoraNetworkConfig) where
  name := "get-amphora-network-configs"
  execute := do
    let amphora ← amphora amphoraId
    let lb ← loadBalancer loadBalancerId
    onSubstrate (Substrate.getNetworkConfigs lb (some amphora))

/-- Without the id of an amphora, every allocated one is meant. -/
def networkConfigs (loadBalancerId : String) (amphoraId : Option String) :
    Step (IdMap AmphoraNetworkConfig) where
  name := "get-amphora-network-configs-by-ids"
  execute := do
    let lb ← loadBalancer loadBalancerId
    let amphora ←
      match amphoraId with
      | some id => some <$> amphora id
      | none => pure none
    onSubstrate (Substrate.getNetworkConfigs lb amphora)

def allNetworkConfigs (loadBalancerId : String) : Step (IdMap AmphoraNetworkConfig) where
  name := "get-amphorae-network-configs"
  execute := do
    let lb ← loadBalancer loadBalancerId
    onSubstrate (Substrate.getNetworkConfigs lb none)

end Step

end AmphoraWiring
