import AmphoraWiring.Saga.Step

/-!
Steps that create the base port of an amphora, which carries the virtual addresses.
-/
namespace AmphoraWiring

def AdditionalVip.addresses (vips : List AdditionalVip) : List Address :=
  vips.filterMap (·.ipAddress)

namespace Step

open Deployment

def createBasePort (policy : RetryPolicy) (amphoraId : String) (request : PortRequest) :
    Work Port := do
  let port ← Flow.retry policy fun _ => onSubstrate (Substrate.createPort request)
  record fun a => a.portCreated port.id port.networkId (some amphoraId)
  return port

/-- Deletes a base port that was created in vain. One that stays behind is reported. -/
def deleteBasePort (port : Port) : Effect Deployment Unit := do
  match ← Flow.settle (onSubstrate (Substrate.deletePort port.id)) with
  | .ok () => record fun a => a.portDeleted port.id
  | .error e => record fun a => a.resourceLeaked "port" port.id e.message

/-- The request for a base port on the subnet of the virtual address. The group that the service
keeps comes before those of the user. -/
def vipBasePortRequest (vip : Vip) (groupId : Option String) (amphoraId : String)
    (additionalVips : List AdditionalVip) : PortRequest where
  networkId := vip.networkId
  name := basePortName amphoraId
  fixedIps := [{ subnetId := vip.subnetId }]
  secondaryIps := vip.ipAddress.toList ++ AdditionalVip.addresses additionalVips
  securityGroupIds := groupId.toList ++ vip.sgIds
  qosPolicyId := vip.qosPolicyId

def createVipBasePort (policy : RetryPolicy) (vip : Vip) (groupId : Option String)
    (amphoraId : String) (additionalVips : List AdditionalVip) : Step Port where
  name := "create-vip-base-port"
  execute :=
    createBasePort policy amphoraId (vipBasePortRequest vip groupId amphoraId additionalVips)
  revert := deleteBasePort

/-- The request for a base port that hands a part of the physical card to the amphora. Security
groups do not apply to it. -/
def directBasePortRequest (lb : LoadBalancer) (amphoraId : String) (subnet : Subnet) :
    PortRequest where
  networkId := subnet.networkId
  name := basePortName amphoraId
  fixedIps := [{ subnetId := subnet.id }]
  secondaryIps := AdditionalVip.addresses lb.additionalVips ++ lb.vip.ipAddress.toList
  qosPolicyId := lb.vip.qosPolicyId
  vnicType := .direct

def createDirectBasePort (policy : RetryPolicy) (loadBalancerId amphoraId : String)
    (subnet : Subnet) : Step Port where
  name := "create-sriov-base-port"
  execute := do
    let lb ← loadBalancer loadBalancerId
    createBasePort policy amphoraId (directBasePortRequest lb amphoraId subnet)
  revert := deleteBasePort

end Step

end AmphoraWiring
