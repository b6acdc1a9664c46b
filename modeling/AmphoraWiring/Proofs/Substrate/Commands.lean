import AmphoraWiring.Substrate.Seed
import AmphoraWiring.Substrate.Vip

/-!
What can happen to a substrate, as data: the calls that it answers, with their arguments, and what
sets it up or scripts a failure. A history is a list of these, each of which leaves a state for the
next, also where it fails.
-/
namespace AmphoraWiring.Substrate

/-- A call that the substrate answers. -/
inductive Command where
  | getPluggedNetworks (computeId : String)
  | getSubnet (subnetId : String)
  | getNetwork (networkId : String)
  | getPort (portId : String)
  | createPort (request : PortRequest)
  | deletePort (portId : String)
  | adminDownPort (portId : String)
  | setPortAdminStateUp (portId : String) (up : Bool)
  | plugPort (amphora : Amphora) (port : Port)
  | plugFixedIp (portId subnetId : String)
  | unplugFixedIp (portId subnetId : String)
  | unplugNetwork (computeId networkId : String)
  | allocateVip (lb : LoadBalancer)
  | deallocateVip (vip : Vip)
  | plugAapPort (vip : Vip) (amphora : Amphora) (subnet : Subnet)
  | unplugAapPort (amphora : Amphora)
  | unplugVip (lb : LoadBalancer)
  | updateVip (lb : LoadBalancer) (forDelete : Bool)
  | updateVipSg (lb : LoadBalancer)
  | updateAapPortSg (lb : LoadBalancer) (amphora : Amphora)
  | applyQosOnPort (qosPolicyId : Option String) (portId : String)
  | getSecurityGroup (name : String)
  | getNetworkConfigs (lb : LoadBalancer) (amphora : Option Amphora)

/-- Makes the call; what it answers is dropped. -/
def Command.perform : Command → Call Unit
  | .getPluggedNetworks computeId => do let _ ← Substrate.getPluggedNetworks computeId
  | .getSubnet subnetId => do let _ ← Substrate.getSubnet subnetId
  | .getNetwork networkId => do let _ ← Substrate.getNetwork networkId
  | .getPort portId => do let _ ← Substrate.getPort portId
  | .createPort request => do let _ ← Substrate.createPort request
  | .deletePort portId => Substrate.deletePort portId
  | .adminDownPort portId => Substrate.adminDownPort portId
  | .setPortAdminStateUp portId up => do let _ ← Substrate.setPortAdminStateUp portId up
  | .plugPort amphora port => Substrate.plugPort amphora port
  | .plugFixedIp portId subnetId => do let _ ← Substrate.plugFixedIp portId subnetId
  | .unplugFixedIp portId subnetId => do let _ ← Substrate.unplugFixedIp portId subnetId
  | .unplugNetwork computeId networkId => Substrate.unplugNetwork computeId networkId
  | .allocateVip lb => do let _ ← Substrate.allocateVip lb
  | .deallocateVip vip => Substrate.deallocateVip vip
  | .plugAapPort vip amphora subnet => do let _ ← Substrate.plugAapPort vip amphora subnet
  | .unplugAapPort amphora => Substrate.unplugAapPort amphora
  | .unplugVip lb => Substrate.unplugVip lb
  | .updateVip lb forDelete => Substrate.updateVip lb forDelete
  | .updateVipSg lb => do let _ ← Substrate.updateVipSg lb
  | .updateAapPortSg lb amphora => Substrate.updateAapPortSg lb amphora
  | .applyQosOnPort qosPolicyId portId => Substrate.applyQosOnPort qosPolicyId portId
  | .getSecurityGroup name => do let _ ← Substrate.getSecurityGroup name
  | .getNetworkConfigs lb amphora => do let _ ← Substrate.getNetworkConfigs lb amphora

/-- A call, or a change that is made to the substrate from outside. -/
inductive Event where
  | command (command : Command)
  | addNetwork (network : Network)
  | addSubnet (subnet : Subnet)
  | addInstance (computeId : String)
  | removeInstance (computeId : String)
  | seedInterface (computeId : String) (interface : Interface)
  | setDownDelay (polls : Nat)
  | manageSecurityGroups (enabled : Bool)
  | injectFault (op : Operation) (times : Nat) (e : NetworkError)

namespace Event

def perform : Event → Call Unit
  | .command c => c.perform
  | .addNetwork network => modify fun s => s.addNetwork network
  | .addSubnet subnet => modify fun s => s.addSubnet subnet
  | .addInstance computeId => modify fun s => s.addInstance computeId
  | .removeInstance computeId => modify fun s => s.removeInstance computeId
  | .seedInterface computeId interface => do let _ ← Substrate.seedInterface computeId interface
  | .setDownDelay polls => modify fun s => { s with downDelay := polls }
  | .manageSecurityGroups enabled => modify fun s => { s with securityGroupsEnabled := enabled }
  | .injectFault op times e => modify fun s => s.injectFault op times e

/-- The state that the event leaves, whether it succeeds or fails. -/
def leaves (e : Event) (s : Substrate) : Substrate := (e.perform.runOn s).2

/-- A subnet that is known already stays on its network. An interface that names its port is first
given one under an id drawn for it, and an id drawn at random is new. -/
def Admissible (s : Substrate) : Event → Prop
  | .addSubnet subnet =>
    ∀ known, s.subnets.get? subnet.id = some known → known.networkId = subnet.networkId
  | .seedInterface _ interface =>
    interface.portId ≠ none → s.ports.get? (drawnId (s.drawn + 1)) = none
  | _ => True

end Event

/-- The state after a history. -/
def after (s : Substrate) : List Event → Substrate
  | [] => s
  | e :: events => (e.leaves s).after events

/-- Every event of the history is admissible where it happens. -/
def Admits (s : Substrate) : List Event → Prop
  | [] => True
  | e :: events => e.Admissible s ∧ (e.leaves s).Admits events

end AmphoraWiring.Substrate
