import AmphoraWiring.Error
import AmphoraWiring.Flow.Action
import AmphoraWiring.IdMap
import AmphoraWiring.Model.Network

/-!
The network substrate as a state: what networks, subnets, ports, instances and security groups
there are, and what else a call depends on. Every call is journaled first; then it fails if a
failure has been scripted for it, before it looks at its arguments.
-/
namespace AmphoraWiring

/-- The calls that the substrate answers. -/
inductive Operation where
  | getPluggedNetworks
  | getSubnet
  | getNetwork
  | getPort
  | createPort
  | deletePort
  | adminDownPort
  | setPortAdminStateUp
  | plugPort
  | plugFixedIp
  | unplugFixedIp
  | unplugNetwork
  | allocateVip
  | deallocateVip
  | plugAapPort
  | unplugAapPort
  | unplugVip
  | updateVip
  | updateVipSg
  | updateAapPortSg
  | applyQosOnPort
  | getSecurityGroup
  | getNetworkConfigs
deriving DecidableEq, Repr

namespace Operation

def name : Operation → String
  | .getPluggedNetworks => "get_plugged_networks"
  | .getSubnet => "get_subnet"
  | .getNetwork => "get_network"
  | .getPort => "get_port"
  | .createPort => "create_port"
  | .deletePort => "delete_port"
  | .adminDownPort => "admin_down_port"
  | .setPortAdminStateUp => "set_port_admin_state_up"
  | .plugPort => "plug_port"
  | .plugFixedIp => "plug_fixed_ip"
  | .unplugFixedIp => "unplug_fixed_ip"
  | .unplugNetwork => "unplug_network"
  | .allocateVip => "allocate_vip"
  | .deallocateVip => "deallocate_vip"
  | .plugAapPort => "plug_aap_port"
  | .unplugAapPort => "unplug_aap_port"
  | .unplugVip => "unplug_vip"
  | .updateVip => "update_vip"
  | .updateVipSg => "update_vip_sg"
  | .updateAapPortSg => "update_aap_port_sg"
  | .applyQosOnPort => "apply_qos_on_port"
  | .getSecurityGroup => "get_security_group"
  | .getNetworkConfigs => "get_network_configs"

def all : List Operation :=
  [.getPluggedNetworks, .getSubnet, .getNetwork, .getPort, .createPort, .deletePort,
   .adminDownPort, .setPortAdminStateUp, .plugPort, .plugFixedIp, .unplugFixedIp, .unplugNetwork,
   .allocateVip, .deallocateVip, .plugAapPort, .unplugAapPort, .unplugVip, .updateVip,
   .updateVipSg, .updateAapPortSg, .applyQosOnPort, .getSecurityGroup, .getNetworkConfigs]

def ofName? (name : String) : Option Operation := all.find? fun op => op.name = name

end Operation

structure JournalEntry where
  operation : Operation
  target : String
deriving DecidableEq, Repr

/-- The next `remaining` calls of the operation fail. -/
structure ScriptedFault where
  operation : Operation
  error : NetworkError
  remaining : Nat
deriving DecidableEq, Repr

/-- `plugged` lists the ports of each instance in the order in which they were plugged in;
security groups are kept by name. An allocation counts the host addresses of a subnet handed out
so far. A port that is going down has the number of status reads left before it reports so. -/
structure Substrate where
  networks : IdMap Network := .empty
  subnets : IdMap Subnet := .empty
  ports : IdMap Port := .empty
  plugged : IdMap (List String) := .empty
  securityGroups : IdMap SecurityGroup := .empty
  securityGroupsEnabled : Bool := false
  allocations : IdMap Nat := .empty
  pendingDown : IdMap Nat := .empty
  downDelay : Nat := 0
  faults : List ScriptedFault := []
  journal : List JournalEntry := []
  drawn : Nat := 0

/-- The id drawn after `n - 1` others. -/
def drawnId (n : Nat) : String :=
  let digits := (toString n).toList
  "00000000-0000-4000-8000-" ++ String.ofList (List.replicate (12 - digits.length) '0' ++ digits)

namespace Substrate

abbrev Call (α : Type) := Action NetworkError Substrate α

/-- The failure that is due for the operation, and the script without it. -/
def takeFault (op : Operation) : List ScriptedFault → Option (NetworkError × List ScriptedFault)
  | [] => none
  | f :: fs =>
    if f.operation = op then
      some (f.error, if f.remaining ≤ 1 then fs else { f with remaining := f.remaining - 1 } :: fs)
    else (takeFault op fs).map fun (e, fs) => (e, f :: fs)

def begin (op : Operation) (target : String) : Call Unit := fun s =>
  let s := { s with journal := s.journal ++ [⟨op, target⟩] }
  match takeFault op s.faults with
  | some (e, faults) => (.error e, { s with faults })
  | none => (.ok (), s)

/-- Lets the next `times` calls of the operation fail, after those that are to fail already. -/
def injectFault (s : Substrate) (op : Operation) (times : Nat) (e : NetworkError) : Substrate :=
  if times = 0 then s else { s with faults := s.faults ++ [⟨op, e, times⟩] }

/-- Targets of the journaled calls of the operation. -/
def callsTo (s : Substrate) (op : Operation) : List String :=
  (s.journal.filter fun c => c.operation = op).map (·.target)

def drawId : Call String := do
  modify fun s => { s with drawn := s.drawn + 1 }
  return drawnId (← get).drawn

def portById (id : String) : Call Port := do
  Action.orFail (.portNotFound id) ((← get).ports.get? id)

def subnetById (id : String) : Call Subnet := do
  Action.orFail (.subnetNotFound id) ((← get).subnets.get? id)

def portsOfInstance (computeId : String) : Call (List String) := do
  Action.orFail (.notFound ("Instance " ++ computeId ++ " could not be found"))
    ((← get).plugged.get? computeId)

def putPort (p : Port) : Call Unit := modify fun s => { s with ports := s.ports.insert p.id p }

/-- Changes a port and gives it back. -/
def updatePort (id : String) (f : Port → Port) : Call Port := do
  let p ← portById id
  modify fun s => { s with ports := s.ports.modify id f }
  return f p

def pluggedPortIds (s : Substrate) (computeId : String) : List String :=
  (s.plugged.get? computeId).getD []

end Substrate

end AmphoraWiring
