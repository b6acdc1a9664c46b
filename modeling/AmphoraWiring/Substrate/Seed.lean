import AmphoraWiring.Substrate.Instance
import AmphoraWiring.Substrate.Snapshot

/-!
Setting up a substrate, by hand or from a snapshot. None of this is journaled.
-/
namespace AmphoraWiring.Substrate

def addNetwork (s : Substrate) (network : Network) : Substrate :=
  { s with networks := s.networks.insert network.id network }

/-- Registers a subnet with its network, which is made if it is unknown. -/
def addSubnet (s : Substrate) (subnet : Subnet) : Substrate :=
  let network := (s.networks.get? subnet.networkId).getD { id := subnet.networkId }
  let network :=
    if network.subnets.contains subnet.id then network
    else { network with subnets := network.subnets ++ [subnet.id] }
  { s with
    networks := s.networks.insert subnet.networkId network
    subnets := s.subnets.insert subnet.id subnet }

def addInstance (s : Substrate) (computeId : String) : Substrate :=
  if s.plugged.contains computeId then s
  else { s with plugged := s.plugged.insert computeId [] }

def removeInstance (s : Substrate) (computeId : String) : Substrate :=
  { s with plugged := s.plugged.erase computeId }

/-- Creates the port behind an interface and plugs it in, under its own id if it names one. -/
def seedInterface (computeId : String) (interface : Interface) : Call Port := do
  let port ← newPort
    { networkId := interface.networkId
      name := ""
      fixedIps := interface.fixedIps
      vnicType := interface.vnicType }
  let port ←
    match interface.portId with
    | none => pure port
    | some id => do
      modify fun s => { s with ports := s.ports.erase port.id }
      let port := { port with id }
      putPort port
      pure port
  modify fun s => s.addInstance computeId
  plug computeId port.id
  return port

def seedInterfaces (computeId : String) : List Interface → Call Unit
  | [] => return
  | interface :: interfaces => do
    let _ ← seedInterface computeId interface
    seedInterfaces computeId interfaces

def seedInstances : List (String × List Interface) → Call Unit
  | [] => return
  | (computeId, interfaces) :: instances => do
    modify fun s => s.addInstance computeId
    seedInterfaces computeId interfaces
    seedInstances instances

/-- Loads a snapshot; instances come in the order of their ids. -/
def load (snapshot : Snapshot) : Call Unit := do
  modify fun s =>
    let s := { s with securityGroupsEnabled := snapshot.securityGroupsEnabled }
    snapshot.subnets.foldl addSubnet (snapshot.networks.foldl addNetwork s)
  seedInstances snapshot.instances.entries

def ofSnapshot (snapshot : Snapshot) : Except NetworkError Substrate :=
  match (load snapshot).runOn {} with
  | (.ok (), s) => .ok s
  | (.error e, _) => .error e

end AmphoraWiring.Substrate
