import AmphoraWiring.Model.LoadBalancer
import AmphoraWiring.Substrate.Port

/-!
Calls about networks and the instances that are attached to them.
-/
namespace AmphoraWiring.Substrate

def getSubnet (subnetId : String) : Call Subnet := do
  begin .getSubnet subnetId
  subnetById subnetId

def getNetwork (networkId : String) : Call Network := do
  begin .getNetwork networkId
  Action.orFail (.networkNotFound networkId) ((← get).networks.get? networkId)

/-- The interfaces of an instance in the order in which they were plugged in. -/
def interfaces (s : Substrate) (portIds : List String) : List Interface :=
  (portIds.filterMap s.ports.get?).map Port.toInterface

def getPluggedNetworks (computeId : String) : Call (List Interface) := do
  begin .getPluggedNetworks computeId
  let portIds ← portsOfInstance computeId
  return (← get).interfaces portIds

def instanceOf (amphora : Amphora) : Call String :=
  Action.orFail (.notFound ("Instance for amphora " ++ amphora.id ++ " could not be found"))
    amphora.computeId

def plugPort (amphora : Amphora) (port : Port) : Call Unit := do
  begin .plugPort port.id
  let computeId ← instanceOf amphora
  plug computeId port.id

/-- Detaches every port of an instance that is on the network. -/
def unplugNetwork (computeId networkId : String) : Call Unit := do
  begin .unplugNetwork (computeId ++ "/" ++ networkId)
  let plugged ← portsOfInstance computeId
  let s ← get
  let onNetwork := plugged.filter fun id => (s.ports.get? id).any fun p => p.networkId = networkId
  if onNetwork.isEmpty then
    throw (.networkNotFound ("network " ++ networkId ++ " is not plugged into " ++ computeId))
  modify fun s =>
    { s with
      plugged := s.plugged.insert computeId (plugged.filter fun id => !onNetwork.contains id)
      ports := onNetwork.foldl
        (fun ports id => ports.modify id fun p => { p with deviceId := none })
        s.ports }

end AmphoraWiring.Substrate
