import AmphoraWiring.Model.LoadBalancer

/-!
A delta is what has to change in the attachments of one amphora.
-/
namespace AmphoraWiring

/-- A subnet to add to or remove from an amphora. It names the port that carries the network
already, or none when the same delta creates it. -/
structure SubnetChange where
  subnetId : String
  networkId : String
  portId : Option String
deriving DecidableEq, Repr

structure Delta where
  amphoraId : String
  computeId : String
  addNics : List Interface
  deleteNics : List Interface
  addSubnets : List SubnetChange
  deleteSubnets : List SubnetChange
deriving DecidableEq, Repr

def Delta.isEmpty (d : Delta) : Bool :=
  d.addNics.isEmpty && d.deleteNics.isEmpty && d.addSubnets.isEmpty && d.deleteSubnets.isEmpty

end AmphoraWiring
