import AmphoraWiring.IdMap
import AmphoraWiring.Model.Network

/-!
A snapshot describes a substrate to start from: its networks and subnets, and the interfaces of
each compute instance.
-/
namespace AmphoraWiring

structure Snapshot where
  networks : List Network := []
  subnets : List Subnet := []
  instances : IdMap (List Interface) := .empty
  securityGroupsEnabled : Bool := false

end AmphoraWiring
