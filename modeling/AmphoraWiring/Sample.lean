import AmphoraWiring.Deployment
import AmphoraWiring.Substrate.Seed

/-!
A small deployment to try things on. There is a management network, a network for the virtual
address, and two networks for members, each with one subnet; two instances with an interface on
the management network; and a load balancer with an amphora on each of them and one member.
-/
namespace AmphoraWiring.Sample

def subnet (id networkId range : String) : Subnet where
  id := id
  networkId := networkId
  cidr := Cidr.ofText? range

def subnets : List Subnet :=
  [subnet "mgmt-subnet" "mgmt-net" "192.168.0.0/24", subnet "vip-subnet" "vip-net" "10.0.0.0/24",
   subnet "subnet-b" "net-b" "10.0.1.0/24", subnet "subnet-c" "net-c" "10.0.2.0/24"]

def managementInterface : Interface where
  networkId := "mgmt-net"
  fixedIps := [{ subnetId := "mgmt-subnet" }]

/-- An amphora on a new instance, known by its address on the management network. -/
def seedAmphora (id computeId : String) : Substrate.Call Amphora := do
  modify fun s => s.addInstance computeId
  let port ← Substrate.seedInterface computeId managementInterface
  return {
    id
    loadBalancerId := some "lb-1"
    computeId := some computeId
    lbNetworkIp := port.fixedIps.head?.bind (·.ipAddress) }

def loadBalancer (amphorae : List Amphora) : LoadBalancer where
  id := "lb-1"
  vip := { subnetId := "vip-subnet", networkId := "vip-net" }
  pools := [{ id := "pool-1", members := [{ id := "m1", subnetId := some "subnet-b" }] }]
  amphorae := amphorae

def seed : Substrate.Call LoadBalancer := do
  let first ← seedAmphora "amp-1" "vm-1"
  let second ← seedAmphora "amp-2" "vm-2"
  return loadBalancer [first, second]

/-- The deployment, in which security groups are managed or not. -/
def deployment (securityGroupsEnabled : Bool) : Except NetworkError Deployment :=
  match seed.runOn (subnets.foldl Substrate.addSubnet { securityGroupsEnabled }) with
  | (.ok lb, substrate) => .ok { substrate, repository := Repository.store {} lb }
  | (.error e, _) => .error e

end AmphoraWiring.Sample
