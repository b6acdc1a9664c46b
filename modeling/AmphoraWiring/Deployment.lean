import AmphoraWiring.Audit
import AmphoraWiring.Flow.Basic
import AmphoraWiring.Repository
import AmphoraWiring.Substrate.Vip

/-!
A deployment is everything that a step of the service works with: the network substrate, the
repository, and the audit trail.
-/
namespace AmphoraWiring

structure Deployment where
  substrate : Substrate := {}
  repository : Repository := {}
  audit : AuditLog := {}

/-- Work on a deployment, which may fail. -/
abbrev Work (α : Type) := Flow Deployment α

namespace Deployment

def onSubstrate (call : Substrate.Call α) : Work α :=
  Flow.onPart (·.substrate) (fun d substrate => { d with substrate }) id call

def onRepository (call : Repository.Call α) : Work α :=
  Flow.onPart (·.repository) (fun d repository => { d with repository }) .store call

/-- Adds to the audit trail. -/
def record (f : AuditLog → AuditLog) : Effect Deployment Unit :=
  Flow.modifyState fun d => { d with audit := f d.audit }

def loadBalancer (id : String) : Work LoadBalancer := onRepository (Repository.getLoadBalancer id)

def amphora (id : String) : Work Amphora := onRepository (Repository.getAmphora id)

def subnet (id : String) : Work Subnet := onSubstrate (Substrate.getSubnet id)

def fillFixedIp (ip : FixedIp) : Work FixedIp := do
  let subnet ← subnet ip.subnetId
  return { ip with subnet := some subnet }

/-- The port with its network and the subnets of its addresses filled in. -/
def fillPort (port : Port) : Work Port := do
  let network ← onSubstrate (Substrate.getNetwork port.networkId)
  let fixedIps ← port.fixedIps.mapM fillFixedIp
  return { port with network := some network, fixedIps }

end Deployment

end AmphoraWiring
