import AmphoraWiring.Error
import AmphoraWiring.Flow.Action
import AmphoraWiring.IdMap
import AmphoraWiring.Model.LoadBalancer

/-!
The repository keeps what outlives a step: load balancers, their amphorae, and the bindings of
the ports that were created for amphorae. An amphora belongs to the load balancer that its record
names. A call either takes place as a whole or changes nothing.
-/
namespace AmphoraWiring

/-- The calls that the repository answers. -/
inductive RepositoryCall where
  | getLoadBalancer
  | putLoadBalancer
  | getAmphora
  | updateAmphoraPorts
  | createMemberPort
  | deleteMemberPort
  | getMemberPortIds
deriving DecidableEq, Repr

namespace RepositoryCall

def name : RepositoryCall → String
  | .getLoadBalancer => "get_load_balancer"
  | .putLoadBalancer => "put_load_balancer"
  | .getAmphora => "get_amphora"
  | .updateAmphoraPorts => "update_amphora_ports"
  | .createMemberPort => "create_member_port"
  | .deleteMemberPort => "delete_member_port"
  | .getMemberPortIds => "get_member_port_ids"

def all : List RepositoryCall :=
  [.getLoadBalancer, .putLoadBalancer, .getAmphora, .updateAmphoraPorts, .createMemberPort,
   .deleteMemberPort, .getMemberPortIds]

def ofName? (name : String) : Option RepositoryCall := all.find? fun call => call.name = name

end RepositoryCall

/-- What is going to happen to a call: it passes, or it fails. -/
structure ScriptedOutcome where
  call : RepositoryCall
  failure : Option StoreError
deriving DecidableEq, Repr

/-- Load balancers are kept without their amphorae, bindings in the order of their creation.
Each call takes the first outcome that is scripted for it and passes when there is none. -/
structure Repository where
  loadBalancers : IdMap LoadBalancer := .empty
  amphorae : IdMap Amphora := .empty
  bindings : List MemberPortBinding := []
  script : List ScriptedOutcome := []

namespace Repository

abbrev Call (α : Type) := Action StoreError Repository α

/-- The outcome that is due for the call, and the script without it. -/
def takeOutcome (call : RepositoryCall) :
    List ScriptedOutcome → Option StoreError × List ScriptedOutcome
  | [] => (none, [])
  | o :: os =>
    if o.call = call then (o.failure, os)
    else
      let (failure, os) := takeOutcome call os
      (failure, o :: os)

def begin (call : RepositoryCall) : Call Unit := fun r =>
  match takeOutcome call r.script with
  | (some e, script) => (.error e, { r with script })
  | (none, script) => (.ok (), { r with script })

/-- Lets a call fail after `skip` calls that pass, all of them after what is scripted already. -/
def injectFault (r : Repository) (call : RepositoryCall) (skip : Nat) (e : StoreError) :
    Repository :=
  { r with script := r.script ++ List.replicate skip ⟨call, none⟩ ++ [⟨call, some e⟩] }

/-! Load balancers -/

/-- The amphorae that belong to the load balancer, in the order of their ids. -/
def amphoraeOf (r : Repository) (loadBalancerId : String) : List Amphora :=
  r.amphorae.values.filter fun a => a.loadBalancerId = some loadBalancerId

def getLoadBalancer (id : String) : Call LoadBalancer := do
  begin .getLoadBalancer
  let r ← get
  let lb ← Action.orFail (.notFound ("load balancer " ++ id)) (r.loadBalancers.get? id)
  return { lb with amphorae := r.amphoraeOf id }

def adopt (loadBalancerId : String) (m : IdMap Amphora) (a : Amphora) : IdMap Amphora :=
  m.insert a.id { a with loadBalancerId := some loadBalancerId }

/-- Stores a load balancer; its amphorae take the place of all that belonged to it. -/
def store (r : Repository) (lb : LoadBalancer) : Repository :=
  let others := r.amphorae.filter fun a => a.loadBalancerId ≠ some lb.id
  { r with
    loadBalancers := r.loadBalancers.insert lb.id { lb with amphorae := [] }
    amphorae := lb.amphorae.foldl (adopt lb.id) others }

def putLoadBalancer (lb : LoadBalancer) : Call Unit := do
  begin .putLoadBalancer
  modify fun r => r.store lb

/-! Amphorae -/

def amphoraById (id : String) : Call Amphora := do
  Action.orFail (.notFound ("amphora " ++ id)) ((← get).amphorae.get? id)

def getAmphora (id : String) : Call Amphora := do
  begin .getAmphora
  amphoraById id

def updateAmphoraPorts (id : String) (vrrpPortId haPortId : Option String) : Call Unit := do
  begin .updateAmphoraPorts
  let amphora ← amphoraById id
  modify fun r =>
    { r with amphorae := r.amphorae.insert id { amphora with vrrpPortId, haPortId } }

/-! Bindings -/

/-- A port has one binding at most. -/
def createMemberPort (binding : MemberPortBinding) : Call Unit := do
  begin .createMemberPort
  if (← get).bindings.any fun b => b.portId = binding.portId then
    throw (.database (.refused .duplicateMemberPort))
  modify fun r => { r with bindings := r.bindings ++ [binding] }

def deleteMemberPort (portId : String) : Call Unit := do
  begin .deleteMemberPort
  if !(← get).bindings.any fun b => b.portId = portId then
    throw (.notFound ("member port " ++ portId))
  modify fun r => { r with bindings := r.bindings.filter fun b => b.portId ≠ portId }

/-- The ports bound to an amphora, the oldest binding first. -/
def getMemberPortIds (amphoraId : String) : Call (List String) := do
  begin .getMemberPortIds
  return ((← get).bindings.filter fun b => b.amphoraId = amphoraId).map (·.portId)

end Repository

end AmphoraWiring
