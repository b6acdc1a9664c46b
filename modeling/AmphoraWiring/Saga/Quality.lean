import AmphoraWiring.Saga.Step

/-!
Steps that bring the quality-of-service policy of a virtual address to the base ports of the
amphorae. The policy in force is the one in the repository.
-/
namespace AmphoraWiring

namespace Step

open Deployment

def setPolicy (policyId : Option String) (amphora : Amphora) : Work Unit :=
  match amphora.vrrpPortId with
  | none => pure ()
  | some portId => onSubstrate (Substrate.applyQosOnPort policyId portId)

/-- The allocated ones of the given amphorae, or else of those in the repository. -/
def amphoraeToChange (lb : LoadBalancer) (amphorae : Option (List Amphora)) :
    Work (List Amphora) := do
  let amphorae ←
    match amphorae with
    | some amphorae => pure amphorae
    | none => return (← loadBalancer lb.id).allocatedAmphorae
  return amphorae.filter (·.isAllocated)

/-- Brings the policy in force, or the one that the update asks for, to the amphorae. Without
either there is nothing to do. -/
def spreadPolicy (lb : LoadBalancer) (amphorae : Option (List Amphora))
    (update : Option LoadBalancerUpdate) : Work Unit := do
  let inForce := (← loadBalancer lb.id).vip.qosPolicyId
  if inForce.isNone && !update.any (·.touchesQos) then return
  let policyId := (update.bind (·.requestedQos)).or inForce
  let amphorae ← amphoraeToChange lb amphorae
  amphorae.forM (setPolicy policyId)

/-- Brings the policy in force back to the amphorae as far as that succeeds, if the request had
another one. -/
def restorePolicy (lb : LoadBalancer) (amphorae : Option (List Amphora)) : Work Unit := do
  let inForce := (← loadBalancer lb.id).vip.qosPolicyId
  if lb.vip.qosPolicyId = inForce then return
  let amphorae ← amphoraeToChange lb amphorae
  amphorae.forM fun amphora => do
    let _ ← Flow.outcome (setPolicy inForce amphora)

def applyQos (lb : LoadBalancer) (amphorae : Option (List Amphora))
    (update : Option LoadBalancerUpdate) : Step Unit where
  name := "apply-qos"
  execute := spreadPolicy lb amphorae update
  revert _ := do
    let _ ← Flow.settle (restorePolicy lb amphorae)

/-- Brings the policy of the request to one amphora. No policy clears the one of the port, unless
there is an update and it leaves the policy alone. -/
def applyQosOnAmphora (lb : LoadBalancer) (amphora : Amphora)
    (update : Option LoadBalancerUpdate) : Step Unit where
  name := "apply-qos-amphora"
  execute :=
    if lb.vip.qosPolicyId.isNone && update.any fun u => !u.touchesQos then pure ()
    else setPolicy lb.vip.qosPolicyId amphora
  revert _ := do
    let _ ← Flow.settle do
      let inForce := (← loadBalancer lb.id).vip.qosPolicyId
      if lb.vip.qosPolicyId ≠ inForce then setPolicy inForce amphora

end Step

end AmphoraWiring
