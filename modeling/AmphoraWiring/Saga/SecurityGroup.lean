import AmphoraWiring.Saga.Step

/-!
Steps about the security group that guards a virtual address and the base ports behind it.
-/
namespace AmphoraWiring

namespace Step

open Deployment

def guardVip (loadBalancerId : String) : Step (Option String) where
  name := "update-vip-security-group"
  execute := do
    let lb ← loadBalancer loadBalancerId
    onSubstrate (Substrate.updateVipSg lb)

def guardAmphorae (loadBalancerId : String) : Step Unit where
  name := "update-amphora-security-group"
  execute := do
    let lb ← loadBalancer loadBalancerId
    lb.amphorae.forM fun amphora => onSubstrate (Substrate.updateAapPortSg lb amphora)

def groupsEnabled : Work Bool := onSubstrate do return (← get).securityGroupsEnabled

/-- Where groups are not managed, none need exist. -/
def findVipGroup (loadBalancerId : String) : Step (Option String) where
  name := "get-vip-security-group-id"
  execute := do
    let name := vipSecurityGroupName loadBalancerId
    match ← Flow.outcome (onSubstrate (Substrate.getSecurityGroup name)) with
    | .ok group => return some group.id
    | .error (.securityGroupNotFound missing) =>
      if ← groupsEnabled then throw (.securityGroupNotFound missing)
      return none
    | .error e => throw e

end Step

end AmphoraWiring
