import AmphoraWiring.Config.Basic
import AmphoraWiring.Saga.Step

/-!
Steps that delete ports or take them out of service.
-/
namespace AmphoraWiring

namespace Step

open Deployment

/-- A port that does not exist counts as deleted. -/
def attemptDeletion (portId : String) : Work Unit := do
  match ← Flow.outcome (onSubstrate (Substrate.deletePort portId)) with
  | .ok () | .error (.portNotFound _) => return
  | .error e => throw e

/-- Deletes a port, trying again as the policy allows. If deletion may fail passively, a port
that resists is taken out of service and left. -/
def removePort (policy : RetryPolicy) (passive : Bool) (portId : String) : Work PortDeletion := do
  if passive then
    let abandon := onSubstrate (Substrate.adminDownPort portId)
    match ← Flow.retryOrAbandon policy (fun _ => attemptDeletion portId) abandon with
    | .completed () =>
      record fun a => a.portDeleted portId
      return .deleted
    | .exhausted e =>
      record fun a => a.portAbandoned portId e.message
      return .abandoned
  else
    Flow.retry policy fun _ => attemptDeletion portId
    record fun a => a.portDeleted portId
    return .deleted

def deletePort (policy : RetryPolicy) (passive : Bool) (portId : Option String) :
    Step PortDeletion where
  name := "delete-port"
  execute :=
    match portId with
    | none => pure .skipped
    | some portId => removePort policy passive portId

/-- Deletes a port of an amphora, and the record that it belonged to it. -/
def removeMemberPort (policy : RetryPolicy) (passive : Bool) (amphoraId portId : String) :
    Work PortDeletion := do
  let deletion ← removePort policy passive portId
  match ← Flow.outcome (onRepository (Repository.deleteMemberPort portId)) with
  | .ok () => record fun a => a.memberPortRemoved amphoraId portId
  | .error (.store (.notFound _)) => pure ()
  | .error e => throw e
  return deletion

def deleteAmphoraMemberPorts (policy : RetryPolicy) (passive : Bool) (amphoraId : String) :
    Step (List PortDeletion) where
  name := "delete-amphora-member-ports"
  execute := do
    let portIds ← onRepository (Repository.getMemberPortIds amphoraId)
    portIds.mapM (removeMemberPort policy passive amphoraId)

/-- How often the status of a port is read, and the wait after each reading. -/
structure Polling where
  polls : Nat
  interval : Duration
deriving DecidableEq, Repr

def Polling.ofConfig (c : NetworkingConfig) : Polling := ⟨c.maxRetries, c.retryInterval⟩

/-- Reads the status until the port is down; `left` readings are allowed. -/
def awaitDown (polling : Polling) (portId : String) (left : Nat) : Work Unit := do
  match left with
  | 0 => return
  | left + 1 =>
    Flow.reportPart (polling.polls - left) polling.polls
    let port ← onSubstrate (Substrate.getPort portId)
    if port.status = .down then return
    Flow.sleep polling.interval
    awaitDown polling portId left

/-- Takes a port out of service and waits until it is down, or until the readings are spent. -/
def adminDownPort (polling : Polling) (portId : String) : Step Unit where
  name := "admin-down-port"
  execute := do
    match ← Flow.outcome (onSubstrate (Substrate.setPortAdminStateUp portId false)) with
    | .ok _ => awaitDown polling portId polling.polls
    | .error (.portNotFound _) => return
    | .error e => throw e
  revert _ := do
    let _ ← Flow.settle (onSubstrate (Substrate.setPortAdminStateUp portId true))

end Step

end AmphoraWiring
