/-!
The audit trail: what happened to network resources, kept apart from operational logs. An event
names the component that reports it and the ids of the objects involved.
-/
namespace AmphoraWiring

inductive AuditLevel where
  | info
  | warn
  | error
deriving DecidableEq, Repr

def AuditLevel.name : AuditLevel → String
  | .info => "INFO"
  | .warn => "WARN"
  | .error => "ERROR"

structure AuditEvent where
  level : AuditLevel
  component : String
  message : String
  objects : List String
deriving DecidableEq, Repr

/-- The events reported so far, oldest first. -/
structure AuditLog where
  component : String := "amphora-net"
  events : List AuditEvent := []
deriving DecidableEq, Repr

namespace AuditLog

def log (a : AuditLog) (level : AuditLevel) (message : String) (objects : List String) : AuditLog :=
  { a with events := a.events ++ [⟨level, a.component, message, objects⟩] }

def portCreated (a : AuditLog) (portId networkId : String) (amphoraId : Option String) : AuditLog :=
  a.log .info ("Port created on network " ++ networkId) (portId :: amphoraId.toList)

def portDeleted (a : AuditLog) (portId : String) : AuditLog :=
  a.log .info "Port deleted" [portId]

/-- A port that was given up after the last attempt to delete it. -/
def portAbandoned (a : AuditLog) (portId reason : String) : AuditLog :=
  a.log .warn ("Port abandoned, manual cleanup required: " ++ reason) [portId]

def vipAllocated (a : AuditLog) (loadBalancerId portId : String) : AuditLog :=
  a.log .info "VIP allocated" [loadBalancerId, portId]

def vipDeallocated (a : AuditLog) (loadBalancerId portId : String) : AuditLog :=
  a.log .info "VIP deallocated" [loadBalancerId, portId]

def memberPortRecorded (a : AuditLog) (amphoraId portId : String) : AuditLog :=
  a.log .info "Member port binding recorded" [amphoraId, portId]

def memberPortRemoved (a : AuditLog) (amphoraId portId : String) : AuditLog :=
  a.log .info "Member port binding removed" [amphoraId, portId]

/-- A resource that a failed compensation left in use. -/
def resourceLeaked (a : AuditLog) (kind id reason : String) : AuditLog :=
  a.log .error (kind ++ " left in use after failed revert: " ++ reason) [id]

end AuditLog

end AmphoraWiring
