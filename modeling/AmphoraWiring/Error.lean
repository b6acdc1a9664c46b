import AmphoraWiring.Duration

/-!
Why an operation on the repository or on the network failed, and the text that tells so.
-/
namespace AmphoraWiring

/-- What the database engine can answer instead of doing its work. -/
inductive Refusal where
  /-- A second binding for a port that has one. -/
  | duplicateMemberPort
  | cannotOpen
  | cannotRead
  | cannotSync
  | notADatabase
  | malformed
  | unsupportedFormat
  | readOnly
  | foreignHost (host : String)
  | unknownStorage (name : String)
  | unknownMode (kind name : String)
  | forbiddenMode (name : String)
deriving DecidableEq, Repr

namespace Refusal

def code : Refusal → Nat
  | .duplicateMemberPort => 1555
  | .cannotOpen => 14
  | .cannotRead => 266
  | .cannotSync => 1034
  | .notADatabase => 26
  | .malformed => 11
  | .readOnly => 8
  | .forbiddenMode _ => 3
  | .unsupportedFormat | .foreignHost _ | .unknownStorage _ | .unknownMode _ _ => 1

def text : Refusal → String
  | .duplicateMemberPort => "UNIQUE constraint failed: amphora_member_ports.port_id"
  | .cannotOpen => "unable to open database file"
  | .cannotRead | .cannotSync => "disk I/O error"
  | .notADatabase => "file is not a database"
  | .malformed => "database disk image is malformed"
  | .unsupportedFormat => "unsupported file format"
  | .readOnly => "attempt to write a readonly database"
  | .foreignHost host => "invalid uri authority: " ++ host
  | .unknownStorage name => "no such vfs: " ++ name
  | .unknownMode kind name => "no such " ++ kind ++ " mode: " ++ name
  | .forbiddenMode name => "access mode not allowed: " ++ name

def message (r : Refusal) : String := "(code: " ++ toString r.code ++ ") " ++ r.text

end Refusal

/-- Why there is no answer from the database. -/
inductive DatabaseError where
  | refused (why : Refusal)
  | configuration (why : String)
  | communication (why : String)
  | poolClosed
  | poolTimedOut
deriving DecidableEq, Repr

namespace DatabaseError

def message : DatabaseError → String
  | .refused why => "error returned from database: " ++ why.message
  | .configuration why => "error with configuration: " ++ why
  | .communication why => "error communicating with database: " ++ why
  | .poolClosed => "attempted to acquire a connection on a closed pool"
  | .poolTimedOut => "pool timed out while waiting for an open connection"

/-- The error and the ones that caused it, outermost first. -/
def chain : DatabaseError → List String
  | .refused why => [message (.refused why), why.message]
  | .configuration why => [message (.configuration why), why]
  | .communication why => [message (.communication why), why]
  | .poolClosed => [message .poolClosed]
  | .poolTimedOut => [message .poolTimedOut]

end DatabaseError

inductive StoreError where
  | notFound (what : String)
  | database (cause : DatabaseError)
  | serialization (cause : String)
deriving DecidableEq, Repr

namespace StoreError

def message : StoreError → String
  | .notFound what => "not found: " ++ what
  | .database cause => "database error: " ++ cause.message
  | .serialization cause => "serialization error: " ++ cause

def kind : StoreError → String
  | .notFound _ => "Store.NotFound"
  | .database _ => "Store.Database"
  | .serialization _ => "Store.Serialization"

/-- The error and the ones that caused it, outermost first. -/
def chain : StoreError → List String
  | .notFound what => [message (.notFound what)]
  | .database cause => message (.database cause) :: cause.chain
  | .serialization cause => [message (.serialization cause), cause]

end StoreError

inductive NetworkError where
  | networkNotFound (id : String)
  | portNotFound (id : String)
  | subnetNotFound (id : String)
  | securityGroupNotFound (id : String)
  | amphoraNotFound (id : String)
  /-- Something is missing that the substrate names in its message only. -/
  | notFound (what : String)
  | createPort (why : String)
  | plugNetwork (why : String)
  | driver (why : String)
  | invalidInput (why : String)
  | store (cause : StoreError)
  | cancelled
  | timedOut (after : Duration)
deriving DecidableEq, Repr

namespace NetworkError

def message : NetworkError → String
  | .networkNotFound id => "network not found: " ++ id
  | .portNotFound id => "port not found: " ++ id
  | .subnetNotFound id => "subnet not found: " ++ id
  | .securityGroupNotFound id => "security group not found: " ++ id
  | .amphoraNotFound id => "amphora not found: " ++ id
  | .notFound what => "not found: " ++ what
  | .createPort why => "failed to create port: " ++ why
  | .plugNetwork why => "failed to plug network: " ++ why
  | .driver why => "network driver error: " ++ why
  | .invalidInput why => "invalid input: " ++ why
  | .store cause => "store error: " ++ cause.message
  | .cancelled => "operation cancelled"
  | .timedOut after => "operation timed out after " ++ after.text

def kind : NetworkError → String
  | .networkNotFound _ => "NetworkNotFound"
  | .portNotFound _ => "PortNotFound"
  | .subnetNotFound _ => "SubnetNotFound"
  | .securityGroupNotFound _ => "SecurityGroupNotFound"
  | .amphoraNotFound _ => "AmphoraNotFound"
  | .notFound _ => "NotFound"
  | .createPort _ => "CreatePort"
  | .plugNetwork _ => "PlugNetwork"
  | .driver _ => "Driver"
  | .invalidInput _ => "InvalidInput"
  | .store cause => cause.kind
  | .cancelled => "Cancelled"
  | .timedOut _ => "TimedOut"

/-- Whether trying again may help: not when a known thing is missing, the request itself is
wrong, or waiting was cut short. -/
def isTransient : NetworkError → Bool
  | .networkNotFound _ | .portNotFound _ | .subnetNotFound _ | .securityGroupNotFound _
  | .amphoraNotFound _ | .invalidInput _ | .cancelled | .timedOut _ => false
  | _ => true

/-- Whether a thing of any kind is missing. -/
def isNotFound : NetworkError → Bool
  | .networkNotFound _ | .portNotFound _ | .subnetNotFound _ | .securityGroupNotFound _
  | .amphoraNotFound _ | .notFound _ | .store (.notFound _) => true
  | _ => false

/-- The error and the ones that caused it, outermost first. -/
def chain : NetworkError → List String
  | .store cause => message (.store cause) :: cause.chain
  | e => [e.message]

end NetworkError

end AmphoraWiring
