import AmphoraWiring.Codec.Model

/-!
The document that a plan starts from: a load balancer, the zone it is in, and among these the
fields of a substrate. The load balancer and the zone are read where they stand; all other members
are set aside and read when the whole document has been seen.
-/
namespace AmphoraWiring.CommandLine

structure SnapshotFile where
  loadBalancer : LoadBalancer
  zone : Option AvailabilityZone
  substrate : Snapshot

namespace SnapshotFile

/-- What has been read of a document. -/
structure Read where
  loadBalancer : Option LoadBalancer := none
  zone : Option (Option AvailabilityZone) := none
  setAside : List (String × Node) := []

/-- A member that is set aside has to be free of faults. It lies inside of one object. -/
def Read.keep (r : Read) (name : String) (value : Node) : Except DecodeError Read :=
  match value.fault? (Node.depthLimit - 1) with
  | some fault => .error (.fault fault)
  | none => .ok { r with setAside := r.setAside ++ [(name, value)] }

def Read.addMember (r : Read) (name : String) (value : Node) : Except DecodeError Read :=
  if name = "load_balancer" then
    if r.loadBalancer.isSome then .error (.mismatch (.duplicateField name))
    else do return { r with loadBalancer := some (← LoadBalancer.codec.decode .text value) }
  else if name = "availability_zone" then
    if r.zone.isSome then .error (.mismatch (.duplicateField name))
    else do return { r with zone := some (← AvailabilityZone.codec.option.decode .text value) }
  else r.keep name value

def addMembers (r : Read) : List (Except Fault String × Node) → Except DecodeError Read
  | [] => .ok r
  | (.error fault, _) :: _ => .error (.fault fault)
  | (.ok name, value) :: members => do addMembers (← r.addMember name value) members

def ofNode : Node → Except DecodeError SnapshotFile
  | .object members cut => do
    let r ← Codec.endWith (cut.map (·.fault)) (← addMembers {} members)
    match r.loadBalancer with
    | none => throw (.mismatch (.missingField "load_balancer"))
    | some loadBalancer =>
      let members := r.setAside.map fun m => (Except.ok m.1, m.2)
      let substrate ← Snapshot.codec.decode .setAside (.object members none)
      return { loadBalancer, zone := r.zone.getD none, substrate }
  | node => .error (node.unexpected "struct Snapshot")

def ofText (s : String) : Except DecodeError SnapshotFile := do
  let (node, trailing) := Json.readText s
  Codec.endWith trailing (← ofNode node)

end SnapshotFile

end AmphoraWiring.CommandLine
