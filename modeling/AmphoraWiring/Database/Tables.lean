import AmphoraWiring.Codec.Model
import AmphoraWiring.Error
import AmphoraWiring.Flow.Action

/-!
The repository as a database keeps it: three tables, each a list of rows. Load balancers and
amphorae are rows of an id and the text of a document; whom an amphora belongs to stands in a column
of its own and in its document as well, and only the column is searched. Every call is one
transaction, which leaves the tables alone when it fails.
-/
namespace AmphoraWiring

/-- The document has the load balancer without its amphorae. -/
structure LoadBalancerRow where
  id : String
  document : String
deriving DecidableEq, Repr

structure AmphoraRow where
  id : String
  loadBalancerId : Option String
  document : String
deriving DecidableEq, Repr

/-- The id of the row grows with every insertion. -/
structure MemberPortRow where
  rowId : Nat
  portId : String
  amphoraId : String
  networkId : String
deriving DecidableEq, Repr

/-- The ids of load balancers and amphorae and the port ids of bindings are the primary keys. -/
structure Tables where
  loadBalancers : List LoadBalancerRow := []
  amphorae : List AmphoraRow := []
  memberPorts : List MemberPortRow := []
deriving DecidableEq, Repr

namespace Tables

abbrev Call (α : Type) := Action StoreError Tables α

variable {α ρ : Type}

/-- One transaction. -/
def transaction (work : Call α) : Call α := fun t =>
  match work.runOn t with
  | (.ok a, t') => (.ok a, t')
  | (.error e, _) => (.error e, t)

/-- Inserts a row. Where one with its key is in conflict with it, that row is updated instead. -/
def upsert (key : ρ → String) (update : ρ → ρ → ρ) (row : ρ) (rows : List ρ) : List ρ :=
  if rows.any fun other => key other = key row then
    rows.map fun other => if key other = key row then update other row else other
  else rows ++ [row]

def decoded (codec : Codec α) (document : String) : Call α :=
  match codec.ofText document with
  | .ok a => pure a
  | .error e => throw (.serialization e.message)

/-! Load balancers -/

def loadBalancerRow (lb : LoadBalancer) : LoadBalancerRow :=
  ⟨lb.id, LoadBalancer.codec.toText { lb with amphorae := [] }⟩

/-- The rows of the amphorae that belong to the load balancer, in the order of their ids. -/
def amphoraRowsOf (t : Tables) (loadBalancerId : String) : List AmphoraRow :=
  (t.amphorae.filter fun row => row.loadBalancerId = some loadBalancerId).mergeSort
    fun a b => a.id ≤ b.id

def getLoadBalancer (id : String) : Call LoadBalancer := transaction do
  let row ← Action.orFail (.notFound ("load balancer " ++ id))
    ((← get).loadBalancers.find? fun row => row.id = id)
  let lb ← decoded LoadBalancer.codec row.document
  let amphorae ← ((← get).amphoraRowsOf id).mapM fun row => decoded Amphora.codec row.document
  return { lb with amphorae }

def amphoraRow (loadBalancerId : String) (a : Amphora) : AmphoraRow :=
  ⟨a.id, some loadBalancerId,
    Amphora.codec.toText { a with loadBalancerId := some loadBalancerId }⟩

def insertLoadBalancer (lb : LoadBalancer) : Call Unit := modify fun t =>
  let loadBalancers := upsert LoadBalancerRow.id
    (fun old new => { old with document := new.document }) (loadBalancerRow lb) t.loadBalancers
  { t with loadBalancers }

def deleteAmphoraeOf (loadBalancerId : String) : Call Unit := modify fun t =>
  { t with amphorae := t.amphorae.filter fun row => row.loadBalancerId ≠ some loadBalancerId }

def insertAmphora (loadBalancerId : String) (a : Amphora) : Call Unit := modify fun t =>
  let amphorae := upsert AmphoraRow.id
    (fun old new => { old with loadBalancerId := new.loadBalancerId, document := new.document })
    (amphoraRow loadBalancerId a) t.amphorae
  { t with amphorae }

/-- The amphorae of the load balancer take the place of all that belonged to it. -/
def putLoadBalancer (lb : LoadBalancer) : Call Unit := transaction do
  insertLoadBalancer lb
  deleteAmphoraeOf lb.id
  lb.amphorae.forM (insertAmphora lb.id)

/-! Amphorae -/

def amphoraById (id : String) : Call Amphora := do
  let row ← Action.orFail (.notFound ("amphora " ++ id))
    ((← get).amphorae.find? fun row => row.id = id)
  decoded Amphora.codec row.document

def getAmphora (id : String) : Call Amphora := transaction (amphoraById id)

/-- Writes the document anew and leaves the column alone. -/
def updateAmphoraPorts (id : String) (vrrpPortId haPortId : Option String) : Call Unit :=
  transaction do
    let amphora ← amphoraById id
    let document := Amphora.codec.toText { amphora with vrrpPortId, haPortId }
    modify fun t =>
      let amphorae := t.amphorae.map fun row => if row.id = id then { row with document } else row
      { t with amphorae }

/-! Bindings -/

/-- One more than the largest id that a row has. -/
def nextRowId (rows : List MemberPortRow) : Nat := (rows.map (·.rowId)).foldr max 0 + 1

def createMemberPort (b : MemberPortBinding) : Call Unit := transaction do
  let t ← get
  if t.memberPorts.any fun row => row.portId = b.portId then
    throw (.database (.refused .duplicateMemberPort))
  let row : MemberPortRow := ⟨nextRowId t.memberPorts, b.portId, b.amphoraId, b.networkId⟩
  set { t with memberPorts := t.memberPorts ++ [row] }

/-- That no row was deleted is a failure. -/
def deleteMemberPort (portId : String) : Call Unit := transaction do
  let t ← get
  set { t with memberPorts := t.memberPorts.filter fun row => row.portId ≠ portId }
  if t.memberPorts.countP (fun row => row.portId = portId) = 0 then
    throw (.notFound ("member port " ++ portId))

def getMemberPortIds (amphoraId : String) : Call (List String) := transaction do
  let rows := (← get).memberPorts.filter fun row => row.amphoraId = amphoraId
  return (rows.mergeSort fun a b => a.rowId ≤ b.rowId).map (·.portId)

end Tables

end AmphoraWiring
