import AmphoraWiring.Number.Decimal

/-!
Documents in JSON. The members of an object keep their order, and whole numbers are kept apart
from the floating point ones.
-/
namespace AmphoraWiring

/-- A document; `negative n` is the whole number `-n`. -/
inductive Json where
  | null
  | bool (b : Bool)
  | natural (n : Nat)
  | negative (n : Nat)
  | real (x : Floating)
  | string (s : String)
  | array (items : List Json)
  | object (members : List (String × Json))

namespace Json

instance : Inhabited Json := ⟨.null⟩

def option (encode : α → Json) : Option α → Json
  | none => .null
  | some a => encode a

def list (encode : α → Json) (as : List α) : Json := .array (as.map encode)

def member? (name : String) : Json → Option Json
  | .object members => (members.find? fun m => m.1 = name).map (·.2)
  | _ => none

end Json

end AmphoraWiring
