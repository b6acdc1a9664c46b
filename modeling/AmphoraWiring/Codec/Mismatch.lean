import AmphoraWiring.Json.Node
import AmphoraWiring.Text.Quoted

/-!
Why a node is not the value that was asked for: either the text is at fault at that place, or a
document stands there that has another shape.
-/
namespace AmphoraWiring

/-- What was found in the place of the value asked for. -/
inductive Found where
  | null
  | bool (b : Bool)
  | natural (n : Nat)
  | negative (n : Nat)
  | real (x : Floating)
  | string (s : String)
  | sequence
  | map
deriving DecidableEq, Repr

def Found.text : Found → String
  | .null => "null"
  | .bool b => s!"boolean `{b}`"
  | .natural n => s!"integer `{n}`"
  | .negative n => s!"integer `-{n}`"
  | .real x => "floating point `" ++ x.shortestText ++ "`"
  | .string s => "string " ++ Text.quoted s
  | .sequence => "sequence"
  | .map => "map"

inductive Mismatch where
  | wrongType (found : Found) (expected : String)
  | wrongValue (found : Found) (expected : String)
  | wrongLength (length : Nat) (expected : String)
  | missingField (name : String)
  | duplicateField (name : String)
  | unknownVariant (name : String) (known : List String)
  | notAnAddress
deriving DecidableEq, Repr

namespace Mismatch

def knownText (known : List String) : String :=
  match known.map fun name => "`" ++ name ++ "`" with
  | [] => "there are no variants"
  | [a] => "expected " ++ a
  | [a, b] => "expected " ++ a ++ " or " ++ b
  | names => "expected one of " ++ ", ".intercalate names

def message : Mismatch → String
  | .wrongType found expected => "invalid type: " ++ found.text ++ ", expected " ++ expected
  | .wrongValue found expected => "invalid value: " ++ found.text ++ ", expected " ++ expected
  | .wrongLength length expected => s!"invalid length {length}, expected " ++ expected
  | .missingField name => "missing field `" ++ name ++ "`"
  | .duplicateField name => "duplicate field `" ++ name ++ "`"
  | .unknownVariant name known => "unknown variant `" ++ name ++ "`, " ++ knownText known
  | .notAnAddress => "invalid IP address syntax"

end Mismatch

inductive DecodeError where
  | fault (fault : Fault)
  | mismatch (mismatch : Mismatch)
deriving DecidableEq, Repr

namespace DecodeError

def message : DecodeError → String
  | .fault f => f.message
  | .mismatch m => m.message

end DecodeError

/-- The error of a reader that expected something else than the node. -/
def Node.unexpected (expected : String) : Node → DecodeError
  | .null => .mismatch (.wrongType .null expected)
  | .bool b => .mismatch (.wrongType (.bool b) expected)
  | .natural n => .mismatch (.wrongType (.natural n) expected)
  | .negative n => .mismatch (.wrongType (.negative n) expected)
  | .real x => .mismatch (.wrongType (.real x) expected)
  | .string s => .mismatch (.wrongType (.string s) expected)
  | .array _ _ => .mismatch (.wrongType .sequence expected)
  | .object _ _ => .mismatch (.wrongType .map expected)
  | .valueless _ fault => .fault fault
  | .broken _ fault _ => .fault fault
  | .absent => .fault .endInValue

end AmphoraWiring
