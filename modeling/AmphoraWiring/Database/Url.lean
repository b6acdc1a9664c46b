import AmphoraWiring.Error
import AmphoraWiring.Text.Percent
import AmphoraWiring.Text.Pieces
import AmphoraWiring.Text.Quoted
import AmphoraWiring.Text.Utf8

/-!
The location of a database as the settings give it: a scheme, a name, and behind a question mark
parameters that tell how to open it.
-/
namespace AmphoraWiring

/-- The name of a database and the wishes of its parameters. -/
structure DatabaseUrl where
  name : String
  inMemory : Bool := false
  readOnly : Bool := false
  create : Bool := false
  immutable : Bool := false
  storage : Option String := none
deriving DecidableEq, Repr

namespace DatabaseUrl

/-- The text without a beginning, however often it is repeated. -/
def dropRepeated (start cs : List Char) : List Char :=
  dropAtMost cs.length cs
where
  dropAtMost : Nat → List Char → List Char
    | 0, cs => cs
    | limit + 1, cs =>
      if start.isPrefixOf cs then dropAtMost limit (cs.drop start.length) else cs

/-- The text of a parameter. A plus sign stands for a space, and flaws are replaced. -/
def parameterText (cs : List Char) : String :=
  Text.Utf8.decodeLeniently (Text.Percent.decode (cs.map fun c => if c = '+' then ' ' else c))

/-- A parameter as its name and value. -/
def parameterOf (cs : List Char) : String × String :=
  let (name, value) := Text.cut '=' cs
  (parameterText name, parameterText value)

def unknownValue (name value : String) : DatabaseError :=
  .configuration ("unknown value " ++ Text.quoted value ++ " for `" ++ name ++ "`")

def unknownParameter (name : String) : DatabaseError :=
  .configuration ("unknown query parameter `" ++ name ++ "` while parsing connection URL")

/-- Wishes to read only, to create and to stay in memory hold once they are given; of other
parameters the last one counts. -/
def withParameter (url : DatabaseUrl) (parameter : String × String) :
    Except DatabaseError DatabaseUrl :=
  match parameter with
  | ("mode", "ro") => .ok { url with readOnly := true }
  | ("mode", "rw") => .ok url
  | ("mode", "rwc") => .ok { url with create := true }
  | ("mode", "memory") => .ok { url with inMemory := true }
  | ("mode", value) => .error (unknownValue "mode" value)
  | ("cache", value) =>
    if ["private", "shared"].contains value then .ok url else .error (unknownValue "cache" value)
  | ("immutable", value) =>
    if ["true", "1"].contains value then .ok { url with immutable := true }
    else if ["false", "0"].contains value then .ok { url with immutable := false }
    else .error (unknownValue "immutable" value)
  | ("vfs", value) => .ok { url with storage := some value }
  | (name, _) => .error (unknownParameter name)

/-- The name for a database that lives in memory. -/
def memoryName : String := ":memory:"

def ofName (cs : List Char) : Except DatabaseError DatabaseUrl :=
  if String.ofList cs = memoryName then .ok { name := memoryName, inMemory := true }
  else
    match Text.Utf8.decode (Text.Percent.decode cs) with
    | .ok name => .ok { name }
    | .error flaw => .error (.configuration flaw.message)

/-- The scheme may be written with or without two slashes, and repeatedly. -/
def ofText (s : String) : Except DatabaseError DatabaseUrl := do
  let cs := dropRepeated "sqlite:".toList (dropRepeated "sqlite://".toList s.toList)
  let (name, parameters) := Text.cut '?' cs
  let url ← ofName name
  (((Text.pieces '&' parameters).filter (!·.isEmpty)).map parameterOf).foldlM withParameter url

end DatabaseUrl

end AmphoraWiring
