import AmphoraWiring.Json.Basic

/-!
What a reader makes of a text that need not be a document. A node is a document as far as the
text holds one: where the text goes wrong, the node says so at that very place, so that a
decoder that walks the node in order meets a misfit before a fault that lies behind it.
-/
namespace AmphoraWiring

/-- How a text can fail to be a document. -/
inductive Fault where
  | endInArray
  | endInObject
  | endInString
  | endInValue
  | expectedColon
  | expectedCommaOrBracket
  | expectedCommaOrBrace
  | expectedLiteral
  | expectedValue
  | invalidEscape
  | invalidNumber
  | numberOutOfRange
  | controlCharacter
  | memberNameNotString
  | loneSurrogate
  | unfinishedSurrogate
  | trailingComma
  | trailingCharacters
  | tooDeep
deriving DecidableEq, Repr

namespace Fault

/-- Whether the text could still become a document by going on. -/
def isEnd : Fault → Bool
  | .endInArray | .endInObject | .endInString | .endInValue => true
  | _ => false

def message : Fault → String
  | .endInArray => "EOF while parsing a list"
  | .endInObject => "EOF while parsing an object"
  | .endInString => "EOF while parsing a string"
  | .endInValue => "EOF while parsing a value"
  | .expectedColon => "expected `:`"
  | .expectedCommaOrBracket => "expected `,` or `]`"
  | .expectedCommaOrBrace => "expected `,` or `\x7d`"
  | .expectedLiteral => "expected ident"
  | .expectedValue => "expected value"
  | .invalidEscape => "invalid escape"
  | .invalidNumber => "invalid number"
  | .numberOutOfRange => "number out of range"
  | .controlCharacter => "control character (\\u0000-\\u001F) found while parsing a string"
  | .memberNameNotString => "key must be a string"
  | .loneSurrogate => "lone leading surrogate in hex escape"
  | .unfinishedSurrogate => "unexpected end of hex escape"
  | .trailingComma => "trailing comma"
  | .trailingCharacters => "trailing characters"
  | .tooDeep => "recursion limit exceeded"

end Fault

/-- The fault that cuts an array or object short, for a reader that wants its items and for one
that skips it. -/
structure Cut where
  fault : Fault
  skipped : Fault
deriving DecidableEq, Repr

/-- Both readers meet the same fault. -/
def Cut.of (fault : Fault) : Cut := ⟨fault, fault⟩

/-- Arrays and objects carry what cuts them short, if anything does; the node it lies in is then
their last one. `valueless` is a token that is written correctly and yet stands for no value;
`broken` is one that is not, with the fault for a reader that wants its value and the one for a
reader that skips it. The flag of both tells strings from the rest. A member whose name cannot
be read has the fault in its place, and as its value the node that stands there. -/
inductive Node where
  | null
  | bool (b : Bool)
  | natural (n : Nat)
  | negative (n : Nat)
  | real (x : Floating)
  | string (s : String)
  | array (items : List Node) (cut : Option Cut)
  | object (members : List (Except Fault String × Node)) (cut : Option Cut)
  | valueless (isString : Bool) (fault : Fault)
  | broken (isString : Bool) (fault skipped : Fault)
  | absent

namespace Node

instance : Inhabited Node := ⟨.absent⟩

/-- The fault met by a reader that skips the node. -/
def skipFault? : Node → Option Fault
  | .array _ cut => cut.map (·.skipped)
  | .object _ cut => cut.map (·.skipped)
  | .broken _ _ skipped => some skipped
  | .absent => some .endInValue
  | _ => none

/-- How many arrays and objects a reader may be inside of. -/
def depthLimit : Nat := 127

mutual

/-- The fault met by a reader that takes in every value below the node, `depth` more arrays and
objects being allowed. -/
def fault? (depth : Nat) : Node → Option Fault
  | .array items cut =>
    match depth with
    | 0 => some .tooDeep
    | depth + 1 => (itemsFault? depth items).or (cut.map (·.fault))
  | .object members cut =>
    match depth with
    | 0 => some .tooDeep
    | depth + 1 => (membersFault? depth members).or (cut.map (·.fault))
  | .valueless _ fault => some fault
  | .broken _ fault _ => some fault
  | .absent => some .endInValue
  | _ => none

def itemsFault? (depth : Nat) : List Node → Option Fault
  | [] => none
  | item :: items => (fault? depth item).or (itemsFault? depth items)

def membersFault? (depth : Nat) : List (Except Fault String × Node) → Option Fault
  | [] => none
  | (.error fault, _) :: _ => some fault
  | (.ok _, value) :: members => (fault? depth value).or (membersFault? depth members)

end

mutual

def ofJson : Json → Node
  | .null => .null
  | .bool b => .bool b
  | .natural n => .natural n
  | .negative n => .negative n
  | .real x => .real x
  | .string s => .string s
  | .array items => .array (ofItems items) none
  | .object members => .object (ofMembers members) none

def ofItems : List Json → List Node
  | [] => []
  | item :: items => ofJson item :: ofItems items

def ofMembers : List (String × Json) → List (Except Fault String × Node)
  | [] => []
  | (name, value) :: members => (.ok name, ofJson value) :: ofMembers members

end

mutual

/-- The document in a node without faults; anything else is read as `null`. -/
def toJson : Node → Json
  | .null => .null
  | .bool b => .bool b
  | .natural n => .natural n
  | .negative n => .negative n
  | .real x => .real x
  | .string s => .string s
  | .array items _ => .array (toItems items)
  | .object members _ => .object (toMembers members)
  | _ => .null

def toItems : List Node → List Json
  | [] => []
  | item :: items => toJson item :: toItems items

def toMembers : List (Except Fault String × Node) → List (String × Json)
  | [] => []
  | (.error _, _) :: members => toMembers members
  | (.ok name, value) :: members => (name, toJson value) :: toMembers members

end

end Node

end AmphoraWiring
