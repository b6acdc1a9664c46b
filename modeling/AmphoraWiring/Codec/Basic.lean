import AmphoraWiring.Codec.Mismatch
import AmphoraWiring.Json.Reader
import AmphoraWiring.Json.Writer
import AmphoraWiring.Address.Cidr
import AmphoraWiring.IdMap

/-!
A codec turns values of one type into documents and reads them back. Decoding takes a node from
one of three sources and reports the first thing that does not fit, in the order of the text.
-/
namespace AmphoraWiring

/-- Where a node comes from: the text of a document, the members that an enclosing object has set
aside, or a document that was taken in before. They differ in how they report an enumeration or
a record that is written in an unforeseen way. -/
inductive Source where
  | text
  | setAside
  | document
deriving DecidableEq, Repr

structure Codec (α : Type) where
  decode : Source → Node → Except DecodeError α
  encode : α → Json

namespace Codec

variable {α β : Type}

def text : Codec String where
  decode _
    | .string s => .ok s
    | node => .error (node.unexpected "a string")
  encode := .string

def flag : Codec Bool where
  decode _
    | .bool b => .ok b
    | node => .error (node.unexpected "a boolean")
  encode := .bool

/-- Naturals of a given number of bits, under the name that messages use. -/
def word (bits : Nat) (name : String) : Codec Nat where
  decode _
    | .natural n =>
      if n < Nat.pow 2 bits then .ok n else .error (.mismatch (.wrongValue (.natural n) name))
    | .negative n => .error (.mismatch (.wrongValue (.negative n) name))
    | node => .error (node.unexpected name)
  encode := .natural

def word32 : Codec Nat := word 32 "u32"

def word64 : Codec Nat := word 64 "u64"

def double : Codec Floating where
  decode _
    | .natural n => .ok (.ofNat .double n)
    | .negative n => .ok (.round .double true n 1)
    | .real x => .ok x
    | node => .error (node.unexpected "f64")
  encode := .real

def address : Codec Address where
  decode _
    | .string s =>
      match Address.ofText? s with
      | some a => .ok a
      | none => .error (.mismatch .notAnAddress)
    | node => .error (node.unexpected "IP address")
  encode a := .string a.text

def cidr : Codec Cidr where
  decode _
    | .string s =>
      match Cidr.ofText? s with
      | some c => .ok c
      | none => .error (.mismatch .notAnAddress)
    | node => .error (node.unexpected "IPv4 or IPv6 network address")
  encode c := .string c.text

/-- Nothing but `null`. -/
def unit : Codec Unit where
  decode source
    | .null => .ok ()
    | .object [] none =>
      if source = .setAside then .ok () else .error (.mismatch (.wrongType .map "unit"))
    | node => .error (node.unexpected "unit")
  encode _ := .null

/-- `null` stands for an absent value. -/
def option (codec : Codec α) : Codec (Option α) where
  decode source
    | .null => .ok none
    | node => (codec.decode source node).map some
  encode := .option codec.encode

/-- A value that was written, even as `null`. -/
def given (codec : Codec α) : Codec (Option α) where
  decode source node := (codec.decode source node).map some
  encode := .option codec.encode

def decodeItems (codec : Codec α) (source : Source) : List Node → Except DecodeError (List α)
  | [] => .ok []
  | item :: items => do
    let a ← codec.decode source item
    let as ← decodeItems codec source items
    return a :: as

/-- The fault that ends an array or object early comes after all that stands before it. -/
def endWith (fault? : Option Fault) (a : α) : Except DecodeError α :=
  match fault? with
  | none => .ok a
  | some fault => .error (.fault fault)

def list (codec : Codec α) : Codec (List α) where
  decode source
    | .array items cut => do endWith (cut.map (·.fault)) (← codec.decodeItems source items)
    | node => .error (node.unexpected "a sequence")
  encode := .list codec.encode

def decodeMembers (codec : Codec α) (source : Source) :
    List (Except Fault String × Node) → Except DecodeError (List (String × α))
  | [] => .ok []
  | (.error fault, _) :: _ => .error (.fault fault)
  | (.ok name, value) :: members => do
    let a ← codec.decode source value
    let as ← decodeMembers codec source members
    return (name, a) :: as

/-- Of several members with one name the last counts. -/
def idMap (codec : Codec α) : Codec (IdMap α) where
  decode source
    | .object members cut => do
      endWith (cut.map (·.fault)) (.ofList (← codec.decodeMembers source members))
    | node => .error (node.unexpected "a map")
  encode m := .object (m.entries.map fun e => (e.1, codec.encode e.2))

/-! Enumerations -/

def variant? (known : List (String × α)) (name : String) : Except DecodeError α :=
  match known.find? fun k => k.1 = name with
  | some k => .ok k.2
  | none => .error (.mismatch (.unknownVariant name (known.map (·.1))))

/-- An enumeration in a text that is an object: its only member names the variant. -/
def variantOfMembers (known : List (String × α)) (cut : Option Cut) :
    List (Except Fault String × Node) → Except DecodeError α
  | [] => .error (.fault .expectedValue)
  | (.error fault, node) :: _ =>
    if fault = .memberNameNotString ∨ fault = .endInObject then
      .error (node.unexpected "variant identifier")
    else .error (.fault fault)
  | (.ok name, value) :: members => do
    let a ← variant? known name
    unit.decode .text value
    if members.isEmpty then
      match cut with
      | none => return a
      | some ⟨.endInObject, _⟩ => throw (.fault .endInObject)
      | some _ => throw (.fault .expectedValue)
    else throw (.fault .expectedValue)

/-- Variants by their names. A text must hold a string or an object there; elsewhere any other
value is a mismatch. -/
def enumeration (known : List (String × α)) (name : α → String) : Codec α where
  decode source node :=
    match source, node with
    | _, .string s => variant? known s
    | .text, .object members cut => variantOfMembers known cut members
    | .text, .valueless true fault => .error (.fault fault)
    | .text, .broken true fault _ => .error (.fault fault)
    | .text, .absent => .error (.fault .endInValue)
    | .text, _ => .error (.fault .expectedValue)
    | _, .object [(.ok variant, value)] _ => do
      let a ← variant? known variant
      unit.decode source value
      return a
    | _, .object _ _ => .error (.mismatch (.wrongValue .map "map with a single key"))
    | _, node => .error (node.unexpected "string or map")
  encode a := .string (name a)

/-! Whole texts -/

/-- The value in a text that holds nothing else. -/
def ofText (codec : Codec α) (s : String) : Except DecodeError α := do
  let (node, trailing) := Json.readText s
  endWith trailing (← codec.decode .text node)

/-- The value in a document. -/
def ofDocument (codec : Codec α) (j : Json) : Except DecodeError α :=
  codec.decode .document (.ofJson j)

def toText (codec : Codec α) (a : α) : String := (codec.encode a).compactText

end Codec

end AmphoraWiring
