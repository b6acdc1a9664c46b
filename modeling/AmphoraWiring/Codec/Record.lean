import AmphoraWiring.Codec.Basic

/-!
Records as documents. A record is an object with its fields as members in any order, or an array
of its fields in the order of their declaration. Unknown members are skipped. Fields are read as
they come; a field that is missing is reported only when everything else has been read.
-/
namespace AmphoraWiring

/-- What becomes of a field that is not written: it is refused, or it takes a value, which a
record written as an array may be denied. -/
inductive Missing (α : Type) where
  | refused
  | filled (value : α) (inArray : Bool)

/-- The fields of a record. `τ` is the tuple of their values and `σ` the tuple of the values read
so far. A field is left out of the written record where `hidden` says so. -/
inductive Fields : Type → Type → Type 1
  | done : Fields Unit Unit
  | field {α τ σ : Type} (name : String) (codec : Codec α) (missing : Missing α)
      (hidden : α → Bool) (next : Fields τ σ) : Fields (α × τ) (Option α × σ)

namespace Fields

variable {α τ σ : Type}

/-- A field that has to be written. -/
def required (name : String) (codec : Codec α) (next : Fields τ σ) :
    Fields (α × τ) (Option α × σ) :=
  .field name codec .refused (fun _ => false) next

/-- A field that takes `value` when it is not written. -/
def defaulted (name : String) (codec : Codec α) (value : α) (next : Fields τ σ) :
    Fields (α × τ) (Option α × σ) :=
  .field name codec (.filled value true) (fun _ => false) next

/-- A field that is absent when it is not written, which only an object can leave out. -/
def optional (name : String) (codec : Codec α) (next : Fields τ σ) :
    Fields (Option α × τ) (Option (Option α) × σ) :=
  .field name codec.option (.filled none false) (fun _ => false) next

def length : {τ σ : Type} → Fields τ σ → Nat
  | _, _, .done => 0
  | _, _, .field _ _ _ _ next => next.length + 1

/-- Nothing read so far. -/
def unread : {τ σ : Type} → Fields τ σ → σ
  | _, _, .done => ()
  | _, _, .field _ _ _ _ next => (none, next.unread)

/-- Takes in a member; `none` if no field has its name. -/
def accept (source : Source) (name : String) (value : Node) :
    {τ σ : Type} → Fields τ σ → σ → Except DecodeError (Option σ)
  | _, _, .done, () => .ok none
  | _, _, .field own codec _ _ next, (slot, slots) =>
    if own = name then
      if slot.isSome then .error (.mismatch (.duplicateField own))
      else (codec.decode source value).map fun v => some (some v, slots)
    else (next.accept source name value slots).map fun r => r.map fun slots => (slot, slots)

/-- The first missing field that is refused is reported. -/
def finish : {τ σ : Type} → Fields τ σ → σ → Except DecodeError τ
  | _, _, .done, () => .ok ()
  | _, _, .field name _ missing _ next, (slot, slots) => do
    let v ←
      match slot, missing with
      | some v, _ => .ok v
      | none, .filled v _ => .ok v
      | none, .refused => .error (.mismatch (.missingField name))
    let vs ← next.finish slots
    return (v, vs)

def decodeMembers (fields : Fields τ σ) (source : Source) (slots : σ) :
    List (Except Fault String × Node) → Except DecodeError σ
  | [] => .ok slots
  | (.error fault, _) :: _ => .error (.fault fault)
  | (.ok name, value) :: members => do
    match ← fields.accept source name value slots with
    | some slots => fields.decodeMembers source slots members
    | none =>
      match value.skipFault? with
      | some fault => throw (.fault fault)
      | none => fields.decodeMembers source slots members

/-- Reads the fields from items, beginning at `index`; gives back the items that are left. -/
def decodeItems (source : Source) (tooShort : Nat → DecodeError) (cut : Option Cut) :
    {τ σ : Type} → Fields τ σ → Nat → List Node → Except DecodeError (τ × List Node)
  | _, _, .done, _, items => .ok ((), items)
  | _, _, .field _ codec missing _ next, index, items => do
    let (v, items) ←
      match items, cut, missing with
      | item :: items, _, _ => (codec.decode source item).map fun v => (v, items)
      | [], some cut, _ => .error (.fault cut.fault)
      | [], none, .filled v true => .ok (v, [])
      | [], none, _ => .error (tooShort index)
    let (vs, items) ← next.decodeItems source tooShort cut (index + 1) items
    return ((v, vs), items)

def encode : {τ σ : Type} → Fields τ σ → τ → List (String × Json)
  | _, _, .done, () => []
  | _, _, .field name codec _ hidden next, (v, vs) =>
    if hidden v then next.encode vs else (name, codec.encode v) :: next.encode vs

end Fields

namespace Codec

variable {α τ σ : Type}

def elementsText (n : Nat) : String := if n = 1 then "1 element" else s!"{n} elements"

/-- What stands behind the last field of a record that is written as an array of `total` items. -/
def endArray (source : Source) (fields total : Nat) (left : List Node) (cut : Option Cut)
    (a : α) : Except DecodeError α :=
  match source, left, cut with
  | _, [], none => .ok a
  | .text, [], some ⟨.expectedCommaOrBracket, _⟩ => .error (.fault .trailingCharacters)
  | .text, [], some cut => .error (.fault cut.fault)
  | .text, _ :: _, _ => .error (.fault .trailingCharacters)
  | .setAside, _, _ =>
    .error (.mismatch (.wrongLength total (elementsText fields ++ " in sequence")))
  | .document, _, _ => .error (.mismatch (.wrongLength total "fewer elements in array"))

def record (name : String) (fields : Fields τ σ) (ofTuple : τ → α) (toTuple : α → τ) : Codec α where
  decode source
    | .object members cut => do
      let slots ← fields.decodeMembers source fields.unread members
      let slots ← endWith (cut.map (·.fault)) slots
      return ofTuple (← fields.finish slots)
    | .array items cut => do
      let tooShort (index : Nat) : DecodeError :=
        .mismatch (.wrongLength index (s!"struct {name} with " ++ elementsText fields.length))
      let (values, left) ← fields.decodeItems source tooShort cut 0 items
      endArray source fields.length items.length left cut (ofTuple values)
    | node => .error (node.unexpected ("struct " ++ name))
  encode a := .object (fields.encode (toTuple a))

end Codec

end AmphoraWiring
