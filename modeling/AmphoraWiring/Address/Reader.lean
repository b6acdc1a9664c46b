import AmphoraWiring.Address.Basic

/-!
Reading addresses. A reader takes characters from the front and gives back the rest; it refuses
by `none`. A double colon stands for zero groups that are left out.
-/
namespace AmphoraWiring.Address

abbrev Reader (α : Type) := List Char → Option (α × List Char)

/-- Two spellings of addresses are in use: on its own an address has no octet with a leading
zero and its double colon stands for at least one group; before a network length both are free. -/
structure Spelling where
  leadingZeros : Bool
  leastGap : Nat

def Spelling.alone : Spelling := ⟨false, 1⟩

def Spelling.network : Spelling := ⟨true, 0⟩

def digitValue (c : Char) : Nat :=
  if '0' ≤ c && c ≤ '9' then c.toNat - '0'.toNat
  else if 'a' ≤ c && c ≤ 'f' then c.toNat - 'a'.toNat + 10
  else if 'A' ≤ c && c ≤ 'F' then c.toNat - 'A'.toNat + 10
  else 16

/-- A number of at most `most` digits that is below `bound`. -/
def readNumber (radix most bound : Nat) (leadingZeros : Bool) : Reader Nat := fun cs =>
  let digits := cs.takeWhile fun c => digitValue c < radix
  let n := ofPlaces radix (digits.map digitValue)
  if digits.isEmpty || most < digits.length || bound ≤ n then none
  else if !leadingZeros && digits.head? == some '0' && 1 < digits.length then none
  else some (n, cs.drop digits.length)

def readChar (c : Char) : Reader Unit
  | [] => none
  | d :: rest => if c = d then some ((), rest) else none

def readDotted (spelling : Spelling) : Reader (List Nat) := fun cs => do
  let octet := readNumber 10 3 256 spelling.leadingZeros
  let (a, cs) ← octet cs
  let (_, cs) ← readChar '.' cs
  let (b, cs) ← octet cs
  let (_, cs) ← readChar '.' cs
  let (c, cs) ← octet cs
  let (_, cs) ← readChar '.' cs
  let (d, cs) ← octet cs
  return ([a, b, c, d], cs)

/-- At most `limit` groups, a dotted address standing for the last two. The flag tells whether
there was one, after which no group can follow. -/
def readGroups (spelling : Spelling) (first : Bool) : Nat → List Char → List Nat × Bool × List Char
  | 0, cs => ([], false, cs)
  | limit + 1, cs =>
    match if first then some ((), cs) else readChar ':' cs with
    | none => ([], false, cs)
    | some (_, inner) =>
      match if 0 < limit then readDotted spelling inner else none with
      | some (octets, rest) =>
        let n := ofPlaces 256 octets
        ([n / 65536, n % 65536], true, rest)
      | none =>
        match readNumber 16 4 65536 true inner with
        | none => ([], false, cs)
        | some (g, rest) =>
          let (gs, dotted, rest) := readGroups spelling false limit rest
          (g :: gs, dotted, rest)

def readLong (spelling : Spelling) : Reader (List Nat) := fun cs => do
  let (head, dotted, cs) := readGroups spelling true 8 cs
  if head.length = 8 then return (head, cs)
  if dotted then none
  let (_, cs) ← readChar ':' cs
  let (_, cs) ← readChar ':' cs
  let (tail, _, cs) := readGroups spelling true (8 - head.length - spelling.leastGap) cs
  return (head ++ List.replicate (8 - head.length - tail.length) 0 ++ tail, cs)

def v4OfOctets (octets : List Nat) : Address := .v4 (.ofNat 32 (ofPlaces 256 octets))

def v6OfGroups (groups : List Nat) : Address := .v6 (.ofNat 128 (ofPlaces 65536 groups))

/-- The short family is tried first; what it accepts is not tried again as the long one. -/
def read (spelling : Spelling) : Reader Address := fun cs =>
  match readDotted spelling cs with
  | some (octets, rest) => some (v4OfOctets octets, rest)
  | none => (readLong spelling cs).map fun (groups, rest) => (v6OfGroups groups, rest)

def ofText? (s : String) : Option Address :=
  match read .alone s.toList with
  | some (a, []) => some a
  | _ => none

end AmphoraWiring.Address
