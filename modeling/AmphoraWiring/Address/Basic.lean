/-!
Network addresses of both families and their text. An address of the long family is written in
groups of four hexadecimal digits without leading zeros, its first longest run of at least two
zero groups as a double colon; a mapped short address keeps its dotted form.
-/
namespace AmphoraWiring

inductive Address where
  | v4 (bits : BitVec 32)
  | v6 (bits : BitVec 128)
deriving DecidableEq, Repr

namespace Address

def width : Address → Nat
  | .v4 _ => 32
  | .v6 _ => 128

def toNat : Address → Nat
  | .v4 bits => bits.toNat
  | .v6 bits => bits.toNat

/-- The address of the same family with the given number. -/
def withNat (a : Address) (n : Nat) : Address :=
  match a with
  | .v4 _ => .v4 (.ofNat 32 n)
  | .v6 _ => .v6 (.ofNat 128 n)

/-- The `count` digits of a number to a base, most significant first. -/
def places (base : Nat) : Nat → Nat → List Nat
  | 0, _ => []
  | count + 1, n => places base count (n / base) ++ [n % base]

def ofPlaces (base : Nat) (digits : List Nat) : Nat := digits.foldl (fun n d => n * base + d) 0

def octets (n : Nat) : List Nat := places 256 4 n

def groups (n : Nat) : List Nat := places 65536 8 n

def dotted (n : Nat) : String := ".".intercalate ((octets n).map toString)

def hexText (n : Nat) : String := String.ofList (Nat.toDigits 16 n)

def groupsText (gs : List Nat) : String := ":".intercalate (gs.map hexText)

/-- Start and length of the first longest run of zeros, positions counted from `start`. -/
def longestZeros (start : Nat) : List Nat → Nat × Nat
  | [] => (start, 0)
  | g :: gs =>
    let here := ((g :: gs).takeWhile (· = 0)).length
    let later := longestZeros (start + 1) gs
    if here < later.2 then later else (start, here)

def longText (n : Nat) : String :=
  let gs := groups n
  if gs.take 6 = [0, 0, 0, 0, 0, 0xffff] then "::ffff:" ++ dotted (n % Nat.pow 2 32)
  else
    let (start, length) := longestZeros 0 gs
    if 1 < length then groupsText (gs.take start) ++ "::" ++ groupsText (gs.drop (start + length))
    else groupsText gs

def text : Address → String
  | .v4 bits => dotted bits.toNat
  | .v6 bits => longText bits.toNat

end Address

end AmphoraWiring
