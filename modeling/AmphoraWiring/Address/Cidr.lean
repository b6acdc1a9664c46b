import AmphoraWiring.Address.Reader

/-!
Network ranges: an address and the length of the network part. The address keeps the bits of its
host part. The hosts of a range are listed in increasing order; a range of the short family with
room for it does without its first and last address.
-/
namespace AmphoraWiring

structure Cidr where
  address : Address
  length : Nat
  length_le : length ≤ address.width
deriving DecidableEq, Repr

namespace Cidr

def text (c : Cidr) : String := c.address.text ++ "/" ++ toString c.length

/-- How many addresses the range has. -/
def size (c : Cidr) : Nat := Nat.pow 2 (c.address.width - c.length)

def firstNumber (c : Cidr) : Nat := c.address.toNat / c.size * c.size

def lastNumber (c : Cidr) : Nat := c.firstNumber + c.size - 1

/-- Whether the first and the last address name the network and all of its hosts. -/
def reservesEnds (c : Cidr) : Bool :=
  match c.address with
  | .v4 _ => c.length < 31
  | .v6 _ => false

def firstHost (c : Cidr) : Nat := if c.reservesEnds then c.firstNumber + 1 else c.firstNumber

def lastHost (c : Cidr) : Nat := if c.reservesEnds then c.lastNumber - 1 else c.lastNumber

/-- The host at a position, counted from zero. -/
def host? (c : Cidr) (position : Nat) : Option Address :=
  if c.firstHost + position ≤ c.lastHost then
    some (c.address.withNat (c.firstHost + position))
  else none

def make? (address : Address) (length : Nat) : Option Cidr :=
  if h : length ≤ address.width then some ⟨address, length, h⟩ else none

/-- How many digits the length of a network part may have, leading zeros counted: as many as the
greatest length needs. -/
def lengthDigits : Address → Nat
  | .v4 _ => 2
  | .v6 _ => 3

def readLength (address : Address) : Address.Reader Nat := fun cs => do
  let (_, cs) ← Address.readChar '/' cs
  Address.readNumber 10 (lengthDigits address) (address.width + 1) true cs

/-- The length must follow an address of the short family at once, or else the whole is read as
one of the long family. -/
def ofText? (s : String) : Option Cidr :=
  let short := do
    let (octets, cs) ← Address.readDotted .network s.toList
    let address := Address.v4OfOctets octets
    let (length, cs) ← readLength address cs
    return (address, length, cs)
  let long := do
    let (groups, cs) ← Address.readLong .network s.toList
    let address := Address.v6OfGroups groups
    let (length, cs) ← readLength address cs
    return (address, length, cs)
  match short.or long with
  | some (address, length, []) => make? address length
  | _ => none

end Cidr

end AmphoraWiring
