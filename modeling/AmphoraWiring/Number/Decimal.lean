import AmphoraWiring.Number.Floating

/-!
Decimal text of floating point numbers: the fewest digits that read back as the same double,
and a fixed number of places after the point.
-/
namespace AmphoraWiring

/-- A positive decimal number `digits * 10 ^ exponent`. -/
structure Decimal where
  digits : Nat
  exponent : Int
deriving DecidableEq, Repr

namespace Decimal

/-- The numerator and denominator of `10 ^ k`. -/
def powerOfTen (k : Int) : Nat × Nat := (Nat.pow 10 k.toNat, Nat.pow 10 (-k).toNat)

/-- On the grid of multiples of `10 ^ k`, the neighbour of `s * 2 ^ e` that reads back as it, if
any; of two such neighbours the nearer one, and the even one when both are equally near. All
lengths are counted in quarters of the number's last binary place. The numbers that read back
reach half a place up and down, only a quarter down from a power of two, and their two ends
read back when the significand is even. -/
def onGrid? (s : Nat) (e : Int) (narrow : Bool) (k : Int) : Option Nat :=
  let (t, t') := powerOfTen k
  let (b, b') := Floating.powerOfTwo (e - 2)
  let step := t * b'
  let unit := t' * b
  let value := 4 * s * unit
  let low := (4 * s - if narrow then 1 else 2) * unit
  let high := (4 * s + 2) * unit
  let readsBack (d : Nat) : Bool :=
    if s % 2 = 0 then low ≤ d * step && d * step ≤ high
    else low < d * step && d * step < high
  let below := value / step
  let above := below + 1
  match readsBack below, readsBack above with
  | true, true =>
    let up := above * step - value
    let down := value - below * step
    if down < up then some below
    else if up < down then some above
    else if below % 2 = 0 then some below else some above
  | true, false => some below
  | false, true => some above
  | false, false => none

/-- The first grid that has a number reading back, from the coarsest on. -/
def search (s : Nat) (e : Int) (narrow : Bool) : Nat → Int → Decimal
  | 0, k => ⟨s, k⟩
  | steps + 1, k =>
    match onGrid? s e narrow k with
    | some d => ⟨d, k⟩
    | none => search s e narrow steps (k - 1)

/-- The shortest decimal number that reads back as the double `s * 2 ^ e`, for a positive `s`. -/
def shortest (s : Nat) (e : Int) : Decimal :=
  let narrow := s = Nat.pow 2 52 ∧ -1074 < e
  search s e narrow 40 ((e + Nat.log2 s + 1) * 30103 / 100000 + 2)

def zeros (n : Nat) : String := String.ofList (List.replicate n '0')

/-- How a number is laid out: positionally when its first digit stands at a power of ten from
`leastPositional` up to but not including `firstScientific`. -/
structure Layout where
  leastPositional : Int
  firstScientific : Int

def render (layout : Layout) (x : Decimal) : String :=
  let text := toString x.digits
  let first : Int := x.exponent + text.length - 1
  if layout.leastPositional ≤ first ∧ first < layout.firstScientific then
    if 0 ≤ x.exponent then text ++ zeros x.exponent.toNat ++ ".0"
    else if 0 ≤ first then
      String.ofList (text.toList.take (first.toNat + 1)) ++ "." ++
        String.ofList (text.toList.drop (first.toNat + 1))
    else "0." ++ zeros (-first - 1).toNat ++ text
  else
    let head := String.ofList (text.toList.take 1)
    let tail := text.toList.drop 1
    let mantissa := if tail.isEmpty then head else head ++ "." ++ String.ofList tail
    mantissa ++ (if 0 ≤ first then "e+" else "e-") ++ toString first.natAbs

end Decimal

namespace Floating

/-- Documents write numbers from `1e-5` up to `1e16` positionally, whole ones with `.0`. -/
def documentLayout : Decimal.Layout := ⟨-5, 16⟩

def shortestText : Floating → String
  | .undefined => "null"
  | .infinite _ => "null"
  | .finite negative s e =>
    (if negative then "-" else "") ++
      if s = 0 then "0.0" else (Decimal.shortest s e).render documentLayout

/-- The number with `places` digits after the point, a half going to the even digit. -/
def fixedText (places : Nat) : Floating → String
  | .undefined => "NaN"
  | .infinite negative => if negative then "-inf" else "inf"
  | .finite negative s e =>
    let (num, den) := ratio s e
    let unit := Nat.pow 10 places
    let scaled := roundedQuotient (num * unit) den
    let fraction := toString (scaled % unit)
    (if negative then "-" else "") ++ toString (scaled / unit) ++ "." ++
      Decimal.zeros (places - fraction.length) ++ fraction

end Floating

end AmphoraWiring
