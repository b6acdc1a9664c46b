import AmphoraWiring.Number.Rounding

/-!
Binary floating point numbers as data: a sign, a natural significand and a binary exponent,
beside the two infinities and the undefined value. Arithmetic is exact on naturals and rounds
once at the end, to a format of a given number of bits.
-/
namespace AmphoraWiring

/-- A format has `precision` significand bits; its numbers are whole multiples of
`2 ^ minExponent`, and the significand of the largest is scaled by `2 ^ maxExponent`. -/
structure FloatingFormat where
  precision : Nat
  minExponent : Int
  maxExponent : Int

namespace FloatingFormat

def double : FloatingFormat := ⟨53, -1074, 971⟩

def single : FloatingFormat := ⟨24, -149, 104⟩

end FloatingFormat

inductive Floating where
  | undefined
  | infinite (negative : Bool)
  | finite (negative : Bool) (significand : Nat) (exponent : Int)
deriving DecidableEq, Repr

namespace Floating

/-- The numerator and denominator of `2 ^ e`. -/
def powerOfTwo (e : Int) : Nat × Nat := (Nat.pow 2 e.toNat, Nat.pow 2 (-e).toNat)

/-- The exponent of the largest power of two that is at most `num / den`, both being positive. -/
def binaryLog (num den : Nat) : Int :=
  let k : Int := (Nat.log2 num : Int) - Nat.log2 den
  let (p, q) := powerOfTwo k
  if den * p ≤ num * q then k else k - 1

/-- The number of the format nearest to `num / den`, a tie going to the even significand. -/
def round (fmt : FloatingFormat) (negative : Bool) (num den : Nat) : Floating :=
  if num = 0 then .finite negative 0 fmt.minExponent
  else
    let e := max fmt.minExponent (binaryLog num den - (fmt.precision - 1))
    let (p, q) := powerOfTwo e
    let s := roundedQuotient (num * q) (den * p)
    let (s, e) :=
      if s = Nat.pow 2 fmt.precision then (Nat.pow 2 (fmt.precision - 1), e + 1) else (s, e)
    if fmt.maxExponent < e then .infinite negative else .finite negative s e

/-- The absolute value of a finite number as a quotient of naturals. -/
def ratio (significand : Nat) (exponent : Int) : Nat × Nat :=
  let (p, q) := powerOfTwo exponent
  (significand * p, q)

def ofNat (fmt : FloatingFormat) (n : Nat) : Floating := round fmt false n 1

/-- The number read in another format. -/
def convert (fmt : FloatingFormat) : Floating → Floating
  | .finite negative s e => let (num, den) := ratio s e; round fmt negative num den
  | x => x

/-- Quotient of two positive whole numbers, each first rounded to the format. -/
def quotient (fmt : FloatingFormat) (a b : Nat) : Floating :=
  match ofNat fmt a, ofNat fmt b with
  | .finite _ s e, .finite _ s' e' =>
    let (num, den) := ratio s e
    let (num', den') := ratio s' e'
    if num' = 0 then (if num = 0 then .undefined else .infinite false)
    else round fmt false (num * den') (den * num')
  | _, _ => .undefined

/-- A decimal number, computed as readers of decimal text commonly do it: the significand is
rounded to a double, then multiplied or divided once by a power of ten that is itself a double.
Powers beyond the largest finite one are divided out in steps; a number too large for the
format has no value. -/
def ofDecimal? (negative : Bool) (significand : Nat) (exponent : Int) : Option Floating :=
  go (ofNat .double significand) exponent (exponent.natAbs / 308 + 1)
where
  signed : Floating → Floating
    | .finite _ s e => .finite negative s e
    | x => x
  scale (x : Floating) (up : Bool) (power : Nat) : Floating :=
    match x, ofNat .double (Nat.pow 10 power) with
    | .finite _ s e, .finite _ s' e' =>
      let (num, den) := ratio s e
      let (num', den') := ratio s' e'
      if up then round .double false (num * num') (den * den')
      else round .double false (num * den') (den * num')
    | _, _ => .undefined
  go (x : Floating) (exponent : Int) : Nat → Option Floating
    | 0 => none
    | steps + 1 =>
      if exponent.natAbs ≤ 308 then
        match scale x (0 ≤ exponent) exponent.natAbs with
        | .infinite _ => none
        | y => some (signed y)
      else
        match x with
        | .finite _ 0 _ => some (signed x)
        | _ =>
          if 0 ≤ exponent then none
          else go (scale x false 308) (exponent + 308) steps

end Floating

end AmphoraWiring
