/-!
Spans of time, in whole nanoseconds.
-/
namespace AmphoraWiring

abbrev Duration := Nat

namespace Duration

def ofMillis (n : Nat) : Duration := n * 1000000

def ofSeconds (n : Nat) : Duration := n * 1000000000

def toMillis (d : Duration) : Nat := d / 1000000

/-- The span as whole seconds and the nanoseconds that are left over. -/
def parts (d : Duration) : Nat × Nat := (d / 1000000000, d % 1000000000)

/-- Digits after the point for `part` out of `10 ^ width`, without trailing zeros. -/
def fractionText (part width : Nat) : String :=
  let digits := (toString part).toList
  let padded := List.replicate (width - digits.length) '0' ++ digits
  let kept := (padded.reverse.dropWhile (· = '0')).reverse
  if kept.isEmpty then "" else "." ++ String.ofList kept

/-- The span in the largest unit that it fills at least once. -/
def text (d : Duration) : String :=
  if 1000000000 ≤ d then
    toString (d / 1000000000) ++ fractionText (d % 1000000000) 9 ++ "s"
  else if 1000000 ≤ d then toString (d / 1000000) ++ fractionText (d % 1000000) 6 ++ "ms"
  else if 1000 ≤ d then toString (d / 1000) ++ fractionText (d % 1000) 3 ++ "µs"
  else toString d ++ "ns"

end Duration

end AmphoraWiring
