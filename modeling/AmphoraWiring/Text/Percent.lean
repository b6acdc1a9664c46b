/-!
Text in which a percent sign with two hexadecimal digits stands for a byte. A percent sign without
them stands for itself.
-/
namespace AmphoraWiring.Text.Percent

def digit? (b : UInt8) : Option UInt8 :=
  if 0x30 ≤ b && b ≤ 0x39 then some (b - 0x30)
  else if 0x61 ≤ b && b ≤ 0x66 then some (b - 0x57)
  else if 0x41 ≤ b && b ≤ 0x46 then some (b - 0x37)
  else none

def decodeBytes : List UInt8 → List UInt8
  | 0x25 :: a :: b :: rest =>
    match digit? a, digit? b with
    | some high, some low => (high * 16 + low) :: decodeBytes rest
    | _, _ => 0x25 :: decodeBytes (a :: b :: rest)
  | b :: rest => b :: decodeBytes rest
  | [] => []

def decode (cs : List Char) : List UInt8 := decodeBytes (String.ofList cs).toUTF8.toList

end AmphoraWiring.Text.Percent
