/-!
Bytes read as text that may be flawed. Bytes fall into stretches: a character, a beginning of one
that does not go on as it has to, or a beginning at which the bytes end. Read strictly, the first
flaw is the answer; read leniently, each flaw is replaced by the replacement character.
-/
namespace AmphoraWiring.Text.Utf8

inductive Stretch where
  | char (c : Char)
  | broken (length : Nat)
  | unfinished
deriving DecidableEq, Repr

/-- What has to follow a first byte: how many bytes, and the bounds of the next one. Overlong
spellings, surrogates and numbers beyond the last character are excluded by the bounds. -/
def follow? (b : UInt8) : Option (Nat × UInt8 × UInt8) :=
  if b < 0x80 then some (0, 0x80, 0xbf)
  else if b < 0xc2 then none
  else if b < 0xe0 then some (1, 0x80, 0xbf)
  else if b = 0xe0 then some (2, 0xa0, 0xbf)
  else if b = 0xed then some (2, 0x80, 0x9f)
  else if b < 0xf0 then some (2, 0x80, 0xbf)
  else if b = 0xf0 then some (3, 0x90, 0xbf)
  else if b < 0xf4 then some (3, 0x80, 0xbf)
  else if b = 0xf4 then some (3, 0x80, 0x8f)
  else none

/-- The bits of a first byte that belong to its character. -/
def leadingBits (count : Nat) (b : UInt8) : Nat :=
  if count = 0 then b.toNat else b.toNat % Nat.pow 2 (6 - count)

/-- Reads `count` more bytes of a character, the next one between two bounds; `length` bytes with
the value `code` have been read. -/
def readOn (length code : Nat) : Nat → UInt8 → UInt8 → List UInt8 → Stretch × List UInt8
  | 0, _, _, bs => (.char (Char.ofNat code), bs)
  | _ + 1, _, _, [] => (.unfinished, [])
  | count + 1, low, high, b :: bs =>
    if low ≤ b && b ≤ high then
      readOn (length + 1) (code * 64 + b.toNat % 64) count 0x80 0xbf bs
    else (.broken length, b :: bs)

def readStretch (b : UInt8) (bs : List UInt8) : Stretch × List UInt8 :=
  match follow? b with
  | none => (.broken 1, bs)
  | some (count, low, high) => readOn 1 (leadingBits count b) count low high bs

theorem readOn_length_le (length code count : Nat) (low high : UInt8) (bs : List UInt8) :
    (readOn length code count low high bs).2.length ≤ bs.length := by
  induction count generalizing length code low high bs with
  | zero => simp [readOn]
  | succ count ih =>
    cases bs with
    | nil => simp [readOn]
    | cons b bs =>
      rw [readOn]
      split
      · exact Nat.le_succ_of_le (ih ..)
      · exact Nat.le_refl _

/-- Reading on never gives bytes back, so the reading ends. -/
theorem readStretch_length_le (b : UInt8) (bs : List UInt8) :
    (readStretch b bs).2.length ≤ bs.length := by
  unfold readStretch
  split
  · exact Nat.le_refl _
  · exact readOn_length_le ..

def stretches : List UInt8 → List Stretch
  | [] => []
  | b :: bs => (readStretch b bs).1 :: stretches (readStretch b bs).2
termination_by bs => bs.length
decreasing_by exact Nat.lt_succ_of_le (readStretch_length_le b bs)

/-- Where a flaw is, and how many bytes it has unless the bytes end in it. -/
structure Flaw where
  index : Nat
  length : Option Nat
deriving DecidableEq, Repr

def Flaw.message (f : Flaw) : String :=
  match f.length with
  | some length =>
    "invalid utf-8 sequence of " ++ toString length ++ " bytes from index " ++ toString f.index
  | none => "incomplete utf-8 byte sequence from index " ++ toString f.index

/-- The first flaw, positions counted from `index`. -/
def flaw? (index : Nat) : List Stretch → Option Flaw
  | [] => none
  | .char c :: rest => flaw? (index + c.utf8Size) rest
  | .broken length :: _ => some ⟨index, some length⟩
  | .unfinished :: _ => some ⟨index, none⟩

def Stretch.shown : Stretch → Char
  | .char c => c
  | _ => '\ufffd'

def decodeLeniently (bs : List UInt8) : String := String.ofList ((stretches bs).map (·.shown))

def decode (bs : List UInt8) : Except Flaw String :=
  match flaw? 0 (stretches bs) with
  | some flaw => .error flaw
  | none => .ok (decodeLeniently bs)

end AmphoraWiring.Text.Utf8
