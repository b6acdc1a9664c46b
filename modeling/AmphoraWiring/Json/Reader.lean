import AmphoraWiring.Json.Node

/-!
Reading a text into a node. Reading stops at the first fault that a skipping reader would meet,
and never fails. A number keeps as many leading digits as fit in 64 bits; the digits after them
only move its decimal exponent.
-/
namespace AmphoraWiring.Json

def isBlank (c : Char) : Bool := c = ' ' || c = '\n' || c = '\t' || c = '\r'

def skipBlanks (cs : List Char) : List Char := cs.dropWhile isBlank

/-! Strings -/

def hexValue? (c : Char) : Option Nat :=
  if '0' ≤ c && c ≤ '9' then some (c.toNat - '0'.toNat)
  else if 'a' ≤ c && c ≤ 'f' then some (c.toNat - 'a'.toNat + 10)
  else if 'A' ≤ c && c ≤ 'F' then some (c.toNat - 'A'.toNat + 10)
  else none

def hexUnit? (a b c d : Char) : Option Nat := do
  return (((← hexValue? a) * 16 + (← hexValue? b)) * 16 + (← hexValue? c)) * 16 + (← hexValue? d)

def simpleEscape? (c : Char) : Option Char :=
  if c = '"' then some '"'
  else if c = '\\' then some '\\'
  else if c = '/' then some '/'
  else if c = 'b' then some '\x08'
  else if c = 'f' then some '\x0c'
  else if c = 'n' then some '\n'
  else if c = 'r' then some '\r'
  else if c = 't' then some '\t'
  else none

def isLeading (unit : Nat) : Bool := 0xd800 ≤ unit && unit ≤ 0xdbff

def isTrailing (unit : Nat) : Bool := 0xdc00 ≤ unit && unit ≤ 0xdfff

/-- A string as far as it could be read, after its opening quote. `flaw` is the first escape that
is written correctly but stands for no character. -/
inductive StringToken where
  | closed (text : List Char) (flaw : Option Fault) (rest : List Char)
  | broken (fault skipped : Fault)

/-- An escape by number has four digits, which too short a text cannot hold. -/
def shortEscapeFault (rest : List Char) : Fault :=
  if (String.ofList rest).utf8ByteSize < 4 then .endInString else .invalidEscape

/-- `read` holds the characters read so far, last first; `lead` is the first half of a character
that is written as two escapes. -/
def readString (read : List Char) (lead : Option Nat) (flaw : Option Fault) :
    List Char → StringToken
  | [] => .broken (flaw.getD .endInString) .endInString
  | '"' :: rest => .closed read.reverse (flaw.or (unfinished lead)) rest
  | '\\' :: [] => .broken (flaw.getD .endInString) .endInString
  | '\\' :: 'u' :: a :: b :: c :: d :: rest =>
    match hexUnit? a b c d with
    | none => .broken (flaw.getD .invalidEscape) .invalidEscape
    | some unit =>
      match lead with
      | some first =>
        if isTrailing unit then
          readString (Char.ofNat (0x10000 + (first - 0xd800) * 0x400 + (unit - 0xdc00)) :: read)
            none flaw rest
        else readString read none (flaw.or (some .loneSurrogate)) rest
      | none =>
        if isTrailing unit then readString read none (flaw.or (some .loneSurrogate)) rest
        else if isLeading unit then readString read (some unit) flaw rest
        else readString (Char.ofNat unit :: read) none flaw rest
  | '\\' :: 'u' :: short =>
    .broken (flaw.getD (shortEscapeFault short)) (shortEscapeFault short)
  | '\\' :: e :: rest =>
    match simpleEscape? e with
    | some c => readString (c :: read) none (flaw.or (unfinished lead)) rest
    | none => .broken ((flaw.or (unfinished lead)).getD .invalidEscape) .invalidEscape
  | c :: rest =>
    if c.toNat < 0x20 then
      .broken ((flaw.or (unfinished lead)).getD .controlCharacter) .controlCharacter
    else readString (c :: read) none (flaw.or (unfinished lead)) rest
where
  unfinished (lead : Option Nat) : Option Fault :=
    if lead.isSome then some .unfinishedSurrogate else none

/-! Numbers -/

def isDigit (c : Char) : Bool := '0' ≤ c && c ≤ '9'

def digitsOf (cs : List Char) : List Char × List Char :=
  (cs.takeWhile isDigit, cs.dropWhile isDigit)

/-- Appends digits to a significand while it fits in 64 bits, and counts them. -/
def appendDigits (significand kept : Nat) : List Char → Nat × Nat
  | [] => (significand, kept)
  | c :: cs =>
    let next := significand * 10 + (c.toNat - '0'.toNat)
    if next < Nat.pow 2 64 then appendDigits next (kept + 1) cs else (significand, kept)

def digitsValue (cs : List Char) : Nat := cs.foldl (fun n c => n * 10 + (c.toNat - '0'.toNat)) 0

/-- The parts of a number in the text; `fraction` and `exponent` are missing where the number
has none. -/
structure NumberToken where
  negative : Bool
  whole : List Char
  fraction : Option (List Char)
  exponent : Option Int

def NumberToken.toNode (t : NumberToken) : Node :=
  let (significand, kept) := appendDigits 0 0 t.whole
  let dropped := t.whole.length - kept
  if t.fraction.isNone && t.exponent.isNone && dropped = 0 then
    if !t.negative then .natural significand
    else if 0 < significand && significand ≤ Nat.pow 2 63 then .negative significand
    else
      match Floating.ofDecimal? true significand 0 with
      | some x => .real x
      | none => .valueless false .numberOutOfRange
  else
    let (significand, places) := appendDigits significand 0 (t.fraction.getD [])
    match Floating.ofDecimal? t.negative significand
        (t.exponent.getD 0 + (dropped : Int) - (places : Int)) with
    | some x => .real x
    | none => .valueless false .numberOutOfRange

/-- A digit was needed where the text holds `rest`. -/
def missingDigit (rest : List Char) : Node :=
  match rest with
  | [] => .broken false .endInValue .invalidNumber
  | _ => .broken false .invalidNumber .invalidNumber

def readWhole (cs : List Char) : Except Node (List Char × List Char) :=
  match digitsOf cs with
  | ([], rest) => .error (missingDigit rest)
  | ('0' :: _ :: _, _) => .error (.broken false .invalidNumber .invalidNumber)
  | (whole, rest) => .ok (whole, rest)

def readFraction (cs : List Char) : Except Node (Option (List Char) × List Char) :=
  match cs with
  | '.' :: rest =>
    match digitsOf rest with
    | ([], rest) => .error (missingDigit rest)
    | (fraction, rest) => .ok (some fraction, rest)
  | rest => .ok (none, rest)

def readSign (cs : List Char) : Bool × List Char :=
  match cs with
  | '+' :: rest => (false, rest)
  | '-' :: rest => (true, rest)
  | rest => (false, rest)

def readExponent (cs : List Char) : Except Node (Option Int × List Char) :=
  match cs with
  | [] => .ok (none, [])
  | c :: rest =>
    if c = 'e' || c = 'E' then
      let (minus, rest) := readSign rest
      match digitsOf rest with
      | ([], rest) => .error (missingDigit rest)
      | (digits, rest) =>
        let n : Int := digitsValue digits
        .ok (some (if minus then -n else n), rest)
    else .ok (none, c :: rest)

def readUnsigned (negative : Bool) (cs : List Char) : Except Node (Node × List Char) := do
  let (whole, cs) ← readWhole cs
  let (fraction, cs) ← readFraction cs
  let (exponent, cs) ← readExponent cs
  return ((NumberToken.mk negative whole fraction exponent).toNode, cs)

def readNumber (negative : Bool) (cs : List Char) : Node × List Char :=
  match readUnsigned negative cs with
  | .ok r => r
  | .error node => (node, [])

/-! Values -/

/-- A comma with no item behind it. -/
def itemlessComma : Cut := ⟨.trailingComma, .expectedValue⟩

/-- A comma with no member behind it. -/
def memberlessComma : Cut := ⟨.trailingComma, .memberNameNotString⟩

/-- The text ends where a member has to stand behind a comma. -/
def endBehindComma : Cut := ⟨.endInValue, .endInObject⟩

/-- The rest of a literal whose first letter has been seen. -/
def readLiteral (node : Node) : List Char → List Char → Node × List Char
  | [], cs => (node, cs)
  | _ :: _, [] => (.broken false .endInValue .endInValue, [])
  | e :: expected, c :: cs =>
    if e = c then readLiteral node expected cs
    else (.broken false .expectedLiteral .expectedLiteral, [])

mutual

/-- `fuel` bounds the number of values read; each takes a character at least. -/
def readValue : Nat → List Char → Node × List Char
  | 0, _ => (.absent, [])
  | fuel + 1, cs =>
    match skipBlanks cs with
    | [] => (.absent, [])
    | 'n' :: rest => readLiteral .null ['u', 'l', 'l'] rest
    | 't' :: rest => readLiteral (.bool true) ['r', 'u', 'e'] rest
    | 'f' :: rest => readLiteral (.bool false) ['a', 'l', 's', 'e'] rest
    | '-' :: rest => readNumber true rest
    | '"' :: rest =>
      match readString [] none none rest with
      | .closed text none rest => (.string (String.ofList text), rest)
      | .closed _ (some flaw) rest => (.valueless true flaw, rest)
      | .broken fault skipped => (.broken true fault skipped, [])
    | '[' :: rest =>
      match skipBlanks rest with
      | [] => (.array [] (some (.of .endInArray)), [])
      | ']' :: rest => (.array [] none, rest)
      | _ =>
        let (items, cut, rest) := readItems fuel rest
        (.array items cut, rest)
    | '{' :: rest =>
      match skipBlanks rest with
      | [] => (.object [(.error .endInObject, .absent)] (some (.of .endInObject)), [])
      | '}' :: rest => (.object [] none, rest)
      | '"' :: rest =>
        let (members, cut, rest) := readMembers fuel rest
        (.object members cut, rest)
      | _ =>
        (.object [(.error .memberNameNotString, (readValue fuel rest).1)]
          (some (.of .memberNameNotString)), [])
    | c :: rest =>
      if isDigit c then readNumber false (c :: rest)
      else (.broken false .expectedValue .expectedValue, [])

/-- The items of an array from the place where one has to stand. -/
def readItems : Nat → List Char → List Node × Option Cut × List Char
  | 0, _ => ([], some (.of .endInValue), [])
  | fuel + 1, cs =>
    let (item, rest) := readValue fuel cs
    match item.skipFault? with
    | some fault => ([item], some (.of fault), [])
    | none =>
      match skipBlanks rest with
      | [] => ([item], some (.of .endInArray), [])
      | ']' :: rest => ([item], none, rest)
      | ',' :: rest =>
        match skipBlanks rest with
        | ']' :: _ => ([item], some itemlessComma, [])
        | _ =>
          let (items, cut, rest) := readItems fuel rest
          (item :: items, cut, rest)
      | _ => ([item], some (.of .expectedCommaOrBracket), [])

/-- The members of an object from behind the opening quote of a name. -/
def readMembers : Nat → List Char → List (Except Fault String × Node) × Option Cut × List Char
  | 0, _ => ([], some (.of .endInValue), [])
  | fuel + 1, cs =>
    match readString [] none none cs with
    | .broken fault skipped =>
      ([(.error fault, .broken true fault skipped)], some (.of skipped), [])
    | .closed text flaw rest =>
      let name : Except Fault String :=
        match flaw with
        | none => .ok (String.ofList text)
        | some flaw => .error flaw
      match skipBlanks rest with
      | [] => ([(name, .broken true .endInObject .endInObject)], some (.of .endInObject), [])
      | ':' :: rest =>
        let (value, rest) := readValue fuel rest
        match value.skipFault? with
        | some fault => ([(name, value)], some (.of fault), [])
        | none =>
          match skipBlanks rest with
          | [] => ([(name, value)], some (.of .endInObject), [])
          | '}' :: rest => ([(name, value)], none, rest)
          | ',' :: rest =>
            match skipBlanks rest with
            | '"' :: rest =>
              let (members, cut, rest) := readMembers fuel rest
              ((name, value) :: members, cut, rest)
            | [] => ([(name, value), (.error .endInValue, .absent)], some endBehindComma, [])
            | '}' :: _ =>
              ([(name, value), (.error .trailingComma, .absent)], some memberlessComma, [])
            | _ =>
              ([(name, value), (.error .memberNameNotString, .absent)],
                some (.of .memberNameNotString), [])
          | _ => ([(name, value)], some (.of .expectedCommaOrBrace), [])
      | _ => ([(name, .broken true .expectedColon .expectedColon)], some (.of .expectedColon), [])

end

/-- A text as a node, and the fault that what stands behind it makes, if anything but blanks
does. -/
def readText (s : String) : Node × Option Fault :=
  let cs := s.toList
  let (node, rest) := readValue (2 * cs.length + 2) cs
  (node, if (skipBlanks rest).isEmpty then none else some .trailingCharacters)

/-- The document in a text, if the text is one. -/
def parse? (s : String) : Option Json :=
  match readText s with
  | (node, none) => if (node.fault? Node.depthLimit).isNone then some node.toJson else none
  | _ => none

end AmphoraWiring.Json
