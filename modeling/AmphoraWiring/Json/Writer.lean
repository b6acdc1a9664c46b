import AmphoraWiring.Json.Basic

/-!
Two layouts of a document: compact, without blanks, and indented by two blanks a level, where
empty arrays and objects stay closed up.
-/
namespace AmphoraWiring.Json

def hexDigit (n : Nat) : Char :=
  if n < 10 then Char.ofNat ('0'.toNat + n) else Char.ofNat ('a'.toNat + (n - 10))

/-- The spelling of a character inside a string. -/
def escapeChar (c : Char) : List Char :=
  if c = '"' then ['\\', '"']
  else if c = '\\' then ['\\', '\\']
  else if c = '\n' then ['\\', 'n']
  else if c = '\r' then ['\\', 'r']
  else if c = '\t' then ['\\', 't']
  else if c = '\x08' then ['\\', 'b']
  else if c = '\x0c' then ['\\', 'f']
  else if c.toNat < 0x20 then
    ['\\', 'u', '0', '0', hexDigit (c.toNat / 16), hexDigit (c.toNat % 16)]
  else [c]

def writeString (s : String) : List Char := '"' :: (s.toList.flatMap escapeChar ++ ['"'])

/-- A document without structure. -/
def writeScalar : Json → List Char
  | .null => "null".toList
  | .bool b => (if b then "true" else "false").toList
  | .natural n => (toString n).toList
  | .negative n => '-' :: (toString n).toList
  | .real x => x.shortestText.toList
  | .string s => writeString s
  | .array _ => []
  | .object _ => []

mutual

def writeCompact : Json → List Char
  | .array items => '[' :: (compactItems items ++ [']'])
  | .object members => '{' :: (compactMembers members ++ ['}'])
  | scalar => writeScalar scalar

def compactItems : List Json → List Char
  | [] => []
  | [item] => writeCompact item
  | item :: items => writeCompact item ++ ',' :: compactItems items

def compactMembers : List (String × Json) → List Char
  | [] => []
  | [(name, value)] => writeString name ++ ':' :: writeCompact value
  | (name, value) :: members =>
    writeString name ++ ':' :: (writeCompact value ++ ',' :: compactMembers members)

end

def newLine (level : Nat) : List Char := '\n' :: List.replicate (2 * level) ' '

mutual

def writeIndented (level : Nat) : Json → List Char
  | .array [] => "[]".toList
  | .object [] => ['{', '}']
  | .array items => '[' :: (indentedItems (level + 1) items ++ newLine level ++ [']'])
  | .object members => '{' :: (indentedMembers (level + 1) members ++ newLine level ++ ['}'])
  | scalar => writeScalar scalar

def indentedItems (level : Nat) : List Json → List Char
  | [] => []
  | [item] => newLine level ++ writeIndented level item
  | item :: items => newLine level ++ writeIndented level item ++ ',' :: indentedItems level items

def indentedMembers (level : Nat) : List (String × Json) → List Char
  | [] => []
  | [(name, value)] => newLine level ++ writeString name ++ ": ".toList ++ writeIndented level value
  | (name, value) :: members =>
    newLine level ++ writeString name ++ ": ".toList ++ writeIndented level value ++
      ',' :: indentedMembers level members

end

def compactText (j : Json) : String := String.ofList j.writeCompact

def indentedText (j : Json) : String := String.ofList (j.writeIndented 0)

end AmphoraWiring.Json
