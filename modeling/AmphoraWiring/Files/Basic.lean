import AmphoraWiring.Text.Pieces

/-!
What a run sees of the files around it.
-/
namespace AmphoraWiring

/-- Why a file gave no text. -/
inductive ReadFailure where
  | missing
  | denied
  | notDirectory
  | isDirectory
  | nameTooLong
  | notText
deriving DecidableEq, Repr

def ReadFailure.message : ReadFailure → String
  | .missing => "No such file or directory (os error 2)"
  | .denied => "Permission denied (os error 13)"
  | .notDirectory => "Not a directory (os error 20)"
  | .isDirectory => "Is a directory (os error 21)"
  | .nameTooLong => "File name too long (os error 36)"
  | .notText => "stream did not contain valid UTF-8"

/-- What reading the file at a path gives. Relative paths begin at the working directory. A device
can be read like a file, but keeps nothing. -/
structure Files where
  workingDirectory : String
  read : String → Except ReadFailure ByteArray
  isDevice : String → Bool

namespace Files

/-- How many bytes the name of a file may have. -/
def nameLimit : Nat := 255

/-- The names along a path. A doubled or trailing slash makes an empty name, which stays where it
is, as a dot does. -/
def names (path : String) : List String := (Text.pieces '/' path.toList).map String.ofList

def absolute (workingDirectory path : String) : String :=
  if path.startsWith "/" then path else workingDirectory ++ "/" ++ path

def readText (files : Files) (path : String) : Except ReadFailure String :=
  match files.read path with
  | .error cause => .error cause
  | .ok bytes =>
    match String.fromUTF8? bytes with
    | some content => .ok content
    | none => .error .notText

def isDirectory (files : Files) (path : String) : Bool :=
  match files.read path with
  | .error .isDirectory => true
  | _ => false

/-- Whether there is something at a path, or could be. -/
def isReachable (files : Files) (path : String) : Bool :=
  match files.read path with
  | .error .notDirectory | .error .nameTooLong => false
  | _ => true

end Files

end AmphoraWiring
