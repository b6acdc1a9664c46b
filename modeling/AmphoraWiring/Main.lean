import AmphoraWiring.CommandLine.Outcome

/-!
The program: reads the files that its arguments name, and prints what comes of them.
-/
namespace AmphoraWiring.CommandLine

def Invocation.snapshotPath? (i : Invocation) : Option String :=
  match i.command with
  | .plan path => some path
  | .simulate path => some path
  | .config => none

/-- The number of an error, which may be given as its negative. -/
def errorNumber (code : UInt32) : Nat := min code.toNat (Nat.pow 2 32 - code.toNat)

def readFailureOf : IO.Error → ReadFailure
  | .permissionDenied .. => .denied
  | .inappropriateType _ code _ => if errorNumber code = 20 then .notDirectory else .isDirectory
  | .invalidArgument _ code _ => if errorNumber code = 36 then .nameTooLong else .missing
  | _ => .missing

def readInput (path : String) : IO (Except ReadFailure ByteArray) := do
  try return .ok (← IO.FS.readBinFile path)
  catch e => return .error (readFailureOf e)

/-- Reads the files that a run may need. -/
def readInputs (workingDirectory : String) (paths : List String) : IO Files := do
  let contents ← paths.mapM fun path => do return (path, ← readInput path)
  return {
    workingDirectory
    read := fun path =>
      match contents.find? fun c => c.1 = path with
      | some c => c.2
      | none => .error .missing
    isDevice := fun path => path.startsWith "/dev/" }

def inputsOf (words : List String) : IO Files := do
  let workingDirectory := toString (← IO.currentDir)
  let read := readInputs workingDirectory
  match Invocation.ofWords words with
  | .error _ => read []
  | .ok i =>
    let named := i.configPath.toList ++ i.snapshotPath?.toList
    match settings (← read named) i with
    | .error _ => read named
    | .ok config => read (named ++ config.database.paths workingDirectory)

end AmphoraWiring.CommandLine

def main (words : List String) : IO UInt32 := do
  let outcome := AmphoraWiring.CommandLine.Outcome.ofWords
    (← AmphoraWiring.CommandLine.inputsOf words) words
  IO.print outcome.output
  IO.eprint (AmphoraWiring.CommandLine.Outcome.failureText outcome.failure)
  return outcome.exitCode.toUInt32
