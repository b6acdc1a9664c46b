import AmphoraWiring.Config.Basic
import AmphoraWiring.Database.Image
import AmphoraWiring.Database.Path
import AmphoraWiring.Database.Target

/-!
Whether a database can be kept at its location. The location is checked as the engine would check
it, though the records stay in memory: a run that prints what would be done has nothing to keep.
-/
namespace AmphoraWiring

namespace DatabaseTarget

/-- The longest name of a database that a storage keeps in memory. -/
def memoryNameLimit : Nat := 1024

def isReadOnly (t : DatabaseTarget) : Bool := t.access.isReadOnly || t.immutable

def checkWriting (readOnly : Bool) : Except DatabaseError Unit :=
  if readOnly then .error (.refused .readOnly) else .ok ()

/-- Whether a file with the given content can be read, and then changed. -/
def checkContent (t : DatabaseTarget) (path : DatabasePath) (content : ByteArray) :
    Except DatabaseError Unit := do
  let image : DatabaseImage := ⟨content⟩
  image.checkReading (t.storage.allowsLog || t.immutable)
  checkWriting (t.isReadOnly || !image.isWritable)
  if !path.allowsJournal then throw (.refused .cannotOpen)
  image.checkRoom

/-- A missing file can be made in a directory, and is blank then. -/
def checkFile (files : Files) (t : DatabaseTarget) (path : DatabasePath) :
    Except DatabaseError Unit :=
  match files.read path.text with
  | .ok content =>
    if files.isDevice path.text && !t.isReadOnly then .error (.refused .cannotSync)
    else t.checkContent path content
  | .error .missing =>
    if t.access = .create && files.isDirectory (DatabasePath.text path.tail) then
      t.checkContent path .empty
    else .error (.refused .cannotOpen)
  | .error .isDirectory =>
    .error (.refused (if t.access = .readOnly then .cannotRead else .cannotOpen))
  | .error _ => .error (.refused .cannotOpen)

/-- Whether the target can be opened and changed. A database without a path is kept in memory. -/
def check (files : Files) (t : DatabaseTarget) : Except DatabaseError Unit :=
  match t.access with
  | .memory readOnly => checkWriting readOnly
  | access =>
    if t.path.isEmpty || t.path = DatabaseUrl.memoryName then checkWriting access.isReadOnly
    else if t.storage.inMemory then
      if DatabasePath.hasJournalRoom memoryNameLimit t.path.utf8ByteSize then
        checkWriting t.isReadOnly
      else .error (.refused .cannotOpen)
    else
      match DatabasePath.locate? files t.path with
      | some path => t.checkFile files path
      | none => .error (.refused .cannotOpen)

end DatabaseTarget

namespace DatabaseConfig

/-- Whether the repository can be kept where the settings say. -/
def check (files : Files) (c : DatabaseConfig) : Except DatabaseError Unit :=
  if c.url = "sqlite::memory:" then .ok ()
  else do
    let url ← DatabaseUrl.ofText c.url
    if c.maxConnections = 0 then throw .poolTimedOut
    (← DatabaseTarget.ofUrl url).check files

/-- The paths whose files decide whether the repository can be kept. -/
def paths (workingDirectory : String) (c : DatabaseConfig) : List String :=
  match DatabaseUrl.ofText c.url >>= DatabaseTarget.ofUrl with
  | .ok t => (DatabasePath.way workingDirectory t.path).map (·.text)
  | .error _ => []

end DatabaseConfig

end AmphoraWiring
