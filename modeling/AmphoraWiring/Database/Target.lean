import AmphoraWiring.Database.Url

/-!
What a location asks the database engine to open. A name that begins with a scheme of its own is
taken apart once more: it may carry parameters in the engine's spelling, which can narrow the
access that was asked for but not widen it.
-/
namespace AmphoraWiring

/-- What keeps the pages of a database: files or the memory of the process. A write-ahead log needs
a storage whose connections share memory. -/
structure Storage where
  inMemory : Bool := false
  allowsLog : Bool := true
deriving DecidableEq, Repr

namespace Storage

def plain : Storage := {}

def known : List (String × Storage) :=
  [("unix", plain),
   ("unix-excl", plain),
   ("unix-dotfile", { allowsLog := false }),
   ("unix-none", { allowsLog := false }),
   ("memdb", { inMemory := true })]

def ofName (name : String) : Except DatabaseError Storage :=
  match known.find? fun k => k.1 = name with
  | some k => .ok k.2
  | none => .error (.refused (.unknownStorage name))

end Storage

inductive DatabaseAccess where
  | readOnly
  | readWrite
  | create
  | memory (readOnly : Bool)
deriving DecidableEq, Repr

namespace DatabaseAccess

/-- Of two kinds of access the one of higher rank allows the other; memory allows all. -/
def rank : DatabaseAccess → Nat
  | .readOnly => 1
  | .readWrite => 2
  | .create => 3
  | .memory _ => 4

def isReadOnly : DatabaseAccess → Bool
  | .readOnly | .memory true => true
  | _ => false

def ofUrl (url : DatabaseUrl) : DatabaseAccess :=
  if url.inMemory then .memory url.readOnly
  else if url.readOnly then .readOnly
  else if url.create then .create
  else .readWrite

def modes : List (String × DatabaseAccess) :=
  [("ro", .readOnly), ("rw", .readWrite), ("rwc", .create)]

/-- The access after a mode has been asked for by its name. -/
def withMode (access : DatabaseAccess) (mode : String) : Except DatabaseError DatabaseAccess :=
  if mode = "memory" then .ok (.memory false)
  else
    match modes.find? fun m => m.1 = mode with
    | none => .error (.refused (.unknownMode "access" mode))
    | some (_, wanted) =>
      if wanted.rank ≤ access.rank then .ok wanted else .error (.refused (.forbiddenMode mode))

end DatabaseAccess

structure DatabaseTarget where
  path : String
  access : DatabaseAccess
  storage : Storage := .plain
  immutable : Bool := false
deriving DecidableEq, Repr

namespace DatabaseTarget

/-- A text up to its first zero character. -/
def beforeZero (cs : List Char) : List Char := cs.takeWhile (· ≠ '\x00')

/-- A part of a name with a scheme; a byte that is zero ends it. -/
def partText (cs : List Char) : String :=
  Text.Utf8.decodeLeniently ((Text.Percent.decode cs).takeWhile (· ≠ 0))

/-- What stands behind the host of a name with a scheme. The host can only be this machine. -/
def withoutHost : List Char → Except DatabaseError (List Char)
  | '/' :: '/' :: rest =>
    let host := String.ofList (rest.takeWhile (· ≠ '/'))
    if ["", "localhost"].contains host then .ok (rest.dropWhile (· ≠ '/'))
    else .error (.refused (.foreignHost host))
  | cs => .ok cs

def scheme : List Char := "file:".toList

/-- The path and the parameters of a name. Parameters without a name do not count. -/
def split (name : List Char) : Except DatabaseError (String × List (String × String)) :=
  if scheme.isPrefixOf name then do
    let rest ← withoutHost (name.drop scheme.length)
    let (path, parameters) := Text.cut '?' (rest.takeWhile (· ≠ '#'))
    let parameters := (Text.pieces '&' parameters).map fun cs =>
      let (name, value) := Text.cut '=' cs
      (partText name, partText value)
    return (partText path, parameters.filter fun p => !p.1.isEmpty)
  else return (String.ofList name, [])

/-- Whether a text is a number other than zero, of which the last eight bits count, or a word for
yes. -/
def isTrue (s : String) : Bool :=
  match s.toList.takeWhile Char.isDigit with
  | [] => ["on", "yes", "true"].contains (s.map Char.toLower)
  | digits =>
    let n := digits.foldl (fun n c => n * 10 + (c.toNat - '0'.toNat)) 0
    n < Nat.pow 2 31 && n % 256 ≠ 0

def withParameter (access : DatabaseAccess) (parameter : String × String) :
    Except DatabaseError DatabaseAccess :=
  match parameter with
  | ("mode", mode) => access.withMode mode
  | ("cache", mode) =>
    if ["shared", "private"].contains mode then .ok access
    else .error (.refused (.unknownMode "cache" mode))
  | _ => .ok access

/-- Of several storages the last one counts, of several wishes for immutability the first. -/
def ofParts (access : DatabaseAccess) (path : String) (parameters : List (String × String)) :
    Except DatabaseError DatabaseTarget := do
  let access ← parameters.foldlM withParameter access
  let storage ←
    match parameters.reverse.find? fun p => p.1 = "vfs" with
    | some p => Storage.ofName p.2
    | none => pure .plain
  let immutable := (parameters.find? fun p => p.1 = "immutable").any fun p => isTrue p.2
  return { path, access, storage, immutable }

/-- A wish for a storage or for immutability can only be passed on in a name with a scheme, in
which the name that was given is a path as it stands. -/
def ofUrl (url : DatabaseUrl) : Except DatabaseError DatabaseTarget := do
  let access := DatabaseAccess.ofUrl url
  let wishes :=
    (if url.immutable then [("immutable", "true")] else [])
      ++ (url.storage.map fun s => ("vfs", String.ofList (beforeZero s.toList))).toList
  if !wishes.isEmpty then ofParts access (String.ofList (beforeZero url.name.toList)) wishes
  else if url.name.toList.contains '\x00' then
    throw (.communication "filename passed to SQLite must not contain nul bytes")
  else
    let (path, parameters) ← split url.name.toList
    ofParts access path parameters

end DatabaseTarget

end AmphoraWiring
