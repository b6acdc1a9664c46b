import AmphoraWiring.Files.Basic

/-!
Paths of database files. The engine puts the names of a path together by itself, so that the path
may lead through what does not exist as long as a later name leads back. Each path that is met on
the way has to be reachable.
-/
namespace AmphoraWiring

/-- The names of an absolute path without detours, the last one first. -/
abbrev DatabasePath := List String

namespace DatabasePath

def text (path : DatabasePath) : String := "/" ++ "/".intercalate path.reverse

/-- How many bytes the text of a path has. -/
def size (path : DatabasePath) : Nat :=
  path.foldl (fun size name => size + name.utf8ByteSize + 1) 0

def follow (path : DatabasePath) (name : String) : DatabasePath :=
  if name = "" ∨ name = "." then path
  else if name = ".." then path.tail
  else name :: path

/-- All paths that are met along names, in their order; the last one is where the names lead. -/
def along (path : DatabasePath) : List String → List DatabasePath
  | [] => [path]
  | name :: rest => path :: along (path.follow name) rest

def way (workingDirectory path : String) : List DatabasePath :=
  along [] (Files.names (Files.absolute workingDirectory path))

/-- The longest text of a path. -/
def sizeLimit : Nat := 512

/-- The ending of the journal that stands beside a file while it changes. -/
def journalEnding : String := "-journal"

/-- Whether a text of the given size leaves room for the ending of the journal. -/
def hasJournalRoom (limit size : Nat) : Bool := size + journalEnding.utf8ByteSize ≤ limit

/-- Whether the journal beside the file can be named. -/
def allowsJournal (path : DatabasePath) : Bool :=
  hasJournalRoom Files.nameLimit ((path.head?.getD "").utf8ByteSize)

/-- The path that a text leads to, if the way there can be followed. The root cannot be meant. -/
def locate? (files : Files) (path : String) : Option DatabasePath :=
  let way := way files.workingDirectory path
  if way.all fun path => path.size < sizeLimit && files.isReachable path.text then
    way.getLast?.filter fun path => !path.isEmpty && hasJournalRoom sizeLimit path.size
  else none

end DatabasePath

end AmphoraWiring
