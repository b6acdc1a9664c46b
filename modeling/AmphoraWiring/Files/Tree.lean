import AmphoraWiring.Files.Basic

/-!
A tree of files, and what reading at a path in it gives. A path is followed name by name, so that
it fails at the first name that leads nowhere, even if a later one would lead back.
-/
namespace AmphoraWiring

inductive FileTree where
  | file (content : ByteArray)
  | device
  | directory (entries : List (String × FileTree))

namespace FileTree

def empty : FileTree := .directory []

/-- From how many bytes on a path is refused unread. -/
def pathLimit : Nat := 4096

def child? (entries : List (String × FileTree)) (name : String) : Option FileTree :=
  (entries.find? fun e => e.1 = name).map (·.2)

/-- Follows names, each of which has to stand in a directory; `above` are the directories on the
way, the nearest first. There is nothing above the root. -/
def follow (above : List FileTree) (here : FileTree) : List String → Except ReadFailure FileTree
  | [] => .ok here
  | name :: rest =>
    match here with
    | .directory entries =>
      if name = "" ∨ name = "." then follow above here rest
      else if name = ".." then
        match above with
        | [] => follow [] here rest
        | parent :: above => follow above parent rest
      else if Files.nameLimit < name.utf8ByteSize then .error .nameTooLong
      else
        match child? entries name with
        | some next => follow (here :: above) next rest
        | none => .error .missing
    | _ => .error .notDirectory

def find (root : FileTree) (workingDirectory path : String) : Except ReadFailure FileTree :=
  if path.isEmpty then .error .missing
  else if pathLimit ≤ path.utf8ByteSize then .error .nameTooLong
  else follow [] root (Files.names (Files.absolute workingDirectory path))

def read : FileTree → Except ReadFailure ByteArray
  | .file content => .ok content
  | .device => .ok .empty
  | .directory _ => .error .isDirectory

def files (root : FileTree) (workingDirectory : String) : Files where
  workingDirectory
  read path := do (← root.find workingDirectory path).read
  isDevice path :=
    match root.find workingDirectory path with
    | .ok .device => true
    | _ => false

/-- Puts a node where the names lead to, and the directories on the way. -/
def put (node : FileTree) : List String → FileTree → FileTree
  | [], _ => node
  | name :: rest, .directory entries =>
    let next := (child? entries name).getD empty
    .directory ((entries.filter fun e => e.1 ≠ name) ++ [(name, put node rest next)])
  | name :: rest, _ => .directory [(name, put node rest empty)]

end FileTree

end AmphoraWiring
