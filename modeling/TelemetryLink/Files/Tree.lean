import TelemetryLink.Files
import TelemetryLink.Files.Path

/-!
# File trees

A file system as a value: what is at each place. A place is the list of names that lead there
from the root. There are no links, so that a path leads to at most one place, and everybody may
read and write everything.
-/

namespace TelemetryLink.Files

/-- What is at a place. -/
inductive Node where
  | directory
  | file (content : Bytes)
  deriving DecidableEq, Repr

/-- The names that lead to a place from the root. -/
abbrev Place := List String

/-- A file system without links. -/
structure Tree where
  /-- What is at each place but the root. -/
  nodes : List (Place × Node) := []
  /-- Where paths start that do not start at the root. -/
  workingDirectory : Place := []
  deriving Repr

namespace Tree

/-- The longest name, in octets. -/
def maxName : Nat := 255

/-- The longest path, in octets. -/
def maxPath : Nat := 4095

/-- What is at a place. -/
def get? (tree : Tree) (place : Place) : Option Node :=
  if place = [] then some .directory else tree.nodes.lookup place

/-- The tree with something else at a place. -/
def put (tree : Tree) (place : Place) (node : Node) : Tree :=
  if tree.nodes.any (·.1 == place) then
    { tree with nodes := tree.nodes.map fun entry =>
        if entry.1 = place then (place, node) else entry }
  else { tree with nodes := tree.nodes ++ [(place, node)] }

/-- What is at a name in a directory. -/
def entry (tree : Tree) (directory : Place) (name : String) : Except Failure (Option Node) :=
  if maxName < name.utf8ByteSize then .error .nameTooLong
  else .ok (tree.get? (directory ++ [name]))

/-- Goes from a directory through directories. -/
def enter (tree : Tree) : Place → List String → Except Failure Place
  | place, [] => .ok place
  | place, ".." :: names => enter tree place.dropLast names
  | place, name :: names => do
    match ← tree.entry place name with
    | none => throw .notFound
    | some (.file _) => throw .notDirectory
    | some .directory => enter tree (place ++ [name]) names

/-- What a path leads to: a directory that is there, or a name in one. -/
inductive Target where
  /-- A directory. -/
  | directory
  /-- A name in a directory, and what is there. -/
  | entry (place : Place) (node : Option Node)

/-- Follows a path up to its last name: the directory that it is looked up in, and the name. Where
the path ends in a directory before it, there is none. -/
def approach (tree : Tree) (path : String) : Except Failure (Option (Place × String)) := do
  if path.isEmpty then throw .notFound
  if path.toList.contains (Char.ofNat 0) then throw .nulInPath
  if maxPath < path.utf8ByteSize then throw .nameTooLong
  let start := if Path.isAbsolute path then [] else tree.workingDirectory
  let names := Path.names path
  match names.getLast? with
  | some name =>
    if name = ".." ∨ Path.endsInDot path then
      let _ ← tree.enter start names
      return none
    else
      return some (← tree.enter start names.dropLast, name)
  | none => return none

/-- Follows a path, whose last name need not be there. -/
def follow (tree : Tree) (path : String) : Except Failure Target := do
  match ← tree.approach path with
  | none => return .directory
  | some (directory, name) => return .entry (directory ++ [name]) (← tree.entry directory name)

/-- What is at a path. -/
def find (tree : Tree) (path : String) : Except Failure Node := do
  match ← tree.follow path with
  | .directory => return .directory
  | .entry _ none => throw .notFound
  | .entry _ (some .directory) => return .directory
  | .entry _ (some (.file content)) =>
    -- A slash at the end asks for a directory, which a file is not.
    if Path.asksDirectory path then throw .notDirectory
    return .file content

/-- The content of a file. -/
def read (tree : Tree) (path : String) : Except Failure Bytes := do
  match ← tree.find path with
  | .directory => throw .isDirectory
  | .file content => return content

/-- Makes one directory. -/
def createDirectory (tree : Tree) (path : String) : Except Failure Tree := do
  match ← tree.follow path with
  | .directory => throw .alreadyExists
  | .entry _ (some _) => throw .alreadyExists
  | .entry place none => return tree.put place .directory

/-- Whether there is a directory at a path. -/
def isDirectory (tree : Tree) (path : String) : Bool :=
  match tree.find path with
  | .ok .directory => true
  | _ => false

/-- Makes a directory, and those around it if they are missing, up to `n` of them. What was made
before a failure stays. -/
def createDirectories : Nat → String → Tree → Except Failure Unit × Tree
  | 0, _, tree => (.error .notFound, tree)
  | n + 1, path, tree =>
    let make (tree : Tree) : Except Failure Unit × Tree :=
      match tree.createDirectory path with
      | .ok tree => (.ok (), tree)
      | .error failure =>
        -- Whoever made it, the directory is there.
        if tree.isDirectory path then (.ok (), tree) else (.error failure, tree)
    if path.isEmpty then (.ok (), tree)
    else match tree.createDirectory path with
      | .error .notFound =>
        match Path.parent? path with
        | none => (.error .notFound, tree)
        | some parent =>
          match createDirectories n parent tree with
          | (.ok (), tree) => make tree
          | (.error failure, tree) => (.error failure, tree)
      | _ => make tree

/-- Replaces the content of a file, or makes the file. A slash at the end asks for a directory,
whatever the last name is. -/
def write (tree : Tree) (path : String) (content : Bytes) : Except Failure Tree := do
  match ← tree.approach path with
  | none => throw .isDirectory
  | some (directory, name) =>
    if Path.asksDirectory path then throw .isDirectory
    match ← tree.entry directory name with
    | some .directory => throw .isDirectory
    | _ => return tree.put (directory ++ [name]) (.file content)

instance : Files Tree Id where
  present path tree := (match tree.find path with
    | .ok _ => true
    | .error _ => false, tree)
  read path tree := (tree.read path, tree)
  createDirectories path tree := createDirectories (path.length + 1) path tree
  write path content tree := match tree.write path content with
    | .ok tree => (.ok (), tree)
    | .error failure => (.error failure, tree)

end Tree

end TelemetryLink.Files
