import TelemetryLink.Text.Utf8

/-!
# Paths

Paths are texts: names with slashes between them. Empty names and the name `.` stand for the
directory that they are in, and `..` for the one around it. `parent?` works on the text alone,
without looking at any directory.
-/

namespace TelemetryLink.Files.Path

/-- The parts of a text between its slashes, of which there is at least one. -/
def pieces : List Char → List (List Char)
  | [] => [[]]
  | c :: cs =>
    if c = '/' then [] :: pieces cs
    else match pieces cs with
      | piece :: rest => (c :: piece) :: rest
      | [] => [[c]]

/-- The parts with slashes between them. -/
def join (pieces : List (List Char)) : List Char := ['/'].intercalate pieces

/-- Whether a part says no more than the slashes around it. -/
def isIdle (piece : List Char) : Bool := piece == [] || piece == ['.']

/-- The parts without idle ones at the end. -/
def dropIdleEnd (pieces : List (List Char)) : List (List Char) :=
  (pieces.reverse.dropWhile isIdle).reverse

/-- Whether a path starts at the root. -/
def isAbsolute (path : String) : Bool := path.toList.head? == some '/'

/-- The start of a path that cannot be left out, and the rest: the slash of an absolute path,
or the dot of a path that starts with the part `.`. -/
def splitHead : List Char → List Char × List Char
  | '/' :: rest => (['/'], rest)
  | ['.'] => (['.'], [])
  | '.' :: '/' :: rest => (['.'], '/' :: rest)
  | path => ([], path)

/-- The path without its last name. A path of one name has the empty parent, and the root and
the empty path have none. -/
def parent? (path : String) : Option String :=
  let (head, body) := splitHead path.toList
  match dropIdleEnd (pieces body) with
  | [] => if head = ['.'] then some "" else none
  | names => some (String.ofList (head ++ join (dropIdleEnd names.dropLast)))

/-- A path below a directory. -/
def child (directory name : String) : String :=
  if directory.isEmpty then name
  else if directory.toList.getLast? = some '/' then directory ++ name
  else directory ++ "/" ++ name

/-- The parts of a path that lead somewhere. -/
def names (path : String) : List String :=
  ((pieces path.toList).filter (!isIdle ·)).map String.ofList

/-- Whether a path asks for a directory: it ends with a slash. -/
def asksDirectory (path : String) : Bool := path.toList.getLast? == some '/'

/-- Whether the last part that is not empty is `.`, so that the path names the directory before
it. -/
def endsInDot (path : String) : Bool :=
  (((pieces path.toList).filter (· != [])).getLast?) == some ['.']

end TelemetryLink.Files.Path
