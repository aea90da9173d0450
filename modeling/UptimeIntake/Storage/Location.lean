import UptimeIntake.Text.Split

/-!
# Locations below a root

How a path names a place below the root of a file store. Segments are separated by slashes;
empty segments and single dots are dropped. A path that is empty, starts at the top or at a dot,
or steps up names none, so that every location lies strictly below the root.

The text of a path is kept beside the names in it: a system limits the text, with all that is
dropped from it.
-/

set_option autoImplicit false

namespace UptimeIntake

/-- A directory at or below the root of a file store. -/
structure Directory where
  names : List String
  /-- The path as it is written; empty for the root. -/
  text : String
  deriving DecidableEq, Repr

/-- The path that leads on from `root`. A path from the top leaves `root` behind. -/
def joinPath (root path : String) : String :=
  if path.toList.head? = some '/' then path
  else if root.toList.getLast?.all (· = '/') then root ++ path
  else root ++ "/" ++ path

/-- The path of a place below a root as the system gets it; an empty text is the root itself. -/
def pathBelow (root text : String) : String :=
  if text = "" then root else joinPath root text

/-- A place below the root of a file store. -/
structure Location where
  folder : Directory
  name : String
  text : String
  /-- The path insists on a directory: it ends in a slash or in a single dot. -/
  asDirectory : Bool
  deriving DecidableEq, Repr

/-- The segments of a path between its slashes. -/
def pathSegments (path : List Char) : List (List Char) :=
  Text.split '/' path

/-- The segment stands for the place before it. -/
def isIdleSegment (segment : List Char) : Bool :=
  segment = [] || segment = ['.']

/-- The segments up to the last that is a name. -/
def trimSegments (segments : List (List Char)) : List (List Char) :=
  (segments.reverse.dropWhile isIdleSegment).reverse

namespace Directory

def ofSegments (segments : List (List Char)) : Directory :=
  ⟨(segments.filter fun segment => !isIdleSegment segment).map String.ofList,
    String.ofList (['/'].intercalate segments)⟩

def join (d : Directory) (name : String) : String :=
  if d.text = "" then name else d.text ++ "/" ++ name

end Directory

namespace Location

/-- The path leaves the root, or may do so. -/
def escapes (path : List Char) : Bool :=
  let segments := pathSegments path
  segments.head?.all isIdleSegment || segments.contains ['.', '.']

def parse? (path : String) : Option Location :=
  let cs := path.toList
  if escapes cs then none
  else
    let segments := pathSegments cs
    let way := trimSegments segments
    way.getLast?.map fun name => {
      folder := .ofSegments (trimSegments way.dropLast)
      name := String.ofList name
      text := path
      asDirectory := segments.getLast?.any isIdleSegment }

def full (l : Location) : List String :=
  l.folder.names ++ [l.name]

/-- The place in the same directory used while an object is being written. -/
def temporary (l : Location) (sequence : Nat) : Location :=
  let name := l.name ++ "." ++ toString sequence ++ ".tmp"
  ⟨l.folder, name, l.folder.join name, false⟩

end Location

end UptimeIntake
