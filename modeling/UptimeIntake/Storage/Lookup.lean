import UptimeIntake.Storage.FileTree

/-!
# Reading by absolute paths

The file that an absolute path leads to in a tree whose root is the top. Only a directory can be
left by a segment: an empty segment or a single dot stays there, two dots step up, and at the top
they stay.
-/

set_option autoImplicit false

namespace UptimeIntake.FileTree

/-- Follows one segment of a path from a place. Nothing need stand where it leads. -/
def follow (t : FileTree) (here : List String) (segment : List Char) :
    Except FileError (List String) :=
  match t.get? here with
  | none => .error .notFound
  | some (.file _) => .error .notDirectory
  | some .directory =>
    if isIdleSegment segment then .ok here
    else if segment = ['.', '.'] then .ok here.dropLast
    else
      let name := String.ofList segment
      if isLongName name then .error .tooLong else .ok (here ++ [name])

def resolve (t : FileTree) (path : String) : Except FileError (List String) :=
  match refuse? path with
  | some e => .error e
  | none =>
    match path.toList with
    | '/' :: rest => (pathSegments rest).foldlM t.follow []
    | _ => .error .notFound

def read (t : FileTree) (path : String) : Except FileError Bytes := do
  match t.get? (← t.resolve path) with
  | none => .error .notFound
  | some .directory => .error .isDirectory
  | some (.file bytes) => .ok bytes

end UptimeIntake.FileTree
