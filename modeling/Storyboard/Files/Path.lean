/-!
# Paths

A path is a text of segments between slashes. A path that starts with a slash is absolute. Paths
are joined as texts and kept as they were given: nothing is shortened.
-/

namespace Storyboard.Path

/-- Whether a path starts at the root. -/
def isAbsolute (path : String) : Bool := path.toList.head? = some '/'

/-- A path below another one; an absolute path stays what it is. -/
def join (base path : String) : String :=
  if isAbsolute path then path
  else if base.isEmpty || base.toList.getLast? = some '/' then base ++ path
  else base ++ "/" ++ path

/-- The texts between the slashes. -/
def segments (path : String) : List String :=
  (path.toList.splitOn '/').map String.ofList

/-- The extension of a file name: what follows its last dot, unless that dot is its start. -/
def extension? (name : String) : Option String :=
  let backwards := name.toList.reverse
  match backwards.dropWhile (· ≠ '.') with
  | _ :: _ :: _ => some (String.ofList (backwards.takeWhile (· ≠ '.')).reverse)
  | _ => none

/-- Segments as one relative path. -/
def ofSegments (segments : List String) : String := String.intercalate "/" segments

end Storyboard.Path
