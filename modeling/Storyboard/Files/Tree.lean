import Storyboard.Files.Path

/-!
# File trees

A file tree is a snapshot of the files below the root. Looking a path up walks along its segments
as a file system does: empty segments and `.` stay in a directory, `..` goes back to its parent,
and every segment but the last has to lead to a directory.
-/

namespace Storyboard

/-- What a path can lead to. -/
inductive Node where
  /-- A file with its content. -/
  | file (content : ByteArray)
  /-- A directory. -/
  | directory

/-- Why a path leads to nothing, or not to a file. -/
inductive PathFault where
  | notFound
  | notDirectory
  | isDirectory
  | nameTooLong
  | nulByte
  deriving DecidableEq

/-- The wording of the fault. -/
def PathFault.reason : PathFault → String
  | notFound => "No such file or directory (os error 2)"
  | notDirectory => "Not a directory (os error 20)"
  | isDirectory => "Is a directory (os error 21)"
  | nameTooLong => "File name too long (os error 36)"
  | nulByte => "file name contained an unexpected NUL byte"

/-- A snapshot of files, by the segments of their absolute paths. -/
structure FileTree where
  /-- The files with their contents. -/
  files : List (List String × ByteArray)
  /-- Directories that may have no files. -/
  directories : List (List String)

namespace FileTree

/-- The content of the file at a place. -/
def file? (tree : FileTree) (place : List String) : Option ByteArray :=
  (tree.files.find? (·.1 = place)).map (·.2)

/-- Whether a place has a file or directory at it or below it. -/
def hasBelow (tree : FileTree) (place : List String) : Bool :=
  (tree.files.map (·.1) ++ tree.directories).any fun other => place.isPrefixOf other

/-- What is at a place. The root is always there. -/
def node? (tree : FileTree) (place : List String) : Option Node :=
  match tree.file? place with
  | some content => some (.file content)
  | none => if place = [] || tree.hasBelow place then some .directory else none

/-- The longest name that a file can have, in bytes. -/
def longestName : Nat := 255

/-- Walks from a place, at which there is the given node, along segments. -/
def walk (tree : FileTree) (place : List String) :
    Node → List String → Except PathFault (List String × Node)
  | node, [] => .ok (place, node)
  | .file _, _ :: _ => .error .notDirectory
  | .directory, segment :: rest =>
    -- Only directories have entries, so the dots are looked at after the node.
    if segment = "" ∨ segment = "." then tree.walk place .directory rest
    else if segment = ".." then tree.walk place.dropLast .directory rest
    else if segment.utf8ByteSize > longestName then .error .nameTooLong
    else
      match tree.node? (place ++ [segment]) with
      | none => .error .notFound
      | some node => tree.walk (place ++ [segment]) node rest

/-- What an absolute path leads to, with the place it leads to. -/
def resolve (tree : FileTree) (path : String) : Except PathFault (List String × Node) :=
  if path.toList.contains (Char.ofNat 0) then .error .nulByte
  else tree.walk [] .directory (Path.segments path)

/-- The content of the file that a path leads to. -/
def read (tree : FileTree) (path : String) : Except PathFault ByteArray :=
  match tree.resolve path with
  | .error fault => .error fault
  | .ok (_, .file content) => .ok content
  | .ok (_, .directory) => .error .isDirectory

/-- The order in which a directory is walked: by the names along the way. -/
def before : List String → List String → Bool
  | [], _ => true
  | _ :: _, [] => false
  | a :: as, b :: bs => a < b || (a = b && before as bs)

/-- The files below a place with the segments that lead to them from there, in order. -/
def below (tree : FileTree) (place : List String) : List (List String × ByteArray) :=
  ((tree.files.filter fun file => place.isPrefixOf file.1 && place ≠ file.1).map fun file =>
    (file.1.drop place.length, file.2)).mergeSort fun a b => before a.1 b.1

end FileTree

end Storyboard
