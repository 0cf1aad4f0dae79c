import LaunchPolicy.Files.Basic

/-!
Trees of files. A path is followed name by name from the working directory, or from the
top where it begins with a slash; all names but the last must be of directories.
-/

namespace LaunchPolicy

/-- Names from the top or from the working directory down, where the top is the name "/" and
the directories above the working directory are named "..". -/
abbrev Place := List String

structure FileTree where
  contents : List (Place × List UInt8) := []
  /-- Directories, beside those in which files are. -/
  directories : List Place := [["/"]]
  /-- The directory that a tilde stands for. -/
  home : String := "/"
deriving DecidableEq, Repr

namespace FileTree

def content? (tree : FileTree) (place : Place) : Option (List UInt8) :=
  (tree.contents.find? (·.1 = place)).map (·.2)

def isDirectory (tree : FileTree) (place : Place) : Bool :=
  tree.directories.contains place || place.all (· = "..") ||
    tree.contents.any fun entry => place.length < entry.1.length && place.isPrefixOf entry.1

def above (place : Place) : Place :=
  if place = ["/"] then place
  else if place.all (· = "..") then place ++ [".."]
  else place.dropLast

def longestName : Nat := 255
def longestPath : Nat := 4095

/-- Follows names from a directory, and says whether the last one must be a directory too. -/
def follow (tree : FileTree) (start : Place) : List String → Except FileRefusal (Place × Bool)
  | [] => .ok (start, false)
  | name :: names =>
      if name.isEmpty ∨ name = "." then
        if names.isEmpty then
          if (tree.content? start).isSome then .error .notDirectory
          else if name = "." ∧ !tree.isDirectory start then .error .missing
          else .ok (start, true)
        else follow tree start names
      else if (tree.content? start).isSome then .error .notDirectory
      else if !tree.isDirectory start then .error .missing
      else if longestName < name.utf8ByteSize then .error .nameTooLong
      else if name = ".." then follow tree (above start) names
      else follow tree (start ++ [name]) names

/-- The parts of a path between its slashes. -/
def names (path : String) : List String := (path.toList.splitOn '/').map String.ofList

/-- The place of a path, and whether it must be a directory. A path with a null character
is none. -/
def place (tree : FileTree) (path : String) : Except FileProblem (Place × Bool) :=
  if path.toList.contains '\x00' then .error (.faulty .badValue)
  else if path.isEmpty then .error (.refused .missing)
  else if longestPath < path.utf8ByteSize then .error (.refused .nameTooLong)
  else
    let start := if path.toList.head? = some '/' then ["/"] else []
    (tree.follow start (names path)).mapError .refused

def read (tree : FileTree) (path : String) : Except FileProblem (List UInt8) := do
  let (place, _) ← tree.place path
  if tree.isDirectory place then throw (.refused .isDirectory)
  match tree.content? place with
  | some octets => return octets
  | none => throw (.refused .missing)

def files (tree : FileTree) : Files := { octets := tree.read, home := tree.home }

/-- Sets the contents of the file at a place: where it is, or last. -/
def put (contents : List (Place × List UInt8)) (place : Place) (octets : List UInt8) :
    List (Place × List UInt8) :=
  match contents with
  | [] => [(place, octets)]
  | (known, old) :: rest =>
      if known = place then (known, octets) :: rest else (known, old) :: put rest place octets

/-- Writes a text, over what the file held before. -/
def writeText (tree : FileTree) (path text : String) : Except FileProblem FileTree := do
  let (place, mustBeDirectory) ← tree.place path
  if mustBeDirectory ∨ tree.isDirectory place then throw (.refused .isDirectory)
  return { tree with contents := put tree.contents place text.toUTF8.toList }

end FileTree

end LaunchPolicy
