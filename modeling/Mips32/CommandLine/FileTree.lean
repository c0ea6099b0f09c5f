/-
# Trees of files

A file system in which files stand in directories and paths are walked name by
name. A directory is any place above a file or above the working directory, and
every directory may be written to. Links, permissions and devices are not
modelled.
-/
import Mips32.CommandLine.World

namespace Mips32.CommandLine

/-- A place in a tree: the names on the way to it from the root. -/
abbrev TreePlace := List String

/-- Files by their places, and the place where relative paths start. -/
structure FileTree where
  working : TreePlace
  files : List (TreePlace × ByteArray)

namespace FileTree

/-- Whether a place is a directory. -/
def isDirectory (tree : FileTree) (place : TreePlace) : Bool :=
  place.isPrefixOf tree.working ||
    tree.files.any fun (file, _) => place.isPrefixOf file && place.length < file.length

/-- Whether a place is a file. -/
def isFile (tree : FileTree) (place : TreePlace) : Bool :=
  (tree.files.lookup place).isSome

/-- The greatest number of bytes of a name. -/
def longestName : Nat := 255

/-- The greatest number of bytes of a path. -/
def longestPath : Nat := 4095

/-- Goes on from a place by one name of a path. -/
def enter (tree : FileTree) (place : TreePlace) (name : String) :
    Except FileError TreePlace :=
  if tree.isFile place then .error .notDirectory
  else if !tree.isDirectory place then .error .notFound
  else if name = "." then .ok place
  else if name = ".." then .ok place.dropLast
  else if longestName < name.utf8ByteSize then .error .nameTooLong
  else .ok (place ++ [name])

/-- The names of a path. Slashes in a row count as one. -/
def pathNames (path : String) : List String :=
  ((Text.cut '/' path.toList).filter fun name => !name.isEmpty).map String.ofList

/-- Whether a path ends in a slash, and so is meant for a directory. -/
def isForDirectory (path : String) : Bool :=
  path.toList.getLast? = some '/'

/-- The names that are looked up for a path. A file is never written through a
path that is meant for a directory, so the last name of one is not looked up, and
the walk ends in the directory it would stand in. -/
def lookedUpNames (access : Access) (path : String) : List String :=
  match access with
  | .reading => pathNames path
  | .writing =>
    if isForDirectory path then (pathNames path).dropLast ++ ["."] else pathNames path

/-- The place a path leads to, which need not exist if the directory it would
stand in does. -/
def walk (tree : FileTree) (access : Access) (path : String) : Except FileError TreePlace :=
  if path.isEmpty then .error .notFound
  else if longestPath < path.utf8ByteSize then .error .nameTooLong
  else
    let start := if path.toList.head? = some '/' then [] else tree.working
    (lookedUpNames access path).foldlM tree.enter start

/-- The file a path leads to. A path that is meant for a directory leads to none. -/
def locate (tree : FileTree) (access : Access) (path : String) :
    Except FileError String := do
  let place ← tree.walk access path
  if tree.isDirectory place then throw .isDirectory
  else if isForDirectory path then
    throw (if tree.isFile place then .notDirectory else .notFound)
  else return String.intercalate "/" place

/-- The file system of a tree. -/
def disk (tree : FileTree) : Disk where
  locate := tree.locate
  contents file :=
    (tree.files.find? fun (place, _) => String.intercalate "/" place = file).map (·.2)

end FileTree

end Mips32.CommandLine
