import Detuple.Files

/-!
# Files in a tree of directories

Files and directories below a working directory, each by the names on the way to it. A path is
followed name by name. Every name must be looked up in a directory that is there, also where a later
`..` leaves it again; an empty name and `.` stay in the directory, and thus a slash behind a file
leads nowhere. What lies outside of the working directory is not part of the tree.
-/

namespace Detuple

/-- Files and directories below a working directory. -/
structure DirectoryTree where
  /-- The ways to the files, by the numbers of the files. -/
  files : List (List String)
  /-- The ways to directories, whether they hold files or not. -/
  directories : List (List String)

namespace DirectoryTree

/-- Splits a path at its slashes. -/
def namesOf (path : String) : List String := path.splitOn "/"

/-- The way that a path describes, for paths that go straight down. -/
def wayOf (path : String) : List String := (namesOf path).filter fun name => name ≠ "" ∧ name ≠ "."

/-- Whether a directory is there. All directories on the way to something are. -/
def hasDirectory (t : DirectoryTree) (way : List String) : Bool :=
  way.isEmpty || t.directories.any way.isPrefixOf
    || t.files.any fun file => way.isPrefixOf file && way ≠ file

/-- Where names lead to from a place. -/
def follow (t : DirectoryTree) (way : List String) : List String → Option (List String)
  | [] => some way
  | name :: names =>
    if t.hasDirectory way then
      if name = "" ∨ name = "." then t.follow way names
      else if name = ".." then
        if way = [] then none else t.follow way.dropLast names
      else t.follow (way ++ [name]) names
    else none

/-- The number of bytes that a path may have. -/
def longestPath : Nat := 4095

/-- The number of the file that a path leads to. -/
def locate (t : DirectoryTree) (path : String) : Option Nat :=
  if path.isEmpty || path.startsWith "/" || path.utf8ByteSize > longestPath then none
  else (t.follow [] (namesOf path)).bind (t.files.idxOf? ·)

/-- The file system with the given files in the tree. -/
def toFileSystem (t : DirectoryTree) (files : List File) : FileSystem := ⟨t.locate, files⟩

end DirectoryTree

end Detuple
