import Detuple.Detupling

/-!
# Files

A file system gives a number to every path that leads to a file; two paths with the same number lead
to the same file. Reading and writing go through the path. Writing replaces the whole content, and a
path that cannot be written leaves all files as they were.
-/

namespace Detuple

/-- A file. -/
structure File where
  /-- What the file holds. -/
  content : ByteArray
  /-- Whether the content may be replaced. -/
  writable : Bool

/-- Files and the paths that lead to them. -/
structure FileSystem where
  /-- The number of the file that a path leads to, if it leads to one. -/
  locate : String → Option Nat
  /-- The files, by number. -/
  files : List File

namespace FileSystem

/-- The text in the file at a path, if there is a file and it holds text. -/
def readText (fs : FileSystem) (path : String) : Option String := do
  let number ← fs.locate path
  let file ← fs.files[number]?
  String.fromUTF8? file.content

/-- The files after a text has been written to the file at a path, if that can be done. -/
def writeText (fs : FileSystem) (path text : String) : Option FileSystem := do
  let number ← fs.locate path
  let file ← fs.files[number]?
  guard file.writable
  return { fs with files := fs.files.set number { file with content := text.toUTF8 } }

end FileSystem

/-!
## Detupled files

A file whose program is detupled holds the detupled program and a line feed. `Detupled` says how
files may stand to what they were while this is going on: every file is as it was, or its program
has been detupled, once, to the one type whose name is known. As long as no name is known, all files
are as they were.
-/

/-- The text of a file whose program has been detupled. -/
def fileText (typeName : String) (b : Block) : String := print (Block.detuple typeName b) ++ "\n"

namespace File

/-- The program that a file holds, if it holds text and the text spells a program. -/
def program? (file : File) : Option Block := do
  let source ← String.fromUTF8? file.content
  (parse source).toOption

/-- The file with a text as its content. -/
def withText (file : File) (text : String) : File := { file with content := text.toUTF8 }

/-- How a file may stand to what it was before, if the type to which files are detupled may be
known. -/
inductive Detupled (known : Option String) (before : File) : File → Prop where
  /-- The file is as it was. -/
  | same : Detupled known before before
  /-- The program in the file has been detupled. -/
  | replaced {typeName : String} {b : Block} (hname : typeName ∈ known)
      (hidentifier : isIdentifier typeName = true) (hprogram : before.program? = some b) :
      Detupled known before (before.withText (fileText typeName b))

end File

namespace FileSystem

/-- How files may stand to what they were before. -/
structure Detupled (known : Option String) (before after : FileSystem) : Prop where
  locate : after.locate = before.locate
  length : after.files.length = before.files.length
  file : ∀ (number : Nat) (file : File), before.files[number]? = some file →
    ∃ file', after.files[number]? = some file' ∧ file.Detupled known file'

/-- Wherever one of the paths leads to a program, its file can be written. -/
def ProgramsWritable (fs : FileSystem) (paths : List String) : Prop :=
  ∀ path ∈ paths, ∀ source b, fs.readText path = some source → parse source = .ok b →
    ∀ text, fs.writeText path text ≠ none

end FileSystem

end Detuple
