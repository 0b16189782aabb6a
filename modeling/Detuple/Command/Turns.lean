import Detuple.Command.Run

/-!
# Running, file by file

What the command does, told as rules: what a file does to a run that goes on (`Turn`), which files
end a run (`Stop`), and how a run is made of turns (`Turns`, `Runs`). A run stands somewhere before
each file: it has or has not refused a file, it may know the name of the type, and it has files and
input. Only one rule writes, and no rule forgets a name.
-/

namespace Detuple

namespace Command

/-- Where a run stands between two files. -/
structure Standing where
  /-- Whether some file has held no program. -/
  refused : Bool
  /-- The name of the type, once it is known. -/
  known : Option String
  /-- The files as they are now. -/
  fs : FileSystem
  /-- The lines of input that have not been read. -/
  unread : Lines

/-- What a run does about a program until the name of the type is known. -/
def opening (path source : String) (b : Block) (said : List String) : List Action :=
  .log (.tokenized (lex source).length) :: .log (.parsed path b.length) :: said.map .say

section

variable (o : Options) (path : String) (s : Standing)

/-- What the file at a path does to a run that goes on. -/
inductive Turn : List Action → Standing → Prop where
  /-- The file holds no program. -/
  | refused {source : String} {e : ParseError} (hread : s.fs.readText path = some source)
      (hparse : parse source = .error e) :
      Turn [.log (.tokenized (lex source).length), .log (.refused e), refuse path source e]
        { s with refused := true }
  /-- The program in the file is only read. -/
  | checked {source : String} {b : Block} (hread : s.fs.readText path = some source)
      (hparse : parse source = .ok b) (hdry : o.dryRun = true) :
      Turn (opening path source b []) s
  /-- The program in the file is shown. -/
  | shown {source name : String} {b : Block} {said : List String} {unread : Lines}
      (hread : s.fs.readText path = some source) (hparse : parse source = .ok b)
      (hdry : o.dryRun = false) (hname : needTypeName s.known s.unread = ⟨some name, said, unread⟩)
      (hprint : o.print = true) :
      Turn (opening path source b said ++
          [.log (.detupled name b.tupleCount), .present (fileText name b)])
        ⟨s.refused, some name, s.fs, unread⟩
  /-- The program in the file is replaced. -/
  | stored {source name : String} {b : Block} {said : List String} {unread : Lines}
      {fs : FileSystem} (hread : s.fs.readText path = some source) (hparse : parse source = .ok b)
      (hdry : o.dryRun = false) (hname : needTypeName s.known s.unread = ⟨some name, said, unread⟩)
      (hprint : o.print = false) (hwrite : s.fs.writeText path (fileText name b) = some fs) :
      Turn (opening path source b said ++
          [.log (.detupled name b.tupleCount), .store path (fileText name b)])
        ⟨s.refused, some name, fs, unread⟩

/-- How the file at a path ends a run, and what input is left. -/
inductive Stop : List Action → Ending → Lines → Prop where
  /-- The file is not there, or it holds no text. -/
  | unreadable (hread : s.fs.readText path = none) :
      Stop [.say ("Failed to read file '" ++ path ++ "'\n")] .unreadable s.unread
  /-- The name of the type is needed, and there is no answer. -/
  | unanswered {source : String} {b : Block} {said : List String} {unread : Lines}
      (hread : s.fs.readText path = some source) (hparse : parse source = .ok b)
      (hdry : o.dryRun = false) (hname : needTypeName s.known s.unread = ⟨none, said, unread⟩) :
      Stop (opening path source b said) .unanswered unread
  /-- The file cannot be written. -/
  | unwritable {source name : String} {b : Block} {said : List String} {unread : Lines}
      (hread : s.fs.readText path = some source) (hparse : parse source = .ok b)
      (hdry : o.dryRun = false) (hname : needTypeName s.known s.unread = ⟨some name, said, unread⟩)
      (hprint : o.print = false) (hwrite : s.fs.writeText path (fileText name b) = none) :
      Stop (opening path source b said ++ [.log (.detupled name b.tupleCount),
          .say ("Failed to write file '" ++ path ++ "'\n")]) .unwritable unread

end

/-- Some files that let a run go on, one after another. -/
inductive Turns (o : Options) : List String → Standing → List Action → Standing → Prop where
  /-- There are no files. -/
  | none (s : Standing) : Turns o [] s [] s
  /-- There is a file, and there are some more. -/
  | next {path : String} {paths : List String} {s middle last : Standing}
      {actions later : List Action} (h : Turn o path s actions middle)
      (hrest : Turns o paths middle later last) :
      Turns o (path :: paths) s (actions ++ later) last

/-- The outcome of taking the files at some paths, from where a run stands. -/
inductive Runs (o : Options) : List String → Standing → Outcome → Prop where
  /-- There are no more files. -/
  | finished (s : Standing) : Runs o [] s ⟨.finished s.refused, [], s.fs, s.unread⟩
  /-- The next file ends the run. -/
  | stopped {path : String} {s : Standing} {actions : List Action} {ending : Ending}
      {unread : Lines} (paths : List String) (h : Stop o path s actions ending unread) :
      Runs o (path :: paths) s ⟨ending, actions, s.fs, unread⟩
  /-- The run goes on after the next file. -/
  | turned {path : String} {paths : List String} {s next : Standing} {actions : List Action}
      {outcome : Outcome} (h : Turn o path s actions next) (hrest : Runs o paths next outcome) :
      Runs o (path :: paths) s (outcome.after actions)

/-- The answer to the question for a path, which is asked if no path is given. -/
def Options.askedPath (o : Options) (input : Lines) : Answer :=
  if o.paths = [] then ask "File name: " (· ≠ "") input else ⟨none, [], input⟩

/-- The paths of the files that a run takes: the given ones, or the one that was asked for. -/
def Options.targets (o : Options) (input : Lines) : List String :=
  o.paths ++ (o.askedPath input).answer.toList

/-- The outcome of the command, with all that comes before the files. -/
inductive Completes (o : Options) (fs : FileSystem) (input : Lines) : Outcome → Prop where
  /-- The given name of a type is none. -/
  | badTypeName {name : String} (hgiven : name ∈ o.typeName) (hbad : isIdentifier name = false) :
      Completes o fs input
        ⟨.badTypeName, [.say ("'" ++ name ++ "' is not a valid type name\n")], fs, input⟩
  /-- There is no path. -/
  | unanswered (hgiven : ∀ name ∈ o.typeName, isIdentifier name = true)
      (htargets : o.targets input = []) :
      Completes o fs input ⟨.unanswered, (o.askedPath input).said.map .say, fs,
        (o.askedPath input).unread⟩
  /-- The files are taken. -/
  | taken {outcome : Outcome} (hgiven : ∀ name ∈ o.typeName, isIdentifier name = true)
      (htargets : o.targets input ≠ [])
      (h : Runs o (o.targets input) ⟨false, o.typeName, fs, (o.askedPath input).unread⟩ outcome) :
      Completes o fs input (outcome.after ((o.askedPath input).said.map .say))

/-- The options for files to be detupled in place. -/
def Options.inPlace (paths : List String) (typeName : String) (verbose : Bool) : Options where
  paths
  typeName := some typeName
  print := false
  dryRun := false
  verbose

end Command

/-!
## Runs that succeed

What a run needs in order to come to a good end, said of the files and of the input as they are
before it: every question that is asked finds an answer, and every path leads to a program, whose
file can be written if programs are stored. A path at which reading or writing must fail ends the
run instead. A path that leads to another text does neither.
-/

namespace FileSystem

/-- A path leads to a program. -/
def HoldsProgram (fs : FileSystem) (path : String) : Prop :=
  ∃ source b, fs.readText path = some source ∧ parse source = .ok b

/-- The file at a path can be written. -/
def CanWrite (fs : FileSystem) (path : String) : Prop := ∀ text, fs.writeText path text ≠ none

end FileSystem

namespace Command

/-- Some line holds an answer that will do, and all the lines before it are texts. -/
def Lines.Answers (input : Lines) (willDo : String → Bool) : Prop :=
  ∃ (refused : List String) (line : String) (unread : Lines),
    input = refused.map some ++ some line :: unread ∧ willDo (trimBlanks line) = true

namespace Options

/-- Programs are stored, and not only read or shown. -/
def Stores (o : Options) : Prop := o.dryRun = false ∧ o.print = false

/-- The file at a path does not stand in the way of a good end. -/
def Accepts (o : Options) (fs : FileSystem) (path : String) : Prop :=
  fs.HoldsProgram path ∧ (o.Stores → fs.CanWrite path)

/-- The file at a path cannot be read, or its program is to be stored and cannot be written. -/
def FailsAt (o : Options) (fs : FileSystem) (path : String) : Prop :=
  fs.readText path = none ∨ (fs.HoldsProgram path ∧ o.Stores ∧ ¬fs.CanWrite path)

/-- There are answers to the question for a path, if no path is given, and to the question for the
name of the type, if none is given and programs are not only read. -/
structure Answered (o : Options) (input : Lines) : Prop where
  path : o.paths = [] → input.Answers (· ≠ "")
  typeName : o.dryRun = false → o.typeName = none →
    (o.askedPath input).unread.Answers isIdentifier

end Options

end Command

end Detuple
