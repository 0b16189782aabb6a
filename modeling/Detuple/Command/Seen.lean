import Detuple.Command.Turns

/-!
# What is seen of a run, and what is asked

A run says things, reports on files and yields programs, which it shows or stores. This can be told
apart from how the run gets there: first what comes to be seen, then which questions come up and
what their answers are used for.
-/

namespace Detuple

/-!
## What is seen

`seenFrom` reads off what the run does, in order, what is seen of it, and puts to each program the
path of the file that it comes from: a program that is stored goes to that path, and one that is
shown comes from the file that was found to hold a program last. The log is not looked at otherwise.
-/

namespace Command

/-- Something that a run says or yields. -/
inductive Seen where
  /-- A question, or a complaint about an answer or a file. -/
  | said (text : String)
  /-- A report on a file that holds no program. -/
  | reported (r : Report)
  /-- The program from the file at a path, detupled. -/
  | program (path text : String)
deriving DecidableEq

/-- What is seen of some actions, where the file at `latest` was the last to hold a program. -/
def seenFrom (latest : String) : List Action → List Seen
  | [] => []
  | .say text :: rest => .said text :: seenFrom latest rest
  | .report r :: rest => .reported r :: seenFrom latest rest
  | .present text :: rest => .program latest text :: seenFrom latest rest
  | .store path text :: rest => .program path text :: seenFrom latest rest
  | .log (.parsed path _) :: rest => seenFrom path rest
  | .log (.tokenized _) :: rest | .log (.refused _) :: rest | .log (.detupled _ _) :: rest =>
    seenFrom latest rest

/-- The files after the programs that are seen have been written to their paths, one after another,
if that can be done. -/
def storeSeen (fs : FileSystem) : List Seen → Option FileSystem
  | [] => some fs
  | .program path text :: rest => (fs.writeText path text).bind (storeSeen · rest)
  | .said _ :: rest | .reported _ :: rest => storeSeen fs rest

/-- What is seen of a run. -/
def Outcome.seen (outcome : Outcome) : List Seen := seenFrom "" outcome.actions

end Command

/-!
## What is asked, and what for

What is said while a question is asked follows from the lines that hold no answer that will do
(`complaints`), and the lines of an input are told by where its line feeds are (`CutInLines`). Over
a whole run only one question depends on the files, the one for the name of the type. `Quiet` says
that it does not come up among some actions, and that a name of the type is used by them only if it
is the known one; `Asks` says that it comes up, when it does, and that the answer is what is used
from then on.
-/

/-- A text is that of the program in the file at a path, detupled to a type, as a file holds it. -/
def FileSystem.Yields (fs : FileSystem) (path typeName text : String) : Prop :=
  ∃ source b, fs.readText path = some source ∧ parse source = .ok b ∧ text = fileText typeName b

namespace Command

/-- What is said when a question has been asked for each of some lines and none holds an answer that
will do. -/
def complaints (question : String) (refused : List String) : List String :=
  refused.flatMap fun line => [question, complaint (trimBlanks line)]

/-- Some bytes are cut into lines: put together the lines are the bytes, a line feed ends each line
but for the last, which may be without, and there is no other line feed. -/
structure CutInLines (bytes : List UInt8) (lines : List (List UInt8)) : Prop where
  flatten : lines.flatten = bytes
  line : ∀ line ∈ lines, line ≠ [] ∧ 10 ∉ line.dropLast
  ended : ∀ line ∈ lines.dropLast, line.getLast? = some 10

/-- The question for the name of the type. -/
def typeQuestion : Action := .say "Type name: "

/-- An action uses no name of a type but the known one: a program that is shown or stored is the
program that was in a file at first, detupled to the type of that name. -/
def Action.Uses (fs : FileSystem) (paths : List String) (known : Option String) : Action → Prop
  | .log (.detupled name _) => name ∈ known
  | .present text => ∃ path ∈ paths, ∃ name ∈ known, fs.Yields path name text
  | .store path text => path ∈ paths ∧ ∃ name ∈ known, fs.Yields path name text
  | .say _ | .report _ | .log (.tokenized _) | .log (.refused _) | .log (.parsed _ _) => True

/-- Among some actions there is no question for the name of the type, and they use the known name
only. -/
def Quiet (fs : FileSystem) (paths : List String) (known : Option String) (actions : List Action) :
    Prop :=
  ∀ action ∈ actions, action ≠ typeQuestion ∧ action.Uses fs paths known

/-- No program is found by some actions. -/
def FindsNone (actions : List Action) : Prop :=
  ∀ path statements, .log (.parsed path statements) ∉ actions

/-- Every program that is found by some actions is detupled next, to the type of a name. -/
def DetuplesTo (name : String) (actions : List Action) : Prop :=
  ∀ earlier path statements later, actions = earlier ++ .log (.parsed path statements) :: later →
    ∃ tuples rest, later = .log (.detupled name tuples) :: rest

/-- The question for the name of the type comes up among some actions, once: as soon as a program
has been found. No name is used before, and the answer is used after it, for this program and all
that are found later; without an answer nothing more is done. -/
structure Asks (fs : FileSystem) (paths : List String) (asked : Answer)
    (before after actions : List Action) : Prop where
  split : ∃ path ∈ paths, fs.HoldsProgram path ∧ ∃ statements,
    actions = before ++ .log (.parsed path statements) :: (asked.said.map .say ++ after)
  early : Quiet fs paths none before
  first : FindsNone before
  late : Quiet fs paths asked.answer after
  used : ∀ name ∈ asked.answer,
    (∃ tuples rest, after = .log (.detupled name tuples) :: rest) ∧ DetuplesTo name after
  last : asked.answer = none → after = []

/-- The answer to the question for the name of the type, if it comes up. -/
def Options.askedName (o : Options) (input : Lines) : Answer :=
  ask "Type name: " isIdentifier (o.askedPath input).unread

end Command

end Detuple
