import Detuple.Command.Run
import Detuple.Log.Filter

/-!
# The command

From arguments, files and input to all that can be seen of the command: its exit code, what it
shows, its log and the files afterwards.
-/

namespace Detuple.Command

/-- A part of what is shown. -/
inductive Output where
  /-- A text. -/
  | text (s : String)
  /-- A report on a file that holds no program. -/
  | report (r : Report)
deriving DecidableEq

/-- What an action shows. -/
def Action.output? : Action → Option Output
  | .say text | .present text => some (.text text)
  | .report r => some (.report r)
  | .store _ _ | .log _ => none

/-- What an action tells about the progress of the run. -/
def Action.event? : Action → Option Log.Event
  | .log e => some e
  | .say _ | .present _ | .report _ | .store _ _ => none

/-- All that a run shows. -/
def Outcome.output (outcome : Outcome) : List Output := outcome.actions.filterMap Action.output?

/-- The lines of the log of a run that a filter shows. -/
def Outcome.log (outcome : Outcome) (f : Log.Filter) : List String :=
  ((outcome.actions.filterMap Action.event?).filter f.shows).map Log.Event.line

/-- The filter for the log: a setting comes before the options, unless it is malformed. There is
none for a setting that splits a character. -/
def filterFor (o : Options) (setting : Option String) : Option Log.Filter :=
  let usual : Log.Filter := if o.verbose then .verbose else .quiet
  match setting.map Log.Filter.ofText with
  | none | some (.error .malformed) => some usual
  | some (.error .splitCharacter) => none
  | some (.ok f) => some f

/-- The exit code of a command that has no filter for its log. -/
def noFilterCode : Nat := 101

/-- What can be seen of the command. -/
structure Transcript where
  /-- The exit code. -/
  code : Nat
  /-- What is shown. -/
  output : List Output
  /-- The lines of the log. -/
  log : List String
  /-- The files afterwards. -/
  fs : FileSystem

/-- What can be seen of the command with the given arguments and setting of the log. -/
def perform (arguments : List String) (setting : Option String) (fs : FileSystem) (input : Lines) :
    Transcript :=
  match Request.ofArguments arguments with
  | .help => ⟨0, [.text helpText], [], fs⟩
  | .version => ⟨0, [.text versionText], [], fs⟩
  | .misuse => ⟨2, [], [], fs⟩
  | .run o =>
    match filterFor o setting with
    | none => ⟨noFilterCode, [], [], fs⟩
    | some f =>
      let outcome := run o fs input
      ⟨outcome.ending.code, outcome.output, outcome.log f, outcome.fs⟩

end Detuple.Command
