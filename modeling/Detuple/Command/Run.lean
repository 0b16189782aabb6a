import Detuple.Command.Arguments
import Detuple.Files
import Detuple.Log.Event
import Detuple.Report

/-!
# Running the command

The files are taken one after another: read, detupled, and shown or written back. A file that holds
no program is reported and left alone, and the run goes on; a file that cannot be read or written
ends the run. The name of the type is asked for when the first program needs it, if it was not
given, and stays the same from then on.

A run is described by all that it does, in order, and by what is left behind: how it ended, the
files, and the input that nobody has read.
-/

namespace Detuple.Command

/-!
## Asking for an answer

A question is asked until a line of input holds an answer that will do. Blanks around an answer do
not count. Where the input ends, and also at a line that is no text, there is no answer. Every
question takes a line, so asking ends with the lines.
-/

/-- The lines of an input with their ends, as far as they are texts. -/
abbrev Lines := List (Option String)

/-- Cuts bytes behind every line feed. -/
def cutLines : List UInt8 → List (List UInt8)
  | [] => []
  | byte :: bytes =>
    match byte == 10, cutLines bytes with
    | false, line :: lines => (byte :: line) :: lines
    | _, lines => [byte] :: lines

/-- The lines of an input. -/
def Lines.ofBytes (bytes : ByteArray) : Lines :=
  (cutLines bytes.data.toList).map fun line => String.fromUTF8? ⟨line.toArray⟩

/-- How asking for an answer ends. -/
structure Answer where
  /-- The answer, if there is one. -/
  answer : Option String
  /-- What has been said: questions, and what was wrong with answers that will not do. -/
  said : List String
  /-- The lines that have not been read. -/
  unread : Lines

/-- What is said about an answer that will not do. -/
def complaint (answer : String) : String := "'" ++ answer ++ "' is not valid here\n"

/-- Asks a question until an answer will do. -/
def ask (question : String) (willDo : String → Bool) : Lines → Answer
  | [] => ⟨none, [question, "\n"], []⟩
  | none :: lines => ⟨none, [question, "\n"], lines⟩
  | some line :: lines =>
    let answer := trimBlanks line
    if willDo answer then ⟨some answer, [question], lines⟩
    else
      let later := ask question willDo lines
      { later with said := question :: complaint answer :: later.said }

/-! ## The run -/

/-- How a run ends. -/
inductive Ending where
  /-- All files have been read, and some may have held no program. -/
  | finished (refused : Bool)
  /-- The given name of a type is none. -/
  | badTypeName
  /-- A question was left without an answer. -/
  | unanswered
  /-- A file could not be read. -/
  | unreadable
  /-- A file could not be written. -/
  | unwritable
deriving DecidableEq

/-- The exit code that tells how a run ended. -/
def Ending.code : Ending → Nat
  | .finished false => 0
  | .finished true | .unanswered | .unreadable | .unwritable => 1
  | .badTypeName => 2

/-- Something that a run does. -/
inductive Action where
  /-- Ask a question, or complain about an answer or a file. -/
  | say (text : String)
  /-- Report on a file that holds no program. -/
  | report (r : Report)
  /-- Show a detupled program. -/
  | present (program : String)
  /-- Write a detupled program to the file at a path. -/
  | store (path program : String)
  /-- Tell about the progress of the run. -/
  | log (e : Log.Event)
deriving DecidableEq

/-- What a run does, and what it leaves behind. -/
structure Outcome where
  /-- How the run ends. -/
  ending : Ending
  /-- All that the run does, in order. -/
  actions : List Action
  /-- The files afterwards. -/
  fs : FileSystem
  /-- The lines of input that have not been read. -/
  unread : Lines

/-- The outcome of a run that does something before all else. -/
def Outcome.after (later : Outcome) (actions : List Action) : Outcome :=
  { later with actions := actions ++ later.actions }

/-- What is done about a source text that spells no program. -/
def refuse (path source : String) (error : ParseError) : Action :=
  match Report.ofError? path source error with
  | some r => .report r
  | none => .say (Report.titleFor path ++ ": " ++ error.message ++ "\n")

/-- The name of the type: the one that is known, or else the answer to a question. -/
def needTypeName (known : Option String) (input : Lines) : Answer :=
  match known with
  | some name => ⟨some name, [], input⟩
  | none => ask "Type name: " isIdentifier input

/-- Takes the files at some paths one after another. Some file before them may have been refused,
and the name of the type may be known. -/
def runPaths (o : Options) (refused : Bool) (known : Option String) :
    List String → FileSystem → Lines → Outcome
  | [], fs, input => ⟨.finished refused, [], fs, input⟩
  | path :: paths, fs, input =>
    match fs.readText path with
    | none => ⟨.unreadable, [.say ("Failed to read file '" ++ path ++ "'\n")], fs, input⟩
    | some source =>
      let tokenized := Action.log (.tokenized (lex source).length)
      match parse source with
      | .error e =>
        (runPaths o true known paths fs input).after
          [tokenized, .log (.refused e), refuse path source e]
      | .ok program =>
        let parsed := Action.log (.parsed path program.length)
        if o.dryRun then (runPaths o refused known paths fs input).after [tokenized, parsed]
        else
          let asked := needTypeName known input
          let beginning := tokenized :: parsed :: asked.said.map .say
          match asked.answer with
          | none => ⟨.unanswered, beginning, fs, asked.unread⟩
          | some name =>
            let detupled := Action.log (.detupled name program.tupleCount)
            let text := print (Block.detuple name program) ++ "\n"
            if o.print then
              (runPaths o refused (some name) paths fs asked.unread).after
                (beginning ++ [detupled, .present text])
            else match fs.writeText path text with
              | some fs =>
                (runPaths o refused (some name) paths fs asked.unread).after
                  (beginning ++ [detupled, .store path text])
              | none =>
                let failure := Action.say ("Failed to write file '" ++ path ++ "'\n")
                ⟨.unwritable, beginning ++ [detupled, failure], fs, asked.unread⟩

/-- Runs the command. A given name of a type is looked at before anything else, and without a path
there is a question for one. -/
def run (o : Options) (fs : FileSystem) (input : Lines) : Outcome :=
  match o.typeName.filter fun name => !isIdentifier name with
  | some name =>
    ⟨.badTypeName, [.say ("'" ++ name ++ "' is not a valid type name\n")], fs, input⟩
  | none =>
    if o.paths = [] then
      let asked := ask "File name: " (· ≠ "") input
      match asked.answer with
      | none => ⟨.unanswered, asked.said.map .say, fs, asked.unread⟩
      | some path =>
        (runPaths o false o.typeName [path] fs asked.unread).after (asked.said.map .say)
    else runPaths o false o.typeName o.paths fs input

end Detuple.Command
