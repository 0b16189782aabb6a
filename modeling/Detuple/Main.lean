import Detuple.Command

/-!
# The program

Carries out what the library decides: gathers the files that the arguments and the answers name,
shows what there is to show, asks for a line of input whenever a question is still open, and writes
the files that have changed.

All questions of a run come before its first change of a file. So a run that lacks an answer can be
begun again from the start once there is one more line, and what it has shown before is skipped.
-/

namespace Detuple.Command

/-- The files at some paths, and where they are, by number. -/
def gatherFiles (paths : List String) : IO (FileSystem × Array String) := do
  let mut numbers : List (String × Nat) := []
  let mut places : Array String := #[]
  let mut files : Array File := #[]
  for path in paths do
    try
      let content ← IO.FS.readBinFile path
      let place := (← IO.FS.realPath path).toString
      match places.idxOf? place with
      | some number => numbers := (path, number) :: numbers
      | none =>
        let writable ← try
            let _ ← IO.FS.Handle.mk path .append
            pure true
          catch _ => pure false
        numbers := (path, files.size) :: numbers
        places := places.push place
        files := files.push ⟨content, writable⟩
    catch _ => pure ()
  return (⟨fun path => List.lookup path numbers, files.toList⟩, places)

/-- Writes the files that differ from what they were. -/
def storeFiles (places : Array String) (before after : FileSystem) : IO Unit := do
  for (place, old, new) in places.toList.zip (before.files.zip after.files) do
    if old.content.toList ≠ new.content.toList then IO.FS.writeBinFile place new.content

/-- What is shown, as one text. -/
def shownText (output : List Output) : String :=
  String.join <| output.map fun
    | .text s => s
    | .report r => r.render

/-- Prints a text at once. -/
def display (text : String) : IO Unit := do
  let stream ← IO.getStdout
  stream.putStr text
  stream.flush

/-- Reads the rest of a line; at the end of the input there is none. -/
partial def readLine (line : ByteArray) : IO ByteArray := do
  let byte ← (← IO.getStdin).read 1
  let line := line ++ byte
  if byte.isEmpty || byte[0]? == some 10 then return line else readLine line

/-- Runs the command with the lines of input so far, of which `shown` characters of output are
known, and goes on for as long as a question is open and a line answers it. -/
partial def converse (o : Options) (f : Log.Filter) (input : ByteArray) (shown : Nat) :
    IO UInt32 := do
  let lines := Lines.ofBytes input
  let (fs, places) ← gatherFiles (o.paths ++ lines.filterMap (·.map trimBlanks))
  let outcome := run o fs lines
  let text := shownText outcome.output
  if outcome.ending = .unanswered then
    display (String.ofList ((text.toList.drop shown).dropLast))
    let line ← readLine ByteArray.empty
    if !line.isEmpty && (String.fromUTF8? line).isSome then
      return ← converse o f (input ++ line) (text.length - 1)
    display "\n"
  else display (String.ofList (text.toList.drop shown))
  for line in outcome.log f do IO.eprintln line
  storeFiles places fs outcome.fs
  return outcome.ending.code.toUInt32

/-- Does what the arguments ask for and answers with the exit code. -/
def start (arguments : List String) : IO UInt32 := do
  let setting ← IO.getEnv "RUST_LOG"
  match Request.ofArguments arguments with
  | .run o =>
    match filterFor o setting with
    | some f => converse o f ByteArray.empty 0
    | none => return noFilterCode.toUInt32
  | .misuse =>
    IO.eprintln "USAGE:\n    tuple-rewrite [OPTIONS] [PATHS]..."
    return 2
  | .help | .version =>
    let told := perform arguments setting ⟨fun _ => none, []⟩ []
    display (shownText told.output)
    return told.code.toUInt32

end Detuple.Command

/-- The program. -/
def main (arguments : List String) : IO UInt32 := Detuple.Command.start arguments
