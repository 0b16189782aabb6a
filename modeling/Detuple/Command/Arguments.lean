/-!
# Arguments of the command

Arguments are read from left to right. What begins with a hyphen is an option, unless it is a hyphen
alone; all else is the path of a file, and so is everything behind `--`. Short options can share a
hyphen, and what follows the letter of an option with a value is that value.

Asking for help or for the version ends the reading at once, and so does an option that does not
exist or a value for an option that takes none. An option that is given twice and a value that is
missing are only found at the end, so that a later request for help comes before them.
-/

namespace Detuple.Command

/-- What the command is to do. -/
structure Options where
  /-- The paths of the files to work on. -/
  paths : List String
  /-- The type whose constructor is called. -/
  typeName : Option String
  /-- Whether programs are shown instead of written to their files. -/
  print : Bool
  /-- Whether programs are only read. -/
  dryRun : Bool
  /-- Whether the log is shown. -/
  verbose : Bool

/-- What the arguments ask for. -/
inductive Request where
  /-- To be told how the command is used. -/
  | help
  /-- To be told which version of the command this is. -/
  | version
  /-- Nothing that makes sense. -/
  | misuse
  /-- To be run. -/
  | run (options : Options)

/-- An option without a value. -/
inductive Flag where
  /-- Show programs instead of writing them. -/
  | print
  /-- Only read programs. -/
  | dryRun
  /-- Show the log. -/
  | verbose
deriving DecidableEq

/-- What an option stands for. -/
inductive Meaning where
  /-- A request for help. -/
  | help
  /-- A request for the version. -/
  | version
  /-- An option without a value. -/
  | flag (f : Flag)
  /-- The option with the name of a type. -/
  | typeName

/-- The option with a short name. -/
def Meaning.ofLetter? : Char → Option Meaning
  | 'h' => some .help
  | 'V' => some .version
  | 'p' => some (.flag .print)
  | 'd' => some (.flag .dryRun)
  | 'v' => some (.flag .verbose)
  | 't' => some .typeName
  | _ => none

/-- The option with a long name. -/
def Meaning.ofName? : String → Option Meaning
  | "help" => some .help
  | "version" => some .version
  | "print" => some (.flag .print)
  | "dry-run" => some (.flag .dryRun)
  | "verbose" => some (.flag .verbose)
  | "type-name" => some .typeName
  | _ => none

/-- What has been found among the arguments, the latest first. -/
structure Findings where
  /-- The paths. -/
  paths : List String
  /-- The options without a value. -/
  flags : List Flag
  /-- The values of the option with the name of a type, as far as they are there. -/
  typeNames : List (Option String)

/-- How far the arguments have been read. -/
inductive Scan where
  /-- The rest of the arguments does not matter. -/
  | settled (request : Request)
  /-- The next argument begins something new. -/
  | between (found : Findings)
  /-- The next argument should be the name of a type. -/
  | awaiting (found : Findings)

namespace Findings

/-- Nothing. -/
def empty : Findings := ⟨[], [], []⟩

/-- The findings and one more path. -/
def addPath (found : Findings) (path : String) : Findings :=
  { found with paths := path :: found.paths }

/-- The findings and one more flag. -/
def addFlag (found : Findings) (f : Flag) : Findings := { found with flags := f :: found.flags }

/-- The findings and one more name of a type, or the lack of one. -/
def addTypeName (found : Findings) (name : Option String) : Findings :=
  { found with typeNames := name :: found.typeNames }

/-- What the findings ask for. Nothing may be given twice, and no value may be missing. -/
def request (found : Findings) : Request :=
  let run (typeName : Option String) : Request := .run {
    paths := found.paths.reverse
    typeName
    print := found.flags.contains .print
    dryRun := found.flags.contains .dryRun
    verbose := found.flags.contains .verbose }
  match decide found.flags.Nodup, found.typeNames with
  | true, [] => run none
  | true, [some name] => run (some name)
  | _, _ => .misuse

/-- Reads the letters behind a single hyphen. -/
def readLetters (found : Findings) : List Char → Scan
  | [] => .between found
  | letter :: letters =>
    match Meaning.ofLetter? letter with
    | some .help => .settled .help
    | some .version => .settled .version
    | some (.flag f) => (found.addFlag f).readLetters letters
    | some .typeName =>
      match letters with
      | [] => .awaiting found
      | '=' :: value | value => .between (found.addTypeName (some (.ofList value)))
    | none => .settled .misuse

/-- Reads what stands behind two hyphens: a name, and a value if there is an equals sign. -/
def readName (found : Findings) (text : List Char) : Scan :=
  let name := String.ofList (text.takeWhile (· ≠ '='))
  match Meaning.ofName? name, text.dropWhile (· ≠ '=') with
  | some .help, [] => .settled .help
  | some .version, [] => .settled .version
  | some (.flag f), [] => .between (found.addFlag f)
  | some .typeName, [] => .awaiting found
  | some .typeName, _ :: value => .between (found.addTypeName (some (.ofList value)))
  | _, _ => .settled .misuse

/-- Reads an argument. -/
def readArgument (found : Findings) (argument : String) : Scan :=
  match argument.toList with
  | '-' :: '-' :: text => found.readName text
  | '-' :: letter :: letters => found.readLetters (letter :: letters)
  | _ => .between (found.addPath argument)

end Findings

/-- Whether an argument is an option, and not the value of the one before it. -/
def isOption (argument : String) : Bool :=
  match argument.toList with
  | '-' :: _ :: _ => true
  | _ => false

/-- Reads the arguments that are left. -/
def Scan.finish : Scan → List String → Request
  | .settled request, _ => request
  | .between found, [] => found.request
  | .awaiting found, [] => (found.addTypeName none).request
  | .between found, argument :: rest =>
    if argument = "--" then (rest.foldl Findings.addPath found).request
    else (found.readArgument argument).finish rest
  | .awaiting found, argument :: rest =>
    if argument = "--" then (rest.foldl Findings.addPath (found.addTypeName none)).request
    else if isOption argument then ((found.addTypeName none).readArgument argument).finish rest
    else (Scan.between (found.addTypeName (some argument))).finish rest

/-- What a list of arguments asks for. -/
def Request.ofArguments (arguments : List String) : Request :=
  (Scan.between .empty).finish arguments

/-! ## What the command says about itself -/

/-- The name and the version of the command. -/
def versionText : String := "tuple_rewrite 0.1.0\n"

/-- How the command is used. -/
def helpText : String :=
  versionText ++
  "Rewrites every tuple literal in a file into a constructor call of the given type\n" ++
  "\n" ++
  "USAGE:\n" ++
  "    tuple-rewrite [OPTIONS] [PATHS]...\n" ++
  "\n" ++
  "ARGS:\n" ++
  "    <PATHS>...    paths of the files to rewrite (asked for when omitted)\n" ++
  "\n" ++
  "OPTIONS:\n" ++
  "    -d, --dry-run                  Only parse the file and check for bad syntax constructs\n" ++
  "    -h, --help                     Print help information\n" ++
  "    -p, --print                    " ++
  "print the rewritten code instead of overwriting the file\n" ++
  "    -t, --type-name <TYPE_NAME>    " ++
  "type name used for the constructor calls (asked for when omitted)\n" ++
  "    -v, --verbose                  show debug logging\n" ++
  "    -V, --version                  Print version information\n"

end Detuple.Command
