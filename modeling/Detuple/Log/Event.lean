import Detuple.Reading.Reader

/-!
# The events of a run

What a run tells about its own progress, for whoever looks into it. Each event has a level, which
says how much detail it is, and belongs to a part of the program, its target.
-/

namespace Detuple.Log

/-- How much detail an event is. -/
inductive Level where
  /-- Progress as a user sees it. -/
  | info
  /-- Progress as a developer sees it. -/
  | debug
deriving DecidableEq

/-- The name of a level in the log. -/
def Level.name : Level → String
  | .info => "INFO"
  | .debug => "DEBUG"

/-- A step of a run. -/
inductive Event where
  /-- A source text has been cut into tokens. -/
  | tokenized (tokens : Nat)
  /-- A source text turned out to be no program. -/
  | refused (error : ParseError)
  /-- The file at a path turned out to hold a program. -/
  | parsed (path : String) (statements : Nat)
  /-- Tuples of a program have been turned into constructor calls. -/
  | detupled (typeName : String) (tuples : Nat)
deriving DecidableEq

/-- A name in quotation marks. Characters that are not seen by themselves are written as their code
points. -/
def quoteName (name : String) : String :=
  let quoteChar (c : Char) : String :=
    if Unicode.isUnseen c then "\\u\x7b" ++ String.ofList (Nat.toDigits 16 c.toNat) ++ "\x7d"
    else String.singleton c
  "\"" ++ String.join (name.toList.map quoteChar) ++ "\""

namespace Event

/-- How much detail an event is. -/
def level : Event → Level
  | parsed _ _ => .info
  | tokenized _ | refused _ | detupled _ _ => .debug

/-- The part of the program that an event belongs to. -/
def target : Event → String
  | tokenized _ | refused _ => "lex_parse"
  | parsed _ _ => "tuple_rewrite"
  | detupled _ _ => "rewriter"

/-- The fields of an event, its message being one. -/
def fields : Event → List String
  | tokenized _ => ["message", "tokens"]
  | refused _ => ["message", "error", "span"]
  | parsed _ _ => ["message", "path", "statements"]
  | detupled _ _ => ["message", "type_name", "tuples"]

/-- What an event says. -/
def text : Event → String
  | tokenized tokens => "tokenized source tokens=" ++ toString tokens
  | refused error =>
    "parse failed error=" ++ error.message ++ " span=" ++ toString error.span.start ++ ".."
      ++ toString error.span.stop
  | parsed path statements => "parsed path=" ++ path ++ " statements=" ++ toString statements
  | detupled typeName tuples =>
    "rewrote tuple literals type_name=" ++ quoteName typeName ++ " tuples=" ++ toString tuples

/-- The line of the log for an event. -/
def line (e : Event) : String := e.level.name ++ " " ++ e.target ++ ": " ++ e.text

end Event

end Detuple.Log
