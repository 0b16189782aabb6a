import Detuple.Reading.Reader

/-!
# Reports of errors

A report shows an error to a reader of the source text: on which line and in which column it is, and
which characters are at fault. Errors count bytes, readers count characters, and `charSpan` leads
from the one to the other. An error at the end of a text points at its last character, so that a
report always has a character to point at; only an empty text has none.
-/

namespace Detuple

/-- The characters of a source text in a range of bytes: the number of characters before them, and
before the end of them. For an empty range this is the character before it. -/
def charSpan (source : String) (span : Span) : Option (Nat × Nat) := do
  let start ← charsBefore source.toList span.start
  let stop ← charsBefore source.toList span.stop
  return if start = stop then (start - 1, start) else (start, stop)

/-- An error in a source text, as it is shown to a reader. -/
structure Report where
  /-- The path of the source. -/
  path : String
  /-- The source, of which lines are quoted. -/
  source : String
  /-- The line of the first character at fault, counted from one. -/
  line : Nat
  /-- The column of that character, counted from one. -/
  column : Nat
  /-- The characters at fault, up to the last one that can be seen. -/
  marked : String
  /-- The error in words. -/
  message : String
deriving DecidableEq

namespace Report

/-- The headline of a report on the source at a path. -/
def titleFor (path : String) : String := "Failed to parse '" ++ path ++ "'"

/-- The headline of a report. -/
def title (r : Report) : String := titleFor r.path

/-- Where the error is. -/
def location (r : Report) : String := toString r.line ++ ":" ++ toString r.column

/-- The report on an error in a source text, unless the text is empty. -/
def ofError? (path source : String) (error : ParseError) : Option Report := do
  guard (source ≠ "")
  let (start, stop) ← charSpan source error.span
  let before := source.toList.take start
  let marked := (source.toList.take stop).drop start
  return {
    path
    source
    line := before.count '\n' + 1
    column := (before.reverse.takeWhile (· ≠ '\n')).length + 1
    marked := .ofList (dropBlanksEnd marked)
    message := error.message }

/-- The report as lines of text. -/
def render (r : Report) : String :=
  "Error: " ++ r.title ++ "\n  at " ++ r.location ++ "\n  " ++ r.marked ++ "\n  " ++
    r.message ++ "\n"

end Report

end Detuple
