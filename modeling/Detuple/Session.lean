import Detuple.Detupling

/-!
# Editing sessions

A session holds a program that is being edited and a copy that has been put aside. An edit that
reads source text can fail; the session is then left as it was.
-/

namespace Detuple

/-- A program that is being edited. -/
structure Session where
  /-- The program as it is now. -/
  current : Block
  /-- The copy put aside. -/
  saved : Block

/-- A change to a session. -/
inductive Edit where
  /-- Start over with the program that a source text spells. -/
  | load (source : String)
  /-- Add the program that a source text spells as a nested block. -/
  | append (source : String)
  /-- Add a statement. -/
  | push (s : Stmt)
  /-- Drop the last statement, if there is one. -/
  | pop
  /-- Make the program the only statement of a new one. -/
  | wrap
  /-- Turn the tuples into calls of the constructor of a type. -/
  | detuple (typeName : String)
  /-- Spell the program and read it again. -/
  | reparse
  /-- Spell the program, put a separator between any two tokens and read it again. -/
  | respace (separator : String)
  /-- Put a copy of the program aside. -/
  | save
  /-- Go back to the copy put aside. -/
  | restore

namespace Session

/-- A session that holds empty programs. -/
def empty : Session := ⟨[], []⟩

/-- The program after an edit. -/
def edited (s : Session) : Edit → Except ParseError Block
  | .load source => parse source
  | .append source => (parse source).map fun b => s.current ++ [.block b]
  | .push stmt => .ok (s.current ++ [stmt])
  | .pop => .ok s.current.dropLast
  | .wrap => .ok [.block s.current]
  | .detuple typeName => .ok (Block.detuple typeName s.current)
  | .reparse => parse (print s.current)
  | .respace separator => parse (Detuple.respace separator (print s.current))
  | .save => .ok s.current
  | .restore => .ok s.saved

/-- The session after an edit. -/
def apply (s : Session) (edit : Edit) : Except ParseError Session :=
  (s.edited edit).map fun b => ⟨b, if edit matches .save then s.current else s.saved⟩

end Session

end Detuple
