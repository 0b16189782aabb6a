import Detuple.Tree

/-!
# Spellings and their lines

The canonical spelling of a program once more, as it looks: written down directly, and taken apart
into lines.
-/

namespace Detuple

/-!
## The spelling, written down directly

The same spelling as that of the documents of programs, by recursion on the tree with the depth of
the line it starts on. No width enters into it.
-/

mutual

/-- An expression as text. -/
def Expr.plain : Expr → String
  | .ident name => name
  | .num text => text
  | .tuple elements => "(" ++ ", ".intercalate (Expr.plainList elements) ++ ")"
  | .new typeName args =>
    "new " ++ typeName ++ "(" ++ ", ".intercalate (Expr.plainList args) ++ ")"

/-- Each of some expressions as text. -/
def Expr.plainList : List Expr → List String
  | [] => []
  | e :: es => e.plain :: Expr.plainList es

end

/-- The start of a new line at some depth. -/
def lineStart (depth : Nat) : String := "\n" ++ .ofList (List.replicate depth ' ')

mutual

/-- A statement as text, on a line that starts at some depth. -/
def Stmt.plain (depth : Nat) : Stmt → String
  | .var name init => "var " ++ name ++ " = " ++ init.plain ++ ";"
  | .ret value => "return " ++ value.plain ++ ";"
  | .block statements =>
    "\x7b" ++ String.join (Stmt.plainMembers (depth + 4) statements) ++ lineStart depth ++ "\x7d"

/-- Each of the statements of a block as text with the new line before it. -/
def Stmt.plainMembers (depth : Nat) : List Stmt → List String
  | [] => []
  | s :: ss => (lineStart depth ++ s.plain depth) :: Stmt.plainMembers depth ss

end

/-- A block as text, on a line that starts at some depth. -/
abbrev Block.plain (depth : Nat) (b : Block) : String := (Stmt.block b).plain depth

/-!
## Lines

A text consists of lines with line feeds between them, and a text without a line feed is a single
line. A text is moved to the right by blanks in front of every line.

How many lines a program fills, if no string in it holds a line feed, is a matter of its statements
alone: two for the braces of each block, and one for each of the others.
-/

/-- The lines of a text, without the line feeds between them. -/
def linesOf (text : String) : List String := (text.toList.splitOn '\n').map .ofList

/-- A number of blanks. -/
def blanks (number : Nat) : String := .ofList (List.replicate number ' ')

/-- A text with blanks in front of each of its lines. -/
def indentLines (number : Nat) (text : String) : String :=
  "\n".intercalate ((linesOf text).map (blanks number ++ ·))

/-- There is no line feed in the text. -/
def OneLine (text : String) : Prop := '\n' ∉ text.toList

instance (text : String) : Decidable (OneLine text) :=
  inferInstanceAs (Decidable ('\n' ∉ text.toList))

/-- There is no line feed in any string that the block holds. -/
def Block.OneLineStrings (b : Block) : Prop := Stmt.SpelledList OneLine OneLine OneLine b

mutual

/-- The number of blocks in a statement at any depth, itself included. -/
def Stmt.blockCount : Stmt → Nat
  | .var _ _ | .ret _ => 0
  | .block statements => 1 + Stmt.blockCountList statements

/-- The number of blocks in a list of statements, at any depth. -/
def Stmt.blockCountList : List Stmt → Nat
  | [] => 0
  | s :: ss => s.blockCount + Stmt.blockCountList ss

end

mutual

/-- The number of declarations and returns in a statement at any depth, itself included. -/
def Stmt.leafCount : Stmt → Nat
  | .var _ _ | .ret _ => 1
  | .block statements => Stmt.leafCountList statements

/-- The number of declarations and returns in a list of statements, at any depth. -/
def Stmt.leafCountList : List Stmt → Nat
  | [] => 0
  | s :: ss => s.leafCount + Stmt.leafCountList ss

end

end Detuple
