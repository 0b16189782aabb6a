import Detuple.Tree

/-!
# The canonical spelling of programs

Each statement stands on a line of its own, four blanks further to the right than the block around
it, and the brace that closes a block stands below the start of its first line. The spelling is that
of a document, in which the lines are not settled yet. A statement fills one line however long it
is: the documents of programs hold no soft line ends.
-/

namespace Detuple

/-!
## Documents

A document consists of pieces of text, places where a line ends in any case, and places where it
ends only if it would become too long otherwise. Soft line ends count for the innermost group around
them, which is laid out on one line if it fits there. Every line begins with as many blanks as the
parts of the document around its start are nested.

Line breaks inside a piece of text are copied as they are and open no line of the document.
-/

/-- Text whose lines are not settled yet. -/
inductive Doc where
  /-- No text. -/
  | empty
  /-- A piece of text. -/
  | text (s : String)
  /-- The end of a line. -/
  | hardLine
  /-- A blank if the group fits on the line, the end of the line if it does not. -/
  | softLine
  /-- One document after another. -/
  | append (first second : Doc)
  /-- A document in which lines start further to the right. -/
  | nest (depth : Nat) (body : Doc)
  /-- A document that is laid out on one line if it fits there. -/
  | group (body : Doc)

/-- Text that has been laid out. -/
structure Page where
  /-- All of the text. -/
  text : String
  /-- The number of characters on its last line. -/
  column : Nat

namespace Page

/-- The page with a piece of text behind what is there. -/
def write (p : Page) (s : String) : Page := ⟨p.text ++ s, p.column + s.length⟩

/-- The page with a new line that begins with blanks. -/
def newLine (p : Page) (indent : Nat) : Page := ⟨p.text ++ "\n".pushn ' ' indent, indent⟩

end Page

namespace Doc

instance : Append Doc := ⟨append⟩

/-- The number of characters of a document on one line, if it can be laid out on one. -/
def flatWidth : Doc → Option Nat
  | empty => some 0
  | text s => some s.length
  | hardLine => none
  | softLine => some 1
  | append first second => do return (← first.flatWidth) + (← second.flatWidth)
  | nest _ body | group body => body.flatWidth

/-- Whether a document fits on the last line of a page. -/
def fits (width : Nat) (doc : Doc) (p : Page) : Bool :=
  doc.flatWidth.any fun n => decide (p.column + n ≤ width)

/-- Lays out a document behind what is on a page. Lines start at `indent`, and soft line ends are
blanks if `flat` says so. -/
def layOut (width : Nat) : Doc → (flat : Bool) → (indent : Nat) → Page → Page
  | empty, _, _, p => p
  | text s, _, _, p => p.write s
  | hardLine, _, indent, p => p.newLine indent
  | softLine, flat, indent, p => if flat then p.write " " else p.newLine indent
  | append first second, flat, indent, p =>
    second.layOut width flat indent (first.layOut width flat indent p)
  | nest depth body, flat, indent, p => body.layOut width flat (indent + depth) p
  | group body, flat, indent, p => body.layOut width (flat || body.fits width p) indent p

/-- The text of a document on lines of the given width that start at `indent`, which is also where
the first of them has got to. -/
def render (doc : Doc) (width indent : Nat) : String :=
  (doc.layOut width false indent ⟨"", indent⟩).text

end Doc

/-! ## The documents of programs -/

open Doc (text hardLine)

mutual

/-- The document of an expression. -/
def Expr.doc : Expr → Doc
  | .ident name => text name
  | .num digits => text digits
  | .tuple elements => text "(" ++ Expr.docItems elements ++ text ")"
  | .new typeName args =>
    text "new " ++ text typeName ++ (text "(" ++ Expr.docItems args ++ text ")")

/-- The document of the items of a list, with commas between them. -/
def Expr.docItems : List Expr → Doc
  | [] => .empty
  | e :: es => e.doc ++ Expr.docMore es

/-- The document of further items of a list, with a comma before each. -/
def Expr.docMore : List Expr → Doc
  | [] => .empty
  | e :: es => text ", " ++ e.doc ++ Expr.docMore es

end

/-- How far the statements of a block are moved to the right. -/
def blockIndent : Nat := 4

mutual

/-- The document of a statement. -/
def Stmt.doc : Stmt → Doc
  | .var name init => text "var " ++ text name ++ text " = " ++ init.doc ++ text ";"
  | .ret value => text "return " ++ value.doc ++ text ";"
  | .block statements =>
    text "\x7b" ++ .nest blockIndent (Stmt.docMembers statements) ++ hardLine ++ text "\x7d"

/-- The document of the statements of a block, each on a new line. -/
def Stmt.docMembers : List Stmt → Doc
  | [] => .empty
  | s :: ss => hardLine ++ s.doc ++ Stmt.docMembers ss

end

/-- The document of a block. -/
abbrev Block.doc (b : Block) : Doc := (Stmt.block b).doc

/-- The width that lines are laid out for. -/
def lineWidth : Nat := 80

/-- The canonical spelling of a program, without a line end behind it. -/
def print (b : Block) : String := (Block.doc b).render lineWidth 0

end Detuple
