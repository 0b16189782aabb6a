import Detuple.Tree

/-!
# The grammar of programs

How lexemes are derived, rule by rule:

    block = "{" statement* "}"
    statement = "var" identifier "=" expr ";" | "return" expr ";" | block
    expr = "new" identifier args | identifier other than "new" | number | args
    args = "(" ")" | "(" expr ("," expr)* ")"

`Program ts b` is the type of the derivations of the lexemes `ts` in which the block `b` is built,
and so on for the other phrases: the constructors are the rules, and a derivation is the tree of the
rules that were applied. The rules say nothing of how a program is read. They are what reading is
measured against.
-/

namespace Detuple.Grammar

mutual

/-- Derivations of lexemes as an expression. -/
inductive Expression : List String → Expr → Type where
  /-- A name other than the keyword. -/
  | ident {name : String} (kind : Kind.ofText name = .identifier) (other : name ≠ "new") :
    Expression [name] (.ident name)
  /-- A number. -/
  | num {text : String} (kind : Kind.ofText text = .number) : Expression [text] (.num text)
  /-- A tuple. -/
  | tuple {ts : List String} {elements : List Expr} (args : Arguments ts elements) :
    Expression ts (.tuple elements)
  /-- A constructor call. -/
  | new {typeName : String} {ts : List String} {es : List Expr}
    (kind : Kind.ofText typeName = .identifier) (args : Arguments ts es) :
    Expression ("new" :: typeName :: ts) (.new typeName es)

/-- Derivations of lexemes as a list in brackets. -/
inductive Arguments : List String → List Expr → Type where
  /-- The empty list. -/
  | none : Arguments ["(", ")"] []
  /-- A list with items. -/
  | some {ts : List String} {es : List Expr} (items : Items ts es) :
    Arguments ("(" :: (ts ++ [")"])) es

/-- Derivations of lexemes as the items of a list. -/
inductive Items : List String → List Expr → Type where
  /-- A single item. -/
  | one {ts : List String} {e : Expr} (item : Expression ts e) : Items ts [e]
  /-- An item, a comma and further items. -/
  | more {ts us : List String} {e : Expr} {es : List Expr} (item : Expression ts e)
    (items : Items us es) : Items (ts ++ "," :: us) (e :: es)

end

mutual

/-- Derivations of lexemes as a statement. -/
inductive Statement : List String → Stmt → Type where
  /-- The declaration of a variable. -/
  | var {name : String} {ts : List String} {e : Expr} (kind : Kind.ofText name = .identifier)
    (init : Expression ts e) : Statement ("var" :: name :: "=" :: (ts ++ [";"])) (.var name e)
  /-- The return of a value. -/
  | ret {ts : List String} {e : Expr} (value : Expression ts e) :
    Statement ("return" :: (ts ++ [";"])) (.ret e)
  /-- A block. -/
  | block {ts : List String} {ss : List Stmt} (inner : Program ts ss) : Statement ts (.block ss)

/-- Derivations of lexemes as a block. -/
inductive Program : List String → Block → Type where
  /-- Statements in braces. -/
  | block {ts : List String} {ss : List Stmt} (members : Members ts ss) :
    Program (openBrace :: (ts ++ [closeBrace])) ss

/-- Derivations of lexemes as the statements of a block. -/
inductive Members : List String → List Stmt → Type where
  /-- No statement. -/
  | none : Members [] []
  /-- A statement and further statements. -/
  | more {ts us : List String} {s : Stmt} {ss : List Stmt} (member : Statement ts s)
    (members : Members us ss) : Members (ts ++ us) (s :: ss)

end

end Detuple.Grammar
