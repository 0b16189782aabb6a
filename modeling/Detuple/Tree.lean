import Detuple.Token

/-!
# Programs

A program is a block of statements. A statement declares a variable, returns a value or is a block
itself; an expression is a name, a number, a tuple or a call of a constructor. Numbers keep the text
they were written with, so `01` and `1` are different expressions.

Trees may be built from any strings. Which of them can be written down as a program is a question of
its own, see `Block.WellFormed`.

Functions on expressions come in pairs, one for an expression and one for a list of them, and so do
functions on statements.
-/

namespace Detuple

/-- An expression. -/
inductive Expr where
  /-- The value of a variable. -/
  | ident (name : String)
  /-- A number, as written. -/
  | num (text : String)
  /-- A tuple of any number of elements. -/
  | tuple (elements : List Expr)
  /-- A call of the constructor of a type. -/
  | new (typeName : String) (args : List Expr)

/-- A statement. -/
inductive Stmt where
  /-- The declaration of a variable with its first value. -/
  | var (name : String) (init : Expr)
  /-- The return of a value. -/
  | ret (value : Expr)
  /-- A block in a block. -/
  | block (statements : List Stmt)

/-- A block: its statements in order. A program is a block. -/
abbrev Block := List Stmt

/-! ## Equality -/

mutual

/-- Decides whether two expressions are the same. -/
def Expr.decEq : (a b : Expr) → Decidable (a = b)
  | .ident x, .ident y => decidable_of_iff (x = y) (by simp)
  | .num x, .num y => decidable_of_iff (x = y) (by simp)
  | .tuple xs, .tuple ys =>
    have := Expr.decEqList xs ys
    decidable_of_iff (xs = ys) (by simp)
  | .new s xs, .new t ys =>
    have := Expr.decEqList xs ys
    decidable_of_iff (s = t ∧ xs = ys) (by simp)
  | .ident _, .num _ | .ident _, .tuple _ | .ident _, .new _ _ | .num _, .ident _
  | .num _, .tuple _ | .num _, .new _ _ | .tuple _, .ident _ | .tuple _, .num _
  | .tuple _, .new _ _ | .new _ _, .ident _ | .new _ _, .num _ | .new _ _, .tuple _ =>
    .isFalse (by simp)

/-- Decides whether two lists of expressions are the same. -/
def Expr.decEqList : (as bs : List Expr) → Decidable (as = bs)
  | [], [] => .isTrue rfl
  | [], _ :: _ | _ :: _, [] => .isFalse (by simp)
  | a :: as, b :: bs =>
    have := Expr.decEq a b
    have := Expr.decEqList as bs
    decidable_of_iff (a = b ∧ as = bs) (by simp)

end

instance : DecidableEq Expr := Expr.decEq

mutual

/-- Decides whether two statements are the same. -/
def Stmt.decEq : (a b : Stmt) → Decidable (a = b)
  | .var m x, .var n y => decidable_of_iff (m = n ∧ x = y) (by simp)
  | .ret x, .ret y => decidable_of_iff (x = y) (by simp)
  | .block xs, .block ys =>
    have := Stmt.decEqList xs ys
    decidable_of_iff (xs = ys) (by simp)
  | .var _ _, .ret _ | .var _ _, .block _ | .ret _, .var _ _ | .ret _, .block _
  | .block _, .var _ _ | .block _, .ret _ => .isFalse (by simp)

/-- Decides whether two lists of statements are the same. -/
def Stmt.decEqList : (as bs : List Stmt) → Decidable (as = bs)
  | [], [] => .isTrue rfl
  | [], _ :: _ | _ :: _, [] => .isFalse (by simp)
  | a :: as, b :: bs =>
    have := Stmt.decEq a b
    have := Stmt.decEqList as bs
    decidable_of_iff (a = b ∧ as = bs) (by simp)

end

instance : DecidableEq Stmt := Stmt.decEq

/-! ## Counting tuples -/

mutual

/-- The number of tuples in an expression, at any depth. -/
def Expr.tupleCount : Expr → Nat
  | .ident _ | .num _ => 0
  | .tuple elements => 1 + Expr.tupleCountList elements
  | .new _ args => Expr.tupleCountList args

/-- The number of tuples in a list of expressions, at any depth. -/
def Expr.tupleCountList : List Expr → Nat
  | [] => 0
  | e :: es => e.tupleCount + Expr.tupleCountList es

end

mutual

/-- The number of tuples in a statement, at any depth. -/
def Stmt.tupleCount : Stmt → Nat
  | .var _ init => init.tupleCount
  | .ret value => value.tupleCount
  | .block statements => Stmt.tupleCountList statements

/-- The number of tuples in a list of statements, at any depth. -/
def Stmt.tupleCountList : List Stmt → Nat
  | [] => 0
  | s :: ss => s.tupleCount + Stmt.tupleCountList ss

end

/-- The number of tuples in a block, at any depth. -/
abbrev Block.tupleCount (b : Block) : Nat := Stmt.tupleCountList b

/-!
## Lexemes

The sequence of lexemes that spells a tree, before any spacing is chosen. A statement does not own
the semicolon behind it: the block that holds the statement writes it, except behind a block.
-/

/-- The lexeme that opens a block. -/
abbrev openBrace : String := "\x7b"

/-- The lexeme that closes a block. -/
abbrev closeBrace : String := "\x7d"

mutual

/-- The lexemes that spell an expression. -/
def Expr.lexemes : Expr → List String
  | .ident name => [name]
  | .num text => [text]
  | .tuple elements => "(" :: (Expr.lexemesItems elements ++ [")"])
  | .new typeName args => "new" :: typeName :: "(" :: (Expr.lexemesItems args ++ [")"])

/-- The lexemes that spell the items of a list, with commas between them. -/
def Expr.lexemesItems : List Expr → List String
  | [] => []
  | e :: es => e.lexemes ++ Expr.lexemesMore es

/-- The lexemes that spell further items of a list, with a comma before each. -/
def Expr.lexemesMore : List Expr → List String
  | [] => []
  | e :: es => "," :: (e.lexemes ++ Expr.lexemesMore es)

end

/-- The lexemes that spell a list of arguments with its brackets. -/
def Expr.lexemesArgs (args : List Expr) : List String := "(" :: (Expr.lexemesItems args ++ [")"])

/-- The semicolon behind a statement; blocks have none. -/
def Stmt.ending : Stmt → List String
  | .var _ _ | .ret _ => [";"]
  | .block _ => []

mutual

/-- The lexemes that spell a statement, without the semicolon behind it. -/
def Stmt.lexemes : Stmt → List String
  | .var name init => "var" :: name :: "=" :: init.lexemes
  | .ret value => "return" :: value.lexemes
  | .block statements => openBrace :: (Stmt.lexemesMembers statements ++ [closeBrace])

/-- The lexemes that spell the statements of a block, each with its semicolon. -/
def Stmt.lexemesMembers : List Stmt → List String
  | [] => []
  | s :: ss => s.lexemes ++ (s.ending ++ Stmt.lexemesMembers ss)

end

/-- The lexemes that spell a block. -/
def Block.lexemes (b : Block) : List String := openBrace :: (Stmt.lexemesMembers b ++ [closeBrace])

/-!
## Trees that can be written down

`Spelled` says of a tree which strings it holds at which kind of place: as the name of a variable
that is used, as another name (of a new variable or of a type), and as a number. A tree is
well-formed if every name is an identifier and every number a single token, and if no variable that
is used has the name `new`, which would begin a constructor call. New variables and types may be
named by any keyword.
-/

section

variable (used declared number : String → Prop)

mutual

/-- Which texts an expression holds as used variables, as names of types and as numbers. -/
def Expr.Spelled : Expr → Prop
  | .ident name => used name
  | .num text => number text
  | .tuple elements => Expr.SpelledList elements
  | .new typeName args => declared typeName ∧ Expr.SpelledList args

/-- Which texts a list of expressions holds. -/
def Expr.SpelledList : List Expr → Prop
  | [] => True
  | e :: es => e.Spelled ∧ Expr.SpelledList es

end

mutual

/-- Which texts a statement holds as used variables, as other names and as numbers. -/
def Stmt.Spelled : Stmt → Prop
  | .var name init => declared name ∧ init.Spelled used declared number
  | .ret value => value.Spelled used declared number
  | .block statements => Stmt.SpelledList statements

/-- Which texts a list of statements holds. -/
def Stmt.SpelledList : List Stmt → Prop
  | [] => True
  | s :: ss => s.Spelled ∧ Stmt.SpelledList ss

end

end

/-- Every name is an identifier and every number a single token. -/
def Block.Lexical (b : Block) : Prop :=
  Stmt.SpelledList (isIdentifier ·) (isIdentifier ·) (isNumber ·) b

/-- The block is lexical, and no variable that is used has the name `new`. -/
def Block.WellFormed (b : Block) : Prop :=
  Stmt.SpelledList (fun name => isIdentifier name ∧ name ≠ "new") (isIdentifier ·) (isNumber ·) b

end Detuple
