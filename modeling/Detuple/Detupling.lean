import Detuple.Layout.Print
import Detuple.Reading.Reader

/-!
# From tuples to constructor calls

Detupling a program turns every tuple in it, at any depth, into a call of the constructor of one
given type with the same elements as arguments. Calls that are already there keep their type, but
tuples among their arguments are turned as well. All else stays as it is. Detupling a source text is
reading it, detupling the program and spelling the outcome.
-/

namespace Detuple

mutual

/-- Turns the tuples in an expression into calls of the constructor of `typeName`. -/
def Expr.detuple (typeName : String) : Expr → Expr
  | .ident name => .ident name
  | .num text => .num text
  | .tuple elements => .new typeName (Expr.detupleList typeName elements)
  | .new ownType args => .new ownType (Expr.detupleList typeName args)

/-- Turns the tuples in a list of expressions into calls of the constructor of `typeName`. -/
def Expr.detupleList (typeName : String) : List Expr → List Expr
  | [] => []
  | e :: es => e.detuple typeName :: Expr.detupleList typeName es

end

mutual

/-- Turns the tuples in a statement into calls of the constructor of `typeName`. -/
def Stmt.detuple (typeName : String) : Stmt → Stmt
  | .var name init => .var name (init.detuple typeName)
  | .ret value => .ret (value.detuple typeName)
  | .block statements => .block (Stmt.detupleList typeName statements)

/-- Turns the tuples in a list of statements into calls of the constructor of `typeName`. -/
def Stmt.detupleList (typeName : String) : List Stmt → List Stmt
  | [] => []
  | s :: ss => s.detuple typeName :: Stmt.detupleList typeName ss

end

/-- Turns the tuples in a block into calls of the constructor of `typeName`. -/
abbrev Block.detuple (typeName : String) (b : Block) : Block := Stmt.detupleList typeName b

/-- Reads a program, turns its tuples into calls of the constructor of `typeName` and spells the
outcome. The type name can be any text; a text that is no identifier need not yield a program. -/
def detupleSource (source typeName : String) : Except ParseError String :=
  (parse source).map fun b => print (Block.detuple typeName b)

/-!
## Constructor calls in a tree

How many calls of the constructor of a type a tree holds, and the tree in which these calls are
tuples. The latter undoes a detupling to that type, except that it also turns the calls that were
there before.
-/

mutual

/-- The number of calls of the constructor of `typeName` in an expression, at any depth. -/
def Expr.callCount (typeName : String) : Expr → Nat
  | .ident _ | .num _ => 0
  | .tuple elements => Expr.callCountList typeName elements
  | .new ownType args =>
    (if ownType = typeName then 1 else 0) + Expr.callCountList typeName args

/-- The number of calls of the constructor of `typeName` in a list of expressions. -/
def Expr.callCountList (typeName : String) : List Expr → Nat
  | [] => 0
  | e :: es => e.callCount typeName + Expr.callCountList typeName es

end

mutual

/-- The number of calls of the constructor of `typeName` in a statement, at any depth. -/
def Stmt.callCount (typeName : String) : Stmt → Nat
  | .var _ init => init.callCount typeName
  | .ret value => value.callCount typeName
  | .block statements => Stmt.callCountList typeName statements

/-- The number of calls of the constructor of `typeName` in a list of statements. -/
def Stmt.callCountList (typeName : String) : List Stmt → Nat
  | [] => 0
  | s :: ss => s.callCount typeName + Stmt.callCountList typeName ss

end

/-- The number of calls of the constructor of `typeName` in a block, at any depth. -/
abbrev Block.callCount (typeName : String) (b : Block) : Nat := Stmt.callCountList typeName b

mutual

/-- Turns the calls of the constructor of `typeName` in an expression into tuples. -/
def Expr.erase (typeName : String) : Expr → Expr
  | .ident name => .ident name
  | .num text => .num text
  | .tuple elements => .tuple (Expr.eraseList typeName elements)
  | .new ownType args =>
    if ownType = typeName then .tuple (Expr.eraseList typeName args)
    else .new ownType (Expr.eraseList typeName args)

/-- Turns the calls of the constructor of `typeName` in a list of expressions into tuples. -/
def Expr.eraseList (typeName : String) : List Expr → List Expr
  | [] => []
  | e :: es => e.erase typeName :: Expr.eraseList typeName es

end

mutual

/-- Turns the calls of the constructor of `typeName` in a statement into tuples. -/
def Stmt.erase (typeName : String) : Stmt → Stmt
  | .var name init => .var name (init.erase typeName)
  | .ret value => .ret (value.erase typeName)
  | .block statements => .block (Stmt.eraseList typeName statements)

/-- Turns the calls of the constructor of `typeName` in a list of statements into tuples. -/
def Stmt.eraseList (typeName : String) : List Stmt → List Stmt
  | [] => []
  | s :: ss => s.erase typeName :: Stmt.eraseList typeName ss

end

/-- Turns the calls of the constructor of `typeName` in a block into tuples. -/
abbrev Block.erase (typeName : String) (b : Block) : Block := Stmt.eraseList typeName b

/-!
## Detupling without a tree

A bracket opens the arguments of a constructor exactly if a name stands before it and the keyword
`new` before the name; any other bracket opens a tuple. So tuples can be turned into constructor
calls in the sequence of lexemes itself, with no more memory than the last two of them.
-/

/-- Whether a lexeme opens a tuple, given the two lexemes before it, the nearer one first. -/
def opensTuple (nearer farther : Option String) (lexeme : String) : Bool :=
  lexeme == "(" &&
    !(farther == some "new" && nearer.any fun name => Kind.ofText name == .identifier)

/-- Puts `new` and a type name before every bracket that opens a tuple. -/
def insertCalls (typeName : String) (nearer farther : Option String) : List String → List String
  | [] => []
  | lexeme :: rest =>
    let rest := lexeme :: insertCalls typeName (some lexeme) nearer rest
    if opensTuple nearer farther lexeme then "new" :: typeName :: rest else rest

/-- The number of brackets that open a tuple. -/
def countTuples (nearer farther : Option String) : List String → Nat
  | [] => 0
  | lexeme :: rest =>
    (if opensTuple nearer farther lexeme then 1 else 0) + countTuples (some lexeme) nearer rest

end Detuple
