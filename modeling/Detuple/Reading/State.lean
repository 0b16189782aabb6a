import Detuple.Tree

/-!
# How far a phrase has been read

The grammar of programs, for lexemes that are read one at a time:

    block = "{" member* "}"
    member = "var" identifier "=" expr ";" | "return" expr ";" | block
    expr = "new" identifier args | identifier | number | args
    args = "(" ")" | "(" expr ("," expr)* ")"

Reading never needs to look back at the lexemes. All that matters of them is kept in a `Place`: the
phrases that are still open, from the innermost to the outermost, each with the parts of it that are
already there. A `State` is such a place and the lexeme that is due at it, and one lexeme at a time
leads from a state to the next or is refused (`State.step`). So reading ends with the lexemes, and
at any moment the state tells what could still complete the phrase.
-/

namespace Detuple

/-- The phrases of the grammar. -/
inductive Phrase where
  /-- An expression. -/
  | expr
  /-- A list of expressions in brackets. -/
  | args
  /-- A statement, without the semicolon behind it. -/
  | stmt
  /-- A block. -/
  | block
deriving DecidableEq

/-- What a phrase stands for. -/
abbrev Phrase.Tree : Phrase → Type
  | .expr => Expr
  | .args => List Expr
  | .stmt => Stmt
  | .block => Block

/-- A place in a phrase of the kind `goal` at which a phrase of the second kind is missing. Lists of
what stands before the place have the nearest part first. -/
inductive Place (goal : Phrase) : Phrase → Type where
  /-- The phrase itself is missing. -/
  | whole : Place goal goal
  /-- The elements of a tuple are missing. -/
  | tuple (outer : Place goal .expr) : Place goal .args
  /-- The arguments of a constructor are missing. -/
  | new (typeName : String) (outer : Place goal .expr) : Place goal .args
  /-- An item of a list is missing. -/
  | item (before : List Expr) (outer : Place goal .args) : Place goal .expr
  /-- The first value of a variable is missing. -/
  | init (name : String) (outer : Place goal .stmt) : Place goal .expr
  /-- The returned value is missing. -/
  | value (outer : Place goal .stmt) : Place goal .expr
  /-- A statement of a block is missing. -/
  | member (before : List Stmt) (outer : Place goal .block) : Place goal .stmt
  /-- The block that is a statement is missing. -/
  | nested (outer : Place goal .stmt) : Place goal .block

/-- How far a phrase of the kind `goal` has been read, and what is due next. -/
inductive State (goal : Phrase) where
  /-- An expression begins. -/
  | expr (place : Place goal .expr)
  /-- A list in brackets begins. -/
  | args (place : Place goal .args)
  /-- A statement begins. -/
  | stmt (place : Place goal .stmt)
  /-- A block begins. -/
  | block (place : Place goal .block)
  /-- The bracket of a list has been opened. -/
  | firstItem (place : Place goal .args)
  /-- An item of a list has been read. -/
  | nextItem (before : List Expr) (place : Place goal .args)
  /-- The keyword `new` has been read. -/
  | typeName (place : Place goal .expr)
  /-- The keyword `var` has been read. -/
  | varName (place : Place goal .stmt)
  /-- The name of a new variable has been read. -/
  | equals (name : String) (place : Place goal .stmt)
  /-- A block has been opened, and some of its statements have been read. -/
  | members (before : List Stmt) (place : Place goal .block)
  /-- A statement other than a block has been read. -/
  | semicolon (before : List Stmt) (last : Stmt) (place : Place goal .block)
  /-- The whole phrase has been read. -/
  | finished (tree : goal.Tree)

variable {goal : Phrase}

/-- Nothing of the phrase has been read. -/
def State.start : (goal : Phrase) → State goal
  | .expr => .expr .whole
  | .args => .args .whole
  | .stmt => .stmt .whole
  | .block => .block .whole

/-- Puts the missing phrase into its place and closes all that it completes. -/
def Place.fill {missing : Phrase} : Place goal missing → missing.Tree → State goal
  | .whole, tree => .finished tree
  | .tuple outer, elements => outer.fill (.tuple elements)
  | .new typeName outer, args => outer.fill (.new typeName args)
  | .item before outer, e => .nextItem (e :: before) outer
  | .init name outer, e => outer.fill (.var name e)
  | .value outer, e => outer.fill (.ret e)
  | .member before outer, .block statements => .members (.block statements :: before) outer
  | .member before outer, s => .semicolon before s outer
  | .nested outer, statements => outer.fill (.block statements)

/-- What a lexeme is refused for not being. -/
inductive Wanted where
  /-- The brace that opens a block. -/
  | openBrace
  /-- The bracket that opens a list. -/
  | openParen
  /-- The comma between two items. -/
  | comma
  /-- The semicolon behind a statement. -/
  | semicolon
  /-- The sign between a variable and its first value. -/
  | equals
  /-- A name. -/
  | identifier
  /-- The first lexeme of an expression. -/
  | expression
  /-- The first lexeme of a statement. -/
  | statement
  /-- No lexeme at all. -/
  | endOfInput
deriving DecidableEq

/-- How messages call what is wanted. -/
def Wanted.text : Wanted → String
  | .openBrace => Detuple.openBrace
  | .openParen => "("
  | .comma => ","
  | .semicolon => ";"
  | .equals => "="
  | .identifier => "identifier"
  | .expression => "expression"
  | .statement => "statement"
  | .endOfInput => "end of input"

namespace State

/-- What a state wants. Where a bracket could be closed as well, the answer is the way to go on. -/
def wanted : State goal → Wanted
  | .expr _ | .firstItem _ => .expression
  | .args _ => .openParen
  | .stmt _ | .members _ _ => .statement
  | .block _ => .openBrace
  | .nextItem _ _ => .comma
  | .typeName _ | .varName _ => .identifier
  | .equals _ _ => .equals
  | .semicolon _ _ _ => .semicolon
  | .finished _ => .endOfInput

/-- Reads the first lexeme of an expression. The keyword `new` comes before the names. -/
def stepExpr (place : Place goal .expr) (lexeme : String) : Option (State goal) :=
  if lexeme = "new" then some (.typeName place)
  else match Kind.ofText lexeme with
    | .identifier => some (place.fill (.ident lexeme))
    | .number => some (place.fill (.num lexeme))
    | .symbol => if lexeme = "(" then some (.firstItem (.tuple place)) else none

/-- Reads the first lexeme of a statement. -/
def stepStmt (place : Place goal .stmt) (lexeme : String) : Option (State goal) :=
  if lexeme = "var" then some (.varName place)
  else if lexeme = "return" then some (.expr (.value place))
  else if lexeme = openBrace then some (.members [] (.nested place))
  else none

/-- The state after one more lexeme, if the lexeme is not refused. Keywords are names where a name
is wanted. -/
def step : State goal → String → Option (State goal)
  | .expr place, lexeme => stepExpr place lexeme
  | .args place, lexeme => if lexeme = "(" then some (.firstItem place) else none
  | .stmt place, lexeme => stepStmt place lexeme
  | .block place, lexeme => if lexeme = openBrace then some (.members [] place) else none
  | .firstItem place, lexeme =>
    if lexeme = ")" then some (place.fill []) else stepExpr (.item [] place) lexeme
  | .nextItem before place, lexeme =>
    if lexeme = ")" then some (place.fill before.reverse)
    else if lexeme = "," then some (.expr (.item before place))
    else none
  | .typeName place, lexeme =>
    if Kind.ofText lexeme = .identifier then some (.args (.new lexeme place)) else none
  | .varName place, lexeme =>
    if Kind.ofText lexeme = .identifier then some (.equals lexeme place) else none
  | .equals name place, lexeme => if lexeme = "=" then some (.expr (.init name place)) else none
  | .members before place, lexeme =>
    if lexeme = closeBrace then some (place.fill before.reverse)
    else stepStmt (.member before place) lexeme
  | .semicolon before last place, lexeme =>
    if lexeme = ";" then some (.members (last :: before) place) else none
  | .finished _, _ => none

end State

/-- How reading a phrase ends. -/
inductive Reading (goal : Phrase) where
  /-- The phrase is complete, and the other lexemes follow it. -/
  | done (tree : goal.Tree) (rest : List String)
  /-- The first of the remaining lexemes is refused, or there is none. -/
  | refused (wanted : Wanted) (rest : List String)

/-- Reads lexemes from a state on until the phrase is complete or a lexeme is refused. -/
def State.run : State goal → List String → Reading goal
  | .finished tree, rest => .done tree rest
  | state, [] => .refused state.wanted []
  | state, lexeme :: rest =>
    match state.step lexeme with
    | some next => next.run rest
    | none => .refused state.wanted (lexeme :: rest)

/-- Reads a phrase from the front of a list of lexemes. -/
def Phrase.read (goal : Phrase) (lexemes : List String) : Reading goal :=
  (State.start goal).run lexemes

/-- Reads a program: a block with nothing behind it. -/
def readProgram (lexemes : List String) : Reading .block :=
  match Phrase.read .block lexemes with
  | .done _ (lexeme :: rest) => .refused .endOfInput (lexeme :: rest)
  | reading => reading

end Detuple
