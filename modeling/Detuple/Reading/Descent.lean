import Detuple.Reading.State

/-!
# Reading by descent

The grammar can be read by functions that call each other, one for each phrase. Each of them looks
at the first of the lexemes that are left, goes by it, and takes one lexeme after another off the
front. Whatever is taken is checked, also where it has been looked at before, so there are checks of
closing brackets and of keywords that could fail as well. Nothing bounds how deep the functions call
each other or how long their loops are: a reading that does not come to an end has no value at all.

It always comes to an end, and those checks never fail. Both are theorems, and come out of comparing
the functions with the states of `Detuple.Reading.State`, which need neither.
-/

namespace Detuple

/-- Why reading by descent fails. -/
inductive Complaint where
  /-- A lexeme is needed and there is none. -/
  | ended
  /-- The first lexeme is not the one that is called for. -/
  | expected (what : String)
  /-- The first lexeme begins no phrase of the kind that is due. -/
  | invalid (context : String)
deriving DecidableEq

/-- The complaint in words, about the lexeme that was found. -/
def Complaint.message (found : String) : Complaint → String
  | .ended => "unexpected end of input"
  | .expected what => "expected " ++ what ++ ", got " ++ found
  | .invalid context => "invalid " ++ context ++ " " ++ found

/-- A reading of something off the front of some lexemes, which may fail or never come to an end. If
it fails, the lexeme that is complained about is the first of those that are left. -/
abbrev Descent (α : Type) := ExceptT Complaint (StateT (List String) Option) α

namespace Descent

/-- What a reading makes of some lexemes, and the lexemes that it leaves. -/
def on {α : Type} (m : Descent α) (lexemes : List String) :
    Option (Except Complaint α × List String) := m.run.run lexemes

/-- Calls a function that is defined along with the caller. A bare name would leave the place of the
call in the text as a part of the definition. -/
abbrev call {α : Type} (m : Descent α) : Descent α := m

/-- Looks at the first lexeme. -/
def peek : Descent String := do
  match ← get with
  | [] => throw .ended
  | lexeme :: _ => return lexeme

/-- Takes the first lexeme, whatever it is. -/
def advance : Descent String := do
  let lexeme ← peek
  modify List.tail
  return lexeme

/-- Takes the first lexeme, which must be the given one. -/
def expect (text : String) : Descent Unit := do
  if (← peek) = text then modify List.tail else throw (.expected text)

/-- Takes the first lexeme, which must be a name. -/
def expectName : Descent String := do
  let lexeme ← peek
  if Kind.ofText lexeme = .identifier then
    modify List.tail
    return lexeme
  else throw (.expected "identifier")

/-! ## Expressions -/

mutual

/-- Reads an expression. The keyword `new` comes before the names. -/
def expr : Descent Expr := do
  let lexeme ← peek
  if lexeme = "new" then newExpr.call
  else match Kind.ofText lexeme with
    | .identifier => return .ident (← advance)
    | .number => return .num (← advance)
    | .symbol => if lexeme = "(" then return .tuple (← args.call) else throw (.invalid "expression")
partial_fixpoint

/-- Reads a constructor call. -/
def newExpr : Descent Expr := do
  expect "new"
  let typeName ← expectName
  return .new typeName (← args.call)
partial_fixpoint

/-- Reads a list of expressions in brackets. -/
def args : Descent (List Expr) := do
  expect "("
  if (← peek) = ")" then
    expect ")"
    return []
  else
    let e ← expr.call
    return e :: (← moreItems.call)
partial_fixpoint

/-- Reads further items of a list, with a comma before each, and the bracket behind them. -/
def moreItems : Descent (List Expr) := do
  if (← peek) = ")" then
    expect ")"
    return []
  else
    expect ","
    let e ← expr.call
    return e :: (← moreItems.call)
partial_fixpoint

end

/-! ## Statements -/

/-- Reads the declaration of a variable, without its semicolon. -/
def varDecl : Descent Stmt := do
  expect "var"
  let name ← expectName
  expect "="
  return .var name (← expr)

/-- Reads the return of a value, without its semicolon. -/
def ret : Descent Stmt := do
  expect "return"
  return .ret (← expr)

mutual

/-- Reads a statement, without the semicolon behind it. -/
def stmt : Descent Stmt := do
  let lexeme ← peek
  if lexeme = "var" then varDecl
  else if lexeme = "return" then ret
  else if lexeme = openBrace then return .block (← block.call)
  else throw (.invalid "statement")
partial_fixpoint

/-- Reads a block. -/
def block : Descent Block := do
  expect openBrace
  members.call
partial_fixpoint

/-- Reads the statements of a block, each with its semicolon, and the brace behind them. -/
def members : Descent (List Stmt) := do
  if (← peek) = closeBrace then
    expect closeBrace
    return []
  else
    let s ← stmt.call
    match s with
    | .block _ => pure ()
    | .var _ _ | .ret _ => expect ";"
    return s :: (← members.call)
partial_fixpoint

end

/-- Reads a program: a block with nothing behind it. -/
def program : Descent Block := do
  let b ← block
  match ← get with
  | [] => return b
  | _ :: _ => throw (.expected "end of input")

end Descent

/-! ## The states, seen from here -/

/-- How reading by descent complains where something is wanted in place of the first of some
lexemes. -/
def Wanted.complaint (wanted : Wanted) : List String → Complaint
  | [] => .ended
  | _ :: _ =>
    match wanted with
    | .expression | .statement => .invalid wanted.text
    | _ => .expected wanted.text

/-- How reading by descent puts the way in which a reading ends. -/
def Reading.outcome {goal : Phrase} : Reading goal → Except Complaint goal.Tree × List String
  | .done tree rest => (.ok tree, rest)
  | .refused wanted rest => (.error (wanted.complaint rest), rest)

/-!
## Round by round

Two of the functions are loops: they go on with one more statement, or one more item, as long as the
bracket that closes the list is not next. Here a round of each loop stands by itself, and `loop`
goes round. `Consumes` says of a reading, begun anywhere among some lexemes, that it comes to an
end, where it ends, and what it has read by then.
-/

namespace Descent

variable {α : Type}

/-- The functions that read a phrase. -/
def phrase : (goal : Phrase) → Descent goal.Tree
  | .expr => expr
  | .args => args
  | .stmt => stmt
  | .block => block

/-- One round of the loop over the statements of a block: a statement and its semicolon. -/
def member : Descent Stmt := do
  let s ← stmt
  match s with
  | .block _ => pure ()
  | .var _ _ | .ret _ => expect ";"
  return s

/-- One round of the loop over further items of a list: a comma and the item behind it. -/
def item : Descent Expr := do
  expect ","
  expr

section

variable (close : String) (round : Descent α)

mutual

/-- Goes round until the lexeme that closes the list is next, and takes it. -/
def loop : Descent (List α) := do
  if (← peek) = close then
    expect close
    return []
  else again.call
partial_fixpoint

/-- Goes round once, and then on. -/
def again : Descent (List α) := do
  let a ← round
  return a :: (← loop.call)
partial_fixpoint

end

end

/-- A reading, begun at some position among the lexemes, comes to an end, and that at a position
which is no earlier and not behind the last lexeme. If it succeeds it has moved on, and the lexemes
that it has passed spell what it has read. -/
def Consumes (m : Descent α) (spelling : α → List String) : Prop :=
  ∀ (lexemes : List String) (position : Nat), ∃ result last,
    m.on (lexemes.drop position) = some (result, lexemes.drop last) ∧
    position ≤ last ∧ last ≤ max position lexemes.length ∧
    ∀ a, result = .ok a → position < last ∧ last ≤ lexemes.length ∧
      lexemes.extract position last = spelling a

end Descent

end Detuple
