import Detuple.Log.Event
import Detuple.Log.Pattern

/-!
# Which events are shown

A filter is a list of directives, each of which allows some detail to the events that it speaks of.
A setting spells a filter as directives with commas between them.
-/

namespace Detuple.Log

/-!
## Directives

Spelled in full a directive is

    target[span{field}]=limit

and all of its parts may be missing. It speaks of the events of all targets that begin as `target`
says and, if it names a field, of those among them that have the field. Events never lie within
spans here and no values of fields are compared, so a directive with a span or with a value behind
the field (`field=value`, see `Detuple.Log.Pattern`) speaks of no event at all. Without a limit all
detail is allowed. A limit alone is a directive for all events.

A target begins with a letter, a digit or one of `_`, `-` and `:`, and goes on with anything. Blanks
around a directive do not count when its parts are counted off, but they do count when the parts are
cut out, by bytes: a blank before a directive shifts all of its parts, and one with several bytes
can split a character.
-/

/-- How much detail is allowed: 0 is none, 3 is up to the progress that users see and 4 up to that
which developers see. -/
abbrev Limit := Nat

/-- All detail. -/
def Limit.all : Limit := 5

/-- The number that digits stand for, behind a plus sign or not. -/
def numberOf? (text : List Char) : Option Nat :=
  let digits := if text.head? = some '+' then text.tail else text
  if digits ≠ [] ∧ digits.all Char.isDigit then
    some (digits.foldl (fun n c => 10 * n + (c.toNat - '0'.toNat)) 0)
  else none

/-- A limit by its name, in capital or small letters, or by its number. -/
def Limit.ofName? (name : String) : Option Limit :=
  match numberOf? name.toList with
  | some n => if n ≤ Limit.all then some n else none
  | none => ["off", "error", "warn", "info", "debug", "trace"].idxOf? name.toLower

/-- The detail that is allowed to some events. -/
structure Directive where
  /-- What the names of the targets begin with; empty for all targets. -/
  target : String
  /-- The field that the events have, if one is named. -/
  field : Option String
  /-- How much detail is allowed. -/
  limit : Limit
deriving DecidableEq

/-- What can be wrong with a setting. -/
inductive SettingError where
  /-- Something is no directive. -/
  | malformed
  /-- A part of a directive ends within a character. -/
  | splitCharacter
deriving DecidableEq

namespace Directive

/-- The part of a text between two bytes. -/
def cut (text : String) (start stop : Nat) : Except SettingError String :=
  match charsBefore text.toList start, charsBefore text.toList stop with
  | some i, some j => .ok (.ofList ((text.toList.take j).drop i))
  | _, _ => .error .splitCharacter

/-- What a directive says, as far as it has been read. -/
structure Draft where
  /-- What the names of the targets begin with. -/
  target : String
  /-- The field that the events have. -/
  field : Option String
  /-- Whether it speaks of no event at all. -/
  mute : Bool

/-- The part of a directive that is being read, and the byte at which it starts. -/
inductive Part where
  /-- Nothing has been read. -/
  | start
  /-- A target, or a limit alone. -/
  | target
  /-- A span. -/
  | span (start : Nat)
  /-- A field, with a value or not. -/
  | field (start : Nat)
  /-- The end of the square bracket. -/
  | bracket
  /-- The end of the directive, or an equals sign. -/
  | equals
  /-- A limit. -/
  | limit (start : Nat)

/-- Reads the character of a directive at a byte. -/
def step (text : String) (d : Draft) (byte : Nat) (c : Char) :
    Part → Except SettingError (Draft × Part)
  | .start =>
    if c = '[' then .ok (d, .span (byte + 1))
    else if isWord c ∨ c = '-' ∨ c = ':' then .ok (d, .target)
    else .error .malformed
  | .target =>
    if c = '=' ∨ c = '[' then
      (cut text 0 byte).map fun target =>
        ({ d with target }, if c = '=' then .limit (byte + 1) else .span (byte + 1))
    else .ok (d, .target)
  | .span start =>
    if c = ']' then (cut text start byte).map fun _ => ({ d with mute := true }, .equals)
    else if c = '\x7b' then
      (cut text start byte).map fun name =>
        ({ d with mute := d.mute || name ≠ "" }, .field (byte + 1))
    else .ok (d, .span start)
  | .field start =>
    if c = '\x7d' then do
      let condition ← cut text start byte
      if condition = "" then throw .malformed
      let name := String.ofList (condition.toList.takeWhile (· ≠ '='))
      match condition.toList.dropWhile (· ≠ '=') with
      | [] => return ({ d with field := some name }, .bracket)
      | _ :: rest =>
        if !Pattern.isValue (rest.takeWhile (· ≠ '=')) then throw .malformed
        return ({ d with mute := true }, .bracket)
    else .ok (d, .field start)
  | .bracket => if c = ']' then .ok (d, .equals) else .error .malformed
  | .equals => if c = '=' then .ok (d, .limit (byte + 1)) else .error .malformed
  | .limit start => .ok (d, .limit start)

/-- The directive that has been read, unless it speaks of no event. -/
def finish (text : String) (d : Draft) : Part → Except SettingError (Option Directive)
  | .target =>
    match Limit.ofName? text with
    | some limit => .ok (some ⟨"", none, limit⟩)
    | none => .ok (some ⟨text, none, .all⟩)
  | .equals => .ok (if d.mute then none else some ⟨d.target, d.field, .all⟩)
  | .limit start => do
    let name ← cut text start text.utf8ByteSize
    match if name = "" then some .all else Limit.ofName? name with
    | some limit => return if d.mute then none else some ⟨d.target, d.field, limit⟩
    | none => throw .malformed
  | .start | .span _ | .field _ | .bracket => .error .malformed

/-- Reads the rest of a directive, which starts at a byte. -/
def readFrom (text : String) (d : Draft) (part : Part) (byte : Nat) :
    List Char → Except SettingError (Option Directive)
  | [] => finish text d part
  | c :: cs =>
    match step text d byte c part with
    | .ok (d, part) => readFrom text d part (byte + c.utf8Size) cs
    | .error e => .error e

/-- Reads a directive. The answer is nothing for one that speaks of no event. -/
def ofText (text : String) : Except SettingError (Option Directive) :=
  readFrom text ⟨"", none, false⟩ .start 0 (trimBlanks text).toList

end Directive

/-!
## Filters

Of the directives that speak of an event, the one with the longest target counts; among these one
with a field comes before one without, a field that is later in the alphabet before one that is
earlier, and of equal ones the last counts. An event of which no directive speaks is not shown.
-/

/-- The least limit that allows a level. -/
def Level.limit : Level → Limit
  | .info => 3
  | .debug => 4

/-- Whether a directive speaks of an event. -/
def Directive.covers (d : Directive) (e : Event) : Bool :=
  d.target.toList.isPrefixOf e.target.toList && d.field.all e.fields.contains

/-- Whether a directive counts if another one stands before it and both speak of an event. -/
def Directive.outdoes (d earlier : Directive) : Bool :=
  if d.target.length = earlier.target.length then
    match d.field, earlier.field with
    | _, none => true
    | none, some _ => false
    | some field, some other => decide (other ≤ field)
  else decide (earlier.target.length < d.target.length)

/-- The detail that is allowed to each event. -/
abbrev Filter := List Directive

namespace Filter

/-- Only warnings are shown. -/
def quiet : Filter := [⟨"", none, 2⟩]

/-- All progress is shown. -/
def verbose : Filter := [⟨"", none, 4⟩]

/-- Reads a setting. -/
def ofText (text : String) : Except SettingError Filter :=
  (((text.splitOn ",").filter (· ≠ "")).mapM Directive.ofText).map (·.filterMap id)

/-- The directive that counts for an event. -/
def decisive? (f : Filter) (e : Event) : Option Directive :=
  (f.filter (·.covers e)).foldl
    (fun best d => if best.all d.outdoes then some d else best) none

/-- Whether an event is shown. -/
def shows (f : Filter) (e : Event) : Bool :=
  (f.decisive? e).any fun d => decide (e.level.limit ≤ d.limit)

end Filter

end Detuple.Log
