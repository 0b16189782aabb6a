import Detuple.Unicode

/-!
# Patterns

The values that a directive can give to a field: numbers, and patterns, which are regular
expressions. A value is never compared with anything here, but one that is neither spoils its
directive. A pattern is made of

- characters that stand for themselves, `.`, `^` and `$`;
- the repetitions `*`, `+` and `?` behind something;
- groups `(…)`, `(?:…)`, `(?<name>…)` and `(?P<name>…)`, with alternatives between `|`;
- classes `[…]` of characters and ranges, one in another or combined by `&&`, `--` and `~~`;
- a backslash and an ASCII character other than a letter or a digit, which stands for itself; the
  usual letters for control characters; `x`, `u` and `U` with a code point of 2, 4 or 8 digits; `A`
  and `z` for both ends of a text.

Braces, classes by a property of characters and boundaries of words are not part of it.
-/

namespace Detuple.Log.Pattern

/-- Where in a class of characters a pattern has got to. -/
inductive ClassPlace where
  /-- Behind the bracket. -/
  | opened
  /-- Behind the bracket and perhaps a negation, where a closing bracket stands for itself. -/
  | first
  /-- Behind hyphens at the start. -/
  | hyphens
  /-- Between two items. -/
  | between
  /-- Behind one of the signs that combine classes when they are doubled. -/
  | sign (c : Char)
  /-- Behind a character, which can begin a range. -/
  | single (code : Nat)
  /-- Behind a character and a hyphen. -/
  | range (code : Nat)

/-- What an escape is part of. -/
inductive Host where
  /-- It stands outside of classes. -/
  | outside
  /-- It stands in a class that is the given number of classes deep. -/
  | inside (depth : Nat) (place : ClassPlace)

/-- What a pattern is in the middle of. -/
inductive Mode where
  /-- Nothing; a repetition may follow or not. -/
  | item (repeatable : Bool)
  /-- A class that is the given number of classes deep. -/
  | bracket (depth : Nat) (place : ClassPlace)
  /-- A backslash. -/
  | escape (host : Host)
  /-- A code point, of which some digits are missing. -/
  | code (host : Host) (missing value : Nat)
  /-- The bracket that opens a group. -/
  | group
  /-- The question mark behind it. -/
  | groupMark
  /-- The letter before a name. -/
  | nameMark
  /-- The name of a group. -/
  | name (empty : Bool)
  /-- Switches that hold for the rest of a group. -/
  | switches

/-- The mode behind a character that stands for itself. A range must not go down. -/
def Host.literal (code : Nat) : Host → Option Mode
  | .outside => some (.item true)
  | .inside depth (.range start) =>
    if start ≤ code then some (.bracket depth .between) else none
  | .inside depth _ => some (.bracket depth (.single code))

/-- The mode behind a backslash and a character. -/
def Host.escaped (host : Host) (c : Char) : Option Mode :=
  match c with
  | 'a' => host.literal 7
  | 't' => host.literal 9
  | 'n' => host.literal 10
  | 'v' => host.literal 11
  | 'f' => host.literal 12
  | 'r' => host.literal 13
  | 'x' => some (.code host 2 0)
  | 'u' => some (.code host 4 0)
  | 'U' => some (.code host 8 0)
  | 'A' | 'z' =>
    match host with
    | .outside => some (.item true)
    | .inside _ _ => none
  | '<' | '>' => none
  | c => if c.toNat < 128 ∧ !c.isAlphanum then host.literal c.toNat else none

/-- The value of a hexadecimal digit. -/
def hexDigit? (c : Char) : Option Nat :=
  "0123456789abcdef".toList.idxOf? c.toLower

/-- The mode behind a character of a class. -/
def bracketStep (depth : Nat) (c : Char) : ClassPlace → Option Mode
  | .opened => if c = '^' then some (.bracket depth .first) else leading true
  | .first => leading true
  | .hyphens => leading false
  | .between => item
  | .sign s => if c = s then some (.bracket depth .between) else behind s.toNat
  | .single code => behind code
  | .range code =>
    if c = ']' then close
    else if c = '-' then some (.bracket depth .between)
    else if c = '\\' then some (.escape (.inside depth (.range code)))
    else (Host.inside depth (.range code)).literal c.toNat
where
  /-- The class is closed. -/
  close : Option Mode :=
    if depth ≤ 1 then some (.item true) else some (.bracket (depth - 1) .between)
  /-- The character begins an item. -/
  item : Option Mode :=
    if c = ']' then close
    else if c = '[' then some (.bracket (depth + 1) .opened)
    else if c = '\\' then some (.escape (.inside depth .between))
    else if c = '&' ∨ c = '-' ∨ c = '~' then some (.bracket depth (.sign c))
    else some (.bracket depth (.single c.toNat))
  /-- The character stands behind a single one. -/
  behind (code : Nat) : Option Mode :=
    if c = '-' then some (.bracket depth (.range code)) else item
  /-- The character stands near the start of the class. -/
  leading (first : Bool) : Option Mode :=
    if c = '-' then some (.bracket depth .hyphens)
    else if first ∧ c = ']' then some (.bracket depth .between)
    else item

/-- The number of open groups and the mode behind a character. -/
def step (groups : Nat) (c : Char) : Mode → Option (Nat × Mode)
  | .item repeatable => item repeatable
  | .bracket depth place => stay (bracketStep depth c place)
  | .escape host => stay (host.escaped c)
  | .code host missing value => do
    let digit ← hexDigit? c
    let value := 16 * value + digit
    if 1 < missing then return (groups, .code host (missing - 1) value)
    if value.isValidChar then stay (host.literal value) else none
  | .group => if c = '?' then some (groups, .groupMark) else item false
  | .groupMark =>
    if c = ':' then some (groups, .item false)
    else if c = '<' then some (groups, .name true)
    else if c = 'P' then some (groups, .nameMark)
    else if isSwitch then some (groups, .switches)
    else none
  | .nameMark => if c = '<' then some (groups, .name true) else none
  | .name empty =>
    if c = '_' ∨ Unicode.isAlphabetic c ∨ (!empty ∧ (c ∈ ".[]".toList ∨ Unicode.isNumeric c)) then
      some (groups, .name false)
    else if c = '>' ∧ !empty then some (groups, .item false)
    else none
  | .switches =>
    if c = ':' then some (groups, .item false)
    else if c = ')' then some (groups - 1, .item false)
    else if isSwitch then some (groups, .switches)
    else none
where
  /-- The number of open groups does not change. -/
  stay (mode : Option Mode) : Option (Nat × Mode) := mode.map (groups, ·)
  /-- Whether the character is a switch. -/
  isSwitch : Bool := "msUR".toList.contains c
  /-- The character begins something new. -/
  item (repeatable : Bool) : Option (Nat × Mode) :=
    match c with
    | '\\' => some (groups, .escape .outside)
    | '[' => some (groups, .bracket 1 .opened)
    | '(' => some (groups + 1, .group)
    | ')' => if groups = 0 then none else some (groups - 1, .item true)
    | '|' => some (groups, .item false)
    | '*' | '+' | '?' => if repeatable then some (groups, .item true) else none
    | '\x7b' => none
    | _ => some (groups, .item true)

/-- Whether a text is a pattern. -/
def isPattern (text : List Char) : Bool :=
  match text.foldlM (fun (groups, mode) c => step groups c mode) (0, Mode.item false) with
  | some (0, .item _) => true
  | _ => false

/-- Whether a text is a number without a sign: decimal digits with a point among them or at one of
their ends and with an exponent, or one of the names of values that have no digits. -/
def isNumeral (text : List Char) : Bool :=
  let digits (cs : List Char) : Bool := cs ≠ [] && cs.all Char.isDigit
  let isMark (c : Char) : Bool := c == 'e' || c == 'E'
  let mantissa := text.takeWhile (!isMark ·)
  let point := mantissa.count '.' ≤ 1 && digits (mantissa.filter (· ≠ '.'))
  let exponent := match text.dropWhile (!isMark ·) with
    | [] => true
    | _ :: '+' :: cs | _ :: '-' :: cs | _ :: cs => digits cs
  (point && exponent) || ["inf", "infinity", "nan"].contains (String.ofList text).toLower

/-- Whether a text can be the value of a field. A number that is no pattern begins with a plus
sign. -/
def isValue (text : List Char) : Bool :=
  isPattern text || text.head? == some '+' && isNumeral text.tail

end Detuple.Log.Pattern
