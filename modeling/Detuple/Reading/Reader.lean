import Detuple.Reading.State

/-!
# Reading source texts

A `Reader` holds the tokens of a source text and the number of those already read. It can be asked
for one program after another. A refused token stays unread, while all before it stay read, and so
the next attempt begins at that very token.

There are two reasons why a source text is no program. The text can end too early, or a token is
refused because something else is wanted in its place. Either way the error points at the bytes of
the source that are at fault; where the text ends too early, these are none, at its very end.
-/

namespace Detuple

/-! ## Errors -/

/-- Why a source text is no program. -/
inductive ParseError where
  /-- The source, of the given number of bytes, ends where a token is wanted. -/
  | unexpectedEnd (size : Nat)
  /-- A token stands where something else is wanted. -/
  | refused (wanted : Wanted) (found : Token)
deriving DecidableEq

namespace ParseError

/-- The error in words. -/
def message : ParseError → String
  | .unexpectedEnd _ => "unexpected end of input"
  | .refused wanted found =>
    match wanted with
    | .expression | .statement => "invalid " ++ wanted.text ++ " " ++ found.text
    | _ => "expected " ++ wanted.text ++ ", got " ++ found.text

/-- The bytes of the source at fault. -/
def span : ParseError → Span
  | .unexpectedEnd size => ⟨size, size⟩
  | .refused _ found => found.span

/-- The error in a source with some more bytes before what was read. -/
def shift (bytes : Nat) : ParseError → ParseError
  | .unexpectedEnd size => .unexpectedEnd (size + bytes)
  | .refused wanted found => .refused wanted (found.shift bytes)

end ParseError

/-! ## Readers -/

/-- A source text that is being read. -/
structure Reader where
  /-- The number of bytes of the source. -/
  size : Nat
  /-- The tokens of the source. -/
  tokens : List Token
  /-- How many of the tokens have been read. -/
  position : Nat

namespace Reader

/-- A source text of which nothing has been read. -/
def ofSource (source : String) : Reader := ⟨source.utf8ByteSize, lex source, 0⟩

/-- The tokens that have not been read. -/
def unread (r : Reader) : List Token := r.tokens.drop r.position

/-- The reader when only the last `left` tokens are unread. -/
def leaving (r : Reader) (left : Nat) : Reader := { r with position := r.tokens.length - left }

/-- The error for the first unread token. -/
def refusal (r : Reader) (wanted : Wanted) : ParseError :=
  match r.unread with
  | [] => .unexpectedEnd r.size
  | found :: _ => .refused wanted found

/-- Reads a program up to the end of the source. -/
def next (r : Reader) : Except ParseError Block × Reader :=
  match readProgram (r.unread.map Token.text) with
  | .done block rest => (.ok block, r.leaving rest.length)
  | .refused wanted rest =>
    let r := r.leaving rest.length
    (.error (r.refusal wanted), r)

/-- The reader after it has been asked for a program some times. -/
def after (r : Reader) : (calls : Nat) → Reader
  | 0 => r
  | calls + 1 => (r.after calls).next.2

end Reader

/-- The program that a source text spells, or the reason why it spells none. -/
def parse (source : String) : Except ParseError Block := (Reader.ofSource source).next.1

end Detuple
