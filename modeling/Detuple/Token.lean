import Detuple.Unicode

/-!
# Tokens

A token is a piece of a source text together with the byte at which it starts; where it ends and
what kind it is follow from its text. The kind is decided by the first character alone, so `1abc` is
a number and `_1` an identifier. Letters are tested before digits: a letter number such as U+2167
begins an identifier. The keywords of the language are identifiers like any other.

A text is cut wherever two neighbouring characters do not both belong to a word. The pieces are the
longest words and, one by one, all other characters. Dropping the blank pieces leaves the tokens:
every text has exactly one such list, so cutting cannot fail. Characters that the grammar has no use
for come out as symbols of their own.
-/

namespace Detuple

open Unicode (isAlphabetic isNumeric isBlank)

/-- Whether a character joins its neighbours into a word. -/
def isWord (c : Char) : Bool := isAlphabetic c || isNumeric c || c == '_'

/-- What a token can stand for. -/
inductive Kind where
  /-- A word that begins with a digit. -/
  | number
  /-- A word that begins with a letter or an underscore, keywords included. -/
  | identifier
  /-- Any other character, whether the grammar has a use for it or not. -/
  | symbol
deriving DecidableEq

/-- The kind of a text, read off its first character. -/
def Kind.ofText (text : String) : Kind :=
  match text.toList with
  | [] => .symbol
  | c :: _ =>
    if isAlphabetic c || c == '_' then .identifier else if isNumeric c then .number else .symbol

/-- The bytes of a source text from `start` up to, but not including, `stop`. -/
structure Span where
  /-- The first byte. -/
  start : Nat
  /-- The byte after the last one. -/
  stop : Nat
deriving DecidableEq

/-- A piece of a source text. -/
structure Token where
  /-- The characters of the piece. -/
  text : String
  /-- The byte of the source at which the piece starts. -/
  start : Nat
deriving DecidableEq

namespace Token

/-- The byte of the source after the token. -/
def stop (t : Token) : Nat := t.start + t.text.utf8ByteSize

/-- The bytes of the source that the token covers. -/
def span (t : Token) : Span := ⟨t.start, t.stop⟩

/-- The token in a source with some more bytes before it. -/
def shift (bytes : Nat) (t : Token) : Token := { t with start := t.start + bytes }

/-- What the token stands for. -/
def kind (t : Token) : Kind := .ofText t.text

/-- Whether the token holds blanks only. -/
def blank (t : Token) : Bool := t.text.toList.all isBlank

end Token

/-! ## Cutting a text into tokens -/

/-- Cuts a text into its longest words and its other characters. -/
def pieces (text : List Char) : List (List Char) :=
  text.splitBy fun a b => isWord a && isWord b

namespace Token

/-- Lays texts end to end, the first of them at the byte `start`. -/
def layOut (start : Nat) : List String → List Token
  | [] => []
  | text :: rest => ⟨text, start⟩ :: layOut (start + text.utf8ByteSize) rest

end Token

/-- The tokens of a source text, in order. -/
def lex (source : String) : List Token :=
  (Token.layOut 0 ((pieces source.toList).map String.ofList)).filter (!·.blank)

/-- The texts of the tokens of a source text. -/
def tokenize (source : String) : List String := (lex source).map Token.text

/-- Whether a text can name a variable or a type: it is a single token, and an identifier. -/
def isIdentifier (text : String) : Bool :=
  match lex text with
  | [t] => t.kind == .identifier && t.text == text
  | _ => false

/-- Whether a text is a single token, and a number. -/
def isNumber (text : String) : Bool :=
  match lex text with
  | [t] => t.kind == .number && t.text == text
  | _ => false

/-- The tokens of a source text with the same separator between any two of them. -/
def respace (separator source : String) : String := separator.intercalate (tokenize source)

end Detuple
