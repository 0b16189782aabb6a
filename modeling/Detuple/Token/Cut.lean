import Detuple.Token
import Mathlib.Data.List.Chain

/-!
# Ways of cutting a text

The tokens of a text, told without the function that finds them, in two ways. A `Cut` says where the
tokens are and nothing of how to find them. A `Scan` takes them off the front of the text, one by
one.
-/

namespace Detuple

open Unicode (isBlank)

/-!
## Cuts

A text is cut by saying where its tokens are: first comes a gap, then token after token, each with
the gap behind it. Gaps hold blanks only, and a token is a word or a mark. The gap between two words
must not be empty, since the words would be one. This leaves no choice: every text has one such cut.
-/

/-- The text is a run of characters that belong to a word. -/
def IsWord (text : String) : Prop := text ≠ "" ∧ ∀ c ∈ text.toList, isWord c = true

/-- The text is one character that is neither blank nor part of a word. -/
def IsMark (text : String) : Prop :=
  ∃ c, text = String.singleton c ∧ isWord c = false ∧ isBlank c = false

/-- The text is what a token can be. -/
def IsToken (text : String) : Prop := IsWord text ∨ IsMark text

/-- The text is empty or holds blanks only. -/
def IsGap (text : String) : Prop := ∀ c ∈ text.toList, isBlank c = true

/-- The text of some tokens, each with the gap behind it. -/
def joinParts (parts : List (String × String)) : String :=
  String.join (parts.map fun part => part.1 ++ part.2)

/-- Each part is a token and the gap behind it, and words are kept apart from each other. -/
structure Separated (parts : List (String × String)) : Prop where
  token : ∀ part ∈ parts, IsToken part.1
  gap : ∀ part ∈ parts, IsGap part.2
  apart : parts.IsChain fun part next => IsWord part.1 → IsWord next.1 → part.2 ≠ ""

/-- A text that has been cut into tokens and gaps. -/
structure Cut where
  /-- The gap before the first token. -/
  lead : String
  /-- The tokens, each with the gap behind it. -/
  parts : List (String × String)
  lead_gap : IsGap lead
  separated : Separated parts

namespace Cut

/-- The text that has been cut. -/
def text (cut : Cut) : String := cut.lead ++ joinParts cut.parts

/-- The tokens, without the gaps. -/
def tokens (cut : Cut) : List String := cut.parts.map Prod.fst

/-- What stands before the token of the given number, counted from zero. -/
def before (cut : Cut) (k : Nat) : String := cut.lead ++ joinParts (cut.parts.take k)

end Cut

/-!
## Scanning from left to right

Skip the blanks, take the longest word, or else one character, and go on until no token is left;
what remains must be blank. Each of these steps may fail, and repeating one may get stuck; that
`scan` does neither on any text is a theorem and not part of the definition.
-/

/-- Takes something off the front of a text and leaves the rest of it, or fails. -/
abbrev Scan (α : Type) := (text : List Char) → Option (α × List Char)

namespace Scan

variable {α β : Type}

/-- Takes characters as long as they pass a test. -/
def run (p : Char → Bool) : Scan (List Char) := fun text =>
  some (text.takeWhile p, text.dropWhile p)

/-- Takes characters as long as they pass a test, but at least one. -/
def run1 (p : Char → Bool) : Scan (List Char)
  | [] => none
  | c :: rest => if p c then run p (c :: rest) else none

/-- Takes one character. -/
def one : Scan (List Char)
  | [] => none
  | c :: rest => some ([c], rest)

/-- Takes what the first scan takes, or if it fails what the second takes. -/
def orElse (first second : Scan α) : Scan α := fun text => (first text).or (second text)

/-- Takes an item and drops what the first scan takes before it. -/
def skipBefore (skip : Scan β) (item : Scan α) : Scan α := fun text =>
  (skip text).bind fun (_, rest) => item rest

/-- Takes an item and drops what the second scan takes behind it. -/
def skipAfter (item : Scan α) (skip : Scan β) : Scan α := fun text =>
  (item text).bind fun (x, rest) => (skip rest).map fun (_, left) => (x, left)

/-- Takes items until none is left. Where an item fails the text is left as it was before. An item
that takes no character could be taken for ever: this is a failure. -/
def many (item : Scan α) (text : List Char) : Option (List α × List Char) :=
  match item text with
  | none => some ([], text)
  | some (x, rest) =>
    if rest.length < text.length then (many item rest).map fun (xs, left) => (x :: xs, left)
    else none
termination_by text.length

/-- Takes the whole text or fails. -/
def whole (item : Scan α) (text : List Char) : Option α :=
  match item text with
  | some (x, []) => some x
  | _ => none

end Scan

open Scan in
/-- Takes a token and the blanks before it. -/
def scanToken : Scan (List Char) := skipBefore (run isBlank) (orElse (run1 isWord) one)

open Scan in
/-- The texts of the tokens of a source text, unless scanning it fails. -/
def scan (source : String) : Option (List String) :=
  (whole (skipAfter (many scanToken) (run isBlank)) source.toList).map (List.map String.ofList)

end Detuple
