import Detuple.Token
import Mathlib.Data.List.SplitBy

/-!
# Proofs: cutting texts into tokens

The tokens of a text are its pieces without the blank ones. A text that is put together from parts
is cut part by part, provided no word runs from one part into the next (`tokenize_append`), and a
token that is cut by itself stays whole (`tokenize_of_mem`).
-/

namespace Detuple

open Unicode (isBlank)

/-! ## Pieces and tokens -/

theorem Token.map_text_layOut (start : Nat) (texts : List String) :
    (layOut start texts).map Token.text = texts := by
  induction texts generalizing start with
  | nil => rfl
  | cons text rest ih => simp [layOut, ih]

/-- The tokens of a text that begins at some byte of a source text. -/
def lexAt (start : Nat) (text : String) : List Token :=
  (Token.layOut start ((pieces text.toList).map String.ofList)).filter (!·.blank)

/-- The texts of the tokens do not depend on where the text begins. -/
theorem map_text_lexAt (start : Nat) (text : String) : (lexAt start text).map Token.text =
    ((pieces text.toList).map String.ofList).filter (fun text => !text.toList.all isBlank) := by
  have hblank : (fun t : Token => !t.blank) =
      (fun text => !text.toList.all isBlank) ∘ Token.text := rfl
  rw [lexAt, hblank, ← List.filter_map, Token.map_text_layOut]

/-- Texts that are laid out further on are shifted by as much. -/
theorem Token.layOut_add (start bytes : Nat) (texts : List String) :
    layOut (start + bytes) texts = (layOut start texts).map (Token.shift bytes) := by
  induction texts generalizing start with
  | nil => rfl
  | cons text rest ih =>
    rw [layOut, layOut, List.map_cons, ← ih, Nat.add_right_comm]
    rfl

/-- Further on in a source, a text has the same tokens further on. -/
theorem lexAt_add (start bytes : Nat) (text : String) :
    lexAt (start + bytes) text = (lexAt start text).map (Token.shift bytes) := by
  have hblank : (fun t : Token => !t.blank) ∘ Token.shift bytes = fun t : Token => !t.blank := rfl
  rw [lexAt, lexAt, Token.layOut_add, List.filter_map, hblank]

theorem map_text_shift (bytes : Nat) (ts : List Token) :
    (ts.map (Token.shift bytes)).map Token.text = ts.map Token.text := by
  rw [List.map_map]
  rfl

/-- The tokens are the pieces that are not blank. -/
theorem tokenize_eq (source : String) : tokenize source =
    ((pieces source.toList).map String.ofList).filter (fun text => !text.toList.all isBlank) :=
  map_text_lexAt 0 source

/-- A text of blanks has no tokens. -/
theorem tokenize_of_blank {text : String} (h : ∀ c ∈ text.toList, isBlank c = true) :
    tokenize text = [] := by
  rw [tokenize_eq, List.filter_eq_nil_iff]
  intro piece hp
  obtain ⟨cs, hcs, rfl⟩ := List.mem_map.1 hp
  have hsub : ∀ c ∈ cs, isBlank c = true := fun c hc =>
    h c (List.flatten_splitBy (fun a b => isWord a && isWord b) text.toList ▸
      List.mem_flatten_of_mem hcs hc)
  simpa using hsub

/-- A token is its own only token. -/
theorem tokenize_of_mem {source text : String} (h : text ∈ tokenize source) :
    tokenize text = [text] := by
  rw [tokenize_eq, List.mem_filter] at h
  obtain ⟨cs, hcs, rfl⟩ := List.mem_map.1 h.1
  have hone : pieces cs = [cs] :=
    List.splitBy_of_isChain (List.ne_nil_of_mem_splitBy hcs) (List.isChain_of_mem_splitBy hcs)
  rw [tokenize_eq, String.toList_ofList, hone, List.map_singleton, List.filter_singleton, h.2]
  rfl

/-! ## Texts side by side -/

/-- No word runs from the end of the first text into the second. -/
def Apart (a b : String) : Prop :=
  ∀ x ∈ a.toList.getLast?, ∀ y ∈ b.toList.head?, (isWord x && isWord y) = false

/-- Texts that are apart are taken to pieces one by one. -/
theorem pieces_append {a b : String} (h : Apart a b) :
    pieces (a ++ b).toList = pieces a.toList ++ pieces b.toList := by
  rw [String.toList_append]
  exact List.splitBy_append h

/-- Texts that are apart are cut one by one. -/
theorem tokenize_append {a b : String} (h : Apart a b) :
    tokenize (a ++ b) = tokenize a ++ tokenize b := by
  rw [tokenize_eq, tokenize_eq, tokenize_eq, pieces_append h, List.map_append, List.filter_append]

/-- The end of the text is not in a word. -/
def ClosedEnd (a : String) : Prop := ∀ x ∈ a.toList.getLast?, isWord x = false

/-- The start of the text is not in a word. -/
def ClosedStart (b : String) : Prop := ∀ y ∈ b.toList.head?, isWord y = false

-- The instances are named: a search could also come up with a test of all characters there are.
instance (a : String) : Decidable (ClosedEnd a) := Option.decidableForallMem a.toList.getLast?

instance (b : String) : Decidable (ClosedStart b) := Option.decidableForallMem b.toList.head?

/-- A text whose end is not in a word is apart from whatever follows it. -/
theorem ClosedEnd.apart {a : String} (h : ClosedEnd a) (b : String) : Apart a b := by
  intro x hx y _
  rw [h x hx, Bool.false_and]

/-- A text whose start is not in a word is apart from whatever stands before it. -/
theorem ClosedStart.apart {b : String} (h : ClosedStart b) (a : String) : Apart a b := by
  intro x _ y hy
  rw [h y hy, Bool.and_false]

theorem tokenize_append_of_closedEnd {a : String} (h : ClosedEnd a) (b : String) :
    tokenize (a ++ b) = tokenize a ++ tokenize b :=
  tokenize_append (h.apart b)

theorem tokenize_append_of_closedStart {b : String} (h : ClosedStart b) (a : String) :
    tokenize (a ++ b) = tokenize a ++ tokenize b :=
  tokenize_append (h.apart a)

/-- A text goes on starting as it does when something is put behind it. -/
theorem ClosedStart.append {a : String} (h : ClosedStart a) (hne : a ≠ "") (b : String) :
    ClosedStart (a ++ b) := by
  intro y hy
  rw [String.toList_append, List.head?_append] at hy
  cases hhead : a.toList.head? with
  | none => exact absurd (String.toList_eq_nil_iff.1 (List.head?_eq_none_iff.1 hhead)) hne
  | some x =>
    rw [hhead, Option.some_or] at hy
    exact h y (hhead ▸ hy)

/-- A text goes on ending as it does when something is put before it. -/
theorem ClosedEnd.append {b : String} (h : ClosedEnd b) (hne : b ≠ "") (a : String) :
    ClosedEnd (a ++ b) := by
  intro x hx
  rw [String.toList_append, List.getLast?_append] at hx
  cases hlast : b.toList.getLast? with
  | none => exact absurd (String.toList_eq_nil_iff.1 (List.getLast?_eq_none_iff.1 hlast)) hne
  | some y =>
    rw [hlast, Option.some_or] at hx
    exact h x (hlast ▸ hx)

/-- The text keeps what stands before it apart from what stands behind it. -/
def Separates (t : String) : Prop := t ≠ "" ∧ ClosedStart t ∧ ClosedEnd t

instance (t : String) : Decidable (Separates t) :=
  inferInstanceAs (Decidable (t ≠ "" ∧ ClosedStart t ∧ ClosedEnd t))

/-- What stands on both sides of a text that keeps it apart is cut by itself. -/
theorem tokenize_infix {t : String} (h : Separates t) (a b : String) :
    tokenize (a ++ (t ++ b)) = tokenize a ++ (tokenize t ++ tokenize b) := by
  rw [tokenize_append_of_closedStart (h.2.1.append h.1 b), tokenize_append_of_closedEnd h.2.2]

/-! ## Single tokens -/

/-- The test for a single token of some kind, in terms of the token texts. -/
theorem lex_single_iff {text : String} {kind : Kind} :
    (match lex text with | [t] => t.kind == kind && t.text == text | _ => false) = true ↔
      tokenize text = [text] ∧ Kind.ofText text = kind := by
  unfold tokenize
  rcases lex text with _ | ⟨t, _ | ⟨u, rest⟩⟩
  · simp
  · simp only [Bool.and_eq_true, beq_iff_eq, Token.kind, List.map_cons, List.map_nil,
      List.cons.injEq, and_true]
    constructor
    · rintro ⟨hk, rfl⟩
      exact ⟨rfl, hk⟩
    · rintro ⟨rfl, hk⟩
      exact ⟨hk, rfl⟩
  · simp

/-- A text is an identifier exactly if it is its own only token, and of that kind. -/
theorem isIdentifier_iff {text : String} :
    isIdentifier text = true ↔ tokenize text = [text] ∧ Kind.ofText text = .identifier :=
  lex_single_iff

/-- What is no symbol is none of the marks. -/
theorem Kind.ne_of_symbol {text mark : String} (h : Kind.ofText text ≠ .symbol)
    (hmark : Kind.ofText mark = .symbol) : text ≠ mark := by
  rintro rfl
  exact h hmark

end Detuple
