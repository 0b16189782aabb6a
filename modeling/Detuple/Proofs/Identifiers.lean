import Detuple.Proofs.Completion
import Detuple.Proofs.Descent

/-!
# Proofs: identifiers

Whether a text is an identifier is decided by cutting it, but where a name is read only the kind of
a token is looked at, and with it only the first character. The two agree since a token is a word or
a mark (`IsToken`): a mark is a symbol, a word is none, and a word that begins like a name is one.
So an identifier is known by its characters, and a name that is read by its first one.
-/

namespace Detuple

open Unicode (isAlphabetic isNumeric)

/-! ## Kinds -/

/-- The characters of words are letters, digits and the underscore. -/
theorem isWord_iff {c : Char} :
    isWord c = true ↔ isAlphabetic c = true ∨ isNumeric c = true ∨ c = '_' := by
  simp only [isWord, Bool.or_eq_true, beq_iff_eq, or_assoc]

theorem isWord_eq_false_iff {c : Char} :
    isWord c = false ↔ isAlphabetic c = false ∧ isNumeric c = false ∧ c ≠ '_' := by
  simp only [isWord, Bool.or_eq_false_iff, beq_eq_false_iff_ne, and_assoc]

/-- A text is of the kind of identifiers exactly if it begins with a letter or an underscore. -/
theorem Kind.ofText_eq_identifier_iff {text : String} : Kind.ofText text = .identifier ↔
    ∃ first rest, text.toList = first :: rest ∧ (isAlphabetic first = true ∨ first = '_') := by
  unfold Kind.ofText
  cases text.toList with
  | nil => simp
  | cons first rest =>
    by_cases hstart : (isAlphabetic first || first == '_') = true
    · simp only [if_pos hstart, true_iff]
      exact ⟨first, rest, rfl, by simpa using hstart⟩
    · have hkind : (if isNumeric first = true then Kind.number else .symbol) ≠ .identifier := by
        split <;> simp
      simp only [if_neg hstart, hkind, false_iff]
      rintro ⟨_, _, ⟨⟩, h⟩
      exact hstart (by simpa using h)

/-- A text is a symbol exactly if its first character belongs to no word. -/
theorem Kind.ofText_eq_symbol_iff {text : String} {first : Char} {rest : List Char}
    (h : text.toList = first :: rest) : Kind.ofText text = .symbol ↔ isWord first = false := by
  rw [isWord_eq_false_iff, Kind.ofText, h]
  cases halpha : isAlphabetic first <;> cases hnum : isNumeric first <;>
    by_cases hunder : first = '_' <;> simp [halpha, hnum, hunder]

/-- A mark is a symbol. -/
theorem IsMark.kind {t : String} (h : IsMark t) : Kind.ofText t = .symbol := by
  obtain ⟨c, rfl, hc, -⟩ := h
  exact (Kind.ofText_eq_symbol_iff (String.toList_singleton c)).2 hc

/-- A word is no symbol. -/
theorem IsWord.kind_ne_symbol {t : String} (h : IsWord t) : Kind.ofText t ≠ .symbol := by
  obtain ⟨c, cs, hcs⟩ := List.exists_cons_of_ne_nil (mt String.toList_eq_nil_iff.1 h.1)
  have hc : isWord c = true := h.2 c (by rw [hcs]; exact List.mem_cons_self)
  rw [Ne, Kind.ofText_eq_symbol_iff hcs, hc]
  exact Bool.true_eq_false.mp

/-- Among the tokens, the symbols are the marks. -/
theorem IsToken.kind_eq_symbol_iff {t : String} (h : IsToken t) :
    Kind.ofText t = .symbol ↔ IsMark t := by
  constructor
  · intro hkind
    exact h.resolve_left fun hword => hword.kind_ne_symbol hkind
  · exact IsMark.kind

/-! ## Single tokens -/

/-- What can be a token is its own only token. -/
theorem IsToken.singleToken {t : String} (h : IsToken t) : SingleToken t := by
  have hmap := map_text_lexAt 0 t
  rw [lexAt_token 0 h, ← tokenize_eq] at hmap
  exact hmap.symm

/-- An identifier is a word that begins like one. -/
theorem isIdentifier_iff_isWord {text : String} :
    isIdentifier text = true ↔ IsWord text ∧ Kind.ofText text = .identifier := by
  rw [isIdentifier_iff]
  refine and_congr_left fun hkind => ⟨fun htoken => ?_, fun hword => ?_⟩
  · refine (SingleToken.isToken htoken).resolve_right fun hmark => ?_
    rw [hmark.kind] at hkind
    cases hkind
  · exact IsToken.singleToken (Or.inl hword)

/-- A token is an identifier as soon as it begins like one. -/
theorem IsToken.isIdentifier_iff {t : String} (h : IsToken t) :
    isIdentifier t = true ↔ Kind.ofText t = .identifier :=
  Detuple.isIdentifier_iff.trans (and_iff_right h.singleToken)

/-! ## Names that are read -/

section

variable {goal : Phrase} {t : String}

/-- The state behind `new` takes a token exactly if it is an identifier. -/
theorem State.step_typeName (h : IsToken t) (place : Place goal .expr) :
    (State.typeName place).step t =
      if isIdentifier t = true then some (.args (.new t place)) else none := by
  simp only [State.step, h.isIdentifier_iff]

/-- The state behind `var` takes a token exactly if it is an identifier. -/
theorem State.step_varName (h : IsToken t) (place : Place goal .stmt) :
    (State.varName place).step t =
      if isIdentifier t = true then some (.equals t place) else none := by
  simp only [State.step, h.isIdentifier_iff]

/-- Reading by descent takes a token for a name exactly if it is an identifier. -/
theorem Descent.on_expectName (h : IsToken t) (rest : List String) :
    Descent.expectName.on (t :: rest) =
      if isIdentifier t = true then some (.ok t, rest)
      else some (.error (.expected "identifier"), t :: rest) := by
  by_cases hname : isIdentifier t = true
  · rw [if_pos hname, Descent.on_expectName_of_identifier (h.isIdentifier_iff.1 hname)]
  · rw [if_neg hname, Descent.on_expectName_of_ne (mt h.isIdentifier_iff.2 hname)]

end

/-- **An identifier is a word that begins with a letter or an underscore**, and of the tokens of a
text the identifiers are exactly those of that kind; the symbols are the single characters that
belong to no word. So wherever a name is read, the identifiers are taken and no other tokens. -/
theorem isIdentifier_agrees_kind :
    (∀ text : String, isIdentifier text = true ↔
      ∃ first rest, text.toList = first :: rest ∧ (isAlphabetic first = true ∨ first = '_') ∧
        ∀ c ∈ text.toList, isAlphabetic c = true ∨ isNumeric c = true ∨ c = '_') ∧
    ∀ source : String, ∀ token ∈ lex source,
      (token.kind = .identifier ↔ isIdentifier token.text = true) ∧
      (token.kind = .symbol ↔ ∃ c, token.text = String.singleton c ∧ isWord c = false) ∧
      (∀ rest : List String, Descent.expectName.on (token.text :: rest) =
        if isIdentifier token.text = true then some (.ok token.text, rest)
        else some (.error (.expected "identifier"), token.text :: rest)) ∧
      ∀ (goal : Phrase) (place : Place goal .expr) (place' : Place goal .stmt),
        (State.typeName place).step token.text =
          (if isIdentifier token.text = true then some (.args (.new token.text place)) else none) ∧
        (State.varName place').step token.text =
          if isIdentifier token.text = true then some (.equals token.text place') else none := by
  refine ⟨fun text => ?_, fun source token hmem => ?_⟩
  · rw [isIdentifier_iff_isWord, Kind.ofText_eq_identifier_iff]
    constructor
    · rintro ⟨hword, first, rest, hchars, hstart⟩
      exact ⟨first, rest, hchars, hstart, fun c hc => isWord_iff.1 (hword.2 c hc)⟩
    · rintro ⟨first, rest, hchars, hstart, hall⟩
      have hne : text ≠ "" := by
        rintro rfl
        cases hchars
      exact ⟨⟨hne, fun c hc => isWord_iff.2 (hall c hc)⟩, first, rest, hchars, hstart⟩
  · have htoken : IsToken token.text := isToken_of_mem_tokenize (List.mem_map_of_mem hmem)
    refine ⟨htoken.isIdentifier_iff.symm, htoken.kind_eq_symbol_iff.trans ⟨?_, ?_⟩,
      Descent.on_expectName htoken, fun goal place place' =>
        ⟨State.step_typeName htoken place, State.step_varName htoken place'⟩⟩
    · rintro ⟨c, htext, hc, -⟩
      exact ⟨c, htext, hc⟩
    · -- A single character that belongs to no word is no word either, so it is a mark.
      rintro ⟨c, htext, hc⟩
      refine htoken.resolve_left fun hword => ?_
      have hc' : isWord c = true := hword.2 c (by rw [htext]; simp)
      rw [hc] at hc'
      cases hc'

/-- A letter that is also a number begins a name, a number that goes on with it is none, and an
accent behind a letter is a symbol. -/
theorem isIdentifier_agrees_kind_unicode :
    (lex "Ⅷ_+8Ⅷ e\u0300").map Token.text = ["Ⅷ_", "+", "8Ⅷ", "e", "\u0300"] ∧
      (∃ first rest, "Ⅷ_".toList = first :: rest ∧
        (isAlphabetic first = true ∨ first = '_') ∧
        ∀ c ∈ "Ⅷ_".toList, isAlphabetic c = true ∨ isNumeric c = true ∨ c = '_') ∧
      isIdentifier "Ⅷ_" = true ∧ isIdentifier "8Ⅷ" = false ∧
      ∃ c, "\u0300" = String.singleton c ∧ isWord c = false := by
  obtain ⟨hchars, htokens⟩ := isIdentifier_agrees_kind
  have hname := htokens "Ⅷ_+8Ⅷ e\u0300" ⟨"Ⅷ_", 0⟩ (by decide +kernel)
  have hnum := htokens "Ⅷ_+8Ⅷ e\u0300" ⟨"8Ⅷ", 5⟩ (by decide +kernel)
  have haccent := htokens "Ⅷ_+8Ⅷ e\u0300" ⟨"\u0300", 11⟩ (by decide +kernel)
  have hletter : isIdentifier "Ⅷ_" = true := hname.1.1 (by decide +kernel)
  refine ⟨by decide +kernel, (hchars "Ⅷ_").1 hletter, hletter, ?_,
    haccent.2.1.1 (by decide +kernel)⟩
  exact Bool.eq_false_iff.2 (mt hnum.1.2 (by decide +kernel))

end Detuple
