import Detuple.Detupling
import Detuple.Proofs.Cuts
import Detuple.Proofs.Refusals

/-!
# Proofs: spacing is not read

Two texts with the same tokens differ in where these are, and in nothing that reading looks at. So
the state in which reading stops is the same, and if a token is refused it is the token of the same
number in both texts. Such texts are easy to come by: any gaps will do between the
tokens of a text as long as two words are kept apart (`tokenize_joinTokens`).
-/

namespace Detuple

/-! ## Other spacing, same tokens -/

/-- Tokens with a separator that is chosen for each two neighbours. -/
def joinTokens (between : String → String → String) : List String → String
  | [] => ""
  | [t] => t
  | t :: u :: rest => t ++ (between t u ++ joinTokens between (u :: rest))

/-- Spacing a text anew puts the same separator between any two tokens. -/
theorem respace_eq_joinTokens (separator source : String) :
    respace separator source = joinTokens (fun _ _ => separator) (tokenize source) := by
  unfold respace
  induction tokenize source with
  | nil => exact String.intercalate_nil
  | cons t rest ih =>
    cases rest with
    | nil => exact String.intercalate_singleton
    | cons u rest => rw [String.intercalate_cons_cons, ih, String.append_assoc, joinTokens]

/-- Whether a token is a word. -/
def wordToken (t : String) : Bool := t.toList.all isWord

/-- The tokens of a text with a separator between two words only. -/
def compact (separator source : String) : String :=
  joinTokens (fun t u => if wordToken t && wordToken u then separator else "") (tokenize source)

theorem wordToken_of_isWord {t : String} (h : IsWord t) : wordToken t = true :=
  List.all_eq_true.2 h.2

/-- Tokens with separators between them make up parts of a cut, if the separators are gaps and no
two words are put side by side. -/
theorem joinTokens_eq_joinParts {between : String → String → String}
    (hgap : ∀ t u, IsGap (between t u))
    (hwords : ∀ t u, IsWord t → IsWord u → between t u ≠ "") {ts : List String}
    (hts : ∀ t ∈ ts, IsToken t) : ∃ parts, Separated parts ∧ parts.map Prod.fst = ts ∧
      joinParts parts = joinTokens between ts := by
  induction ts with
  | nil => exact ⟨[], separated_nil, rfl, rfl⟩
  | cons t rest ih =>
    have ht : IsToken t := hts t List.mem_cons_self
    obtain ⟨parts, hparts, rfl, hjoin⟩ := ih fun u hu => hts u (List.mem_cons_of_mem _ hu)
    cases parts with
    | nil =>
      refine ⟨[(t, "")], separated_nil.cons ht isGap_empty ?_, rfl, String.append_empty⟩
      intro next hnext
      cases hnext
    | cons next parts =>
      refine ⟨(t, between t next.1) :: next :: parts, hparts.cons ht (hgap t next.1) ?_, rfl, ?_⟩
      · intro part hpart hword hword'
        cases hpart
        exact hwords t next.1 hword hword'
      · rw [joinParts_cons, hjoin]
        rfl

/-- A text that is made of tokens with such separators has these tokens. -/
theorem tokenize_joinTokens {between : String → String → String}
    (hgap : ∀ t u, IsGap (between t u))
    (hwords : ∀ t u, IsWord t → IsWord u → between t u ≠ "") {ts : List String}
    (hts : ∀ t ∈ ts, IsToken t) : tokenize (joinTokens between ts) = ts := by
  obtain ⟨parts, hparts, rfl, hjoin⟩ := joinTokens_eq_joinParts hgap hwords hts
  rw [← hjoin, tokenize]
  have hlex : lex (joinParts parts) = lexAt 0 (joinParts parts) := rfl
  rw [hlex, hparts.lexAt_joinParts, map_text_tokensAt]

/-- Blanks between any two tokens, or only between two words, leave the tokens as they are. -/
theorem tokenize_respace {separator : String} (hne : separator ≠ "") (hgap : IsGap separator)
    (source : String) : tokenize (respace separator source) = tokenize source ∧
      tokenize (compact separator source) = tokenize source := by
  constructor
  · rw [respace_eq_joinTokens]
    exact tokenize_joinTokens (fun _ _ => hgap) (fun _ _ _ _ => hne)
      fun t ht => isToken_of_mem_tokenize ht
  · refine tokenize_joinTokens (fun t u => ?_) (fun t u ht hu => ?_)
      fun t ht => isToken_of_mem_tokenize ht
    · cases wordToken t && wordToken u with
      | true => exact hgap
      | false => exact isGap_empty
    · rw [wordToken_of_isWord ht, wordToken_of_isWord hu]
      exact hne

/-! ## Two runs on the same tokens -/

/-- **Texts with the same tokens are read alike**: both as the same program, or both end too early,
or in both the token of the same number is refused, which is the same text, for not being the same
thing. Spacing a text anew, with blanks between any two tokens or with blanks only between words,
keeps the tokens. -/
theorem parse_spacing :
    (∀ source source' : String, tokenize source = tokenize source' →
      (∃ b, parse source = .ok b ∧ parse source' = .ok b) ∨
      (parse source = .error (.unexpectedEnd source.utf8ByteSize) ∧
        parse source' = .error (.unexpectedEnd source'.utf8ByteSize)) ∨
      ∃ (wanted : Wanted) (k : Nat) (found found' : Token),
        (lex source)[k]? = some found ∧ (lex source')[k]? = some found' ∧
        found.text = found'.text ∧ parse source = .error (.refused wanted found) ∧
        parse source' = .error (.refused wanted found')) ∧
    ∀ separator source : String, separator ≠ "" → IsGap separator →
      tokenize (respace separator source) = tokenize source ∧
        tokenize (compact separator source) = tokenize source := by
  constructor
  · intro source source' heq
    rcases parse_cases source with ⟨b, hb⟩ | ⟨last, hsteps, hopen, hend⟩ |
      ⟨read, t, rest, last, hlex, hsteps, hstep, hrefused⟩
    · refine Or.inl ⟨b, hb, ?_⟩
      rw [parse_eq_ok_iff_steps] at hb ⊢
      rw [← heq, hb]
    · rw [heq] at hsteps
      exact Or.inr (Or.inl ⟨hend, parse_of_end hsteps hopen⟩)
    · -- The second text has tokens of the same texts before the refused one.
      have hmap : (lex source').map Token.text =
          read.map Token.text ++ t.text :: rest.map Token.text := by
        rw [← List.map_cons, ← List.map_append, ← hlex]
        exact heq.symm
      obtain ⟨read', left, hlex', hread', hleft⟩ := List.map_eq_append_iff.1 hmap
      obtain ⟨t', rest', rfl, ht', -⟩ := List.map_eq_cons_iff.1 hleft
      have hlength : read'.length = read.length := by
        rw [← List.length_map Token.text, hread', List.length_map]
      rw [← hread'] at hsteps
      rw [← ht'] at hstep
      refine Or.inr (Or.inr ⟨last.wanted, read.length, t, t', ?_, ?_, ht'.symm, hrefused,
        parse_of_refusal hlex' hsteps hstep⟩)
      · rw [hlex]
        simp
      · rw [hlex', ← hlength]
        simp
  · intro separator source hne hgap
    exact tokenize_respace hne hgap source

/-- A semicolon is missed at the same token, wherever that is. -/
theorem parse_spacing_semicolon :
    tokenize "\x7bvar x=1\x7d" = tokenize "\x7b\n  var x\n  = 1 \x7d\n" ∧
      parse "\x7bvar x=1\x7d" = .error (.refused .semicolon ⟨"\x7d", 8⟩) ∧
      ∃ (k : Nat) (found' : Token), (lex "\x7bvar x=1\x7d")[k]? = some ⟨"\x7d", 8⟩ ∧
        (lex "\x7b\n  var x\n  = 1 \x7d\n")[k]? = some found' ∧ found'.text = "\x7d" ∧
        parse "\x7b\n  var x\n  = 1 \x7d\n" = .error (.refused .semicolon found') := by
  have htokens : tokenize "\x7bvar x=1\x7d" = tokenize "\x7b\n  var x\n  = 1 \x7d\n" := by rfl
  have hparse : parse "\x7bvar x=1\x7d" = .error (.refused .semicolon ⟨"\x7d", 8⟩) := by rfl
  refine ⟨htokens, hparse, ?_⟩
  rcases parse_spacing.1 _ _ htokens with ⟨b, hb, -⟩ | ⟨hend, -⟩ |
    ⟨wanted, k, found, found', hk, hk', htext, hrefused, hrefused'⟩
  · cases hparse.symm.trans hb
  · cases hparse.symm.trans hend
  · cases hparse.symm.trans hrefused
    exact ⟨k, found', hk, hk', htext.symm, hrefused'⟩

end Detuple
