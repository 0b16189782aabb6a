import Detuple.Proofs.Lexing
import Detuple.Token.Cut
import Mathlib.Data.List.Chain

/-!
# Proofs: every text has one cut

The tokens of a text that is put together from tokens and gaps are these tokens, at the bytes where
they were put (`Cut.lex_text`): no token joins its neighbours, since a blank or a mark stands
between any two words. Every text can be put together like this (`exists_cut`), one character after
another, and in one way only (`Cut.eq_of_text_eq`), because a gap goes as far as the blanks go. So
the cut of a text is a way to talk about its tokens and their places without cutting anything.
-/

namespace Detuple

open Unicode

/-! ## Blanks, words and marks -/

/-- No blank belongs to a word. This is all that matters of the classes of characters. -/
theorem isWord_of_isBlank {c : Char} (h : isBlank c = true) : isWord c = false := by
  have halpha : isAlphabetic c = false :=
    Ranges.not_has_of_disjoint (by decide +kernel : blankRanges.disjoint alphabeticRanges = true) h
  have hnum : isNumeric c = false :=
    Ranges.not_has_of_disjoint (by decide +kernel : blankRanges.disjoint numericRanges = true) h
  have hunder : c ≠ '_' := by
    rintro rfl
    exact absurd h (by decide)
  rw [isWord, halpha, hnum, beq_eq_false_iff_ne.2 hunder]
  rfl

/-- No character of a word is blank. -/
theorem isBlank_of_isWord {c : Char} (h : isWord c = true) : isBlank c = false := by
  refine Bool.eq_false_iff.2 fun hb => ?_
  rw [isWord_of_isBlank hb] at h
  cases h

/-- A gap does not begin within a word. -/
theorem IsGap.closedStart {w : String} (h : IsGap w) : ClosedStart w := by
  intro y hy
  exact isWord_of_isBlank (h y (List.mem_of_mem_head? hy))

/-- A gap does not end within a word. -/
theorem IsGap.closedEnd {w : String} (h : IsGap w) : ClosedEnd w := by
  intro x hx
  exact isWord_of_isBlank (h x (List.mem_of_mem_getLast? hx))

theorem isGap_empty : IsGap "" := by
  intro c hc
  cases hc

/-- A mark is no word. -/
theorem IsMark.not_isWord {t : String} (h : IsMark t) : ¬ IsWord t := by
  obtain ⟨c, rfl, hc, -⟩ := h
  intro hword
  have := hword.2 c (by simp)
  rw [hc] at this
  cases this

theorem IsMark.closedStart {t : String} (h : IsMark t) : ClosedStart t := by
  obtain ⟨c, rfl, hc, -⟩ := h
  intro y hy
  rw [String.toList_singleton, List.head?_cons, Option.mem_some_iff] at hy
  rw [← hy, hc]

theorem IsMark.closedEnd {t : String} (h : IsMark t) : ClosedEnd t := by
  obtain ⟨c, rfl, hc, -⟩ := h
  intro x hx
  rw [String.toList_singleton, List.getLast?_singleton, Option.mem_some_iff] at hx
  rw [← hx, hc]

theorem IsToken.ne_empty {t : String} (h : IsToken t) : t ≠ "" := by
  rcases h with hword | ⟨c, rfl, -, -⟩
  · exact hword.1
  · exact String.singleton_ne_empty

/-- A token holds no blanks. -/
theorem IsToken.isBlank_eq_false {t : String} (h : IsToken t) :
    ∀ c ∈ t.toList, isBlank c = false := by
  intro c hc
  rcases h with hword | ⟨d, rfl, -, hd⟩
  · exact isBlank_of_isWord (hword.2 c hc)
  · rw [String.toList_singleton, List.mem_singleton] at hc
    rw [hc, hd]

/-! ## Tokens and their places -/

/-- Texts are laid out behind the texts before them. -/
theorem Token.layOut_append (start : Nat) (as bs : List String) : layOut start (as ++ bs) =
    layOut start as ++ layOut (start + (String.join as).utf8ByteSize) bs := by
  induction as generalizing start with
  | nil => simp [layOut]
  | cons a as ih =>
    rw [List.cons_append, layOut, layOut, ih, List.cons_append, String.join_cons,
      String.utf8ByteSize_append, Nat.add_assoc]

/-- Put together, the pieces of a text are the text. -/
theorem join_pieces (text : String) :
    String.join ((pieces text.toList).map String.ofList) = text := by
  rw [← String.toList_inj, String.toList_join, List.flatMap_map]
  simp only [String.toList_ofList, List.flatMap_id']
  exact List.flatten_splitBy _ _

/-- Texts that are apart have their own tokens, those of the second behind the first. -/
theorem lexAt_append (start : Nat) {a b : String} (h : Apart a b) :
    lexAt start (a ++ b) = lexAt start a ++ lexAt (start + a.utf8ByteSize) b := by
  rw [lexAt, pieces_append h, List.map_append, Token.layOut_append, List.filter_append, join_pieces]
  rfl

/-- A gap has no tokens, wherever it begins. -/
theorem lexAt_gap (start : Nat) {w : String} (h : IsGap w) : lexAt start w = [] := by
  have hmap := map_text_lexAt start w
  rw [← tokenize_eq, tokenize_of_blank h] at hmap
  exact List.map_eq_nil_iff.1 hmap

/-- A token is cut as one token, wherever it begins. -/
theorem lexAt_token (start : Nat) {t : String} (h : IsToken t) : lexAt start t = [⟨t, start⟩] := by
  have hne : t.toList ≠ [] := mt String.toList_eq_nil_iff.1 h.ne_empty
  have hone : pieces t.toList = [t.toList] := by
    refine List.splitBy_of_isChain hne ?_
    rcases h with hword | ⟨c, rfl, -, -⟩
    · refine (List.pairwise_of_forall_mem_list fun x hx y hy => ?_).isChain
      rw [hword.2 x hx, hword.2 y hy]
      rfl
    · rw [String.toList_singleton]
      exact List.isChain_singleton c
  have hblank : Token.blank ⟨t, start⟩ = false := by
    obtain ⟨c, hc⟩ := List.exists_mem_of_ne_nil _ hne
    exact List.all_eq_false.2 ⟨c, hc, by simp [h.isBlank_eq_false c hc]⟩
  rw [lexAt, hone, List.map_singleton, String.ofList_toList, Token.layOut, Token.layOut,
    List.filter_singleton, hblank]
  rfl

/-! ## Parts -/

theorem joinParts_cons (t w : String) (rest : List (String × String)) :
    joinParts ((t, w) :: rest) = t ++ (w ++ joinParts rest) := by
  rw [joinParts, List.map_cons, String.join_cons, String.append_assoc]
  rfl

theorem joinParts_append (ps qs : List (String × String)) :
    joinParts (ps ++ qs) = joinParts ps ++ joinParts qs := by
  rw [joinParts, List.map_append, String.join_append]
  rfl

theorem separated_nil : Separated [] :=
  ⟨fun _ h => (List.not_mem_nil h).elim, fun _ h => (List.not_mem_nil h).elim, List.isChain_nil⟩

theorem Separated.tail {part : String × String} {rest : List (String × String)}
    (h : Separated (part :: rest)) : Separated rest :=
  ⟨fun p hp => h.token p (List.mem_cons_of_mem _ hp),
    fun p hp => h.gap p (List.mem_cons_of_mem _ hp),
    (List.isChain_cons.1 h.apart).2⟩

/-- The first of some parts are kept apart as well, and so are the last. -/
theorem Separated.of_append {ps qs : List (String × String)} (h : Separated (ps ++ qs)) :
    Separated ps ∧ Separated qs := by
  obtain ⟨hps, hqs, -⟩ := List.isChain_append.1 h.apart
  constructor
  · exact ⟨fun part hp => h.token part (List.mem_append_left _ hp),
      fun part hp => h.gap part (List.mem_append_left _ hp), hps⟩
  · exact ⟨fun part hp => h.token part (List.mem_append_right _ hp),
      fun part hp => h.gap part (List.mem_append_right _ hp), hqs⟩

/-- A token and a gap can be put in front of some parts, unless the token is a word, the gap is
empty and another word comes next. -/
theorem Separated.cons {t w : String} {rest : List (String × String)} (h : Separated rest)
    (ht : IsToken t) (hw : IsGap w)
    (hapart : ∀ next ∈ rest.head?, IsWord t → IsWord next.1 → w ≠ "") :
    Separated ((t, w) :: rest) := by
  refine ⟨?_, ?_, List.isChain_cons.2 ⟨hapart, h.apart⟩⟩
  · rintro part hp
    rcases List.mem_cons.1 hp with rfl | hp
    · exact ht
    · exact h.token part hp
  · rintro part hp
    rcases List.mem_cons.1 hp with rfl | hp
    · exact hw
    · exact h.gap part hp

/-- No word runs from a token into what stands behind it. -/
theorem Separated.apart_rest {t w : String} {rest : List (String × String)}
    (h : Separated ((t, w) :: rest)) : Apart t (w ++ joinParts rest) := by
  by_cases hw : w = ""
  · subst hw
    rw [String.empty_append]
    cases rest with
    | nil =>
      intro x _ y hy
      cases hy
    | cons next rest =>
      obtain ⟨t', w'⟩ := next
      rw [joinParts_cons]
      rcases h.token (t, "") List.mem_cons_self with hword | hmark
      · -- Two words would need a gap, so the next token is a mark.
        have hnext := (List.isChain_cons_cons.1 h.apart).1
        rcases h.tail.token (t', w') List.mem_cons_self with hword' | hmark'
        · exact absurd rfl (hnext hword hword')
        · have hne : t' ≠ "" := IsToken.ne_empty (Or.inr hmark')
          exact (hmark'.closedStart.append hne _).apart t
      · exact hmark.closedEnd.apart _
  · have hgap : IsGap w := h.gap (t, w) List.mem_cons_self
    exact (hgap.closedStart.append hw _).apart t

/-- The head of what follows a gap is not blank. -/
theorem Separated.head_joinParts {parts : List (String × String)} (h : Separated parts) :
    ∀ c ∈ (joinParts parts).toList.head?, isBlank c = false := by
  cases parts with
  | nil =>
    intro c hc
    cases hc
  | cons part rest =>
    obtain ⟨t, w⟩ := part
    have ht := h.token (t, w) List.mem_cons_self
    have hne : t.toList ≠ [] := mt String.toList_eq_nil_iff.1 ht.ne_empty
    intro c hc
    rw [joinParts_cons, String.toList_append, List.head?_append_of_ne_nil _ hne] at hc
    exact ht.isBlank_eq_false c (List.mem_of_mem_head? hc)

/-! ## The tokens of a cut -/

/-- The tokens of some parts, the first of which begins at the byte `start`. -/
def tokensAt (start : Nat) : List (String × String) → List Token
  | [] => []
  | (t, w) :: rest => ⟨t, start⟩ :: tokensAt (start + t.utf8ByteSize + w.utf8ByteSize) rest

theorem map_text_tokensAt (start : Nat) (parts : List (String × String)) :
    (tokensAt start parts).map Token.text = parts.map Prod.fst := by
  induction parts generalizing start with
  | nil => rfl
  | cons part rest ih => rw [tokensAt, List.map_cons, List.map_cons, ih]

/-- Each token begins behind the parts that stand before it. -/
theorem getElem?_tokensAt (start : Nat) (parts : List (String × String)) (k : Nat) :
    (tokensAt start parts)[k]? =
      parts[k]?.map fun part => ⟨part.1, start + (joinParts (parts.take k)).utf8ByteSize⟩ := by
  induction parts generalizing start k with
  | nil => rfl
  | cons part rest ih =>
    obtain ⟨t, w⟩ := part
    cases k with
    | zero => rfl
    | succ k =>
      rw [tokensAt, List.getElem?_cons_succ, ih, List.getElem?_cons_succ, List.take_succ_cons,
        joinParts_cons]
      simp only [String.utf8ByteSize_append, Nat.add_assoc]

/-- Further parts have their tokens behind the parts before them. -/
theorem tokensAt_append (start : Nat) (ps qs : List (String × String)) : tokensAt start (ps ++ qs) =
    tokensAt start ps ++ tokensAt (start + (joinParts ps).utf8ByteSize) qs := by
  induction ps generalizing start with
  | nil => rfl
  | cons part ps ih =>
    obtain ⟨t, w⟩ := part
    rw [List.cons_append, tokensAt, tokensAt, ih, joinParts_cons]
    simp only [String.utf8ByteSize_append, Nat.add_assoc, List.cons_append]

/-- The parts are cut at the places where they were put together. -/
theorem Separated.lexAt_joinParts {parts : List (String × String)} (h : Separated parts)
    (start : Nat) : lexAt start (joinParts parts) = tokensAt start parts := by
  induction parts generalizing start with
  | nil => exact lexAt_gap start isGap_empty
  | cons part rest ih =>
    obtain ⟨t, w⟩ := part
    have hgap : IsGap w := h.gap (t, w) List.mem_cons_self
    rw [joinParts_cons, lexAt_append start h.apart_rest, lexAt_append _ (hgap.closedEnd.apart _),
      lexAt_gap _ hgap, lexAt_token start (h.token (t, w) List.mem_cons_self), ih h.tail]
    rfl

namespace Cut

/-- The tokens of a text that has been cut are where the cut says. -/
theorem lex_text (cut : Cut) : lex cut.text = tokensAt cut.lead.utf8ByteSize cut.parts := by
  have hbehind : Apart cut.lead (joinParts cut.parts) := cut.lead_gap.closedEnd.apart _
  have hlex : lex cut.text = lexAt 0 cut.text := rfl
  rw [hlex, text, lexAt_append 0 hbehind, lexAt_gap 0 cut.lead_gap, cut.separated.lexAt_joinParts,
    Nat.zero_add]
  rfl

theorem tokenize_text (cut : Cut) : tokenize cut.text = cut.tokens := by
  rw [tokenize, cut.lex_text, map_text_tokensAt]
  rfl

/-- No word runs on from the end of a text if there are no tokens or the last one is a mark. -/
theorem closedEnd_text (cut : Cut) (hlast : ∀ t ∈ cut.tokens.getLast?, IsMark t) :
    ClosedEnd cut.text := by
  obtain ⟨lead, parts, hlead, hparts⟩ := cut
  rcases List.eq_nil_or_concat' parts with rfl | ⟨ps, ⟨t, w⟩, rfl⟩
  · have htext : text ⟨lead, [], hlead, hparts⟩ = lead := String.append_empty
    rw [htext]
    exact hlead.closedEnd
  · have hmark : IsMark t := hlast t (by simp [tokens])
    have hgap : IsGap w := hparts.gap (t, w) (by simp)
    have hend : ClosedEnd (t ++ w) := by
      by_cases hw : w = ""
      · rw [hw, String.append_empty]
        exact hmark.closedEnd
      · exact hgap.closedEnd.append hw t
    have hne : t ++ w ≠ "" := by simp [IsToken.ne_empty (Or.inr hmark)]
    have hone : joinParts [(t, w)] = t ++ w := by
      rw [joinParts_cons]
      exact congrArg (t ++ ·) String.append_empty
    rw [text, joinParts_append, hone, ← String.append_assoc]
    exact hend.append hne _

end Cut

/-- The first parts, the last of them without its gap. -/
theorem Separated.take_token {ps qs : List (String × String)} {t w : String}
    (h : Separated (ps ++ (t, w) :: qs)) : Separated ps ∧ Separated (ps ++ [(t, "")]) := by
  obtain ⟨hps, -, hnext⟩ := List.isChain_append.1 h.apart
  have hfirst : Separated ps := h.of_append.1
  refine ⟨hfirst, ⟨?_, ?_, ?_⟩⟩
  · intro part hp
    rcases List.mem_append.1 hp with hp | hp
    · exact hfirst.token part hp
    · rw [List.mem_singleton.1 hp]
      exact h.token (t, w) (List.mem_append_right _ List.mem_cons_self)
  · intro part hp
    rcases List.mem_append.1 hp with hp | hp
    · exact hfirst.gap part hp
    · rw [List.mem_singleton.1 hp]
      exact isGap_empty
  · refine List.isChain_append.2 ⟨hps, List.isChain_singleton _, ?_⟩
    intro part hpart next hnext' hword hword'
    obtain rfl : (t, "") = next := Option.mem_some_iff.1 hnext'
    exact hnext part hpart (t, w) rfl hword hword'

/-! ## Every text has a cut -/

/-- What holds of a character and of all of a text holds of all of both together. -/
theorem forall_mem_singleton_append {p : Char → Prop} {c : Char} {t : String} (hc : p c)
    (ht : ∀ d ∈ t.toList, p d) : ∀ d ∈ (String.singleton c ++ t).toList, p d := by
  rw [String.toList_append, String.toList_singleton, List.singleton_append, List.forall_mem_cons]
  exact ⟨hc, ht⟩

/-- One more character in front of a cut: a blank widens the first gap, a character of a word joins
the word that it meets, and any other character is a token of its own. -/
theorem Cut.exists_cons (c : Char) (cut : Cut) :
    ∃ cut' : Cut, cut'.text = String.singleton c ++ cut.text := by
  obtain ⟨lead, parts, hlead, hparts⟩ := cut
  by_cases hblank : isBlank c = true
  · have hgap : IsGap (String.singleton c ++ lead) := forall_mem_singleton_append hblank hlead
    exact ⟨⟨String.singleton c ++ lead, parts, hgap, hparts⟩, String.append_assoc⟩
  by_cases hjoin : isWord c = true ∧ lead = "" ∧ ∃ part ∈ parts.head?, IsWord part.1
  · obtain ⟨hc, rfl, part, hhead, hword⟩ := hjoin
    cases parts with
    | nil => cases hhead
    | cons next rest =>
      obtain ⟨t, w⟩ := next
      cases hhead
      have hlong : IsWord (String.singleton c ++ t) :=
        ⟨by simp, forall_mem_singleton_append hc hword.2⟩
      refine ⟨⟨"", (String.singleton c ++ t, w) :: rest, isGap_empty, ?_⟩, ?_⟩
      · refine hparts.tail.cons (Or.inl hlong) (hparts.gap (t, w) List.mem_cons_self) ?_
        intro next hnext _ hword'
        exact (List.isChain_cons.1 hparts.apart).1 next hnext hword hword'
      · simp only [text, joinParts_cons, String.empty_append, String.append_assoc]
  · refine ⟨⟨"", (String.singleton c, lead) :: parts, isGap_empty, ?_⟩, ?_⟩
    · have htoken : IsToken (String.singleton c) := by
        by_cases hc : isWord c = true
        · exact Or.inl ⟨by simp, by simpa using hc⟩
        · exact Or.inr ⟨c, rfl, by simpa using hc, by simpa using hblank⟩
      refine hparts.cons htoken hlead ?_
      rintro next hnext hword hword' rfl
      exact hjoin ⟨hword.2 c (by simp), rfl, next, hnext, hword'⟩
    · simp only [text, joinParts_cons, String.empty_append]

/-- Every text can be cut. -/
theorem exists_cut (source : String) : ∃ cut : Cut, cut.text = source := by
  suffices h : ∀ cs : List Char, ∃ cut : Cut, cut.text = String.ofList cs by
    simpa using h source.toList
  intro cs
  induction cs with
  | nil => exact ⟨⟨"", [], isGap_empty, separated_nil⟩, rfl⟩
  | cons c cs ih =>
    obtain ⟨cut, hcut⟩ := ih
    obtain ⟨cut', hcut'⟩ := cut.exists_cons c
    refine ⟨cut', ?_⟩
    rw [hcut', hcut, ← String.toList_inj]
    simp

/-- The tokens of any text are words and marks. -/
theorem isToken_of_mem_tokenize {source t : String} (h : t ∈ tokenize source) : IsToken t := by
  obtain ⟨cut, rfl⟩ := exists_cut source
  rw [cut.tokenize_text] at h
  obtain ⟨part, hpart, rfl⟩ := List.mem_map.1 h
  exact cut.separated.token part hpart

/-- No word runs on from the end of a text whose last token is a mark. -/
theorem closedEnd_of_tokenize {text : String} (hlast : ∀ t ∈ (tokenize text).getLast?, IsMark t) :
    ClosedEnd text := by
  obtain ⟨cut, rfl⟩ := exists_cut text
  rw [cut.tokenize_text] at hlast
  exact cut.closedEnd_text hlast

/-! ## No text has two -/

/-- A run of characters is found again in front of whatever does not go on with it. -/
theorem takeWhile_dropWhile_append {p : Char → Bool} {w rest : List Char} (hw : ∀ c ∈ w, p c = true)
    (hrest : ∀ c ∈ rest.head?, p c = false) :
    (w ++ rest).takeWhile p = w ∧ (w ++ rest).dropWhile p = rest := by
  have hstop : rest.takeWhile p = [] ∧ rest.dropWhile p = rest := by
    cases rest with
    | nil => exact ⟨rfl, rfl⟩
    | cons c cs =>
      have hc : p c = false := hrest c rfl
      exact ⟨by rw [List.takeWhile_cons, hc]; rfl, by rw [List.dropWhile_cons, hc]; rfl⟩
  rw [List.takeWhile_append_of_pos hw, List.dropWhile_append_of_pos hw, hstop.1, hstop.2]
  exact ⟨List.append_nil _, rfl⟩

/-- A gap in front of something that is not blank ends at one place only. -/
theorem gap_unique {w w' rest rest' : String} (hw : IsGap w) (hw' : IsGap w')
    (hrest : ∀ c ∈ rest.toList.head?, isBlank c = false)
    (hrest' : ∀ c ∈ rest'.toList.head?, isBlank c = false) (h : w ++ rest = w' ++ rest') :
    w = w' ∧ rest = rest' := by
  obtain ⟨htake, hdrop⟩ := takeWhile_dropWhile_append hw hrest
  obtain ⟨htake', hdrop'⟩ := takeWhile_dropWhile_append hw' hrest'
  rw [← String.toList_append, h, String.toList_append] at htake hdrop
  exact ⟨String.toList_inj.1 (htake.symm.trans htake'),
    String.toList_inj.1 (hdrop.symm.trans hdrop')⟩

/-- Parts with the same tokens and the same text have the same gaps. -/
theorem Separated.eq_of_joinParts_eq {ps qs : List (String × String)} (hp : Separated ps)
    (hq : Separated qs) (htokens : ps.map Prod.fst = qs.map Prod.fst)
    (htext : joinParts ps = joinParts qs) : ps = qs := by
  induction ps generalizing qs with
  | nil => exact (List.map_eq_nil_iff.1 htokens.symm).symm
  | cons part ps ih =>
    obtain ⟨t, w⟩ := part
    cases qs with
    | nil => cases htokens
    | cons part' qs =>
      obtain ⟨t', w'⟩ := part'
      rw [List.map_cons, List.map_cons, List.cons.injEq] at htokens
      obtain ⟨rfl, hrest⟩ := htokens
      rw [joinParts_cons, joinParts_cons, String.append_right_inj] at htext
      obtain ⟨rfl, hjoin⟩ := gap_unique (hp.gap (t, w) List.mem_cons_self)
        (hq.gap (t, w') List.mem_cons_self) hp.tail.head_joinParts hq.tail.head_joinParts htext
      rw [ih hp.tail hq.tail hrest hjoin]

/-- A text has one cut at most. -/
theorem Cut.eq_of_text_eq {cut cut' : Cut} (h : cut.text = cut'.text) : cut = cut' := by
  have htokens : cut.tokens = cut'.tokens := by
    rw [← cut.tokenize_text, ← cut'.tokenize_text, h]
  obtain ⟨lead, parts, hlead, hparts⟩ := cut
  obtain ⟨lead', parts', hlead', hparts'⟩ := cut'
  obtain ⟨rfl, hjoin⟩ := gap_unique hlead hlead' hparts.head_joinParts hparts'.head_joinParts h
  obtain rfl := hparts.eq_of_joinParts_eq hparts' htokens hjoin
  rfl

/-! ## Taking a text apart at a token -/

/-- A token among the tokens of some parts comes from one of the parts, and the tokens before it
come from the parts before that one. -/
theorem tokensAt_eq_append {start : Nat} {parts : List (String × String)} {read rest : List Token}
    {t : Token} (h : tokensAt start parts = read ++ t :: rest) :
    ∃ ps w qs, parts = ps ++ (t.text, w) :: qs ∧ tokensAt start ps = read ∧
      t.start = start + (joinParts ps).utf8ByteSize := by
  induction read generalizing start parts with
  | nil =>
    cases parts with
    | nil => cases h
    | cons part qs =>
      obtain ⟨x, w⟩ := part
      cases h
      exact ⟨[], w, qs, rfl, rfl, rfl⟩
  | cons r read ih =>
    cases parts with
    | nil => cases h
    | cons part parts =>
      obtain ⟨x, w⟩ := part
      rw [tokensAt, List.cons_append, List.cons.injEq] at h
      obtain ⟨rfl, hrest⟩ := h
      obtain ⟨ps, w', qs, rfl, rfl, hstart⟩ := ih hrest
      refine ⟨(x, w) :: ps, w', qs, rfl, rfl, ?_⟩
      rw [hstart, joinParts_cons]
      simp only [String.utf8ByteSize_append, Nat.add_assoc]

/-- What stands before a token has the tokens before it, at the same places. -/
theorem lex_eq_append {source : String} {read rest : List Token} {t : Token}
    (h : lex source = read ++ t :: rest) :
    ∃ before after, source = before ++ (t.text ++ after) ∧ before.utf8ByteSize = t.start ∧
      lex before = read ∧ lex (before ++ t.text) = read ++ [t] := by
  obtain ⟨⟨lead, parts, hlead, hparts⟩, rfl⟩ := exists_cut source
  rw [Cut.lex_text] at h
  obtain ⟨ps, w, qs, hsplit, hread, hstart⟩ := tokensAt_eq_append h
  obtain rfl : parts = ps ++ (t.text, w) :: qs := hsplit
  -- The parts before the token are a cut of their own, and so they are with the token behind them.
  obtain ⟨hfirst, hlast⟩ := hparts.take_token
  refine ⟨lead ++ joinParts ps, w ++ joinParts qs, ?_, ?_, ?_, ?_⟩
  · simp only [Cut.text, joinParts_append, joinParts_cons, String.append_assoc]
  · rw [String.utf8ByteSize_append, hstart]
  · exact (Cut.lex_text ⟨lead, ps, hlead, hfirst⟩).trans hread
  · have hlex := Cut.lex_text ⟨lead, ps ++ [(t.text, "")], hlead, hlast⟩
    have hone : joinParts [(t.text, "")] = t.text := String.append_empty
    rw [Cut.text, joinParts_append, hone, ← String.append_assoc, tokensAt_append, hread, ← hstart]
      at hlex
    exact hlex

/-- The first tokens are those of the first parts. -/
theorem take_tokensAt (start : Nat) (parts : List (String × String)) (k : Nat) :
    (tokensAt start parts).take k = tokensAt start (parts.take k) := by
  induction parts generalizing start k with
  | nil => simp only [tokensAt, List.take_nil]
  | cons part parts ih =>
    cases k with
    | zero => rfl
    | succ k => rw [tokensAt, List.take_succ_cons, List.take_succ_cons, tokensAt, ih]

/-- The last tokens are those of the last parts, at the places where these begin. -/
theorem drop_tokensAt (start : Nat) (parts : List (String × String)) (k : Nat) :
    (tokensAt start parts).drop k =
      tokensAt (start + (joinParts (parts.take k)).utf8ByteSize) (parts.drop k) := by
  induction parts generalizing start k with
  | nil => simp only [tokensAt, List.drop_nil]
  | cons part parts ih =>
    obtain ⟨t, w⟩ := part
    cases k with
    | zero => rfl
    | succ k =>
      rw [tokensAt, List.drop_succ_cons, List.drop_succ_cons, List.take_succ_cons, joinParts_cons,
        ih]
      simp only [String.utf8ByteSize_append, Nat.add_assoc]

/-- A text can be split before any of its tokens, so that each part has its own tokens. -/
theorem exists_lex_drop (source : String) (k : Nat) :
    ∃ before rest, source = before ++ rest ∧ lex before = (lex source).take k ∧
      (lex source).drop k = (lex rest).map (Token.shift before.utf8ByteSize) := by
  obtain ⟨⟨lead, parts, hlead, hparts⟩, rfl⟩ := exists_cut source
  have hsplit : parts.take k ++ parts.drop k = parts := List.take_append_drop k parts
  obtain ⟨hfirst, hlast⟩ := Separated.of_append (hsplit.symm ▸ hparts)
  have hrest := lexAt_add 0 (lead ++ joinParts (parts.take k)).utf8ByteSize
    (joinParts (parts.drop k))
  rw [Nat.zero_add, hlast.lexAt_joinParts, String.utf8ByteSize_append] at hrest
  refine ⟨lead ++ joinParts (parts.take k), joinParts (parts.drop k), ?_, ?_, ?_⟩
  · rw [String.append_assoc, ← joinParts_append, hsplit]
    rfl
  · rw [Cut.lex_text, take_tokensAt]
    exact Cut.lex_text ⟨lead, parts.take k, hlead, hfirst⟩
  · rw [Cut.lex_text, drop_tokensAt, hrest, String.utf8ByteSize_append]
    rfl

end Detuple
