import Detuple.Proofs.Cuts
import Detuple.Token.Cut
import Mathlib.Data.List.TakeWhile

/-!
# Proofs: scanning a text never fails

A scan for a token skips the gap before it and takes exactly the token: a word goes as far as the
text goes on with it, and that is where the word ends, since what follows is kept apart from it. In
front of the last gap the scan fails, which leaves that gap to be skipped and nothing behind it
(`many_scanToken`). So scanning finds the tokens of the cut (`scan_text`), and as every text has a
cut it never fails.
-/

namespace Detuple

open Unicode (isBlank)

/-- What is kept apart from a word does not go on with it. -/
theorem IsWord.closedStart_of_apart {t rest : String} (h : IsWord t) (hapart : Apart t rest) :
    ClosedStart rest := by
  intro y hy
  have hne : t.toList ≠ [] := mt String.toList_eq_nil_iff.1 h.1
  have hlast : isWord (t.toList.getLast hne) = true := h.2 _ (List.getLast_mem hne)
  have hboth := hapart _ (List.getLast_mem_getLast? hne) y hy
  rw [hlast, Bool.true_and] at hboth
  exact hboth

/-- A scan for a token skips the gap before it and takes the token, if what follows is apart from
it. -/
theorem scanToken_append {w t rest : String} (hw : IsGap w) (ht : IsToken t)
    (hrest : Apart t rest) :
    scanToken (w ++ (t ++ rest)).toList = some (t.toList, rest.toList) := by
  have hne : t.toList ≠ [] := mt String.toList_eq_nil_iff.1 ht.ne_empty
  have hhead : ∀ c ∈ (t ++ rest).toList.head?, isBlank c = false := by
    intro c hc
    rw [String.toList_append, List.head?_append_of_ne_nil _ hne] at hc
    exact ht.isBlank_eq_false c (List.mem_of_mem_head? hc)
  have hskip := (takeWhile_dropWhile_append hw hhead).2
  have hscan : scanToken (w ++ (t ++ rest)).toList =
      Scan.orElse (Scan.run1 isWord) Scan.one (t ++ rest).toList := by
    rw [← hskip, ← String.toList_append]
    rfl
  rw [hscan, String.toList_append]
  rcases ht with hword | ⟨c, rfl, hc, -⟩
  · obtain ⟨htake, hdrop⟩ := takeWhile_dropWhile_append hword.2 (hword.closedStart_of_apart hrest)
    obtain ⟨c, cs, hcs⟩ := List.exists_cons_of_ne_nil hne
    have hrun : Scan.run1 isWord (t.toList ++ rest.toList) =
        Scan.run isWord (t.toList ++ rest.toList) := by
      rw [hcs, List.cons_append]
      exact if_pos (hword.2 c (by rw [hcs]; exact List.mem_cons_self))
    rw [Scan.orElse, hrun, Scan.run, htake, hdrop]
    rfl
  · have hfail : Scan.run1 isWord (c :: rest.toList) = none := if_neg (by simp [hc])
    rw [String.toList_singleton, List.singleton_append, Scan.orElse, hfail]
    rfl

/-- There is no token in a gap. -/
theorem scanToken_gap {w : String} (hw : IsGap w) : scanToken w.toList = none := by
  have hskip : w.toList.dropWhile isBlank = [] := List.dropWhile_eq_nil_iff.2 hw
  show Scan.orElse (Scan.run1 isWord) Scan.one (w.toList.dropWhile isBlank) = none
  rw [hskip]
  rfl

/-- Scanning takes the tokens of a cut and leaves its last gap. -/
theorem many_scanToken {lead : String} {parts : List (String × String)} (hlead : IsGap lead)
    (hparts : Separated parts) : ∃ last, IsGap last ∧
      Scan.many scanToken (lead ++ joinParts parts).toList =
        some (parts.map fun part => part.1.toList, last.toList) := by
  induction parts generalizing lead with
  | nil =>
    have hall : lead ++ joinParts [] = lead := String.append_empty
    refine ⟨lead, hlead, ?_⟩
    rw [hall, Scan.many, scanToken_gap hlead]
    rfl
  | cons part rest ih =>
    obtain ⟨t, w⟩ := part
    have ht : IsToken t := hparts.token (t, w) List.mem_cons_self
    obtain ⟨last, hlast, hmany⟩ := ih (hparts.gap (t, w) List.mem_cons_self) hparts.tail
    refine ⟨last, hlast, ?_⟩
    have hless : (w ++ joinParts rest).toList.length <
        (lead ++ (t ++ (w ++ joinParts rest))).toList.length := by
      have hpos := List.length_pos_iff.2 (mt String.toList_eq_nil_iff.1 ht.ne_empty)
      simp only [String.toList_append, List.length_append]
      omega
    rw [joinParts_cons, Scan.many, scanToken_append hlead ht hparts.apart_rest]
    simp only [if_pos hless, hmany]
    rfl

/-- Scanning a text that has been cut finds the tokens of the cut. -/
theorem Cut.scan_text (cut : Cut) : scan cut.text = some cut.tokens := by
  obtain ⟨last, hlast, hmany⟩ := many_scanToken cut.lead_gap cut.separated
  have hskip : Scan.run isBlank last.toList = some (last.toList, []) := by
    rw [Scan.run, List.takeWhile_eq_self_iff.2 hlast, List.dropWhile_eq_nil_iff.2 hlast]
  have hall : Scan.skipAfter (Scan.many scanToken) (Scan.run isBlank) cut.text.toList =
      some (cut.parts.map fun part => part.1.toList, []) := by
    rw [Scan.skipAfter, Cut.text, hmany, Option.bind_some]
    simp only [hskip]
    rfl
  rw [scan, Scan.whole, hall, Option.map_some, List.map_map]
  simp [Cut.tokens, Function.comp_def]

/-! ## The tokens of a text -/

/-- **Every text has exactly one cut, and its tokens are those of the cut.** So the tokens are words
and marks with only blanks around them, no two words without a blank between them, and any text that
is put together like this is taken apart again. A token covers the bytes behind all that stands
before it, as many as its text has. Scanning the text from left to right finds the same tokens and
never fails. -/
theorem lex_eq_cut (source : String) :
    (∃! cut : Cut, cut.text = source) ∧
    ∀ cut : Cut, cut.text = source →
      tokenize source = cut.tokens ∧
      (∀ (k : Nat) (token : Token), (lex source)[k]? = some token →
        token.span = ⟨(cut.before k).utf8ByteSize,
          (cut.before k).utf8ByteSize + token.text.utf8ByteSize⟩ ∧
        token.kind = Kind.ofText token.text) ∧
      scan source = some (tokenize source) := by
  constructor
  · obtain ⟨cut, hcut⟩ := exists_cut source
    refine ⟨cut, hcut, ?_⟩
    intro cut' hcut'
    exact Cut.eq_of_text_eq (hcut'.trans hcut.symm)
  · rintro cut rfl
    refine ⟨cut.tokenize_text, ?_, by rw [cut.scan_text, cut.tokenize_text]⟩
    intro k token h
    rw [cut.lex_text, getElem?_tokensAt, Option.map_eq_some_iff] at h
    obtain ⟨part, -, rfl⟩ := h
    rw [Cut.before, String.utf8ByteSize_append]
    exact ⟨rfl, rfl⟩

/-- A sign of three bytes between two words. -/
theorem lex_eq_cut_multibyte :
    tokenize "  var €x" = ["var", "€", "x"] ∧
      (∀ token, (lex "  var €x")[2]? = some token → token.span = ⟨9, 9 + token.text.utf8ByteSize⟩) ∧
      scan "  var €x" = some ["var", "€", "x"] := by
  have hvar : IsToken "var" := Or.inl ⟨by decide, List.all_eq_true.1 rfl⟩
  have hsign : IsMark "€" := ⟨'€', rfl, by decide +kernel, by decide⟩
  have hx : IsToken "x" := Or.inl ⟨by decide, List.all_eq_true.1 rfl⟩
  have hparts : Separated [("var", " "), ("€", ""), ("x", "")] := by
    refine ((separated_nil.cons hx isGap_empty ?_).cons (Or.inr hsign) isGap_empty ?_).cons hvar
      (List.all_eq_true.1 rfl) ?_
    · intro next hnext
      cases hnext
    · intro next _ hword
      exact absurd hword hsign.not_isWord
    · intro next _ _ _
      decide
  have hcut : Cut.text ⟨"  ", _, List.all_eq_true.1 rfl, hparts⟩ = "  var €x" := by rfl
  obtain ⟨htokens, hspan, hscan⟩ := (lex_eq_cut "  var €x").2 _ hcut
  exact ⟨htokens, fun token h => (hspan 2 token h).1, hscan.trans (congrArg some htokens)⟩

end Detuple
