import Detuple.Proofs.Completion
import Detuple.Report

/-!
# Proofs: errors point at characters

Bytes lead to characters exactly where a text can be cut (`charsBefore_eq_some_iff`), so the two
ends of a piece of a text have characters to go with them (`charSpan_append`). An error is at such a
piece: at the token that is refused, which is never empty, or at the very end of the source.
Therefore every error in a source that is not empty points at characters of it, and a report can be
made of it.
-/

namespace Detuple

/-! ## From bytes to characters -/

@[simp] theorem charsBefore_zero (text : List Char) : charsBefore text 0 = some 0 := by
  cases text <;> rfl

/-- The bytes of one more character lead to one more character. -/
theorem charsBefore_cons (c : Char) (cs : List Char) (bytes : Nat) :
    charsBefore (c :: cs) (c.utf8Size + bytes) = (charsBefore cs bytes).map (· + 1) := by
  -- No character is without bytes, so this is not the case of a number of bytes that is zero.
  obtain ⟨k, hk⟩ := Nat.exists_eq_add_one.2 (Nat.add_pos_left c.utf8Size_pos bytes)
  have hle : c.utf8Size ≤ k + 1 := by omega
  have hsub : k + 1 - c.utf8Size = bytes := by omega
  rw [hk, charsBefore, if_pos hle, hsub]

/-- The bytes of the first part of a text lead to the number of its characters. -/
theorem charsBefore_append (before after : List Char) :
    charsBefore (before ++ after) (String.ofList before).utf8ByteSize = some before.length := by
  induction before with
  | nil => exact charsBefore_zero after
  | cons c before ih =>
    rw [String.ofList_cons, String.utf8ByteSize_append, String.utf8ByteSize_singleton,
      List.cons_append, charsBefore_cons, ih]
    rfl

/-- A number of bytes leads to a number of characters where the text can be cut into two. -/
theorem charsBefore_eq_some_iff {text : List Char} {bytes n : Nat} :
    charsBefore text bytes = some n ↔
      ∃ before after, text = before ++ after ∧ (String.ofList before).utf8ByteSize = bytes ∧
        before.length = n := by
  constructor
  · intro h
    fun_induction charsBefore text bytes generalizing n with
    | case1 text =>
      cases h
      exact ⟨[], text, rfl, rfl, rfl⟩
    | case2 => cases h
    | case3 c cs bytes hle ih =>
      obtain ⟨m, hm, rfl⟩ := Option.map_eq_some_iff.1 h
      obtain ⟨before, after, rfl, hsize, rfl⟩ := ih hm
      refine ⟨c :: before, after, rfl, ?_, rfl⟩
      rw [String.ofList_cons, String.utf8ByteSize_append, String.utf8ByteSize_singleton, hsize]
      omega
    | case4 => cases h
  · rintro ⟨before, after, rfl, rfl, rfl⟩
    exact charsBefore_append before after

theorem charsBefore_toList_append (before after : String) :
    charsBefore (before ++ after).toList before.utf8ByteSize = some before.length := by
  refine charsBefore_eq_some_iff.2 ⟨before.toList, after.toList, String.toList_append, ?_, ?_⟩
  · rw [String.ofList_toList]
  · exact String.length_toList

/-- The characters of a piece of a text, or the character before it if the piece is empty. -/
theorem charSpan_append (before marked after : String) :
    charSpan (before ++ marked ++ after) ⟨before.utf8ByteSize, (before ++ marked).utf8ByteSize⟩ =
      some (if marked = "" then (before.length - 1, before.length)
        else (before.length, before.length + marked.length)) := by
  have hstart : charsBefore (before ++ marked ++ after).toList before.utf8ByteSize =
      some before.length := by
    rw [String.append_assoc]
    exact charsBefore_toList_append before (marked ++ after)
  have hstop := charsBefore_toList_append (before ++ marked) after
  rw [String.length_append] at hstop
  have hempty : before.length = before.length + marked.length ↔ marked = "" := by
    rw [Nat.left_eq_add, String.length_eq_zero_iff]
  rw [charSpan, hstart, hstop]
  simp only [Option.bind_eq_bind, Option.bind_some, hempty]
  rfl

/-! ## The characters at fault -/

/-- The token that an error has found is a piece of the source. -/
theorem found_of_parse {source : String} {wanted : Wanted} {found : Token}
    (h : parse source = .error (.refused wanted found)) :
    IsToken found.text ∧ ∃ before after, source = before ++ found.text ++ after ∧
      found.span = ⟨before.utf8ByteSize, (before ++ found.text).utf8ByteSize⟩ := by
  obtain ⟨before, after, -, rest, hsource, hspan, hlex, -⟩ := refusal_of_parse h
  have hmem : found.text ∈ tokenize source := by
    rw [tokenize, hlex]
    exact List.mem_map_of_mem List.mem_append_cons_self
  exact ⟨isToken_of_mem_tokenize hmem, before, after, hsource, hspan⟩

/-- An error without a token is at the end of the source. -/
theorem size_of_parse {source : String} {size : Nat}
    (h : parse source = .error (.unexpectedEnd size)) : size = source.utf8ByteSize := by
  rcases parse_cases source with ⟨b, hb⟩ | ⟨last, -, -, hend⟩ |
    ⟨read, t, rest, last, -, -, -, hrefused⟩
  · cases h.symm.trans hb
  · cases h.symm.trans hend
    rfl
  · cases h.symm.trans hrefused

/-- The span of a token leads to the characters of the token. -/
theorem charSpan_of_refused {before after : String} {found : Token} (hfound : IsToken found.text)
    (hspan : found.span = ⟨before.utf8ByteSize, (before ++ found.text).utf8ByteSize⟩) :
    charSpan (before ++ found.text ++ after) found.span =
      some (before.length, before.length + found.text.length) := by
  rw [hspan, charSpan_append, if_neg hfound.ne_empty]

/-- The end of a source leads to its last character. -/
theorem charSpan_of_end (source : String) :
    charSpan source ⟨source.utf8ByteSize, source.utf8ByteSize⟩ =
      some (source.length - 1, source.length) := by
  have h := charSpan_append source "" ""
  rwa [String.append_empty, String.append_empty, if_pos rfl] at h

theorem toList_slice (before marked after : String) :
    ((before ++ marked ++ after).toList.take (before.length + marked.length)).drop before.length =
      marked.toList := by
  rw [String.toList_append, String.toList_append, ← String.length_toList, ← String.length_toList,
    ← List.length_append, List.take_left, List.drop_left]

/-- **Errors point at characters.** The span of an error in a source that is not empty cuts the
source between characters, and leads to characters of it, at least one. Where a token is refused,
they are the characters of this token, behind all that stands before it, and at the end of the
source it is the last character. -/
theorem charSpan_error {source : String} {error : ParseError} (hne : source ≠ "")
    (h : parse source = .error error) :
    ∃ before marked after i j,
      source = before ++ marked ++ after ∧ before.utf8ByteSize = error.span.start ∧
      (before ++ marked).utf8ByteSize = error.span.stop ∧
      charSpan source error.span = some (i, j) ∧ i < j ∧ j ≤ source.length ∧
      (∀ wanted found, error = .refused wanted found →
        marked = found.text ∧ i = before.length ∧
          (source.toList.take j).drop i = found.text.toList) ∧
      (∀ size, error = .unexpectedEnd size → i + 1 = j ∧ j = source.length) := by
  cases error with
  | unexpectedEnd size =>
    obtain rfl := size_of_parse h
    have hpos : 0 < source.length := Nat.pos_of_ne_zero (mt String.length_eq_zero_iff.1 hne)
    refine ⟨source, "", "", source.length - 1, source.length, ?_, rfl, ?_, charSpan_of_end source,
      by omega, le_rfl, nofun, fun size _ => ⟨by omega, rfl⟩⟩
    · rw [String.append_empty, String.append_empty]
    · rw [String.append_empty]
      rfl
  | refused wanted found =>
    obtain ⟨hfound, before, after, rfl, hspan⟩ := found_of_parse h
    have hpos : 0 < found.text.length :=
      Nat.pos_of_ne_zero (mt String.length_eq_zero_iff.1 hfound.ne_empty)
    refine ⟨before, found.text, after, before.length, before.length + found.text.length, rfl,
      ?_, ?_, charSpan_of_refused hfound hspan, by omega, ?_, ?_, nofun⟩
    · exact congrArg Span.start hspan.symm
    · exact congrArg Span.stop hspan.symm
    · rw [String.length_append, String.length_append]
      omega
    · rintro _ _ ⟨rfl, rfl⟩
      exact ⟨rfl, rfl, toList_slice before _ after⟩

/-- A word with a letter of two bytes behind a blank of two bytes, and a declaration that breaks off
behind such a letter. -/
theorem charSpan_error_multibyte :
    (∃ i j, charSpan "\x7b\u00a0über" ⟨3, 8⟩ = some (i, j) ∧
      ("\x7b\u00a0über".toList.take j).drop i = "über".toList) ∧
    ∃ i, charSpan "\x7bvar é" ⟨7, 7⟩ = some (i, 6) ∧ i + 1 = 6 := by
  have hword : parse "\x7b\u00a0über" = .error (.refused .statement ⟨"über", 3⟩) := by rfl
  have hend : parse "\x7bvar é" = .error (.unexpectedEnd 7) := by rfl
  obtain ⟨_, _, _, i, j, -, -, -, hspan, -, -, hfound, -⟩ := charSpan_error (by simp) hword
  obtain ⟨_, _, _, k, l, -, -, -, hlast, -, -, -, hsize⟩ := charSpan_error (by simp) hend
  obtain ⟨hk, rfl⟩ := hsize 7 rfl
  exact ⟨⟨i, j, hspan, (hfound _ _ rfl).2.2⟩, k, hlast, hk⟩

example : charSpan "\x7b\u00a0über" ⟨3, 8⟩ = some (2, 6) := by decide

/-! ## Reports -/

/-- A token does not end with blanks. -/
theorem dropBlanksEnd_of_isToken {text : String} (h : IsToken text) :
    dropBlanksEnd text.toList = text.toList := by
  have hkeep : text.toList.reverse.dropWhile Unicode.isBlank = text.toList.reverse := by
    cases hrev : text.toList.reverse with
    | nil => rfl
    | cons c cs =>
      have hmem : c ∈ text.toList := List.mem_reverse.1 (hrev ▸ List.mem_cons_self)
      rw [List.dropWhile_cons_of_neg (Bool.eq_false_iff.1 (h.isBlank_eq_false c hmem))]
  rw [dropBlanksEnd, hkeep, List.reverse_reverse]

/-- What is reported about a source that is not empty, at characters of it. -/
theorem Report.ofError?_of_charSpan {source : String} {error : ParseError} {i j : Nat}
    (path : String) (hne : source ≠ "") (hspan : charSpan source error.span = some (i, j)) :
    Report.ofError? path source error = some {
      path
      source
      line := (source.toList.take i).count '\n' + 1
      column := ((source.toList.take i).reverse.takeWhile (· ≠ '\n')).length + 1
      marked := .ofList (dropBlanksEnd ((source.toList.take j).drop i))
      message := error.message } := by
  rw [Report.ofError?, hspan, guard, if_pos hne]
  rfl

/-- The report on a refused token marks this token, on the line and in the column at which it
stands. -/
theorem Report.ofError?_of_refused {source : String} {wanted : Wanted} {found : Token}
    (path : String) (h : parse source = .error (.refused wanted found)) :
    ∃ before after, source = before ++ found.text ++ after ∧
      before.utf8ByteSize = found.start ∧
      Report.ofError? path source (.refused wanted found) = some {
        path
        source := before ++ found.text ++ after
        line := before.toList.count '\n' + 1
        column := (before.toList.reverse.takeWhile (· ≠ '\n')).length + 1
        marked := found.text
        message := (ParseError.refused wanted found).message } := by
  obtain ⟨hfound, before, after, rfl, hspan⟩ := found_of_parse h
  have hne : before ++ found.text ++ after ≠ "" := by
    simp [String.append_eq_empty_iff, hfound.ne_empty]
  have hbefore : (before ++ found.text ++ after).toList.take before.length = before.toList := by
    rw [String.append_assoc, String.toList_append, ← String.length_toList, List.take_left]
  refine ⟨before, after, rfl, congrArg Span.start hspan.symm, ?_⟩
  rw [Report.ofError?_of_charSpan path hne (charSpan_of_refused hfound hspan), hbefore,
    toList_slice, dropBlanksEnd_of_isToken hfound, String.ofList_toList]

/-- A report is made of every error, unless the source is empty. -/
theorem Report.ofError?_isSome_iff {source : String} {error : ParseError} (path : String)
    (h : parse source = .error error) :
    (Report.ofError? path source error).isSome ↔ source ≠ "" := by
  constructor
  · rintro hsome rfl
    cases hsome
  · intro hne
    cases error with
    | unexpectedEnd size =>
      obtain rfl := size_of_parse h
      exact Option.isSome_of_eq_some (ofError?_of_charSpan path hne (charSpan_of_end source))
    | refused wanted found =>
      obtain ⟨_, _, _, _, hreport⟩ := ofError?_of_refused path h
      exact Option.isSome_of_eq_some hreport

end Detuple
