import Detuple.Proofs.Cuts
import Detuple.Proofs.Refusals

/-!
# Proofs: one attempt after another

A reader that is asked again goes on where it rests, as if the rest of the source were all there is
(`Reader.next_shift`). It only takes some of the tokens that are left, and all of them unless it
refuses the next one (`Reader.exists_read`). So it never goes back, and it moves on exactly if it
stands before an opening brace; if not, it is stuck and gives the same answer for ever. Every
attempt that moves it on takes a token, so there are at most as many of these as there are tokens.
-/

namespace Detuple

namespace Reader

variable {source : String} {r : Reader} {calls : Nat}

/-! ## One attempt -/

/-- The tokens are those that were read before, those read now and those left. -/
theorem length_tokens {read rest : List Token} (hposition : r.position ≤ r.tokens.length)
    (hunread : r.unread = read ++ rest) :
    r.tokens.length = r.position + read.length + rest.length := by
  have hlength : r.unread.length = r.tokens.length - r.position := List.length_drop
  rw [hunread, List.length_append] at hlength
  omega

/-- Leaving the last tokens moves a reader on by the tokens before them. -/
theorem position_leaving {read rest : List Token} (hposition : r.position ≤ r.tokens.length)
    (hunread : r.unread = read ++ rest) :
    r.leaving rest.length = { r with position := r.position + read.length } := by
  rw [leaving, length_tokens hposition hunread, Nat.add_sub_cancel]

/-- An attempt takes some tokens, and the next token after them is refused if there is one. -/
theorem exists_read (hposition : r.position ≤ r.tokens.length) :
    ∃ read rest, r.unread = read ++ rest ∧
      r.next.2 = { r with position := r.position + read.length } ∧
      ((rest = [] ∧ ∀ wanted found, r.next.1 ≠ .error (.refused wanted found)) ∨
        ∃ last found, (State.start .block).steps (read.map Token.text) = some last ∧
          last.step found.text = none ∧ found ∈ rest.head? ∧
          r.next.1 = .error (.refused last.wanted found)) := by
  have hall : r.unread = r.unread ++ [] := (List.append_nil _).symm
  have hend := position_leaving hposition hall
  rcases r.next_cases with ⟨b, -, hnext⟩ | ⟨last, -, -, hnext⟩ |
    ⟨read, t, rest, last, hunread, hsteps, hstep, hnext⟩
  · rw [hnext]
    exact ⟨r.unread, [], hall, hend, Or.inl ⟨rfl, fun _ _ h => nomatch h⟩⟩
  · rw [hnext]
    exact ⟨r.unread, [], hall, hend, Or.inl ⟨rfl, fun _ _ h => nomatch h⟩⟩
  · rw [hnext]
    exact ⟨read, t :: rest, hunread, position_leaving hposition hunread,
      Or.inr ⟨last, t, hsteps, hstep, rfl, rfl⟩⟩

/-- An attempt depends on the texts of the tokens that are left; where these stand only matters for
the error. -/
theorem next_shift {r' : Reader} {bytes : Nat}
    (hunread : r'.unread = r.unread.map (Token.shift bytes)) (hsize : r'.size = r.size + bytes) :
    r'.next.1 = r.next.1.mapError (ParseError.shift bytes) := by
  rcases r.next_cases with ⟨b, hsteps, hnext⟩ | ⟨last, hsteps, hopen, hnext⟩ |
    ⟨read, t, rest, last, hleft, hsteps, hstep, hnext⟩
  · rw [← map_text_shift bytes, ← hunread] at hsteps
    rw [hnext, next_of_finished hsteps]
    rfl
  · rw [← map_text_shift bytes, ← hunread] at hsteps
    rw [hnext, next_of_end hsteps hopen, hsize]
    rfl
  · rw [hleft, List.map_append, List.map_cons] at hunread
    rw [← map_text_shift bytes] at hsteps
    rw [hnext, next_of_refusal hunread hsteps hstep]
    rfl

/-- The reader does not stand before an opening brace. -/
def Stuck (r : Reader) : Prop := ∀ t ∈ r.unread.head?, t.text ≠ openBrace

/-- A reader that is stuck fails and stays where it is. -/
theorem next_of_stuck (hposition : r.position ≤ r.tokens.length) (h : r.Stuck) :
    ∃ e, r.next = (.error e, r) := by
  cases hunread : r.unread with
  | nil =>
    have hnone : r.unread = [] ++ [] := hunread
    have hsteps : (State.start .block).steps (r.unread.map Token.text) = some (.start .block) := by
      rw [hunread]
      rfl
    have hnext := next_of_end hsteps fun _ heq => nomatch heq
    exact ⟨_, hnext.trans (congrArg _ (position_leaving hposition hnone))⟩
  | cons t rest =>
    have hfirst : r.unread = [] ++ t :: rest := hunread
    have hstep : (State.start .block).step t.text = none := by
      refine if_neg (h t ?_)
      rw [hunread]
      rfl
    have hnext := next_of_refusal hfirst rfl hstep
    exact ⟨_, hnext.trans (congrArg _ (position_leaving hposition hfirst))⟩

/-- A reader that is not stuck moves on. -/
theorem lt_position_next (hposition : r.position ≤ r.tokens.length) (h : ¬ r.Stuck) :
    r.position < r.next.2.position := by
  obtain ⟨read, rest, hunread, hnext, hcases⟩ := exists_read hposition
  have hread : read ≠ [] := by
    rintro rfl
    rw [List.nil_append] at hunread
    refine h fun t ht => ?_
    rw [hunread] at ht
    rcases hcases with ⟨rfl, -⟩ | ⟨last, found, hsteps, hstep, hfound, -⟩
    · cases ht
    · obtain rfl := Option.mem_unique hfound ht
      cases hsteps
      intro hbrace
      rw [hbrace] at hstep
      cases hstep
  have hlength : 0 < read.length := List.length_pos_of_ne_nil hread
  rw [hnext]
  exact Nat.lt_add_of_pos_right hlength

/-! ## Many attempts -/

/-- The reader has read some of the tokens of a source text. -/
structure ReadsFrom (source : String) (r : Reader) : Prop where
  size : r.size = source.utf8ByteSize
  tokens : r.tokens = lex source
  position : r.position ≤ r.tokens.length

/-- An attempt leaves a reader among the tokens of its source, and no further back. -/
theorem ReadsFrom.next (h : r.ReadsFrom source) :
    r.next.2.ReadsFrom source ∧ r.position ≤ r.next.2.position := by
  obtain ⟨read, rest, hunread, hnext, -⟩ := exists_read h.position
  have hlength := length_tokens h.position hunread
  rw [hnext]
  refine ⟨⟨h.size, h.tokens, ?_⟩, Nat.le_add_right _ _⟩
  show r.position + read.length ≤ r.tokens.length
  omega

/-- A reader is among the tokens of its source after any number of attempts. -/
theorem readsFrom_after (source : String) (calls : Nat) :
    ((ofSource source).after calls).ReadsFrom source := by
  induction calls with
  | zero => exact ⟨rfl, rfl, Nat.zero_le _⟩
  | succ calls ih => exact ih.next.1

/-- Once it is stuck, a reader never changes again. -/
theorem after_of_stuck (h : ((ofSource source).after calls).Stuck) {later : Nat}
    (hle : calls ≤ later) : (ofSource source).after later = (ofSource source).after calls := by
  have hreads := readsFrom_after source calls
  induction later, hle using Nat.le_induction with
  | base => rfl
  | succ later hle ih =>
    obtain ⟨e, hnext⟩ := next_of_stuck hreads.position h
    rw [after, ih, hnext]

/-- Until it is stuck, a reader takes a token with every attempt. -/
theorem le_position_or_stuck (source : String) (calls : Nat) :
    calls ≤ ((ofSource source).after calls).position ∨ ((ofSource source).after calls).Stuck := by
  induction calls with
  | zero => exact Or.inl (Nat.zero_le _)
  | succ calls ih =>
    have hreads := readsFrom_after source calls
    by_cases hstuck : ((ofSource source).after calls).Stuck
    · rw [after_of_stuck hstuck (Nat.le_succ calls)]
      exact Or.inr hstuck
    · have hlt := lt_position_next hreads.position hstuck
      have hle := ih.resolve_right hstuck
      exact Or.inl (Nat.lt_of_le_of_lt hle hlt)

/-- A reader is stuck after as many attempts as there are tokens. -/
theorem stuck_after_length (source : String) :
    ((ofSource source).after (lex source).length).Stuck := by
  rcases le_position_or_stuck source (lex source).length with hle | hstuck
  · have hnone : ((ofSource source).after (lex source).length).unread = [] := by
      rw [unread, (readsFrom_after source _).tokens]
      exact List.drop_eq_nil_of_le hle
    intro t ht
    rw [hnone] at ht
    cases ht
  · exact hstuck

/-! ## What the answers say of the tokens -/

section

variable (h : r.ReadsFrom source)

include h

/-- After a refusal the next token is the refused one. -/
theorem ReadsFrom.getElem?_of_refused {wanted : Wanted} {found : Token}
    (hnext : r.next.1 = .error (.refused wanted found)) :
    (lex source)[r.next.2.position]? = some found := by
  obtain ⟨read, rest, hunread, hrest, hcases⟩ := exists_read h.position
  rcases hcases with ⟨-, hnone⟩ | ⟨last, found', -, -, hfound, hrefused⟩
  · exact absurd hnext (hnone wanted found)
  · cases hrefused.symm.trans hnext
    have hskip : (lex source)[r.position + read.length]? = r.unread[read.length]? := by
      rw [unread, h.tokens, List.getElem?_drop]
    rw [hrest, hskip, hunread, List.getElem?_append_right (Nat.le_refl _), Nat.sub_self,
      ← List.head?_eq_getElem?]
    exact hfound

/-- After any other answer no token is left. -/
theorem ReadsFrom.position_next
    (hnext : ∀ wanted found, r.next.1 ≠ .error (.refused wanted found)) :
    r.next.2.position = (lex source).length := by
  obtain ⟨read, rest, hunread, hrest, hcases⟩ := exists_read h.position
  rcases hcases with ⟨rfl, -⟩ | ⟨last, found, -, -, -, hrefused⟩
  · rw [hrest, ← h.tokens]
    exact (length_tokens h.position hunread).symm
  · exact absurd hrefused (hnext last.wanted found)

/-- An error at the end is at the end of the source. -/
theorem ReadsFrom.size_of_end {size : Nat} (hnext : r.next.1 = .error (.unexpectedEnd size)) :
    size = source.utf8ByteSize := by
  rcases r.next_cases with ⟨b, -, hanswer⟩ | ⟨last, -, -, hanswer⟩ |
    ⟨read, t, rest, last, -, -, -, hanswer⟩
  · rw [hanswer] at hnext
    cases hnext
  · rw [hanswer] at hnext
    cases hnext
    exact h.size
  · rw [hanswer] at hnext
    cases hnext

/-- A reader is stuck at the end, and in front of all tokens but an opening brace. -/
theorem ReadsFrom.stuck_iff : r.Stuck ↔ r.position = (lex source).length ∨
    ∃ t, (lex source)[r.position]? = some t ∧ t.text ≠ openBrace := by
  have hposition := h.position
  have hhead : r.unread.head? = (lex source)[r.position]? := by
    rw [unread, List.head?_drop, h.tokens]
  rw [h.tokens] at hposition
  rw [Stuck, hhead]
  by_cases hend : r.position = (lex source).length
  · have hnone : (lex source)[r.position]? = none := List.getElem?_eq_none (Nat.le_of_eq hend.symm)
    rw [hnone]
    exact iff_of_true (fun t ht => nomatch ht) (Or.inl hend)
  · have hlt : r.position < (lex source).length := by omega
    rw [List.getElem?_eq_getElem hlt]
    simp [hend]

/-- A reader stays where it is exactly if it is stuck. -/
theorem ReadsFrom.position_next_eq_iff : r.next.2.position = r.position ↔ r.Stuck := by
  constructor
  · intro heq
    by_contra hstuck
    have hlt := lt_position_next h.position hstuck
    omega
  · intro hstuck
    obtain ⟨e, hnext⟩ := next_of_stuck h.position hstuck
    rw [hnext]

/-- The answer is that of a new reader for the tokens that are left, and that of a new reader for
the rest of the text, but for where this stands. -/
theorem ReadsFrom.next_eq_fresh :
    r.next.1 = (Reader.mk source.utf8ByteSize ((lex source).drop r.position) 0).next.1 ∧
      ∃ before rest, source = before ++ rest ∧ lex before = (lex source).take r.position ∧
        r.next.1 = (parse rest).mapError (ParseError.shift before.utf8ByteSize) := by
  constructor
  · have hunread : r.unread = (Reader.mk source.utf8ByteSize ((lex source).drop r.position)
        0).unread.map (Token.shift 0) := by
      rw [unread, h.tokens]
      exact (List.map_id _).symm
    have hsame : ∀ answer : Except ParseError Block,
        answer.mapError (ParseError.shift 0) = answer := by
      rintro ((size | ⟨wanted, found⟩) | b) <;> rfl
    exact (next_shift hunread h.size).trans (hsame _)
  · obtain ⟨before, rest, hsource, hbefore, hrest⟩ := exists_lex_drop source r.position
    have hunread : r.unread = (ofSource rest).unread.map (Token.shift before.utf8ByteSize) := by
      rw [unread, h.tokens, hrest]
      rfl
    have hsize : r.size = (ofSource rest).size + before.utf8ByteSize := by
      rw [h.size, hsource, String.utf8ByteSize_append, Nat.add_comm]
      rfl
    exact ⟨before, rest, hsource, hbefore, next_shift hunread hsize⟩

end

end Reader

/-- **A reader can be asked for a program again and again.** Each time it answers as a new reader
would for the tokens that are left, with errors where they are in the whole source. It never goes
back; after a refusal it rests at the refused token, and after any other answer at the end. It stays
where it is exactly if it stands at the end or before something else than an opening brace, and from
then on its answer is the same error. That is so at the latest when it has been asked as many times
as there are tokens. -/
theorem reader_reused {source : String} {calls : Nat} {r : Reader}
    (hr : (Reader.ofSource source).after calls = r) :
    (r.next.1 = (Reader.mk source.utf8ByteSize ((lex source).drop r.position) 0).next.1 ∧
      ∃ before rest, source = before ++ rest ∧ lex before = (lex source).take r.position ∧
        r.next.1 = (parse rest).mapError (ParseError.shift before.utf8ByteSize)) ∧
    (r.position ≤ r.next.2.position ∧ r.next.2.position ≤ (lex source).length) ∧
    (∀ wanted found, r.next.1 = .error (.refused wanted found) →
      (lex source)[r.next.2.position]? = some found) ∧
    (∀ size, r.next.1 = .error (.unexpectedEnd size) →
      size = source.utf8ByteSize ∧ r.next.2.position = (lex source).length) ∧
    (∀ b, r.next.1 = .ok b → r.next.2.position = (lex source).length) ∧
    (r.next.2.position = r.position ↔ r.position = (lex source).length ∨
      ∃ t, (lex source)[r.position]? = some t ∧ t.text ≠ openBrace) ∧
    (r.next.2.position = r.position → ∃ e, ∀ later, calls ≤ later →
      ((Reader.ofSource source).after later).next.1 = .error e) ∧
    ((lex source).length ≤ calls →
      r.next.1 = ((Reader.ofSource source).after (lex source).length).next.1) := by
  have h : r.ReadsFrom source := hr ▸ Reader.readsFrom_after source calls
  have hnext := h.next
  have hbound := hnext.1.position
  rw [hnext.1.tokens] at hbound
  refine ⟨h.next_eq_fresh, ⟨hnext.2, hbound⟩, ?_, ?_, ?_, ?_, ?_, ?_⟩
  · intro wanted found hrefused
    exact h.getElem?_of_refused hrefused
  · intro size hend
    refine ⟨h.size_of_end hend, h.position_next fun wanted found hrefused => ?_⟩
    cases hend.symm.trans hrefused
  · intro b hok
    refine h.position_next fun wanted found hrefused => ?_
    cases hok.symm.trans hrefused
  · rw [h.position_next_eq_iff, h.stuck_iff]
  · intro hstay
    have hstuck : r.Stuck := h.position_next_eq_iff.1 hstay
    obtain ⟨e, hanswer⟩ := Reader.next_of_stuck h.position hstuck
    rw [← hr] at hstuck
    refine ⟨e, fun later hle => ?_⟩
    rw [Reader.after_of_stuck hstuck hle, hr]
    exact congrArg Prod.fst hanswer
  · intro hle
    rw [← hr, Reader.after_of_stuck (Reader.stuck_after_length source) hle]

/-- The second attempt begins at the brace that was refused as a name, and the third at the end. -/
theorem reader_reused_three_times :
    let r := Reader.ofSource "\x7bvar\x7b\x7d"
    r.next.1 = .error (.refused .identifier ⟨"\x7b", 4⟩) ∧
      (lex "\x7bvar\x7b\x7d")[r.next.2.position]? = some ⟨"\x7b", 4⟩ ∧
      (r.after 1).next.1 = .ok [] ∧ (r.after 1).next.2.position = 4 ∧
      ∀ later, 2 ≤ later → (r.after later).next.1 = .error (.unexpectedEnd 6) := by
  intro r
  have hfirst : r.next.1 = .error (.refused .identifier ⟨"\x7b", 4⟩) := by rfl
  have hsecond : (r.after 1).next.1 = .ok [] := by rfl
  have hthird : (r.after 2).next.1 = .error (.unexpectedEnd 6) := by rfl
  obtain ⟨-, -, hrefused, -⟩ := reader_reused (show r.after 0 = r from rfl)
  obtain ⟨-, -, -, -, hok, -⟩ := reader_reused (show r.after 1 = _ from rfl)
  obtain ⟨-, -, -, -, -, hstay, hstuck, -⟩ := reader_reused (show r.after 2 = _ from rfl)
  refine ⟨hfirst, hrefused _ _ hfirst, hsecond, hok _ hsecond, fun later hle => ?_⟩
  obtain ⟨e, hlater⟩ := hstuck (hstay.2 (Or.inl rfl))
  cases hthird.symm.trans (hlater 2 (Nat.le_refl 2))
  exact hlater later hle

end Detuple
