import Detuple.Proofs.Reading

/-!
# Proofs: why reading stops

Reading goes on as long as lexemes are accepted, and there is one place where it stops: the lexemes
before it lead to a state, and the next lexeme, if there is one, is refused by that state
(`State.exists_stop`). What a reader answers, and which tokens it has left then, depends on nothing
but this state and whether there is a next token (`Reader.next_cases`). An error reports that token
and what the state wants instead.
-/

namespace Detuple

variable {goal : Phrase}

/-! ## The place where reading stops -/

/-- The first of the remaining lexemes is refused, or none remains. -/
def State.Stops (state : State goal) (rest : List String) : Prop :=
  ∀ x ∈ rest.head?, state.step x = none

theorem State.stops_nil (state : State goal) : state.Stops [] := by
  intro x hx
  cases hx

theorem State.stops_cons_iff {state : State goal} {x : String} {rest : List String} :
    state.Stops (x :: rest) ↔ state.step x = none := by
  constructor
  · intro h
    exact h x rfl
  · intro h y hy
    rw [← Option.mem_some_iff.1 hy]
    exact h

/-- Reading any lexemes comes to a place where it stops: those before it are accepted, and the next
one is not. -/
theorem State.exists_stop (state : State goal) (xs : List String) :
    ∃ read rest last, xs = read ++ rest ∧ state.steps read = some last ∧ last.Stops rest := by
  induction xs generalizing state with
  | nil => exact ⟨[], [], state, rfl, rfl, state.stops_nil⟩
  | cons x xs ih =>
    cases hstep : state.step x with
    | none => exact ⟨[], x :: xs, state, rfl, rfl, State.stops_cons_iff.2 hstep⟩
    | some next =>
      obtain ⟨read, rest, last, rfl, hread, hstop⟩ := ih next
      exact ⟨x :: read, rest, last, rfl, (State.steps_cons read hstep).trans hread, hstop⟩

/-- Where reading stops in an open phrase, the state says what is wanted. -/
theorem State.run_of_stops {state : State goal} {rest : List String} (hstop : state.Stops rest)
    (hopen : ∀ tree, state ≠ .finished tree) : state.run rest = .refused state.wanted rest := by
  cases rest with
  | nil => exact State.run_nil hopen
  | cons x rest => exact State.run_cons_of_refused rest hopen (State.stops_cons_iff.1 hstop)

/-- Where reading stops, the state says what is wanted, be it that nothing more is wanted. -/
theorem readProgram_of_stops {read rest : List String} {last : State .block}
    (h : (State.start .block).steps read = some last) (hstop : last.Stops rest)
    (hopen : rest = [] → ∀ tree, last ≠ .finished tree) :
    readProgram (read ++ rest) = .refused last.wanted rest := by
  have hrun : Phrase.block.read (read ++ rest) = last.run rest := State.run_append rest h
  unfold readProgram
  by_cases hfin : ∃ tree, last = .finished tree
  · obtain ⟨tree, rfl⟩ := hfin
    rw [hrun, State.run_finished]
    cases rest with
    | nil => exact absurd rfl (hopen rfl tree)
    | cons x rest => rfl
  · rw [hrun, State.run_of_stops hstop (not_exists.1 hfin)]

/-! ## What a reader does -/

namespace Reader

variable {r : Reader} {last : State .block}

/-- What is refused among the lexemes is the error of the reader, at the token there. -/
theorem next_of_readProgram {wanted : Wanted} {left : List String}
    (h : readProgram (r.unread.map Token.text) = .refused wanted left) :
    r.next = (.error ((r.leaving left.length).refusal wanted), r.leaving left.length) := by
  unfold Reader.next
  rw [h]

/-- The reader that has read some tokens more has the others left. -/
theorem unread_leaving {read rest : List Token} (h : r.unread = read ++ rest) :
    (r.leaving rest.length).unread = rest := by
  have htokens : r.tokens = r.tokens.take r.position ++ read ++ rest := by
    rw [List.append_assoc, ← h]
    exact (List.take_append_drop r.position r.tokens).symm
  show r.tokens.drop (r.tokens.length - rest.length) = rest
  rw [htokens, List.length_append, Nat.add_sub_cancel, List.drop_left]

/-- A program that is there up to the last token is read. -/
theorem next_of_finished {b : Block}
    (h : (State.start .block).steps (r.unread.map Token.text) = some (.finished b)) :
    r.next = (.ok b, r.leaving 0) := by
  obtain ⟨hreadable, hlexemes⟩ := State.steps_start_iff.1 h
  have hread : readProgram (r.unread.map Token.text) = .done b [] :=
    readProgram_eq_done_iff.2 ⟨rfl, hreadable, hlexemes⟩
  unfold Reader.next
  rw [hread]
  rfl

/-- Where the tokens end in an unfinished program, the end of the source is the error. -/
theorem next_of_end (h : (State.start .block).steps (r.unread.map Token.text) = some last)
    (hopen : ∀ tree, last ≠ .finished tree) :
    r.next = (.error (.unexpectedEnd r.size), r.leaving 0) := by
  have hread := readProgram_of_stops h last.stops_nil fun _ => hopen
  rw [List.append_nil] at hread
  have hunread : (r.leaving 0).unread = [] := List.drop_length
  rw [next_of_readProgram hread, List.length_nil, Reader.refusal, hunread]
  rfl

/-- Where a token is refused, it is the error, and so is what the state before it wants. -/
theorem next_of_refusal {read rest : List Token} {t : Token}
    (hunread : r.unread = read ++ t :: rest)
    (h : (State.start .block).steps (read.map Token.text) = some last)
    (hstep : last.step t.text = none) :
    r.next = (.error (.refused last.wanted t), r.leaving (t :: rest).length) := by
  have hstop : last.Stops ((t :: rest).map Token.text) := State.stops_cons_iff.2 hstep
  have hread := readProgram_of_stops h hstop fun hnil => nomatch hnil
  rw [← List.map_append, ← hunread] at hread
  rw [next_of_readProgram hread, List.length_map, Reader.refusal, unread_leaving hunread]

/-- What is left is a program, or it ends in the midst of one, or one of its tokens is refused. -/
theorem next_cases (r : Reader) :
    (∃ b, (State.start .block).steps (r.unread.map Token.text) = some (.finished b) ∧
      r.next = (.ok b, r.leaving 0)) ∨
    (∃ last, (State.start .block).steps (r.unread.map Token.text) = some last ∧
      (∀ tree, last ≠ .finished tree) ∧
      r.next = (.error (.unexpectedEnd r.size), r.leaving 0)) ∨
    (∃ read t rest last, r.unread = read ++ t :: rest ∧
      (State.start .block).steps (read.map Token.text) = some last ∧ last.step t.text = none ∧
      r.next = (.error (.refused last.wanted t), r.leaving (t :: rest).length)) := by
  obtain ⟨xs, rest, last, hsplit, hsteps, hstop⟩ :=
    State.exists_stop (State.start .block) (r.unread.map Token.text)
  obtain ⟨read, left, hunread, rfl, rfl⟩ := List.map_eq_append_iff.1 hsplit
  cases left with
  | nil =>
    rw [List.append_nil] at hunread
    rw [← hunread] at hsteps
    by_cases hfin : ∃ b, last = .finished b
    · obtain ⟨b, rfl⟩ := hfin
      exact Or.inl ⟨b, hsteps, next_of_finished hsteps⟩
    · have hopen := not_exists.1 hfin
      exact Or.inr (Or.inl ⟨last, hsteps, hopen, next_of_end hsteps hopen⟩)
  | cons t left =>
    have hstep : last.step t.text = none := State.stops_cons_iff.1 hstop
    exact Or.inr (Or.inr ⟨read, t, left, last, hunread, hsteps, hstep,
      next_of_refusal hunread hsteps hstep⟩)

end Reader

/-! ## What a source text is -/

section

variable {source : String} {last : State .block}

/-- A source text is a program exactly if its tokens lead to the state in which the program has been
read. -/
theorem parse_eq_ok_iff_steps {b : Block} :
    parse source = .ok b ↔ (State.start .block).steps (tokenize source) = some (.finished b) := by
  rw [parse_eq_ok_iff, State.steps_start_iff]
  rfl

/-- A source text whose tokens are accepted, but do not finish the program, ends too early. -/
theorem parse_of_end (h : (State.start .block).steps (tokenize source) = some last)
    (hopen : ∀ tree, last ≠ .finished tree) :
    parse source = .error (.unexpectedEnd source.utf8ByteSize) :=
  congrArg Prod.fst (Reader.next_of_end (r := .ofSource source) h hopen)

/-- The first token that is refused is the error, and so is what is wanted in its place. -/
theorem parse_of_refusal {read rest : List Token} {t : Token}
    (hlex : lex source = read ++ t :: rest)
    (h : (State.start .block).steps (read.map Token.text) = some last)
    (hstep : last.step t.text = none) : parse source = .error (.refused last.wanted t) :=
  congrArg Prod.fst (Reader.next_of_refusal (r := .ofSource source) hlex h hstep)

/-- A source text is a program, or it ends in the midst of one, or one of its tokens is refused. -/
theorem parse_cases (source : String) :
    (∃ b, parse source = .ok b) ∨
    (∃ last, (State.start .block).steps (tokenize source) = some last ∧
      (∀ tree, last ≠ .finished tree) ∧
      parse source = .error (.unexpectedEnd source.utf8ByteSize)) ∨
    (∃ read t rest last, lex source = read ++ t :: rest ∧
      (State.start .block).steps (read.map Token.text) = some last ∧ last.step t.text = none ∧
      parse source = .error (.refused last.wanted t)) := by
  rcases Reader.next_cases (.ofSource source) with ⟨b, -, hnext⟩ | ⟨last, hsteps, hopen, hnext⟩ |
    ⟨read, t, rest, last, hunread, hsteps, hstep, hnext⟩
  · exact Or.inl ⟨b, congrArg Prod.fst hnext⟩
  · exact Or.inr (Or.inl ⟨last, hsteps, hopen, congrArg Prod.fst hnext⟩)
  · exact Or.inr (Or.inr ⟨read, t, rest, last, hunread, hsteps, hstep, congrArg Prod.fst hnext⟩)

end

end Detuple
