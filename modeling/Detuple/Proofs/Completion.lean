import Detuple.Proofs.Spacing

/-!
# Proofs: errors are reported as early as can be

Whatever has been accepted can be completed: a place is filled with the shortest phrase, and then
one phrase after another is closed, from the innermost outwards (`Place.completable_fill`). So
reading ends too early exactly if more tokens could help, and a refused token is the first one
behind which nothing could: the text before it can still be completed, the text up to it and with it
cannot, and it is refused again whatever follows.
-/

namespace Detuple

variable {goal missing : Phrase}

/-! ## Completions -/

/-- Some tokens lead from the state to the end of the phrase. -/
def State.Completable (state : State goal) : Prop :=
  ∃ ts tree, (∀ t ∈ ts, IsToken t) ∧ state.steps ts = some (.finished tree)

/-- A text that is its own only token can be a token. -/
theorem SingleToken.isToken {t : String} (h : SingleToken t) : IsToken t := by
  have hmem : t ∈ tokenize t := by
    rw [h]
    exact List.mem_singleton_self t
  exact isToken_of_mem_tokenize hmem

/-- A state can be completed by way of any state that can be. -/
theorem State.Completable.of_steps {state next : State goal} {xs : List String}
    (h : state.steps xs = some next) (hxs : ∀ x ∈ xs, SingleToken x) (hnext : next.Completable) :
    state.Completable := by
  obtain ⟨ts, tree, hts, hsteps⟩ := hnext
  refine ⟨xs ++ ts, tree, ?_, (State.steps_of_append ts h).trans hsteps⟩
  intro t ht
  rcases List.mem_append.1 ht with ht | ht
  · exact (hxs t ht).isToken
  · exact hts t ht

/-- One step towards a state that can be completed is enough. -/
theorem State.Completable.of_step {state next : State goal} {x : String}
    (h : state.step x = some next) (hx : SingleToken x) (hnext : next.Completable) :
    state.Completable := by
  refine .of_steps (State.steps_cons [] h) ?_ hnext
  intro y hy
  rw [List.mem_singleton.1 hy]
  exact hx

/-- The semicolon behind a statement is a single token. -/
theorem Stmt.singleToken_ending (s : Stmt) : ∀ x ∈ s.ending, SingleToken x := by
  intro x hx
  cases s with
  | var name init =>
    rw [List.mem_singleton.1 hx]
    rfl
  | ret value =>
    rw [List.mem_singleton.1 hx]
    rfl
  | block statements => cases hx

/-- A phrase in its place leaves only the phrases around it to be closed. -/
theorem Place.completable_fill (place : Place goal missing) (tree : missing.Tree) :
    (place.fill tree).Completable := by
  induction place with
  | whole =>
    refine ⟨[], tree, ?_, rfl⟩
    intro t ht
    cases ht
  | tuple outer ih => exact ih (.tuple tree)
  | new typeName outer ih => exact ih (.new typeName tree)
  | item before outer ih =>
    have hclose : (State.nextItem (tree :: before) outer).step ")" =
        some (outer.fill (tree :: before).reverse) := rfl
    exact .of_step hclose rfl (ih _)
  | init name outer ih => exact ih (.var name tree)
  | value outer ih => exact ih (.ret tree)
  | member before outer ih =>
    have hclose : (State.members (tree :: before) outer).step closeBrace =
        some (outer.fill (tree :: before).reverse) := rfl
    have hmembers : (State.members (tree :: before) outer).Completable :=
      .of_step hclose rfl (ih _)
    -- A statement other than a block waits for its semicolon first.
    exact .of_steps (State.steps_ending tree before outer) tree.singleToken_ending hmembers
  | nested outer ih => exact ih (.block tree)

/-- Where an expression is due, `0` completes it. -/
theorem State.completable_expr (place : Place goal .expr) : (State.expr place).Completable := by
  have hnum : (State.expr place).step "0" = some (place.fill (.num "0")) := rfl
  exact .of_step hnum rfl (place.completable_fill _)

/-- Where a list is due, an empty one completes it. -/
theorem State.completable_args (place : Place goal .args) : (State.args place).Completable := by
  have hopen : (State.args place).step "(" = some (.firstItem place) := rfl
  have hclose : (State.firstItem place).step ")" = some (place.fill []) := rfl
  exact .of_step hopen rfl (.of_step hclose rfl (place.completable_fill _))

/-- A new variable can be given a value. -/
theorem State.completable_equals (name : String) (place : Place goal .stmt) :
    (State.equals name place).Completable := by
  have hequals : (State.equals name place).step "=" = some (.expr (.init name place)) := rfl
  exact .of_step hequals rfl (State.completable_expr _)

/-- A block can be closed behind any statements. -/
theorem State.completable_members (before : List Stmt) (place : Place goal .block) :
    (State.members before place).Completable := by
  have hclose : (State.members before place).step closeBrace = some (place.fill before.reverse) :=
    rfl
  exact .of_step hclose rfl (place.completable_fill _)

/-- Every state can be completed: no lexeme that is accepted leads into a dead end. -/
theorem State.completable (state : State goal) : state.Completable := by
  cases state with
  | expr place => exact State.completable_expr place
  | args place => exact State.completable_args place
  | stmt place =>
    have hret : (State.stmt place).step "return" = some (.expr (.value place)) := rfl
    exact .of_step hret rfl (State.completable_expr _)
  | block place =>
    have hopen : (State.block place).step openBrace = some (.members [] place) := rfl
    exact .of_step hopen rfl (State.completable_members [] place)
  | firstItem place =>
    have hclose : (State.firstItem place).step ")" = some (place.fill []) := rfl
    exact .of_step hclose rfl (place.completable_fill _)
  | nextItem before place =>
    have hclose : (State.nextItem before place).step ")" = some (place.fill before.reverse) := rfl
    exact .of_step hclose rfl (place.completable_fill _)
  | typeName place =>
    have hname : (State.typeName place).step "x" = some (.args (.new "x" place)) := rfl
    exact .of_step hname rfl (State.completable_args _)
  | varName place =>
    have hname : (State.varName place).step "x" = some (.equals "x" place) := rfl
    exact .of_step hname rfl (State.completable_equals "x" place)
  | equals name place => exact State.completable_equals name place
  | members before place => exact State.completable_members before place
  | semicolon before last place =>
    have hsemi : (State.semicolon before last place).step ";" =
        some (.members (last :: before) place) := rfl
    exact .of_step hsemi rfl (State.completable_members _ place)
  | finished tree => exact Place.completable_fill .whole tree

/-! ## Texts that go on -/

theorem isGap_blank : IsGap " " := List.all_eq_true.1 rfl

/-- Behind a blank, a text is cut like any other, and what stands before the blank keeps its
tokens. -/
theorem lex_append_blank (source rest : String) : lex (source ++ " " ++ rest) =
    lex source ++ lexAt (source.utf8ByteSize + " ".utf8ByteSize) rest := by
  have hbefore : Apart source (" " ++ rest) :=
    (isGap_blank.closedStart.append (by decide) rest).apart source
  have hlex : lex (source ++ " " ++ rest) = lexAt 0 (source ++ (" " ++ rest)) := by
    rw [← String.append_assoc]
    rfl
  rw [hlex, lexAt_append 0 hbefore, lexAt_append _ (isGap_blank.closedEnd.apart rest),
    lexAt_gap _ isGap_blank, Nat.zero_add]
  rfl

/-- What is accepted up to its end can be completed. -/
theorem exists_parse_append {source : String} {last : State .block}
    (h : (State.start .block).steps (tokenize source) = some last) :
    ∃ rest b, parse (source ++ " " ++ rest) = .ok b := by
  obtain ⟨ts, b, hts, hsteps⟩ := last.completable
  have hrest : tokenize (joinTokens (fun _ _ => " ") ts) = ts :=
    tokenize_joinTokens (fun _ _ => isGap_blank) (fun _ _ _ _ => by decide) hts
  refine ⟨joinTokens (fun _ _ => " ") ts, b, ?_⟩
  have hall : tokenize (source ++ " " ++ joinTokens (fun _ _ => " ") ts) =
      tokenize source ++ ts := by
    rw [tokenize, lex_append_blank, List.map_append, map_text_lexAt, ← tokenize_eq, hrest]
    rfl
  rw [parse_eq_ok_iff_steps, hall, State.steps_of_append ts h, hsteps]

/-- A token that is refused is refused again whatever follows it. -/
theorem parse_append_of_refusal {source : String} {read rest : List Token} {t : Token}
    {last : State .block} (hlex : lex source = read ++ t :: rest)
    (h : (State.start .block).steps (read.map Token.text) = some last)
    (hstep : last.step t.text = none) (more : String) :
    parse (source ++ " " ++ more) = .error (.refused last.wanted t) := by
  have hall : lex (source ++ " " ++ more) =
      read ++ t :: (rest ++ lexAt (source.utf8ByteSize + " ".utf8ByteSize) more) := by
    rw [lex_append_blank, hlex, List.append_assoc, List.cons_append]
  exact parse_of_refusal hall h hstep

/-- Where a token is refused, it cuts the source in two, and what stands before it is accepted. -/
theorem refusal_of_parse {source : String} {wanted : Wanted} {found : Token}
    (h : parse source = .error (.refused wanted found)) :
    ∃ before after last rest, source = before ++ found.text ++ after ∧
      found.span = ⟨before.utf8ByteSize, (before ++ found.text).utf8ByteSize⟩ ∧
      lex source = lex before ++ found :: rest ∧
      (State.start .block).steps (tokenize before) = some last ∧
      last.step found.text = none ∧ last.wanted = wanted := by
  rcases parse_cases source with ⟨b, hb⟩ | ⟨last, -, -, hend⟩ |
    ⟨read, t, rest, last, hlex, hsteps, hstep, hrefused⟩
  · cases h.symm.trans hb
  · cases h.symm.trans hend
  · cases h.symm.trans hrefused
    obtain ⟨before, after, hsource, hsize, rfl, -⟩ := lex_eq_append hlex
    refine ⟨before, after, last, rest, ?_, ?_, hlex, hsteps, hstep, rfl⟩
    · rw [String.append_assoc, hsource]
    · rw [String.utf8ByteSize_append, hsize]
      rfl

/-! ## The earliest error -/

/-- **Errors are reported at the earliest token.** A text ends too early exactly if it is no program
and can be made one by adding to it. Where a token is refused, the text before it can still be made
a program, but not the text up to the end of that token: whatever is added there, the same token is
refused for the same reason. -/
theorem parse_error_earliest (source : String) :
    ((∃ size, parse source = .error (.unexpectedEnd size)) ↔
      (∀ b, parse source ≠ .ok b) ∧ ∃ rest b, parse (source ++ " " ++ rest) = .ok b) ∧
    ∀ wanted found, parse source = .error (.refused wanted found) →
      ∃ before after, source = before ++ found.text ++ after ∧
        before.utf8ByteSize = found.span.start ∧
        (before ++ found.text).utf8ByteSize = found.span.stop ∧
        (∃ rest b, parse (before ++ " " ++ rest) = .ok b) ∧
        ∀ rest, parse (before ++ found.text ++ " " ++ rest) = .error (.refused wanted found) := by
  rcases parse_cases source with ⟨b, hb⟩ | ⟨last, hsteps, hopen, hend⟩ |
    ⟨read, t, rest, last, hlex, hsteps, hstep, hrefused⟩
  · rw [hb]
    refine ⟨⟨?_, ?_⟩, ?_⟩
    · rintro ⟨size, h⟩
      cases h
    · rintro ⟨hno, -⟩
      exact absurd rfl (hno b)
    · intro wanted found h
      cases h
  · rw [hend]
    refine ⟨⟨?_, ?_⟩, ?_⟩
    · intro _
      refine ⟨?_, exists_parse_append hsteps⟩
      intro b h
      cases h
    · intro _
      exact ⟨source.utf8ByteSize, rfl⟩
    · intro wanted found h
      cases h
  · -- The token is refused whatever is added behind it, so the text can never be completed.
    rw [hrefused]
    refine ⟨⟨?_, ?_⟩, ?_⟩
    · rintro ⟨size, h⟩
      cases h
    · rintro ⟨-, more, b, hmore⟩
      rw [parse_append_of_refusal hlex hsteps hstep more] at hmore
      cases hmore
    · intro wanted found h
      cases h
      obtain ⟨before, after, hsource, hsize, hbefore, hupto⟩ := lex_eq_append hlex
      have htokens : tokenize before = read.map Token.text := by rw [tokenize, hbefore]
      refine ⟨before, after, ?_, hsize, ?_, exists_parse_append (htokens ▸ hsteps), ?_⟩
      · rw [String.append_assoc, hsource]
      · rw [String.utf8ByteSize_append, hsize]
        rfl
      · exact parse_append_of_refusal hupto hsteps hstep

/-- A comma where an expression is due, behind a letter of two bytes, and a declaration that breaks
off. -/
theorem parse_error_earliest_comma :
    (∃ before after, "\x7bvar é = ,;\x7d" = before ++ "," ++ after ∧ before.utf8ByteSize = 10 ∧
      (∃ rest b, parse (before ++ " " ++ rest) = .ok b) ∧
      ∀ rest, parse (before ++ "," ++ " " ++ rest) = .error (.refused .expression ⟨",", 10⟩)) ∧
    ∃ rest b, parse ("\x7bvar é" ++ " " ++ rest) = .ok b := by
  have hcomma : parse "\x7bvar é = ,;\x7d" = .error (.refused .expression ⟨",", 10⟩) := by rfl
  have hend : parse "\x7bvar é" = .error (.unexpectedEnd 7) := by rfl
  obtain ⟨before, after, hsource, hsize, -, hcomplete, hrefused⟩ :=
    (parse_error_earliest "\x7bvar é = ,;\x7d").2 _ _ hcomma
  obtain ⟨-, hrest⟩ := (parse_error_earliest "\x7bvar é").1.1 ⟨7, hend⟩
  exact ⟨⟨before, after, hsource, hsize, hcomplete, hrefused⟩, hrest⟩

end Detuple
