import Detuple.Proofs.Completion
import Detuple.Proofs.Descent

/-!
# Proofs: errors ask for the right thing

A state goes on with whatever it wants (`State.goes_on`), and since every state can be completed, a
text that breaks off before a refused token can be completed behind what the error asks for. Where
the error asks for the end of the input, the text is a program as it is. Reading by descent refuses
the same token and complains of the same thing, so the only lexemes it ever misses are those that
open a phrase or stand between two: the lexemes that close a phrase, and the keywords, are checked
where they are known to be there.
-/

namespace Detuple

variable {goal : Phrase}

/-! ## What is asked for -/

/-- A state goes on with what is called for where it refuses a lexeme: with the lexeme that is
missing, with any name, with the first lexeme of a phrase, or, where the input should end, it is
finished. -/
theorem State.goes_on (state : State goal) (found : String) (left : List String) :
    (∃ text ∈ [openBrace, ";", "=", "(", ","],
      state.wanted.complaint (found :: left) = .expected text ∧ SingleToken text ∧
        ∃ next, state.step text = some next) ∨
    (state.wanted.complaint (found :: left) = .expected "identifier" ∧
      ∀ name, Kind.ofText name = .identifier → ∃ next, state.step name = some next) ∨
    (state.wanted.complaint (found :: left) = .expected "end of input" ∧
      ∃ tree, state = .finished tree) ∨
    (state.wanted.complaint (found :: left) = .invalid "expression" ∧
      ∃ next, state.step "0" = some next) ∨
    (state.wanted.complaint (found :: left) = .invalid "statement" ∧
      ∃ next, state.step "return" = some next) := by
  cases state with
  | expr place => exact Or.inr (Or.inr (Or.inr (Or.inl ⟨rfl, _, rfl⟩)))
  | args place => exact Or.inl ⟨"(", by simp, rfl, rfl, _, rfl⟩
  | stmt place => exact Or.inr (Or.inr (Or.inr (Or.inr ⟨rfl, _, rfl⟩)))
  | block place => exact Or.inl ⟨openBrace, by simp, rfl, rfl, _, rfl⟩
  | firstItem place => exact Or.inr (Or.inr (Or.inr (Or.inl ⟨rfl, _, rfl⟩)))
  | nextItem before place => exact Or.inl ⟨",", by simp, rfl, rfl, _, rfl⟩
  | typeName place => exact Or.inr (Or.inl ⟨rfl, fun name hname => ⟨_, if_pos hname⟩⟩)
  | varName place => exact Or.inr (Or.inl ⟨rfl, fun name hname => ⟨_, if_pos hname⟩⟩)
  | equals name place => exact Or.inl ⟨"=", by simp, rfl, rfl, _, rfl⟩
  | members before place => exact Or.inr (Or.inr (Or.inr (Or.inr ⟨rfl, _, rfl⟩)))
  | semicolon before last place => exact Or.inl ⟨";", by simp, rfl, rfl, _, rfl⟩
  | finished tree => exact Or.inr (Or.inr (Or.inl ⟨rfl, tree, rfl⟩))

/-- Reading by descent puts an error into the same words. -/
theorem ParseError.message_refused (wanted : Wanted) (found : Token) (left : List String) :
    (refused wanted found).message =
      (wanted.complaint (found.text :: left)).message found.text := by
  cases wanted <;> rfl

/-- Reading by descent stops at the token that is refused, and complains of what is wanted there. -/
theorem Descent.program_on_of_refusal {source before : String} {rest : List Token} {found : Token}
    {last : State .block} (hlex : lex source = lex before ++ found :: rest)
    (h : (State.start .block).steps (tokenize before) = some last)
    (hstep : last.step found.text = none) :
    program.on (tokenize source) =
      some (.error (last.wanted.complaint (found.text :: rest.map Token.text)),
        found.text :: rest.map Token.text) := by
  have htokens : tokenize source = tokenize before ++ found.text :: rest.map Token.text := by
    rw [tokenize, hlex, List.map_append, List.map_cons, tokenize]
  have hstop : last.Stops (found.text :: rest.map Token.text) := State.stops_cons_iff.2 hstep
  have hread := readProgram_of_stops h hstop fun hnil => absurd hnil (List.cons_ne_nil _ _)
  rw [program_on_eq_readProgram, htokens, hread]
  rfl

/-! ## Texts with what is asked for -/

/-- The text can be made a program by adding to it. -/
def Completable (text : String) : Prop := ∃ more b, parse (text ++ " " ++ more) = .ok b

/-- A token that a state goes on with can be put behind the text that has led there. -/
theorem completable_of_step {before x : String} {last : State .block}
    (h : (State.start .block).steps (tokenize before) = some last) (hx : SingleToken x)
    (hstep : ∃ next, last.step x = some next) : Completable (before ++ " " ++ x) := by
  obtain ⟨next, hnext⟩ := hstep
  have htokens : tokenize (before ++ " " ++ x) = tokenize before ++ [x] := by
    have hblank : Separates " " := by decide
    rw [String.append_assoc, tokenize_infix hblank, hx]
    rfl
  have hsteps : (State.start .block).steps (tokenize (before ++ " " ++ x)) = some next := by
    rw [htokens, State.steps_of_append [x] h, State.steps_cons [] hnext]
    rfl
  exact exists_parse_append hsteps

/-- **Errors tell the truth.** The token that an error has found is the text at its span, and
reading by descent stops at that token with a complaint that says the same. What the complaint calls
for is an opening brace or bracket, a semicolon, an equals sign, a comma, a name, the end of the
input, an expression or a statement, never a lexeme that closes something and no keyword. Put behind
the text before the token, that lexeme, any name, or the beginning of such a phrase leaves a text
that can be completed; and where the end of the input is called for, the text before the token is a
program. -/
theorem parse_error_truthful {source : String} {wanted : Wanted} {found : Token}
    (h : parse source = .error (.refused wanted found)) :
    ∃ before after left complaint,
      source = before ++ found.text ++ after ∧ before.utf8ByteSize = found.span.start ∧
      (before ++ found.text).utf8ByteSize = found.span.stop ∧
      Descent.program.on (tokenize source) = some (.error complaint, found.text :: left) ∧
      (ParseError.refused wanted found).message = complaint.message found.text ∧
      ((∃ text ∈ [openBrace, ";", "=", "(", ","],
          complaint = .expected text ∧ Completable (before ++ " " ++ text)) ∨
        (complaint = .expected "identifier" ∧
          ∀ name, isIdentifier name = true → Completable (before ++ " " ++ name)) ∨
        (complaint = .expected "end of input" ∧ ∃ b, parse before = .ok b) ∨
        (complaint = .invalid "expression" ∧ Completable (before ++ " " ++ "0")) ∨
        (complaint = .invalid "statement" ∧ Completable (before ++ " " ++ "return"))) := by
  obtain ⟨before, after, last, rest, hsource, hspan, hlex, hsteps, hstep, rfl⟩ := refusal_of_parse h
  refine ⟨before, after, rest.map Token.text, _, hsource, congrArg Span.start hspan.symm,
    congrArg Span.stop hspan.symm, Descent.program_on_of_refusal hlex hsteps hstep,
    ParseError.message_refused _ _ _, ?_⟩
  rcases last.goes_on found.text (rest.map Token.text) with ⟨text, hmem, hcall, hone, hnext⟩ |
    ⟨hcall, hnames⟩ | ⟨hcall, b, rfl⟩ | ⟨hcall, hnext⟩ | ⟨hcall, hnext⟩
  · exact Or.inl ⟨text, hmem, hcall, completable_of_step hsteps hone hnext⟩
  · refine Or.inr (Or.inl ⟨hcall, fun name hname => ?_⟩)
    obtain ⟨hone, hkind⟩ := isIdentifier_iff.1 hname
    exact completable_of_step hsteps hone (hnames name hkind)
  · exact Or.inr (Or.inr (Or.inl ⟨hcall, b, parse_eq_ok_iff_steps.2 hsteps⟩))
  · exact Or.inr (Or.inr (Or.inr (Or.inl ⟨hcall, completable_of_step hsteps rfl hnext⟩)))
  · exact Or.inr (Or.inr (Or.inr (Or.inr ⟨hcall, completable_of_step hsteps rfl hnext⟩)))

/-- A bracket where a name is due, behind a letter of two bytes. -/
theorem parse_error_truthful_type_name :
    parse "\x7bvar é = new (1);\x7d" = .error (.refused .identifier ⟨"(", 14⟩) ∧
      ∃ before, before.utf8ByteSize = 14 ∧
        ∀ name, isIdentifier name = true → Completable (before ++ " " ++ name) := by
  have herror : parse "\x7bvar é = new (1);\x7d" = .error (.refused .identifier ⟨"(", 14⟩) := by
    rfl
  refine ⟨herror, ?_⟩
  obtain ⟨before, after, left, complaint, -, hsize, -, -, hmessage, hcalled⟩ :=
    parse_error_truthful herror
  -- the message tells which of the calls it is
  rcases hcalled with ⟨text, hmem, rfl, -⟩ | ⟨rfl, hnames⟩ | ⟨rfl, -⟩ | ⟨rfl, -⟩ | ⟨rfl, -⟩
  · have hno : ∀ text ∈ [openBrace, ";", "=", "(", ","],
        (ParseError.refused .identifier ⟨"(", 14⟩).message ≠
          Complaint.message "(" (.expected text) := by decide
    exact absurd hmessage (hno text hmem)
  · exact ⟨before, hsize, hnames⟩
  · exact absurd hmessage (by decide)
  · exact absurd hmessage (by decide)
  · exact absurd hmessage (by decide)

end Detuple
