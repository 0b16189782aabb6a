import Detuple.Proofs.Cuts
import Detuple.Proofs.Refusals

/-!
# Proofs: statements in front of others

What has been read of the outermost block has no influence on how reading goes on. If statements are
put in front of those that a state has kept, the state accepts the same lexemes and wants the same,
and all that is different after a step is that the statements stand in front (`State.step_prepend`).
So a text that spells statements can be put in front of any other text in the same braces, where
neither of them runs into the other: such a text ends in no word.
-/

namespace Detuple

/-! ## States with more statements in front -/

section

variable (earlier : List Stmt)

/-- The statements before a place in a block, with some more in front if it is the outermost one. -/
def Place.front : Place .block .block → List Stmt → List Stmt
  | .whole, before => before ++ earlier.reverse
  | .nested _, before => before

/-- The place with some more statements in front of those of the outermost block. -/
def Place.prepend {missing : Phrase} : Place .block missing → Place .block missing
  | .whole => .whole
  | .tuple outer => .tuple outer.prepend
  | .new typeName outer => .new typeName outer.prepend
  | .item before outer => .item before outer.prepend
  | .init name outer => .init name outer.prepend
  | .value outer => .value outer.prepend
  | .member before outer => .member (outer.front earlier before) outer.prepend
  | .nested outer => .nested outer.prepend

/-- The state with some more statements in front of those of the outermost block. -/
def State.prepend : State .block → State .block
  | .expr place => .expr (place.prepend earlier)
  | .args place => .args (place.prepend earlier)
  | .stmt place => .stmt (place.prepend earlier)
  | .block place => .block (place.prepend earlier)
  | .firstItem place => .firstItem (place.prepend earlier)
  | .nextItem before place => .nextItem before (place.prepend earlier)
  | .typeName place => .typeName (place.prepend earlier)
  | .varName place => .varName (place.prepend earlier)
  | .equals name place => .equals name (place.prepend earlier)
  | .members before place => .members (place.front earlier before) (place.prepend earlier)
  | .semicolon before last place =>
    .semicolon (place.front earlier before) last (place.prepend earlier)
  | .finished tree => .finished (earlier ++ tree)

/-- More statements in front leave the nearest statement where it is. -/
theorem Place.front_cons (place : Place .block .block) (s : Stmt) (before : List Stmt) :
    place.front earlier (s :: before) = s :: place.front earlier before := by
  cases place with
  | whole => rfl
  | nested outer => rfl

/-- Filling in a phrase that is no block does the same behind more statements. -/
theorem Place.fill_prepend {missing : Phrase} (place : Place .block missing)
    (hmissing : missing ≠ .block) (tree : missing.Tree) :
    (place.prepend earlier).fill tree = (place.fill tree).prepend earlier := by
  induction place with
  | whole => exact absurd rfl hmissing
  | tuple outer ih => exact ih (by decide) (.tuple tree)
  | new typeName outer ih => exact ih (by decide) (.new typeName tree)
  | item before outer => rfl
  | init name outer ih => exact ih (by decide) (.var name tree)
  | value outer ih => exact ih (by decide) (.ret tree)
  | member before outer =>
    cases tree with
    | var name init => rfl
    | ret value => rfl
    | block statements => rw [fill, State.prepend, front_cons]; rfl
  | nested outer ih => exact absurd rfl hmissing

/-- A block that is closed is complete with the statements in front, or is one inside of it. -/
theorem Place.fill_front (place : Place .block .block) (before : List Stmt) :
    (place.prepend earlier).fill (place.front earlier before).reverse =
      (place.fill before.reverse).prepend earlier := by
  cases place with
  | whole =>
    have hfront : (before ++ earlier.reverse).reverse = earlier ++ before.reverse := by
      rw [List.reverse_append, List.reverse_reverse]
    exact congrArg State.finished hfront
  | nested outer => exact outer.fill_prepend earlier (by decide) (.block before.reverse)

/-- The first lexeme of an expression does the same behind more statements. -/
theorem State.stepExpr_prepend (place : Place .block .expr) (x : String) :
    stepExpr (place.prepend earlier) x = (stepExpr place x).map (prepend earlier) := by
  have hident := place.fill_prepend earlier (by decide) (.ident x)
  have hnum := place.fill_prepend earlier (by decide) (.num x)
  unfold stepExpr
  by_cases hnew : x = "new"
  · rw [if_pos hnew, if_pos hnew]
    rfl
  · rw [if_neg hnew, if_neg hnew]
    cases Kind.ofText x with
    | identifier => exact congrArg some hident
    | number => exact congrArg some hnum
    | symbol =>
      by_cases hparen : x = "("
      · simp only [if_pos hparen]
        rfl
      · simp only [if_neg hparen]
        rfl

/-- The first lexeme of a statement does the same behind more statements. -/
theorem State.stepStmt_prepend (place : Place .block .stmt) (x : String) :
    stepStmt (place.prepend earlier) x = (stepStmt place x).map (prepend earlier) := by
  unfold stepStmt
  split_ifs with hvar hret hbrace
  · rfl
  · rfl
  · rfl
  · rfl

/-- A step does the same behind more statements. Only where no brace has been opened yet there is
no block to put them into. -/
theorem State.step_prepend {state : State .block} (hread : state.lexemes ≠ []) (x : String) :
    (state.prepend earlier).step x = (state.step x).map (prepend earlier) := by
  cases state with
  | expr place => exact stepExpr_prepend earlier place x
  | stmt place => exact stepStmt_prepend earlier place x
  | args place => simp only [prepend, step, apply_ite (Option.map _)]; rfl
  | block place =>
    cases place with
    | whole => exact absurd rfl hread
    | nested outer => simp only [prepend, step, apply_ite (Option.map _)]; rfl
  | firstItem place =>
    simp only [prepend, step]
    split_ifs with hclose
    · exact congrArg some (place.fill_prepend earlier (by decide) [])
    · exact stepExpr_prepend earlier (.item [] place) x
  | nextItem before place =>
    simp only [prepend, step]
    split_ifs with hclose hcomma
    · exact congrArg some (place.fill_prepend earlier (by decide) before.reverse)
    · rfl
    · rfl
  | typeName place => simp only [prepend, step, apply_ite (Option.map _)]; rfl
  | varName place => simp only [prepend, step, apply_ite (Option.map _)]; rfl
  | equals name place => simp only [prepend, step, apply_ite (Option.map _)]; rfl
  | members before place =>
    simp only [prepend, step]
    split_ifs with hclose
    · exact congrArg some (place.fill_front earlier before)
    · exact stepStmt_prepend earlier (.member before place) x
  | semicolon before last place =>
    simp only [prepend, step, apply_ite (Option.map _), ← place.front_cons]; rfl
  | finished tree => rfl

/-- A state wants the same behind more statements. -/
theorem State.wanted_prepend (state : State .block) :
    (state.prepend earlier).wanted = state.wanted := by
  cases state <;> rfl

/-- Any lexemes do the same behind more statements, once a brace has been opened. -/
theorem State.steps_prepend {state : State .block} (hvalid : state.Valid)
    (hread : state.lexemes ≠ []) (xs : List String) :
    (state.prepend earlier).steps xs = (state.steps xs).map (prepend earlier) := by
  induction xs generalizing state with
  | nil => rfl
  | cons x xs ih =>
    rw [steps, steps, step_prepend earlier hread]
    cases hstep : state.step x with
    | none => rfl
    | some next =>
      obtain ⟨hlexemes, hnext⟩ := step_sound hstep hvalid
      refine ih hnext ?_
      rw [hlexemes]
      exact List.append_ne_nil_of_right_ne_nil _ (List.cons_ne_nil x [])

end

/-! ## Texts in braces -/

/-- A text in braces. -/
def braced (text : String) : String := openBrace ++ text ++ closeBrace

theorem closedEnd_openBrace : ClosedEnd openBrace := by decide

theorem separates_closeBrace : Separates closeBrace := by decide

/-- Braces are tokens of their own around the tokens of a text. -/
theorem tokenize_braced (text : String) :
    tokenize (braced text) = openBrace :: (tokenize text ++ [closeBrace]) := by
  rw [braced, tokenize_append_of_closedStart separates_closeBrace.2.1,
    tokenize_append_of_closedEnd closedEnd_openBrace]
  rfl

/-- A text in braces is a program exactly if it spells the statements of the program. -/
theorem parse_braced_iff {text : String} {b : Block} :
    parse (braced text) = .ok b ↔ Stmt.ReadableList b ∧ tokenize text = Stmt.lexemesMembers b := by
  rw [parse_eq_ok_iff, tokenize_braced, Block.lexemes, List.cons.injEq, List.append_left_inj]
  exact and_congr_right fun _ => and_iff_right rfl

/-- A statement ends in a semicolon or in a brace. -/
theorem Stmt.exists_lexemes_eq_concat (s : Stmt) :
    ∃ front mark, IsMark mark ∧ s.lexemes ++ s.ending = front ++ [mark] := by
  have hsemi : IsMark ";" := ⟨';', rfl, by decide, by decide⟩
  have hbrace : IsMark closeBrace := ⟨'\x7d', rfl, by decide, by decide⟩
  cases s with
  | var name init => exact ⟨_, _, hsemi, rfl⟩
  | ret value => exact ⟨_, _, hsemi, rfl⟩
  | block statements =>
    exact ⟨openBrace :: Stmt.lexemesMembers statements, _, hbrace, List.append_nil _⟩

/-- Statements end with a mark, if there are any. -/
theorem Stmt.isMark_getLast?_lexemesMembers (ss : List Stmt) :
    ∀ t ∈ (Stmt.lexemesMembers ss).getLast?, IsMark t := by
  intro t ht
  rcases List.eq_nil_or_concat' ss with rfl | ⟨before, s, rfl⟩
  · cases ht
  · obtain ⟨front, mark, hmark, hlexemes⟩ := s.exists_lexemes_eq_concat
    have hlast : Stmt.lexemesMembers (before ++ [s]) =
        Stmt.lexemesMembers before ++ front ++ [mark] := by
      rw [Stmt.lexemesMembers_append, Stmt.lexemesMembers, Stmt.lexemesMembers, List.append_nil,
        hlexemes, List.append_assoc]
    rw [hlast, List.getLast?_concat] at ht
    obtain rfl := Option.some.inj ht
    exact hmark

/-- The opening brace is a token, and the others begin behind it. -/
theorem lex_braced (text : String) : lex (braced text) =
    ⟨openBrace, 0⟩ :: lexAt openBrace.utf8ByteSize (text ++ closeBrace) := by
  have hopen : IsToken openBrace := Or.inr ⟨'\x7b', rfl, by decide, by decide⟩
  have hlex : lex (braced text) = lexAt 0 (openBrace ++ (text ++ closeBrace)) := by
    rw [← String.append_assoc]
    rfl
  rw [hlex, lexAt_append 0 (closedEnd_openBrace.apart _), lexAt_token 0 hopen, Nat.zero_add]
  rfl

theorem utf8ByteSize_braced_append (a b : String) :
    (braced (a ++ b)).utf8ByteSize = (braced b).utf8ByteSize + a.utf8ByteSize := by
  simp only [braced, String.utf8ByteSize_append]
  omega

/-- More statements in front do not finish a program. -/
theorem State.prepend_ne_finished {state : State .block} (h : ∀ tree, state ≠ .finished tree)
    (earlier : List Stmt) (tree : Block) : state.prepend earlier ≠ .finished tree := by
  intro heq
  cases state with
  | finished tree' => exact absurd rfl (h tree')
  | _ => cases heq

section

variable {a : String} {as : Block}

/-- A text that spells statements does not end in a word. -/
theorem closedEnd_of_lexemesMembers (ha : tokenize a = Stmt.lexemesMembers as) : ClosedEnd a := by
  refine closedEnd_of_tokenize ?_
  rw [ha]
  exact Stmt.isMark_getLast?_lexemesMembers as

/-- Behind statements, the tokens of a text are the same, only further on. -/
theorem lex_braced_append (ha : tokenize a = Stmt.lexemesMembers as) (b : String) :
    lex (braced (a ++ b)) = ⟨openBrace, 0⟩ :: (lexAt openBrace.utf8ByteSize a ++
      (lexAt openBrace.utf8ByteSize (b ++ closeBrace)).map (Token.shift a.utf8ByteSize)) := by
  have hclosed : ClosedEnd a := closedEnd_of_lexemesMembers ha
  rw [lex_braced, String.append_assoc, lexAt_append _ (hclosed.apart _), lexAt_add]

/-- The lexemes of statements behind the opening brace lead to the state behind the brace, with the
statements in front. -/
theorem State.steps_openBrace_append (has : Stmt.ReadableList as) (xs : List String) :
    (State.start .block).steps (openBrace :: (Stmt.lexemesMembers as ++ xs)) =
      ((State.start .block).steps (openBrace :: xs)).map (prepend as) := by
  have hopen : (State.start .block).step openBrace = some (.members [] .whole) := rfl
  have hread := Stmt.steps_lexemesMembers as has [] (.whole : Place .block .block)
  have hbehind : State.members (as.reverse ++ []) .whole = prepend as (.members [] .whole) :=
    congrArg (State.members · .whole) (List.append_nil _)
  have hvalid : (State.members [] (.whole : Place .block .block)).Valid := ⟨trivial, trivial⟩
  rw [State.steps_cons _ hopen, State.steps_cons _ hopen, State.steps_of_append xs hread, hbehind]
  exact State.steps_prepend as hvalid (List.cons_ne_nil _ _) xs

/-- Tokens behind statements lead to the state that they lead to without them, but for the
statements. -/
theorem State.steps_tokens_append (has : Stmt.ReadableList as)
    (ha : tokenize a = Stmt.lexemesMembers as) (bytes : Nat) (first : Token) (ts : List Token)
    (hfirst : first.text = openBrace) :
    (State.start .block).steps ((first :: (lexAt openBrace.utf8ByteSize a ++
        ts.map (Token.shift bytes))).map Token.text) =
      ((State.start .block).steps ((first :: ts).map Token.text)).map (prepend as) := by
  rw [List.map_cons, List.map_cons, List.map_append, map_text_shift, map_text_lexAt, ← tokenize_eq,
    ha, hfirst]
  exact State.steps_openBrace_append has _

/-- Statements in front of those of a program are read along with them. -/
theorem parse_braced_append_of_ok (has : Stmt.ReadableList as)
    (ha : tokenize a = Stmt.lexemesMembers as) {b : String} {bs : Block}
    (h : parse (braced b) = .ok bs) : parse (braced (a ++ b)) = .ok (as ++ bs) := by
  obtain ⟨hbs, hb⟩ := parse_braced_iff.1 h
  refine parse_braced_iff.2 ⟨?_, ?_⟩
  · refine Stmt.spelledList_iff.2 fun s hs => ?_
    rcases List.mem_append.1 hs with hs | hs
    · exact Stmt.spelledList_iff.1 has s hs
    · exact Stmt.spelledList_iff.1 hbs s hs
  · have hclosed : ClosedEnd a := closedEnd_of_lexemesMembers ha
    rw [tokenize_append (hclosed.apart b), Stmt.lexemesMembers_append, ha, hb]

/-- Statements in front of an error only move the error. -/
theorem parse_braced_append_of_error (has : Stmt.ReadableList as)
    (ha : tokenize a = Stmt.lexemesMembers as) {b : String} {e : ParseError}
    (h : parse (braced b) = .error e) :
    parse (braced (a ++ b)) = .error (e.shift a.utf8ByteSize) := by
  rcases parse_cases (braced b) with ⟨bs, hb⟩ | ⟨last, hsteps, hopen, hend⟩ |
    ⟨read, t, rest, last, hlex, hsteps, hstep, hrefused⟩
  · cases hb.symm.trans h
  · cases hend.symm.trans h
    have hsteps' : (State.start .block).steps (tokenize (braced (a ++ b))) =
        some (last.prepend as) := by
      rw [tokenize, lex_braced_append ha, State.steps_tokens_append has ha _ _ _ rfl, ← lex_braced]
      exact congrArg (Option.map _) hsteps
    rw [parse_of_end hsteps' (State.prepend_ne_finished hopen as), utf8ByteSize_braced_append]
    rfl
  · cases hrefused.symm.trans h
    rw [lex_braced] at hlex
    cases read with
    | nil =>
      -- The first brace is not refused.
      cases hlex
      cases hsteps
      cases hstep
    | cons first read =>
      rw [List.cons_append, List.cons.injEq] at hlex
      obtain ⟨rfl, hleft⟩ := hlex
      have hlex' := lex_braced_append ha b
      rw [hleft, List.map_append, List.map_cons, ← List.append_assoc, ← List.cons_append] at hlex'
      have hsteps' := State.steps_tokens_append has ha a.utf8ByteSize ⟨openBrace, 0⟩ read rfl
      rw [hsteps] at hsteps'
      have hread : last.lexemes ≠ [] := by
        rw [(State.steps_sound hsteps trivial).1]
        exact List.append_ne_nil_of_right_ne_nil _ (List.cons_ne_nil _ _)
      have hstep' : (last.prepend as).step t.text = none := by
        rw [State.step_prepend as hread, hstep]
        rfl
      rw [parse_of_refusal hlex' hsteps' hstep', State.wanted_prepend]
      rfl

end

/-- **Statements at the start of a block have no influence on the rest of it.** If a text in braces
is a program, then with another text behind it in the same braces it is the program with the
statements of both, provided the other text in braces is a program; and if that is none, the error
is the same, only further on by the bytes of the first text. A program in braces is a program whose
only statement it is. -/
theorem parse_braced_append :
    (∀ (a b : String) (as : Block), parse (braced a) = .ok as →
      (∀ bs, parse (braced b) = .ok bs → parse (braced (a ++ b)) = .ok (as ++ bs)) ∧
      ∀ e, parse (braced b) = .error e →
        parse (braced (a ++ b)) = .error (e.shift a.utf8ByteSize)) ∧
    ∀ (source : String) (b : Block), parse source = .ok b →
      parse (braced source) = .ok [.block b] := by
  constructor
  · intro a b as ha
    obtain ⟨has, htokens⟩ := parse_braced_iff.1 ha
    exact ⟨fun bs h => parse_braced_append_of_ok has htokens h,
      fun e h => parse_braced_append_of_error has htokens h⟩
  · intro source b h
    obtain ⟨hreadable, htokens⟩ := parse_eq_ok_iff.1 h
    refine parse_braced_iff.2 ⟨⟨hreadable, trivial⟩, ?_⟩
    rw [htokens]
    exact (List.append_nil _).symm

/-- Behind a statement of nine bytes, a value is missing nine bytes further on. -/
theorem parse_braced_append_comma :
    parse (braced "var é=1;") = .ok [.var "é" (.num "1")] ∧
      parse (braced "return ,;") = .error (.refused .expression ⟨",", 8⟩) ∧
      parse (braced ("var é=1;" ++ "return ,;")) = .error (.refused .expression ⟨",", 17⟩) ∧
      parse (braced ("var é=1;" ++ "return é;")) =
        .ok [.var "é" (.num "1"), .ret (.ident "é")] ∧
      parse (braced (braced "var é=1;")) = .ok [.block [.var "é" (.num "1")]] := by
  have ha : parse (braced "var é=1;") = .ok [.var "é" (.num "1")] := by rfl
  have hcomma : parse (braced "return ,;") = .error (.refused .expression ⟨",", 8⟩) := by rfl
  have hvalue : parse (braced "return é;") = .ok [.ret (.ident "é")] := by rfl
  obtain ⟨happend, hnest⟩ := parse_braced_append
  obtain ⟨-, herror⟩ := happend _ "return ,;" _ ha
  obtain ⟨hok, -⟩ := happend _ "return é;" _ ha
  exact ⟨ha, hcomma, herror _ hcomma, hok _ hvalue, hnest _ _ ha⟩

end Detuple
