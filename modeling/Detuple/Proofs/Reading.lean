import Detuple.Proofs.Trees
import Detuple.Reading.Reader

/-!
# Proofs: reading lexemes

A state remembers exactly the lexemes that led to it: its spelling (`State.lexemes`) grows by one
lexeme with every step, and all strings in it are of the kinds that the grammar wants
(`State.step_sound`). In the other direction, the lexemes that spell a tree lead from any place
where the tree is missing to the state in which it has been filled in (`Expr.steps_lexemes` and its
companions). Together, reading a phrase succeeds on the spelling of a readable tree and on nothing
else (`Phrase.read_eq_done_iff`).
-/

namespace Detuple

variable {goal missing : Phrase}

/-! ## The lexemes behind a state -/

/-- The lexemes that spell a phrase. -/
def Phrase.lexemes : (goal : Phrase) → goal.Tree → List String
  | .expr, e => e.lexemes
  | .args, es => Expr.lexemesArgs es
  | .stmt, s => s.lexemes
  | .block, b => Block.lexemes b

/-- Every string of a phrase is of the kind that the grammar wants at its place. -/
def Phrase.Readable : (goal : Phrase) → goal.Tree → Prop
  | .expr, e => e.Readable
  | .args, es => Expr.ReadableList es
  | .stmt, s => s.Readable
  | .block, b => Stmt.ReadableList b

/-- The lexemes that have been read before a place. -/
def Place.lexemes {missing : Phrase} : Place goal missing → List String
  | .whole => []
  | .tuple outer => outer.lexemes
  | .new typeName outer => outer.lexemes ++ ["new", typeName]
  | .item before outer => outer.lexemes ++
      "(" :: (Expr.lexemesItems before.reverse ++ Expr.commaAfter before.reverse)
  | .init name outer => outer.lexemes ++ ["var", name, "="]
  | .value outer => outer.lexemes ++ ["return"]
  | .member before outer => outer.lexemes ++ openBrace :: Stmt.lexemesMembers before.reverse
  | .nested outer => outer.lexemes

/-- The lexemes that have been read. -/
def State.lexemes : State goal → List String
  | .expr place | .args place | .stmt place | .block place => place.lexemes
  | .firstItem place => place.lexemes ++ ["("]
  | .nextItem before place => place.lexemes ++ "(" :: Expr.lexemesItems before.reverse
  | .typeName place => place.lexemes ++ ["new"]
  | .varName place => place.lexemes ++ ["var"]
  | .equals name place => place.lexemes ++ ["var", name]
  | .members before place => place.lexemes ++ openBrace :: Stmt.lexemesMembers before.reverse
  | .semicolon before last place =>
    place.lexemes ++ openBrace :: (Stmt.lexemesMembers before.reverse ++ last.lexemes)
  | .finished tree => goal.lexemes tree

/-- Every string that is kept in a place is of the kind that the grammar wants there. -/
def Place.Valid {missing : Phrase} : Place goal missing → Prop
  | .whole => True
  | .tuple outer | .value outer | .nested outer => outer.Valid
  | .new name outer | .init name outer => Kind.ofText name = .identifier ∧ outer.Valid
  | .item before outer => Expr.ReadableList before ∧ outer.Valid
  | .member before outer => Stmt.ReadableList before ∧ outer.Valid

/-- What holds of a state that has been reached: every string in it is of the kind that the grammar
wants there, an item has been read where the next one is due, and a semicolon is due behind no
block. -/
def State.Valid : State goal → Prop
  | .expr place | .firstItem place | .typeName place | .args place => place.Valid
  | .stmt place | .varName place | .block place => place.Valid
  | .nextItem before place => before ≠ [] ∧ Expr.ReadableList before ∧ place.Valid
  | .equals name place => Kind.ofText name = .identifier ∧ place.Valid
  | .members before place => Stmt.ReadableList before ∧ place.Valid
  | .semicolon before last place =>
    Stmt.ReadableList before ∧ last.Readable ∧ last.ending = [";"] ∧ place.Valid
  | .finished tree => goal.Readable tree

/-- Filling a place adds the spelling of what is filled in, whatever the place completes thereby. -/
theorem Place.lexemes_fill (place : Place goal missing) (tree : missing.Tree) :
    (place.fill tree).lexemes = place.lexemes ++ missing.lexemes tree := by
  induction place with
  | whole => rfl
  | tuple outer ih => exact ih (.tuple tree)
  | new typeName outer ih =>
    rw [Place.fill, ih (.new typeName tree)]
    simp [Place.lexemes, Phrase.lexemes, Expr.lexemes, Expr.lexemesArgs]
  | item before outer =>
    simp [Place.fill, State.lexemes, Place.lexemes, Phrase.lexemes, Expr.lexemesItems_snoc]
  | init name outer ih =>
    rw [Place.fill, ih (.var name tree)]
    simp [Place.lexemes, Phrase.lexemes, Stmt.lexemes]
  | value outer ih =>
    rw [Place.fill, ih (.ret tree)]
    simp [Place.lexemes, Phrase.lexemes, Stmt.lexemes]
  | member before outer =>
    -- A block is complete as it is; any other statement first waits for its semicolon.
    cases tree with
    | var name init => simp [Place.fill, State.lexemes, Place.lexemes, Phrase.lexemes]
    | ret value => simp [Place.fill, State.lexemes, Place.lexemes, Phrase.lexemes]
    | block statements =>
      simp [Place.fill, State.lexemes, Place.lexemes, Phrase.lexemes, Stmt.lexemesMembers_append,
        Stmt.lexemesMembers, Stmt.ending]
  | nested outer ih => exact ih (.block tree)

/-- A readable phrase in a valid place makes a valid state. -/
theorem Place.valid_fill {place : Place goal missing} {tree : missing.Tree}
    (hp : place.Valid) (ht : missing.Readable tree) : (place.fill tree).Valid := by
  induction place with
  | whole => exact ht
  | tuple outer ih => exact ih hp ht
  | new typeName outer ih => exact ih hp.2 ⟨hp.1, ht⟩
  | item before outer => exact ⟨List.cons_ne_nil _ _, ⟨ht, hp.1⟩, hp.2⟩
  | init name outer ih => exact ih hp.2 ⟨hp.1, ht⟩
  | value outer ih => exact ih hp ht
  | member before outer =>
    cases tree with
    | var name init => exact ⟨hp.1, ht, rfl, hp.2⟩
    | ret value => exact ⟨hp.1, ht, rfl, hp.2⟩
    | block statements => exact ⟨⟨ht, hp.1⟩, hp.2⟩
  | nested outer ih => exact ih hp ht

/-! ## One lexeme -/

/-- The first lexeme of an expression is added to the spelling of the place, all of it readable. -/
theorem State.stepExpr_sound {place : Place goal .expr} {lexeme : String} {next : State goal}
    (h : State.stepExpr place lexeme = some next) (hp : place.Valid) :
    next.lexemes = place.lexemes ++ [lexeme] ∧ next.Valid := by
  unfold State.stepExpr at h
  by_cases hnew : lexeme = "new"
  · rw [if_pos hnew] at h
    cases h
    exact ⟨by rw [hnew]; rfl, hp⟩
  · rw [if_neg hnew] at h
    cases hk : Kind.ofText lexeme with
    | identifier =>
      rw [hk] at h
      cases h
      exact ⟨place.lexemes_fill _, Place.valid_fill hp ⟨hk, hnew⟩⟩
    | number =>
      rw [hk] at h
      cases h
      exact ⟨place.lexemes_fill _, Place.valid_fill hp hk⟩
    | symbol =>
      simp only [hk] at h
      by_cases hparen : lexeme = "("
      · rw [if_pos hparen] at h
        cases h
        exact ⟨by rw [hparen]; rfl, hp⟩
      · rw [if_neg hparen] at h
        cases h

/-- The first lexeme of a statement is added to the spelling of the place, all of it readable. -/
theorem State.stepStmt_sound {place : Place goal .stmt} {lexeme : String} {next : State goal}
    (h : State.stepStmt place lexeme = some next) (hp : place.Valid) :
    next.lexemes = place.lexemes ++ [lexeme] ∧ next.Valid := by
  unfold State.stepStmt at h
  split_ifs at h with hvar hret hbrace
  · cases h
    exact ⟨by rw [hvar]; rfl, hp⟩
  · cases h
    exact ⟨by rw [hret]; rfl, hp⟩
  · cases h
    exact ⟨by rw [hbrace]; rfl, trivial, hp⟩

/-- A step adds its lexeme to the spelling of the state and keeps all of it readable. -/
theorem State.step_sound {state next : State goal} {lexeme : String}
    (h : state.step lexeme = some next) (hs : state.Valid) :
    next.lexemes = state.lexemes ++ [lexeme] ∧ next.Valid := by
  cases state with
  | expr place => exact State.stepExpr_sound h hs
  | stmt place => exact State.stepStmt_sound h hs
  | args place =>
    simp only [State.step, Option.ite_none_right_eq_some, Option.some.injEq] at h
    obtain ⟨rfl, rfl⟩ := h
    exact ⟨rfl, hs⟩
  | block place =>
    simp only [State.step, Option.ite_none_right_eq_some, Option.some.injEq] at h
    obtain ⟨rfl, rfl⟩ := h
    exact ⟨rfl, trivial, hs⟩
  | firstItem place =>
    simp only [State.step] at h
    split_ifs at h with hclose
    · cases h
      refine ⟨?_, Place.valid_fill hs trivial⟩
      rw [Place.lexemes_fill, hclose]
      simp [State.lexemes, Phrase.lexemes, Expr.lexemesArgs, Expr.lexemesItems]
    · -- Otherwise an item begins, with no items before it.
      obtain ⟨hl, hr⟩ := State.stepExpr_sound h ⟨trivial, hs⟩
      exact ⟨hl, hr⟩
  | nextItem before place =>
    simp only [State.step] at h
    obtain ⟨hne, hb, hp⟩ := hs
    split_ifs at h with hclose hcomma
    · cases h
      refine ⟨?_, Place.valid_fill hp hb.reverse⟩
      rw [Place.lexemes_fill, hclose]
      simp [State.lexemes, Phrase.lexemes, Expr.lexemesArgs]
    · cases h
      refine ⟨?_, hb, hp⟩
      have hcomma' := Expr.commaAfter_of_ne_nil (mt List.reverse_eq_nil_iff.1 hne)
      simp [State.lexemes, Place.lexemes, hcomma', hcomma]
  | typeName place =>
    simp only [State.step, Option.ite_none_right_eq_some, Option.some.injEq] at h
    obtain ⟨hk, rfl⟩ := h
    exact ⟨by simp [State.lexemes, Place.lexemes], hk, hs⟩
  | varName place =>
    simp only [State.step, Option.ite_none_right_eq_some, Option.some.injEq] at h
    obtain ⟨hk, rfl⟩ := h
    exact ⟨by simp [State.lexemes], hk, hs⟩
  | equals name place =>
    simp only [State.step, Option.ite_none_right_eq_some, Option.some.injEq] at h
    obtain ⟨rfl, rfl⟩ := h
    exact ⟨by simp [State.lexemes, Place.lexemes], hs⟩
  | members before place =>
    simp only [State.step] at h
    split_ifs at h with hclose
    · cases h
      refine ⟨?_, Place.valid_fill hs.2 hs.1.reverse⟩
      rw [Place.lexemes_fill, hclose]
      simp [State.lexemes, Phrase.lexemes, Block.lexemes]
    · exact State.stepStmt_sound h hs
  | semicolon before last place =>
    simp only [State.step, Option.ite_none_right_eq_some, Option.some.injEq] at h
    obtain ⟨rfl, rfl⟩ := h
    obtain ⟨hb, hl, hend, hp⟩ := hs
    refine ⟨?_, ⟨hl, hb⟩, hp⟩
    simp [State.lexemes, Stmt.lexemesMembers_append, Stmt.lexemesMembers, hend]
  | finished tree => cases h

/-! ## Many lexemes -/

/-- The state after some more lexemes, if none of them is refused. -/
def State.steps : State goal → List String → Option (State goal)
  | state, [] => some state
  | state, lexeme :: rest => (state.step lexeme).bind fun next => next.steps rest

theorem State.steps_cons {state next : State goal} {lexeme : String} (rest : List String)
    (h : state.step lexeme = some next) : state.steps (lexeme :: rest) = next.steps rest := by
  rw [State.steps, h, Option.bind_some]

/-- Some lexemes and then some more are read one after another. -/
theorem State.steps_append (state : State goal) (xs ys : List String) :
    state.steps (xs ++ ys) = (state.steps xs).bind fun next => next.steps ys := by
  induction xs generalizing state with
  | nil => rfl
  | cons x xs ih =>
    rw [List.cons_append, State.steps, State.steps, Option.bind_assoc]
    exact congrArg _ (funext fun next => ih next)

theorem State.steps_of_append {state next : State goal} {xs : List String} (ys : List String)
    (h : state.steps xs = some next) : state.steps (xs ++ ys) = next.steps ys := by
  rw [State.steps_append, h, Option.bind_some]

/-- Lexemes that are accepted are added to the spelling of the state, and all of it stays
readable. -/
theorem State.steps_sound {state last : State goal} {xs : List String}
    (h : state.steps xs = some last) (hs : state.Valid) :
    last.lexemes = state.lexemes ++ xs ∧ last.Valid := by
  induction xs generalizing state with
  | nil =>
    cases h
    exact ⟨(List.append_nil _).symm, hs⟩
  | cons x xs ih =>
    rw [State.steps, Option.bind_eq_some_iff] at h
    obtain ⟨next, hstep, hrest⟩ := h
    obtain ⟨hl, hv⟩ := State.step_sound hstep hs
    obtain ⟨hl', hv'⟩ := ih hrest hv
    exact ⟨by rw [hl', hl, List.append_assoc]; rfl, hv'⟩

/-- A complete phrase leaves the other lexemes alone. -/
theorem State.run_finished (tree : goal.Tree) (xs : List String) :
    (State.finished tree).run xs = .done tree xs := by
  cases xs <;> rfl

/-- An open phrase is refused where there is no lexeme. -/
theorem State.run_nil {state : State goal} (h : ∀ tree, state ≠ .finished tree) :
    state.run [] = .refused state.wanted [] := by
  rw [State.run]
  exact h

/-- Reading stops in front of a lexeme that is refused. -/
theorem State.run_cons_of_refused {state : State goal} {x : String} (xs : List String)
    (h : ∀ tree, state ≠ .finished tree) (hstep : state.step x = none) :
    state.run (x :: xs) = .refused state.wanted (x :: xs) := by
  rw [State.run, hstep]
  exact h

theorem State.run_cons {state next : State goal} {x : String} (xs : List String)
    (hstep : state.step x = some next) : state.run (x :: xs) = next.run xs := by
  rw [State.run, hstep]
  rintro tree rfl
  cases hstep

/-- Lexemes that are accepted are read before the rest. -/
theorem State.run_append {state next : State goal} {xs : List String} (rest : List String)
    (h : state.steps xs = some next) : state.run (xs ++ rest) = next.run rest := by
  induction xs generalizing state with
  | nil =>
    cases h
    rfl
  | cons x xs ih =>
    rw [State.steps, Option.bind_eq_some_iff] at h
    obtain ⟨after, hstep, hrest⟩ := h
    rw [List.cons_append, State.run_cons _ hstep, ih hrest]

/-- Reading succeeds where some lexemes complete the phrase. -/
theorem State.run_eq_done_iff {state : State goal} {xs rest : List String} {tree : goal.Tree} :
    state.run xs = .done tree rest ↔
      ∃ read, xs = read ++ rest ∧ state.steps read = some (.finished tree) := by
  constructor
  · intro h
    -- A finished state leaves all lexemes alone, even where there are more of them.
    induction xs generalizing state with
    | nil =>
      by_cases hf : ∃ t, state = .finished t
      · obtain ⟨t, rfl⟩ := hf
        cases h
        exact ⟨[], rfl, rfl⟩
      · rw [State.run_nil (not_exists.1 hf)] at h
        cases h
    | cons x xs ih =>
      by_cases hf : ∃ t, state = .finished t
      · obtain ⟨t, rfl⟩ := hf
        cases h
        exact ⟨[], rfl, rfl⟩
      · cases hstep : state.step x with
        | none =>
          rw [State.run_cons_of_refused xs (not_exists.1 hf) hstep] at h
          cases h
        | some next =>
          rw [State.run_cons xs hstep] at h
          obtain ⟨read, rfl, hread⟩ := ih h
          exact ⟨x :: read, rfl, (State.steps_cons _ hstep).trans hread⟩
  · rintro ⟨read, rfl, hread⟩
    rw [State.run_append rest hread, State.run_finished]

/-! ## The spelling of a tree -/

/-- The first lexeme of a readable expression closes no list. -/
theorem Expr.lexemes_eq_cons {e : Expr} (h : e.Readable) :
    ∃ first rest, e.lexemes = first :: rest ∧ first ≠ ")" := by
  cases e with
  | ident name => exact ⟨name, [], rfl, Kind.ne_of_symbol (by simp [h.1]) (by decide)⟩
  | num text =>
    have hk : Kind.ofText text = .number := h
    exact ⟨text, [], rfl, Kind.ne_of_symbol (by simp [hk]) (by decide)⟩
  | tuple elements => exact ⟨_, _, rfl, by decide⟩
  | new typeName args => exact ⟨_, _, rfl, by decide⟩

/-- Behind an opened bracket, an expression is read like any other. -/
theorem State.steps_firstItem {e : Expr} (h : e.Readable) (place : Place goal .args) :
    (State.firstItem place).steps e.lexemes = (State.expr (.item [] place)).steps e.lexemes := by
  obtain ⟨first, rest, hl, hne⟩ := Expr.lexemes_eq_cons h
  have hstep : (State.firstItem place).step first = (State.expr (.item [] place)).step first :=
    if_neg hne
  rw [hl, State.steps, State.steps, hstep]

mutual

/-- The lexemes of an expression lead to the state in which it has been filled in. The place is
arbitrary, since the induction on the tree goes through places further in. -/
theorem Expr.steps_lexemes : ∀ e : Expr, e.Readable → ∀ place : Place goal .expr,
    (State.expr place).steps e.lexemes = some (place.fill e)
  | .ident name, h, place => by
    refine State.steps_cons [] ?_
    simp only [State.step, State.stepExpr, if_neg h.2, h.1]
  | .num text, h, place => by
    have hk : Kind.ofText text = .number := h
    have hnew : text ≠ "new" := by
      rintro rfl
      exact absurd hk (by decide)
    refine State.steps_cons [] ?_
    simp only [State.step, State.stepExpr, if_neg hnew, hk]
  | .tuple elements, h, place => by
    have hopen : (State.expr place).step "(" = some (.firstItem (.tuple place)) := rfl
    rw [Expr.lexemes, State.steps_cons _ hopen, Expr.steps_lexemesItems elements h]
    rfl
  | .new typeName args, h, place => by
    have hnew : (State.expr place).step "new" = some (.typeName place) := rfl
    have hname : (State.typeName place).step typeName = some (.args (.new typeName place)) :=
      if_pos h.1
    have hopen : (State.args (.new typeName place)).step "(" =
        some (.firstItem (.new typeName place)) := rfl
    rw [Expr.lexemes, State.steps_cons _ hnew, State.steps_cons _ hname, State.steps_cons _ hopen,
      Expr.steps_lexemesItems args h.2]
    rfl

/-- The items of a list and the bracket behind them lead to the state in which the list has been
filled in. -/
theorem Expr.steps_lexemesItems : ∀ es : List Expr, Expr.ReadableList es →
    ∀ place : Place goal .args,
      (State.firstItem place).steps (Expr.lexemesItems es ++ [")"]) = some (place.fill es)
  | [], _, _ => rfl
  | e :: es, h, place => by
    have hfirst : (State.firstItem place).steps e.lexemes = some (.nextItem [e] place) :=
      (State.steps_firstItem h.1 place).trans (Expr.steps_lexemes e h.1 (.item [] place))
    rw [Expr.lexemesItems, List.append_assoc, State.steps_of_append _ hfirst,
      Expr.steps_lexemesMore es h.2]
    rfl

/-- Further items and the bracket behind them lead to the state in which the list has been filled
in, the items before them included. -/
theorem Expr.steps_lexemesMore : ∀ es : List Expr, Expr.ReadableList es →
    ∀ (before : List Expr) (place : Place goal .args),
      (State.nextItem before place).steps (Expr.lexemesMore es ++ [")"]) =
        some (place.fill (before.reverse ++ es))
  | [], _, before, place => by
    rw [List.append_nil]
    rfl
  | e :: es, h, before, place => by
    have hcomma : (State.nextItem before place).step "," = some (.expr (.item before place)) := rfl
    have hitem := Expr.steps_lexemes e h.1 (.item before place)
    rw [Expr.lexemesMore, List.cons_append, State.steps_cons _ hcomma, List.append_assoc,
      State.steps_of_append _ hitem, Place.fill, Expr.steps_lexemesMore es h.2, List.reverse_cons,
      List.append_assoc]
    rfl

end

/-- The first lexeme of a statement closes no block. -/
theorem Stmt.lexemes_eq_cons (s : Stmt) :
    ∃ first rest, s.lexemes = first :: rest ∧ first ≠ closeBrace := by
  cases s with
  | var name init => exact ⟨_, _, rfl, by decide⟩
  | ret value => exact ⟨_, _, rfl, by decide⟩
  | block statements => exact ⟨_, _, rfl, by decide⟩

/-- In a block, a statement is read like any other. -/
theorem State.steps_members (s : Stmt) (before : List Stmt) (place : Place goal .block) :
    (State.members before place).steps s.lexemes =
      (State.stmt (.member before place)).steps s.lexemes := by
  obtain ⟨first, rest, hl, hne⟩ := Stmt.lexemes_eq_cons s
  have hstep : (State.members before place).step first =
      (State.stmt (.member before place)).step first := if_neg hne
  rw [hl, State.steps, State.steps, hstep]

/-- The semicolon behind a statement, if there is one, makes it a member of its block. -/
theorem State.steps_ending (s : Stmt) (before : List Stmt) (place : Place goal .block) :
    ((Place.member before place).fill s).steps s.ending = some (.members (s :: before) place) := by
  cases s with
  | var name init => rfl
  | ret value => rfl
  | block statements => rfl

/-- The brace that closes a block puts all its statements into the place of the block. -/
theorem State.steps_closeBrace (ss : List Stmt) (place : Place goal .block) :
    (State.members (ss.reverse ++ []) place).steps [closeBrace] = some (place.fill ss) := by
  rw [List.append_nil]
  show some (place.fill ss.reverse.reverse) = some (place.fill ss)
  rw [List.reverse_reverse]

mutual

/-- The lexemes of a statement lead to the state in which it has been filled in. -/
theorem Stmt.steps_lexemes : ∀ s : Stmt, s.Readable → ∀ place : Place goal .stmt,
    (State.stmt place).steps s.lexemes = some (place.fill s)
  | .var name init, h, place => by
    have hvar : (State.stmt place).step "var" = some (.varName place) := rfl
    have hname : (State.varName place).step name = some (.equals name place) := if_pos h.1
    have heq : (State.equals name place).step "=" = some (.expr (.init name place)) := rfl
    rw [Stmt.lexemes, State.steps_cons _ hvar, State.steps_cons _ hname, State.steps_cons _ heq,
      Expr.steps_lexemes init h.2]
    rfl
  | .ret value, h, place => by
    have hret : (State.stmt place).step "return" = some (.expr (.value place)) := rfl
    rw [Stmt.lexemes, State.steps_cons _ hret, Expr.steps_lexemes value h]
    rfl
  | .block statements, h, place => by
    have hopen : (State.stmt place).step openBrace = some (.members [] (.nested place)) := rfl
    have hmembers := Stmt.steps_lexemesMembers statements h [] (.nested place)
    rw [Stmt.lexemes, State.steps_cons _ hopen, State.steps_of_append _ hmembers,
      State.steps_closeBrace]
    rfl

/-- The statements of a block lead to the state in which they have been read. -/
theorem Stmt.steps_lexemesMembers : ∀ ss : List Stmt, Stmt.ReadableList ss →
    ∀ (before : List Stmt) (place : Place goal .block),
      (State.members before place).steps (Stmt.lexemesMembers ss) =
        some (.members (ss.reverse ++ before) place)
  | [], _, _, _ => rfl
  | s :: ss, h, before, place => by
    have hstmt := (State.steps_members s before place).trans
      (Stmt.steps_lexemes s h.1 (.member before place))
    rw [Stmt.lexemesMembers, State.steps_of_append _ hstmt,
      State.steps_of_append _ (State.steps_ending s before place),
      Stmt.steps_lexemesMembers ss h.2, List.reverse_cons, List.append_assoc]
    rfl

end

/-! ## Reading succeeds on spellings only -/

/-- From the start, the spelling of a readable phrase is the only way to complete it. -/
theorem State.steps_start_iff {tree : goal.Tree} {xs : List String} :
    (State.start goal).steps xs = some (.finished tree) ↔
      goal.Readable tree ∧ xs = goal.lexemes tree := by
  constructor
  · intro h
    have hstart : (State.start goal).Valid := by cases goal <;> trivial
    have hempty : (State.start goal).lexemes = [] := by cases goal <;> rfl
    obtain ⟨hl, hv⟩ := State.steps_sound h hstart
    exact ⟨hv, by rw [hempty] at hl; exact hl.symm⟩
  · rintro ⟨hr, rfl⟩
    cases goal with
    | expr => exact Expr.steps_lexemes tree hr .whole
    | args =>
      have hopen : (State.args (.whole : Place .args .args)).step "(" =
          some (.firstItem .whole) := rfl
      exact (State.steps_cons _ hopen).trans (Expr.steps_lexemesItems tree hr .whole)
    | stmt => exact Stmt.steps_lexemes tree hr .whole
    | block =>
      have hopen : (State.block (.whole : Place .block .block)).step openBrace =
          some (.members [] .whole) := rfl
      have hmembers := Stmt.steps_lexemesMembers tree hr [] (.whole : Place .block .block)
      exact (State.steps_cons _ hopen).trans
        ((State.steps_of_append _ hmembers).trans (State.steps_closeBrace tree .whole))

/-- Reading a phrase takes the spelling of a readable phrase off the front of the lexemes, and it
succeeds exactly if there is one. -/
theorem Phrase.read_eq_done_iff {xs rest : List String} {tree : goal.Tree} :
    goal.read xs = .done tree rest ↔
      goal.Readable tree ∧ xs = goal.lexemes tree ++ rest := by
  rw [Phrase.read, State.run_eq_done_iff]
  constructor
  · rintro ⟨read, rfl, h⟩
    obtain ⟨hr, rfl⟩ := State.steps_start_iff.1 h
    exact ⟨hr, rfl⟩
  · rintro ⟨hr, rfl⟩
    exact ⟨_, rfl, State.steps_start_iff.2 ⟨hr, rfl⟩⟩

/-- What is read off the front of the lexemes is determined by them. -/
theorem Phrase.eq_of_lexemes_append (goal : Phrase) {tree tree' : goal.Tree}
    {rest rest' : List String} (h : goal.Readable tree) (h' : goal.Readable tree')
    (heq : goal.lexemes tree ++ rest = goal.lexemes tree' ++ rest') :
    tree = tree' ∧ rest = rest' := by
  have hread : goal.read (goal.lexemes tree ++ rest) = .done tree rest :=
    Phrase.read_eq_done_iff.2 ⟨h, rfl⟩
  rw [heq, Phrase.read_eq_done_iff.2 ⟨h', rfl⟩] at hread
  cases hread
  exact ⟨rfl, rfl⟩

/-- Lexemes are a program if they spell a readable block and no lexeme is left. -/
theorem readProgram_eq_done_iff {xs rest : List String} {b : Block} :
    readProgram xs = .done b rest ↔ rest = [] ∧ Stmt.ReadableList b ∧ xs = b.lexemes := by
  have hiff : readProgram xs = .done b rest ↔ rest = [] ∧ Phrase.block.read xs = .done b [] := by
    unfold readProgram
    cases Phrase.block.read xs with
    | refused wanted left => simp
    | done tree left =>
      cases left with
      | nil => simp [and_comm, eq_comm]
      | cons x left => simp
  rw [hiff, Phrase.read_eq_done_iff, List.append_nil]
  rfl

/-- A source text is a program if its tokens spell a readable block. -/
theorem parse_eq_ok_iff {source : String} {b : Block} :
    parse source = .ok b ↔ Stmt.ReadableList b ∧ tokenize source = b.lexemes := by
  have hiff : parse source = .ok b ↔ readProgram (tokenize source) = .done b [] := by
    have htok : (Reader.ofSource source).unread.map Token.text = tokenize source := rfl
    unfold parse Reader.next
    rw [htok]
    cases hread : readProgram (tokenize source) with
    | refused wanted left => simp
    | done block left =>
      obtain ⟨rfl, -⟩ := readProgram_eq_done_iff.1 hread
      simp
  rw [hiff, readProgram_eq_done_iff]
  exact and_iff_right rfl

end Detuple
