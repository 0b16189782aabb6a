import Detuple.Proofs.Reading
import Detuple.Reading.Descent

/-!
# Proofs: reading by descent and reading by states agree

A function that reads a phrase keeps up with the state in which the phrase is due: if it reads the
phrase, the state with the phrase filled in goes on with the lexemes that are left, and if it fails,
the state is refused the same lexeme for the same reason (`Tracks`). Keeping up carries over from
the parts of a function to the whole (`Tracks.bind`). The functions call each other on fewer
lexemes, or on the same ones for a phrase further in, and by induction on this all of them keep up
(`tracks_expr`, `tracks_stmt` and their companions). With nothing around the phrase this says that
reading by descent comes to an end on all lexemes, and to the one that the states come to.

A state calls for no closing bracket and for no keyword, although it may go on with one. The
functions check these only where they have looked at them, so that the checks cannot fail
(`tracks_expect_self`).
-/

namespace Detuple

variable {goal : Phrase}

/-- States that go on with a lexeme alike, or want the same in its place, are run alike. -/
theorem State.run_congr {state other : State goal} {x : String} (rest : List String)
    (hstate : ∀ tree, state ≠ .finished tree) (hother : ∀ tree, other ≠ .finished tree)
    (hstep : state.step x = other.step x) (hwanted : state.wanted = other.wanted) :
    state.run (x :: rest) = other.run (x :: rest) := by
  cases hnext : other.step x with
  | none =>
    rw [State.run_cons_of_refused rest hstate (hstep.trans hnext),
      State.run_cons_of_refused rest hother hnext, hwanted]
  | some next => rw [State.run_cons rest (hstep.trans hnext), State.run_cons rest hnext]

/-- Behind an opened bracket, anything but the closing one is read as an expression. -/
theorem State.run_firstItem {x : String} (hne : x ≠ ")") (rest : List String)
    (place : Place goal .args) :
    (State.firstItem place).run (x :: rest) = (State.expr (.item [] place)).run (x :: rest) := by
  have hstep : (State.firstItem place).step x = (State.expr (.item [] place)).step x := if_neg hne
  exact State.run_congr rest nofun nofun hstep rfl

/-- In a block, anything but the closing brace is read as a statement. -/
theorem State.run_members {x : String} (hne : x ≠ closeBrace) (rest : List String)
    (before : List Stmt) (place : Place goal .block) :
    (State.members before place).run (x :: rest) =
      (State.stmt (.member before place)).run (x :: rest) := by
  have hstep : (State.members before place).step x = (State.stmt (.member before place)).step x :=
    if_neg hne
  exact State.run_congr rest nofun nofun hstep rfl

/-- The bracket of a tuple is that of the list of its elements. -/
theorem State.run_tuple (rest : List String) (place : Place goal .expr) :
    (State.expr place).run ("(" :: rest) = (State.args (.tuple place)).run ("(" :: rest) := by
  have hexpr : (State.expr place).step "(" = some (.firstItem (.tuple place)) := rfl
  have hargs : (State.args (.tuple place)).step "(" = some (.firstItem (.tuple place)) := rfl
  rw [State.run_cons rest hexpr, State.run_cons rest hargs]

/-- The brace of a nested block is that of the block. -/
theorem State.run_nested (rest : List String) (place : Place goal .stmt) :
    (State.stmt place).run (openBrace :: rest) =
      (State.block (.nested place)).run (openBrace :: rest) := by
  have hstmt : (State.stmt place).step openBrace = some (.members [] (.nested place)) := rfl
  have hblock : (State.block (.nested place)).step openBrace =
      some (.members [] (.nested place)) := rfl
  rw [State.run_cons rest hstmt, State.run_cons rest hblock]

namespace Descent

variable {α β : Type} {x text : String} {xs rest : List String}

/-! ## The steps of a reading -/

/-- A reading that succeeds is followed by the next one, on the lexemes that it leaves. -/
theorem on_bind_of_ok {m : Descent α} {a : α} (h : m.on xs = some (.ok a, rest))
    (f : α → Descent β) : (m >>= f).on xs = (f a).on rest := by
  have hm : m xs = some (.ok a, rest) := h
  show ((m xs).bind _ : Option (Except Complaint β × List String)) = _
  rw [hm]
  rfl

/-- A reading that fails is followed by nothing. -/
theorem on_bind_of_error {m : Descent α} {c : Complaint} (h : m.on xs = some (.error c, rest))
    (f : α → Descent β) : (m >>= f).on xs = some (.error c, rest) := by
  have hm : m xs = some (.error c, rest) := h
  show ((m xs).bind _ : Option (Except Complaint β × List String)) = _
  rw [hm]
  rfl

theorem on_peek_nil : peek.on [] = some (.error .ended, []) := rfl

theorem on_peek_cons (x : String) (rest : List String) :
    peek.on (x :: rest) = some (.ok x, x :: rest) := rfl

theorem on_advance_cons (x : String) (rest : List String) :
    advance.on (x :: rest) = some (.ok x, rest) := rfl

theorem on_expect_nil (text : String) : (expect text).on [] = some (.error .ended, []) :=
  on_bind_of_error on_peek_nil _

/-- The lexeme that is expected is taken. -/
theorem on_expect_self (text : String) (rest : List String) :
    (expect text).on (text :: rest) = some (.ok (), rest) := by
  rw [expect, on_bind_of_ok (on_peek_cons text rest), if_pos rfl]
  rfl

/-- Any other lexeme is complained about and left. -/
theorem on_expect_of_ne (h : x ≠ text) (rest : List String) :
    (expect text).on (x :: rest) = some (.error (.expected text), x :: rest) := by
  rw [expect, on_bind_of_ok (on_peek_cons x rest), if_neg h]
  rfl

theorem on_expectName_nil : expectName.on [] = some (.error .ended, []) :=
  on_bind_of_error on_peek_nil _

/-- A name is taken where a name is expected. -/
theorem on_expectName_of_identifier (h : Kind.ofText x = .identifier) (rest : List String) :
    expectName.on (x :: rest) = some (.ok x, rest) := by
  rw [expectName, on_bind_of_ok (on_peek_cons x rest), if_pos h]
  rfl

/-- What is no name is complained about there, and left. -/
theorem on_expectName_of_ne (h : Kind.ofText x ≠ .identifier) (rest : List String) :
    expectName.on (x :: rest) = some (.error (.expected "identifier"), x :: rest) := by
  rw [expectName, on_bind_of_ok (on_peek_cons x rest), if_neg h]
  rfl

/-! ## Keeping up with a state -/

/-- A reading keeps up with a state: it takes something off the front of the lexemes, which leads
the state to the one that `after` says, or it fails where the state is refused a lexeme, and why. -/
def Tracks (state : State goal) (xs : List String) (m : Descent α) (after : α → State goal) :
    Prop :=
  (∃ a rest, m.on xs = some (.ok a, rest) ∧ rest.length < xs.length ∧
    state.run xs = (after a).run rest) ∨
  ∃ wanted rest, m.on xs = some (.error (wanted.complaint rest), rest) ∧
    state.run xs = .refused wanted rest

variable {state next other : State goal} {wanted : Wanted}

/-- Taking one lexeme keeps up with a state that goes on with it. -/
theorem Tracks.of_step {m : Descent α} {a : α} {after : α → State goal}
    (hon : m.on (x :: rest) = some (.ok a, rest)) (hstep : state.step x = some (after a)) :
    Tracks state (x :: rest) m after :=
  Or.inl ⟨a, rest, hon, Nat.lt_succ_self _, State.run_cons rest hstep⟩

/-- A complaint about what the state wants keeps up with a state that refuses. -/
theorem Tracks.of_refused {m : Descent α} {after : α → State goal}
    (hon : m.on xs = some (.error (wanted.complaint xs), xs))
    (hrun : state.run xs = .refused wanted xs) : Tracks state xs m after :=
  Or.inr ⟨wanted, xs, hon, hrun⟩

/-- Only what the state makes of the lexemes matters. -/
theorem Tracks.congr {m : Descent α} {after : α → State goal} (h : Tracks other xs m after)
    (hrun : state.run xs = other.run xs) : Tracks state xs m after := by
  unfold Tracks
  rw [hrun]
  exact h

/-- One reading after another keeps up, if the second does from wherever the first has led the
state. -/
theorem Tracks.bind {m : Descent α} {f : α → Descent β} {mid : α → State goal}
    {after : β → State goal} (hm : Tracks state xs m mid)
    (hf : ∀ a rest, rest.length < xs.length → Tracks (mid a) rest (f a) after) :
    Tracks state xs (m >>= f) after := by
  rcases hm with ⟨a, rest, hon, hless, hrun⟩ | ⟨wanted, rest, hon, hrun⟩
  · rcases hf a rest hless with ⟨b, left, hon', hless', hrun'⟩ | ⟨wanted, left, hon', hrun'⟩
    · exact Or.inl ⟨b, left, (on_bind_of_ok hon f).trans hon', hless'.trans hless, hrun.trans hrun'⟩
    · exact Or.inr ⟨wanted, left, (on_bind_of_ok hon f).trans hon', hrun.trans hrun'⟩
  · exact Or.inr ⟨wanted, rest, on_bind_of_error hon f, hrun⟩

/-- What has been read can be put into a larger phrase at last. -/
theorem Tracks.map {m : Descent α} {mid : α → State goal} {after : β → State goal}
    (hm : Tracks state xs m mid) (g : α → β) (hg : ∀ a, mid a = after (g a)) :
    Tracks state xs (m >>= fun a => pure (g a)) after := by
  rcases hm with ⟨a, rest, hon, hless, hrun⟩ | ⟨wanted, rest, hon, hrun⟩
  · refine Or.inl ⟨g a, rest, on_bind_of_ok hon _, hless, ?_⟩
    rw [hrun, hg]
  · exact Or.inr ⟨wanted, rest, on_bind_of_error hon _, hrun⟩

/-- Where no lexeme is left, looking at one fails, and so does a state that is not finished. -/
theorem Tracks.peek {f : String → Descent α} {after : α → State goal}
    (hopen : ∀ tree, state ≠ .finished tree)
    (hf : ∀ x rest, xs = x :: rest → Tracks state (x :: rest) (f x) after) :
    Tracks state xs (peek >>= f) after := by
  cases xs with
  | nil => exact Or.inr ⟨state.wanted, [], on_bind_of_error on_peek_nil f, State.run_nil hopen⟩
  | cons x rest =>
    have hx := hf x rest rfl
    unfold Tracks at hx ⊢
    rw [on_bind_of_ok (on_peek_cons x rest)]
    exact hx

/-- A complaint about the lexeme that has been looked at keeps up if the state refuses it. -/
theorem tracks_throw {after : α → State goal} (hopen : ∀ tree, state ≠ .finished tree)
    (hwanted : state.wanted = wanted) (hstep : state.step x = none) :
    Tracks state (x :: rest) (throw (wanted.complaint (x :: rest))) after := by
  have hrun := State.run_cons_of_refused rest hopen hstep
  rw [hwanted] at hrun
  exact .of_refused rfl hrun

/-- The check of a lexeme that has been looked at cannot fail. -/
theorem tracks_expect_self (hstep : state.step text = some next) :
    Tracks state (text :: rest) (expect text) fun _ => next :=
  .of_step (on_expect_self text rest) hstep

/-- Taking the lexeme that closes a list adds nothing to what has been read of it. -/
theorem tracks_close {after : List α → State goal} (hstep : state.step text = some (after [])) :
    Tracks state (text :: rest) (do expect text; return []) after :=
  (tracks_expect_self hstep).map (fun _ => []) fun _ => rfl

/-- The check of a lexeme that the state calls for fails where the state is refused another one. -/
theorem tracks_expect (hopen : ∀ tree, state ≠ .finished tree) (hwanted : state.wanted = wanted)
    (hcomplaint : ∀ y ys, wanted.complaint (y :: ys) = .expected text)
    (hstep : state.step text = some next)
    (honly : ∀ y ∈ xs.head?, y ≠ text → state.step y = none) :
    Tracks state xs (expect text) fun _ => next := by
  cases xs with
  | nil => exact .of_refused (on_expect_nil text) (State.run_nil hopen)
  | cons y ys =>
    by_cases hy : y = text
    · subst hy
      exact tracks_expect_self hstep
    · have hrun := State.run_cons_of_refused ys hopen (honly y rfl hy)
      rw [hwanted] at hrun
      refine .of_refused ?_ hrun
      rw [on_expect_of_ne hy, hcomplaint]

/-- The check of a name fails where a state that calls for one is refused another lexeme. -/
theorem tracks_expectName {next : String → State goal} (hopen : ∀ tree, state ≠ .finished tree)
    (hwanted : state.wanted = .identifier)
    (hstep : ∀ y, state.step y = if Kind.ofText y = .identifier then some (next y) else none) :
    Tracks state xs expectName next := by
  cases xs with
  | nil => exact .of_refused on_expectName_nil (State.run_nil hopen)
  | cons y ys =>
    by_cases hy : Kind.ofText y = .identifier
    · exact .of_step (on_expectName_of_identifier hy ys) ((hstep y).trans (if_pos hy))
    · have hrun := State.run_cons_of_refused ys hopen ((hstep y).trans (if_neg hy))
      rw [hwanted] at hrun
      refine .of_refused ?_ hrun
      exact on_expectName_of_ne hy ys

/-! ## Expressions -/

-- The induction is on the lexemes that are left. An expression hands over to a constructor call or
-- to a list without taking a lexeme, and neither of these hands back before it has taken one.
mutual

/-- Reading an expression keeps up with the state in which one is due. -/
theorem tracks_expr (xs : List String) (place : Place goal .expr) :
    Tracks (.expr place) xs expr place.fill := by
  rw [expr]
  refine .peek nofun fun x rest hxs => ?_
  by_cases hnew : x = "new"
  · rw [if_pos hnew, ← hxs]
    exact tracks_newExpr xs place (hnew ▸ hxs)
  · rw [if_neg hnew]
    have hstep : (State.expr place).step x = _ := if_neg hnew
    cases hkind : Kind.ofText x with
    | identifier =>
      rw [hkind] at hstep
      have hname : Tracks (.expr place) (x :: rest) advance fun name => place.fill (.ident name) :=
        .of_step (on_advance_cons x rest) hstep
      exact hname.map Expr.ident fun _ => rfl
    | number =>
      rw [hkind] at hstep
      have hnum : Tracks (.expr place) (x :: rest) advance fun text => place.fill (.num text) :=
        .of_step (on_advance_cons x rest) hstep
      exact hnum.map Expr.num fun _ => rfl
    | symbol =>
      rw [hkind] at hstep
      show Tracks _ _ (if x = "(" then _ else _) _
      by_cases hparen : x = "("
      · subst hparen
        rw [if_pos rfl]
        refine .congr ?_ (State.run_tuple rest place)
        rw [← hxs]
        exact (tracks_args xs (.tuple place)).map Expr.tuple fun _ => rfl
      · rw [if_neg hparen]
        have hthrow : Tracks (.expr place) (x :: rest)
            (throw (Wanted.expression.complaint (x :: rest))) place.fill :=
          tracks_throw nofun rfl (hstep.trans (if_neg hparen))
        exact hthrow
termination_by (xs.length, 2)

/-- So does reading a constructor call, in front of its keyword. -/
theorem tracks_newExpr (xs : List String) (place : Place goal .expr) {rest : List String}
    (hxs : xs = "new" :: rest) : Tracks (.expr place) xs newExpr place.fill := by
  rw [newExpr]
  have hnew : Tracks (.expr place) xs (expect "new") fun _ => .typeName place := by
    rw [hxs]
    exact tracks_expect_self rfl
  refine hnew.bind fun _ ys hys => ?_
  have hname : Tracks (.typeName place) ys expectName fun name => .args (.new name place) :=
    tracks_expectName nofun rfl fun _ => rfl
  refine hname.bind fun typeName zs hzs => ?_
  exact (tracks_args zs (.new typeName place)).map (Expr.new typeName) fun _ => rfl
termination_by (xs.length, 1)

/-- Reading a list in brackets keeps up with the state in which one is due. -/
theorem tracks_args (xs : List String) (place : Place goal .args) :
    Tracks (.args place) xs args place.fill := by
  rw [args]
  have hopen : Tracks (.args place) xs (expect "(") fun _ => .firstItem place :=
    tracks_expect nofun rfl (fun _ _ => rfl) rfl fun _ _ hy => if_neg hy
  refine hopen.bind fun _ ys hys => ?_
  refine .peek nofun fun x rest hrest => ?_
  by_cases hclose : x = ")"
  · subst hclose
    rw [if_pos rfl]
    exact tracks_close rfl
  · rw [if_neg hclose]
    refine .congr ?_ (State.run_firstItem hclose rest place)
    rw [← hrest]
    refine (tracks_expr ys (.item [] place)).bind fun e zs hzs => ?_
    exact (tracks_moreItems zs [e] place).map (e :: ·) fun _ => rfl
termination_by (xs.length, 0)

/-- Reading further items keeps up with the state behind an item, and puts them behind the items
before them. -/
theorem tracks_moreItems (xs : List String) (before : List Expr) (place : Place goal .args) :
    Tracks (.nextItem before place) xs moreItems fun es => place.fill (before.reverse ++ es) := by
  rw [moreItems]
  refine .peek nofun fun x rest hxs => ?_
  by_cases hclose : x = ")"
  · subst hclose
    rw [if_pos rfl]
    refine tracks_close ?_
    rw [List.append_nil]
    rfl
  · rw [if_neg hclose]
    have hcomma : Tracks (.nextItem before place) (x :: rest) (expect ",")
        fun _ => .expr (.item before place) := by
      refine tracks_expect nofun rfl (fun _ _ => rfl) rfl fun y hy hne => ?_
      obtain rfl : x = y := Option.some.inj hy
      exact (if_neg hclose).trans (if_neg hne)
    rw [← hxs] at hcomma ⊢
    refine hcomma.bind fun _ ys hys => ?_
    refine (tracks_expr ys (.item before place)).bind fun e zs hzs => ?_
    refine (tracks_moreItems zs (e :: before) place).map (e :: ·) fun es => ?_
    rw [List.reverse_cons, List.append_assoc]
    rfl
termination_by (xs.length, 0)

end

/-! ## Statements -/

/-- Reading a declaration keeps up with the state in which a statement is due. -/
theorem tracks_varDecl (place : Place goal .stmt) :
    Tracks (.stmt place) ("var" :: rest) varDecl place.fill := by
  have hvar : Tracks (.stmt place) ("var" :: rest) (expect "var") fun _ => .varName place :=
    tracks_expect_self rfl
  refine hvar.bind fun _ ys _ => ?_
  have hname : Tracks (.varName place) ys expectName fun name => .equals name place :=
    tracks_expectName nofun rfl fun _ => rfl
  refine hname.bind fun name zs _ => ?_
  have hequals : Tracks (.equals name place) zs (expect "=") fun _ => .expr (.init name place) :=
    tracks_expect nofun rfl (fun _ _ => rfl) rfl fun _ _ hy => if_neg hy
  refine hequals.bind fun _ us _ => ?_
  exact (tracks_expr us (.init name place)).map (Stmt.var name) fun _ => rfl

/-- Reading a return does too. -/
theorem tracks_ret (place : Place goal .stmt) :
    Tracks (.stmt place) ("return" :: rest) ret place.fill := by
  have hret : Tracks (.stmt place) ("return" :: rest) (expect "return")
      fun _ => .expr (.value place) := tracks_expect_self rfl
  refine hret.bind fun _ ys _ => ?_
  exact (tracks_expr ys (.value place)).map Stmt.ret fun _ => rfl

-- As for expressions: the statements of a block hand over to a single one, and this to a block,
-- which begins by taking its brace.
mutual

/-- Reading a statement keeps up with the state in which one is due. -/
theorem tracks_stmt (xs : List String) (place : Place goal .stmt) :
    Tracks (.stmt place) xs stmt place.fill := by
  rw [stmt]
  refine .peek nofun fun x rest hxs => ?_
  by_cases hvar : x = "var"
  · subst hvar
    exact tracks_varDecl place
  rw [if_neg hvar]
  by_cases hret : x = "return"
  · subst hret
    exact tracks_ret place
  rw [if_neg hret]
  by_cases hbrace : x = openBrace
  · subst hbrace
    rw [if_pos rfl]
    refine .congr ?_ (State.run_nested rest place)
    rw [← hxs]
    exact (tracks_block xs (.nested place)).map Stmt.block fun _ => rfl
  · rw [if_neg hbrace]
    have hstep : (State.stmt place).step x = none :=
      (if_neg hvar).trans ((if_neg hret).trans (if_neg hbrace))
    have hthrow : Tracks (.stmt place) (x :: rest)
        (throw (Wanted.statement.complaint (x :: rest))) place.fill :=
      tracks_throw nofun rfl hstep
    exact hthrow
termination_by (xs.length, 1)

/-- Reading a block keeps up with the state in which one is due. -/
theorem tracks_block (xs : List String) (place : Place goal .block) :
    Tracks (.block place) xs block place.fill := by
  rw [block]
  have hopen : Tracks (.block place) xs (expect openBrace) fun _ => .members [] place :=
    tracks_expect nofun rfl (fun _ _ => rfl) rfl fun _ _ hy => if_neg hy
  exact hopen.bind fun _ ys hys => tracks_members ys [] place
termination_by (xs.length, 0)

/-- Reading the statements of a block keeps up with the state in it, and puts them behind the
statements before them. -/
theorem tracks_members (xs : List String) (before : List Stmt) (place : Place goal .block) :
    Tracks (.members before place) xs members fun ss => place.fill (before.reverse ++ ss) := by
  rw [members]
  refine .peek nofun fun x rest hxs => ?_
  by_cases hclose : x = closeBrace
  · subst hclose
    rw [if_pos rfl]
    refine tracks_close ?_
    rw [List.append_nil]
    rfl
  · rw [if_neg hclose]
    refine .congr ?_ (State.run_members hclose rest before place)
    rw [← hxs]
    refine (tracks_stmt xs (.member before place)).bind fun s ys hys => ?_
    have hmore : ∀ zs : List String, zs.length < xs.length →
        Tracks (.members (s :: before) place) zs (do return s :: (← members))
          fun ss => place.fill (before.reverse ++ ss) := by
      intro zs hzs
      refine (tracks_members zs (s :: before) place).map (s :: ·) fun ss => ?_
      rw [List.reverse_cons, List.append_assoc]
      rfl
    have hsemi : Tracks (.semicolon before s place) ys (expect ";")
        fun _ => .members (s :: before) place :=
      tracks_expect nofun rfl (fun _ _ => rfl) rfl fun _ _ hy => if_neg hy
    -- A block is complete as it is, any other statement first waits for its semicolon.
    cases s with
    | var name init => exact hsemi.bind fun _ zs hzs => hmore zs (hzs.trans hys)
    | ret value => exact hsemi.bind fun _ zs hzs => hmore zs (hzs.trans hys)
    | block statements => exact hmore ys hys
termination_by (xs.length, 2)

end

/-! ## The end of a reading -/

/-- With nothing around the phrase, keeping up is coming to the same end. -/
theorem Tracks.on_eq {m : Descent goal.Tree} (h : Tracks state xs m .finished) :
    m.on xs = some (state.run xs).outcome := by
  rcases h with ⟨tree, rest, hon, -, hrun⟩ | ⟨wanted, rest, hon, hrun⟩
  · rw [hon, hrun, State.run_finished]
    rfl
  · rw [hon, hrun]
    rfl

/-- Reading by descent comes to an end on all lexemes, for each kind of phrase, and to the one that
the states come to. -/
theorem on_eq_read (xs : List String) :
    expr.on xs = some (Phrase.expr.read xs).outcome ∧
      args.on xs = some (Phrase.args.read xs).outcome ∧
      stmt.on xs = some (Phrase.stmt.read xs).outcome ∧
      block.on xs = some (Phrase.block.read xs).outcome :=
  ⟨(tracks_expr xs .whole).on_eq, (tracks_args xs .whole).on_eq, (tracks_stmt xs .whole).on_eq,
    (tracks_block xs .whole).on_eq⟩

/-- Reading a program by descent comes to the end that the states come to. -/
theorem program_on_eq_readProgram (xs : List String) :
    program.on xs = some (readProgram xs).outcome := by
  have hblock : block.on xs = some (Phrase.block.read xs).outcome := (on_eq_read xs).2.2.2
  unfold readProgram
  cases hread : Phrase.block.read xs with
  | refused wanted rest =>
    rw [hread] at hblock
    exact on_bind_of_error hblock _
  | done b rest =>
    rw [hread] at hblock
    rw [program, on_bind_of_ok hblock]
    cases rest with
    | nil => rfl
    | cons x rest => rfl

end Descent

end Detuple
