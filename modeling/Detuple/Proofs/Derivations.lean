import Detuple.Grammar
import Detuple.Proofs.Reading

/-!
# Proofs: derivations

A derivation is determined by the tree that it builds, because each rule builds a node of its own
(`Expression.unique` and its companions), and the lexemes that it derives are the spelling of that
tree. Every readable tree has a derivation. So being derived, being the spelling of a readable tree
and being read are the same.
-/

namespace Detuple.Grammar

/-- There is at least one item. -/
theorem Items.ne_nil {ts : List String} {es : List Expr} (d : Items ts es) : es ≠ [] := by
  cases d with
  | one item => exact List.cons_ne_nil _ _
  | more item items => exact List.cons_ne_nil _ _

/-! ## What is derived -/

mutual

/-- Derived lexemes spell the tree of the derivation, which is readable. -/
theorem Expression.sound : ∀ {ts : List String} {e : Expr}, Expression ts e →
    e.Readable ∧ ts = e.lexemes
  | _, _, .ident kind other => ⟨⟨kind, other⟩, rfl⟩
  | _, _, .num kind => ⟨kind, rfl⟩
  | _, _, .tuple args => args.sound
  | _, _, .new kind args => by
    obtain ⟨hr, rfl⟩ := args.sound
    exact ⟨⟨kind, hr⟩, rfl⟩

theorem Arguments.sound : ∀ {ts : List String} {es : List Expr}, Arguments ts es →
    Expr.ReadableList es ∧ ts = Expr.lexemesArgs es
  | _, _, .none => ⟨trivial, rfl⟩
  | _, _, .some items => by
    obtain ⟨hr, rfl⟩ := items.sound
    exact ⟨hr, rfl⟩

theorem Items.sound : ∀ {ts : List String} {es : List Expr}, Items ts es →
    Expr.ReadableList es ∧ ts = Expr.lexemesItems es
  | _, _, .one item => by
    obtain ⟨hr, rfl⟩ := item.sound
    exact ⟨⟨hr, trivial⟩, (List.append_nil _).symm⟩
  | _, _, .more item items => by
    have hne := items.ne_nil
    obtain ⟨hr, rfl⟩ := item.sound
    obtain ⟨hrs, rfl⟩ := items.sound
    exact ⟨⟨hr, hrs⟩, by rw [Expr.lexemesItems, Expr.lexemesMore_of_ne_nil hne]⟩

end

mutual

/-- Derived lexemes spell the statement of the derivation, with the semicolon behind it. -/
theorem Statement.sound : ∀ {ts : List String} {s : Stmt}, Statement ts s →
    s.Readable ∧ ts = s.lexemes ++ s.ending
  | _, _, .var kind init => by
    obtain ⟨hr, rfl⟩ := init.sound
    exact ⟨⟨kind, hr⟩, rfl⟩
  | _, _, .ret value => by
    obtain ⟨hr, rfl⟩ := value.sound
    exact ⟨hr, rfl⟩
  | _, _, .block inner => by
    obtain ⟨hr, rfl⟩ := inner.sound
    exact ⟨hr, (List.append_nil _).symm⟩

theorem Program.sound : ∀ {ts : List String} {b : Block}, Program ts b →
    Stmt.ReadableList b ∧ ts = Block.lexemes b
  | _, _, .block members => by
    obtain ⟨hr, rfl⟩ := members.sound
    exact ⟨hr, rfl⟩

theorem Members.sound : ∀ {ts : List String} {ss : List Stmt}, Members ts ss →
    Stmt.ReadableList ss ∧ ts = Stmt.lexemesMembers ss
  | _, _, .none => ⟨trivial, rfl⟩
  | _, _, .more member members => by
    obtain ⟨hr, rfl⟩ := member.sound
    obtain ⟨hrs, rfl⟩ := members.sound
    exact ⟨⟨hr, hrs⟩, List.append_assoc _ _ _⟩

end

/-! ## What can be derived -/

/-- A list in brackets is derived if its items are, or if there are none. -/
theorem Arguments.of_items {es : List Expr}
    (h : es ≠ [] → Nonempty (Items (Expr.lexemesItems es) es)) :
    Nonempty (Arguments (Expr.lexemesArgs es) es) := by
  cases es with
  | nil => exact ⟨.none⟩
  | cons e es =>
    obtain ⟨items⟩ := h (List.cons_ne_nil e es)
    exact ⟨.some items⟩

mutual

/-- The spelling of a readable tree is derived. -/
theorem Expression.complete : ∀ e : Expr, e.Readable → Nonempty (Expression e.lexemes e)
  | .ident _, h => ⟨.ident h.1 h.2⟩
  | .num _, h => ⟨.num h⟩
  | .tuple elements, h => by
    obtain ⟨args⟩ := Arguments.of_items fun hne => Items.complete elements h hne
    exact ⟨.tuple args⟩
  | .new _ args, h => by
    obtain ⟨list⟩ := Arguments.of_items fun hne => Items.complete args h.2 hne
    exact ⟨.new h.1 list⟩

theorem Items.complete : ∀ es : List Expr, Expr.ReadableList es → es ≠ [] →
    Nonempty (Items (Expr.lexemesItems es) es)
  | [], _, hne => absurd rfl hne
  | [e], h, _ => by
    obtain ⟨item⟩ := Expression.complete e h.1
    rw [Expr.lexemesItems, Expr.lexemesMore, List.append_nil]
    exact ⟨.one item⟩
  | e :: e' :: es, h, _ => by
    obtain ⟨item⟩ := Expression.complete e h.1
    obtain ⟨items⟩ := Items.complete (e' :: es) h.2 (List.cons_ne_nil _ _)
    exact ⟨.more item items⟩

end

mutual

/-- The spelling of a readable statement is derived. -/
theorem Statement.complete : ∀ s : Stmt, s.Readable → Nonempty (Statement (s.lexemes ++ s.ending) s)
  | .var _ init, h => by
    obtain ⟨value⟩ := Expression.complete init h.2
    exact ⟨.var h.1 value⟩
  | .ret value, h => by
    obtain ⟨value⟩ := Expression.complete value h
    exact ⟨.ret value⟩
  | .block statements, h => by
    obtain ⟨members⟩ := Members.complete statements h
    rw [Stmt.ending, List.append_nil]
    exact ⟨.block (.block members)⟩

theorem Members.complete : ∀ ss : List Stmt, Stmt.ReadableList ss →
    Nonempty (Members (Stmt.lexemesMembers ss) ss)
  | [], _ => ⟨.none⟩
  | s :: ss, h => by
    obtain ⟨member⟩ := Statement.complete s h.1
    obtain ⟨members⟩ := Members.complete ss h.2
    rw [Stmt.lexemesMembers, ← List.append_assoc]
    exact ⟨.more member members⟩

end

/-- Lexemes are derived as a block exactly if they spell it and it is readable. -/
theorem nonempty_program_iff {ts : List String} {b : Block} :
    Nonempty (Program ts b) ↔ Stmt.ReadableList b ∧ ts = b.lexemes := by
  constructor
  · rintro ⟨d⟩
    exact d.sound
  · rintro ⟨hr, rfl⟩
    obtain ⟨members⟩ := Members.complete b hr
    exact ⟨.block members⟩

/-! ## Derivations of the same tree -/

mutual

/-- The tree that is built determines the derivation. -/
theorem Expression.unique : ∀ {ts us : List String} {e : Expr} (d : Expression ts e)
    (d' : Expression us e), ts = us ∧ d ≍ d'
  | _, _, _, .ident kind other, d' => by
    cases d'
    exact ⟨rfl, HEq.rfl⟩
  | _, _, _, .num kind, d' => by
    cases d'
    exact ⟨rfl, HEq.rfl⟩
  | _, _, _, .tuple args, d' => by
    cases d' with
    | tuple args' =>
      obtain ⟨rfl, h⟩ := args.unique args'
      cases h
      exact ⟨rfl, HEq.rfl⟩
  | _, _, _, .new kind args, d' => by
    cases d' with
    | new kind' args' =>
      obtain ⟨rfl, h⟩ := args.unique args'
      cases h
      exact ⟨rfl, HEq.rfl⟩

theorem Arguments.unique : ∀ {ts us : List String} {es : List Expr} (d : Arguments ts es)
    (d' : Arguments us es), ts = us ∧ d ≍ d'
  | _, _, _, .none, d' => by
    cases d' with
    | none => exact ⟨rfl, HEq.rfl⟩
    | some items => exact absurd rfl items.ne_nil
  | _, _, _, .some items, d' => by
    cases d' with
    | none => exact absurd rfl items.ne_nil
    | some items' =>
      obtain ⟨rfl, h⟩ := items.unique items'
      cases h
      exact ⟨rfl, HEq.rfl⟩

theorem Items.unique : ∀ {ts us : List String} {es : List Expr} (d : Items ts es)
    (d' : Items us es), ts = us ∧ d ≍ d'
  | _, _, _, .one item, d' => by
    cases d' with
    | one item' =>
      obtain ⟨rfl, h⟩ := item.unique item'
      cases h
      exact ⟨rfl, HEq.rfl⟩
    | more item' items => exact absurd rfl items.ne_nil
  | _, _, _, .more item items, d' => by
    cases d' with
    | one item' => exact absurd rfl items.ne_nil
    | more item' items' =>
      obtain ⟨rfl, h⟩ := item.unique item'
      obtain ⟨rfl, h'⟩ := items.unique items'
      cases h
      cases h'
      exact ⟨rfl, HEq.rfl⟩

end

mutual

/-- The statement that is built determines the derivation. -/
theorem Statement.unique : ∀ {ts us : List String} {s : Stmt} (d : Statement ts s)
    (d' : Statement us s), ts = us ∧ d ≍ d'
  | _, _, _, .var kind init, d' => by
    cases d' with
    | var kind' init' =>
      obtain ⟨rfl, h⟩ := init.unique init'
      cases h
      exact ⟨rfl, HEq.rfl⟩
  | _, _, _, .ret value, d' => by
    cases d' with
    | ret value' =>
      obtain ⟨rfl, h⟩ := value.unique value'
      cases h
      exact ⟨rfl, HEq.rfl⟩
  | _, _, _, .block inner, d' => by
    cases d' with
    | block inner' =>
      obtain ⟨rfl, h⟩ := inner.unique inner'
      cases h
      exact ⟨rfl, HEq.rfl⟩

theorem Program.unique : ∀ {ts us : List String} {b : Block} (d : Program ts b)
    (d' : Program us b), ts = us ∧ d ≍ d'
  | _, _, _, .block members, d' => by
    cases d' with
    | block members' =>
      obtain ⟨rfl, h⟩ := members.unique members'
      cases h
      exact ⟨rfl, HEq.rfl⟩

theorem Members.unique : ∀ {ts us : List String} {ss : List Stmt} (d : Members ts ss)
    (d' : Members us ss), ts = us ∧ d ≍ d'
  | _, _, _, .none, d' => by
    cases d'
    exact ⟨rfl, HEq.rfl⟩
  | _, _, _, .more member members, d' => by
    cases d' with
    | more member' members' =>
      obtain ⟨rfl, h⟩ := member.unique member'
      obtain ⟨rfl, h'⟩ := members.unique members'
      cases h
      cases h'
      exact ⟨rfl, HEq.rfl⟩

end

/-! ## Derivations of the same lexemes -/

/-- There is at most one derivation if there is at most one tree with at most one derivation. -/
theorem subsingleton_of_unique {Tree : Type} {D : Tree → Type}
    (htree : ∀ {t t' : Tree}, D t → D t' → t = t') (hunique : ∀ {t : Tree} (d d' : D t), d ≍ d') :
    Subsingleton ((t : Tree) × D t) := by
  refine ⟨fun ⟨t, d⟩ ⟨t', d'⟩ => ?_⟩
  obtain rfl := htree d d'
  cases hunique d d'
  rfl

/-- No lexemes have two derivations as an expression. -/
theorem Expression.subsingleton (ts : List String) :
    Subsingleton ((e : Expr) × Expression ts e) := by
  refine subsingleton_of_unique (fun d d' => ?_) fun d d' => (d.unique d').2
  have heq := congrArg (· ++ []) (d.sound.2.symm.trans d'.sound.2)
  exact (Phrase.eq_of_lexemes_append .expr d.sound.1 d'.sound.1 heq).1

/-- No lexemes have two derivations as a list in brackets. -/
theorem Arguments.subsingleton (ts : List String) :
    Subsingleton ((es : List Expr) × Arguments ts es) := by
  refine subsingleton_of_unique (fun d d' => ?_) fun d d' => (d.unique d').2
  have heq := congrArg (· ++ []) (d.sound.2.symm.trans d'.sound.2)
  exact (Phrase.eq_of_lexemes_append .args d.sound.1 d'.sound.1 heq).1

/-- No lexemes have two derivations as a statement. -/
theorem Statement.subsingleton (ts : List String) :
    Subsingleton ((s : Stmt) × Statement ts s) := by
  refine subsingleton_of_unique (fun d d' => ?_) fun d d' => (d.unique d').2
  have heq := d.sound.2.symm.trans d'.sound.2
  exact (Phrase.eq_of_lexemes_append .stmt d.sound.1 d'.sound.1 heq).1

/-- No lexemes have two derivations as a block. -/
theorem Program.subsingleton (ts : List String) : Subsingleton ((b : Block) × Program ts b) := by
  refine subsingleton_of_unique (fun d d' => ?_) fun d d' => (d.unique d').2
  have heq := congrArg (· ++ []) (d.sound.2.symm.trans d'.sound.2)
  exact (Phrase.eq_of_lexemes_append .block d.sound.1 d'.sound.1 heq).1

/-- A source text is read as a block exactly if its tokens are derived as that block, and no lexemes
have two derivations: not as a block, and not as a statement, an expression or a list in brackets
either. -/
theorem parse_ok_iff_derived :
    (∀ (source : String) (b : Block),
      parse source = .ok b ↔ Nonempty (Program (tokenize source) b)) ∧
    ∀ ts : List String, Subsingleton ((b : Block) × Program ts b) ∧
      Subsingleton ((s : Stmt) × Statement ts s) ∧ Subsingleton ((e : Expr) × Expression ts e) ∧
      Subsingleton ((es : List Expr) × Arguments ts es) := by
  constructor
  · intro source b
    rw [parse_eq_ok_iff, nonempty_program_iff]
  · intro ts
    exact ⟨Program.subsingleton ts, Statement.subsingleton ts, Expression.subsingleton ts,
      Arguments.subsingleton ts⟩

end Detuple.Grammar
