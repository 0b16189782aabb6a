import Detuple.Proofs.Lexing
import Detuple.Tree

/-!
# Proofs: trees and the lexemes that spell them

Which strings a tree may hold can be asked in two ways. Reading only looks at the kinds of the
lexemes (`Readable`), whatever they are cut from. Writing a tree down and cutting the text again
needs names and numbers that are single tokens (`SingleToken`). A well-formed tree passes both tests
(`Block.WellFormed.readable`, `Block.WellFormed.lexical`), and a tree that can be read is
well-formed once all its lexemes are single tokens (`Block.wellFormed_of_lexemes`).
-/

namespace Detuple

/-! ## Lexemes of lists -/

/-- Further items are spelled one after another, each with its comma. -/
theorem Expr.lexemesMore_append (as bs : List Expr) :
    Expr.lexemesMore (as ++ bs) = Expr.lexemesMore as ++ Expr.lexemesMore bs := by
  induction as with
  | nil => rfl
  | cons e es ih => simp [Expr.lexemesMore, ih]

/-- The statements of a block are spelled one after another. -/
theorem Stmt.lexemesMembers_append (as bs : List Stmt) :
    Stmt.lexemesMembers (as ++ bs) = Stmt.lexemesMembers as ++ Stmt.lexemesMembers bs := by
  induction as with
  | nil => rfl
  | cons s ss ih => simp [Stmt.lexemesMembers, ih]

/-- The comma behind some items that another one follows; there is none if there are no items. -/
def Expr.commaAfter : List Expr → List String
  | [] => []
  | _ :: _ => [","]

theorem Expr.commaAfter_of_ne_nil {es : List Expr} (h : es ≠ []) : Expr.commaAfter es = [","] := by
  cases es with
  | nil => exact absurd rfl h
  | cons e es => rfl

/-- One more item stands behind a comma, unless it is the first. -/
theorem Expr.lexemesItems_snoc (es : List Expr) (e : Expr) : Expr.lexemesItems (es ++ [e]) =
    Expr.lexemesItems es ++ (Expr.commaAfter es ++ e.lexemes) := by
  cases es with
  | nil => simp [Expr.lexemesItems, Expr.lexemesMore, Expr.commaAfter]
  | cons a as =>
    simp [Expr.lexemesItems, Expr.lexemesMore, Expr.commaAfter, Expr.lexemesMore_append]

/-- Further items are spelled as items behind a comma. -/
theorem Expr.lexemesMore_of_ne_nil {es : List Expr} (h : es ≠ []) :
    Expr.lexemesMore es = "," :: Expr.lexemesItems es := by
  cases es with
  | nil => exact absurd rfl h
  | cons e es => rfl

/-- Every lexeme of some items is still there with a comma before each item. -/
theorem Expr.lexemesItems_subset (es : List Expr) :
    Expr.lexemesItems es ⊆ Expr.lexemesMore es := by
  cases es with
  | nil => exact List.Subset.refl _
  | cons e es => exact List.subset_cons_self "," _

/-! ## What a tree may hold -/

section

variable {used declared number used' declared' number' : String → Prop}

/-- A list of expressions holds what its items hold. -/
theorem Expr.spelledList_iff {es : List Expr} :
    Expr.SpelledList used declared number es ↔ ∀ e ∈ es, e.Spelled used declared number := by
  induction es with
  | nil => simp [Expr.SpelledList]
  | cons e es ih => rw [Expr.SpelledList, ih, List.forall_mem_cons]

/-- A list of statements holds what its members hold. -/
theorem Stmt.spelledList_iff {ss : List Stmt} :
    Stmt.SpelledList used declared number ss ↔ ∀ s ∈ ss, s.Spelled used declared number := by
  induction ss with
  | nil => simp [Stmt.SpelledList]
  | cons s ss ih => rw [Stmt.SpelledList, ih, List.forall_mem_cons]

/-- The order of some expressions does not matter for what they hold. -/
theorem Expr.SpelledList.reverse {es : List Expr} (h : Expr.SpelledList used declared number es) :
    Expr.SpelledList used declared number es.reverse :=
  Expr.spelledList_iff.2 fun e he => Expr.spelledList_iff.1 h e (List.mem_reverse.1 he)

/-- The order of some statements does not matter for what they hold. -/
theorem Stmt.SpelledList.reverse {ss : List Stmt} (h : Stmt.SpelledList used declared number ss) :
    Stmt.SpelledList used declared number ss.reverse :=
  Stmt.spelledList_iff.2 fun s hs => Stmt.spelledList_iff.1 h s (List.mem_reverse.1 hs)

mutual

/-- A tree passes a weaker test too. It need only be weaker for the lexemes of the tree. -/
theorem Expr.Spelled.imp : ∀ e : Expr, e.Spelled used declared number →
    (∀ x ∈ e.lexemes,
      (used x → used' x) ∧ (declared x → declared' x) ∧ (number x → number' x)) →
    e.Spelled used' declared' number'
  | .ident name, h, himp => (himp name (by simp [Expr.lexemes])).1 h
  | .num text, h, himp => (himp text (by simp [Expr.lexemes])).2.2 h
  | .tuple elements, h, himp =>
    Expr.SpelledList.imp elements h fun x hx => himp x (by simp [Expr.lexemes, hx])
  | .new typeName args, h, himp =>
    ⟨(himp typeName (by simp [Expr.lexemes])).2.1 h.1,
      Expr.SpelledList.imp args h.2 fun x hx => himp x (by simp [Expr.lexemes, hx])⟩

theorem Expr.SpelledList.imp : ∀ es : List Expr, Expr.SpelledList used declared number es →
    (∀ x ∈ Expr.lexemesItems es,
      (used x → used' x) ∧ (declared x → declared' x) ∧ (number x → number' x)) →
    Expr.SpelledList used' declared' number' es
  | [], _, _ => trivial
  | e :: es, h, himp =>
    ⟨Expr.Spelled.imp e h.1 fun x hx => himp x (List.mem_append_left _ hx),
      Expr.SpelledList.imp es h.2 fun x hx =>
        himp x (List.mem_append_right _ (Expr.lexemesItems_subset es hx))⟩

end

mutual

/-- A statement passes a weaker test too, like the expressions in it. -/
theorem Stmt.Spelled.imp : ∀ s : Stmt, s.Spelled used declared number →
    (∀ x ∈ s.lexemes,
      (used x → used' x) ∧ (declared x → declared' x) ∧ (number x → number' x)) →
    s.Spelled used' declared' number'
  | .var name init, h, himp =>
    ⟨(himp name (by simp [Stmt.lexemes])).2.1 h.1,
      Expr.Spelled.imp init h.2 fun x hx => himp x (by simp [Stmt.lexemes, hx])⟩
  | .ret value, h, himp =>
    Expr.Spelled.imp value h fun x hx => himp x (by simp [Stmt.lexemes, hx])
  | .block statements, h, himp =>
    Stmt.SpelledList.imp statements h fun x hx => himp x (by simp [Stmt.lexemes, hx])

theorem Stmt.SpelledList.imp : ∀ ss : List Stmt, Stmt.SpelledList used declared number ss →
    (∀ x ∈ Stmt.lexemesMembers ss,
      (used x → used' x) ∧ (declared x → declared' x) ∧ (number x → number' x)) →
    Stmt.SpelledList used' declared' number' ss
  | [], _, _ => trivial
  | s :: ss, h, himp =>
    ⟨Stmt.Spelled.imp s h.1 fun x hx => himp x (List.mem_append_left _ hx),
      Stmt.SpelledList.imp ss h.2 fun x hx =>
        himp x (List.mem_append_right _ (List.mem_append_right _ hx))⟩

end

end

/-! ## Reading and writing -/

/-- Every string is of the kind that the grammar wants at its place. -/
abbrev Expr.Readable : Expr → Prop :=
  Expr.Spelled (fun name => Kind.ofText name = .identifier ∧ name ≠ "new")
    (Kind.ofText · = .identifier) (Kind.ofText · = .number)

/-- The same, for a list of expressions. -/
abbrev Expr.ReadableList : List Expr → Prop :=
  Expr.SpelledList (fun name => Kind.ofText name = .identifier ∧ name ≠ "new")
    (Kind.ofText · = .identifier) (Kind.ofText · = .number)

/-- The same, for a statement. -/
abbrev Stmt.Readable : Stmt → Prop :=
  Stmt.Spelled (fun name => Kind.ofText name = .identifier ∧ name ≠ "new")
    (Kind.ofText · = .identifier) (Kind.ofText · = .number)

/-- The same, for a list of statements. -/
abbrev Stmt.ReadableList : List Stmt → Prop :=
  Stmt.SpelledList (fun name => Kind.ofText name = .identifier ∧ name ≠ "new")
    (Kind.ofText · = .identifier) (Kind.ofText · = .number)

/-- The text is cut into nothing but itself. -/
def SingleToken (text : String) : Prop := tokenize text = [text]

/-- A text is a number exactly if it is a single token, and of that kind. -/
theorem isNumber_iff {text : String} :
    isNumber text = true ↔ SingleToken text ∧ Kind.ofText text = .number :=
  lex_single_iff

/-- All strings in a well-formed block are of the kinds that reading looks for. -/
theorem Block.WellFormed.readable {b : Block} (h : b.WellFormed) : Stmt.ReadableList b :=
  Stmt.SpelledList.imp b h fun _ _ =>
    ⟨fun ⟨hid, hnew⟩ => ⟨(isIdentifier_iff.1 hid).2, hnew⟩, fun hid => (isIdentifier_iff.1 hid).2,
      fun hnum => (isNumber_iff.1 hnum).2⟩

/-- All strings in a well-formed block are single tokens of their kinds. -/
theorem Block.WellFormed.lexical {b : Block} (h : b.WellFormed) : b.Lexical :=
  Stmt.SpelledList.imp b h fun _ _ => ⟨And.left, id, id⟩

/-- Of their kinds aside, the strings in a lexical block are single tokens. -/
theorem Block.Lexical.singleTokens {b : Block} (h : b.Lexical) :
    Stmt.SpelledList SingleToken SingleToken SingleToken b :=
  Stmt.SpelledList.imp b h fun _ _ =>
    ⟨fun hid => (isIdentifier_iff.1 hid).1, fun hid => (isIdentifier_iff.1 hid).1,
      fun hnum => (isNumber_iff.1 hnum).1⟩

/-- A readable block is well-formed if its lexemes are tokens of some text. -/
theorem Block.wellFormed_of_lexemes {b : Block} (h : Stmt.ReadableList b)
    (htok : ∀ x ∈ b.lexemes, SingleToken x) : b.WellFormed := by
  refine Stmt.SpelledList.imp b h fun x hx => ?_
  have hone : SingleToken x :=
    htok x (List.mem_cons_of_mem _ (List.mem_append_left _ hx))
  exact ⟨fun ⟨hk, hnew⟩ => ⟨isIdentifier_iff.2 ⟨hone, hk⟩, hnew⟩,
    fun hk => isIdentifier_iff.2 ⟨hone, hk⟩, fun hk => isNumber_iff.2 ⟨hone, hk⟩⟩

end Detuple
