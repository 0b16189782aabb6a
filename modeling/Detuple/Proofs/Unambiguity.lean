import Detuple.Proofs.Reading
import Detuple.Proofs.RoundTrip

/-!
# Proofs: spellings are told apart

What an expression is, and where its spelling ends, follows from the lexemes, if a symbol comes next
(`Expr.lexemes_append_inj`); lists and statements bring their last symbol with them. Two lexemes
tell how an expression is spelled, and the rest is said of its parts.

Reading back has nothing to do with that. A variable named `new` cannot be read, but where it is
used a symbol comes next, and behind the keyword comes the name of a type. So all lexical blocks are
told apart by their canonical spellings (`print_eq_print_iff`).
-/

namespace Detuple

/-! ## How an expression is spelled -/

/-- The ways in which expressions are spelled. -/
inductive Expr.Form where
  /-- As a name. -/
  | ident
  /-- As a number. -/
  | num
  /-- As a list in brackets. -/
  | tuple
  /-- With the keyword in front. -/
  | new

/-- The way in which an expression is spelled. -/
def Expr.form : Expr → Expr.Form
  | .ident _ => .ident
  | .num _ => .num
  | .tuple _ => .tuple
  | .new _ _ => .new

/-- The way in which the expression is spelled that comes next, if there is one. -/
def Expr.formAhead : List String → Option Expr.Form
  | [] => none
  | first :: rest =>
    match Kind.ofText first with
    | .symbol => some .tuple
    | .number => some .num
    | .identifier =>
      if first = "new" ∧ rest.head?.map Kind.ofText = some .identifier then some .new
      else some .ident

/-- Every name is of the kind of identifiers, also if it is `new`, and every number of that of
numbers. -/
abbrev Expr.Named : Expr → Prop :=
  Expr.Spelled (Kind.ofText · = .identifier) (Kind.ofText · = .identifier) (Kind.ofText · = .number)

/-- The same, for a list of expressions. -/
abbrev Expr.NamedList : List Expr → Prop :=
  Expr.SpelledList (Kind.ofText · = .identifier) (Kind.ofText · = .identifier)
    (Kind.ofText · = .number)

/-- The same, for a statement. -/
abbrev Stmt.Named : Stmt → Prop :=
  Stmt.Spelled (Kind.ofText · = .identifier) (Kind.ofText · = .identifier) (Kind.ofText · = .number)

/-- The same, for a list of statements. -/
abbrev Stmt.NamedList : List Stmt → Prop :=
  Stmt.SpelledList (Kind.ofText · = .identifier) (Kind.ofText · = .identifier)
    (Kind.ofText · = .number)

/-- The next lexeme, if there is one, is a symbol. -/
def SymbolNext (rest : List String) : Prop := ∀ x ∈ rest.head?, Kind.ofText x = .symbol

theorem symbolNext_cons {x : String} (h : Kind.ofText x = .symbol) (rest : List String) :
    SymbolNext (x :: rest) := by
  rintro _ ⟨⟩
  exact h

/-- The next two lexemes tell how an expression is spelled. -/
theorem Expr.formAhead_lexemes {e : Expr} (h : e.Named) {rest : List String}
    (hrest : SymbolNext rest) : Expr.formAhead (e.lexemes ++ rest) = some e.form := by
  cases e with
  | ident name =>
    have hk : Kind.ofText name = .identifier := h
    have hnext : rest.head?.map Kind.ofText ≠ some .identifier := by
      intro hsome
      obtain ⟨x, hx, hkind⟩ := Option.map_eq_some_iff.1 hsome
      rw [hrest x hx] at hkind
      cases hkind
    have hnew : ¬(name = "new" ∧ rest.head?.map Kind.ofText = some .identifier) :=
      fun hboth => hnext hboth.2
    simp only [Expr.lexemes, List.singleton_append, Expr.formAhead, hk, if_neg hnew, Expr.form]
  | num text =>
    have hk : Kind.ofText text = .number := h
    simp only [Expr.lexemes, List.singleton_append, Expr.formAhead, hk, Expr.form]
  | tuple elements => rfl
  | new typeName args =>
    have hk : some (Kind.ofText typeName) = some .identifier := congrArg some h.1
    exact if_pos ⟨rfl, hk⟩

/-- Expressions that begin alike are spelled in the same way. -/
theorem Expr.form_eq {e e' : Expr} (h : e.Named) (h' : e'.Named) {rest rest' : List String}
    (hrest : SymbolNext rest) (hrest' : SymbolNext rest')
    (heq : e.lexemes ++ rest = e'.lexemes ++ rest') : e'.form = e.form := by
  have hform := Expr.formAhead_lexemes h hrest
  rw [heq, Expr.formAhead_lexemes h' hrest'] at hform
  exact Option.some.inj hform

/-- An item is not taken for the end of a list. -/
theorem Expr.lexemesItems_append_ne {e : Expr} (h : e.Named) (es : List Expr)
    (rest rest' : List String) : Expr.lexemesItems (e :: es) ++ rest ≠ ")" :: rest' := by
  intro heq
  cases e with
  | ident name =>
    have hk : Kind.ofText name = .identifier := h
    rw [(List.cons.inj heq).1] at hk
    exact absurd hk (by decide)
  | num text =>
    have hk : Kind.ofText text = .number := h
    rw [(List.cons.inj heq).1] at hk
    exact absurd hk (by decide)
  | tuple elements => exact absurd (List.cons.inj heq).1 (by decide)
  | new typeName args => exact absurd (List.cons.inj heq).1 (by decide)

/-! ## Expressions -/

/-- Behind an item comes a symbol: a comma, or the bracket that closes the list. -/
theorem Expr.symbolNext_lexemesMore (es : List Expr) (rest : List String) :
    SymbolNext (Expr.lexemesMore es ++ ")" :: rest) := by
  cases es with
  | nil => exact symbolNext_cons (by decide) _
  | cons e es => exact symbolNext_cons (by decide) _

mutual

/-- The lexemes up to a symbol tell which expression they spell, and where it ends. -/
theorem Expr.lexemes_append_inj : ∀ (e e' : Expr), e.Named → e'.Named →
    ∀ {rest rest' : List String}, SymbolNext rest → SymbolNext rest' →
      e.lexemes ++ rest = e'.lexemes ++ rest' → e = e' ∧ rest = rest'
  | .ident name, e', h, h', rest, rest', hrest, hrest', heq => by
    have hform := Expr.form_eq h h' hrest hrest' heq
    cases e' with
    | ident name' =>
      obtain ⟨rfl, rfl⟩ := List.cons.inj heq
      exact ⟨rfl, rfl⟩
    | _ => cases hform
  | .num text, e', h, h', rest, rest', hrest, hrest', heq => by
    have hform := Expr.form_eq h h' hrest hrest' heq
    cases e' with
    | num text' =>
      obtain ⟨rfl, rfl⟩ := List.cons.inj heq
      exact ⟨rfl, rfl⟩
    | _ => cases hform
  | .tuple elements, e', h, h', rest, rest', hrest, hrest', heq => by
    have hform := Expr.form_eq h h' hrest hrest' heq
    cases e' with
    | tuple elements' =>
      simp only [Expr.lexemes, List.cons_append, List.append_assoc, List.nil_append,
        List.cons.injEq, true_and] at heq
      obtain ⟨rfl, rfl⟩ := Expr.lexemesItems_append_inj elements elements' h h' heq
      exact ⟨rfl, rfl⟩
    | _ => cases hform
  | .new typeName args, e', h, h', rest, rest', hrest, hrest', heq => by
    have hform := Expr.form_eq h h' hrest hrest' heq
    cases e' with
    | new typeName' args' =>
      simp only [Expr.lexemes, List.cons_append, List.append_assoc, List.nil_append,
        List.cons.injEq, true_and] at heq
      obtain ⟨rfl, hargs⟩ := heq
      obtain ⟨rfl, rfl⟩ := Expr.lexemesItems_append_inj args args' h.2 h'.2 hargs
      exact ⟨rfl, rfl⟩
    | _ => cases hform

/-- The lexemes up to the bracket tell which items they spell. -/
theorem Expr.lexemesItems_append_inj : ∀ (es es' : List Expr), Expr.NamedList es →
    Expr.NamedList es' → ∀ {rest rest' : List String},
      Expr.lexemesItems es ++ ")" :: rest = Expr.lexemesItems es' ++ ")" :: rest' →
        es = es' ∧ rest = rest'
  | [], [], _, _, _, _, heq => ⟨rfl, (List.cons.inj heq).2⟩
  | [], _ :: es', _, h', _, _, heq =>
    absurd heq.symm (Expr.lexemesItems_append_ne h'.1 es' _ _)
  | _ :: es, [], h, _, _, _, heq => absurd heq (Expr.lexemesItems_append_ne h.1 es _ _)
  | e :: es, e' :: es', h, h', rest, rest', heq => by
    rw [Expr.lexemesItems, Expr.lexemesItems, List.append_assoc, List.append_assoc] at heq
    obtain ⟨rfl, hmore⟩ := Expr.lexemes_append_inj e e' h.1 h'.1
      (Expr.symbolNext_lexemesMore es rest) (Expr.symbolNext_lexemesMore es' rest') heq
    obtain ⟨rfl, rfl⟩ := Expr.lexemesMore_append_inj es es' h.2 h'.2 hmore
    exact ⟨rfl, rfl⟩

/-- A comma or the end of the list comes next, and tells if there is one more item. -/
theorem Expr.lexemesMore_append_inj : ∀ (es es' : List Expr), Expr.NamedList es →
    Expr.NamedList es' → ∀ {rest rest' : List String},
      Expr.lexemesMore es ++ ")" :: rest = Expr.lexemesMore es' ++ ")" :: rest' →
        es = es' ∧ rest = rest'
  | [], [], _, _, _, _, heq => ⟨rfl, (List.cons.inj heq).2⟩
  | [], _ :: _, _, _, _, _, heq => absurd (List.cons.inj heq).1 (by decide)
  | _ :: _, [], _, _, _, _, heq => absurd (List.cons.inj heq).1 (by decide)
  | e :: es, e' :: es', h, h', rest, rest', heq => by
    simp only [Expr.lexemesMore, List.cons_append, List.append_assoc, List.cons.injEq,
      true_and] at heq
    obtain ⟨rfl, hmore⟩ := Expr.lexemes_append_inj e e' h.1 h'.1
      (Expr.symbolNext_lexemesMore es rest) (Expr.symbolNext_lexemesMore es' rest') heq
    obtain ⟨rfl, rfl⟩ := Expr.lexemesMore_append_inj es es' h.2 h'.2 hmore
    exact ⟨rfl, rfl⟩

end

/-! ## Statements -/

/-- A statement is not taken for the end of a block. -/
theorem Stmt.lexemesMembers_append_ne (s : Stmt) (ss : List Stmt) (rest rest' : List String) :
    Stmt.lexemesMembers (s :: ss) ++ rest ≠ closeBrace :: rest' := by
  obtain ⟨first, more, hlexemes, hne⟩ := s.lexemes_eq_cons
  rw [Stmt.lexemesMembers, hlexemes]
  exact fun heq => hne (List.cons.inj heq).1

mutual

/-- The lexemes of a statement with its semicolon tell which one it is, and where it ends. -/
theorem Stmt.lexemes_append_inj : ∀ (s s' : Stmt), s.Named → s'.Named →
    ∀ {rest rest' : List String},
      s.lexemes ++ (s.ending ++ rest) = s'.lexemes ++ (s'.ending ++ rest') → s = s' ∧ rest = rest'
  | .var name init, s', h, h', rest, rest', heq => by
    cases s' with
    | var name' init' =>
      simp only [Stmt.lexemes, Stmt.ending, List.cons_append, List.nil_append, List.cons.injEq,
        true_and] at heq
      obtain ⟨rfl, hinit⟩ := heq
      obtain ⟨rfl, hrest⟩ := Expr.lexemes_append_inj init init' h.2 h'.2
        (symbolNext_cons (by decide) _) (symbolNext_cons (by decide) _) hinit
      exact ⟨rfl, (List.cons.inj hrest).2⟩
    | ret value' => exact absurd (List.cons.inj heq).1 (by decide)
    | block statements' => exact absurd (List.cons.inj heq).1 (by decide)
  | .ret value, s', h, h', rest, rest', heq => by
    cases s' with
    | var name' init' => exact absurd (List.cons.inj heq).1 (by decide)
    | ret value' =>
      simp only [Stmt.lexemes, Stmt.ending, List.cons_append, List.nil_append, List.cons.injEq,
        true_and] at heq
      obtain ⟨rfl, hrest⟩ := Expr.lexemes_append_inj value value' h h'
        (symbolNext_cons (by decide) _) (symbolNext_cons (by decide) _) heq
      exact ⟨rfl, (List.cons.inj hrest).2⟩
    | block statements' => exact absurd (List.cons.inj heq).1 (by decide)
  | .block statements, s', h, h', rest, rest', heq => by
    cases s' with
    | var name' init' => exact absurd (List.cons.inj heq).1 (by decide)
    | ret value' => exact absurd (List.cons.inj heq).1 (by decide)
    | block statements' =>
      simp only [Stmt.lexemes, Stmt.ending, List.cons_append, List.append_assoc, List.nil_append,
        List.cons.injEq, true_and] at heq
      obtain ⟨rfl, rfl⟩ := Stmt.lexemesMembers_append_inj statements statements' h h' heq
      exact ⟨rfl, rfl⟩

/-- The lexemes up to the brace tell which statements they spell. -/
theorem Stmt.lexemesMembers_append_inj : ∀ (ss ss' : List Stmt), Stmt.NamedList ss →
    Stmt.NamedList ss' → ∀ {rest rest' : List String},
      Stmt.lexemesMembers ss ++ closeBrace :: rest =
        Stmt.lexemesMembers ss' ++ closeBrace :: rest' → ss = ss' ∧ rest = rest'
  | [], [], _, _, _, _, heq => ⟨rfl, (List.cons.inj heq).2⟩
  | [], s' :: ss', _, _, _, _, heq => absurd heq.symm (s'.lexemesMembers_append_ne ss' _ _)
  | s :: ss, [], _, _, _, _, heq => absurd heq (s.lexemesMembers_append_ne ss _ _)
  | s :: ss, s' :: ss', h, h', rest, rest', heq => by
    simp only [Stmt.lexemesMembers, List.append_assoc] at heq
    obtain ⟨rfl, hmore⟩ := Stmt.lexemes_append_inj s s' h.1 h'.1 heq
    obtain ⟨rfl, rfl⟩ := Stmt.lexemesMembers_append_inj ss ss' h.2 h'.2 hmore
    exact ⟨rfl, rfl⟩

end

/-! ## Blocks -/

/-- All names in a lexical block are of the kind of identifiers. -/
theorem Block.Lexical.named {b : Block} (h : b.Lexical) : Stmt.NamedList b :=
  Stmt.SpelledList.imp b h fun _ _ =>
    ⟨fun hid => (isIdentifier_iff.1 hid).2, fun hid => (isIdentifier_iff.1 hid).2,
      fun hnum => (isNumber_iff.1 hnum).2⟩

/-- Lexical blocks are told apart by their lexemes. -/
theorem Block.lexemes_inj {a b : Block} (ha : a.Lexical) (hb : b.Lexical)
    (h : a.lexemes = b.lexemes) : a = b :=
  (Stmt.lexemesMembers_append_inj a b ha.named hb.named (List.cons.inj h).2).1

/-- **Lexical blocks are told apart by their canonical spellings**, whether or not they can be read
back. -/
theorem print_eq_print_iff {a b : Block} (ha : a.Lexical) (hb : b.Lexical) :
    print a = print b ↔ a = b := by
  constructor
  · intro h
    have hlexemes : a.lexemes = b.lexemes := by
      rw [← tokenize_print ha, ← tokenize_print hb, h]
    exact Block.lexemes_inj ha hb hlexemes
  · rintro rfl
    rfl

/-- Two blocks with a variable and a type of the name `new`. The first cannot be read back. -/
theorem print_eq_print_iff_new :
    Block.Lexical [.ret (.new "new" [.ident "new", .tuple [.ident "new"]])] ∧
      Block.Lexical [.ret (.new "new" [.ident "new", .new "new" [.ident "new"]])] ∧
      ¬Block.WellFormed [.ret (.new "new" [.ident "new", .tuple [.ident "new"]])] ∧
      print [.ret (.new "new" [.ident "new", .tuple [.ident "new"]])] ≠
        print [.ret (.new "new" [.ident "new", .new "new" [.ident "new"]])] := by
  have hnew : isIdentifier "new" = true := by decide
  have ha : Block.Lexical [.ret (.new "new" [.ident "new", .tuple [.ident "new"]])] :=
    ⟨⟨hnew, hnew, ⟨hnew, trivial⟩, trivial⟩, trivial⟩
  have hb : Block.Lexical [.ret (.new "new" [.ident "new", .new "new" [.ident "new"]])] :=
    ⟨⟨hnew, hnew, ⟨hnew, hnew, trivial⟩, trivial⟩, trivial⟩
  refine ⟨ha, hb, fun h => h.1.2.1.2 rfl, fun h => ?_⟩
  exact absurd ((print_eq_print_iff ha hb).1 h) (by decide)

end Detuple
