import Detuple.Proofs.Layout
import Detuple.Proofs.Reading

/-!
# Proofs: printing and reading back

What has been read is well-formed, and what is well-formed is read back from its canonical spelling.
Printing what has been read only changes the spacing, so the canonical spelling names the sequence
of tokens: two programs have the same one exactly if they have the same tokens.

First the spelling is cut into tokens. Between any two lexemes of a spelling stands a blank or one
of them is a symbol, so no two of them run together: the tokens of the plain text of a tree are its
lexemes (`Stmt.tokenize_plain`), provided the strings in the tree are single tokens themselves.
-/

namespace Detuple

/-! ## The tokens of expressions -/

mutual

/-- The tokens of the plain text of an expression are its lexemes. -/
theorem Expr.tokenize_plain : ∀ e : Expr, e.Spelled SingleToken SingleToken SingleToken →
    tokenize e.plain = e.lexemes
  | .ident _, h => h
  | .num _, h => h
  | .tuple elements, h => by
    have hopen : ClosedEnd "(" := by decide
    have hclose : ClosedStart ")" := by decide
    rw [Expr.plain, tokenize_append_of_closedStart hclose, tokenize_append_of_closedEnd hopen,
      Expr.tokenize_plainList elements h, Expr.lexemes]
    rfl
  | .new typeName args, h => by
    have hnew : ClosedEnd "new " := by decide
    have hopen : Separates "(" := by decide
    have hclose : ClosedStart ")" := by decide
    rw [Expr.plain]
    simp only [String.append_assoc]
    rw [tokenize_append_of_closedEnd hnew, tokenize_infix hopen,
      tokenize_append_of_closedStart hclose, Expr.tokenize_plainList args h.2, h.1, Expr.lexemes]
    rfl

/-- Items with a comma and a blank between them have the tokens of a list of items. -/
theorem Expr.tokenize_plainList : ∀ es : List Expr,
    Expr.SpelledList SingleToken SingleToken SingleToken es →
    tokenize (", ".intercalate (Expr.plainList es)) = Expr.lexemesItems es
  | [], _ => rfl
  | [e], h => by
    rw [Expr.plainList, Expr.plainList, String.intercalate_singleton, Expr.tokenize_plain e h.1,
      Expr.lexemesItems, Expr.lexemesMore, List.append_nil]
  | e :: e' :: es, h => by
    have hcomma : Separates ", " := by decide
    have hrest := Expr.tokenize_plainList (e' :: es) h.2
    rw [Expr.plainList] at hrest
    rw [Expr.plainList, Expr.plainList, String.intercalate_cons_cons, String.append_assoc,
      tokenize_infix hcomma, Expr.tokenize_plain e h.1, hrest]
    rfl

end

/-! ## The tokens of statements -/

/-- The start of a line holds nothing but a line feed and blanks. -/
theorem mem_lineStart {depth : Nat} {c : Char} (h : c ∈ (lineStart depth).toList) :
    c = '\n' ∨ c = ' ' := by
  rw [lineStart, String.toList_append] at h
  rcases List.mem_append.1 h with h | h
  · exact Or.inl (List.mem_singleton.1 h)
  · rw [String.toList_ofList] at h
    exact Or.inr (List.eq_of_mem_replicate h)

/-- The start of a line has no tokens. -/
theorem tokenize_lineStart (depth : Nat) : tokenize (lineStart depth) = [] := by
  refine tokenize_of_blank fun c hc => ?_
  rcases mem_lineStart hc with rfl | rfl
  · decide
  · decide

/-- The start of a line keeps what is before it apart from what is behind it. -/
theorem separates_lineStart (depth : Nat) : Separates (lineStart depth) := by
  have hword : ∀ c ∈ (lineStart depth).toList, isWord c = false := by
    intro c hc
    rcases mem_lineStart hc with rfl | rfl
    · decide
    · decide
  refine ⟨?_, fun y hy => hword y (List.mem_of_mem_head? hy),
    fun x hx => hword x (List.mem_of_mem_getLast? hx)⟩
  intro h
  have hlen := congrArg String.length h
  rw [lineStart, String.length_append] at hlen
  simp at hlen

/-- A statement ends with a semicolon or a brace, and not within a word. -/
theorem Stmt.closedEnd_plain (s : Stmt) (depth : Nat) : ClosedEnd (s.plain depth) := by
  cases s with
  | var name init => exact ClosedEnd.append (by decide) (by decide) _
  | ret value => exact ClosedEnd.append (by decide) (by decide) _
  | block statements => exact ClosedEnd.append (by decide) (by decide) _

mutual

/-- The tokens of the plain text of a statement are its lexemes, at any depth. -/
theorem Stmt.tokenize_plain : ∀ s : Stmt, s.Spelled SingleToken SingleToken SingleToken →
    ∀ depth : Nat, tokenize (s.plain depth) = s.lexemes ++ s.ending
  | .var name init, h, depth => by
    have hvar : ClosedEnd "var " := by decide
    have heq : Separates " = " := by decide
    have hsemi : ClosedStart ";" := by decide
    rw [Stmt.plain]
    simp only [String.append_assoc]
    rw [tokenize_append_of_closedEnd hvar, tokenize_infix heq,
      tokenize_append_of_closedStart hsemi, Expr.tokenize_plain init h.2, h.1, Stmt.lexemes]
    rfl
  | .ret value, h, depth => by
    have hret : ClosedEnd "return " := by decide
    have hsemi : ClosedStart ";" := by decide
    rw [Stmt.plain, tokenize_append_of_closedStart hsemi, tokenize_append_of_closedEnd hret,
      Expr.tokenize_plain value h, Stmt.lexemes]
    rfl
  | .block statements, h, depth => by
    have hopen : ClosedEnd "\x7b" := by decide
    rw [Stmt.plain, String.append_assoc, tokenize_infix (separates_lineStart depth),
      tokenize_append_of_closedEnd hopen, Stmt.tokenize_plainMembers statements h,
      tokenize_lineStart, Stmt.lexemes, Stmt.ending, List.append_nil]
    rfl

/-- Statements on lines of their own have the tokens of the statements of a block. -/
theorem Stmt.tokenize_plainMembers : ∀ ss : List Stmt,
    Stmt.SpelledList SingleToken SingleToken SingleToken ss →
    ∀ depth : Nat, tokenize (String.join (Stmt.plainMembers depth ss)) = Stmt.lexemesMembers ss
  | [], _, _ => rfl
  | s :: ss, h, depth => by
    rw [Stmt.plainMembers, String.join_cons, String.append_assoc,
      tokenize_append_of_closedEnd (separates_lineStart depth).2.2,
      tokenize_append_of_closedEnd (s.closedEnd_plain depth), tokenize_lineStart,
      Stmt.tokenize_plain s h.1, Stmt.tokenize_plainMembers ss h.2, Stmt.lexemesMembers,
      List.append_assoc]
    rfl

end

/-- The tokens of the canonical spelling of a block are its lexemes. -/
theorem tokenize_print {b : Block} (h : b.Lexical) : tokenize (print b) = b.lexemes := by
  rw [print_eq_plain, Stmt.tokenize_plain (.block b) h.singleTokens, Stmt.ending, List.append_nil]
  rfl

/-! ## There and back -/

/-- Reading yields well-formed blocks only. -/
theorem Block.wellFormed_of_parse {source : String} {b : Block} (h : parse source = .ok b) :
    b.WellFormed := by
  obtain ⟨hr, htok⟩ := parse_eq_ok_iff.1 h
  refine Block.wellFormed_of_lexemes hr fun x hx => ?_
  rw [← htok] at hx
  exact tokenize_of_mem hx

/-- The canonical spelling of a well-formed block is read as that block. -/
theorem Block.WellFormed.parse_print {b : Block} (h : b.WellFormed) : parse (print b) = .ok b :=
  parse_eq_ok_iff.2 ⟨h.readable, tokenize_print h.lexical⟩

/-- Printing what has been read keeps the tokens. -/
theorem tokenize_print_of_parse {source : String} {b : Block} (h : parse source = .ok b) :
    tokenize (print b) = tokenize source := by
  rw [tokenize_print (Block.wellFormed_of_parse h).lexical, (parse_eq_ok_iff.1 h).2]

/-- Texts with the same tokens are read as the same block. -/
theorem parse_eq_ok_of_tokenize_eq {source source' : String} {b : Block}
    (h : parse source = .ok b) (heq : tokenize source' = tokenize source) :
    parse source' = .ok b := by
  obtain ⟨hr, htok⟩ := parse_eq_ok_iff.1 h
  exact parse_eq_ok_iff.2 ⟨hr, heq.trans htok⟩

/-- **A block is read back from its canonical spelling exactly if it is well-formed**, and the
well-formed blocks are all that can be read at all. -/
theorem parse_print_iff_wellFormed (b : Block) :
    (parse (print b) = .ok b ↔ b.WellFormed) ∧
      ((∃ source, parse source = .ok b) ↔ b.WellFormed) := by
  constructor
  · exact ⟨Block.wellFormed_of_parse, Block.WellFormed.parse_print⟩
  · constructor
    · rintro ⟨source, h⟩
      exact Block.wellFormed_of_parse h
    · intro h
      exact ⟨print b, h.parse_print⟩

/-- **Printing what has been read changes the spacing only**, and the canonical spelling stands for
the tokens: it is the same for two texts exactly if their tokens are, and it is its own canonical
spelling. -/
theorem print_of_parse_canonical {source source' : String} {b b' : Block}
    (h : parse source = .ok b) (h' : parse source' = .ok b') :
    tokenize (print b) = tokenize source ∧
      (print b = print b' ↔ tokenize source = tokenize source') ∧
      (parse (print b)).map print = .ok (print b) := by
  refine ⟨tokenize_print_of_parse h, ⟨?_, ?_⟩, ?_⟩
  · intro heq
    rw [← tokenize_print_of_parse h, heq, tokenize_print_of_parse h']
  · intro heq
    have hsame := parse_eq_ok_of_tokenize_eq h heq.symm
    rw [h'] at hsame
    cases hsame
    rfl
  · rw [(Block.wellFormed_of_parse h).parse_print]
    rfl

/-- Without and with blanks around every token. -/
theorem print_of_parse_canonical_respaced :
    parse "\x7bvar new=(1,());\x7b\x7d\x7d" =
        .ok [.var "new" (.tuple [.num "1", .tuple []]), .block []] ∧
      parse " \x7b var new\n= ( 1 , ( ) ) ; \x7b \x7d \x7d " =
        .ok [.var "new" (.tuple [.num "1", .tuple []]), .block []] ∧
      tokenize (print [.var "new" (.tuple [.num "1", .tuple []]), .block []]) =
        tokenize "\x7bvar new=(1,());\x7b\x7d\x7d" ∧
      tokenize "\x7bvar new=(1,());\x7b\x7d\x7d" =
        tokenize " \x7b var new\n= ( 1 , ( ) ) ; \x7b \x7d \x7d " ∧
      (parse (print [.var "new" (.tuple [.num "1", .tuple []]), .block []])).map print =
        .ok (print [.var "new" (.tuple [.num "1", .tuple []]), .block []]) := by
  have h : parse "\x7bvar new=(1,());\x7b\x7d\x7d" =
      .ok [.var "new" (.tuple [.num "1", .tuple []]), .block []] := by rfl
  have h' : parse " \x7b var new\n= ( 1 , ( ) ) ; \x7b \x7d \x7d " =
      .ok [.var "new" (.tuple [.num "1", .tuple []]), .block []] := by rfl
  obtain ⟨htokens, hsame, hfixed⟩ := print_of_parse_canonical h h'
  exact ⟨h, h', htokens, hsame.1 rfl, hfixed⟩

end Detuple
