import Detuple.Detupling
import Detuple.Proofs.RoundTrip

/-!
# Proofs: detupling without a tree

The tree is not needed to tell which brackets open a tuple. Behind a symbol nothing that was read
before matters (`insertCalls_symbol`), and where an expression may begin, a bracket opens a tuple:
an expression never follows the keyword `new` and a name. So inserting calls into the lexemes of a
tree gives the lexemes of the detupled tree (`Block.insertCalls_lexemes`). How often it happens is
read off the number of lexemes on both sides.
-/

namespace Detuple

variable {typeName : String}

/-! ## Detupled trees -/

section

variable {used declared number : String → Prop}

mutual

/-- If the type name may be declared, a detupled expression holds only what the expression may
hold. -/
theorem Expr.Spelled.detuple (ht : declared typeName) : ∀ e : Expr,
    e.Spelled used declared number → (e.detuple typeName).Spelled used declared number
  | .ident _, h => h
  | .num _, h => h
  | .tuple elements, h => ⟨ht, Expr.SpelledList.detuple ht elements h⟩
  | .new _ args, h => ⟨h.1, Expr.SpelledList.detuple ht args h.2⟩

theorem Expr.SpelledList.detuple (ht : declared typeName) : ∀ es : List Expr,
    Expr.SpelledList used declared number es →
    Expr.SpelledList used declared number (Expr.detupleList typeName es)
  | [], _ => trivial
  | e :: es, h => ⟨Expr.Spelled.detuple ht e h.1, Expr.SpelledList.detuple ht es h.2⟩

end

mutual

theorem Stmt.Spelled.detuple (ht : declared typeName) : ∀ s : Stmt,
    s.Spelled used declared number → (s.detuple typeName).Spelled used declared number
  | .var _ init, h => ⟨h.1, Expr.Spelled.detuple ht init h.2⟩
  | .ret value, h => Expr.Spelled.detuple ht value h
  | .block statements, h => Stmt.SpelledList.detuple ht statements h

/-- If the type name may be declared, a detupled tree holds only what the tree may hold. -/
theorem Stmt.SpelledList.detuple (ht : declared typeName) : ∀ ss : List Stmt,
    Stmt.SpelledList used declared number ss →
    Stmt.SpelledList used declared number (Stmt.detupleList typeName ss)
  | [], _ => trivial
  | s :: ss, h => ⟨Stmt.Spelled.detuple ht s h.1, Stmt.SpelledList.detuple ht ss h.2⟩

end

end

/-- Detupling a well-formed block to an identifier yields a well-formed block. -/
theorem Block.WellFormed.detuple {b : Block} (h : b.WellFormed)
    (ht : isIdentifier typeName = true) : (Block.detuple typeName b).WellFormed :=
  Stmt.SpelledList.detuple ht b h

theorem Stmt.ending_detuple (s : Stmt) : (s.detuple typeName).ending = s.ending := by
  cases s with
  | var name init => rfl
  | ret value => rfl
  | block statements => rfl

/-! ## Inserting calls -/

/-- Nothing is inserted before a lexeme other than the opening bracket. -/
theorem insertCalls_cons {x : String} (hx : x ≠ "(") (nearer farther : Option String)
    (rest : List String) : insertCalls typeName nearer farther (x :: rest) =
      x :: insertCalls typeName (some x) nearer rest := by
  have hopen : opensTuple nearer farther x = false := by
    rw [opensTuple, beq_eq_false_iff_ne.2 hx, Bool.false_and]
  rw [insertCalls, hopen]
  rfl

/-- The farther of the two lexemes only matters if it is the keyword. -/
theorem insertCalls_farther {farther : Option String} (h : farther ≠ some "new")
    (nearer : Option String) (xs : List String) :
    insertCalls typeName nearer farther xs = insertCalls typeName nearer none xs := by
  cases xs with
  | nil => rfl
  | cons x xs =>
    have hopen : opensTuple nearer farther x = opensTuple nearer none x := by
      rw [opensTuple, opensTuple, beq_eq_false_iff_ne.2 h]
      rfl
    rw [insertCalls, insertCalls, hopen]

/-- Behind a symbol, inserting goes on as at the start. -/
theorem insertCalls_symbol {x : String} (h : Kind.ofText x = .symbol) (farther : Option String)
    (xs : List String) :
    insertCalls typeName (some x) farther xs = insertCalls typeName none none xs := by
  cases xs with
  | nil => rfl
  | cons y ys =>
    have hnew : some x ≠ some "new" := by
      rintro ⟨⟩
      exact absurd h (by decide)
    have hopen : opensTuple (some x) farther y = opensTuple none none y := by
      simp [opensTuple, h]
    rw [insertCalls, insertCalls, hopen, insertCalls_farther hnew]

/-- A symbol other than the opening bracket. -/
def Punctuation (x : String) : Prop := Kind.ofText x = .symbol ∧ x ≠ "("

instance (x : String) : Decidable (Punctuation x) :=
  inferInstanceAs (Decidable (Kind.ofText x = .symbol ∧ x ≠ "("))

/-- Other symbols stay as they are, and what was read before them is forgotten. -/
theorem insertCalls_punctuation {x : String} (h : Punctuation x) (nearer farther : Option String)
    (rest : List String) : insertCalls typeName nearer farther (x :: rest) =
      x :: insertCalls typeName none none rest := by
  rw [insertCalls_cons h.2, insertCalls_symbol h.1]

/-- A bracket that opens a tuple becomes one that opens the arguments of a call. -/
theorem insertCalls_openParen {nearer farther : Option String}
    (h : opensTuple nearer farther "(" = true) (rest : List String) :
    insertCalls typeName nearer farther ("(" :: rest) =
      "new" :: typeName :: "(" :: insertCalls typeName none none rest := by
  have hparen : Kind.ofText "(" = .symbol := by decide
  rw [insertCalls, h, insertCalls_symbol hparen]
  rfl

/-- A bracket behind the keyword and a name stays as it is. -/
theorem insertCalls_newType {ownType : String} (h : Kind.ofText ownType = .identifier)
    (nearer farther : Option String) (rest : List String) :
    insertCalls typeName nearer farther ("new" :: ownType :: "(" :: rest) =
      "new" :: ownType :: "(" :: insertCalls typeName none none rest := by
  have hparen : Kind.ofText "(" = .symbol := by decide
  have hnew : "new" ≠ "(" := by decide
  have htype : ownType ≠ "(" := Kind.ne_of_symbol (by simp [h]) (by decide)
  have hargs : opensTuple (some ownType) (some "new") "(" = false := by
    simp [opensTuple, h]
  rw [insertCalls_cons hnew, insertCalls_cons htype, insertCalls, hargs, insertCalls_symbol hparen]
  rfl

mutual

/-- Where a bracket would open a tuple, inserting calls detuples the expression up to the symbol
behind it. -/
theorem Expr.insertCalls_lexemes : ∀ e : Expr, e.Readable → ∀ {nearer farther : Option String},
    opensTuple nearer farther "(" = true → ∀ {x : String}, Punctuation x → ∀ rest : List String,
      insertCalls typeName nearer farther (e.lexemes ++ x :: rest) =
        (e.detuple typeName).lexemes ++ x :: insertCalls typeName none none rest
  | .ident name, h, nearer, farther, hopen, x, hx, rest => by
    have hname : name ≠ "(" := Kind.ne_of_symbol (by simp [h.1]) (by decide)
    rw [Expr.lexemes, List.singleton_append, insertCalls_cons hname, insertCalls_punctuation hx]
    rfl
  | .num text, h, nearer, farther, hopen, x, hx, rest => by
    have hk : Kind.ofText text = .number := h
    have htext : text ≠ "(" := Kind.ne_of_symbol (by simp [hk]) (by decide)
    rw [Expr.lexemes, List.singleton_append, insertCalls_cons htext, insertCalls_punctuation hx]
    rfl
  | .tuple elements, h, nearer, farther, hopen, x, hx, rest => by
    rw [Expr.lexemes, List.cons_append, List.append_assoc, List.singleton_append,
      insertCalls_openParen hopen, Expr.insertCalls_lexemesItems elements h,
      insertCalls_punctuation hx, Expr.detuple, Expr.lexemes]
    simp
  | .new ownType args, h, nearer, farther, hopen, x, hx, rest => by
    rw [Expr.lexemes, List.cons_append, List.cons_append, List.cons_append, List.append_assoc,
      List.singleton_append, insertCalls_newType h.1, Expr.insertCalls_lexemesItems args h.2,
      insertCalls_punctuation hx, Expr.detuple, Expr.lexemes]
    simp

/-- Inserting calls detuples the items of a list up to the bracket behind them. -/
theorem Expr.insertCalls_lexemesItems : ∀ es : List Expr, Expr.ReadableList es →
    ∀ rest : List String,
      insertCalls typeName none none (Expr.lexemesItems es ++ ")" :: rest) =
        Expr.lexemesItems (Expr.detupleList typeName es) ++
          ")" :: insertCalls typeName none none rest
  | [], _, rest => by
    have hclose : Punctuation ")" := by decide
    rw [Expr.lexemesItems, List.nil_append, insertCalls_punctuation hclose]
    rfl
  | [e], h, rest => by
    have hopen : opensTuple none none "(" = true := rfl
    have hclose : Punctuation ")" := by decide
    have hlast := Expr.insertCalls_lexemes e h.1 hopen hclose rest
    simpa [Expr.lexemesItems, Expr.lexemesMore, Expr.detupleList] using hlast
  | e :: e' :: es, h, rest => by
    have hopen : opensTuple none none "(" = true := rfl
    have hcomma : Punctuation "," := by decide
    have hmore := Expr.insertCalls_lexemesItems (e' :: es) h.2 rest
    have hfirst := Expr.insertCalls_lexemes e h.1 hopen hcomma
      (Expr.lexemesItems (e' :: es) ++ ")" :: rest)
    rw [hmore] at hfirst
    simpa [Expr.lexemesItems, Expr.lexemesMore, Expr.detupleList] using hfirst

end

mutual

/-- Inserting calls detuples a statement, which begins where nothing matters any more. -/
theorem Stmt.insertCalls_lexemes : ∀ s : Stmt, s.Readable → ∀ rest : List String,
    insertCalls typeName none none (s.lexemes ++ (s.ending ++ rest)) =
      (s.detuple typeName).lexemes ++ (s.ending ++ insertCalls typeName none none rest)
  | .var name init, h, rest => by
    have hvar : "var" ≠ "(" := by decide
    have hname : name ≠ "(" := Kind.ne_of_symbol (by simp [h.1]) (by decide)
    have heq : Punctuation "=" := by decide
    have hopen : opensTuple none none "(" = true := rfl
    have hsemi : Punctuation ";" := by decide
    show insertCalls typeName none none ("var" :: name :: "=" :: (init.lexemes ++ ";" :: rest)) = _
    rw [insertCalls_cons hvar, insertCalls_cons hname, insertCalls_punctuation heq,
      Expr.insertCalls_lexemes init h.2 hopen hsemi]
    rfl
  | .ret value, h, rest => by
    have hret : "return" ≠ "(" := by decide
    -- A symbol stands before the keyword, so a bracket right behind the keyword opens a tuple.
    have hopen : opensTuple (some "return") none "(" = true := by decide
    have hsemi : Punctuation ";" := by decide
    show insertCalls typeName none none ("return" :: (value.lexemes ++ ";" :: rest)) = _
    rw [insertCalls_cons hret, Expr.insertCalls_lexemes value h hopen hsemi]
    rfl
  | .block statements, h, rest => by
    have hopen : Punctuation openBrace := by decide
    have hclose : Punctuation closeBrace := by decide
    rw [Stmt.lexemes, Stmt.ending, Stmt.detuple, Stmt.lexemes, List.nil_append, List.nil_append,
      List.cons_append, List.append_assoc, List.singleton_append, insertCalls_punctuation hopen,
      Stmt.insertCalls_lexemesMembers statements h, insertCalls_punctuation hclose]
    simp

/-- Inserting calls detuples the statements of a block up to whatever is behind them. -/
theorem Stmt.insertCalls_lexemesMembers : ∀ ss : List Stmt, Stmt.ReadableList ss →
    ∀ rest : List String,
      insertCalls typeName none none (Stmt.lexemesMembers ss ++ rest) =
        Stmt.lexemesMembers (Stmt.detupleList typeName ss) ++ insertCalls typeName none none rest
  | [], _, rest => rfl
  | s :: ss, h, rest => by
    rw [Stmt.lexemesMembers, List.append_assoc, List.append_assoc,
      Stmt.insertCalls_lexemes s h.1, Stmt.insertCalls_lexemesMembers ss h.2, Stmt.detupleList,
      Stmt.lexemesMembers, Stmt.ending_detuple, List.append_assoc, List.append_assoc]

end

/-- Inserting calls into the lexemes of a block gives those of the detupled block. -/
theorem Block.insertCalls_lexemes {b : Block} (h : Stmt.ReadableList b) :
    insertCalls typeName none none b.lexemes = (Block.detuple typeName b).lexemes := by
  have hopen : Punctuation openBrace := by decide
  rw [Block.lexemes, insertCalls_punctuation hopen, Stmt.insertCalls_lexemesMembers b h]
  rfl

/-! ## Counting the calls -/

section

variable (typeName)

/-- Inserting calls keeps all the lexemes, in order. -/
theorem sublist_insertCalls (nearer farther : Option String) (xs : List String) :
    xs.Sublist (insertCalls typeName nearer farther xs) := by
  induction xs generalizing nearer farther with
  | nil => exact List.nil_sublist _
  | cons x xs ih =>
    have hrest := (ih (some x) nearer).cons_cons x
    rw [insertCalls]
    split
    · exact (hrest.cons typeName).cons "new"
    · exact hrest

/-- Two lexemes are inserted for every bracket that opens a tuple. -/
theorem length_insertCalls (nearer farther : Option String) (xs : List String) :
    (insertCalls typeName nearer farther xs).length =
      xs.length + 2 * countTuples nearer farther xs := by
  induction xs generalizing nearer farther with
  | nil => rfl
  | cons x xs ih =>
    have hrest := ih (some x) nearer
    rw [insertCalls, countTuples]
    cases opensTuple nearer farther x with
    | true =>
      simp only [if_true, List.length_cons]
      omega
    | false =>
      simp only [Bool.false_eq_true, if_false, List.length_cons]
      omega

mutual

/-- Every tuple of an expression costs the two lexemes of a call. -/
theorem Expr.length_lexemes_detuple : ∀ e : Expr,
    (e.detuple typeName).lexemes.length = e.lexemes.length + 2 * e.tupleCount
  | .ident _ => rfl
  | .num _ => rfl
  | .tuple elements => by
    have helements := Expr.length_lexemesItems_detupleList elements
    simp only [Expr.detuple, Expr.lexemes, Expr.tupleCount, List.length_cons, List.length_append,
      List.length_nil]
    omega
  | .new _ args => by
    have hargs := Expr.length_lexemesItems_detupleList args
    simp only [Expr.detuple, Expr.lexemes, Expr.tupleCount, List.length_cons, List.length_append,
      List.length_nil]
    omega

theorem Expr.length_lexemesItems_detupleList : ∀ es : List Expr,
    (Expr.lexemesItems (Expr.detupleList typeName es)).length =
      (Expr.lexemesItems es).length + 2 * Expr.tupleCountList es
  | [] => rfl
  | e :: es => by
    have hfirst := Expr.length_lexemes_detuple e
    have hmore := Expr.length_lexemesMore_detupleList es
    simp only [Expr.detupleList, Expr.lexemesItems, Expr.tupleCountList, List.length_append]
    omega

theorem Expr.length_lexemesMore_detupleList : ∀ es : List Expr,
    (Expr.lexemesMore (Expr.detupleList typeName es)).length =
      (Expr.lexemesMore es).length + 2 * Expr.tupleCountList es
  | [] => rfl
  | e :: es => by
    have hfirst := Expr.length_lexemes_detuple e
    have hmore := Expr.length_lexemesMore_detupleList es
    simp only [Expr.detupleList, Expr.lexemesMore, Expr.tupleCountList, List.length_cons,
      List.length_append]
    omega

end

mutual

theorem Stmt.length_lexemes_detuple : ∀ s : Stmt,
    (s.detuple typeName).lexemes.length = s.lexemes.length + 2 * s.tupleCount
  | .var _ init => by
    have hinit := Expr.length_lexemes_detuple typeName init
    simp only [Stmt.detuple, Stmt.lexemes, Stmt.tupleCount, List.length_cons]
    omega
  | .ret value => by
    have hvalue := Expr.length_lexemes_detuple typeName value
    simp only [Stmt.detuple, Stmt.lexemes, Stmt.tupleCount, List.length_cons]
    omega
  | .block statements => by
    have hmembers := Stmt.length_lexemesMembers_detupleList statements
    simp only [Stmt.detuple, Stmt.lexemes, Stmt.tupleCount, List.length_cons, List.length_append]
    omega

/-- Every tuple of a tree costs the two lexemes of a call when it is turned. -/
theorem Stmt.length_lexemesMembers_detupleList : ∀ ss : List Stmt,
    (Stmt.lexemesMembers (Stmt.detupleList typeName ss)).length =
      (Stmt.lexemesMembers ss).length + 2 * Stmt.tupleCountList ss
  | [] => rfl
  | s :: ss => by
    have hfirst := Stmt.length_lexemes_detuple s
    have hmore := Stmt.length_lexemesMembers_detupleList ss
    simp only [Stmt.detupleList, Stmt.lexemesMembers, Stmt.tupleCountList, Stmt.ending_detuple,
      List.length_append]
    omega

end

theorem Block.length_lexemes_detuple (b : Block) :
    (Block.detuple typeName b).lexemes.length = b.lexemes.length + 2 * b.tupleCount := by
  have hmembers := Stmt.length_lexemesMembers_detupleList typeName b
  simp only [Block.lexemes, Block.detuple, Block.tupleCount, List.length_cons, List.length_append]
  omega

end

/-- The brackets that open a tuple are as many as the tuples of the tree: both are half of what
inserting calls adds. -/
theorem Block.countTuples_lexemes {b : Block} (h : Stmt.ReadableList b) :
    countTuples none none b.lexemes = b.tupleCount := by
  -- Any type name will do: both numbers are half of what the spelling of the tree grows by.
  have hinsert : insertCalls "new" none none b.lexemes = (Block.detuple "new" b).lexemes :=
    Block.insertCalls_lexemes h
  have hlength := length_insertCalls "new" none none b.lexemes
  rw [hinsert, Block.length_lexemes_detuple] at hlength
  omega

/-! ## Detupling a source text -/

/-- Detupling the source text of a program spells the detupled program. -/
theorem detupleSource_eq_of_parse {source : String} {b : Block} (h : parse source = .ok b) :
    detupleSource source typeName = .ok (print (Block.detuple typeName b)) := by
  rw [detupleSource, h]
  rfl

/-- Detupling a source text is inserting `new` and the type name into its lexemes, before every
bracket that does not follow a name behind `new`, and this happens once for each tuple of its
tree. -/
theorem detupleSource_inserts_calls {source typeName : String} {b : Block}
    (h : parse source = .ok b) (ht : isIdentifier typeName = true) :
    ∃ output, detupleSource source typeName = .ok output ∧
      tokenize output = insertCalls typeName none none (tokenize source) ∧
      countTuples none none (tokenize source) = b.tupleCount ∧
      (tokenize source).Sublist (tokenize output) := by
  obtain ⟨hread, hsource⟩ := parse_eq_ok_iff.1 h
  have hwell := (Block.wellFormed_of_parse h).detuple ht
  have houtput : tokenize (print (Block.detuple typeName b)) =
      insertCalls typeName none none (tokenize source) := by
    rw [tokenize_print hwell.lexical, hsource, Block.insertCalls_lexemes hread]
  refine ⟨print (Block.detuple typeName b), detupleSource_eq_of_parse h, houtput, ?_, ?_⟩
  · rw [hsource]
    exact Block.countTuples_lexemes hread
  · rw [houtput]
    exact sublist_insertCalls typeName none none (tokenize source)

/-- Keywords as names before a bracket: behind `new` they name a type, elsewhere the bracket opens a
tuple. -/
theorem detupleSource_inserts_calls_keywords :
    ∃ output,
      detupleSource "\x7bvar new=(1);return(new new((2)),new return(x));\x7d" "P" = .ok output ∧
      tokenize output = ["\x7b", "var", "new", "=", "new", "P", "(", "1", ")", ";", "return", "new",
        "P", "(", "new", "new", "(", "new", "P", "(", "2", ")", ")", ",", "new", "return", "(", "x",
        ")", ")", ";", "\x7d"] ∧
      countTuples none none
        (tokenize "\x7bvar new=(1);return(new new((2)),new return(x));\x7d") = 3 := by
  have h : parse "\x7bvar new=(1);return(new new((2)),new return(x));\x7d" =
      .ok [.var "new" (.tuple [.num "1"]),
        .ret (.tuple [.new "new" [.tuple [.num "2"]], .new "return" [.ident "x"]])] := by rfl
  have htype : isIdentifier "P" = true := by rfl
  obtain ⟨output, houtput, htokens, hcount, -⟩ := detupleSource_inserts_calls h htype
  refine ⟨output, houtput, htokens.trans ?_, hcount⟩
  rfl

end Detuple
