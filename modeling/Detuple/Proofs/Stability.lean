import Detuple.Proofs.Detupling

/-!
# Proofs: detupled programs are read back

No tuple is left in a detupled tree, and a tree without tuples stays as it is. So detupling what has
been detupled changes nothing, whatever the type name. Whether the output can be read back as the
detupled tree is a question of the type name alone, and only if it has been used: it must then be an
identifier (`Stmt.SpelledList.of_detuple`). A type name that is none can spoil the output, and it
can also smuggle in other statements, so that the output is read as another program.
-/

namespace Detuple

variable {typeName : String}

/-! ## Trees without tuples -/

section

variable (typeName)

mutual

/-- Detupling leaves no tuple in an expression. -/
theorem Expr.tupleCount_detuple : ∀ e : Expr, (e.detuple typeName).tupleCount = 0
  | .ident _ => rfl
  | .num _ => rfl
  | .tuple elements => Expr.tupleCountList_detupleList elements
  | .new _ args => Expr.tupleCountList_detupleList args

theorem Expr.tupleCountList_detupleList : ∀ es : List Expr,
    Expr.tupleCountList (Expr.detupleList typeName es) = 0
  | [] => rfl
  | e :: es => by
    rw [Expr.detupleList, Expr.tupleCountList, Expr.tupleCount_detuple e,
      Expr.tupleCountList_detupleList es]

end

mutual

theorem Stmt.tupleCount_detuple : ∀ s : Stmt, (s.detuple typeName).tupleCount = 0
  | .var _ init => Expr.tupleCount_detuple typeName init
  | .ret value => Expr.tupleCount_detuple typeName value
  | .block statements => Stmt.tupleCountList_detupleList statements

/-- Detupling leaves no tuple behind. -/
theorem Stmt.tupleCountList_detupleList : ∀ ss : List Stmt,
    Stmt.tupleCountList (Stmt.detupleList typeName ss) = 0
  | [] => rfl
  | s :: ss => by
    rw [Stmt.detupleList, Stmt.tupleCountList, Stmt.tupleCount_detuple s,
      Stmt.tupleCountList_detupleList ss]

end

mutual

/-- An expression without tuples stays as it is. -/
theorem Expr.detuple_of_tupleCount : ∀ e : Expr, e.tupleCount = 0 → e.detuple typeName = e
  | .ident _, _ => rfl
  | .num _, _ => rfl
  | .tuple elements, h => by
    rw [Expr.tupleCount] at h
    omega
  | .new ownType args, h => by
    rw [Expr.detuple, Expr.detupleList_of_tupleCount args h]

theorem Expr.detupleList_of_tupleCount : ∀ es : List Expr, Expr.tupleCountList es = 0 →
    Expr.detupleList typeName es = es
  | [], _ => rfl
  | e :: es, h => by
    obtain ⟨he, hes⟩ := Nat.add_eq_zero_iff.1 h
    rw [Expr.detupleList, Expr.detuple_of_tupleCount e he, Expr.detupleList_of_tupleCount es hes]

end

mutual

theorem Stmt.detuple_of_tupleCount : ∀ s : Stmt, s.tupleCount = 0 → s.detuple typeName = s
  | .var name init, h => by
    rw [Stmt.detuple, Expr.detuple_of_tupleCount typeName init h]
  | .ret value, h => by
    rw [Stmt.detuple, Expr.detuple_of_tupleCount typeName value h]
  | .block statements, h => by
    rw [Stmt.detuple, Stmt.detupleList_of_tupleCount statements h]

/-- A tree without tuples stays as it is. -/
theorem Stmt.detupleList_of_tupleCount : ∀ ss : List Stmt, Stmt.tupleCountList ss = 0 →
    Stmt.detupleList typeName ss = ss
  | [], _ => rfl
  | s :: ss, h => by
    obtain ⟨hs, hss⟩ := Nat.add_eq_zero_iff.1 h
    rw [Stmt.detupleList, Stmt.detuple_of_tupleCount s hs, Stmt.detupleList_of_tupleCount ss hss]

end

/-- The first detupling settles the tree: another one changes nothing. -/
theorem Block.detuple_detuple (other : String) (b : Block) :
    Block.detuple other (Block.detuple typeName b) = Block.detuple typeName b :=
  Stmt.detupleList_of_tupleCount other _ (Stmt.tupleCountList_detupleList typeName b)

end

/-! ## The type name in a detupled tree -/

section

variable {used declared number : String → Prop}

mutual

/-- A detupled expression declares the type name, unless there was no tuple to turn. -/
theorem Expr.Spelled.of_detuple : ∀ e : Expr, (e.detuple typeName).Spelled used declared number →
    declared typeName ∨ e.tupleCount = 0
  | .ident _, _ => Or.inr rfl
  | .num _, _ => Or.inr rfl
  | .tuple _, h => Or.inl h.1
  | .new _ args, h => Expr.SpelledList.of_detuple args h.2

theorem Expr.SpelledList.of_detuple : ∀ es : List Expr,
    Expr.SpelledList used declared number (Expr.detupleList typeName es) →
    declared typeName ∨ Expr.tupleCountList es = 0
  | [], _ => Or.inr rfl
  | e :: es, h => by
    rcases Expr.Spelled.of_detuple e h.1 with ht | he
    · exact Or.inl ht
    · rcases Expr.SpelledList.of_detuple es h.2 with ht | hes
      · exact Or.inl ht
      · exact Or.inr (Nat.add_eq_zero_iff.2 ⟨he, hes⟩)

end

mutual

theorem Stmt.Spelled.of_detuple : ∀ s : Stmt, (s.detuple typeName).Spelled used declared number →
    declared typeName ∨ s.tupleCount = 0
  | .var _ init, h => Expr.Spelled.of_detuple init h.2
  | .ret value, h => Expr.Spelled.of_detuple value h
  | .block statements, h => Stmt.SpelledList.of_detuple statements h

/-- A detupled tree declares the type name, unless there was no tuple to turn. -/
theorem Stmt.SpelledList.of_detuple : ∀ ss : List Stmt,
    Stmt.SpelledList used declared number (Stmt.detupleList typeName ss) →
    declared typeName ∨ Stmt.tupleCountList ss = 0
  | [], _ => Or.inr rfl
  | s :: ss, h => by
    rcases Stmt.Spelled.of_detuple s h.1 with ht | hs
    · exact Or.inl ht
    · rcases Stmt.SpelledList.of_detuple ss h.2 with ht | hss
      · exact Or.inl ht
      · exact Or.inr (Nat.add_eq_zero_iff.2 ⟨hs, hss⟩)

end

end

/-- A detupled tree is well-formed exactly if the type name is an identifier or has not been
used. -/
theorem Block.WellFormed.detuple_iff {b : Block} (h : b.WellFormed) :
    (Block.detuple typeName b).WellFormed ↔ isIdentifier typeName = true ∨ b.tupleCount = 0 := by
  constructor
  · intro hd
    exact Stmt.SpelledList.of_detuple b hd
  · rintro (ht | hcount)
    · exact h.detuple ht
    · rw [Block.detuple, Stmt.detupleList_of_tupleCount typeName b hcount]
      exact h

/-! ## Reading the output back -/

/-- **The output of detupling a source text is read back as the detupled program exactly if the type
name is an identifier or the program holds no tuple.** In that case detupling the output, to
whatever type, yields the output again. A source text that is no program is refused for the same
reason whatever the type name. -/
theorem parse_detupleSource_iff (source typeName : String) :
    (∀ b, parse source = .ok b →
      ∃ output, detupleSource source typeName = .ok output ∧
        (parse output = .ok (Block.detuple typeName b) ↔
          isIdentifier typeName = true ∨ b.tupleCount = 0) ∧
        (isIdentifier typeName = true ∨ b.tupleCount = 0 →
          ∀ other, detupleSource output other = .ok output)) ∧
    (∀ e, parse source = .error e → detupleSource source typeName = .error e) := by
  constructor
  · intro b h
    have hwell : (Block.detuple typeName b).WellFormed ↔
        isIdentifier typeName = true ∨ b.tupleCount = 0 := (Block.wellFormed_of_parse h).detuple_iff
    refine ⟨print (Block.detuple typeName b), detupleSource_eq_of_parse h, ⟨?_, ?_⟩, ?_⟩
    · intro hback
      exact hwell.1 (Block.wellFormed_of_parse hback)
    · intro hname
      exact (hwell.2 hname).parse_print
    · intro hname other
      rw [detupleSource_eq_of_parse (hwell.2 hname).parse_print, Block.detuple_detuple]
  · intro e h
    rw [detupleSource, h]
    rfl

/-- A type name that closes a call of its own adds a statement: the output is a program, but not the
detupled one. With an identifier the output is settled. -/
theorem parse_detupleSource_iff_injected :
    (∃ output, detupleSource "\x7bvar x=(1);\x7d" "P(); return new Q" = .ok output ∧
      parse output = .ok [.var "x" (.new "P" []), .ret (.new "Q" [.num "1"])] ∧
      parse output ≠ .ok (Block.detuple "P(); return new Q" [.var "x" (.tuple [.num "1"])])) ∧
    (∃ output, detupleSource "\x7bvar x=(1);\x7d" "P" = .ok output ∧
      parse output = .ok (Block.detuple "P" [.var "x" (.tuple [.num "1"])]) ∧
      detupleSource output "P(); return new Q" = .ok output) ∧
    detupleSource "\x7bvar x=(1)\x7d" "P" = .error (.refused .semicolon ⟨"\x7d", 10⟩) := by
  have h : parse "\x7bvar x=(1);\x7d" = .ok [.var "x" (.tuple [.num "1"])] := by rfl
  have hname : isIdentifier "P" = true := by rfl
  have hinjected : ¬ (isIdentifier "P(); return new Q" = true ∨
      Block.tupleCount [.var "x" (.tuple [.num "1"])] = 0) := by decide
  obtain ⟨bad, hbad, hbadback, -⟩ := (parse_detupleSource_iff _ "P(); return new Q").1 _ h
  obtain ⟨good, hgood, hgoodback, hfixed⟩ := (parse_detupleSource_iff _ "P").1 _ h
  refine ⟨⟨bad, hbad, ?_, mt hbadback.1 hinjected⟩,
    ⟨good, hgood, hgoodback.2 (Or.inl hname), hfixed (Or.inl hname) _⟩,
    (parse_detupleSource_iff _ "P").2 _ (by rfl)⟩
  rw [detupleSource_eq_of_parse h] at hbad
  cases hbad
  rfl

end Detuple
