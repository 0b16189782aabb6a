import Detuple.Detupling
import Detuple.Proofs.Stability

/-!
# Proofs: tuples and calls are balanced

Detupling turns each tuple into one call of the constructor of the given type, and no other call
comes or goes. So the calls of that type grow by the number of the tuples, whether or not there were
such calls before, and the calls of other types stay as many as they are
(`Stmt.callCountList_detupleList`). The number of the tuples also tells if detupling does anything
at all: a tree that it leaves as it is holds no tuple, because no detupled tree does.
-/

namespace Detuple

/-! ## Calls of a constructor -/

section

variable (typeName other : String)

mutual

/-- Each tuple of an expression is traded for one call. -/
theorem Expr.callCount_detuple : ∀ e : Expr, (e.detuple typeName).callCount other =
    e.callCount other + if other = typeName then e.tupleCount else 0
  | .ident _ => by simp [Expr.detuple, Expr.callCount, Expr.tupleCount]
  | .num _ => by simp [Expr.detuple, Expr.callCount, Expr.tupleCount]
  | .tuple elements => by
    have ih := Expr.callCountList_detupleList elements
    rw [Expr.detuple, Expr.callCount, Expr.callCount, Expr.tupleCount, ih]
    -- The call that takes the place of the tuple counts for its own type only.
    by_cases h : other = typeName
    · rw [if_pos h.symm, if_pos h, if_pos h]
      omega
    · rw [if_neg (Ne.symm h), if_neg h, if_neg h]
      omega
  | .new ownType args => by
    have ih := Expr.callCountList_detupleList args
    rw [Expr.detuple, Expr.callCount, Expr.callCount, Expr.tupleCount, ih]
    omega

theorem Expr.callCountList_detupleList : ∀ es : List Expr,
    Expr.callCountList other (Expr.detupleList typeName es) =
      Expr.callCountList other es + if other = typeName then Expr.tupleCountList es else 0
  | [] => by simp [Expr.detupleList, Expr.callCountList, Expr.tupleCountList]
  | e :: es => by
    have he := Expr.callCount_detuple e
    have hes := Expr.callCountList_detupleList es
    rw [Expr.detupleList, Expr.callCountList, Expr.callCountList, Expr.tupleCountList, he, hes]
    split <;> omega

end

mutual

theorem Stmt.callCount_detuple : ∀ s : Stmt, (s.detuple typeName).callCount other =
    s.callCount other + if other = typeName then s.tupleCount else 0
  | .var _ init => Expr.callCount_detuple typeName other init
  | .ret value => Expr.callCount_detuple typeName other value
  | .block statements => Stmt.callCountList_detupleList statements

/-- Each tuple is traded for one call, and no other call comes or goes. -/
theorem Stmt.callCountList_detupleList : ∀ ss : List Stmt,
    Stmt.callCountList other (Stmt.detupleList typeName ss) =
      Stmt.callCountList other ss + if other = typeName then Stmt.tupleCountList ss else 0
  | [] => by simp [Stmt.detupleList, Stmt.callCountList, Stmt.tupleCountList]
  | s :: ss => by
    have hs := Stmt.callCount_detuple s
    have hss := Stmt.callCountList_detupleList ss
    rw [Stmt.detupleList, Stmt.callCountList, Stmt.callCountList, Stmt.tupleCountList, hs, hss]
    split <;> omega

end

end

/-- **Detupling trades every tuple for one call of the constructor of its type**, in expressions,
statements and blocks alike, at any depth and also where calls of that type are there already. The
number of the calls of any other type stays the same. -/
theorem detuple_balances_calls (typeName other : String) :
    (∀ e : Expr, (e.detuple typeName).callCount other =
      e.callCount other + if other = typeName then e.tupleCount else 0) ∧
    (∀ s : Stmt, (s.detuple typeName).callCount other =
      s.callCount other + if other = typeName then s.tupleCount else 0) ∧
    ∀ b : Block, (b.detuple typeName).callCount other =
      b.callCount other + if other = typeName then b.tupleCount else 0 :=
  ⟨Expr.callCount_detuple typeName other, Stmt.callCount_detuple typeName other,
    Stmt.callCountList_detupleList typeName other⟩

/-- Two tuples in a call of the same constructor, one in the other. -/
example : Block.callCount "P" (Block.detuple "P" [.ret (.new "P" [.tuple [.tuple []]])]) = 3 := by
  decide

/-! ## Trees that are left as they are -/

section

-- What is needed of detupling is the same for all kinds of trees.
variable {Tree : Type} {detuple : String → Tree → Tree} {tuples : Tree → Nat}

/-- A tree stays as it is exactly if it holds no tuple, since no detupled tree holds one. -/
theorem detuple_eq_iff_tuples (hnone : ∀ typeName x, tuples (detuple typeName x) = 0)
    (hkeep : ∀ typeName x, tuples x = 0 → detuple typeName x = x) (typeName : String) (x : Tree) :
    detuple typeName x = x ↔ tuples x = 0 := by
  constructor
  · intro h
    rw [← h]
    exact hnone typeName x
  · exact hkeep typeName x

/-- A second detupling finds no tuple. -/
theorem detuple_again (hnone : ∀ typeName x, tuples (detuple typeName x) = 0)
    (hkeep : ∀ typeName x, tuples x = 0 → detuple typeName x = x) (x : Tree)
    (typeName other : String) : detuple other (detuple typeName x) = detuple typeName x :=
  (detuple_eq_iff_tuples hnone hkeep other _).2 (hnone typeName x)

end

/-- **Detupling leaves a tree as it is exactly if the tree holds no tuple.** So a second detupling
changes nothing, whatever the two type names are. -/
theorem detuple_eq_self_iff :
    (∀ (typeName : String) (e : Expr), e.detuple typeName = e ↔ e.tupleCount = 0) ∧
    (∀ (typeName : String) (s : Stmt), s.detuple typeName = s ↔ s.tupleCount = 0) ∧
    (∀ (typeName : String) (b : Block), b.detuple typeName = b ↔ b.tupleCount = 0) ∧
    (∀ (e : Expr) (typeName other : String),
      (e.detuple typeName).detuple other = e.detuple typeName) ∧
    (∀ (s : Stmt) (typeName other : String),
      (s.detuple typeName).detuple other = s.detuple typeName) ∧
    ∀ (b : Block) (typeName other : String),
      (b.detuple typeName).detuple other = b.detuple typeName := by
  refine ⟨?_, ?_, ?_, ?_, ?_, ?_⟩
  · exact detuple_eq_iff_tuples Expr.tupleCount_detuple Expr.detuple_of_tupleCount
  · exact detuple_eq_iff_tuples Stmt.tupleCount_detuple Stmt.detuple_of_tupleCount
  · exact detuple_eq_iff_tuples Stmt.tupleCountList_detupleList Stmt.detupleList_of_tupleCount
  · exact detuple_again Expr.tupleCount_detuple Expr.detuple_of_tupleCount
  · exact detuple_again Stmt.tupleCount_detuple Stmt.detuple_of_tupleCount
  · exact fun b typeName other => Block.detuple_detuple typeName other b

end Detuple
