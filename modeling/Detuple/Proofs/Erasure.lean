import Detuple.Detupling
import Detuple.Proofs.Stability

/-!
# Proofs: erasing constructor calls

Detupling to a type and erasing the calls of its constructor go back and forth between the tuples
and these calls, and touch nothing else. Whichever is done last settles the tree: detupling does not
notice that calls have been erased (`Stmt.detupleList_eraseList`), and erasing does not notice that
tuples have been turned into calls (`Stmt.eraseList_detupleList`). So a detupled tree is the one
tree without tuples that has the same erasure, and a tree in which there were no calls of the
constructor is recovered by erasing them.
-/

namespace Detuple

/-! ## Back and forth -/

section

variable (typeName : String)

mutual

/-- Erased calls in an expression come back as calls. -/
theorem Expr.detuple_erase : ∀ e : Expr, (e.erase typeName).detuple typeName = e.detuple typeName
  | .ident _ => rfl
  | .num _ => rfl
  | .tuple elements => by
    rw [Expr.erase, Expr.detuple, Expr.detuple, Expr.detupleList_eraseList elements]
  | .new ownType args => by
    rw [Expr.erase]
    by_cases hown : ownType = typeName
    · rw [if_pos hown, Expr.detuple, Expr.detuple, Expr.detupleList_eraseList args, hown]
    · rw [if_neg hown, Expr.detuple, Expr.detuple, Expr.detupleList_eraseList args]

theorem Expr.detupleList_eraseList : ∀ es : List Expr,
    Expr.detupleList typeName (Expr.eraseList typeName es) = Expr.detupleList typeName es
  | [] => rfl
  | e :: es => by
    rw [Expr.eraseList, Expr.detupleList, Expr.detupleList, Expr.detuple_erase e,
      Expr.detupleList_eraseList es]

end

mutual

theorem Stmt.detuple_erase : ∀ s : Stmt, (s.erase typeName).detuple typeName = s.detuple typeName
  | .var name init => by rw [Stmt.erase, Stmt.detuple, Stmt.detuple, Expr.detuple_erase]
  | .ret value => by rw [Stmt.erase, Stmt.detuple, Stmt.detuple, Expr.detuple_erase]
  | .block statements => by
    rw [Stmt.erase, Stmt.detuple, Stmt.detuple, Stmt.detupleList_eraseList statements]

/-- Erased calls come back as calls, together with the tuples. -/
theorem Stmt.detupleList_eraseList : ∀ ss : List Stmt,
    Stmt.detupleList typeName (Stmt.eraseList typeName ss) = Stmt.detupleList typeName ss
  | [] => rfl
  | s :: ss => by
    rw [Stmt.eraseList, Stmt.detupleList, Stmt.detupleList, Stmt.detuple_erase s,
      Stmt.detupleList_eraseList ss]

end

mutual

/-- An expression and the detupled expression have the same erasure. -/
theorem Expr.erase_detuple : ∀ e : Expr, (e.detuple typeName).erase typeName = e.erase typeName
  | .ident _ => rfl
  | .num _ => rfl
  | .tuple elements => by
    rw [Expr.detuple, Expr.erase, Expr.erase, if_pos rfl, Expr.eraseList_detupleList elements]
  | .new ownType args => by
    rw [Expr.detuple, Expr.erase, Expr.erase, Expr.eraseList_detupleList args]

theorem Expr.eraseList_detupleList : ∀ es : List Expr,
    Expr.eraseList typeName (Expr.detupleList typeName es) = Expr.eraseList typeName es
  | [] => rfl
  | e :: es => by
    rw [Expr.detupleList, Expr.eraseList, Expr.eraseList, Expr.erase_detuple e,
      Expr.eraseList_detupleList es]

end

mutual

theorem Stmt.erase_detuple : ∀ s : Stmt, (s.detuple typeName).erase typeName = s.erase typeName
  | .var name init => by rw [Stmt.detuple, Stmt.erase, Stmt.erase, Expr.erase_detuple]
  | .ret value => by rw [Stmt.detuple, Stmt.erase, Stmt.erase, Expr.erase_detuple]
  | .block statements => by
    rw [Stmt.detuple, Stmt.erase, Stmt.erase, Stmt.eraseList_detupleList statements]

/-- A tree and the detupled tree have the same erasure. -/
theorem Stmt.eraseList_detupleList : ∀ ss : List Stmt,
    Stmt.eraseList typeName (Stmt.detupleList typeName ss) = Stmt.eraseList typeName ss
  | [] => rfl
  | s :: ss => by
    rw [Stmt.detupleList, Stmt.eraseList, Stmt.eraseList, Stmt.erase_detuple s,
      Stmt.eraseList_detupleList ss]

end

/-! ## Trees without calls of the constructor -/

mutual

/-- An expression without calls of the constructor stays as it is. -/
theorem Expr.erase_of_callCount : ∀ e : Expr, e.callCount typeName = 0 → e.erase typeName = e
  | .ident _, _ => rfl
  | .num _, _ => rfl
  | .tuple elements, h => by rw [Expr.erase, Expr.eraseList_of_callCount elements h]
  | .new ownType args, h => by
    rw [Expr.callCount] at h
    obtain ⟨hown, hargs⟩ := Nat.add_eq_zero_iff.1 h
    have hother : ownType ≠ typeName := by
      intro heq
      rw [if_pos heq] at hown
      cases hown
    rw [Expr.erase, if_neg hother, Expr.eraseList_of_callCount args hargs]

theorem Expr.eraseList_of_callCount : ∀ es : List Expr, Expr.callCountList typeName es = 0 →
    Expr.eraseList typeName es = es
  | [], _ => rfl
  | e :: es, h => by
    obtain ⟨he, hes⟩ := Nat.add_eq_zero_iff.1 h
    rw [Expr.eraseList, Expr.erase_of_callCount e he, Expr.eraseList_of_callCount es hes]

end

mutual

theorem Stmt.erase_of_callCount : ∀ s : Stmt, s.callCount typeName = 0 → s.erase typeName = s
  | .var name init, h => by rw [Stmt.erase, Expr.erase_of_callCount typeName init h]
  | .ret value, h => by rw [Stmt.erase, Expr.erase_of_callCount typeName value h]
  | .block statements, h => by rw [Stmt.erase, Stmt.eraseList_of_callCount statements h]

/-- A tree without calls of the constructor stays as it is when they are erased. -/
theorem Stmt.eraseList_of_callCount : ∀ ss : List Stmt, Stmt.callCountList typeName ss = 0 →
    Stmt.eraseList typeName ss = ss
  | [], _ => rfl
  | s :: ss, h => by
    obtain ⟨hs, hss⟩ := Nat.add_eq_zero_iff.1 h
    rw [Stmt.eraseList, Stmt.erase_of_callCount s hs, Stmt.eraseList_of_callCount ss hss]

end

end

/-! ## The detupled tree -/

section

-- What is needed of the two functions is the same for all kinds of trees.
variable {Tree : Type} {detuple erase : Tree → Tree} {tuples calls : Tree → Nat}

/-- The detupled tree is the one tree without tuples that has the same erasure. -/
theorem detuple_unique (hnone : ∀ x, tuples (detuple x) = 0)
    (hkeep : ∀ x, tuples x = 0 → detuple x = x) (hcalls : ∀ x, detuple (erase x) = detuple x)
    (htuples : ∀ x, erase (detuple x) = erase x) (x y : Tree) :
    detuple x = y ↔ tuples y = 0 ∧ erase y = erase x := by
  constructor
  · rintro rfl
    exact ⟨hnone x, htuples x⟩
  · rintro ⟨hzero, herase⟩
    calc detuple x = detuple (erase x) := (hcalls x).symm
      _ = detuple (erase y) := by rw [herase]
      _ = detuple y := hcalls y
      _ = y := hkeep y hzero

/-- Trees without calls of the constructor are recovered by erasing. -/
theorem detuple_injective (hkeep : ∀ x, calls x = 0 → erase x = x)
    (htuples : ∀ x, erase (detuple x) = erase x) (x y : Tree) (hx : calls x = 0) (hy : calls y = 0)
    (h : detuple x = detuple y) : x = y :=
  calc x = erase x := (hkeep x hx).symm
    _ = erase (detuple x) := (htuples x).symm
    _ = erase (detuple y) := by rw [h]
    _ = erase y := htuples y
    _ = y := hkeep y hy

end

/-- **A detupled tree is the only tree that holds no tuple and has the same erasure** as the tree it
comes from, for expressions, statements and blocks alike. So nothing but the tuples is changed, and
trees without calls of the constructor of the type are told apart by the trees they are detupled
to. -/
theorem detuple_eq_iff_erase (typeName : String) :
    (∀ e e' : Expr, e.detuple typeName = e' ↔
      e'.tupleCount = 0 ∧ e'.erase typeName = e.erase typeName) ∧
    (∀ s s' : Stmt, s.detuple typeName = s' ↔
      s'.tupleCount = 0 ∧ s'.erase typeName = s.erase typeName) ∧
    (∀ b b' : Block, b.detuple typeName = b' ↔
      b'.tupleCount = 0 ∧ b'.erase typeName = b.erase typeName) ∧
    (∀ e e' : Expr, e.callCount typeName = 0 → e'.callCount typeName = 0 →
      e.detuple typeName = e'.detuple typeName → e = e') ∧
    (∀ s s' : Stmt, s.callCount typeName = 0 → s'.callCount typeName = 0 →
      s.detuple typeName = s'.detuple typeName → s = s') ∧
    (∀ b b' : Block, b.callCount typeName = 0 → b'.callCount typeName = 0 →
      b.detuple typeName = b'.detuple typeName → b = b') := by
  refine ⟨?_, ?_, ?_, ?_, ?_, ?_⟩
  · exact detuple_unique (Expr.tupleCount_detuple typeName) (Expr.detuple_of_tupleCount typeName)
      (Expr.detuple_erase typeName) (Expr.erase_detuple typeName)
  · exact detuple_unique (Stmt.tupleCount_detuple typeName) (Stmt.detuple_of_tupleCount typeName)
      (Stmt.detuple_erase typeName) (Stmt.erase_detuple typeName)
  · exact detuple_unique (Stmt.tupleCountList_detupleList typeName)
      (Stmt.detupleList_of_tupleCount typeName) (Stmt.detupleList_eraseList typeName)
      (Stmt.eraseList_detupleList typeName)
  · exact detuple_injective (Expr.erase_of_callCount typeName) (Expr.erase_detuple typeName)
  · exact detuple_injective (Stmt.erase_of_callCount typeName) (Stmt.erase_detuple typeName)
  · exact detuple_injective (Stmt.eraseList_of_callCount typeName)
      (Stmt.eraseList_detupleList typeName)

/-- A tuple within a call of the same constructor, and blocks that detupling confuses or tells
apart. -/
theorem detuple_eq_iff_erase_same_type :
    Expr.detuple "P" (.new "P" [.tuple [.num "1"]]) = .new "P" [.new "P" [.num "1"]] ∧
      Block.detuple "P" [.ret (.tuple [])] = Block.detuple "P" [.ret (.new "P" [])] ∧
      Block.detuple "P" [.ret (.tuple [])] ≠ Block.detuple "P" [.ret (.tuple [.tuple []])] := by
  obtain ⟨hexpr, -, hblock, -, -, hinjective⟩ := detuple_eq_iff_erase "P"
  refine ⟨(hexpr _ _).2 ⟨by decide, by decide⟩, (hblock _ _).2 ⟨by decide, by decide⟩, fun h => ?_⟩
  have hsame : [Stmt.ret (.tuple [])] = [.ret (.tuple [.tuple []])] :=
    hinjective _ _ (by decide) (by decide) h
  cases hsame

end Detuple
