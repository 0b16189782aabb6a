import Detuple.Layout.Plain
import Detuple.Layout.Print

/-!
# Proofs: laying programs out

The document of an expression writes the expression's plain text (`Expr.layOut_doc`). The document
of a statement adds the plain text of the statement at the indentation of the line; where that
leaves the column does not matter, since no line end depends on it (`Stmt.layOut_doc`). So the width
never enters into the canonical spelling (`Stmt.render_doc`).
-/

namespace Detuple

/-! ## Writing on a page -/

theorem Page.write_write (p : Page) (s t : String) : (p.write s).write t = p.write (s ++ t) := by
  simp [Page.write, String.append_assoc, Nat.add_assoc]

theorem Page.write_empty (p : Page) : p.write "" = p := by
  simp [Page.write]

@[simp]
theorem Page.text_write (p : Page) (s : String) : (p.write s).text = p.text ++ s := rfl

theorem pushn_eq_append (s : String) (c : Char) (n : Nat) :
    s.pushn c n = s ++ .ofList (List.replicate n c) := by
  rw [String.pushn_eq_repeat_push]
  induction n with
  | zero => simp [Nat.repeat]
  | succ n ih =>
    rw [Nat.repeat, ih, ← String.toList_inj]
    simp [List.replicate_succ']

@[simp]
theorem Page.text_newLine (p : Page) (indent : Nat) :
    (p.newLine indent).text = p.text ++ lineStart indent := by
  rw [Page.newLine, pushn_eq_append, lineStart]

section

variable (width : Nat) (flat : Bool) (indent : Nat)

@[simp]
theorem Doc.layOut_text (s : String) (p : Page) :
    (Doc.text s).layOut width flat indent p = p.write s := rfl

@[simp]
theorem Doc.layOut_append (a b : Doc) (p : Page) : (a ++ b).layOut width flat indent p =
    b.layOut width flat indent (a.layOut width flat indent p) := rfl

/-! ## Expressions -/

mutual

/-- An expression is written as its plain text, however wide the lines are. -/
theorem Expr.layOut_doc : ∀ (e : Expr) (p : Page),
    e.doc.layOut width flat indent p = p.write e.plain
  | .ident _, _ => rfl
  | .num _, _ => rfl
  | .tuple elements, p => by
    simp only [Expr.doc, Doc.layOut_append, Doc.layOut_text]
    rw [Expr.layOut_docItems elements, Page.write_write, Page.write_write, Expr.plain,
      String.append_assoc]
  | .new typeName args, p => by
    simp only [Expr.doc, Doc.layOut_append, Doc.layOut_text, Page.write_write]
    rw [Expr.layOut_docItems args, Page.write_write, Page.write_write, Expr.plain]
    simp only [String.append_assoc]

/-- Items are written with a comma and a blank between any two of them. -/
theorem Expr.layOut_docItems : ∀ (es : List Expr) (p : Page),
    (Expr.docItems es).layOut width flat indent p = p.write (", ".intercalate (Expr.plainList es))
  | [], p => by
    rw [Expr.plainList, String.intercalate_nil, Page.write_empty]
    rfl
  | e :: es, p => by
    rw [Expr.docItems, Doc.layOut_append, Expr.layOut_doc e p, Expr.layOut_docMore es,
      Expr.plainList]

/-- What stands before further items is part of the text of the first one. -/
theorem Expr.layOut_docMore : ∀ (es : List Expr) (first : String) (p : Page),
    (Expr.docMore es).layOut width flat indent (p.write first) =
      p.write (", ".intercalate (first :: Expr.plainList es))
  | [], first, p => by
    rw [Expr.plainList, String.intercalate_singleton]
    rfl
  | e :: es, first, p => by
    rw [Expr.docMore, Doc.layOut_append, Doc.layOut_append, Doc.layOut_text, Page.write_write,
      Expr.layOut_doc e, Page.write_write, Expr.layOut_docMore es, Expr.plainList,
      String.intercalate_cons_cons, String.intercalate_cons_append]

end

/-! ## Statements -/

mutual

/-- A statement is written as its plain text at the indentation of the line. -/
theorem Stmt.layOut_doc : ∀ (s : Stmt) (indent : Nat) (p : Page),
    (s.doc.layOut width flat indent p).text = p.text ++ s.plain indent
  | .var name init, indent, p => by
    simp only [Stmt.doc, Doc.layOut_append, Doc.layOut_text, Page.write_write]
    rw [Expr.layOut_doc, Page.write_write, Page.write_write, Page.text_write, Stmt.plain]
    simp only [String.append_assoc]
  | .ret value, indent, p => by
    simp only [Stmt.doc, Doc.layOut_append, Doc.layOut_text]
    rw [Expr.layOut_doc, Page.write_write, Page.write_write, Page.text_write, Stmt.plain,
      String.append_assoc]
  | .block statements, indent, p => by
    have hmembers := Stmt.layOut_docMembers statements (indent + 4) (p.write "\x7b")
    simp only [Stmt.doc, Doc.layOut_append, Doc.layOut, blockIndent,
      Page.text_write, Page.text_newLine, hmembers, Stmt.plain, String.append_assoc]

/-- The statements of a block are written as their plain texts, each on a new line at the
indentation of the block. -/
theorem Stmt.layOut_docMembers : ∀ (ss : List Stmt) (indent : Nat) (p : Page),
    ((Stmt.docMembers ss).layOut width flat indent p).text =
      p.text ++ String.join (Stmt.plainMembers indent ss)
  | [], _, p => String.append_empty.symm
  | s :: ss, indent, p => by
    simp only [Stmt.docMembers, Doc.layOut_append]
    rw [Stmt.layOut_docMembers ss, Stmt.layOut_doc s, Stmt.plainMembers, String.join_cons]
    simp only [Doc.layOut, Page.text_newLine, String.append_assoc]

end

end

/-- An expression is laid out as its plain text. -/
theorem Expr.render_doc (e : Expr) (width indent : Nat) :
    e.doc.render width indent = e.plain := by
  rw [Doc.render, Expr.layOut_doc, Page.text_write, String.empty_append]

/-- The canonical spelling does not depend on the width of the lines. -/
theorem Stmt.render_doc (s : Stmt) (width indent : Nat) :
    s.doc.render width indent = s.plain indent := by
  rw [Doc.render, Stmt.layOut_doc, String.empty_append]

/-- A program is spelled by its plain text. -/
theorem print_eq_plain (b : Block) : print b = Block.plain 0 b :=
  Stmt.render_doc (.block b) lineWidth 0

/-- **The documents of trees yield their plain texts**, on lines of any width, from any indentation
on, and whatever strings the trees hold. This is so in the midst of any other document too: behind
whatever has been written, nested by any depth, and whether or not soft line ends are blanks. -/
theorem render_eq_plain (width indent : Nat) :
    (∀ e : Expr, e.doc.render width indent = e.plain) ∧
      (∀ s : Stmt, s.doc.render width indent = s.plain indent) ∧
      (∀ b : Block, (Block.doc b).render width indent = Block.plain indent b) ∧
      ∀ (flat : Bool) (depth : Nat) (p : Page),
        (∀ e : Expr, ((Doc.nest depth e.doc).layOut width flat indent p).text =
          p.text ++ e.plain) ∧
        ∀ s : Stmt, ((Doc.nest depth s.doc).layOut width flat indent p).text =
          p.text ++ s.plain (indent + depth) := by
  refine ⟨fun e => e.render_doc width indent, fun s => s.render_doc width indent,
    fun b => Stmt.render_doc (.block b) width indent,
    fun flat depth p => ⟨fun e => ?_, fun s => ?_⟩⟩
  · rw [Doc.layOut, Expr.layOut_doc, Page.text_write]
  · rw [Doc.layOut, Stmt.layOut_doc]

/-- A line break within a name begins no line of the document. -/
example : (Stmt.block [.ret (.tuple [.ident "a\nb", .num "1"])]).doc.render 0 2 =
    "\x7b\n      return (a\nb, 1);\n  \x7d" := by
  rfl

end Detuple
