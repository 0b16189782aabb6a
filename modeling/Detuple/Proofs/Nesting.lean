import Detuple.Layout.Plain
import Detuple.Proofs.Layout

/-!
# Proofs: nesting and lines

Blanks in front of all lines of a text are blanks in front of the text and behind each of its line
feeds (`indentLines_eq`). What happens behind line feeds can be done part by part, and it deepens
the start of a new line and leaves a text without line feeds as it is. So the plain text of a
statement at one depth becomes that at another, line by line (`Stmt.shiftLines_plain`). Line feeds
are counted part by part too (`Stmt.lineFeeds_plain`).

A line feed within a string is copied and begins no line of the document, so all of this needs
strings that hold none.
-/

namespace Detuple

/-! ## Texts and their lines -/

/-- A property holds of all texts if it holds of every line and carries over to a text with one more
line in front. -/
@[elab_as_elim]
theorem lines_induction {motive : List Char → Prop}
    (line : ∀ first, '\n' ∉ first → motive first)
    (more : ∀ first rest, '\n' ∉ first → motive rest → motive (first ++ '\n' :: rest))
    (text : List Char) : motive text := by
  by_cases hmem : '\n' ∈ text
  · obtain ⟨first, rest, hsplit, hfirst⟩ := List.eq_append_cons_of_mem hmem
    have hshorter : rest.length < text.length := by
      rw [hsplit, List.length_append, List.length_cons]
      omega
    rw [hsplit]
    exact more first rest hfirst (lines_induction line more rest)
  · exact line text hmem
termination_by text.length

/-- A line feed separates the lines before it from those behind it. -/
theorem linesOf_append (a b : String) : linesOf (a ++ ("\n" ++ b)) = linesOf a ++ linesOf b := by
  have hchars : (a ++ ("\n" ++ b)).toList = a.toList ++ '\n' :: b.toList := by
    rw [String.toList_append, String.toList_append]
    rfl
  rw [linesOf, hchars, List.splitOn_append_cons_self, List.map_append, linesOf, linesOf]

/-- A text without a line feed is its own only line. -/
theorem linesOf_of_oneLine {text : String} (h : OneLine text) : linesOf text = [text] := by
  rw [linesOf, List.splitOn_eq_singleton h, List.map_singleton, String.ofList_toList]

/-- The number of line feeds in a text. -/
def lineFeeds (text : String) : Nat := text.toList.count '\n'

/-- A line feed stands behind every line but the last. -/
theorem length_linesOf (text : String) : (linesOf text).length = lineFeeds text + 1 := by
  rw [linesOf, List.length_map, lineFeeds]
  induction text.toList using lines_induction with
  | line first hfirst => rw [List.splitOn_eq_singleton hfirst, List.count_eq_zero.2 hfirst]; rfl
  | more first rest hfirst ih =>
    rw [List.splitOn_append_cons_self_of_not_mem hfirst, List.length_cons, ih, List.count_append,
      List.count_eq_zero.2 hfirst, List.count_cons_self, Nat.zero_add]

theorem lineFeeds_append (a b : String) : lineFeeds (a ++ b) = lineFeeds a + lineFeeds b := by
  rw [lineFeeds, String.toList_append, List.count_append, lineFeeds, lineFeeds]

theorem lineFeeds_of_oneLine {text : String} (h : OneLine text) : lineFeeds text = 0 :=
  List.count_eq_zero.2 h

theorem oneLine_append {a b : String} (ha : OneLine a) (hb : OneLine b) : OneLine (a ++ b) := by
  intro h
  rw [String.toList_append] at h
  rcases List.mem_append.1 h with h | h
  · exact ha h
  · exact hb h

/-! ## Lines further to the right -/

/-- A text with blanks behind each of its line feeds. -/
def shiftLines (number : Nat) (text : String) : String :=
  .ofList (text.toList.flatMap fun c => if c = '\n' then '\n' :: List.replicate number ' ' else [c])

/-- A text is shifted part by part. -/
theorem shiftLines_append (number : Nat) (a b : String) :
    shiftLines number (a ++ b) = shiftLines number a ++ shiftLines number b := by
  rw [shiftLines, String.toList_append, List.flatMap_append, String.ofList_append, shiftLines,
    shiftLines]

theorem flatMap_of_not_mem {number : Nat} {line : List Char} (h : '\n' ∉ line) :
    (line.flatMap fun c => if c = '\n' then '\n' :: List.replicate number ' ' else [c]) = line := by
  induction line with
  | nil => rfl
  | cons c cs ih =>
    rw [List.mem_cons, not_or] at h
    rw [List.flatMap_cons, if_neg (Ne.symm h.1), ih h.2, List.singleton_append]

/-- A text without a line feed is not shifted. -/
theorem shiftLines_of_oneLine {text : String} (h : OneLine text) (number : Nat) :
    shiftLines number text = text := by
  rw [shiftLines, flatMap_of_not_mem h, String.ofList_toList]

theorem blanks_add (m n : Nat) : blanks (m + n) = blanks n ++ blanks m := by
  rw [blanks, Nat.add_comm, ← List.replicate_append_replicate, String.ofList_append, blanks, blanks]

theorem oneLine_blanks (number : Nat) : OneLine (blanks number) := by
  intro h
  rw [blanks, String.toList_ofList] at h
  exact absurd (List.eq_of_mem_replicate h) (by decide)

theorem lineStart_eq (depth : Nat) : lineStart depth = "\n" ++ blanks depth := rfl

/-- The start of a new line becomes that of a line further to the right. -/
theorem shiftLines_lineStart (depth number : Nat) :
    shiftLines number (lineStart depth) = lineStart (depth + number) := by
  have hfeed : shiftLines number "\n" = "\n" ++ blanks number := by
    rw [shiftLines, ← String.toList_inj]
    simp [blanks]
  rw [lineStart_eq, shiftLines_append, shiftLines_of_oneLine (oneLine_blanks depth), hfeed,
    String.append_assoc, ← blanks_add]
  rfl

theorem lineFeeds_lineStart (depth : Nat) : lineFeeds (lineStart depth) = 1 := by
  rw [lineStart_eq, lineFeeds_append, lineFeeds_of_oneLine (oneLine_blanks depth)]
  rfl

/-- Blanks in front of a text and behind its line feeds stand in front of its lines. -/
theorem linesOf_shiftLines (number : Nat) (text : String) :
    linesOf (blanks number ++ shiftLines number text) =
      (linesOf text).map (blanks number ++ ·) := by
  have hblanks : '\n' ∉ List.replicate number ' ' := fun h =>
    absurd (List.eq_of_mem_replicate h) (by decide)
  have hchars : (List.replicate number ' ' ++ text.toList.flatMap
        fun c => if c = '\n' then '\n' :: List.replicate number ' ' else [c]).splitOn '\n' =
      (text.toList.splitOn '\n').map (List.replicate number ' ' ++ ·) := by
    induction text.toList using lines_induction with
    | line first hfirst =>
      rw [flatMap_of_not_mem hfirst, List.splitOn_eq_singleton hfirst, List.map_singleton,
        List.splitOn_eq_singleton]
      exact List.not_mem_append hblanks hfirst
    | more first rest hfirst ih =>
      rw [List.flatMap_append, flatMap_of_not_mem hfirst, List.flatMap_cons, if_pos rfl,
        List.cons_append, ← List.append_assoc,
        List.splitOn_append_cons_self_of_not_mem (List.not_mem_append hblanks hfirst), ih,
        List.splitOn_append_cons_self_of_not_mem hfirst, List.map_cons]
  rw [linesOf, String.toList_append, blanks, shiftLines, String.toList_ofList,
    String.toList_ofList, hchars, linesOf, List.map_map, List.map_map]
  exact List.map_congr_left fun line _ => String.ofList_append

/-- Put together, the lines of a text are the text. -/
theorem intercalate_linesOf (text : String) : "\n".intercalate (linesOf text) = text := by
  have hlines : (linesOf text).map String.toList = text.toList.splitOn '\n' := by
    simp [linesOf, Function.comp_def]
  rw [← String.toList_inj, String.toList_intercalate, hlines]
  exact List.intercalate_splitOn '\n'

/-- Blanks in front of all lines stand in front of the text and behind its line feeds. -/
theorem indentLines_eq (number : Nat) (text : String) :
    indentLines number text = blanks number ++ shiftLines number text := by
  rw [indentLines, ← linesOf_shiftLines, intercalate_linesOf]

/-! ## Programs -/

/-- Texts with commas between them fill one line if each of them does. -/
theorem oneLine_intercalate {texts : List String} (h : ∀ text ∈ texts, OneLine text) :
    OneLine (", ".intercalate texts) := by
  induction texts with
  | nil => decide
  | cons text texts ih =>
    have hrest := ih fun text' htext' => h text' (List.mem_cons_of_mem _ htext')
    have htext := h text List.mem_cons_self
    cases texts with
    | nil =>
      rw [String.intercalate_singleton]
      exact htext
    | cons text' texts =>
      rw [String.intercalate_cons_cons]
      exact oneLine_append (oneLine_append htext (by decide)) hrest

mutual

/-- An expression fills no more than the line that it stands on. -/
theorem Expr.oneLine_plain : ∀ e : Expr, e.Spelled OneLine OneLine OneLine → OneLine e.plain
  | .ident _, h => h
  | .num _, h => h
  | .tuple elements, h => by
    have helements := oneLine_intercalate (Expr.oneLine_plainList elements h)
    exact oneLine_append (oneLine_append (by decide) helements) (by decide)
  | .new typeName args, h => by
    have hargs := oneLine_intercalate (Expr.oneLine_plainList args h.2)
    have hnew : OneLine ("new " ++ typeName ++ "(") :=
      oneLine_append (oneLine_append (by decide) h.1) (by decide)
    exact oneLine_append (oneLine_append hnew hargs) (by decide)

theorem Expr.oneLine_plainList : ∀ es : List Expr, Expr.SpelledList OneLine OneLine OneLine es →
    ∀ text ∈ Expr.plainList es, OneLine text
  | [], _, _, htext => nomatch htext
  | e :: es, h, text, htext => by
    rcases List.mem_cons.1 htext with rfl | htext
    · exact Expr.oneLine_plain e h.1
    · exact Expr.oneLine_plainList es h.2 text htext

end

/-- A statement other than a block fills one line. -/
theorem Stmt.oneLine_plain {s : Stmt} (h : s.Spelled OneLine OneLine OneLine)
    (hleaf : s.blockCount = 0) (depth : Nat) : OneLine (s.plain depth) := by
  cases s with
  | var name init =>
    have hinit := Expr.oneLine_plain init h.2
    have hvar : OneLine ("var " ++ name ++ " = ") :=
      oneLine_append (oneLine_append (by decide) h.1) (by decide)
    exact oneLine_append (oneLine_append hvar hinit) (by decide)
  | ret value =>
    have hvalue := Expr.oneLine_plain value h
    exact oneLine_append (oneLine_append (by decide) hvalue) (by decide)
  | block statements =>
    rw [Stmt.blockCount] at hleaf
    omega

section

variable (number : Nat)

mutual

/-- A statement that is nested deeper is the same, with all lines but the first moved further. -/
theorem Stmt.shiftLines_plain : ∀ s : Stmt, s.Spelled OneLine OneLine OneLine → ∀ depth : Nat,
    shiftLines number (s.plain depth) = s.plain (depth + number)
  | .var name init, h, depth => shiftLines_of_oneLine (Stmt.oneLine_plain h rfl depth) number
  | .ret value, h, depth => shiftLines_of_oneLine (Stmt.oneLine_plain h rfl depth) number
  | .block statements, h, depth => by
    have hopen : OneLine "\x7b" := by decide
    have hclose : OneLine "\x7d" := by decide
    rw [Stmt.plain, shiftLines_append, shiftLines_append, shiftLines_append,
      shiftLines_of_oneLine hopen, shiftLines_of_oneLine hclose, shiftLines_lineStart,
      Stmt.shiftLines_plainMembers statements h, Nat.add_right_comm, Stmt.plain]

/-- The statements of a block that is nested deeper are moved to the right, line by line. -/
theorem Stmt.shiftLines_plainMembers : ∀ ss : List Stmt,
    Stmt.SpelledList OneLine OneLine OneLine ss → ∀ depth : Nat,
      shiftLines number (String.join (Stmt.plainMembers depth ss)) =
        String.join (Stmt.plainMembers (depth + number) ss)
  | [], _, _ => rfl
  | s :: ss, h, depth => by
    rw [Stmt.plainMembers, Stmt.plainMembers, String.join_cons, String.join_cons,
      shiftLines_append, shiftLines_append, shiftLines_lineStart, Stmt.shiftLines_plain s h.1,
      Stmt.shiftLines_plainMembers ss h.2]

end

end

mutual

/-- A block takes two lines more than the statements in it, and any other statement takes one. -/
theorem Stmt.lineFeeds_plain : ∀ s : Stmt, s.Spelled OneLine OneLine OneLine → ∀ depth : Nat,
    lineFeeds (s.plain depth) + 1 = 2 * s.blockCount + s.leafCount
  | .var name init, h, depth => by
    rw [lineFeeds_of_oneLine (Stmt.oneLine_plain h rfl depth)]
    rfl
  | .ret value, h, depth => by
    rw [lineFeeds_of_oneLine (Stmt.oneLine_plain h rfl depth)]
    rfl
  | .block statements, h, depth => by
    have hopen : lineFeeds "\x7b" = 0 := by decide
    have hclose : lineFeeds "\x7d" = 0 := by decide
    rw [Stmt.plain, lineFeeds_append, lineFeeds_append, lineFeeds_append, hopen, hclose,
      lineFeeds_lineStart, Stmt.lineFeeds_plainMembers statements h, Stmt.blockCount,
      Stmt.leafCount]
    omega

/-- The lines of the statements of a block add up. -/
theorem Stmt.lineFeeds_plainMembers : ∀ ss : List Stmt,
    Stmt.SpelledList OneLine OneLine OneLine ss → ∀ depth : Nat,
      lineFeeds (String.join (Stmt.plainMembers depth ss)) =
        2 * Stmt.blockCountList ss + Stmt.leafCountList ss
  | [], _, _ => rfl
  | s :: ss, h, depth => by
    have hs := Stmt.lineFeeds_plain s h.1 depth
    have hss := Stmt.lineFeeds_plainMembers ss h.2 depth
    rw [Stmt.plainMembers, String.join_cons, lineFeeds_append, lineFeeds_append,
      lineFeeds_lineStart, hss, Stmt.blockCountList, Stmt.leafCountList]
    omega

end

/-- The members of a block are printed by themselves and moved to the right. -/
theorem Stmt.plainMembers_eq_map {ss : List Stmt} (h : Stmt.SpelledList OneLine OneLine OneLine ss)
    (depth : Nat) : Stmt.plainMembers depth ss =
      ss.map fun s => "\n" ++ indentLines depth (s.plain 0) := by
  induction ss with
  | nil => rfl
  | cons s ss ih =>
    rw [Stmt.plainMembers, List.map_cons, ih h.2, indentLines_eq, Stmt.shiftLines_plain depth s h.1,
      Nat.zero_add, lineStart_eq, String.append_assoc]

/-- A program is spelled by its braces and its statements in between, each printed by itself and
moved to the right. -/
theorem print_eq_members {b : Block} (h : b.OneLineStrings) : print b = "\x7b" ++
    String.join (b.map fun s => "\n" ++ indentLines 4 (s.doc.render lineWidth 0)) ++ "\n\x7d" := by
  have hplain : print b = "\x7b" ++ String.join (Stmt.plainMembers 4 b) ++ lineStart 0 ++ "\x7d" :=
    print_eq_plain b
  simp only [Stmt.render_doc]
  rw [hplain, Stmt.plainMembers_eq_map h, String.append_assoc]
  rfl

/-- The lines of a nested block are those of the block, moved, between two more. -/
theorem linesOf_print_nested {b : Block} (h : b.OneLineStrings) : linesOf (print [.block b]) =
    "\x7b" :: ((linesOf (print b)).map (blanks 4 ++ ·) ++ ["\x7d"]) := by
  have hnested : Block.OneLineStrings [.block b] := ⟨h, trivial⟩
  have hopen : linesOf "\x7b" = ["\x7b"] := linesOf_of_oneLine (by decide)
  have hclose : linesOf "\x7d" = ["\x7d"] := linesOf_of_oneLine (by decide)
  have hprint : print [.block b] =
      "\x7b" ++ ("\n" ++ (indentLines 4 (print b) ++ ("\n" ++ "\x7d"))) := by
    rw [print_eq_members hnested, List.map_singleton, String.join_cons, String.append_assoc,
      String.append_assoc, String.append_assoc]
    rfl
  rw [hprint, linesOf_append, linesOf_append, indentLines_eq, linesOf_shiftLines, hopen, hclose]
  rfl

/-- **Nesting only moves lines to the right**, in a program whose strings hold no line feed. The
spelling of a block consists of its braces and of the spellings of its statements, each on new lines
that are four blanks further to the right; so the lines of a block within a block are its own lines,
moved, between two more. There are two lines for each block, and one for each other statement. -/
theorem print_moves_lines {b : Block} (h : b.OneLineStrings) :
    print b = "\x7b" ++
        String.join (b.map fun s => "\n" ++ indentLines 4 (s.doc.render lineWidth 0)) ++
        "\n\x7d" ∧
      linesOf (print [.block b]) =
        "\x7b" :: ((linesOf (print b)).map (blanks 4 ++ ·) ++ ["\x7d"]) ∧
      (linesOf (print b)).length = 2 * (Stmt.block b).blockCount + (Stmt.block b).leafCount := by
  refine ⟨print_eq_members h, linesOf_print_nested h, ?_⟩
  rw [length_linesOf, print_eq_plain, Stmt.lineFeeds_plain (.block b) h]

/-- A line feed within a name begins a line that is not moved. -/
example : linesOf (print [.block [.ret (.ident "a\nb")]]) =
    ["\x7b", "    \x7b", "        return a", "b;", "    \x7d", "\x7d"] := by
  decide +kernel

/-- An empty block and a statement, nested once more. -/
theorem print_moves_lines_nested :
    Block.OneLineStrings [.block [], .ret (.tuple [.ident "x", .num "1"])] ∧
      linesOf (print [.block [.block [], .ret (.tuple [.ident "x", .num "1"])]]) =
        ["\x7b", "    \x7b", "        \x7b", "        \x7d", "        return (x, 1);", "    \x7d",
          "\x7d"] ∧
      (linesOf (print [.block [], .ret (.tuple [.ident "x", .num "1"])])).length = 5 := by
  have hname : OneLine "x" := by decide
  have hnumber : OneLine "1" := by decide
  have h : Block.OneLineStrings [.block [], .ret (.tuple [.ident "x", .num "1"])] :=
    ⟨trivial, ⟨hname, hnumber, trivial⟩, trivial⟩
  obtain ⟨-, hlines, hlength⟩ := print_moves_lines h
  exact ⟨h, hlines.trans (by decide +kernel), hlength⟩

end Detuple
