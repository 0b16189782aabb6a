import Detuple.Command.Seen
import Detuple.Proofs.ExitCode

/-!
# Proofs: what is asked

The lines of an input are told by its line feeds alone (`existsUnique_cutInLines`), and what is said
while a question is asked by the lines in front of the first answer that will do (`ask_cases`).

Each file either needs no name of the type, or holds a program and needs one (`Naming`). A name that
is known is the one that is used, and it stays (`Naming.of_known`); if none is known, the first file
that needs one has it asked for (`Naming.of_unknown`). Along a run this gives at most one place
where the question comes up (`Runs.of_known`, `Runs.of_unknown`).
-/

namespace Detuple.Command

/-! ## Lines -/

section

variable {byte : UInt8} {bytes line : List UInt8} {lines : List (List UInt8)}

/-- A line feed at the front is a line by itself. -/
theorem cutLines_feed (bytes : List UInt8) : cutLines (10 :: bytes) = [10] :: cutLines bytes := rfl

theorem cutLines_end (byte : UInt8) : cutLines [byte] = [[byte]] := by
  rw [cutLines, cutLines]
  cases byte == 10 <;> rfl

/-- Any other byte joins the line that comes next. -/
theorem cutLines_join (hbyte : byte ≠ 10) (h : cutLines bytes = line :: lines) :
    cutLines (byte :: bytes) = (byte :: line) :: lines := by
  rw [cutLines, h, beq_eq_false_iff_ne.2 hbyte]

/-- A line is cut off the front of what stands behind it. -/
theorem cutLines_append (hline : line ≠ []) (hfeed : 10 ∉ line.dropLast)
    (hend : bytes ≠ [] → line.getLast? = some 10) :
    cutLines (line ++ bytes) = line :: cutLines bytes := by
  induction line with
  | nil => exact absurd rfl hline
  | cons byte rest ih =>
    cases rest with
    | nil =>
      by_cases hbytes : bytes = []
      · subst hbytes
        exact cutLines_end byte
      · obtain rfl : byte = 10 := Option.some.inj (hend hbytes)
        exact cutLines_feed bytes
    | cons byte' rest =>
      rw [List.dropLast_cons_cons, List.mem_cons, not_or] at hfeed
      rw [List.getLast?_cons_cons] at hend
      exact cutLines_join (Ne.symm hfeed.1) (ih (List.cons_ne_nil _ _) hfeed.2 hend)

/-- The first line of a cut goes up to the first line feed, or else is all there is, and the other
lines are a cut of what stands behind it. -/
theorem cutInLines_cons_iff : CutInLines bytes (line :: lines) ↔
    bytes = line ++ lines.flatten ∧ line ≠ [] ∧ 10 ∉ line.dropLast ∧
      (lines.flatten ≠ [] → line.getLast? = some 10) ∧ CutInLines lines.flatten lines := by
  constructor
  · rintro ⟨hflatten, hlines, hended⟩
    obtain ⟨hline, hfeed⟩ := hlines line List.mem_cons_self
    refine ⟨hflatten.symm, hline, hfeed, fun hne => ?_, rfl, fun other hother => ?_,
      fun other hother => ?_⟩
    · cases lines with
      | nil => exact absurd rfl hne
      | cons next lines => exact hended line List.mem_cons_self
    · exact hlines other (List.mem_cons_of_mem _ hother)
    · cases lines with
      | nil => cases hother
      | cons next lines => exact hended other (List.mem_cons_of_mem _ hother)
  · rintro ⟨rfl, hline, hfeed, hend, hlines⟩
    refine ⟨rfl, List.forall_mem_cons.2 ⟨⟨hline, hfeed⟩, hlines.line⟩, fun other hother => ?_⟩
    cases lines with
    | nil => cases hother
    | cons next lines =>
      rcases List.mem_cons.1 hother with rfl | hother
      · refine hend fun hnil => ?_
        exact (hlines.line next List.mem_cons_self).1 (List.append_eq_nil_iff.1 hnil).1
      · exact hlines.ended other hother

/-- Any cut of some bytes is the one that is computed. -/
theorem CutInLines.eq_cutLines (h : CutInLines bytes lines) : lines = cutLines bytes := by
  induction lines generalizing bytes with
  | nil => rw [← h.flatten]; rfl
  | cons line lines ih =>
    obtain ⟨rfl, hline, hfeed, hend, hlines⟩ := cutInLines_cons_iff.1 h
    rw [cutLines_append hline hfeed hend, ← ih hlines]

/-- The lines that are computed are a cut of the bytes. -/
theorem cutInLines_cutLines (bytes : List UInt8) : CutInLines bytes (cutLines bytes) := by
  induction bytes with
  | nil => exact ⟨rfl, nofun, nofun⟩
  | cons byte bytes ih =>
    by_cases hbyte : byte = 10
    · subst hbyte
      rw [cutLines_feed]
      refine cutInLines_cons_iff.2 ⟨?_, List.cons_ne_nil _ _, nofun, fun _ => rfl, ?_⟩
      · rw [ih.flatten]
        rfl
      · rw [ih.flatten]
        exact ih
    · -- Any other byte joins the line behind it, if there is one.
      cases hlines : cutLines bytes with
      | nil =>
        obtain rfl : [] = bytes := by rw [← ih.flatten, hlines]; rfl
        rw [cutLines_end]
        exact cutInLines_cons_iff.2
          ⟨rfl, List.cons_ne_nil _ _, nofun, fun h => absurd rfl h, rfl, nofun, nofun⟩
      | cons line lines =>
        rw [hlines] at ih
        obtain ⟨hbytes, hline, hfeed, hend, htail⟩ := cutInLines_cons_iff.1 ih
        rw [cutLines_join hbyte hlines]
        refine cutInLines_cons_iff.2 ⟨?_, List.cons_ne_nil _ _, ?_, fun hne => ?_, htail⟩
        · rw [hbytes]
          rfl
        · rw [List.dropLast_cons_of_ne_nil hline, List.mem_cons, not_or]
          exact ⟨Ne.symm hbyte, hfeed⟩
        · rw [List.getLast?_cons_of_ne_nil hline]
          exact hend hne

/-- There is one way to cut bytes into lines, which is how an input is cut. -/
theorem existsUnique_cutInLines (bytes : ByteArray) :
    (∃! lines, CutInLines bytes.data.toList lines) ∧
      ∀ lines, CutInLines bytes.data.toList lines →
        Lines.ofBytes bytes = lines.map fun line => String.fromUTF8? ⟨line.toArray⟩ := by
  refine ⟨⟨_, cutInLines_cutLines _, fun _ h => h.eq_cutLines⟩, fun lines h => ?_⟩
  rw [h.eq_cutLines]
  rfl

end

/-! ## One question -/

section

variable {question text : String} {willDo : String → Bool} {input : Lines}

/-- A question is asked until there is an answer that will do, or no line with an answer. -/
theorem ask_cases (question : String) (willDo : String → Bool) (input : Lines) :
    ∃ refused : List String, (∀ text ∈ refused, willDo (trimBlanks text) = false) ∧
      ((∃ line unread, input = refused.map some ++ some line :: unread ∧
          willDo (trimBlanks line) = true ∧
          ask question willDo input =
            ⟨some (trimBlanks line), complaints question refused ++ [question], unread⟩) ∨
        ∃ unread, (input = refused.map some ∧ unread = [] ∨
            input = refused.map some ++ none :: unread) ∧
          ask question willDo input =
            ⟨none, complaints question refused ++ [question, "\n"], unread⟩) := by
  induction input with
  | nil => exact ⟨[], nofun, Or.inr ⟨[], Or.inl ⟨rfl, rfl⟩, rfl⟩⟩
  | cons line lines ih =>
    cases line with
    | none => exact ⟨[], nofun, Or.inr ⟨lines, Or.inr rfl, rfl⟩⟩
    | some line =>
      rw [ask]
      by_cases hdo : willDo (trimBlanks line) = true
      · rw [if_pos hdo]
        exact ⟨[], nofun, Or.inl ⟨line, lines, rfl, hdo, rfl⟩⟩
      · rw [if_neg hdo]
        obtain ⟨refused, hrefused, hlater⟩ := ih
        refine ⟨line :: refused, List.forall_mem_cons.2 ⟨Bool.eq_false_iff.2 hdo, hrefused⟩, ?_⟩
        rcases hlater with ⟨line', unread, rfl, hdo', hask⟩ | ⟨unread, hinput, hask⟩
        · exact Or.inl ⟨line', unread, rfl, hdo', by rw [hask]; rfl⟩
        · refine Or.inr ⟨unread, ?_, by rw [hask]; rfl⟩
          rcases hinput with ⟨rfl, rfl⟩ | rfl
          · exact Or.inl ⟨rfl, rfl⟩
          · exact Or.inr rfl

/-- The first answer that will do is taken, and no line behind it is read. -/
theorem ask_of_answers (h : input.Answers willDo) (question : String) :
    ∃ (refused : List String) (line : String) (unread : Lines),
      input = refused.map some ++ some line :: unread ∧
      (∀ text ∈ refused, willDo (trimBlanks text) = false) ∧ willDo (trimBlanks line) = true ∧
      ask question willDo input =
        ⟨some (trimBlanks line), complaints question refused ++ [question], unread⟩ := by
  obtain ⟨refused, hrefused, ⟨line, unread, hinput, hdo, hask⟩ | ⟨unread, -, hask⟩⟩ :=
    ask_cases question willDo input
  · exact ⟨refused, line, unread, hinput, hrefused, hdo, hask⟩
  · have hanswer := (ask_answer_iff question willDo input).2 h
    rw [hask] at hanswer
    exact absurd rfl hanswer

/-- Without an answer that will do, all lines are read up to the end, or up to the first that is no
text. -/
theorem ask_of_not_answers (h : ¬input.Answers willDo) (question : String) :
    ∃ (refused : List String) (unread : Lines),
      (input = refused.map some ∧ unread = [] ∨ input = refused.map some ++ none :: unread) ∧
      (∀ text ∈ refused, willDo (trimBlanks text) = false) ∧
      ask question willDo input =
        ⟨none, complaints question refused ++ [question, "\n"], unread⟩ := by
  obtain ⟨refused, hrefused, ⟨line, unread, hinput, hdo, -⟩ | ⟨unread, hinput, hask⟩⟩ :=
    ask_cases question willDo input
  · exact absurd ⟨refused, line, unread, hinput, hdo⟩ h
  · exact ⟨refused, unread, hinput, hrefused, hask⟩

/-- Nothing is said but the question, complaints and a line feed. -/
theorem mem_said_ask (h : text ∈ (ask question willDo input).said) :
    text = question ∨ (∃ answer, text = complaint answer) ∨ text = "\n" := by
  have hmem : ∀ refused : List String, text ∈ complaints question refused →
      text = question ∨ ∃ answer, text = complaint answer := by
    intro refused hcomplaints
    obtain ⟨line, -, htext⟩ := List.mem_flatMap.1 hcomplaints
    rcases List.mem_cons.1 htext with hquestion | hcomplaint
    · exact Or.inl hquestion
    · exact Or.inr ⟨_, List.mem_singleton.1 hcomplaint⟩
  obtain ⟨refused, -, ⟨_, _, -, -, hask⟩ | ⟨_, -, hask⟩⟩ := ask_cases question willDo input
  · rw [hask, List.mem_append, List.mem_singleton] at h
    rcases h with hcomplaints | hquestion
    · exact (hmem refused hcomplaints).imp_right Or.inl
    · exact Or.inl hquestion
  · rw [hask, List.mem_append, List.mem_cons, List.mem_singleton] at h
    rcases h with hcomplaints | hquestion | hfeed
    · exact (hmem refused hcomplaints).imp_right Or.inl
    · exact Or.inl hquestion
    · exact Or.inr (Or.inr hfeed)

end

/-! ## Actions among which the question does not come up -/

section

variable {fs : FileSystem} {paths : List String} {known known' : Option String} {name : String}
  {action : Action} {actions actions' : List Action}

/-- A line is not the question. -/
theorem say_ne_typeQuestion {feed : String} (h : feed.toList.getLast? = some '\n') (text : String) :
    Action.say (text ++ feed) ≠ typeQuestion := by
  intro hsay
  have hlast := congrArg (fun text => text.toList.getLast?) (Action.say.inj hsay)
  simp only [String.toList_append, List.getLast?_append, h, Option.some_or] at hlast
  exact absurd hlast (by decide)

/-- A report is not the question. -/
theorem refuse_ne_typeQuestion (path source : String) (e : ParseError) :
    refuse path source e ≠ typeQuestion := by
  rw [refuse]
  cases Report.ofError? path source e with
  | some r => exact nofun
  | none => exact say_ne_typeQuestion (by decide) _

/-- A report uses no name. -/
theorem uses_refuse (path source : String) (e : ParseError) :
    (refuse path source e).Uses fs paths known := by
  rw [refuse]
  cases Report.ofError? path source e <;> trivial

/-- Where more names may be known, an action may use them as well. -/
theorem Action.Uses.mono (h : action.Uses fs paths known) (hle : ∀ name ∈ known, name ∈ known') :
    action.Uses fs paths known' := by
  cases action with
  | say | report => trivial
  | present text =>
    obtain ⟨path, hpath, name, hname, hyields⟩ := h
    exact ⟨path, hpath, name, hle name hname, hyields⟩
  | store path text =>
    obtain ⟨hpath, name, hname, hyields⟩ := h
    exact ⟨hpath, name, hle name hname, hyields⟩
  | log e =>
    cases e with
    | detupled name tuples => exact hle name h
    | tokenized | refused | parsed => trivial

/-- Actions stay quiet where more names may be known. -/
theorem Quiet.mono (h : Quiet fs paths known actions) (hle : ∀ name ∈ known, name ∈ known') :
    Quiet fs paths known' actions :=
  fun action haction => ⟨(h action haction).1, (h action haction).2.mono hle⟩

/-- Two lists of actions are quiet together exactly if each of them is. -/
theorem quiet_append : Quiet fs paths known (actions ++ actions') ↔
    Quiet fs paths known actions ∧ Quiet fs paths known actions' :=
  List.forall_mem_append

theorem quiet_cons : Quiet fs paths known (action :: actions) ↔
    (action ≠ typeQuestion ∧ action.Uses fs paths known) ∧ Quiet fs paths known actions :=
  List.forall_mem_cons

theorem quiet_nil : Quiet fs paths known [] := nofun

/-- What is said is quiet as long as it is not the question. -/
theorem quiet_say {texts : List String} (h : ∀ text ∈ texts, .say text ≠ typeQuestion) :
    Quiet fs paths known (texts.map .say) := by
  intro action haction
  obtain ⟨text, htext, rfl⟩ := List.mem_map.1 haction
  exact ⟨h text htext, trivial⟩

theorem findsNone_say (texts : List String) : FindsNone (texts.map .say) := by
  intro path statements hmem
  obtain ⟨text, -, heq⟩ := List.mem_map.1 hmem
  cases heq

/-- Two lists of actions find no program together exactly if neither does. -/
theorem findsNone_append : FindsNone (actions ++ actions') ↔
    FindsNone actions ∧ FindsNone actions' := by
  simp only [FindsNone, List.mem_append, not_or, forall_and]

theorem findsNone_cons : FindsNone (action :: actions) ↔
    (∀ path statements, action ≠ .log (.parsed path statements)) ∧ FindsNone actions := by
  simp only [FindsNone, List.mem_cons, not_or, forall_and, ne_eq, eq_comm]

theorem findsNone_nil : FindsNone [] := nofun

/-- Where no program is found, there is none to detuple. -/
theorem FindsNone.detuplesTo (h : FindsNone actions) : DetuplesTo name actions := by
  rintro earlier path statements later rfl
  exact absurd (List.mem_append_right _ List.mem_cons_self) (h path statements)

/-- If all programs are detupled in each of two lists of actions, they are in both together. -/
theorem DetuplesTo.append (h : DetuplesTo name actions) (h' : DetuplesTo name actions') :
    DetuplesTo name (actions ++ actions') := by
  intro earlier path statements later hsplit
  rcases List.append_eq_append_iff.1 hsplit with ⟨middle, -, htail⟩ | ⟨middle, hfirst, htail⟩
  · exact h' middle path statements later htail
  · -- The program is found by the first actions, unless the others begin with it.
    cases middle with
    | nil => exact h' [] path statements later htail.symm
    | cons found middle =>
      obtain ⟨rfl, rfl⟩ := List.cons_eq_cons.1 htail
      obtain ⟨tuples, rest, rfl⟩ := h earlier path statements middle hfirst
      exact ⟨tuples, rest ++ actions', rfl⟩

/-- If no other program is found, the one that is detupled next is all there is. -/
theorem FindsNone.detuplesTo_found (h : FindsNone actions) (path : String)
    (statements tuples : Nat) : DetuplesTo name
      (.log (.parsed path statements) :: .log (.detupled name tuples) :: actions) := by
  intro earlier path' statements' later hsplit
  cases earlier with
  | nil =>
    cases hsplit
    exact ⟨tuples, actions, rfl⟩
  | cons first earlier =>
    have hlater : FindsNone (.log (.detupled name tuples) :: actions) :=
      findsNone_cons.2 ⟨nofun, h⟩
    exact hlater.detuplesTo earlier path' statements' later (List.cons_eq_cons.1 hsplit).2

end

/-! ## One file -/

/-- What taking a file has to do with the name of the type, told by what is done, and by the name
that is known and the input that is left afterwards. -/
inductive Naming (o : Options) (fs : FileSystem) (paths : List String) (s : Standing) :
    List Action → Option String → Lines → Prop where
  /-- No name is needed. -/
  | quiet {actions : List Action} (hquiet : Quiet fs paths none actions)
      (hfinds : o.dryRun = false → FindsNone actions) : Naming o fs paths s actions s.known s.unread
  /-- There is a program, and a name for the type that it is detupled to. -/
  | named {path source name : String} {b : Block} {tuples : Nat} {said : List String}
      {rest : List Action} {unread : Lines} (hdry : o.dryRun = false) (hpath : path ∈ paths)
      (hprogram : fs.HoldsProgram path)
      (hname : needTypeName s.known s.unread = ⟨some name, said, unread⟩)
      (hquiet : Quiet fs paths (some name) (.log (.detupled name tuples) :: rest))
      (hfinds : FindsNone rest) :
      Naming o fs paths s (opening path source b said ++ .log (.detupled name tuples) :: rest)
        (some name) unread

section

variable {o : Options} {fs : FileSystem} {paths later : List String} {path source name : String}
  {b : Block} {s next : Standing} {actions : List Action} {ending : Ending} {outcome : Outcome}
  {said : List String} {input unread : Lines}

/-- A program that is met is the first one of its file, as far as its detupling is concerned. -/
theorem Standing.From.yields (h : s.From fs) (hread : s.fs.readText path = some source)
    (hparse : parse source = .ok b)
    (hname : needTypeName s.known s.unread = ⟨some name, said, unread⟩) :
    fs.Yields path name (fileText name b) := by
  obtain ⟨source₀, b₀, hread₀, hparse₀, hsame⟩ := h.detupled.exists_program hread hparse
  have hkeep := (needTypeName_spec h.identifier hname).2
  exact ⟨source₀, b₀, hread₀, hparse₀, (hsame name hkeep).symm⟩

/-- A file is opened without asking, where the name of the type is not needed. -/
theorem quiet_opening {known : Option String} (path source : String) (b : Block) :
    Quiet fs paths known (opening path source b []) :=
  quiet_cons.2 ⟨⟨nofun, trivial⟩, quiet_cons.2 ⟨⟨nofun, trivial⟩, quiet_nil⟩⟩

/-- A turn needs no name of the type, or it has one and detuples a program to it. -/
theorem Turn.naming (h : Turn o path s actions next) (hfrom : s.From fs) (hpath : path ∈ paths) :
    Naming o fs paths s actions next.known next.unread := by
  cases h with
  | @refused source e hread hparse =>
    refine .quiet ?_ fun _ => ?_
    · simp only [quiet_cons]
      exact ⟨⟨nofun, trivial⟩, ⟨nofun, trivial⟩, ⟨refuse_ne_typeQuestion _ _ _, uses_refuse _ _ _⟩,
        quiet_nil⟩
    · obtain ⟨report, hreport⟩ := exists_output_refuse path source e
      simp only [findsNone_cons]
      refine ⟨nofun, nofun, fun path' statements heq => ?_, findsNone_nil⟩
      rw [heq] at hreport
      cases hreport
  | @checked source b hread hparse hdry =>
    exact .quiet (quiet_opening path source b) fun hstore => nomatch hdry.symm.trans hstore
  | shown hread hparse hdry hname hprint =>
    refine .named hdry hpath (hfrom.detupled.holdsProgram hread hparse) hname ?_ ?_
    · simp only [quiet_cons]
      exact ⟨⟨nofun, rfl⟩, ⟨nofun, path, hpath, _, rfl, hfrom.yields hread hparse hname⟩, quiet_nil⟩
    · exact findsNone_cons.2 ⟨nofun, findsNone_nil⟩
  | stored hread hparse hdry hname hprint hwrite =>
    refine .named hdry hpath (hfrom.detupled.holdsProgram hread hparse) hname ?_ ?_
    · simp only [quiet_cons]
      exact ⟨⟨nofun, rfl⟩, ⟨nofun, hpath, _, rfl, hfrom.yields hread hparse hname⟩, quiet_nil⟩
    · exact findsNone_cons.2 ⟨nofun, findsNone_nil⟩

/-- A file that ends a run is like another, unless there is no answer. -/
theorem Stop.naming (h : Stop o path s actions ending unread) (hfrom : s.From fs)
    (hpath : path ∈ paths) : (∃ known, Naming o fs paths s actions known unread) ∨
      (o.dryRun = false ∧ ending = .unanswered ∧ fs.HoldsProgram path ∧ ∃ source b said,
        needTypeName s.known s.unread = ⟨none, said, unread⟩ ∧
        actions = opening path source b said) := by
  cases h with
  | unreadable hread =>
    refine Or.inl ⟨s.known, .quiet ?_ fun _ => ?_⟩
    · exact quiet_cons.2 ⟨⟨say_ne_typeQuestion (by decide) _, trivial⟩, quiet_nil⟩
    · exact findsNone_cons.2 ⟨nofun, findsNone_nil⟩
  | unanswered hread hparse hdry hname =>
    exact Or.inr ⟨hdry, rfl, hfrom.detupled.holdsProgram hread hparse, _, _, _, hname, rfl⟩
  | unwritable hread hparse hdry hname hprint hwrite =>
    refine Or.inl ⟨_, .named hdry hpath (hfrom.detupled.holdsProgram hread hparse) hname ?_ ?_⟩
    · simp only [quiet_cons]
      exact ⟨⟨nofun, rfl⟩, ⟨say_ne_typeQuestion (by decide) _, trivial⟩, quiet_nil⟩
    · exact findsNone_cons.2 ⟨nofun, findsNone_nil⟩

/-- A name that is known stays, and is what programs are detupled to. -/
theorem Naming.of_known {known : Option String} (h : Naming o fs paths s actions known unread)
    (hknown : s.known = some name) :
    known = some name ∧ unread = s.unread ∧ Quiet fs paths (some name) actions ∧
      (o.dryRun = false → DetuplesTo name actions) := by
  cases h with
  | quiet hquiet hfinds =>
    exact ⟨hknown, rfl, hquiet.mono nofun, fun hdry => (hfinds hdry).detuplesTo⟩
  | @named path source _ b tuples _ rest _ hdry hpath hprogram hname hquiet hfinds =>
    rw [hknown] at hname
    cases hname
    refine ⟨rfl, rfl, quiet_append.2 ⟨quiet_opening path source b, hquiet⟩, fun _ => ?_⟩
    have hfirst : FindsNone [.log (.tokenized (lex source).length)] :=
      findsNone_cons.2 ⟨nofun, findsNone_nil⟩
    exact hfirst.detuplesTo.append (hfinds.detuplesTo_found path b.length tuples)

/-- The question comes up behind a program that is found, before the answer is used. -/
theorem asks_opening {asked : Answer} {after : List Action} (hpath : path ∈ paths)
    (hprogram : fs.HoldsProgram path) (source : String) (b : Block)
    (hlate : Quiet fs paths asked.answer after)
    (hused : ∀ name ∈ asked.answer,
      (∃ tuples rest, after = .log (.detupled name tuples) :: rest) ∧ DetuplesTo name after)
    (hlast : asked.answer = none → after = []) :
    Asks fs paths asked [.log (.tokenized (lex source).length)] after
      (opening path source b asked.said ++ after) :=
  ⟨⟨path, hpath, hprogram, b.length, rfl⟩, quiet_cons.2 ⟨⟨nofun, trivial⟩, quiet_nil⟩,
    findsNone_cons.2 ⟨nofun, findsNone_nil⟩, hlate, hused, hlast⟩

/-- The question comes up just as well behind actions among which nothing is found. -/
theorem Asks.prepend {asked : Answer} {front before after : List Action}
    (h : Asks fs paths asked before after actions) (hquiet : Quiet fs paths none front)
    (hfinds : FindsNone front) :
    Asks fs paths asked (front ++ before) after (front ++ actions) := by
  obtain ⟨path, hpath, hprogram, statements, rfl⟩ := h.split
  exact ⟨⟨path, hpath, hprogram, statements, (List.append_assoc _ _ _).symm⟩,
    quiet_append.2 ⟨hquiet, h.early⟩, findsNone_append.2 ⟨hfinds, h.first⟩, h.late, h.used, h.last⟩

/-- After an answer it does not come up again, and the answer is used for what is found later. -/
theorem Asks.append {asked : Answer} {before after more : List Action}
    (h : Asks fs paths asked before after actions) (hanswer : asked.answer = some name)
    (hquiet : Quiet fs paths (some name) more) (hdetuples : DetuplesTo name more) :
    Asks fs paths asked before (after ++ more) (actions ++ more) := by
  obtain ⟨path, hpath, hprogram, statements, rfl⟩ := h.split
  refine ⟨⟨path, hpath, hprogram, statements, by simp⟩, h.early, h.first,
    quiet_append.2 ⟨h.late, hanswer ▸ hquiet⟩, fun name' hname' => ?_, fun hnone => ?_⟩
  · obtain ⟨⟨tuples, rest, rfl⟩, hafter⟩ := h.used name' hname'
    rw [hanswer] at hname'
    cases hname'
    exact ⟨⟨tuples, rest ++ more, rfl⟩, hafter.append hdetuples⟩
  · cases hanswer.symm.trans hnone

/-- The actions use no name but the answer. -/
theorem Asks.uses {asked : Answer} {before after : List Action}
    (h : Asks fs paths asked before after actions) :
    ∀ action ∈ actions, action.Uses fs paths asked.answer := by
  obtain ⟨path, -, -, statements, rfl⟩ := h.split
  intro action haction
  simp only [List.mem_append, List.mem_cons, List.mem_map] at haction
  rcases haction with hbefore | rfl | ⟨text, -, rfl⟩ | hafter
  · exact (h.early action hbefore).2.mono nofun
  · trivial
  · trivial
  · exact (h.late action hafter).2

/-- A name that is needed and not known is asked for. -/
theorem Naming.of_unknown {known : Option String} (h : Naming o fs paths s actions known unread)
    (hknown : s.known = none) :
    (known = none ∧ unread = s.unread ∧ Quiet fs paths none actions ∧
        (o.dryRun = false → FindsNone actions)) ∨
      (o.dryRun = false ∧ known ≠ none ∧ (needTypeName none s.unread).answer = known ∧
        (needTypeName none s.unread).unread = unread ∧
        ∃ before after, Asks fs paths (needTypeName none s.unread) before after actions) := by
  cases h with
  | quiet hquiet hfinds => exact Or.inl ⟨hknown, rfl, hquiet, hfinds⟩
  | @named path source name b tuples said rest _ hdry hpath hprogram hname hquiet hfinds =>
    have hlate : FindsNone (.log (.detupled name tuples) :: rest) :=
      findsNone_cons.2 ⟨nofun, hfinds⟩
    rw [hknown] at hname
    rw [hname]
    refine Or.inr ⟨hdry, Option.some_ne_none _, rfl, rfl, _, _,
      asks_opening hpath hprogram source b hquiet ?_ nofun⟩
    rintro _ ⟨⟩
    exact ⟨⟨tuples, rest, rfl⟩, hlate.detuplesTo⟩

/-! ## Some files -/

/-- Once the name of the type is known, it is not asked for, and no other is used. -/
theorem Runs.of_known (h : Runs o later s outcome) (hfrom : s.From fs)
    (hpaths : ∀ path ∈ later, path ∈ paths) (hknown : s.known = some name) :
    outcome.unread = s.unread ∧ Quiet fs paths (some name) outcome.actions ∧
      (o.dryRun = false → DetuplesTo name outcome.actions) := by
  induction h with
  | finished s => exact ⟨rfl, quiet_nil, fun _ => findsNone_nil.detuplesTo⟩
  | stopped later hstop =>
    rcases hstop.naming hfrom (hpaths _ List.mem_cons_self) with ⟨known, hnaming⟩ |
      ⟨-, -, -, source, b, said, hname, -⟩
    · exact (hnaming.of_known hknown).2
    · rw [hknown] at hname
      cases hname
  | turned hturn hrest ih =>
    obtain ⟨hpath, hlater⟩ := List.forall_mem_cons.1 hpaths
    obtain ⟨hnext, hunread, hquiet, hdetuples⟩ := (hturn.naming hfrom hpath).of_known hknown
    obtain ⟨hunread', hquiet', hdetuples'⟩ := ih (hturn.from hfrom).1 hlater hnext
    exact ⟨hunread'.trans hunread, quiet_append.2 ⟨hquiet, hquiet'⟩,
      fun hdry => (hdetuples hdry).append (hdetuples' hdry)⟩

/-- As long as the name of the type is not known, no program is found, or it is asked for. -/
theorem Runs.of_unknown (h : Runs o later s outcome) (hfrom : s.From fs)
    (hpaths : ∀ path ∈ later, path ∈ paths) (hknown : s.known = none) :
    (outcome.unread = s.unread ∧ Quiet fs paths none outcome.actions ∧
        (o.dryRun = false → FindsNone outcome.actions)) ∨
      (o.dryRun = false ∧ outcome.unread = (needTypeName none s.unread).unread ∧
        ((needTypeName none s.unread).answer = none → outcome.ending = .unanswered) ∧
        ∃ before after,
          Asks fs paths (needTypeName none s.unread) before after outcome.actions) := by
  induction h with
  | finished s => exact Or.inl ⟨rfl, quiet_nil, fun _ => findsNone_nil⟩
  | @stopped _ _ _ _ unread later hstop =>
    have hpath := hpaths _ List.mem_cons_self
    rcases hstop.naming hfrom hpath with ⟨known, hnaming⟩ |
      ⟨hdry, hending, hprogram, source, b, said, hname, rfl⟩
    · refine (hnaming.of_unknown hknown).imp And.right ?_
      rintro ⟨hdry, hsome, hanswer, hunread, hasks⟩
      exact ⟨hdry, hunread.symm, fun hnone => absurd (hanswer.symm.trans hnone) hsome, hasks⟩
    · rw [hknown] at hname
      rw [hname]
      have hasks : Asks fs paths ⟨none, said, unread⟩ _ [] _ :=
        asks_opening hpath hprogram source b quiet_nil nofun fun _ => rfl
      rw [List.append_nil] at hasks
      exact Or.inr ⟨hdry, rfl, fun _ => hending, _, [], hasks⟩
  | turned hturn hrest ih =>
    obtain ⟨hpath, hlater⟩ := List.forall_mem_cons.1 hpaths
    have hnext := (hturn.from hfrom).1
    rcases (hturn.naming hfrom hpath).of_unknown hknown with ⟨hnone, hunread, hquiet, hfinds⟩ |
      ⟨hdry, hsome, hanswer, hunread, before, after, hasks⟩
    · rw [← hunread]
      refine (ih hnext hlater hnone).imp ?_ ?_
      · rintro ⟨hunread', hquiet', hfinds'⟩
        exact ⟨hunread', quiet_append.2 ⟨hquiet, hquiet'⟩,
          fun hdry => findsNone_append.2 ⟨hfinds hdry, hfinds' hdry⟩⟩
      · rintro ⟨hdry, hunread', hending, before, after, hasks⟩
        exact ⟨hdry, hunread', hending, _, _, hasks.prepend hquiet (hfinds hdry)⟩
    · -- The turn has got an answer, so the rest is a run with a known name.
      obtain ⟨name, hname⟩ := Option.ne_none_iff_exists'.1 hsome
      obtain ⟨hunread', hquiet', hdetuples'⟩ := hrest.of_known hnext hlater hname
      exact Or.inr ⟨hdry, hunread'.trans hunread.symm,
        fun hnone => absurd (hanswer.symm.trans hnone) hsome, before, _,
        hasks.append (hanswer.trans hname) hquiet' (hdetuples' hdry)⟩

end

/-! ## The whole command -/

section

variable {o : Options} {fs : FileSystem} {input : Lines} {name : String}

/-- The question for a path is not the question for the name of the type. -/
theorem quiet_askedPath (o : Options) (input : Lines) (known : Option String) :
    Quiet fs (o.targets input) known ((o.askedPath input).said.map .say) := by
  refine quiet_say fun text htext => ?_
  by_cases hpaths : o.paths = []
  · rw [Options.askedPath, if_pos hpaths] at htext
    rcases mem_said_ask htext with rfl | ⟨answer, rfl⟩ | rfl
    · decide
    · exact say_ne_typeQuestion (by decide) _
    · decide
  · rw [Options.askedPath_of_paths hpaths] at htext
    cases htext

/-- With a given name, the command does not ask for one, and detuples all programs to the given
one. -/
theorem run_of_known (fs : FileSystem) (input : Lines) (hname : name ∈ o.typeName)
    (hgood : isIdentifier name = true) :
    (run o fs input).unread = (o.askedPath input).unread ∧
      Quiet fs (o.targets input) (some name) (run o fs input).actions ∧
      (o.dryRun = false → DetuplesTo name (run o fs input).actions) := by
  have hgiven : ∀ name ∈ o.typeName, isIdentifier name = true := fun name' hname' =>
    Option.mem_unique hname hname' ▸ hgood
  have hasked : Quiet fs (o.targets input) (some name) _ := quiet_askedPath o input _
  have hsaid := findsNone_say (o.askedPath input).said
  by_cases htargets : o.targets input = []
  · rw [run_of_typeName hgiven, if_pos htargets]
    exact ⟨rfl, hasked, fun _ => hsaid.detuplesTo⟩
  · obtain ⟨outcome, hruns, hrun⟩ := exists_runs_targets fs hgiven htargets
    obtain ⟨hunread, hquiet, hdetuples⟩ :=
      hruns.of_known ⟨hgiven, .refl _ fs⟩ (fun _ hpath => hpath) hname
    rw [hrun]
    exact ⟨hunread, quiet_append.2 ⟨hasked, hquiet⟩,
      fun hdry => hsaid.detuplesTo.append (hdetuples hdry)⟩

/-- Without a given name, the command finds no program, only reads them, or asks for the name
once. -/
theorem run_of_unknown (fs : FileSystem) (input : Lines) (hnone : o.typeName = none) :
    ((run o fs input).unread = (o.askedPath input).unread ∧
        Quiet fs (o.targets input) none (run o fs input).actions ∧
        (o.dryRun = false → FindsNone (run o fs input).actions)) ∨
      (o.dryRun = false ∧ (run o fs input).unread = (o.askedName input).unread ∧
        ((o.askedName input).answer = none → (run o fs input).ending = .unanswered) ∧
        ∃ before after,
          Asks fs (o.targets input) (o.askedName input) before after (run o fs input).actions) := by
  have hgiven : ∀ name ∈ o.typeName, isIdentifier name = true := by
    rw [hnone]
    exact nofun
  have hasked : Quiet fs (o.targets input) none _ := quiet_askedPath o input _
  have hsaid := findsNone_say (o.askedPath input).said
  by_cases htargets : o.targets input = []
  · rw [run_of_typeName hgiven, if_pos htargets]
    exact Or.inl ⟨rfl, hasked, fun _ => hsaid⟩
  · obtain ⟨outcome, hruns, hrun⟩ := exists_runs_targets fs hgiven htargets
    rw [hrun]
    refine (hruns.of_unknown ⟨hgiven, .refl _ fs⟩ (fun _ hpath => hpath) hnone).imp ?_ ?_
    · rintro ⟨hunread, hquiet, hfinds⟩
      exact ⟨hunread, quiet_append.2 ⟨hasked, hquiet⟩,
        fun hdry => findsNone_append.2 ⟨hsaid, hfinds hdry⟩⟩
    · rintro ⟨hdry, hunread, hending, before, after, hasks⟩
      exact ⟨hdry, hunread, hending, _, after, hasks.prepend hasked hsaid⟩

/-- Without an answer to the question for a path nothing else is done. -/
theorem run_of_no_path (fs : FileSystem) (hpaths : o.paths = [])
    (hanswers : ¬input.Answers (· ≠ "")) (hgiven : ∀ name ∈ o.typeName, isIdentifier name = true) :
    (run o fs input).ending.code = 1 ∧ (run o fs input).fs = fs ∧
      (run o fs input).actions = (ask "File name: " (· ≠ "") input).said.map .say := by
  have htargets : o.targets input = [] := by
    by_contra hne
    exact hanswers (Options.targets_ne_nil_iff.1 hne hpaths)
  rw [run_of_typeName hgiven, if_pos htargets, Options.askedPath, if_pos hpaths]
  exact ⟨rfl, rfl, rfl⟩

/-- With a name that is given, or if programs are only read, the question for the name does not come
up. -/
theorem run_quiet (fs : FileSystem) (input : Lines) (h : o.typeName ≠ none ∨ o.dryRun = true) :
    Quiet fs (o.targets input) (o.typeName.filter isIdentifier) (run o fs input).actions := by
  cases hname : o.typeName with
  | none =>
    have hdry : o.dryRun = true := h.resolve_left (not_not_intro hname)
    rcases run_of_unknown fs input hname with ⟨-, hquiet, -⟩ | ⟨hstore, -⟩
    · exact hquiet
    · cases hdry.symm.trans hstore
  | some name =>
    cases hgood : isIdentifier name with
    | false =>
      rw [run_of_badTypeName hname hgood]
      exact quiet_cons.2 ⟨⟨say_ne_typeQuestion (by decide) _, trivial⟩, quiet_nil⟩
    | true =>
      rw [Option.filter_some, if_pos hgood]
      exact (run_of_known fs input hname hgood).2.1

/-- The answer to the question for the name of the type is an identifier. -/
theorem isIdentifier_of_askedName (h : name ∈ (o.askedName input).answer) :
    isIdentifier name = true := by
  rcases hasked : o.askedName input with ⟨answer, said, unread⟩
  rw [hasked] at h
  cases h
  exact ask_answer hasked

/-- All programs of a run are detupled to one type, whose name is an identifier. -/
theorem run_uses (o : Options) (fs : FileSystem) (input : Lines) :
    ∃ known : Option String, (∀ name ∈ known, isIdentifier name = true) ∧
      ∀ action ∈ (run o fs input).actions, action.Uses fs (o.targets input) known := by
  cases hname : o.typeName with
  | none =>
    rcases run_of_unknown fs input hname with ⟨-, hquiet, -⟩ | ⟨-, -, -, before, after, hasks⟩
    · exact ⟨none, nofun, fun action haction => (hquiet action haction).2⟩
    · exact ⟨_, fun _ => isIdentifier_of_askedName, hasks.uses⟩
  | some name =>
    cases hgood : isIdentifier name with
    | false =>
      rw [run_of_badTypeName hname hgood]
      exact ⟨none, nofun, List.forall_mem_singleton.2 trivial⟩
    | true =>
      have hquiet := (run_of_known fs input hname hgood).2.1
      exact ⟨some name, fun _ h => Option.mem_some_iff.1 h ▸ hgood,
        fun action haction => (hquiet action haction).2⟩

/-- **Questions are asked until there is an answer, and the name of the type is asked for once, when
the first program needs it.** Bytes can be cut into lines in one way only. A question takes the
lines up to the first that holds an answer that will do, if the lines before it are texts; it is
asked once for each of them, with a complaint about each but the last. Without such a line it is
asked once more, the line ends, and the exit code is 1.

The question for the name of the type does not come up if a name is given or programs are only read,
and no other name than the given one is used. Otherwise it comes up as soon as a program has been
found, if there is one, and reads on where the question for a path has stopped; it does not come up
again, and the answer is used for this program and all that are found later. All programs of a run
are detupled to the type of one name, and that name is an identifier. -/
theorem run_asks_once (o : Options) (fs : FileSystem) (input : Lines) :
    (∀ bytes : ByteArray, (∃! lines, CutInLines bytes.data.toList lines) ∧
      ∀ lines, CutInLines bytes.data.toList lines →
        Lines.ofBytes bytes = lines.map fun line => String.fromUTF8? ⟨line.toArray⟩) ∧
    (∀ (question : String) (willDo : String → Bool) (lines : Lines),
      (lines.Answers willDo → ∃ (refused : List String) (line : String) (unread : Lines),
        lines = refused.map some ++ some line :: unread ∧
        (∀ text ∈ refused, willDo (trimBlanks text) = false) ∧ willDo (trimBlanks line) = true ∧
        ask question willDo lines =
          ⟨some (trimBlanks line), complaints question refused ++ [question], unread⟩) ∧
      (¬lines.Answers willDo → ∃ (refused : List String) (unread : Lines),
        (lines = refused.map some ∧ unread = [] ∨ lines = refused.map some ++ none :: unread) ∧
        (∀ text ∈ refused, willDo (trimBlanks text) = false) ∧
        ask question willDo lines =
          ⟨none, complaints question refused ++ [question, "\n"], unread⟩)) ∧
    (o.paths = [] → ¬input.Answers (· ≠ "") → (∀ name ∈ o.typeName, isIdentifier name = true) →
      (run o fs input).ending.code = 1 ∧ (run o fs input).fs = fs ∧
      (run o fs input).actions = (ask "File name: " (· ≠ "") input).said.map .say) ∧
    (o.typeName ≠ none ∨ o.dryRun = true →
      Quiet fs (o.targets input) (o.typeName.filter isIdentifier) (run o fs input).actions) ∧
    (∀ name ∈ o.typeName, isIdentifier name = true → o.dryRun = false →
      DetuplesTo name (run o fs input).actions) ∧
    (o.typeName = none → o.dryRun = false →
      (Quiet fs (o.targets input) none (run o fs input).actions ∧
        FindsNone (run o fs input).actions ∧
        (run o fs input).unread = (o.askedPath input).unread) ∨
      ((∃ before after,
          Asks fs (o.targets input) (o.askedName input) before after (run o fs input).actions) ∧
        (run o fs input).unread = (o.askedName input).unread ∧
        ((o.askedName input).answer = none → (run o fs input).ending.code = 1))) ∧
    ∃ known : Option String, (∀ name ∈ known, isIdentifier name = true) ∧
      ∀ action ∈ (run o fs input).actions, action.Uses fs (o.targets input) known := by
  refine ⟨existsUnique_cutInLines, fun question willDo lines =>
    ⟨(ask_of_answers · question), (ask_of_not_answers · question)⟩, run_of_no_path fs,
    run_quiet fs input, fun name hname hgood => (run_of_known fs input hname hgood).2.2,
    fun hnone hdry => ?_, run_uses o fs input⟩
  rcases run_of_unknown fs input hnone with ⟨hunread, hquiet, hfinds⟩ |
    ⟨-, hunread, hending, hasks⟩
  · exact Or.inl ⟨hquiet, hfinds hdry, hunread⟩
  · refine Or.inr ⟨hasks, hunread, fun hanswer => ?_⟩
    rw [hending hanswer]
    rfl

/-- A text that is no program needs no name; the program behind it does, and the second line is the
answer. A line that is no text ends the question for a path. A name that is given is used. -/
theorem run_asks_once_refused :
    (∃ before after, Asks (sampleFiles false) ["b.src", "a.src", "c.src"]
      (Options.askedName ⟨["b.src", "a.src", "c.src"], none, false, false, false⟩
        [some "1\n", some " P \n", some "Q\n"]) before after
      (run ⟨["b.src", "a.src", "c.src"], none, false, false, false⟩ (sampleFiles false)
        [some "1\n", some " P \n", some "Q\n"]).actions) ∧
    (∃ refused line unread, [some "1\n", some " P \n", some "Q\n"] =
        List.map some refused ++ some line :: unread ∧
      ask "Type name: " isIdentifier [some "1\n", some " P \n", some "Q\n"] =
        ⟨some (trimBlanks line), complaints "Type name: " refused ++ ["Type name: "], unread⟩) ∧
    (run ⟨[], none, false, false, false⟩ (sampleFiles false)
      [some " \n", none]).ending.code = 1 ∧
    DetuplesTo "P" (run (.inPlace ["a.src"] "P" false) (sampleFiles false) []).actions := by
  obtain ⟨-, hask, -, -, -, hasks, -⟩ := run_asks_once
    ⟨["b.src", "a.src", "c.src"], none, false, false, false⟩ (sampleFiles false)
    [some "1\n", some " P \n", some "Q\n"]
  obtain ⟨-, -, hpath, -⟩ := run_asks_once ⟨[], none, false, false, false⟩ (sampleFiles false)
    [some " \n", none]
  obtain ⟨-, -, -, -, hgiven, -⟩ := run_asks_once (.inPlace ["a.src"] "P" false)
    (sampleFiles false) []
  have hcomes : typeQuestion ∈ (run ⟨["b.src", "a.src", "c.src"], none, false, false, false⟩
      (sampleFiles false) [some "1\n", some " P \n", some "Q\n"]).actions := by decide +kernel
  have hanswers : Lines.Answers [some "1\n", some " P \n", some "Q\n"] isIdentifier :=
    ⟨["1\n"], " P \n", [some "Q\n"], rfl, by decide +kernel⟩
  have hnone : ¬Lines.Answers [some " \n", none] (· ≠ "") := by
    rw [← ask_answer_iff "File name: "]
    exact not_not_intro (by decide +kernel)
  refine ⟨?_, ?_, (hpath rfl hnone nofun).1, hgiven "P" rfl (by decide +kernel) rfl⟩
  · rcases hasks rfl rfl with ⟨hquiet, -⟩ | ⟨hcome, -⟩
    · exact absurd rfl (hquiet _ hcomes).1
    · exact hcome
  · obtain ⟨refused, line, unread, hinput, -, -, hask⟩ :=
      (hask "Type name: " isIdentifier _).1 hanswers
    exact ⟨refused, line, unread, hinput, hask⟩

end

end Detuple.Command
