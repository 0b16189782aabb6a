import Detuple.Command.Turns
import Detuple.Proofs.InPlace
import Detuple.Proofs.Isolation

/-!
# Proofs: how a run ends

A run only ever finds files as they were at first or detupled, which makes no difference to whether
they can be read, hold a program or can be written. So each turn says of the file at its path, as it
was at first, whether it can be accepted (`Turn.refused_or_accepted`), and a run that stops says why
(`Stop.fails`). Along a run this adds up to what decides the exit code (`Runs.code_eq_zero_iff`), to
what the files hold in the end (`Runs.stored`), and to where a run stops whatever paths come next
(`exists_runs_of_fails`).
-/

namespace Detuple

/-! ## Files as they were at first -/

section

variable {known : Option String} {before after last : FileSystem} {path source text : String}

/-- A program that is met was a program at first. -/
theorem FileSystem.Detupled.holdsProgram {b : Block} (h : before.Detupled known after)
    (hread : after.readText path = some source) (hparse : parse source = .ok b) :
    before.HoldsProgram path := by
  obtain ⟨source₀, b₀, hread₀, hparse₀, -⟩ := h.exists_program hread hparse
  exact ⟨source₀, b₀, hread₀, hparse₀⟩

/-- A text that is met and is no program was none at first. -/
theorem FileSystem.Detupled.not_holdsProgram {e : ParseError} (h : before.Detupled known after)
    (hread : after.readText path = some source) (hparse : parse source = .error e) :
    ¬before.HoldsProgram path := by
  rintro ⟨source₀, b₀, hread₀, hparse₀⟩
  rw [(h.readText_eq_some_iff_of_refused hparse).1 hread] at hread₀
  cases hread₀
  cases hparse.symm.trans hparse₀

/-- A file that has been written could be written at first. -/
theorem FileSystem.Detupled.canWrite (h : before.Detupled known after)
    (hwrite : after.writeText path text = some last) : before.CanWrite path := by
  intro text' hnone
  have hnone' : after.writeText path text = none := h.writeText_eq_none_iff.2 hnone
  cases hnone'.symm.trans hwrite

/-- A file that cannot be written could not be written at first. -/
theorem FileSystem.Detupled.not_canWrite (h : before.Detupled known after)
    (hwrite : after.writeText path text = none) : ¬before.CanWrite path :=
  fun hcan => hcan text (h.writeText_eq_none_iff.1 hwrite)

end

namespace Command

variable {o : Options} {fs : FileSystem} {s next : Standing} {outcome : Outcome}
  {paths : List String} {path name : String} {actions : List Action} {ending : Ending}
  {input unread : Lines}

/-! ## Questions and their answers -/

/-- There is an answer on the first line or on a later one. -/
theorem Lines.answers_cons_iff {line : String} {willDo : String → Bool} :
    Lines.Answers (some line :: input) willDo ↔
      willDo (trimBlanks line) = true ∨ input.Answers willDo := by
  constructor
  · rintro ⟨refused, line', unread, hinput, hdo⟩
    cases refused with
    | nil =>
      cases hinput
      exact Or.inl hdo
    | cons first refused =>
      cases hinput
      exact Or.inr ⟨refused, line', unread, rfl, hdo⟩
  · rintro (hdo | ⟨refused, line', unread, rfl, hdo⟩)
    · exact ⟨[], line, input, rfl, hdo⟩
    · exact ⟨line :: refused, line', unread, rfl, hdo⟩

/-- Asking finds an answer exactly if there is one before the end of the input and before all lines
that are no texts. -/
theorem ask_answer_iff (question : String) (willDo : String → Bool) (input : Lines) :
    (ask question willDo input).answer ≠ none ↔ input.Answers willDo := by
  induction input with
  | nil =>
    refine iff_of_false (fun h => h rfl) ?_
    rintro ⟨refused, line, unread, hinput, -⟩
    cases refused <;> cases hinput
  | cons line lines ih =>
    cases line with
    | none =>
      refine iff_of_false (fun h => h rfl) ?_
      rintro ⟨refused, line, unread, hinput, -⟩
      cases refused <;> cases hinput
    | some line =>
      rw [ask, Lines.answers_cons_iff]
      by_cases hdo : willDo (trimBlanks line) = true
      · rw [if_pos hdo]
        exact iff_of_true (Option.some_ne_none _) (Or.inl hdo)
      · rw [if_neg hdo, ← ih]
        exact (or_iff_right hdo).symm

/-- There is a name of the type if it is known, or if there is an answer. -/
theorem needTypeName_answer_iff {known : Option String} :
    (needTypeName known input).answer ≠ none ↔ (known = none → input.Answers isIdentifier) := by
  cases known with
  | none =>
    have hask : (needTypeName none input).answer ≠ none ↔ input.Answers isIdentifier :=
      ask_answer_iff _ _ _
    exact hask.trans ⟨fun h _ => h, fun h => h rfl⟩
  | some name => exact iff_of_true (Option.some_ne_none _) fun h => nomatch h

/-- There are files to take if paths are given, or if there is an answer. -/
theorem Options.targets_ne_nil_iff :
    o.targets input ≠ [] ↔ (o.paths = [] → input.Answers (· ≠ "")) := by
  by_cases hpaths : o.paths = []
  · have hasked : o.askedPath input = ask "File name: " (· ≠ "") input := if_pos hpaths
    rw [forall_prop_of_true hpaths, ← ask_answer_iff "File name: ", Options.targets, hasked, hpaths,
      List.nil_append]
    cases (ask "File name: " (· ≠ "") input).answer with
    | none => exact iff_of_false (fun h => h rfl) fun h => h rfl
    | some path => exact iff_of_true (List.cons_ne_nil _ _) (Option.some_ne_none _)
  · rw [Options.targets_of_paths hpaths]
    exact iff_of_true hpaths fun hnil => absurd hnil hpaths

/-- The question for the name of the type has an answer, if it comes up. -/
def Standing.Answered (o : Options) (s : Standing) : Prop :=
  o.dryRun = false → (needTypeName s.known s.unread).answer ≠ none

/-- Where there is a name of the type, the question for it has an answer. -/
theorem Standing.answered_of_needTypeName {said : List String}
    (h : needTypeName s.known s.unread = ⟨some name, said, unread⟩) : s.Answered o := by
  intro _
  rw [h]
  exact Option.some_ne_none _

/-- All questions have answers exactly if there are files to take and the question for the name of
the type has an answer from there on, if it comes up. -/
theorem Options.answered_iff (fs : FileSystem) (refused : Bool) : o.Answered input ↔
    o.targets input ≠ [] ∧
      Standing.Answered o ⟨refused, o.typeName, fs, (o.askedPath input).unread⟩ := by
  constructor
  · intro h
    exact ⟨Options.targets_ne_nil_iff.2 h.path,
      fun hdry => needTypeName_answer_iff.2 (h.typeName hdry)⟩
  · rintro ⟨htargets, hname⟩
    exact ⟨Options.targets_ne_nil_iff.1 htargets,
      fun hdry => needTypeName_answer_iff.1 (hname hdry)⟩

/-! ## One file -/

/-- At a path that can be accepted neither reading nor writing must fail. -/
theorem Options.Accepts.not_fails (h : o.Accepts fs path) : ¬o.FailsAt fs path := by
  rintro (hnone | ⟨-, hstores, hcan⟩)
  · obtain ⟨source, b, hread, -⟩ := h.1
    cases hnone.symm.trans hread
  · exact hcan (h.2 hstores)

/-- A turn comes upon a text that is no program, or upon a file that can be accepted. Then the
question for the name of the type has an answer, and once it has been answered it stays so. -/
theorem Turn.refused_or_accepted (h : Turn o path s actions next) (hfrom : s.From fs) :
    (fs.readText path ≠ none ∧ ¬fs.HoldsProgram path ∧ next.refused = true) ∨
      (o.Accepts fs path ∧ next.refused = s.refused ∧ s.Answered o ∧ next.Answered o) := by
  cases h with
  | refused hread hparse =>
    refine Or.inl ⟨fun hnone => ?_, hfrom.detupled.not_holdsProgram hread hparse, rfl⟩
    cases ((hfrom.detupled.readText_eq_none_iff path).2 hnone).symm.trans hread
  | checked hread hparse hdry =>
    have haccepts : o.Accepts fs path := ⟨hfrom.detupled.holdsProgram hread hparse,
      fun hstores => nomatch hdry.symm.trans hstores.1⟩
    have hanswered : s.Answered o := fun hstore => nomatch hdry.symm.trans hstore
    exact Or.inr ⟨haccepts, rfl, hanswered, hanswered⟩
  | shown hread hparse hdry hname hprint =>
    have haccepts : o.Accepts fs path := ⟨hfrom.detupled.holdsProgram hread hparse,
      fun hstores => nomatch hprint.symm.trans hstores.2⟩
    exact Or.inr ⟨haccepts, rfl, Standing.answered_of_needTypeName hname,
      fun _ => Option.some_ne_none _⟩
  | stored hread hparse hdry hname hprint hwrite =>
    have haccepts : o.Accepts fs path := ⟨hfrom.detupled.holdsProgram hread hparse,
      fun _ => hfrom.detupled.canWrite hwrite⟩
    exact Or.inr ⟨haccepts, rfl, Standing.answered_of_needTypeName hname,
      fun _ => Option.some_ne_none _⟩

/-- A turn is taken only where reading and writing need not fail. -/
theorem Turn.not_fails (h : Turn o path s actions next) (hfrom : s.From fs) :
    ¬o.FailsAt fs path := by
  rcases h.refused_or_accepted hfrom with ⟨hread, hprogram, -⟩ | ⟨haccepts, -⟩
  · rintro (hnone | ⟨hholds, -⟩)
    · exact hread hnone
    · exact hprogram hholds
  · exact haccepts.not_fails

/-- A run stops for want of an answer, or because reading or writing must fail. -/
theorem Stop.fails (h : Stop o path s actions ending unread) (hfrom : s.From fs) :
    (ending = .unanswered ∧ ¬s.Answered o) ∨ (ending ≠ .unanswered ∧ o.FailsAt fs path) := by
  cases h with
  | unreadable hread =>
    have hread₀ := (hfrom.detupled.readText_eq_none_iff path).1 hread
    exact Or.inr ⟨fun h => (nomatch h), Or.inl hread₀⟩
  | unanswered hread hparse hdry hname =>
    refine Or.inl ⟨rfl, fun hanswered => hanswered hdry ?_⟩
    rw [hname]
  | unwritable hread hparse hdry hname hprint hwrite =>
    exact Or.inr ⟨fun h => (nomatch h), Or.inr ⟨hfrom.detupled.holdsProgram hread hparse,
      ⟨hdry, hprint⟩, hfrom.detupled.not_canWrite hwrite⟩⟩

/-! ## Some files -/

/-- The exit code is zero exactly if no file has been refused before, all files can be accepted and
the name of the type is known when it is needed. -/
theorem Runs.code_eq_zero_iff (h : Runs o paths s outcome) (hfrom : s.From fs) :
    outcome.ending.code = 0 ↔
      s.refused = false ∧ (∀ path ∈ paths, o.Accepts fs path) ∧ (paths ≠ [] → s.Answered o) := by
  induction h with
  | finished s =>
    have hcode : (Ending.finished s.refused).code = 0 ↔ s.refused = false := by
      cases s.refused <;> simp [Ending.code]
    exact hcode.trans (and_iff_left ⟨fun _ h => (nomatch h), fun h => absurd rfl h⟩).symm
  | stopped paths hstop =>
    refine iff_of_false (fun hzero => ?_) ?_
    · rw [hstop.code.1] at hzero
      exact absurd hzero (by decide)
    · rintro ⟨-, haccepts, hanswered⟩
      rcases hstop.fails hfrom with ⟨-, hnot⟩ | ⟨-, hfails⟩
      · exact hnot (hanswered (List.cons_ne_nil _ _))
      · exact (haccepts _ List.mem_cons_self).not_fails hfails
  | turned hturn hrest ih =>
    rw [Outcome.after, ih (hturn.from hfrom).1, List.forall_mem_cons]
    rcases hturn.refused_or_accepted hfrom with ⟨-, hprogram, hrefused⟩ |
      ⟨haccepts, hrefused, hanswered, hnext⟩
    · -- No question comes up at such a text, but the code cannot be zero any more.
      rw [hrefused]
      exact iff_of_false (fun h => Bool.noConfusion h.1) fun h => hprogram h.2.1.1.1
    · rw [hrefused]
      constructor
      · rintro ⟨hsofar, hothers, -⟩
        exact ⟨hsofar, ⟨haccepts, hothers⟩, fun _ => hanswered⟩
      · rintro ⟨hsofar, ⟨-, hothers⟩, -⟩
        exact ⟨hsofar, hothers, fun _ => hnext⟩

/-- A run over files has the exit code 0 or 1. -/
theorem Runs.code_le_one (h : Runs o paths s outcome) : outcome.ending.code ≤ 1 := by
  rcases h.turns_or_stopped with ⟨last, -, hending⟩ | ⟨hcode, -, -⟩
  · rw [hending]
    cases last.refused <;> decide
  · rw [hcode]

/-- Where reading or writing must fail, a run ends, whatever paths come next. -/
theorem exists_runs_of_fails (hfrom : s.From fs) (hfails : o.FailsAt fs path)
    (before : List String) : ∃ outcome, ∀ later, Runs o (before ++ path :: later) s outcome := by
  have hfirst := runs_runPaths o before s
  rcases hfirst.turns_or_stopped with ⟨last, hturns, -⟩ | ⟨-, -, hstopped⟩
  · rcases turn_or_stop o path last with ⟨_, _, hturn⟩ | ⟨_, _, _, hstop⟩
    · exact absurd hfails (hturn.not_fails (hturns.from hfrom))
    · exact ⟨_, fun later => hturns.runs (.stopped later hstop)⟩
  · exact ⟨_, fun later => hstopped (path :: later)⟩

/-- A run that ends because reading or writing fails has come to the first path where it must. -/
theorem Runs.exists_fails (h : Runs o paths s outcome) (hfrom : s.From fs)
    (hending : outcome.ending = .unreadable ∨ outcome.ending = .unwritable) :
    ∃ before path later, paths = before ++ path :: later ∧ o.FailsAt fs path ∧
      ∀ earlier ∈ before, ¬o.FailsAt fs earlier := by
  induction h with
  | finished s => rcases hending with h | h <;> cases h
  | @stopped path _ _ _ _ paths hstop =>
    rcases hstop.fails hfrom with ⟨rfl, -⟩ | ⟨-, hfails⟩
    · rcases hending with h | h <;> cases h
    · exact ⟨[], path, paths, rfl, hfails, fun _ h => nomatch h⟩
  | @turned path _ _ _ _ _ hturn hrest ih =>
    obtain ⟨before, path', later, rfl, hfails, hbefore⟩ := ih (hturn.from hfrom).1 hending
    exact ⟨path :: before, path', later, rfl, hfails,
      List.forall_mem_cons.2 ⟨hturn.not_fails hfrom, hbefore⟩⟩

/-- Where programs are stored, a file whose turn has come holds its first program, detupled to the
one type of the run. -/
theorem Runs.stored (h : Runs o paths s outcome) (hstores : o.Stores) (hfrom : s.From fs)
    (hname : (needTypeName s.known s.unread).answer = some name) {refused : Bool}
    (hending : outcome.ending = .finished refused) :
    ∀ path ∈ paths, ∀ source b, fs.readText path = some source → parse source = .ok b →
      outcome.fs.readText path = some (fileText name b) := by
  induction h with
  | finished s => exact fun _ h => nomatch h
  | stopped paths hstop => exact absurd hending (hstop.code.2 refused)
  | turned hturn hrest ih =>
    have hnext := (hturn.from hfrom).1
    cases hturn with
    | refused hread hparse =>
      refine List.forall_mem_cons.2 ⟨fun source b hread₀ hok => ?_, ih hnext hname hending⟩
      exact absurd ⟨source, b, hread₀, hok⟩ (hfrom.detupled.not_holdsProgram hread hparse)
    | checked _ _ hdry => cases hdry.symm.trans hstores.1
    | shown _ _ _ _ hprint => cases hprint.symm.trans hstores.2
    | @stored source name' b said unread fs' hread hparse hdry hname' hprint hwrite =>
      rw [hname'] at hname
      obtain rfl : name' = name := Option.some.inj hname
      refine List.forall_mem_cons.2 ⟨fun source₀ b₀ hread₀ hok => ?_, ih hnext rfl hending⟩
      obtain ⟨hidentifier, hkeep⟩ := needTypeName_spec hfrom.identifier hname'
      obtain ⟨source₁, b₁, hread₁, hok₁, hsame⟩ := hfrom.detupled.exists_program hread hparse
      rw [hread₀] at hread₁
      cases hread₁
      cases hok.symm.trans hok₁
      -- What comes later can only write the same text again.
      obtain ⟨known, hlater, -, -⟩ := hrest.detupled (Standing.from_self rfl (hidentifier _ rfl))
      rw [hsame name' hkeep]
      exact hlater.readText_of_fileText (Block.wellFormed_of_parse hparse) (hidentifier _ rfl)
        (FileSystem.readText_of_writeText hwrite)

/-! ## The whole command -/

/-- A run that has files to take begins with the first of them. -/
theorem exists_runs_targets (fs : FileSystem)
    (hgiven : ∀ name ∈ o.typeName, isIdentifier name = true) (htargets : o.targets input ≠ []) :
    ∃ outcome,
      Runs o (o.targets input) ⟨false, o.typeName, fs, (o.askedPath input).unread⟩ outcome ∧
        run o fs input = outcome.after ((o.askedPath input).said.map .say) := by
  refine ⟨_, runs_iff.2 rfl, ?_⟩
  rw [run_of_typeName hgiven, if_neg htargets]

/-- The exit code is zero exactly if all questions have answers and all files can be accepted. -/
theorem run_code_eq_zero_iff (hgiven : ∀ name ∈ o.typeName, isIdentifier name = true) :
    (run o fs input).ending.code = 0 ↔
      o.Answered input ∧ ∀ path ∈ o.targets input, o.Accepts fs path := by
  rw [Options.answered_iff fs false]
  by_cases htargets : o.targets input = []
  · rw [run_of_typeName hgiven, if_pos htargets]
    exact iff_of_false (fun h => nomatch h) fun h => h.1.1 htargets
  · obtain ⟨outcome, hruns, hrun⟩ := exists_runs_targets fs hgiven htargets
    rw [hrun, Outcome.after, hruns.code_eq_zero_iff ⟨hgiven, .refl _ fs⟩]
    constructor
    · rintro ⟨-, haccepts, hanswered⟩
      exact ⟨⟨htargets, hanswered htargets⟩, haccepts⟩
    · rintro ⟨⟨-, hanswered⟩, haccepts⟩
      exact ⟨rfl, haccepts, fun _ => hanswered⟩

/-- Without a bad name the exit code is 0 or 1. -/
theorem run_code_le_one (fs : FileSystem) (input : Lines)
    (hgiven : ∀ name ∈ o.typeName, isIdentifier name = true) :
    (run o fs input).ending.code ≤ 1 := by
  by_cases htargets : o.targets input = []
  · rw [run_of_typeName hgiven, if_pos htargets]
    exact Nat.le_refl 1
  · obtain ⟨outcome, hruns, hrun⟩ := exists_runs_targets fs hgiven htargets
    rw [hrun]
    exact hruns.code_le_one

/-- A given name is an identifier or is none. -/
theorem Options.typeName_cases (o : Options) :
    (∃ name ∈ o.typeName, isIdentifier name = false) ∨
      ∀ name ∈ o.typeName, isIdentifier name = true := by
  refine or_iff_not_imp_left.2 fun hnone name hname => ?_
  rw [← Bool.not_eq_false]
  exact fun hbad => hnone ⟨name, hname, hbad⟩

/-- The exit code is 2 exactly for a given name that is no identifier. -/
theorem run_code_eq_two_iff :
    (run o fs input).ending.code = 2 ↔ ∃ name ∈ o.typeName, isIdentifier name = false := by
  constructor
  · intro hcode
    refine o.typeName_cases.resolve_right fun hgiven => ?_
    have hle := run_code_le_one fs input hgiven
    omega
  · rintro ⟨name, hname, hbad⟩
    rw [run_of_badTypeName hname hbad]
    rfl

/-- Where programs are stored and the exit code is zero, every path leads to its first program in
the end, detupled to the one type of the run. -/
theorem run_stored (hgiven : ∀ name ∈ o.typeName, isIdentifier name = true)
    (hcode : (run o fs input).ending.code = 0) (hstores : o.Stores) :
    ∃ typeName, (needTypeName o.typeName (o.askedPath input).unread).answer = some typeName ∧
      ∀ path ∈ o.targets input, ∃ source b, fs.readText path = some source ∧
        parse source = .ok b ∧ (run o fs input).fs.readText path = some (fileText typeName b) := by
  obtain ⟨hanswered, haccepts⟩ := (run_code_eq_zero_iff hgiven).1 hcode
  obtain ⟨htargets, hname⟩ := (Options.answered_iff fs false).1 hanswered
  obtain ⟨typeName, hname⟩ := Option.ne_none_iff_exists'.1 (hname hstores.1)
  obtain ⟨outcome, hruns, hrun⟩ := exists_runs_targets fs hgiven htargets
  rw [hrun, Outcome.after] at hcode
  have hfrom : Standing.From fs ⟨false, o.typeName, fs, (o.askedPath input).unread⟩ :=
    ⟨hgiven, .refl _ fs⟩
  rcases hruns.turns_or_stopped with ⟨last, -, hending⟩ | ⟨hone, -, -⟩
  · refine ⟨typeName, hname, fun path hpath => ?_⟩
    obtain ⟨source, b, hread, hparse⟩ := (haccepts path hpath).1
    rw [hrun]
    exact ⟨source, b, hread, hparse,
      hruns.stored hstores hfrom hname hending path hpath source b hread hparse⟩
  · exact absurd (hone.symm.trans hcode) (by decide)

/-- A command that ends because reading or writing fails has come to the first path where it
must. -/
theorem run_exists_fails (hending : (run o fs input).ending = .unreadable ∨
      (run o fs input).ending = .unwritable) :
    ∃ before path later, o.targets input = before ++ path :: later ∧ o.FailsAt fs path ∧
      ∀ earlier ∈ before, ¬o.FailsAt fs earlier := by
  have hcompletes : Completes o fs input (run o fs input) := completes_iff.2 rfl
  generalize run o fs input = outcome at hending hcompletes
  cases hcompletes with
  | badTypeName hgiven hbad => rcases hending with h | h <;> cases h
  | unanswered hgiven htargets => rcases hending with h | h <;> cases h
  | taken hgiven htargets hruns => exact hruns.exists_fails ⟨hgiven, .refl _ fs⟩ hending

/-- Where reading or writing must fail, the paths behind make no difference. -/
theorem run_of_fails {before later : List String} (hpaths : o.paths = before ++ path :: later)
    (hfails : o.FailsAt fs path) :
    run o fs input = run { o with paths := before ++ [path] } fs input := by
  rcases o.typeName_cases with ⟨name, hname, hbad⟩ | hgiven
  · have hlast : run { o with paths := before ++ [path] } fs input = _ :=
      run_of_badTypeName (o := { o with paths := before ++ [path] }) hname hbad
    rw [run_of_badTypeName hname hbad, hlast]
  · have hfrom : Standing.From fs ⟨false, o.typeName, fs, input⟩ := ⟨hgiven, .refl _ fs⟩
    obtain ⟨outcome, hruns⟩ := exists_runs_of_fails hfrom hfails before
    have hne : ∀ later, before ++ path :: later ≠ [] := fun later =>
      List.append_ne_nil_of_right_ne_nil _ (List.cons_ne_nil _ _)
    have hall := (runs_withPaths_iff hgiven (hne later)).1 (hruns later)
    rw [← hpaths] at hall
    exact hall.trans ((runs_withPaths_iff hgiven (hne [])).1 (hruns [])).symm

/-- **The exit code is decided by the files and the input as they are before the run.** It is 2
exactly for a given name of a type that is none, and then neither the files nor the input matter or
change. Otherwise it is 0 exactly if all questions that are asked find an answer before the end of
the input and before all lines that are no texts, every path leads to a program, and its file can be
written if programs are stored; else it is 1.

If programs are stored and the code is 0, every path leads to its first program in the end, detupled
to the one type of the run. If reading or writing fails, it does so at the first path where it must,
and all paths behind such a path make no difference: a file to which no other path leads stays as it
is. -/
theorem run_exit_code (o : Options) (fs : FileSystem) (input : Lines) :
    ((run o fs input).ending.code = 2 ↔ ∃ name ∈ o.typeName, isIdentifier name = false) ∧
    (∀ name ∈ o.typeName, isIdentifier name = false →
      ∀ (fs' : FileSystem) (input' : Lines), run o fs' input' =
        ⟨.badTypeName, [.say ("'" ++ name ++ "' is not a valid type name\n")], fs', input'⟩) ∧
    ((∀ name ∈ o.typeName, isIdentifier name = true) →
      ((run o fs input).ending.code = 0 ↔
        o.Answered input ∧ ∀ path ∈ o.targets input, o.Accepts fs path) ∧
      ((run o fs input).ending.code = 0 ∨ (run o fs input).ending.code = 1)) ∧
    ((run o fs input).ending.code = 0 → o.Stores → ∃ typeName,
      (needTypeName o.typeName (o.askedPath input).unread).answer = some typeName ∧
      ∀ path ∈ o.targets input, ∃ source b, fs.readText path = some source ∧
        parse source = .ok b ∧
        (run o fs input).fs.readText path = some (print (Block.detuple typeName b) ++ "\n")) ∧
    ((run o fs input).ending = .unreadable ∨ (run o fs input).ending = .unwritable →
      ∃ before path later, o.targets input = before ++ path :: later ∧ o.FailsAt fs path ∧
        ∀ earlier ∈ before, ¬o.FailsAt fs earlier) ∧
    ∀ (before : List String) (path : String) (later : List String),
      o.paths = before ++ path :: later → o.FailsAt fs path →
        run o fs input = run { o with paths := before ++ [path] } fs input ∧
        ∀ number, (∀ path' ∈ before ++ [path], fs.locate path' ≠ some number) →
          (run o fs input).fs.files[number]? = fs.files[number]? := by
  refine ⟨run_code_eq_two_iff, fun name hname hbad fs' input' => run_of_badTypeName hname hbad,
    fun hgiven => ⟨run_code_eq_zero_iff hgiven, ?_⟩, fun hcode hstores => ?_, run_exists_fails,
    fun before path later hpaths hfails => ⟨run_of_fails hpaths hfails, fun number hnumber => ?_⟩⟩
  · have hle := run_code_le_one fs input hgiven
    omega
  · refine run_stored (o.typeName_cases.resolve_left fun hbad => ?_) hcode hstores
    rw [run_code_eq_two_iff.2 hbad] at hcode
    cases hcode
  · have hlast : Completes { o with paths := before ++ [path] } fs input _ := completes_iff.2 rfl
    rw [run_of_fails hpaths hfails]
    rcases hlast.files number with hsame | ⟨-, -, path', hpath', hlocate⟩
    · exact hsame
    · rw [Options.targets_of_paths (List.append_ne_nil_of_right_ne_nil _ (List.cons_ne_nil _ _))]
        at hpath'
      exact absurd hlocate (hnumber path' hpath')

/-- The name is asked for twice, and the first file has two paths; a path that leads nowhere keeps
the run from the program behind it; and a number is no name of a type. -/
theorem run_exit_code_asked :
    (∀ path ∈ ["a.src", "./a.src", "c.src"],
      Options.Accepts ⟨["a.src", "./a.src", "c.src"], none, false, false, false⟩
        (sampleFiles false) path) ∧
    (∃ source b, (sampleFiles false).readText "./a.src" = some source ∧ parse source = .ok b ∧
      (run ⟨["a.src", "./a.src", "c.src"], none, false, false, false⟩ (sampleFiles false)
        [some "1\n", some "P\n"]).fs.readText "./a.src" =
          some (print (Block.detuple "P" b) ++ "\n")) ∧
    (run (.inPlace ["a.src", "d.src", "c.src"] "P" false) (sampleFiles false) []).ending =
      .unreadable ∧
    (run (.inPlace ["a.src", "d.src", "c.src"] "P" false) (sampleFiles false) []).fs.files[2]? =
      (sampleFiles false).files[2]? ∧
    (run (.inPlace ["a.src"] "1" false) (sampleFiles false) [none]).fs = sampleFiles false := by
  have hzero : (run ⟨["a.src", "./a.src", "c.src"], none, false, false, false⟩ (sampleFiles false)
      [some "1\n", some "P\n"]).ending.code = 0 := by decide +kernel
  have hanswer : (needTypeName none [some "1\n", some "P\n"]).answer = some "P" := by
    decide +kernel
  have hfails : Options.FailsAt (.inPlace ["a.src", "d.src", "c.src"] "P" false)
      (sampleFiles false) "d.src" := Or.inl (by decide +kernel)
  have hbad : isIdentifier "1" = false := by decide
  obtain ⟨-, -, hcode, hstored, -, -⟩ := run_exit_code
    ⟨["a.src", "./a.src", "c.src"], none, false, false, false⟩ (sampleFiles false)
    [some "1\n", some "P\n"]
  obtain ⟨typeName, hname, hfiles⟩ := hstored hzero ⟨rfl, rfl⟩
  obtain rfl : "P" = typeName := Option.some.inj (hanswer.symm.trans hname)
  obtain ⟨-, -, -, -, -, hlast⟩ := run_exit_code (.inPlace ["a.src", "d.src", "c.src"] "P" false)
    (sampleFiles false) []
  obtain ⟨-, hwithout, -⟩ := run_exit_code (.inPlace ["a.src"] "1" false) (sampleFiles false) []
  refine ⟨((hcode fun _ h => nomatch h).1.1 hzero).2, hfiles "./a.src" (by decide),
    by decide +kernel, ?_, ?_⟩
  · exact (hlast ["a.src"] "d.src" ["c.src"] rfl hfails).2 2 (by decide)
  · rw [hwithout "1" rfl hbad]

/-- The end of the input is not all that a question can meet: a line that is no text ends the run as
well, with the exit code 1, although there is more input and the one file can be accepted. -/
theorem run_exit_code_not_text :
    ¬((run ⟨["a.src"], none, false, false, false⟩ (sampleFiles false)
          [none, some "P\n"]).ending.code = 0 ↔
        ¬((run ⟨["a.src"], none, false, false, false⟩ (sampleFiles false)
            [none, some "P\n"]).ending = .unanswered ∧
          (run ⟨["a.src"], none, false, false, false⟩ (sampleFiles false)
            [none, some "P\n"]).unread = []) ∧
        ∀ path ∈ ["a.src"], Options.Accepts ⟨["a.src"], none, false, false, false⟩
          (sampleFiles false) path) := by
  have hcode : (run ⟨["a.src"], none, false, false, false⟩ (sampleFiles false)
      [none, some "P\n"]).ending.code = 1 := by decide +kernel
  have hunread : (run ⟨["a.src"], none, false, false, false⟩ (sampleFiles false)
      [none, some "P\n"]).unread = [some "P\n"] := by decide +kernel
  have haccepts : Options.Accepts ⟨["a.src"], none, false, false, false⟩ (sampleFiles false)
      "a.src" := by
    refine ⟨⟨"\x7bvar x=(1);\x7d", [.var "x" (.tuple [.num "1"])], by decide +kernel, by rfl⟩, ?_⟩
    intro _ text hnone
    have hlocked := FileSystem.writeText_eq_none_iff.1 hnone 0 _ rfl rfl
    exact absurd hlocked (by decide)
  intro hiff
  have hzero := hiff.2 ⟨fun hend => ?_, fun path hpath => ?_⟩
  · rw [hcode] at hzero
    cases hzero
  · rw [hunread] at hend
    cases hend.2
  · rw [List.mem_singleton.1 hpath]
    exact haccepts

end Command

end Detuple
