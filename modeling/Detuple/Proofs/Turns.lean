import Detuple.Command
import Detuple.Command.Turns

/-!
# Proofs: the rules of running

The rules say of every file what becomes of the run, so that the outcome they describe is the one
that is computed (`runs_iff`).
-/

namespace Detuple.Command

variable {o : Options}

/-- Every file lets a run go on or ends it. -/
theorem turn_or_stop (o : Options) (path : String) (s : Standing) :
    (∃ actions next, Turn o path s actions next) ∨
      ∃ actions ending unread, Stop o path s actions ending unread := by
  cases hread : s.fs.readText path with
  | none => exact Or.inr ⟨_, _, _, .unreadable hread⟩
  | some source =>
    cases hparse : parse source with
    | error e => exact Or.inl ⟨_, _, .refused hread hparse⟩
    | ok b =>
      cases hdry : o.dryRun with
      | true => exact Or.inl ⟨_, _, .checked hread hparse hdry⟩
      | false =>
        rcases hname : needTypeName s.known s.unread with ⟨answer, said, unread⟩
        cases answer with
        | none => exact Or.inr ⟨_, _, _, .unanswered hread hparse hdry hname⟩
        | some name =>
          cases hprint : o.print with
          | true => exact Or.inl ⟨_, _, .shown hread hparse hdry hname hprint⟩
          | false =>
            cases hwrite : s.fs.writeText path (fileText name b) with
            | none => exact Or.inr ⟨_, _, _, .unwritable hread hparse hdry hname hprint hwrite⟩
            | some fs => exact Or.inl ⟨_, _, .stored hread hparse hdry hname hprint hwrite⟩

/-- A run goes on as the rule says. -/
theorem Turn.runPaths_cons {path : String} {s next : Standing} {actions : List Action}
    (h : Turn o path s actions next) (paths : List String) :
    runPaths o s.refused s.known (path :: paths) s.fs s.unread =
      (runPaths o next.refused next.known paths next.fs next.unread).after actions := by
  cases h with
  | refused hread hparse => simp only [runPaths, hread, hparse]
  | checked hread hparse hdry => simp only [runPaths, hread, hparse, hdry]; rfl
  | shown hread hparse hdry hname hprint =>
    simp only [runPaths, hread, hparse, hdry, hname, hprint]; rfl
  | stored hread hparse hdry hname hprint hwrite =>
    rw [fileText] at hwrite
    simp only [runPaths, hread, hparse, hdry, hname, hprint, hwrite]; rfl

/-- A run ends as the rule says, whatever files are left. -/
theorem Stop.runPaths_cons {path : String} {s : Standing} {actions : List Action} {ending : Ending}
    {unread : Lines} (h : Stop o path s actions ending unread) (paths : List String) :
    runPaths o s.refused s.known (path :: paths) s.fs s.unread =
      ⟨ending, actions, s.fs, unread⟩ := by
  cases h with
  | unreadable hread => simp only [runPaths, hread]
  | unanswered hread hparse hdry hname => simp only [runPaths, hread, hparse, hdry, hname]; rfl
  | unwritable hread hparse hdry hname hprint hwrite =>
    rw [fileText] at hwrite
    simp only [runPaths, hread, hparse, hdry, hname, hprint, hwrite]; rfl

/-- What is computed is an outcome by the rules. -/
theorem runs_runPaths (o : Options) (paths : List String) (s : Standing) :
    Runs o paths s (runPaths o s.refused s.known paths s.fs s.unread) := by
  induction paths generalizing s with
  | nil => exact .finished s
  | cons path paths ih =>
    rcases turn_or_stop o path s with ⟨actions, next, h⟩ | ⟨actions, ending, unread, h⟩
    · rw [h.runPaths_cons]
      exact .turned h (ih next)
    · rw [h.runPaths_cons]
      exact .stopped paths h

/-- The rules describe the outcome that is computed, and no other. -/
theorem runs_iff {paths : List String} {s : Standing} {outcome : Outcome} :
    Runs o paths s outcome ↔ runPaths o s.refused s.known paths s.fs s.unread = outcome := by
  constructor
  · intro h
    induction h with
    | finished s => rfl
    | stopped paths h => exact h.runPaths_cons paths
    | turned h hrest ih => rw [h.runPaths_cons, ih]
  · rintro rfl
    exact runs_runPaths o paths s

/-- A file that ends a run leaves it unfinished, with the exit code 1. -/
theorem Stop.code {path : String} {s : Standing} {actions : List Action} {ending : Ending}
    {unread : Lines} (h : Stop o path s actions ending unread) :
    ending.code = 1 ∧ ∀ refused, ending ≠ .finished refused := by
  cases h with
  | unreadable hread => exact ⟨rfl, fun _ heq => nomatch heq⟩
  | unanswered hread hparse hdry hname => exact ⟨rfl, fun _ heq => nomatch heq⟩
  | unwritable hread hparse hdry hname hprint hwrite => exact ⟨rfl, fun _ heq => nomatch heq⟩

/-- What is done before a run is shown before what the run shows. -/
theorem output_after (outcome : Outcome) (actions : List Action) :
    (outcome.after actions).output = actions.filterMap Action.output? ++ outcome.output :=
  List.filterMap_append

/-! ## Runs that go on -/

/-- A run that goes on is followed by any run from where it then stands. -/
theorem Turns.runs {paths later : List String} {s last : Standing} {actions : List Action}
    {outcome : Outcome} (h : Turns o paths s actions last) (hlater : Runs o later last outcome) :
    Runs o (paths ++ later) s (outcome.after actions) := by
  induction h with
  | none s => exact hlater
  | @next _ _ _ _ _ actions actions' hturn hrest ih =>
    have hboth : outcome.after (actions ++ actions') = (outcome.after actions').after actions := by
      simp only [Outcome.after, List.append_assoc]
    rw [hboth]
    exact .turned hturn (ih hlater)

/-- A run takes all its files, and then it could go on; or one of them ends it, and then it is the
same with any files after them. -/
theorem Runs.turns_or_stopped {paths : List String} {s : Standing} {outcome : Outcome}
    (h : Runs o paths s outcome) :
    (∃ last, Turns o paths s outcome.actions last ∧ outcome.ending = .finished last.refused) ∨
      (outcome.ending.code = 1 ∧ (∀ refused, outcome.ending ≠ .finished refused) ∧
        ∀ later, Runs o (paths ++ later) s outcome) := by
  induction h with
  | finished s => exact Or.inl ⟨s, .none s, rfl⟩
  | stopped paths hstop =>
    obtain ⟨hcode, hending⟩ := hstop.code
    exact Or.inr ⟨hcode, hending, fun later => .stopped (paths ++ later) hstop⟩
  | turned hturn hrest ih =>
    rcases ih with ⟨last, hturns, hending⟩ | ⟨hcode, hending, hlater⟩
    · exact Or.inl ⟨last, .next hturn hturns, hending⟩
    · exact Or.inr ⟨hcode, hending, fun later => .turned hturn (hlater later)⟩

/-! ## The whole command -/

section

variable {fs : FileSystem} {input : Lines}

theorem Options.askedPath_of_paths (h : o.paths ≠ []) : o.askedPath input = ⟨none, [], input⟩ :=
  if_neg h

theorem Options.targets_of_paths (h : o.paths ≠ []) : o.targets input = o.paths := by
  rw [Options.targets, Options.askedPath_of_paths h, Option.toList_none, List.append_nil]

/-- A given name that is no identifier ends the command before anything else. -/
theorem run_of_badTypeName {name : String} (hgiven : name ∈ o.typeName)
    (hbad : isIdentifier name = false) : run o fs input =
      ⟨.badTypeName, [.say ("'" ++ name ++ "' is not a valid type name\n")], fs, input⟩ := by
  have hfilter : (o.typeName.filter fun name => !isIdentifier name) = some name := by
    rw [Option.filter_eq_some_iff, hbad]
    exact ⟨hgiven, rfl⟩
  rw [run, hfilter]

/-- Without a bad name, the command asks for a path if it has none, and takes the files unless there
is no answer. -/
theorem run_of_typeName (hgiven : ∀ name ∈ o.typeName, isIdentifier name = true) :
    run o fs input =
      if o.targets input = [] then
        ⟨.unanswered, (o.askedPath input).said.map .say, fs, (o.askedPath input).unread⟩
      else (runPaths o false o.typeName (o.targets input) fs (o.askedPath input).unread).after
        ((o.askedPath input).said.map .say) := by
  have hfilter : (o.typeName.filter fun name => !isIdentifier name) = none := by
    rw [Option.filter_eq_none_iff]
    intro name hname
    rw [hgiven name hname]
    exact Bool.false_ne_true
  rw [run, hfilter]
  by_cases hpaths : o.paths = []
  · have hasked : o.askedPath input = ask "File name: " (· ≠ "") input := if_pos hpaths
    have htargets : o.targets input = (o.askedPath input).answer.toList := by
      rw [Options.targets, hpaths, List.nil_append]
    simp only [if_pos hpaths, ← hasked, htargets]
    cases (o.askedPath input).answer with
    | none => rfl
    | some path => rfl
  · simp only [if_neg hpaths, Options.targets_of_paths hpaths, Options.askedPath_of_paths hpaths]
    rfl

/-- With paths that are given, and no name that is none, a run begins with the first file. -/
theorem runs_paths_iff (hgiven : ∀ name ∈ o.typeName, isIdentifier name = true)
    (hpaths : o.paths ≠ []) {outcome : Outcome} :
    Runs o o.paths ⟨false, o.typeName, fs, input⟩ outcome ↔ run o fs input = outcome := by
  rw [run_of_typeName hgiven, Options.targets_of_paths hpaths, Options.askedPath_of_paths hpaths,
    if_neg hpaths, runs_iff]
  rfl

/-- The rules describe the outcome of the command, and no other. -/
theorem completes_iff {outcome : Outcome} : Completes o fs input outcome ↔
    run o fs input = outcome := by
  constructor
  · intro h
    cases h with
    | badTypeName hgiven hbad => exact run_of_badTypeName hgiven hbad
    | unanswered hgiven htargets => rw [run_of_typeName hgiven, if_pos htargets]
    | taken hgiven htargets h =>
      rw [run_of_typeName hgiven, if_neg htargets]
      exact congrArg (Outcome.after · _) (runs_iff.1 h)
  · rintro rfl
    by_cases hgiven : ∀ name ∈ o.typeName, isIdentifier name = true
    · rw [run_of_typeName hgiven]
      by_cases htargets : o.targets input = []
      · rw [if_pos htargets]
        exact .unanswered hgiven htargets
      · rw [if_neg htargets]
        exact .taken hgiven htargets (runs_iff.2 rfl)
    · simp only [Classical.not_forall, Bool.not_eq_true] at hgiven
      obtain ⟨name, hname, hbad⟩ := hgiven
      rw [run_of_badTypeName hname hbad]
      exact .badTypeName hname hbad

end

end Detuple.Command
