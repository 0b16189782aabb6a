import Detuple.Proofs.FileSafety

/-!
# Proofs: a file that holds no program

A refused file leaves one trace in a run, that some file was refused, and nothing but the exit code
depends on that (`Runs.of_refused`). So a run with such a file is set beside the run without it.
Either both end before they come to the file, or both have then taken the same turns
(`Runs.turns_or_stopped`). The file is still refused there, since it has not been changed by then,
and from there on both do the same (`Turns.runs_refused`).
-/

namespace Detuple.Command

variable {o : Options} {fs : FileSystem} {s next : Standing} {outcome : Outcome}
  {paths : List String} {path : String} {actions : List Action} {ending : Ending}
  {input unread : Lines}

/-! ## Runs that have refused a file -/

/-- A turn is the same after a file has been refused. -/
theorem Turn.of_refused (h : Turn o path s actions next) :
    Turn o path { s with refused := true } actions { next with refused := true } := by
  cases h with
  | refused hread hparse => exact .refused hread hparse
  | checked hread hparse hdry => exact .checked hread hparse hdry
  | shown hread hparse hdry hname hprint => exact .shown hread hparse hdry hname hprint
  | stored hread hparse hdry hname hprint hwrite =>
    exact .stored hread hparse hdry hname hprint hwrite

/-- A file ends a run in the same way after another has been refused. -/
theorem Stop.of_refused (h : Stop o path s actions ending unread) :
    Stop o path { s with refused := true } actions ending unread := by
  cases h with
  | unreadable hread => exact .unreadable hread
  | unanswered hread hparse hdry hname => exact .unanswered hread hparse hdry hname
  | unwritable hread hparse hdry hname hprint hwrite =>
    exact .unwritable hread hparse hdry hname hprint hwrite

/-- A run that has refused a file does what it would have done else, and tells of it in the end. -/
theorem Runs.of_refused (h : Runs o paths s outcome) :
    ∃ ending, ending.code = 1 ∧
      Runs o paths { s with refused := true } { outcome with ending := ending } := by
  induction h with
  | finished s => exact ⟨.finished true, rfl, .finished { s with refused := true }⟩
  | stopped paths hstop => exact ⟨_, hstop.code.1, .stopped paths hstop.of_refused⟩
  | turned hturn hrest ih =>
    obtain ⟨ending, hcode, hruns⟩ := ih
    exact ⟨ending, hcode, .turned hturn.of_refused hruns⟩

/-! ## Runs with and without a file -/

/-- What is done about a refused file shows one thing. -/
theorem exists_output_refuse (path source : String) (e : ParseError) :
    ∃ report, (refuse path source e).output? = some report := by
  unfold refuse
  cases Report.ofError? path source e with
  | none => exact ⟨_, rfl⟩
  | some r => exact ⟨_, rfl⟩

/-- A refused file within a run only adds its report, and shows in how the run ends. -/
theorem Turns.runs_refused {before later : List String} {last : Standing} {source : String}
    {e : ParseError} {rest : Outcome} (h : Turns o before s actions last)
    (hread : last.fs.readText path = some source) (hparse : parse source = .error e)
    (hrest : Runs o later last rest) :
    ∃ report all, (refuse path source e).output? = some report ∧
      Runs o (before ++ path :: later) s all ∧ all.ending.code = 1 ∧ all.fs = rest.fs ∧
      all.unread = rest.unread ∧
      all.output = actions.filterMap Action.output? ++ report :: rest.output := by
  obtain ⟨report, hreport⟩ := exists_output_refuse path source e
  obtain ⟨ending, hcode, hrest'⟩ := hrest.of_refused
  have hturn : Turn o path last _ { last with refused := true } := .refused hread hparse
  refine ⟨report, _, hreport, h.runs (.turned hturn hrest'), hcode, rfl, rfl, ?_⟩
  rw [output_after, output_after, List.filterMap_cons_none rfl, List.filterMap_cons_none rfl,
    List.filterMap_cons_some hreport]
  rfl

/-- The paths among the options only say which files to take. -/
theorem runPaths_withPaths (o : Options) (listed : List String) (refused : Bool)
    (known : Option String) (paths : List String) (fs : FileSystem) (input : Lines) :
    runPaths { o with paths := listed } refused known paths fs input =
      runPaths o refused known paths fs input := by
  induction paths generalizing refused known fs input with
  | nil => rfl
  | cons path paths ih => simp only [runPaths, ih]

/-- The command with other paths among the options is the run over these. -/
theorem runs_withPaths_iff (hgiven : ∀ name ∈ o.typeName, isIdentifier name = true)
    (hpaths : paths ≠ []) :
    Runs o paths ⟨false, o.typeName, fs, input⟩ outcome ↔
      run { o with paths := paths } fs input = outcome := by
  rw [← runs_paths_iff (o := { o with paths := paths }) hgiven hpaths, runs_iff, runs_iff]
  show runPaths o false o.typeName paths fs input = outcome ↔
    runPaths { o with paths := paths } false o.typeName paths fs input = outcome
  rw [runPaths_withPaths o paths]

/-- **A file that holds no program makes no difference to the others.** A run with such a file among
its files leaves all files and the input as the run without it does, and it shows the same, but for
the report on that file, which comes when the files before it have been taken. If one of these ends
the run, the file is not reported at all. The exit code is 1 in any case. -/
theorem run_isolates_refused (o : Options) (fs : FileSystem) (input : Lines)
    (before later : List String) {path source : String} {e : ParseError}
    (hothers : before ++ later ≠ []) (hgiven : ∀ name ∈ o.typeName, isIdentifier name = true)
    (hread : fs.readText path = some source) (hparse : parse source = .error e) :
    let first := runPaths o false o.typeName before fs input
    let others := run { o with paths := before ++ later } fs input
    let all := run { o with paths := before ++ path :: later } fs input
    all.ending.code = 1 ∧ all.fs = others.fs ∧ all.unread = others.unread ∧
      ∃ report shown, (refuse path source e).output? = some report ∧
        others.output = first.output ++ shown ∧
        ((∃ refused, first.ending = .finished refused) →
          all.output = first.output ++ report :: shown) ∧
        ((∀ refused, first.ending ≠ .finished refused) → all.output = others.output) := by
  intro first others all
  have hpaths : before ++ path :: later ≠ [] :=
    List.append_ne_nil_of_right_ne_nil _ (List.cons_ne_nil _ _)
  have hfirst : Runs o before ⟨false, o.typeName, fs, input⟩ first := runs_iff.2 rfl
  rcases hfirst.turns_or_stopped with ⟨last, hturns, hending⟩ | ⟨hcode, hending, hstopped⟩
  · have hlast : last.From fs := hturns.from ⟨hgiven, .refl _ fs⟩
    have hread' : last.fs.readText path = some source :=
      (hlast.detupled.readText_eq_some_iff_of_refused hparse).2 hread
    obtain ⟨rest, hrest⟩ : ∃ rest, Runs o later last rest := ⟨_, runs_runPaths o later last⟩
    have hothersEq : others = rest.after first.actions :=
      (runs_withPaths_iff hgiven hothers).1 (hturns.runs hrest)
    obtain ⟨report, outcome, hreport, hruns, hcode, hfs, hunread, houtput⟩ :=
      hturns.runs_refused hread' hparse hrest
    have hallEq : all = outcome := (runs_withPaths_iff hgiven hpaths).1 hruns
    rw [hothersEq, hallEq]
    refine ⟨hcode, hfs, hunread, report, rest.output, hreport, output_after rest first.actions,
      fun _ => houtput, fun hnone => absurd hending (hnone last.refused)⟩
  · -- A file before it ends the run, so the run never comes to the file.
    obtain ⟨report, hreport⟩ := exists_output_refuse path source e
    have hothersEq : others = first := (runs_withPaths_iff hgiven hothers).1 (hstopped later)
    have hallEq : all = first := (runs_withPaths_iff hgiven hpaths).1 (hstopped (path :: later))
    rw [hothersEq, hallEq]
    exact ⟨hcode, rfl, rfl, report, [], hreport, (List.append_nil _).symm,
      fun ⟨refused, heq⟩ => absurd heq (hending refused), fun _ => rfl⟩

/-- The name is asked for once the first file has been refused, and a file behind one that cannot be
read is not refused at all. -/
theorem run_isolates_refused_asked :
    (run ⟨["b.src", "a.src"], none, false, false, false⟩ (sampleFiles false) [some "P\n"]).output =
        [.report ⟨"b.src", "\x7bvar", 1, 4, "r", "unexpected end of input"⟩, .text "Type name: "] ∧
      (run ⟨["b.src", "a.src"], none, false, false, false⟩ (sampleFiles false)
        [some "P\n"]).ending.code = 1 ∧
      (run ⟨["b.src", "a.src"], none, false, false, false⟩ (sampleFiles false) [some "P\n"]).fs =
        (run ⟨["a.src"], none, false, false, false⟩ (sampleFiles false) [some "P\n"]).fs ∧
      (run ⟨["d.src", "b.src"], none, false, false, false⟩ (sampleFiles false) []).output =
        [.text "Failed to read file 'd.src'\n"] := by
  have hread : (sampleFiles false).readText "b.src" = some "\x7bvar" := by decide +kernel
  have hparse : parse "\x7bvar" = .error (.unexpectedEnd 4) := by rfl
  have hgiven : ∀ name ∈ (none : Option String), isIdentifier name = true := fun _ h => nomatch h
  have hreport : (refuse "b.src" "\x7bvar" (.unexpectedEnd 4)).output? =
      some (.report ⟨"b.src", "\x7bvar", 1, 4, "r", "unexpected end of input"⟩) := by decide +kernel
  obtain ⟨hcode, hfs, -, report, shown, hreport', hothers, hall, -⟩ :=
    run_isolates_refused ⟨[], none, false, false, false⟩ (sampleFiles false) [some "P\n"] []
      ["a.src"] (by decide) hgiven hread hparse
  obtain rfl := Option.some.inj (hreport.symm.trans hreport')
  have hasked : (run ⟨["a.src"], none, false, false, false⟩ (sampleFiles false)
      [some "P\n"]).output = [.text "Type name: "] := by decide +kernel
  obtain rfl : [.text "Type name: "] = shown := hasked.symm.trans hothers
  obtain ⟨-, -, -, -, -, -, -, -, hunreached⟩ :=
    run_isolates_refused ⟨[], none, false, false, false⟩ (sampleFiles false) [] ["d.src"]
      [] (by decide) hgiven hread hparse
  exact ⟨hall ⟨false, rfl⟩, hcode, hfs, (hunreached (by decide +kernel)).trans (by decide +kernel)⟩

end Detuple.Command
