import Detuple.Proofs.FileSafety

/-!
# Proofs: detupling files in place

When files are detupled in place, to a type that is given, a run has nothing to ask: a file is
refused, or its program is replaced without a word (`Turn.inPlace_cases`), or the run ends there
(`Stop.inPlace_cases`). Two more runs are set beside such a run. One only checks the files, as they
were at first: it meets the same refusals, since detupling a file makes no difference to them. The
other does it all again, on the files as they are at the end. What a turn has written is still there
then, since all that could have come later is the same text again; so it is written once more
(`FileSystem.Detupled.writeText_again`), whatever the type is now.
-/

namespace Detuple.Command

variable {o : Options} {fs : FileSystem} {s next : Standing} {outcome : Outcome}
  {listed paths : List String} {path name : String} {actions : List Action} {ending : Ending}
  {input left : Lines} {verbose : Bool}

/-! ## Turns in place -/

/-- In place, with a name that is known, a turn refuses a file and reports it, or replaces its
program and shows nothing. -/
theorem Turn.inPlace_cases (h : Turn (.inPlace listed name verbose) path s actions next)
    (hknown : s.known = some name) :
    (∃ source e, s.fs.readText path = some source ∧ parse source = .error e ∧
      next = { s with refused := true } ∧
      actions.filterMap Action.output? = [refuse path source e].filterMap Action.output?) ∨
    ∃ source b fs', s.fs.readText path = some source ∧ parse source = .ok b ∧
      s.fs.writeText path (fileText name b) = some fs' ∧ next = { s with fs := fs' } ∧
      actions.filterMap Action.output? = [] := by
  cases h with
  | refused hread hparse => exact Or.inl ⟨_, _, hread, hparse, rfl, rfl⟩
  | checked _ _ hdry => cases hdry
  | shown _ _ _ _ hprint => cases hprint
  | stored hread hparse _ hname _ hwrite =>
    rw [hknown] at hname
    cases hname
    exact Or.inr ⟨_, _, _, hread, hparse, hwrite, by rw [hknown], rfl⟩

/-- In place, a file ends a run because reading or writing fails, and that is shown. -/
theorem Stop.inPlace_cases (h : Stop (.inPlace listed name verbose) path s actions ending left)
    (hknown : s.known = some name) :
    (s.fs.readText path = none ∧ ending = .unreadable ∧
      actions.filterMap Action.output? = [.text ("Failed to read file '" ++ path ++ "'\n")]) ∨
    ∃ source b, s.fs.readText path = some source ∧ parse source = .ok b ∧
      s.fs.writeText path (fileText name b) = none ∧ ending = .unwritable ∧
      actions.filterMap Action.output? = [.text ("Failed to write file '" ++ path ++ "'\n")] := by
  cases h with
  | unreadable hread => exact Or.inl ⟨hread, rfl, rfl⟩
  | unanswered _ _ _ hname =>
    rw [hknown] at hname
    cases hname
  | unwritable hread hparse _ hname _ hwrite =>
    rw [hknown] at hname
    cases hname
    exact Or.inr ⟨_, _, hread, hparse, hwrite, rfl, rfl⟩

/-- A run may begin with the files as they are. -/
theorem Standing.from_self (hknown : s.known = some name) (hname : isIdentifier name = true) :
    s.From s.fs := by
  refine ⟨?_, .refl _ s.fs⟩
  rw [hknown]
  rintro _ ⟨⟩
  exact hname

/-- The command in place is the run over its paths, with the given name. -/
theorem runs_inPlace_iff (hpaths : paths ≠ []) (hname : isIdentifier name = true) :
    Runs (.inPlace paths name verbose) paths ⟨false, some name, fs, input⟩ outcome ↔
      run (.inPlace paths name verbose) fs input = outcome := by
  refine runs_paths_iff (o := .inPlace paths name verbose) ?_ hpaths
  rintro _ ⟨⟩
  exact hname

/-! ## Checking the files first -/

section

variable (known : Option String) (unread : Lines)

/-- Where a turn in place refuses a file or replaces its program, checking the files as they were at
first takes a turn that shows the same. -/
theorem Turn.check_of_store (hcheck : o.dryRun = true)
    (h : Turn (.inPlace listed name verbose) path s actions next) (hfrom : s.From fs)
    (hknown : s.known = some name) :
    ∃ actions', Turn o path ⟨s.refused, known, fs, unread⟩ actions'
        ⟨next.refused, known, fs, unread⟩ ∧
      actions'.filterMap Action.output? = actions.filterMap Action.output? := by
  rcases h.inPlace_cases hknown with
    ⟨source, e, hread, hparse, rfl, houtput⟩ | ⟨source, b, fs', hread, hparse, -, rfl, houtput⟩
  · have hread₀ := (hfrom.detupled.readText_eq_some_iff_of_refused hparse).1 hread
    exact ⟨_, .refused hread₀ hparse, houtput.symm⟩
  · obtain ⟨source₀, b₀, hread₀, hparse₀, -⟩ := hfrom.detupled.exists_program hread hparse
    exact ⟨_, .checked hread₀ hparse₀ hcheck, houtput.symm⟩

/-- Where a run in place stops, checking stops as well, if all programs can be written. -/
theorem Stop.check_of_store (o : Options)
    (h : Stop (.inPlace listed name verbose) path s actions ending left) (hfrom : s.From fs)
    (hknown : s.known = some name) (hwritable : fs.ProgramsWritable (path :: paths)) :
    ∃ actions', Stop o path ⟨s.refused, known, fs, unread⟩ actions' ending unread ∧
      actions'.filterMap Action.output? = actions.filterMap Action.output? := by
  rcases h.inPlace_cases hknown with
    ⟨hread, rfl, houtput⟩ | ⟨source, b, hread, hparse, hwrite, -, -⟩
  · have hread₀ := (hfrom.detupled.readText_eq_none_iff path).1 hread
    exact ⟨_, .unreadable (s := ⟨s.refused, known, fs, unread⟩) hread₀, houtput.symm⟩
  · have hwritable' := hwritable.of_detupled hfrom.detupled
    exact absurd hwrite (hwritable' path List.mem_cons_self source b hread hparse _)

/-- Checking the files as they were at first goes as the run in place, and touches neither files nor
input. -/
theorem Runs.check_of_store (hcheck : o.dryRun = true)
    (h : Runs (.inPlace listed name verbose) paths s outcome) (hfrom : s.From fs)
    (hknown : s.known = some name) (hwritable : fs.ProgramsWritable paths) :
    ∃ outcome', Runs o paths ⟨s.refused, known, fs, unread⟩ outcome' ∧ outcome'.fs = fs ∧
      outcome'.unread = unread ∧ outcome'.ending = outcome.ending ∧
      outcome'.output = outcome.output := by
  induction h with
  | finished s => exact ⟨_, .finished ⟨s.refused, known, fs, unread⟩, rfl, rfl, rfl, rfl⟩
  | stopped paths hstop =>
    obtain ⟨actions', hstop', houtput⟩ := hstop.check_of_store known unread o hfrom hknown hwritable
    exact ⟨_, .stopped paths hstop', rfl, rfl, rfl, houtput⟩
  | turned hturn hrest ih =>
    obtain ⟨actions', hturn', houtput⟩ := hturn.check_of_store known unread hcheck hfrom hknown
    obtain ⟨hnext, hkeep⟩ := hturn.from hfrom
    obtain ⟨outcome', hruns, hfs, hunread, hending, houtput'⟩ := ih hnext (hkeep name hknown)
      fun path hpath => hwritable path (List.mem_cons_of_mem _ hpath)
    refine ⟨_, .turned hturn' hruns, hfs, hunread, hending, ?_⟩
    rw [output_after, output_after, houtput, houtput']

end

/-- **Checking files predicts what detupling them in place shows and how it ends**, as long as all
programs can be stored. It changes no file and reads no input. -/
theorem run_check_predicts_store (o : Options) (fs : FileSystem) (input input' : Lines)
    (typeName : String) (verbose : Bool) (hcheck : o.dryRun = true) (hpaths : o.paths ≠ [])
    (hgiven : ∀ name ∈ o.typeName, isIdentifier name = true)
    (hname : isIdentifier typeName = true) (hwritable : fs.ProgramsWritable o.paths) :
    (run o fs input).fs = fs ∧ (run o fs input).unread = input ∧
      (run o fs input).ending = (run (.inPlace o.paths typeName verbose) fs input').ending ∧
      (run o fs input).output = (run (.inPlace o.paths typeName verbose) fs input').output := by
  have hstore : Runs (.inPlace o.paths typeName verbose) o.paths ⟨false, some typeName, fs, input'⟩
      (run (.inPlace o.paths typeName verbose) fs input') := (runs_inPlace_iff hpaths hname).2 rfl
  obtain ⟨outcome, hruns, hfs, hunread, hending, houtput⟩ :=
    hstore.check_of_store o.typeName input hcheck (Standing.from_self rfl hname) rfl hwritable
  rw [(runs_paths_iff hgiven hpaths).1 hruns]
  exact ⟨hfs, hunread, hending, houtput⟩

/-- A program that is met twice, a text that is none, and a path that leads nowhere. -/
theorem run_check_predicts_store_unreadable :
    (run ⟨samplePaths "d.src", none, false, true, false⟩ (sampleFiles false) [some "P\n"]).output =
        [.report ⟨"b.src", "\x7bvar", 1, 4, "r", "unexpected end of input"⟩,
          .text "Failed to read file 'd.src'\n"] ∧
      (run (.inPlace (samplePaths "d.src") "P" false) (sampleFiles false) []).output =
        [.report ⟨"b.src", "\x7bvar", 1, 4, "r", "unexpected end of input"⟩,
          .text "Failed to read file 'd.src'\n"] ∧
      (run ⟨samplePaths "d.src", none, false, true, false⟩ (sampleFiles false)
        [some "P\n"]).unread = [some "P\n"] := by
  have hwritable : (sampleFiles false).ProgramsWritable (samplePaths "d.src") :=
    .of_writable (by decide) _
  have hchecked : (run ⟨samplePaths "d.src", none, false, true, false⟩ (sampleFiles false)
      [some "P\n"]).output = [.report ⟨"b.src", "\x7bvar", 1, 4, "r", "unexpected end of input"⟩,
        .text "Failed to read file 'd.src'\n"] := by decide +kernel
  obtain ⟨-, hunread, -, houtput⟩ := run_check_predicts_store
    ⟨samplePaths "d.src", none, false, true, false⟩ (sampleFiles false) [some "P\n"] [] "P" false
    rfl (by decide) (fun _ hnone => nomatch hnone) (by decide) hwritable
  exact ⟨hchecked, houtput.symm.trans hchecked, hunread⟩

/-! ## Doing it all again -/

section

variable (other : String) (verbose' : Bool) (unread : Lines)

/-- A turn is repeated on files that are as the turn left them, or detupled since then. -/
theorem Turn.repeat (h : Turn (.inPlace listed name verbose) path s actions next)
    (hknown : s.known = some name) (hname : isIdentifier name = true)
    (hlater : next.fs.Detupled (some name) fs) :
    ∃ actions', Turn (.inPlace listed other verbose') path ⟨s.refused, some other, fs, unread⟩
        actions' ⟨next.refused, some other, fs, unread⟩ ∧
      actions'.filterMap Action.output? = actions.filterMap Action.output? := by
  rcases h.inPlace_cases hknown with
    ⟨source, e, hread, hparse, rfl, houtput⟩ | ⟨source, b, fs', hread, hparse, hwrite, rfl, houtput⟩
  · have hread' := (hlater.readText_eq_some_iff_of_refused hparse).2 hread
    exact ⟨_, .refused hread' hparse, houtput.symm⟩
  · obtain ⟨hread', hwrite'⟩ := hlater.writeText_again hname hread hparse hwrite
    have hparse' := parse_fileText (Block.wellFormed_of_parse hparse) hname
    rw [← fileText_detuple other] at hwrite'
    exact ⟨_, .stored hread' hparse' rfl rfl rfl hwrite', houtput.symm⟩

/-- Where a run in place has stopped, it stops again. -/
theorem Stop.repeat (h : Stop (.inPlace listed name verbose) path s actions ending left)
    (hknown : s.known = some name) :
    ∃ actions', Stop (.inPlace listed other verbose') path ⟨s.refused, some other, s.fs, unread⟩
        actions' ending unread ∧
      actions'.filterMap Action.output? = actions.filterMap Action.output? := by
  rcases h.inPlace_cases hknown with
    ⟨hread, rfl, houtput⟩ | ⟨source, b, hread, hparse, hwrite, rfl, houtput⟩
  · exact ⟨_, .unreadable (s := ⟨s.refused, some other, s.fs, unread⟩) hread, houtput.symm⟩
  · have hwrite' : s.fs.writeText path (fileText other b) = none :=
      (FileSystem.Detupled.refl none s.fs).writeText_eq_none_iff.1 hwrite
    exact ⟨_, .unwritable (s := ⟨s.refused, some other, s.fs, unread⟩) hread hparse rfl rfl rfl
      hwrite', houtput.symm⟩

/-- On the files as it has left them, a run in place does the same again, and they stay as they
are. -/
theorem Runs.repeat (h : Runs (.inPlace listed name verbose) paths s outcome)
    (hknown : s.known = some name) (hname : isIdentifier name = true) :
    ∃ outcome', Runs (.inPlace listed other verbose') paths
        ⟨s.refused, some other, outcome.fs, unread⟩ outcome' ∧
      outcome'.fs = outcome.fs ∧ outcome'.ending = outcome.ending ∧
      outcome'.output = outcome.output := by
  induction h with
  | finished s => exact ⟨_, .finished ⟨s.refused, some other, s.fs, unread⟩, rfl, rfl, rfl⟩
  | stopped paths hstop =>
    obtain ⟨actions', hstop', houtput⟩ := hstop.repeat other verbose' unread hknown
    exact ⟨_, .stopped paths hstop', rfl, rfl, houtput⟩
  | @turned _ _ s next _ outcome hturn hrest ih =>
    have hnext : next.known = some name :=
      (hturn.from (Standing.from_self hknown hname)).2 name hknown
    -- The rest of the run does to this file, if anything, what has been done already.
    obtain ⟨known, hlater, -, hkeep⟩ := hrest.detupled (Standing.from_self hnext hname)
    obtain rfl : known = some name := hkeep name hnext
    obtain ⟨actions', hturn', houtput⟩ :=
      hturn.repeat other verbose' unread hknown hname hlater
    obtain ⟨outcome', hruns, hfs, hending, houtput'⟩ := ih hnext
    refine ⟨_, .turned hturn' hruns, hfs, hending, ?_⟩
    rw [output_after, output_after, houtput, houtput']

end

/-- **Detupling files in place twice is the same as doing it once**, whatever the type is the second
time: the second run leaves every file as the first one left it, ends as that did and shows the
same, also where files hold no program, cannot be read or cannot be written. -/
theorem run_twice_eq_once (fs : FileSystem) (paths : List String) (hpaths : paths ≠ [])
    (typeName other : String) (hname : isIdentifier typeName = true)
    (hother : isIdentifier other = true) (verbose verbose' : Bool) (input input' : Lines) :
    let first := run (.inPlace paths typeName verbose) fs input
    let second := run (.inPlace paths other verbose') first.fs input'
    second.fs = first.fs ∧ second.ending = first.ending ∧ second.output = first.output := by
  intro first second
  have hfirst : Runs (.inPlace paths typeName verbose) paths ⟨false, some typeName, fs, input⟩
      first := (runs_inPlace_iff hpaths hname).2 rfl
  obtain ⟨outcome, hruns, hfs, hending, houtput⟩ :=
    hfirst.repeat other verbose' input' rfl hname
  have hsecond : second = outcome := (runs_inPlace_iff hpaths hother).1 hruns
  rw [hsecond]
  exact ⟨hfs, hending, houtput⟩

/-- The second run, to another type, also ends where it cannot write. -/
theorem run_twice_eq_once_locked :
    (run (.inPlace (samplePaths "c.src") "P" false) (sampleFiles true) []).ending = .unwritable ∧
      (run (.inPlace (samplePaths "c.src") "Q" false)
          (run (.inPlace (samplePaths "c.src") "P" false) (sampleFiles true) []).fs []).ending =
        .unwritable ∧
      (run (.inPlace (samplePaths "c.src") "Q" false)
          (run (.inPlace (samplePaths "c.src") "P" false) (sampleFiles true) []).fs []).fs =
        (run (.inPlace (samplePaths "c.src") "P" false) (sampleFiles true) []).fs := by
  have hending : (run (.inPlace (samplePaths "c.src") "P" false) (sampleFiles true) []).ending =
      .unwritable := by decide +kernel
  obtain ⟨hfs, hsame, -⟩ := run_twice_eq_once (sampleFiles true) (samplePaths "c.src") (by decide)
    "P" "Q" (by decide) (by decide) false false [] []
  exact ⟨hending, hsame.trans hending, hfs⟩

end Detuple.Command
