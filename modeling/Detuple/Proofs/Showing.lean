import Detuple.Command.Seen
import Detuple.Proofs.FileSafety

/-!
# Proofs: showing programs and storing them

A run that shows programs reads the files as they were; a run that stores them may read what it has
written itself. The two go side by side (`Turn.show_of_store`): at any time the second stands where
the first does, only that its files have been detupled to the type that both of them know. So they
refuse the same texts and find the same programs, up to a detupling that the next one makes up for.
What the first run shows is all that the second one does to files (`Completes.storeSeen`).
-/

namespace Detuple.Command

variable {o : Options} {fs : FileSystem} {path : String} {w w' : Standing} {actions : List Action}

/-! ## Showing programs instead of storing them -/

/-- The same is seen of two lists of actions, in whatever run they occur. -/
def SeenAlike (first second : List Action) : Prop :=
  ∀ latest rest rest', (∀ path, seenFrom path rest = seenFrom path rest') →
    seenFrom latest (first ++ rest) = seenFrom latest (second ++ rest')

/-- What is said is seen first. -/
theorem seenFrom_say (latest : String) (said : List String) (rest : List Action) :
    seenFrom latest (said.map .say ++ rest) = said.map .said ++ seenFrom latest rest := by
  induction said with
  | nil => rfl
  | cons text said ih => exact congrArg (Seen.said text :: ·) ih

/-- Opening a file shows what is said, and tells where the next program comes from. -/
theorem seenFrom_opening (latest path source : String) (b : Block) (said : List String)
    (rest : List Action) : seenFrom latest (opening path source b said ++ rest) =
      said.map .said ++ seenFrom path rest :=
  seenFrom_say path said rest

theorem SeenAlike.refl (actions : List Action) : SeenAlike actions actions := by
  intro latest rest rest' hrest
  induction actions generalizing latest with
  | nil => exact hrest latest
  | cons action actions ih =>
    cases action with
    | say text => exact congrArg (Seen.said text :: ·) (ih latest)
    | report r => exact congrArg (Seen.reported r :: ·) (ih latest)
    | present text => exact congrArg (Seen.program latest text :: ·) (ih latest)
    | store path text => exact congrArg (Seen.program path text :: ·) (ih latest)
    | log e =>
      cases e with
      | parsed path statements => exact ih path
      | tokenized tokens => exact ih latest
      | refused error => exact ih latest
      | detupled typeName tuples => exact ih latest

/-- What is seen alike part by part is seen alike. -/
theorem SeenAlike.append {first second first' second' : List Action} (h : SeenAlike first second)
    (h' : SeenAlike first' second') : SeenAlike (first ++ first') (second ++ second') := by
  intro latest rest rest' hrest
  rw [List.append_assoc, List.append_assoc]
  exact h latest _ _ fun path => h' path rest rest' hrest

/-- A program that is found again, detupled or not, is shown as what is stored. -/
theorem Turn.show_of_store (hdry : o.dryRun = false)
    (h : Turn { o with print := false } path w actions w') (hfrom : w.From fs) :
    ∃ actions', Turn { o with print := true } path { w with fs } actions' { w' with fs } ∧
      SeenAlike actions' actions := by
  cases h with
  | refused hread hparse =>
    have hread₀ := (hfrom.detupled.readText_eq_some_iff_of_refused hparse).1 hread
    exact ⟨_, .refused hread₀ hparse, .refl _⟩
  | checked _ _ hdry' => cases hdry.symm.trans hdry'
  | shown _ _ _ _ hprint => cases hprint
  | stored hread hparse _ hname _ hwrite =>
    obtain ⟨source, b, hread₀, hparse₀, hsame⟩ := hfrom.detupled.exists_program hread hparse
    have hkeep := (needTypeName_spec hfrom.identifier hname).2
    refine ⟨_, .shown hread₀ hparse₀ hdry hname rfl, ?_⟩
    intro latest rest rest' hrest
    rw [List.append_assoc, List.append_assoc, seenFrom_opening, seenFrom_opening, hsame _ hkeep]
    exact congrArg (_ ++ Seen.program path _ :: ·) (hrest path)

/-- A file that ends the run that stores ends the run that shows, if programs can be stored. -/
theorem Stop.show_of_store {ending : Ending} {unread : Lines} (hdry : o.dryRun = false)
    (h : Stop { o with print := false } path w actions ending unread) (hfrom : w.From fs)
    {paths : List String} (hwritable : fs.ProgramsWritable (path :: paths)) :
    ∃ actions', Stop { o with print := true } path { w with fs } actions' ending unread ∧
      SeenAlike actions' actions := by
  cases h with
  | unreadable hread =>
    have hread₀ := (hfrom.detupled.readText_eq_none_iff path).1 hread
    exact ⟨_, .unreadable (s := { w with fs }) hread₀, .refl _⟩
  | unanswered hread hparse _ hname =>
    obtain ⟨source, b, hread₀, hparse₀, -⟩ := hfrom.detupled.exists_program hread hparse
    refine ⟨_, .unanswered (s := { w with fs }) hread₀ hparse₀ hdry hname, ?_⟩
    intro latest rest rest' hrest
    rw [seenFrom_opening, seenFrom_opening, hrest]
  | unwritable hread hparse _ _ _ hwrite =>
    have hwritable' := hwritable.of_detupled hfrom.detupled
    exact absurd hwrite (hwritable' path List.mem_cons_self _ _ hread hparse _)

/-- The run that shows goes side by side with the run that stores, and the same is seen of both. -/
theorem Runs.show_of_store {paths : List String} {outcome : Outcome} (hdry : o.dryRun = false)
    (h : Runs { o with print := false } paths w outcome) (hfrom : w.From fs)
    (hwritable : fs.ProgramsWritable paths) :
    ∃ outcome', Runs { o with print := true } paths { w with fs } outcome' ∧
      outcome'.ending = outcome.ending ∧ outcome'.unread = outcome.unread ∧
      SeenAlike outcome'.actions outcome.actions := by
  induction h with
  | finished w => exact ⟨_, .finished { w with fs }, rfl, rfl, .refl []⟩
  | stopped paths hstop =>
    obtain ⟨actions', hstop', halike⟩ := hstop.show_of_store hdry hfrom hwritable
    exact ⟨_, .stopped paths hstop', rfl, rfl, halike⟩
  | turned hturn hrest ih =>
    obtain ⟨actions', hturn', halike⟩ := hturn.show_of_store hdry hfrom
    obtain ⟨outcome', hruns, hending, hunread, halike'⟩ := ih (hturn.from hfrom).1
      fun path hpath => hwritable path (List.mem_cons_of_mem _ hpath)
    exact ⟨_, .turned hturn' hruns, hending, hunread, halike.append halike'⟩

/-- The command that shows does as the command that stores, and the same is seen of both. -/
theorem Completes.show_of_store {input : Lines} {outcome : Outcome} (hdry : o.dryRun = false)
    (h : Completes { o with print := false } fs input outcome)
    (hwritable : fs.ProgramsWritable (o.targets input)) :
    ∃ outcome', Completes { o with print := true } fs input outcome' ∧
      outcome'.ending = outcome.ending ∧ outcome'.unread = outcome.unread ∧
      SeenAlike outcome'.actions outcome.actions := by
  cases h with
  | badTypeName hgiven hbad => exact ⟨_, .badTypeName hgiven hbad, rfl, rfl, .refl _⟩
  | unanswered hgiven htargets => exact ⟨_, .unanswered hgiven htargets, rfl, rfl, .refl _⟩
  | taken hgiven htargets hruns =>
    obtain ⟨outcome', hruns', hending, hunread, halike⟩ :=
      hruns.show_of_store hdry ⟨hgiven, .refl _ fs⟩ hwritable
    exact ⟨_, .taken hgiven htargets hruns', hending, hunread, (SeenAlike.refl _).append halike⟩

/-! ## What is stored -/

/-- What is said stores nothing. -/
theorem storeSeen_said (fs : FileSystem) (said : List String) (rest : List Seen) :
    storeSeen fs (said.map .said ++ rest) = storeSeen fs rest := by
  induction said with
  | nil => rfl
  | cons text said ih => exact ih

/-- The files after a turn are those that it stores, whatever comes after it. -/
theorem Turn.storeSeen {s next : Standing} (hprint : o.print = false)
    (h : Turn o path s actions next) {rest : List Action} {last : FileSystem}
    (hrest : ∀ latest, storeSeen next.fs (seenFrom latest rest) = some last) (latest : String) :
    storeSeen s.fs (seenFrom latest (actions ++ rest)) = some last := by
  cases h with
  | @refused source e hread hparse =>
    have hskip : storeSeen s.fs (seenFrom latest (refuse path source e :: rest)) =
        storeSeen s.fs (seenFrom latest rest) := by
      unfold refuse
      cases Report.ofError? path source e <;> rfl
    exact hskip.trans (hrest latest)
  | checked hread hparse hdry =>
    rw [seenFrom_opening, storeSeen_said]
    exact hrest path
  | shown _ _ _ _ hprint' => cases hprint.symm.trans hprint'
  | stored hread hparse hdry hname hprint hwrite =>
    rw [List.append_assoc, seenFrom_opening, storeSeen_said]
    exact (congrArg (Option.bind · _) hwrite).trans (hrest path)

/-- A file that ends a run stores nothing. -/
theorem Stop.storeSeen {s : Standing} {ending : Ending} {unread : Lines}
    (h : Stop o path s actions ending unread) (latest : String) :
    storeSeen s.fs (seenFrom latest actions) = some s.fs := by
  cases h with
  | unreadable hread => rfl
  | @unanswered source b said unread hread hparse hdry hname =>
    rw [← List.append_nil (opening path source b said), seenFrom_opening, storeSeen_said]
    rfl
  | unwritable hread hparse hdry hname hprint hwrite =>
    rw [seenFrom_opening, storeSeen_said]
    rfl

/-- The files after a run are those with all that is seen written to them. -/
theorem Runs.storeSeen {paths : List String} {s : Standing} {outcome : Outcome}
    (hprint : o.print = false) (h : Runs o paths s outcome) (latest : String) :
    storeSeen s.fs (seenFrom latest outcome.actions) = some outcome.fs := by
  induction h generalizing latest with
  | finished s => rfl
  | stopped paths hstop => exact hstop.storeSeen latest
  | turned hturn hrest ih => exact hturn.storeSeen hprint ih latest

/-- Where programs are stored, nothing else happens to files. -/
theorem Completes.storeSeen {input : Lines} {outcome : Outcome} (hprint : o.print = false)
    (h : Completes o fs input outcome) : storeSeen fs outcome.seen = some outcome.fs := by
  cases h with
  | badTypeName hgiven hbad => rfl
  | unanswered hgiven htargets =>
    rw [Outcome.seen, ← List.append_nil (List.map _ _), seenFrom_say, storeSeen_said]
    rfl
  | taken hgiven htargets hruns =>
    rw [Outcome.seen, Outcome.after, seenFrom_say, storeSeen_said]
    exact hruns.storeSeen hprint ""

/-- **Showing programs and storing them agree**, as long as all programs can be stored: the run ends
alike, reads the same input, and the same is seen of it in the same order: questions, complaints and
reports, and in their midst the programs that it shows in the one case and stores in the other, each
from the same path. The files that are left where programs are stored are the files with all that is
shown written to them, program by program. -/
theorem run_show_agrees_store (o : Options) (fs : FileSystem) (input : Lines)
    (hdry : o.dryRun = false) (hwritable : fs.ProgramsWritable (o.targets input)) :
    (run { o with print := true } fs input).ending =
        (run { o with print := false } fs input).ending ∧
      (run { o with print := true } fs input).unread =
        (run { o with print := false } fs input).unread ∧
      (run { o with print := true } fs input).seen =
        (run { o with print := false } fs input).seen ∧
      storeSeen fs (run { o with print := true } fs input).seen =
        some (run { o with print := false } fs input).fs := by
  have hstore : Completes { o with print := false } fs input _ := completes_iff.2 rfl
  obtain ⟨outcome, hshow, hending, hunread, halike⟩ := hstore.show_of_store hdry hwritable
  have hseen := halike "" [] [] fun _ => rfl
  rw [List.append_nil, List.append_nil] at hseen
  rw [completes_iff.1 hshow]
  refine ⟨hending, hunread, hseen, ?_⟩
  calc storeSeen fs outcome.seen
      = storeSeen fs (run { o with print := false } fs input).seen := congrArg _ hseen
    _ = some (run { o with print := false } fs input).fs := hstore.storeSeen rfl

/-- The name of the type is asked for twice, and one program is shown or stored twice. -/
theorem run_show_agrees_store_asked :
    (run ⟨samplePaths "c.src", none, true, false, false⟩ (sampleFiles false)
        [some "1\n", some "P\n"]).seen =
      [.said "Type name: ", .said "'1' is not valid here\n", .said "Type name: ",
        .program "a.src" "\x7b\n    var x = new P(1);\n\x7d\n",
        .reported ⟨"b.src", "\x7bvar", 1, 4, "r", "unexpected end of input"⟩,
        .program "./a.src" "\x7b\n    var x = new P(1);\n\x7d\n",
        .program "c.src" "\x7b\n    return new P();\n\x7d\n"] ∧
    (run ⟨samplePaths "c.src", none, true, false, false⟩ (sampleFiles false)
        [some "1\n", some "P\n"]).seen =
      (run ⟨samplePaths "c.src", none, false, false, false⟩ (sampleFiles false)
        [some "1\n", some "P\n"]).seen ∧
    (run ⟨samplePaths "c.src", none, true, false, false⟩ (sampleFiles false)
        [some "1\n", some "P\n"]).ending =
      (run ⟨samplePaths "c.src", none, false, false, false⟩ (sampleFiles false)
        [some "1\n", some "P\n"]).ending := by
  have hwritable : (sampleFiles false).ProgramsWritable (samplePaths "c.src") :=
    .of_writable (by decide) _
  obtain ⟨hending, -, hseen, -⟩ := run_show_agrees_store
    ⟨samplePaths "c.src", none, true, false, false⟩ (sampleFiles false)
    [some "1\n", some "P\n"] rfl hwritable
  exact ⟨by decide +kernel, hseen, hending⟩

end Detuple.Command
