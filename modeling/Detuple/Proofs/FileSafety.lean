import Detuple.Proofs.Files
import Detuple.Proofs.Turns

/-!
# Proofs: what a run does to files

Between any two files a run stands where programs have only been detupled, and only to the type
whose name is known; every turn keeps that (`Turn.from`), and a name that is known stays. A turn
touches no file but the one at its path, and that only if files are to be written (`Turn.files`). So
at the end of a run, whatever ended it, every file is as it was or holds its own program, detupled
to the one type of the run.
-/

namespace Detuple.Command

variable {o : Options} {fs : FileSystem}

/-! ## The name of the type -/

/-- An answer that is taken is one that will do. -/
theorem ask_answer {question answer : String} {willDo : String → Bool} {input unread : Lines}
    {said : List String} (h : ask question willDo input = ⟨some answer, said, unread⟩) :
    willDo answer = true := by
  induction input generalizing said with
  | nil => cases h
  | cons line lines ih =>
    cases line with
    | none => cases h
    | some line =>
      rw [ask] at h
      by_cases hdo : willDo (trimBlanks line) = true
      · rw [if_pos hdo] at h
        cases h
        exact hdo
      · rw [if_neg hdo] at h
        rcases hlater : ask question willDo lines with ⟨answer', said', unread'⟩
        rw [hlater] at h
        cases h
        exact ih hlater

/-- The name of the type is an identifier, and the name that was known if there was one. -/
theorem needTypeName_spec {known : Option String} {input unread : Lines} {name : String}
    {said : List String} (hknown : ∀ name ∈ known, isIdentifier name = true)
    (h : needTypeName known input = ⟨some name, said, unread⟩) :
    (∀ name' ∈ some name, isIdentifier name' = true) ∧ ∀ name' ∈ known, name' ∈ some name := by
  cases known with
  | none =>
    have hanswer : isIdentifier name = true := ask_answer h
    exact ⟨fun _ hsome => Option.mem_some_iff.1 hsome ▸ hanswer, fun _ hnone => nomatch hnone⟩
  | some name' =>
    cases h
    exact ⟨hknown, fun _ hsome => hsome⟩

/-- A run that began with some files may stand here: programs have only been detupled to the known
type, whose name is an identifier. -/
structure Standing.From (fs : FileSystem) (s : Standing) : Prop where
  identifier : ∀ name ∈ s.known, isIdentifier name = true
  detupled : fs.Detupled s.known s.fs

/-- A turn keeps the files as they were or detupled, and a name that is known. The only rule that
writes detuples one more file, to that name. -/
theorem Turn.from {path : String} {s next : Standing} {actions : List Action}
    (h : Turn o path s actions next) (hfrom : s.From fs) :
    next.From fs ∧ ∀ name ∈ s.known, name ∈ next.known := by
  cases h with
  | refused hread hparse => exact ⟨⟨hfrom.identifier, hfrom.detupled⟩, fun _ hname => hname⟩
  | checked hread hparse hdry => exact ⟨hfrom, fun _ hname => hname⟩
  | shown hread hparse hdry hname hprint =>
    obtain ⟨hidentifier, hkeep⟩ := needTypeName_spec hfrom.identifier hname
    exact ⟨⟨hidentifier, hfrom.detupled.mono hkeep⟩, hkeep⟩
  | stored hread hparse hdry hname hprint hwrite =>
    obtain ⟨hidentifier, hkeep⟩ := needTypeName_spec hfrom.identifier hname
    have hdetupled := (hfrom.detupled.mono hkeep).writeText hread hparse rfl
      (hidentifier _ rfl) hwrite
    exact ⟨⟨hidentifier, hdetupled⟩, hkeep⟩

/-- Any number of turns keep the files as they were or detupled. -/
theorem Turns.from {paths : List String} {s last : Standing} {actions : List Action}
    (h : Turns o paths s actions last) (hfrom : s.From fs) : last.From fs := by
  induction h with
  | none s => exact hfrom
  | next hturn hrest ih => exact ih (hturn.from hfrom).1

/-- At its end a run has only detupled programs, to one type, which was known if any was. -/
theorem Runs.detupled {paths : List String} {s : Standing} {outcome : Outcome}
    (h : Runs o paths s outcome) (hfrom : s.From fs) :
    ∃ known, fs.Detupled known outcome.fs ∧ (∀ name ∈ known, isIdentifier name = true) ∧
      ∀ name ∈ s.known, name ∈ known := by
  induction h with
  | finished s => exact ⟨s.known, hfrom.detupled, hfrom.identifier, fun _ hname => hname⟩
  | @stopped _ s => exact ⟨s.known, hfrom.detupled, hfrom.identifier, fun _ hname => hname⟩
  | turned hturn hrest ih =>
    obtain ⟨hnext, hkeep⟩ := hturn.from hfrom
    obtain ⟨known, hdetupled, hidentifier, hknown⟩ := ih hnext
    exact ⟨known, hdetupled, hidentifier, fun name hname => hknown name (hkeep name hname)⟩

/-! ## Files that are left alone -/

/-- A turn keeps all paths, and all files except the one that it is about if files are written. -/
theorem Turn.files {path : String} {s next : Standing} {actions : List Action}
    (h : Turn o path s actions next) : next.fs.locate = s.fs.locate ∧
      ∀ number : Nat, next.fs.files[number]? = s.fs.files[number]? ∨
        (o.dryRun = false ∧ o.print = false ∧ s.fs.locate path = some number) := by
  cases h with
  | refused hread hparse => exact ⟨rfl, fun _ => Or.inl rfl⟩
  | checked hread hparse hdry => exact ⟨rfl, fun _ => Or.inl rfl⟩
  | shown hread hparse hdry hname hprint => exact ⟨rfl, fun _ => Or.inl rfl⟩
  | stored hread hparse hdry hname hprint hwrite =>
    obtain ⟨place, file, hlocate, hfile, -, rfl⟩ := FileSystem.writeText_eq_some_iff.1 hwrite
    refine ⟨rfl, fun number => ?_⟩
    by_cases hplace : place = number
    · subst hplace
      exact Or.inr ⟨hdry, hprint, hlocate⟩
    · exact Or.inl (List.getElem?_set_ne hplace)

/-- A run touches no file to which none of its paths leads, and none at all if files are not
written. -/
theorem Runs.files {paths : List String} {s : Standing} {outcome : Outcome}
    (h : Runs o paths s outcome) (number : Nat) :
    outcome.fs.files[number]? = s.fs.files[number]? ∨
      (o.dryRun = false ∧ o.print = false ∧ ∃ path ∈ paths, s.fs.locate path = some number) := by
  induction h with
  | finished s => exact Or.inl rfl
  | stopped paths h => exact Or.inl rfl
  | turned hturn hrest ih =>
    obtain ⟨hlocate, hfiles⟩ := hturn.files
    rcases ih with hsame | ⟨hdry, hprint, path, hpath, hnumber⟩
    · rcases hfiles number with hsame' | ⟨hdry, hprint, hnumber⟩
      · exact Or.inl (hsame.trans hsame')
      · exact Or.inr ⟨hdry, hprint, _, List.mem_cons_self, hnumber⟩
    · rw [hlocate] at hnumber
      exact Or.inr ⟨hdry, hprint, path, List.mem_cons_of_mem _ hpath, hnumber⟩

/-! ## All files at the end -/

section

variable {input : Lines} {outcome : Outcome}

/-- A command has only detupled programs, to one type, which is the given one if any is. -/
theorem Completes.detupled (h : Completes o fs input outcome) :
    ∃ known, fs.Detupled known outcome.fs ∧ (∀ name ∈ known, isIdentifier name = true) ∧
      ∀ name ∈ o.typeName, isIdentifier name = true → name ∈ known := by
  cases h with
  | badTypeName hgiven hbad =>
    refine ⟨none, .refl none fs, fun _ hnone => (nomatch hnone), fun name hname hgood => ?_⟩
    obtain rfl := Option.mem_unique hgiven hname
    rw [hbad] at hgood
    cases hgood
  | unanswered hgiven htargets => exact ⟨o.typeName, .refl _ fs, hgiven, fun _ hname _ => hname⟩
  | taken hgiven htargets hruns =>
    obtain ⟨known, hdetupled, hidentifier, hkeep⟩ := hruns.detupled ⟨hgiven, .refl _ fs⟩
    exact ⟨known, hdetupled, hidentifier, fun name hname _ => hkeep name hname⟩

/-- A command touches no file to which none of its paths leads. -/
theorem Completes.files (h : Completes o fs input outcome) (number : Nat) :
    outcome.fs.files[number]? = fs.files[number]? ∨ (o.dryRun = false ∧ o.print = false ∧
      ∃ path ∈ o.targets input, fs.locate path = some number) := by
  cases h with
  | badTypeName hgiven hbad => exact Or.inl rfl
  | unanswered hgiven htargets => exact Or.inl rfl
  | taken hgiven htargets hruns => exact hruns.files number

end

/-- **A run leaves every file as it was, or with its own program detupled to the one type of the
run**, whatever ends the run. The type is the given one, if one is given. A file can only change if
programs are neither shown nor only read, one of the paths of the run leads to the file, and it
holds a program. So no program is lost, and no file that holds none is touched. -/
theorem run_keeps_files (o : Options) (fs : FileSystem) (input : Lines) :
    ∃ typeName, isIdentifier typeName = true ∧
      (∀ given ∈ o.typeName, isIdentifier given = true → given = typeName) ∧
      (run o fs input).fs.locate = fs.locate ∧
      (run o fs input).fs.files.length = fs.files.length ∧
      ∀ (number : Nat) (before : File), fs.files[number]? = some before →
        ∃ after, (run o fs input).fs.files[number]? = some after ∧
          (after = before ∨
            (o.dryRun = false ∧ o.print = false ∧
              (∃ path ∈ o.targets input, fs.locate path = some number) ∧
              ∃ source b, String.fromUTF8? before.content = some source ∧ parse source = .ok b ∧
                after = { before with
                  content := (print (Block.detuple typeName b) ++ "\n").toUTF8 })) ∧
          (before.program?.isSome → after.program?.isSome) ∧
          (before.program? = none → after = before) := by
  have hcompletes : Completes o fs input (run o fs input) := completes_iff.2 rfl
  obtain ⟨known, hdetupled, hidentifier, hgiven⟩ := hcompletes.detupled
  -- Without a known name nothing has been replaced, and any name will do.
  obtain ⟨typeName, htypeName, hknown⟩ : ∃ typeName, isIdentifier typeName = true ∧
      ∀ name ∈ known, name = typeName := by
    cases known with
    | none => exact ⟨"T", by decide, fun _ hnone => nomatch hnone⟩
    | some name =>
      exact ⟨name, hidentifier name rfl, fun _ hname => (Option.mem_some_iff.1 hname).symm⟩
  refine ⟨typeName, htypeName, fun given hname hgood => hknown given (hgiven given hname hgood),
    hdetupled.locate, hdetupled.length, fun number before hbefore => ?_⟩
  obtain ⟨after, hafter, hsame⟩ := hdetupled.file number before hbefore
  refine ⟨after, hafter, ?_, ?_, ?_⟩
  · rcases hcompletes.files number with hkept | ⟨hdry, hprint, hpath⟩
    · rw [hbefore, hafter] at hkept
      exact Or.inl (Option.some.inj hkept)
    · cases hsame with
      | same => exact Or.inl rfl
      | replaced hname _ hprogram =>
        obtain rfl := hknown _ hname
        obtain ⟨source, hsource, hparse⟩ := File.program?_eq_some_iff.1 hprogram
        exact Or.inr ⟨hdry, hprint, hpath, source, _, hsource, hparse, rfl⟩
  · intro hprogram
    rw [hsame.program?_isSome]
    exact hprogram
  · intro hnone
    cases hsame with
    | same => rfl
    | replaced _ _ hprogram => cases hnone.symm.trans hprogram

/-- A program with two paths, a text that is no program, and a second program, which may be
locked. -/
def sampleFiles (locked : Bool) : FileSystem where
  locate path := List.lookup path [("a.src", 0), ("./a.src", 0), ("b.src", 1), ("c.src", 2)]
  files := [⟨"\x7bvar x=(1);\x7d".toUTF8, true⟩, ⟨"\x7bvar".toUTF8, true⟩,
    ⟨"\x7breturn ();\x7d".toUTF8, !locked⟩]

/-- Paths to the first two of the sample files, and one more path. -/
def samplePaths (last : String) : List String := ["a.src", "b.src", "./a.src", last]

/-- The program is detupled at its first path and met again at its second, and the run ends where it
cannot write. -/
theorem run_keeps_files_two_paths :
    (run (.inPlace (samplePaths "c.src") "P" false) (sampleFiles true) []).ending = .unwritable ∧
      (run (.inPlace (samplePaths "c.src") "P" false) (sampleFiles true) []).fs.files.map
          File.content =
        ["\x7b\n    var x = new P(1);\n\x7d\n".toUTF8, "\x7bvar".toUTF8,
          "\x7breturn ();\x7d".toUTF8] ∧
      (∃ first,
        (run (.inPlace (samplePaths "c.src") "P" false) (sampleFiles true) []).fs.files[0]? =
          some first ∧ first.program?.isSome) ∧
      (run (.inPlace (samplePaths "c.src") "P" false) (sampleFiles true) []).fs.files[1]? =
        some ⟨"\x7bvar".toUTF8, true⟩ := by
  obtain ⟨typeName, -, -, -, -, hfiles⟩ := run_keeps_files
    (.inPlace (samplePaths "c.src") "P" false) (sampleFiles true) []
  obtain ⟨first, hfirst, -, hprogram, -⟩ := hfiles 0 _ rfl
  obtain ⟨second, hsecond, -, -, hsame⟩ := hfiles 1 _ rfl
  refine ⟨by decide +kernel, by decide +kernel, ⟨first, hfirst, hprogram (by decide +kernel)⟩, ?_⟩
  rw [hsecond, hsame (by decide +kernel)]

end Detuple.Command
