import Detuple.Files
import Detuple.Proofs.Stability
import Mathlib.Data.Option.Basic

/-!
# Proofs: files whose programs are detupled

The text that is written back is a program again, the detupled one, and no other detupling changes
it. So a file that has been detupled can be detupled again, and stands to its first state as before
(`File.Detupled.withText`). Whatever has been written so far, a path leads to a text as it did at
first, or to the text of a detupled program where there was that program (`readText_cases`). Hence
the same paths cannot be read, the same texts are refused, and the same programs are found, up to a
detupling to the known type.
-/

namespace Detuple

variable {typeName : String} {b : Block} {known : Option String}

/-! ## The text that is written back -/

/-- The bytes of a text hold the text. -/
theorem fromUTF8?_toUTF8 (text : String) : String.fromUTF8? text.toUTF8 = some text :=
  dif_pos text.isValidUTF8

/-- The line feed at the end does not count. -/
theorem parse_append_newline {text : String} (h : parse text = .ok b) :
    parse (text ++ "\n") = .ok b := by
  have hclosed : ClosedStart "\n" := by decide
  have hnone : tokenize "\n" = [] := by decide
  refine parse_eq_ok_of_tokenize_eq h ?_
  rw [tokenize_append_of_closedStart hclosed, hnone, List.append_nil]

/-- The text that is written back is read as the detupled program. -/
theorem parse_fileText (hb : b.WellFormed) (hidentifier : isIdentifier typeName = true) :
    parse (fileText typeName b) = .ok (Block.detuple typeName b) :=
  parse_append_newline (hb.detuple hidentifier).parse_print

/-- A program that has been detupled is written back as it is. -/
theorem fileText_detuple (other typeName : String) (b : Block) :
    fileText other (Block.detuple typeName b) = fileText typeName b := by
  rw [fileText, Block.detuple_detuple, fileText]

/-! ## One file -/

namespace File

variable {file before after : File} {text source : String}

/-- A file with the text that it holds is the same file. -/
theorem withText_of_content (h : String.fromUTF8? file.content = some text) :
    file.withText text = file := by
  unfold String.fromUTF8? at h
  split at h
  · cases h
    rfl
  · cases h

theorem program?_eq_some_iff : file.program? = some b ↔
    ∃ source, String.fromUTF8? file.content = some source ∧ parse source = .ok b := by
  unfold program?
  cases String.fromUTF8? file.content with
  | none => simp
  | some source => cases hparse : parse source <;> simp [hparse, Except.toOption]

/-- A file with the text of a program holds the program. -/
theorem program?_withText (h : parse text = .ok b) : (file.withText text).program? = some b :=
  program?_eq_some_iff.2 ⟨text, fromUTF8?_toUTF8 text, h⟩

/-- A program that a file holds is well-formed. -/
theorem wellFormed_of_program? (h : file.program? = some b) : b.WellFormed := by
  obtain ⟨source, -, hparse⟩ := program?_eq_some_iff.1 h
  exact Block.wellFormed_of_parse hparse

/-- Detupling a file does not lock it, and does not unlock it. -/
theorem Detupled.writable (h : before.Detupled known after) : after.writable = before.writable := by
  cases h with
  | same => rfl
  | replaced => rfl

/-- A file may be as it is where more names may be known, too. -/
theorem Detupled.mono (h : before.Detupled known after) {known' : Option String}
    (hle : ∀ name ∈ known, name ∈ known') : before.Detupled known' after := by
  cases h with
  | same => exact .same
  | replaced hname hidentifier hprogram => exact .replaced (hle _ hname) hidentifier hprogram

/-- A file whose program is detupled once more stands to its first state as before. -/
theorem Detupled.withText (h : before.Detupled known after) (hname : typeName ∈ known)
    (hidentifier : isIdentifier typeName = true) (hprogram : after.program? = some b) :
    before.Detupled known (after.withText (fileText typeName b)) := by
  cases h with
  | same => exact .replaced hname hidentifier hprogram
  | @replaced first b₀ hfirst hfirst' hprogram₀ =>
    obtain rfl : first = typeName := Option.mem_unique hfirst hname
    have hparse := parse_fileText (wellFormed_of_program? hprogram₀) hfirst'
    rw [program?_withText hparse] at hprogram
    cases hprogram
    rw [fileText_detuple]
    exact .replaced hfirst hfirst' hprogram₀

/-- A file holds a program exactly if it did before. -/
theorem Detupled.program?_isSome (h : before.Detupled known after) :
    after.program?.isSome = before.program?.isSome := by
  cases h with
  | same => rfl
  | replaced hname hidentifier hprogram =>
    rw [program?_withText (parse_fileText (wellFormed_of_program? hprogram) hidentifier), hprogram]
    rfl

end File

/-! ## Reading and writing at a path -/

namespace FileSystem

variable {fs before after : FileSystem} {path text source : String}

theorem readText_eq_some_iff : fs.readText path = some source ↔
    ∃ number file, fs.locate path = some number ∧ fs.files[number]? = some file ∧
      String.fromUTF8? file.content = some source := by
  simp [readText, Option.bind_eq_some_iff]

theorem writeText_eq_some_iff : fs.writeText path text = some after ↔
    ∃ number file, fs.locate path = some number ∧ fs.files[number]? = some file ∧
      file.writable = true ∧
      { fs with files := fs.files.set number (file.withText text) } = after := by
  simp [writeText, Option.bind_eq_some_iff, Option.guard_eq_some', File.withText]

/-- Writing fails exactly where there is no file or a locked one. -/
theorem writeText_eq_none_iff : fs.writeText path text = none ↔
    ∀ number file, fs.locate path = some number → fs.files[number]? = some file →
      file.writable = false := by
  rw [Option.eq_none_iff_forall_ne_some]
  constructor
  · intro h number file hlocate hfile
    rw [← Bool.not_eq_true]
    intro hwritable
    exact h _ (writeText_eq_some_iff.2 ⟨number, file, hlocate, hfile, hwritable, rfl⟩)
  · intro h after hafter
    obtain ⟨number, file, hlocate, hfile, hwritable, -⟩ := writeText_eq_some_iff.1 hafter
    rw [h number file hlocate hfile] at hwritable
    cases hwritable

/-- What is written at a path replaces the file that is read there. -/
theorem exists_file_of_writeText (hread : fs.readText path = some source)
    (hwrite : fs.writeText path text = some after) :
    ∃ number file, fs.files[number]? = some file ∧ String.fromUTF8? file.content = some source ∧
      { fs with files := fs.files.set number (file.withText text) } = after := by
  obtain ⟨number, file, hlocate, hfile, hsource⟩ := readText_eq_some_iff.1 hread
  obtain ⟨number', file', hlocate', hfile', -, hafter⟩ := writeText_eq_some_iff.1 hwrite
  obtain rfl : number = number' := Option.some.inj (hlocate.symm.trans hlocate')
  obtain rfl : file = file' := Option.some.inj (hfile.symm.trans hfile')
  exact ⟨number, file, hfile, hsource, hafter⟩

/-- What has been written is there, by whatever path it is read. -/
theorem readText_of_writeText (h : fs.writeText path text = some after) :
    after.readText path = some text := by
  obtain ⟨number, file, hlocate, hfile, -, rfl⟩ := writeText_eq_some_iff.1 h
  have hthere : (fs.files.set number (file.withText text))[number]? = some (file.withText text) :=
    List.getElem?_set_self (List.getElem?_eq_some_iff.1 hfile).1
  exact readText_eq_some_iff.2 ⟨number, _, hlocate, hthere, fromUTF8?_toUTF8 text⟩

/-- Writing what is there changes nothing. -/
theorem writeText_of_readText (hread : fs.readText path = some text)
    (hwrite : fs.writeText path text ≠ none) : fs.writeText path text = some fs := by
  obtain ⟨after, hafter⟩ := Option.ne_none_iff_exists'.1 hwrite
  obtain ⟨number, file, hfile, htext, rfl⟩ := exists_file_of_writeText hread hafter
  obtain ⟨hbound, hget⟩ := List.getElem?_eq_some_iff.1 hfile
  rw [hafter, File.withText_of_content htext, ← hget, List.set_getElem_self]

/-! ## Reading files that have been detupled -/

/-- Files may be as they were. -/
theorem Detupled.refl (known : Option String) (fs : FileSystem) : fs.Detupled known fs :=
  ⟨rfl, rfl, fun _ file h => ⟨file, h, .same⟩⟩

/-- Files may be as they are where more names may be known, too. -/
theorem Detupled.mono (h : before.Detupled known after) {known' : Option String}
    (hle : ∀ name ∈ known, name ∈ known') : before.Detupled known' after := by
  refine ⟨h.locate, h.length, fun number file hfile => ?_⟩
  obtain ⟨file', hfile', hsame⟩ := h.file number file hfile
  exact ⟨file', hfile', hsame.mono hle⟩

/-- There are the same files, by the same numbers, and each stands to what it was as files may. -/
theorem Detupled.files_cases (h : before.Detupled known after) (number : Nat) :
    (before.files[number]? = none ∧ after.files[number]? = none) ∨
      ∃ file file', before.files[number]? = some file ∧ after.files[number]? = some file' ∧
        file.Detupled known file' := by
  cases hfile : before.files[number]? with
  | none =>
    rw [List.getElem?_eq_none_iff, ← h.length] at hfile
    exact Or.inl ⟨rfl, List.getElem?_eq_none_iff.2 hfile⟩
  | some file =>
    obtain ⟨file', hfile', hsame⟩ := h.file number file hfile
    exact Or.inr ⟨file, file', rfl, hfile', hsame⟩

/-- Detupling one more file, or one of the files once more. -/
theorem Detupled.writeText {last : FileSystem} (h : before.Detupled known after)
    (hread : after.readText path = some source) (hparse : parse source = .ok b)
    (hname : typeName ∈ known) (hidentifier : isIdentifier typeName = true)
    (hwrite : after.writeText path (fileText typeName b) = some last) :
    before.Detupled known last := by
  obtain ⟨number, file, hfile, hsource, rfl⟩ := exists_file_of_writeText hread hwrite
  have hprogram : file.program? = some b := File.program?_eq_some_iff.2 ⟨source, hsource, hparse⟩
  refine ⟨h.locate, List.length_set.trans h.length, fun n first hfirst => ?_⟩
  obtain ⟨now, hnow, hsame⟩ := h.file n first hfirst
  by_cases hn : number = n
  · subst hn
    obtain rfl : file = now := Option.some.inj (hfile.symm.trans hnow)
    exact ⟨_, List.getElem?_set_self (List.getElem?_eq_some_iff.1 hfile).1,
      hsame.withText hname hidentifier hprogram⟩
  · exact ⟨now, (List.getElem?_set_ne hn).trans hnow, hsame⟩

/-- A path leads to the text that it led to before, or to the text of the detupled program. -/
theorem Detupled.readText_cases (h : before.Detupled known after) (path : String) :
    after.readText path = before.readText path ∨
      ∃ name source b, name ∈ known ∧ isIdentifier name = true ∧
        before.readText path = some source ∧ parse source = .ok b ∧
        after.readText path = some (fileText name b) := by
  unfold readText
  rw [h.locate]
  cases before.locate path with
  | none => exact Or.inl rfl
  | some number =>
    simp only [Option.bind_eq_bind, Option.bind_some]
    rcases h.files_cases number with ⟨hfile, hfile'⟩ | ⟨file, file', hfile, hfile', hsame⟩
    · rw [hfile, hfile']
      exact Or.inl rfl
    · rw [hfile, hfile']
      cases hsame with
      | same => exact Or.inl rfl
      | @replaced name b hname hidentifier hprogram =>
        obtain ⟨source, hsource, hparse⟩ := File.program?_eq_some_iff.1 hprogram
        exact Or.inr ⟨name, source, b, hname, hidentifier, hsource, hparse,
          fromUTF8?_toUTF8 (fileText name b)⟩

/-- The same paths cannot be read. -/
theorem Detupled.readText_eq_none_iff (h : before.Detupled known after) (path : String) :
    after.readText path = none ↔ before.readText path = none := by
  rcases h.readText_cases path with hsame | ⟨name, source, b, -, -, hread, -, hread'⟩
  · rw [hsame]
  · simp [hread, hread']

/-- The same texts are refused. -/
theorem Detupled.readText_eq_some_iff_of_refused (h : before.Detupled known after)
    {e : ParseError} (hparse : parse source = .error e) :
    after.readText path = some source ↔ before.readText path = some source := by
  rcases h.readText_cases path with hsame | ⟨name, first, b, -, hidentifier, hread, hok, hread'⟩
  · rw [hsame]
  · have hok' := parse_fileText (Block.wellFormed_of_parse hok) hidentifier
    rw [hread, hread']
    constructor
    · rintro ⟨⟩
      cases hparse.symm.trans hok'
    · rintro ⟨⟩
      cases hparse.symm.trans hok

/-- The same programs are found, as far as their detupling to the known type is concerned. -/
theorem Detupled.exists_program (h : before.Detupled known after)
    (hread : after.readText path = some source) (hparse : parse source = .ok b) :
    ∃ source₀ b₀, before.readText path = some source₀ ∧ parse source₀ = .ok b₀ ∧
      ∀ name, (∀ name' ∈ known, name' ∈ some name) → fileText name b₀ = fileText name b := by
  rcases h.readText_cases path with hsame | ⟨first, source₀, b₀, hfirst, hidentifier, hread₀, hok,
    hread'⟩
  · exact ⟨source, b, hsame.symm.trans hread, hparse, fun _ _ => rfl⟩
  · refine ⟨source₀, b₀, hread₀, hok, fun name hname => ?_⟩
    obtain rfl : name = first := Option.mem_some_iff.1 (hname first hfirst)
    rw [hread'] at hread
    cases hread
    rw [parse_fileText (Block.wellFormed_of_parse hok) hidentifier] at hparse
    cases hparse
    rw [fileText_detuple]

/-- The same files can be written. -/
theorem Detupled.writeText_eq_none_iff (h : before.Detupled known after) {text' : String} :
    after.writeText path text' = none ↔ before.writeText path text = none := by
  simp only [FileSystem.writeText_eq_none_iff, h.locate]
  refine forall_congr' fun number => ?_
  rcases h.files_cases number with ⟨hfile, hfile'⟩ | ⟨file, file', hfile, hfile', hsame⟩
  · simp [hfile, hfile']
  · simp [hfile, hfile', hsame.writable]

/-- If all files can be written, so can those that hold programs. -/
theorem ProgramsWritable.of_writable (h : ∀ file ∈ fs.files, file.writable = true)
    (paths : List String) : fs.ProgramsWritable paths := by
  intro path _ source b hread _ text hfails
  obtain ⟨number, file, hlocate, hfile, -⟩ := readText_eq_some_iff.1 hread
  have hwritable := h file (List.mem_of_getElem? hfile)
  rw [writeText_eq_none_iff.1 hfails number file hlocate hfile] at hwritable
  cases hwritable

/-- If programs can be written at first, they can also be when they are detupled. -/
theorem ProgramsWritable.of_detupled {paths : List String}
    (hwritable : before.ProgramsWritable paths) (h : before.Detupled known after) :
    after.ProgramsWritable paths := by
  intro path hpath source b hread hparse text hfails
  obtain ⟨source₀, b₀, hread₀, hparse₀, -⟩ := h.exists_program hread hparse
  exact hwritable path hpath source₀ b₀ hread₀ hparse₀ text (h.writeText_eq_none_iff.1 hfails)

/-- What a detupling has written stays there: all that can come later is the same text again. -/
theorem Detupled.readText_of_fileText (h : before.Detupled known after) (hb : b.WellFormed)
    (hidentifier : isIdentifier typeName = true)
    (hread : before.readText path = some (fileText typeName b)) :
    after.readText path = some (fileText typeName b) := by
  rcases h.readText_cases path with hsame | ⟨name, source, b', -, -, hread₀, hparse, hread'⟩
  · exact hsame.trans hread
  · rw [hread] at hread₀
    cases hread₀
    rw [parse_fileText hb hidentifier] at hparse
    cases hparse
    rw [hread', fileText_detuple]

/-- A program that has been detupled can be written once more, which changes nothing. -/
theorem Detupled.writeText_again {last : FileSystem} (h : after.Detupled (some typeName) last)
    (hidentifier : isIdentifier typeName = true) (hread : before.readText path = some source)
    (hparse : parse source = .ok b)
    (hwrite : before.writeText path (fileText typeName b) = some after) :
    last.readText path = some (fileText typeName b) ∧
      last.writeText path (fileText typeName b) = some last := by
  have hthere : last.readText path = some (fileText typeName b) :=
    h.readText_of_fileText (Block.wellFormed_of_parse hparse) hidentifier
      (readText_of_writeText hwrite)
  have hfirst : before.Detupled (some typeName) after :=
    (Detupled.refl _ before).writeText hread hparse rfl hidentifier hwrite
  refine ⟨hthere, writeText_of_readText hthere fun hfails => ?_⟩
  have hfails' : after.writeText path (fileText typeName b) = none :=
    h.writeText_eq_none_iff.1 hfails
  cases (hfirst.writeText_eq_none_iff.1 hfails').symm.trans hwrite

end FileSystem
end Detuple
