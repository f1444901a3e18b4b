/-
  Microcore/Proofs/CommandLine/SourceFile.lean
  ============================================
  **A source file is run, or its bad lines are reported.**  A source with a line outside the grammar gives
  no program, so its run writes the listing and the messages and nothing else.  A source of the grammar
  gives one, and no later stage can fail on it: its words are always an image that can be saved, and the
  machine runs from reset for any number of cycles.  Only the trace can ask for too much
  (`source_file_runs_or_is_refused`).
-/
import Microcore.Proofs.Assembly.Rejected
import Microcore.Proofs.CommandLine.SavedImage

namespace Microcore.CommandLine

/-! ### Listings -/

/-- A listing is written with each entry ended by a line feed. -/
theorem listingText_eq {lines : List String} (h : lines ≠ []) : listingText lines = unlines lines := by
  cases lines with
  | nil => exact absurd rfl h
  | cons first rest =>
    induction rest generalizing first with
    | nil => simp [listingText, unlines]
    | cons second rest ih =>
      have hrest : "\n".intercalate (second :: rest) ++ "\n" = unlines (second :: rest) :=
        ih second (List.cons_ne_nil _ _)
      simp only [listingText, String.intercalate_cons_cons, String.append_assoc, hrest]
      simp only [unlines, List.map_cons, String.join_cons, String.append_assoc]

/-! ### Runs of a source -/

/-- A command line with numbers that are read and files that can be written. -/
structure Valid (host : Host) (find : Path → Found) (args : List String) (o : Options) (n : Nat)
    (t : Int) : Prop where
  parsed : parse args host = .ok o
  cycles : o.cycles = some (n : Int)
  trace : o.trace = some t
  listing : ∀ path, o.listing = some path → CanWrite find path
  hexOut : ∀ path, o.hexOut = some path → CanWrite find path
  /-- The image is not to be written below the listing. -/
  apart : ∀ p q, o.listing = some p → o.hexOut = some q → p.isAbove q = false

/-- A command line that runs a source. -/
structure RunsSource (host : Host) (find : Path → Found) (args : List String) (o : Options)
    (source : List Char) (n : Nat) (t : Int) : Prop extends Valid host find args o n t where
  source : HoldsSource find o source

/-- The files of a program: its listing, and the image that holds its words. -/
structure HoldsFiles (o : Options) (program : Program) (files : List (Path × String)) : Prop where
  listing : ∀ path, o.listing = some path → o.hexOut ≠ some path →
    files.lookup path = some (listingText program.listing)
  image : ∀ path, o.hexOut = some path → ∃ text, files.lookup path = some text ∧
    readImage text.toUTF8 = .ok { words := program.words }

/-- The messages of a refused source, and how many there are. -/
def refusalText (errors : List String) : String :=
  unlines errors ++
    s!"run.py: {Numeral.decimal errors.length} syntax error(s), image not generated\n"

theorem message_rejection (rejection : Assembly.Rejection) :
    unlines rejection.errors ++ message rejection.message = refusalText rejection.errors := by
  have hmessage : message rejection.message =
      s!"run.py: {Numeral.decimal rejection.errors.length} syntax error(s), image not generated\n" := by
    apply String.toList_inj.mp
    simp [message, programName, Assembly.Rejection.message, toString]
  rw [hmessage, refusalText]

/-- What is left of a source with bad lines: its listing and its messages, one for each bad line. -/
structure Refuses (filter : Log.Filter) (o : Options) (source : List Char)
    (rejection : Assembly.Rejection) (outcome : Outcome) : Prop where
  status : outcome.status = 1
  silent : filter = quiet → outcome.stdout = ""
  reports : List.Forall₂ Assembly.Reports (Assembly.badLines source) rejection.errors
  stderr : outcome.stderr = refusalText rejection.errors
  files : outcome.files = (o.listing.map fun path => (path, unlines rejection.listing)).toList
  /-- No image is made. -/
  unsaved : ∀ path, o.hexOut = some path → o.listing ≠ some path →
    path ∉ outcome.files.map Prod.fst

section RunsSource

variable {host : Host} {find : Path → Found} {args : List String} {o : Options} {source : List Char}
  {n : Nat} {t : Int} (h : RunsSource host find args o source n t)

include h

theorem RunsSource.run_eq (filter : Log.Filter) :
    run find filter args host = runOptions find filter o n host := by
  obtain ⟨bytes, text, hfound, -, -⟩ := h.source.found
  exact run_eq_runOptions h.parsed hfound h.cycles filter

/-- The listing is written, and nothing else yet. -/
theorem RunsSource.writeFile_listing (text : String) : writeFile find o.listing text [] =
    .ok (o.listing.map fun path => (path, text)).toList := by
  cases hlisting : o.listing with
  | none => rfl
  | some path => exact writeFile_of_canWrite (h.listing path hlisting) text

/-- **All files of a program are written.** -/
theorem RunsSource.exists_writeFiles (program : Program) :
    ∃ files, writeFiles find o program = .ok files ∧ HoldsFiles o program files := by
  obtain ⟨text, htext⟩ := HexImage.exists_write? program.words
  simp only [writeFiles, h.writeFile_listing, htext, ok_bind]
  cases hhexOut : o.hexOut with
  | none =>
    refine ⟨_, rfl, ?_, ?_⟩
    · intro path hlisting _
      simp [hlisting]
    · intro path hpath
      cases hhexOut.symm.trans hpath
  | some target =>
    have habove : ∀ file ∈ (o.listing.map fun path => (path, listingText program.listing)).toList,
        file.1.isAbove target = false := by
      intro file hfile
      cases hlisting : o.listing with
      | none =>
        rw [hlisting] at hfile
        cases hfile
      | some path =>
        rw [hlisting] at hfile
        rw [List.mem_singleton.mp hfile]
        exact h.apart path target hlisting hhexOut
    refine ⟨_, writeFile_eq (h.hexOut target hhexOut) habove _, ?_, ?_⟩
    · intro path hlisting hne
      have hpath : path ≠ target := by
        rintro rfl
        exact hne hhexOut
      simp [hlisting, hpath]
    · intro path hpath
      cases hhexOut.symm.trans hpath
      exact ⟨String.ofList text, lookup_written _ target _, readImage_saved htext⟩

/-- **A source of the grammar is run,** if there is room for the trace. -/
theorem RunsSource.run_of_image {image : Assembly.Image}
    (himage : Assembly.assemble o.source.name source = .ok image) (filter : Log.Filter) :
    ∃ files, writeFiles find o (.ofImage image) = .ok files ∧ HoldsFiles o (.ofImage image) files ∧
      (t ≤ host.room → ∃ stdout, run find filter args host =
        .ok { status := 0, stdout, stderr := unlines (image.warnings ++ image.errors), files }) ∧
      (host.room < t → ∃ fault, run find filter args host = .error (.machine (.trace fault))) := by
  have hload : load find o = .ok (.ofImage image) := by rw [h.source.load_eq, himage]
  obtain ⟨files, hfiles, hholds⟩ := h.exists_writeFiles (.ofImage image)
  rw [h.run_eq]
  refine ⟨files, hfiles, hholds, ?_, ?_⟩
  · intro hroom
    obtain ⟨stdout, houtput⟩ := exists_output hroom filter n o.dump (.ofImage image)
    exact ⟨stdout, runOptions_of_output hload h.trace hfiles houtput⟩
  · intro hroom
    exact runOptions_of_no_room hload h.trace hfiles hroom filter n

/-- **A source with bad lines is refused,** with its listing and its messages. -/
theorem RunsSource.run_of_rejection {rejection : Assembly.Rejection}
    (hrejection : Assembly.assemble o.source.name source = .error rejection) (filter : Log.Filter) :
    ∃ outcome, run find filter args host = .ok outcome ∧
      Refuses filter o source rejection outcome := by
  have hload : load find o = .error (.source rejection) := by rw [h.source.load_eq, hrejection]
  have hlisting : rejection.listing ≠ [] := by
    rw [Assembly.listing_of_rejected hrejection, Assembly.Listing.header]
    exact List.cons_ne_nil _ _
  rw [h.run_eq, runOptions, hload]
  simp only [h.writeFile_listing, ok_bind, listingText_eq hlisting, message_rejection]
  refine ⟨_, rfl, rfl, ?_, ?_, rfl, rfl, ?_⟩
  · rintro rfl
    exact render_quiet _
  · rw [Assembly.errors_of_assemble hrejection]
    exact Assembly.forall₂_reports source
  · intro path _ hne
    cases hpath : o.listing with
    | none => exact List.not_mem_nil
    | some listing =>
      rintro hmem
      rw [List.mem_singleton.mp hmem] at hne
      exact hne hpath

/-- **A source file is run, or its bad lines are reported.**  If a line is outside the grammar, the run
    leaves the listing and the messages behind and nothing else.  Otherwise it ends well, with the
    warnings and then the errors, exactly if the host has room for the trace. -/
theorem source_file_runs_or_is_refused (filter : Log.Filter) :
    ((∃ raw ∈ Lines.lines source, ¬Assembly.Good (Blank.words raw)) →
      ∃ rejection outcome, Assembly.assemble o.source.name source = .error rejection ∧
        run find filter args host = .ok outcome ∧ Refuses filter o source rejection outcome) ∧
    ((∀ raw ∈ Lines.lines source, Assembly.Good (Blank.words raw)) →
      ∃ image, Assembly.assemble o.source.name source = .ok image ∧
        (t ≤ host.room → ∃ outcome, run find filter args host = .ok outcome ∧ outcome.status = 0 ∧
          outcome.stderr = unlines image.warnings ++ unlines image.errors) ∧
        (host.room < t → ∃ fault, run find filter args host = .error (.machine (.trace fault)))) := by
  constructor
  · intro hbad
    obtain ⟨rejection, hrejection⟩ := Assembly.exists_rejection o.source.name hbad
    obtain ⟨outcome, hrun, hrefuses⟩ := h.run_of_rejection hrejection filter
    exact ⟨rejection, outcome, hrejection, hrun, hrefuses⟩
  · intro hgood
    obtain ⟨image, himage⟩ := (@Assembly.exists_image_iff o.source.name source).mpr hgood
    obtain ⟨files, -, -, hroom, hnoRoom⟩ := h.run_of_image himage filter
    refine ⟨image, himage, ?_, hnoRoom⟩
    intro hle
    obtain ⟨stdout, hrun⟩ := hroom hle
    refine ⟨_, hrun, rfl, ?_⟩
    simp only [unlines, List.map_append, String.join_append]

end RunsSource

theorem holdsSource_holding (text : String) {o : Options} (hsource : o.source = Path.ofString sourceName)
    (hhex : o.asHex = false) : HoldsSource (holding text) o (Lines.normalize text.toList) where
  found := ⟨text.toUTF8, text.toList, by rw [hsource]; exact if_pos rfl, Encoding.utf8?_toUTF8 text, rfl⟩
  noImage := by
    rw [hsource, hhex]
    decide

/-- A source with two bad lines, of which a listing and an image are asked for. -/
theorem refused_source_is_listed :
    let find := holding "LDI 01\n$7 LDI\nJMP $8\nHALT\n"
    let args := ["a.uca", "--listing", "a.lst", "--trace", "5", "--hex-out", "a.hex"]
    let o : Options := { source := Path.ofString "a.uca", listing := some (Path.ofString "a.lst")
                         trace := some 5, hexOut := some (Path.ofString "a.hex") }
    let source := "LDI 01\n$7 LDI\nJMP $8\nHALT\n".toList
    RunsSource .usual find args o source 256 5 ∧ (Assembly.badLines source).length = 2 ∧
      ∃ rejection outcome, Assembly.assemble "a.uca" source = .error rejection ∧
        run find quiet args .usual = .ok outcome ∧ Refuses quiet o source rejection outcome := by
  intro find args o source
  have hruns : RunsSource .usual find args o source 256 5 :=
    { parsed := by decide
      source := holdsSource_holding _ rfl rfl
      cycles := rfl
      trace := rfl
      listing := by
        rintro path ⟨⟩
        exact .inl (if_neg (by decide))
      hexOut := by
        rintro path ⟨⟩
        exact .inl (if_neg (by decide))
      apart := by
        rintro p q ⟨⟩ ⟨⟩
        decide }
  have hbad : ∃ raw ∈ Lines.lines source, ¬Assembly.Good (Blank.words raw) := by decide +kernel
  exact ⟨hruns, by decide +kernel, (source_file_runs_or_is_refused hruns quiet).1 hbad⟩

/-- On no host does a source of the grammar end well with a trace of 2 ^ 63 cycles. -/
theorem endless_trace_of_source_fails :
    let find := holding "JMP $1\n"
    let args := ["a.uca", "--cycles", "0", "--trace", "9223372036854775808"]
    let o : Options := { source := Path.ofString "a.uca", cycles := some 0
                         trace := some 9223372036854775808 }
    let source := "JMP $1\n".toList
    (∀ raw ∈ Lines.lines source, Assembly.Good (Blank.words raw)) ∧
      ∀ host : Host, RunsSource host find args o source 0 9223372036854775808 ∧
        ¬∃ outcome, run find quiet args host = .ok outcome ∧ outcome.status = 0 := by
  intro find args o source
  have hgood : ∀ raw ∈ Lines.lines source, Assembly.Good (Blank.words raw) := by decide +kernel
  refine ⟨hgood, ?_⟩
  intro host
  have hargs : args = commandLine sourceName (runSettings 0 9223372036854775808 false) := by decide
  have hzero : host.Short (0 : Nat) := @Host.short_of_lt host _ 1 (by decide) (by decide)
  have hendless : host.Short 9223372036854775808 := @Host.short_of_lt host _ 19 (by decide) (by decide)
  have hruns : RunsSource host find args o source 0 9223372036854775808 :=
    { parsed := by
        rw [hargs, parse_settings host isPlain_sourceName (valid_runSettings _ _ _),
          foldlM_runSettings hzero hendless]
        rfl
      source := holdsSource_holding _ rfl rfl
      cycles := rfl
      trace := rfl
      listing := by rintro path ⟨⟩
      hexOut := by rintro path ⟨⟩
      apart := by rintro p q ⟨⟩ }
  refine ⟨hruns, ?_⟩
  obtain ⟨image, himage⟩ := (@Assembly.exists_image_iff o.source.name source).mpr hgood
  obtain ⟨files, -, -, -, hnoRoom⟩ := hruns.run_of_image himage quiet
  obtain ⟨fault, hfault⟩ := hnoRoom host.room_lt_endless
  rintro ⟨outcome, hrun, -⟩
  rw [hfault] at hrun
  cases hrun

end Microcore.CommandLine
