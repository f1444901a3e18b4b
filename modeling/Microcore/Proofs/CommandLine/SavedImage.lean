/-
  Microcore/Proofs/CommandLine/SavedImage.lean
  ============================================
  **A saved image runs like its source.**  The words of an assembled source are in range, so the file
  that they are saved in is read back as these words, and what a run prints depends on the words alone
  when nothing is logged (`run_saved`).  A command line gives up only if a number on it has more digits
  than the host reads, or if the host has no room for the trace.
-/
import Microcore.Proofs.Assembly.TwoPass
import Microcore.Proofs.CommandLine.Arguments
import Microcore.Proofs.CommandLine.Run

namespace Microcore.CommandLine

/-! ### Runs of a program -/

/-- A command line whose options load a program and write files. -/
structure Loads (host : Host) (find : Path → Found) (args : List String) (o : Options)
    (program : Program) (files : List (Path × String)) : Prop where
  parsed : parse args host = .ok o
  found : ∃ bytes, find o.source = .file bytes
  loaded : load find o = .ok program
  unlisted : o.listing = none
  written : ∃ text, HexImage.write? (program.words.toList.map unsigned) = .ok text ∧
    writeFile find o.hexOut (String.ofList text) [] = .ok files

section Loads

variable {host : Host} {find : Path → Found} {args : List String} {o : Options} {program : Program}
  {files : List (Path × String)} (h : Loads host find args o program files)

include h

theorem Loads.writeFiles_eq : writeFiles find o program = .ok files := by
  obtain ⟨text, htext, hwritten⟩ := h.written
  simp only [writeFiles, h.unlisted, writeFile_none, ok_bind, htext, hwritten]

variable {n : Nat} (hcycles : o.cycles = some (n : Int)) {t : Int} (htrace : o.trace = some t)

include hcycles htrace

theorem Loads.run_of_output {stdout : String}
    (houtput : outputOf host quiet n t o.dump program = .ok stdout) : run find quiet args host =
      .ok { status := 0, stdout, stderr := unlines program.messages, files } := by
  obtain ⟨bytes, hfound⟩ := h.found
  rw [run_eq_runOptions h.parsed hfound hcycles]
  exact runOptions_of_output h.loaded htrace h.writeFiles_eq houtput

theorem Loads.run_of_no_room (filter : Log.Filter) (hroom : host.room < t) :
    ∃ failure, run find filter args host = .error failure := by
  obtain ⟨bytes, hfound⟩ := h.found
  obtain ⟨fault, hfault⟩ := runOptions_of_no_room h.loaded htrace h.writeFiles_eq hroom filter n
  rw [run_eq_runOptions h.parsed hfound hcycles]
  exact ⟨_, hfault⟩

end Loads

/-! ### Command lines -/

/-- The settings of a run of so many cycles, with a trace of so many, with or without a dump. -/
def runSettings (n : Nat) (t : Int) (dump : Bool) : List Setting :=
  [.value .cycles (Numeral.decimal n), .value .trace (Numeral.decimal t)] ++
    if dump then [.switch .dump] else []

/-- The setting that saves an image. -/
def saveAs (name : String) : Setting := .value .hexOut name

theorem integer?_decimal (host : Host) (flag : Flag) (x : Int) :
    integer? host flag (Numeral.decimal x) =
      if host.Short x then .ok (some x)
      else .error (.fault (.notInteger flag (Numeral.decimal x))) := by
  have hne : Numeral.decimal x ≠ noValueMark := (isPlain_decimal x).ne_separator
  rw [integer?, if_neg hne, Numeral.decimal, String.toList_ofList, Numeral.read?_decimalChars]
  by_cases hx : host.Short x
  · rw [if_pos hx, if_pos hx]
  · rw [if_neg hx, if_neg hx]

theorem valid_runSettings (n : Nat) (t : Int) (dump : Bool) :
    ∀ s ∈ runSettings n t dump, s.Valid := by
  intro s hs
  rcases List.mem_append.mp hs with hs | hs
  · rcases List.mem_pair.mp hs with rfl | rfl
    · exact ⟨rfl, isPlain_decimal _⟩
    · exact ⟨rfl, isPlain_decimal _⟩
  · cases dump with
    | true =>
      rw [List.mem_singleton.mp hs]
      rfl
    | false => cases hs

example : commandLine "a.uca" (runSettings 9 (-3) true ++ [saveAs "o.hex"]) =
    ["a.uca", "--cycles", "9", "--trace", "-3", "--dump", "--hex-out", "o.hex"] := by decide

section RunSettings

variable {host : Host} {n : Nat} {t : Int} {dump : Bool}

theorem foldlM_runSettings (hn : host.Short n) (ht : host.Short t) (source : Path) :
    (runSettings n t dump).foldlM (Setting.set host) { source } =
      .ok { source, cycles := some (n : Int), trace := some t, dump } := by
  simp only [runSettings, List.cons_append, List.nil_append, List.foldlM_cons, Setting.set,
    Options.setValue, integer?_decimal, if_pos hn, if_pos ht]
  cases dump <;> rfl

theorem foldlM_runSettings_error (h : ¬(host.Short n ∧ host.Short t)) (o : Options) :
    ∃ fault, (runSettings n t dump).foldlM (Setting.set host) o = .error (.fault fault) := by
  simp only [runSettings, List.cons_append, List.nil_append, List.foldlM_cons, Setting.set,
    Options.setValue, integer?_decimal]
  by_cases hn : host.Short n
  · have ht : ¬host.Short t := fun ht => h ⟨hn, ht⟩
    rw [if_pos hn, if_neg ht]
    exact ⟨_, rfl⟩
  · rw [if_neg hn]
    exact ⟨_, rfl⟩

end RunSettings

/-! ### A source and its image -/

def sourceName : String := "a.uca"

def imageName : String := "o.hex"

def copyName : String := "p.hex"

/-- What stands at a path once files are written. -/
def afterWriting (find : Path → Found) (files : List (Path × String)) (path : Path) : Found :=
  match files.lookup path with
  | some text => .file text.toUTF8
  | none => find path

/-- There is a source that is assembled, and its image and a copy of the image can be written. -/
structure HasSource (find : Path → Found) : Prop where
  assembled : ∃ bytes text image, find (Path.ofString sourceName) = .file bytes ∧
    Encoding.utf8? bytes = some text ∧
      Assembly.assemble sourceName (Lines.normalize text) = .ok image
  image : CanWrite find (Path.ofString imageName)
  copy : CanWrite find (Path.ofString copyName)

/-- The source has been run and its image saved, and the image has been run in the same way and
    saved again. -/
structure RunTwice (host : Host) (find : Path → Found) (n : Nat) (t : Int) (dump : Bool)
    (source image : Outcome) (text : String) : Prop where
  sourceRun : run find quiet
    (commandLine sourceName (runSettings n t dump ++ [saveAs imageName])) host = .ok source
  sourceStatus : source.status = 0
  saved : source.files = [(Path.ofString imageName, text)]
  imageRun : run (afterWriting find source.files) quiet
    (commandLine imageName (runSettings n t dump)) host = .ok image
  imageStatus : image.status = 0
  stdout : image.stdout = source.stdout
  stderr : image.stderr = ""
  copied : ∀ settings ∈ [[], runSettings n t dump], ∃ copy,
    run (afterWriting find source.files) quiet
      (commandLine imageName (settings ++ [saveAs copyName])) host = .ok copy ∧
      copy.status = 0 ∧ copy.files = [(Path.ofString copyName, text)]

/-- A source and its saved image run alike. -/
def RunsAlike (host : Host) (find : Path → Found) (n : Nat) (t : Int) (dump : Bool) : Prop :=
  ∃ source image text, RunTwice host find n t dump source image text

section SaveAs

variable {source name : String} (hsource : IsPlain source) (hname : IsPlain name)
  {settings : List Setting} (hvalid : ∀ s ∈ settings, s.Valid)

include hsource hname hvalid

/-- An image is saved after the other options are set. -/
theorem parse_saveAs (host : Host) : parse (commandLine source (settings ++ [saveAs name])) host =
    (settings.foldlM (Setting.set host) { source := ⟨"", []⟩ }).map fun o =>
      { o with source := Path.ofString source, hexOut := some (Path.ofString name) } := by
  have hall : ∀ s ∈ settings ++ [saveAs name], s.Valid := by
    intro s hs
    rcases List.mem_append.mp hs with hs | hs
    · exact hvalid s hs
    · rw [List.mem_singleton.mp hs]
      exact ⟨rfl, hname⟩
  have hpath : path? name = some (Path.ofString name) := if_neg hname.ne_separator
  rw [parse_settings host hsource hall, List.foldlM_append, ← hpath]
  cases settings.foldlM (Setting.set host) { source := ⟨"", []⟩ } <;> rfl

end SaveAs

section Load

variable {find : Path → Found}

/-- The source is loaded as it is assembled. -/
theorem HasSource.load_eq (h : HasSource find) : ∃ image : Assembly.Image,
    (∃ bytes, find (Path.ofString sourceName) = .file bytes) ∧ ∀ o : Options,
      o.source = Path.ofString sourceName → o.asHex = false →
        load find o = .ok (.ofImage image) := by
  obtain ⟨bytes, text, image, hfound, htext, himage⟩ := h.assembled
  refine ⟨image, ⟨bytes, hfound⟩, ?_⟩
  intro o hsource hhex
  have hholds : HoldsSource find o (Lines.normalize text) :=
    { found := ⟨bytes, text, hsource ▸ hfound, htext, rfl⟩
      noImage := by
        rw [hsource, hhex]
        decide }
  have hname : (Path.ofString sourceName).name = sourceName := by decide
  rw [hholds.load_eq, hsource, hname, himage]

/-- A saved image is loaded from where it was written. -/
theorem load_saved {words : Vector Word 256} {text : List Char}
    (h : HexImage.write? (words.toList.map unsigned) = .ok text)
    (hfound : find (Path.ofString imageName) = .file (String.ofList text).toUTF8) {o : Options}
    (hsource : o.source = Path.ofString imageName) : load find o = .ok { words } := by
  have hsuffix : Letter.lower (Path.ofString imageName).suffix = ".hex".toList := by decide
  rw [load_of_image (.inr (hsource ▸ hsuffix)) (hsource ▸ hfound), readImage_saved h]

end Load

theorem isPlain_sourceName : IsPlain sourceName := .of_head (by decide)

theorem isPlain_imageName : IsPlain imageName := .of_head (by decide)

theorem isPlain_copyName : IsPlain copyName := .of_head (by decide)

/-- **A saved image is run** as its words are. -/
theorem run_saved {host : Host} {find : Path → Found} {words : Vector Word 256} {text : List Char}
    (h : HexImage.write? (words.toList.map unsigned) = .ok text)
    (hfound : find (Path.ofString imageName) = .file (String.ofList text).toUTF8)
    {args : List String} {o : Options} (hparse : parse args host = .ok o)
    (hsource : o.source = Path.ofString imageName) (hlisting : o.listing = none)
    {files : List (Path × String)}
    (hfiles : writeFile find o.hexOut (String.ofList text) [] = .ok files)
    {n : Nat} (hcycles : o.cycles = some (n : Int)) {t : Int} (htrace : o.trace = some t)
    {stdout : String} (houtput : outputOf host quiet n t o.dump { words } = .ok stdout) :
    run find quiet args host = .ok { status := 0, stdout, files } := by
  have hloads : Loads host find args o { words } files :=
    ⟨hparse, ⟨_, hsource ▸ hfound⟩, load_saved h hfound hsource, hlisting, text, h, hfiles⟩
  exact hloads.run_of_output hcycles htrace houtput

section RunsAlike

variable {host : Host} {find : Path → Found} (h : HasSource find) {n : Nat} {t : Int} (dump : Bool)

include h

/-- The source is loaded, and its image is saved. -/
theorem HasSource.loads (hn : host.Short n) (ht : host.Short t) : ∃ program text,
    HexImage.write? (program.words.toList.map unsigned) = .ok text ∧
      Loads host find (commandLine sourceName (runSettings n t dump ++ [saveAs imageName]))
        { source := Path.ofString sourceName, cycles := some (n : Int), trace := some t, dump
          hexOut := some (Path.ofString imageName) }
        program [(Path.ofString imageName, String.ofList text)] := by
  obtain ⟨image, hfound, hload⟩ := h.load_eq
  obtain ⟨text, htext⟩ := HexImage.exists_write? image.words
  exact ⟨_, text, htext,
    { parsed := by
        rw [parse_saveAs isPlain_sourceName isPlain_imageName (valid_runSettings n t dump) host,
          foldlM_runSettings hn ht]
        rfl
      found := hfound
      loaded := hload _ rfl rfl
      unlisted := rfl
      written := ⟨text, htext, writeFile_of_canWrite h.image _⟩ }⟩

theorem runsAlike_of_room (hn : host.Short n) (ht : host.Short t) (hroom : t ≤ host.room) :
    RunsAlike host find n t dump := by
  obtain ⟨program, text, htext, hsource⟩ := h.loads dump hn ht
  obtain ⟨stdout, houtput⟩ := output_quiet hroom program.words n dump
  let files := [(Path.ofString imageName, String.ofList text)]
  have hfound : afterWriting find files (Path.ofString imageName) =
      .file (String.ofList text).toUTF8 := by
    simp [afterWriting, files]
  have hcopy : CanWrite (afterWriting find files) (Path.ofString copyName) := h.copy
  have hparse : parse (commandLine imageName (runSettings n t dump)) host = .ok
      { source := Path.ofString imageName, cycles := some (n : Int), trace := some t, dump } := by
    rw [parse_settings host isPlain_imageName (valid_runSettings n t dump), foldlM_runSettings hn ht]
    rfl
  refine ⟨{ status := 0, stdout, stderr := unlines program.messages, files },
    { status := 0, stdout }, String.ofList text, ?_⟩
  exact
    { sourceRun := hsource.run_of_output rfl rfl (houtput program rfl)
      sourceStatus := rfl
      saved := rfl
      imageRun := run_saved htext hfound hparse rfl rfl rfl rfl rfl (houtput _ rfl)
      imageStatus := rfl
      stdout := rfl
      stderr := rfl
      copied := by
        intro settings hsettings
        rcases List.mem_pair.mp hsettings with rfl | rfl
        · have hnone : (0 : Int) ≤ host.room := Int.natCast_nonneg _
          obtain ⟨stdout, houtput⟩ := output_quiet hnone program.words 256 false
          have hparse := parse_saveAs isPlain_imageName isPlain_copyName
            (List.forall_mem_nil Setting.Valid) host
          exact ⟨_, run_saved htext hfound hparse rfl rfl (writeFile_of_canWrite hcopy _) rfl rfl
            (houtput _ rfl), rfl, rfl⟩
        · have hparse := parse_saveAs isPlain_imageName isPlain_copyName
            (valid_runSettings n t dump) host
          rw [foldlM_runSettings hn ht] at hparse
          exact ⟨_, run_saved htext hfound hparse rfl rfl (writeFile_of_canWrite hcopy _) rfl rfl
            (houtput _ rfl), rfl, rfl⟩ }

theorem not_runsAlike (hbad : ¬(host.Short n ∧ host.Short t ∧ t ≤ host.room)) :
    ¬RunsAlike host find n t dump := by
  rintro ⟨source, image, text, hruns⟩
  by_cases hshort : host.Short n ∧ host.Short t
  · have hroom : host.room < t := Int.not_le.mp fun hle => hbad ⟨hshort.1, hshort.2, hle⟩
    obtain ⟨program, text, -, hloads⟩ := h.loads dump hshort.1 hshort.2
    obtain ⟨failure, hfailure⟩ := hloads.run_of_no_room rfl rfl quiet hroom
    have hsource := hruns.sourceRun
    rw [hfailure] at hsource
    cases hsource
  · obtain ⟨fault, hfault⟩ := @foldlM_runSettings_error host n t dump hshort { source := ⟨"", []⟩ }
    have hsource := hruns.sourceRun
    have hstatus := hruns.sourceStatus
    rw [run, parse_saveAs isPlain_sourceName isPlain_imageName (valid_runSettings n t dump) host,
      hfault] at hsource
    cases hsource
    cases hstatus

/-- **A saved image runs like its source.**  The source is run and its image saved, the image is run
    with the same output and no diagnostics, and saved again it is the same text, exactly if the numbers
    are short enough for the host to be read and it has room for the trace. -/
theorem saved_image_runs_alike :
    RunsAlike host find n t dump ↔ host.Short n ∧ host.Short t ∧ t ≤ host.room := by
  constructor
  · intro halike
    by_contra hbad
    exact not_runsAlike h dump hbad halike
  · rintro ⟨hn, ht, hroom⟩
    exact runsAlike_of_room h dump hn ht hroom

end RunsAlike

/-- A directory that holds nothing but a source. -/
def holding (source : String) (path : Path) : Found :=
  if path = Path.ofString sourceName then .file source.toUTF8 else .vacant

theorem hasSource_holding {source : String}
    (h : (Assembly.sourceLines (Lines.normalize source.toList)).filterMap
      Assembly.SourceLine.message? = []) : HasSource (holding source) where
  assembled := by
    obtain ⟨image, himage⟩ := Assembly.exists_image sourceName h
    exact ⟨source.toUTF8, source.toList, image, if_pos rfl, Encoding.utf8?_toUTF8 source, himage⟩
  image := .inl (if_neg (by decide))
  copy := .inl (if_neg (by decide))

/-- No host runs the empty source with a trace of 2 ^ 63 cycles. -/
theorem endless_trace_fails : HasSource (holding "") ∧
    ∀ host : Host, ¬RunsAlike host (holding "") 0 9223372036854775808 false := by
  have hsource : HasSource (holding "") := hasSource_holding rfl
  refine ⟨hsource, ?_⟩
  intro host
  apply not_runsAlike hsource false
  rintro ⟨-, -, hroom⟩
  exact Int.not_le.mpr host.room_lt_endless hroom

/-- A loop that stores what it counts, run for nine cycles with a trace of the last three. -/
theorem counting_source_runs_alike :
    let source := "$1 STA %10\n ADI 01\n JMP $1 ; again\n"
    HasSource (holding source) ∧ RunsAlike .usual (holding source) 9 3 true := by
  intro source
  have hsource : HasSource (holding source) := hasSource_holding (by decide)
  have hnine : Host.usual.Short (9 : Nat) := @Host.short_of_lt .usual _ 1 (by decide) (by decide)
  have hthree : Host.usual.Short 3 := @Host.short_of_lt .usual _ 1 (by decide) (by decide)
  exact ⟨hsource, (saved_image_runs_alike hsource true).mpr ⟨hnine, hthree, by decide⟩⟩

end Microcore.CommandLine
