/-
  Microcore/Proofs/CommandLine/Run.lean
  =====================================
  **Runs, stage by stage.**  A command line is carried out on its options (`run_eq_runOptions`), a program
  is loaded from an image file (`load_of_image`) or from a source (`HoldsSource.load_eq`), its files are
  written (`writeFiles`), and a machine is made and clocked (`outputOf`).  The last stage fails exactly if
  the host has no room for the trace (`exists_output`, `output_of_no_room`), so a run of a loaded program
  ends well if its files can be written and there is this room (`runOptions_of_output`).
-/
import Microcore.CommandLine.Run
import Microcore.Proofs.HexImage
import Microcore.Proofs.Reachable

namespace Microcore

/-! ### Image files -/

namespace Encoding

theorem toList_toUTF8 {text : List Char} (h : ∀ c ∈ text, c.toNat < 128) :
    (String.ofList text).toUTF8.data.toList = text.map fun c => c.val.toUInt8 := by
  have hencode : ∀ c ∈ text, String.utf8EncodeChar c = [c.val.toUInt8] := by
    intro c hc
    apply String.utf8EncodeChar_eq_singleton
    exact Char.utf8Size_eq_one_iff.mpr (UInt32.le_iff_toNat_le.mpr (Nat.le_of_lt_succ (h c hc)))
  rw [String.toUTF8_eq_toByteArray, String.toByteArray_ofList, List.map_eq_flatMap,
    ← List.flatMap_congr hencode]
  exact List.toList_data_toByteArray

/-- A text in ASCII is read back from its bytes. -/
theorem ascii_toUTF8 {text : List Char} (h : ∀ c ∈ text, c.toNat < 128) :
    ascii (String.ofList text).toUTF8.data.toList = .all text := by
  have hbyte : ∀ c ∈ text, c.val.toUInt8.toNat = c.toNat := fun c hc =>
    Nat.mod_eq_of_lt (Nat.lt_trans (h c hc) (by decide))
  have hnone : (text.map fun c => c.val.toUInt8).findIdx? (fun b => 128 ≤ b) = none := by
    rw [List.findIdx?_eq_none_iff]
    intro b hb
    obtain ⟨c, hc, rfl⟩ := List.mem_map.mp hb
    rw [decide_eq_false_iff_not, UInt8.le_iff_toNat_le, hbyte c hc, Nat.not_le]
    exact h c hc
  have hchars : (text.map fun c => c.val.toUInt8).map (fun b => Char.ofNat b.toNat) = text := by
    rw [List.map_map]
    refine (List.map_congr_left ?_).trans (List.map_id text)
    intro c hc
    show Char.ofNat c.val.toUInt8.toNat = c
    rw [hbyte c hc, Char.ofNat_toNat]
  rw [ascii, toList_toUTF8 h, hnone, hchars]

end Encoding

namespace CommandLine

/-- A saved image is loaded. -/
theorem readImage_saved {words : Vector Word 256} {text : List Char}
    (h : HexImage.write? (words.toList.map unsigned) = .ok text) :
    readImage (String.ofList text).toUTF8 = .ok { words } := by
  have hlines : Lines.normalize text = text :=
    Lines.normalize_of_not_mem fun hmem => (HexImage.mem_of_write? h hmem).2 rfl
  rw [readImage, Encoding.ascii_toUTF8 fun c hc => (HexImage.mem_of_write? h hc).1]
  simp only [hlines, HexImage.read?_of_write? h]

end CommandLine

/-! ### Clocking a program -/

theorem Machine.fault_stepUpTo {m : Machine} (h : m.state.InRange) (n : Nat) :
    (stepUpTo n { machine := m }).fault = none := by
  obtain ⟨steps, -, -, hended⟩ := @stepUpTo_steps .usual n { machine := m } rfl
  rcases hended with ⟨-, hfault⟩ | ⟨-, fault, hstep, -⟩
  · exact hfault
  · rw [step_eq_next (CoreState.invariant_inRange.stepUpTo n h)] at hstep
    cases hstep

namespace CommandLine

/-- Nothing is logged. -/
def quiet : Log.Filter := .ofSetting ""

theorem render_quiet (log : List Log.Entry) : quiet.render log = "" := by
  have hsilent : quiet = .silent := by decide
  rw [hsilent, Log.Filter.render_silent]

/-- The program of a machine is in its memory, and the host may have no room for its trace. -/
theorem exists_machineFor?_eq (words : Vector Word 256) : ∃ rom, ∀ (program : Program) (t : Int)
    (host : Host), program.words = words → machineFor? program t host =
      ((Machine.traceOf (max t 0) host).mapError .trace).map fun trace =>
        { rom, ram := .blank .data addressSpace, trace } := by
  have hlength : words.toList.length ≤ 256 := Nat.le_of_eq words.length_toList
  obtain ⟨rom, hrom, -⟩ := @Memory.loadImage_blank .program _ hlength
  refine ⟨rom, ?_⟩
  rintro program t host rfl
  simp only [machineFor?, Machine.create?, Machine.memoryOf, hrom]
  cases Machine.traceOf (max t 0) host <;> rfl

/-- What the run of a program prints. -/
def outputOf (host : Host) (filter : Log.Filter) (n : Nat) (t : Int) (dump : Bool) (program : Program) :
    Except Failure String := do
  let m ← (machineFor? program t host).mapError .machine
  clock filter n t dump program m

section Output

variable {host : Host} {t : Int}

theorem max_le_room (hroom : t ≤ host.room) : max t 0 ≤ host.room :=
  Int.max_le.mpr ⟨hroom, Int.natCast_nonneg _⟩

/-- **A program is clocked to the end** if there is room for the trace. -/
theorem exists_output (hroom : t ≤ host.room) (filter : Log.Filter) (n : Nat) (dump : Bool)
    (program : Program) : ∃ stdout, outputOf host filter n t dump program = .ok stdout := by
  obtain ⟨rom, hmachine⟩ := exists_machineFor?_eq program.words
  obtain ⟨trace, htrace, -⟩ := Machine.traceOf_of_room (max_le_room hroom)
  let m : Machine := { rom, ram := .blank .data addressSpace, trace }
  have hmade : machineFor? program t host = .ok m := by
    rw [hmachine program t host rfl, htrace]
    rfl
  have hfault : (Machine.stepUpTo n { machine := m }).fault = none :=
    Machine.fault_stepUpTo CoreState.inRange_reset n
  rw [outputOf, hmade]
  show ∃ stdout, clock filter n t dump program m = .ok stdout
  rw [clock, hfault]
  exact ⟨_, rfl⟩

/-- What a run prints depends on the words of the program alone. -/
theorem output_quiet (hroom : t ≤ host.room) (words : Vector Word 256) (n : Nat) (dump : Bool) :
    ∃ stdout, ∀ program : Program, program.words = words →
      outputOf host quiet n t dump program = .ok stdout := by
  obtain ⟨rom, hmachine⟩ := exists_machineFor?_eq words
  obtain ⟨stdout, hstdout⟩ := exists_output hroom quiet n dump { words }
  refine ⟨stdout, ?_⟩
  intro program hwords
  rw [← hstdout, outputOf, outputOf, hmachine program t host hwords, hmachine { words } t host rfl]
  simp only [clock, render_quiet]

theorem output_of_no_room (hroom : host.room < t) (filter : Log.Filter) (n : Nat) (dump : Bool)
    (program : Program) :
    ∃ fault, outputOf host filter n t dump program = .error (.machine (.trace fault)) := by
  obtain ⟨rom, hmachine⟩ := exists_machineFor?_eq program.words
  have hlarge : (host.room : Int) < max t 0 := Int.lt_of_lt_of_le hroom (Int.le_max_left t 0)
  obtain ⟨fault, hfault⟩ := Machine.traceOf_of_no_room hlarge
  refine ⟨fault, ?_⟩
  rw [outputOf, hmachine program t host rfl, hfault]
  rfl

end Output

/-! ### Loading a program -/

/-- An image file is read, by the suffix or on demand. -/
theorem load_of_image {find : Path → Found} {o : Options} {bytes : ByteArray}
    (himage : o.asHex = true ∨ Letter.lower o.source.suffix = ".hex".toList)
    (hfound : find o.source = .file bytes) : load find o = readImage bytes := by
  have hhex : (o.asHex || decide (Letter.lower o.source.suffix = ['.', 'h', 'e', 'x'])) = true := by
    rw [Bool.or_eq_true, decide_eq_true_eq]
    exact himage
  simp only [load, hfound, readFile, if_pos hhex]

/-- What an assembled source makes of a program. -/
def Program.ofImage (image : Assembly.Image) : Program :=
  { words := image.words, listing := image.listing
    messages := image.warnings ++ image.errors, log := image.log }

/-- The source that options name is a text file and no image. -/
structure HoldsSource (find : Path → Found) (o : Options) (source : List Char) : Prop where
  found : ∃ bytes text, find o.source = .file bytes ∧ Encoding.utf8? bytes = some text ∧
    Lines.normalize text = source
  noImage : ¬(o.asHex = true ∨ Letter.lower o.source.suffix = ".hex".toList)

theorem HoldsSource.load_eq {find : Path → Found} {o : Options} {source : List Char}
    (h : HoldsSource find o source) : load find o =
      match Assembly.assemble o.source.name source with
      | .ok image => .ok (.ofImage image)
      | .error rejection => .error (.source rejection) := by
  obtain ⟨bytes, text, hfound, htext, rfl⟩ := h.found
  have himage : ¬(o.asHex || decide (Letter.lower o.source.suffix = ['.', 'h', 'e', 'x'])) = true := by
    rw [Bool.or_eq_true, decide_eq_true_eq]
    exact h.noImage
  simp only [load, hfound, readFile, if_neg himage, assembleFile, htext]
  rfl

/-! ### Writing files -/

/-- A file can be written where one stands or nothing does. -/
def CanWrite (find : Path → Found) (path : Path) : Prop :=
  find path = .vacant ∨ ∃ bytes, find path = .file bytes

section WriteFile

variable {find : Path → Found} {path : Path} {files : List (Path × String)}

theorem writeFile_none (text : String) : writeFile find none text files = .ok files := rfl

/-- A file is written unless one of those before it stands where it needs a directory. -/
theorem writeFile_eq (hcan : CanWrite find path) (habove : ∀ file ∈ files, file.1.isAbove path = false)
    (text : String) : writeFile find (some path) text files =
      .ok (files.filter (fun file => file.1 ≠ path) ++ [(path, text)]) := by
  have hnone : ¬(files.any fun file => file.1.isAbove path) = true := by
    rw [List.any_eq_true]
    rintro ⟨file, hfile, habove'⟩
    rw [habove file hfile] at habove'
    cases habove'
  rw [writeFile, if_neg hnone]
  rcases hcan with hvacant | ⟨bytes, hfile⟩
  · rw [hvacant]
  · rw [hfile]

theorem writeFile_of_canWrite (h : CanWrite find path) (text : String) :
    writeFile find (some path) text [] = .ok [(path, text)] :=
  writeFile_eq h (List.forall_mem_nil _) text

/-- The text written last is the one that a file holds. -/
theorem lookup_written (files : List (Path × String)) (path : Path) (text : String) :
    (files.filter (fun file => file.1 ≠ path) ++ [(path, text)]).lookup path = some text := by
  have hnone : (files.filter fun file => file.1 ≠ path).lookup path = none := by
    rw [List.lookup_eq_none_iff]
    intro file hfile
    have hne : file.1 ≠ path := of_decide_eq_true (List.mem_filter.mp hfile).2
    exact bne_iff_ne.mpr hne.symm
  rw [List.lookup_append, hnone]
  simp

end WriteFile

/-- The files that are written for a program before it is run. -/
def writeFiles (find : Path → Found) (o : Options) (program : Program) :
    Except Failure (List (Path × String)) := do
  let files ← writeFile find o.listing (listingText program.listing) []
  match HexImage.write? (program.words.toList.map unsigned) with
  | .ok text => writeFile find o.hexOut (String.ofList text) files
  | .error _ => .ok files

/-! ### Running a program -/

theorem ok_bind {ε α β : Type} (a : α) (f : α → Except ε β) : (Except.ok a >>= f) = f a := rfl

/-- Options with a file and a number of cycles are carried out. -/
theorem run_eq_runOptions {host : Host} {find : Path → Found} {args : List String} {o : Options}
    {bytes : ByteArray} {n : Nat} (hparsed : parse args host = .ok o)
    (hfound : find o.source = .file bytes) (hcycles : o.cycles = some (n : Int))
    (filter : Log.Filter) : run find filter args host = runOptions find filter o n host := by
  have hsign : ¬(n : Int) < 0 := Int.not_lt.mpr (Int.natCast_nonneg n)
  simp only [run, hparsed, exists?, hfound, hcycles, number, ok_bind, if_neg hsign, Bool.not_true,
    Bool.false_eq_true, if_false, Int.toNat_natCast]

/-- A loaded program has its files written and is run. -/
theorem runOptions_of_loaded {find : Path → Found} {o : Options} {program : Program} {t : Int}
    (hload : load find o = .ok program) (htrace : o.trace = some t) (host : Host) (filter : Log.Filter)
    (n : Nat) : runOptions find filter o n host = (do
      let files ← writeFiles find o program
      let stdout ← outputOf host filter n t o.dump program
      return { status := 0, stdout, stderr := unlines program.messages, files }) := by
  obtain ⟨text, htext⟩ := HexImage.exists_write? program.words
  simp only [runOptions, hload, writeFiles, outputOf, htext, bind_assoc, htrace, number, ok_bind]

section Loaded

variable {host : Host} {find : Path → Found} {o : Options} {program : Program} {t : Int}
  {files : List (Path × String)} (hload : load find o = .ok program) (htrace : o.trace = some t)
  (hfiles : writeFiles find o program = .ok files)

include hload htrace hfiles

/-- **A loaded program is run to the end** if it has an output. -/
theorem runOptions_of_output {filter : Log.Filter} {n : Nat} {stdout : String}
    (houtput : outputOf host filter n t o.dump program = .ok stdout) :
    runOptions find filter o n host =
      .ok { status := 0, stdout, stderr := unlines program.messages, files } := by
  rw [runOptions_of_loaded hload htrace, hfiles, ok_bind, houtput]
  rfl

theorem runOptions_of_no_room (hroom : host.room < t) (filter : Log.Filter) (n : Nat) :
    ∃ fault, runOptions find filter o n host = .error (.machine (.trace fault)) := by
  obtain ⟨fault, hfault⟩ := output_of_no_room hroom filter n o.dump program
  refine ⟨fault, ?_⟩
  rw [runOptions_of_loaded hload htrace, hfiles, ok_bind, hfault]
  rfl

end Loaded

end CommandLine

end Microcore
