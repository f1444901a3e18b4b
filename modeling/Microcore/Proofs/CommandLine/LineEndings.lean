/-
  Microcore/Proofs/CommandLine/LineEndings.lean
  =============================================
  **Line ends do not matter.**  A text in memory is cut at line feeds alone, and a carriage return in front
  of one is stripped with it (`map_chomp_lines_withEnds`); a text from a file has its line ends made line
  feeds before it is cut (`normalize_withEnds`).  Either way the assembler is given the same lines, so the
  same source is assembled, and a run that differs in nothing else has the same outcome
  (`run_congr`).
-/
import Microcore.Proofs.CommandLine.SourceFile

namespace Microcore

/-! ### Texts with other line ends -/

namespace Lines

/-- How the end of a line is written. -/
inductive LineEnd where
  | feed
  | carriageReturn
  | both
deriving DecidableEq, Repr

def LineEnd.chars : LineEnd → List Char
  | feed => ['\n']
  | carriageReturn => ['\r']
  | both => ['\r', '\n']

/-- A text with each line feed written in another way. -/
def withEnds (ending : LineEnd) (text : List Char) : List Char :=
  text.flatMap fun c => if c = '\n' then ending.chars else [c]

theorem withEnds_feed (ending : LineEnd) (rest : List Char) :
    withEnds ending ('\n' :: rest) = ending.chars ++ withEnds ending rest := rfl

theorem withEnds_cons (ending : LineEnd) {c : Char} (h : c ≠ '\n') (rest : List Char) :
    withEnds ending (c :: rest) = c :: withEnds ending rest := by
  rw [withEnds, List.flatMap_cons, if_neg h]
  rfl

theorem feed_not_mem_withEnds (text : List Char) : '\n' ∉ withEnds .carriageReturn text := by
  intro hmem
  obtain ⟨c, -, hc⟩ := List.mem_flatMap.mp hmem
  split at hc
  · cases List.mem_singleton.mp hc
  · next hne => exact hne (List.mem_singleton.mp hc).symm

/-- **Line ends of a file are read as line feeds,** whichever they are. -/
theorem normalize_withEnds {text : List Char} (h : '\r' ∉ text) (ending : LineEnd) :
    normalize (withEnds ending text) = text := by
  induction text with
  | nil => rfl
  | cons c rest ih =>
    rw [List.mem_cons, not_or] at h
    have hrest := ih h.2
    by_cases hc : c = '\n'
    · subst hc
      rw [withEnds_feed]
      cases ending with
      | feed => exact (normalize_cons (by decide) _).trans (congrArg _ hrest)
      | carriageReturn =>
        exact (normalize_return (feed_not_mem_withEnds rest)).trans (congrArg _ hrest)
      | both =>
        show normalize ('\r' :: '\n' :: withEnds .both rest) = _
        rw [normalize, hrest]
    · rw [withEnds_cons ending hc, normalize_cons (Ne.symm h.1), hrest]

theorem chomp_cons {c : Char} (h : isLineEnd c = false) (line : List Char) :
    chomp (c :: line) = c :: chomp line := by
  have hlast : [c].dropWhile isLineEnd = [c] := List.dropWhile_cons_of_neg (by rw [h]; decide)
  rw [chomp, List.reverse_cons, List.dropWhile_append, hlast]
  split
  · next hnil => simp [chomp, List.isEmpty_iff.mp hnil]
  · simp [chomp]

/-- A character that ends no line is put in front of the first line. -/
theorem map_chomp_lines_cons {c : Char} (h : isLineEnd c = false) (rest : List Char) :
    (lines (c :: rest)).map chomp =
      match (lines rest).map chomp with
      | [] => [[c]]
      | line :: more => (c :: line) :: more := by
  have hc : c ≠ '\n' := by
    rintro rfl
    cases h
  rw [lines, if_neg hc]
  cases lines rest with
  | nil => exact congrArg (fun line => [line]) (chomp_cons h [])
  | cons line more => rw [List.map_cons, List.map_cons, chomp_cons h]

/-- **Line ends in memory are stripped from the lines,** with a carriage return or without. -/
theorem map_chomp_lines_withEnds {text : List Char} (h : '\r' ∉ text) :
    (lines (withEnds .both text)).map chomp = (lines text).map chomp := by
  induction text with
  | nil => rfl
  | cons c rest ih =>
    rw [List.mem_cons, not_or] at h
    have hrest := ih h.2
    by_cases hc : c = '\n'
    · subst hc
      have hempty : lines ('\n' :: rest) = [] :: lines rest := lines_append_feed List.not_mem_nil rest
      have hreturn : lines ('\r' :: '\n' :: withEnds .both rest) = ['\r'] :: lines (withEnds .both rest) :=
        @lines_append_feed ['\r'] (by decide) _
      show (lines ('\r' :: '\n' :: withEnds .both rest)).map chomp = _
      rw [hempty, hreturn, List.map_cons, List.map_cons, hrest]
      rfl
    · have hend : isLineEnd c = false := by
        simp only [isLineEnd, Bool.or_eq_false_iff, decide_eq_false_iff_not]
        exact ⟨Ne.symm h.1, hc⟩
      rw [withEnds_cons .both hc, map_chomp_lines_cons hend, map_chomp_lines_cons hend, hrest]

end Lines

namespace Assembly

/-- A source is what its lines are, once their ends are stripped. -/
theorem sourceLines_congr {source other : List Char}
    (h : (Lines.lines source).map Lines.chomp = (Lines.lines other).map Lines.chomp) :
    sourceLines source = sourceLines other := by
  have hchomped (source : List Char) : sourceLines source =
      (((Lines.lines source).map Lines.chomp).zipIdx 1).map fun entry =>
        ⟨entry.2, entry.1, Line.parse entry.1⟩ := by
    rw [List.zipIdx_map, List.map_map]
    rfl
  rw [hchomped, hchomped, h]

theorem assemble_congr {source other : List Char} (h : sourceLines source = sourceLines other)
    (name : String) : assemble name source = assemble name other := by
  simp only [assemble, h]

/-- The words of an image do not depend on the name of its source. -/
theorem words_of_assemble {source : List Char} {name other : String} {image image' : Image}
    (h : assemble name source = .ok image) (h' : assemble other source = .ok image') :
    image.words = image'.words := by
  simp only [assemble] at h h'
  split at h
  · next heq =>
    rw [heq] at h'
    cases h
    cases h'
    rfl
  · cases h

theorem errors_ne_nil_of_assemble {source : List Char} {name : String} {rejection : Rejection}
    (h : assemble name source = .error rejection) : rejection.errors ≠ [] := by
  intro hnil
  rw [errors_of_assemble h] at hnil
  obtain ⟨image, himage⟩ := exists_image name hnil
  rw [h] at himage
  cases himage

end Assembly

namespace CommandLine

/-! ### Runs that read the same source -/

/-- Two directories that differ in the contents of files alone. -/
def SameButContents (find other : Path → Found) : Prop :=
  ∀ path, find path = other path ∨ ∃ bytes bytes', find path = .file bytes ∧ other path = .file bytes'

theorem writeFile_congr {find other : Path → Found} (h : SameButContents find other) :
    writeFile find = writeFile other := by
  funext path text files
  cases path with
  | none => rfl
  | some path =>
    rcases h path with hsame | ⟨bytes, bytes', hfound, hother⟩
    · rw [writeFile, writeFile, hsame]
    · rw [writeFile, writeFile, hfound, hother]

/-- **Runs that read the same source have the same outcome.** -/
theorem run_congr {host : Host} {find other : Path → Found} {args : List String} {o : Options}
    {source : List Char} (hparsed : parse args host = .ok o) (hfind : HoldsSource find o source)
    (hother : HoldsSource other o source) (h : SameButContents find other) (filter : Log.Filter) :
    run find filter args host = run other filter args host := by
  obtain ⟨bytes, text, hfound, -, -⟩ := hfind.found
  obtain ⟨bytes', text', hfound', -, -⟩ := hother.found
  have hload : load find o = load other o := hfind.load_eq.trans hother.load_eq.symm
  simp only [run, hparsed, exists?, hfound, hfound', runOptions, hload, writeFile_congr h]

/-! ### Files with other line ends -/

/-- The source that options name is a file that holds a text, its line ends written in some way, and no
    image. -/
structure HoldsText (find : Path → Found) (o : Options) (ending : Lines.LineEnd) (text : List Char) :
    Prop where
  found : find o.source = .file (String.ofList (Lines.withEnds ending text)).toUTF8
  noImage : ¬(o.asHex = true ∨ Letter.lower o.source.suffix = ".hex".toList)

/-- A run that fails with syntax errors. -/
def SyntaxErrors (outcome : Outcome) : Prop :=
  outcome.status = 1 ∧ ∃ errors, errors ≠ [] ∧ outcome.stderr = refusalText errors

/-- A run of a source that is assembled to some words: its files are written, among them an image of these
    words, and it ends well if the host has room for the trace. -/
structure SavesWords (host : Host) (find : Path → Found) (filter : Log.Filter) (args : List String)
    (o : Options) (t : Int) (words : Vector Word 256) (files : List (Path × String)) : Prop where
  written : ∃ program, load find o = .ok program ∧ writeFiles find o program = .ok files
  image : ∀ path, o.hexOut = some path → ∃ text, files.lookup path = some text ∧
    readImage text.toUTF8 = .ok { words }
  ends : t ≤ host.room →
    ∃ outcome, run find filter args host = .ok outcome ∧ outcome.status = 0 ∧ outcome.files = files
  noRoom : host.room < t → ∃ fault, run find filter args host = .error (.machine (.trace fault))

theorem SavesWords.not_syntaxErrors {host : Host} {find : Path → Found} {filter : Log.Filter}
    {args : List String} {o : Options} {t : Int} {words : Vector Word 256}
    {files : List (Path × String)} (h : SavesWords host find filter args o t words files) :
    ¬∃ outcome, run find filter args host = .ok outcome ∧ SyntaxErrors outcome := by
  rintro ⟨outcome, hrun, hstatus, -⟩
  by_cases hroom : t ≤ host.room
  · obtain ⟨found, hfound, hzero, -⟩ := h.ends hroom
    rw [hrun] at hfound
    cases hfound
    rw [hstatus] at hzero
    cases hzero
  · obtain ⟨fault, hfault⟩ := h.noRoom (Int.not_le.mp hroom)
    rw [hrun] at hfault
    cases hfault

section HoldsText

variable {text : List Char} (htext : '\r' ∉ text)

include htext

theorem HoldsText.holdsSource {find : Path → Found} {o : Options} {ending : Lines.LineEnd}
    (h : HoldsText find o ending text) : HoldsSource find o text where
  found := by
    refine ⟨_, _, h.found, Encoding.utf8?_toUTF8 _, ?_⟩
    rw [String.toList_ofList, Lines.normalize_withEnds htext]
  noImage := h.noImage

theorem assemble_withEnds (name : String) :
    Assembly.assemble name (Lines.withEnds .both text) = Assembly.assemble name text :=
  Assembly.assemble_congr (Assembly.sourceLines_congr (Lines.map_chomp_lines_withEnds htext)) name

section Run

variable {host : Host} {find : Path → Found} {args : List String} {o : Options} {n : Nat} {t : Int}
  {ending : Lines.LineEnd} (hvalid : Valid host find args o n t) (hholds : HoldsText find o ending text)
  (filter : Log.Filter)

include hvalid hholds

/-- A source that is assembled in memory has its words saved. -/
theorem exists_savesWords {name : String} {image : Assembly.Image}
    (himage : Assembly.assemble name text = .ok image) :
    ∃ files, SavesWords host find filter args o t image.words files := by
  have hruns : RunsSource host find args o text n t := ⟨hvalid, hholds.holdsSource htext⟩
  obtain ⟨found, hfound⟩ := (@Assembly.exists_image_iff o.source.name text).mpr
    (Assembly.exists_image_iff.mp ⟨image, himage⟩)
  have hwords : found.words = image.words := Assembly.words_of_assemble hfound himage
  have hload : load find o = .ok (.ofImage found) := by rw [hruns.source.load_eq, hfound]
  obtain ⟨files, hfiles, hheld, hroom, hnoRoom⟩ := hruns.run_of_image hfound filter
  refine ⟨files, ⟨_, hload, hfiles⟩, ?_, ?_, hnoRoom⟩
  · intro path hpath
    obtain ⟨saved, hsaved, hread⟩ := hheld.image path hpath
    exact ⟨saved, hsaved, hwords ▸ hread⟩
  · intro hle
    obtain ⟨stdout, hrun⟩ := hroom hle
    exact ⟨_, hrun, rfl, rfl⟩

/-- **A source is refused from a file as it is in memory.** -/
theorem exists_syntaxErrors_iff (name : String) :
    (∃ outcome, run find filter args host = .ok outcome ∧ SyntaxErrors outcome) ↔
      ∃ rejection, Assembly.assemble name text = .error rejection := by
  have hruns : RunsSource host find args o text n t := ⟨hvalid, hholds.holdsSource htext⟩
  cases hmemory : Assembly.assemble name text with
  | ok image =>
    obtain ⟨files, hsaves⟩ := exists_savesWords htext hvalid hholds filter hmemory
    exact iff_of_false hsaves.not_syntaxErrors (by simp)
  | error rejection =>
    refine iff_of_true ?_ ⟨rejection, rfl⟩
    cases hfile : Assembly.assemble o.source.name text with
    | ok image =>
      have hgood := Assembly.exists_image_iff.mp ⟨image, hfile⟩
      obtain ⟨found, hfound⟩ := (@Assembly.exists_image_iff name text).mpr hgood
      rw [hmemory] at hfound
      cases hfound
    | error refused =>
      obtain ⟨outcome, hrun, hrefuses⟩ := hruns.run_of_rejection hfile filter
      exact ⟨outcome, hrun, hrefuses.status, refused.errors, Assembly.errors_ne_nil_of_assemble hfile,
        hrefuses.stderr⟩

end Run

/-- **Line ends do not matter.**  In memory a source is assembled to the same with carriage returns in front
    of its line feeds.  Two directories that hold a source with any line ends, and are alike but for
    the contents of files, give runs with the same outcome; such a run fails with syntax errors exactly if
    the source is refused in memory, and otherwise it saves the words that the source has there. -/
theorem line_endings_do_not_matter (host : Host) :
    (∀ name, Assembly.assemble name (Lines.withEnds .both text) = Assembly.assemble name text) ∧
    (∀ find other filter args o ending ending', parse args host = .ok o → HoldsText find o ending text →
      HoldsText other o ending' text → SameButContents find other →
        run find filter args host = run other filter args host) ∧
    ∀ find filter args o n t ending name, Valid host find args o n t → HoldsText find o ending text →
      ((∃ outcome, run find filter args host = .ok outcome ∧ SyntaxErrors outcome) ↔
        ∃ rejection, Assembly.assemble name text = .error rejection) ∧
      ∀ image, Assembly.assemble name text = .ok image →
        ∃ files, SavesWords host find filter args o t image.words files := by
  refine ⟨assemble_withEnds htext, ?_, ?_⟩
  · intro find other filter args o ending ending' hparsed hfind hother hsame
    exact run_congr hparsed (hfind.holdsSource htext) (hother.holdsSource htext) hsame filter
  · intro find filter args o n t ending name hvalid hholds
    refine ⟨exists_syntaxErrors_iff htext hvalid hholds filter name, ?_⟩
    intro image himage
    exact exists_savesWords htext hvalid hholds filter himage

end HoldsText

theorem holdsText_holding {o : Options} (ending : Lines.LineEnd) (text : List Char)
    (hsource : o.source = Path.ofString sourceName) (hhex : o.asHex = false) :
    HoldsText (holding (String.ofList (Lines.withEnds ending text))) o ending text where
  found := by
    rw [hsource]
    exact if_pos rfl
  noImage := by
    rw [hsource, hhex]
    decide

theorem sameButContents_holding (text other : String) :
    SameButContents (holding text) (holding other) := by
  intro path
  by_cases hpath : path = Path.ofString sourceName
  · exact .inr ⟨_, _, if_pos hpath, if_pos hpath⟩
  · exact .inl ((if_neg hpath).trans (if_neg hpath).symm)

/-- A source with an empty line and none ended at the last one, with three kinds of line ends. -/
theorem respaced_lines_run_alike :
    let text := "LDI 05\n\nJMP $1 ; back".toList
    let find ending := holding (String.ofList (Lines.withEnds ending text))
    let args := ["a.uca", "--dump", "--hex-out", "a.hex", "--trace", "2"]
    '\r' ∉ text ∧ Lines.withEnds .carriageReturn text = "LDI 05\r\rJMP $1 ; back".toList ∧
      Lines.withEnds .both text = "LDI 05\r\n\r\nJMP $1 ; back".toList ∧
      Assembly.assemble "a.uca" (Lines.withEnds .both text) = Assembly.assemble "a.uca" text ∧
      ∀ ending, run (find ending) quiet args .usual = run (find .feed) quiet args .usual := by
  intro text find args
  have htext : '\r' ∉ text := by decide
  obtain ⟨hmemory, hruns, -⟩ := line_endings_do_not_matter htext .usual
  refine ⟨htext, by decide, by decide, hmemory "a.uca", ?_⟩
  intro ending
  let o : Options := { source := Path.ofString "a.uca", dump := true, trace := some 2
                       hexOut := some (Path.ofString "a.hex") }
  have hparsed : parse args = .ok o := by decide
  exact hruns _ _ quiet args o ending .feed hparsed (holdsText_holding ending text rfl rfl)
    (holdsText_holding .feed text rfl rfl) (sameButContents_holding _ _)

end CommandLine

end Microcore
