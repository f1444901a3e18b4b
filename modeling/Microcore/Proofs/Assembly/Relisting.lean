/-
  Microcore/Proofs/Assembly/Relisting.lean
  ========================================
  **A listing is a source of the same program.**  Whether a source is assembled, and to what, depends on
  the lines that it reads as alone (`assemble_of_readsAs`).  What a listing holds from the label column on,
  without the messages between its lines, reads as the lines that were listed (`readsAs_listedSource`),
  so it is assembled to the same image.
-/
import Microcore.Proofs.Assembly.TwoPass
import Microcore.Proofs.Assembly.Written

namespace Microcore.Assembly

/-! ### Sources and their lines -/

/-- The lines of a source are accepted, as these lines. -/
def ReadsAs (source : List Char) (lines : List Line) : Prop :=
  (Lines.lines source).map (fun raw => Line.parse (Lines.chomp raw)) = lines.map .ok

/-- What lines are assembled to. -/
def Image.ofLines (name : String) (lines : List Line) : Image :=
  let placed := place 0 lines
  let table := labels placed
  { name
    words := emit table (Vector.replicate 256 0) placed
    regions := regionsFrom none placed
    listing := Listing.header name "Second" ++
      ((List.range' 1 lines.length).zip placed).flatMap fun (number, p) => listed table number p
    warnings := (redefined [] ((definitions placed).map Prod.fst)).map Listing.redefinedMessage
    errors := (placed.filterMap (Placed.undefined? table)).map Listing.undefinedMessage }

theorem map_number_sourceLines (source : List Char) :
    (sourceLines source).map SourceLine.number = List.range' 1 (Lines.lines source).length := by
  rw [sourceLines, List.map_map, ← List.zipIdx_map_snd]
  rfl

theorem map_parsed_sourceLines (source : List Char) : (sourceLines source).map SourceLine.parsed =
    (Lines.lines source).map fun raw => Line.parse (Lines.chomp raw) := by
  conv_rhs => rw [← List.zipIdx_map_fst 1 (Lines.lines source)]
  rw [sourceLines, List.map_map, List.map_map]
  rfl

section ReadsAs

variable {source : List Char} {lines : List Line} (h : ReadsAs source lines)

include h

theorem ReadsAs.length_eq : (Lines.lines source).length = lines.length := by
  have hlength := congrArg List.length h
  rwa [List.length_map, List.length_map] at hlength

theorem ReadsAs.map_parsed : (sourceLines source).map SourceLine.parsed = lines.map .ok :=
  (map_parsed_sourceLines source).trans h

theorem ReadsAs.map_line : (sourceLines source).map SourceLine.line = lines := by
  have hline := congrArg (List.map fun parsed => SourceLine.line ⟨0, [], parsed⟩) h.map_parsed
  rw [List.map_map, List.map_map] at hline
  exact hline.trans (List.map_id lines)

theorem ReadsAs.message?_eq_nil : (sourceLines source).filterMap SourceLine.message? = [] := by
  rw [List.filterMap_eq_nil_iff]
  intro s hs
  have hmem : s.parsed ∈ (sourceLines source).map SourceLine.parsed := List.mem_map_of_mem hs
  rw [h.map_parsed, List.mem_map] at hmem
  obtain ⟨line, -, hline⟩ := hmem
  rw [SourceLine.message?, ← hline]

/-- The lines of a source are of the form that the reader accepts. -/
theorem ReadsAs.accepted : ∀ line ∈ lines, line.Accepted := by
  intro line hline
  have hmem : Except.ok line ∈ lines.map (Except.ok (ε := Fault)) := List.mem_map_of_mem hline
  rw [← h, List.mem_map] at hmem
  obtain ⟨raw, hraw, hparse⟩ := hmem
  exact .of_parse (Lines.isLine_chomp (Lines.feed_not_mem_of_mem_lines hraw)) hparse

/-- **The image depends on the lines that a source reads as alone.** -/
theorem assemble_of_readsAs (name : String) :
    assemble name source = .ok (Image.ofLines name lines) := by
  have hzip : (List.range' 1 lines.length).zip (place 0 lines) =
      ((sourceLines source).zip (place 0 lines)).map (Prod.map SourceLine.number id) := by
    rw [← List.zip_map_left, map_number_sourceLines, h.length_eq]
  simp only [assemble_emptied, h.message?_eq_nil, h.map_line, Image.ofLines, hzip, List.flatMap_map]
  rfl

end ReadsAs

/-- A source with an image has lines. -/
theorem exists_readsAs {name : String} {source : List Char} {image : Image}
    (h : assemble name source = .ok image) :
    ∃ lines, ReadsAs source lines ∧ image = Image.ofLines name lines := by
  have hgood : ∀ s ∈ sourceLines source, s.parsed = .ok s.line := by
    intro s hs
    simp only [assemble] at h
    split at h
    · next hnil =>
      have hmessage := List.filterMap_eq_nil_iff.mp hnil s hs
      rw [SourceLine.message?] at hmessage
      rw [SourceLine.line]
      cases hparsed : s.parsed with
      | ok line => rfl
      | error fault =>
        rw [hparsed] at hmessage
        cases hmessage
    · cases h
  have hreads : ReadsAs source ((sourceLines source).map SourceLine.line) := by
    rw [ReadsAs, ← map_parsed_sourceLines, List.map_map]
    exact List.map_congr_left hgood
  refine ⟨_, hreads, ?_⟩
  have himage := assemble_of_readsAs hreads name
  rw [h] at himage
  exact Except.ok.inj himage

/-! ### The text of a listing -/

/-- The source that an image lists: of each listed line, what stands from the label column on. -/
def Image.listedSource (image : Image) : List Char :=
  ((image.listing.drop 2).filter fun line => line ∉ image.errors).flatMap fun line =>
    line.toList.drop 24 ++ ['\n']

theorem head?_undefinedMessage (number : Nat) :
    (Listing.undefinedMessage number).toList.head? = some 'E' := by
  show (_ ++ _ ++ _ : String).toList.head? = _
  rw [String.toList_append, String.toList_append]
  rfl

/-- An entry begins with a blank or a digit. -/
theorem exists_headText (number : Nat) (location : Byte) :
    ∃ c rest, Listing.headText number location = c :: rest ∧ c ≠ 'E' := by
  simp only [Listing.headText, Numeral.padStart, Numeral.decimalChars_natCast, List.append_assoc]
  cases 4 - (Nat.toDigits 10 number).length with
  | succ k => exact ⟨' ', _, rfl, by decide⟩
  | zero =>
    cases hdigits : Nat.toDigits 10 number with
    | nil => exact ⟨':', _, rfl, by decide⟩
    | cons c rest =>
      refine ⟨c, _, rfl, ?_⟩
      rintro rfl
      have hmem : 'E' ∈ Nat.toDigits 10 number := hdigits ▸ List.mem_cons_self
      cases Nat.isDigit_of_mem_toDigits (by decide) (by decide) hmem

theorem head?_entryChars (number : Nat) (p : Placed) (word : Option Word) :
    (Listing.entryChars number p word).head? ≠ some 'E' := by
  obtain ⟨tail, htail⟩ := Listing.prefix_entryChars number p word
  obtain ⟨c, rest, hhead, hne⟩ := exists_headText number p.location
  rw [← htail, hhead, List.cons_append, List.head?_cons, Ne, Option.some.injEq]
  exact hne

theorem entry_not_mem (table : Labels) (number : Nat) (p : Placed) (numbers : List Nat) :
    Listing.entry table number p ∉ numbers.map Listing.undefinedMessage := by
  intro hmem
  obtain ⟨k, -, hk⟩ := List.mem_map.mp hmem
  have hhead := head?_undefinedMessage k
  rw [hk, Listing.entry, String.toList_ofList] at hhead
  exact head?_entryChars number p _ hhead

theorem map_line_place (counter : Byte) (lines : List Line) :
    (place counter lines).map Placed.line = lines := by
  induction lines generalizing counter with
  | nil => rfl
  | cons line rest ih => rw [place, List.map_cons, ih]

/-- Without the messages on undefined labels, a listing has one entry for each line. -/
theorem Image.filter_listing (name : String) (lines : List Line) :
    ((Image.ofLines name lines).listing.drop 2).filter
      (fun line => line ∉ (Image.ofLines name lines).errors) =
        ((List.range' 1 lines.length).zip (place 0 lines)).map fun (number, p) =>
          Listing.entry (labels (place 0 lines)) number p := by
  show (((List.range' 1 lines.length).zip (place 0 lines)).flatMap _).filter _ = _
  rw [List.filter_flatMap, List.map_eq_flatMap]
  refine List.flatMap_congr ?_
  rintro ⟨number, p⟩ hmem
  have hp : p ∈ place 0 lines := (List.of_mem_zip hmem).2
  have hmessage : ((p.undefined? (labels (place 0 lines))).toList.map Listing.undefinedMessage).filter
      (fun line => line ∉ (Image.ofLines name lines).errors) = [] := by
    rw [List.filter_eq_nil_iff]
    intro message hmem
    obtain ⟨k, hk, rfl⟩ := List.mem_map.mp hmem
    have hreported : Listing.undefinedMessage k ∈ (Image.ofLines name lines).errors :=
      List.mem_map_of_mem (List.mem_filterMap.mpr ⟨p, hp, Option.mem_toList.mp hk⟩)
    simp only [hreported, not_true, decide_false, Bool.false_eq_true, not_false_eq_true]
  show (_ ++ [_]).filter _ = _
  rw [List.filter_append, hmessage, List.nil_append]
  exact List.filter_cons_of_pos (decide_eq_true (entry_not_mem _ number p _))

theorem Image.listedSource_ofLines {name : String} {lines : List Line}
    (h : lines.length < 100000) :
    (Image.ofLines name lines).listedSource = lines.flatMap fun line => line.text ++ ['\n'] := by
  have hlines : ((List.range' 1 lines.length).zip (place 0 lines)).map (fun found => found.2.line) =
      lines := by
    have hle : (place 0 lines).length ≤ (List.range' 1 lines.length).length := by
      rw [length_place, List.length_range']
    have hsnd := congrArg (List.map Placed.line) (List.map_snd_zip hle)
    rwa [List.map_map, map_line_place] at hsnd
  have hentry : ∀ found ∈ (List.range' 1 lines.length).zip (place 0 lines),
      (Listing.entry (labels (place 0 lines)) found.1 found.2).toList.drop 24 ++ ['\n'] =
        found.2.line.text ++ ['\n'] := by
    rintro ⟨number, p⟩ hmem
    have hnumber := List.mem_range'_1.mp (List.of_mem_zip hmem).1
    rw [Listing.entry, String.toList_ofList]
    exact congrArg (· ++ ['\n']) (drop_entryChars (by omega) p _)
  rw [Image.listedSource, Image.filter_listing, List.flatMap_map, List.flatMap_congr hentry]
  conv_rhs => rw [← hlines, List.flatMap_map]

/-- **The text of a listing reads as the listed lines.** -/
theorem readsAs_listedSource {name : String} {lines : List Line} (hlength : lines.length < 100000)
    (h : ∀ line ∈ lines, line.Accepted) : ReadsAs (Image.ofLines name lines).listedSource lines := by
  have htexts : Lines.lines (Image.ofLines name lines).listedSource = lines.map Line.text := by
    have hfeed : ∀ text ∈ lines.map Line.text, '\n' ∉ text := by
      intro text htext
      obtain ⟨line, hline, rfl⟩ := List.mem_map.mp htext
      exact (Line.isLine_text (h line hline)).feed
    have hlines := Lines.lines_flatMap hfeed
    rw [List.flatMap_map] at hlines
    rw [Image.listedSource_ofLines hlength, hlines]
  rw [ReadsAs, htexts, List.map_map]
  refine List.map_congr_left ?_
  intro line hline
  have haccepted := h line hline
  show Line.parse (Lines.chomp line.text) = .ok line
  rw [Lines.chomp_of_isLine (Line.isLine_text haccepted), Line.parse_text haccepted]

/-- **A listing is a source of the same program.**  Of an image of fewer than 100000 lines, the listed
    text without the messages on undefined labels is assembled to the image itself: words, regions,
    warnings, errors and listing. -/
theorem assemble_listedSource {name : String} {source : List Char} {image : Image}
    (hlength : (Lines.lines source).length < 100000) (h : assemble name source = .ok image) :
    assemble name image.listedSource = .ok image := by
  obtain ⟨lines, hreads, rfl⟩ := exists_readsAs h
  rw [hreads.length_eq] at hlength
  exact assemble_of_readsAs (readsAs_listedSource hlength hreads.accepted) name

/-- Labels with zeros in front and digits of another script, operands in short and by name, comments
    that look like code, and a label without a definition. -/
theorem varied_source_relisted :
    let source := "$007 ldi a $1 LDI 0b\n\tJMP $٧\r\n$1 ; alone\n\nORG 1f\n$7 sta @ix+\nbnz $9999 x".toList
    (Lines.lines source).length < 100000 ∧
      ∃ image, assemble "demo" source = .ok image ∧
        assemble "demo" image.listedSource = .ok image := by
  intro source
  have hlength : (Lines.lines source).length < 100000 := by decide
  obtain ⟨image, himage⟩ := @exists_image "demo" source (by decide)
  exact ⟨hlength, image, himage, assemble_listedSource hlength himage⟩

end Microcore.Assembly
