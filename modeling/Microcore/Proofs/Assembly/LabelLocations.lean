/-
  Microcore/Proofs/Assembly/LabelLocations.lean
  =============================================
  **The listing shows where labels are.**  A label stands for the location counter in front of the last
  line that defines it.  The entry of this line shows the counter, unless the line is an `ORG` line: that is
  listed where it moves to, so that its label is found behind the entry before it (`front?_eq`).  References
  to a label are encoded with this location (`reference_is_listed_location`), in their entries and, where no
  later line overwrites them, in the image.
-/
import Mathlib.Data.List.GetD
import Microcore.Proofs.Assembly.Entries
import Microcore.Proofs.Instruction

namespace Microcore.Assembly

/-! ### Locations in the listing -/

/-- The location that the entry of a line shows. -/
def Image.location? (image : Image) (i : Nat) : Option Nat :=
  image.entries[i]?.bind fun entry => Listing.location? entry.toList

/-- The location in front of a line: zero, or the one behind the entry before it. -/
def Image.front? (image : Image) (s : Source) : Nat → Option Nat
  | 0 => some 0
  | i + 1 => (image.location? i).map fun a => if (s.line i).code?.isSome then (a + 1) % 256 else a

/-- The word that the entry of a line shows, if it shows one. -/
def Image.word? (image : Image) (i : Nat) : Option (Option Nat) :=
  image.entries[i]?.bind fun entry => Listing.wordField? entry.toList

theorem location?_ofLines (name : String) {lines : List Line} {i : Nat} (hi : i < lines.length) :
    (Image.ofLines name lines).location? i = some (placedAt lines i).location.toNat := by
  rw [Image.location?, Image.entries_ofLines, List.getElem?_map, List.getElem?_range hi]
  exact location?_entry _ _ _

theorem word?_ofLines (name : String) {lines : List Line} {i : Nat} (hi : i < lines.length)
    (hnumber : i + 1 < 100000) : (Image.ofLines name lines).word? i =
      some (((placedAt lines i).word? (labels (place 0 lines))).map BitVec.toNat) := by
  rw [Image.word?, Image.entries_ofLines, List.getElem?_map, List.getElem?_range hi]
  show Listing.wordField? (Listing.entry _ _ _).toList = _
  rw [Listing.entry, String.toList_ofList, Listing.wordField?_entryChars hnumber]

/-- A word that no later instruction overwrites is in the image. -/
theorem getElem?_numbers_ofLines (name : String) {lines : List Line} {j : Nat} (hj : j < lines.length)
    {w : Word} (hw : (placedAt lines j).word? (labels (place 0 lines)) = some w)
    (hlast : ∀ k, j < k → k < lines.length → (lines.getD k {}).isInstruction = true →
      (placedAt lines k).location ≠ (placedAt lines j).location) :
    (Image.ofLines name lines).numbers[(placedAt lines j).location.toNat]? = some (unsigned w) := by
  have hlt := (placedAt lines j).location.isLt
  have hwords : (Image.ofLines name lines).words[(placedAt lines j).location.toNat] = w := by
    show (emit _ _ (place 0 lines))[_] = w
    generalize labels (place 0 lines) = table at hw
    rw [place_eq_map, getElem_emit, lastBelow?_eq_some hj]
    · rw [Option.bind_some, hw, Option.getD_some]
    · simp [hw]
    · intro k hk hlength
      cases hword : (placedAt lines k).word? table with
      | none => rfl
      | some v =>
        have hinstruction : (lines.getD k {}).isInstruction = true :=
          Placed.isInstruction_of_word? hword
        have hne := mt BitVec.eq_of_toNat_eq (hlast k hk hlength hinstruction)
        simp [hne]
  rw [Image.getElem?_numbers _ _ hlt, hwords]

section ReadsAs

variable {source : List Char} {lines : List Line} (h : ReadsAs source lines)

include h

/-- **The counter in front of a line is found in the listing.** -/
theorem ReadsAs.front?_eq (name : String) {i : Nat} (hi : i ≤ lines.length) :
    (Image.ofLines name lines).front? (Source.ofText source) i = some (counterAt lines i).toNat := by
  cases i with
  | zero => rfl
  | succ i =>
    rw [Image.front?, location?_ofLines name hi, Option.map_some, (h.reads i).kind_eq.2, counterAt_succ,
      Line.advance_eq_location]
    cases (lines.getD i {}).isInstruction with
    | true => exact congrArg some (BitVec.toNat_add _ 1).symm
    | false => rfl

/-! ### Definitions and references -/

theorem ReadsAs.label?_eq (i : Nat) : ((Source.ofText source).line i).label? = (lines.getD i {}).label :=
  (h.reads i).label.symm

theorem ReadsAs.last_of_lines {i number : Nat}
    (hlast : ∀ k < lines.length, i < k → (lines.getD k {}).label ≠ some number) :
    ∀ k, i < k → ((Source.ofText source).line k).label? ≠ some number := by
  intro k hk
  rw [h.label?_eq]
  by_cases hlength : k < lines.length
  · exact hlast k hlength hk
  · rw [List.getD_eq_default _ _ (Nat.le_of_not_lt hlength)]
    exact (Option.some_ne_none number).symm

theorem ReadsAs.lt_of_label? {i number : Nat}
    (hlabel : ((Source.ofText source).line i).label? = some number) : i < lines.length := by
  by_contra hi
  rw [h.label?_eq, List.getD_eq_default _ _ (Nat.le_of_not_lt hi)] at hlabel
  cases hlabel

end ReadsAs

/-- References to a label are instructions with the label as their argument. -/
theorem Reads.reference?_iff {words : Words} {line : Line} (h : Reads words line) {number : Nat} :
    words.reference? = some number ↔ ∃ i, line.statement = some (.instruction i (.label number)) := by
  obtain ⟨label, statement, comment⟩ := line
  have hstatement : ReadsStatement words statement := h.statement
  cases hstatement with
  | nothing horigin hcode => simp [Words.reference?, hcode]
  | origin horigin hcode hvalue => simp [Words.reference?, hcode]
  | instruction horigin hcode hargument =>
    cases hargument with
    | literal hplain hvalue => simp [Words.reference?, hcode, hplain]
    | label hlabel => simp [Words.reference?, hcode, hlabel]

/-- The words that the lines of a source are encoded to, whether they stay in the image or not. -/
def encodedWords (source : List Char) : List (Option Word) :=
  let placed := place 0 ((sourceLines source).map SourceLine.line)
  placed.map (Placed.word? (labels placed))

section ReadsAs

variable {source : List Char} {lines : List Line} (h : ReadsAs source lines)

include h

theorem ReadsAs.getElem?_encodedWords {j : Nat} (hj : j < lines.length) :
    (encodedWords source)[j]? = some ((placedAt lines j).word? (labels (place 0 lines))) := by
  have hplaced : (place 0 lines)[j]? = some (placedAt lines j) := by
    rw [place_eq_map, List.getElem?_map, List.getElem?_range hj]
    rfl
  rw [encodedWords, h.map_line, List.getElem?_map, hplaced]
  rfl

/-- A label stands for the counter in front of the last line that defines it. -/
theorem ReadsAs.lookup_eq {i number : Nat}
    (hdefined : ((Source.ofText source).line i).label? = some number)
    (hlast : ∀ k, i < k → ((Source.ofText source).line k).label? ≠ some number) :
    (labels (place 0 lines)).lookup number = some (counterAt lines i) := by
  have hi := h.lt_of_label? hdefined
  rw [place_eq_map, lookup_labels]
  rw [lastBelow?_eq_some hi]
  · rfl
  · rw [h.label?_eq] at hdefined
    exact decide_eq_true hdefined
  · intro k hk _
    have hne := hlast k hk
    rw [h.label?_eq] at hne
    exact decide_eq_false hne

theorem ReadsAs.word?_of_reference {j number : Nat}
    (hreference : ((Source.ofText source).line j).reference? = some number) {location : Byte}
    (htable : (labels (place 0 lines)).lookup number = some location) :
    ∃ w : Word, j < lines.length ∧ (placedAt lines j).word? (labels (place 0 lines)) = some w ∧
      w.operand = location := by
  obtain ⟨i, hstatement⟩ := (h.reads j).reference?_iff.mp hreference
  have hj : j < lines.length := by
    by_contra hj
    rw [List.getD_eq_default _ _ (Nat.le_of_not_lt hj)] at hstatement
    cases hstatement
  refine ⟨i.encode location, hj, ?_, (Word.fields_of_toNat (Instruction.toNat_encode i location)).2⟩
  simp only [Placed.word?, placedAt, hstatement, Argument.value, htable, Option.getD_some]

/-- The word of a line that no later line with an instruction is listed at the location of. -/
theorem ReadsAs.getElem?_numbers (name : String) {j : Nat} (hj : j < lines.length) {w : Word}
    (hw : (placedAt lines j).word? (labels (place 0 lines)) = some w)
    (hlast : ∀ k, j < k → ((Source.ofText source).line k).code?.isSome = true →
      (Image.ofLines name lines).location? k ≠ (Image.ofLines name lines).location? j) :
    ∃ a, (Image.ofLines name lines).location? j = some a ∧
      (Image.ofLines name lines).numbers[a]? = some (unsigned w) := by
  refine ⟨_, location?_ofLines name hj, getElem?_numbers_ofLines name hj hw ?_⟩
  intro k hk hlength hinstruction hlocation
  rw [← (h.reads k).kind_eq.2] at hinstruction
  apply hlast k hk hinstruction
  rw [location?_ofLines name hlength, location?_ofLines name hj, hlocation]

end ReadsAs

/-- **References to a label are encoded with the location where the listing shows it.**  This is the
    location in front of the last line that defines the label.  The entry of the line itself shows it,
    unless this is an `ORG` line.  The word with it stands in the entry of the reference, and in the image
    if no later line with an instruction is listed at the same location. -/
theorem reference_is_listed_location {name : String} {source : List Char} {image : Image}
    (h : assemble name source = .ok image) {i j number : Nat}
    (hdefined : ((Source.ofText source).line i).label? = some number)
    (hlast : ∀ k, i < k → ((Source.ofText source).line k).label? ≠ some number)
    (hreference : ((Source.ofText source).line j).reference? = some number) :
    ∃ w : Word, (encodedWords source)[j]? = some (some w) ∧
      (j + 1 < 100000 → image.word? j = some (some w.toNat)) ∧
      ((∀ k, j < k → ((Source.ofText source).line k).code?.isSome = true →
          image.location? k ≠ image.location? j) →
        ∃ a, image.location? j = some a ∧ image.numbers[a]? = some (unsigned w)) ∧
      image.front? (Source.ofText source) i = some w.operand.toNat ∧
      (((Source.ofText source).line i).isOrigin = false → image.location? i = some w.operand.toNat) := by
  obtain ⟨lines, hreads, rfl⟩ := exists_readsAs h
  have hi := hreads.lt_of_label? hdefined
  obtain ⟨w, hj, hw, hoperand⟩ :=
    hreads.word?_of_reference hreference (hreads.lookup_eq hdefined hlast)
  refine ⟨w, ?_, ?_, hreads.getElem?_numbers name hj hw, ?_, ?_⟩
  · rw [hreads.getElem?_encodedWords hj, hw]
  · intro hnumber
    rw [word?_ofLines name hj hnumber, hw, Option.map_some]
  · rw [hreads.front?_eq name (Nat.le_of_lt hi), hoperand]
  · intro horigin
    rw [(hreads.reads i).kind_eq.1] at horigin
    rw [location?_ofLines name hi, hoperand, placedAt, Line.location_of_not_origin horigin]

/-- A label that is defined again behind its use, on a line with a comment, and one on an `ORG` line. -/
theorem mixed_labels_listed :
    let source := "$2 LDI 0a\n JMP $1\n$1 ORG 20\nBNZ $2\n$2 ; here".toList
    let s := Source.ofText source
    ∃ image, assemble "demo" source = .ok image ∧
      ((s.line 4).label? = some 2 ∧ (∀ k, 4 < k → (s.line k).label? ≠ some 2) ∧
        (s.line 3).reference? = some 2 ∧
        ∃ w : Word, (encodedWords source)[3]? = some (some w) ∧ image.location? 4 = some w.operand.toNat) ∧
      ((s.line 2).label? = some 1 ∧ (∀ k, 2 < k → (s.line k).label? ≠ some 1) ∧
        (s.line 1).reference? = some 1 ∧
        ∃ w : Word, (encodedWords source)[1]? = some (some w) ∧ image.front? s 2 = some w.operand.toNat) := by
  intro source s
  have hreads : ReadsAs source ((sourceLines source).map SourceLine.line) := rfl
  have himage := assemble_of_readsAs hreads "demo"
  have htwo : (s.line 4).label? = some 2 := hreads.label?_eq 4
  have hlast : ∀ k, 4 < k → (s.line k).label? ≠ some 2 := hreads.last_of_lines (by decide)
  have hbranch : (s.line 3).reference? = some 2 := (hreads.reads 3).reference?_iff.mpr ⟨_, rfl⟩
  have hone : (s.line 2).label? = some 1 := hreads.label?_eq 2
  have hsole : ∀ k, 2 < k → (s.line k).label? ≠ some 1 := hreads.last_of_lines (by decide)
  have hjump : (s.line 1).reference? = some 1 := (hreads.reads 1).reference?_iff.mpr ⟨_, rfl⟩
  obtain ⟨w, hw, -, -, -, hlocation⟩ := reference_is_listed_location himage htwo hlast hbranch
  obtain ⟨v, hv, -, -, hfront, -⟩ := reference_is_listed_location himage hone hsole hjump
  have hplain : (s.line 4).isOrigin = false := (hreads.reads 4).kind_eq.1
  exact ⟨_, himage, ⟨htwo, hlast, hbranch, w, hw, hlocation hplain⟩, hone, hsole, hjump, v, hv, hfront⟩

/-- **The entry of an `ORG` line does not show its label:** a jump to the label goes to the location in
    front of the line. -/
theorem origin_label_not_listed :
    ¬∀ (name : String) (source : List Char) (image : Image) (i j number : Nat),
      assemble name source = .ok image → ((Source.ofText source).line i).label? = some number →
      (∀ k, i < k → ((Source.ofText source).line k).label? ≠ some number) →
      ((Source.ofText source).line j).reference? = some number →
      ∃ w : Word, (encodedWords source)[j]? = some (some w) ∧
        image.location? i = some w.operand.toNat := by
  intro h
  let source := "$1 ORG 20\nJMP $1\n".toList
  have hreads : ReadsAs source ((sourceLines source).map SourceLine.line) := rfl
  have hdefined : ((Source.ofText source).line 0).label? = some 1 := hreads.label?_eq 0
  have hreference : ((Source.ofText source).line 1).reference? = some 1 :=
    (hreads.reads 1).reference?_iff.mpr ⟨_, rfl⟩
  obtain ⟨w, hw, hlocation⟩ := h "<source>" source _ 0 1 1 (assemble_of_readsAs hreads _) hdefined
    (hreads.last_of_lines (by decide)) hreference
  have hjump : (encodedWords source)[1]? = some (some 0xB00) := by decide
  have horigin : (placedAt ((sourceLines source).map SourceLine.line) 0).location = 0x20 := by decide
  rw [hjump] at hw
  rw [location?_ofLines _ (by decide), horigin] at hlocation
  cases hw
  revert hlocation
  decide

end Microcore.Assembly
