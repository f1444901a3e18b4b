/-
  Microcore/Proofs/Assembly/TwoPass.lean
  ======================================
  **The two passes compute the meaning.**  Laid out lines are a function of the line number
  (`place_eq_map`), so each of the assembler's lists is one over a range of numbers, and what it
  holds follows by induction on the bound of the range: what a label stands for
  (`lookup_labels`), the words (`getElem_emit`) and the warnings (`redefined_definitions`).
-/
import Microcore.Proofs.Assembly.Emptied
import Microcore.Proofs.Assembly.Reading

namespace Microcore.Assembly

/-! ### Laid out lines -/

def counterAt (lines : List Line) (i : Nat) : Byte :=
  (lines.take i).foldl (fun counter line => line.advance counter) 0

/-- A line where it is laid out. -/
def placedAt (lines : List Line) (i : Nat) : Placed :=
  let line := lines.getD i {}
  ⟨line, counterAt lines i, line.location (counterAt lines i)⟩

theorem getElem?_place (counter : Byte) (lines : List Line) (i : Nat) :
    (place counter lines)[i]? = lines[i]?.map fun line =>
      let c := (lines.take i).foldl (fun counter line => line.advance counter) counter
      ⟨line, c, line.location c⟩ := by
  induction lines generalizing counter i with
  | nil => rfl
  | cons line rest ih =>
    cases i with
    | zero => rfl
    | succ i =>
      rw [place, List.getElem?_cons_succ, List.getElem?_cons_succ, ih]
      rfl

theorem place_eq_map (lines : List Line) :
    place 0 lines = (List.range lines.length).map (placedAt lines) := by
  apply List.ext_getElem?
  intro i
  rw [getElem?_place, List.getElem?_map]
  by_cases hi : i < lines.length
  · rw [List.getElem?_range hi, List.getElem?_eq_getElem hi]
    simp only [Option.map_some, placedAt, List.getD_eq_getElem?_getD, List.getElem?_eq_getElem hi,
      Option.getD_some, counterAt]
  · have hlines : lines[i]? = none := List.getElem?_eq_none (Nat.le_of_not_lt hi)
    have hrange : (List.range lines.length)[i]? = none := by
      apply List.getElem?_eq_none
      rw [List.length_range]
      exact Nat.le_of_not_lt hi
    rw [hlines, hrange]
    rfl

/-! ### One more line -/

theorem labels_concat (placed : List Placed) (p : Placed) : labels (placed ++ [p]) =
    match p.line.label with
    | some number => (number, p.counter) :: labels placed
    | none => labels placed := by
  rw [labels, definitions, List.filterMap_append, List.reverse_append]
  cases hlabel : p.line.label with
  | none => simp [hlabel, labels, definitions]
  | some number => simp [hlabel, labels, definitions]

theorem map_fst_definitions (placed : List Placed) :
    (definitions placed).map Prod.fst = placed.filterMap fun p => p.line.label := by
  rw [definitions, List.map_filterMap]
  congr 1
  funext p
  cases p.line.label <;> rfl

theorem emit_concat (table : Labels) (image : Vector Word 256) (placed : List Placed) (p : Placed) :
    emit table image (placed ++ [p]) =
      match p.word? table with
      | some word => (emit table image placed).set p.location.toNat word p.location.isLt
      | none => emit table image placed := by
  induction placed generalizing image with
  | nil =>
    cases hword : p.word? table with
    | none => simp only [List.nil_append, emit, hword]
    | some word => simp only [List.nil_append, emit, hword]
  | cons q rest ih =>
    rw [List.cons_append, emit, emit]
    cases q.word? table with
    | none => exact ih image
    | some word => exact ih _

theorem redefined_concat (seen numbers : List Nat) (number : Nat) :
    redefined seen (numbers ++ [number]) = redefined seen numbers ++
      if number ∈ seen ∨ number ∈ numbers then [number] else [] := by
  induction numbers generalizing seen with
  | nil => simp [redefined]
  | cons k rest ih =>
    rw [List.cons_append, redefined, redefined]
    -- a label that was seen stays seen; a new one is looked for among those seen from here on
    by_cases hseen : seen.contains k = true
    · have hiff : number ∈ seen ∨ number ∈ k :: rest ↔ number ∈ seen ∨ number ∈ rest := by
        rw [List.contains_iff_mem] at hseen
        rw [List.mem_cons]
        constructor
        · rintro (hmem | rfl | hmem)
          · exact .inl hmem
          · exact .inl hseen
          · exact .inr hmem
        · rintro (hmem | hmem)
          · exact .inl hmem
          · exact .inr (.inr hmem)
      rw [if_pos hseen, if_pos hseen, ih, List.cons_append]
      simp only [hiff]
    · have hiff : number ∈ seen ∨ number ∈ k :: rest ↔ number ∈ k :: seen ∨ number ∈ rest := by
        rw [List.mem_cons, List.mem_cons, or_left_comm, or_assoc]
      rw [if_neg hseen, if_neg hseen, ih]
      simp only [hiff]

/-! ### Lists over the line numbers -/

section Range

variable (f : Nat → Placed)

theorem map_range_succ (n : Nat) : (List.range (n + 1)).map f = (List.range n).map f ++ [f n] := by
  rw [List.range_succ, List.map_append, List.map_singleton]

/-- A label stands for the counter in front of the last line that defines it. -/
theorem lookup_labels (number n : Nat) : (labels ((List.range n).map f)).lookup number =
    (lastBelow? (fun i => (f i).line.label = some number) n).map fun i => (f i).counter := by
  induction n with
  | zero => rfl
  | succ n ih =>
    rw [map_range_succ, lastBelow?_succ, labels_concat]
    cases hlabel : (f n).line.label with
    | none =>
      simp only [ih]
      rfl
    | some k =>
      rw [List.lookup_cons]
      by_cases hk : number = k
      · subst hk
        simp
      · have hbeq : (number == k) = false := beq_eq_false_iff_ne.mpr hk
        simp [ih, hbeq, Ne.symm hk]

/-- The word of a cell is that of the last instruction that is placed there. -/
theorem getElem_emit (table : Labels) (image : Vector Word 256) (n a : Nat) (ha : a < 256) :
    (emit table image ((List.range n).map f))[a] =
      ((lastBelow? (fun i => ((f i).word? table).isSome && (f i).location.toNat = a) n).bind
        fun i => (f i).word? table).getD image[a] := by
  induction n with
  | zero => rfl
  | succ n ih =>
    rw [lastBelow?_succ]
    cases hword : (f n).word? table with
    | none =>
      simp only [map_range_succ, emit_concat, hword, ih]
      rfl
    | some word =>
      simp only [map_range_succ, emit_concat, hword, Vector.getElem_set, ih]
      by_cases ha : (f n).location.toNat = a
      · simp [ha, hword]
      · simp [ha]

theorem redefined_definitions (n : Nat) :
    redefined [] ((definitions ((List.range n).map f)).map Prod.fst) =
      (List.range n).filterMap fun i => (f i).line.label.filter fun number =>
        (List.range i).any fun j => (f j).line.label = some number := by
  rw [map_fst_definitions, List.filterMap_map]
  show redefined [] ((List.range n).filterMap fun i => (f i).line.label) = _
  induction n with
  | zero => rfl
  | succ n ih =>
    rw [List.range_succ, List.filterMap_append, List.filterMap_append]
    cases hlabel : (f n).line.label with
    | none => simp [hlabel, ih]
    | some number =>
      have hmem : number ∈ (List.range n).filterMap (fun i => (f i).line.label) ↔
          ((List.range n).any fun j => (f j).line.label = some number) = true := by
        simp
      simp only [List.filterMap_cons, List.filterMap_nil, hlabel, redefined_concat, ih,
        List.not_mem_nil, false_or, hmem, Option.filter_some]
      split <;> rfl

end Range

/-! ### A line and its words -/

def Line.isOrigin (line : Line) : Bool :=
  match line.statement with
  | some (.origin _) => true
  | _ => false

def Line.isInstruction (line : Line) : Bool :=
  match line.statement with
  | some (.instruction _ _) => true
  | _ => false

theorem Line.location_of_not_origin {line : Line} (h : line.isOrigin = false) (counter : Byte) :
    line.location counter = counter := by
  obtain ⟨label, _ | ⟨_ | _⟩, comment⟩ := line
  · rfl
  · cases h
  · rfl

/-- Behind any line the counter is where the line is listed, or one further behind an instruction. -/
theorem Line.advance_eq_location (line : Line) (counter : Byte) : line.advance counter =
    if line.isInstruction then line.location counter + 1 else line.location counter := by
  obtain ⟨label, _ | ⟨_ | _⟩, comment⟩ := line <;> rfl

/-- Only instructions have words. -/
theorem Placed.isInstruction_of_word? {p : Placed} {table : Labels} {w : Word}
    (h : p.word? table = some w) : p.line.isInstruction = true := by
  rw [word?] at h
  split at h
  · next hstatement => rw [Line.isInstruction, hstatement]
  · cases h

/-- The words of a line say of which kind it is. -/
theorem Reads.kind_eq {words : Words} {line : Line} (h : Reads words line) :
    words.isOrigin = line.isOrigin ∧ words.code?.isSome = line.isInstruction := by
  obtain ⟨label, statement, comment⟩ := line
  have hstatement : ReadsStatement words statement := h.statement
  cases hstatement with
  | nothing horigin hcode =>
    rw [horigin, hcode]
    exact ⟨rfl, rfl⟩
  | origin horigin hcode hvalue =>
    rw [horigin, hcode]
    exact ⟨rfl, rfl⟩
  | instruction horigin hcode hargument =>
    rw [horigin, hcode]
    exact ⟨rfl, rfl⟩

theorem Reads.advance_eq {words : Words} {line : Line} (h : Reads words line) (counter : Byte) :
    (line.advance counter).toNat = Source.advance counter.toNat words := by
  obtain ⟨label, statement, comment⟩ := line
  have hstatement : ReadsStatement words statement := h.statement
  cases hstatement with
  | nothing horigin hcode =>
    rw [Source.advance, horigin, hcode]
    rfl
  | origin horigin hcode hvalue =>
    rw [Source.advance, horigin]
    exact hvalue.symm
  | instruction horigin hcode hargument =>
    rw [Source.advance, horigin, hcode]
    exact BitVec.toNat_add counter 1

section Table

variable {s : Source} {table : Labels}
  (htable : ∀ number, (table.lookup number).map BitVec.toNat = s.labelValue? number)

include htable

theorem ReadsArgument.value_eq {operand : List Char} {argument : Argument}
    (h : ReadsArgument operand argument) :
    (argument.value table).toNat = s.operandValue operand := by
  cases h with
  | literal hplain hvalue =>
    rw [Source.operandValue, hplain]
    exact hvalue.symm
  | @label number hlabel =>
    simp only [Source.operandValue, hlabel, ← htable, Argument.value]
    cases table.lookup number <;> rfl

theorem ReadsArgument.undefined?_eq {operand : List Char} {argument : Argument}
    (h : ReadsArgument operand argument) : argument.undefined? table =
      (labelOf? operand).filter fun number => (s.labelValue? number).isNone := by
  cases h with
  | literal hplain hvalue =>
    rw [hplain]
    rfl
  | @label number hlabel =>
    simp only [hlabel, ← htable, Argument.undefined?, Option.filter_some, Option.isNone_map]
    cases table.lookup number <;> rfl

/-- A line is assembled to the word that its words stand for. -/
theorem Reads.word?_eq {words : Words} {p : Placed} (h : Reads words p.line) :
    (p.word? table).map BitVec.toNat =
      words.code?.map fun code => code * 256 + s.operandValue words.operand := by
  obtain ⟨⟨label, statement, comment⟩, counter, location⟩ := p
  have hstatement : ReadsStatement words statement := h.statement
  cases hstatement with
  | nothing horigin hcode =>
    rw [hcode]
    rfl
  | origin horigin hcode hvalue =>
    rw [hcode]
    rfl
  | instruction horigin hcode hargument =>
    rw [hcode, Option.map_some, ← hargument.value_eq htable]
    exact congrArg some (Instruction.toNat_encode _ _)

theorem Reads.undefined?_eq {words : Words} {p : Placed} (h : Reads words p.line) :
    p.undefined? table =
      words.reference?.filter fun number => (s.labelValue? number).isNone := by
  obtain ⟨⟨label, statement, comment⟩, counter, location⟩ := p
  have hstatement : ReadsStatement words statement := h.statement
  cases hstatement with
  | nothing horigin hcode =>
    rw [Words.reference?, hcode]
    rfl
  | origin horigin hcode hvalue =>
    rw [Words.reference?, hcode]
    rfl
  | instruction horigin hcode hargument =>
    rw [Words.reference?, hcode]
    exact hargument.undefined?_eq htable

end Table

theorem Reads.location_eq {words : Words} {line : Line} (h : Reads words line)
    (hcode : words.code?.isSome = true) (counter : Byte) : line.location counter = counter := by
  obtain ⟨label, statement, comment⟩ := line
  have hstatement : ReadsStatement words statement := h.statement
  cases hstatement with
  | nothing horigin hnone => rfl
  | origin horigin hnone hvalue =>
    rw [hnone] at hcode
    cases hcode
  | instruction horigin hsome hargument => rfl

/-! ### All lines and their words -/

theorem Source.counter_succ (s : Source) (i : Nat) :
    s.counter (i + 1) = Source.advance (s.counter i) (s.line i) := by
  rw [counter, List.take_add_one, List.foldl_append, line, List.getD_eq_getElem?_getD]
  cases s[i]? <;> rfl

theorem counterAt_succ (lines : List Line) (i : Nat) :
    counterAt lines (i + 1) = (lines.getD i {}).advance (counterAt lines i) := by
  rw [counterAt, List.take_add_one, List.foldl_append, List.getD_eq_getElem?_getD]
  cases lines[i]? <;> rfl

section Lines

variable {s : Source} {lines : List Line} (h : ∀ i, Reads (s.line i) (lines.getD i {}))

include h

theorem toNat_counterAt (i : Nat) : (counterAt lines i).toNat = s.counter i := by
  induction i with
  | zero => rfl
  | succ i ih => rw [counterAt_succ, Source.counter_succ, (h i).advance_eq, ih]

section Table

variable {table : Labels}
  (htable : ∀ number, (table.lookup number).map BitVec.toNat = s.labelValue? number)

include htable

theorem toNat_word? (i : Nat) :
    ((placedAt lines i).word? table).map BitVec.toNat = s.word? i :=
  @Reads.word?_eq s table htable _ (placedAt lines i) (h i)

theorem isPlaced_eq (a i : Nat) :
    (((placedAt lines i).word? table).isSome && (placedAt lines i).location.toNat = a) =
      s.isPlaced a i := by
  have hword := congrArg Option.isSome (toNat_word? h htable i)
  rw [Option.isSome_map, Source.word?, Option.isSome_map] at hword
  rw [hword, Source.isPlaced]
  cases hcode : (s.line i).code?.isSome with
  | false => rfl
  | true =>
    have hlocation : (placedAt lines i).location = counterAt lines i := (h i).location_eq hcode _
    rw [hlocation, toNat_counterAt h]

end Table

variable (hlength : lines.length = s.length)

include hlength

/-- **The first pass finds what the labels stand for.** -/
theorem lookup_eq_labelValue? (number : Nat) :
    ((labels (place 0 lines)).lookup number).map BitVec.toNat = s.labelValue? number := by
  have hlabel (i : Nat) : (placedAt lines i).line.label = (s.line i).label? := (h i).label
  rw [place_eq_map, lookup_labels, hlength, Option.map_map, Source.labelValue?]
  simp only [hlabel]
  congr 1
  funext i
  exact toNat_counterAt h i

/-- **The second pass writes the words.** -/
theorem toNat_emit (a : Nat) (ha : a < 256) :
    (emit (labels (place 0 lines)) (Vector.replicate 256 0) (place 0 lines))[a].toNat =
      s.wordAt a := by
  -- the table is used through what it says of each label only
  have htable := lookup_eq_labelValue? h hlength
  generalize labels (place 0 lines) = table at htable
  simp only [place_eq_map, getElem_emit, hlength, isPlaced_eq h htable, Source.wordAt,
    Vector.getElem_replicate]
  cases lastBelow? (s.isPlaced a) s.length with
  | none => rfl
  | some i =>
    rw [Option.bind_some, Option.bind_some, ← toNat_word? h htable]
    cases (placedAt lines i).word? table <;> rfl

theorem undefined_eq :
    (place 0 lines).filterMap (Placed.undefined? (labels (place 0 lines))) = s.undefined := by
  have htable := lookup_eq_labelValue? h hlength
  generalize labels (place 0 lines) = table at htable
  rw [place_eq_map, List.filterMap_map, hlength, Source.undefined]
  congr 1
  funext i
  exact @Reads.undefined?_eq s table htable _ (placedAt lines i) (h i)

theorem redefined_eq :
    redefined [] ((definitions (place 0 lines)).map Prod.fst) = s.redefined := by
  have hlabel (i : Nat) : (placedAt lines i).line.label = (s.line i).label? := (h i).label
  rw [place_eq_map, redefined_definitions, hlength, Source.redefined]
  simp only [hlabel]

end Lines

/-! ### Texts -/

theorem getElem?_sourceLines (source : List Char) (i : Nat) : (sourceLines source)[i]? =
    (Lines.lines source)[i]?.map fun raw =>
      ⟨1 + i, Lines.chomp raw, Line.parse (Lines.chomp raw)⟩ := by
  rw [sourceLines, List.getElem?_map, List.getElem?_zipIdx, Option.map_map]
  rfl

theorem length_sourceLines (source : List Char) :
    (sourceLines source).length = (Source.ofText source).length := by
  rw [sourceLines, Source.ofText, List.length_map, List.length_map, List.length_zipIdx]

theorem reads_sourceLines {source : List Char}
    (h : (sourceLines source).filterMap SourceLine.message? = []) (i : Nat) :
    Reads ((Source.ofText source).line i)
      (((sourceLines source).map SourceLine.line).getD i {}) := by
  rw [Source.line, Source.ofText, List.getD_eq_getElem?_getD, List.getD_eq_getElem?_getD,
    List.getElem?_map, List.getElem?_map, getElem?_sourceLines]
  cases hraw : (Lines.lines source)[i]? with
  | none => exact Reads.empty
  | some raw =>
    -- the line is one of the source, so it has no message, and was accepted
    have hget := getElem?_sourceLines source i
    rw [hraw] at hget
    have hgood := List.filterMap_eq_nil_iff.mp h _ (List.mem_of_getElem? hget)
    show Reads (Blank.words raw) (SourceLine.line _)
    simp only [SourceLine.message?] at hgood
    simp only [SourceLine.line]
    cases hparse : Line.parse (Lines.chomp raw) with
    | error fault =>
      rw [hparse] at hgood
      cases hgood
    | ok line =>
      rw [← Lines.words_chomp]
      exact .of_parse hparse

/-! ### Images -/

/-- An image that holds what a source means. -/
structure Image.Means (image : Image) (s : Source) : Prop where
  length : image.numbers.length = 256
  word (a : Nat) : a < 256 → image.numbers[a]? = some (s.wordAt a : Int)
  bounded : ∀ w ∈ image.numbers, 0 ≤ w ∧ w ≤ 0xFFF
  errors : image.errors = s.undefined.map Listing.undefinedMessage
  warnings : image.warnings = s.redefined.map Listing.redefinedMessage

theorem Image.length_numbers (image : Image) : image.numbers.length = 256 := by
  rw [numbers, List.length_map, Vector.length_toList]

theorem Image.getElem?_numbers (image : Image) (a : Nat) (ha : a < 256) :
    image.numbers[a]? = some (unsigned image.words[a]) := by
  rw [numbers, List.getElem?_map, Vector.getElem?_toList, Vector.getElem?_eq_getElem ha]
  rfl

theorem Image.bounded_numbers (image : Image) : ∀ w ∈ image.numbers, 0 ≤ w ∧ w ≤ 0xFFF :=
  bounded_map_unsigned image.words.toList

theorem exists_image (name : String) {source : List Char}
    (h : (sourceLines source).filterMap SourceLine.message? = []) :
    ∃ image, assemble name source = .ok image := by
  simp only [assemble, h]
  exact ⟨_, rfl⟩

/-- **The two passes compute the meaning of the source.** -/
theorem assemble_means {name : String} {source : List Char} {image : Image}
    (h : assemble name source = .ok image) : image.Means (Source.ofText source) := by
  simp only [assemble_emptied] at h
  split at h
  · next hgood =>
    have hreads := reads_sourceLines hgood
    have hlength : ((sourceLines source).map SourceLine.line).length =
        (Source.ofText source).length := by
      rw [List.length_map, length_sourceLines]
    cases h
    refine ⟨Image.length_numbers _, ?_, Image.bounded_numbers _, ?_, ?_⟩
    · intro a ha
      rw [Image.getElem?_numbers _ a ha, ← toNat_emit hreads hlength a ha]
      rfl
    · exact congrArg _ (undefined_eq hreads hlength)
    · exact congrArg _ (redefined_eq hreads hlength)
  · cases h

/-- A source with a label that is defined twice, one that is defined behind its use, one that is not
    defined, and an `ORG` line that goes back. -/
theorem overwriting_source_means :
    let source := "$1 LDI 0a\n JMP $2\n$1 STA %ix ; twice\nORG 01\n$2 BNZ $7\n".toList
    ∃ image, assemble "demo" source = .ok image ∧ image.Means (Source.ofText source) := by
  intro source
  obtain ⟨image, himage⟩ := @exists_image "demo" source (by decide)
  exact ⟨image, himage, assemble_means himage⟩

end Microcore.Assembly
