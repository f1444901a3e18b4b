/-
  Microcore/Proofs/Assembly/Rejected.lean
  =======================================
  **A rejected source is listed as if its bad lines were empty.**  Lines outside the grammar move no
  counter and define no label, so the lines of the grammar are laid out where they are in a source that
  has empty lines in place of the others (`placedAt_congr`, `labels_of_empty`).  The listing of the rejected
  source holds their entries in the listing of that source, and the two lines of the message for each other
  line (`rejected_listing_follows`).
-/
import Mathlib.Data.List.GetD
import Microcore.Proofs.Assembly.Entries
import Microcore.Proofs.Assembly.Grammar

namespace Microcore.Assembly

open Lines (IsLine)

/-! ### Messages have two lines -/

/-- The lines of a message. -/
def messageLines (message : String) : List String := (message.toList.splitOn '\n').map String.ofList

theorem word_of_hexByte?_error {digits word : List Char} {fault : Fault}
    (h : (match hexByte? digits with
      | some value => Except.ok value
      | none => .error (⟨.operand, word⟩ : Fault)) = .error fault) : fault.word = word := by
  split at h
  · cases h
  · cases h
    rfl

theorem word_of_literal?_error {kind : OperandKind} {word : List Char} {fault : Fault}
    (h : literal? kind word = .error fault) : fault.word = word := by
  simp only [literal?] at h
  split at h
  · cases h
    rfl
  · split at h
    · cases h
    · cases h
      rfl
  · split at h
    · exact word_of_hexByte?_error h
    · cases h
      rfl
  · split at h
    · cases h
      rfl
    · exact word_of_hexByte?_error h

theorem error_of_map {α β : Type} {x : Except Fault α} {f : α → β} {fault : Fault}
    (h : x.map f = .error fault) : x = .error fault := by
  cases x with
  | error _ =>
    cases h
    rfl
  | ok a => cases h

/-- A fault of an operand shows the operand as it is, or in upper case. -/
theorem word_of_statement?_error {keyword : Keyword} {operand : List Char} {fault : Fault}
    (h : keyword.statement? operand = .error fault) :
    fault.word = operand ∨ fault.word = Letter.upper operand := by
  cases keyword with
  | origin => exact .inl (word_of_literal?_error (error_of_map h))
  | instruction i =>
    have hargument := error_of_map h
    simp only [argument?] at hargument
    split at hargument
    · split at hargument
      · cases hargument
      · cases hargument
        exact .inr rfl
    · exact .inl (word_of_literal?_error (error_of_map hargument))

theorem feed_not_mem_of_parseBody_error {text : List Char} {fault : Fault}
    (h : Line.parseBody text = .error fault) : '\n' ∉ fault.word := by
  rw [Line.parseBody] at h
  split at h
  · cases h
  · next word rest hword =>
    have hfeed := (IsLine.of_isWord (Blank.isWord_of_nextWord? hword)).feed
    simp only at h
    split at h
    · cases h
    · split at h
      · cases h
        exact hfeed
      · split at h
        · cases h
          exact hfeed
        · next operand tail hoperand =>
          have hfeed := (IsLine.of_isWord (Blank.isWord_of_nextWord? hoperand)).feed
          rcases word_of_statement?_error (error_of_map h) with hfault | hfault
          · rwa [hfault]
          · rw [hfault, Letter.mem_upper_iff (by decide) (by decide)]
            exact hfeed

/-- **The word that a fault shows is on one line.** -/
theorem feed_not_mem_of_parse_error {text : List Char} {fault : Fault}
    (h : Line.parse text = .error fault) : '\n' ∉ fault.word := by
  rw [Line.parse] at h
  split at h
  · next digits rest hword =>
    split at h
    · exact feed_not_mem_of_parseBody_error (error_of_map h)
    · cases h
      exact (IsLine.of_isWord (Blank.isWord_of_nextWord? hword)).feed
  · exact feed_not_mem_of_parseBody_error h

theorem feed_not_mem_faultHead {fault : Fault} (h : '\n' ∉ fault.word) :
    '\n' ∉ (Listing.faultHead fault).toList := by
  have hmessage : '\n' ∉ fault.problem.message.toList := by
    cases fault.problem <;> decide
  show '\n' ∉ (_ ++ _ : String).toList
  simp [hmessage, h, toString]

theorem feed_not_mem_faultTail (number : Nat) {text : List Char} (h : '\n' ∉ text) :
    '\n' ∉ (Listing.faultTail number text).toList := by
  intro hmem
  rw [Listing.faultTail, String.toList_ofList] at hmem
  rcases List.mem_append.mp hmem with hmem | hmem
  · rcases List.mem_append.mp hmem with hmem | hmem
    · rcases List.mem_append.mp hmem with hmem | hmem
      · cases List.eq_of_mem_replicate hmem
      · cases Listing.isDigit_of_mem_decimalChars '\n' hmem
    · revert hmem
      decide
  · exact h hmem

/-- **A message has two lines.** -/
theorem messageLines_eq {head tail : String} (hhead : '\n' ∉ head.toList) (htail : '\n' ∉ tail.toList) :
    messageLines (head ++ "\n" ++ tail) = [head, tail] := by
  have htext : (head ++ "\n" ++ tail).toList = head.toList ++ '\n' :: tail.toList := by
    rw [String.toList_append, String.toList_append, List.append_assoc]
    rfl
  rw [messageLines, htext, List.splitOn_append_cons_self_of_not_mem hhead,
    List.splitOn_eq_singleton htail, List.map_cons, List.map_cons, List.map_nil, String.ofList_toList,
    String.ofList_toList]

/-! ### Empty lines for bad ones -/

/-- A source that has the lines of another one that are in the grammar, each in its place, and an empty
    line in place of each line that is not.  Such a line at the very end may be left out. -/
structure KeepsGood (source other : List Char) : Prop where
  length_le : (Lines.lines other).length ≤ (Lines.lines source).length
  kept (i : Nat) (raw : List Char) : (Lines.lines source)[i]? = some raw → Good (Blank.words raw) →
    (Lines.lines other)[i]? = some raw
  emptied (i : Nat) (raw found : List Char) : (Lines.lines source)[i]? = some raw →
    ¬Good (Blank.words raw) → (Lines.lines other)[i]? = some found → found = []

/-- The lines of a source, with empty ones in place of those outside the grammar. -/
def keepGood (source : List Char) : List Char :=
  ((Lines.lines source).map fun raw => if Good (Blank.words raw) then raw else []).flatMap
    fun raw => raw ++ ['\n']

theorem lines_keepGood (source : List Char) : Lines.lines (keepGood source) =
    (Lines.lines source).map fun raw => if Good (Blank.words raw) then raw else [] := by
  apply Lines.lines_flatMap
  intro text htext
  obtain ⟨raw, hraw, rfl⟩ := List.mem_map.mp htext
  split
  · exact Lines.feed_not_mem_of_mem_lines hraw
  · exact List.not_mem_nil

theorem keepsGood_keepGood (source : List Char) : KeepsGood source (keepGood source) := by
  constructor
  · rw [lines_keepGood, List.length_map]
  · intro i raw hraw hgood
    rw [lines_keepGood, List.getElem?_map, hraw, Option.map_some, if_pos hgood]
  · intro i raw found hraw hbad hfound
    rw [lines_keepGood, List.getElem?_map, hraw, Option.map_some, if_neg hbad] at hfound
    exact (Option.some.inj hfound).symm

theorem good_nil : Good (Blank.words []) := by
  rw [Blank.words_of_none rfl]
  exact .plain .empty

/-- A line of a source, an empty one where the line is outside the grammar or there is none. -/
def lineAt (source : List Char) (i : Nat) : Line :=
  ((sourceLines source).map SourceLine.line).getD i {}

theorem lineAt_eq (source : List Char) (i : Nat) : lineAt source i =
    match (Lines.lines source)[i]? with
    | some raw => SourceLine.line ⟨1 + i, Lines.chomp raw, Line.parse (Lines.chomp raw)⟩
    | none => {} := by
  rw [lineAt, List.getD_eq_getElem?_getD, List.getElem?_map, getElem?_sourceLines]
  cases (Lines.lines source)[i]? <;> rfl

theorem exists_fault {raw : List Char} (h : ¬Good (Blank.words raw)) :
    ∃ fault, Line.parse (Lines.chomp raw) = .error fault := by
  cases hparse : Line.parse (Lines.chomp raw) with
  | ok line => exact absurd (good_iff_parse.mpr ⟨line, hparse⟩) h
  | error fault => exact ⟨fault, rfl⟩

theorem lineAt_of_bad {source raw : List Char} {i : Nat} (hraw : (Lines.lines source)[i]? = some raw)
    (hbad : ¬Good (Blank.words raw)) : lineAt source i = {} := by
  obtain ⟨fault, hfault⟩ := exists_fault hbad
  rw [lineAt_eq, hraw]
  simp only [SourceLine.line, hfault]

section KeepsGood

variable {source other : List Char} (h : KeepsGood source other)

include h

theorem KeepsGood.exists_image (name : String) : ∃ image, assemble name other = .ok image := by
  rw [exists_image_iff]
  intro raw hraw
  obtain ⟨i, hi, hget⟩ := List.mem_iff_getElem.mp hraw
  have hother : (Lines.lines other)[i]? = some raw := List.getElem?_eq_some_iff.mpr ⟨hi, hget⟩
  have hlt : i < (Lines.lines source).length := Nat.lt_of_lt_of_le hi h.length_le
  have hsource := List.getElem?_eq_getElem hlt
  by_cases hgood : Good (Blank.words (Lines.lines source)[i])
  · have hkept := h.kept i _ hsource hgood
    rw [hother] at hkept
    rwa [Option.some.inj hkept]
  · rw [h.emptied i _ raw hsource hgood hother]
    exact good_nil

/-- **Both sources have the same lines,** if lines outside the grammar count as empty. -/
theorem KeepsGood.lineAt_eq (i : Nat) : lineAt source i = lineAt other i := by
  cases hsource : (Lines.lines source)[i]? with
  | none =>
    have hother : (Lines.lines other)[i]? = none :=
      List.getElem?_eq_none (Nat.le_trans h.length_le (List.getElem?_eq_none_iff.mp hsource))
    rw [Assembly.lineAt_eq, Assembly.lineAt_eq, hsource, hother]
  | some raw =>
    by_cases hgood : Good (Blank.words raw)
    · rw [Assembly.lineAt_eq, Assembly.lineAt_eq, hsource, h.kept i raw hsource hgood]
    · rw [lineAt_of_bad hsource hgood, Assembly.lineAt_eq]
      cases hother : (Lines.lines other)[i]? with
      | none => rfl
      | some found =>
        rw [h.emptied i raw found hsource hgood hother]
        rfl

end KeepsGood

/-! ### Where the lines go -/

section Lines

variable {lines others : List Line} (h : ∀ i, lines.getD i {} = others.getD i {})

include h

theorem counterAt_congr (i : Nat) : counterAt lines i = counterAt others i := by
  induction i with
  | zero => rfl
  | succ i ih => rw [counterAt_succ, counterAt_succ, h, ih]

/-- Lines are laid out alike whatever empty lines follow them. -/
theorem placedAt_congr : placedAt lines = placedAt others := by
  funext i
  simp only [placedAt, h, counterAt_congr h]

end Lines

/-- Lines without a label add nothing to the table. -/
theorem labels_of_empty (f : Nat → Placed) {n : Nat} (h : ∀ i, n ≤ i → (f i).line.label = none)
    (k : Nat) : labels ((List.range (n + k)).map f) = labels ((List.range n).map f) := by
  induction k with
  | zero => rfl
  | succ k ih => rw [← Nat.add_assoc, map_range_succ, labels_concat, h _ (Nat.le_add_right n k), ih]

theorem labels_congr {lines others : List Line} (h : ∀ i, lines.getD i {} = others.getD i {})
    (hle : others.length ≤ lines.length) : labels (place 0 lines) = labels (place 0 others) := by
  have hempty : ∀ i, others.length ≤ i → (placedAt others i).line.label = none := by
    intro i hi
    simp only [placedAt, List.getD_eq_default _ _ hi]
  obtain ⟨k, hk⟩ := Nat.exists_eq_add_of_le hle
  rw [place_eq_map, place_eq_map, placedAt_congr h, hk, labels_of_empty _ hempty]

/-! ### The listing of a rejected source -/

/-- The lines of a source, each as it is read and where it is laid out. -/
theorem zip_place_sourceLines (source : List Char) :
    let lines := (sourceLines source).map SourceLine.line
    (sourceLines source).zip (place 0 lines) = (Lines.lines source).zipIdx.map fun (raw, i) =>
      (⟨i + 1, Lines.chomp raw, Line.parse (Lines.chomp raw)⟩, placedAt lines i) := by
  intro lines
  have hindices : List.range lines.length = (Lines.lines source).zipIdx.map Prod.snd := by
    rw [List.length_map, sourceLines, List.length_map, List.length_zipIdx, List.zipIdx_map_snd,
      List.range_eq_range']
  rw [place_eq_map, hindices, sourceLines, List.zipIdx_succ, List.map_map, List.map_map, List.zip_map']
  rfl

/-- The lines that a line of a source takes in the listing of a rejection. -/
def firstPassLines (source : List Char) (entry : List Char × Nat) : List String :=
  let lines := (sourceLines source).map SourceLine.line
  SourceLine.listed (labels (place 0 lines))
    ⟨entry.2 + 1, Lines.chomp entry.1, Line.parse (Lines.chomp entry.1)⟩ (placedAt lines entry.2)

theorem exists_rejection (name : String) {source : List Char}
    (h : ∃ raw ∈ Lines.lines source, ¬Good (Blank.words raw)) :
    ∃ rejection, assemble name source = .error rejection := by
  cases hassemble : assemble name source with
  | error rejection => exact ⟨rejection, rfl⟩
  | ok image =>
    obtain ⟨raw, hraw, hbad⟩ := h
    exact absurd (exists_image_iff.mp ⟨image, hassemble⟩ raw hraw) hbad

theorem listing_of_rejected {name : String} {source : List Char} {rejection : Rejection}
    (h : assemble name source = .error rejection) :
    rejection.listing =
      Listing.header name "First" ++ (Lines.lines source).zipIdx.flatMap (firstPassLines source) := by
  simp only [assemble_emptied] at h
  split at h
  · cases h
  · cases h
    show Listing.header name "First" ++ _ = _
    rw [zip_place_sourceLines, List.flatMap_map]
    rfl

/-! ### Line by line -/

/-- How a line of a rejected source is listed: outside the grammar by the lines of its message, and
    otherwise by its entry in the listing of an image. -/
inductive Rejection.ListedAs (rejection : Rejection) (image : Image) :
    List Char × Nat → List String → Prop where
  | fault {raw : List Char} {i : Nat} {message : String} (bad : ¬Good (Blank.words raw))
      (reports : Reports (i + 1, Lines.chomp raw) message) (mem : message ∈ rejection.errors) :
      rejection.ListedAs image (raw, i) (messageLines message)
  | entry {raw : List Char} {i : Nat} {entry : String} (good : Good (Blank.words raw))
      (same : image.entries[i]? = some entry) : rejection.ListedAs image (raw, i) [entry]

theorem firstPassLines_of_good {source raw : List Char} {i : Nat} (h : Good (Blank.words raw)) :
    firstPassLines source (raw, i) =
      let lines := (sourceLines source).map SourceLine.line
      [Listing.entry (labels (place 0 lines)) (i + 1) (placedAt lines i)] := by
  obtain ⟨line, hline⟩ := good_iff_parse.mp h
  simp only [firstPassLines, SourceLine.listed, hline]

theorem firstPassLines_of_fault {source raw : List Char} {i : Nat} {fault : Fault}
    (h : Line.parse (Lines.chomp raw) = .error fault) : firstPassLines source (raw, i) =
      [Listing.faultHead fault, Listing.faultTail (i + 1) (Lines.chomp raw)] := by
  simp only [firstPassLines, SourceLine.listed, h]

theorem messageLines_faultMessage {source raw : List Char} {i : Nat} {fault : Fault}
    (hraw : raw ∈ Lines.lines source) (h : Line.parse (Lines.chomp raw) = .error fault) :
    messageLines (Listing.faultMessage (i + 1) (Lines.chomp raw) fault) =
      firstPassLines source (raw, i) := by
  have hfeed := (Lines.isLine_chomp (Lines.feed_not_mem_of_mem_lines hraw)).feed
  rw [firstPassLines_of_fault h]
  exact messageLines_eq (feed_not_mem_faultHead (feed_not_mem_of_parse_error h))
    (feed_not_mem_faultTail _ hfeed)

theorem faultMessage_mem {source raw : List Char} {i : Nat} {fault : Fault}
    (hraw : (Lines.lines source)[i]? = some raw) (h : Line.parse (Lines.chomp raw) = .error fault) :
    Listing.faultMessage (i + 1) (Lines.chomp raw) fault ∈
      (sourceLines source).filterMap SourceLine.message? := by
  have hget := getElem?_sourceLines source i
  rw [hraw, Option.map_some, h, Nat.add_comm] at hget
  exact List.mem_filterMap.mpr ⟨_, List.mem_of_getElem? hget, rfl⟩

/-- **A line of the grammar has the entry that it has without the bad lines.** -/
theorem KeepsGood.getElem?_entries {source other raw : List Char} {lines : List Line} {i : Nat}
    (h : KeepsGood source other) (hreads : ReadsAs other lines) (name : String)
    (hraw : (Lines.lines source)[i]? = some raw) (hgood : Good (Blank.words raw)) :
    (Image.ofLines name lines).entries[i]? = (firstPassLines source (raw, i)).head? := by
  have hlines : ∀ i, ((sourceLines source).map SourceLine.line).getD i {} = lines.getD i {} := by
    intro i
    rw [← hreads.map_line]
    exact h.lineAt_eq i
  have hlength : lines.length ≤ ((sourceLines source).map SourceLine.line).length := by
    rw [← hreads.length_eq, List.length_map, length_sourceLines, Source.ofText, List.length_map]
    exact h.length_le
  have hi : i < lines.length := by
    rw [← hreads.length_eq]
    exact (List.getElem?_eq_some_iff.mp (h.kept i raw hraw hgood)).1
  rw [firstPassLines_of_good hgood, Image.entries_ofLines, List.getElem?_map, List.getElem?_range hi]
  simp only [labels_congr hlines hlength, placedAt_congr hlines]
  rfl

/-- The first line of a message has no number in front. -/
theorem lineNumber?_faultHead (fault : Fault) :
    Listing.lineNumber? (Listing.faultHead fault).toList = none := by
  have hhead : "Syntax error: ".toList <+: (Listing.faultHead fault).toList := by
    show _ <+: (_ ++ _ : String).toList
    simp only [String.toList_append, List.append_assoc]
    exact List.prefix_append _ _
  obtain ⟨tail, htail⟩ := hhead
  rw [← htail]
  rfl

theorem lineNumber?_faultTail (number : Nat) (text : List Char) :
    Listing.lineNumber? (Listing.faultTail number text).toList = some number := by
  rw [Listing.faultTail, String.toList_ofList, List.append_assoc]
  exact Listing.lineNumber?_padStart number _

theorem numbers_firstPassLines (source : List Char) (entry : List Char × Nat) :
    (firstPassLines source entry).filterMap (fun line => Listing.lineNumber? line.toList) =
      [entry.2 + 1] := by
  obtain ⟨raw, i⟩ := entry
  by_cases hgood : Good (Blank.words raw)
  · simp only [firstPassLines_of_good hgood, List.filterMap_cons, lineNumber?_entry, List.filterMap_nil]
  · obtain ⟨fault, hfault⟩ := exists_fault hgood
    simp only [firstPassLines_of_fault hfault, List.filterMap_cons, lineNumber?_faultHead,
      lineNumber?_faultTail, List.filterMap_nil]

theorem length_firstPassLines (source : List Char) (entry : List Char × Nat) :
    (firstPassLines source entry).length = if Good (Blank.words entry.1) then 1 else 2 := by
  obtain ⟨raw, i⟩ := entry
  by_cases hgood : Good (Blank.words raw)
  · rw [firstPassLines_of_good hgood, if_pos hgood]
    rfl
  · obtain ⟨fault, hfault⟩ := exists_fault hgood
    rw [firstPassLines_of_fault hfault, if_neg hgood]
    rfl

theorem length_flatMap_firstPassLines (source : List Char) (entries : List (List Char × Nat)) :
    (entries.flatMap (firstPassLines source)).length =
      (entries.map Prod.fst).countP (fun raw => Good (Blank.words raw)) +
        2 * (entries.map Prod.fst).countP fun raw => ¬Good (Blank.words raw) := by
  induction entries with
  | nil => rfl
  | cons entry rest ih =>
    rw [List.flatMap_cons, List.length_append, length_firstPassLines, ih, List.map_cons,
      List.countP_cons, List.countP_cons]
    by_cases hgood : Good (Blank.words entry.1)
    · simp [hgood]
      omega
    · simp [hgood]
      omega

/-- The listing of a rejected source that follows the listing of an image: behind the header, each line
    once and in order. -/
structure Rejection.Follows (rejection : Rejection) (name : String) (source : List Char) (image : Image) :
    Prop where
  parts : ∃ parts, rejection.listing = Listing.header name "First" ++ parts.flatten ∧
    List.Forall₂ (rejection.ListedAs image) (Lines.lines source).zipIdx parts
  length : rejection.listing.length = 2 + (Lines.lines source).countP (fun raw => Good (Blank.words raw)) +
    2 * (Lines.lines source).countP fun raw => ¬Good (Blank.words raw)
  numbers : (rejection.listing.drop 2).filterMap (fun line => Listing.lineNumber? line.toList) =
    List.range' 1 (Lines.lines source).length

/-- **A rejected source is listed as if its bad lines were empty.**  If lines of a source are outside the
    grammar, it is rejected.  With empty lines in place of them it is assembled, and the listing of the
    rejection has the entry of each other line in the listing of this image. -/
theorem rejected_listing_follows (name : String) {source : List Char}
    (h : ∃ raw ∈ Lines.lines source, ¬Good (Blank.words raw)) :
    ∃ rejection, assemble name source = .error rejection ∧ KeepsGood source (keepGood source) ∧
      ∀ other, KeepsGood source other →
        ∃ image, assemble name other = .ok image ∧ rejection.Follows name source image := by
  obtain ⟨rejection, hrejection⟩ := exists_rejection name h
  refine ⟨rejection, hrejection, keepsGood_keepGood source, ?_⟩
  intro other hother
  obtain ⟨image, himage⟩ := hother.exists_image name
  obtain ⟨lines, hreads, rfl⟩ := exists_readsAs himage
  have hlisting := listing_of_rejected hrejection
  refine ⟨_, himage, ⟨(Lines.lines source).zipIdx.map (firstPassLines source), ?_, ?_⟩, ?_, ?_⟩
  · rw [hlisting, List.flatMap_def]
  · rw [List.forall₂_map_right_iff, List.forall₂_same]
    rintro ⟨raw, i⟩ hmem
    have hraw : (Lines.lines source)[i]? = some raw := List.mem_zipIdx_iff_getElem?.mp hmem
    by_cases hgood : Good (Blank.words raw)
    · have hentry := hother.getElem?_entries hreads name hraw hgood
      rw [firstPassLines_of_good hgood] at hentry ⊢
      exact .entry hgood hentry
    · obtain ⟨fault, hfault⟩ := exists_fault hgood
      rw [← messageLines_faultMessage (List.mem_of_getElem? hraw) hfault]
      refine .fault hgood (reports_faultMessage hfault (i + 1)) ?_
      rw [errors_of_assemble hrejection]
      exact faultMessage_mem hraw hfault
  · rw [hlisting, List.length_append, length_flatMap_firstPassLines, List.zipIdx_map_fst, ← Nat.add_assoc]
    rfl
  · have hdrop : rejection.listing.drop 2 =
        (Lines.lines source).zipIdx.flatMap (firstPassLines source) := by
      rw [hlisting]
      rfl
    rw [hdrop, List.filterMap_flatMap]
    simp only [numbers_firstPassLines]
    rw [← List.map_eq_flatMap, ← List.zipIdx_map_snd, List.zipIdx_succ, List.map_map]
    rfl

/-- Bad lines between the definitions of a label and its uses, one of them behind a label of its own and
    one that would have moved the counter, and a bad line at the end. -/
theorem mixed_listing_follows :
    let source := "$1 LDI 0a\nJMP $2\n$3 LDI\nORG 1F0\n$1 sta %ix ;\nORG F0\nMUL 3\n$2 BNZ $3\n$x".toList
    (∃ raw ∈ Lines.lines source, ¬Good (Blank.words raw)) ∧
      ∃ rejection, assemble "demo" source = .error rejection ∧ ∃ image,
        assemble "demo" (keepGood source) = .ok image ∧ rejection.Follows "demo" source image := by
  intro source
  have hbad : ¬Good (Blank.words "MUL 3".toList) := by
    rw [good_iff_parse]
    rintro ⟨line, hline⟩
    cases hline
  have hsource : ∃ raw ∈ Lines.lines source, ¬Good (Blank.words raw) := ⟨_, by decide, hbad⟩
  obtain ⟨rejection, hrejection, hkeeps, hfollows⟩ := rejected_listing_follows "demo" hsource
  exact ⟨hsource, rejection, hrejection, hfollows (keepGood source) hkeeps⟩

end Microcore.Assembly
