/-
  Microcore/Proofs/Assembly/Disassembly.lean
  ==========================================
  **Assembling undoes disassembling.**  A disassembled word is read as the instruction and the operand
  that it was made of (`parse_disassemble`), whichever way its operand is written.  Lines that are all
  instructions are placed one after the other, so a source of disassembled words is assembled to these
  words, from address zero on and again from zero after the last address.
-/
import Microcore.Proofs.Assembly.Relisting

namespace Microcore

open Assembly
open Blank (IsWord IsGap)

/-! ### One word -/

theorem Operand.mem_names {operand : Byte} {name : List Char} (h : name? operand = some name) :
    (operand, name) ∈ names := by
  obtain ⟨before, after, hnames, -⟩ := List.lookup_eq_some_iff.mp h
  rw [hnames]
  exact List.mem_append_right _ List.mem_cons_self

namespace Instruction

theorem operandText_eq (i : Instruction) (operand : Byte) :
    (i.kind = .register ∧ (operand, i.operandText operand) ∈ Operand.names) ∨
      i.operandText operand = argumentWord i.kind (.literal operand) := by
  rw [operandText, argumentWord]
  cases hkind : i.kind with
  | register =>
    cases hname : Operand.name? operand with
    | some name => exact .inl ⟨rfl, Operand.mem_names hname⟩
    | none => exact .inr rfl
  | immediate => exact .inr rfl
  | label => exact .inr rfl

theorem isWord_operandText (i : Instruction) (operand : Byte) : IsWord (i.operandText operand) := by
  rcases i.operandText_eq operand with ⟨-, hmem⟩ | htext
  · have hnames : ∀ entry ∈ Operand.names,
        entry.2 ≠ [] ∧ entry.2.all (fun c => !Blank.isBlank c) = true := by decide
    obtain ⟨hne, hsolid⟩ := hnames _ hmem
    exact .of_all hne hsolid
  · rw [htext]
    exact isWord_argumentWord i.kind _

/-- **A written operand is read back.** -/
theorem argument?_operandText (i : Instruction) (operand : Byte) :
    argument? i.kind (i.operandText operand) = .ok (.literal operand) := by
  rcases i.operandText_eq operand with ⟨hkind, hmem⟩ | htext
  · have hnames : ∀ entry ∈ Operand.names,
        argument? .register entry.2 = .ok (.literal entry.1) := by decide
    rw [hkind]
    exact hnames _ hmem
  · rw [htext]
    exact argument?_argumentWord trivial

end Instruction

namespace Word

/-- The statement that a word is disassembled to. -/
def statement (w : Word) : Statement := .instruction w.instruction (.literal w.operand)

theorem fits_statement (w : Word) : w.statement.Fits :=
  ⟨Instruction.ofCode_mem_standard w.code, trivial⟩

/-- **A disassembled word is read as the word.** -/
theorem parse_disassemble (w : Word) :
    Line.parse w.disassemble = .ok { statement := some w.statement } := by
  have hgap : IsGap [' '] := ⟨List.cons_ne_nil _ _, Blank.isBlank_of_mem_replicate (n := 1)⟩
  have hword := Blank.nextWord?_word (isWord_statementText w.fits_statement)
    (hgap.stops (w.instruction.operandText w.operand))
  have hoperand := Blank.nextWord?_spaced hgap (w.instruction.isWord_operandText w.operand)
    Blank.stops_nil
  rw [List.append_nil] at hoperand
  have hstatement : w.statement.keyword.statement? (w.instruction.operandText w.operand) =
      .ok w.statement := by
    show (argument? _ _).map _ = _
    rw [Instruction.argument?_operandText]
    rfl
  apply parse_of_parseBody
  exact parseBody_of_keyword hword (keyword?_statementText w.fits_statement) hoperand hstatement

theorem isLine_disassemble (w : Word) : Lines.IsLine w.disassemble := by
  have hmnemonic := Lines.IsLine.of_isWord (isWord_statementText w.fits_statement)
  have hoperand := w.instruction.isWord_operandText w.operand
  show Lines.IsLine ((Listing.statementText w.statement).1 ++
    ([' '] ++ w.instruction.operandText w.operand))
  rw [← List.append_assoc]
  refine (Lines.IsLine.of_isWord hoperand).append ?_ hoperand.ne_nil
  intro hmem
  rcases List.mem_append.mp hmem with hmem | hmem
  · exact hmnemonic.feed hmem
  · cases List.mem_singleton.mp hmem

end Word

namespace Assembly

/-! ### Many words -/

/-- The lines of a text are words, each disassembled on a line of its own. -/
def Disassembles (source : List Char) (ws : List Int) : Prop :=
  Lines.lines source = ws.map fun w => (Word.ofInt w).disassemble

/-- A text of words, each disassembled on a line of its own. -/
def disassembly (ws : List Int) : List Char :=
  ws.flatMap fun w => (Word.ofInt w).disassemble ++ ['\n']

theorem disassembles_disassembly (ws : List Int) : Disassembles (disassembly ws) ws := by
  have hfeed : ∀ text ∈ ws.map fun w => (Word.ofInt w).disassemble, '\n' ∉ text := by
    intro text htext
    obtain ⟨w, -, rfl⟩ := List.mem_map.mp htext
    exact (Word.ofInt w).isLine_disassemble.feed
  have hlines := Lines.lines_flatMap hfeed
  rwa [List.flatMap_map] at hlines

/-- The lines that words are disassembled to. -/
def wordLines (ws : List Int) : List Line :=
  ws.map fun w => { statement := some (Word.ofInt w).statement }

theorem Disassembles.readsAs {source : List Char} {ws : List Int} (h : Disassembles source ws) :
    ReadsAs source (wordLines ws) := by
  rw [ReadsAs, h, wordLines, List.map_map, List.map_map]
  refine List.map_congr_left ?_
  intro w _
  show Line.parse (Lines.chomp (Word.ofInt w).disassemble) = _
  rw [Lines.chomp_of_isLine (Word.isLine_disassemble _), Word.parse_disassemble]
  rfl

section Words

variable {ws : List Int} {i : Nat}

theorem getD_wordLines (hi : i < ws.length) :
    (wordLines ws).getD i {} = { statement := some (Word.ofInt ws[i]).statement } := by
  rw [wordLines, List.getD_eq_getElem?_getD, List.getElem?_map, List.getElem?_eq_getElem hi]
  rfl

/-- Words are placed one after the other, and again from zero after the last address. -/
theorem toNat_counterAt_wordLines (hi : i ≤ ws.length) :
    (counterAt (wordLines ws) i).toNat = i % 256 := by
  induction i with
  | zero => rfl
  | succ i ih =>
    rw [counterAt_succ, getD_wordLines hi]
    show (counterAt (wordLines ws) i + 1).toNat = (i + 1) % 256
    rw [BitVec.toNat_add, ih (Nat.le_of_lt hi)]
    exact Nat.mod_add_mod i 256 1

theorem word?_placedAt_wordLines (table : Labels) (hi : i < ws.length) :
    (placedAt (wordLines ws) i).word? table = some (Word.ofInt ws[i]) := by
  simp only [placedAt, Placed.word?, getD_wordLines hi]
  exact congrArg some (Word.encode_instruction _)

theorem location_placedAt_wordLines (hi : i < ws.length) :
    (placedAt (wordLines ws) i).location.toNat = i % 256 := by
  simp only [placedAt, getD_wordLines hi]
  exact toNat_counterAt_wordLines (Nat.le_of_lt hi)

end Words

/-- An image without a diagnostic that holds words, each at the address of its place, or of its place
    less a multiple of 256: where several words meet it holds the last one, and zero where none is. -/
structure Image.Holds (image : Image) (ws : List Int) : Prop where
  warnings : image.warnings = []
  errors : image.errors = []
  length : image.numbers.length = 256
  word (i : Nat) (hi : i < ws.length) : (∀ j, i < j → j < ws.length → j % 256 ≠ i % 256) →
    image.numbers[i % 256]? = some (ws[i] % 4096)
  blank (a : Nat) : a < 256 → (∀ i < ws.length, i % 256 ≠ a) → image.numbers[a]? = some 0

section Words

variable {ws : List Int} (table : Labels)

theorem getElem_emit_wordLines {i : Nat} (hi : i < ws.length)
    (hlast : ∀ j, i < j → j < ws.length → j % 256 ≠ i % 256) :
    (emit table (Vector.replicate 256 0) (place 0 (wordLines ws)))[i % 256] = Word.ofInt ws[i] := by
  have hlength : (wordLines ws).length = ws.length := List.length_map _
  have hfound : lastBelow? (fun j => ((placedAt (wordLines ws) j).word? table).isSome &&
      (placedAt (wordLines ws) j).location.toNat = i % 256) ws.length = some i := by
    refine lastBelow?_eq_some hi ?_ ?_
    · simp [word?_placedAt_wordLines table hi, location_placedAt_wordLines hi]
    · intro j hj hjn
      simp [location_placedAt_wordLines hjn, hlast j hj hjn]
  simp only [place_eq_map, getElem_emit, hlength, hfound, Option.bind_some,
    word?_placedAt_wordLines table hi, Option.getD_some]

theorem getElem_emit_wordLines_of_ne {a : Nat} (ha : a < 256) (hne : ∀ i < ws.length, i % 256 ≠ a) :
    (emit table (Vector.replicate 256 0) (place 0 (wordLines ws)))[a] = 0 := by
  have hlength : (wordLines ws).length = ws.length := List.length_map _
  have hnone : lastBelow? (fun j => ((placedAt (wordLines ws) j).word? table).isSome &&
      (placedAt (wordLines ws) j).location.toNat = a) ws.length = none := by
    apply lastBelow?_eq_none
    intro j hj
    simp [location_placedAt_wordLines hj, hne j hj]
  simp only [place_eq_map, getElem_emit, hlength, hnone, Option.bind_none, Option.getD_none,
    Vector.getElem_replicate]

end Words

theorem exists_line_of_mem_place {ws : List Int} {p : Placed}
    (h : p ∈ place 0 (wordLines ws)) : ∃ w : Word, p.line = { statement := some w.statement } := by
  have hline : p.line ∈ wordLines ws := map_line_place 0 (wordLines ws) ▸ List.mem_map_of_mem h
  obtain ⟨w, -, hw⟩ := List.mem_map.mp hline
  exact ⟨Word.ofInt w, hw.symm⟩

theorem Image.holds_ofLines (name : String) (ws : List Int) :
    (Image.ofLines name (wordLines ws)).Holds ws where
  warnings := by
    have hlabels : (place 0 (wordLines ws)).filterMap (fun p => p.line.label) = [] := by
      rw [List.filterMap_eq_nil_iff]
      intro p hp
      obtain ⟨w, hw⟩ := exists_line_of_mem_place hp
      rw [hw]
    show (redefined [] _).map _ = []
    rw [map_fst_definitions, hlabels]
    rfl
  errors := by
    rw [Image.ofLines, List.map_eq_nil_iff, List.filterMap_eq_nil_iff]
    intro p hp
    obtain ⟨w, hw⟩ := exists_line_of_mem_place hp
    rw [Placed.undefined?, hw]
    rfl
  length := Image.length_numbers _
  word i hi hlast := by
    rw [Image.getElem?_numbers _ _ (Nat.mod_lt i (by decide))]
    show some (unsigned (emit _ _ (place 0 (wordLines ws)))[i % 256]) = _
    rw [getElem_emit_wordLines _ hi hlast, unsigned_word_ofInt]
  blank a ha hne := by
    rw [Image.getElem?_numbers _ a ha]
    show some (unsigned (emit _ _ (place 0 (wordLines ws)))[a]) = _
    rw [getElem_emit_wordLines_of_ne _ ha hne]
    rfl

/-- 256 words fill an image. -/
theorem Image.Holds.numbers_eq {image : Image} {ws : List Int} (h : image.Holds ws)
    (hlength : ws.length = 256) (hrange : ∀ w ∈ ws, 0 ≤ w ∧ w ≤ 0xFFF) : image.numbers = ws := by
  apply List.ext_getElem?
  intro i
  by_cases hi : i < 256
  · have hiws : i < ws.length := by omega
    have hword := h.word i hiws (by omega)
    have hw := hrange ws[i] (List.getElem_mem hiws)
    rw [Nat.mod_eq_of_lt hi, Int.emod_eq_of_lt hw.1 (by omega)] at hword
    rw [hword, List.getElem?_eq_getElem hiws]
  · rw [List.getElem?_eq_none (by rw [h.length]; omega), List.getElem?_eq_none (by omega)]

/-- **Assembling undoes disassembling.**  A source whose lines are disassembled words has an image,
    without a warning or an error, that holds these words; so 256 words are the image of their
    disassembly. -/
theorem assemble_disassembly (name : String) (ws : List Int) :
    Disassembles (disassembly ws) ws ∧ ∀ source, Disassembles source ws →
      ∃ image, assemble name source = .ok image ∧ image.Holds ws ∧
        (ws.length = 256 → (∀ w ∈ ws, 0 ≤ w ∧ w ≤ 0xFFF) → image.numbers = ws) := by
  refine ⟨disassembles_disassembly ws, ?_⟩
  intro source h
  have hholds := Image.holds_ofLines name ws
  exact ⟨_, assemble_of_readsAs h.readsAs name, hholds, hholds.numbers_eq⟩

end Assembly

end Microcore
