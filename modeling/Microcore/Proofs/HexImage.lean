/-
  Microcore/Proofs/HexImage.lean
  ==============================
  **An image file is never read as another image.**  A word of more than three digits fills its column,
  so that it runs into the word before it.  But a text of columns has as many words as columns only if
  no two of them meet (`words_columns`), and an image is read from 256 words alone (`read?_eq_ok_iff`):
  what is read back at all is what was written.
-/
import Mathlib.Data.List.Forall2
import Microcore.HexImage
import Microcore.Proofs.Text.Numeral

namespace Microcore.HexImage

open Blank (IsWord words)

/-! ### Columns of words -/

section Columns

open Numeral (padStart)

variable {width : Nat} {texts : List (List Char)}

theorem words_padStart (width : Nat) (text rest : List Char) :
    words (padStart width text ++ rest) = words (text ++ rest) := by
  rw [padStart, List.append_assoc]
  exact Blank.words_append_front Blank.isBlank_of_mem_replicate _

/-- Words that are shorter than their columns stay apart. -/
theorem words_columns_of_lt (h : ∀ text ∈ texts, IsWord text ∧ text.length < width) :
    words (texts.flatMap (padStart width)) = texts := by
  induction texts with
  | nil => exact Blank.words_of_none rfl
  | cons text rest ih =>
    have hrest := fun t ht => h t (List.mem_cons_of_mem text ht)
    have hstops : Blank.Stops (rest.flatMap (padStart width)) := by
      cases rest with
      | nil => exact Blank.stops_nil
      | cons next more =>
        have hlt := (hrest next List.mem_cons_self).2
        rw [List.flatMap_cons, padStart, List.append_assoc]
        refine Blank.IsGap.stops ⟨?_, Blank.isBlank_of_mem_replicate⟩ _
        rw [Ne, List.replicate_eq_nil_iff]
        omega
    have hnext := Blank.nextWord?_word (h text List.mem_cons_self).1 hstops
    rw [List.flatMap_cons, words_padStart, Blank.words_of_some hnext, ih hrest]

/-- **Words that meet are lost.**  A text of columns has the words that were written, or fewer. -/
theorem words_columns (h : ∀ text ∈ texts, IsWord text) :
    words (texts.flatMap (padStart width)) = texts ∨
      (words (texts.flatMap (padStart width))).length < texts.length := by
  induction texts with
  | nil => exact .inl (Blank.words_of_none rfl)
  | cons text rest ih =>
    rw [List.flatMap_cons, words_padStart, List.length_cons]
    have hrest := ih fun t ht => h t (List.mem_cons_of_mem text ht)
    have hle : (words (rest.flatMap (padStart width))).length ≤ rest.length := by
      rcases hrest with heq | hlt
      · rw [heq]
      · exact Nat.le_of_lt hlt
    rcases Blank.words_word_append (h text List.mem_cons_self) (rest.flatMap (padStart width))
      with happart | hjoined
    · rw [happart]
      rcases hrest with heq | hlt
      · exact .inl (congrArg _ heq)
      · exact .inr (Nat.succ_lt_succ hlt)
    · right
      omega

/-- The same of lines of columns. -/
theorem words_lines {lines : List (List (List Char))}
    (h : ∀ line ∈ lines, ∀ text ∈ line, IsWord text) :
    lines.flatMap (fun line => words (line.flatMap (padStart width))) = lines.flatten ∨
      (lines.flatMap fun line => words (line.flatMap (padStart width))).length <
        lines.flatten.length := by
  induction lines with
  | nil => exact .inl rfl
  | cons line rest ih =>
    rw [List.flatMap_cons, List.flatten_cons, List.length_append, List.length_append]
    rcases @words_columns width _ (h line List.mem_cons_self) with hline | hline
    · rcases ih fun l hl => h l (List.mem_cons_of_mem line hl) with hrest | hrest
      · rw [hline, hrest]
        exact .inl rfl
      · right
        rw [hline]
        omega
    · right
      rcases ih fun l hl => h l (List.mem_cons_of_mem line hl) with hrest | hrest
      · rw [hrest]
        omega
      · omega

end Columns

/-! ### Writing -/

section Rows

variable {length n : Nat} {ws : List Int}

theorem flatten_rows (h : ws.length = n * length) : (rows length n ws).flatten = ws := by
  induction n generalizing ws with
  | zero =>
    rw [Nat.zero_mul, List.length_eq_zero_iff] at h
    rw [h]
    rfl
  | succ n ih =>
    have hdrop : (ws.drop length).length = n * length := by
      rw [List.length_drop, h, Nat.succ_mul, Nat.add_sub_cancel]
    rw [rows, List.flatten_cons, ih hdrop, List.take_append_drop]

theorem length_rows : (rows length n ws).length = n := by
  induction n generalizing ws with
  | zero => rfl
  | succ n ih => rw [rows, List.length_cons, ih]

theorem length_of_mem_rows (h : ws.length = n * length) {row : List Int}
    (hrow : row ∈ rows length n ws) : row.length = length := by
  induction n generalizing ws with
  | zero => cases hrow
  | succ n ih =>
    rw [Nat.succ_mul] at h
    rcases List.mem_cons.mp hrow with rfl | hrow
    · rw [List.length_take, h]
      omega
    · refine ih ?_ hrow
      rw [List.length_drop, h, Nat.add_sub_cancel]

end Rows

/-- The words of an image file, line by line. -/
def fileWords (ws : List Int) : List (List (List Char)) :=
  (rows wordsPerLine (wordCount / wordsPerLine) ws).map fun row => row.map (Numeral.hexChars 3)

/-- The lines of an image file. -/
def fileLines (ws : List Int) : List (List Char) :=
  (fileWords ws).map fun line => line.flatMap (Numeral.padStart 4)

theorem flatten_fileWords {ws : List Int} (h : ws.length = 256) :
    (fileWords ws).flatten = ws.map (Numeral.hexChars 3) := by
  rw [fileWords, ← List.map_flatten, flatten_rows h]

theorem isWord_of_mem_fileWords {ws : List Int} :
    ∀ line ∈ fileWords ws, ∀ text ∈ line, IsWord text := by
  intro line hline text htext
  obtain ⟨row, -, rfl⟩ := List.mem_map.mp hline
  obtain ⟨word, -, rfl⟩ := List.mem_map.mp htext
  exact Numeral.isWord_hexChars 3 word

theorem write?_eq (ws : List Int) : write? ws =
    if ws.length = 256 then .ok ((fileLines ws).flatMap fun line => line ++ ['\n'])
    else .error (.count ws.length) := by
  simp only [write?, fileLines, fileWords, List.flatMap_map]
  rfl

theorem mem_fileLines {ws : List Int} {line : List Char} (hline : line ∈ fileLines ws) {c : Char}
    (hc : c ∈ line) : c = ' ' ∨ ∃ word, c ∈ Numeral.hexChars 3 word := by
  obtain ⟨texts, htexts, rfl⟩ := List.mem_map.mp hline
  obtain ⟨text, htext, hc⟩ := List.mem_flatMap.mp hc
  rcases List.mem_append.mp hc with hc | hc
  · exact .inl (List.eq_of_mem_replicate hc)
  · obtain ⟨row, -, rfl⟩ := List.mem_map.mp htexts
    obtain ⟨word, -, rfl⟩ := List.mem_map.mp htext
    exact .inr ⟨word, hc⟩

theorem feed_not_mem_fileLines {ws : List Int} : ∀ line ∈ fileLines ws, '\n' ∉ line := by
  intro line hline hmem
  rcases mem_fileLines hline hmem with hfeed | ⟨word, hfeed⟩
  · cases hfeed
  · cases (Numeral.isWord_hexChars 3 word).solid _ hfeed

section Write

variable {ws : List Int} {text : List Char} (h : write? ws = .ok text)

include h

theorem length_of_write? : ws.length = 256 := by
  rw [write?_eq] at h
  by_cases hlength : ws.length = 256
  · exact hlength
  · rw [if_neg hlength] at h
    cases h

theorem text_of_write? : text = (fileLines ws).flatMap fun line => line ++ ['\n'] := by
  have hlength := length_of_write? h
  rw [write?_eq, if_pos hlength] at h
  exact (Except.ok.inj h).symm

/-- An image file is in ASCII, and its lines end in line feeds alone. -/
theorem mem_of_write? {c : Char} (hc : c ∈ text) : c.toNat < 128 ∧ c ≠ '\r' := by
  rw [text_of_write? h] at hc
  obtain ⟨line, hline, hc⟩ := List.mem_flatMap.mp hc
  rcases List.mem_append.mp hc with hc | hc
  · rcases mem_fileLines hline hc with rfl | ⟨word, hc⟩
    · decide
    · refine ⟨Numeral.toNat_lt_of_mem_hexChars c hc, ?_⟩
      rintro rfl
      cases (Numeral.isWord_hexChars 3 word).solid _ hc
  · rw [List.mem_singleton.mp hc]
    decide

theorem lines_of_write? : Lines.lines text = fileLines ws := by
  rw [text_of_write? h, Lines.lines_flatMap feed_not_mem_fileLines]

end Write

/-- A text of so many lines of exactly so many characters, each with a line feed behind it. -/
def IsGrid (count width : Nat) (text : List Char) : Prop :=
  ∃ lines : List (List Char), text = lines.flatMap (fun line => line ++ ['\n']) ∧
    lines.length = count ∧ ∀ line ∈ lines, line.length = width ∧ '\n' ∉ line

theorem length_hexChars_of_range {word : Int} (h : 0 ≤ word ∧ word ≤ 0xFFF) :
    (Numeral.hexChars 3 word).length = 3 := by
  obtain ⟨n, rfl⟩ := Int.eq_ofNat_of_zero_le h.1
  exact Numeral.length_hexChars (by decide) (by omega)

section Range

variable {ws : List Int} (hlength : ws.length = 256) (hrange : ∀ w ∈ ws, 0 ≤ w ∧ w ≤ 0xFFF)

include hlength hrange

theorem length_of_mem_fileWords : ∀ line ∈ fileWords ws, ∀ text ∈ line, text.length = 3 := by
  intro line hline text htext
  have hmem : text ∈ (fileWords ws).flatten := List.mem_flatten_of_mem hline htext
  rw [flatten_fileWords hlength] at hmem
  obtain ⟨word, hword, rfl⟩ := List.mem_map.mp hmem
  exact length_hexChars_of_range (hrange word hword)

theorem length_of_mem_fileLines : ∀ line ∈ fileLines ws, line.length = 64 := by
  intro text htext
  obtain ⟨line, hline, rfl⟩ := List.mem_map.mp htext
  have hcolumn : ∀ word ∈ line, (Numeral.padStart 4 word).length = 4 := by
    intro word hword
    rw [Numeral.length_padStart, length_of_mem_fileWords hlength hrange line hline word hword]
    rfl
  have hcount : line.length = 16 := by
    obtain ⟨row, hrow, rfl⟩ := List.mem_map.mp hline
    rw [List.length_map, length_of_mem_rows (n := 16) hlength hrow]
    rfl
  rw [List.length_flatMap, List.map_congr_left hcolumn, List.map_const', List.sum_replicate_nat, hcount]

end Range

/-! ### Reading -/

section Except

variable {α β ε : Type}

theorem bind_eq_ok_iff {x : Except ε α} {f : α → Except ε β} {b : β} :
    x >>= f = .ok b ↔ ∃ a, x = .ok a ∧ f a = .ok b := by
  cases x with
  | ok a =>
    show f a = .ok b ↔ _
    simp
  | error e =>
    show Except.error e = .ok b ↔ _
    simp

theorem mapM_eq_ok_iff {f : α → Except ε β} {xs : List α} {ys : List β} :
    xs.mapM f = .ok ys ↔ List.Forall₂ (fun x y => f x = .ok y) xs ys := by
  induction xs generalizing ys with
  | nil =>
    rw [List.forall₂_nil_left_iff]
    exact ⟨fun h => (Except.ok.inj h).symm, fun h => h ▸ rfl⟩
  | cons x xs ih =>
    rw [List.mapM_cons, List.forall₂_cons_left_iff]
    simp only [bind_eq_ok_iff, ih]
    constructor
    · rintro ⟨y, hy, rest, hrest, hpure⟩
      cases hpure
      exact ⟨y, rest, hy, hrest, rfl⟩
    · rintro ⟨y, rest, hy, hrest, rfl⟩
      exact ⟨y, hy, rest, hrest, rfl⟩

end Except

theorem word?_eq_ok_iff {line : Nat} {token : List Char} {w : Word} :
    word? line token = .ok w ↔ Numeral.read? 16 token = some (unsigned w) := by
  have hw := unsigned_nonneg w
  have hlt := unsigned_word_lt w
  rw [word?]
  cases hread : Numeral.read? 16 token with
  | none => simp
  | some value =>
    rw [Option.some.injEq]
    by_cases hrange : 0 ≤ value ∧ value < 4096
    · simp only [if_pos hrange, Except.ok.injEq]
      constructor
      · rintro rfl
        rw [unsigned_word_ofInt, Int.emod_eq_of_lt hrange.1 hrange.2]
      · rintro rfl
        exact unsigned_inj.mp ((unsigned_word_ofInt _).trans (Int.emod_eq_of_lt hw hlt))
    · simp only [if_neg hrange, reduceCtorEq, false_iff]
      rintro rfl
      exact hrange ⟨hw, hlt⟩

/-- Texts are read as words. -/
def Reads (texts : List (List Char)) (ws : List Word) : Prop :=
  List.Forall₂ (fun text w => Numeral.read? 16 text = some (unsigned w)) texts ws

theorem words?_eq_ok_iff {number : Nat} {lines : List (List Char)} {ws : List Word} :
    words? number lines = .ok ws ↔ Reads (lines.flatMap words) ws := by
  have hline (number : Nat) (line : List Char) (ws : List Word) :
      lineWords? number line = .ok ws ↔ Reads (words line) ws := by
    simp only [lineWords?, mapM_eq_ok_iff, word?_eq_ok_iff, Reads]
  induction lines generalizing number ws with
  | nil =>
    rw [List.flatMap_nil, Reads, List.forall₂_nil_left_iff]
    exact ⟨fun h => (Except.ok.inj h).symm, fun h => h ▸ rfl⟩
  | cons line rest ih =>
    rw [words?, List.flatMap_cons]
    simp only [bind_eq_ok_iff, hline, ih]
    constructor
    · rintro ⟨first, hfirst, more, hmore, hpure⟩
      cases hpure
      exact List.rel_append hfirst hmore
    · intro h
      have hfirst := List.forall₂_take (words line).length h
      have hmore := List.forall₂_drop (words line).length h
      rw [List.take_left] at hfirst
      rw [List.drop_left] at hmore
      exact ⟨_, hfirst, _, hmore, congrArg _ (List.take_append_drop _ ws)⟩

/-- **An image is read from 256 words,** in whatever lines they stand. -/
theorem read?_eq_ok_iff {lines : List (List Char)} {image : Vector Word 256} :
    read? lines = .ok image ↔ Reads (lines.flatMap words) image.toList := by
  rw [read?]
  simp only [bind_eq_ok_iff, words?_eq_ok_iff]
  constructor
  · rintro ⟨ws, hws, hcount⟩
    split at hcount
    · cases hcount
      exact hws
    · cases hcount
  · intro h
    refine ⟨image.toList, h, ?_⟩
    rw [dif_pos image.length_toList]
    rfl

/-! ### Reading what was written -/

section ReadBack

variable {ws : List Int} {text : List Char} (h : write? ws = .ok text)

include h

theorem words_of_write? : (Lines.lines text).flatMap words =
    (fileWords ws).flatMap fun line => words (line.flatMap (Numeral.padStart 4)) := by
  rw [lines_of_write? h, fileLines, List.flatMap_map]

/-- **What is read back is what was written.** -/
theorem eq_of_read? {image : Vector Word 256} (hread : read? (Lines.lines text) = .ok image) :
    image.toList.map unsigned = ws := by
  have hlength := length_of_write? h
  have hreads := read?_eq_ok_iff.mp hread
  rw [words_of_write? h] at hreads
  rcases @words_lines 4 _ (@isWord_of_mem_fileWords ws) with hwords | hfewer
  · rw [hwords, flatten_fileWords hlength, Reads, List.forall₂_map_left_iff] at hreads
    simp only [Numeral.read?_hexChars, Option.some.injEq] at hreads
    rw [← List.forall₂_map_right_iff (R := Eq), List.forall₂_eq_eq_eq] at hreads
    exact hreads.symm
  · rw [hreads.length_eq, image.length_toList, flatten_fileWords hlength, List.length_map,
      hlength] at hfewer
    exact absurd hfewer (Nat.lt_irrefl 256)

/-- Words in range are read back. -/
theorem exists_read? (hrange : ∀ w ∈ ws, 0 ≤ w ∧ w ≤ 0xFFF) :
    ∃ image, read? (Lines.lines text) = .ok image := by
  have hlength := length_of_write? h
  have hwords : (fileWords ws).flatMap (fun line => words (line.flatMap (Numeral.padStart 4))) =
      ws.map (Numeral.hexChars 3) := by
    rw [← flatten_fileWords hlength, ← List.flatMap_id]
    refine List.flatMap_congr ?_
    intro line hline
    apply words_columns_of_lt
    intro word hword
    refine ⟨isWord_of_mem_fileWords line hline word hword, ?_⟩
    rw [length_of_mem_fileWords hlength hrange line hline word hword]
    decide
  have hreads : Reads (ws.map (Numeral.hexChars 3)) (ws.map Word.ofInt) := by
    rw [Reads, List.forall₂_map_left_iff, List.forall₂_map_right_iff, List.forall₂_same]
    intro w hw
    have hw := hrange w hw
    rw [Numeral.read?_hexChars, unsigned_word_ofInt, Int.emod_eq_of_lt hw.1 (by omega)]
  refine ⟨⟨(ws.map Word.ofInt).toArray, ?_⟩, ?_⟩
  · rw [List.size_toArray, List.length_map, hlength]
  · rw [read?_eq_ok_iff, words_of_write? h, hwords]
    exact hreads

end ReadBack

theorem exists_write? (words : Vector Word 256) :
    ∃ text, write? (words.toList.map unsigned) = .ok text := by
  have hlength : (words.toList.map unsigned).length = 256 := by
    rw [List.length_map, Vector.length_toList]
  rw [write?_eq, if_pos hlength]
  exact ⟨_, rfl⟩

/-- The words of an image are read back. -/
theorem read?_of_write? {words : Vector Word 256} {text : List Char}
    (h : write? (words.toList.map unsigned) = .ok text) : read? (Lines.lines text) = .ok words := by
  obtain ⟨image, hread⟩ := exists_read? h (bounded_map_unsigned words.toList)
  have hnumbers := eq_of_read? h hread
  rw [List.map_inj_right fun _ _ => unsigned_inj.mp] at hnumbers
  rw [hread, Vector.toList_inj.mp hnumbers]

/-- **An image file is never read as another image.**  Lists of 256 numbers are written.  What is written
    is read back as it is if all numbers are words of twelve bits, and is no image otherwise; the file
    of such words has sixteen lines of 64 characters. -/
theorem image_file_read_back (ws : List Int) :
    ((∃ fault, write? ws = .error fault) ↔ ws.length ≠ 256) ∧
      ∀ text, write? ws = .ok text →
        ((∀ w ∈ ws, 0 ≤ w ∧ w ≤ 0xFFF) → IsGrid 16 64 text ∧
          ∃ image, read? (Lines.lines text) = .ok image ∧ image.toList.map unsigned = ws) ∧
        ((∃ w ∈ ws, ¬(0 ≤ w ∧ w ≤ 0xFFF)) → ∃ fault, read? (Lines.lines text) = .error fault) := by
  constructor
  · rw [write?_eq]
    split
    · next hlength => simp [hlength]
    · next hlength => simp [hlength]
  · intro text h
    constructor
    · intro hrange
      obtain ⟨image, hread⟩ := exists_read? h hrange
      refine ⟨⟨fileLines ws, text_of_write? h, ?_, ?_⟩, image, hread, eq_of_read? h hread⟩
      · rw [fileLines, fileWords, List.length_map, List.length_map, length_rows]
        rfl
      · intro line hline
        exact ⟨length_of_mem_fileLines (length_of_write? h) hrange line hline,
          feed_not_mem_fileLines line hline⟩
    · rintro ⟨w, hw, hwide⟩
      cases hread : read? (Lines.lines text) with
      | error fault => exact ⟨fault, rfl⟩
      | ok image =>
        -- a word that was read back would be in range
        rw [← eq_of_read? h hread] at hw
        obtain ⟨word, -, rfl⟩ := List.mem_map.mp hw
        have hlt := unsigned_word_lt word
        exact absurd ⟨unsigned_nonneg word, by omega⟩ hwide

end Microcore.HexImage
