/-
  Microcore/Proofs/Text/Words.lean
  ================================
  **Words and the white space behind them.**  The words of a text are read one after the other
  (`words_of_some`), and white space at its end adds none.  So the words of a line do not depend on
  what ends the line (`words_chomp`).  A word is found behind any white space, if what follows it does
  not continue it (`nextWord?_spaced`).
-/
import Microcore.Proofs.Text.Lines
import Microcore.Text.Blank

namespace Microcore

namespace Blank

theorem words_of_none {text : List Char} (h : nextWord? text = none) : words text = [] := by
  rw [words]
  split
  · rfl
  · next hsome =>
    rw [h] at hsome
    cases hsome

theorem words_of_some {text word rest : List Char} (h : nextWord? text = some (word, rest)) :
    words text = word :: words rest := by
  rw [words]
  split
  · next hnone =>
    rw [h] at hnone
    cases hnone
  · next hsome =>
    rw [h] at hsome
    cases hsome
    rfl

section Tail

variable {tail : List Char} (h : ∀ c ∈ tail, isBlank c = true)

include h

theorem dropWhile_isBlank_tail : tail.dropWhile isBlank = [] := by
  induction tail with
  | nil => rfl
  | cons c rest ih =>
    rw [List.dropWhile_cons_of_pos (h c List.mem_cons_self)]
    exact ih fun d hd => h d (List.mem_cons_of_mem c hd)

theorem takeWhile_append_tail (text : List Char) :
    (text ++ tail).takeWhile (fun c => !isBlank c) = text.takeWhile (fun c => !isBlank c) := by
  induction text with
  | nil =>
    cases tail with
    | nil => rfl
    | cons c rest => simp [h c List.mem_cons_self]
  | cons c rest ih =>
    cases hc : isBlank c with
    | true => simp [hc]
    | false => simp [hc, ih]

theorem dropWhile_append_tail (text : List Char) :
    (text ++ tail).dropWhile (fun c => !isBlank c) =
      text.dropWhile (fun c => !isBlank c) ++ tail := by
  induction text with
  | nil =>
    cases tail with
    | nil => rfl
    | cons c rest => simp [h c List.mem_cons_self]
  | cons c rest ih =>
    cases hc : isBlank c with
    | true => simp [hc]
    | false => simp [hc, ih]

/-- White space at the end of a text stays behind its last word. -/
theorem nextWord?_append_tail (text : List Char) : nextWord? (text ++ tail) =
    (nextWord? text).map fun found => (found.1, found.2 ++ tail) := by
  simp only [nextWord?, skip, List.dropWhile_append]
  cases hskip : text.dropWhile isBlank with
  | nil =>
    rw [dropWhile_isBlank_tail h]
    rfl
  | cons c rest =>
    show some (c :: (rest ++ tail).takeWhile _, (rest ++ tail).dropWhile _) = _
    rw [takeWhile_append_tail h, dropWhile_append_tail h]
    rfl

theorem words_append_tail (text : List Char) : words (text ++ tail) = words text := by
  -- by induction on the words of the text, each of which leaves a shorter rest
  induction text using words.induct with
  | case1 text hnone =>
    have hnone' : nextWord? (text ++ tail) = none := by
      rw [nextWord?_append_tail h, hnone]
      rfl
    rw [words_of_none hnone, words_of_none hnone']
  | case2 text word rest hsome _ ih =>
    have hsome' : nextWord? (text ++ tail) = some (word, rest ++ tail) := by
      rw [nextWord?_append_tail h, hsome]
      rfl
    rw [words_of_some hsome, words_of_some hsome', ih]

end Tail

/-! ### A word between white space -/

/-- A text of at least one character and without white space. -/
structure IsWord (word : List Char) : Prop where
  ne_nil : word ≠ []
  solid : ∀ c ∈ word, isBlank c = false

theorem IsWord.of_all {word : List Char} (hne : word ≠ [])
    (h : word.all (fun c => !isBlank c) = true) : IsWord word := by
  refine ⟨hne, fun c hc => ?_⟩
  have hc := List.all_eq_true.mp h c hc
  rwa [Bool.not_eq_true'] at hc

/-- A text of at least one character, all of them white space. -/
structure IsGap (gap : List Char) : Prop where
  ne_nil : gap ≠ []
  blank : ∀ c ∈ gap, isBlank c = true

/-- A text in front of which a word ends. -/
def Stops (rest : List Char) : Prop := ∀ c ∈ rest.head?, isBlank c = true

theorem stops_nil : Stops [] := fun _ hc => by cases hc

theorem isBlank_of_mem_replicate {n : Nat} : ∀ c ∈ List.replicate n ' ', isBlank c = true := by
  intro c hc
  rw [List.eq_of_mem_replicate hc]
  rfl

section Gap

variable {gap : List Char} (hgap : IsGap gap)

include hgap

theorem IsGap.stops (rest : List Char) : Stops (gap ++ rest) := by
  obtain ⟨hne, hblank⟩ := hgap
  cases gap with
  | nil => exact absurd rfl hne
  | cons c more =>
    intro d hd
    cases hd
    exact hblank c List.mem_cons_self

theorem IsGap.append_replicate (n : Nat) : IsGap (gap ++ List.replicate n ' ') := by
  refine ⟨List.append_ne_nil_of_left_ne_nil hgap.ne_nil _, ?_⟩
  intro c hc
  rcases List.mem_append.mp hc with hmem | hmem
  · exact hgap.blank c hmem
  · exact isBlank_of_mem_replicate c hmem

theorem skip_append (rest : List Char) : skip isBlank (gap ++ rest) = skip isBlank rest :=
  List.dropWhile_append_of_pos hgap.blank

end Gap

theorem nextWord?_word {word rest : List Char} (hword : IsWord word) (hrest : Stops rest) :
    nextWord? (word ++ rest) = some (word, rest) := by
  obtain ⟨hne, hsolid⟩ := hword
  have hbreak : rest.takeWhile (fun c => !isBlank c) = [] ∧
      rest.dropWhile (fun c => !isBlank c) = rest := by
    cases rest with
    | nil => exact ⟨rfl, rfl⟩
    | cons c more =>
      have hc : ¬(!isBlank c) = true := by rw [hrest c rfl]; decide
      exact ⟨List.takeWhile_cons_of_neg hc, List.dropWhile_cons_of_neg hc⟩
  cases word with
  | nil => exact absurd rfl hne
  | cons c tail =>
    have hhead : ¬isBlank c = true := by
      rw [hsolid c List.mem_cons_self]
      decide
    have htail : ∀ d ∈ tail, (!isBlank d) = true := by
      intro d hd
      rw [hsolid d (List.mem_cons_of_mem c hd)]
      rfl
    rw [nextWord?, skip, List.cons_append, List.dropWhile_cons_of_neg hhead]
    simp only [List.takeWhile_append_of_pos htail, List.dropWhile_append_of_pos htail, hbreak,
      List.append_nil]

/-- **A word is found** between white space and what does not continue it. -/
theorem nextWord?_spaced {gap word rest : List Char} (hgap : IsGap gap) (hword : IsWord word)
    (hrest : Stops rest) : nextWord? (gap ++ (word ++ rest)) = some (word, rest) := by
  rw [nextWord?, skip_append hgap, ← nextWord?, nextWord?_word hword hrest]

/-- What is found as a word is one. -/
theorem isWord_of_nextWord? {text word rest : List Char} (h : nextWord? text = some (word, rest)) :
    IsWord word := by
  rw [nextWord?] at h
  cases hskip : skip isBlank text with
  | nil =>
    rw [hskip] at h
    cases h
  | cons c tail =>
    rw [hskip] at h
    cases h
    have hc := List.head?_dropWhile_not isBlank text
    rw [skip] at hskip
    rw [hskip] at hc
    refine ⟨List.cons_ne_nil _ _, ?_⟩
    intro d hd
    rcases List.mem_cons.mp hd with rfl | hmem
    · exact hc
    · have hsolid := List.all_eq_true.mp List.all_takeWhile d hmem
      rwa [Bool.not_eq_true'] at hsolid

theorem nextWord?_suffix {text word rest : List Char} (h : nextWord? text = some (word, rest)) :
    rest <:+ text := by
  rw [nextWord?] at h
  cases hskip : skip isBlank text with
  | nil =>
    rw [hskip] at h
    cases h
  | cons c tail =>
    rw [hskip] at h
    cases h
    have hsuffix : c :: tail <:+ text := hskip ▸ List.dropWhile_suffix _
    exact ((List.dropWhile_suffix _).trans (List.suffix_cons c tail)).trans hsuffix

theorem nextWord?_skip (text : List Char) : nextWord? (skip isBlank text) = nextWord? text := by
  simp only [nextWord?, skip, List.dropWhile_idempotent]

/-- White space in front of a text adds no words to it. -/
theorem words_append_front {front : List Char} (h : ∀ c ∈ front, isBlank c = true)
    (text : List Char) : words (front ++ text) = words text := by
  have hnext : nextWord? (front ++ text) = nextWord? text := by
    simp only [nextWord?, skip, List.dropWhile_append_of_pos h]
  cases hfound : nextWord? text with
  | none => rw [words_of_none hfound, words_of_none (hnext.trans hfound)]
  | some found => rw [words_of_some hfound, words_of_some (hnext.trans hfound)]

/-- A word in front of a text is one more word, or becomes part of the first word of the text. -/
theorem words_word_append {word : List Char} (hword : IsWord word) (rest : List Char) :
    words (word ++ rest) = word :: words rest ∨
      (words (word ++ rest)).length = (words rest).length := by
  by_cases hstops : Stops rest
  · exact .inl (words_of_some (nextWord?_word hword hstops))
  · right
    let first := rest.takeWhile fun c => !isBlank c
    let tail := rest.dropWhile fun c => !isBlank c
    have hrest : rest = first ++ tail := List.takeWhile_append_dropWhile.symm
    have hsolid : ∀ c ∈ first, isBlank c = false := by
      intro c hc
      have hc := List.all_eq_true.mp List.all_takeWhile c hc
      rwa [Bool.not_eq_true'] at hc
    have htail : Stops tail := by
      intro c hc
      have hlast := List.head?_dropWhile_not (fun c => !isBlank c) rest
      rw [Option.mem_def.mp hc] at hlast
      simpa using hlast
    have hfirst : IsWord first := by
      refine ⟨?_, hsolid⟩
      intro hnil
      apply hstops
      rwa [hrest, hnil]
    have hjoined : IsWord (word ++ first) := by
      refine ⟨List.append_ne_nil_of_left_ne_nil hword.ne_nil _, ?_⟩
      intro c hc
      rcases List.mem_append.mp hc with hc | hc
      · exact hword.solid c hc
      · exact hsolid c hc
    rw [hrest, ← List.append_assoc, words_of_some (nextWord?_word hjoined htail),
      words_of_some (nextWord?_word hfirst htail), List.length_cons, List.length_cons]

end Blank

namespace Lines

theorem isBlank_of_isLineEnd {c : Char} (h : isLineEnd c = true) : Blank.isBlank c = true := by
  simp only [isLineEnd, Bool.or_eq_true, decide_eq_true_eq] at h
  rcases h with rfl | rfl <;> decide

/-- A word is a line. -/
theorem IsLine.of_isWord {word : List Char} (h : Blank.IsWord word) : IsLine word := by
  constructor
  · intro hmem
    have hfeed := h.solid _ hmem
    cases hfeed
  · intro c hc
    rw [← Bool.not_eq_true]
    intro hend
    have hblank := h.solid c (List.mem_of_getLast? hc)
    rw [isBlank_of_isLineEnd hend] at hblank
    cases hblank

theorem chomp_append (line : List Char) :
    chomp line ++ (line.reverse.takeWhile isLineEnd).reverse = line := by
  rw [chomp, ← List.reverse_append, List.takeWhile_append_dropWhile, List.reverse_reverse]

/-- The end of a line adds no words to it. -/
theorem words_chomp (line : List Char) : Blank.words (chomp line) = Blank.words line := by
  have htail : ∀ c ∈ (line.reverse.takeWhile isLineEnd).reverse, Blank.isBlank c = true := by
    intro c hc
    rw [List.mem_reverse] at hc
    exact isBlank_of_isLineEnd (List.all_eq_true.mp (List.all_takeWhile) c hc)
  have hwords := Blank.words_append_tail htail (chomp line)
  rw [chomp_append] at hwords
  exact hwords.symm

end Lines

end Microcore
