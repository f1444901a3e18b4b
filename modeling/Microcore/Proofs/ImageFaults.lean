/-
  Microcore/Proofs/ImageFaults.lean
  =================================
  **The first bad token of an image is its fault.**  Line by line, an image is read as one row of tokens,
  each with the number of its line (`words?_eq_mapM`).  The first token that is no word of twelve bits is
  the fault, even behind a full image; only if there is none are the tokens counted
  (`words?_eq_error_iff`).
-/
import Microcore.Proofs.HexImage

namespace Microcore.HexImage

open Blank (words)

/-! ### Tokens -/

/-- What stands between white space, in the order of reading. -/
def tokens (lines : List (List Char)) : List (List Char) := lines.flatMap words

/-- The tokens of lines, each with the number of its line, when the first line has the given number. -/
def numberedFrom (number : Nat) (lines : List (List Char)) : List (Nat × List Char) :=
  (lines.zipIdx number).flatMap fun (line, number) => (words line).map fun token => (number, token)

/-- A token is an integer in base sixteen, in the range of a word. -/
def GoodToken (token : List Char) : Prop :=
  ∃ value, Numeral.read? 16 token = some value ∧ 0 ≤ value ∧ value ≤ 0xFFF

theorem numberedFrom_cons (number : Nat) (line : List Char) (rest : List (List Char)) :
    numberedFrom number (line :: rest) =
      ((words line).map fun token => (number, token)) ++ numberedFrom (number + 1) rest := by
  simp only [numberedFrom, List.zipIdx_cons, List.flatMap_cons]

/-! ### Single tokens -/

theorem word?_eq_error_iff {number : Nat} {token : List Char} {fault : Fault} :
    word? number token = .error fault ↔
      Numeral.read? 16 token = none ∧ fault = .malformed number token ∨
      (∃ value, Numeral.read? 16 token = some value ∧ ¬(0 ≤ value ∧ value ≤ 0xFFF)) ∧
        fault = .wide number token := by
  have hbound (value : Int) : 0 ≤ value ∧ value < 4096 ↔ 0 ≤ value ∧ value ≤ 0xFFF := by omega
  simp only [word?, hbound]
  cases hread : Numeral.read? 16 token with
  | none => simp [eq_comm]
  | some value =>
    simp only [Option.some.injEq, exists_eq_left', reduceCtorEq, false_and, false_or]
    by_cases hrange : 0 ≤ value ∧ value ≤ 0xFFF
    · rw [if_pos hrange]
      exact iff_of_false (fun h => by cases h) fun h => h.1 hrange
    · rw [if_neg hrange, Except.error.injEq, eq_comm]
      exact (and_iff_right hrange).symm

theorem exists_word?_iff {number : Nat} {token : List Char} :
    (∃ w, word? number token = .ok w) ↔ GoodToken token := by
  simp only [word?_eq_ok_iff, GoodToken]
  constructor
  · rintro ⟨w, hread⟩
    exact ⟨_, hread, unsigned_nonneg w, Int.le_of_lt_add_one (unsigned_word_lt w)⟩
  · rintro ⟨value, hread, hnonneg, hle⟩
    refine ⟨Word.ofInt value, ?_⟩
    rw [unsigned_word_ofInt, Int.emod_eq_of_lt hnonneg (by omega), hread]

/-! ### All tokens -/

section Except

variable {α β ε : Type}

theorem mapM_cons_eq_error_iff {f : α → Except ε β} {x : α} {xs : List α} {e : ε} :
    (x :: xs).mapM f = .error e ↔
      f x = .error e ∨ (∃ b, f x = .ok b) ∧ xs.mapM f = .error e := by
  rw [List.mapM_cons]
  cases f x with
  | error e' =>
    show Except.error e' = Except.error e ↔ _
    simp
  | ok b =>
    cases xs.mapM f with
    | error e' =>
      show Except.error e' = Except.error e ↔ _
      simp
    | ok ys =>
      show Except.ok (b :: ys) = Except.error e ↔ _
      simp

/-- The fault of a row is that of its first member that has one. -/
theorem mapM_eq_error_iff {f : α → Except ε β} {xs : List α} {e : ε} :
    xs.mapM f = .error e ↔ ∃ before x after,
      xs = before ++ x :: after ∧ (∀ y ∈ before, ∃ b, f y = .ok b) ∧ f x = .error e := by
  induction xs with
  | nil => exact iff_of_false (fun h => by cases h) (by simp)
  | cons first rest ih =>
    rw [mapM_cons_eq_error_iff, ih]
    constructor
    · rintro (hfirst | ⟨hfirst, before, x, after, rfl, hbefore, hx⟩)
      · exact ⟨[], first, rest, rfl, by simp, hfirst⟩
      · exact ⟨first :: before, x, after, rfl, List.forall_mem_cons.mpr ⟨hfirst, hbefore⟩, hx⟩
    · rintro ⟨before, x, after, hsplit, hbefore, hx⟩
      cases before with
      | nil =>
        cases hsplit
        exact .inl hx
      | cons y before =>
        cases hsplit
        obtain ⟨hfirst, hbefore⟩ := List.forall_mem_cons.mp hbefore
        exact .inr ⟨hfirst, before, x, after, rfl, hbefore, hx⟩

end Except

/-- **Lines are read as one row of tokens.** -/
theorem words?_eq_mapM (number : Nat) (lines : List (List Char)) :
    words? number lines = (numberedFrom number lines).mapM fun (number, token) => word? number token := by
  induction lines generalizing number with
  | nil => rfl
  | cons line rest ih =>
    rw [words?, ih, numberedFrom_cons, List.mapM_append, List.mapM_map, lineWords?]
    rfl

theorem words?_eq_error_iff {number : Nat} {lines : List (List Char)} {fault : Fault} :
    words? number lines = .error fault ↔ ∃ before entry after,
      numberedFrom number lines = before ++ entry :: after ∧ (∀ e ∈ before, GoodToken e.2) ∧
        word? entry.1 entry.2 = .error fault := by
  simp only [words?_eq_mapM, mapM_eq_error_iff, exists_word?_iff]

theorem exists_reads_iff {texts : List (List Char)} :
    (∃ ws, Reads texts ws) ↔ ∀ text ∈ texts, GoodToken text := by
  induction texts with
  | nil => exact iff_of_true ⟨[], .nil⟩ (by simp)
  | cons text rest ih =>
    rw [List.forall_mem_cons, ← ih, ← @exists_word?_iff 1]
    simp only [word?_eq_ok_iff, Reads, List.forall₂_cons_left_iff]
    constructor
    · rintro ⟨-, w, ws, hw, hws, rfl⟩
      exact ⟨⟨w, hw⟩, ws, hws⟩
    · rintro ⟨⟨w, hw⟩, ws, hws⟩
      exact ⟨_, w, ws, hw, hws, rfl⟩

theorem map_read?_eq_iff {texts : List (List Char)} {ws : List Word} :
    texts.map (Numeral.read? 16) = ws.map (fun w => some (unsigned w)) ↔ Reads texts ws := by
  rw [← List.forall₂_eq_eq_eq, List.forall₂_map_left_iff, List.forall₂_map_right_iff, Reads]

/-! ### Images -/

/-- What is wrong with the lines of an image, and what is said about it. -/
inductive Blamed (lines : List (List Char)) : Fault → String → Prop where
  | malformed {before after : List (Nat × List Char)} {number : Nat} {token : List Char}
      (split : numberedFrom 1 lines = before ++ (number, token) :: after)
      (first : ∀ entry ∈ before, GoodToken entry.2) (bad : Numeral.read? 16 token = none) :
      Blamed lines (.malformed number token)
        s!"line {Numeral.decimal number}: invalid hex word {String.ofList (Quoted.quoteChars token)}"
  | wide {before after : List (Nat × List Char)} {number : Nat} {token : List Char} {value : Int}
      (split : numberedFrom 1 lines = before ++ (number, token) :: after)
      (first : ∀ entry ∈ before, GoodToken entry.2) (read : Numeral.read? 16 token = some value)
      (wide : ¬(0 ≤ value ∧ value ≤ 0xFFF)) :
      Blamed lines (.wide number token)
        s!"line {Numeral.decimal number}: word {String.ofList token} is wider than 12 bits"
  | count (good : ∀ token ∈ tokens lines, GoodToken token) (wrong : (tokens lines).length ≠ 256) :
      Blamed lines (.count (tokens lines).length)
        s!"image must hold 256 words, got {Numeral.decimal (tokens lines).length}"

section Lines

variable {lines : List (List Char)} {fault : Fault}

theorem read?_of_words?_error (h : words? 1 lines = .error fault) : read? lines = .error fault := by
  rw [read?, h]
  rfl

theorem read?_of_words?_ok {ws : List Word} (h : words? 1 lines = .ok ws) (hcount : ws.length ≠ 256) :
    read? lines = .error (.count ws.length) := by
  rw [read?, h]
  exact dif_neg hcount

theorem Blamed.read?_eq {message : String} (h : Blamed lines fault message) :
    read? lines = .error fault := by
  cases h with
  | malformed hsplit hfirst hbad =>
    apply read?_of_words?_error
    exact words?_eq_error_iff.mpr ⟨_, _, _, hsplit, hfirst, word?_eq_error_iff.mpr (.inl ⟨hbad, rfl⟩)⟩
  | wide hsplit hfirst hread hwide =>
    apply read?_of_words?_error
    exact words?_eq_error_iff.mpr
      ⟨_, _, _, hsplit, hfirst, word?_eq_error_iff.mpr (.inr ⟨⟨_, hread, hwide⟩, rfl⟩)⟩
  | count hgood hwrong =>
    obtain ⟨ws, hreads⟩ := exists_reads_iff.mpr hgood
    have hlength : (tokens lines).length = ws.length := hreads.length_eq
    rw [hlength] at hwrong ⊢
    exact read?_of_words?_ok (words?_eq_ok_iff.mpr hreads) hwrong

theorem blamed_of_words?_error (h : words? 1 lines = .error fault) :
    Blamed lines fault fault.message := by
  obtain ⟨before, ⟨number, token⟩, after, hsplit, hfirst, hfault⟩ := words?_eq_error_iff.mp h
  rcases word?_eq_error_iff.mp hfault with ⟨hbad, rfl⟩ | ⟨⟨value, hread, hwide⟩, rfl⟩
  · exact .malformed hsplit hfirst hbad
  · exact .wide hsplit hfirst hread hwide

/-- **What is wrong with an image is what is reported.** -/
theorem read?_eq_error_iff : read? lines = .error fault ↔ Blamed lines fault fault.message := by
  constructor
  · intro h
    cases hwords : words? 1 lines with
    | error found =>
      rw [read?_of_words?_error hwords] at h
      cases h
      exact blamed_of_words?_error hwords
    | ok ws =>
      have hreads := words?_eq_ok_iff.mp hwords
      by_cases hcount : ws.length = 256
      · rw [read?, hwords] at h
        cases (dif_pos hcount).symm.trans h
      · rw [read?_of_words?_ok hwords hcount] at h
        cases h
        have hlength : (tokens lines).length = ws.length := hreads.length_eq
        rw [← hlength] at hcount ⊢
        exact .count (exists_reads_iff.mp ⟨ws, hreads⟩) hcount
  · exact Blamed.read?_eq

theorem exists_read?_iff : (∃ image, read? lines = .ok image) ↔
    (tokens lines).length = 256 ∧ ∀ token ∈ tokens lines, GoodToken token := by
  simp only [read?_eq_ok_iff]
  constructor
  · rintro ⟨image, hreads⟩
    exact ⟨hreads.length_eq.trans image.length_toList, exists_reads_iff.mp ⟨_, hreads⟩⟩
  · rintro ⟨hlength, hgood⟩
    obtain ⟨ws, hreads⟩ := exists_reads_iff.mpr hgood
    have hcount : ws.length = 256 := hreads.length_eq.symm.trans hlength
    exact ⟨⟨ws.toArray, by rw [List.size_toArray, hcount]⟩, hreads⟩

end Lines

/-- **The first bad token of an image is its fault.**  An image is read from 256 good tokens, in whatever
    lines they stand, and holds their values in order; written again, it is read as it was.  Of any other
    lines the first token that is not good is reported, with the number of its line, and if all are good
    the number of words. -/
theorem image_read_or_blamed (lines : List (List Char)) :
    ((∃ image, read? lines = .ok image) ↔
      (tokens lines).length = 256 ∧ ∀ token ∈ tokens lines, GoodToken token) ∧
    (∀ image, read? lines = .ok image →
      (tokens lines).map (Numeral.read? 16) = image.toList.map (fun w => some (unsigned w)) ∧
      (∀ others, tokens others = tokens lines → read? others = .ok image) ∧
      ∃ text, write? (image.toList.map unsigned) = .ok text ∧
        read? (Lines.lines text) = .ok image) ∧
    ∀ fault, read? lines = .error fault ↔ Blamed lines fault fault.message := by
  refine ⟨exists_read?_iff, ?_, fun fault => read?_eq_error_iff⟩
  intro image hread
  have hreads := read?_eq_ok_iff.mp hread
  refine ⟨map_read?_eq_iff.mpr hreads, ?_, ?_⟩
  · intro others hothers
    apply read?_eq_ok_iff.mpr
    have htokens : others.flatMap words = lines.flatMap words := hothers
    rwa [htokens]
  · obtain ⟨text, htext⟩ := exists_write? image
    exact ⟨text, htext, read?_of_write? htext⟩

end Microcore.HexImage
