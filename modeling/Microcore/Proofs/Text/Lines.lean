/-
  Microcore/Proofs/Text/Lines.lean
  ================================
  **Texts that are lines.**  A text without a line feed in it or a line end behind it (`IsLine`) is read
  back as it is: it is what a source line is stripped to, and lines that are written out one after the
  other, each with a line feed behind it, are found again (`lines_flatMap`).
-/
import Mathlib.Data.List.DropRight
import Microcore.Text.Lines

namespace Microcore.Lines

/-- A text that reads as one line: no line feed in it, and no line end behind it. -/
structure IsLine (text : List Char) : Prop where
  feed : '\n' ∉ text
  last : ∀ c ∈ text.getLast?, isLineEnd c = false

theorem IsLine.nil : IsLine [] := ⟨List.not_mem_nil, fun _ hc => by cases hc⟩

theorem IsLine.of_suffix {text tail : List Char} (h : IsLine text) (ht : tail <:+ text) :
    IsLine tail := by
  refine ⟨fun hmem => h.feed (ht.mem hmem), ?_⟩
  intro c hc
  apply h.last c
  obtain ⟨head, rfl⟩ := ht
  rw [List.getLast?_append, hc]
  rfl

/-- A text behind a gap is a line, if it is not empty. -/
theorem IsLine.append {head text : List Char} (hhead : '\n' ∉ head) (h : IsLine text)
    (hne : text ≠ []) : IsLine (head ++ text) := by
  constructor
  · intro hmem
    rcases List.mem_append.mp hmem with hmem | hmem
    · exact hhead hmem
    · exact h.feed hmem
  · intro c hc
    obtain ⟨last, hlast⟩ := Option.isSome_iff_exists.mp (List.getLast?_isSome.mpr hne)
    rw [List.getLast?_append, hlast] at hc
    cases hc
    exact h.last c hlast

/-! ### Line ends -/

theorem chomp_eq_rdropWhile (line : List Char) : chomp line = line.rdropWhile isLineEnd := rfl

theorem chomp_of_isLine {text : List Char} (h : IsLine text) : chomp text = text := by
  rw [chomp_eq_rdropWhile, List.rdropWhile_eq_self_iff]
  intro hne
  rw [h.last _ (List.getLast?_eq_getLast_of_ne_nil hne)]
  decide

theorem isLine_chomp {raw : List Char} (h : '\n' ∉ raw) : IsLine (chomp raw) := by
  rw [chomp_eq_rdropWhile]
  refine ⟨fun hmem => h ((List.rdropWhile_prefix _ _).mem hmem), ?_⟩
  intro c hc
  obtain ⟨hne, rfl⟩ := List.mem_getLast?_eq_getLast hc
  rw [← Bool.not_eq_true]
  exact List.rdropWhile_last_not _ _ hne

/-! ### Texts from files -/

theorem normalize_cons {c : Char} (h : c ≠ '\r') (rest : List Char) :
    normalize (c :: rest) = c :: normalize rest := by
  rw [normalize]
  · rintro more rfl
    exact absurd rfl h
  · rintro rfl
    exact absurd rfl h

/-- A carriage return by itself ends a line. -/
theorem normalize_return {rest : List Char} (h : '\n' ∉ rest) :
    normalize ('\r' :: rest) = '\n' :: normalize rest := by
  rw [normalize]
  rintro more rfl
  exact h List.mem_cons_self

theorem normalize_of_not_mem {text : List Char} (h : '\r' ∉ text) : normalize text = text := by
  induction text with
  | nil => rfl
  | cons c rest ih =>
    rw [List.mem_cons, not_or] at h
    rw [normalize_cons (Ne.symm h.1), ih h.2]

/-! ### The lines of a text -/

theorem feed_not_mem_of_mem_lines {text raw : List Char} (h : raw ∈ lines text) : '\n' ∉ raw := by
  induction text generalizing raw with
  | nil => cases h
  | cons c rest ih =>
    rw [lines] at h
    by_cases hc : c = '\n'
    · rw [if_pos hc] at h
      rcases List.mem_cons.mp h with rfl | hmem
      · exact List.not_mem_nil
      · exact ih hmem
    · rw [if_neg hc] at h
      cases hlines : lines rest with
      | nil =>
        rw [hlines] at h
        rw [List.mem_singleton.mp h, List.mem_singleton]
        exact Ne.symm hc
      | cons line more =>
        rw [hlines] at h ih
        rcases List.mem_cons.mp h with rfl | hmem
        · rw [List.mem_cons, not_or]
          exact ⟨Ne.symm hc, ih List.mem_cons_self⟩
        · exact ih (List.mem_cons_of_mem _ hmem)

theorem lines_append_feed {line : List Char} (h : '\n' ∉ line) (rest : List Char) :
    lines (line ++ '\n' :: rest) = line :: lines rest := by
  induction line with
  | nil => rfl
  | cons c tail ih =>
    rw [List.mem_cons, not_or] at h
    rw [List.cons_append, lines, if_neg (Ne.symm h.1), ih h.2]

/-- **Lines that are written out are found again.** -/
theorem lines_flatMap {texts : List (List Char)} (h : ∀ text ∈ texts, '\n' ∉ text) :
    lines (texts.flatMap fun text => text ++ ['\n']) = texts := by
  induction texts with
  | nil => rfl
  | cons text rest ih =>
    rw [List.flatMap_cons, List.append_assoc, List.singleton_append,
      lines_append_feed (h text List.mem_cons_self),
      ih fun line hline => h line (List.mem_cons_of_mem _ hline)]

end Microcore.Lines
