/-
  Microcore/Proofs/Text/Letter.lean
  =================================
  **What upper case keeps.**  Controls, digits and most punctuation stand in front of the capital letters,
  and no other character has an upper case with one of them in it: not in the ASCII range, in the runs of
  the case table or among the letters that become several (`mem_upper_iff`).  So a text and its upper case
  begin with the same punctuation (`head?_upper_iff`).  The case of ASCII letters makes no difference to
  it (`upper_map_toLower`).
-/
import Microcore.Text.Letter

namespace Microcore.Letter

theorem eq_toNat_of_ofNat {n : Nat} {c : Char} (hc : 0 < c.toNat) (h : Char.ofNat n = c) :
    n = c.toNat := by
  subst h
  rw [Char.ofNat] at hc ⊢
  by_cases hvalid : n.isValidChar
  · rw [dif_pos hvalid]
    rfl
  · rw [dif_neg hvalid] at hc
    exact absurd hc (by decide)

theorem mem_of_lookup {n : Nat} {expansion : List Nat} (h : upperExpansions.lookup n = some expansion) :
    (n, expansion) ∈ upperExpansions := by
  obtain ⟨before, after, htable, -⟩ := List.lookup_eq_some_iff.mp h
  rw [htable]
  exact List.mem_append_right _ List.mem_cons_self

theorem upperOf_ne_nil (c : Char) : upperOf c ≠ [] := by
  have hexpansions : ∀ entry ∈ upperExpansions, entry.2 ≠ [] := by decide +kernel
  rw [upperOf]
  by_cases hc : c.toNat < 128
  · rw [if_pos hc]
    exact List.cons_ne_nil _ _
  · rw [if_neg hc]
    cases hlookup : upperExpansions.lookup c.toNat with
    | none => exact List.cons_ne_nil _ _
    | some expansion => exact mt List.map_eq_nil_iff.mp (hexpansions _ (mem_of_lookup hlookup))

section Mark

variable {mark : Char} (hpos : 0 < mark.toNat) (hlt : mark.toNat < 65)

include hpos hlt

theorem shifted_ne_mark {c : Char} (hc : c ≠ mark) : shifted upperRuns c ≠ mark := by
  have hruns : ∀ run ∈ upperRuns, 65 ≤ (run.first : Int) + run.offset := by decide +kernel
  rw [shifted]
  cases hoffset : offset? upperRuns c.toNat with
  | none => exact hc
  | some offset =>
    intro hshifted
    have hsum := eq_toNat_of_ofNat hpos hshifted
    simp only [offset?, Option.map_eq_some_iff] at hoffset
    obtain ⟨run, hfind, rfl⟩ := hoffset
    have hrun := hruns run (List.mem_of_find?_eq_some hfind)
    have hrange := List.find?_some hfind
    simp only [Bool.and_eq_true, decide_eq_true_eq] at hrange
    omega

theorem upperOf_mark : upperOf mark = [mark] := by
  have hascii : ∀ n < 65, (Char.ofNat n).toUpper = Char.ofNat n := by decide
  have hupper := hascii mark.toNat hlt
  rw [Char.ofNat_toNat] at hupper
  rw [upperOf, if_pos (by omega : mark.toNat < 128), hupper]

/-- No other character has a mark in its upper case. -/
theorem mem_upperOf_iff {c : Char} : mark ∈ upperOf c ↔ c = mark := by
  have hascii : ∀ n < 128, (Char.ofNat n).toUpper.toNat < 65 → (Char.ofNat n).toUpper = Char.ofNat n := by
    decide
  have hexpansions : ∀ entry ∈ upperExpansions, ∀ n ∈ entry.2, 65 ≤ n := by decide +kernel
  by_cases hne : c = mark
  · subst hne
    rw [upperOf_mark hpos hlt]
    exact iff_of_true (List.mem_singleton_self _) rfl
  · refine iff_of_false ?_ hne
    intro hmem
    rw [upperOf] at hmem
    by_cases hc : c.toNat < 128
    · rw [if_pos hc, List.mem_singleton] at hmem
      have hupper := hascii c.toNat hc
      rw [Char.ofNat_toNat, ← hmem] at hupper
      exact hne (hupper hlt).symm
    · rw [if_neg hc] at hmem
      cases hlookup : upperExpansions.lookup c.toNat with
      | none =>
        rw [hlookup] at hmem
        exact shifted_ne_mark hpos hlt hne (List.mem_singleton.mp hmem).symm
      | some expansion =>
        rw [hlookup] at hmem
        obtain ⟨n, hn, hmark⟩ := List.mem_map.mp hmem
        have hle := hexpansions _ (mem_of_lookup hlookup) n hn
        rw [eq_toNat_of_ofNat hpos hmark] at hle
        omega

/-- **Upper case neither adds nor takes away a mark.** -/
theorem mem_upper_iff {text : List Char} : mark ∈ upper text ↔ mark ∈ text := by
  simp only [upper, List.mem_flatMap, mem_upperOf_iff hpos hlt, exists_eq_right]

end Mark

/-- **A text begins with a semicolon if its upper case does.** -/
theorem head?_upper_iff {word : List Char} :
    (upper word).head? = some ';' ↔ word.head? = some ';' := by
  cases word with
  | nil => rfl
  | cons c rest =>
    obtain ⟨d, more, hupper⟩ := List.exists_cons_of_ne_nil (upperOf_ne_nil c)
    rw [upper, List.flatMap_cons, hupper, List.cons_append, List.head?_cons, List.head?_cons,
      Option.some.injEq, Option.some.injEq]
    constructor
    · rintro rfl
      have hmem : ';' ∈ upperOf c := hupper ▸ List.mem_cons_self
      exact (mem_upperOf_iff (by decide) (by decide)).mp hmem
    · rintro rfl
      rw [upperOf_mark (by decide) (by decide)] at hupper
      exact (List.cons.inj hupper).1.symm

/-! ### ASCII letters in lower case -/

/-- A character and its lower case are the same one, or both of them are in the ASCII range. -/
theorem toLower_cases {p : Char → Char → Prop} (refl : ∀ c, p c c)
    (ascii : ∀ n < 128, p (Char.ofNat n).toLower (Char.ofNat n)) (c : Char) : p c.toLower c := by
  rcases Nat.lt_or_ge c.toNat 128 with hc | hc
  · have hletter := ascii c.toNat hc
    rwa [Char.ofNat_toNat] at hletter
  · have hcapital : ¬(c.val ≥ 'A'.val ∧ c.val ≤ 'Z'.val) := by
      rintro ⟨-, hle⟩
      have hle : c.toNat ≤ 90 := hle
      omega
    have hlower : c.toLower = c := dif_neg hcapital
    rw [hlower]
    exact refl c

theorem upperOf_toLower (c : Char) : upperOf c.toLower = upperOf c :=
  @toLower_cases (fun lower c => upperOf lower = upperOf c) (fun _ => rfl) (by decide) c

/-- **The case of ASCII letters makes no difference to the upper case of a text.** -/
theorem upper_map_toLower (text : List Char) : upper (text.map Char.toLower) = upper text := by
  simp only [upper, List.flatMap_map, upperOf_toLower]

end Microcore.Letter
