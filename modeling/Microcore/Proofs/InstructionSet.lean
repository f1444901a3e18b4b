/-
  Microcore/Proofs/InstructionSet.lean
  ====================================
  **A table is built exactly from the sets that have each code once.**  While a table is built, its slots
  hold what has been added so far, each instruction under its own code (`Slots.Holds`), so an
  instruction is refused exactly if an earlier one has its code.  What the slots hold in the end does
  not depend on the order of the instructions.  The order only decides which repetition is met first,
  and any repetition is met before a missing code is looked for (`table_built_or_blamed`).
-/
import Mathlib.Data.List.Sort
import Microcore.Instruction.Table
import Microcore.Proofs.Text.Numeral

namespace Microcore.Instruction

/-! ### Codes -/

theorem mem_codes (c : Code) : c ∈ codes := by
  revert c
  decide

theorem ascending_codes : codes.Pairwise (· < ·) := by decide

theorem getElem?_codes (c : Code) : codes[c.toNat]? = some c := by
  revert c
  decide

/-- No code is repeated and none is missing. -/
structure HasEachCode (instructions : List Instruction) : Prop where
  distinct : (instructions.map code).Nodup
  complete : ∀ c, ∃ i ∈ instructions, i.code = c

theorem hasEachCode_iff_count {instructions : List Instruction} :
    HasEachCode instructions ↔ ∀ c : Code, (instructions.map code).count c = 1 := by
  constructor
  · rintro ⟨hdistinct, hcomplete⟩ c
    exact List.count_eq_one_of_mem hdistinct (List.mem_map.mpr (hcomplete c))
  · intro hcount
    refine ⟨List.nodup_iff_count_le_one.mpr fun c => (hcount c).le, ?_⟩
    intro c
    have hpos : 0 < (instructions.map code).count c := by
      rw [hcount c]
      exact Nat.one_pos
    exact List.mem_map.mp (List.count_pos_iff.mp hpos)

theorem nodup_code_concat_iff {before : List Instruction} {i : Instruction} :
    ((before ++ [i]).map code).Nodup ↔
      (before.map code).Nodup ∧ ∀ e ∈ before, e.code ≠ i.code := by
  rw [← List.concat_eq_append, List.map_concat, List.nodup_concat, and_comm, List.mem_map]
  simp only [not_exists, not_and, ne_eq]

/-! ### What is said about a set -/

section Blamed

variable (instructions : List Instruction)

/-- An instruction is the first one whose code an earlier one, its holder, already has. -/
def FirstRepeated (holder i : Instruction) : Prop :=
  ∃ before after, instructions = before ++ i :: after ∧ (before.map code).Nodup ∧
    holder ∈ before ∧ holder.code = i.code

/-- What is wrong with a set of instructions, and what is said about it. -/
inductive Blamed : InstructionFault → String → Prop where
  | duplicate {holder i : Instruction} (first : FirstRepeated instructions holder i) :
      Blamed (.duplicateCode i.code holder.mnemonic)
        s!"code 0x{Nat.digitChar i.code.toNat} already registered as {holder.mnemonic}"
  | missing {unused : List Code} (distinct : (instructions.map code).Nodup)
      (ascending : unused.Pairwise (· < ·))
      (mem_iff : ∀ c, c ∈ unused ↔ ∀ i ∈ instructions, i.code ≠ c) (ne_nil : unused ≠ []) :
      Blamed (.missingCodes unused) ("instruction codes without an entry: [" ++
        ", ".intercalate (unused.map fun c => toString c.toNat) ++ "]")

end Blamed

theorem hexMarked_code (c : Code) :
    Numeral.hexMarked 3 c.toNat = "0x" ++ String.singleton (Nat.digitChar c.toNat) := by
  revert c
  decide

theorem message_duplicateCode (c : Code) (holder : String) :
    (InstructionFault.duplicateCode c holder).message =
      s!"code 0x{Nat.digitChar c.toNat} already registered as {holder}" := by
  have hhead : "code " ++ Numeral.hexMarked 3 c.toNat =
      "code 0x" ++ String.singleton (Nat.digitChar c.toNat) := by
    rw [hexMarked_code, ← String.append_assoc]
    rfl
  show "code " ++ Numeral.hexMarked 3 c.toNat ++ " already registered as " ++ holder = _
  rw [hhead]
  rfl

theorem message_missingCodes (cs : List Code) :
    (InstructionFault.missingCodes cs).message = "instruction codes without an entry: [" ++
      ", ".intercalate (cs.map fun c => toString c.toNat) ++ "]" := by
  have hnumbers : cs.map (fun c => Numeral.decimal c.toNat) = cs.map fun c => toString c.toNat :=
    List.map_congr_left fun c _ => Numeral.decimal_natCast c.toNat
  show "instruction codes without an entry: [" ++
    ", ".intercalate (cs.map fun c => Numeral.decimal c.toNat) ++ "]" = _
  rw [hnumbers]

section Sets

variable {instructions : List Instruction}

/-- Where codes are repeated, one of the instructions is the first to repeat one. -/
theorem exists_firstRepeated (h : ¬(instructions.map code).Nodup) :
    ∃ holder i, FirstRepeated instructions holder i := by
  induction instructions using List.reverseRecOn with
  | nil => exact absurd List.nodup_nil h
  | append_singleton before i ih =>
    -- the last instruction is the one only if no earlier one repeats a code
    by_cases hdistinct : (before.map code).Nodup
    · have hrepeated : ∃ holder ∈ before, holder.code = i.code := by
        by_contra hnew
        apply h
        exact nodup_code_concat_iff.mpr ⟨hdistinct, fun e he hsame => hnew ⟨e, he, hsame⟩⟩
      obtain ⟨holder, hheld, hsame⟩ := hrepeated
      exact ⟨holder, i, before, [], rfl, hdistinct, hheld, hsame⟩
    · obtain ⟨holder, e, front, after, rfl, hfirst⟩ := ih hdistinct
      exact ⟨holder, e, front, after ++ [i], List.append_assoc .., hfirst⟩

/-- Where a code is repeated or missing, there is something to report. -/
theorem exists_blamed (h : ¬HasEachCode instructions) :
    ∃ fault : InstructionFault, Blamed instructions fault fault.message := by
  by_cases hdistinct : (instructions.map code).Nodup
  · let unused := codes.filter fun c => ∀ i ∈ instructions, i.code ≠ c
    have hmem : ∀ c, c ∈ unused ↔ ∀ i ∈ instructions, i.code ≠ c := by
      intro c
      simp only [unused, List.mem_filter, mem_codes, true_and, decide_eq_true_eq]
    have hne : unused ≠ [] := by
      obtain ⟨c, hc⟩ := not_forall.mp fun hcomplete => h ⟨hdistinct, hcomplete⟩
      exact List.ne_nil_of_mem ((hmem c).mpr fun i hi hcode => hc ⟨i, hi, hcode⟩)
    refine ⟨.missingCodes unused, ?_⟩
    rw [message_missingCodes]
    exact .missing hdistinct (ascending_codes.filter _) hmem hne
  · obtain ⟨holder, i, hfirst⟩ := exists_firstRepeated hdistinct
    refine ⟨.duplicateCode i.code holder.mnemonic, ?_⟩
    rw [message_duplicateCode]
    exact .duplicate hfirst

end Sets

/-! ### One instruction after the other -/

namespace Slots

/-- Slots hold instructions of distinct codes, each under its own code, and nothing else. -/
structure Holds (slots : Slots) (entries : List Instruction) : Prop where
  distinct : (entries.map code).Nodup
  slot_iff : ∀ c i, slots c = some i ↔ i ∈ entries ∧ i.code = c

theorem holds_empty : empty.Holds [] where
  distinct := List.nodup_nil
  slot_iff := by
    intro c i
    simp only [empty, reduceCtorEq, List.not_mem_nil, false_and]

theorem addAll_append (slots : Slots) (before after : List Instruction) :
    slots.addAll (before ++ after) = slots.addAll before >>= fun slots => slots.addAll after := by
  induction before generalizing slots with
  | nil => rfl
  | cons i before ih =>
    rw [List.cons_append, addAll, addAll, bind_assoc]
    simp only [ih]

variable {slots : Slots} {entries : List Instruction}

theorem Holds.slot_eq_none_iff (h : slots.Holds entries) (c : Code) :
    slots c = none ↔ ∀ i ∈ entries, i.code ≠ c := by
  simp only [Option.eq_none_iff_forall_ne_some, ne_eq, h.slot_iff, not_and]

/-- A code that is taken is refused, with the name of its holder. -/
theorem Holds.add_of_held (h : slots.Holds entries) {holder i : Instruction}
    (hheld : holder ∈ entries) (hsame : holder.code = i.code) :
    slots.add i = .error (.duplicateCode i.code holder.mnemonic) := by
  have hslot : slots i.code = some holder := (h.slot_iff _ _).mpr ⟨hheld, hsame⟩
  simp only [add, hslot]

/-- A code that is free is taken. -/
theorem Holds.add_of_free (h : slots.Holds entries) {i : Instruction}
    (hdistinct : ((entries ++ [i]).map code).Nodup) :
    ∃ next, slots.add i = .ok next ∧ next.Holds (entries ++ [i]) := by
  have hfree := (nodup_code_concat_iff.mp hdistinct).2
  have hslot : slots i.code = none := (h.slot_eq_none_iff _).mpr hfree
  refine ⟨fun c => if c = i.code then some i else slots c, by simp only [add, hslot], hdistinct, ?_⟩
  intro c e
  rw [List.mem_append, List.mem_singleton]
  by_cases hc : c = i.code
  · rw [if_pos hc, Option.some.injEq, hc]
    constructor
    · rintro rfl
      exact ⟨.inr rfl, rfl⟩
    · rintro ⟨he | rfl, hsame⟩
      · exact absurd hsame (hfree e he)
      · rfl
  · rw [if_neg hc, h.slot_iff]
    constructor
    · rintro ⟨he, hcode⟩
      exact ⟨.inl he, hcode⟩
    · rintro ⟨he | rfl, hcode⟩
      · exact ⟨he, hcode⟩
      · exact absurd hcode.symm hc

/-- Instructions that repeat no code are all taken in. -/
theorem Holds.addAll_of_distinct (h : slots.Holds entries) {rest : List Instruction}
    (hdistinct : ((entries ++ rest).map code).Nodup) :
    ∃ final, slots.addAll rest = .ok final ∧ final.Holds (entries ++ rest) := by
  -- what is held grows by one instruction with each step
  induction rest generalizing slots entries with
  | nil => exact ⟨slots, rfl, by rwa [List.append_nil]⟩
  | cons i rest ih =>
    rw [List.append_cons] at hdistinct ⊢
    have hfirst : ((entries ++ [i]).map code).Nodup := by
      rw [List.map_append] at hdistinct
      exact hdistinct.of_append_left
    obtain ⟨next, hadd, hnext⟩ := h.add_of_free hfirst
    obtain ⟨final, haddAll, hfinal⟩ := ih hnext hdistinct
    refine ⟨final, ?_, hfinal⟩
    rw [addAll, hadd]
    exact haddAll

/-! ### The finished table -/

/-- The slots do not depend on the order of what they hold. -/
theorem Holds.eq_of_perm (h : slots.Holds entries) {others : List Instruction} {slots' : Slots}
    (h' : slots'.Holds others) (hperm : others.Perm entries) : slots' = slots := by
  funext c
  apply Option.ext
  intro i
  rw [h'.slot_iff, h.slot_iff, hperm.mem_iff]

theorem Holds.complete?_eq_error (h : slots.Holds entries) {unused : List Code}
    (hascending : unused.Pairwise (· < ·))
    (hmem : ∀ c, c ∈ unused ↔ ∀ i ∈ entries, i.code ≠ c) (hne : unused ≠ []) :
    slots.complete? = .error (.missingCodes unused) := by
  have hfilter : codes.filter (fun c => (slots c).isNone) = unused := by
    apply (ascending_codes.filter _).eq_of_mem_iff hascending
    intro c
    rw [List.mem_filter, Option.isNone_iff_eq_none, h.slot_eq_none_iff, hmem]
    exact and_iff_right (mem_codes c)
  rw [complete?, hfilter]
  cases unused with
  | nil => exact absurd rfl hne
  | cons c unused => rfl

section Complete

variable (h : slots.Holds entries) (hcomplete : ∀ c, ∃ i ∈ entries, i.code = c)
include h hcomplete

theorem Holds.complete?_eq_ok : slots.complete? = .ok (codes.filterMap slots) := by
  have hfilter : codes.filter (fun c => (slots c).isNone) = [] := by
    rw [List.filter_eq_nil_iff]
    intro c _ hnone
    obtain ⟨i, hi, hcode⟩ := hcomplete c
    exact (h.slot_eq_none_iff c).mp (Option.isNone_iff_eq_none.mp hnone) i hi hcode
  rw [complete?, hfilter]

/-- The finished table is in the order of the codes. -/
theorem Holds.map_code_filterMap : (codes.filterMap slots).map code = codes := by
  have hcode : ∀ c ∈ codes, (slots c).map code = some c := by
    intro c _
    obtain ⟨i, hi, hcode⟩ := hcomplete c
    rw [(h.slot_iff c i).mpr ⟨hi, hcode⟩, Option.map_some, hcode]
  rw [List.map_filterMap, List.filterMap_congr hcode, List.filterMap_some]

/-- Nothing is lost and nothing is made up. -/
theorem Holds.perm_filterMap : (codes.filterMap slots).Perm entries := by
  have hdistinct : (codes.filterMap slots).Nodup := by
    apply List.Nodup.of_map code
    rw [h.map_code_filterMap hcomplete]
    exact ascending_codes.nodup
  apply (List.perm_ext_iff_of_nodup hdistinct (h.distinct.of_map code)).mpr
  intro i
  rw [List.mem_filterMap]
  constructor
  · rintro ⟨c, _, hslot⟩
    exact ((h.slot_iff c i).mp hslot).1
  · intro hi
    exact ⟨i.code, mem_codes _, (h.slot_iff _ i).mpr ⟨hi, rfl⟩⟩

end Complete

end Slots

section Sets

variable {instructions : List Instruction}

theorem exists_holds (hdistinct : (instructions.map code).Nodup) :
    ∃ slots : Slots, slots.Holds instructions ∧ table? instructions = slots.complete? := by
  obtain ⟨slots, haddAll, hholds⟩ := Slots.holds_empty.addAll_of_distinct hdistinct
  refine ⟨slots, hholds, ?_⟩
  rw [table?, haddAll]
  rfl

theorem FirstRepeated.table?_eq {holder i : Instruction}
    (h : FirstRepeated instructions holder i) :
    table? instructions = .error (.duplicateCode i.code holder.mnemonic) := by
  obtain ⟨before, after, rfl, hdistinct, hheld, hsame⟩ := h
  obtain ⟨slots, haddAll, hholds⟩ := Slots.holds_empty.addAll_of_distinct hdistinct
  have hadd := hholds.add_of_held hheld hsame
  rw [table?, Slots.addAll_append, haddAll]
  show (slots.addAll (i :: after) >>= Slots.complete?) = _
  rw [Slots.addAll, hadd]
  rfl

theorem Blamed.table?_eq {fault : InstructionFault} {message : String}
    (h : Blamed instructions fault message) : table? instructions = .error fault := by
  cases h with
  | duplicate hfirst => exact hfirst.table?_eq
  | missing hdistinct hascending hmem hne =>
    obtain ⟨slots, hholds, htable⟩ := exists_holds hdistinct
    rw [htable]
    exact hholds.complete?_eq_error hascending hmem hne

/-- A set that has each code once fills the slots, and they become its table. -/
theorem HasEachCode.exists_table? (h : HasEachCode instructions) :
    ∃ slots : Slots, slots.Holds instructions ∧
      table? instructions = .ok (codes.filterMap slots) := by
  obtain ⟨slots, hholds, htable⟩ := exists_holds h.distinct
  exact ⟨slots, hholds, htable.trans (hholds.complete?_eq_ok h.complete)⟩

theorem exists_table?_iff :
    (∃ table, table? instructions = .ok table) ↔ HasEachCode instructions := by
  constructor
  · rintro ⟨table, htable⟩
    by_contra hnot
    obtain ⟨fault, hblamed⟩ := exists_blamed hnot
    cases htable.symm.trans hblamed.table?_eq
  · intro heach
    obtain ⟨slots, -, htable⟩ := heach.exists_table?
    exact ⟨_, htable⟩

theorem table?_eq_error_iff {fault : InstructionFault} :
    table? instructions = .error fault ↔ Blamed instructions fault fault.message := by
  constructor
  · intro hfault
    have hnot : ¬HasEachCode instructions := by
      intro heach
      obtain ⟨table, htable⟩ := exists_table?_iff.mpr heach
      cases hfault.symm.trans htable
    obtain ⟨found, hblamed⟩ := exists_blamed hnot
    cases hfault.symm.trans hblamed.table?_eq
    exact hblamed
  · exact Blamed.table?_eq

/-- The order of the instructions does not matter for their table. -/
theorem table?_of_perm {others table : List Instruction} (htable : table? instructions = .ok table)
    (hperm : others.Perm instructions) : table? others = .ok table := by
  obtain ⟨hdistinct, -⟩ := exists_table?_iff.mp ⟨table, htable⟩
  have hothers : (others.map code).Nodup := (hperm.map code).nodup_iff.mpr hdistinct
  obtain ⟨slots, hholds, hcomplete⟩ := exists_holds hdistinct
  obtain ⟨slots', hholds', hcomplete'⟩ := exists_holds hothers
  rw [hcomplete', hholds.eq_of_perm hholds' hperm, ← hcomplete, htable]

end Sets

/-- **A table is built exactly from the sets that have each code once.**  It has sixteen entries, each in
    the place of its code, they are the instructions of the set, and their order in the set does not
    matter.  Of any other set the first instruction whose code is already taken is reported, with the
    name of the holder; if there is none, all missing codes are, in ascending order. -/
theorem table_built_or_blamed (instructions : List Instruction) :
    ((∃ table, table? instructions = .ok table) ↔
      ∀ c : Code, (instructions.map code).count c = 1) ∧
    (∀ table, table? instructions = .ok table →
      table.length = 16 ∧ (∀ c : Code, table[c.toNat]?.map code = some c) ∧
      table.Perm instructions ∧
      ∀ others, others.Perm instructions → table? others = .ok table) ∧
    ∀ fault, table? instructions = .error fault ↔ Blamed instructions fault fault.message := by
  refine ⟨exists_table?_iff.trans hasEachCode_iff_count, ?_, fun fault => table?_eq_error_iff⟩
  intro table htable
  have heach := exists_table?_iff.mp ⟨table, htable⟩
  obtain ⟨slots, hholds, hbuilt⟩ := heach.exists_table?
  cases htable.symm.trans hbuilt
  have hcodes := hholds.map_code_filterMap heach.complete
  refine ⟨?_, ?_, hholds.perm_filterMap heach.complete, fun others => table?_of_perm htable⟩
  · rw [← List.length_map code, hcodes]
    rfl
  · intro c
    rw [← List.getElem?_map, hcodes, getElem?_codes]

theorem reversed_standard_built :
    table? standard = .ok standard ∧ standard.reverse.Perm standard ∧
      table? standard.reverse = .ok standard := by
  have hbuilt : table? standard = .ok standard := rfl
  have hperm : standard.reverse.Perm standard := List.reverse_perm standard
  exact ⟨hbuilt, hperm, ((table_built_or_blamed standard).2.1 standard hbuilt).2.2.2 _ hperm⟩

/-- A repeated code is reported even where other codes are missing. -/
example : table? (standard.take 2 ++ [{ code := 1, mnemonic := "AND", kind := .immediate }]) =
    .error (.duplicateCode 1 "ANI") := rfl

end Microcore.Instruction
