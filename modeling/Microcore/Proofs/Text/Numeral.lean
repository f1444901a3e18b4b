/-
  Microcore/Proofs/Text/Numeral.lean
  ==================================
  **Written numbers.**  The decimal digits of a number have the number as their value
  (`mapM_value?_toDigits`), a number below a power of the base has no more digits than the power, and a
  number that fits a width is written in exactly that width.  A written number is a sign and digits, and
  is read back as the number (`Form.Writes.read?_eq`).
-/
import Mathlib.Algebra.Group.Nat.Defs
import Mathlib.Data.List.Induction
import Microcore.Proofs.Text.Words
import Microcore.Text.Numeral

namespace Microcore

namespace Digit

theorem number_append (base : Nat) (digits : List Nat) (d : Nat) :
    number base (digits ++ [d]) = number base digits * base + d := by
  rw [number, List.foldl_append]
  rfl

theorem number_lt {base : Nat} {digits : List Nat} (h : ∀ d ∈ digits, d < base) :
    number base digits < base ^ digits.length := by
  induction digits using List.reverseRecOn with
  | nil => exact Nat.one_pos
  | append_singleton digits d ih =>
    have hd : d < base := h d List.mem_concat_self
    have hdigits := ih fun e he => h e (List.mem_append_left _ he)
    rw [number_append, List.length_append, List.length_singleton, Nat.pow_succ]
    calc number base digits * base + d
      _ < number base digits * base + base := Nat.add_lt_add_left hd _
      _ = (number base digits + 1) * base := (Nat.succ_mul _ _).symm
      _ ≤ base ^ digits.length * base := Nat.mul_le_mul_right base hdigits

theorem value?_digitChar {d : Nat} (h : d < 10) : value? d.digitChar = some d := by
  revert d
  decide

/-- A number is written in digits below the base, at least one, that have it as their value. -/
theorem exists_toDigits {base : Nat} (hbase : 1 < base) (n : Nat) : ∃ ds : List Nat,
    Nat.toDigits base n = ds.map Nat.digitChar ∧ ds ≠ [] ∧ (∀ d ∈ ds, d < base) ∧
      number base ds = n := by
  induction n using Nat.strongRecOn with
  | ind n ih =>
    by_cases hsmall : n < base
    · refine ⟨[n], Nat.toDigits_of_lt_base hsmall, List.cons_ne_nil _ _, ?_, ?_⟩
      · intro d hd
        rwa [List.mem_singleton.mp hd]
      · show 0 * base + n = n
        omega
    · have hle : base ≤ n := Nat.not_lt.mp hsmall
      obtain ⟨ds, hds, -, hlt, hnumber⟩ := ih (n / base) (Nat.div_lt_self (by omega) hbase)
      refine ⟨ds ++ [n % base], ?_, List.concat_ne_nil _ _, ?_, ?_⟩
      · rw [Nat.toDigits_of_base_le hbase hle, hds, List.map_append]
        rfl
      · intro d hd
        rcases List.mem_append.mp hd with hd | hd
        · exact hlt d hd
        · rw [List.mem_singleton.mp hd]
          exact Nat.mod_lt n (by omega)
      · rw [number_append, hnumber]
        exact Nat.div_add_mod' n base

/-- Digits that are written each on its own are read back. -/
theorem mapM_map {read : Char → Option Nat} {write : Nat → Char} {ds : List Nat}
    (h : ∀ d ∈ ds, read (write d) = some d) : (ds.map write).mapM read = some ds := by
  induction ds with
  | nil => rfl
  | cons d ds ih =>
    have hd := h d List.mem_cons_self
    have hds := ih fun e he => h e (List.mem_cons_of_mem d he)
    rw [List.map_cons, List.mapM_cons, hd, hds]
    rfl

/-- **The digits of a number have its value.** -/
theorem mapM_value?_toDigits (n : Nat) : ∃ values, (Nat.toDigits 10 n).mapM value? = some values ∧
    values.length = (Nat.toDigits 10 n).length ∧ number 10 values = n := by
  obtain ⟨ds, hds, -, hlt, hnumber⟩ := exists_toDigits (by decide : 1 < 10) n
  refine ⟨ds, ?_, ?_, hnumber⟩
  · rw [hds, mapM_map fun d hd => value?_digitChar (hlt d hd)]
  · rw [hds, List.length_map]

theorem number_replicate_zero (base k : Nat) (ds : List Nat) :
    number base (List.replicate k 0 ++ ds) = number base ds := by
  induction k with
  | zero => rfl
  | succ k ih =>
    rw [List.replicate_succ, List.cons_append, ← ih]
    show List.foldl _ (0 * base + 0) _ = _
    rw [Nat.zero_mul]
    rfl

end Digit

namespace Numeral

/-- A number without a sign is written as its digits, with zeros in front. -/
theorem Form.write_natCast {form : Form} (hmarker : form.marker = []) (width n : Nat) :
    form.write width n = (form.digits n).leftpad width '0' := by
  have hsign : ¬(n : Int) < 0 := Int.not_lt.mpr (Int.natCast_nonneg n)
  simp only [Form.write, signOf, if_neg hsign, hmarker, Int.natAbs_natCast, List.nil_append,
    List.length_nil, Nat.zero_add, List.leftpad]

theorem decimalChars_natCast (n : Nat) : decimalChars 0 n = Nat.toDigits 10 n := by
  rw [decimalChars, Form.write_natCast rfl, List.leftpad, Nat.zero_sub]
  rfl

theorem decimal_natCast (n : Nat) : decimal n = toString n := by
  rw [decimal, decimalChars_natCast, Nat.toString_eq_ofList_toDigits]

theorem length_decimalChars_le {n count : Nat} (hcount : 0 < count) (h : n < 10 ^ count) :
    (decimalChars 0 n).length ≤ count := by
  rw [decimalChars_natCast]
  exact (Nat.length_toDigits_le_iff (by decide) hcount).mpr h

/-- A number that fits the width is written in it. -/
theorem length_hexChars {n width : Nat} (hwidth : 0 < width) (h : n < 16 ^ width) :
    (hexChars width n).length = width := by
  have hdigits : (Nat.toDigits 16 n).length ≤ width :=
    (Nat.length_toDigits_le_iff (by decide) hwidth).mpr h
  have hcapital : hexForm.digits n = (Nat.toDigits 16 n).map Char.toUpper := rfl
  rw [hexChars, Form.write_natCast rfl, List.length_leftpad, hcapital, List.length_map]
  exact Nat.max_eq_left hdigits

/-! ### Reading what was written -/

/-- The character that a digit is written as. -/
def Form.char (form : Form) (d : Nat) : Char :=
  if form.capital then d.digitChar.toUpper else d.digitChar

theorem digit?_char {form : Form} (hbase : form.base ≤ 16) {d : Nat} (hd : d < form.base) :
    digit? form.base (form.char d) = some d := by
  have hread : ∀ capital : Bool, ∀ d < 16,
      digit? 16 (if capital then d.digitChar.toUpper else d.digitChar) = some d := by decide
  have h := hread form.capital d (Nat.lt_of_lt_of_le hd hbase)
  rw [digit?, Option.filter_eq_some_iff] at h ⊢
  exact ⟨h.1, decide_eq_true hd⟩

/-- A digit is no white space, no sign and no mark between digits. -/
theorem char_plain (form : Form) {d : Nat} (hd : d < 16) : Blank.isBlank (form.char d) = false ∧
    form.char d ∉ ['_', 'x', 'X', '+', '-'] ∧ (form.char d).toNat < 128 := by
  have hplain : ∀ capital : Bool, ∀ d < 16,
      let c := if capital then d.digitChar.toUpper else d.digitChar
      Blank.isBlank c = false ∧ c ∉ ['_', 'x', 'X', '+', '-'] ∧ c.toNat < 128 := by decide
  exact hplain form.capital d hd

theorem moreDigits?_eq_mapM (base : Nat) {text : List Char} (h : '_' ∉ text) :
    moreDigits? base text = text.mapM (digit? base) := by
  induction text with
  | nil => rfl
  | cons c rest ih =>
    rw [List.mem_cons, not_or] at h
    rw [moreDigits?, ih h.2, List.mapM_cons]
    rintro d more rfl
    exact absurd rfl h.1

theorem skipMarker_of_not_mem {text : List Char} (hlower : 'x' ∉ text) (hupper : 'X' ∉ text) :
    skipMarker text = text := by
  rw [skipMarker.eq_def]
  split
  · next z x rest =>
    have hx : (x = 'x' || x = 'X') = false := by
      simp only [List.mem_cons, not_or] at hlower hupper
      simp [Ne.symm hlower.2.1, Ne.symm hupper.2.1]
    rw [hx, Bool.and_false, if_neg Bool.false_ne_true]
  · rfl

theorem trim_of_solid {p : Char → Bool} {text : List Char} (h : ∀ c ∈ text, p c = false) :
    Blank.trim p text = text := by
  have hskip (text : List Char) (h : ∀ c ∈ text, p c = false) : Blank.skip p text = text := by
    cases text with
    | nil => rfl
    | cons c rest =>
      apply List.dropWhile_cons_of_neg
      rw [h c List.mem_cons_self]
      exact Bool.false_ne_true
  rw [Blank.trim, hskip text h, hskip _ fun c hc => h c (List.mem_reverse.mp hc), List.reverse_reverse]

/-- A text is a number in a form: digits behind a sign. -/
structure Form.Writes (form : Form) (text : List Char) (x : Int) (ds : List Nat) : Prop where
  text_eq : text = signOf x ++ ds.map form.char
  ne_nil : ds ≠ []
  below : ∀ d ∈ ds, d < form.base
  number_eq : Digit.number form.base ds = x.natAbs

theorem Form.digits_eq_map {form : Form} {n : Nat} {ds : List Nat}
    (h : Nat.toDigits form.base n = ds.map Nat.digitChar) : form.digits n = ds.map form.char := by
  rw [Form.digits, h]
  cases hcapital : form.capital with
  | true => simp [Form.char, hcapital]
  | false => simp [Form.char, hcapital]

theorem Form.exists_writes {form : Form} (hbase : 1 < form.base) (hmarker : form.marker = [])
    (width : Nat) (x : Int) : ∃ ds, form.Writes (form.write width x) x ds := by
  obtain ⟨ds, hds, hne, hbelow, hnumber⟩ := Digit.exists_toDigits hbase x.natAbs
  have hzero : '0' = form.char 0 := by
    rw [Form.char]
    cases form.capital <;> rfl
  refine ⟨List.replicate (width - ((signOf x).length + ds.length)) 0 ++ ds, ?_, ?_, ?_, ?_⟩
  · rw [Form.write, digits_eq_map hds, hmarker, List.append_nil, List.length_map, List.map_append,
      List.map_replicate, ← hzero, List.append_assoc]
  · exact List.append_ne_nil_of_right_ne_nil _ hne
  · intro d hd
    rcases List.mem_append.mp hd with hd | hd
    · rw [List.eq_of_mem_replicate hd]
      omega
    · exact hbelow d hd
  · rw [Digit.number_replicate_zero, hnumber]

section Writes

variable {form : Form} {text : List Char} {x : Int} {ds : List Nat} (h : form.Writes text x ds)
  (hbase : form.base ≤ 16)

include h hbase

theorem Form.Writes.forall_mem {P : Char → Prop} (hsign : P '-')
    (hdigit : ∀ d < 16, P (form.char d)) : ∀ c ∈ text, P c := by
  intro c hc
  rw [h.text_eq] at hc
  rcases List.mem_append.mp hc with hc | hc
  · rw [signOf] at hc
    split at hc
    · rwa [List.mem_singleton.mp hc]
    · cases hc
  · obtain ⟨d, hd, rfl⟩ := List.mem_map.mp hc
    exact hdigit d (Nat.lt_of_lt_of_le (h.below d hd) hbase)

theorem Form.Writes.isWord : Blank.IsWord text := by
  constructor
  · rw [h.text_eq]
    exact List.append_ne_nil_of_right_ne_nil _ (mt List.map_eq_nil_iff.mp h.ne_nil)
  · exact h.forall_mem hbase rfl fun d hd => (char_plain form hd).1

theorem Form.Writes.magnitude?_eq (host : Host) : magnitude? form.base (ds.map form.char) host =
    if tooMany host form.base ds then none else some x.natAbs := by
  have hplain : ∀ c ∈ ['_', 'x', 'X', '+', '-'], c ∉ ds.map form.char := by
    intro c hc hmem
    obtain ⟨d, hd, rfl⟩ := List.mem_map.mp hmem
    exact (char_plain form (Nat.lt_of_lt_of_le (h.below d hd) hbase)).2.1 hc
  have hskip : (if form.base = 16 then skipMarker (ds.map form.char) else ds.map form.char) =
      ds.map form.char := by
    rw [skipMarker_of_not_mem (hplain 'x' (by decide)) (hplain 'X' (by decide)), ite_self]
  have hdigits : digits? form.base (ds.map form.char) = some ds := by
    rw [← Digit.mapM_map fun d hd => digit?_char hbase (h.below d hd)]
    have hmark := hplain '_' (by decide)
    cases hds : ds.map form.char with
    | nil => exact absurd (List.map_eq_nil_iff.mp hds) h.ne_nil
    | cons c rest =>
      rw [hds, List.mem_cons, not_or] at hmark
      rw [digits?, moreDigits?_eq_mapM _ hmark.2, List.mapM_cons]
  simp only [magnitude?, hskip, hdigits, Option.bind_eq_bind, Option.bind_some, h.number_eq]

/-- **A written number is read back,** unless it has too many decimal digits. -/
theorem Form.Writes.read?_eq (host : Host) : read? form.base text host =
    if tooMany host form.base ds then none else some x := by
  have htrim : Blank.trim isMargin text = text := by
    apply trim_of_solid
    intro c hc
    rw [isMargin, (h.isWord hbase).solid c hc, Bool.false_and]
  have hmagnitude := h.magnitude?_eq hbase host
  rw [read?, htrim, h.text_eq, signOf]
  by_cases hx : x < 0
  · have habs : -(x.natAbs : Int) = x := by omega
    rw [if_pos hx]
    simp only [List.singleton_append, hmagnitude]
    split
    · rfl
    · exact congrArg some habs
  · have habs : (x.natAbs : Int) = x := by omega
    have hsigns : ∀ c ∈ ['+', '-'], (ds.map form.char).head? ≠ some c := by
      intro c hc hhead
      obtain ⟨d, hd, rfl⟩ := List.mem_map.mp (List.mem_of_mem_head? hhead)
      refine (char_plain form (Nat.lt_of_lt_of_le (h.below d hd) hbase)).2.1 ?_
      rcases List.mem_pair.mp hc with hsign | hsign
      · rw [hsign]
        decide
      · rw [hsign]
        decide
    rw [if_neg hx, List.nil_append]
    split
    · next rest hds => exact absurd (congrArg List.head? hds) (hsigns '+' (by decide))
    · next rest hds => exact absurd (congrArg List.head? hds) (hsigns '-' (by decide))
    · rw [hmagnitude]
      split
      · rfl
      · exact congrArg some habs

end Writes

theorem isWord_hexChars (width : Nat) (x : Int) : Blank.IsWord (hexChars width x) := by
  obtain ⟨ds, hds⟩ := hexForm.exists_writes (by decide) rfl width x
  exact hds.isWord (by decide)

theorem toNat_lt_of_mem_hexChars {width : Nat} {x : Int} : ∀ c ∈ hexChars width x, c.toNat < 128 := by
  obtain ⟨ds, hds⟩ := hexForm.exists_writes (by decide) rfl width x
  exact hds.forall_mem (by decide) (by decide) fun d hd => (char_plain hexForm hd).2.2

theorem read?_hexChars (width : Nat) (x : Int) : read? 16 (hexChars width x) = some x := by
  obtain ⟨ds, hds⟩ := hexForm.exists_writes (by decide) rfl width x
  exact hds.read?_eq (by decide) .usual

/-- A decimal number is a sign and digits, as many as its size asks for. -/
theorem exists_decimalChars (x : Int) : ∃ ds, decimalForm.Writes (decimalChars 0 x) x ds ∧
    ∀ most, 0 < most → (ds.length ≤ most ↔ x.natAbs < 10 ^ most) := by
  obtain ⟨ds, hds⟩ := decimalForm.exists_writes (by decide) rfl 0 x
  refine ⟨ds, hds, ?_⟩
  intro most hmost
  have hlength : ds.length = (Nat.toDigits 10 x.natAbs).length := by
    have htext := congrArg List.length hds.text_eq
    simp only [Form.write, Nat.zero_sub, Form.digits, decimalForm, List.length_append,
      List.length_map, List.length_nil, List.replicate_zero, Bool.false_eq_true, if_false] at htext
    omega
  rw [hlength]
  exact Nat.length_toDigits_le_iff (by decide) hmost

/-- **A decimal number is read back** exactly by the hosts that it is short enough for. -/
theorem read?_decimalChars (host : Host) (x : Int) : read? 10 (decimalChars 0 x) host =
    if host.Short x then some x else none := by
  obtain ⟨ds, hds, hlength⟩ := exists_decimalChars x
  have hcount : tooMany host decimalForm.base ds = true ↔ ¬host.Short x := by
    rw [← host.limit?_eq_none_iff]
    simp only [tooMany, decimalForm, Host.limit?]
    cases hdigits : host.digits with
    | none => simp
    | some most =>
      have hpos : 0 < most := Nat.lt_of_lt_of_le (by decide) (host.digits_ge most hdigits)
      have := hlength most hpos
      simp
      omega
  refine (hds.read?_eq (by decide) host).trans ?_
  simp only [hcount, ite_not]

end Numeral

end Microcore
