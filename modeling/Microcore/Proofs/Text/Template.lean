/-
  Microcore/Proofs/Text/Template.lean
  ===================================
  **Templates that fit their arguments.**  `Fits` says which templates go with which arguments, for the
  conversions `%d`, `%s` and zero-filled `%x`, and what they are filled to.  Such a template is filled
  whatever integers and texts the arguments are (`Fits.message_eq`): no report made from it can fail.
-/
import Mathlib.Tactic.IntervalCases
import Microcore.Text.Template

namespace Microcore.Template

open Numeral

/-- A template, arguments that fit it, and the text that it is filled to. -/
inductive Fits : List Char → List Arg → List Char → Prop where
  | done : Fits [] [] []
  | plain (c : Char) (hc : c ≠ '%') {template : List Char} {args : List Arg} {text : List Char}
      (rest : Fits template args text) : Fits (c :: template) args (c :: text)
  | decimal (n : Int) {template : List Char} {args : List Arg} {text : List Char}
      (rest : Fits template args text) :
      Fits ('%' :: 'd' :: template) (.number n :: args) (decimalChars 0 n ++ text)
  | hex (width : Nat) (hwidth : 0 < width ∧ width < 10) (n : Int) {template : List Char}
      {args : List Arg} {text : List Char} (rest : Fits template args text) :
      Fits ('%' :: '0' :: width.digitChar :: 'x' :: template) (.number n :: args)
        (hexLowerChars width n ++ text)
  | word (value : String) {template : List Char} {args : List Arg} {text : List Char}
      (rest : Fits template args text) :
      Fits ('%' :: 's' :: template) (.text value :: args) (value.toList ++ text)

theorem Fits.append (plain : String) (h : '%' ∉ plain.toList) {template : List Char} {args : List Arg}
    {text : List Char} (rest : Fits template args text) :
    Fits (plain.toList ++ template) args (plain.toList ++ text) := by
  generalize plain.toList = plain at h
  induction plain with
  | nil => exact rest
  | cons c plain ih =>
    obtain ⟨hc, hplain⟩ := List.ne_and_not_mem_of_not_mem_cons h
    exact .plain c hc.symm (ih hplain)

/-! ### Conversions -/

theorem readConversion_decimal (rest : List Char) (args : List Arg) :
    readConversion ('d' :: rest) args = .ok (⟨{}, 0, none⟩, 'd' :: rest, args) := rfl

theorem readConversion_word (rest : List Char) (args : List Arg) :
    readConversion ('s' :: rest) args = .ok (⟨{}, 0, none⟩, 's' :: rest, args) := rfl

theorem readConversion_hex {width : Nat} (h : 0 < width ∧ width < 10) (rest : List Char)
    (args : List Arg) : readConversion ('0' :: width.digitChar :: 'x' :: rest) args =
      .ok (⟨{ zeros := true }, width, none⟩, 'x' :: rest, args) := by
  obtain ⟨hpos, hlt⟩ := h
  interval_cases width <;> rfl

variable {host : Host}

/-- Without a width and without flags a field is shown as it is. -/
theorem align_bare (field : Field) :
    Conversion.align ⟨{}, 0, none⟩ host field = .ok (field.head ++ field.body) := by
  simp [Conversion.align, padStart]

/-- Zeros fill a number up to its width, and no blank is left in front of it.  Every host has room for
    so many. -/
theorem align_zeros {width : Nat} (hlt : width < 10) (head body : List Char) :
    Conversion.align ⟨{ zeros := true }, width, none⟩ host { head, body, numeric := true } =
      .ok (head ++ List.replicate (width - (head.length + body.length)) '0' ++ body) := by
  have hmemory := host.memory_le
  have hheld : ¬host.room < width := by omega
  have hfull : width - (head.length + (width - (head.length + body.length) + body.length)) = 0 := by
    omega
  simp [Conversion.align, padStart, hheld, hfull]

/-- The field of an integer in a conversion whose flags leave its head alone. -/
theorem integer_eq {flags : Flags} (hplus : flags.plus = false) (hblank : flags.blank = false)
    (hmarked : flags.marked = false) (width : Nat) (form : Form) (n : Int) :
    Conversion.integer ⟨flags, width, none⟩ form n =
      .ok { head := signOf n, body := form.digits n.natAbs, numeric := true } := by
  simp [Conversion.integer, Flags.sign, signOf, maxIntegerPrecision, hplus, hblank, hmarked]

/-! ### Filling -/

/-- A conversion is filled with the next argument, and then the rest of the template. -/
theorem fillFrom_conversion {c letter : Char} {template rest : List Char} {arg : Arg} {args : List Arg}
    {conversion : Conversion} {field : Field} {shown text : List Char} {fuel : Nat} (hc : c ≠ '%')
    (hread : readConversion (c :: template) (arg :: args) = .ok (conversion, letter :: rest, arg :: args))
    (hfield : conversion.field letter arg = .ok field)
    (halign : conversion.align host field = .ok shown) (hrest : fillFrom host fuel rest args = .ok text) :
    fillFrom host (fuel + 1) ('%' :: c :: template) (arg :: args) = .ok (shown ++ text) := by
  rw [fillFrom, hread]
  · simp only [bind, Except.bind, hfield, halign, hrest]
    rfl
  · intro rest hpercent
    exact hc (List.cons.inj hpercent).1

/-- A template that fits its arguments is filled, with any fuel that lasts for its characters. -/
theorem Fits.fillFrom_eq {template : List Char} {args : List Arg} {text : List Char}
    (h : Fits template args text) {fuel : Nat} (hfuel : template.length ≤ fuel) :
    fillFrom host fuel template args = .ok text := by
  induction h generalizing fuel with
  | done => simp [fillFrom]
  | plain c hc rest ih =>
    obtain ⟨fuel, rfl⟩ := Nat.exists_eq_add_of_lt hfuel
    simp [fillFrom, hc, ih]
  | decimal n rest ih =>
    obtain ⟨fuel, rfl⟩ := Nat.exists_eq_add_of_lt hfuel
    have hshown : signOf n ++ decimalForm.digits n.natAbs = decimalChars 0 n := by
      simp [decimalChars, Form.write, decimalForm]
    exact fillFrom_conversion (by decide) (readConversion_decimal _ _) (integer_eq rfl rfl rfl _ _ n)
      ((align_bare _).trans (congrArg _ hshown)) (ih (by simp only [List.length_cons]; omega))
  | hex width hwidth n rest ih =>
    obtain ⟨fuel, rfl⟩ := Nat.exists_eq_add_of_lt hfuel
    have hshown : signOf n ++ List.replicate (width - ((signOf n).length +
        (hexMarkedForm.digits n.natAbs).length)) '0' ++ hexMarkedForm.digits n.natAbs =
          hexLowerChars width n := by
      simp [hexLowerChars, Form.write, hexLowerForm, hexMarkedForm, Form.digits]
    exact fillFrom_conversion (by decide) (readConversion_hex hwidth _ _)
      (integer_eq rfl rfl rfl _ _ n) ((align_zeros hwidth.2 _ _).trans (congrArg _ hshown))
      (ih (by simp only [List.length_cons]; omega))
  | word value rest ih =>
    obtain ⟨fuel, rfl⟩ := Nat.exists_eq_add_of_lt hfuel
    exact fillFrom_conversion (by decide) (readConversion_word _ _) rfl (align_bare _)
      (ih (by simp only [List.length_cons]; omega))

/-- **A template that fits its arguments is filled**, as a message with at least one of them, on every
    host. -/
theorem Fits.message_eq {template text : String} {arg : Arg} {args : List Arg}
    (h : Fits template.toList (arg :: args) text.toList) (host : Host) :
    message template (arg :: args) host = .ok text := by
  have hfill : fill template.toList (arg :: args) host = .ok text.toList :=
    h.fillFrom_eq (Nat.le_refl _)
  simp only [message, hfill, String.ofList_toList]

end Microcore.Template
