/-
  Microcore/Proofs/Assembly/Fields.lean
  =====================================
  **Listed fields are read back.**  The label, the keyword and the operand of a line are listed in a
  form of their own: a label without leading zeros, an index-register operand as a number.  Each form
  is a word between white space that the reader takes for the same label, keyword or operand
  (`labelNumber?_labelText`, `keyword?_statementText`, `statement?_operandWord`).
-/
import Mathlib.Data.List.Basic
import Microcore.Assembly.Listing
import Microcore.Proofs.Text.Numeral
import Microcore.Proofs.Text.Words

namespace Microcore.Assembly

open Blank (isBlank IsWord)
open Listing (labelText byteText argumentText statementText)

/-! ### Labels -/

theorem toNat_of_isDigit {c : Char} (h : c.isDigit = true) : 48 ≤ c.toNat ∧ c.toNat ≤ 57 := by
  rw [Char.isDigit, Bool.and_eq_true, decide_eq_true_eq, decide_eq_true_eq] at h
  exact h

theorem isBlank_of_isDigit {c : Char} (h : c.isDigit = true) : isBlank c = false := by
  have hrange := toNat_of_isDigit h
  rw [← Bool.not_eq_true]
  simp only [isBlank, Bool.or_eq_true, Bool.and_eq_true, decide_eq_true_eq, beq_iff_eq]
  omega

theorem upperOf_of_isDigit {c : Char} (h : c.isDigit = true) : Letter.upperOf c = [c] := by
  have hrange := toNat_of_isDigit h
  have hlower : ¬(c.val ≥ 'a'.val ∧ c.val ≤ 'z'.val) := by
    rintro ⟨hge, -⟩
    have hle : 97 ≤ c.toNat := hge
    omega
  have hupper : c.toUpper = c := dif_neg hlower
  rw [Letter.upperOf, if_pos (by omega : c.toNat < 128), hupper]

theorem eq_or_isDigit_of_mem_labelText {number : Nat} :
    ∀ c ∈ labelText number, c = '$' ∨ c.isDigit = true := by
  intro c hc
  rcases List.mem_cons.mp hc with rfl | hdigit
  · exact .inl rfl
  · rw [Numeral.decimalChars_natCast] at hdigit
    exact .inr (Nat.isDigit_of_mem_toDigits (by decide) (by decide) hdigit)

theorem isWord_labelText (number : Nat) : IsWord (labelText number) := by
  refine ⟨List.cons_ne_nil _ _, ?_⟩
  intro c hc
  rcases eq_or_isDigit_of_mem_labelText c hc with rfl | hdigit
  · decide
  · exact isBlank_of_isDigit hdigit

theorem lt_of_mapM_value? {digits : List Char} {values : List Nat}
    (h : digits.mapM Digit.value? = some values) : ∀ v ∈ values, v < 10 := by
  induction digits generalizing values with
  | nil =>
    rw [List.mapM_nil] at h
    cases h
    intro v hv
    cases hv
  | cons c rest ih =>
    rw [List.mapM_cons] at h
    simp only [Option.bind_eq_bind, Option.bind_eq_some_iff, Option.pure_def,
      Option.some.injEq] at h
    obtain ⟨v, hc, vs, hrest, rfl⟩ := h
    intro w hw
    rcases List.mem_cons.mp hw with rfl | hmem
    · exact Digit.value?_lt hc
    · exact ih hrest w hmem

theorem lt_of_labelNumber? {word : List Char} {number : Nat} (h : labelNumber? word = some number) :
    number < 10000 := by
  rw [labelNumber?.eq_def] at h
  split at h
  · simp only [Option.bind_eq_bind, Option.bind_eq_some_iff] at h
    obtain ⟨values, hvalues, h⟩ := h
    by_cases hlength : 0 < values.length ∧ values.length ≤ maxLabelDigits
    · rw [if_pos hlength] at h
      cases h
      calc Digit.number 10 values
        _ < 10 ^ values.length := Digit.number_lt (lt_of_mapM_value? hvalues)
        _ ≤ 10 ^ 4 := Nat.pow_le_pow_right (by decide) hlength.2
    · rw [if_neg hlength] at h
      cases h
  · cases h

/-- **A listed label is read back.** -/
theorem labelNumber?_labelText {number : Nat} (h : number < 10000) :
    labelNumber? (labelText number) = some number := by
  obtain ⟨values, hvalues, hlength, hnumber⟩ := Digit.mapM_value?_toDigits number
  have hcount : (Nat.toDigits 10 number).length ≤ maxLabelDigits :=
    (Nat.length_toDigits_le_iff (by decide) (by decide)).mpr h
  have hpos : 0 < (Nat.toDigits 10 number).length := Nat.length_toDigits_pos
  rw [← hlength] at hcount hpos
  simp only [labelNumber?, labelText, Numeral.decimalChars_natCast, hvalues, Option.bind_eq_bind,
    Option.bind_some, hpos, hcount, and_self, if_true, hnumber]

/-! ### Bytes -/

/-- The digit that a listed number has for a value below sixteen. -/
def hexChar (d : Nat) : Char := d.digitChar.toUpper

theorem hexChars_two (value : Byte) : Numeral.hexChars 2 value.toNat =
    [hexChar (value.toNat / 16), hexChar (value.toNat % 16)] := by
  have hlt := value.isLt
  have hsign : ¬(value.toNat : Int) < 0 := Int.not_lt.mpr (Int.natCast_nonneg _)
  simp only [Numeral.hexChars, Numeral.Form.write, Numeral.signOf, if_neg hsign,
    Numeral.Form.digits, Numeral.hexForm, Int.natAbs_natCast]
  by_cases hsmall : value.toNat < 16
  · rw [Nat.toDigits_of_lt_base hsmall, Nat.div_eq_of_lt hsmall, Nat.mod_eq_of_lt hsmall]
    rfl
  · rw [Nat.toDigits_of_base_le (by decide) (Nat.not_lt.mp hsmall),
      Nat.toDigits_of_lt_base (by omega : value.toNat / 16 < 16)]
    rfl

section HexChar

variable {d : Nat} (h : d < 16)

include h

theorem isBlank_hexChar : isBlank (hexChar d) = false := by
  revert d
  decide

theorem hexDigit?_hexChar : hexDigit? (hexChar d) = some d := by
  revert d
  decide

theorem upperOf_hexChar : Letter.upperOf (hexChar d) = [hexChar d] := by
  revert d
  decide

theorem hexChar_ne : hexChar d ∉ ['$', '%', 'I', '-'] := by
  revert d
  decide

end HexChar

/-- A listed byte looks like no other kind of operand. -/
theorem not_mem_of_head? {value : Byte} {c : Char}
    (h : (Numeral.hexChars 2 value.toNat).head? = some c) : c ∉ ['$', '%', 'I', '-'] := by
  have hlt := value.isLt
  rw [hexChars_two, List.head?_cons, Option.some.injEq] at h
  rw [← h]
  exact hexChar_ne (by omega)

theorem hexByte?_hexChars (value : Byte) :
    hexByte? (Numeral.hexChars 2 value.toNat) = some value := by
  have hlt := value.isLt
  rw [hexChars_two, hexByte?, hexDigit?_hexChar (by omega), hexDigit?_hexChar (by omega)]
  show some (BitVec.ofNat 8 (value.toNat / 16 * 16 + value.toNat % 16)) = some value
  rw [Nat.div_add_mod', BitVec.ofNat_toNat, BitVec.setWidth_eq]

theorem upper_hexChars (value : Byte) :
    Letter.upper (Numeral.hexChars 2 value.toNat) = Numeral.hexChars 2 value.toNat := by
  have hlt := value.isLt
  rw [hexChars_two, Letter.upper, List.flatMap_cons, List.flatMap_cons,
    upperOf_hexChar (by omega), upperOf_hexChar (by omega)]
  rfl

theorem isWord_hexChars (value : Byte) : IsWord (Numeral.hexChars 2 value.toNat) := by
  have hlt := value.isLt
  rw [hexChars_two]
  refine ⟨List.cons_ne_nil _ _, ?_⟩
  intro c hc
  rw [List.mem_cons, List.mem_singleton] at hc
  rcases hc with rfl | rfl
  · exact isBlank_hexChar (by omega)
  · exact isBlank_hexChar (by omega)

theorem byteText_eq (value : Byte) : byteText value = ' ' :: Numeral.hexChars 2 value.toNat := by
  rw [byteText, Numeral.padStart, hexChars_two]
  rfl

/-! ### Operands -/

/-- A name of an index-register mode is told by its second character. -/
theorem ofName?_eq_none {name : List Char} {d : Nat} (h : d < 16)
    (hname : name[1]? = some (hexChar d)) : Operand.ofName? name = none := by
  rw [Operand.ofName?, Option.map_eq_none_iff, List.find?_eq_none]
  intro entry hentry heq
  rw [decide_eq_true_eq] at heq
  have hnames : ∀ entry ∈ Operand.names, entry.2[1]? = some 'I' ∨ entry.2[1]? = some '-' := by decide
  have hne := hexChar_ne h
  rcases hnames entry hentry with hsecond | hsecond
  all_goals
    rw [heq, hname, Option.some.injEq] at hsecond
    rw [hsecond] at hne
    revert hne
    decide

theorem literal?_register (value : Byte) :
    literal? .register ('%' :: Numeral.hexChars 2 value.toNat) = .ok value := by
  have hlt := value.isLt
  have hupper : Letter.upper ('%' :: Numeral.hexChars 2 value.toNat) =
      '%' :: Numeral.hexChars 2 value.toNat := by
    rw [← List.singleton_append, Letter.upper_append, upper_hexChars]
    rfl
  have hname : Operand.ofName? ('%' :: Numeral.hexChars 2 value.toNat) = none := by
    rw [hexChars_two]
    exact ofName?_eq_none (by omega : value.toNat / 16 < 16) rfl
  simp only [literal?, hupper, hname, hexByte?_hexChars, if_true]

theorem literal?_hexChars (value : Byte) {kind : OperandKind} (h : kind ≠ .register) :
    literal? kind (Numeral.hexChars 2 value.toNat) = .ok value := by
  have hlt := value.isLt
  have hname : Operand.ofName? (Numeral.hexChars 2 value.toNat) = none := by
    rw [hexChars_two]
    exact ofName?_eq_none (by omega : value.toNat % 16 < 16) rfl
  simp only [literal?, upper_hexChars, hname]
  split
  · next hdollar => exact absurd (by decide) (not_mem_of_head? (congrArg List.head? hdollar))
  · next hsome _ => cases hsome
  · next hpercent => exact absurd (by decide) (not_mem_of_head? (congrArg List.head? hpercent))
  · rw [if_neg h, hexByte?_hexChars]

/-- An argument as it is listed, without the blank in front of it. -/
def argumentWord (kind : OperandKind) : Argument → List Char
  | .label number => labelText number
  | .literal value =>
    if kind = .register then '%' :: Numeral.hexChars 2 value.toNat
    else Numeral.hexChars 2 value.toNat

theorem isWord_argumentWord (kind : OperandKind) (argument : Argument) :
    IsWord (argumentWord kind argument) := by
  cases argument with
  | label number => exact isWord_labelText number
  | literal value =>
    have hword := isWord_hexChars value
    rw [argumentWord]
    by_cases hkind : kind = .register
    · rw [if_pos hkind]
      refine ⟨List.cons_ne_nil _ _, ?_⟩
      intro c hc
      rcases List.mem_cons.mp hc with rfl | hdigit
      · decide
      · exact hword.solid c hdigit
    · rw [if_neg hkind]
      exact hword

theorem argumentText_eq (kind : OperandKind) (argument : Argument) :
    ∃ n, argumentText kind argument = List.replicate n ' ' ++ argumentWord kind argument := by
  cases argument with
  | label number => exact ⟨0, rfl⟩
  | literal value =>
    rw [argumentText, argumentWord]
    by_cases hkind : kind = .register
    · rw [if_pos hkind, if_pos hkind]
      exact ⟨0, rfl⟩
    · rw [if_neg hkind, if_neg hkind, byteText_eq]
      exact ⟨1, rfl⟩

/-- Whether an argument may follow an instruction with a kind of operand. -/
def Argument.Fits (kind : OperandKind) : Argument → Prop
  | literal _ => True
  | label number => kind = .label ∧ number < 10000

theorem upper_labelText (number : Nat) : Letter.upper (labelText number) = labelText number := by
  have hlabel : ∀ c ∈ labelText number, Letter.upperOf c = [c] := by
    intro c hc
    rcases eq_or_isDigit_of_mem_labelText c hc with rfl | hdigit
    · decide
    · exact upperOf_of_isDigit hdigit
  rw [Letter.upper, List.flatMap_congr hlabel, List.flatMap_singleton']

/-- **A listed argument is read back.** -/
theorem argument?_argumentWord {kind : OperandKind} {argument : Argument}
    (h : argument.Fits kind) : argument? kind (argumentWord kind argument) = .ok argument := by
  cases argument with
  | label number =>
    obtain ⟨rfl, hnumber⟩ := h
    have hlabel := labelNumber?_labelText hnumber
    simp only [argument?, argumentWord, upper_labelText, hlabel]
    rfl
  | literal value =>
    by_cases hkind : kind = .register
    · subst hkind
      simp only [argument?, argumentWord, if_true, literal?_register]
      rfl
    · have hdollar : ¬(kind = .label ∧ (Numeral.hexChars 2 value.toNat).head? = some '$') := by
        rintro ⟨-, hhead⟩
        exact not_mem_of_head? hhead (by decide)
      simp only [argument?, argumentWord, if_neg hkind, upper_hexChars, if_neg hdollar,
        literal?_hexChars value hkind]
      rfl

/-! ### Statements -/

namespace Statement

def keyword : Statement → Keyword
  | origin _ => .origin
  | instruction i _ => .instruction i

/-- The operand as it is listed, without the blank in front of it. -/
def operandWord : Statement → List Char
  | origin address => Numeral.hexChars 2 address.toNat
  | instruction i argument => argumentWord i.kind argument

/-- A statement that a source may hold. -/
def Fits : Statement → Prop
  | origin _ => True
  | instruction i argument => i ∈ Instruction.standard ∧ argument.Fits i.kind

end Statement

theorem isWord_operandWord (s : Statement) : IsWord s.operandWord := by
  cases s with
  | origin address => exact isWord_hexChars address
  | instruction i argument => exact isWord_argumentWord i.kind argument

theorem statementText_snd_eq (s : Statement) :
    ∃ n, (statementText s).2 = List.replicate n ' ' ++ s.operandWord := by
  cases s with
  | origin address =>
    refine ⟨1, ?_⟩
    rw [statementText, byteText_eq]
    rfl
  | instruction i argument => exact argumentText_eq i.kind argument

/-- **A listed operand is read back.** -/
theorem statement?_operandWord {s : Statement} (h : s.Fits) :
    s.keyword.statement? s.operandWord = .ok s := by
  cases s with
  | origin address =>
    simp only [Statement.keyword, Keyword.statement?, Statement.operandWord,
      literal?_hexChars address (by decide : OperandKind.immediate ≠ .register)]
    rfl
  | instruction i argument =>
    simp only [Statement.keyword, Keyword.statement?, Statement.operandWord,
      argument?_argumentWord h.2]
    rfl

/-- **A listed keyword is read back.** -/
theorem keyword?_statementText {s : Statement} (h : s.Fits) :
    keyword? (Letter.upper (statementText s).1) = some s.keyword := by
  cases s with
  | origin address => rfl
  | instruction i argument =>
    have hstandard : ∀ i ∈ Instruction.standard,
        keyword? (Letter.upper i.mnemonic.toList) = some (.instruction i) := by decide
    exact hstandard i h.1

/-- A word that looks like a label or a comment is no keyword. -/
theorem keyword?_eq_none {word : List Char} {c : Char} (hhead : word.head? = some c)
    (hc : c = '$' ∨ c = ';') : keyword? word = none := by
  have horigin : word ≠ ['O', 'R', 'G'] := by
    rintro rfl
    cases hhead
    revert hc
    decide
  have hstandard : ∀ i ∈ Instruction.standard, i.mnemonic.toList.head? ≠ some '$' ∧
      i.mnemonic.toList.head? ≠ some ';' := by decide
  rw [keyword?, if_neg horigin, Option.map_eq_none_iff, Instruction.ofMnemonic?, List.find?_eq_none]
  intro i hi hword
  obtain ⟨hlabel, hcomment⟩ := hstandard i hi
  rw [decide_eq_true_eq] at hword
  rw [hword, String.toList_ofList, hhead] at hlabel hcomment
  rcases hc with rfl | rfl
  · exact hlabel rfl
  · exact hcomment rfl

theorem isWord_statementText {s : Statement} (h : s.Fits) : IsWord (statementText s).1 := by
  have hstandard : ∀ i ∈ Instruction.standard, i.mnemonic.toList ≠ [] ∧
      i.mnemonic.toList.all (fun c => !isBlank c) = true := by decide
  cases s with
  | origin address => exact .of_all (by decide : ['O', 'R', 'G'] ≠ []) rfl
  | instruction i argument => exact .of_all (hstandard i h.1).1 (hstandard i h.1).2

/-- A word that looks like a label is no comment either. -/
theorem not_keyword_of_dollar (digits : List Char) :
    (Letter.upper ('$' :: digits)).head? ≠ some ';' ∧ keyword? (Letter.upper ('$' :: digits)) = none := by
  have hhead : (Letter.upper ('$' :: digits)).head? = some '$' := rfl
  refine ⟨?_, keyword?_eq_none hhead (by decide)⟩
  rw [hhead]
  decide

/-- **A keyword and an operand that suits it are read** as a statement, whatever stands around them. -/
theorem parseBody_of_keyword {text word rest operand tail : List Char} {keyword : Keyword}
    {s : Statement} (hword : Blank.nextWord? text = some (word, rest))
    (hkeyword : keyword? (Letter.upper word) = some keyword)
    (hoperand : Blank.nextWord? rest = some (operand, tail)) (hs : keyword.statement? operand = .ok s) :
    Line.parseBody text = .ok { statement := some s, comment := comment? tail } := by
  have hcomment : (Letter.upper word).head? ≠ some ';' := by
    intro hhead
    rw [keyword?_eq_none hhead (by decide)] at hkeyword
    cases hkeyword
  simp only [Line.parseBody, hword, if_neg hcomment, hkeyword, hoperand, hs]
  rfl

end Microcore.Assembly
