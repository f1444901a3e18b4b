/-
  Microcore/Proofs/Assembly/Reading.lean
  ======================================
  **A line that is accepted reads as its words say.**  `Reads` relates a line of the assembler to a
  list of words, with a case for each kind of statement, and `Reads.of_parse` shows that it holds
  between an accepted line and the words of its text.
-/
import Microcore.Proofs.Assembly.Meaning

namespace Microcore.Assembly

/-! ### The relation -/

/-- An argument is what an operand in upper case stands for. -/
inductive ReadsArgument : List Char → Argument → Prop where
  | literal {operand : List Char} {value : Byte} (plain : labelOf? operand = none)
      (value_eq : literalValue operand = value.toNat) : ReadsArgument operand (.literal value)
  | label {operand : List Char} {number : Nat} (label_eq : labelOf? operand = some number) :
      ReadsArgument operand (.label number)

inductive ReadsStatement (words : Words) : Option Statement → Prop where
  | nothing (origin : words.isOrigin = false) (code : words.code? = none) : ReadsStatement words none
  | origin {address : Byte} (origin : words.isOrigin = true) (code : words.code? = none)
      (value_eq : hexValue words.operand = address.toNat) :
      ReadsStatement words (some (.origin address))
  | instruction {i : Instruction} {argument : Argument} (origin : words.isOrigin = false)
      (code : words.code? = some i.code.toNat) (argument_eq : ReadsArgument words.operand argument) :
      ReadsStatement words (some (.instruction i argument))

/-- A line is what its words say. -/
structure Reads (words : Words) (line : Line) : Prop where
  label : line.label = words.label?
  statement : ReadsStatement words line.statement

theorem Reads.empty : Reads [] {} := ⟨rfl, .nothing rfl rfl⟩

theorem exists_of_map_eq_ok {α β : Type} {x : Except Fault α} {f : α → β} {b : β}
    (h : x.map f = .ok b) : ∃ a, x = .ok a ∧ f a = b := by
  cases x with
  | error fault => cases h
  | ok a =>
    cases h
    exact ⟨a, rfl, rfl⟩

/-! ### Numbers -/

theorem foldl_of_mapM {digits : List Char} {values : List Nat}
    (h : digits.mapM Digit.value? = some values) (start : Nat) :
    values.foldl (fun value digit => value * 10 + digit) start =
      digits.foldl (fun value c => value * 10 + (Digit.value? c).getD 0) start := by
  induction digits generalizing values start with
  | nil =>
    rw [List.mapM_nil] at h
    cases h
    rfl
  | cons c rest ih =>
    rw [List.mapM_cons] at h
    simp only [Option.bind_eq_bind, Option.bind_eq_some_iff, Option.pure_def,
      Option.some.injEq] at h
    obtain ⟨v, hc, vs, hrest, rfl⟩ := h
    rw [List.foldl_cons, List.foldl_cons, ih hrest, hc]
    rfl

theorem labelNumber?_eq {digits : List Char} {number : Nat}
    (h : labelNumber? ('$' :: digits) = some number) : number = decimalValue digits := by
  simp only [labelNumber?, Option.bind_eq_bind, Option.bind_eq_some_iff] at h
  obtain ⟨values, hvalues, h⟩ := h
  by_cases hlength : 0 < values.length ∧ values.length ≤ maxLabelDigits
  · rw [if_pos hlength] at h
    cases h
    exact foldl_of_mapM hvalues 0
  · rw [if_neg hlength] at h
    cases h

theorem toNat_lt_of_hexDigit? {c : Char} {value : Nat} (h : hexDigit? c = some value) :
    c.toNat < 71 := by
  rw [hexDigit?] at h
  by_cases hdigit : '0' ≤ c ∧ c ≤ '9'
  · have hle : c.toNat ≤ 57 := hdigit.2
    omega
  · rw [if_neg hdigit] at h
    by_cases hletter : 'A' ≤ c ∧ c ≤ 'F'
    · have hle : c.toNat ≤ 70 := hletter.2
      omega
    · rw [if_neg hletter] at h
      cases h

theorem hexDigit?_eq {c : Char} {value : Nat} (h : hexDigit? c = some value) :
    hexDigits.idxOf c = value ∧ value < 16 := by
  -- no character from 71 on is a digit, so it is enough to look at those below
  have hdecide : ∀ n < 71, ∀ v ∈ hexDigit? (Char.ofNat n),
      hexDigits.idxOf (Char.ofNat n) = v ∧ v < 16 := by decide
  have hc := hdecide c.toNat (toNat_lt_of_hexDigit? h)
  rw [Char.ofNat_toNat] at hc
  exact hc value h

theorem hexByte?_eq {digits : List Char} {value : Byte} (h : hexByte? digits = some value) :
    hexValue digits = value.toNat := by
  match digits with
  | [] => cases h
  | [c] =>
    simp only [hexByte?, Option.map_eq_some_iff] at h
    obtain ⟨v, hv, rfl⟩ := h
    obtain ⟨hidx, hlt⟩ := hexDigit?_eq hv
    simp only [hexValue, List.foldl_cons, List.foldl_nil, hidx, BitVec.toNat_ofNat]
    omega
  | [c, d] =>
    simp only [hexByte?, Option.bind_eq_bind, Option.bind_eq_some_iff, Option.pure_def,
      Option.some.injEq] at h
    obtain ⟨v, hv, w, hw, rfl⟩ := h
    obtain ⟨hv', hvlt⟩ := hexDigit?_eq hv
    obtain ⟨hw', hwlt⟩ := hexDigit?_eq hw
    simp only [hexValue, List.foldl_cons, List.foldl_nil, hv', hw', BitVec.toNat_ofNat]
    omega
  | _ :: _ :: _ :: _ => cases h

/-! ### Operands -/

theorem ofName?_eq {name : List Char} {value : Byte} (h : Operand.ofName? name = some value) :
    name ∈ indexNames ∧ 0xF8 + indexNames.idxOf name = value.toNat := by
  rw [Operand.ofName?, Option.map_eq_some_iff] at h
  obtain ⟨entry, hfind, rfl⟩ := h
  have hname := List.find?_some hfind
  rw [decide_eq_true_eq] at hname
  have hnames : ∀ entry ∈ Operand.names,
      entry.2 ∈ indexNames ∧ 0xF8 + indexNames.idxOf entry.2 = entry.1.toNat := by decide
  have hentry := hnames entry (List.mem_of_find?_eq_some hfind)
  rw [hname] at hentry
  exact hentry

theorem not_mem_indexNames {name : List Char} (h : Operand.ofName? name = none) :
    name ∉ indexNames := by
  rw [Operand.ofName?, Option.map_eq_none_iff, List.find?_eq_none] at h
  intro hmem
  have hnames : ∀ name ∈ indexNames, ∃ entry ∈ Operand.names, entry.2 = name := by decide
  obtain ⟨entry, hentry, hname⟩ := hnames name hmem
  exact h entry hentry (decide_eq_true hname)

theorem ok_of_hexByte? {digits word : List Char} {value : Byte}
    (h : (match hexByte? digits with
      | some value => Except.ok value
      | none => .error (⟨.operand, word⟩ : Fault)) = .ok value) : hexValue digits = value.toNat := by
  cases hbyte : hexByte? digits with
  | none =>
    rw [hbyte] at h
    cases h
  | some v =>
    rw [hbyte] at h
    cases h
    exact hexByte?_eq hbyte

/-- An operand that is accepted is no label, and is the number that it stands for. -/
theorem literal?_eq {kind : OperandKind} {word : List Char} {value : Byte}
    (h : literal? kind word = .ok value) :
    labelOf? (Letter.upper word) = none ∧ literalValue (Letter.upper word) = value.toNat := by
  simp only [literal?] at h
  split at h
  · cases h
  · next v hname hlabel =>
    constructor
    · rw [labelOf?]
      exact hlabel
    · by_cases hkind : kind = .register
      · rw [if_pos hkind] at h
        cases h
        obtain ⟨hmem, hvalue⟩ := ofName?_eq hname
        unfold literalValue
        rw [if_pos hmem, hvalue]
      · rw [if_neg hkind] at h
        cases h
  · next digits hname hpercent =>
    rw [hpercent] at hname ⊢
    refine ⟨rfl, ?_⟩
    by_cases hkind : kind = .register
    · rw [if_pos hkind] at h
      rw [literalValue, if_neg (not_mem_indexNames hname)]
      exact ok_of_hexByte? h
    · rw [if_neg hkind] at h
      cases h
  · next hname hlabel hpercent =>
    constructor
    · rw [labelOf?]
      exact hlabel
    · by_cases hkind : kind = .register
      · rw [if_pos hkind] at h
        cases h
      · rw [if_neg hkind] at h
        rw [literalValue, if_neg (not_mem_indexNames hname)]
        · exact ok_of_hexByte? h
        · exact hpercent

theorem literal?_immediate_eq {word : List Char} {value : Byte}
    (h : literal? .immediate word = .ok value) : hexValue (Letter.upper word) = value.toNat := by
  simp only [literal?] at h
  split at h
  · cases h
  · cases h
  · cases h
  · exact ok_of_hexByte? h

theorem ReadsArgument.of_argument? {kind : OperandKind} {word : List Char} {argument : Argument}
    (h : argument? kind word = .ok argument) : ReadsArgument (Letter.upper word) argument := by
  simp only [argument?] at h
  by_cases hlabel : kind = .label ∧ (Letter.upper word).head? = some '$'
  · rw [if_pos hlabel] at h
    obtain ⟨digits, hdigits⟩ := List.head?_eq_some_iff.mp hlabel.2
    rw [hdigits] at h ⊢
    cases hnumber : labelNumber? ('$' :: digits) with
    | none =>
      rw [hnumber] at h
      cases h
    | some number =>
      rw [hnumber] at h
      cases h
      rw [labelNumber?_eq hnumber]
      exact .label rfl
  · rw [if_neg hlabel] at h
    obtain ⟨value, hliteral, rfl⟩ := exists_of_map_eq_ok h
    obtain ⟨hplain, hvalue⟩ := literal?_eq hliteral
    exact .literal hplain hvalue

/-! ### Keywords -/

theorem keyword?_origin {word : List Char} (h : keyword? word = some .origin) :
    word = "ORG".toList := by
  rw [keyword?] at h
  by_cases hword : word = ['O', 'R', 'G']
  · exact hword
  · rw [if_neg hword, Option.map_eq_some_iff] at h
    obtain ⟨i, -, hi⟩ := h
    cases hi

theorem mem_standard_of_keyword? {word : List Char} {i : Instruction}
    (h : keyword? word = some (.instruction i)) :
    i ∈ Instruction.standard ∧ i.mnemonic.toList = word ∧ word ≠ "ORG".toList := by
  rw [keyword?] at h
  by_cases hword : word = ['O', 'R', 'G']
  · rw [if_pos hword] at h
    cases h
  · rw [if_neg hword, Option.map_eq_some_iff] at h
    obtain ⟨_, hfind, hi⟩ := h
    cases hi
    have hname := List.find?_some hfind
    rw [decide_eq_true_eq] at hname
    refine ⟨List.mem_of_find?_eq_some hfind, ?_, hword⟩
    rw [hname, String.toList_ofList]

theorem keyword?_instruction {word : List Char} {i : Instruction}
    (h : keyword? word = some (.instruction i)) :
    word ≠ "ORG".toList ∧ mnemonics.idxOf? word = some i.code.toNat := by
  have hcodes : ∀ i ∈ Instruction.standard,
      mnemonics.idxOf? i.mnemonic.toList = some i.code.toNat := by decide
  obtain ⟨hmem, rfl, horigin⟩ := mem_standard_of_keyword? h
  exact ⟨horigin, hcodes i hmem⟩

/-! ### Lines -/

theorem not_keyword_of_comment {word : List Char} (h : word.head? = some ';') :
    word ≠ "ORG".toList ∧ mnemonics.idxOf? word = none := by
  constructor
  · rintro rfl
    cases h
  · rw [List.idxOf?_eq_none_iff]
    intro hmem
    have hheads : ∀ word ∈ mnemonics, word.head? ≠ some ';' := by decide
    exact hheads word hmem h

theorem ReadsStatement.of_statement? {words : Words} {keyword : Keyword} {operand : List Char}
    {statement : Statement} (hkeyword : keyword? words.main = some keyword)
    (hoperand : words.operand = Letter.upper operand)
    (h : keyword.statement? operand = .ok statement) : ReadsStatement words (some statement) := by
  cases keyword with
  | origin =>
    have horigin := keyword?_origin hkeyword
    obtain ⟨address, hvalue, rfl⟩ := exists_of_map_eq_ok h
    refine .origin (decide_eq_true horigin) ?_ ?_
    · rw [Words.code?, horigin]
      decide
    · rw [hoperand]
      exact literal?_immediate_eq hvalue
  | instruction i =>
    obtain ⟨horigin, hcode⟩ := keyword?_instruction hkeyword
    obtain ⟨argument, hargument, rfl⟩ := exists_of_map_eq_ok h
    refine .instruction (decide_eq_false horigin) hcode ?_
    rw [hoperand]
    exact .of_argument? hargument

theorem ReadsStatement.of_ofBody {words : Words} {line : Line}
    (h : Line.ofBody words.body = .ok line) :
    line.label = none ∧ ReadsStatement words line.statement := by
  cases hbody : words.body with
  | nil =>
    rw [hbody] at h
    cases h
    have hmain : words.main = [] := by
      rw [Words.main, hbody]
      rfl
    refine ⟨rfl, .nothing ?_ ?_⟩
    · rw [Words.isOrigin, hmain]
      decide
    · rw [Words.code?, hmain]
      decide
  | cons word rest =>
    have hmain : words.main = Letter.upper word := by
      rw [Words.main, hbody]
      rfl
    rw [hbody] at h
    simp only [Line.ofBody, ← hmain] at h
    by_cases hcomment : words.main.head? = some ';'
    · rw [if_pos hcomment] at h
      cases h
      obtain ⟨horigin, hcode⟩ := not_keyword_of_comment hcomment
      exact ⟨rfl, .nothing (decide_eq_false horigin) hcode⟩
    · rw [if_neg hcomment] at h
      cases hkeyword : keyword? words.main with
      | none =>
        rw [hkeyword] at h
        cases h
      | some keyword =>
        rw [hkeyword] at h
        cases rest with
        | nil => cases h
        | cons operand rest =>
          have hoperand : words.operand = Letter.upper operand := by
            rw [Words.operand, hbody]
            rfl
          obtain ⟨statement, hstatement, rfl⟩ := exists_of_map_eq_ok h
          exact ⟨rfl, .of_statement? hkeyword hoperand hstatement⟩

/-- **An accepted line reads as its words say.** -/
theorem Reads.of_ofWords {words : Words} {line : Line} (h : Line.ofWords words = .ok line) :
    Reads words line := by
  by_cases hlabel : ∃ digits rest, words = ('$' :: digits) :: rest
  · obtain ⟨digits, rest, rfl⟩ := hlabel
    rw [Line.ofWords] at h
    cases hnumber : labelNumber? ('$' :: digits) with
    | none =>
      rw [hnumber] at h
      cases h
    | some number =>
      rw [hnumber] at h
      obtain ⟨body, hbody, rfl⟩ := exists_of_map_eq_ok h
      obtain ⟨-, hstatement⟩ := @ReadsStatement.of_ofBody (('$' :: digits) :: rest) _ hbody
      refine ⟨?_, hstatement⟩
      rw [labelNumber?_eq hnumber]
      rfl
  · have hplain : ∀ digits rest, words = ('$' :: digits) :: rest → False :=
      fun digits rest heq => hlabel ⟨digits, rest, heq⟩
    have hbody : words.body = words := by
      rw [Words.body]
      exact hplain
    have hwords : Line.ofWords words = Line.ofBody words.body := by
      rw [Line.ofWords, hbody]
      exact hplain
    rw [hwords] at h
    obtain ⟨hnone, hstatement⟩ := ReadsStatement.of_ofBody h
    refine ⟨?_, hstatement⟩
    rw [hnone, Words.label?]
    cases words with
    | nil => rfl
    | cons word rest =>
      show none = labelOf? word
      rw [labelOf?]
      rintro digits rfl
      exact hplain digits rest rfl

theorem Reads.of_parse {text : List Char} {line : Line} (h : Line.parse text = .ok line) :
    Reads (Blank.words text) line := by
  have hbare := Line.bare_parse text
  rw [h] at hbare
  obtain ⟨hlabel, hstatement⟩ := Reads.of_ofWords hbare.symm
  exact ⟨hlabel, hstatement⟩

end Microcore.Assembly
