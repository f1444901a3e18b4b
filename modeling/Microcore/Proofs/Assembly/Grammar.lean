/-
  Microcore/Proofs/Assembly/Grammar.lean
  ======================================
  **The grammar of source lines.**  Which lists of words a line may hold is given by rules, without a
  word on how they are read: labels and bytes first, then the operands of each kind, then whole lines
  (`Good`).  The reader accepts exactly these lists (`good_iff`), so a source is refused exactly when a
  line of it is outside the grammar, and each such line is reported by itself.
-/
import Mathlib.Data.List.Forall2
import Microcore.Proofs.Assembly.Fields
import Microcore.Proofs.Assembly.TwoPass
import Microcore.Proofs.Text.Letter

namespace Microcore.Assembly

/-! ### The rules -/

/-- A label: a dollar sign and one to four decimal digits. -/
inductive IsLabel : List Char → Prop where
  | digits {digits : List Char} (pos : 1 ≤ digits.length) (le : digits.length ≤ 4)
      (decimal : ∀ c ∈ digits, Digit.isDecimal c = true) : IsLabel ('$' :: digits)

/-- A byte: one or two hexadecimal digits. -/
inductive IsByte : List Char → Prop where
  | one {c : Char} (h : c ∈ hexDigits) : IsByte [c]
  | two {c d : Char} (hc : c ∈ hexDigits) (hd : d ∈ hexDigits) : IsByte [c, d]

/-- An operand of a kind, in upper case. -/
inductive IsOperand : OperandKind → List Char → Prop where
  | indexName {operand : List Char} (h : operand ∈ indexNames) : IsOperand .register operand
  | register {digits : List Char} (h : IsByte digits) : IsOperand .register ('%' :: digits)
  | immediate {operand : List Char} (h : IsByte operand) : IsOperand .immediate operand
  | address {operand : List Char} (h : IsByte operand) : IsOperand .label operand
  | label {operand : List Char} (h : IsLabel operand) : IsOperand .label operand

/-- The main words that take an operand of a kind. -/
def mainWords : OperandKind → List (List Char)
  | .register => ["ANA", "XRA", "ADA", "SBA", "JPR", "LDA", "STA", "STX"].map String.toList
  | .immediate => ["ANI", "XRI", "ADI", "SBI", "LDI", "ORG"].map String.toList
  | .label => ["BNC", "BNZ", "JMP"].map String.toList

/-- The words behind a label: none, a comment, or a main word, its operand and whatever follows. -/
inductive IsBody : Words → Prop where
  | empty : IsBody []
  | comment {word : List Char} (rest : Words) (h : word.head? = some ';') : IsBody (word :: rest)
  | statement {kind : OperandKind} {main operand : List Char} (rest : Words)
      (hmain : Letter.upper main ∈ mainWords kind) (h : IsOperand kind (Letter.upper operand)) :
      IsBody (main :: operand :: rest)

/-- The words of a line in the grammar. -/
inductive Good : Words → Prop where
  | plain {words : Words} (h : IsBody words) : Good words
  | labelled {label : List Char} {rest : Words} (hlabel : IsLabel label) (h : IsBody rest) :
      Good (label :: rest)

/-! ### Labels and bytes -/

theorem exists_mapM_value? {digits : List Char} (h : ∀ c ∈ digits, Digit.isDecimal c = true) :
    ∃ values, digits.mapM Digit.value? = some values ∧ values.length = digits.length := by
  induction digits with
  | nil => exact ⟨[], rfl, rfl⟩
  | cons c rest ih =>
    obtain ⟨v, hv⟩ := Option.isSome_iff_exists.mp (h c List.mem_cons_self)
    obtain ⟨values, hvalues, hlength⟩ := ih fun d hd => h d (List.mem_cons_of_mem c hd)
    refine ⟨v :: values, ?_, congrArg Nat.succ hlength⟩
    rw [List.mapM_cons, hv, hvalues]
    rfl

theorem isDecimal_of_mapM_value? {digits : List Char} {values : List Nat}
    (h : digits.mapM Digit.value? = some values) :
    values.length = digits.length ∧ ∀ c ∈ digits, Digit.isDecimal c = true := by
  induction digits generalizing values with
  | nil =>
    rw [List.mapM_nil] at h
    cases h
    exact ⟨rfl, fun c hc => by cases hc⟩
  | cons c rest ih =>
    rw [List.mapM_cons] at h
    simp only [Option.bind_eq_bind, Option.bind_eq_some_iff, Option.pure_def,
      Option.some.injEq] at h
    obtain ⟨v, hc, vs, hrest, rfl⟩ := h
    obtain ⟨hlength, hdecimal⟩ := ih hrest
    refine ⟨congrArg Nat.succ hlength, ?_⟩
    intro d hd
    rcases List.mem_cons.mp hd with rfl | hmem
    · rw [Digit.isDecimal, hc]
      rfl
    · exact hdecimal d hmem

/-- **Labels are what has a number.** -/
theorem isLabel_iff {word : List Char} :
    IsLabel word ↔ ∃ number, labelNumber? word = some number := by
  constructor
  · rintro ⟨hpos, hle, hdecimal⟩
    obtain ⟨values, hvalues, hlength⟩ := exists_mapM_value? hdecimal
    have hcount : 0 < values.length ∧ values.length ≤ maxLabelDigits := by
      rw [hlength]
      exact ⟨hpos, hle⟩
    simp only [labelNumber?, hvalues, Option.bind_eq_bind, Option.bind_some, if_pos hcount]
    exact ⟨_, rfl⟩
  · rintro ⟨number, h⟩
    rw [labelNumber?.eq_def] at h
    split at h
    · simp only [Option.bind_eq_bind, Option.bind_eq_some_iff] at h
      obtain ⟨values, hvalues, h⟩ := h
      obtain ⟨hlength, hdecimal⟩ := isDecimal_of_mapM_value? hvalues
      by_cases hcount : 0 < values.length ∧ values.length ≤ maxLabelDigits
      · rw [hlength] at hcount
        exact .digits hcount.1 hcount.2 hdecimal
      · rw [if_neg hcount] at h
        cases h
    · cases h

theorem IsLabel.head? {word : List Char} (h : IsLabel word) : word.head? = some '$' := by
  rcases h with ⟨-, -, -⟩
  rfl

theorem mem_hexDigits_iff {c : Char} : c ∈ hexDigits ↔ ∃ value, hexDigit? c = some value := by
  constructor
  · intro hmem
    have hdigits : hexDigits.all (fun c => (hexDigit? c).isSome) = true := by decide
    exact Option.isSome_iff_exists.mp (List.all_eq_true.mp hdigits c hmem)
  · rintro ⟨value, h⟩
    obtain ⟨hindex, hlt⟩ := hexDigit?_eq h
    rw [← List.idxOf_lt_length_iff, hindex]
    exact hlt

/-- **Bytes are what has a value.** -/
theorem isByte_iff {word : List Char} : IsByte word ↔ ∃ value, hexByte? word = some value := by
  constructor
  · intro h
    rcases h with hc | ⟨hc, hd⟩
    · obtain ⟨v, hv⟩ := mem_hexDigits_iff.mp hc
      simp only [hexByte?, hv, Option.map_some]
      exact ⟨_, rfl⟩
    · obtain ⟨v, hv⟩ := mem_hexDigits_iff.mp hc
      obtain ⟨w, hw⟩ := mem_hexDigits_iff.mp hd
      simp only [hexByte?, hv, hw]
      exact ⟨_, rfl⟩
  · rintro ⟨value, h⟩
    rcases word with _ | ⟨c, _ | ⟨d, _ | ⟨e, rest⟩⟩⟩
    · cases h
    · simp only [hexByte?, Option.map_eq_some_iff] at h
      obtain ⟨v, hv, -⟩ := h
      exact .one (mem_hexDigits_iff.mpr ⟨v, hv⟩)
    · simp only [hexByte?, Option.bind_eq_bind, Option.bind_eq_some_iff] at h
      obtain ⟨v, hv, w, hw, -⟩ := h
      exact .two (mem_hexDigits_iff.mpr ⟨v, hv⟩) (mem_hexDigits_iff.mpr ⟨w, hw⟩)
    · cases h

/-- A byte looks like no other kind of operand. -/
theorem IsByte.head?_ne {word : List Char} (h : IsByte word) {c : Char}
    (hc : c ∈ ['$', '%', '@']) : word.head? ≠ some c := by
  have hmarks : ['$', '%', '@'].all (fun mark => mark ∉ hexDigits) = true := by decide
  have hdigit : c ∉ hexDigits := of_decide_eq_true (List.all_eq_true.mp hmarks c hc)
  intro hhead
  rcases h with hd | ⟨hd, -⟩
  all_goals
    cases hhead
    exact hdigit hd

/-! ### Operands -/

theorem mem_indexNames_iff {name : List Char} :
    name ∈ indexNames ↔ ∃ value, Operand.ofName? name = some value := by
  constructor
  · intro hmem
    cases hname : Operand.ofName? name with
    | none => exact absurd hmem (not_mem_indexNames hname)
    | some value => exact ⟨value, rfl⟩
  · rintro ⟨value, h⟩
    exact (ofName?_eq h).1

theorem head?_of_mem_indexNames {name : List Char} (h : name ∈ indexNames) :
    name.head? = some '%' ∨ name.head? = some '@' := by
  have hnames : ∀ name ∈ indexNames, name.head? = some '%' ∨ name.head? = some '@' := by decide
  exact hnames name h

theorem exists_map_eq_ok_iff {α β : Type} {x : Except Fault α} {f : α → β} :
    (∃ b, x.map f = .ok b) ↔ ∃ a, x = .ok a := by
  cases x with
  | error fault => simp [Except.map]
  | ok a => simp [Except.map]

theorem exists_ok_of_hexByte?_iff {digits word : List Char} :
    (∃ value, (match hexByte? digits with
      | some value => Except.ok value
      | none => .error (⟨.operand, word⟩ : Fault)) = .ok value) ↔ IsByte digits := by
  rw [isByte_iff]
  cases hexByte? digits with
  | none => simp
  | some value => simp

theorem exists_literal?_register_iff {word : List Char} :
    (∃ value, literal? .register word = .ok value) ↔ IsOperand .register (Letter.upper word) := by
  simp only [literal?]
  split
  · next digits hlabel =>
    rw [hlabel]
    constructor
    · rintro ⟨value, h⟩
      cases h
    · intro h
      cases h with
      | indexName hmem => rcases head?_of_mem_indexNames hmem with hhead | hhead <;> cases hhead
  · next value hname _ =>
    constructor
    · intro _
      exact .indexName (mem_indexNames_iff.mpr ⟨value, hname⟩)
    · intro _
      exact ⟨value, rfl⟩
  · next digits hname hpercent =>
    rw [hpercent] at hname
    rw [if_true, hpercent]
    refine exists_ok_of_hexByte?_iff.trans ⟨.register, ?_⟩
    intro h
    rcases h with hmem | hbyte
    · exact absurd hmem (not_mem_indexNames hname)
    · exact hbyte
  · next hname _ hpercent =>
    constructor
    · rintro ⟨value, h⟩
      cases h
    · intro h
      generalize Letter.upper word = operand at h hname hpercent
      rcases h with hmem | hbyte
      · exact absurd hmem (not_mem_indexNames hname)
      · exact absurd rfl (hpercent _)

theorem exists_literal?_iff {kind : OperandKind} (hkind : kind ≠ .register) {word : List Char} :
    (∃ value, literal? kind word = .ok value) ↔ IsByte (Letter.upper word) := by
  simp only [literal?, if_neg hkind]
  split
  · next digits hlabel =>
    rw [hlabel]
    constructor
    · rintro ⟨value, h⟩
      cases h
    · intro h
      exact absurd rfl (h.head?_ne (by decide : '$' ∈ _))
  · next value hname _ =>
    constructor
    · rintro ⟨_, h⟩
      cases h
    · intro h
      rcases head?_of_mem_indexNames (mem_indexNames_iff.mpr ⟨value, hname⟩) with hhead | hhead
      all_goals exact absurd hhead (h.head?_ne (by decide))
  · next digits _ hpercent =>
    rw [hpercent]
    constructor
    · rintro ⟨value, h⟩
      cases h
    · intro h
      exact absurd rfl (h.head?_ne (by decide : '%' ∈ _))
  · exact exists_ok_of_hexByte?_iff

theorem argument?_of_ne_label {kind : OperandKind} (hkind : kind ≠ .label) (word : List Char) :
    argument? kind word = (literal? kind word).map .literal := by
  simp only [argument?, hkind, false_and, if_false]

theorem exists_argument?_label_iff {word : List Char} :
    (∃ argument, argument? .label word = .ok argument) ↔ IsOperand .label (Letter.upper word) := by
  have hoperand : IsOperand .label (Letter.upper word) ↔
      IsByte (Letter.upper word) ∨ IsLabel (Letter.upper word) := by
    constructor
    · intro h
      rcases h with _ | _ | _ | hbyte | hlabel
      · exact .inl hbyte
      · exact .inr hlabel
    · rintro (hbyte | hlabel)
      · exact .address hbyte
      · exact .label hlabel
  simp only [argument?, true_and, hoperand]
  by_cases hdollar : (Letter.upper word).head? = some '$'
  · have hbyte : ¬IsByte (Letter.upper word) := fun h => h.head?_ne (by decide) hdollar
    rw [if_pos hdollar, or_iff_right hbyte, isLabel_iff]
    cases labelNumber? (Letter.upper word) with
    | none => simp
    | some number => simp
  · have hlabel : ¬IsLabel (Letter.upper word) := fun h => hdollar h.head?
    rw [if_neg hdollar, or_iff_left hlabel, exists_map_eq_ok_iff, exists_literal?_iff (by decide)]

/-- **Operands of a kind are what an instruction of the kind accepts.** -/
theorem exists_argument?_iff {kind : OperandKind} {word : List Char} :
    (∃ argument, argument? kind word = .ok argument) ↔ IsOperand kind (Letter.upper word) := by
  cases kind with
  | register =>
    rw [argument?_of_ne_label (by decide), exists_map_eq_ok_iff, exists_literal?_register_iff]
  | immediate =>
    rw [argument?_of_ne_label (by decide), exists_map_eq_ok_iff, exists_literal?_iff (by decide)]
    constructor
    · exact .immediate
    · intro h
      cases h with
      | immediate hbyte => exact hbyte
  | label => exact exists_argument?_label_iff

/-! ### Main words -/

/-- The kind of operand behind a keyword. -/
def Keyword.kind : Keyword → OperandKind
  | origin => .immediate
  | instruction i => i.kind

/-- **Main words are the keywords.** -/
theorem mem_mainWords_iff {main : List Char} {kind : OperandKind} :
    main ∈ mainWords kind ↔ ∃ keyword, keyword? main = some keyword ∧ keyword.kind = kind := by
  constructor
  · intro hmem
    have hwords : ∀ kind, ∀ main ∈ mainWords kind, (keyword? main).map Keyword.kind = some kind := by
      intro kind
      cases kind <;> decide
    exact Option.map_eq_some_iff.mp (hwords kind main hmem)
  · rintro ⟨keyword, hkeyword, rfl⟩
    cases keyword with
    | origin =>
      rw [keyword?_origin hkeyword]
      decide
    | instruction i =>
      have hstandard : ∀ i ∈ Instruction.standard, i.mnemonic.toList ∈ mainWords i.kind := by decide
      obtain ⟨hmem, rfl, -⟩ := mem_standard_of_keyword? hkeyword
      exact hstandard i hmem

theorem exists_statement?_iff {keyword : Keyword} {operand : List Char} :
    (∃ s, keyword.statement? operand = .ok s) ↔ IsOperand keyword.kind (Letter.upper operand) := by
  cases keyword with
  | origin =>
    rw [← exists_argument?_iff, Keyword.statement?, exists_map_eq_ok_iff, Keyword.kind,
      argument?_of_ne_label (by decide), exists_map_eq_ok_iff]
  | instruction i =>
    rw [Keyword.statement?, exists_map_eq_ok_iff]
    exact exists_argument?_iff

/-! ### Lines -/

theorem isBody_iff {words : Words} : IsBody words ↔ ∃ line, Line.ofBody words = .ok line := by
  cases words with
  | nil => exact ⟨fun _ => ⟨{}, rfl⟩, fun _ => .empty⟩
  | cons word rest =>
    simp only [Line.ofBody]
    by_cases hcomment : (Letter.upper word).head? = some ';'
    · rw [if_pos hcomment]
      exact ⟨fun _ => ⟨{}, rfl⟩, fun _ => .comment rest (Letter.head?_upper_iff.mp hcomment)⟩
    · rw [if_neg hcomment]
      constructor
      · intro h
        cases h with
        | comment rest hhead => exact absurd (Letter.head?_upper_iff.mpr hhead) hcomment
        | statement rest hmain h =>
          obtain ⟨keyword, hkeyword, rfl⟩ := mem_mainWords_iff.mp hmain
          simp only [hkeyword]
          exact exists_map_eq_ok_iff.mpr (exists_statement?_iff.mpr h)
      · rintro ⟨line, h⟩
        cases hkeyword : keyword? (Letter.upper word) with
        | none =>
          rw [hkeyword] at h
          cases h
        | some keyword =>
          rw [hkeyword] at h
          cases rest with
          | nil => cases h
          | cons operand rest =>
            refine .statement rest (mem_mainWords_iff.mpr ⟨keyword, hkeyword, rfl⟩) ?_
            exact exists_statement?_iff.mp (exists_map_eq_ok_iff.mp ⟨line, h⟩)

/-- No line without a label begins with a dollar sign. -/
theorem not_isBody_of_dollar (digits : List Char) (rest : Words) : ¬IsBody (('$' :: digits) :: rest) := by
  rw [isBody_iff]
  rintro ⟨line, h⟩
  obtain ⟨hcomment, hkeyword⟩ := not_keyword_of_dollar digits
  simp only [Line.ofBody, if_neg hcomment, hkeyword] at h
  cases h

theorem good_dollar_iff {digits : List Char} {rest : Words} :
    Good (('$' :: digits) :: rest) ↔ IsLabel ('$' :: digits) ∧ IsBody rest := by
  constructor
  · intro h
    rcases h with h | ⟨hlabel, h⟩
    · exact absurd h (not_isBody_of_dollar digits rest)
    · exact ⟨hlabel, h⟩
  · rintro ⟨hlabel, h⟩
    exact .labelled hlabel h

/-- **The reader accepts exactly the grammar.** -/
theorem good_iff {words : Words} : Good words ↔ ∃ line, Line.ofWords words = .ok line := by
  by_cases hdollar : ∃ digits rest, words = ('$' :: digits) :: rest
  · obtain ⟨digits, rest, rfl⟩ := hdollar
    rw [good_dollar_iff, isLabel_iff, isBody_iff, Line.ofWords]
    cases labelNumber? ('$' :: digits) with
    | none => simp
    | some number => simp [exists_map_eq_ok_iff]
  · have hplain : ∀ digits rest, words = ('$' :: digits) :: rest → False :=
      fun digits rest heq => hdollar ⟨digits, rest, heq⟩
    have hwords : Line.ofWords words = Line.ofBody words := by
      rw [Line.ofWords]
      exact hplain
    rw [hwords, ← isBody_iff]
    constructor
    · intro h
      rcases h with h | ⟨⟨-, -, -⟩, -⟩
      · exact h
      · exact absurd rfl (hplain _ _)
    · exact .plain

instance : DecidablePred Good := fun words =>
  decidable_of_iff ((Line.ofWords words).isOk = true) <| by
    rw [good_iff]
    cases Line.ofWords words with
    | error fault => simp [Except.isOk, Except.toBool]
    | ok line => simp [Except.isOk, Except.toBool]

example : Good ["$07".toList, "ldi".toList, "a".toList, "free".toList] := by decide

example : ¬Good ["$07".toList, "$08".toList] := by decide

theorem good_iff_parse {raw : List Char} :
    Good (Blank.words raw) ↔ ∃ line, Line.parse (Lines.chomp raw) = .ok line := by
  rw [good_iff, ← Lines.words_chomp, ← Line.bare_parse, exists_map_eq_ok_iff]

/-! ### Sources -/

/-- The lines of a source outside the grammar, each with its number and its text. -/
def badLines (source : List Char) : List (Nat × List Char) :=
  (((Lines.lines source).zipIdx 1).filter fun (raw, _) => ¬Good (Blank.words raw)).map
    fun (raw, number) => (number, Lines.chomp raw)

/-- A message on a line: it says what is wrong with the text of the line, taken by itself, and then
    gives the number, in four columns, and the text. -/
def Reports (line : Nat × List Char) (message : String) : Prop :=
  ∃ fault, Line.parse line.2 = .error fault ∧
    message = s!"Syntax error: {fault.problem.message} \"{String.ofList fault.word}\". " ++
      "The source line is ignored." ++ "\n" ++
      String.ofList ((Nat.toDigits 10 line.1).leftpad 4 ' ') ++ ":\t\t\t" ++ String.ofList line.2

theorem reports_faultMessage {text : List Char} {fault : Fault} (h : Line.parse text = .error fault)
    (number : Nat) : Reports (number, text) (Listing.faultMessage number text fault) := by
  refine ⟨fault, h, ?_⟩
  have hnumber : Numeral.padStart 4 (Numeral.decimalChars 0 number) =
      (Nat.toDigits 10 number).leftpad 4 ' ' := by
    rw [Numeral.decimalChars_natCast]
    rfl
  have htabs : String.ofList [':', '\t', '\t', '\t'] = ":\t\t\t" := rfl
  unfold Listing.faultMessage Listing.faultHead Listing.faultTail
  rw [hnumber, String.ofList_append, String.ofList_append, htabs]
  simp only [String.append_assoc]

/-- The message on a line is that of the assembler. -/
theorem Reports.eq_faultMessage {line : Nat × List Char} {message : String} (h : Reports line message) :
    ∃ fault, Line.parse line.2 = .error fault ∧
      message = Listing.faultMessage line.1 line.2 fault := by
  obtain ⟨fault, hfault, hmessage⟩ := h
  obtain ⟨found, hfound, heq⟩ := reports_faultMessage hfault line.1
  cases hfault.symm.trans hfound
  exact ⟨fault, hfault, hmessage.trans heq.symm⟩

/-- **Each line outside the grammar is reported once, in order.** -/
theorem forall₂_reports (source : List Char) :
    List.Forall₂ Reports (badLines source) ((sourceLines source).filterMap SourceLine.message?) := by
  rw [badLines, sourceLines, List.filterMap_map]
  generalize (Lines.lines source).zipIdx 1 = lines
  induction lines with
  | nil => exact .nil
  | cons entry rest ih =>
    obtain ⟨raw, number⟩ := entry
    by_cases hgood : Good (Blank.words raw)
    · obtain ⟨line, hline⟩ := good_iff_parse.mp hgood
      rw [List.filter_cons_of_neg (by simpa using hgood), List.filterMap_cons_none]
      · exact ih
      · simp only [Function.comp_apply, SourceLine.message?, hline]
    · rw [List.filter_cons_of_pos (by simpa using hgood), List.map_cons]
      cases hparse : Line.parse (Lines.chomp raw) with
      | ok line => exact absurd (good_iff_parse.mpr ⟨line, hparse⟩) hgood
      | error fault =>
        rw [List.filterMap_cons_some (b := Listing.faultMessage number (Lines.chomp raw) fault)]
        · exact .cons (reports_faultMessage hparse number) ih
        · simp only [Function.comp_apply, SourceLine.message?, hparse]

theorem badLines_eq_nil_iff (source : List Char) :
    badLines source = [] ↔ ∀ raw ∈ Lines.lines source, Good (Blank.words raw) := by
  rw [badLines, List.map_eq_nil_iff, List.filter_eq_nil_iff]
  constructor
  · intro h raw hraw
    obtain ⟨i, hi⟩ := List.mem_iff_getElem?.mp hraw
    have hmem : (raw, 1 + i) ∈ (Lines.lines source).zipIdx 1 := by
      apply List.mem_of_getElem?
      rw [List.getElem?_zipIdx, hi]
      rfl
    simpa using h _ hmem
  · rintro h ⟨raw, number⟩ hmem
    simpa using h raw (List.fst_mem_of_mem_zipIdx hmem)

theorem errors_of_assemble {name : String} {source : List Char} {rejection : Rejection}
    (h : assemble name source = .error rejection) :
    rejection.errors = (sourceLines source).filterMap SourceLine.message? := by
  simp only [assemble] at h
  split at h
  · cases h
  · cases h
    rfl

theorem exists_image_iff {name : String} {source : List Char} :
    (∃ image, assemble name source = .ok image) ↔
      ∀ raw ∈ Lines.lines source, Good (Blank.words raw) := by
  rw [← badLines_eq_nil_iff, ← List.length_eq_zero_iff, (forall₂_reports source).length_eq,
    List.length_eq_zero_iff]
  constructor
  · rintro ⟨image, h⟩
    simp only [assemble] at h
    split at h
    · assumption
    · cases h
  · exact exists_image name

/-- **The assembler accepts exactly its grammar.**  A source is refused if and only if a line of it is
    outside the grammar.  Then there is one message for each such line, in order, that depends on this
    line alone; and a source without such a line has an image. -/
theorem assemble_accepts_grammar (name : String) (source : List Char) :
    ((∃ rejection, assemble name source = .error rejection) ↔
      ∃ raw ∈ Lines.lines source, ¬Good (Blank.words raw)) ∧
    (∀ rejection, assemble name source = .error rejection →
      List.Forall₂ Reports (badLines source) rejection.errors) ∧
    ((∃ image, assemble name source = .ok image) ↔
      ∀ raw ∈ Lines.lines source, Good (Blank.words raw)) := by
  refine ⟨?_, ?_, exists_image_iff⟩
  · have hrefused : (∃ rejection, assemble name source = .error rejection) ↔
        ¬∃ image, assemble name source = .ok image := by
      cases assemble name source with
      | error rejection => simp
      | ok image => simp
    rw [hrefused, exists_image_iff]
    push Not
    rfl
  · intro rejection h
    rw [errors_of_assemble h]
    exact forall₂_reports source

end Microcore.Assembly
