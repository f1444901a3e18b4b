/-
  Microcore/Proofs/Assembly/Written.lean
  ======================================
  **A listed line reads as the line it lists.**  The reader only accepts lines of a certain form
  (`Line.Accepted`): labels of four digits, operands that suit their instructions, and comments that
  begin with a word, which is a semicolon's where the line has nothing to do.  A line of that form is
  found again in its listed text (`parse_text`), which is one line itself (`isLine_text`).
-/
import Microcore.Proofs.Assembly.Columns
import Microcore.Proofs.Assembly.Fields
import Microcore.Proofs.Assembly.Reading

namespace Microcore.Assembly

open Blank (isBlank IsGap Stops nextWord?)
open Lines (IsLine)
open Listing (labelText statementText labelColumn mnemonicColumn operandColumn commentColumn addField
  addField? addField_eq exists_gap)

/-! ### Accepted lines -/

/-- A text that a line may end with: it begins with a word and reads as one line. -/
structure IsComment (comment : List Char) : Prop where
  isLine : IsLine comment
  ne_nil : comment ≠ []
  skip_eq : Blank.skip isBlank comment = comment

/-- The comment is one that the reader takes for a comment at the place where an instruction would
    stand. -/
def IsLone (comment : List Char) : Prop :=
  ∃ word rest, nextWord? comment = some (word, rest) ∧ (Letter.upper word).head? = some ';'

/-- A line that the reader may accept. -/
structure Line.Accepted (line : Line) : Prop where
  label : ∀ number ∈ line.label, number < 10000
  statement : ∀ s ∈ line.statement, s.Fits
  comment : ∀ comment ∈ line.comment, IsComment comment
  lone : line.statement = none → ∀ comment ∈ line.comment, IsLone comment

theorem comment?_eq_some {rest comment : List Char} (h : comment? rest = some comment) :
    Blank.skip isBlank rest = comment ∧ comment ≠ [] := by
  rw [comment?] at h
  split at h
  · cases h
  · next hne =>
    cases h
    exact ⟨rfl, hne⟩

theorem IsComment.of_comment? {rest comment : List Char} (hrest : IsLine rest)
    (h : comment? rest = some comment) : IsComment comment := by
  obtain ⟨rfl, hne⟩ := comment?_eq_some h
  refine ⟨hrest.of_suffix (List.dropWhile_suffix _), hne, ?_⟩
  exact List.dropWhile_idempotent _ _

theorem fits_of_argument? {kind : OperandKind} {word : List Char} {argument : Argument}
    (h : argument? kind word = .ok argument) : argument.Fits kind := by
  simp only [argument?] at h
  by_cases hlabel : kind = .label ∧ (Letter.upper word).head? = some '$'
  · rw [if_pos hlabel] at h
    cases hnumber : labelNumber? (Letter.upper word) with
    | none =>
      rw [hnumber] at h
      cases h
    | some number =>
      rw [hnumber] at h
      cases h
      exact ⟨hlabel.1, lt_of_labelNumber? hnumber⟩
  · rw [if_neg hlabel] at h
    obtain ⟨value, -, rfl⟩ := exists_of_map_eq_ok h
    exact trivial

theorem fits_of_statement? {word operand : List Char} {keyword : Keyword} {s : Statement}
    (hkeyword : keyword? word = some keyword) (h : keyword.statement? operand = .ok s) : s.Fits := by
  cases keyword with
  | origin =>
    obtain ⟨address, -, rfl⟩ := exists_of_map_eq_ok h
    exact trivial
  | instruction i =>
    obtain ⟨argument, hargument, rfl⟩ := exists_of_map_eq_ok h
    exact ⟨(mem_standard_of_keyword? hkeyword).1, fits_of_argument? hargument⟩

theorem Line.Accepted.of_parseBody {text : List Char} {line : Line} (htext : IsLine text)
    (h : parseBody text = .ok line) : line.Accepted := by
  rw [parseBody] at h
  cases hword : nextWord? text with
  | none =>
    rw [hword] at h
    cases h
    exact ⟨fun _ hmem => (Option.not_mem_none _ hmem).elim,
      fun _ hmem => (Option.not_mem_none _ hmem).elim,
      fun _ hmem => (Option.not_mem_none _ hmem).elim,
      fun _ _ hmem => (Option.not_mem_none _ hmem).elim⟩
  | some found =>
    obtain ⟨word, rest⟩ := found
    rw [hword] at h
    simp only at h
    by_cases hcomment : (Letter.upper word).head? = some ';'
    · rw [if_pos hcomment] at h
      cases h
      refine ⟨fun _ hmem => (Option.not_mem_none _ hmem).elim,
        fun _ hmem => (Option.not_mem_none _ hmem).elim,
        fun comment hmem => .of_comment? htext hmem, ?_⟩
      intro _ comment hmem
      refine ⟨word, rest, ?_, hcomment⟩
      rw [← (comment?_eq_some hmem).1, Blank.nextWord?_skip, hword]
    · rw [if_neg hcomment] at h
      cases hkeyword : keyword? (Letter.upper word) with
      | none =>
        rw [hkeyword] at h
        cases h
      | some keyword =>
        rw [hkeyword] at h
        cases hoperand : nextWord? rest with
        | none =>
          rw [hoperand] at h
          cases h
        | some found =>
          obtain ⟨operand, tail⟩ := found
          rw [hoperand] at h
          obtain ⟨s, hs, rfl⟩ := exists_of_map_eq_ok h
          have htail : IsLine tail := htext.of_suffix
            ((Blank.nextWord?_suffix hoperand).trans (Blank.nextWord?_suffix hword))
          refine ⟨fun _ hmem => (Option.not_mem_none _ hmem).elim, ?_,
            fun comment hmem => .of_comment? htail hmem,
            fun hnone => (Option.some_ne_none _ hnone).elim⟩
          intro _ hmem
          cases hmem
          exact fits_of_statement? hkeyword hs

/-- **The reader only accepts lines of this form.** -/
theorem Line.Accepted.of_parse {text : List Char} {line : Line} (htext : IsLine text)
    (h : parse text = .ok line) : line.Accepted := by
  rw [parse] at h
  split at h
  · next digits rest hword =>
    cases hnumber : labelNumber? ('$' :: digits) with
    | none =>
      rw [hnumber] at h
      cases h
    | some number =>
      rw [hnumber] at h
      obtain ⟨body, hbody, rfl⟩ := exists_of_map_eq_ok h
      have haccepted := of_parseBody (htext.of_suffix (Blank.nextWord?_suffix hword)) hbody
      refine ⟨?_, haccepted.statement, haccepted.comment, haccepted.lone⟩
      intro _ hmem
      cases hmem
      exact lt_of_labelNumber? hnumber
  · exact of_parseBody htext h

/-! ### Reading a listed line -/

/-- Mnemonic and operand stand behind gaps.  The blanks that a listed operand begins with belong to the
    gap in front of it. -/
theorem exists_gaps (s : Statement) (head : List Char) : ∃ gap gap', IsGap gap ∧ IsGap gap' ∧
    addField (operandColumn - labelColumn) (statementText s).2
      (addField (mnemonicColumn - labelColumn) (statementText s).1 head) =
        head ++ (gap ++ ((statementText s).1 ++ (gap' ++ s.operandWord))) := by
  obtain ⟨n, hoperand⟩ := statementText_snd_eq s
  obtain ⟨gap, hgap, hmnemonic⟩ :=
    exists_gap (mnemonicColumn - labelColumn) (statementText s).1 head
  obtain ⟨gap', hgap', hcolumns⟩ := exists_gap (operandColumn - labelColumn) (statementText s).2
    (head ++ (gap ++ (statementText s).1))
  refine ⟨gap, gap' ++ List.replicate n ' ', hgap, hgap'.append_replicate n, ?_⟩
  rw [hmnemonic, hcolumns, hoperand]
  simp only [List.append_assoc]

/-- A comment field stops the word in front of it and is read as the comment. -/
theorem exists_comment {comment : Option (List Char)} (h : ∀ c ∈ comment, IsComment c)
    (column : Nat) (text : List Char) :
    ∃ tail, addField? column comment text = text ++ tail ∧ Stops tail ∧ comment? tail = comment := by
  cases comment with
  | none => exact ⟨[], (List.append_nil text).symm, Blank.stops_nil, rfl⟩
  | some comment =>
    obtain ⟨-, hne, hskip⟩ := h comment rfl
    obtain ⟨gap, hgap, htext⟩ := exists_gap column comment text
    refine ⟨gap ++ comment, htext, hgap.stops comment, ?_⟩
    rw [comment?, Blank.skip_append hgap, hskip]
    cases comment with
    | nil => exact absurd rfl hne
    | cons c rest => rfl

theorem parseBody_comment {tail : List Char} (h : ∀ comment ∈ comment? tail, IsLone comment) :
    Line.parseBody tail = .ok { comment := comment? tail } := by
  cases hcomment : comment? tail with
  | none =>
    have hskip : Blank.skip isBlank tail = [] := by
      rw [comment?] at hcomment
      split at hcomment
      · assumption
      · cases hcomment
    rw [Line.parseBody, nextWord?, hskip]
  | some comment =>
    obtain ⟨word, rest, hword, hhead⟩ := h comment hcomment
    rw [← (comment?_eq_some hcomment).1, Blank.nextWord?_skip] at hword
    simp only [Line.parseBody, hword, if_pos hhead, hcomment]

theorem parseBody_statement {s : Statement} (h : s.Fits) {gap gap' tail : List Char}
    (hgap : IsGap gap) (hgap' : IsGap gap') (htail : Stops tail) :
    Line.parseBody (gap ++ ((statementText s).1 ++ (gap' ++ (s.operandWord ++ tail)))) =
      .ok { statement := some s, comment := comment? tail } := by
  have hword := Blank.nextWord?_spaced hgap (isWord_statementText h)
    (hgap'.stops (s.operandWord ++ tail))
  have hoperand := Blank.nextWord?_spaced hgap' (isWord_operandWord s) htail
  exact parseBody_of_keyword hword (keyword?_statementText h) hoperand (statement?_operandWord h)

/-- What follows the label of a listed line is read as the rest of the line. -/
theorem Line.Accepted.exists_body {line : Line} (h : line.Accepted) :
    ∃ body, line.text = (line.label.map labelText).getD [] ++ body ∧ Stops body ∧
      parseBody body = .ok { line with label := none } := by
  obtain ⟨label, statement, comment⟩ := line
  cases statement with
  | none =>
    obtain ⟨tail, htext, hstops, hcomment⟩ := exists_comment h.comment (commentColumn - labelColumn)
      ((label.map labelText).getD [])
    refine ⟨tail, htext, hstops, ?_⟩
    have hlone := h.lone rfl
    rw [← hcomment] at hlone
    rw [parseBody_comment hlone, hcomment]
  | some s =>
    obtain ⟨gap, gap', hgap, hgap', hfields⟩ := exists_gaps s ((label.map labelText).getD [])
    obtain ⟨tail, htext, hstops, hcomment⟩ := exists_comment h.comment (commentColumn - labelColumn)
      ((label.map labelText).getD [] ++ (gap ++ ((statementText s).1 ++ (gap' ++ s.operandWord))))
    refine ⟨gap ++ ((statementText s).1 ++ (gap' ++ (s.operandWord ++ tail))), ?_, hgap.stops _, ?_⟩
    · rw [← hfields] at htext
      calc Line.text ⟨label, some s, comment⟩
        _ = _ ++ tail := htext
        _ = _ := by
          rw [hfields]
          simp only [List.append_assoc]
    · rw [parseBody_statement (h.statement s rfl) hgap hgap' hstops, hcomment]

/-- What the reader takes as a line without a label does not begin with one. -/
theorem parse_of_parseBody {text : List Char} {line : Line} (h : Line.parseBody text = .ok line) :
    Line.parse text = .ok line := by
  rw [Line.parse]
  split
  · next digits rest hword =>
    obtain ⟨hcomment, hkeyword⟩ := not_keyword_of_dollar digits
    simp only [Line.parseBody, hword, if_neg hcomment, hkeyword] at h
    cases h
  · exact h

/-- **A listed line is read as the line it lists.** -/
theorem Line.parse_text {line : Line} (h : line.Accepted) : parse line.text = .ok line := by
  obtain ⟨body, htext, hstops, hbody⟩ := h.exists_body
  rw [htext]
  obtain ⟨label, statement, comment⟩ := line
  cases label with
  | none => exact parse_of_parseBody hbody
  | some number =>
    have hword := Blank.nextWord?_word (isWord_labelText number) hstops
    have hnumber := labelNumber?_labelText (h.label number rfl)
    rw [labelText] at hword hnumber
    simp only [Option.map_some, Option.getD_some, labelText, parse, hword, hnumber, hbody]
    rfl

/-! ### A listed line is one line -/

theorem isLine_addField? {column : Nat} {field : Option (List Char)} {text : List Char}
    (hfield : ∀ f ∈ field, IsLine f ∧ f ≠ []) (h : IsLine text) :
    IsLine (addField? column field text) := by
  cases field with
  | none => exact h
  | some field =>
    obtain ⟨hline, hne⟩ := hfield field rfl
    show IsLine (addField column field text)
    rw [addField_eq, ← List.append_assoc]
    refine hline.append ?_ hne
    intro hmem
    rcases List.mem_append.mp hmem with hmem | hmem
    · exact h.feed hmem
    · cases List.eq_of_mem_replicate hmem

theorem isLine_operandText (s : Statement) :
    IsLine (statementText s).2 ∧ (statementText s).2 ≠ [] := by
  obtain ⟨n, hoperand⟩ := statementText_snd_eq s
  have hword := isWord_operandWord s
  rw [hoperand]
  refine ⟨(IsLine.of_isWord hword).append ?_ hword.ne_nil, ?_⟩
  · intro hmem
    cases List.eq_of_mem_replicate hmem
  · exact List.append_ne_nil_of_right_ne_nil _ hword.ne_nil

/-- **A listed line is one line.** -/
theorem Line.isLine_text {line : Line} (h : line.Accepted) : IsLine line.text := by
  have hlabel : IsLine ((line.label.map labelText).getD []) := by
    cases line.label with
    | none => exact .nil
    | some number => exact .of_isWord (isWord_labelText number)
  refine isLine_addField? ?_ (isLine_addField? ?_ (isLine_addField? ?_ hlabel))
  · intro comment hcomment
    exact ⟨(h.comment comment hcomment).isLine, (h.comment comment hcomment).ne_nil⟩
  · intro operand hoperand
    simp only [Option.map_map, Option.mem_def, Option.map_eq_some_iff] at hoperand
    obtain ⟨s, -, rfl⟩ := hoperand
    exact isLine_operandText s
  · intro mnemonic hmnemonic
    simp only [Option.map_map, Option.mem_def, Option.map_eq_some_iff] at hmnemonic
    obtain ⟨s, hs, rfl⟩ := hmnemonic
    have hword := isWord_statementText (h.statement s hs)
    exact ⟨.of_isWord hword, hword.ne_nil⟩

end Microcore.Assembly
