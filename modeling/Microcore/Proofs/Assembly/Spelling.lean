/-
  Microcore/Proofs/Assembly/Spelling.lean
  =======================================
  **Spelling does not change the program.**  The reader looks at a word in upper case, or at its digits,
  which have no case, so ASCII letters may be written either way (`toOption_ofWords_lowered`), and what
  stands behind the operand or a semicolon is not read at all (`ofWords_significant`).  Lines that differ
  in this way only are laid out alike, and comments reach the listing alone (`Image.sameProgram_ofLines`).
  Hence such sources have the same image, or are rejected for the same lines (`spelling_keeps_program`).
-/
import Mathlib.Data.Option.Basic
import Microcore.Proofs.Assembly.Rejected

namespace Microcore.Assembly

/-! ### Words that differ in spelling -/

namespace Words

/-- The words with the ASCII letters in lower case. -/
def lowered (words : Words) : Words := words.map (List.map Char.toLower)

/-- Behind a label, the words in front of the comment: at most two, and none if the first one begins
    with a semicolon. -/
def statement : Words → Words
  | [] => []
  | word :: rest => if word.head? = some ';' then [] else word :: rest.take 1

/-- The words of a line without those of the comment: the label, the main word and the operand. -/
def significant : Words → Words
  | ('$' :: digits) :: rest => ('$' :: digits) :: statement rest
  | words => statement words

end Words

/-- The words of two lines are the same up to the case of ASCII letters: all of them, or those in front
    of the comments. -/
inductive Alike (words others : Words) : Prop where
  | spelled (same : Words.lowered words = Words.lowered others)
  | commented (same : (Words.significant words).lowered = (Words.significant others).lowered)

instance (words others : Words) : Decidable (Alike words others) :=
  decidable_of_iff (Words.lowered words = Words.lowered others ∨
      (Words.significant words).lowered = (Words.significant others).lowered) <| by
    constructor
    · rintro (same | same)
      · exact .spelled same
      · exact .commented same
    · rintro (same | same)
      · exact .inl same
      · exact .inr same

/-- Sources with as many lines, which are alike line by line. -/
def AlikeSources (source other : List Char) : Prop :=
  List.Forall₂ (fun raw found => Alike (Blank.words raw) (Blank.words found))
    (Lines.lines source) (Lines.lines other)

instance (source other : List Char) : Decidable (AlikeSources source other) :=
  inferInstanceAs (Decidable (List.Forall₂ _ _ _))

/-! ### Case -/

theorem value?_toLower (c : Char) : Digit.value? c.toLower = Digit.value? c :=
  @Letter.toLower_cases (fun lower c => Digit.value? lower = Digit.value? c) (fun _ => rfl)
    (by decide +kernel) c

theorem toLower_eq_dollar_iff (c : Char) : c.toLower = '$' ↔ c = '$' :=
  @Letter.toLower_cases (fun lower c => lower = '$' ↔ c = '$') (fun _ => Iff.rfl) (by decide) c

theorem labelNumber?_map_toLower (digits : List Char) :
    labelNumber? ('$' :: digits.map Char.toLower) = labelNumber? ('$' :: digits) := by
  have hvalues : (digits.map Char.toLower).mapM Digit.value? = digits.mapM Digit.value? := by
    induction digits with
    | nil => rfl
    | cons c rest ih => rw [List.map_cons, List.mapM_cons, List.mapM_cons, value?_toLower, ih]
  simp only [labelNumber?, hvalues]

theorem toOption_map {α β : Type} (x : Except Fault α) (f : α → β) :
    (x.map f).toOption = x.toOption.map f := by
  cases x <;> rfl

section Operand

variable {operand other : List Char} (h : Letter.upper operand = Letter.upper other)

include h

/-- An operand is read from its upper case.  Only a fault shows how it is spelled. -/
theorem toOption_literal?_congr (kind : OperandKind) :
    (literal? kind operand).toOption = (literal? kind other).toOption := by
  simp only [literal?, h]
  generalize Operand.ofName? (Letter.upper other) = name
  generalize Letter.upper other = upper
  split
  · rfl
  · split <;> rfl
  · split
    · split <;> rfl
    · rfl
  · split
    · rfl
    · split <;> rfl

theorem toOption_argument?_congr (kind : OperandKind) :
    (argument? kind operand).toOption = (argument? kind other).toOption := by
  simp only [argument?, h]
  split
  · rfl
  · rw [toOption_map, toOption_map, toOption_literal?_congr h]

theorem toOption_statement?_congr (keyword : Keyword) :
    (keyword.statement? operand).toOption = (keyword.statement? other).toOption := by
  cases keyword with
  | origin =>
    rw [Keyword.statement?, Keyword.statement?, toOption_map, toOption_map, toOption_literal?_congr h]
  | instruction i =>
    rw [Keyword.statement?, Keyword.statement?, toOption_map, toOption_map, toOption_argument?_congr h]

end Operand

theorem toOption_ofBody_lowered (words : Words) :
    (Line.ofBody words.lowered).toOption = (Line.ofBody words).toOption := by
  cases words with
  | nil => rfl
  | cons word rest =>
    simp only [Words.lowered, List.map_cons, Line.ofBody, Letter.upper_map_toLower]
    split
    · rfl
    · cases keyword? (Letter.upper word) with
      | none => rfl
      | some keyword =>
        cases rest with
        | nil => rfl
        | cons operand rest =>
          simp only [List.map_cons, toOption_map,
            toOption_statement?_congr (Letter.upper_map_toLower operand)]

/-- A line that does not begin with a label is read like what stands behind one. -/
theorem ofWords_of_not_dollar {words : Words} (h : ¬∃ digits rest, words = ('$' :: digits) :: rest) :
    Line.ofWords words = Line.ofBody words := by
  rw [Line.ofWords]
  intro digits rest heq
  exact h ⟨digits, rest, heq⟩

theorem lowered_eq_dollar_iff {words : Words} :
    (∃ digits rest, words.lowered = ('$' :: digits) :: rest) ↔
      ∃ digits rest, words = ('$' :: digits) :: rest := by
  constructor
  · rintro ⟨digits, rest, h⟩
    obtain ⟨word, others, rfl, hword, -⟩ := List.map_eq_cons_iff.mp h
    obtain ⟨c, tail, rfl, hc, -⟩ := List.map_eq_cons_iff.mp hword
    rw [toLower_eq_dollar_iff] at hc
    exact ⟨tail, others, by rw [hc]⟩
  · rintro ⟨digits, rest, rfl⟩
    exact ⟨digits.map Char.toLower, rest.map (List.map Char.toLower), rfl⟩

/-- **The case of ASCII letters makes no difference** to what a line means. -/
theorem toOption_ofWords_lowered (words : Words) :
    (Line.ofWords words.lowered).toOption = (Line.ofWords words).toOption := by
  by_cases hlabel : ∃ digits rest, words = ('$' :: digits) :: rest
  · obtain ⟨digits, rest, rfl⟩ := hlabel
    show (Line.ofWords (('$' :: digits.map Char.toLower) :: Words.lowered rest)).toOption = _
    rw [Line.ofWords, Line.ofWords, labelNumber?_map_toLower]
    cases labelNumber? ('$' :: digits) with
    | none => rfl
    | some number => simp only [toOption_map, toOption_ofBody_lowered]
  · rw [ofWords_of_not_dollar hlabel, ofWords_of_not_dollar (mt lowered_eq_dollar_iff.mp hlabel),
      toOption_ofBody_lowered]

/-! ### Comments -/

theorem ofBody_statement (words : Words) : Line.ofBody (Words.statement words) = Line.ofBody words := by
  cases words with
  | nil => rfl
  | cons word rest =>
    by_cases hcomment : word.head? = some ';'
    · simp only [Words.statement, Line.ofBody, Letter.head?_upper_iff, if_pos hcomment]
    · rw [Words.statement, if_neg hcomment]
      cases rest <;> rfl

/-- **The words of a comment make no difference** to what a line means. -/
theorem ofWords_significant (words : Words) :
    Line.ofWords (Words.significant words) = Line.ofWords words := by
  by_cases hlabel : ∃ digits rest, words = ('$' :: digits) :: rest
  · obtain ⟨digits, rest, rfl⟩ := hlabel
    rw [Words.significant, Line.ofWords, Line.ofWords, ofBody_statement]
  · have hsignificant : Words.significant words = Words.statement words := by
      rw [Words.significant]
      intro digits rest heq
      exact hlabel ⟨digits, rest, heq⟩
    have hstatement : ¬∃ digits rest, Words.statement words = ('$' :: digits) :: rest := by
      rintro ⟨digits, rest, h⟩
      cases words with
      | nil => cases h
      | cons word others =>
        rw [Words.statement] at h
        split at h
        · cases h
        · cases h
          exact hlabel ⟨digits, others, rfl⟩
    rw [hsignificant, ofWords_of_not_dollar hstatement, ofBody_statement, ofWords_of_not_dollar hlabel]

/-! ### Lines -/

section Alike

variable {raw found : List Char} (h : Alike (Blank.words raw) (Blank.words found))

include h

/-- **Lines that are alike mean the same,** if either of them means anything. -/
theorem Alike.toOption_eq :
    (Line.ofWords (Blank.words raw)).toOption = (Line.ofWords (Blank.words found)).toOption := by
  rcases h with same | same
  · rw [← toOption_ofWords_lowered, same, toOption_ofWords_lowered]
  · rw [← ofWords_significant, ← toOption_ofWords_lowered, same, toOption_ofWords_lowered,
      ofWords_significant]

theorem Alike.good_iff : Good (Blank.words raw) ↔ Good (Blank.words found) := by
  have hsome (words : Words) : Good words ↔ (Line.ofWords words).toOption.isSome = true := by
    rw [Assembly.good_iff]
    cases Line.ofWords words with
    | error fault => simp [Except.toOption]
    | ok line => simp [Except.toOption]
  rw [hsome, hsome, h.toOption_eq]

end Alike

/-- The lines of an accepted source, without their comments, are what the words say. -/
theorem ReadsAs.map_bare {source : List Char} {lines : List Line} (h : ReadsAs source lines) :
    (lines.map Line.bare).map some =
      (Lines.lines source).map fun raw => (Line.ofWords (Blank.words raw)).toOption := by
  have hbare := congrArg (List.map fun parsed => (parsed.map Line.bare).toOption) h
  simp only [List.map_map, Function.comp_def, Line.bare_parse, Lines.words_chomp] at hbare
  rw [hbare, List.map_map]
  rfl

theorem map_eq_map_of_forall₂ {α β γ : Type} {R : α → β → Prop} {as : List α} {bs : List β}
    (h : List.Forall₂ R as bs) {f : α → γ} {g : β → γ} (hfg : ∀ a b, R a b → f a = g b) :
    as.map f = bs.map g := by
  have hsame : List.Forall₂ (· = ·) (as.map f) (bs.map g) := by
    rw [List.forall₂_map_left_iff, List.forall₂_map_right_iff]
    exact h.imp hfg
  rwa [List.forall₂_eq_eq_eq] at hsame

theorem AlikeSources.map_bare_eq {source other : List Char} {lines others : List Line}
    (h : AlikeSources source other) (hreads : ReadsAs source lines) (hothers : ReadsAs other others) :
    lines.map Line.bare = others.map Line.bare := by
  apply List.map_injective_iff.mpr (Option.some_injective Line)
  rw [hreads.map_bare, hothers.map_bare]
  exact map_eq_map_of_forall₂ h fun _ _ halike => halike.toOption_eq

/-! ### Images -/

/-- Images with the same program: the listing apart, all is the same. -/
structure Image.SameProgram (image other : Image) : Prop where
  words : image.words = other.words
  regions : image.regions = other.regions
  warnings : image.warnings = other.warnings
  errors : image.errors = other.errors

def Placed.bare (p : Placed) : Placed := { p with line := p.line.bare }

theorem place_map_bare (counter : Byte) (lines : List Line) :
    place counter (lines.map Line.bare) = (place counter lines).map Placed.bare := by
  induction lines generalizing counter with
  | nil => rfl
  | cons line rest ih =>
    rw [List.map_cons, place, place, List.map_cons, ← ih]
    rfl

theorem definitions_map_bare (placed : List Placed) :
    definitions (placed.map Placed.bare) = definitions placed := by
  rw [definitions, List.filterMap_map]
  rfl

theorem regionsFrom_map_bare (region : Option Region) (placed : List Placed) :
    regionsFrom region (placed.map Placed.bare) = regionsFrom region placed := by
  induction placed generalizing region with
  | nil => rfl
  | cons p rest ih => simp only [List.map_cons, regionsFrom, ih, Placed.bare, Line.bare]

theorem emit_map_bare (table : Labels) (image : Vector Word 256) (placed : List Placed) :
    emit table image (placed.map Placed.bare) = emit table image placed := by
  induction placed generalizing image with
  | nil => rfl
  | cons p rest ih =>
    have hword : p.bare.word? table = p.word? table := rfl
    simp only [List.map_cons, emit, hword, ih]
    rfl

theorem filterMap_undefined?_map_bare (table : Labels) (placed : List Placed) :
    (placed.map Placed.bare).filterMap (Placed.undefined? table) =
      placed.filterMap (Placed.undefined? table) := by
  rw [List.filterMap_map]
  rfl

/-- **Comments reach the listing alone.** -/
theorem Image.sameProgram_ofLines (name other : String) {lines others : List Line}
    (h : lines.map Line.bare = others.map Line.bare) :
    (Image.ofLines name lines).SameProgram (Image.ofLines other others) := by
  have hplaced : (place 0 lines).map Placed.bare = (place 0 others).map Placed.bare := by
    rw [← place_map_bare, h, place_map_bare]
  have hdefinitions : definitions (place 0 lines) = definitions (place 0 others) := by
    rw [← definitions_map_bare, hplaced, definitions_map_bare]
  have htable : labels (place 0 lines) = labels (place 0 others) := congrArg List.reverse hdefinitions
  constructor
  · show emit _ _ _ = emit _ _ _
    rw [htable, ← emit_map_bare, hplaced, emit_map_bare]
  · show regionsFrom _ _ = regionsFrom _ _
    rw [← regionsFrom_map_bare, hplaced, regionsFrom_map_bare]
  · simp only [Image.ofLines, hdefinitions]
  · show List.map _ (List.filterMap _ _) = List.map _ (List.filterMap _ _)
    rw [htable, ← filterMap_undefined?_map_bare, hplaced, filterMap_undefined?_map_bare]

/-! ### Rejections -/

/-- The number of the line that a message is on. -/
def errorLine? (message : String) : Option Nat :=
  (messageLines message)[1]?.bind fun line => Listing.lineNumber? line.toList

/-- The messages of a rejection are on these lines, one on each. -/
def Rejection.OnLines (rejection : Rejection) (numbers : List Nat) : Prop :=
  rejection.errors.map errorLine? = numbers.map some

/-- The numbers of the lines outside the grammar. -/
def badNumbers (source : List Char) : List Nat := (badLines source).map Prod.fst

theorem feed_not_mem_of_mem_badLines {source text : List Char} {number : Nat}
    (h : (number, text) ∈ badLines source) : '\n' ∉ text := by
  obtain ⟨⟨raw, n⟩, hraw, hline⟩ := List.mem_map.mp h
  cases hline
  have hmem := List.fst_mem_of_mem_zipIdx (List.mem_of_mem_filter hraw)
  exact (Lines.isLine_chomp (Lines.feed_not_mem_of_mem_lines hmem)).feed

theorem Reports.errorLine?_eq {number : Nat} {text : List Char} {message : String}
    (h : Reports (number, text) message) (hfeed : '\n' ∉ text) : errorLine? message = some number := by
  obtain ⟨fault, hfault, rfl⟩ := h.eq_faultMessage
  have hlines := messageLines_eq (feed_not_mem_faultHead (feed_not_mem_of_parse_error hfault))
    (feed_not_mem_faultTail number hfeed)
  rw [errorLine?, Listing.faultMessage, hlines, List.getElem?_cons_succ, List.getElem?_cons_zero, Option.bind_some,
    lineNumber?_faultTail]

/-- **A source is rejected for its lines outside the grammar.** -/
theorem onLines_of_rejected {name : String} {source : List Char} {rejection : Rejection}
    (h : assemble name source = .error rejection) : rejection.OnLines (badNumbers source) := by
  have hreports := (List.forall₂_and_left _ _).mpr ⟨fun _ hmem => hmem, forall₂_reports source⟩
  rw [Rejection.OnLines, errors_of_assemble h, badNumbers, List.map_map]
  symm
  apply map_eq_map_of_forall₂ hreports
  rintro ⟨number, text⟩ message ⟨hmem, hreport⟩
  exact (hreport.errorLine?_eq (feed_not_mem_of_mem_badLines hmem)).symm

theorem badNumbers_eq_map (source : List Char) : badNumbers source =
    ((((Lines.lines source).map fun raw => decide (Good (Blank.words raw))).zipIdx 1).filter
      fun (good, _) => !good).map Prod.snd := by
  rw [badNumbers, badLines, List.map_map, List.zipIdx_map, List.filter_map, List.map_map]
  simp only [Function.comp_def, decide_not, Prod.map, id_eq]

theorem AlikeSources.badNumbers_eq {source other : List Char} (h : AlikeSources source other) :
    badNumbers source = badNumbers other := by
  have hgood : ((Lines.lines source).map fun raw => decide (Good (Blank.words raw))) =
      (Lines.lines other).map fun raw => decide (Good (Blank.words raw)) := by
    apply map_eq_map_of_forall₂ h
    intro raw found halike
    exact decide_eq_decide.mpr halike.good_iff
  rw [badNumbers_eq_map, badNumbers_eq_map, hgood]

theorem badNumbers_eq_nil_iff {name : String} {source : List Char} :
    badNumbers source = [] ↔ ∃ image, assemble name source = .ok image := by
  rw [exists_image_iff, badNumbers, List.map_eq_nil_iff, badLines_eq_nil_iff]

/-! ### Sources -/

/-- **Spelling does not change the program.**  Of sources whose lines have the same words, up to the case
    of ASCII letters and to comments, both have an image, with the same words, regions, warnings and
    errors, or both are rejected, with messages on the same lines. -/
theorem spelling_keeps_program (name otherName : String) {source other : List Char}
    (h : AlikeSources source other) :
    (∃ image found, assemble name source = .ok image ∧ assemble otherName other = .ok found ∧
      image.SameProgram found) ∨
    ∃ rejection found numbers, assemble name source = .error rejection ∧
      assemble otherName other = .error found ∧
      rejection.OnLines numbers ∧ found.OnLines numbers := by
  have hnumbers := h.badNumbers_eq
  cases hsource : assemble name source with
  | ok image =>
    left
    have hgood : badNumbers source = [] := badNumbers_eq_nil_iff.mpr ⟨image, hsource⟩
    rw [hnumbers] at hgood
    obtain ⟨found, hother⟩ := (@badNumbers_eq_nil_iff otherName other).mp hgood
    obtain ⟨lines, hlines, rfl⟩ := exists_readsAs hsource
    obtain ⟨others, hothers, rfl⟩ := exists_readsAs hother
    exact ⟨_, _, rfl, hother, Image.sameProgram_ofLines name otherName (h.map_bare_eq hlines hothers)⟩
  | error rejection =>
    right
    cases hother : assemble otherName other with
    | ok found =>
      have hgood : badNumbers other = [] := badNumbers_eq_nil_iff.mpr ⟨found, hother⟩
      rw [← hnumbers] at hgood
      obtain ⟨image, himage⟩ := (@badNumbers_eq_nil_iff name source).mp hgood
      rw [hsource] at himage
      cases himage
    | error found =>
      refine ⟨rejection, found, badNumbers source, rfl, rfl, onLines_of_rejected hsource, ?_⟩
      rw [hnumbers]
      exact onLines_of_rejected hother

/-- Two ways to write a program with a label that is defined twice, one that is not defined and an `ORG`
    line.  Comments, with mnemonics and labels in them, are on other lines of the one than of the other. -/
theorem respelled_source_keeps_program :
    let source := "$1 LDI 0a $2 JMP\n\tjmp $2\n; all ; comment\n$2 STA @-ix\norg 1F ;\n$1 bnz $3".toList
    let other := "  $1\tldi 0A\nJMP $2 ; LDI $7\n\n$2  sTa @-IX\tana 0\nOrg 1f\n$1\u2003BNZ $3 $4\n".toList
    AlikeSources source other ∧
      ((∃ image found, assemble "demo" source = .ok image ∧ assemble "demo" other = .ok found ∧
        image.SameProgram found) ∨
      ∃ rejection found numbers, assemble "demo" source = .error rejection ∧
        assemble "demo" other = .error found ∧
        rejection.OnLines numbers ∧ found.OnLines numbers) := by
  intro source other
  have halike : AlikeSources source other := by decide +kernel
  exact ⟨halike, spelling_keeps_program "demo" "demo" halike⟩

end Microcore.Assembly
