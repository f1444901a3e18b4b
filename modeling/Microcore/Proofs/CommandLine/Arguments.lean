/-
  Microcore/Proofs/CommandLine/Arguments.lean
  ===========================================
  **Options are set one after the other.**  A command line of a source and settings, each an option that
  is spelled out and its value if it takes one, asks for what the settings make of the defaults in their
  order (`parse_settings`).  The value of an option may be a number with a minus sign, which no option
  looks like.
-/
import Microcore.CommandLine.Options
import Microcore.Proofs.Text.Numeral

namespace Microcore.CommandLine

/-! ### Plain arguments -/

/-- An argument that is no option and does not end the options. -/
structure IsPlain (arg : String) : Prop where
  ne_separator : arg ≠ "--"
  classified : classifyOne arg = .ok (.plain arg)

theorem IsPlain.of_head {arg : String} (h : arg.toList.head? ≠ some '-') : IsPlain arg := by
  constructor
  · rintro rfl
    exact h rfl
  · rw [classifyOne]
    split
    · next hlist =>
      rw [hlist] at h
      exact absurd rfl h
    · rfl

theorem ne_of_isDecimal {c d : Char} (hc : Digit.isDecimal c = true)
    (hd : Digit.isDecimal d = false) : c ≠ d := by
  rintro rfl
  rw [hc] at hd
  cases hd

/-- No spelling has a digit in the second place. -/
theorem second_ne_of_isDecimal {c : Char} (hc : Digit.isDecimal c = true) :
    ∀ entry ∈ spellings, entry.1.toList[1]? ≠ some c := by
  intro entry hentry hsecond
  have hletter : ∀ entry ∈ spellings, (entry.1.toList[1]?.any Digit.isDecimal) = false := by decide
  have hnone := hletter entry hentry
  rw [hsecond, Option.any_some, hc] at hnone
  cases hnone

section Minus

variable {arg : String} {c : Char} {rest : List Char} (h : arg.toList = '-' :: c :: rest)
  (hdigits : ∀ d ∈ c :: rest, Digit.isDecimal d = true)

include h hdigits

theorem lookup_spellings_of_minus : spellings.lookup arg = none := by
  rw [List.lookup_eq_none_iff]
  intro entry hentry
  rw [bne_iff_ne]
  rintro rfl
  apply second_ne_of_isDecimal (hdigits c List.mem_cons_self) entry hentry
  rw [h]
  rfl

theorem not_mem_of_minus {d : Char} (hminus : d ≠ '-') (hd : Digit.isDecimal d = false) :
    d ∉ arg.toList := by
  rw [h, List.mem_cons, not_or]
  exact ⟨hminus, fun hmem => ne_of_isDecimal (hdigits d hmem) hd rfl⟩

theorem splitEquals?_of_minus : splitEquals? arg.toList = none := by
  have hnone : arg.toList.dropWhile (· ≠ '=') = [] := by
    rw [List.dropWhile_eq_nil_iff]
    intro d hd
    rw [decide_eq_true_eq]
    rintro rfl
    exact not_mem_of_minus h hdigits (by decide) (by decide) hd
  rw [splitEquals?, hnone]

theorem candidates_of_minus : candidates arg = [] := by
  have hletters : spellings.filter (fun entry => entry.1.toList = ['-', c]) = [] := by
    rw [List.filter_eq_nil_iff]
    intro entry hentry hspelling
    rw [decide_eq_true_eq] at hspelling
    apply second_ne_of_isDecimal (hdigits c List.mem_cons_self) entry hentry
    rw [hspelling]
    rfl
  simp only [candidates, splitEquals?_of_minus h hdigits]
  rw [h]
  split
  · next heq =>
    cases heq
    exact absurd rfl (ne_of_isDecimal (hdigits '-' List.mem_cons_self) (by decide))
  · next heq =>
    cases heq
    rw [hletters]
    rfl
  · rfl

theorem isNegativeNumber_of_minus : isNegativeNumber arg.toList = true := by
  have hlast : arg.toList.getLast? ≠ some '\n' := fun hlast =>
    not_mem_of_minus h hdigits (by decide) (by decide) (List.mem_of_getLast? hlast)
  have htext : (if arg.toList.getLast? = some '\n' then arg.toList.dropLast else arg.toList) =
      '-' :: c :: rest := (if_neg hlast).trans h
  simp only [isNegativeNumber, htext, List.dropWhile_eq_nil_iff.mpr hdigits,
    List.takeWhile_cons_of_pos (hdigits c List.mem_cons_self)]
  rfl

/-- Digits behind a minus sign are no option. -/
theorem IsPlain.of_minus : IsPlain arg := by
  constructor
  · rintro rfl
    cases h
    exact absurd rfl (ne_of_isDecimal (hdigits '-' List.mem_cons_self) (by decide))
  · simp only [classifyOne, lookup_spellings_of_minus h hdigits, splitEquals?_of_minus h hdigits,
      candidates_of_minus h hdigits, isNegativeNumber_of_minus h hdigits]
    rw [h]
    rfl

end Minus

/-- A decimal number is plain, with or without a minus sign. -/
theorem isPlain_decimal (x : Int) : IsPlain (Numeral.decimal x) := by
  obtain ⟨ds, hds, -⟩ := Numeral.exists_decimalChars x
  have htext : (Numeral.decimal x).toList = Numeral.signOf x ++ ds.map Numeral.decimalForm.char :=
    String.toList_ofList.trans hds.text_eq
  have hdigits : ∀ c ∈ ds.map Numeral.decimalForm.char, Digit.isDecimal c = true := by
    intro c hc
    obtain ⟨d, hd, rfl⟩ := List.mem_map.mp hc
    exact congrArg Option.isSome (Digit.value?_digitChar (hds.below d hd))
  obtain ⟨d, more, rfl⟩ := List.exists_cons_of_ne_nil hds.ne_nil
  rw [Numeral.signOf] at htext
  split at htext
  · exact .of_minus htext hdigits
  · apply IsPlain.of_head
    rw [htext]
    intro hminus
    exact absurd rfl (ne_of_isDecimal (hdigits '-' (List.mem_of_mem_head? hminus)) (by decide))

/-! ### Settings -/

/-- An option that is spelled out, with its value if it takes one. -/
inductive Setting where
  | switch (flag : Flag)
  | value (flag : Flag) (text : String)
deriving DecidableEq, Repr

def Flag.spelling : Flag → String
  | help => "--help"
  | hex => "--hex"
  | cycles => "--cycles"
  | listing => "--listing"
  | hexOut => "--hex-out"
  | trace => "--trace"
  | dump => "--dump"

namespace Setting

def arguments : Setting → List String
  | switch flag => [flag.spelling]
  | value flag text => [flag.spelling, text]

def tokens : Setting → List Token
  | switch flag => [.flag flag none]
  | value flag text => [.flag flag none, .plain text]

/-- A setting gives a value if its option takes one. -/
def Valid : Setting → Prop
  | switch flag => flag.takesValue = false
  | value flag text => flag.takesValue = true ∧ IsPlain text

def set (host : Host) (o : Options) : Setting → Except Stop Options
  | switch flag => o.setFlag flag
  | value flag text => o.setValue host flag text

end Setting

/-- A command line of a source and settings. -/
def commandLine (source : String) (settings : List Setting) : List String :=
  source :: settings.flatMap Setting.arguments

/-! ### Telling settings apart -/

theorem classify_cons {arg : String} {rest : List String} {token : Token} {tokens : List Token}
    (hne : arg ≠ "--") (harg : classifyOne arg = .ok token) (hrest : classify rest = .ok tokens) :
    classify (arg :: rest) = .ok (token :: tokens) := by
  rw [classify, if_neg hne, harg, hrest]
  rfl

theorem Flag.spelling_ne (flag : Flag) : flag.spelling ≠ "--" := by
  cases flag <;> decide

theorem Flag.classifyOne_spelling (flag : Flag) :
    classifyOne flag.spelling = .ok (.flag flag none) := by
  cases flag <;> rfl

theorem classify_settings {settings : List Setting} (h : ∀ s ∈ settings, s.Valid) :
    classify (settings.flatMap Setting.arguments) = .ok (settings.flatMap Setting.tokens) := by
  induction settings with
  | nil => rfl
  | cons s rest ih =>
    have hvalid := h s List.mem_cons_self
    have hrest := ih fun s hs => h s (List.mem_cons_of_mem _ hs)
    rw [List.flatMap_cons, List.flatMap_cons]
    cases s with
    | switch flag => exact classify_cons flag.spelling_ne flag.classifyOne_spelling hrest
    | value flag text =>
      have htext := classify_cons hvalid.2.ne_separator hvalid.2.classified hrest
      exact classify_cons flag.spelling_ne flag.classifyOne_spelling htext

/-! ### Taking settings in order -/

/-- The arguments so far are a source and settings. -/
structure Taken.Ready (t : Taken) (source : Path) (o : Options) : Prop where
  source : t.source = some source
  options : t.options = o
  extras : t.extras = []
  pending : t.pending = none

variable (host : Host)

theorem Setting.foldlM_tokens {s : Setting} (hvalid : s.Valid) {t : Taken}
    (hpending : t.pending = none) : s.tokens.foldlM (Taken.token host) t =
      (s.set host t.options).map fun o =>
        { t with options := o, pending := none, atSource := false } := by
  cases s with
  | switch flag =>
    have htakes : flag.takesValue = false := hvalid
    simp only [tokens, List.foldlM_cons, List.foldlM_nil, Taken.token, hpending, Taken.flag, htakes]
    show (do let t' ← (do let o ← t.options.setFlag flag; _); _) = (t.options.setFlag flag).map _
    cases t.options.setFlag flag <;> rfl
  | value flag text =>
    have htakes : flag.takesValue = true := hvalid.1
    simp only [tokens, List.foldlM_cons, List.foldlM_nil, Taken.token, hpending, Taken.flag, htakes]
    show (do let t' ← (do let o ← t.options.setValue host flag text; _); _) =
      (t.options.setValue host flag text).map _
    cases t.options.setValue host flag text <;> rfl

/-- Taking settings goes on as setting options does. -/
theorem foldlM_settings {settings : List Setting} (hvalid : ∀ s ∈ settings, s.Valid)
    {source : Path} {finish : Taken → Except Stop Options} {result : Options → Options}
    (hfinish : ∀ t o, t.Ready source o → finish t = .ok (result o)) {t : Taken} {o : Options}
    (h : t.Ready source o) :
    (settings.flatMap Setting.tokens).foldlM (Taken.token host) t >>= finish =
      (settings.foldlM (Setting.set host) o).map result := by
  induction settings generalizing t o with
  | nil => exact hfinish t o h
  | cons s rest ih =>
    have hs := Setting.foldlM_tokens host (hvalid s List.mem_cons_self) h.pending
    rw [List.flatMap_cons, List.foldlM_append, hs, h.options, List.foldlM_cons]
    cases s.set host o with
    | error stop => rfl
    | ok o' =>
      exact ih (fun s hs => hvalid s (List.mem_cons_of_mem _ hs)) ⟨h.source, rfl, h.extras, rfl⟩

/-- **Options are set one after the other.** -/
theorem parse_settings {source : String} {settings : List Setting} (hsource : IsPlain source)
    (h : ∀ s ∈ settings, s.Valid) : parse (commandLine source settings) host =
      (settings.foldlM (Setting.set host) { source := ⟨"", []⟩ }).map fun o =>
        { o with source := Path.ofString source } := by
  have hclassify := classify_cons hsource.ne_separator hsource.classified (classify_settings h)
  rw [parse, commandLine, hclassify]
  refine foldlM_settings host h ?_ ⟨rfl, rfl, rfl, rfl⟩
  rintro t o ⟨ht, rfl, hextras, hpending⟩
  simp only [hpending, ht, hextras]

end Microcore.CommandLine
