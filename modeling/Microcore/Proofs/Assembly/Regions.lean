/-
  Microcore/Proofs/Assembly/Regions.lean
  ======================================
  **Regions are runs of instructions.**  The `ORG` lines of a source split its instructions into runs, and
  an image has a region for each run that is not empty (`regions_eq`).  The counter goes up by one from each
  instruction of a run to the next (`isChain_of_mem_runs`), so a region holds the addresses of its run
  exactly when the run does not pass the end of memory (`Region.Covers.describes_iff`).
-/
import Mathlib.Algebra.Ring.Int.Defs
import Mathlib.Data.List.Chain
import Microcore.Proofs.Assembly.Entries

namespace Microcore.Assembly

/-! ### Runs -/

namespace Source

variable (s : Source)

/-- The runs of instructions that lie between `ORG` lines, by the numbers of the lines.  There may be
    instructions in front of the lines, which the first run goes on with. -/
def runsFrom (opened lines : List Nat) : List (List Nat) :=
  ((lines.splitOnP fun i => (s.line i).isOrigin).map
    (List.filter fun i => (s.line i).code?.isSome)).modifyHead (opened ++ ·)

/-- The runs of instructions of a source, without empty ones. -/
def runs : List (List Nat) :=
  (((List.range s.length).splitOnP fun i => (s.line i).isOrigin).map
    (List.filter fun i => (s.line i).code?.isSome)).filter (· ≠ [])

theorem runs_eq : s.runs = (s.runsFrom [] (List.range s.length)).filter (· ≠ []) := by
  rw [runs, runsFrom]
  cases ((List.range s.length).splitOnP fun i => (s.line i).isOrigin).map
    (List.filter fun i => (s.line i).code?.isSome) <;> rfl

theorem runsFrom_nil (opened : List Nat) : s.runsFrom opened [] = [opened] := by
  simp [runsFrom]

/-- An `ORG` line ends the run, an instruction goes on with it, and other lines are left out. -/
theorem runsFrom_cons (opened : List Nat) (i : Nat) (rest : List Nat) :
    s.runsFrom opened (i :: rest) =
      if (s.line i).isOrigin then opened :: s.runsFrom [] rest
      else if (s.line i).code?.isSome then s.runsFrom (opened ++ [i]) rest
      else s.runsFrom opened rest := by
  obtain ⟨run, runs, hsplit⟩ :=
    List.exists_cons_of_ne_nil (List.splitOnP_ne_nil (fun i => (s.line i).isOrigin) rest)
  cases horigin : (s.line i).isOrigin with
  | true => simp [runsFrom, List.splitOnP_cons_eq_if_modifyHead, hsplit, horigin]
  | false =>
    cases hcode : (s.line i).code?.isSome with
    | true => simp [runsFrom, List.splitOnP_cons_eq_if_modifyHead, hsplit, horigin, hcode]
    | false => simp [runsFrom, List.splitOnP_cons_eq_if_modifyHead, hsplit, horigin, hcode]

end Source

theorem Words.code?_of_isOrigin {words : Words} (h : words.isOrigin = true) : words.code? = none := by
  rw [Words.code?, of_decide_eq_true h]
  decide

/-! ### What a run holds -/

namespace Source

variable (s : Source)

/-- **The runs hold the instructions,** each once and in order. -/
theorem flatten_runsFrom (opened lines : List Nat) : (s.runsFrom opened lines).flatten =
    opened ++ lines.filter fun i => (s.line i).code?.isSome := by
  induction lines generalizing opened with
  | nil => simp [runsFrom_nil]
  | cons i rest ih =>
    rw [runsFrom_cons]
    by_cases horigin : (s.line i).isOrigin = true
    · simp [horigin, ih, Words.code?_of_isOrigin horigin]
    · by_cases hcode : (s.line i).code?.isSome = true
      · simp [horigin, hcode, ih]
      · simp [horigin, hcode, ih]

theorem flatten_runs :
    s.runs.flatten = (List.range s.length).filter fun i => (s.line i).code?.isSome := by
  rw [runs_eq, List.flatten_filter_ne_nil, flatten_runsFrom, List.nil_append]

theorem isSome_code?_of_mem_runs {run : List Nat} (hrun : run ∈ s.runs) {i : Nat} (hi : i ∈ run) :
    (s.line i).code?.isSome = true := by
  have hmem : i ∈ s.runs.flatten := List.mem_flatten_of_mem hrun hi
  rw [flatten_runs] at hmem
  exact (List.mem_filter.mp hmem).2

theorem ne_nil_of_mem_runs {run : List Nat} (hrun : run ∈ s.runs) : run ≠ [] :=
  of_decide_eq_true (List.mem_filter.mp hrun).2

/-- The counter in front of a line is one further than in front of another. -/
def Next (i k : Nat) : Prop := s.counter k = (s.counter i + 1) % 256

/-- The counter is behind the instructions of the open run, and so of all that the run goes on with. -/
theorem isChain_of_mem_runsFrom {opened : List Nat} {m : Nat} (n : Nat) (hopened : opened.IsChain s.Next)
    (hlast : ∀ i ∈ opened.getLast?, s.Next i m) :
    ∀ run ∈ s.runsFrom opened (List.range' m n), run.IsChain s.Next := by
  induction n generalizing opened m with
  | zero =>
    intro run hrun
    rw [List.range'_zero, runsFrom_nil, List.mem_singleton] at hrun
    rwa [hrun]
  | succ n ih =>
    intro run hrun
    have hcounter := s.counter_succ m
    rw [List.range'_succ, runsFrom_cons] at hrun
    rw [advance] at hcounter
    by_cases horigin : (s.line m).isOrigin = true
    · -- the open run ends here, and nothing is open behind it
      rw [if_pos horigin] at hrun
      rcases List.mem_cons.mp hrun with rfl | hrun
      · exact hopened
      · refine ih .nil ?_ run hrun
        intro i hi
        cases hi
    · rw [if_neg horigin] at hrun hcounter
      by_cases hcode : (s.line m).code?.isSome = true
      · rw [if_pos hcode] at hrun hcounter
        refine ih ?_ ?_ run hrun
        · refine List.isChain_append.mpr ⟨hopened, .singleton m, ?_⟩
          intro i hi k hk
          cases hk
          exact hlast i hi
        · intro i hi
          rw [List.getLast?_concat] at hi
          cases hi
          exact hcounter
      · -- the counter stays behind the last instruction
        rw [if_neg hcode] at hrun hcounter
        refine ih hopened ?_ run hrun
        intro i hi
        rw [Next, hcounter]
        exact hlast i hi

/-- **The counter goes up by one inside a run.** -/
theorem isChain_of_mem_runs {run : List Nat} (hrun : run ∈ s.runs) : run.IsChain s.Next := by
  rw [runs_eq, List.range_eq_range'] at hrun
  refine s.isChain_of_mem_runsFrom s.length .nil ?_ run (List.mem_filter.mp hrun).1
  intro i hi
  cases hi

variable {s}

theorem counter_of_isChain {run : List Nat} (h : run.IsChain s.Next) {first i j : Nat}
    (hfirst : run.head? = some first) (hlt : s.counter first < 256) (hi : run[j]? = some i) :
    s.counter i = (s.counter first + j) % 256 := by
  induction j generalizing i with
  | zero =>
    rw [List.head?_eq_getElem?, hi] at hfirst
    cases hfirst
    exact (Nat.mod_eq_of_lt hlt).symm
  | succ j ih =>
    obtain ⟨hj, rfl⟩ := List.getElem?_eq_some_iff.mp hi
    have hnext : s.Next run[j] run[j + 1] := List.isChain_iff_getElem.mp h j hj
    rw [hnext, ih (List.getElem?_eq_getElem (Nat.lt_of_succ_lt hj))]
    omega

end Source

/-! ### Regions of runs -/

/-- The region from the first line of a run to the last. -/
def span? (location : Nat → Byte) (run : List Nat) : Option Region := do
  return ⟨location (← run.head?), location (← run.getLast?)⟩

theorem span?_concat (location : Nat → Byte) (opened : List Nat) (i : Nat) :
    span? location (opened ++ [i]) = some (Region.extend (span? location opened) (location i)) := by
  cases opened with
  | nil => rfl
  | cons first rest =>
    rw [span?, span?, List.getLast?_concat, List.getLast?_cons]
    rfl

section Regions

variable {s : Source} {lines : List Line} (h : ∀ i, Reads (s.line i) (lines.getD i {}))

include h

/-- **A region is closed where a run ends.** -/
theorem regionsFrom_map (opened numbers : List Nat) :
    regionsFrom (span? (fun i => (placedAt lines i).location) opened) (numbers.map (placedAt lines)) =
      (s.runsFrom opened numbers).filterMap (span? fun i => (placedAt lines i).location) := by
  rw [List.filterMap_eq_flatMap_toList]
  induction numbers generalizing opened with
  | nil =>
    rw [Source.runsFrom_nil, List.flatMap_singleton]
    rfl
  | cons i rest ih =>
    have hstatement := (h i).statement
    have hline : (placedAt lines i).line = lines.getD i {} := rfl
    rw [List.map_cons, regionsFrom, Source.runsFrom_cons, hline]
    generalize (lines.getD i {}).statement = statement at hstatement
    cases hstatement with
    | nothing horigin hcode =>
      rw [horigin, hcode]
      exact ih opened
    | origin horigin hcode hvalue =>
      rw [horigin, if_pos rfl, List.flatMap_cons, ← ih []]
      rfl
    | instruction horigin hcode hargument =>
      rw [horigin, hcode, if_neg Bool.false_ne_true, Option.isSome_some, if_pos rfl, ← ih, span?_concat]

theorem regions_eq (hlength : lines.length = s.length) :
    regionsFrom none (place 0 lines) =
      s.runs.filterMap (span? fun i => (placedAt lines i).location) := by
  rw [place_eq_map, hlength, Source.runs_eq, List.filterMap_filter]
  refine (regionsFrom_map h [] _).trans (List.filterMap_congr ?_)
  intro run _
  cases run <;> rfl

end Regions

/-- A region that goes from the first instruction of a run to the last, one address after the other from
    each to the next. -/
structure Region.Covers (s : Source) (run : List Nat) (r : Region) : Prop where
  first : run.head?.map s.counter = some r.first.toNat
  last : run.getLast?.map s.counter = some r.last.toNat
  placed (j i : Nat) : run[j]? = some i → s.counter i = (r.first.toNat + j) % 256

/-- A region that holds the addresses of a run, in order, and has its length. -/
structure Region.Describes (s : Source) (run : List Nat) (r : Region) : Prop where
  le : r.first.toNat ≤ r.last.toNat
  length : r.length = run.length
  placed (j i : Nat) : run[j]? = some i → s.counter i = r.first.toNat + j

/-- There is room for a run in front of the end of memory. -/
def Source.Fits (s : Source) (run : List Nat) : Prop := ∀ i ∈ run.head?, s.counter i + run.length ≤ 256

theorem Region.Covers.describes_iff {s : Source} {run : List Nat} {r : Region} (h : r.Covers s run) :
    r.Describes s run ↔ s.Fits run := by
  obtain ⟨i, hhead, hfirst⟩ := Option.map_eq_some_iff.mp h.first
  obtain ⟨k, hk, hlast⟩ := Option.map_eq_some_iff.mp h.last
  rw [List.getLast?_eq_getElem?] at hk
  have hpos := (List.getElem?_eq_some_iff.mp hk).1
  have hlt := r.last.isLt
  rw [h.placed _ _ hk] at hlast
  have hfits : s.Fits run ↔ r.first.toNat + run.length ≤ 256 := by
    rw [Source.Fits, hhead, ← hfirst]
    simp
  rw [hfits]
  constructor
  · intro hdescribes
    have hlength := hdescribes.length
    rw [Region.length, unsigned, unsigned] at hlength
    omega
  · intro hroom
    refine ⟨?_, ?_, ?_⟩
    · omega
    · rw [Region.length, unsigned, unsigned]
      omega
    · intro j i hi
      have hj := (List.getElem?_eq_some_iff.mp hi).1
      rw [h.placed j i hi]
      omega

section Describes

variable {s : Source} {run : List Nat} {r : Region}

theorem Region.Describes.mem_iff (h : r.Describes s run) (a : Nat) :
    (∃ i ∈ run, s.counter i = a) ↔ r.first.toNat ≤ a ∧ a ≤ r.last.toNat := by
  have hlength := h.length
  rw [Region.length, unsigned, unsigned] at hlength
  have hle := h.le
  constructor
  · rintro ⟨i, hi, rfl⟩
    obtain ⟨j, hj⟩ := List.mem_iff_getElem?.mp hi
    have hlt := (List.getElem?_eq_some_iff.mp hj).1
    rw [h.placed j i hj]
    omega
  · rintro ⟨hfirst, hlast⟩
    have hj : a - r.first.toNat < run.length := by omega
    have hget := List.getElem?_eq_getElem hj
    refine ⟨_, List.mem_of_getElem? hget, ?_⟩
    rw [h.placed _ _ hget]
    omega

end Describes

theorem sum_length_of_describes {s : Source} {runs : List (List Nat)} {regions : List Region}
    (h : List.Forall₂ (fun run r => r.Describes s run) runs regions) :
    (regions.map Region.length).sum = runs.flatten.length := by
  induction h with
  | nil => rfl
  | cons hdescribes _ ih =>
    rw [List.map_cons, List.sum_cons, ih, hdescribes.length, List.flatten_cons, List.length_append]
    omega

theorem mem_regions_iff {s : Source} {runs : List (List Nat)} {regions : List Region}
    (h : List.Forall₂ (fun run r => r.Describes s run) runs regions) (a : Nat) :
    (∃ i ∈ runs.flatten, s.counter i = a) ↔ ∃ r ∈ regions, r.first.toNat ≤ a ∧ a ≤ r.last.toNat := by
  induction h with
  | nil => simp
  | cons hdescribes _ ih =>
    simp only [List.flatten_cons, List.mem_append, or_and_right, exists_or, ih, hdescribes.mem_iff,
      List.mem_cons, exists_eq_left]

/-! ### Regions of images -/

/-- The runs of a source are those of the lines that it reads as. -/
theorem ReadsAs.runs_eq {source : List Char} {lines : List Line} (h : ReadsAs source lines) :
    (Source.ofText source).runs =
      (((List.range lines.length).splitOnP fun i => (lines.getD i {}).isOrigin).map
        (List.filter fun i => (lines.getD i {}).isInstruction)).filter (· ≠ []) := by
  rw [Source.runs, h.length_ofText]
  simp only [(h.reads _).kind_eq.1, (h.reads _).kind_eq.2]

theorem covers_span? {s : Source} {lines : List Line} (h : ∀ i, Reads (s.line i) (lines.getD i {}))
    {run : List Nat} (hrun : run ∈ s.runs) :
    ∃ r, span? (fun i => (placedAt lines i).location) run = some r ∧ r.Covers s run := by
  have hlocation : ∀ i ∈ run, (placedAt lines i).location.toNat = s.counter i := by
    intro i hi
    rw [← toNat_counterAt h i]
    exact congrArg _ ((h i).location_eq (s.isSome_code?_of_mem_runs hrun hi) _)
  have hne := s.ne_nil_of_mem_runs hrun
  have hfirst := hlocation _ (List.head_mem hne)
  have hlast := hlocation _ (List.getLast_mem hne)
  refine ⟨⟨(placedAt lines (run.head hne)).location, (placedAt lines (run.getLast hne)).location⟩,
    ?_, ?_, ?_, ?_⟩
  · rw [span?, List.head?_eq_some_head hne, List.getLast?_eq_some_getLast hne]
    rfl
  · rw [List.head?_eq_some_head hne, Option.map_some, hfirst]
  · rw [List.getLast?_eq_some_getLast hne, Option.map_some, hlast]
  · intro j i hi
    have hlt : s.counter (run.head hne) < 256 := by
      rw [← hfirst]
      exact BitVec.isLt _
    rw [hfirst]
    exact Source.counter_of_isChain (s.isChain_of_mem_runs hrun) (List.head?_eq_some_head hne) hlt hi

theorem forall₂_filterMap {α β : Type} {R : α → β → Prop} {f : α → Option β} {as : List α}
    (h : ∀ a ∈ as, ∃ b, f a = some b ∧ R a b) : List.Forall₂ R as (as.filterMap f) := by
  induction as with
  | nil => exact .nil
  | cons a rest ih =>
    obtain ⟨b, hb, hab⟩ := h a List.mem_cons_self
    rw [List.filterMap_cons_some hb]
    exact .cons hab (ih fun a ha => h a (List.mem_cons_of_mem _ ha))

/-- **Regions are the runs of instructions.**  An image has one region for each run, in order, from the
    first address of the run to the last.  It has the length of the run and holds its addresses one after
    the other exactly if the run fits in front of the end of memory.  If all of them do, the lengths add up
    to the number of instructions, and an address is in a region exactly if an instruction is placed
    there. -/
theorem regions_cover_runs {name : String} {source : List Char} {image : Image}
    (h : assemble name source = .ok image) :
    let s := Source.ofText source
    List.Forall₂ (fun run r => r.Covers s run ∧ (r.Describes s run ↔ s.Fits run)) s.runs image.regions ∧
      ((∀ run ∈ s.runs, s.Fits run) →
        (image.regions.map Region.length).sum =
          ((List.range s.length).countP fun i => (s.line i).code?.isSome : Nat) ∧
        ∀ a, (∃ i < s.length, s.isPlaced a i = true) ↔
          ∃ r ∈ image.regions, r.first.toNat ≤ a ∧ a ≤ r.last.toNat) := by
  intro s
  obtain ⟨lines, hreads, rfl⟩ := exists_readsAs h
  have hregions : (Image.ofLines name lines).regions = _ := regions_eq hreads.reads hreads.length_ofText
  rw [hregions]
  constructor
  · apply forall₂_filterMap
    intro run hrun
    obtain ⟨r, hr, hcovers⟩ := covers_span? hreads.reads hrun
    exact ⟨r, hr, hcovers, hcovers.describes_iff⟩
  · intro hfits
    have hdescribes : List.Forall₂ (fun run r => r.Describes s run) s.runs
        (s.runs.filterMap (span? fun i => (placedAt lines i).location)) := by
      apply forall₂_filterMap
      intro run hrun
      obtain ⟨r, hr, hcovers⟩ := covers_span? hreads.reads hrun
      exact ⟨r, hr, hcovers.describes_iff.mpr (hfits run hrun)⟩
    refine ⟨?_, ?_⟩
    · rw [sum_length_of_describes hdescribes, Source.flatten_runs, List.countP_eq_length_filter]
    · intro a
      rw [← mem_regions_iff hdescribes, Source.flatten_runs]
      simp [Source.isPlaced, and_assoc]

/-- Overlapping runs, with a comment inside one of them and two `ORG` lines in front of it. -/
theorem overlapping_regions_cover_runs :
    let source := "LDI 1\nORG 20\n$2 ORG 10\n$1 LDI 2\n; then\nJMP $1\nORG 11\nSTA %IX".toList
    let s := Source.ofText source
    ∃ image, assemble "demo" source = .ok image ∧
      List.Forall₂ (fun run r => r.Covers s run ∧ (r.Describes s run ↔ s.Fits run)) s.runs image.regions ∧
      s.runs = [[0], [3, 5], [7]] ∧ (∀ run ∈ s.runs, s.Fits run) ∧
      (image.regions.map Region.length).sum =
        ((List.range s.length).countP fun i => (s.line i).code?.isSome : Nat) ∧
      ∀ a, (∃ i < s.length, s.isPlaced a i = true) ↔
        ∃ r ∈ image.regions, r.first.toNat ≤ a ∧ a ≤ r.last.toNat := by
  intro source s
  have hreads : ReadsAs source ((sourceLines source).map SourceLine.line) := rfl
  have himage := assemble_of_readsAs hreads "demo"
  obtain ⟨hcovers, hall⟩ := regions_cover_runs himage
  have hruns : s.runs = [[0], [3, 5], [7]] := by
    rw [hreads.runs_eq]
    decide
  have hcounter : ∀ i, s.counter i = _ := fun i => (toNat_counterAt hreads.reads i).symm
  have hfits : ∀ run ∈ s.runs, s.Fits run := by
    rw [hruns]
    simp only [Source.Fits, hcounter]
    decide
  exact ⟨_, himage, hcovers, hruns, hfits, hall hfits⟩

/-- **A run that passes the end of memory has no region of its length.** -/
theorem wrapping_run_not_described :
    ¬∀ (name : String) (source : List Char) (image : Image), assemble name source = .ok image →
      List.Forall₂ (fun run r => r.Describes (Source.ofText source) run) (Source.ofText source).runs
        image.regions := by
  intro h
  let source := "ORG FF\nLDI 01\nLDI 02\n".toList
  have hreads : ReadsAs source ((sourceLines source).map SourceLine.line) := rfl
  have hdescribes := h "<source>" source _ (assemble_of_readsAs hreads _)
  have hregions : (Image.ofLines "<source>" ((sourceLines source).map SourceLine.line)).regions =
      [⟨0xFF, 0x00⟩] := by decide
  rw [hregions] at hdescribes
  obtain ⟨run, _, hwrapped, -⟩ := List.forall₂_cons_right_iff.mp hdescribes
  have hle := hwrapped.le
  revert hle
  decide

end Microcore.Assembly
