/-
  Microcore/Proofs/Assembly/Emptied.lean
  ======================================
  **Malformed lines count as empty ones.**  The assembler lays out the well-formed lines of a source
  without the others.  An empty line leaves the location counter, defines no label and is in no region, so
  labels, regions and listing are the same as if every malformed line was laid out as an empty one
  (`assemble_emptied`), which keeps the lines in step with the places they have.
-/
import Mathlib.Data.List.Basic
import Microcore.Assembly.Image

namespace Microcore.Assembly

/-- The meaning of a line, a malformed line counting as an empty one. -/
def SourceLine.line (s : SourceLine) : Line :=
  match s.parsed with
  | .ok line => line
  | .error _ => {}

/-- The listing of a line that is laid out, or the two lines of its message when it is malformed. -/
def SourceLine.listed (labels : Labels) (s : SourceLine) (p : Placed) : List String :=
  match s.parsed with
  | .ok _ => [Listing.entry labels s.number p]
  | .error fault => [Listing.faultHead fault, Listing.faultTail s.number s.text]

section Parsed

variable {s : SourceLine}

theorem SourceLine.line?_of_ok {line : Line} (h : s.parsed = .ok line) : s.line? = some line := by
  rw [line?, h]
  rfl

theorem SourceLine.line?_of_error {fault : Fault} (h : s.parsed = .error fault) : s.line? = none := by
  rw [line?, h]
  rfl

theorem SourceLine.line_of_ok {line : Line} (h : s.parsed = .ok line) : s.line = line := by
  simp only [SourceLine.line, h]

theorem SourceLine.line_of_error {fault : Fault} (h : s.parsed = .error fault) : s.line = {} := by
  simp only [SourceLine.line, h]

end Parsed

/-! ### Dropped and emptied lines -/

theorem definitions_cons (p : Placed) (rest : List Placed) :
    definitions (p :: rest) =
      (p.line.label.map fun number => (number, p.counter)).toList ++ definitions rest := by
  rw [definitions, List.filterMap_cons]
  cases p.line.label <;> rfl

theorem definitions_dropped (counter : Byte) (lines : List SourceLine) :
    definitions (place counter (lines.filterMap SourceLine.line?)) =
      definitions (place counter (lines.map SourceLine.line)) := by
  induction lines generalizing counter with
  | nil => rfl
  | cons s rest ih =>
    cases h : s.parsed with
    | ok line =>
      rw [List.filterMap_cons_some (s.line?_of_ok h), List.map_cons, s.line_of_ok h, place, place,
        definitions_cons, definitions_cons, ih]
    | error fault =>
      rw [List.filterMap_cons_none (s.line?_of_error h), List.map_cons, s.line_of_error h, place,
        definitions_cons, ih]
      rfl

theorem regionsFrom_dropped (region : Option Region) (counter : Byte) (lines : List SourceLine) :
    regionsFrom region (place counter (lines.filterMap SourceLine.line?)) =
      regionsFrom region (place counter (lines.map SourceLine.line)) := by
  induction lines generalizing region counter with
  | nil => rfl
  | cons s rest ih =>
    cases h : s.parsed with
    | ok line =>
      rw [List.filterMap_cons_some (s.line?_of_ok h), List.map_cons, s.line_of_ok h, place, place,
        regionsFrom, regionsFrom]
      simp only [ih]
    | error fault =>
      rw [List.filterMap_cons_none (s.line?_of_error h), List.map_cons, s.line_of_error h, place,
        regionsFrom, ih]
      rfl

/-- Each line of a rejected source is listed where it is laid out among the lines of the source. -/
theorem listedOrFault_dropped (table : Labels) (counter : Byte) (lines : List SourceLine) :
    listedOrFault table lines (place counter (lines.filterMap SourceLine.line?)) =
      (lines.zip (place counter (lines.map SourceLine.line))).flatMap fun (s, p) =>
        s.listed table p := by
  induction lines generalizing counter with
  | nil => rfl
  | cons s rest ih =>
    cases h : s.parsed with
    | ok line =>
      rw [List.filterMap_cons_some (s.line?_of_ok h), List.map_cons, s.line_of_ok h, place, place,
        List.zip_cons_cons, List.flatMap_cons, ← ih]
      simp only [listedOrFault, SourceLine.listed, h, List.singleton_append]
    | error fault =>
      rw [List.filterMap_cons_none (s.line?_of_error h), List.map_cons, s.line_of_error h, place,
        List.zip_cons_cons, List.flatMap_cons]
      simp only [listedOrFault, SourceLine.listed, h]
      exact congrArg ([_, _] ++ ·) (ih counter)

theorem filterMap_line?_eq_map {lines : List SourceLine}
    (h : lines.filterMap SourceLine.message? = []) :
    lines.filterMap SourceLine.line? = lines.map SourceLine.line := by
  rw [List.filterMap_eq_map_iff_forall_eq_some]
  intro s hs
  have hmessage := List.filterMap_eq_nil_iff.mp h s hs
  cases hparsed : s.parsed with
  | ok line => rw [s.line?_of_ok hparsed, s.line_of_ok hparsed]
  | error fault =>
    rw [SourceLine.message?, hparsed] at hmessage
    cases hmessage

/-- **Malformed lines count as empty ones.** -/
theorem assemble_emptied (name : String) (source : List Char) :
    assemble name source =
      let lines := sourceLines source
      let placed := place 0 (lines.map SourceLine.line)
      let table := labels placed
      match lines.filterMap SourceLine.message? with
      | [] =>
        .ok { name
              words := emit table (Vector.replicate 256 0) placed
              regions := regionsFrom none placed
              listing := Listing.header name "Second" ++
                (lines.zip placed).flatMap fun (s, p) => listed table s.number p
              warnings := (redefined [] ((definitions placed).map Prod.fst)).map Listing.redefinedMessage
              errors := (placed.filterMap (Placed.undefined? table)).map Listing.undefinedMessage }
      | errors =>
        .error { name
                 errors
                 listing := Listing.header name "First" ++
                   (lines.zip placed).flatMap fun (s, p) => s.listed table p
                 regions := regionsFrom none placed } := by
  have htable (lines : List SourceLine) : labels (place 0 (lines.filterMap SourceLine.line?)) =
      labels (place 0 (lines.map SourceLine.line)) := congrArg List.reverse (definitions_dropped 0 lines)
  simp only [assemble]
  cases herrors : (sourceLines source).filterMap SourceLine.message? with
  | nil => simp only [filterMap_line?_eq_map herrors]
  | cons error errors => simp only [htable, regionsFrom_dropped, listedOrFault_dropped]

end Microcore.Assembly
