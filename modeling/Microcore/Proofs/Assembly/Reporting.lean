/-
  Microcore/Proofs/Assembly/Reporting.lean
  ========================================
  **An assembler that prints while it works.**  The first pass reports a region where it closes it,
  between one line and the next, and the second pass is followed by a summary.  `printAssemble` does
  both in this order.  Every report can be made, so the result is that of `assemble`, and the log of the
  image, or of the rejection, is printed (`run_printAssemble`), whatever the filter and the host.
-/
import Microcore.Assembly.Image
import Microcore.Proofs.Printing

namespace Microcore.Assembly

open Template

/-! ### Reports -/

def Region.reportOf (name : String) (r : Region) : Log.Report :=
  ⟨topic, "%s: region %02x-%02x, %d word(s)",
    [.text name, .number r.first.toNat, .number r.last.toNat, .number r.length]⟩

theorem Region.makes_reportOf (name : String) (r : Region) :
    (r.reportOf name).Makes (r.report name) := by
  have h := Fits.word name <|
    .append ": region " (by decide) <|
    .hex 2 (by decide) r.first.toNat <|
    .plain '-' (by decide) <|
    .hex 2 (by decide) r.last.toNat <|
    .append ", " (by decide) <|
    .decimal r.length <|
    .append " word(s)" (by decide) .done
  refine ⟨rfl, ?_⟩
  intro host
  refine Fits.message_eq ?_ host
  simpa [Region.reportOf, Region.report, toString, Nat.digitChar, Numeral.hexLower, Numeral.decimal]
    using h

def summaryReport (image : Image) : Log.Report :=
  ⟨topic, "%s: %d warning(s), %d error(s)",
    [.text image.name, .number image.warnings.length, .number image.errors.length]⟩

def summary (image : Image) : Log.Entry :=
  ⟨topic, s!"{image.name}: {Numeral.decimal image.warnings.length} warning(s), " ++
      s!"{Numeral.decimal image.errors.length} error(s)"⟩

theorem makes_summaryReport (image : Image) : (summaryReport image).Makes (summary image) := by
  have h := Fits.word image.name <|
    .append ": " (by decide) <|
    .decimal image.warnings.length <|
    .append " warning(s), " (by decide) <|
    .decimal image.errors.length <|
    .append " error(s)" (by decide) .done
  refine ⟨rfl, ?_⟩
  intro host
  refine Fits.message_eq ?_ host
  simpa [summaryReport, summary, toString, Numeral.decimal] using h

/-! ### Working and printing -/

/-- What the first pass has found so far: where the lines go, and the regions that are closed. -/
structure Pass where
  placed : List Placed := []
  regions : List Region := []

variable (filter : Log.Filter) (host : Host) (name : String)

/-- Close a region, if one is open. -/
def printRegion : Option Region → Printing Rejection Pass PUnit
  | none => pure ⟨⟩
  | some r => do
    Printing.update fun pass => { pass with regions := pass.regions ++ [r] }
    Printing.report filter host (r.reportOf name)

def printFirstPass (counter : Byte) (region : Option Region) :
    List Line → Printing Rejection Pass PUnit
  | [] => printRegion filter host name region
  | line :: rest => do
    Printing.update fun pass =>
      { pass with placed := pass.placed ++ [⟨line, counter, line.location counter⟩] }
    match line.statement with
    | some (.origin address) => do
      printRegion filter host name region
      printFirstPass address none rest
    | some (.instruction _ _) =>
      printFirstPass (counter + 1) (some (Region.extend region counter)) rest
    | none => printFirstPass counter region rest

/-- The second pass over well-formed lines. -/
def imageOf (lines : List SourceLine) (pass : Pass) : Image :=
  let table := labels pass.placed
  { name
    words := emit table (Vector.replicate 256 0) pass.placed
    regions := pass.regions
    listing := Listing.header name "Second" ++
      (lines.zip pass.placed).flatMap fun (s, p) => listed table s.number p
    warnings := (redefined [] ((definitions pass.placed).map Prod.fst)).map Listing.redefinedMessage
    errors := (pass.placed.filterMap (Placed.undefined? table)).map Listing.undefinedMessage }

def rejectionOf (lines : List SourceLine) (errors : List String) (pass : Pass) : Rejection :=
  { name
    errors
    listing := Listing.header name "First" ++
      listedOrFault (labels pass.placed) lines pass.placed
    regions := pass.regions }

/-- Assemble a source and print the reports where they are made.  Of a source with a malformed line the
    other lines are laid out, too, before it is rejected. -/
def printAssemble (source : List Char) : Printing Rejection Pass Image := do
  let lines := sourceLines source
  printFirstPass filter host name 0 none (lines.filterMap SourceLine.line?)
  let pass ← Printing.held
  match lines.filterMap SourceLine.message? with
  | [] => do
    let image := imageOf name lines pass
    Printing.report filter host (summaryReport image)
    return image
  | errors => Printing.attempt (.error (rejectionOf name lines errors pass))

/-! ### What is printed -/

theorem run_printRegion (region : Option Region) (pass : Pass) (printed : String) :
    (printRegion filter host name region).run ⟨pass, printed⟩ =
      .ok ⟨⟩ ⟨{ pass with regions := pass.regions ++ region.toList },
        printed ++ filter.render (region.toList.map (Region.report name))⟩ := by
  cases region with
  | none => simp [printRegion]
  | some r => simp [printRegion, Printing.run_report filter host (r.makes_reportOf name)]

/-- The first pass lays out the lines and closes the regions of the layout. -/
theorem run_printFirstPass (lines : List Line) (counter : Byte) (region : Option Region) (pass : Pass)
    (printed : String) :
    let placed := place counter lines
    let regions := regionsFrom region placed
    (printFirstPass filter host name counter region lines).run ⟨pass, printed⟩ =
      .ok ⟨⟩ ⟨⟨pass.placed ++ placed, pass.regions ++ regions⟩,
        printed ++ filter.render (regions.map (Region.report name))⟩ := by
  induction lines generalizing counter region pass printed with
  | nil => simp [printFirstPass, run_printRegion, place, regionsFrom]
  | cons line rest ih =>
    cases hstatement : line.statement with
    | none => simp [printFirstPass, place, regionsFrom, Line.advance, hstatement, ih]
    | some statement =>
      cases statement with
      | origin address =>
        simp [printFirstPass, run_printRegion, place, regionsFrom, Line.advance, hstatement, ih,
          Log.Filter.render_append, String.append_assoc]
      | instruction i argument =>
        simp [printFirstPass, place, regionsFrom, Line.advance, Line.location, hstatement, ih]

/-- What is reported of a source that is assembled. -/
def logOf : Except Rejection Image → List Log.Entry
  | .ok image => image.log
  | .error rejection => rejection.log

/-- The first pass over a whole source. -/
def passOf (source : List Char) : Pass :=
  let placed := place 0 ((sourceLines source).filterMap SourceLine.line?)
  { placed, regions := regionsFrom none placed }

theorem assemble_eq (source : List Char) : assemble name source =
    match (sourceLines source).filterMap SourceLine.message? with
    | [] => .ok (imageOf name (sourceLines source) (passOf source))
    | errors => .error (rejectionOf name (sourceLines source) errors (passOf source)) := rfl

/-- **Assembling with reports gives what assembling gives.**  The log of the result is printed. -/
theorem run_printAssemble (source : List Char) (printed : String) :
    (printAssemble filter host name source).run ⟨{}, printed⟩ =
      (Printing.attempt (assemble name source) : Printing Rejection Pass Image).run
        ⟨passOf source, printed ++ filter.render (logOf (assemble name source))⟩ := by
  have hpass : (printFirstPass filter host name 0 none ((sourceLines source).filterMap SourceLine.line?)).run
      ⟨{}, printed⟩ = .ok ⟨⟩ ⟨passOf source,
        printed ++ filter.render ((passOf source).regions.map (Region.report name))⟩ :=
    run_printFirstPass filter host name _ 0 none {} printed
  rw [assemble_eq]
  cases herrors : (sourceLines source).filterMap SourceLine.message? with
  | nil =>
    have hlog (image : Image) :
        image.log = image.regions.map (Region.report image.name) ++ [summary image] := rfl
    simp only [printAssemble, EStateM.run_bind, hpass, Printing.run_held, herrors,
      Printing.run_report filter host (makes_summaryReport _), EStateM.run_pure, Printing.run_attempt_ok,
      logOf, hlog, imageOf, Log.Filter.render_append, String.append_assoc]
  | cons error errors =>
    simp only [printAssemble, EStateM.run_bind, hpass, Printing.run_held, herrors,
      Printing.run_attempt_error, logOf, Rejection.log, rejectionOf]

end Microcore.Assembly
