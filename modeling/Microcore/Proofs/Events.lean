/-
  Microcore/Proofs/Events.lean
  ============================
  **The events of a machine as reports.**  An event is reported by a template with arguments, which is
  filled whatever integers the registers hold (`makes_report`).  So a report never stops the program that
  makes it, and adds what is shown of its event to what is printed (`run_report`).
-/
import Microcore.Machine
import Microcore.Proofs.Printing

namespace Microcore.Machine

/-! ### Reports -/

def flagArg (raised : Bool) : Template.Arg := .number raised.toInt

/-- The report of an event, as a template with its arguments. -/
def Event.report (e : Event) : Log.Report :=
  match e with
  | reset => ⟨e.topic, "reset", []⟩
  | stored address value =>
    ⟨e.topic, "store8: addr=%02x val=%02x", [.number address, .number (value % 256)]⟩
  | cycle number before after =>
    ⟨e.topic, "cycle=%d pc=%02x ir=%03x %s acc=%02x cf=%d zf=%d",
      [.number number, .number before.pc, .number before.ir,
        .text (String.ofList before.word.disassemble), .number after.acc, flagArg after.cf,
        flagArg after.zf]⟩
  | skipped number before after =>
    ⟨e.topic, "cycle=%d skip %s -> %s", [.number number, .text before.name, .text after.name]⟩

theorem decimalChars_flag (raised : Bool) :
    Numeral.decimalChars 0 raised.toInt = (Numeral.flag raised).toList := by
  cases raised <;> rfl

open Template in
/-- **Every report can be made**, whatever integers the registers hold. -/
theorem makes_report (e : Event) : e.report.Makes ⟨e.topic, e.text⟩ := by
  refine ⟨by cases e <;> rfl, ?_⟩
  intro host
  cases e with
  | reset => rfl
  | stored address value =>
    have h := Fits.append "store8: addr=" (by decide) <|
      .hex 2 (by decide) address <|
      .append " val=" (by decide) <|
      .hex 2 (by decide) (value % 256) .done
    refine Fits.message_eq ?_ host
    simpa [Event.report, Event.text, toString, Nat.digitChar, Numeral.hexLower] using h
  | cycle number before after =>
    have h := Fits.append "cycle=" (by decide) <|
      .decimal number <|
      .append " pc=" (by decide) <|
      .hex 2 (by decide) before.pc <|
      .append " ir=" (by decide) <|
      .hex 3 (by decide) before.ir <|
      .plain ' ' (by decide) <|
      .word (String.ofList before.word.disassemble) <|
      .append " acc=" (by decide) <|
      .hex 2 (by decide) after.acc <|
      .append " cf=" (by decide) <|
      .decimal after.cf.toInt <|
      .append " zf=" (by decide) <|
      .decimal after.zf.toInt .done
    refine Fits.message_eq ?_ host
    simpa [Event.report, Event.text, toString, Nat.digitChar, Numeral.hexLower, Numeral.decimal,
      flagArg, decimalChars_flag] using h
  | skipped number before after =>
    have h := Fits.append "cycle=" (by decide) <|
      .decimal number <|
      .append " skip " (by decide) <|
      .word before.name <|
      .append " -> " (by decide) <|
      .word after.name .done
    refine Fits.message_eq ?_ host
    simpa [Event.report, Event.text, toString, Numeral.decimal] using h

/-! ### What is printed -/

variable (filter : Log.Filter)

/-- What is printed of events. -/
def shown (events : List Event) : String := filter.render (reports filter events)

theorem shown_nil : shown filter [] = "" := rfl

theorem shown_append (events events' : List Event) :
    shown filter (events ++ events') = shown filter events ++ shown filter events' := by
  simp only [shown, reports, List.filter_append, List.map_append, Log.Filter.render_append]

theorem shown_singleton (e : Event) : shown filter [e] = filter.render [⟨e.topic, e.text⟩] := by
  cases henabled : filter.enables (some e.topic) <;>
    simp [shown, reports, Log.Filter.render, henabled]

/-- The report of an event only adds what is shown of it to what is printed. -/
theorem run_report {ε σ : Type} (host : Host) (e : Event) (c : Console σ) :
    EStateM.run (Printing.report filter host e.report : Printing ε σ PUnit) c =
      .ok ⟨⟩ { c with printed := c.printed ++ shown filter [e] } := by
  rw [shown_singleton]
  exact Printing.run_report filter host (makes_report e) c

end Microcore.Machine
