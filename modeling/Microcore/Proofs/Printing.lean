/-
  Microcore/Proofs/Printing.lean
  ==============================
  **Programs that print their reports where they make them.**  A report is a template with arguments;
  it is filled and printed in the middle of the work, between one change and the next, if its topic is
  printed.  A report that cannot be filled stops the program, and what has been changed and printed by
  then stays.  A report that makes an entry of the log never does that (`run_report`): it only adds the
  entry to what is printed.
-/
import Microcore.Proofs.Text.Template
import Microcore.Log

namespace Microcore

namespace Log

/-- A report before its text is made. -/
structure Report where
  topic : String
  template : String
  args : List Template.Arg

/-- A report gives an entry of the log. -/
structure Report.Makes (r : Report) (e : Entry) : Prop where
  topic : r.topic = e.topic
  message (host : Host) : Template.message r.template r.args host = .ok e.text

namespace Filter

variable (filter : Filter)

@[simp] theorem render_nil : filter.render [] = "" := rfl

theorem render_append (log log' : List Entry) :
    filter.render (log ++ log') = filter.render log ++ filter.render log' := by
  simp only [render, List.filter_append, List.map_append, String.join_append]

theorem report_of_makes {r : Report} {e : Entry} (h : r.Makes e) (host : Host) :
    filter.report r.topic r.template r.args host = .ok (filter.render [e]) := by
  have hrender : filter.render [e] = if filter.enables (some e.topic) then line e else "" := by
    cases henabled : filter.enables (some e.topic) <;> simp [render, henabled]
  rw [report, h.topic, h.message, hrender]
  split
  · rfl
  · rfl

end Filter

end Log

/-! ### Programs -/

/-- What a program works on, and what it has printed. -/
structure Console (σ : Type) where
  held : σ
  printed : String := ""

/-- Why a program stops: what it is asked for is refused, or a report cannot be made. -/
inductive Stop (ε : Type) where
  | refused (fault : ε)
  | report (fault : Template.Fault)

/-- A program that prints.  What it has changed and printed before it stops stays. -/
abbrev Printing (ε σ α : Type) : Type := EStateM (Stop ε) (Console σ) α

namespace Printing

variable {ε σ α β : Type}

def held : Printing ε σ σ := fun c => .ok c.held c

def update (change : σ → σ) : Printing ε σ PUnit := fun c =>
  .ok ⟨⟩ { c with held := change c.held }

def attempt (result : Except ε α) : Printing ε σ α := fun c =>
  match result with
  | .ok a => .ok a c
  | .error fault => .error (.refused fault) c

def report (filter : Log.Filter) (host : Host) (r : Log.Report) : Printing ε σ PUnit := fun c =>
  match filter.report r.topic r.template r.args host with
  | .ok text => .ok ⟨⟩ { c with printed := c.printed ++ text }
  | .error fault => .error (.report fault) c

/-- What a program gives when it is run. -/
def outcome (x : Printing ε σ α) (c : Console σ) : Except (Stop ε) α :=
  match x.run c with
  | .ok a _ => .ok a
  | .error stop _ => .error stop

@[simp] theorem run_held (c : Console σ) :
    EStateM.run (held : Printing ε σ σ) c = .ok c.held c := rfl

@[simp] theorem run_update (change : σ → σ) (c : Console σ) :
    EStateM.run (update change : Printing ε σ PUnit) c = .ok ⟨⟩ { c with held := change c.held } := rfl

@[simp] theorem run_attempt_ok (a : α) (c : Console σ) :
    EStateM.run (attempt (.ok a) : Printing ε σ α) c = .ok a c := rfl

@[simp] theorem run_attempt_error (fault : ε) (c : Console σ) :
    EStateM.run (attempt (.error fault) : Printing ε σ α) c = .error (.refused fault) c := rfl

@[simp] theorem run_map (f : α → β) (x : Printing ε σ α) (c : Console σ) :
    EStateM.run (f <$> x) c = match x.run c with
      | .ok a c' => .ok (f a) c'
      | .error stop c' => .error stop c' := by
  simp only [Functor.map, EStateM.map, EStateM.run]
  cases x c <;> rfl

/-- A report adds the entry that it gives to what is printed, and does nothing else. -/
theorem run_report (filter : Log.Filter) (host : Host) {r : Log.Report} {e : Log.Entry} (h : r.Makes e)
    (c : Console σ) : EStateM.run (report filter host r : Printing ε σ PUnit) c =
      .ok ⟨⟩ { c with printed := c.printed ++ filter.render [e] } := by
  simp only [report, EStateM.run, filter.report_of_makes h host]

/-! ### Changes at once -/

/-- What is left of a change that is made and reported, or is refused and leaves everything as it is. -/
def settled (result : Except ε σ) (text : String) (c : Console σ) :
    EStateM.Result (Stop ε) (Console σ) PUnit :=
  match result with
  | .ok held => .ok ⟨⟩ ⟨held, c.printed ++ text⟩
  | .error fault => .error (.refused fault) c

@[simp] theorem settled_ok (held : σ) (text : String) (c : Console σ) :
    settled (.ok held : Except ε σ) text c = .ok ⟨⟩ ⟨held, c.printed ++ text⟩ := rfl

@[simp] theorem settled_error (fault : ε) (text : String) (c : Console σ) :
    settled (.error fault : Except ε σ) text c = .error (.refused fault) c := rfl

/-! ### Parts -/

variable {τ ε' : Type}

/-- A program that works on a part, for the whole that has the part. -/
def within (part : σ → τ) (put : σ → τ → σ) (refusal : ε' → ε) (x : Printing ε' τ α) :
    Printing ε σ α := fun c =>
  match x ⟨part c.held, c.printed⟩ with
  | .ok a c' => .ok a ⟨put c.held c'.held, c'.printed⟩
  | .error (.refused fault) c' => .error (.refused (refusal fault)) ⟨put c.held c'.held, c'.printed⟩
  | .error (.report fault) c' => .error (.report fault) ⟨put c.held c'.held, c'.printed⟩

/-- A change of a part at once is a change of the whole at once. -/
theorem run_within {part : σ → τ} {put : σ → τ → σ} (hput : ∀ whole, put whole (part whole) = whole)
    {refusal : ε' → ε} {x : Printing ε' τ PUnit} {result : Except ε' τ} {text : String} (c : Console σ)
    (hx : x.run ⟨part c.held, c.printed⟩ = settled result text ⟨part c.held, c.printed⟩) :
    EStateM.run (within part put refusal x) c =
      settled ((result.map (put c.held)).mapError refusal) text c := by
  rw [EStateM.run] at hx ⊢
  rw [within, hx]
  cases result with
  | ok held => rfl
  | error fault =>
    simp only [settled, Except.map, Except.mapError, hput]

end Printing

end Microcore
