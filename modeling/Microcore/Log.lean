/-
  Microcore/Log.lean
  ==================
  **The diagnostic log.**  Every component reports what it does under a topic.  A filter, read from
  a setting such as `cpu,asm`, decides which reports are printed; nothing reads a report back.
-/
import Microcore.Text.Blank
import Microcore.Text.Encoding
import Microcore.Text.Letter
import Microcore.Text.Template

namespace Microcore.Log

/-- A report on a topic. -/
structure Entry where
  topic : String
  text : String
deriving DecidableEq, Repr

/-- The topics that are printed, in lower case. -/
structure Filter where
  topics : List String
deriving DecidableEq, Repr

def lowerTopic (topic : String) : String := String.ofList (Letter.lower topic.toList)

namespace Filter

def silent : Filter := ⟨[]⟩

/-- The filter of a setting: topics between commas, with white space around them dropped. -/
def ofSetting (setting : String) : Filter :=
  let names := (Lines.pieces ',' setting.toList).map (Blank.trim Blank.isBlank)
  ⟨(names.filter fun name => !name.isEmpty).map fun name => String.ofList (Letter.lower name)⟩

/-- Whether reports on a topic are printed, and without a topic whether any are.  The topic `all`
    in a setting stands for every topic. -/
def enables (filter : Filter) (topic : Option String) : Bool :=
  if filter.topics.isEmpty then false
  else if filter.topics.contains "all" then true
  else match topic with
    | none => true
    | some topic => filter.topics.contains (lowerTopic topic)

def line (entry : Entry) : String := s!"[UCPU][{entry.topic}] {entry.text}\n"

def render (filter : Filter) (log : List Entry) : String :=
  String.join ((log.filter fun entry => filter.enables (some entry.topic)).map line)

/-- What is printed of a message on a topic.  The message is made only if the topic is printed. -/
def report (filter : Filter) (topic template : String) (args : List Template.Arg)
    (host : Host := .usual) : Except Template.Fault String :=
  if filter.enables (some topic) then do
    let text ← Template.message template args host
    return line ⟨topic, text⟩
  else .ok ""

@[simp] theorem render_silent (log : List Entry) : silent.render log = "" := by
  have h : (log.filter fun entry => silent.enables (some entry.topic)) = [] := by
    simp [silent, enables]
  simp only [render, h]
  rfl

end Filter

/-- A setting and the filter read from it.  The filter is read when it is first needed, and a later
    change of the setting shows only after the filter has been dropped. -/
structure Settings where
  setting : String
  loaded : Option Filter := none
deriving DecidableEq, Repr

namespace Settings

def set? (settings : Settings) (setting : String) : Option Settings :=
  if Encoding.hasNul setting then none else some { settings with setting }

def reload (settings : Settings) : Settings := { settings with loaded := none }

def filter (settings : Settings) : Filter :=
  settings.loaded.getD (.ofSetting settings.setting)

def load (settings : Settings) : Settings := { settings with loaded := some settings.filter }

end Settings

end Microcore.Log
