import ExpectedDamage.CommandLine.Display
import ExpectedDamage.Document.Json.Printer
import ExpectedDamage.Library.Loading
import ExpectedDamage.Library.Settings
import ExpectedDamage.Record.Checked
/-!
# Scripts

A command is a script: a computation that adds to a transcript and may end before its
end. What it added before it ended stays in the transcript.
-/

namespace ExpectedDamage.CommandLine

open Record

/-- A fault that no command expects. -/
inductive RunFault where
  | invalid (problems : List Problem)
  | arithmetic (fault : ArithmeticFault)
  /-- A file is no text. -/
  | undecodable
  /-- A file has something without parts in place of a list. -/
  | partless
  deriving DecidableEq, Repr

/-- How a script ends before its end. -/
inductive Ending where
  /-- With a printed reason. -/
  | explained
  | fault (fault : RunFault)
  deriving DecidableEq, Repr

/-- What a script has shown so far, and the text that it has written. -/
structure Transcript where
  events : List Event := []
  output : String := ""
  deriving DecidableEq, Repr

abbrev Script := ExceptT Ending (StateM Transcript)

/-- What a script depends on. -/
structure Setup where
  settings : Library.Settings
  folder : Library.Folder
  yaml : Document.Yaml.Reader
  faces : Dice.Faces
  /-- The lowest level of the notices that are shown. -/
  level : NoticeLevel

namespace Script

def showAll (events : List Event) : Script Unit :=
  modify fun t => { t with events := t.events ++ events }

def showOne (event : Event) : Script Unit := showAll [event]

/-- Shows the notices that matter enough. -/
def note (s : Setup) (notices : List Notice) : Script Unit :=
  showAll ((notices.filter fun n => s.level.rank ≤ n.level.rank).map .notice)

def computed {α : Type} : Except ArithmeticFault α → Script α
  | .ok a => return a
  | .error fault => throw (.fault (.arithmetic fault))

def writeJson (v : Value) : Script Unit := do
  let text ← computed (Document.Json.text? .indented v)
  modify fun t => { t with output := t.output ++ text ++ "\n" }

def fail {α : Type} (reason : String) : Script α := do
  showOne (errorText reason)
  throw .explained

/-- What was read. -/
def checked {α : Type} : Checked α → Script α
  | .ok a => return a
  | .refused problems => throw (.fault (.invalid problems))

/-- What was loaded from a path. The problems of a record are not told apart. -/
def loaded {α : Type} (path : String) : Except Library.LoadFault α → Script α
  | .ok a => return a
  | .error (.file fault) =>
    fail (fault.messageWith (fun _ => "<validation errors>") (Library.shownPath path))
  | .error .undecodable => throw (.fault .undecodable)
  | .error .partless => throw (.fault .partless)
  | .error (.arithmetic fault) => throw (.fault (.arithmetic fault))

end Script

end ExpectedDamage.CommandLine
