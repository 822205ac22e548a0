import WatWorkbench.Pipeline.Session
import WatWorkbench.Playground.Page
import WatWorkbench.Text.Base64

/-!
# What the playground does

Every button of the page drives the pipeline and then shows its output and its log.  A failure that
the pipeline has logged is shown there and nowhere else.

* `LogPanel` — what the log panel shows.
* `Playground.act`, `showExample`, `download` — what the buttons ask for.
* `Playground.clickAction`, `clickExample` — what pressing a button leads to.
-/

namespace WatWorkbench

/-- What the log panel shows. -/
inductive LogPanel where
  /-- A remark in place of a log. -/
  | notice (t : Text)
  /-- A line for each entry of the log. -/
  | lines (ls : List Component)
  deriving Inhabited, Repr

/-- A file that is handed out. -/
structure Download where
  /-- The name. -/
  fileName : Text
  /-- The octets in base 64. -/
  content : Text
  deriving DecidableEq, Inhabited, Repr

namespace Playground

variable {M I H : Type}

/-! ## Panels -/

/-- The line of an entry; its class is the name of the entry's kind. -/
def logLine (e : LogEntry) : Component := .text .division { cssClass := some e.kind.name } e.message

/-- What the log panel shows of a log. -/
def logPanel : List LogEntry → LogPanel
  | [] => .notice noLogs
  | es => .lines (es.map logLine)

/-- What the output panel shows of an output. -/
def outputPanel (output : Text) : Text := if output.isEmpty then noOutput else output

/-- Runs an operation of the pipeline.  Failures of its stages are in its log already. -/
def logged {α : Type} (body : Act (World M I H) α) : Act (World M I H) (Option α) := do
  match ← World.attempt body with
  | .ok a => return some a
  | .error e => if e.isStage then return none else throw e

variable (p : Pipeline M I)

/-- What the log panel shows now. -/
def logs : Act (World M I H) LogPanel := do return logPanel (← p.logs)

/-! ## What buttons ask for -/

/-- Has the pipeline do what an action asks for. -/
def perform (source : Text) : Action → Act (World M I H) Unit
  | .compile => do let _ ← p.compile source
  | .run => do let _ ← p.run []
  | .compileAndRun => do let _ ← p.compileAndRun source []
  | .clear => p.clearLogs

/-- Does what a button of the toolbar asks for, and gives what the panels show then.  An unknown
button asks for nothing. -/
def act (button source : Text) : Act (World M I H) (Text × LogPanel) := do
  let _ ← logged ((Action.ofButton? button).forM (perform p source))
  return (outputPanel (← p.session).output, ← logs p)

/-- Loads an example, and gives its source and what the log panel shows then. -/
def showExample (key : Value) : Act (World M I H) (Text × LogPanel) := do
  let source ← p.loadExample key
  return (source, ← logs p)

/-- Hands out the package of the current artifact, if there is one, and gives what the log panel
shows then. -/
def download (fileName : Text) : Act (World M I H) (Option Download × LogPanel) := do
  let data ← logged (p.package none)
  return (data.map fun bs => ⟨fileName, Base64.encode bs⟩, ← logs p)

/-! ## Pressing buttons -/

/-- A button of the toolbar is pressed; the editor may hold nothing. -/
def clickAction (button : Text) (source : Option Text) : Act (World M I H) (Text × LogPanel) :=
  act p button (source.getD "")

/-- The button of an example is pressed.  Without a button, or without any that has been pressed at
least once, nothing is changed. -/
def clickExample (key : Option Value) (clicks : List (Option Int)) :
    Act (World M I H) (Text × LogPanel) := do
  match key with
  | some key =>
    if clicks.any fun n => n.getD 0 ≠ 0 then showExample p key
    else throw (.raised .ignored "")
  | none => throw (.raised .ignored "")

end Playground

end WatWorkbench
