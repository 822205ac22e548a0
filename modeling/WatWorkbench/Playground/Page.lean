import WatWorkbench.Catalog

/-!
# The page of the playground

A page is a tree of components.  The playground's page has a toolbar, a button for each example, an
editor, and two panels for the output and the log.

* `Component` — components, with their `Attributes`.
* `Playground.page` — the page.
-/

namespace WatWorkbench

/-! ## Components -/

/-- The sorts of components. -/
inductive ComponentKind where
  /-- The heading of the page. -/
  | title
  /-- The heading of a part. -/
  | heading
  /-- A paragraph. -/
  | paragraph
  /-- A part. -/
  | division
  /-- A piece of a line. -/
  | span
  /-- Something to press. -/
  | button
  /-- An editor for text. -/
  | textArea
  /-- Something that hands out files. -/
  | download
  deriving DecidableEq, Inhabited, Repr

/-- What other parts of the program call a component by. -/
inductive ComponentId where
  /-- A name. -/
  | name (t : Text)
  /-- The key of an example. -/
  | example (key : Text)
  deriving DecidableEq, Inhabited, Repr

/-- What is known about a component apart from its content. -/
structure Attributes where
  /-- What it is called by. -/
  id : Option ComponentId := none
  /-- The class that decides on its looks. -/
  cssClass : Option Text := none
  /-- Its looks. -/
  style : List (Text × Text) := []
  /-- What an editor holds at first. -/
  value : Option Text := none
  deriving DecidableEq, Inhabited, Repr

/-- A part of a page. -/
inductive Component where
  /-- One with a text. -/
  | text (kind : ComponentKind) (attributes : Attributes) (content : Text)
  /-- One with other components. -/
  | group (kind : ComponentKind) (attributes : Attributes) (children : List Component)
  /-- One with neither. -/
  | leaf (kind : ComponentKind) (attributes : Attributes)
  deriving Inhabited, Repr

namespace Playground

/-! ## Texts and names -/

/-- The title of the page. -/
def title : Text := "WebAssembly Playground"

/-- What the output panel shows when there is no output. -/
def noOutput : Text := "No output yet. Compile and run your code to see results."

/-- What the log panel shows when the log is empty. -/
def noLogs : Text := "No logs yet."

/-- What a button of the toolbar asks for. -/
inductive Action where
  /-- Compiling the source. -/
  | compile
  /-- Running what has been compiled. -/
  | run
  /-- Compiling the source and running it. -/
  | compileAndRun
  /-- Emptying the log. -/
  | clear
  deriving DecidableEq, Inhabited, Repr

namespace Action

/-- All actions. -/
def all : List Action := [compile, run, compileAndRun, clear]

/-- The name of the button that asks for an action. -/
def button : Action → Text
  | compile => "compile-button"
  | run => "run-button"
  | compileAndRun => "compile-run-button"
  | clear => "clear-button"

/-- The action that a button asks for, if it asks for one. -/
def ofButton? (t : Text) : Option Action := all.find? (·.button = t)

end Action

/-- The name of the button that asks for a package. -/
def downloadButton : Text := "download-button"

/-! ## The page -/

/-- The looks of a panel with code. -/
def monospace : List (Text × Text) := [("fontFamily", "monospace"), ("whiteSpace", "pre-wrap")]

/-- A button with a name. -/
def button (label name : Text) : Component := .text .button { id := some (.name name) } label

/-- The buttons that ask for something. -/
def toolbar : Component :=
  .group .division { cssClass := some "control-panel" }
    [ button "Compile WAT to WASM" Action.compile.button,
      button "Run WASM" Action.run.button,
      button "Compile & Run" Action.compileAndRun.button,
      button "Download" downloadButton,
      button "Clear Logs" Action.clear.button ]

/-- A button for each example. -/
def exampleBar : Component :=
  .group .division { cssClass := some "examples" }
    (.text .span {} "Examples: "
      :: Catalog.examples.map fun e => .text .button { id := some (.example e.key) } e.title)

/-- The source that the editor shows at first. -/
def firstSource : Text := ((Catalog.find? Catalog.defaultKey).map (·.source)).getD ""

/-- The editor. -/
def editor : Component :=
  .leaf .textArea
    { id := some (.name "source"), value := some firstSource
      style := ("width", "100%") :: ("height", "400px") :: monospace }

/-- A panel with a name. -/
def panel (name content : Text) : Component :=
  .text .division { id := some (.name name), style := monospace } content

/-- The page. -/
def page : Component :=
  .group .division { style := [("fontFamily", "sans-serif"), ("padding", "2rem")] }
    [ .text .title {} title,
      .text .paragraph {} "Write, compile, and run WebAssembly Text Format (WAT) code.",
      toolbar,
      exampleBar,
      editor,
      .text .heading {} "Output",
      panel "output" noOutput,
      .text .heading {} "Logs",
      panel "logs" noLogs,
      .leaf .download { id := some (.name "download") } ]

end Playground

end WatWorkbench
