import WatWorkbench.Config.Settings
import WatWorkbench.Files.System
import WatWorkbench.Yaml.Load

/-!
# Configuration files

A configuration file is a document with a mapping, whose entries are settings.  A document with
nothing leaves all settings at their defaults.

* `Settings.parse` — the settings of a document.
* `Settings.load` — the settings of a file.
* `Settings.find` — the settings of the file with the usual name in a directory, if there is one.
-/

namespace WatWorkbench.Settings

/-- The usual name of a configuration file. -/
def fileName : Text := ".wasmplay.yaml"

/-- How messages call a document that is in no file. -/
def noLabel : Text := "<string>"

/-- The entries of a document's value. -/
def entriesOf (label : Text) : Value → Except Failure (List (Value × Value))
  | .null => .ok []
  | .dict entries => .ok entries
  | _ => .error (.config (label ++ ": config must be a YAML mapping"))

/-- The settings of a document, which messages call by a label.  What goes wrong while the text of a
scalar is read as a value is passed on as it is. -/
def parse (document : Text) (label : Text := noLabel) : Except Failure Settings := do
  let data ← match Yaml.load document with
    | .ok v => .ok v
    | .error (.escaped failure) => .error failure
    | .error fault =>
      .error (.config ("Invalid YAML in " ++ label ++ ": " ++ fault.message document.points))
  let entries ← entriesOf label data
  (ofEntries entries).mapError fun report =>
    .config ("Invalid config " ++ label ++ ": " ++ report.message)

/-- What a failure to read a file is to its reader. -/
def unreadable (p : Path) (e : Failure) : Failure :=
  if FileSystem.saysNotFound e then .config ("Config file not found: " ++ p.text)
  else if e.isSystem then .config ("Cannot read config file: " ++ e.message)
  else e

/-- The settings of a file. -/
def load (files : FileSystem) (p : Path) : Except Failure Settings := do
  let document ← (files.readText p).mapError (unreadable p)
  parse document p.text

/-- The settings of the file with the usual name in a directory; the defaults if there is no such
file. -/
def find (files : FileSystem) (directory : Path) : Except Failure Settings := do
  let p := directory.child fileName
  if ← files.exists? p then load files p else return {}

end WatWorkbench.Settings
