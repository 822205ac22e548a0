import WatWorkbench.Schema.Convert

/-!
# Settings

What a configuration file may set: an execution budget, the name of the packaged archive and the
directory for outputs.  Two of the fields may be spelled with a hyphen or with an underscore; a key
that is neither, and the second spelling of a field already given, are violations.

* `Settings` — the record, with its defaults.
* `Settings.ofEntries` — reads settings from the entries of a dictionary.
-/

namespace WatWorkbench

/-- Settings that shape how modules are run and packaged. -/
structure Settings where
  /-- The execution budget, if there is one. -/
  fuel : Option Int := none
  /-- The file name of the archive. -/
  archiveName : Text := "wasm-module.zip"
  /-- The directory for outputs. -/
  outputDirectory : Text := "."
  deriving DecidableEq, Repr

namespace Settings

open Violation (Cause)

/-- The name under which violations are reported. -/
def recordName : Text := "PlaygroundConfig"

/-- The spellings of the fields, the preferred one first. -/
def spellings : List (List Text) :=
  [["fuel"], ["archive-name", "archive_name"], ["output-directory", "output_directory"]]

/-- A budget: none, or a positive integer. -/
def budget : Value → Except Cause (Option Int)
  | .null => .ok none
  | v => (Convert.positive v).map some

/-- The keys that the fields are read from. -/
def usedKeys (entries : List (Value × Value)) : List Text :=
  spellings.filterMap fun names => (Convert.field? entries names).map (·.1)

/-- A key as a place.  Truth values are shown as the integers they equal. -/
def keyPlace : Value → Text
  | .text t => t
  | .bool b => Text.decimal (if b then 1 else 0)
  | v => Report.shownValue v

/-- The violation that an entry is by itself, if it is one. -/
def unexpected (used : List Text) : Value × Value → Option Violation
  | (.text key, v) => if used.contains key then none else some ⟨some key, .unknownField, v⟩
  | (key, _) => some ⟨some (keyPlace key), .keyNotText, key⟩

/-- The first key that cannot be read as characters. -/
def unreadableKey (entries : List (Value × Value)) : Option Value :=
  (entries.find? fun
    | (.text t, _) => t.hasSurrogate
    | _ => false).map (·.1)

/-- Reads settings from the entries of a dictionary.  Violations come in the order of the fields,
then in the order of the entries. -/
def ofEntries (entries : List (Value × Value)) : Except Report Settings :=
  match unreadableKey entries with
  | some key => .error ⟨recordName, [⟨none, .notCharacters, key⟩]⟩
  | none =>
    let fallback : Settings := {}
    let fuel := Convert.optional entries ["fuel"] fallback.fuel budget
    let archive := Convert.optional entries ["archive-name", "archive_name"] fallback.archiveName
      Convert.nonEmptyText
    let output := Convert.optional entries ["output-directory", "output_directory"]
      fallback.outputDirectory Convert.text
    let extras : Convert.Check Unit :=
      match entries.filterMap (unexpected (usedKeys entries)) with
      | [] => .ok ()
      | vs => .error vs
    match Convert.both (Convert.both (Convert.both fuel archive) output) extras with
    | .ok (((f, a), o), ()) => .ok ⟨f, a, o⟩
    | .error vs => .error ⟨recordName, vs⟩

/-- Reads settings from data, which has to be a dictionary. -/
def ofValue (data : Value) : Except Report Settings :=
  match data with
  | .dict entries => ofEntries entries
  | _ => .error ⟨recordName, [⟨none, .notRecord, data⟩]⟩

/-- The fields of settings. -/
def fields (s : Settings) : List (Text × Value) :=
  [ ("fuel", match s.fuel with
      | some n => .int n
      | none => .null),
    ("archive_name", .text s.archiveName),
    ("output_directory", .text s.outputDirectory) ]

end Settings

end WatWorkbench
