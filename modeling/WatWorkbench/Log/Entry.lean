import WatWorkbench.Schema.Convert

/-!
# Log entries and log books

An entry is one captured line with its kind; a book is the sequence of entries captured so far.

* `LogEntry`, `LogEntry.ofValue` — entries, and how they are read from data.
* `LogBook` — a book, with `append`, `extend`, `replace`, `clear` and `messages`.
-/

namespace WatWorkbench

/-- One captured line. -/
structure LogEntry where
  /-- Its kind. -/
  kind : LogKind
  /-- Its text. -/
  message : Text
  deriving DecidableEq, Inhabited, Repr

namespace LogEntry

/-- The name under which violations are reported. -/
def recordName : Text := "LogEntry"

/-- An entry of a kind and a text, which has to consist of characters. -/
def ofText (kind : LogKind) (message : Text) : Except Report LogEntry :=
  match Convert.text (.text message) with
  | .ok m => .ok ⟨kind, m⟩
  | .error cause => .error ⟨recordName, [⟨some "message", cause, .text message⟩]⟩

/-- Reads an entry from a dictionary with the fields `kind` and `message`. -/
def ofValue (data : Value) : Except Report LogEntry :=
  match data with
  | .dict entries =>
    let kind := Convert.required data entries "kind" Convert.kind
    let message := Convert.required data entries "message" Convert.text
    match Convert.both kind message with
    | .ok (k, m) => .ok ⟨k, m⟩
    | .error vs => .error ⟨recordName, vs⟩
  | _ => .error ⟨recordName, [⟨none, .notRecord, data⟩]⟩

/-- The fields of an entry. -/
def fields (e : LogEntry) : List (Text × Value) :=
  [("kind", .kind e.kind), ("message", .text e.message)]

end LogEntry

/-- A sequence of captured entries, first to last. -/
structure LogBook where
  /-- The entries. -/
  entries : List LogEntry := []
  deriving DecidableEq, Inhabited, Repr

namespace LogBook

/-- The book with one more entry. -/
def append (b : LogBook) (e : LogEntry) : LogBook := ⟨b.entries ++ [e]⟩

/-- The book with more entries. -/
def extend (b : LogBook) (es : List LogEntry) : LogBook := ⟨b.entries ++ es⟩

/-- The book with other entries. -/
def replace (_ : LogBook) (es : List LogEntry) : LogBook := ⟨es⟩

/-- The book without entries. -/
def clear (_ : LogBook) : LogBook := ⟨[]⟩

/-- The number of entries. -/
def size (b : LogBook) : Nat := b.entries.length

/-- The texts of the entries, of one kind or of all. -/
def messages (b : LogBook) (kind : Option LogKind) : List Text :=
  (b.entries.filter fun e => kind.all (· = e.kind)).map (·.message)

end LogBook

end WatWorkbench
