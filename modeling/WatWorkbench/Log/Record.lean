import WatWorkbench.Log.Template

/-!
# Log records

What is written to a logger: a level, a message with its arguments and, possibly, the kind that the
entry is to have in a log book.

* `Level` — the levels and their names.
* `LogRecord` — a record, its text and its kind.
-/

namespace WatWorkbench

/-! ## Levels -/

namespace Level

/-- Details for those who look for a fault. -/
def debug : Int := 10

/-- Progress. -/
def info : Int := 20

/-- Something to look at. -/
def warning : Int := 30

/-- A failure. -/
def error : Int := 40

/-- A failure that ends everything. -/
def critical : Int := 50

/-- The name of a level; one between the named levels is called by its number. -/
def name (level : Int) : Text :=
  if level = 0 then "NOTSET"
  else if level = debug then "DEBUG"
  else if level = info then "INFO"
  else if level = warning then "WARNING"
  else if level = error then "ERROR"
  else if level = critical then "CRITICAL"
  else "Level " ++ Text.integer level

end Level

/-! ## Records -/

/-- What is written to a logger. -/
structure LogRecord where
  /-- The name of the logger. -/
  logger : Text
  /-- The level. -/
  level : Int
  /-- The message, a template when there are arguments. -/
  message : Value
  /-- The arguments. -/
  args : List Value := []
  /-- What the entry's kind is to be. -/
  kind : Option Value := none

namespace LogRecord

/-- The text of a record.  There is none when the message and its arguments do not fit. -/
def text? (r : LogRecord) : Option Text :=
  if !r.message.isSpellable then none
  else if r.args.isEmpty then some r.message.plain
  else Template.format r.message.plain r.args

/-- The kind that goes with a level. -/
def kindOfLevel (level : Int) : LogKind := if Level.error ≤ level then .error else .info

/-- The kind of the entry that a record becomes: the one it asks for, if there is such a kind, and
otherwise the one that goes with its level. -/
def entryKind (r : LogRecord) : LogKind :=
  match r.kind with
  | some (.kind k) => k
  | some (.text t) => (LogKind.ofName? t).getD (kindOfLevel r.level)
  | _ => kindOfLevel r.level

end LogRecord

end WatWorkbench
