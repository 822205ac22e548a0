import WatWorkbench.Text.Basic

/-!
# Kinds of log entries

The severity class that a captured log entry carries, and its name.
-/

namespace WatWorkbench

/-- The severity class of a log entry. -/
inductive LogKind where
  /-- Progress. -/
  | info
  /-- A failure. -/
  | error
  /-- A completed operation. -/
  | success
  deriving DecidableEq, Inhabited, Repr

namespace LogKind

/-- Every kind. -/
def all : List LogKind := [.info, .error, .success]

/-- The name of a kind. -/
def name : LogKind → Text
  | .info => "info"
  | .error => "error"
  | .success => "success"

/-- The name of a kind as a member of its enumeration. -/
def member : LogKind → Text
  | .info => "INFO"
  | .error => "ERROR"
  | .success => "SUCCESS"

/-- The kind with a given name. -/
def ofName? (t : Text) : Option LogKind := all.find? (·.name = t)

theorem ofName?_name (k : LogKind) : ofName? k.name = some k := by
  cases k <;> decide

end LogKind

end WatWorkbench
