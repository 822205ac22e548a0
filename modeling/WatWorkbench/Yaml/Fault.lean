import WatWorkbench.Failure
import WatWorkbench.Number.Numeral
import WatWorkbench.Yaml.Cursor

/-!
# Faults of documents

Why a document cannot be read.  Most faults name what was being read and where it began, and what
is wrong and where.

* `Fault` — the faults.
* `Fault.tooManyDigits` — the failure to read a number with too many digits.
* `Fault.message` — the text of a fault, which shows the lines it is about.
-/

namespace WatWorkbench.Yaml

/-- Why a document cannot be read. -/
inductive Fault where
  /-- It holds a code point that no document may hold. -/
  | unacceptable (point position : Nat)
  /-- Something is wrong at a place, possibly while something was being read that began at another
  place. -/
  | wrong (context : Option (Text × Option Mark)) (problem : Text) (mark : Mark)
  /-- A scalar's text does not spell a value of its type.  Readers of documents do not treat this as
  a fault of the document. -/
  | escaped (failure : Failure)

namespace Fault

/-- The failure to read an integer in base ten with a number of digits. -/
def tooManyDigits (count : Nat) : Failure :=
  .raised .value ("Exceeds the limit (" ++ Text.decimal Numeral.digitLimit
    ++ " digits) for integer string conversion: value has " ++ Text.decimal count
    ++ " digits; use sys.set_int_max_str_digits() to increase the limit")

/-- What was being read, and where it began unless that is where the fault is. -/
def contextLines (document : List Nat) (mark : Mark) :
    Option (Text × Option Mark) → List Text
  | none => []
  | some (context, none) => [context]
  | some (context, some start) =>
    if start.line = mark.line && start.column = mark.column then [context]
    else [context, start.describe document]

/-- The text of a fault. -/
def message (document : List Nat) : Fault → Text
  | unacceptable point position =>
    "unacceptable character #x" ++ (Text.inBase 16 point).padLeft '0'.toNat 4
      ++ ": special characters are not allowed\n  in \"<unicode string>\", position "
      ++ Text.decimal position
  | wrong context problem mark =>
    Text.join "\n" (contextLines document mark context ++ [problem, mark.describe document])
  | escaped failure => failure.message

end Fault

end WatWorkbench.Yaml
