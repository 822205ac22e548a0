import WatWorkbench.Value.Printer

/-!
# Reports of invalid data

Data that does not fit a record is answered by a report: one violation per offending field, each
with its place, its cause and the value found there.

* `Violation.Cause` — what can be wrong, with its code and wording.
* `Report` — the violations of one record, and `Report.message`, their text.
-/

namespace WatWorkbench

/-- What is wrong with a value at its place. -/
inductive Violation.Cause where
  /-- A field without a default is absent. -/
  | missing
  /-- The value is no text. -/
  | notText
  /-- The value cannot be read as characters. -/
  | notCharacters
  /-- The text is empty. -/
  | emptyText
  /-- The value is no octets. -/
  | notOctets
  /-- The value is no integer. -/
  | notInteger
  /-- The text does not spell an integer. -/
  | integerSpelling
  /-- The integer is too large to be read. -/
  | integerSize
  /-- The number has a fractional part. -/
  | fractional
  /-- The number is infinite or none at all. -/
  | notFinite
  /-- The number is not positive. -/
  | notPositive
  /-- The key names no field. -/
  | unknownField
  /-- The key is no text. -/
  | keyNotText
  /-- The value names no kind of log entry. -/
  | unknownKind
  /-- The data is no dictionary. -/
  | notRecord
  /-- The record may not be changed. -/
  | frozen
  deriving DecidableEq, Repr

namespace Violation.Cause

/-- The code of a cause. -/
def code : Violation.Cause → Text
  | missing => "missing"
  | notText => "string_type"
  | notCharacters => "string_unicode"
  | emptyText => "string_too_short"
  | notOctets => "bytes_type"
  | notInteger => "int_type"
  | integerSpelling => "int_parsing"
  | integerSize => "int_parsing_size"
  | fractional => "int_from_float"
  | notFinite => "finite_number"
  | notPositive => "greater_than"
  | unknownField => "extra_forbidden"
  | keyNotText => "invalid_key"
  | unknownKind => "enum"
  | notRecord => "model_type"
  | frozen => "frozen_instance"

/-- The wording of a cause, for a record of the given name. -/
def message (record : Text) : Violation.Cause → Text
  | missing => "Field required"
  | notText => "Input should be a valid string"
  | notCharacters =>
    "Input should be a valid string, unable to parse raw data as a unicode string"
  | emptyText => "String should have at least 1 character"
  | notOctets => "Input should be a valid bytes"
  | notInteger => "Input should be a valid integer"
  | integerSpelling => "Input should be a valid integer, unable to parse string as an integer"
  | integerSize => "Unable to parse input string as an integer, exceeded maximum size"
  | fractional => "Input should be a valid integer, got a number with a fractional part"
  | notFinite => "Input should be a finite number"
  | notPositive => "Input should be greater than 0"
  | unknownField => "Extra inputs are not permitted"
  | keyNotText => "Keys should be strings"
  | unknownKind => "Input should be 'info', 'error' or 'success'"
  | notRecord => "Input should be a valid dictionary or instance of " ++ record
  | frozen => "Instance is frozen"

end Violation.Cause

/-- One thing that is wrong with a record's data. -/
structure Violation where
  /-- Where: a field or a key.  Absent when the data as a whole is meant. -/
  place : Option Text
  /-- What is wrong. -/
  cause : Violation.Cause
  /-- The value found there. -/
  input : Value

/-- Everything that is wrong with a record's data. -/
structure Report where
  /-- The name of the record. -/
  record : Text
  /-- The violations, in order. -/
  violations : List Violation

namespace Report

/-- How long the form of a value may be, in octets, before its middle is left out, and how many
octets of its beginning and end are then kept. -/
structure Excerpt where
  /-- The length up to which everything is shown. -/
  limit : Nat
  /-- The octets kept at the beginning. -/
  head : Nat
  /-- The octets kept at the end. -/
  tail : Nat

/-- Values are shown in up to 50 octets. -/
def excerpt : Excerpt := ⟨50, 25, 24⟩

/-- The longest beginning of at most `size` octets that ends between two code points. -/
def takeOctets : Nat → List Nat → List Nat
  | _, [] => []
  | size, c :: cs =>
    let n := (Utf8.encodePoint c).length
    if n ≤ size then c :: takeOctets (size - n) cs else []

/-- The form of a value, its middle left out when it is long. -/
def Excerpt.apply (e : Excerpt) (t : Text) : Text :=
  if t.encodeAny.length ≤ e.limit then t
  else
    let tail := (takeOctets e.tail t.points.reverse).reverse
    ⟨takeOctets e.head t.points⟩ ++ "..." ++ ⟨tail⟩

/-- The form in which a value is shown: quoted, or known by its type only when it has no written
form. -/
def shownValue (v : Value) : Text :=
  if v.isSpellable then v.quoted else "<unprintable " ++ v.typeName ++ " object>"

/-- A place as it is shown: in backquotes when it contains a full stop. -/
def shownPlace (place : Text) : Text :=
  let quote : Text := ⟨[0x60]⟩
  if place.contains '.'.toNat then quote ++ place ++ quote else place

/-- The lines of one violation. -/
def lines (record : Text) (v : Violation) : List Text :=
  let place := match v.place with
    | some p => [shownPlace p]
    | none => []
  place ++
    [ "  " ++ v.cause.message record ++ " [type=" ++ v.cause.code ++ ", input_value="
        ++ excerpt.apply (shownValue v.input) ++ ", input_type=" ++ v.input.typeName ++ "]",
      "    For further information visit https://errors.pydantic.dev/2.14/v/" ++ v.cause.code ]

/-- The text of a report. -/
def message (r : Report) : Text :=
  let count := r.violations.length
  let noun : Text := if count = 1 then " validation error for " else " validation errors for "
  Text.join "\n"
    ((Text.decimal count ++ noun ++ r.record) :: r.violations.flatMap (lines r.record))

end Report

end WatWorkbench
