import WatWorkbench.Number.BinaryArithmetic
import WatWorkbench.Text.Case
import WatWorkbench.Yaml.Fault
import WatWorkbench.Yaml.Timestamp

/-!
# The values of scalars

What the text of a scalar stands for, by type.  A tag may demand a type that the text does not
spell.

* `Scalar.bool`, `Scalar.int`, `Scalar.float`, `Scalar.timestamp` — the values of texts.
-/

namespace WatWorkbench.Yaml.Scalar

/-! ## Truth values -/

/-- The words for truth values, in lower case. -/
def boolWords : List (Text × Bool) :=
  [("yes", true), ("no", false), ("true", true), ("false", false), ("on", true), ("off", false)]

/-- The truth value of a text. -/
def bool (t : Text) : Except Failure Value :=
  let word := t.lower
  match boolWords.lookup word with
  | some b => .ok (.bool b)
  | none => .error (.absent (.text word))

/-! ## Integers -/

/-- A text without underscores. -/
def withoutUnderscores (t : Text) : Text := ⟨t.points.filter (· ≠ '_'.toNat)⟩

/-- The refusal of a text that has no first character. -/
def tooShort {α : Type} : Except Failure α := .error (.raised .index "string index out of range")

/-- Whether a text begins with a minus sign, and the text after its sign.  There has to be a first
character. -/
def signed (t : Text) : Except Failure (Bool × Text) :=
  match t.points with
  | [] => tooShort
  | c :: cs =>
    if c = '-'.toNat then .ok (true, ⟨cs⟩)
    else if c = '+'.toNat then .ok (false, ⟨cs⟩)
    else .ok (false, t)

/-- How many code points of a refused text are shown. -/
def shownLimit : Nat := 200

/-- How many digits an integer in base ten begins with. -/
def digitCount (t : Text) : Nat :=
  ((Numeral.sign (Numeral.characters t)).2.takeWhile (Numeral.isDigit 10)).length

/-- The integer that a text spells in a base. -/
def integer (base : Nat) (t : Text) : Except Failure Int :=
  if base = 10 && Numeral.digitLimit < digitCount t then
    .error (Yaml.Fault.tooManyDigits (digitCount t))
  else match Numeral.integer? base t with
    | some i => .ok i
    | none =>
      .error (.raised .value ("invalid literal for int() with base " ++ Text.decimal base ++ ": "
        ++ t.quoted.take shownLimit))

/-- The code point between places in base sixty. -/
def colon : Nat := ':'.toNat

/-- The integer of a text without a sign: in base two, eight, ten or sixteen, or with places in base
sixty. -/
def unsignedInteger (t : Text) : Except Failure Int :=
  if t.isEmpty then tooShort
  else if t.startsWith "0b" then integer 2 (t.drop 2)
  else if t.startsWith "0x" then integer 16 (t.drop 2)
  else if t.startsWith "0" then integer 8 t
  else do
    let places ← (t.splitOn colon).mapM (integer 10)
    return places.foldl (fun n place => 60 * n + place) 0

/-- The integer of a text. -/
def int (t : Text) : Except Failure Value := do
  let (isNegative, t) ← signed (withoutUnderscores t)
  let n ← unsignedInteger t
  return .int (if isNegative then -n else n)

/-! ## Numbers of double precision -/

/-- The number of double precision that a text spells. -/
def double (t : Text) : Except Failure Double :=
  match Numeral.double? t with
  | some x => .ok x
  | none => .error (.raised .value ("could not convert string to float: " ++ t.quoted))

/-- A double multiplied by an integer. -/
def scaled (x : Double) (factor : Nat) : Except Failure Double :=
  match Double.ofInt? factor with
  | some y => .ok ⟨(BinaryFormat.double.mul x.bits.toNat y.bits.toNat).toUInt64⟩
  | none => .error (.raised .overflow "int too large to convert to float")

/-- The sum of two doubles. -/
def sum (x y : Double) : Double := ⟨(BinaryFormat.double.add x.bits.toNat y.bits.toNat).toUInt64⟩

/-- Adds places in base sixty, the lowest first, to a double.  The first place counts as often as the
first argument says. -/
def addPlaces : Nat → Double → List Double → Except Failure Double
  | _, total, [] => .ok total
  | weight, total, place :: places => do
    addPlaces (60 * weight) (sum total (← scaled place weight)) places

/-- The spelling of the number that is none. -/
def notANumber : Text := ".nan"

/-- The double of a text without a sign: a decimal, or with places in base sixty. -/
def unsignedDouble (t : Text) : Except Failure Double :=
  if t = ".inf" then .ok .infinity
  else if t = notANumber then .ok .nan
  else if t.contains colon then do
    let places ← (t.splitOn colon).mapM double
    addPlaces 1 (.ofMagnitude false 0) places.reverse
  else double t

/-- The double of a text. -/
def float (t : Text) : Except Failure Value := do
  let (isNegative, t) ← signed (withoutUnderscores t).lower
  let x ← unsignedDouble t
  return .float (if isNegative then .ofMagnitude (!x.isNegative) x.magnitude else x)

/-- Whether a text is the spelling of the number that is none, whatever its sign. -/
def isNotANumber (t : Text) : Bool :=
  match signed (withoutUnderscores t).lower with
  | .ok (_, t) => t = notANumber
  | .error _ => false

/-! ## Timestamps -/

/-- The day or the point in time of a text. -/
def timestamp (t : Text) : Except Failure Value :=
  match Timestamp.ofPoints? t.points with
  | some s => s.value
  | none => .error (.raised .attribute "'NoneType' object has no attribute 'groupdict'")

end WatWorkbench.Yaml.Scalar
