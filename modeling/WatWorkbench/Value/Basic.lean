import WatWorkbench.Log.Kind
import WatWorkbench.Number.Double
import WatWorkbench.Text.Utf8

/-!
# Values

What crosses the boundary to code that is not this library's: arguments and results of host
functions, results of modules, log arguments, and the data that configuration files and records
are read from.

* `Value` — the type.
* `Value.same` — equality of content, under which `true`, `1` and `1.0` are one value and the
  order of a dictionary's entries does not matter.
* `Value.isHashable` — whether a value may be a key.
-/

namespace WatWorkbench

/-- A day of the calendar. -/
structure Date where
  /-- The year, from 1 to 9999. -/
  year : Nat
  /-- The month, from 1. -/
  month : Nat
  /-- The day of the month, from 1. -/
  day : Nat
  deriving DecidableEq, Inhabited, Repr

/-- A point in time, with or without a distance from universal time. -/
structure Moment where
  /-- The day. -/
  date : Date
  /-- The hour. -/
  hour : Nat
  /-- The minute. -/
  minute : Nat
  /-- The second. -/
  second : Nat
  /-- The millionth of a second. -/
  microsecond : Nat
  /-- Seconds ahead of universal time. -/
  offset : Option Int
  deriving DecidableEq, Inhabited, Repr

/-- Days before the given year, counted from the year 1. -/
def Date.daysBeforeYear (year : Nat) : Nat :=
  let y := year - 1
  365 * y + y / 4 - y / 100 + y / 400

/-- Whether a year has a leap day. -/
def Date.isLeapYear (year : Nat) : Bool := year % 4 = 0 && (year % 100 ≠ 0 || year % 400 = 0)

/-- Days of a common year before each month. -/
def Date.daysBeforeMonth : List Nat := [0, 31, 59, 90, 120, 151, 181, 212, 243, 273, 304, 334]

/-- The number of a day, counted from the first day of the year 1. -/
def Date.ordinal (d : Date) : Nat :=
  let leapDay := if 2 < d.month && isLeapYear d.year then 1 else 0
  daysBeforeYear d.year + daysBeforeMonth.getD (d.month - 1) 0 + leapDay + d.day - 1

/-- The millionths of a second from the first moment of the year 1, by the clock of the place. -/
def Moment.localCount (m : Moment) : Int :=
  let seconds := ((m.date.ordinal * 24 + m.hour) * 60 + m.minute) * 60 + m.second
  1000000 * seconds + m.microsecond

/-- Whether two points in time are the same: by the same clock, or in universal time when the distance
of both from it is known. -/
def Moment.same (a b : Moment) : Bool :=
  match a.offset, b.offset with
  | none, none => a.localCount = b.localCount
  | some x, some y => a.localCount - 1000000 * x = b.localCount - 1000000 * y
  | _, _ => false

/-- A value of the outside world. -/
inductive Value where
  /-- The absence of a value. -/
  | null
  /-- A truth value. -/
  | bool (b : Bool)
  /-- An integer of any size. -/
  | int (i : Int)
  /-- A number of double precision. -/
  | float (x : Double)
  /-- A text. -/
  | text (t : Text)
  /-- Octets. -/
  | bytes (bs : Bytes)
  /-- A sequence that may change. -/
  | list (vs : List Value)
  /-- A sequence that may not change. -/
  | tuple (vs : List Value)
  /-- A set, in the order of insertion. -/
  | set (vs : List Value)
  /-- Keys with their values, in the order of insertion. -/
  | dict (entries : List (Value × Value))
  /-- The kind of a log entry. -/
  | kind (k : LogKind)
  /-- A day. -/
  | date (d : Date)
  /-- A point in time. -/
  | moment (m : Moment)
  /-- The list or dictionary that this value is itself a part of. -/
  | cycle (ofDict : Bool)
  /-- Any other thing, known by the name of its type. -/
  | foreign (typeName : Text)
  deriving Inhabited, Repr

namespace Value

/-- The name of a value's type. -/
def typeName : Value → Text
  | null => "NoneType"
  | bool _ => "bool"
  | int _ => "int"
  | float _ => "float"
  | text _ => "str"
  | bytes _ => "bytes"
  | list _ => "list"
  | tuple _ => "tuple"
  | set _ => "set"
  | dict _ => "dict"
  | kind _ => "LogKind"
  | date _ => "date"
  | moment _ => "datetime"
  | cycle false => "list"
  | cycle true => "dict"
  | foreign t => t

/-- Whether a value is considered true where only truth matters: empty and zero ones are not. -/
def truth : Value → Bool
  | null => false
  | bool b => b
  | int i => i ≠ 0
  | float x => x.magnitude ≠ 0
  | text t => !t.isEmpty
  | bytes bs => !bs.isEmpty
  | list vs | tuple vs | set vs => !vs.isEmpty
  | dict es => !es.isEmpty
  | _ => true

mutual

/-- Whether a value may be a key: what may change may not. -/
def isHashable : Value → Bool
  | list _ | set _ | dict _ | cycle _ => false
  | tuple vs => allHashable vs
  | _ => true

/-- Whether all values may be keys. -/
def allHashable : List Value → Bool
  | [] => true
  | v :: vs => isHashable v && allHashable vs

end

/-- Equality of values that hold no others.  Truth values count as the integers 0 and 1, and
integers equal the doubles of the same number. -/
def sameAtom : Value → Value → Bool
  | null, null => true
  | bool a, bool b => a = b
  | bool a, int b => (if a then 1 else 0) = b
  | int a, bool b => a = (if b then 1 else 0)
  | int a, int b => a = b
  | float a, float b => a.eq b
  | float a, int b => a.eqInt b
  | int a, float b => b.eqInt a
  | float a, bool b => a.eqInt (if b then 1 else 0)
  | bool a, float b => b.eqInt (if a then 1 else 0)
  | text a, text b => a = b
  | bytes a, bytes b => a = b
  | kind a, kind b => a = b
  | date a, date b => a = b
  | moment a, moment b => a.same b
  | foreign a, foreign b => a = b
  | _, _ => false

mutual

/-- Equality of content. -/
def same : Value → Value → Bool
  | list as, list bs | tuple as, tuple bs => sameAll as bs
  | set as, set bs => as.length = bs.length && allAmong as bs
  | dict as, dict bs => as.length = bs.length && allEntriesAmong as bs
  | a, b => sameAtom a b
termination_by a b => sizeOf a + sizeOf b

/-- Equality of content, place by place. -/
def sameAll : List Value → List Value → Bool
  | [], [] => true
  | a :: as, b :: bs => same a b && sameAll as bs
  | _, _ => false
termination_by as bs => sizeOf as + sizeOf bs

/-- Whether every value of the first list is among those of the second. -/
def allAmong : List Value → List Value → Bool
  | [], _ => true
  | a :: as, bs => among a bs && allAmong as bs
termination_by as bs => sizeOf as + sizeOf bs

/-- Whether a value is among the given ones. -/
def among : Value → List Value → Bool
  | _, [] => false
  | a, b :: bs => same a b || among a bs
termination_by a bs => sizeOf a + sizeOf bs

/-- Whether every entry of the first dictionary is in the second. -/
def allEntriesAmong : List (Value × Value) → List (Value × Value) → Bool
  | [], _ => true
  | (k, v) :: as, bs => entryAmong k v bs && allEntriesAmong as bs
termination_by as bs => sizeOf as + sizeOf bs

/-- Whether a key with its value is in a dictionary. -/
def entryAmong : Value → Value → List (Value × Value) → Bool
  | _, _, [] => false
  | k, v, (k', v') :: bs => (same k k' && same v v') || entryAmong k v bs
termination_by k v bs => sizeOf k + sizeOf v + sizeOf bs

end

/-- The value under a key of a dictionary's entries. -/
def lookup? (key : Value) : List (Value × Value) → Option Value
  | [] => none
  | (k, v) :: es => if same k key then some v else lookup? key es

/-- Puts a value under a key: in place of the old value, or at the end. -/
def insert (key value : Value) : List (Value × Value) → List (Value × Value)
  | [] => [(key, value)]
  | (k, v) :: es => if same k key then (k, value) :: es else (k, v) :: insert key value es

end Value

end WatWorkbench
