import WatWorkbench.Failure
import WatWorkbench.Number.Numeral
import WatWorkbench.Value.Printer

/-!
# Timestamps

Days, and points in time with seconds, a fraction of a second and a distance from universal time.

* `Timestamp.ofPoints?` — reads a timestamp.
* `Timestamp.value` — the day or the point in time, if it exists.
-/

namespace WatWorkbench.Yaml

/-- A distance from universal time. -/
inductive Zone where
  /-- None at all. -/
  | universal
  /-- A number of hours and minutes, to the west if it is negative. -/
  | offset (isNegative : Bool) (hours minutes : Nat)
  deriving DecidableEq, Inhabited, Repr

/-- A time of day. -/
structure ClockTime where
  /-- The hour. -/
  hour : Nat
  /-- The minute. -/
  minute : Nat
  /-- The second. -/
  second : Nat
  /-- The digits of the fraction of a second. -/
  fraction : List Nat
  /-- The distance from universal time, if it is given. -/
  zone : Option Zone
  deriving DecidableEq, Inhabited, Repr

/-- A timestamp as it is written. -/
structure Timestamp where
  /-- The year. -/
  year : Nat
  /-- The month. -/
  month : Nat
  /-- The day of the month. -/
  day : Nat
  /-- Whether the month and the day have two digits each. -/
  isPadded : Bool
  /-- The time of day, if it is given. -/
  time : Option ClockTime
  deriving DecidableEq, Inhabited, Repr

namespace Timestamp

/-! ## Reading -/

/-- Whether a code point is a digit. -/
def isDigit (c : Nat) : Bool := '0'.toNat ≤ c && c ≤ '9'.toNat

/-- The number that digits spell. -/
def ofDigits (ds : List Nat) : Nat := Numeral.ofDigits 10 (ds.map Char.ofNat)

/-- Digits, at least and at most as many as given, as a number, with how many they are and what
follows. -/
def digits? (least most : Nat) (cs : List Nat) : Option (Nat × Nat × List Nat) :=
  let ds := (cs.take most).takeWhile isDigit
  if ds.length < least then none else some (ofDigits ds, ds.length, cs.drop ds.length)

/-- What follows a character. -/
def after? (c : Char) : List Nat → Option (List Nat)
  | x :: xs => if x = c.toNat then some xs else none
  | [] => none

/-- Whether nothing follows, or only the end of a line. -/
def isFinished (cs : List Nat) : Bool := cs.isEmpty || cs = ['\n'.toNat]

/-- Whether a code point is a space or a tab. -/
def isGap (c : Nat) : Bool := c = ' '.toNat || c = '\t'.toNat

/-- A distance from universal time, which has to be all that follows. -/
def zone? (cs : List Nat) : Option (Option Zone) := do
  if isFinished cs then return none
  match cs.dropWhile isGap with
  | c :: cs =>
    if c = 'Z'.toNat then
      if isFinished cs then some (some .universal) else none
    else if c = '+'.toNat || c = '-'.toNat then do
      let (hours, _, cs) ← digits? 1 2 cs
      let isNegative := c = '-'.toNat
      if isFinished cs then return some (.offset isNegative hours 0)
      let (minutes, _, cs) ← digits? 2 2 (← after? ':' cs)
      if isFinished cs then some (some (.offset isNegative hours minutes)) else none
    else none
  | [] => none

/-- A time of day, which has to be all that follows. -/
def time? (cs : List Nat) : Option ClockTime := do
  let (hour, _, cs) ← digits? 1 2 cs
  let (minute, _, cs) ← digits? 2 2 (← after? ':' cs)
  let (second, _, cs) ← digits? 2 2 (← after? ':' cs)
  let (fraction, cs) := match after? '.' cs with
    | some cs => (cs.takeWhile isDigit, cs.dropWhile isDigit)
    | none => ([], cs)
  return ⟨hour, minute, second, fraction, ← zone? cs⟩

/-- What follows the separator between a day and a time of day. -/
def afterDay? : List Nat → Option (List Nat)
  | c :: cs =>
    if c = 'T'.toNat || c = 't'.toNat then some cs
    else if isGap c then some (cs.dropWhile isGap)
    else none
  | [] => none

/-- Reads a timestamp. -/
def ofPoints? (cs : List Nat) : Option Timestamp := do
  let (year, _, cs) ← digits? 4 4 cs
  let (month, monthSize, cs) ← digits? 1 2 (← after? '-' cs)
  let (day, daySize, cs) ← digits? 1 2 (← after? '-' cs)
  let isPadded := monthSize = 2 && daySize = 2
  if isFinished cs then return ⟨year, month, day, isPadded, none⟩
  return ⟨year, month, day, isPadded, some (← time? (← afterDay? cs))⟩

/-! ## Days and points in time -/

/-- How many days a month has. -/
def daysInMonth (year month : Nat) : Nat :=
  if month = 2 then (if Date.isLeapYear year then 29 else 28)
  else if month = 4 || month = 6 || month = 9 || month = 11 then 30
  else 31

/-- The refusal of numbers that make no day or point in time. -/
def refuse {α : Type} (message : Text) : Except Failure α := .error (.raised .value message)

/-- The day of a timestamp, if it exists. -/
def date (t : Timestamp) : Except Failure Date := do
  if t.year = 0 then refuse "year 0 is out of range"
  if t.month = 0 || 12 < t.month then refuse "month must be in 1..12"
  if t.day = 0 || daysInMonth t.year t.month < t.day then refuse "day is out of range for month"
  return ⟨t.year, t.month, t.day⟩

/-- How many seconds a distance from universal time has. -/
def Zone.seconds : Zone → Int
  | .universal => 0
  | .offset isNegative hours minutes =>
    let n : Int := (3600 * hours + 60 * minutes : Nat)
    if isNegative then -n else n

/-- The seconds of a distance from universal time, which has to be less than a day. -/
def offset (z : Zone) : Except Failure Int :=
  let seconds := Zone.seconds z
  if seconds.natAbs < 86400 then .ok seconds
  else refuse ("offset must be a timedelta strictly between -timedelta(hours=24) and "
    ++ "timedelta(hours=24), not " ++ distanceQuoted seconds ++ ".")

/-- The millionths of a second that the digits of a fraction spell; further digits are left out. -/
def microseconds (fraction : List Nat) : Nat :=
  let ds := fraction.take 6
  ofDigits (ds ++ List.replicate (6 - ds.length) '0'.toNat)

/-- The day or the point in time, if it exists. -/
def value (t : Timestamp) : Except Failure Value := do
  match t.time with
  | none => return .date (← t.date)
  | some c =>
    let offset ← c.zone.mapM offset
    let date ← t.date
    if 23 < c.hour then refuse "hour must be in 0..23"
    if 59 < c.minute then refuse "minute must be in 0..59"
    if 59 < c.second then refuse "second must be in 0..59"
    return .moment ⟨date, c.hour, c.minute, c.second, microseconds c.fraction, offset⟩

end Timestamp

end WatWorkbench.Yaml
