import WatWorkbench.Text.Quoted
import WatWorkbench.Value.Basic

/-!
# The written form of values

Values appear in messages in two forms.  The *quoted* form shows texts between quotes and tells
values of different types apart; the *plain* form is a text itself and the quoted form of anything
else.

* `Value.quoted`, `Value.plain` — the two forms.
* `Value.isSpellable` — whether a value has a written form at all: very long integers are refused.
-/

namespace WatWorkbench

/-- The spellings of the values that have a name. -/
structure ValueNames where
  /-- The absence of a value. -/
  null : Text
  /-- Truth. -/
  yes : Text
  /-- Falsehood. -/
  no : Text

/-- How the named values are spelled. -/
def ValueNames.written : ValueNames := ⟨"None", "True", "False"⟩

/-- Naturals one after another, with commas between. -/
def commaSeparated (ns : List Nat) : Text := Text.join ", " (ns.map Text.decimal)

/-- A day as its three numbers. -/
def Date.quoted (d : Date) : Text :=
  "datetime.date(" ++ commaSeparated [d.year, d.month, d.day] ++ ")"

/-- A distance in time.  The days are rounded down, so that the seconds are never negative. -/
def distanceQuoted (seconds : Int) : Text :=
  let days := seconds.fdiv 86400
  let rest := seconds.fmod 86400
  let parts : List Text :=
    (if days = 0 then [] else [("days=" : Text) ++ Text.integer days])
      ++ (if rest = 0 then [] else [("seconds=" : Text) ++ Text.integer rest])
  "datetime.timedelta(" ++ Text.join ", " parts ++ ")"

/-- A distance from universal time. -/
def offsetQuoted (seconds : Int) : Text :=
  if seconds = 0 then "datetime.timezone.utc"
  else "datetime.timezone(" ++ distanceQuoted seconds ++ ")"

/-- A point in time as its numbers; trailing zero seconds and microseconds are left out. -/
def Moment.quoted (m : Moment) : Text :=
  let fine :=
    if m.microsecond ≠ 0 then [m.second, m.microsecond]
    else if m.second ≠ 0 then [m.second] else []
  let zone : Text := match m.offset with
    | none => ""
    | some s => ", tzinfo=" ++ offsetQuoted s
  "datetime.datetime("
    ++ commaSeparated ([m.date.year, m.date.month, m.date.day, m.hour, m.minute] ++ fine)
    ++ zone ++ ")"

namespace Value

mutual

/-- The quoted form of a value. -/
def quoted : Value → Text
  | null => ValueNames.written.null
  | bool true => ValueNames.written.yes
  | bool false => ValueNames.written.no
  | int i => Text.integer i
  | float x => x.text
  | text t => t.quoted
  | bytes bs => Bytes.quoted bs
  | list vs => "[" ++ Text.join ", " (quotedAll vs) ++ "]"
  | tuple [v] => "(" ++ quoted v ++ ",)"
  | tuple vs => "(" ++ Text.join ", " (quotedAll vs) ++ ")"
  | set [] => "set()"
  | set vs => "\x7b" ++ Text.join ", " (quotedAll vs) ++ "\x7d"
  | dict es => "\x7b" ++ Text.join ", " (quotedEntries es) ++ "\x7d"
  | kind k => "<LogKind." ++ k.member ++ ": " ++ k.name.quoted ++ ">"
  | date d => d.quoted
  | moment m => m.quoted
  | cycle false => "[...]"
  | cycle true => "\x7b...\x7d"
  | foreign t => "<" ++ t ++ ">"

/-- The quoted forms of values. -/
def quotedAll : List Value → List Text
  | [] => []
  | v :: vs => quoted v :: quotedAll vs

/-- The quoted forms of a dictionary's entries. -/
def quotedEntries : List (Value × Value) → List Text
  | [] => []
  | (k, v) :: es => (quoted k ++ ": " ++ quoted v) :: quotedEntries es

end

/-- The plain form of a value. -/
def plain : Value → Text
  | text t => t
  | kind k => "LogKind." ++ k.member
  | v => quoted v

/-- An integer from here on is not written out. -/
def spellingLimit : Nat := Nat.pow 10 4300

mutual

/-- Whether a value can be written out. -/
def isSpellable : Value → Bool
  | int i => i.natAbs < spellingLimit
  | list vs | tuple vs | set vs => allSpellable vs
  | dict es => entriesSpellable es
  | _ => true

/-- Whether values can be written out. -/
def allSpellable : List Value → Bool
  | [] => true
  | v :: vs => isSpellable v && allSpellable vs

/-- Whether a dictionary's entries can be written out. -/
def entriesSpellable : List (Value × Value) → Bool
  | [] => true
  | (k, v) :: es => isSpellable k && isSpellable v && entriesSpellable es

end

end Value

end WatWorkbench
