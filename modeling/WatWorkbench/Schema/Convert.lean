import WatWorkbench.Number.Numeral
import WatWorkbench.Schema.Report

/-!
# Reading fields

The conversions that a field's value may undergo.  They are generous: a number may be given as a
text, a text as octets, and truth values count as integers.  Each either gives the field's content
or the cause of refusal.

* `Convert.text`, `Convert.nonEmptyText`, `Convert.octets`, `Convert.kind` — texts and octets.
* `Convert.integer`, `Convert.positive` — integers; `Convert.spelledInteger?` is the grammar of
  integers given as text.
* `Convert.required`, `Convert.optional`, `Convert.both` — the fields of a dictionary.
-/

namespace WatWorkbench.Convert

open Violation (Cause)

/-! ## Texts and octets -/

/-- A field that holds a text. -/
def text : Value → Except Cause Text
  | .text t => .ok t
  | .bytes bs => (Text.decode bs).mapError fun _ => .notCharacters
  | .kind k => .ok k.name
  | _ => .error .notText

/-- A field that holds a text of at least one code point.  Its length is counted in characters, so
that a text with a surrogate has none. -/
def nonEmptyText (v : Value) : Except Cause Text := do
  let t ← text v
  if t.hasSurrogate then throw .notCharacters
  if t.isEmpty then throw .emptyText
  return t

/-- A field that holds octets. -/
def octets : Value → Except Cause Bytes
  | .bytes bs => .ok bs
  | .text t => t.encode.mapError fun _ => .notCharacters
  | _ => .error .notOctets

/-- A field that holds the kind of a log entry, or its name. -/
def kind : Value → Except Cause LogKind
  | .kind k => .ok k
  | .text t =>
    if t.hasSurrogate then .error .notCharacters
    else match LogKind.ofName? t with
      | some k => .ok k
      | none => .error .unknownKind
  | _ => .error .unknownKind

/-! ## Integers -/

/-- White space that may stand around a number. -/
def isSpace (c : Char) : Bool :=
  let n := c.toNat
  (9 ≤ n && n ≤ 13) || n = 0x20 || n = 0x85 || n = 0xA0 || n = 0x1680 ||
    (0x2000 ≤ n && n ≤ 0x200A) || n = 0x2028 || n = 0x2029 || n = 0x202F || n = 0x205F || n = 0x3000

/-- Leaves out the zeros and underscores before the first other digit, or before a minus sign after
them.  One zero stays when nothing else would. -/
def stripLeadingZeros : List Char → Option (List Char)
  | [] => none
  | '0' :: cs => go '0' cs
  | c :: cs => if '1' ≤ c && c ≤ '9' then some (c :: cs) else none
where
  /-- Passes zeros and underscores, the last of which is `last`. -/
  go (last : Char) : List Char → Option (List Char)
    | [] => some [last]
    | '.' :: cs => some (last :: '.' :: cs)
    | c :: cs =>
      if c = '0' || c = '_' then go c cs
      else if c = '-' || ('1' ≤ c && c ≤ '9') then some (c :: cs) else none

/-- Leaves out a fractional part of zeros, of which there has to be at least one. -/
def stripFraction (cs : List Char) : Option (List Char) :=
  match cs.dropWhile (· ≠ '.') with
  | [] => some cs
  | _ :: fraction =>
    if !fraction.isEmpty && fraction.all (· = '0') then some (cs.takeWhile (· ≠ '.')) else none

/-- The greatest number of digits of an integer given as text. -/
def integerLimit : Nat := 4300

/-- The integer that digits spell, with a minus sign before them or without.  The first of several
digits may not be zero.  Too many digits are refused as soon as they are read, whatever follows. -/
def plainInteger (cs : List Char) : Except Cause Int :=
  let (isNegative, unsigned) := match cs with
    | '-' :: rest => (true, rest)
    | _ => (false, cs)
  let digits := unsigned.takeWhile Char.isDigit
  let rest := unsigned.drop digits.length
  let startsWithZero := digits.head? = some '0'
  if !startsWithZero && integerLimit < digits.length then .error .integerSize
  else if digits.isEmpty || !rest.isEmpty || (startsWithZero && 1 < digits.length) then
    .error .integerSpelling
  else
    let n := Numeral.ofDigits 10 digits
    .ok (if isNegative then -n else n)

/-- A spelling of an integer without what is allowed around its digits: white space, a plus sign,
zeros in front, a fractional part of zeros, and single underscores between digits.  A minus sign may
stand in front, or behind the zeros instead. -/
def cleaned (cs : List Char) : Option (List Char) := do
  let trimmed := ((cs.dropWhile isSpace).reverse.dropWhile isSpace).reverse
  let (isNegative, unsigned) := Numeral.sign trimmed
  let significant ← stripLeadingZeros unsigned
  let whole ← stripFraction significant
  let digits ← Numeral.ungrouped? whole
  return if isNegative then '-' :: digits else digits

/-- The integer that a text spells, as it stands or cleaned.  Only a text that need not be cleaned is
refused for its size. -/
def spelledInteger (cs : List Char) : Except Cause Int :=
  match plainInteger cs with
  | .ok i => .ok i
  | .error .integerSize => .error .integerSize
  | .error _ => match (cleaned cs).map plainInteger with
    | some (.ok i) => .ok i
    | _ => .error .integerSpelling

/-- The integer that a number of double precision is, when it lies strictly between the bounds of
64-bit integers. -/
def ofDouble (x : Double) : Except Cause Int :=
  match x.toInt? with
  | none => .error .notFinite
  | some i =>
    if !x.isIntegral then .error .fractional
    else if -0x8000000000000000 < i && i < 0x8000000000000000 then .ok i
    else .error .integerSize

/-- A field that holds an integer. -/
def integer : Value → Except Cause Int
  | .int i => .ok i
  | .bool b => .ok (if b then 1 else 0)
  | .float x => ofDouble x
  | .text t => match t.toChars? with
    | some cs => spelledInteger cs
    | none => .error .notCharacters
  | .bytes bs => match Text.decode bs with
    | .ok t => spelledInteger t.toChars
    | .error _ => .error .integerSpelling
  | .kind _ => .error .integerSize
  | _ => .error .notInteger

/-- A field that holds a positive integer. -/
def positive (v : Value) : Except Cause Int := do
  let i ← integer v
  if i ≤ 0 then throw .notPositive
  return i

/-! ## Fields of a dictionary

Reading a field gives its content or the violations found; reading two gives both contents or all
violations of either.
-/

/-- The content of a field, or what is wrong with it. -/
abbrev Check (α : Type) := Except (List Violation) α

/-- The key among `names` that comes first in them and is present, with its value. -/
def field? (entries : List (Value × Value)) : List Text → Option (Text × Value)
  | [] => none
  | name :: names =>
    match Value.lookup? (.text name) entries with
    | some v => some (name, v)
    | none => field? entries names

/-- The value that a refusal shows.  A kind that is too much for an integer is shown by its name. -/
def refused : Cause → Value → Value
  | .integerSize, .kind k => .text k.name
  | _, v => v

/-- The content of a value found under `name`. -/
def checked {α : Type} (convert : Value → Except Cause α) (name : Text) (v : Value) : Check α :=
  (convert v).mapError fun cause => [⟨some name, cause, refused cause v⟩]

/-- A field that has to be present. -/
def required {α : Type} (data : Value) (entries : List (Value × Value)) (name : Text)
    (convert : Value → Except Cause α) : Check α :=
  match field? entries [name] with
  | none => .error [⟨some name, .missing, data⟩]
  | some (_, v) => checked convert name v

/-- A field with a default, under any of several names. -/
def optional {α : Type} (entries : List (Value × Value)) (names : List Text) (fallback : α)
    (convert : Value → Except Cause α) : Check α :=
  match field? entries names with
  | none => .ok fallback
  | some (name, v) => checked convert name v

/-- Both contents, or the violations of both. -/
def both {α β : Type} : Check α → Check β → Check (α × β)
  | .ok x, .ok y => .ok (x, y)
  | .ok _, .error vs => .error vs
  | .error vs, .ok _ => .error vs
  | .error vs, .error ws => .error (vs ++ ws)

end WatWorkbench.Convert
