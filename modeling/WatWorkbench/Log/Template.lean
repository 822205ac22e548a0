import WatWorkbench.Number.DecimalFormat
import WatWorkbench.Schema.Convert
import WatWorkbench.Value.Printer

/-!
# Message templates

A template is a text in which places for arguments are marked by a percent sign: a key in
parentheses, flags, a width, a precision and a letter that says how the argument is written.
Formatting takes one argument after another, or looks keys up in a dictionary; it fails when an
argument is missing, left over or of the wrong type, and when a place is malformed.

* `Template.Place` — a place for an argument.
* `Template.Arguments` — what the places are filled from.
* `Template.format` — the text of a template with its arguments.
-/

namespace WatWorkbench.Template

/-! ## Arguments -/

/-- What the places are filled from. -/
structure Arguments where
  /-- The arguments that have not been taken. -/
  rest : List Value
  /-- The dictionary in which keys are looked up. -/
  entries : Option (List (Value × Value)) := none

/-- A single dictionary that is not empty supplies keys, and is also the only argument. -/
def Arguments.ofList : List Value → Arguments
  | [.dict (e :: es)] => ⟨[.dict (e :: es)], some (e :: es)⟩
  | vs => ⟨vs, none⟩

/-- Formatting: arguments are taken one after another, and anything may fail. -/
abbrev Formatting := StateT Arguments Option

/-- Takes the next argument. -/
def next : Formatting Value := do
  match (← get).rest with
  | [] => failure
  | v :: vs => modify ({ · with rest := vs }); return v

/-- Makes the value under a key the only argument. -/
def select (key : Text) : Formatting Unit := do
  match (← get).entries with
  | none => failure
  | some es =>
    match Value.lookup? (.text key) es with
    | none => failure
    | some v => modify ({ · with rest := [v] })

/-! ## Places -/

/-- A place for an argument. -/
structure Place where
  /-- Whether the text goes to the left of its field. -/
  left : Bool := false
  /-- Whether numbers that are not negative get a plus sign. -/
  plus : Bool := false
  /-- Whether numbers that are not negative get a blank. -/
  blank : Bool := false
  /-- Whether the base is shown, or the point kept. -/
  alternate : Bool := false
  /-- Whether numbers are padded with zeros. -/
  zero : Bool := false
  /-- The least width. -/
  width : Nat := 0
  /-- The precision. -/
  precision : Option Nat := none
  deriving Repr

/-- Greater widths and precisions are refused. -/
def widthLimit : Nat := 0x80000000

/-- Code points of the marks in templates. -/
def mark (c : Char) : Nat := c.toNat

/-- Reads flags. -/
def flags (p : Place) : List Nat → Place × List Nat
  | c :: cs =>
    if c = mark '-' then flags { p with left := true } cs
    else if c = mark '+' then flags { p with plus := true } cs
    else if c = mark ' ' then flags { p with blank := true } cs
    else if c = mark '#' then flags { p with alternate := true } cs
    else if c = mark '0' then flags { p with zero := true } cs
    else (p, c :: cs)
  | [] => (p, [])

/-- Whether a code point is an ASCII digit. -/
def isDigit (c : Nat) : Bool := mark '0' ≤ c && c ≤ mark '9'

/-- The number that ASCII digits spell. -/
def number (ds : List Nat) : Nat := ds.foldl (fun n d => 10 * n + (d - mark '0')) 0

/-- Reads a number, or an asterisk that stands for the next argument. -/
def amount (cs : List Nat) : Formatting (Option Int × List Nat) := do
  match cs with
  | c :: rest =>
    if c = mark '*' then
      match ← next with
      | .int i => if i.natAbs < widthLimit then return (some i, rest) else failure
      | .bool b => return (some (if b then 1 else 0), rest)
      | _ => failure
    else if isDigit c then
      let n := number (cs.takeWhile isDigit)
      if n < widthLimit then return (some n, cs.dropWhile isDigit) else failure
    else return (none, cs)
  | [] => return (none, [])

/-- Reads a key in parentheses, which may hold parentheses that match.  `depth` counts those that
are open inside. -/
def key : Nat → List Nat → List Nat → Option (Text × List Nat)
  | _, _, [] => none
  | depth, acc, c :: cs =>
    if c = mark ')' then
      match depth with
      | 0 => some (⟨acc.reverse⟩, cs)
      | d + 1 => key d (c :: acc) cs
    else key (if c = mark '(' then depth + 1 else depth) (c :: acc) cs

/-! ## Numbers and texts in their fields -/

/-- A sign, what comes before the digits, and the digits, in a field. -/
def Place.number (p : Place) (negative : Bool) (before digits : Text) : Text :=
  let sign : Text := if negative then "-" else if p.plus then "+" else if p.blank then " " else ""
  let pad := p.width - (sign.length + before.length + digits.length)
  let fill (c : Char) : Text := ⟨List.replicate pad c.toNat⟩
  if p.left then sign ++ before ++ digits ++ fill ' '
  else if p.zero then sign ++ before ++ fill '0' ++ digits
  else fill ' ' ++ sign ++ before ++ digits

/-- A text in a field. -/
def Place.text (p : Place) (t : Text) : Text :=
  if p.left then t.padRight (mark ' ') p.width else t.padLeft (mark ' ') p.width

/-- A text cut to the precision, in a field. -/
def Place.cut (p : Place) (t : Text) : Text :=
  p.text (match p.precision with
    | some n => t.take n
    | none => t)

/-- An integer in a base. -/
def Place.integer (p : Place) (base : Nat) (before : Text) (upper : Bool) (i : Int) : Text :=
  let digits := (Text.inBase base i.natAbs).padLeft (mark '0') (p.precision.getD 0)
  let raise (t : Text) : Text := if upper then ⟨t.points.map fun c =>
    if mark 'a' ≤ c && c ≤ mark 'z' then c - 32 else c⟩ else t
  p.number (i < 0) (if p.alternate then raise before else "") (raise digits)

/-- A double in one of the three ways, with six digits unless told otherwise. -/
def Place.double (p : Place) (way : Double → Nat → Bool → Text) (upper : Bool) (x : Double) :
    Text :=
  let shown : Text := if x.isNaN then "nan" else if x.isInfinite then "inf"
    else way x (p.precision.getD 6) p.alternate
  let raised : Text := if upper then ⟨shown.points.map fun c =>
    if mark 'a' ≤ c && c ≤ mark 'z' then c - 32 else c⟩ else shown
  p.number (x.isNegative && !x.isNaN) "" raised

/-! ## Conversions -/

/-- The integer of a number, without its fractional part. -/
def wholeNumber? : Value → Option Int
  | .int i => some i
  | .bool b => some (if b then 1 else 0)
  | .float x => x.toInt?
  | _ => none

/-- The integer of a value that is one. -/
def exactInteger? : Value → Option Int
  | .int i => some i
  | .bool b => some (if b then 1 else 0)
  | _ => none

/-- The double of a number. -/
def double? : Value → Option Double
  | .float x => some x
  | .int i => Double.ofInt? i
  | .bool b => Double.ofInt? (if b then 1 else 0)
  | _ => none

/-- A text with everything beyond ASCII escaped. -/
def escaped (t : Text) : Text := ⟨t.points.flatMap fun c =>
  if c < 128 then [c] else (Text.numericEscape c).points⟩

/-- The character that a value stands for. -/
def character? : Value → Option Text
  | .text t => if t.length = 1 then some t else none
  | v => do
    let i ← exactInteger? v
    if 0 ≤ i && i < 0x110000 then some ⟨[i.toNat]⟩ else none

/-- The text of an argument at a place. -/
def Place.convert (p : Place) (letter : Nat) (v : Value) : Option Text :=
  match Char.ofNat letter with
  | 's' => if v.isSpellable then some (p.cut v.plain) else none
  | 'r' => if v.isSpellable then some (p.cut v.quoted) else none
  | 'a' => if v.isSpellable then some (p.cut (escaped v.quoted)) else none
  | 'd' | 'i' | 'u' => do
    let i ← wholeNumber? v
    if (Value.int i).isSpellable then some (p.integer 10 "" false i) else none
  | 'o' => (exactInteger? v).map (p.integer 8 "0o" false)
  | 'x' => (exactInteger? v).map (p.integer 16 "0x" false)
  | 'X' => (exactInteger? v).map (p.integer 16 "0x" true)
  | 'e' => (double? v).map (p.double Double.scientific false)
  | 'E' => (double? v).map (p.double Double.scientific true)
  | 'f' => (double? v).map (p.double Double.fixed false)
  | 'F' => (double? v).map (p.double Double.fixed true)
  | 'g' => (double? v).map (p.double Double.general false)
  | 'G' => (double? v).map (p.double Double.general true)
  | 'c' => (character? v).map p.text
  | _ => none

/-! ## Templates -/

/-- What follows a percent sign that marks a place: the text it becomes and the rest of the
template. -/
def place (cs : List Nat) : Formatting (Text × List Nat) := do
  let cs ← match cs with
    | c :: rest =>
      if c = mark '(' then
        if (← get).entries.isNone then failure
        match key 0 [] rest with
        | some (k, rest) => select k; pure rest
        | none => failure
      else pure cs
    | [] => failure
  let (p, cs) := flags {} cs
  let (width, cs) ← amount cs
  let p := match width with
    | some i => { p with left := p.left || i < 0, width := i.natAbs }
    | none => p
  let (p, cs) ← match cs with
    | c :: rest =>
      if c = mark '.' then do
        let (n, rest) ← amount rest
        pure ({ p with precision := some ((n.getD 0).toNat) }, rest)
      else pure (p, cs)
    | [] => pure (p, [])
  let cs := match cs with
    | c :: rest => if c = mark 'h' || c = mark 'l' || c = mark 'L' then rest else cs
    | [] => []
  match cs with
  | [] => failure
  | c :: rest =>
    match p.convert c (← next) with
    | some t => return (t, rest)
    | none => failure

/-- The rest of a template with its arguments.  Two percent signs are one in the text.  The first
argument bounds the number of steps, each of which passes a code point. -/
def fill : Nat → List Nat → List Nat → Formatting Text
  | _, acc, [] => return ⟨acc.reverse⟩
  | 0, _, _ => failure
  | fuel + 1, acc, c :: cs => do
    if c ≠ mark '%' then fill fuel (c :: acc) cs
    else if cs.head? = some (mark '%') then fill fuel (c :: acc) cs.tail
    else
      let (t, rest) ← place cs
      fill fuel (t.points.reverse ++ acc) rest

/-- The text of a template with its arguments, all of which have to be used unless they come from a
dictionary. -/
def format (template : Text) (args : List Value) : Option Text := do
  let arguments := Arguments.ofList args
  let (t, left) ← (fill template.length [] template.points).run arguments
  if left.rest.isEmpty || left.entries.isSome then some t else none

end WatWorkbench.Template
