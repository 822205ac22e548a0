import WatWorkbench.Text.Quoted

/-!
# Places in a document

A document is read through a cursor: the code points that are left and the place that has been
reached, which messages refer to.  The end reads as the code point zero, which no document holds.

* `Mark`, `Mark.describe` — a place, and how a message shows it with the line around it.
* `Cursor` — what is left of a document, with `peek`, `forward` and `advanceWhile`.
* `isBreak`, `isEnd`, `endsWord` — the classes of code points that structure a document.
-/

namespace WatWorkbench.Yaml

/-! ## Code points -/

/-- Whether a code point ends a line. -/
def isBreak (c : Nat) : Bool :=
  c = 0x0A || c = 0x0D || c = 0x85 || c = 0x2028 || c = 0x2029

/-- Whether a code point ends a line or is the end. -/
def isEnd (c : Nat) : Bool := c = 0 || isBreak c

/-- The code point of a space. -/
def space : Nat := ' '.toNat

/-- The code point of a tab. -/
def tab : Nat := '\t'.toNat

/-- Whether a code point is a space, ends a line or is the end. -/
def endsWord (c : Nat) : Bool := c = space || isEnd c

/-- Whether a code point is a space or a tab, ends a line or is the end. -/
def isSeparator (c : Nat) : Bool := c = tab || endsWord c

/-- Whether a code point is one of the given characters. -/
def isOneOf (cs : String) (c : Nat) : Bool := cs.toList.any (·.toNat = c)

/-- Whether a code point is an ASCII digit. -/
def isDigit (c : Nat) : Bool := '0'.toNat ≤ c && c ≤ '9'.toNat

/-- Whether a code point is an ASCII letter, an ASCII digit, a hyphen or an underscore. -/
def isWord (c : Nat) : Bool :=
  isDigit c || ('A'.toNat ≤ c && c ≤ 'Z'.toNat) || ('a'.toNat ≤ c && c ≤ 'z'.toNat)
    || isOneOf "-_" c

/-- Whether a code point is a hexadecimal digit. -/
def isHexDigit (c : Nat) : Bool := isDigit c || isOneOf "ABCDEFabcdef" c

/-! ## Places -/

/-- A place in a document. -/
structure Mark where
  /-- How many code points come before it. -/
  index : Nat := 0
  /-- How many lines come before its line. -/
  line : Nat := 0
  /-- How many code points of its line come before it; byte order marks do not count. -/
  column : Nat := 0
  deriving DecidableEq, Inhabited, Repr

namespace Mark

/-- The place after a code point, which is followed by another one.  A carriage return in front of
a line feed ends no line by itself. -/
def next (m : Mark) (c following : Nat) : Mark :=
  if isBreak c && !(c = 0x0D && following = 0x0A) then ⟨m.index + 1, m.line + 1, 0⟩
  else if c = 0xFEFF then { m with index := m.index + 1 }
  else { m with index := m.index + 1, column := m.column + 1 }

/-- How far messages show a line to each side of a place, and how many code points they leave out
at an end that is cut. -/
def window : Nat × Nat := (36, 5)

/-- What messages show of one side of a line, and whether it is cut.  The side begins at the
place. -/
def oneSide (side : List Nat) : List Nat × Bool :=
  let (width, cut) := window
  let line := side.takeWhile fun c => !isEnd c
  if width < line.length then (line.take (width + 1 - cut), true) else (line, false)

/-- What stands for the part of a line that is cut. -/
def ellipsis (isCut : Bool) : Text := if isCut then " ... " else ""

/-- The line around a place, and below it a caret that points to the place. -/
def snippet (m : Mark) (document : List Nat) : Text :=
  let (before, cutBefore) := oneSide (document.take m.index).reverse
  let (after, cutAfter) := oneSide (document.drop m.index)
  let indent : Text := "    "
  let line := indent ++ ellipsis cutBefore ++ ⟨before.reverse⟩
  let spaces : Text := ⟨List.replicate line.length space⟩
  line ++ ⟨after⟩ ++ ellipsis cutAfter ++ "\n" ++ spaces ++ "^"

/-- A place as messages show it; lines and columns are counted from one. -/
def describe (m : Mark) (document : List Nat) : Text :=
  "  in \"<unicode string>\", line " ++ Text.decimal (m.line + 1) ++ ", column "
    ++ Text.decimal (m.column + 1) ++ ":\n" ++ m.snippet document

end Mark

/-! ## Reading -/

/-- What is left of a document. -/
structure Cursor where
  /-- The code points that are left. -/
  rest : List Nat
  /-- The place that has been reached. -/
  mark : Mark := {}
  deriving Inhabited

namespace Cursor

/-- A code point ahead; zero at the end. -/
def peek (c : Cursor) (ahead : Nat := 0) : Nat := c.rest.getD ahead 0

/-- Whether the given characters come next. -/
def startsWith (c : Cursor) (s : String) : Bool := (s.toList.map (·.toNat)).isPrefixOf c.rest

/-- The code points up to one that fails a test, and the cursor there.  The test also sees the code
point after the one in question. -/
def advanceWhile (p : Nat → Nat → Bool) (c : Cursor) : List Nat × Cursor :=
  go c.rest c.mark
where
  /-- Reads from a place on. -/
  go : List Nat → Mark → List Nat × Cursor
    | [], m => ([], ⟨[], m⟩)
    | x :: xs, m =>
      let following := xs.headD 0
      if p x following then
        let (read, c) := go xs (m.next x following)
        (x :: read, c)
      else ([], ⟨x :: xs, m⟩)

/-- The cursor after one more code point. -/
def step (c : Cursor) : Cursor :=
  match c.rest with
  | [] => c
  | x :: xs => ⟨xs, c.mark.next x (xs.headD 0)⟩

/-- The cursor after more code points. -/
def forward : Nat → Cursor → Cursor
  | 0, c => c
  | n + 1, c => forward n c.step

end Cursor

end WatWorkbench.Yaml
