import WatWorkbench.Log.Kind

/-!
# Colours on a terminal

A text in a colour stands between a code that begins the colour and one that ends it.  Inside, the
colour is ended before the end of a line and before whatever resets the terminal, and begun again
afterwards.

* `Colour`, `Colour.paint` — colours, and texts in them.
* `LogKind.colour` — the colour of log entries.
-/

namespace WatWorkbench

/-- A colour of letters. -/
inductive Colour where
  /-- White. -/
  | white
  /-- Red. -/
  | red
  /-- Green. -/
  | green
  deriving DecidableEq, Inhabited, Repr

namespace Colour

/-- What begins a colour. -/
def opening : Colour → Text
  | white => "\x1b[37m"
  | red => "\x1b[31m"
  | green => "\x1b[32m"

/-- What ends any colour. -/
def closing : Text := "\x1b[39m"

/-- What resets a terminal. -/
def reset : Text := "\x1b[0m"

/-- A text without ends of lines, given as the pieces between resets.  What stands between two resets
keeps its own looks. -/
def paintPieces (c : Colour) : List Text → Text
  | p :: q :: r :: rest =>
    p ++ closing ++ reset ++ q ++ reset ++ c.opening ++ paintPieces c (r :: rest)
  | ps => Text.join reset ps

/-- A line with its end.  A carriage return in front of the end belongs to it. -/
def paintEnd (c : Colour) (line : Text) : Text :=
  let (line, ending) : Text × Text :=
    if line.endsWith "\r" then (line.take (line.length - 1), "\r\n") else (line, "\n")
  line ++ closing ++ ending ++ c.opening

/-- Lines one after another. -/
def paintLines (c : Colour) : List Text → Text
  | [] => ""
  | [line] => line
  | line :: lines => c.paintEnd line ++ paintLines c lines

/-- A text in a colour. -/
def paint (c : Colour) (t : Text) : Text :=
  let t := t.replace closing (closing ++ c.opening)
  let lines := (t.splitOn '\n'.toNat).map fun line => c.paintPieces (line.splitBy reset)
  c.opening ++ c.paintLines lines ++ closing

end Colour

/-- The colour of the log entries of a kind. -/
def LogKind.colour : LogKind → Colour
  | .info => .white
  | .error => .red
  | .success => .green

end WatWorkbench
