import WatWorkbench.CommandLine.Grammar

/-!
# Usage and help

The texts that tell how a program is used.  Lines have at most 78 characters, and what the help says
about each item stands in a column of its own.

* `Grammar.usage` — one line about what a program takes.
* `Grammar.help`, `Suite.help` — everything about it.
-/

namespace WatWorkbench.CommandLine

/-! ## Layout -/

/-- How texts are laid out. -/
structure HelpLayout where
  /-- The greatest number of characters in a line. -/
  width : Nat
  /-- The number of characters by which items are indented. -/
  indent : Nat
  /-- The farthest column at which what is said about items may begin. -/
  column : Nat

/-- How texts are laid out. -/
def layout : HelpLayout := ⟨78, 2, 24⟩

/-- Some spaces. -/
def spaces (n : Nat) : Text := ⟨List.replicate n ' '.toNat⟩

/-- Words in lines that are as long as a width allows.  The second argument is the line under way. -/
def fill (width : Nat) : List Text → Text → List Text
  | [], line => if line.isEmpty then [] else [line]
  | w :: ws, line =>
    if line.isEmpty then fill width ws w
    else if line.length + 1 + w.length ≤ width then fill width ws (line ++ " " ++ w)
    else line :: fill width ws w

/-- A text in lines that are as long as a width allows. -/
def wrap (width : Nat) (t : Text) : List Text := fill width (t.splitOn ' '.toNat) ""

/-- Something that the help tells about. -/
structure HelpItem where
  /-- How far it is indented. -/
  indent : Nat
  /-- How it is written. -/
  label : Text
  /-- What is said about it, if anything. -/
  help : Option Text

namespace HelpItem

/-- The lines of an item, given the column at which what is said about it begins.  A long label has
a line for itself. -/
def lines (column : Nat) (i : HelpItem) : List Text :=
  let label := spaces i.indent ++ i.label
  match i.help.map (wrap (layout.width - column)) with
  | none | some [] => [label]
  | some (first :: rest) =>
    let rest := rest.map (spaces column ++ ·)
    if label.length + 2 ≤ column then
      (label.padRight ' '.toNat column ++ first) :: rest
    else label :: (spaces column ++ first) :: rest

/-- The column at which what is said about items begins.  All labels count as if they were indented
alike. -/
def column (items : List HelpItem) : Nat :=
  let longest := (items.map (·.label.length)).foldl max 0
  min (longest + layout.indent + 2) layout.column

end HelpItem

/-! ## What is written for each argument -/

/-- A name of a switch with what stands for its argument. -/
def Switch.form (s : Switch) (name : Text) : Text :=
  if s.takesArgument then name ++ " " ++ s.placeholder else name

/-- A switch in a usage line. -/
def Switch.usage (s : Switch) : Text := "[" ++ s.form (s.names.headD "") ++ "]"

/-- A switch in the help. -/
def Switch.item (s : Switch) : HelpItem :=
  ⟨layout.indent, Text.join ", " (s.names.map s.form), some s.help⟩

/-- An operand in a usage line. -/
def Operand.usage (o : Operand) : Text :=
  match o.arity with
  | .one => o.name
  | .atMostOne => "[" ++ o.name ++ "]"
  | .rest => o.name ++ " ..."

/-- An operand in the help. -/
def Operand.item (o : Operand) : HelpItem := ⟨layout.indent, o.name, o.help⟩

/-- A command in the help. -/
def Command.item (c : Command) : HelpItem := ⟨2 * layout.indent, c.name, some c.summary⟩

/-! ## Texts -/

/-- One line about what a program takes. -/
def Grammar.usage (g : Grammar) : Text :=
  let operand := g.operand.toList.map Operand.usage
  "usage: " ++ Text.join " " (g.program :: g.switches.map Switch.usage ++ operand)

/-- A part of the help, if it tells about anything. -/
def part (column : Nat) (title : Text) (items : List HelpItem) : List (List Text) :=
  if items.isEmpty then [] else [title :: items.flatMap (HelpItem.lines column)]

/-- Everything about a program that has the given commands. -/
def Grammar.helpWith (g : Grammar) (commands : List Command) : Text :=
  let operands := g.operand.toList.map Operand.item ++ commands.map Command.item
  let switches := g.switches.map Switch.item
  let column := HelpItem.column (operands ++ switches)
  let paragraphs := [[g.usage], wrap layout.width g.description]
    ++ part column "positional arguments:" operands
    ++ part column "options:" switches
  Text.join "\n\n" (paragraphs.map (Text.join "\n")) ++ "\n"

/-- Everything about a program. -/
def Grammar.help (g : Grammar) : Text := g.helpWith []

/-- Everything about a program with commands. -/
def Suite.help (s : Suite) : Text := s.grammar.helpWith s.commands

end WatWorkbench.CommandLine
