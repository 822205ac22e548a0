import WatWorkbench.Text.Basic

/-!
# The grammar of command lines

A program takes switches and at most one kind of operand.  A switch has one or more names that begin
with a hyphen.  The operand of a suite is the name of a command, which has a grammar of its own for
everything that follows.

* `Switch`, `Operand`, `Grammar` — what a program takes.
* `Command`, `Suite` — a program with commands.
-/

namespace WatWorkbench.CommandLine

/-- What an argument has to spell. -/
inductive ArgumentType where
  /-- Anything. -/
  | text
  /-- An integer. -/
  | integer
  deriving DecidableEq, Inhabited, Repr

/-- What a switch does. -/
inductive Effect where
  /-- Shows the help and ends the program. -/
  | showHelp
  /-- Is noted. -/
  | note
  /-- Takes an argument. -/
  | take (type : ArgumentType)
  deriving DecidableEq, Inhabited, Repr

/-- A switch. -/
structure Switch where
  /-- What it is known by to the program. -/
  key : Text
  /-- Its names. -/
  names : List Text
  /-- What it does. -/
  effect : Effect
  /-- What the help says about it. -/
  help : Text
  deriving DecidableEq, Inhabited, Repr

namespace Switch

/-- The switch that shows the help. -/
def ofHelp : Switch := ⟨"help", ["-h", "--help"], .showHelp, "show this help message and exit"⟩

/-- Whether a switch takes an argument. -/
def takesArgument (s : Switch) : Bool :=
  match s.effect with
  | .take _ => true
  | _ => false

/-- How messages call a switch. -/
def title (s : Switch) : Text := Text.join "/" s.names

/-- What stands for the argument of a switch. -/
def placeholder (s : Switch) : Text :=
  ⟨s.key.points.map fun c => if 'a'.toNat ≤ c && c ≤ 'z'.toNat then c - 32 else c⟩

end Switch

/-- How many arguments an operand takes. -/
inductive Arity where
  /-- One. -/
  | one
  /-- One or none. -/
  | atMostOne
  /-- One, with everything after it, or none. -/
  | rest
  deriving DecidableEq, Inhabited, Repr

/-- What a program takes apart from switches. -/
structure Operand where
  /-- How it is called. -/
  name : Text
  /-- How many arguments it takes. -/
  arity : Arity
  /-- What the help says about it, if anything. -/
  help : Option Text
  deriving DecidableEq, Inhabited, Repr

/-- What a program takes. -/
structure Grammar where
  /-- The name of the program. -/
  program : Text
  /-- What the program does. -/
  description : Text
  /-- The switches. -/
  switches : List Switch
  /-- The operand, if it takes one. -/
  operand : Option Operand
  deriving DecidableEq, Inhabited, Repr

/-- The switch with a name. -/
def Grammar.switch? (g : Grammar) (name : Text) : Option Switch :=
  g.switches.find? (·.names.contains name)

/-- A command of a suite. -/
structure Command where
  /-- Its name. -/
  name : Text
  /-- What the help of the suite says about it. -/
  summary : Text
  /-- What follows its name. -/
  grammar : Grammar
  deriving DecidableEq, Inhabited, Repr

/-- A program with commands. -/
structure Suite where
  /-- What comes up to the name of a command. -/
  grammar : Grammar
  /-- The commands. -/
  commands : List Command
  deriving DecidableEq, Inhabited, Repr

end WatWorkbench.CommandLine
