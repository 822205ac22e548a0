import WatWorkbench.CommandLine.Usage
import WatWorkbench.Number.Numeral
import WatWorkbench.Text.Pattern
import WatWorkbench.Text.Quoted

/-!
# Reading command lines

A string that begins with a hyphen is a switch unless it looks like a negative number or holds a
space; after two hyphens alone there are no more switches.  A name of a switch may be cut short if no
other name begins like that, an argument may be attached to a name, and switches of one letter may be
written together.  What belongs to nothing is left over.

* `Piece`, `Grammar.classify` — what the strings of a command line are.
* `Grammar.read` — reads the strings that a grammar describes.
* `Suite.read` — reads a whole command line.
-/

namespace WatWorkbench.CommandLine

/-! ## Outcomes -/

/-- Why reading stops early. -/
inductive Stop where
  /-- The help was asked for. -/
  | help
  /-- The command line is wrong. -/
  | misuse (message : Text)
  deriving DecidableEq, Inhabited, Repr

/-- An argument. -/
inductive Argument where
  /-- A text. -/
  | text (t : Text)
  /-- An integer. -/
  | integer (i : Int)
  deriving DecidableEq, Inhabited, Repr

/-- What has been read. -/
structure Reading where
  /-- The switches that were noted or took an argument, with it. -/
  switches : List (Text × Option Argument) := []
  /-- What the operand took, if it has been read. -/
  operands : Option (List Text) := none
  /-- What belongs to nothing. -/
  extras : List Text := []
  deriving DecidableEq, Inhabited, Repr

/-- Stops because of an argument. -/
def refuse {α : Type} (title message : Text) : Except Stop α :=
  .error (.misuse ("argument " ++ title ++ ": " ++ message))

/-! ## Pieces -/

/-- What is attached to a name of a switch. -/
structure Attachment where
  /-- Whether an equals sign stands between them. -/
  hasSign : Bool
  /-- What follows. -/
  text : Text
  deriving DecidableEq, Inhabited, Repr

/-- A switch as it is written. -/
structure WrittenSwitch where
  /-- The switch. -/
  switch : Switch
  /-- The name in full. -/
  name : Text
  /-- What is attached to it. -/
  attachment : Option Attachment
  deriving DecidableEq, Inhabited, Repr

/-- What a string is. -/
inductive Piece where
  /-- An argument. -/
  | word
  /-- The mark after which there are no more switches. -/
  | dashes
  /-- A switch. -/
  | switch (s : WrittenSwitch)
  /-- A switch that does not exist. -/
  | unknown
  deriving DecidableEq, Inhabited, Repr

/-- Whether a piece is a switch, known or not. -/
def Piece.isSwitch : Piece → Bool
  | switch _ | unknown => true
  | word | dashes => false

/-- The code point of a hyphen. -/
def hyphen : Nat := '-'.toNat

/-- The code point of an equals sign. -/
def equalsSign : Nat := '='.toNat

/-- What comes before and after the first equals sign. -/
def cutAtSign (t : Text) : Text × Option Text :=
  match t.points.dropWhile (· ≠ equalsSign) with
  | [] => (t, none)
  | _ :: after => (⟨t.points.takeWhile (· ≠ equalsSign)⟩, some ⟨after⟩)

/-- How negative numbers look. -/
def negativeNumber : Pattern :=
  let digit := Pattern.point fun c => (Text.digitValue? c).isSome
  .sequence
    [ Pattern.chars "-",
      .alt (.plus digit) (.sequence [.star digit, Pattern.chars ".", .plus digit]),
      .opt (Pattern.chars "\n") ]

/-- All names of switches, with the switches. -/
def Grammar.names (g : Grammar) : List (Text × Switch) :=
  g.switches.flatMap fun s => s.names.map fun n => (n, s)

/-- The switches that a string with two hyphens in front could be: those with a name that begins like
it. -/
def Grammar.longCandidates (g : Grammar) (t : Text) : List WrittenSwitch :=
  let (beginning, after) := cutAtSign t
  g.names.filterMap fun (name, s) =>
    if name.startsWith beginning then some ⟨s, name, after.map (⟨true, ·⟩)⟩ else none

/-- The switches that a string with one hyphen in front could be: the one of its first letter, and
those with a name that begins like it. -/
def Grammar.shortCandidates (g : Grammar) (t : Text) : List WrittenSwitch :=
  g.names.filterMap fun (name, s) =>
    if name = t.take 2 then some ⟨s, name, some ⟨false, t.drop 2⟩⟩
    else if name.startsWith t then some ⟨s, name, none⟩
    else none

/-- What a string is that begins with a hyphen and is no name in full. -/
def Grammar.classifyOther (g : Grammar) (t : Text) : Except Stop Piece :=
  let candidates := if t.startsWith "--" then g.longCandidates t else g.shortCandidates t
  match candidates with
  | [s] => .ok (.switch s)
  | [] =>
    if negativeNumber.accepts t || t.contains ' '.toNat then .ok .word else .ok .unknown
  | ss =>
    .error (.misuse ("ambiguous option: " ++ t ++ " could match "
      ++ Text.join ", " (ss.map (·.name))))

/-- What a string is. -/
def Grammar.classify (g : Grammar) (t : Text) : Except Stop Piece :=
  if t.points.head? ≠ some hyphen then .ok .word
  else match g.switch? t with
    | some s => .ok (.switch ⟨s, t, none⟩)
    | none =>
      if t.length = 1 then .ok .word
      else match cutAtSign t with
        | (name, some after) =>
          match g.switch? name with
          | some s => .ok (.switch ⟨s, name, some ⟨true, after⟩⟩)
          | none => g.classifyOther t
        | (_, none) => g.classifyOther t

/-- What all strings are. -/
def Grammar.classifyAll (g : Grammar) : List Text → Except Stop (List (Text × Piece))
  | [] => .ok []
  | t :: ts =>
    if t = "--" then .ok ((t, .dashes) :: ts.map fun u => (u, .word))
    else do
      let p ← g.classify t
      return (t, p) :: (← g.classifyAll ts)

/-! ## Switches -/

/-- What follows from switches written together. -/
structure Spread where
  /-- The switches with their arguments. -/
  uses : List (Switch × Option Text)
  /-- What belongs to nothing. -/
  extras : List Text := []
  /-- How many of the strings that follow are taken. -/
  taken : Nat := 0

/-- The switch after another one that it is written together with.  Its name is the first letter of
what is attached. -/
def Grammar.following? (g : Grammar) (text : Text) : Option WrittenSwitch :=
  let name : Text := "-" ++ text.take 1
  (g.switch? name).map fun s =>
    let after := text.drop 1
    ⟨s, name,
      if after.isEmpty then none
      else if after.points.head? = some equalsSign then some ⟨true, after.drop 1⟩
      else some ⟨false, after⟩⟩

/-- The refusal of what is attached to a switch that takes no argument. -/
def ignored {α : Type} (s : Switch) (t : Text) : Except Stop α :=
  refuse s.title ("ignored explicit argument " ++ t.quoted)

/-- What follows from a switch and those written together with it, given the argument after them if
there is one.  The third argument bounds how many there are. -/
def Grammar.spread (g : Grammar) (next : Option Text) : Nat → WrittenSwitch → Except Stop Spread
  | fuel, w =>
    match w.attachment, w.switch.takesArgument with
    | some a, true => .ok { uses := [(w.switch, some a.text)] }
    | none, false => .ok { uses := [(w.switch, none)] }
    | none, true =>
      match next with
      | some t => .ok { uses := [(w.switch, some t)], taken := 1 }
      | none => refuse w.switch.title "expected one argument"
    | some a, false =>
      if w.name.startsWith "--" || a.text.isEmpty || a.hasSign || a.text.points.head? = some hyphen
      then ignored w.switch a.text
      else match g.following? a.text, fuel with
        | some following, fuel + 1 => do
          let s ← g.spread next fuel following
          return { s with uses := (w.switch, none) :: s.uses }
        | _, _ => .ok { uses := [(w.switch, none)], extras := ["-" ++ a.text] }

/-- An argument of a switch. -/
def argument (s : Switch) (t : Text) : ArgumentType → Except Stop Argument
  | .text => .ok (.text t)
  | .integer =>
    match Numeral.grouped? t with
    | some i => .ok (.integer i)
    | none => refuse s.title ("invalid int value: " ++ t.quoted)

/-- Adds what follows from switches to what has been read. -/
def Reading.use (r : Reading) : List (Switch × Option Text) → Except Stop Reading
  | [] => .ok r
  | (s, t) :: uses =>
    match s.effect with
    | .showHelp => .error .help
    | .note => Reading.use { r with switches := (s.key, none) :: r.switches } uses
    | .take type => do
      let a ← argument s (t.getD "") type
      Reading.use { r with switches := (s.key, some a) :: r.switches } uses

/-! ## Operands -/

/-- How many pieces an operand takes; `none` if it cannot be read here. -/
def Arity.count : Arity → List Piece → Option Nat
  | .one, .word :: .dashes :: _ => some 2
  | .one, .word :: _ => some 1
  | .one, .dashes :: .word :: _ => some 2
  | .one, _ => none
  | .atMostOne, .word :: .dashes :: _ => some 2
  | .atMostOne, .word :: _ => some 1
  | .atMostOne, .dashes :: .word :: _ => some 2
  | .atMostOne, .dashes :: _ => some 1
  | .atMostOne, _ => some 0
  | .rest, .word :: ps => some (ps.length + 1)
  | .rest, .dashes :: .word :: ps => some (ps.length + 2)
  | .rest, _ => none

/-- What an operand takes from strings.  The mark after which there are no more switches is not part
of it, unless it takes everything. -/
def Arity.strings (a : Arity) (ts : List Text) : List Text :=
  if a = .rest then ts else ts.erase "--"

/-- Reads the operand if it has not been read and can be read here, and gives what is left. -/
def Grammar.readOperand (g : Grammar) (r : Reading) (rest : List (Text × Piece)) :
    Reading × List (Text × Piece) :=
  match g.operand, r.operands with
  | some o, none =>
    match o.arity.count (rest.map (·.2)) with
    | some n =>
      ({ r with operands := some (o.arity.strings ((rest.take n).map (·.1))) }, rest.drop n)
    | none => (r, rest)
  | _, _ => (r, rest)

/-! ## Reading -/

/-- Reads classified strings.  The first argument bounds the number of steps. -/
def Grammar.readPieces (g : Grammar) :
    Nat → Reading → List (Text × Piece) → Except Stop Reading
  | 0, r, _ => .ok r
  | fuel + 1, r, pieces =>
    match pieces with
    | (_, .switch w) :: rest => do
      let next := match rest with
        | (t, .word) :: _ => some t
        | _ => none
      let s ← g.spread next ((w.attachment.map (·.text.length)).getD 0) w
      let r ← Reading.use { r with extras := r.extras ++ s.extras } s.uses
      g.readPieces fuel r (rest.drop s.taken)
    | (t, .unknown) :: rest =>
      g.readPieces fuel { r with extras := r.extras ++ [t] } rest
    | _ =>
      let (r, rest) := g.readOperand r pieces
      if rest.length < pieces.length && rest.any (·.2.isSwitch) then g.readPieces fuel r rest
      else
        let words := rest.takeWhile fun p => !p.2.isSwitch
        let r := { r with extras := r.extras ++ words.map (·.1) }
        match rest.drop words.length with
        | [] => .ok r
        | rest => g.readPieces fuel r rest

/-- Fails if an operand is missing that has to be there. -/
def Grammar.require (g : Grammar) (r : Reading) : Except Stop Unit :=
  match g.operand, r.operands with
  | some ⟨name, .one, _⟩, none =>
    .error (.misuse ("the following arguments are required: " ++ name))
  | _, _ => .ok ()

/-- Reads the strings that a grammar describes. -/
def Grammar.read (g : Grammar) (strings : List Text) : Except Stop Reading := do
  let pieces ← g.classifyAll strings
  let r ← g.readPieces (2 * pieces.length + 1) {} pieces
  g.require r
  return r

/-! ## Suites -/

/-- A command line that has been read. -/
structure Parsed where
  /-- What comes up to the name of the command. -/
  suite : Reading
  /-- The command with what follows its name, if there is one. -/
  command : Option (Command × Reading)
  deriving Inhabited, Repr

/-- What a program says instead of doing anything. -/
structure Reply where
  /-- On the standard output stream. -/
  output : Text := ""
  /-- On the standard error stream. -/
  errors : Text := ""
  /-- The exit status. -/
  status : Nat := 0
  deriving DecidableEq, Inhabited, Repr

/-- The exit status after a wrong command line. -/
def misuseStatus : Nat := 2

/-- What a program says when reading stops early. -/
def Grammar.reply (g : Grammar) (help : Text) : Stop → Reply
  | .help => { output := help }
  | .misuse message =>
    { errors := g.usage ++ "\n" ++ g.program ++ ": error: " ++ message ++ "\n"
      status := misuseStatus }

/-- The command with a name. -/
def Suite.find (s : Suite) (name : Text) : Except Stop Command :=
  match s.commands.find? (·.name = name) with
  | some c => .ok c
  | none =>
    refuse ((s.grammar.operand.map (·.name)).getD "")
      ("invalid choice: " ++ name.quoted ++ " (choose from "
        ++ Text.join ", " (s.commands.map (·.name.quoted)) ++ ")")

/-- Reads a whole command line; nothing may be left over. -/
def Suite.read (s : Suite) (strings : List Text) : Except Reply Parsed := do
  let here {α : Type} (r : Except Stop α) : Except Reply α :=
    r.mapError (s.grammar.reply s.help)
  let suite ← here (s.grammar.read strings)
  let command ← match suite.operands.getD [] with
    | [] => pure none
    | name :: rest =>
      let c ← here (s.find name)
      let r ← (c.grammar.read rest).mapError (c.grammar.reply c.grammar.help)
      pure (some (c, r))
  let extras := suite.extras ++ (command.map (·.2.extras)).getD []
  if !extras.isEmpty then
    here (.error (.misuse ("unrecognized arguments: " ++ Text.join " " extras)))
  return ⟨suite, command⟩

end WatWorkbench.CommandLine
