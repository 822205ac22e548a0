import WatWorkbench.Log.Record

/-!
# The tree of loggers

Loggers have names with dots, and `a.b` lies below `a`; the root lies above all.  A logger is there
from the time it is first named, and its place in the tree is below the nearest logger that is there.
A logger that has not been configured takes its level from the nearest logger above it that has one.
A record that is accepted by the logger it is written to goes to the handlers of that logger and of
those above it, as far as they propagate.

* `Handler`, `Filter`, `Logger` — what loggers are configured with.
* `LogTree` — the places and the configuration of all loggers.
* `LogTree.enroll` — the tree with one more logger.
* `LogTree.chain` — a logger and those above it.
* `LogTree.isEnabled` — whether a logger takes records of a level.
* `LogTree.deliveries` — which handlers get a record, in order.
-/

namespace WatWorkbench

/-! ## Configuration -/

/-- Where a handler puts its records. -/
inductive Sink where
  /-- Into a log book. -/
  | book (id : Nat)
  /-- Into a list of records. -/
  | recorder (id : Nat)
  /-- Onto the standard error stream; with the level and the logger's name, or bare. -/
  | stream (bare : Bool)
  deriving DecidableEq, Inhabited, Repr

/-- Something that receives records. -/
structure Handler where
  /-- Tells handlers apart that are otherwise the same. -/
  id : Nat
  /-- The least level it takes. -/
  level : Int
  /-- Where its records go. -/
  sink : Sink
  deriving DecidableEq, Inhabited, Repr

/-- Something that decides whether a record goes to the handlers. -/
inductive Filter where
  /-- Records below a level go to one handler only, whatever the level of that handler. -/
  | threshold (id : Nat) (level : Int) (handler : Handler)
  /-- Any other decision. -/
  | foreign (accepts : LogRecord → Bool)

/-- The configuration of one logger. -/
structure Logger where
  /-- Its level, or zero for that of the loggers above. -/
  level : Int := 0
  /-- Whether records go on to the loggers above. -/
  propagate : Bool := true
  /-- Whether it refuses everything. -/
  disabled : Bool := false
  /-- Its handlers, in the order in which they were added. -/
  handlers : List Handler := []
  /-- Its filters, in the order in which they were added. -/
  filters : List Filter := []
  deriving Inhabited

/-- The place of a logger in the tree. -/
structure LogPlace where
  /-- The logger's name. -/
  name : Text
  /-- The logger above it. -/
  parent : Text
  /-- The names between it and the logger above it under which there was no logger when it came. -/
  vacant : List Text
  deriving DecidableEq, Inhabited, Repr

/-- The places and the configuration of all loggers. -/
structure LogTree where
  /-- The configuration of each logger. -/
  logger : Text → Logger
  /-- The places of the loggers that are there, in the order in which they came; the root is always
  there and has none. -/
  places : List LogPlace := []
  /-- No logger takes records up to this level. -/
  disabledUpTo : Int := 0

namespace LogTree

/-- The name of the logger above all. -/
def rootName : Text := "root"

/-- Nothing configured but the root, which takes warnings. -/
def initial : LogTree where
  logger name := if name = rootName then { level := Level.warning } else {}

/-- The name under which a logger is known; the empty name is the root's. -/
def known (name : Text) : Text := if name.isEmpty then rootName else name

/-! ## Places -/

/-- The names above a name, the nearest first.  The argument is the name from its end.  Of two dots
next to each other only the last one sets names apart. -/
def above : List Nat → List Text
  | c :: x :: rest =>
    if c = '.'.toNat then ⟨(x :: rest).reverse⟩ :: above rest else above (x :: rest)
  | _ => []

/-- The place of a logger, if it is there and is not the root. -/
def place? (t : LogTree) (name : Text) : Option LogPlace := t.places.find? (·.name = name)

/-- The place of a logger after another one has come, which it may have to go below.  A logger whose
parent's name begins with the name of the newcomer stays where it is. -/
def adopt (newcomer : Text) (p : LogPlace) : LogPlace :=
  if p.vacant.contains newcomer && !p.parent.startsWith newcomer then { p with parent := newcomer }
  else p

/-- The tree with one more logger, unless it is there already. -/
def enroll (t : LogTree) (name : Text) : LogTree :=
  if name = rootName || (t.place? name).isSome then t
  else
    let names := above name.points.reverse
    let isVacant (n : Text) := (t.place? n).isNone
    let place : LogPlace :=
      ⟨name, ((names.dropWhile isVacant).head?).getD rootName, names.takeWhile isVacant⟩
    { t with places := t.places.map (adopt name) ++ [place] }

/-- A logger's name and the names of the loggers above it, up to the root's.  The first argument
bounds how many there are. -/
def climb (t : LogTree) : Nat → Text → List Text
  | 0, _ => [rootName]
  | fuel + 1, name =>
    match t.place? name with
    | some p => name :: climb t fuel p.parent
    | none => [rootName]

/-- A logger's name and the names of the loggers above it, up to the root's. -/
def chain (t : LogTree) (name : Text) : List Text :=
  let t := t.enroll name
  t.climb t.places.length name

/-- The tree with one logger configured otherwise. -/
def configure (t : LogTree) (name : Text) (change : Logger → Logger) : LogTree :=
  let changed := change (t.logger name)
  { t.enroll name with logger := fun n => if n = name then changed else t.logger n }

/-! ## Levels -/

/-- The first level that is set along a chain of names. -/
def levelAlong (t : LogTree) : List Text → Int
  | [] => 0
  | n :: ns => if (t.logger n).level ≠ 0 then (t.logger n).level else t.levelAlong ns

/-- The level that a logger has, by itself or from above. -/
def effectiveLevel (t : LogTree) (name : Text) : Int := t.levelAlong (t.chain name)

/-- Whether a logger takes records of a level. -/
def isEnabled (t : LogTree) (name : Text) (level : Int) : Bool :=
  !(t.logger name).disabled && t.disabledUpTo < level && t.effectiveLevel name ≤ level

/-! ## Deliveries -/

/-- The handlers along a chain of names, as far as records propagate. -/
def handlersAlong (t : LogTree) : List Text → List Handler
  | [] => []
  | n :: ns =>
    (t.logger n).handlers ++ if (t.logger n).propagate then t.handlersAlong ns else []

/-- Where warnings go when nobody handles them. -/
def lastResort : Handler := ⟨0, Level.warning, .stream true⟩

/-- What filters make of a record: the handlers it is diverted to, and whether it goes on. -/
def screen (r : LogRecord) : List Filter → List Handler × Bool
  | [] => ([], true)
  | .threshold _ level handler :: fs =>
    if level ≤ r.level then screen r fs else ([handler], false)
  | .foreign accepts :: fs => if accepts r then screen r fs else ([], false)

/-- The handlers that get a record, in order. -/
def deliveries (t : LogTree) (r : LogRecord) : List Handler :=
  if !t.isEnabled r.logger r.level then [] else
  match screen r (t.logger r.logger).filters with
  | (diverted, false) => diverted
  | (_, true) =>
    let found := t.handlersAlong (t.chain r.logger)
    (if found.isEmpty then [lastResort] else found).filter (·.level ≤ r.level)

end LogTree

end WatWorkbench
