import WatWorkbench.Failure
import WatWorkbench.Log.Entry
import WatWorkbench.Log.Tree

/-!
# Capturing log records

The logging state is the tree of loggers together with everything that handlers have received.  An
interceptor puts a handler on one logger, the *channel*, and takes it away again; meanwhile the
records of the channel become entries of a log book.  A channel whose level is above that of
progress messages is lowered, and a filter keeps the records that it would have dropped away from
its other handlers.

* `LogState` — the state, and `LogState.write`, which delivers a record.
* `Interceptor` — an interceptor, with `Interceptor.enter` and `Interceptor.leave`.
-/

namespace WatWorkbench

/-- A record as a foreign handler keeps it. -/
structure Recorded where
  /-- The level. -/
  level : Int
  /-- The logger. -/
  logger : Text
  /-- The text, if there is one. -/
  text : Option Text
  deriving DecidableEq, Inhabited, Repr

/-- The loggers and what their handlers have received. -/
structure LogState where
  /-- The loggers. -/
  tree : LogTree := .initial
  /-- The names of the channels that are being captured. -/
  captured : List Text := []
  /-- The log books. -/
  books : Nat → LogBook := fun _ => {}
  /-- The lists of records. -/
  recordings : Nat → List Recorded := fun _ => []
  /-- The lines on the standard error stream. -/
  errorLines : List Text := []
  /-- A number that no handler, filter or book has yet. -/
  next : Nat := 1

namespace LogState

/-- Replaces one value of a function. -/
def assign {α : Type} (f : Nat → α) (id : Nat) (a : α) : Nat → α :=
  fun i => if i = id then a else f i

/-- The state with another book under a number. -/
def setBook (s : LogState) (id : Nat) (b : LogBook) : LogState :=
  { s with books := assign s.books id b }

/-- The state with another configuration of a logger. -/
def configure (s : LogState) (name : Text) (change : Logger → Logger) : LogState :=
  { s with tree := s.tree.configure name change }

/-- The state with one more line on the standard error stream. -/
def printError (s : LogState) (line : Text) : LogState :=
  { s with errorLines := s.errorLines ++ [line] }

/-- Hands a record to a handler.  A record without a text is dropped, except by recorders.  A book
refuses a text that does not consist of characters. -/
def receive (r : LogRecord) (h : Handler) (s : LogState) : Except Failure LogState :=
  match h.sink, r.text? with
  | .book id, some t =>
    match LogEntry.ofText r.entryKind t with
    | .ok e => .ok (s.setBook id ((s.books id).append e))
    | .error report => .error (.invalid report)
  | .recorder id, t =>
    .ok { s with recordings := assign s.recordings id (s.recordings id ++ [⟨r.level, r.logger, t⟩]) }
  | .stream true, some t => .ok (s.printError t)
  | .stream false, some t =>
    .ok (s.printError (Level.name r.level ++ " " ++ r.logger ++ ": " ++ t))
  | _, none => .ok s

/-- Hands a record to handlers, one after another up to one that refuses it. -/
def deliver (r : LogRecord) : List Handler → LogState → Except Failure Unit × LogState
  | [], s => (.ok (), s)
  | h :: hs, s =>
    match receive r h s with
    | .ok s => deliver r hs s
    | .error e => (.error e, s)

/-- Writes a record to its logger. -/
def write (s : LogState) (r : LogRecord) : Except Failure Unit × LogState :=
  deliver r (s.tree.deliveries r) { s with tree := s.tree.enroll r.logger }

/-- A new number. -/
def fresh (s : LogState) : Nat × LogState := (s.next, { s with next := s.next + 1 })

end LogState

/-! ## Interceptors -/

/-- The default channel. -/
def channelName : Text := "wasmplay"

/-- Captures a channel into a book while it is active. -/
structure Interceptor where
  /-- The book. -/
  book : Nat
  /-- The channel. -/
  channel : Text := channelName
  /-- Its handler, while it is active. -/
  handler : Option Handler := none
  /-- The number of its filter, if it had to lower the channel. -/
  filter : Option Nat := none
  /-- The level of the channel before. -/
  savedLevel : Option Int := none
  deriving DecidableEq, Inhabited, Repr

namespace Interceptor

/-- Whether the interceptor is active. -/
def isActive (i : Interceptor) : Bool := i.handler.isSome

/-- Whether a filter is the threshold filter of the given number. -/
def isFilter (id : Nat) : Filter → Bool
  | .threshold n _ _ => n = id
  | .foreign _ => false

/-- Begins to capture.  A channel that is being captured is refused. -/
def enter (i : Interceptor) (s : LogState) : Except Failure (Interceptor × LogState) :=
  if i.channel ∈ s.captured then .error (.captured i.channel) else
  let (number, s) := s.fresh
  let handler : Handler := ⟨number, Level.info, .book i.book⟩
  let threshold := s.tree.effectiveLevel i.channel
  let i := { i with handler := some handler, savedLevel := some (s.tree.logger i.channel).level }
  let s := { s with captured := i.channel :: s.captured }
  let attach (l : Logger) : Logger := { l with handlers := l.handlers ++ [handler] }
  if Level.info < threshold then
    .ok ({ i with filter := some number },
      s.configure i.channel fun l => attach { l with
        level := Level.info
        filters := l.filters ++ [.threshold number threshold handler] })
  else .ok (i, s.configure i.channel attach)

/-- Ends capturing: the handler and the filter are taken away and the level is as before.  The
channel is free again in any case. -/
def leave (i : Interceptor) (s : LogState) : Interceptor × LogState :=
  let restore (l : Logger) : Logger :=
    { l with
      handlers := match i.handler with
        | some h => l.handlers.filter (·.id ≠ h.id)
        | none => l.handlers
      filters := match i.filter with
        | some n => l.filters.filter fun f => !isFilter n f
        | none => l.filters
      level := i.savedLevel.getD l.level }
  ({ i with handler := none, filter := none, savedLevel := none },
    { s.configure i.channel restore with captured := s.captured.filter (· ≠ i.channel) })

end Interceptor

end WatWorkbench
