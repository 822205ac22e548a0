import WatWorkbench.Number.Numeral
import WatWorkbench.Yaml.Fault
import WatWorkbench.Yaml.Token

/-!
# The state of reading tokens

Tokens are read when they are asked for.  A scalar may turn out to be a key only when a colon
follows, so places where a key could have begun are remembered, and tokens are held back as long as
one of them could still become a key.

* `SimpleKey` — a place where a key could have begun.
* `Lexer` — the state.
* `Lex` — readings, with `peek`, `forward`, `takeWhile` and `fail`.
-/

namespace WatWorkbench.Yaml

/-- A place where a key could have begun. -/
structure SimpleKey where
  /-- The number of the token that would be its first. -/
  number : Nat
  /-- Whether there is no other way to understand that token. -/
  isRequired : Bool
  /-- The place. -/
  mark : Mark

/-- The state of reading tokens. -/
structure Lexer where
  /-- What is left of the document. -/
  cursor : Cursor
  /-- The tokens that have been read and not yet been taken. -/
  tokens : List Token := []
  /-- How many tokens have been taken. -/
  taken : Nat := 0
  /-- Whether the end has been read. -/
  isDone : Bool := false
  /-- How many brackets and braces are open. -/
  flowLevel : Nat := 0
  /-- The column of the current block collection; negative outside of all. -/
  indent : Int := -1
  /-- The columns of the block collections around it, the innermost first. -/
  indents : List Int := []
  /-- Whether a key may begin here. -/
  allowsKey : Bool := true
  /-- Where keys could have begun, by the number of open brackets and braces. -/
  keys : List (Nat × SimpleKey) := []

/-- A reading of tokens, which may fail. -/
abbrev Lex := StateT Lexer (Except Fault)

namespace Lex

/-- A code point ahead. -/
def peek (ahead : Nat := 0) : Lex Nat := do return (← get).cursor.peek ahead

/-- The place that has been reached. -/
def mark : Lex Mark := do return (← get).cursor.mark

/-- The column that has been reached. -/
def column : Lex Nat := do return (← mark).column

/-- Whether a collection in brackets or braces is being read. -/
def inFlow : Lex Bool := do return (← get).flowLevel ≠ 0

/-- Whether the given characters come next. -/
def atText (s : String) : Lex Bool := do return (← get).cursor.startsWith s

/-- Goes on by some code points. -/
def forward (count : Nat := 1) : Lex Unit :=
  modify fun l => { l with cursor := l.cursor.forward count }

/-- The code points up to one that fails a test, which also sees the one after it. -/
def takeWhile (p : Nat → Nat → Bool) : Lex (List Nat) := do
  let l ← get
  let (read, cursor) := l.cursor.advanceWhile p
  set { l with cursor }
  return read

/-- Leaves out the code points up to one that fails a test. -/
def skipWhile (p : Nat → Bool) : Lex Unit := do
  let _ ← takeWhile fun c _ => p c

/-- Leaves out spaces. -/
def skipSpaces : Lex Unit := skipWhile (· = space)

/-- Leaves out a comment. -/
def skipComment : Lex Unit := do
  if (← peek) = '#'.toNat then skipWhile (!isEnd ·)

/-- Sets whether a key may begin here. -/
def allowKey (allowsKey : Bool) : Lex Unit := modify ({ · with allowsKey })

/-- Fails at the place that has been reached. -/
def fail {α : Type} (context : Option (Text × Option Mark)) (problem : Text) : Lex α := do
  throw (.wrong context problem (← mark))

/-- Fails at the place that has been reached, while something is being read that began at another
place. -/
def failIn {α : Type} (context : Text) (start : Mark) (problem : Text) : Lex α :=
  fail (some (context, some start)) problem

/-- A code point as messages show it. -/
def shown (c : Nat) : Text := Text.quoted ⟨[c]⟩

/-- Reads the end of a line, if there is one.  Most ends are the same; the line and paragraph
separators stay what they are. -/
def lineBreak : Lex (List Nat) := do
  let c ← peek
  if c = 0x2028 || c = 0x2029 then
    forward
    return [c]
  else if isBreak c then
    forward (if ← atText "\r\n" then 2 else 1)
    return ['\n'.toNat]
  else return []

/-- Whether a mark between documents comes next, at the beginning of a line. -/
def atDocumentMark : Lex Bool := do
  return ((← atText "---") || (← atText "...")) && isSeparator (← peek 3)

/-- The code points ahead, as many as asked for and not beyond the end. -/
def ahead (count : Nat) : Lex (List Nat) := do return (← get).cursor.rest.take count

/-- The first code point that is no hexadecimal digit, among as many as are asked for; the end is
none either. -/
def notHex? (count : Nat) (digits : List Nat) : Option Nat :=
  (digits.find? (!isHexDigit ·)).orElse fun _ => if digits.length < count then some 0 else none

/-- The number that hexadecimal digits spell. -/
def hexNumber (digits : List Nat) : Nat := Numeral.ofDigits 16 (digits.map Char.ofNat)

/-- How many code points are left. -/
def left : Lex Nat := do return (← get).cursor.rest.length

end Lex

end WatWorkbench.Yaml
