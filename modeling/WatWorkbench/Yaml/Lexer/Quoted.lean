import WatWorkbench.Yaml.Lexer.Basic

/-!
# Quoted scalars

Scalars in single quotes, in which a quote is written twice, and in double quotes, in which a
backslash begins an escape.  Both may go on over several lines, as plain ones do.

* `Lex.quoted` — reads a quoted scalar.
-/

namespace WatWorkbench.Yaml.Lex

/-- What is being read. -/
def quotedScalar : Text := "while scanning a quoted scalar"

/-- What is being read when double quotes matter. -/
def doubleQuotedScalar : Text := "while scanning a double-quoted scalar"

/-- Reads ends of lines and white space in front of them.  The first argument bounds the number of
lines. -/
def quotedBreaks (start : Mark) : Nat → Lex (List Nat)
  | 0 => return []
  | fuel + 1 => do
    -- instead of the indentation, marks between documents are looked for
    if ← atDocumentMark then failIn quotedScalar start "found unexpected document separator"
    skipWhile fun c => c = space || c = tab
    if isBreak (← peek) then
      let first ← lineBreak
      return first ++ (← quotedBreaks start fuel)
    else return []

/-- Reads white space, or ends of lines, of which the first becomes a space when it is the only
one. -/
def quotedSpaces (start : Mark) : Lex (List Nat) := do
  let spaces ← takeWhile fun c _ => c = space || c = tab
  let c ← peek
  if c = 0 then failIn quotedScalar start "found unexpected end of stream"
  if isBreak c then
    let first ← lineBreak
    let breaks ← quotedBreaks start ((← left) + 1)
    if first ≠ ['\n'.toNat] then return first ++ breaks
    else if breaks.isEmpty then return [space]
    else return breaks
  else return spaces

/-- What the escapes of one character stand for. -/
def escapes : List (Char × Nat) :=
  [('0', 0x00), ('a', 0x07), ('b', 0x08), ('t', 0x09), ('\t', 0x09), ('n', 0x0A), ('v', 0x0B),
    ('f', 0x0C), ('r', 0x0D), ('e', 0x1B), (' ', 0x20), ('"', 0x22), ('\\', 0x5C), ('/', 0x2F),
    ('N', 0x85), ('_', 0xA0), ('L', 0x2028), ('P', 0x2029)]

/-- The code point that the escape of one character stands for. -/
def escape? (c : Nat) : Option Nat := (escapes.find? (·.1.toNat = c)).map (·.2)

/-- How many digits follow in the escapes that give a code point by its number. -/
def escapeDigits? (c : Nat) : Option Nat :=
  if c = 'x'.toNat then some 2
  else if c = 'u'.toNat then some 4
  else if c = 'U'.toNat then some 8
  else none

/-- The code point of a number. -/
def numbered (n : Nat) : Except Fault Nat :=
  if 0x80000000 ≤ n then
    .error (.escaped (.raised .overflow "Python int too large to convert to C int"))
  else if 0x110000 ≤ n then
    .error (.escaped (.raised .value "chr() arg not in range(0x110000)"))
  else .ok n

/-- Reads an escape after its backslash. -/
def escaped (start : Mark) : Lex (List Nat) := do
  let c ← peek
  match escape? c, escapeDigits? c with
  | some code, _ =>
    forward
    return [code]
  | none, some count =>
    forward
    let digits ← ahead count
    if let some c := notHex? count digits then
      failIn doubleQuotedScalar start ("expected escape sequence of " ++ Text.decimal count
        ++ " hexadecimal numbers, but found " ++ shown c)
    let code ← (numbered (hexNumber digits) : Except Fault Nat)
    forward count
    return [code]
  | none, none =>
    if isBreak c then
      let _ ← lineBreak
      quotedBreaks start ((← left) + 1)
    else failIn doubleQuotedScalar start ("found unknown escape character " ++ shown c)

/-- Whether a code point ends a run of a quoted scalar. -/
def endsQuoted (c : Nat) : Bool := isSeparator c || isOneOf "'\"\\" c

/-- Reads what is no white space.  The second argument bounds the number of steps. -/
def quotedRuns (isDouble : Bool) (start : Mark) : Nat → Lex (List Nat)
  | 0 => return []
  | fuel + 1 => do
    let run ← takeWhile fun c _ => !endsQuoted c
    let c ← peek
    if !isDouble && (← atText "''") then
      forward 2
      return run ++ '\''.toNat :: (← quotedRuns isDouble start fuel)
    else if c = (if isDouble then '\'' else '"').toNat || (!isDouble && c = '\\'.toNat) then
      forward
      return run ++ c :: (← quotedRuns isDouble start fuel)
    else if isDouble && c = '\\'.toNat then
      forward
      let code ← escaped start
      return run ++ code ++ (← quotedRuns isDouble start fuel)
    else return run

/-- Reads a quoted scalar up to its closing quote.  The second argument bounds the number of
steps. -/
def quotedParts (isDouble : Bool) (start : Mark) : Nat → Lex (List Nat)
  | 0 => return []
  | fuel + 1 => do
    let run ← quotedRuns isDouble start ((← left) + 1)
    if (← peek) = (if isDouble then '"' else '\'').toNat then return run
    let between ← quotedSpaces start
    return run ++ between ++ (← quotedParts isDouble start fuel)

/-- Reads a quoted scalar. -/
def quoted (isDouble : Bool) : Lex Token := do
  let start ← mark
  forward
  let content ← quotedParts isDouble start ((← left) + 1)
  forward
  return ⟨.scalar ⟨content⟩ false, start, ← mark⟩

end WatWorkbench.Yaml.Lex
