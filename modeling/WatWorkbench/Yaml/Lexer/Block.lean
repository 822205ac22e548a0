import WatWorkbench.Yaml.Lexer.Basic

/-!
# Block scalars

Scalars that indentation delimits.  In a literal one the ends of lines stay, in a folded one they
become spaces between lines of text.  The header may give the indentation, and says what becomes of
the ends of lines after the text.

* `Lex.block` — reads a block scalar.
-/

namespace WatWorkbench.Yaml.Lex

/-- What is being read. -/
def blockScalar : Text := "while scanning a block scalar"

/-- What becomes of the ends of lines after the text. -/
inductive Chomping where
  /-- All of them go. -/
  | strip
  /-- One stays. -/
  | clip
  /-- All of them stay. -/
  | keep
  deriving DecidableEq

/-! ## The header -/

/-- Reads what becomes of the ends of lines, if it is there. -/
def chomping? : Lex (Option Chomping) := do
  let c ← peek
  if c = '+'.toNat then
    forward
    return some .keep
  else if c = '-'.toNat then
    forward
    return some .strip
  else return none

/-- Reads the indentation, if it is there. -/
def indentation? (start : Mark) : Lex (Option Nat) := do
  let c ← peek
  if !isDigit c then return none
  if c = '0'.toNat then
    failIn blockScalar start "expected indentation indicator in the range 1-9, but found 0"
  forward
  return some (c - '0'.toNat)

/-- Reads the indicators of a header, which may come in either order. -/
def blockIndicators (start : Mark) : Lex (Chomping × Option Nat) := do
  let first ← chomping?
  let indentation ← indentation? start
  let second ← if first.isNone && indentation.isSome then chomping? else pure none
  let c ← peek
  if !endsWord c then
    failIn blockScalar start ("expected chomping or indentation indicators, but found " ++ shown c)
  return ((first.orElse fun _ => second).getD .clip, indentation)

/-- Reads the rest of a header's line. -/
def blockHeaderEnd (start : Mark) : Lex Unit := do
  skipSpaces
  skipComment
  let c ← peek
  if !isEnd c then
    failIn blockScalar start ("expected a comment or a line break, but found " ++ shown c)
  let _ ← lineBreak

/-! ## Lines -/

/-- Reads empty lines, and gives the greatest number of spaces in them.  The first argument bounds
the number of steps. -/
def leadingLines : Nat → Nat → Lex (List Nat × Nat)
  | 0, deepest => return ([], deepest)
  | fuel + 1, deepest => do
    let c ← peek
    if isBreak c then
      let first ← lineBreak
      let (rest, deepest) ← leadingLines fuel deepest
      return (first ++ rest, deepest)
    else if c = space then
      forward
      leadingLines fuel (max deepest (← column))
    else return ([], deepest)

/-- Leaves out spaces up to a column.  The first argument bounds their number. -/
def skipIndentation (indent : Int) : Nat → Lex Unit
  | 0 => return
  | fuel + 1 => do
    if (← column) < indent && (← peek) = space then
      forward
      skipIndentation indent fuel

/-- Reads empty lines, and the indentation of the one after them.  The first argument bounds their
number. -/
def blockBreaks (indent : Int) : Nat → Lex (List Nat)
  | 0 => return []
  | fuel + 1 => do
    skipIndentation indent (← left)
    if isBreak (← peek) then
      let first ← lineBreak
      return first ++ (← blockBreaks indent fuel)
    else return []

/-- Whether the text goes on here. -/
def atBlockText (indent : Int) : Lex Bool := do
  return (← column) = indent && (← peek) ≠ 0

/-- Whether a code point is a space or a tab. -/
def isGap (c : Nat) : Bool := c = space || c = tab

/-- Reads lines of text after the empty lines before them; gives the text, the end of its last line
and the empty lines after it.  The first argument bounds the number of lines. -/
def blockLines (isFolded : Bool) (indent : Int) :
    Nat → List Nat → Lex (List Nat × List Nat × List Nat)
  | 0, breaks => return ([], [], breaks)
  | fuel + 1, breaks => do
    if !(← atBlockText indent) then return ([], [], breaks)
    let startsWithGap := isGap (← peek)
    let line ← takeWhile fun c _ => !isEnd c
    let ending ← lineBreak
    let next ← blockBreaks indent ((← left) + 1)
    if !(← atBlockText indent) then return (breaks ++ line, ending, next)
    let folds := isFolded && ending = ['\n'.toNat] && !startsWithGap && !isGap (← peek)
    let between := if !folds then ending else if next.isEmpty then [space] else []
    let (rest, ending, after) ← blockLines isFolded indent fuel next
    return (breaks ++ line ++ between ++ rest, ending, after)

/-- Reads a block scalar.  Where it ends is of no interest to anything. -/
def block (isFolded : Bool) : Lex Token := do
  let start ← mark
  forward
  let (chomping, indentation) ← blockIndicators start
  blockHeaderEnd start
  let least := max 1 ((← get).indent + 1)
  let (breaks, indent) ← match indentation with
    | some n => do
      let indent := least + n - 1
      pure (← blockBreaks indent ((← left) + 1), indent)
    | none => do
      let (breaks, deepest) ← leadingLines ((← left) + 1) 0
      pure (breaks, max least deepest)
  let (content, ending, after) ← blockLines isFolded indent ((← left) + 1) breaks
  let content := match chomping with
    | .strip => content
    | .clip => content ++ ending
    | .keep => content ++ ending ++ after
  return ⟨.scalar ⟨content⟩ false, start, ← mark⟩

end WatWorkbench.Yaml.Lex
