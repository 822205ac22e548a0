import WatWorkbench.Yaml.Lexer.Basic

/-!
# Plain scalars

A plain scalar has no quotes and may go on over several lines.  It ends in front of a comment, a
colon that a separator follows, or less indentation; in brackets and braces also in front of an
indicator.

* `Lex.plain` — reads a plain scalar.
-/

namespace WatWorkbench.Yaml.Lex

/-- Whether a code point, with the one after it, ends a run of a plain scalar. -/
def endsPlain (inFlow : Bool) (c following : Nat) : Bool :=
  isSeparator c
    || (c = ':'.toNat && (isSeparator following || (inFlow && isOneOf ",[]\x7b\x7d" following)))
    || (inFlow && isOneOf ",?[]\x7b\x7d" c)

/-- Reads ends of lines and spaces in front of them; `none` if a mark between documents comes.  The
first argument bounds the number of steps. -/
def plainBreaks : Nat → Lex (Option (List Nat))
  | 0 => return some []
  | fuel + 1 => do
    let c ← peek
    if c = space then
      forward
      plainBreaks fuel
    else if isBreak c then
      let first ← lineBreak
      if ← atDocumentMark then return none
      return (← plainBreaks fuel).map (first ++ ·)
    else return some []

/-- Reads what is between two runs of a plain scalar: spaces, or ends of lines, of which the first
becomes a space when it is the only one.  Nothing is between them if the scalar has ended. -/
def plainSpaces : Lex (List Nat) := do
  let spaces ← takeWhile fun c _ => c = space
  if isBreak (← peek) then
    let first ← lineBreak
    allowKey true
    if ← atDocumentMark then return []
    match ← plainBreaks (← left) with
    | none => return []
    | some breaks =>
      if first ≠ ['\n'.toNat] then return first ++ breaks
      else if breaks.isEmpty then return [space]
      else return breaks
  else return spaces

/-- Reads the runs of a plain scalar after what is between them, and gives where the last one ends.
The first argument bounds the number of runs. -/
def plainRuns (indent : Int) : Nat → List Nat → Mark → Lex (List Nat × Mark)
  | 0, _, stop => return ([], stop)
  | fuel + 1, between, stop => do
    let c ← peek
    let inFlow ← inFlow
    if c = '#'.toNat || endsPlain inFlow c (← peek 1) then return ([], stop)
    allowKey false
    let run ← takeWhile fun c following => !endsPlain inFlow c following
    let stop ← mark
    let next ← plainSpaces
    let c ← peek
    if next.isEmpty || c = '#'.toNat || (!inFlow && (← column) < indent) then
      return (between ++ run, stop)
    let (rest, stop) ← plainRuns indent fuel next stop
    return (between ++ run ++ rest, stop)

/-- Reads a plain scalar. -/
def plain : Lex Token := do
  let start ← mark
  let indent := (← get).indent + 1
  let (content, stop) ← plainRuns indent (← left) [] start
  return ⟨.scalar ⟨content⟩ true, start, stop⟩

end WatWorkbench.Yaml.Lex
