import WatWorkbench.Yaml.Lexer.Property

/-!
# Directives

Lines in front of a document that give the version of the format or say what a tag handle stands
for.  Unknown directives are ignored.

* `Lex.directive` — reads a directive.
-/

namespace WatWorkbench.Yaml.Lex

/-- What is being read. -/
def readingDirective : Text := "while scanning a directive"

/-- Reads the name of a directive. -/
def directiveName (start : Mark) : Lex Text := do
  let name ← takeWhile fun c _ => isWord c
  let c ← peek
  if name.isEmpty || !endsWord c then
    failIn readingDirective start
      ("expected alphabetic or numeric character, but found " ++ shown c)
  return ⟨name⟩

/-- Reads a number of a version.  Zeros in front count among its digits, of which there may not be
too many. -/
def versionNumber (start : Mark) : Lex Nat := do
  let digits ← takeWhile fun c _ => isDigit c
  if digits.isEmpty then
    failIn readingDirective start ("expected a digit, but found " ++ shown (← peek))
  if Numeral.digitLimit < digits.length then
    throw (.escaped (Fault.tooManyDigits digits.length))
  return Numeral.ofDigits 10 (digits.map Char.ofNat)

/-- Reads a version. -/
def version (start : Mark) : Lex Directive := do
  skipSpaces
  let major ← versionNumber start
  let c ← peek
  if c ≠ '.'.toNat then
    failIn readingDirective start ("expected a digit or '.', but found " ++ shown c)
  forward
  let minor ← versionNumber start
  let c ← peek
  if !endsWord c then
    failIn readingDirective start ("expected a digit or ' ', but found " ++ shown c)
  return .version major minor

/-- Reads what a tag handle stands for. -/
def handleMeaning (start : Mark) : Lex Directive := do
  skipSpaces
  let handle ← tagHandle .directive start
  let c ← peek
  if c ≠ space then failIn readingDirective start ("expected ' ', but found " ++ shown c)
  skipSpaces
  let beginning ← tagUri .directive start
  let c ← peek
  if !endsWord c then failIn readingDirective start ("expected ' ', but found " ++ shown c)
  return .handle handle beginning

/-- Reads the rest of a directive's line. -/
def directiveEnd (start : Mark) : Lex Unit := do
  skipSpaces
  skipComment
  let c ← peek
  if !isEnd c then
    failIn readingDirective start ("expected a comment or a line break, but found " ++ shown c)
  let _ ← lineBreak

/-- Reads a directive. -/
def directive : Lex Token := do
  let start ← mark
  forward
  let name ← directiveName start
  let d ← if name = "YAML" then version start
    else if name = "TAG" then handleMeaning start
    else do
      skipWhile (!isEnd ·)
      pure .unknown
  let stop ← mark
  directiveEnd start
  return ⟨.directive d, start, stop⟩

end WatWorkbench.Yaml.Lex
