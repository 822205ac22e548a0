import WatWorkbench.Yaml.Lexer.Block
import WatWorkbench.Yaml.Lexer.Directive
import WatWorkbench.Yaml.Lexer.Plain
import WatWorkbench.Yaml.Lexer.Quoted

/-!
# The stream of tokens

Reads tokens one after another and keeps track of indentation and of the places where keys could
have begun.

* `Lex.fetch` — reads the next token, and the beginnings and ends of collections before it.
* `Lex.next`, `Lex.take` — the next token, looked at or taken.
* `Lexer.ofDocument` — the state before a document.
-/

namespace WatWorkbench.Yaml

/-- The state before a document. -/
def Lexer.ofDocument (points : List Nat) : Lexer where
  cursor := ⟨points, {}⟩
  tokens := [⟨.streamStart, {}, {}⟩]

namespace Lex

/-! ## Keys -/

/-- Fails because a place where a key had to begin was followed by no colon. -/
def missingColon (k : SimpleKey) : Lex Unit :=
  failIn "while scanning a simple key" k.mark "could not find expected ':'"

/-- How many code points a key may have, up to its colon. -/
def maxKey : Nat := 1024

/-- Forgets the places where no key can have begun any more: those on other lines and those too far
away. -/
def forgetStaleKeys : Lex Unit := do
  let l ← get
  let place := l.cursor.mark
  let isStale (k : SimpleKey) : Bool :=
    k.mark.line ≠ place.line || maxKey < place.index - k.mark.index
  for (_, k) in l.keys do
    if isStale k && k.isRequired then missingColon k
  set { l with keys := l.keys.filter fun (_, k) => !isStale k }

/-- Forgets the place where a key could have begun among the brackets and braces that are open. -/
def forgetKey : Lex Unit := do
  let l ← get
  if let some k := l.keys.lookup l.flowLevel then
    if k.isRequired then missingColon k
  set { l with keys := l.keys.filter (·.1 ≠ l.flowLevel) }

/-- Remembers that a key could begin here. -/
def rememberKey : Lex Unit := do
  if (← get).allowsKey then
    forgetKey
    modify fun l =>
      let mark := l.cursor.mark
      let isRequired := l.flowLevel = 0 && l.indent = mark.column
      let key : SimpleKey := ⟨l.taken + l.tokens.length, isRequired, mark⟩
      { l with keys := l.keys ++ [(l.flowLevel, key)] }

/-! ## Indentation -/

/-- Adds a token to those that have been read. -/
def add (t : Token) : Lex Unit := modify fun l => { l with tokens := l.tokens ++ [t] }

/-- Adds a token without text. -/
def addHere (kind : Token.Kind) : Lex Unit := do
  let m ← mark
  add ⟨kind, m, m⟩

/-- Adds a token with as many code points as given. -/
def addNext (kind : Token.Kind) (count : Nat := 1) : Lex Unit := do
  let start ← mark
  forward count
  add ⟨kind, start, ← mark⟩

/-- Puts a token in front of the one with the given number. -/
def insertAt (number : Nat) (t : Token) : Lex Unit :=
  modify fun l => { l with tokens := l.tokens.insertIdx (number - l.taken) t }

/-- Ends the block collections that are indented more than a column.  The first argument bounds
their number. -/
def unwind (column : Int) : Nat → Lex Unit
  | 0 => return
  | fuel + 1 => do
    let l ← get
    if column < l.indent then
      set { l with indent := l.indents.headD (-1), indents := l.indents.tail }
      addHere .blockEnd
      unwind column fuel

/-- Ends the block collections that are indented more than a column, outside of brackets and
braces. -/
def unwindTo (column : Int) : Lex Unit := do
  if !(← inFlow) then unwind column ((← get).indents.length + 1)

/-- Begins a block collection at a column, if it is indented more than the current one. -/
def indentTo (column : Nat) : Lex Bool := do
  let l ← get
  if l.indent < column then
    set { l with indents := l.indent :: l.indents, indent := column }
    return true
  else return false

/-! ## Indicators -/

/-- Reads the end. -/
def streamEnd : Lex Unit := do
  unwindTo (-1)
  forgetKey
  modify fun l => { l with allowsKey := false, keys := [], isDone := true }
  addHere .streamEnd

/-- Reads something that stands at the beginning of a line and ends all collections. -/
def atMargin (read : Lex Unit) : Lex Unit := do
  unwindTo (-1)
  forgetKey
  allowKey false
  read

/-- Reads the beginning of a collection in brackets or braces. -/
def flowStart (kind : Token.Kind) : Lex Unit := do
  rememberKey
  modify fun l => { l with flowLevel := l.flowLevel + 1, allowsKey := true }
  addNext kind

/-- Reads the end of a collection in brackets or braces. -/
def flowEnd (kind : Token.Kind) : Lex Unit := do
  forgetKey
  modify fun l => { l with flowLevel := l.flowLevel - 1, allowsKey := false }
  addNext kind

/-- Reads the mark between items in brackets or braces. -/
def flowEntry : Lex Unit := do
  allowKey true
  forgetKey
  addNext .flowEntry

/-- Begins a block collection here if there is none, which is possible only where a key could
begin. -/
def beginBlock (kind : Token.Kind) (what : Text) : Lex Unit := do
  if !(← inFlow) then
    if !(← get).allowsKey then fail none (what ++ " are not allowed here")
    if ← indentTo (← column) then addHere kind

/-- Reads the mark in front of an item of a sequence. -/
def blockEntry : Lex Unit := do
  beginBlock .blockSequenceStart "sequence entries"
  allowKey true
  forgetKey
  addNext .blockEntry

/-- Reads the mark in front of a key. -/
def keyMark : Lex Unit := do
  beginBlock .blockMappingStart "mapping keys"
  allowKey (!(← inFlow))
  forgetKey
  addNext .key

/-- Reads the colon in front of a value.  If a key could have begun among the same brackets and
braces, it did. -/
def valueMark : Lex Unit := do
  let l ← get
  match l.keys.lookup l.flowLevel with
  | some k =>
    set { l with keys := l.keys.filter (·.1 ≠ l.flowLevel) }
    insertAt k.number ⟨.key, k.mark, k.mark⟩
    if !(← inFlow) then
      if ← indentTo k.mark.column then insertAt k.number ⟨.blockMappingStart, k.mark, k.mark⟩
    allowKey false
  | none =>
    beginBlock .blockMappingStart "mapping values"
    allowKey (!(← inFlow))
    forgetKey
  addNext .value

/-- Reads something that could begin a key. -/
def keyLike (read : Lex Token) : Lex Unit := do
  rememberKey
  allowKey false
  add (← read)

/-- Reads a block scalar, after which a key may begin. -/
def blockScalarLike (isFolded : Bool) : Lex Unit := do
  allowKey true
  forgetKey
  add (← block isFolded)

/-! ## Tokens -/

/-- Leaves out spaces, comments and ends of lines.  After the end of a line a key may begin, except
in brackets and braces.  The first argument bounds the number of lines. -/
def skipToToken : Nat → Lex Unit
  | 0 => return
  | fuel + 1 => do
    skipSpaces
    skipComment
    if (← lineBreak).isEmpty then return
    if !(← inFlow) then allowKey true
    skipToToken fuel

/-- Whether an indicator is followed by a separator; in brackets and braces some need not be. -/
def standsAlone (mayTouch : Bool) : Lex Bool := do
  return (mayTouch && (← inFlow)) || isSeparator (← peek 1)

/-- Whether a plain scalar begins here. -/
def atPlain : Lex Bool := do
  let c ← peek
  if !(isSeparator c || isOneOf "-?:,[]\x7b\x7d#&*!|>'\"%@`" c) then return true
  return !isSeparator (← peek 1)
    && (c = '-'.toNat || (!(← inFlow) && isOneOf "?:" c))

/-- Reads the token that begins with the given character. -/
def fetchIndicator (c : Char) : Lex Unit := do
  let isBlock := !(← inFlow)
  if c = '[' then flowStart .flowSequenceStart
  else if c = '\x7b' then flowStart .flowMappingStart
  else if c = ']' then flowEnd .flowSequenceEnd
  else if c = '\x7d' then flowEnd .flowMappingEnd
  else if c = ',' then flowEntry
  else if c = '-' && (← standsAlone false) then blockEntry
  else if c = '?' && (← standsAlone true) then keyMark
  else if c = ':' && (← standsAlone true) then valueMark
  else if c = '*' then keyLike reference
  else if c = '&' then keyLike anchor
  else if c = '!' then keyLike tag
  else if c = '|' && isBlock then blockScalarLike false
  else if c = '>' && isBlock then blockScalarLike true
  else if c = '\'' then keyLike (quoted false)
  else if c = '"' then keyLike (quoted true)
  else if ← atPlain then keyLike plain
  else
    let context : Text := "while scanning for the next token"
    fail (some (context, none)) ("found character " ++ shown (← peek) ++ " that cannot start any token")

/-- Reads the next token, and the beginnings and ends of collections before it. -/
def fetch : Lex Unit := do
  if (← mark).index = 0 && (← peek) = 0xFEFF then forward
  skipToToken ((← left) + 1)
  forgetStaleKeys
  let column ← column
  unwindTo column
  let c ← peek
  let isMargin := column = 0
  if c = 0 then streamEnd
  else if c = '%'.toNat && isMargin then atMargin do add (← directive)
  else if isMargin && (← atText "---") && isSeparator (← peek 3) then
    atMargin (addNext .documentStart 3)
  else if isMargin && (← atText "...") && isSeparator (← peek 3) then
    atMargin (addNext .documentEnd 3)
  else fetchIndicator (Char.ofNat c)

/-! ## Taking tokens -/

/-- Whether more tokens have to be read before the next one can be looked at, because there is none
or because it could still become a key. -/
def needsMore : Lex Bool := do
  let l ← get
  if l.isDone then return false
  if l.tokens.isEmpty then return true
  forgetStaleKeys
  return ((← get).keys.map (·.2.number)).min? = some l.taken

/-- Reads tokens until the next one can be looked at.  The first argument bounds their number. -/
def fill : Nat → Lex Unit
  | 0 => return
  | fuel + 1 => do
    if ← needsMore then
      fetch
      fill fuel

/-- The next token.  After the last one there are only ends. -/
def next : Lex Token := do
  fill ((← left) + 2)
  let l ← get
  return l.tokens.headD ⟨.streamEnd, l.cursor.mark, l.cursor.mark⟩

/-- Takes the next token. -/
def take : Lex Token := do
  let t ← next
  modify fun l => { l with tokens := l.tokens.tail, taken := l.taken + 1 }
  return t

end Lex

end WatWorkbench.Yaml
