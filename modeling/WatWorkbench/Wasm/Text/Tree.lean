import WatWorkbench.Text.Utf8

/-!
# The shape of a module's text

A module's text is a sequence of words, names and strings, grouped by parentheses, with blanks and
comments between.  Parentheses set themselves apart; anything else has to be set apart from its
neighbours, or it becomes part of a token that has no meaning.

An annotation is a group whose opening parenthesis is followed at once by the annotation's own name.
A few annotations say something about the module; the others are passed over, whatever they hold.

* `Token.scan` — the tokens of a text.
* `Tree` — a word, a name, a string or a group.
* `Tree.ofTokens?` — the grouping of tokens.
-/

namespace WatWorkbench.Wasm

/-- The smallest parts of a module's text. -/
inductive Token where
  /-- An opening parenthesis. -/
  | opening
  /-- The beginning of an annotation, with the annotation's name, if it has a proper one. -/
  | annotated (name : Option (List Char))
  /-- A closing parenthesis. -/
  | closing
  /-- A run of characters that form words. -/
  | word (cs : List Char)
  /-- A name, without the sign before it. -/
  | ident (cs : List Char)
  /-- The octets that a string stands for. -/
  | string (bs : Bytes)
  /-- Anything else that may be passed over and has no meaning. -/
  | reserved
  deriving DecidableEq, Inhabited, Repr

/-- A word, a name, a string, or a group of these in parentheses. -/
inductive Tree where
  /-- A word. -/
  | word (cs : List Char)
  /-- A name, without the sign before it. -/
  | ident (cs : List Char)
  /-- A string. -/
  | string (bs : Bytes)
  /-- A token that has no meaning. -/
  | reserved
  /-- A group. -/
  | group (ts : List Tree)
  /-- An annotation with its name. -/
  | annotated (name : List Char) (ts : List Tree)
  deriving Inhabited, Repr

namespace Token

/-! ## Characters -/

/-- Whether a character forms words. -/
def isWordChar (c : Char) : Bool :=
  c.isAlphanum || "!#$%&'*+-./:<=>?@\\^_\x60|~".toList.contains c

/-- Whether a character stands for itself and has no meaning. -/
def isReservedChar (c : Char) : Bool := ",;[]\x7b\x7d".toList.contains c

/-- Whether a character only changes the direction or the shape of those around it, so that a text
would not read as it looks. -/
def isDeceptive (c : Char) : Bool :=
  [0x202A, 0x202B, 0x202D, 0x202E, 0x2066, 0x2067, 0x2068, 0x2069, 0x206C].contains c.toNat

/-- The value of a hexadecimal digit. -/
def hexValue? (c : Char) : Option Nat :=
  if c.isDigit then some (c.toNat - '0'.toNat)
  else if 'a' ≤ c && c ≤ 'f' then some (c.toNat - 'a'.toNat + 10)
  else if 'A' ≤ c && c ≤ 'F' then some (c.toNat - 'A'.toNat + 10)
  else none

/-! ## Comments and strings -/

/-- What follows a comment in parentheses, of which `depth` more are open around this one. -/
def skipComment (depth : Nat) : List Char → Option (List Char)
  | '(' :: ';' :: cs => skipComment (depth + 1) cs
  | ';' :: ')' :: cs =>
    match depth with
    | 0 => some cs
    | d + 1 => skipComment d cs
  | c :: cs => if isDeceptive c then none else skipComment depth cs
  | [] => none

/-- The number that hexadecimal digits up to a closing brace spell, with underscores after digits,
but not at the end, and what follows. -/
def bracedNumber (value : Nat) (hasDigit endsInDigit : Bool) : List Char → Option (Nat × List Char)
  | '\x7d' :: cs => if endsInDigit then some (value, cs) else none
  | '_' :: cs => if hasDigit then bracedNumber value true false cs else none
  | c :: cs =>
    match hexValue? c with
    | some d => if value < 0x110000 then bracedNumber (16 * value + d) true true cs else none
    | none => none
  | [] => none

/-- The octets of an escape, after its backslash, and what follows. -/
def escape : List Char → Option (Bytes × List Char)
  | 't' :: cs => some ([0x09], cs)
  | 'n' :: cs => some ([0x0A], cs)
  | 'r' :: cs => some ([0x0D], cs)
  | '"' :: cs => some ([0x22], cs)
  | '\'' :: cs => some ([0x27], cs)
  | '\\' :: cs => some ([0x5C], cs)
  | 'u' :: '\x7b' :: cs => do
    let (n, rest) ← bracedNumber 0 false false cs
    if n.isValidChar then some (Utf8.encodePoint n, rest) else none
  | a :: b :: cs => do
    let high ← hexValue? a
    let low ← hexValue? b
    some ([(16 * high + low).toUInt8], cs)
  | _ => none

/-- The octets of a string, after its opening quote, and what follows its closing one.  The first
argument bounds the number of steps, the second holds the octets so far, last first. -/
def string? : Nat → Bytes → List Char → Option (Bytes × List Char)
  | 0, _, _ => none
  | fuel + 1, done, cs =>
    match cs with
    | [] => none
    | '"' :: cs => some (done.reverse, cs)
    | '\\' :: cs => do
      let (bs, rest) ← escape cs
      string? fuel (bs.reverse ++ done) rest
    | c :: cs =>
      if c.toNat < 0x20 || c.toNat = 0x7F || isDeceptive c then none
      else string? fuel ((Utf8.encodePoint c.toNat).reverse ++ done) cs

/-! ## Runs

Words and strings with nothing between them form a run, which is one token.
-/

/-- A part of a run. -/
inductive Piece where
  /-- Characters that form words. -/
  | chars (cs : List Char)
  /-- A string. -/
  | string (bs : Bytes)

/-- The run that comes next, and what follows.  The first argument bounds the number of parts. -/
def run : Nat → List Char → Option (List Piece × List Char)
  | 0, _ => none
  | fuel + 1, cs =>
    match cs with
    | '"' :: rest => do
      let (bs, rest) ← string? (rest.length + 1) [] rest
      let (pieces, rest) ← run fuel rest
      return (.string bs :: pieces, rest)
    | c :: _ =>
      if isWordChar c then do
        let (pieces, rest) ← run fuel (cs.dropWhile isWordChar)
        return (.chars (cs.takeWhile isWordChar) :: pieces, rest)
      else some ([], cs)
    | [] => some ([], [])

/-- The characters of a name that is given as a string; it may not be empty. -/
def quotedName? (bs : Bytes) : Option (List Char) :=
  match Text.decode bs with
  | .ok t => if t.isEmpty then none else some t.toChars
  | .error _ => none

/-- The token that a run is. -/
def ofRun : List Piece → Token
  | [.string bs] => string bs
  | [.chars ('$' :: c :: cs)] => ident (c :: cs)
  | [.chars ['$'], .string bs] =>
    match quotedName? bs with
    | some cs => ident cs
    | none => reserved
  | [.chars cs] => word cs
  | _ => reserved

/-- The name of an annotation that begins with a run. -/
def annotationName? : List Piece → Option (List Char)
  | [.chars ('@' :: c :: cs)] => some (c :: cs)
  | [.chars ['@'], .string bs] => quotedName? bs
  | .chars ('@' :: c :: cs) :: _ => some (c :: cs ++ ['"'])
  | _ => none

/-! ## Tokens -/

/-- The tokens of a text after those already found, last first.  The first argument bounds the
number of steps. -/
def scanFrom : Nat → List Token → List Char → Option (List Token)
  | 0, _, _ => none
  | fuel + 1, done, cs =>
    match cs with
    | [] => some done.reverse
    | '(' :: ';' :: cs => do scanFrom fuel done (← skipComment 0 cs)
    | '(' :: '@' :: rest => do
      let (pieces, rest) ← run (rest.length + 2) ('@' :: rest)
      scanFrom fuel (annotated (annotationName? pieces) :: done) rest
    | '(' :: cs => scanFrom fuel (opening :: done) cs
    | ')' :: cs => scanFrom fuel (closing :: done) cs
    | ';' :: ';' :: cs =>
      let inside c := c ≠ '\n' && c ≠ '\r'
      if (cs.takeWhile inside).any isDeceptive then none
      else scanFrom fuel done (cs.dropWhile inside)
    | c :: rest =>
      if c = ' ' || c = '\t' || c = '\n' || c = '\r' then scanFrom fuel done rest
      else if isWordChar c || c = '"' then do
        let (pieces, rest) ← run (cs.length + 1) cs
        scanFrom fuel (ofRun pieces :: done) rest
      else if isReservedChar c then scanFrom fuel (reserved :: done) rest
      else none

/-- The tokens of a text. -/
def scan (cs : List Char) : Option (List Token) := scanFrom (cs.length + 1) [] cs

end Token

namespace Tree

/-- The annotations that say something about a module. -/
def knownAnnotations : List String :=
  ["custom", "producers", "name", "dylink.0", "metadata.code.branch_hint"]

/-- A group, or an annotation if it has a name. -/
def ofMembers (title : Option (List Char)) (ts : List Tree) : Tree :=
  match title with
  | some name => .annotated name ts
  | none => group ts

/-- Groups tokens.  The first argument holds the groups around the one under way, the innermost first,
each with the name of the annotation that the next one is, if it is one; the second one holds the
members of the one under way; all last first.  The third argument is how many groups are open that are
passed over. -/
def build : List (Option (List Char) × List Tree) → List Tree → Nat → List Token →
    Option (List Tree)
  | [], level, 0, [] => some level.reverse
  | _, _, _, [] => none
  | outer, level, skipped + 1, t :: ts =>
    match t with
    | .opening | .annotated _ => build outer level (skipped + 2) ts
    | .closing => build outer level skipped ts
    | _ => build outer level (skipped + 1) ts
  | outer, level, 0, .opening :: ts => build ((none, level) :: outer) [] 0 ts
  | outer, level, 0, .annotated name? :: ts =>
    match name? with
    | none => none
    | some name =>
      if knownAnnotations.any (·.toList = name) then build ((some name, level) :: outer) [] 0 ts
      else build outer level 1 ts
  | [], _, 0, .closing :: _ => none
  | (title, parent) :: outer, level, 0, .closing :: ts =>
    build outer (ofMembers title level.reverse :: parent) 0 ts
  | outer, level, 0, .word cs :: ts => build outer (word cs :: level) 0 ts
  | outer, level, 0, .ident cs :: ts => build outer (ident cs :: level) 0 ts
  | outer, level, 0, .string bs :: ts => build outer (string bs :: level) 0 ts
  | outer, level, 0, .reserved :: ts => build outer (reserved :: level) 0 ts

/-- The trees that tokens form, if every parenthesis has its partner. -/
def ofTokens? (ts : List Token) : Option (List Tree) := build [] [] 0 ts

/-- The trees of a text, which may not consist of blanks and comments alone. -/
def ofChars? (cs : List Char) : Option (List Tree) := do
  let tokens ← Token.scan cs
  if tokens.isEmpty then none else ofTokens? tokens

mutual

/-- The number of words, strings and groups in a tree. -/
def size : Tree → Nat
  | group ts | annotated _ ts => sizeAll ts + 1
  | _ => 1

/-- The number of words, strings and groups in trees. -/
def sizeAll : List Tree → Nat
  | [] => 0
  | t :: ts => size t + sizeAll ts

end

end Tree

end WatWorkbench.Wasm
