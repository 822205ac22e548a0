import WatWorkbench.Yaml.Lexer.Basic

/-!
# Properties of nodes

Anchors, references to them, and tags.  A tag may be written in full between angle brackets, or with
a handle; octets may be given in it by their numbers.

* `Lex.anchor`, `Lex.reference` — read an anchor and a reference.
* `Lex.tag` — reads a tag.
* `Lex.tagHandle`, `Lex.tagUri` — the parts of tags, which directives have as well.
-/

namespace WatWorkbench.Yaml.Lex

/-! ## Anchors -/

/-- Reads the name of an anchor after its indicator. -/
def anchorName (context : Text) : Lex Text := do
  let start ← mark
  let expected (c : Nat) : Text :=
    "expected alphabetic or numeric character, but found " ++ shown c
  forward
  let name ← takeWhile fun c _ => isWord c
  let c ← peek
  if name.isEmpty || !(isSeparator c || isOneOf "?:,]\x7d%@`" c) then
    failIn context start (expected c)
  return ⟨name⟩

/-- Reads an anchor. -/
def anchor : Lex Token := do
  let start ← mark
  return ⟨.anchor (← anchorName "while scanning an anchor"), start, ← mark⟩

/-- Reads a reference to an anchor. -/
def reference : Lex Token := do
  let start ← mark
  return ⟨.reference (← anchorName "while scanning an alias"), start, ← mark⟩

/-! ## Tags -/

/-- What a part of a tag belongs to. -/
inductive TagOwner where
  /-- A node. -/
  | node
  /-- A directive. -/
  | directive

/-- How messages call it. -/
def TagOwner.name : TagOwner → Text
  | .node => "tag"
  | .directive => "directive"

/-- What is being read. -/
def TagOwner.scanning (o : TagOwner) : Text := "while scanning a " ++ o.name

/-- Reads a tag handle: an exclamation mark, or a word between two of them. -/
def tagHandle (owner : TagOwner) (start : Mark) : Lex Text := do
  let expected (c : Nat) : Text := "expected '!', but found " ++ shown c
  let c ← peek
  if c ≠ '!'.toNat then failIn owner.scanning start (expected c)
  if (← peek 1) = space then
    forward
    return "!"
  forward
  let word ← takeWhile fun c _ => isWord c
  let c ← peek
  if c ≠ '!'.toNat then failIn owner.scanning start (expected c)
  forward
  return "!" ++ ⟨word⟩ ++ "!"

/-- Whether a code point may stand in a tag by itself. -/
def isUri (c : Nat) : Bool := isWord c || isOneOf ";/?:@&=+$,.!~*'()[]" c

/-- Reads octets that are given by their numbers.  The third argument bounds how many there
are. -/
def uriOctets (owner : TagOwner) (start : Mark) : Nat → Lex Bytes
  | 0 => return []
  | fuel + 1 => do
    if (← peek) ≠ '%'.toNat then return []
    forward
    let digits ← ahead 2
    if let some c := notHex? 2 digits then
      failIn owner.scanning start
        ("expected URI escape sequence of 2 hexadecimal numbers, but found " ++ shown c)
    forward 2
    return (hexNumber digits).toUInt8 :: (← uriOctets owner start fuel)

/-- Reads octets that are given by their numbers, as code points. -/
def uriEscapes (owner : TagOwner) (start : Mark) : Lex (List Nat) := do
  let place ← mark
  match Text.decode (← uriOctets owner start (← left)) with
  | .ok t => return t.points
  | .error f => throw (.wrong (some (owner.scanning, some start)) f.message place)

/-- Reads the parts of a tag after its handle.  The third argument bounds their number. -/
def uriParts (owner : TagOwner) (start : Mark) : Nat → Lex (List Nat)
  | 0 => return []
  | fuel + 1 => do
    let run ← takeWhile fun c _ => isUri c
    if (← peek) = '%'.toNat then
      let code ← uriEscapes owner start
      return run ++ code ++ (← uriParts owner start fuel)
    else return run

/-- Reads a tag after its handle.  There has to be something. -/
def tagUri (owner : TagOwner) (start : Mark) : Lex Text := do
  let first ← peek
  let parts ← uriParts owner start ((← left) + 1)
  if !isUri first && first ≠ '%'.toNat then
    failIn ("while parsing a " ++ owner.name) start ("expected URI, but found " ++ shown first)
  return ⟨parts⟩

/-- Whether an exclamation mark comes before the end of the word. -/
def hasHandle : List Nat → Bool
  | [] => false
  | c :: cs => if endsWord c then false else c = '!'.toNat || hasHandle cs

/-- Reads the text of a tag. -/
def tagText (start : Mark) : Lex TagText := do
  let c ← peek 1
  if c = '<'.toNat then
    forward 2
    let suffix ← tagUri .node start
    let c ← peek
    if c ≠ '>'.toNat then
      failIn "while parsing a tag" start ("expected '>', but found " ++ shown c)
    forward
    return ⟨none, suffix⟩
  else if isSeparator c then
    forward
    return ⟨none, "!"⟩
  else if hasHandle ((← get).cursor.rest.drop 1) then
    let handle ← tagHandle .node start
    return ⟨some handle, ← tagUri .node start⟩
  else
    forward
    return ⟨some "!", ← tagUri .node start⟩

/-- Reads a tag. -/
def tag : Lex Token := do
  let start ← mark
  let t ← tagText start
  let c ← peek
  if !endsWord c then
    failIn "while scanning a tag" start ("expected ' ', but found " ++ shown c)
  return ⟨.tag t, start, ← mark⟩

end WatWorkbench.Yaml.Lex
