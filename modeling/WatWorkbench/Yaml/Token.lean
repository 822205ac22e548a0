import WatWorkbench.Yaml.Cursor

/-!
# Tokens

A document is a sequence of tokens: indicators, the beginnings and ends of collections that
indentation implies, properties of nodes, and scalars.

* `Token.Kind`, `Token` — the tokens.
* `Token.Kind.name` — how messages call them.
-/

namespace WatWorkbench.Yaml

/-- A tag as it is written: a handle that stands for the beginning of the tag, and the rest. -/
structure TagText where
  /-- The handle; there is none if the tag is written in full. -/
  handle : Option Text
  /-- The rest. -/
  suffix : Text
  deriving DecidableEq, Inhabited, Repr

/-- What a directive says. -/
inductive Directive where
  /-- The version of the format. -/
  | version (major minor : Nat)
  /-- What a tag handle stands for. -/
  | handle (name : Text) (beginning : Text)
  /-- Something unknown, which is ignored. -/
  | unknown
  deriving DecidableEq, Inhabited, Repr

/-- The kinds of tokens. -/
inductive Token.Kind where
  /-- The beginning of everything. -/
  | streamStart
  /-- The end of everything. -/
  | streamEnd
  /-- A directive. -/
  | directive (d : Directive)
  /-- The mark in front of a document. -/
  | documentStart
  /-- The mark after a document. -/
  | documentEnd
  /-- The beginning of a sequence by indentation. -/
  | blockSequenceStart
  /-- The beginning of a mapping by indentation. -/
  | blockMappingStart
  /-- The end of a collection by indentation. -/
  | blockEnd
  /-- The beginning of a sequence in brackets. -/
  | flowSequenceStart
  /-- The beginning of a mapping in braces. -/
  | flowMappingStart
  /-- The end of a sequence in brackets. -/
  | flowSequenceEnd
  /-- The end of a mapping in braces. -/
  | flowMappingEnd
  /-- The mark in front of an item of a sequence. -/
  | blockEntry
  /-- The mark between items in brackets or braces. -/
  | flowEntry
  /-- The beginning of a key. -/
  | key
  /-- The beginning of a value. -/
  | value
  /-- A reference to a node with an anchor. -/
  | reference (name : Text)
  /-- The name of a node. -/
  | anchor (name : Text)
  /-- The type of a node. -/
  | tag (t : TagText)
  /-- A scalar; one that is plain has neither quotes nor an indicator. -/
  | scalar (content : Text) (isPlain : Bool)
  deriving DecidableEq, Inhabited, Repr

/-- How messages call a kind of token. -/
def Token.Kind.name : Token.Kind → Text
  | streamStart => "<stream start>"
  | streamEnd => "<stream end>"
  | directive _ => "<directive>"
  | documentStart => "<document start>"
  | documentEnd => "<document end>"
  | blockSequenceStart => "<block sequence start>"
  | blockMappingStart => "<block mapping start>"
  | blockEnd => "<block end>"
  | flowSequenceStart => "["
  | flowMappingStart => "\x7b"
  | flowSequenceEnd => "]"
  | flowMappingEnd => "\x7d"
  | blockEntry => "-"
  | flowEntry => ","
  | key => "?"
  | value => ":"
  | reference _ => "<alias>"
  | anchor _ => "<anchor>"
  | tag _ => "<tag>"
  | scalar _ _ => "<scalar>"

/-- A token with its place. -/
structure Token where
  /-- What it is. -/
  kind : Token.Kind
  /-- Where it begins. -/
  start : Mark
  /-- Where it ends. -/
  stop : Mark
  deriving DecidableEq, Inhabited, Repr

end WatWorkbench.Yaml
