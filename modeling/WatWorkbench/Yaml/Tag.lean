import WatWorkbench.Text.Pattern
import WatWorkbench.Yaml.Timestamp

/-!
# Tags

A tag says what type a node has.  Some tags are known; a plain scalar without a tag gets one of them
by its spelling.

* `Tag` — tags, with `Tag.ofText` and `Tag.text`.
* `Tag.ofPlain` — the tag of a plain scalar by its spelling.
-/

namespace WatWorkbench.Yaml

/-- A known type of a node. -/
inductive CoreTag where
  /-- Nothing. -/
  | null
  /-- A truth value. -/
  | bool
  /-- An integer. -/
  | int
  /-- A number of double precision. -/
  | float
  /-- Octets in base 64. -/
  | binary
  /-- A day or a point in time. -/
  | timestamp
  /-- A mapping whose pairs are in order. -/
  | omap
  /-- Pairs. -/
  | pairs
  /-- A set. -/
  | set
  /-- A text. -/
  | str
  /-- A sequence. -/
  | seq
  /-- A mapping. -/
  | map
  /-- A key whose value is merged into its mapping. -/
  | merge
  /-- A key whose value stands for its mapping. -/
  | value
  deriving DecidableEq, Inhabited, Repr

namespace CoreTag

/-- All known types. -/
def all : List CoreTag :=
  [null, bool, int, float, binary, timestamp, omap, pairs, set, str, seq, map, merge, value]

/-- The name of a known type. -/
def name : CoreTag → Text
  | null => "null"
  | bool => "bool"
  | int => "int"
  | float => "float"
  | binary => "binary"
  | timestamp => "timestamp"
  | omap => "omap"
  | pairs => "pairs"
  | set => "set"
  | str => "str"
  | seq => "seq"
  | map => "map"
  | merge => "merge"
  | value => "value"

end CoreTag

/-- The type of a node. -/
inductive Tag where
  /-- A known one. -/
  | core (t : CoreTag)
  /-- Any other. -/
  | other (t : Text)
  deriving DecidableEq, Inhabited, Repr

namespace Tag

/-- How the tags of known types begin. -/
def beginning : Text := "tag:yaml.org,2002:"

/-- A tag in full. -/
def text : Tag → Text
  | core t => beginning ++ t.name
  | other t => t

/-- The tag that a text is. -/
def ofText (t : Text) : Tag :=
  match CoreTag.all.find? fun k => beginning ++ k.name = t with
  | some k => core k
  | none => other t

/-! ## Spellings -/

open Pattern

/-- A decimal digit. -/
def digit : Pattern := range '0' '9'

/-- Decimal digits with underscores between and after them. -/
def digits : Pattern := seq digit (star (alt digit (chars "_")))

/-- Decimal digits and underscores. -/
def fraction : Pattern := star (alt digit (chars "_"))

/-- A sign. -/
def sign : Pattern := opt (chars "+-")

/-- An exponent of ten with its sign. -/
def exponent : Pattern := sequence [chars "eE", chars "+-", plus digit]

/-- Further places in base sixty. -/
def sixtieths : Pattern := plus (sequence [chars ":", opt (range '0' '5'), digit])

/-- A word in lower case, with a capital or in capitals. -/
def cased (lower capital upper : String) : Pattern := choice [word lower, word capital, word upper]

/-- How truth values are spelled. -/
def boolSpelling : Pattern :=
  choice [cased "yes" "Yes" "YES", cased "no" "No" "NO", cased "true" "True" "TRUE",
    cased "false" "False" "FALSE", cased "on" "On" "ON", cased "off" "Off" "OFF"]

/-- How numbers of double precision are spelled. -/
def floatSpelling : Pattern :=
  choice
    [ sequence [sign, digits, chars ".", fraction, opt exponent],
      sequence [chars ".", digits, opt exponent],
      sequence [sign, digits, sixtieths, chars ".", fraction],
      sequence [sign, chars ".", cased "inf" "Inf" "INF"],
      sequence [chars ".", cased "nan" "NaN" "NAN"] ]

/-- How integers are spelled. -/
def intSpelling : Pattern :=
  let positive := seq (range '1' '9') fraction
  let hexadecimal := choice [digit, range 'a' 'f', range 'A' 'F', chars "_"]
  seq sign (choice
    [ seq (word "0b") (plus (chars "01_")),
      seq (word "0") (plus (alt (range '0' '7') (chars "_"))),
      word "0",
      positive,
      seq (word "0x") (plus hexadecimal),
      seq positive sixtieths ])

/-- How the key of what is merged is spelled. -/
def mergeSpelling : Pattern := word "<<"

/-- How nothing is spelled. -/
def nullSpelling : Pattern := choice [chars "~", cased "null" "Null" "NULL", empty]

/-- How the key of what stands for a mapping is spelled. -/
def valueSpelling : Pattern := chars "="

/-- A text without the end of a line at its end, unless it is nothing else. -/
def withoutFinalBreak (t : Text) : Text :=
  if t.endsWith "\n" && 1 < t.length then t.take (t.length - 1) else t

/-- Whether a text is spelled like a timestamp.  A day alone has two digits for the month and two for
the day. -/
def isTimestamp (t : Text) : Bool :=
  match Timestamp.ofPoints? t.points with
  | some s => s.time.isSome || s.isPadded
  | none => false

/-- The tag of a plain scalar by its spelling. -/
def ofPlain (t : Text) : Tag :=
  let isSpelled (p : Pattern) : Bool := p.accepts (withoutFinalBreak t)
  core (if isSpelled boolSpelling then .bool
    else if isSpelled floatSpelling then .float
    else if isSpelled intSpelling then .int
    else if isSpelled mergeSpelling then .merge
    else if isSpelled nullSpelling then .null
    else if isTimestamp t then .timestamp
    else if isSpelled valueSpelling then .value
    else .str)

end Tag

end WatWorkbench.Yaml
