/-!
# Texts

A text is a finite sequence of Unicode code points.  It differs from `String` in one respect that
this library needs everywhere: a text may hold an *unpaired surrogate*, a code point that no
character has and that UTF-8 cannot encode.  Sources, messages and file names come from outside
and may contain one, and what the program does then is part of its behaviour.

* `Text` — the type, a list of code points under a name of its own.
* `Text.ofString`, `Text.toString?` — the passage from and to `String`; the latter fails exactly
  on texts with a surrogate.
* `Text.decimal`, `Text.integer` — numbers in base ten.
* `Text.splitOn`, `Text.join`, `Text.replace`, `Text.trimBy` — the usual operations.
-/

namespace WatWorkbench

/-- A sequence of Unicode code points, unpaired surrogates included. -/
structure Text where
  /-- The code points, first to last. -/
  points : List Nat
  deriving DecidableEq, Inhabited, Repr

namespace Text

/-- The text of a string: its characters' code points. -/
def ofString (s : String) : Text := ⟨s.toList.map (·.toNat)⟩

instance : Coe String Text := ⟨ofString⟩

/-- The text of a list of characters. -/
def ofChars (cs : List Char) : Text := ⟨cs.map (·.toNat)⟩

/-- The text with no code point. -/
def empty : Text := ⟨[]⟩

instance : Append Text := ⟨fun a b => ⟨a.points ++ b.points⟩⟩

@[simp] theorem points_append (a b : Text) : (a ++ b).points = a.points ++ b.points := rfl

/-- The number of code points. -/
def length (t : Text) : Nat := t.points.length

/-- Whether the text has no code point. -/
def isEmpty (t : Text) : Bool := t.points.isEmpty

/-- Texts are ordered by their code points, first difference first. -/
def lt (a b : Text) : Bool := decide (a.points < b.points)

/-! ## Surrogates -/

/-- The code points set aside for pairs of 16-bit units; alone, one stands for no character. -/
def isSurrogate (c : Nat) : Bool := 0xD800 ≤ c && c ≤ 0xDFFF

/-- Whether the text holds a surrogate. -/
def hasSurrogate (t : Text) : Bool := t.points.any isSurrogate

/-- The characters of a text, when every code point is one. -/
def toChars? (t : Text) : Option (List Char) :=
  t.points.mapM fun c => if h : c.isValidChar then some (Char.ofNatAux c h) else none

/-- The text as a string, when every code point is a character. -/
def toString? (t : Text) : Option String := t.toChars?.map String.ofList

/-- The text as a list of characters, with U+FFFD for what is none.  For output channels that
carry characters only. -/
def toChars (t : Text) : List Char :=
  t.points.map fun c => if h : c.isValidChar then Char.ofNatAux c h else '\ufffd'

/-! ## Numbers -/

/-- A natural number in base ten. -/
def decimal (n : Nat) : Text := ofChars (Nat.toDigits 10 n)

/-- An integer in base ten, with a minus sign when it is negative. -/
def integer (i : Int) : Text :=
  if i < 0 then ofString "-" ++ decimal i.natAbs else decimal i.natAbs

/-- A natural number in a base up to sixteen, in lower case. -/
def inBase (base n : Nat) : Text := ofChars (Nat.toDigits base n)

/-- The text, with `fill` put before it until it has at least `width` code points. -/
def padLeft (fill : Nat) (width : Nat) (t : Text) : Text :=
  ⟨List.replicate (width - t.length) fill ++ t.points⟩

/-- The text, with `fill` put after it until it has at least `width` code points. -/
def padRight (fill : Nat) (width : Nat) (t : Text) : Text :=
  ⟨t.points ++ List.replicate (width - t.length) fill⟩

/-- The escape of a code point by its number: two, four or eight digits. -/
def numericEscape (c : Nat) : Text :=
  let digits width := padLeft '0'.toNat width (inBase 16 c)
  if c < 0x100 then "\\x" ++ digits 2
  else if c < 0x10000 then "\\u" ++ digits 4
  else "\\U" ++ digits 8

/-! ## Parts -/

/-- The first `n` code points. -/
def take (n : Nat) (t : Text) : Text := ⟨t.points.take n⟩

/-- All but the first `n` code points. -/
def drop (n : Nat) (t : Text) : Text := ⟨t.points.drop n⟩

/-- Whether `t` begins with `p`. -/
def startsWith (t p : Text) : Bool := p.points.isPrefixOf t.points

/-- Whether `t` ends with `p`. -/
def endsWith (t p : Text) : Bool := p.points.isSuffixOf t.points

/-- The text without the code points at both ends that satisfy `p`. -/
def trimBy (p : Nat → Bool) (t : Text) : Text :=
  ⟨((t.points.dropWhile p).reverse.dropWhile p).reverse⟩

/-- Whether the code point occurs in the text. -/
def contains (t : Text) (c : Nat) : Bool := t.points.contains c

/-- The pieces between the occurrences of one code point; there is one more than occurrences. -/
def splitOn (c : Nat) (t : Text) : List Text :=
  go t.points
where
  /-- Splits a list, keeping the piece under way at the head of the result. -/
  go : List Nat → List Text
    | [] => [⟨[]⟩]
    | x :: xs =>
      match go xs with
      | [] => [⟨[x]⟩]
      | p :: ps => if x == c then ⟨[]⟩ :: p :: ps else ⟨x :: p.points⟩ :: ps

/-- The pieces between the occurrences of a text, from the left; there is one more than
occurrences. -/
def splitBy (t pattern : Text) : List Text :=
  if pattern.isEmpty then [t] else go t.points 0
where
  /-- `skip` counts the code points of the current occurrence that are still to be passed. -/
  go : List Nat → Nat → List Text
    | [], _ => [⟨[]⟩]
    | _ :: xs, skip + 1 => go xs skip
    | x :: xs, 0 =>
      if pattern.points.isPrefixOf (x :: xs) then ⟨[]⟩ :: go xs (pattern.length - 1)
      else match go xs 0 with
        | [] => [⟨[x]⟩]
        | p :: ps => ⟨x :: p.points⟩ :: ps

/-- The texts one after another, with `sep` between neighbours. -/
def join (sep : Text) (ts : List Text) : Text := ⟨sep.points.intercalate (ts.map points)⟩

/-- The texts one after another. -/
def concat (ts : List Text) : Text := ⟨ts.flatMap points⟩

/-- Replaces every occurrence of `pattern`, scanning from the left and never looking inside an
occurrence again.  An empty pattern occurs nowhere. -/
def replace (t pattern replacement : Text) : Text :=
  if pattern.isEmpty then t else ⟨go t.points 0⟩
where
  /-- `skip` counts the code points of the current occurrence that are still to be passed. -/
  go : List Nat → Nat → List Nat
    | [], _ => []
    | _ :: xs, skip + 1 => go xs skip
    | x :: xs, 0 =>
      if pattern.points.isPrefixOf (x :: xs)
      then replacement.points ++ go xs (pattern.length - 1)
      else x :: go xs 0

end Text

end WatWorkbench
