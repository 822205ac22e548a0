import WatWorkbench.Text.Classes
import WatWorkbench.Text.Utf8

/-!
# Quoted texts

The written form of a text or of octets inside a message: between quotes, with everything that
cannot be shown written as an escape.  Single quotes stand around it, unless the text holds a
single quote and no double quote.

* `Text.quoted` — the quoted form of a text.
* `Bytes.quoted` — the quoted form of octets, marked by a `b`.
-/

namespace WatWorkbench

/-- The quote that stands around these code points. -/
def Text.quoteFor (points : List Nat) : Nat :=
  if points.contains '\''.toNat && !points.contains '"'.toNat then '"'.toNat else '\''.toNat

/-- One code point inside quotes. -/
def Text.escapePoint (showable : Nat → Bool) (quote c : Nat) : Text :=
  if c = quote || c = '\\'.toNat then ⟨['\\'.toNat, c]⟩
  else if c = '\t'.toNat then "\\t"
  else if c = '\n'.toNat then "\\n"
  else if c = '\r'.toNat then "\\r"
  else if showable c then ⟨[c]⟩
  else Text.numericEscape c

/-- Code points between quotes, escaped where they are not showable. -/
def Text.quotePoints (showable : Nat → Bool) (points : List Nat) : Text :=
  let quote := Text.quoteFor points
  ⟨[quote]⟩ ++ Text.concat (points.map (Text.escapePoint showable quote)) ++ ⟨[quote]⟩

/-- The quoted form of a text. -/
def Text.quoted (t : Text) : Text := Text.quotePoints Text.isPrintable t.points

/-- The quoted form of a text with escapes for everything outside ASCII. -/
def Text.quotedAscii (t : Text) : Text :=
  Text.quotePoints (fun c => 0x20 ≤ c && c < 0x7f) t.points

/-- The quoted form of octets: `b`, then their ASCII characters and escapes between quotes. -/
def Bytes.quoted (bs : Bytes) : Text :=
  "b" ++ Text.quotePoints (fun c => 0x20 ≤ c && c < 0x7f) (bs.map (·.toNat))

end WatWorkbench
