import WatWorkbench.Text.Utf8

/-!
# Entries of archives

An archive holds entries one after another and, at its end, a directory that describes them again.

* `Archive.Entry` — an entry as the directory describes it.
* `Archive.decodeName` — names of entries as texts.
-/

namespace WatWorkbench.Archive

/-- An entry as the directory describes it. -/
structure Entry where
  /-- Its name. -/
  name : Text
  /-- The version of the format it was written for, times ten. -/
  createVersion : Nat := 20
  /-- The system it was written on. -/
  createSystem : Nat := 3
  /-- The version of the format that reading needs, times ten. -/
  extractVersion : Nat := 20
  /-- Single bits that say how it is written. -/
  flags : Nat := 0
  /-- How it is compressed. -/
  method : Nat
  /-- The time of day. -/
  time : Nat := 0
  /-- The day. -/
  date : Nat
  /-- The check sum of its octets. -/
  crc : Nat
  /-- How many octets it has in the archive. -/
  compressedSize : Nat
  /-- How many octets it has. -/
  size : Nat
  /-- Further data. -/
  extra : Bytes := []
  /-- A remark. -/
  comment : Bytes := []
  /-- The permissions of the file, and what kind it is. -/
  externalAttributes : Nat
  /-- Where it begins in the archive. -/
  offset : Int
  deriving DecidableEq, Inhabited, Repr

/-- How entries are compressed that are not. -/
def stored : Nat := 0

/-- How entries are compressed in the DEFLATE format. -/
def deflated : Nat := 8

/-- How entries are compressed in the bzip2 format. -/
def blockSorted : Nat := 12

/-- How entries are compressed in the LZMA format. -/
def rangeCoded : Nat := 14

/-- What an entry in an archive begins with. -/
def entryMark : Bytes := [0x50, 0x4B, 3, 4]

/-- What an entry in the directory begins with. -/
def directoryMark : Bytes := [0x50, 0x4B, 1, 2]

/-- What the end of an archive begins with. -/
def endMark : Bytes := [0x50, 0x4B, 5, 6]

/-- What an end with wide numbers begins with. -/
def wideEndMark : Bytes := [0x50, 0x4B, 6, 6]

/-- What comes before the end if there is one with wide numbers. -/
def locatorMark : Bytes := [0x50, 0x4B, 6, 7]

/-- The flag of names in UTF-8. -/
def utf8Flag : Nat := 0x800

/-- Whether the bits of a flag are set. -/
def hasFlag (flags flag : Nat) : Bool := flags &&& flag ≠ 0

/-! ## Names -/

/-- The characters of the octets from 128 on, in names that are not in UTF-8. -/
def upperCharacters : Array Char :=
  (String.join [
    "ÇüéâäàåçêëèïîìÄÅ",
    "ÉæÆôöòûùÿÖÜ¢£¥₧ƒ",
    "áíóúñÑªº¿⌐¬½¼¡«»",
    "░▒▓│┤╡╢╖╕╣║╗╝╜╛┐",
    "└┴┬├─┼╞╟╚╔╩╦╠═╬╧",
    "╨╤╥╙╘╒╓╫╪┘┌█▄▌▐▀",
    "αßΓπΣσµτΦΘΩδ∞φε∩",
    "≡±≥≤⌠⌡÷≈°∙·√ⁿ²■\u00a0"]).toList.toArray

/-- The code point of an octet in names that are not in UTF-8. -/
def namePoint (b : UInt8) : Nat :=
  if b < 128 then b.toNat else (upperCharacters.getD (b.toNat - 128) ' ').toNat

/-- The text of a name, in UTF-8 if the flags say so. -/
def decodeName (flags : Nat) (bs : Bytes) : Except DecodeFault Text :=
  if hasFlag flags utf8Flag then Text.decode bs else .ok ⟨bs.map namePoint⟩

/-- A name up to the first zero. -/
def visibleName (name : Text) : Text := ⟨name.points.takeWhile (· ≠ 0)⟩

end WatWorkbench.Archive
