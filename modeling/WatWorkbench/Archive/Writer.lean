import WatWorkbench.Archive.Crc32
import WatWorkbench.Archive.Deflate
import WatWorkbench.Archive.Entry
import WatWorkbench.Number.LittleEndian

/-!
# Writing archives

Entries, the directory and the end.  Every entry carries the same date and the same permissions, so
that equal contents give equal archives.  How contents are compressed can be chosen, as long as the
outcome is in the DEFLATE format.

Numbers that pass the narrow limit are wide: all bits of their own field are set, and they stand
elsewhere in eight octets, those of an entry in its further data and those of the end before it.

* `Archive.placed` — the entries of contents, one behind the other.
* `Archive.write` — the archive of named contents.
-/

namespace WatWorkbench.Archive

open LittleEndian

/-! ## Entries -/

/-- The earliest day that the format can represent, 1980-01-01: months and days from one. -/
def firstDay : Nat := 1 * 32 + 1

/-- A file that its owner may change and everybody may read. -/
def filePermissions : Nat := 0o100644 * 0x10000

/-- The greatest number that is not wide. -/
def narrowLimit : Nat := 0x7FFFFFFF

/-- Whether contents are so large that both of their sizes may have to be wide: compressing may add
a twentieth. -/
def isLarge (size : Nat) : Bool := 100 * narrowLimit < 105 * size

/-- The version of the format that has wide numbers, times ten. -/
def wideVersion : Nat := 45

/-- What stands in the field of four octets of a wide number. -/
def elsewhere : Nat := 0xFFFFFFFF

/-- Further data that hold wide numbers, if there are any. -/
def wideData : List Nat → Bytes
  | [] => []
  | ns => ofNat 2 1 ++ ofNat 2 (8 * ns.length) ++ ns.flatMap (ofNat 8)

/-- The entry of contents at an offset. -/
def describe (name : Text) (contents packed : Bytes) (offset : Nat) : Entry where
  name := name
  createVersion := if isLarge contents.length then wideVersion else 20
  extractVersion := if isLarge contents.length then wideVersion else 20
  method := deflated
  date := firstDay
  crc := (Crc32.ofBytes contents).toNat
  compressedSize := packed.length
  size := contents.length
  externalAttributes := filePermissions
  offset := offset

/-- The entry as it stands before its contents. -/
def Entry.inPlace (e : Entry) : Entry :=
  if isLarge e.size then
    { e with
      compressedSize := elsewhere
      size := elsewhere
      extra := wideData [e.size, e.compressedSize] }
  else e

/-- The entry as it stands in the directory. -/
def Entry.inDirectory (e : Entry) : Entry :=
  let areWide := narrowLimit < e.size || narrowLimit < e.compressedSize
  let sizes := if areWide then [e.size, e.compressedSize] else []
  let offsets := if narrowLimit < e.offset.toNat then [e.offset.toNat] else []
  let version := if (sizes ++ offsets).isEmpty then 0 else wideVersion
  { e with
    createVersion := max version e.createVersion
    extractVersion := max version e.extractVersion
    compressedSize := if sizes.isEmpty then e.compressedSize else elsewhere
    size := if sizes.isEmpty then e.size else elsewhere
    extra := wideData (sizes ++ offsets)
    offset := if offsets.isEmpty then e.offset else elsewhere }

/-- The fields that an entry has both before its contents and in the directory. -/
def Entry.common (e : Entry) : Bytes :=
  ofNat 2 e.extractVersion ++ ofNat 2 e.flags ++ ofNat 2 e.method ++ ofNat 2 e.time
    ++ ofNat 2 e.date ++ ofNat 4 e.crc ++ ofNat 4 e.compressedSize ++ ofNat 4 e.size
    ++ ofNat 2 (Text.encodeAny e.name).length ++ ofNat 2 e.extra.length

/-- What comes before the contents of an entry. -/
def Entry.header (e : Entry) : Bytes :=
  entryMark ++ e.common ++ Text.encodeAny e.name ++ e.extra

/-- The numbers of an entry of the directory. -/
def Entry.numbers (e : Entry) : Bytes :=
  directoryMark ++ [e.createVersion.toUInt8, e.createSystem.toUInt8] ++ e.common
    ++ ofNat 2 e.comment.length ++ ofNat 2 0 ++ ofNat 2 0 ++ ofNat 4 e.externalAttributes
    ++ ofNat 4 e.offset.toNat

/-- An entry of the directory. -/
def Entry.directory (e : Entry) : Bytes :=
  e.numbers ++ Text.encodeAny e.name ++ e.extra ++ e.comment

/-! ## The end -/

/-- The end with wide numbers. -/
def wideEnding (count size offset : Nat) : Bytes :=
  wideEndMark ++ ofNat 8 44 ++ ofNat 2 wideVersion ++ ofNat 2 wideVersion ++ ofNat 4 0 ++ ofNat 4 0
    ++ ofNat 8 count ++ ofNat 8 count ++ ofNat 8 size ++ ofNat 8 offset

/-- Where the end with wide numbers is. -/
def locator (position : Nat) : Bytes := locatorMark ++ ofNat 4 0 ++ ofNat 8 position ++ ofNat 4 1

/-- The end with narrow numbers. -/
def narrowEnding (count size offset : Nat) : Bytes :=
  endMark ++ ofNat 2 0 ++ ofNat 2 0 ++ ofNat 2 count ++ ofNat 2 count ++ ofNat 4 size
    ++ ofNat 4 offset ++ ofNat 2 0

/-- Whether the end has wide numbers. -/
def isWide (count size offset : Nat) : Bool :=
  0xFFFF < count || narrowLimit < offset || narrowLimit < size

/-- The end of an archive. -/
def ending (count size offset : Nat) : Bytes :=
  if isWide count size offset then
    wideEnding count size offset ++ locator (offset + size)
      ++ narrowEnding (min count 0xFFFF) (min size elsewhere) (min offset elsewhere)
  else narrowEnding count size offset

/-! ## Archives -/

/-- The entries of contents from an offset on, each with its octets. -/
def placed (pack : Bytes → Bytes) (offset : Nat) : List (Text × Bytes) → List (Entry × Bytes)
  | [] => []
  | (name, contents) :: rest =>
    let packed := pack contents
    let e := describe name contents packed offset
    let octets := e.inPlace.header ++ packed
    (e, octets) :: placed pack (offset + octets.length) rest

/-- Entries, one behind the other. -/
def joined (es : List (Entry × Bytes)) : Bytes := es.flatMap Prod.snd

/-- The directory of entries. -/
def listed (es : List (Entry × Bytes)) : Bytes := es.flatMap fun p => p.1.inDirectory.directory

/-- The archive of named contents. -/
def write (contents : List (Text × Bytes)) (pack : Bytes → Bytes := Deflate.store) : Bytes :=
  let es := placed pack 0 contents
  joined es ++ listed es ++ ending es.length (listed es).length (joined es).length

end WatWorkbench.Archive
