import WatWorkbench.Archive.Bzip2
import WatWorkbench.Archive.Crc32
import WatWorkbench.Archive.Deflate
import WatWorkbench.Archive.Entry
import WatWorkbench.Archive.Lzma
import WatWorkbench.Failure

/-!
# Reading archives

An archive is read from its end: the end says where the directory is, the directory where the
entries are.  Octets before the archive are allowed, and a remark after the end.

* `Archive.findEnd` — the end of an archive.
* `Archive.directory` — the entries of the directory.
* `Archive.contents` — the octets of an entry, which are checked.
* `Archive.read` — all contents by name.
-/

namespace WatWorkbench.Archive

open LittleEndian

/-- A refusal of octets that are no archive. -/
def refuse {α : Type} (message : Text) : Except Failure α := .error (.raised .archive message)

/-- Octets from an offset on. -/
def slice (bs : Bytes) (start count : Nat) : Bytes := (bs.drop start).take count

/-- The number in octets from an offset on. -/
def number (bs : Bytes) (start count : Nat) : Nat := toNat (slice bs start count)

/-! ## The end -/

/-- What the end of an archive says. -/
structure End where
  /-- Where the end begins. -/
  position : Nat
  /-- How many octets the directory has. -/
  size : Nat
  /-- Where the directory was when the archive was written. -/
  offset : Nat
  /-- A remark. -/
  comment : Bytes
  /-- How many octets lie between the directory and the end. -/
  gap : Nat := 0

/-- How many octets the end has. -/
def endSize : Nat := 22

/-- The longest remark and the end. -/
def searchSize : Nat := 65536 + endSize

/-- The last place at which octets begin with a pattern, counted from their end.  The first argument
is the octets in front in reverse order, the second those behind. -/
def lastPlace (pattern : Bytes) : Bytes → Bytes → Option Nat
  | front, behind =>
    if pattern.isPrefixOf behind then some front.length
    else match front with
      | [] => none
      | b :: front => lastPlace pattern front (b :: behind)

/-- The end as its octets at a position say. -/
def endAt (bs : Bytes) (position : Nat) : End where
  position := position
  size := number bs (position + 12) 4
  offset := number bs (position + 16) 4
  comment := slice bs (position + endSize) (number bs (position + 20) 2)

/-- How many octets point to a wide end, and how many it has. -/
def wideSizes : Nat × Nat := (20, 56)

/-- The end with the wider numbers that may come before it. -/
def widen (bs : Bytes) (e : End) : Except Failure End :=
  let (locatorSize, wideSize) := wideSizes
  let locator := slice bs (e.position - locatorSize) locatorSize
  if locator.length ≠ locatorSize || locator.take 4 ≠ locatorMark then .ok e
  else if number locator 4 4 ≠ 0 || 1 < number locator 16 4 then
    refuse "zipfiles that span multiple disks are not supported"
  else
    let wide := slice bs (e.position - locatorSize - wideSize) wideSize
    if wide.length ≠ wideSize || wide.take 4 ≠ wideEndMark then .ok e
    else .ok { e with
      size := number wide 40 8
      offset := number wide 48 8
      gap := locatorSize + wideSize }

/-- The end of an archive: the last octets, or the last place that looks like it before a remark. -/
def findEnd (bs : Bytes) : Except Failure End :=
  let last := bs.length - endSize
  let tail := bs.drop last
  if tail.length = endSize && endMark.isPrefixOf tail && number tail 20 2 = 0 then
    widen bs { endAt bs last with comment := [] }
  else
    let start := bs.length - searchSize
    match lastPlace endMark (bs.drop start).reverse [] with
    | some place =>
      if bs.length < start + place + endSize then refuse "File is not a zip file"
      else widen bs (endAt bs (start + place))
    | none => refuse "File is not a zip file"

/-! ## The directory -/

/-- Where an archive's parts are. -/
structure Layout where
  /-- Where the directory begins. -/
  start : Nat
  /-- How many octets the directory has. -/
  size : Nat
  /-- How many octets lie before the archive; negative if some are missing. -/
  before : Int
  /-- The archive's remark. -/
  comment : Bytes

/-- Where the parts of an archive are. -/
def layout (bs : Bytes) : Except Failure Layout := do
  let e ← findEnd bs
  let before : Int := (e.position : Int) - e.size - e.offset - e.gap
  let start := e.offset + before
  if start < 0 then refuse "Bad offset for central directory"
  return ⟨start.toNat, e.size, before, e.comment⟩

/-- How many octets a directory entry has before its name. -/
def directorySize : Nat := 46

/-- The greatest version of the format that can be read, times ten. -/
def maxVersion : Nat := 63

/-- A number of several octets, or the complaint that a field is missing. -/
def wideField (field : Text) (data : Bytes) : Except Failure Nat :=
  if data.length < 8 then
    refuse ("Corrupt zip64 extra field. " ++ field ++ " not found.")
  else .ok (number data 0 8)

/-- An entry with the wider numbers that its further data may hold. -/
def widenEntry (e : Entry) (data : Bytes) : Except Failure Entry := do
  let mut e := e
  let mut data := data
  if e.size = 0xFFFFFFFFFFFFFFFF || e.size = 0xFFFFFFFF then
    e := { e with size := ← wideField "File size" data }
    data := data.drop 8
  if e.compressedSize = 0xFFFFFFFF then
    e := { e with compressedSize := ← wideField "Compress size" data }
    data := data.drop 8
  if e.offset = 0xFFFFFFFF then
    e := { e with offset := ← wideField "Header offset" data }
  return e

/-- An entry with what its further data say.  The first argument bounds the number of fields. -/
def readExtra : Nat → Bytes → Entry → Except Failure Entry
  | 0, _, e => .ok e
  | fuel + 1, data, e =>
    if data.length < 4 then .ok e
    else
      let kind := number data 0 2
      let size := number data 2 2
      if data.length < size + 4 then
        refuse ("Corrupt extra field " ++ (Text.inBase 16 kind).padLeft '0'.toNat 4 ++ " (size="
          ++ Text.decimal size ++ ")")
      else do
        let e ← if kind = 1 then widenEntry e (slice data 4 size) else pure e
        readExtra fuel (data.drop (size + 4)) e

/-- The name of an entry, or the failure to read it. -/
def nameOf (flags : Nat) (bs : Bytes) : Except Failure Text :=
  (decodeName flags bs).mapError .undecodable

/-- The first entry of a directory and how many octets it has. -/
def readEntry (before : Int) (d : Bytes) : Except Failure (Entry × Nat) := do
  if d.length < directorySize then refuse "Truncated central directory"
  if !directoryMark.isPrefixOf d then refuse "Bad magic number for central directory"
  let nameSize := number d 28 2
  let extraSize := number d 30 2
  let commentSize := number d 32 2
  let flags := number d 8 2
  let name ← nameOf flags (slice d directorySize nameSize)
  let e : Entry :=
    { name
      createVersion := number d 4 1
      createSystem := number d 5 1
      extractVersion := number d 6 1
      flags
      method := number d 10 2
      time := number d 12 2
      date := number d 14 2
      crc := number d 16 4
      compressedSize := number d 20 4
      size := number d 24 4
      extra := slice d (directorySize + nameSize) extraSize
      comment := slice d (directorySize + nameSize + extraSize) commentSize
      externalAttributes := number d 38 4
      offset := number d 42 4 }
  if maxVersion < e.extractVersion then
    throw (.raised .unsupported ("zip file version " ++ Text.decimal (e.extractVersion / 10) ++ "."
      ++ Text.decimal (e.extractVersion % 10)))
  let e ← readExtra e.extra.length e.extra e
  return ({ e with offset := e.offset + before }, directorySize + nameSize + extraSize + commentSize)

/-- The entries of a directory of which `left` octets are to be read.  The first argument bounds
their number. -/
def readDirectory (before : Int) : Nat → Nat → Bytes → Except Failure (List Entry)
  | 0, _, _ => .ok []
  | fuel + 1, left, d =>
    if left = 0 then .ok []
    else do
      let (e, size) ← readEntry before d
      return e :: (← readDirectory before fuel (left - size) (d.drop size))

/-- The entries of an archive and its remark. -/
def directory (bs : Bytes) : Except Failure (List Entry × Bytes) := do
  let l ← layout bs
  let d := slice bs l.start l.size
  return (← readDirectory l.before (d.length + 1) l.size d, l.comment)

/-! ## Entries -/

/-- Each entry with the place where its octets have to end: where the next one in the archive begins,
or the directory.  Of entries that begin at one place the last one in the directory counts as the
first in the archive. -/
def limits (start : Nat) (es : List Entry) : List (Entry × Int) :=
  let indexed := go start (es.zipIdx.mergeSort fun a b => b.1.offset ≤ a.1.offset)
  es.zipIdx.map fun (e, i) => (e, (indexed.lookup i).getD start)
where
  /-- Goes through entries with their indices in the directory, the last one in the archive first,
  and gives the limit for each index. -/
  go (limit : Int) : List (Entry × Nat) → List (Nat × Int)
    | [] => []
    | (e, i) :: es => (i, limit) :: go e.offset es

/-- How many octets an entry has in the archive before its name. -/
def headerSize : Nat := 30

/-- The last place of an archive that can be looked at. -/
def maxSeek : Int := 0x7FFFFFFFFFFFFFFF

/-- The ways of compression that can be undone. -/
def methods : List Nat := [stored, deflated, blockSorted, rangeCoded]

/-- Fails with the class and text of something that is not supported. -/
def unsupported {α : Type} (message : Text) : Except Failure α :=
  .error (.raised .unsupported message)

/-- Where the octets of an entry begin, after what comes before them has been checked. -/
def locate (bs : Bytes) (e : Entry) (limit : Int) : Except Failure Nat := do
  if e.offset < 0 then throw (.raised .value ("negative seek value " ++ Text.integer e.offset))
  if maxSeek < e.offset then
    throw (.raised .overflow "Python int too large to convert to C ssize_t")
  let offset := e.offset.toNat
  let header := slice bs offset headerSize
  if header.length < headerSize then refuse "Truncated file header"
  if !entryMark.isPrefixOf header then refuse "Bad magic number for file header"
  let nameSize := number header 26 2
  let extraSize := number header 28 2
  let nameBytes := slice bs (offset + headerSize) nameSize
  if hasFlag e.flags 0x20 then unsupported "compressed patched data (flag bit 5)"
  if hasFlag e.flags 0x40 then unsupported "strong encryption (flag bit 6)"
  let name ← nameOf (number header 6 2) nameBytes
  if name ≠ e.name then
    refuse ("File name in directory " ++ e.name.quoted ++ " and header " ++ Bytes.quoted nameBytes
      ++ " differ.")
  let start := min (offset + headerSize + nameSize + extraSize) (max bs.length offset)
  if limit < start + e.compressedSize then
    refuse ("Overlapped entries: " ++ e.name.quoted ++ " (possible zip bomb)")
  if hasFlag e.flags 1 then
    throw (.raised .runtime ("File " ++ (visibleName e.name).quoted
      ++ " is encrypted, password required for extraction"))
  if !methods.contains e.method then
    unsupported "That compression method is not supported"
  return start

/-- Octets after their check sum has been compared. -/
def checked (e : Entry) (bs : Bytes) : Except Failure Bytes :=
  if (Crc32.ofBytes bs).toNat = e.crc then .ok bs
  else refuse ("Bad CRC-32 for file " ++ (visibleName e.name).quoted)

/-- The failure of an archive that ends too early. -/
def ended : Failure := .raised .ended ""

/-- The failure to expand octets that are not in the format of a way of compression. -/
def corrupt (method : Nat) : Failure :=
  if method = deflated then .raised .stream ""
  else if method = blockSorted then .raised .system "Invalid data stream"
  else .raised .lzma "Corrupt input data"

/-- What octets compressed in some way expand to, and how reading them ended.  Octets that are not
compressed are always exhausted. -/
def expand (method : Nat) (packed : Bytes) : Except Failure (Bytes × Expansion.Ending) :=
  if method = stored then .ok (packed, .exhausted)
  else if method = deflated then .ok (Deflate.inflate packed)
  else if method = blockSorted then .ok (Bzip2.expand packed)
  else match Lzma.expandEntry packed with
    | some expanded => .ok expanded
    | none => .error (.raised .lzma "Invalid or unsupported options")

/-- The octets of an entry that begin at an offset.  Reading stops at the size that the directory
gives, and compares the check sum as soon as that or the end of the compressed octets is reached. -/
def unpack (bs : Bytes) (e : Entry) (start : Nat) : Except Failure Bytes := do
  let packed := slice bs start e.compressedSize
  if packed.isEmpty && 0 < e.compressedSize then throw ended
  let (out, ending) ← expand e.method packed
  match ending with
  | .invalid => throw (corrupt e.method)
  | .complete => checked e (out.take e.size)
  | .exhausted =>
    if packed.length = e.compressedSize || e.size ≤ out.length then checked e (out.take e.size)
    else throw ended

/-- The octets of an entry. -/
def contents (bs : Bytes) (e : Entry) (limit : Int) : Except Failure Bytes := do
  unpack bs e (← locate bs e limit)

/-- The contents of an archive by name, in the order of the directory.  Of entries with one name the
last one counts, in the place of the first. -/
def read (bs : Bytes) : Except Failure (List (Text × Bytes)) := do
  let (es, _) ← directory bs
  let l ← layout bs
  let limited := limits l.start es
  let names := es.map fun e => visibleName e.name
  names.eraseDups.mapM fun name => do
    match limited.reverse.find? fun (e, _) => visibleName e.name = name with
    | none => return (name, [])
    | some (e, limit) => return (name, ← contents bs e limit)

end WatWorkbench.Archive
