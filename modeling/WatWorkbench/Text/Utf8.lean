import WatWorkbench.Text.Basic

/-!
# UTF-8

Encoding refuses exactly the texts with an unpaired surrogate and names the first run of them.
Decoding cuts the octets into *pieces*: each is a code point or a fault, a maximal run of octets
that could have begun a code point but did not become one.  The two readers differ only in what
they do with a fault: `decode` stops at the first one, `decodeLossy` writes U+FFFD for each.

* `Text.encode` — the octets of a text, or where it cannot be encoded.
* `Utf8.pieces` — one pass over the octets, shared by both readers.
* `Text.decode`, `Text.decodeLossy` — the strict and the replacing reader.
-/

namespace WatWorkbench

/-- A sequence of octets. -/
abbrev Bytes := List UInt8

/-! ## Encoding -/

/-- A way to write texts as octets. -/
inductive Encoding where
  /-- One octet for each of the first 128 code points. -/
  | ascii
  /-- One to four octets for each code point that is no surrogate. -/
  | utf8
  deriving DecidableEq, Repr

namespace Encoding

/-- The name of an encoding. -/
def name : Encoding → Text
  | ascii => "ascii"
  | utf8 => "utf-8"

/-- Whether a code point can be encoded. -/
def encodes : Encoding → Nat → Bool
  | ascii, c => c < 128
  | utf8, c => !Text.isSurrogate c

/-- Why a code point cannot be encoded. -/
def refusal : Encoding → Text
  | ascii => "ordinal not in range(128)"
  | utf8 => "surrogates not allowed"

end Encoding

/-- Where a text cannot be encoded: the first run of code points that cannot. -/
structure EncodeFault where
  /-- The encoding. -/
  encoding : Encoding
  /-- The index of the first such code point. -/
  start : Nat
  /-- The first such code point. -/
  point : Nat
  /-- How many of them follow one another there. -/
  count : Nat
  deriving DecidableEq, Repr

/-- The wording of an encoding fault. -/
def EncodeFault.message (f : EncodeFault) : Text :=
  let place : Text :=
    if f.count == 1 then
      " '" ++ Text.numericEscape f.point ++ "' in position " ++ Text.decimal f.start
    else
      "s in position " ++ Text.decimal f.start ++ "-" ++ Text.decimal (f.start + f.count - 1)
  "'" ++ f.encoding.name ++ "' codec can't encode character" ++ place ++ ": " ++ f.encoding.refusal

namespace Utf8

/-- The octets of one code point: six bits an octet from the right, the lead octet saying how
many follow. -/
def encodePoint (c : Nat) : Bytes :=
  if c < 0x80 then [c.toUInt8]
  else if c < 0x800 then [(0xC0 + c / 64).toUInt8, (0x80 + c % 64).toUInt8]
  else if c < 0x10000 then
    [(0xE0 + c / 4096).toUInt8, (0x80 + c / 64 % 64).toUInt8, (0x80 + c % 64).toUInt8]
  else
    [(0xF0 + c / 262144).toUInt8, (0x80 + c / 4096 % 64).toUInt8, (0x80 + c / 64 % 64).toUInt8,
      (0x80 + c % 64).toUInt8]

/-! ## Decoding -/

/-- Why octets are not a code point. -/
inductive Reason where
  /-- The octet begins no code point. -/
  | start
  /-- The octet after these does not continue them. -/
  | continuation
  /-- The octets end here. -/
  | truncated
  deriving DecidableEq, Repr

/-- The wording of a reason. -/
def Reason.message : Reason → Text
  | .start => "invalid start byte"
  | .continuation => "invalid continuation byte"
  | .truncated => "unexpected end of data"

/-- What a run of octets turned out to be. -/
inductive Piece where
  /-- A code point. -/
  | point (c : Nat)
  /-- Octets that are none, and why. -/
  | fault (bytes : Bytes) (reason : Reason)
  deriving DecidableEq, Repr

/-- A code point under way: the octets read, how many are owed, the range of the next one and the
bits so far. -/
structure Pending where
  /-- The octets read, last first. -/
  read : Bytes
  /-- How many octets are owed; at least one. -/
  owed : Nat
  /-- The least octet that may come next. -/
  low : Nat
  /-- The greatest octet that may come next. -/
  high : Nat
  /-- The bits of the octets read. -/
  bits : Nat
  deriving DecidableEq, Repr

/-- What an octet does between code points: it is one itself, begins one or does neither. The
ranges of the second octet keep out overlong forms, surrogates and points above U+10FFFF. -/
def begin (b : UInt8) : List Piece × Option Pending :=
  let n := b.toNat
  if n < 0x80 then ([.point n], none)
  else if n < 0xC2 then ([.fault [b] .start], none)
  else if n < 0xE0 then ([], some ⟨[b], 1, 0x80, 0xBF, n - 0xC0⟩)
  else if n < 0xF0 then
    ([], some ⟨[b], 2, if n = 0xE0 then 0xA0 else 0x80, if n = 0xED then 0x9F else 0xBF, n - 0xE0⟩)
  else if n < 0xF5 then
    ([], some ⟨[b], 3, if n = 0xF0 then 0x90 else 0x80, if n = 0xF4 then 0x8F else 0xBF, n - 0xF0⟩)
  else ([.fault [b] .start], none)

/-- What the next octet does to a code point under way.  An octet that does not continue it ends
it as a fault and is then looked at afresh. -/
def Pending.next (p : Pending) (b : UInt8) : List Piece × Option Pending :=
  if p.low ≤ b.toNat && b.toNat ≤ p.high then
    let bits := p.bits * 64 + (b.toNat - 0x80)
    if p.owed = 1 then ([.point bits], none)
    else ([], some ⟨b :: p.read, p.owed - 1, 0x80, 0xBF, bits⟩)
  else
    let (pieces, state) := begin b
    (.fault p.read.reverse .continuation :: pieces, state)

/-- How far a reading has come: the pieces so far, last first, and the code point under way. -/
structure Reading where
  /-- The finished pieces, last first. -/
  done : List Piece
  /-- The code point under way. -/
  pending : Option Pending

/-- The reading after one more octet. -/
def Reading.next (r : Reading) (b : UInt8) : Reading :=
  let (pieces, pending) := match r.pending with
    | none => begin b
    | some p => p.next b
  ⟨pieces.reverse ++ r.done, pending⟩

/-- All pieces of a reading that has come to the end of the octets. -/
def Reading.finish (r : Reading) : List Piece :=
  match r.pending with
  | none => r.done.reverse
  | some p => (.fault p.read.reverse .truncated :: r.done).reverse

/-- The pieces of a sequence of octets. -/
def pieces (bs : Bytes) : List Piece := (bs.foldl Reading.next ⟨[], none⟩).finish

/-- How many octets a piece stands for. -/
def Piece.size : Piece → Nat
  | .point c => (encodePoint c).length
  | .fault bytes _ => bytes.length

end Utf8

/-- Where octets are not UTF-8. -/
structure DecodeFault where
  /-- The offset of the first offending octet. -/
  offset : Nat
  /-- The offending octets. -/
  bytes : Bytes
  /-- What is wrong with them. -/
  reason : Utf8.Reason
  deriving DecidableEq, Repr

/-- The wording of a decoding fault. -/
def DecodeFault.message (f : DecodeFault) : Text :=
  match f.bytes with
  | [b] =>
    "'utf-8' codec can't decode byte 0x" ++ Text.padLeft '0'.toNat 2 (Text.inBase 16 b.toNat)
      ++ " in position " ++ Text.decimal f.offset ++ ": " ++ f.reason.message
  | bs =>
    "'utf-8' codec can't decode bytes in position " ++ Text.decimal f.offset ++ "-"
      ++ Text.decimal (f.offset + bs.length - 1) ++ ": " ++ f.reason.message

namespace Text

/-- The first run of code points that cannot be encoded, in a list that starts at an index. -/
def findUnencodable (e : Encoding) (index : Nat) : List Nat → Option EncodeFault
  | [] => none
  | c :: cs =>
    if e.encodes c then findUnencodable e (index + 1) cs
    else some ⟨e, index, c, 1 + (cs.takeWhile (!e.encodes ·)).length⟩

/-- The octets of a text, or its first run of surrogates. -/
def encode (t : Text) : Except EncodeFault Bytes :=
  match findUnencodable .utf8 0 t.points with
  | some fault => .error fault
  | none => .ok (t.points.flatMap Utf8.encodePoint)

/-- The octets of a text, three for a surrogate as for any point of its size.  Serves where only
lengths matter. -/
def encodeAny (t : Text) : Bytes := t.points.flatMap Utf8.encodePoint

/-- The code point of a piece, if it is one. -/
def ofPiece? : Utf8.Piece → Option Nat
  | .point c => some c
  | .fault _ _ => none

/-- The first fault among the pieces of octets of which `offset` have been passed. -/
def findFault (offset : Nat) : List Utf8.Piece → Option DecodeFault
  | [] => none
  | .fault bytes reason :: _ => some ⟨offset, bytes, reason⟩
  | .point c :: ps => findFault (offset + (Utf8.Piece.point c).size) ps

/-- Reads octets as UTF-8 and stops at the first fault. -/
def decode (bs : Bytes) : Except DecodeFault Text :=
  let ps := Utf8.pieces bs
  match findFault 0 ps with
  | some fault => .error fault
  | none => .ok ⟨ps.filterMap ofPiece?⟩

/-- Reads octets as UTF-8 and writes U+FFFD for every fault. -/
def decodeLossy (bs : Bytes) : Text :=
  ⟨(Utf8.pieces bs).map fun p => (ofPiece? p).getD 0xFFFD⟩

end Text

end WatWorkbench
