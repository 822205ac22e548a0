import WatWorkbench.Archive.Expansion
import WatWorkbench.Number.LittleEndian

/-!
# The LZMA format

Compressed octets are a sequence of decisions between two sides, each with a chance that adapts to
the decisions before.  They tell single octets, and references to octets that came before: at a new
distance or at one of the last four.  The decisions together are one number within a range that
narrows with each of them.

* `Lzma.Settings` — the settings that reading needs.
* `Lzma.expand` — the octets that the decisions tell, and how the reading ended.
* `Lzma.expandEntry` — the same for octets with their settings in front, as archives hold them.
-/

namespace WatWorkbench.Lzma

open Expansion

/-! ## Settings -/

/-- The settings that reading needs. -/
structure Settings where
  /-- How many high bits of the octet before tell the chances of an octet apart. -/
  context : Nat
  /-- How many low bits of the position tell the chances of an octet apart. -/
  octetPosition : Nat
  /-- How many low bits of the position tell the other chances apart. -/
  position : Nat
  /-- How far references reach at most. -/
  window : Nat
  deriving Repr

/-- The least size of the window. -/
def minWindow : Nat := 4096

/-- The settings that octets spell. -/
def Settings.ofBytes? (bs : Bytes) : Option Settings :=
  match bs with
  | first :: size =>
    let n := first.toNat
    let context := n % 9
    let octetPosition := n / 9 % 5
    let position := n / 45
    if size.length ≠ 4 || 4 < position || 4 < context + octetPosition then none
    else some ⟨context, octetPosition, position, max minWindow (LittleEndian.toNat size)⟩
  | [] => none

/-! ## Chances -/

/-- The number of states.  The state tells what came last; from seven on it was no single octet. -/
def stateCount : Nat := 12

/-- The number of places that positions are told apart into at most. -/
def placeCount : Nat := 16

/-- Where the chances begin of whether something is a reference. -/
def isReference : Nat := 0

/-- Where the chances begin of whether a reference has an earlier distance. -/
def isEarlier : Nat := isReference + stateCount * placeCount

/-- Where the chances begin of whether an earlier distance is not the last one. -/
def isNotLast : Nat := isEarlier + stateCount

/-- Where the chances begin of whether it is not the one before that. -/
def isNotSecond : Nat := isNotLast + stateCount

/-- Where the chances begin of whether it is not the one before that either. -/
def isNotThird : Nat := isNotSecond + stateCount

/-- Where the chances begin of whether a reference with the last distance is longer than one. -/
def isLong : Nat := isNotThird + stateCount

/-- Where the chances of the sizes of distances begin. -/
def distanceSize : Nat := isLong + stateCount * placeCount

/-- Where the chances of the low bits of middling distances begin. -/
def middleBits : Nat := distanceSize + 4 * 64

/-- Where the chances of the lowest bits of great distances begin. -/
def lowestBits : Nat := middleBits + 115

/-- Where the chances of lengths at a new distance begin. -/
def newLength : Nat := lowestBits + 16

/-- How many chances lengths have. -/
def lengthChances : Nat := 2 + 8 * placeCount + 8 * placeCount + 256

/-- Where the chances of lengths at an earlier distance begin. -/
def earlierLength : Nat := newLength + lengthChances

/-- Where the chances of single octets begin. -/
def octetChances : Nat := earlierLength + lengthChances

/-- How many chances octets have in one context. -/
def contextSize : Nat := 0x300

/-- The sum of the chances of both sides. -/
def wholeChance : Nat := 2048

/-! ## Decisions -/

/-- What is known while decisions are being read. -/
structure Decoder where
  /-- The octets that have not been looked at. -/
  rest : Bytes
  /-- The octets read. -/
  out : Array UInt8 := #[]
  /-- The width of the range. -/
  range : Nat := 0xFFFFFFFF
  /-- Where the number is within the range. -/
  code : Nat := 0
  /-- The chances of the first side. -/
  chances : Array Nat
  /-- What came last. -/
  state : Nat := 0
  /-- The last four distances, less one, the last one first. -/
  distances : List Nat := [0, 0, 0, 0]

/-- Reading decisions, which may stop; what has been read until then stays. -/
abbrev Decision := ExceptT Stop (StateM Decoder)

/-- Makes the range wide enough for another decision. -/
def widen : Decision Unit := do
  let d ← get
  if d.range < 0x1000000 then
    match d.rest with
    | [] => throw .exhausted
    | b :: bs => set { d with rest := bs, range := d.range * 256, code := d.code * 256 + b.toNat }

/-- Reads a decision that has a chance of its own, and adapts that. -/
def decide (i : Nat) : Decision Nat := do
  widen
  let chance := (← get).chances.getD i 0
  let bound := (← get).range / wholeChance * chance
  if (← get).code < bound then
    modify fun d => { d with
      range := bound
      chances := d.chances.setIfInBounds i (chance + (wholeChance - chance) / 32) }
    return 0
  else
    modify fun d => { d with
      range := d.range - bound
      code := d.code - bound
      chances := d.chances.setIfInBounds i (chance - chance / 32) }
    return 1

/-- Reads decisions whose sides have one chance, as a number, the highest bit first. -/
def evenly (count : Nat) : Decision Nat :=
  (List.range count).foldlM (fun high _ => do
    widen
    let half := (← get).range / 2
    let bit := if (← get).code < half then 0 else 1
    modify fun d => { d with range := half, code := d.code - bit * half }
    return 2 * high + bit) 0

/-- Reads a number of several bits, the highest first.  The chances of each bit depend on the bits
before. -/
def number (base count : Nat) : Decision Nat := do
  let n ← (List.range count).foldlM (fun n _ => do return 2 * n + (← decide (base + n))) 1
  return n - Nat.pow 2 count

/-- Reads a number of several bits, the lowest first. -/
def reversed (base count : Nat) : Decision Nat := do
  let (_, n) ← (List.range count).foldlM (fun (path, n) i => do
    let bit ← decide (base + path)
    return (2 * path + bit, n + bit * Nat.pow 2 i)) (1, 0)
  return n

/-! ## Octets -/

/-- The octet at a distance, less one. -/
def Decoder.back (d : Decoder) (distance : Nat) : UInt8 :=
  if distance < d.out.size then d.out.getD (d.out.size - 1 - distance) 0 else 0

/-- The low bits of the position. -/
def Decoder.place (d : Decoder) (bits : Nat) : Nat := d.out.size % Nat.pow 2 bits

/-- Where the chances of the next octet begin. -/
def Decoder.octetBase (d : Decoder) (s : Settings) : Nat :=
  octetChances + contextSize *
    (d.place s.octetPosition * Nat.pow 2 s.context + (d.back 0).toNat / Nat.pow 2 (8 - s.context))

/-- Reads an octet that is probably not the one a reference would have told.  As long as the bits of
both agree, the chances depend on the next bit of that one. -/
def differentOctet (base : Nat) (other : UInt8) : Decision Nat := do
  let (n, _) ← (List.range 8).foldlM (fun (n, agrees) i => do
    let hint := other.toNat / Nat.pow 2 (7 - i) % 2
    let bit ← decide (base + (if agrees then 0x100 + 0x100 * hint else 0) + n)
    return (2 * n + bit, agrees && bit = hint)) (1, true)
  return n - 0x100

/-- The state after an octet. -/
def afterOctet (state : Nat) : Nat :=
  if state < 4 then 0 else if state < 10 then state - 3 else state - 6

/-- Reads an octet. -/
def octet (s : Settings) : Decision Unit := do
  let d ← get
  let base := d.octetBase s
  let n ←
    if d.state < 7 then number base 8
    else differentOctet base (d.back (d.distances.headD 0))
  modify fun d => { d with state := afterOctet d.state, out := d.out.push n.toUInt8 }

/-! ## References -/

/-- Reads a length. -/
def length (base place : Nat) : Decision Nat := do
  if (← decide base) = 0 then return 2 + (← number (base + 2 + 8 * place) 3)
  if (← decide (base + 1)) = 0 then
    return 10 + (← number (base + 2 + 8 * placeCount + 8 * place) 3)
  return 18 + (← number (base + 2 + 16 * placeCount) 8)

/-- Reads a distance, less one, to refer to a number of octets. -/
def distance (length : Nat) : Decision Nat := do
  let size ← number (distanceSize + 64 * min (length - 2) 3) 6
  if size < 4 then return size
  let count := size / 2 - 1
  let least := (2 + size % 2) * Nat.pow 2 count
  if size < 14 then return least + (← reversed (middleBits + least - size) count)
  let high ← evenly (count - 4)
  return least + 16 * high + (← reversed lowestBits 4)

/-- Repeats octets from a distance, less one, back. -/
def repeated : Nat → Nat → Array UInt8 → Array UInt8
  | 0, _, out => out
  | n + 1, distance, out => repeated n distance (out.push (out.getD (out.size - 1 - distance) 0))

/-- Refers to octets at the last distance. -/
def copy (length : Nat) : Decision Unit :=
  modify fun d => { d with out := repeated length (d.distances.headD 0) d.out }

/-- The distance, less one, that marks the end. -/
def endDistance : Nat := 0xFFFFFFFF

/-- Reads a reference at a new distance.  Tells whether it was the mark of the end. -/
def newReference (s : Settings) : Decision Bool := do
  let n ← length newLength ((← get).place s.position)
  modify fun d => { d with state := if d.state < 7 then 7 else 10 }
  let far ← distance n
  if far = endDistance then
    widen
    if (← get).code ≠ 0 then throw .invalid
    return true
  if min (← get).out.size s.window ≤ far then throw .invalid
  modify fun d => { d with distances := far :: d.distances.take 3 }
  copy n
  return false

/-- Puts one of the last distances in front. -/
def bringBack (i : Nat) : Decision Unit :=
  modify fun d => { d with distances := d.distances.getD i 0 :: d.distances.eraseIdx i }

/-- Reads which of the last distances a reference has, if not the last one. -/
def chooseDistance (state : Nat) : Decision Nat := do
  if (← decide (isNotSecond + state)) = 0 then return 1
  if (← decide (isNotThird + state)) = 0 then return 2
  return 3

/-- Refers to one octet at the last distance. -/
def single : Decision Unit := do
  modify fun d => { d with state := if d.state < 7 then 9 else 11 }
  copy 1

/-- Reads a length and refers to octets at the last distance. -/
def several (place : Nat) : Decision Unit := do
  let n ← length earlierLength place
  modify fun d => { d with state := if d.state < 7 then 8 else 11 }
  copy n

/-- Reads a reference at an earlier distance. -/
def earlierReference (s : Settings) : Decision Unit := do
  let d ← get
  if d.out.isEmpty then throw .invalid
  let place := d.place s.position
  match ← decide (isNotLast + d.state) with
  | 0 =>
    match ← decide (isLong + placeCount * d.state + place) with
    | 0 => single
    | _ => several place
  | _ =>
    bringBack (← chooseDistance d.state)
    several place

/-! ## Streams -/

/-- Reads octets and references up to the mark of the end.  The first argument bounds their
number. -/
def items (s : Settings) : Nat → Decision Unit
  | 0 => throw .exhausted
  | fuel + 1 => do
    let d ← get
    if (← decide (isReference + placeCount * d.state + d.place s.position)) = 0 then octet s
    else if (← decide (isEarlier + d.state)) = 1 then earlierReference s
    else if ← newReference s then return
    items s fuel

/-- Reads the number before the first decision. -/
def start : Decision Unit := do
  for i in List.range 5 do
    match (← get).rest with
    | [] => throw .exhausted
    | b :: bs =>
      if i = 0 && b ≠ 0 then throw .invalid
      modify fun d => { d with rest := bs, code := d.code * 256 + b.toNat }

/-- A bound for the number of decisions that an octet tells: none of them narrows the range by less
than one part in sixty-eight. -/
def maxDecisions : Nat := 512

/-- The octets that the decisions tell, and how the reading ended. -/
def expand (s : Settings) (bs : Bytes) : Bytes × Ending :=
  let chanceCount := octetChances + contextSize * Nat.pow 2 (s.context + s.octetPosition)
  let read : Decision Unit := do
    start
    items s (maxDecisions * (bs.length + 1))
  let (stop, d) := read.run.run
    { rest := bs, chances := Array.replicate chanceCount (wholeChance / 2) }
  (d.out.toList, .ofStop stop)

/-- The octets of an entry that begins with a version and its settings.  Nothing is read as long as
there is no octet after those; with settings that are out of the question there is nothing. -/
def expandEntry (bs : Bytes) : Option (Bytes × Ending) :=
  let size := LittleEndian.toNat ((bs.drop 2).take 2)
  if bs.length ≤ 4 || bs.length ≤ 4 + size then some ([], .exhausted)
  else do
    let settings ← Settings.ofBytes? ((bs.drop 4).take size)
    return expand settings (bs.drop (4 + size))

end WatWorkbench.Lzma
