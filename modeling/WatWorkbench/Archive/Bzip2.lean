import WatWorkbench.Archive.PrefixCode

/-!
# The bzip2 format

Octets are compressed in blocks.  Long runs in a block are shortened; its octets are then ordered by
what follows them, each is replaced by how recently it was used, and the numbers are written in
several prefix codes that take turns.  Reading undoes these steps, the last one first.  A check sum
comes with every block and another one of all of them at the end.

* `Bzip2.expand` — the octets of the blocks, and how the reading ended.
-/

namespace WatWorkbench.Bzip2

open Expansion

/-! ## Reading bits -/

/-- Reads one bit, the highest one that is left of an octet. -/
def bit : Reader Nat := do
  let r ← get
  if r.count = 0 then
    match r.rest with
    | [] => throw .exhausted
    | b :: bs =>
      set { r with rest := bs, held := b.toNat % 128, count := 7 }
      return b.toNat / 128
  else
    let weight := Nat.pow 2 (r.count - 1)
    set { r with held := r.held % weight, count := r.count - 1 }
    return r.held / weight

/-- Reads a number of several bits, the highest first. -/
def bits (n : Nat) : Reader Nat :=
  (List.range n).foldlM (fun high _ => do return 2 * high + (← bit)) 0

/-- Reads octets that have to be there. -/
def expect : Bytes → Reader Unit
  | [] => return
  | b :: bs => do
    if (← bits 8) ≠ b.toNat then throw .invalid
    expect bs

/-- Reads how often the bit one comes before the bit zero, which has to be less than a limit. -/
def repetitions : Nat → Reader Nat
  | 0 => throw .invalid
  | limit + 1 => do
    if (← bit) = 0 then return 0
    return 1 + (← repetitions limit)

/-! ## Codes -/

/-- The greatest length of a code. -/
def maxLength : Nat := 20

/-- Reads how a length differs from the one before.  The first argument bounds the number of
steps. -/
def changedLength : Nat → Nat → Reader Nat
  | 0, _ => throw .exhausted
  | fuel + 1, length => do
    if length < 1 || maxLength < length then throw .invalid
    if (← bit) = 0 then return length
    if (← bit) = 0 then changedLength fuel (length + 1) else changedLength fuel (length - 1)

/-- Reads a code for a number of symbols. -/
def code (symbolCount : Nat) : Reader PrefixCode := do
  let limit ← stepLimit
  let start ← bits 5
  let (_, lengths) ← (List.range symbolCount).foldlM (fun (length, lengths) _ => do
    let length ← changedLength limit length
    return (length, length :: lengths)) (start, [])
  return (PrefixCode.ofLengths lengths.reverse).upTo (maxLength + 1)

/-- Takes an element out of a list and puts it in front. -/
def toFront {α : Type} [Inhabited α] (xs : List α) (i : Nat) : List α :=
  xs.getD i default :: xs.eraseIdx i

/-- How many symbols a code is used for before the next one takes its turn. -/
def turnSize : Nat := 50

/-- The most turns that are looked at. -/
def maxTurns : Nat := 18002

/-- Reads which of a number of codes is used in each turn, as how recently it was used before. -/
def turns (codeCount : Nat) : Reader (Array Nat) := do
  let count ← bits 15
  if count = 0 then throw .invalid
  let recencies ← (List.range count).mapM fun _ => repetitions codeCount
  let (_, order) := (recencies.take maxTurns).foldl (fun (recent, order) i =>
    let recent := toFront recent i
    (recent, order.push (recent.headD 0))) (List.range codeCount, #[])
  return order

/-! ## Blocks -/

/-- Reads which octets a block holds, in groups of sixteen. -/
def usedOctets : Reader (List UInt8) := do
  let groups ← (List.range 16).mapM fun _ => bit
  let octets ← groups.zipIdx.mapM fun (isUsed, group) => do
    if isUsed = 0 then return []
    let each ← (List.range 16).mapM fun _ => bit
    return (each.zipIdx.filter (·.1 = 1)).map fun (_, i) => (16 * group + i).toUInt8
  return octets.flatten

/-- What is known while the octets of a block are being read. -/
structure Column where
  /-- The octets in use, the most recent one first. -/
  recent : List UInt8
  /-- How often the most recent octet is repeated. -/
  repeated : Nat := 0
  /-- What the next digit of that number counts. -/
  weight : Nat := 1
  /-- The octets so far. -/
  octets : Array UInt8 := #[]

/-- What no digit of a number of repetitions may count. -/
def maxWeight : Nat := 2 * 1024 * 1024

/-- Puts the repetitions in place, if a block has room for them. -/
def Column.settle (c : Column) (room : Nat) : Reader Column := do
  if room < c.octets.size + c.repeated then throw .invalid
  return { c with
    repeated := 0
    weight := 1
    octets := c.octets ++ Array.replicate c.repeated (c.recent.headD 0) }

/-- Reads the octets of a block.  Symbols zero and one are digits of a number of repetitions, the
last symbol ends the block, and every other one says how recently the octet was used.  The arguments
are the code of each symbol, the last symbol, how many octets there may be, a bound for the number
of symbols, and how many there were. -/
def column (codeOf : Nat → Option PrefixCode) (lastSymbol room : Nat) :
    Nat → Nat → Column → Reader (Array UInt8)
  | 0, _, _ => throw .exhausted
  | fuel + 1, position, c => do
    match codeOf position with
    | none => throw .invalid
    | some code =>
      let s ← code.symbol bit
      if s < 2 then
        if maxWeight ≤ c.weight then throw .invalid
        column codeOf lastSymbol room fuel (position + 1)
          { c with repeated := c.repeated + (s + 1) * c.weight, weight := 2 * c.weight }
      else
        let c ← c.settle room
        if s = lastSymbol then return c.octets
        if room ≤ c.octets.size then throw .invalid
        let recent := toFront c.recent (s - 1)
        column codeOf lastSymbol room fuel (position + 1)
          { c with recent, octets := c.octets.push (recent.headD 0) }

/-! ## Order -/

/-- Where the octets are that follow, in their order, the octets of a column: equal octets keep
their order. -/
def successors (column : Array UInt8) : Array Nat :=
  let counts := column.foldl (fun (counts : Array Nat) b => counts.modify b.toNat (· + 1))
    (Array.replicate 256 0)
  let (_, starts) := counts.foldl (fun (sum, starts) n => (sum + n, starts.push sum)) (0, #[])
  let (_, places) := column.foldl (fun (state : Nat × Array Nat × Array Nat) b =>
    let (i, starts, places) := state
    (i + 1, starts.modify b.toNat (· + 1), places.setIfInBounds (starts.getD b.toNat 0) i))
    (0, starts, Array.replicate column.size 0) |> (·.2)
  places

/-- Collects a number of octets from one to the next that follows it. -/
def follow (column : Array UInt8) (next : Array Nat) : Nat → Nat → Array UInt8 → Array UInt8
  | 0, _, out => out
  | n + 1, place, out => follow column next n (next.getD place 0) (out.push (column.getD place 0))

/-- The octets of a column in their order, of which the first one has a given place. -/
def unsort (column : Array UInt8) (origin : Nat) : Array UInt8 :=
  let next := successors column
  follow column next column.size (next.getD origin 0) #[]

/-! ## Disturbed blocks -/

/-- The distances between octets of which the lowest bit is changed in a disturbed block. -/
def disturbances : Array Nat :=
  #[619, 720, 127, 481, 931, 816, 813, 233, 566, 247, 985, 724, 205, 454, 863, 491, 741, 242, 949,
    214, 733, 859, 335, 708, 621, 574, 73, 654, 730, 472, 419, 436, 278, 496, 867, 210, 399, 680,
    480, 51, 878, 465, 811, 169, 869, 675, 611, 697, 867, 561, 862, 687, 507, 283, 482, 129, 807,
    591, 733, 623, 150, 238, 59, 379, 684, 877, 625, 169, 643, 105, 170, 607, 520, 932, 727, 476,
    693, 425, 174, 647, 73, 122, 335, 530, 442, 853, 695, 249, 445, 515, 909, 545, 703, 919, 874,
    474, 882, 500, 594, 612, 641, 801, 220, 162, 819, 984, 589, 513, 495, 799, 161, 604, 958, 533,
    221, 400, 386, 867, 600, 782, 382, 596, 414, 171, 516, 375, 682, 485, 911, 276, 98, 553, 163,
    354, 666, 933, 424, 341, 533, 870, 227, 730, 475, 186, 263, 647, 537, 686, 600, 224, 469, 68,
    770, 919, 190, 373, 294, 822, 808, 206, 184, 943, 795, 384, 383, 461, 404, 758, 839, 887, 715,
    67, 618, 276, 204, 918, 873, 777, 604, 560, 951, 160, 578, 722, 79, 804, 96, 409, 713, 940, 652,
    934, 970, 447, 318, 353, 859, 672, 112, 785, 645, 863, 803, 350, 139, 93, 354, 99, 820, 908,
    609, 772, 154, 274, 580, 184, 79, 626, 630, 742, 653, 282, 762, 623, 680, 81, 927, 626, 789,
    125, 411, 521, 938, 300, 821, 78, 343, 175, 128, 250, 170, 774, 972, 275, 999, 639, 495, 78,
    352, 126, 857, 956, 358, 619, 580, 124, 737, 594, 701, 612, 669, 112, 134, 694, 363, 992, 809,
    743, 168, 974, 944, 375, 748, 52, 600, 747, 642, 182, 862, 81, 344, 805, 988, 739, 511, 655,
    814, 334, 249, 515, 897, 955, 664, 981, 649, 113, 974, 459, 893, 228, 433, 837, 553, 268, 926,
    240, 102, 654, 459, 51, 686, 754, 806, 760, 493, 403, 415, 394, 687, 700, 946, 670, 656, 610,
    738, 392, 760, 799, 887, 653, 978, 321, 576, 617, 626, 502, 894, 679, 243, 440, 680, 879, 194,
    572, 640, 724, 926, 56, 204, 700, 707, 151, 457, 449, 797, 195, 791, 558, 945, 679, 297, 59, 87,
    824, 713, 663, 412, 693, 342, 606, 134, 108, 571, 364, 631, 212, 174, 643, 304, 329, 343, 97,
    430, 751, 497, 314, 983, 374, 822, 928, 140, 206, 73, 263, 980, 736, 876, 478, 430, 305, 170,
    514, 364, 692, 829, 82, 855, 953, 676, 246, 369, 970, 294, 750, 807, 827, 150, 790, 288, 923,
    804, 378, 215, 828, 592, 281, 565, 555, 710, 82, 896, 831, 547, 261, 524, 462, 293, 465, 502,
    56, 661, 821, 976, 991, 658, 869, 905, 758, 745, 193, 768, 550, 608, 933, 378, 286, 215, 979,
    792, 961, 61, 688, 793, 644, 986, 403, 106, 366, 905, 644, 372, 567, 466, 434, 645, 210, 389,
    550, 919, 135, 780, 773, 635, 389, 707, 100, 626, 958, 165, 504, 920, 176, 193, 713, 857, 265,
    203, 50, 668, 108, 645, 990, 626, 197, 510, 357, 358, 850, 858, 364, 936, 638]

/-- Octets with the lowest bit changed in those whose turn it is.  The arguments are how many
octets go before the next one, and which distance comes after that. -/
def undisturb (bs : Array UInt8) : Array UInt8 :=
  let (_, _, out) := bs.foldl (fun (state : Nat × Nat × Array UInt8) b =>
    let (left, turn, out) := state
    let (left, turn) :=
      if left = 0 then (disturbances.getD turn 0, (turn + 1) % disturbances.size) else (left, turn)
    (left - 1, turn, out.push (if left = 2 then b ^^^ 1 else b))) (0, 0, #[])
  out

/-! ## Runs -/

/-- What is known while runs are being restored. -/
structure Runs where
  /-- The octet before. -/
  previous : UInt8 := 0
  /-- How often it came in a row. -/
  length : Nat := 0
  /-- The octets so far. -/
  out : Array UInt8 := #[]

/-- How many equal octets in a row are followed by the number of further ones. -/
def runLength : Nat := 4

/-- Restores runs up to one more octet. -/
def Runs.step (r : Runs) (b : UInt8) : Runs :=
  if r.length = runLength then
    { r with length := 0, out := r.out ++ Array.replicate b.toNat r.previous }
  else
    { previous := b
      length := if 0 < r.length && b = r.previous then r.length + 1 else 1
      out := r.out.push b }

/-- Octets with all runs restored, unless the number of further octets is missing at the end. -/
def restoreRuns (bs : Array UInt8) : Option (Array UInt8) :=
  let r := bs.foldl Runs.step {}
  if r.length = runLength then none else some r.out

/-! ## Check sums -/

/-- The divisor of the check sum, its highest coefficient in the highest bit. -/
def divisor : UInt32 := 0x04C11DB7

/-- The remainder after one more bit. -/
def shift (r : UInt32) : UInt32 :=
  if r &&& 0x80000000 = 0 then r <<< 1 else (r <<< 1) ^^^ divisor

/-- The remainders of all octets. -/
def remainders : Array UInt32 :=
  Array.ofFn fun i : Fin 256 =>
    shift (shift (shift (shift (shift (shift (shift (shift (i.val.toUInt32 <<< 24))))))))

/-- The check sum of octets. -/
def checkSum (bs : Array UInt8) : UInt32 :=
  (bs.foldl (fun (r : UInt32) b =>
    (r <<< 8) ^^^ remainders.getD ((r >>> 24) ^^^ b.toUInt32).toNat 0) 0xFFFFFFFF) ^^^ 0xFFFFFFFF

/-! ## Streams -/

/-- The unit in which the size of blocks is given. -/
def sizeUnit : Nat := 100000

/-- Reads a block of a size and adds its octets to those read. -/
def block (size : Nat) : Reader UInt32 := do
  let sum := (← bits 32).toUInt32
  let isDisturbed ← bit
  let origin ← bits 24
  if size + 10 < origin then throw .invalid
  let used ← usedOctets
  if used.isEmpty then throw .invalid
  let codeCount ← bits 3
  if codeCount < 2 || 6 < codeCount then throw .invalid
  let order ← turns codeCount
  let codes ← (List.range codeCount).mapM fun _ => code (used.length + 2)
  let codeOf (position : Nat) : Option PrefixCode := do codes[← order[position / turnSize]?]?
  let limit ← stepLimit
  let sorted ← column codeOf (used.length + 1) size limit 0 { recent := used }
  if sorted.size ≤ origin then throw .invalid
  let octets := unsort sorted origin
  match restoreRuns (if isDisturbed = 1 then undisturb octets else octets) with
  | none => throw .invalid
  | some octets =>
    if checkSum octets ≠ sum then throw .invalid
    emit octets
    return sum

/-- Reads blocks of a size up to the end.  The further arguments are a bound for their number and
the check sum of those before. -/
def blocks (size : Nat) : Nat → UInt32 → Reader Unit
  | 0, _ => throw .exhausted
  | fuel + 1, total => do
    match ← bits 8 with
    | 0x31 =>
      expect [0x41, 0x59, 0x26, 0x53, 0x59]
      let sum ← block size
      blocks size fuel (((total <<< 1) ||| (total >>> 31)) ^^^ sum)
    | 0x17 =>
      expect [0x72, 0x45, 0x38, 0x50, 0x90]
      if (← bits 32) ≠ total.toNat then throw .invalid
    | _ => throw .invalid

/-- Reads the size of blocks and the blocks. -/
def stream : Reader Unit := do
  let limit ← stepLimit
  expect [0x42, 0x5A, 0x68]
  let digit ← bits 8
  if digit < '1'.toNat || '9'.toNat < digit then throw .invalid
  blocks (sizeUnit * (digit - '0'.toNat)) limit 0

/-- The octets of the blocks, and how the reading ended. -/
def expand (bs : Bytes) : Bytes × Ending := run stream bs

end WatWorkbench.Bzip2
