import WatWorkbench.Archive.PrefixCode

/-!
# The DEFLATE format

Compressed octets are a sequence of blocks.  A block holds octets as they are, or symbols in a
prefix code: single octets, and references to octets that came before.  The code is fixed or comes
with the block.  Writing uses blocks of the first kind only; reading takes all of them.

* `Deflate.store` — octets as blocks.
* `Deflate.inflate` — the octets of blocks, and how the reading ended.
-/

namespace WatWorkbench.Deflate

open Expansion

/-! ## Writing -/

/-- The most octets that one block holds as they are. -/
def blockSize : Nat := 65535

/-- A block that holds octets as they are. -/
def storedBlock (isLast : Bool) (bs : Bytes) : Bytes :=
  let n := bs.length
  let m := blockSize - n
  (if isLast then 1 else 0) :: n.toUInt8 :: (n / 256).toUInt8 :: m.toUInt8 :: (m / 256).toUInt8 :: bs

/-- Octets as blocks.  The first argument bounds the number of blocks. -/
def storeBlocks : Nat → Bytes → Bytes
  | 0, bs => storedBlock true bs
  | fuel + 1, bs =>
    if bs.length ≤ blockSize then storedBlock true bs
    else storedBlock false (bs.take blockSize) ++ storeBlocks fuel (bs.drop blockSize)

/-- Octets as blocks. -/
def store (bs : Bytes) : Bytes := storeBlocks (bs.length / blockSize) bs

/-! ## Reading bits -/

/-- Reads one bit. -/
def bit : Reader Nat := do
  let r ← get
  if r.count = 0 then
    match r.rest with
    | [] => throw .exhausted
    | b :: bs =>
      set { r with rest := bs, held := b.toNat / 2, count := 7 }
      return b.toNat % 2
  else
    set { r with held := r.held / 2, count := r.count - 1 }
    return r.held % 2

/-- Reads a number of several bits, the lowest first. -/
def bits : Nat → Reader Nat
  | 0 => return 0
  | n + 1 => do
    let low ← bit
    return low + 2 * (← bits n)

/-! ## Symbols of blocks -/

/-- The symbol that ends a block. -/
def endSymbol : Nat := 256

/-- The least length and the number of further bits of each length symbol. -/
def lengthCodes : List (Nat × Nat) :=
  [(3, 0), (4, 0), (5, 0), (6, 0), (7, 0), (8, 0), (9, 0), (10, 0), (11, 1), (13, 1), (15, 1),
    (17, 1), (19, 2), (23, 2), (27, 2), (31, 2), (35, 3), (43, 3), (51, 3), (59, 3), (67, 4),
    (83, 4), (99, 4), (115, 4), (131, 5), (163, 5), (195, 5), (227, 5), (258, 0)]

/-- The least distance and the number of further bits of each distance symbol. -/
def distanceCodes : List (Nat × Nat) :=
  [(1, 0), (2, 0), (3, 0), (4, 0), (5, 1), (7, 1), (9, 2), (13, 2), (17, 3), (25, 3), (33, 4),
    (49, 4), (65, 5), (97, 5), (129, 6), (193, 6), (257, 7), (385, 7), (513, 8), (769, 8),
    (1025, 9), (1537, 9), (2049, 10), (3073, 10), (4097, 11), (6145, 11), (8193, 12), (12289, 12),
    (16385, 13), (24577, 13)]

/-- Reads the rest of a number whose symbol is known. -/
def amount (codes : List (Nat × Nat)) (symbol : Nat) : Reader Nat :=
  match codes[symbol]? with
  | none => throw .invalid
  | some (least, extra) => do return least + (← bits extra)

/-- Repeats octets from a distance back. -/
def repeated : Nat → Nat → Array UInt8 → Array UInt8
  | 0, _, out => out
  | n + 1, distance, out => repeated n distance (out.push (out.getD (out.size - distance) 0))

/-- Reads symbols up to the end of the block.  The first argument bounds their number. -/
def symbols (lengths distances : PrefixCode) : Nat → Reader Unit
  | 0 => throw .exhausted
  | fuel + 1 => do
    let s ← lengths.symbol bit
    if s < endSymbol then
      emit #[s.toUInt8]
      symbols lengths distances fuel
    else if s = endSymbol then return
    else
      let length ← amount lengthCodes (s - endSymbol - 1)
      let distance ← amount distanceCodes (← distances.symbol bit)
      if (← get).out.size < distance then throw .invalid
      modify fun r => { r with out := repeated length distance r.out }
      symbols lengths distances fuel

/-! ## Blocks -/

/-- The lengths of the fixed code. -/
def fixedLengths : List Nat :=
  List.replicate 144 8 ++ List.replicate 112 9 ++ List.replicate 24 7 ++ List.replicate 8 8

/-- The order in which the lengths of the code for lengths are given. -/
def lengthOrder : List Nat := [16, 17, 18, 0, 8, 7, 9, 6, 10, 5, 11, 4, 12, 3, 13, 2, 14, 1, 15]

/-- Reads the lengths of codes, in which repetitions are abbreviated, until there are enough.  The
lengths come last first; the first argument bounds the number of steps. -/
def codeLengths (c : PrefixCode) (wanted : Nat) : Nat → List Nat → Reader (List Nat)
  | 0, _ => throw .invalid
  | fuel + 1, acc => do
    if acc.length = wanted then return acc.reverse
    let s ← c.symbol bit
    if s < 16 then codeLengths c wanted fuel (s :: acc)
    else
      let (length, least, extra) ← match s, acc with
        | 16, [] => throw .invalid
        | 16, l :: _ => pure (l, 3, 2)
        | 17, _ => pure (0, 3, 3)
        | _, _ => pure (0, 11, 7)
      let count := least + (← bits extra)
      if wanted < acc.length + count then throw .invalid
      codeLengths c wanted fuel (List.replicate count length ++ acc)

/-- Reads the codes that come with a block. -/
def blockCodes : Reader (PrefixCode × PrefixCode) := do
  let lengthCount := 257 + (← bits 5)
  let distanceCount := 1 + (← bits 5)
  let orderCount := 4 + (← bits 4)
  if 286 < lengthCount || 30 < distanceCount then throw .invalid
  let given ← (List.range orderCount).mapM fun _ => bits 3
  let placed := lengthOrder.zip given
  let inner := PrefixCode.ofLengths ((List.range 19).map fun s => (placed.lookup s).getD 0)
  if !inner.isUsable false then throw .invalid
  let wanted := lengthCount + distanceCount
  let all ← codeLengths inner wanted (wanted + 1) []
  let lengths := all.take lengthCount
  if lengths[endSymbol]?.getD 0 = 0 then throw .invalid
  let lengthCode := PrefixCode.ofLengths lengths
  let distanceCode := PrefixCode.ofLengths (all.drop lengthCount)
  if !lengthCode.isUsable true || !distanceCode.isUsable true then throw .invalid
  return (lengthCode, distanceCode)

/-- Reads a block that holds octets as they are: it begins with a whole octet, and its size comes
twice, the second time with every bit changed. -/
def storedOctets : Reader Unit := do
  modify fun r => { r with held := 0, count := 0 }
  let size ← bits 16
  let check ← bits 16
  if size + check ≠ blockSize then throw .invalid
  let r ← get
  set { r with rest := r.rest.drop size, out := r.out ++ (r.rest.take size).toArray }
  if r.rest.length < size then throw .exhausted

/-- Reads blocks up to the last one.  The first argument bounds their number. -/
def blocks : Nat → Reader Unit
  | 0 => throw .exhausted
  | fuel + 1 => do
    let isLast ← bit
    let kind ← bits 2
    let limit ← stepLimit
    match kind with
    | 0 => storedOctets
    | 1 => symbols (.ofLengths fixedLengths) (.ofLengths (List.replicate 30 5)) limit
    | 2 =>
      let (lengths, distances) ← blockCodes
      symbols lengths distances limit
    | _ => throw .invalid
    if isLast = 1 then return else blocks fuel

/-- The octets of blocks, and how the reading ended. -/
def inflate (bs : Bytes) : Bytes × Ending := run (blocks (bs.length + 1)) bs

end WatWorkbench.Deflate
