import Mathlib.Algebra.Order.Ring.Nat
import Mathlib.Tactic.Common
import WatWorkbench.Archive.Deflate
import WatWorkbench.Proofs.Text.Utf8

/-!
# What inflating undoes

Bits are taken from one octet until it is used up and then from the next, so a number of sixteen
bits that begins with an octet is the number in two octets.  Blocks that hold octets as they are
need no more than that: each is read as its octets, and so is a sequence of them, whatever comes
behind.

* `Expansion.run_bind`, … — the steps of a reading.
* `Deflate.bits_within`, `Deflate.bits_held`, `Deflate.bits_word` — numbers of several bits.
* `Deflate.blocks_storedBlock`, `Deflate.blocks_storeBlocks` — blocks that hold octets.
* **`Deflate.inflate_store`** — what has been stored is inflated.
* `Deflate.Faithful` — what is assumed of compressing, and what storing satisfies.
-/

namespace WatWorkbench

namespace Expansion

variable {α β : Type} (s : Reading)

lemma run_bind (r : Reader α) (next : α → Reader β) :
    (r >>= next) s = match r s with
      | (.ok a, s) => next a s
      | (.error e, s) => (.error e, s) := by
  show ExceptT.bindCont next (r s).1 (r s).2 = _
  rcases r s with ⟨x | x, s'⟩ <;> rfl

@[simp] lemma run_pure (a : α) : (pure a : Reader α) s = (.ok a, s) := rfl

@[simp] lemma run_get : (get : Reader Reading) s = (.ok s, s) := rfl

@[simp] lemma run_set (t : Reading) : (set t : Reader PUnit) s = (.ok ⟨⟩, t) := rfl

@[simp] lemma run_modify (f : Reading → Reading) :
    (modify f : Reader PUnit) s = (.ok ⟨⟩, f s) := rfl

@[simp] lemma run_stepLimit : stepLimit s = (.ok (8 * s.rest.length + 8), s) := rfl

end Expansion

namespace Deflate

open Expansion

variable {bs : Bytes} {out : Array UInt8}

/-! ## Bits -/

lemma bit_octet (b : UInt8) (held : Nat) :
    bit ⟨b :: bs, held, 0, out⟩ = (.ok (b.toNat % 2), ⟨bs, b.toNat / 2, 7, out⟩) := rfl

lemma bit_held (held count : Nat) :
    bit ⟨bs, held, count + 1, out⟩ = (.ok (held % 2), ⟨bs, held / 2, count, out⟩) := rfl

/-- Some of the bits that are held of an octet. -/
lemma bits_within (n held count : Nat) :
    bits n ⟨bs, held, count + n, out⟩ = (.ok (held % 2 ^ n), ⟨bs, held / 2 ^ n, count, out⟩) := by
  induction n generalizing held with
  | zero => simp [bits, Nat.mod_one]
  | succ n ih =>
      rw [bits, run_bind, ← Nat.add_assoc, bit_held]
      dsimp only
      rw [run_bind, ih]
      simp only [run_pure, Nat.pow_succ', Nat.div_div_eq_div_mul, Nat.mod_mul]

/-- The bits that are held of an octet, and more. -/
lemma bits_held (n held count : Nat) :
    bits (n + count) ⟨bs, held, count, out⟩ = match bits n ⟨bs, held / 2 ^ count, 0, out⟩ with
      | (.ok high, s) => (.ok (held % 2 ^ count + 2 ^ count * high), s)
      | (.error e, s) => (.error e, s) := by
  induction count generalizing held with
  | zero =>
      simp only [Nat.add_zero, Nat.pow_zero, Nat.div_one, Nat.mod_one, Nat.zero_add, Nat.one_mul]
      split <;> assumption
  | succ count ih =>
      rw [← Nat.add_assoc, bits, run_bind, bit_held]
      dsimp only
      rw [run_bind, ih, Nat.div_div_eq_div_mul, ← Nat.pow_succ']
      rcases bits n ⟨bs, held / 2 ^ (count + 1), 0, out⟩ with ⟨e | high, s⟩
      · rfl
      · simp only [run_pure, Nat.pow_succ', Nat.mod_mul, Nat.mul_add, Nat.mul_assoc, Nat.add_assoc]

/-- The bits of an octet, and more. -/
lemma bits_octet (n : Nat) (b : UInt8) (held : Nat) :
    bits (n + 8) ⟨b :: bs, held, 0, out⟩ = match bits n ⟨bs, 0, 0, out⟩ with
      | (.ok high, s) => (.ok (b.toNat + 256 * high), s)
      | (.error e, s) => (.error e, s) := by
  have hlow : b.toNat / 2 / 2 ^ 7 = 0 := by
    have := b.toNat_lt
    omega
  rw [show n + 8 = n + 7 + 1 from rfl, bits, run_bind, bit_octet]
  dsimp only
  rw [run_bind, bits_held, hlow]
  rcases bits n ⟨bs, 0, 0, out⟩ with ⟨e | high, s⟩
  · rfl
  · have hsum : b.toNat % 2 + 2 * (b.toNat / 2 % 2 ^ 7 + 2 ^ 7 * high) = b.toNat + 256 * high := by
      have := b.toNat_lt
      omega
    simp only [run_pure, hsum]

lemma bits_word (a b : UInt8) (held : Nat) :
    bits 16 ⟨a :: b :: bs, held, 0, out⟩ = (.ok (a.toNat + 256 * b.toNat), ⟨bs, 0, 0, out⟩) := by
  rw [show 16 = 8 + 8 from rfl, bits_octet, show 8 = 0 + 8 from rfl, bits_octet]
  rfl

lemma toNat_word {n : Nat} (h : n < 65536) :
    n.toUInt8.toNat + 256 * (n / 256).toUInt8.toNat = n := by
  simp only [Nat.toUInt8, UInt8.toNat_ofNat']
  omega

/-! ## Blocks -/

/-- The octets of a block come out as they are. -/
lemma storedOctets_eq {n m : Nat} (hn : bs.length = n) (hm : n + m = blockSize) (rest : Bytes)
    (held count : Nat) :
    storedOctets ⟨n.toUInt8 :: (n / 256).toUInt8 :: m.toUInt8 :: (m / 256).toUInt8 :: (bs ++ rest),
      held, count, out⟩ = (.ok (), ⟨rest, 0, 0, out ++ bs.toArray⟩) := by
  have hsize : n < 65536 ∧ m < 65536 := by
    rw [blockSize] at hm
    omega
  rw [storedOctets, run_bind, run_modify]
  dsimp only
  rw [run_bind, bits_word, toNat_word hsize.1]
  dsimp only
  rw [run_bind, bits_word, toNat_word hsize.2]
  dsimp only
  subst hn
  have hall : ¬ bs.length + rest.length < bs.length := by omega
  simp [hm, run_bind, hall]

/-- A block is read, and then those after it unless it is the last one. -/
lemma blocks_storedBlock (fuel : Nat) (isLast : Bool) (h : bs.length ≤ blockSize) (rest : Bytes)
    (held : Nat) :
    blocks (fuel + 1) ⟨storedBlock isLast bs ++ rest, held, 0, out⟩ =
      if isLast then (.ok (), ⟨rest, 0, 0, out ++ bs.toArray⟩)
      else blocks fuel ⟨rest, 0, 0, out ++ bs.toArray⟩ := by
  have hkind : ∀ tail : Bytes, bits 2 ⟨tail, (if isLast then 1 else 0 : UInt8).toNat / 2, 7, out⟩ =
      (.ok 0, ⟨tail, 0, 5, out⟩) := fun tail => by
    rw [show 7 = 5 + 2 from rfl, bits_within]
    cases isLast <;> rfl
  have hsizes : bs.length + (blockSize - bs.length) = blockSize := Nat.add_sub_of_le h
  -- the bit that says whether the block is the last one, two bits for its kind, then its octets
  rw [storedBlock, blocks, run_bind, List.cons_append, bit_octet]
  dsimp only
  rw [run_bind, hkind]
  dsimp only
  rw [run_bind, run_stepLimit]
  simp only [List.cons_append]
  rw [run_bind, storedOctets_eq rfl hsizes]
  cases isLast <;> rfl

/-! ## Stored octets -/

lemma length_storedBlock (isLast : Bool) (bs : Bytes) :
    (storedBlock isLast bs).length = bs.length + 5 := rfl

/-- Every block adds five octets. -/
lemma length_storeBlocks (k : Nat) (bs : Bytes) :
    bs.length < (storeBlocks k bs).length ∧
      (storeBlocks k bs).length ≤ bs.length + 5 * (k + 1) := by
  induction k generalizing bs with
  | zero => simp [storeBlocks, length_storedBlock]
  | succ k ih =>
      have hrest := ih (bs.drop blockSize)
      rw [storeBlocks]
      split_ifs with hshort
      · rw [length_storedBlock]
        omega
      · rw [List.length_append, length_storedBlock]
        simp only [List.length_drop, List.length_take] at hrest ⊢
        omega

/-- Blocks are read as the octets that they hold, if there are enough of them. -/
lemma blocks_storeBlocks {k fuel : Nat} (hk : bs.length ≤ blockSize * (k + 1)) (hfuel : k < fuel)
    (held : Nat) :
    blocks fuel ⟨storeBlocks k bs, held, 0, out⟩ = (.ok (), ⟨[], 0, 0, out ++ bs.toArray⟩) := by
  induction k generalizing fuel bs out held with
  | zero =>
      obtain ⟨fuel, rfl⟩ := Nat.exists_eq_add_of_lt hfuel
      have hshort : bs.length ≤ blockSize := by omega
      simpa [storeBlocks] using blocks_storedBlock (0 + fuel) true hshort [] held
  | succ k ih =>
      obtain ⟨fuel, rfl⟩ := Nat.exists_eq_add_of_lt hfuel
      rw [storeBlocks]
      split_ifs with hshort
      · simpa using blocks_storedBlock (k + 1 + fuel) true hshort [] held
      · have hrest : (bs.drop blockSize).length ≤ blockSize * (k + 1) := by
          rw [Nat.mul_succ] at hk
          rw [List.length_drop]
          omega
        rw [blocks_storedBlock _ false (List.length_take_le _ _), if_neg (by simp),
          ih hrest (by omega)]
        simp

/-- **Storing is undone by inflating.** -/
theorem inflate_store (bs : Bytes) : inflate (store bs) = (bs, .complete) := by
  have hk : bs.length ≤ blockSize * (bs.length / blockSize + 1) := by
    rw [blockSize]
    omega
  have hfuel : bs.length / blockSize < (store bs).length + 1 := by
    have := (length_storeBlocks (bs.length / blockSize) bs).1
    rw [store]
    exact Nat.lt_succ_of_le (Nat.le_trans (Nat.div_le_self _ _) (Nat.le_of_lt this))
  have hblocks : blocks ((store bs).length + 1) ⟨store bs, 0, 0, #[]⟩ =
      (.ok (), ⟨[], 0, 0, #[] ++ bs.toArray⟩) := blocks_storeBlocks hk hfuel 0
  show ((blocks ((store bs).length + 1) ⟨store bs, 0, 0, #[]⟩).2.out.toList,
    Ending.ofStop (blocks ((store bs).length + 1) ⟨store bs, 0, 0, #[]⟩).1) = _
  rw [hblocks]
  simp [Ending.ofStop]

/-- What is assumed of a way to compress: inflating undoes it, and it adds little to what cannot be
compressed. -/
structure Faithful (pack : Bytes → Bytes) : Prop where
  undone : ∀ bs, inflate (pack bs) = (bs, .complete)
  /-- The bound that compressors state for what they give. -/
  length_le : ∀ bs, (pack bs).length ≤
    bs.length + bs.length / 4096 + bs.length / 16384 + bs.length / 33554432 + 13

lemma faithful_store : Faithful store where
  undone := inflate_store
  length_le bs := by
    have hlength := (length_storeBlocks (bs.length / blockSize) bs).2
    rw [blockSize] at hlength
    rw [store, blockSize]
    omega

end Deflate

end WatWorkbench
