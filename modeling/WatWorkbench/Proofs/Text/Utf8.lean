import Mathlib.Tactic.Common
import WatWorkbench.Text.Utf8

/-!
# Texts as octets and back

Encoding refuses a text exactly when it has a surrogate, and gives the octets of its code points one
after another otherwise.  Reading takes the octets of a code point for that point whatever has come
before, so it gives back every text that can be encoded.

* `Text.InRange` — the code points are below the bound of all code points.
* `Text.encode_of_hasSurrogate`, `Text.encode_of_not_hasSurrogate` — what encoding comes to.
* `Utf8.foldl_encodePoint` — the octets of a code point are read as that point.
* **`Text.decode_encodeAny`** — a text without surrogates is read from its octets.
-/

namespace WatWorkbench

namespace Text

/-- The code points of the text are code points: they are below 0x110000. -/
def InRange (t : Text) : Prop := ∀ c ∈ t.points, c < 0x110000

instance (t : Text) : Decidable t.InRange := inferInstanceAs (Decidable (∀ c ∈ t.points, _))

/-! ## Encoding -/

lemma findUnencodable_eq_none_iff {index : Nat} {cs : List Nat} :
    findUnencodable .utf8 index cs = none ↔ cs.any isSurrogate = false := by
  induction cs generalizing index with
  | nil => simp [findUnencodable]
  | cons c cs ih =>
      rw [findUnencodable]
      by_cases hc : isSurrogate c
      · simp [Encoding.encodes, hc]
      · simp [Encoding.encodes, hc, ih]

lemma encode_of_not_hasSurrogate {t : Text} (h : t.hasSurrogate = false) :
    t.encode = .ok t.encodeAny := by
  rw [encode, findUnencodable_eq_none_iff.mpr h]
  rfl

lemma encode_of_hasSurrogate {t : Text} (h : t.hasSurrogate = true) :
    ∃ fault, t.encode = .error fault := by
  rw [encode]
  cases hfound : findUnencodable .utf8 0 t.points with
  | some fault => exact ⟨fault, rfl⟩
  | none =>
      have hnone := findUnencodable_eq_none_iff.mp hfound
      rw [← hasSurrogate, h] at hnone
      cases hnone

end Text

/-! ## Reading the octets of a code point

The first octet says how many there are and what the second one may be; the others are alike. -/

namespace Utf8

lemma toNat_toUInt8 {n : Nat} (h : n < 256) : n.toUInt8.toNat = n := by
  simp only [Nat.toUInt8, UInt8.toNat_ofNat']
  omega

lemma begin_one {n : Nat} (h : n < 0x80) : begin n.toUInt8 = ([.point n], none) := by
  rw [begin, toNat_toUInt8 (by omega), if_pos h]

lemma begin_two {n : Nat} (hlow : 2 ≤ n) (hhigh : n < 0x20) :
    begin (0xC0 + n).toUInt8 = ([], some ⟨[(0xC0 + n).toUInt8], 1, 0x80, 0xBF, n⟩) := by
  rw [begin, toNat_toUInt8 (by omega), if_neg (by omega), if_neg (by omega), if_pos (by omega)]
  simp

lemma begin_three {n : Nat} (h : n < 0x10) :
    begin (0xE0 + n).toUInt8 = ([], some ⟨[(0xE0 + n).toUInt8], 2, if n = 0 then 0xA0 else 0x80,
      if n = 0xD then 0x9F else 0xBF, n⟩) := by
  rw [begin, toNat_toUInt8 (by omega), if_neg (by omega), if_neg (by omega), if_neg (by omega),
    if_pos (by omega)]
  simp [show 0xE0 + n = 0xED ↔ n = 0xD by omega]

lemma begin_four {n : Nat} (h : n < 5) :
    begin (0xF0 + n).toUInt8 = ([], some ⟨[(0xF0 + n).toUInt8], 3, if n = 0 then 0x90 else 0x80,
      if n = 4 then 0x8F else 0xBF, n⟩) := by
  rw [begin, toNat_toUInt8 (by omega), if_neg (by omega), if_neg (by omega), if_neg (by omega),
    if_neg (by omega), if_pos (by omega)]
  simp [show 0xF0 + n = 0xF4 ↔ n = 4 by omega]

section Next

variable {p : Pending} {n : Nat} (hn : n < 64) (hlow : p.low ≤ 0x80 + n) (hhigh : 0x80 + n ≤ p.high)

include hn hlow hhigh

lemma next_last (howed : p.owed = 1) :
    p.next (0x80 + n).toUInt8 = ([.point (p.bits * 64 + n)], none) := by
  rw [Pending.next, toNat_toUInt8 (by omega)]
  simp [howed, hlow, hhigh]

lemma next_more (howed : p.owed ≠ 1) :
    p.next (0x80 + n).toUInt8 =
      ([], some ⟨(0x80 + n).toUInt8 :: p.read, p.owed - 1, 0x80, 0xBF, p.bits * 64 + n⟩) := by
  rw [Pending.next, toNat_toUInt8 (by omega)]
  simp [howed, hlow, hhigh]

end Next

/-- The octets of a code point are read as that point. -/
lemma foldl_encodePoint {c : Nat} (hrange : c < 0x110000) (hsurrogate : Text.isSurrogate c = false)
    (done : List Piece) :
    (encodePoint c).foldl Reading.next ⟨done, none⟩ = ⟨.point c :: done, none⟩ := by
  have hplain : c < 0xD800 ∨ 0xDFFF < c := by
    simp only [Text.isSurrogate, Bool.and_eq_false_iff, decide_eq_false_iff_not] at hsurrogate
    omega
  unfold encodePoint
  -- one case for each number of octets
  split_ifs with hone htwo hthree
  · simp [Reading.next, begin_one hone]
  · simp only [List.foldl_cons, List.foldl_nil, Reading.next]
    rw [begin_two (by omega) (by omega)]
    dsimp only
    rw [next_last (by omega) (by dsimp only; omega) (by dsimp only; omega) rfl]
    simp
    omega
  · simp only [List.foldl_cons, List.foldl_nil, Reading.next]
    rw [begin_three (by omega)]
    dsimp only
    -- the range of the second octet leaves out overlong forms and surrogates
    rw [next_more (by omega) (by dsimp only; split_ifs <;> omega)
      (by dsimp only; split_ifs <;> omega) (by simp)]
    dsimp only
    rw [next_last (by omega) (by dsimp only; omega) (by dsimp only; omega) rfl]
    simp
    omega
  · simp only [List.foldl_cons, List.foldl_nil, Reading.next]
    rw [begin_four (by omega)]
    dsimp only
    rw [next_more (by omega) (by dsimp only; split_ifs <;> omega)
      (by dsimp only; split_ifs <;> omega) (by simp)]
    dsimp only
    rw [next_more (by omega) (by dsimp only; omega) (by dsimp only; omega) (by simp)]
    dsimp only
    rw [next_last (by omega) (by dsimp only; omega) (by dsimp only; omega) rfl]
    simp
    omega

lemma foldl_flatMap_encodePoint {cs : List Nat} (hrange : ∀ c ∈ cs, c < 0x110000)
    (hsurrogate : cs.any Text.isSurrogate = false) (done : List Piece) :
    (cs.flatMap encodePoint).foldl Reading.next ⟨done, none⟩ =
      ⟨(cs.map .point).reverse ++ done, none⟩ := by
  induction cs generalizing done with
  | nil => rfl
  | cons c cs ih =>
      rw [List.any_cons, Bool.or_eq_false_iff] at hsurrogate
      rw [List.flatMap_cons, List.foldl_append,
        foldl_encodePoint (hrange c List.mem_cons_self) hsurrogate.1,
        ih (fun d hd => hrange d (List.mem_cons_of_mem _ hd)) hsurrogate.2]
      simp

end Utf8

/-! ## Reading a text -/

namespace Text

lemma findFault_map_point (offset : Nat) (cs : List Nat) :
    findFault offset (cs.map .point) = none := by
  induction cs generalizing offset with
  | nil => rfl
  | cons c cs ih => exact ih _

/-- **A text is read from its octets**, if it has no surrogates. -/
theorem decode_encodeAny {t : Text} (hrange : t.InRange) (h : t.hasSurrogate = false) :
    decode t.encodeAny = .ok t := by
  have hpieces : Utf8.pieces t.encodeAny = t.points.map .point := by
    rw [Utf8.pieces, encodeAny, Utf8.foldl_flatMap_encodePoint hrange h]
    simp [Utf8.Reading.finish]
  simp only [decode, hpieces, findFault_map_point]
  simp [List.filterMap_map, Function.comp_def, ofPiece?]

end Text

end WatWorkbench
