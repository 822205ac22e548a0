import WatWorkbench.Files.System
import WatWorkbench.Proofs.Text.Pieces
import WatWorkbench.Proofs.Text.Points

/-!
# The ends of lines

A file that is read as a text has all its lines ended alike.  The octets of the text are then those of
the file with the carriage returns replaced: a code point that is written as several octets has none
below 0x80, so it takes no part in that.

* `Text.unifyEnds` — octets with all lines ended alike.
* **`Text.encodeAny_unifyNewlines`** — those of a text that has been read.
* `Text.unifyEnds_eq_self_iff` — which octets that changes.
-/

namespace WatWorkbench

namespace Utf8

/-- Octets below 0x80 are code points by themselves. -/
lemma toNat_of_mem_encodePoint {c : Nat} {b : UInt8} (hrange : c < 0x110000)
    (hmem : b ∈ encodePoint c) (hb : b.toNat < 0x80) : b.toNat = c := by
  unfold encodePoint at hmem
  split_ifs at hmem <;> simp only [List.mem_cons, List.not_mem_nil, or_false] at hmem
  · rw [hmem, toNat_toUInt8 (by omega)]
  -- every octet of several has its highest bit set
  · rcases hmem with rfl | rfl <;> rw [toNat_toUInt8 (by omega)] at hb <;> omega
  · rcases hmem with rfl | rfl | rfl <;> rw [toNat_toUInt8 (by omega)] at hb <;> omega
  · rcases hmem with rfl | rfl | rfl | rfl <;> rw [toNat_toUInt8 (by omega)] at hb <;> omega

lemma eq_of_mem_encodePoint {c n : Nat} (hrange : c < 0x110000) (hn : n < 0x80)
    (hmem : n.toUInt8 ∈ encodePoint c) : c = n := by
  have hoctet := toNat_toUInt8 (show n < 256 by omega)
  rw [← toNat_of_mem_encodePoint hrange hmem (by omega), hoctet]

lemma encodePoint_ne_nil (c : Nat) : encodePoint c ≠ [] := by
  unfold encodePoint
  split_ifs <;> simp

end Utf8

namespace Text

open Utf8 (encodePoint)

/-- Octets in which every line ends with the same octet, however lines ended before. -/
def unifyEnds : Bytes → Bytes
  | 13 :: 10 :: bs => 10 :: unifyEnds bs
  | 13 :: bs => 10 :: unifyEnds bs
  | b :: bs => b :: unifyEnds bs
  | [] => []

lemma notMem_unifyEnds (bs : Bytes) : 13 ∉ unifyEnds bs := by
  fun_induction unifyEnds bs with
  | case1 bs ih => simpa using ih
  | case2 bs hbs ih => simpa using ih
  | case3 b bs hpair hreturn ih => simpa using ⟨fun hb => hreturn hb.symm, ih⟩
  | case4 => simp

lemma unifyEnds_append {bs : Bytes} (h : 13 ∉ bs) (cs : Bytes) :
    unifyEnds (bs ++ cs) = bs ++ unifyEnds cs := by
  induction bs with
  | nil => rfl
  | cons b bs ih =>
      obtain ⟨hb, hbs⟩ := not_or.mp (List.mem_cons.not.mp h)
      have hreturn : b ≠ 13 := Ne.symm hb
      rw [List.cons_append, unifyEnds, ih hbs, List.cons_append]
      · exact fun _ hb _ => hreturn hb
      · exact hreturn

/-- Only octets with a carriage return are changed. -/
lemma unifyEnds_eq_self_iff {bs : Bytes} : unifyEnds bs = bs ↔ 13 ∉ bs := by
  constructor
  · intro h
    rw [← h]
    exact notMem_unifyEnds bs
  · intro h
    simpa [unifyEnds] using unifyEnds_append h []

/-- A carriage return that no line feed follows ends a line by itself. -/
lemma unifyEnds_return {bs : Bytes} (h : ∀ b ∈ bs.head?, b ≠ 10) :
    unifyEnds (13 :: bs) = 10 :: unifyEnds bs := by
  rw [unifyEnds]
  rintro bs rfl
  exact h 10 rfl rfl

/-- The octets of code points with all lines ended alike. -/
lemma flatMap_encodePoint_go {cs : List Nat} (hrange : ∀ c ∈ cs, c < 0x110000) :
    (FileSystem.unifyNewlines.go cs).flatMap encodePoint =
      unifyEnds (cs.flatMap encodePoint) := by
  have hreturnOctet : encodePoint 13 = [13] := rfl
  have hfeedOctet : encodePoint 10 = [10] := rfl
  fun_induction FileSystem.unifyNewlines.go cs with
  | case1 cs ih =>
      have ih := ih fun c hc => hrange c (by simp [hc])
      simp only [List.flatMap_cons, hreturnOctet, hfeedOctet, List.cons_append, List.nil_append,
        unifyEnds, ih]
  | case2 cs hcs ih =>
      have ih := ih fun c hc => hrange c (by simp [hc])
      simp only [List.flatMap_cons, hreturnOctet, hfeedOctet, List.cons_append, List.nil_append, ih]
      refine (unifyEnds_return ?_).symm
      -- what is written first for the next code point is not the octet of a line feed
      cases cs with
      | nil => simp
      | cons c cs =>
          intro b hb hfeed
          obtain ⟨octet, octets, hoctets⟩ := List.exists_cons_of_ne_nil (Utf8.encodePoint_ne_nil c)
          rw [List.flatMap_cons, hoctets] at hb
          obtain rfl : octet = b := by simpa using hb
          have hc : c = 10 := Utf8.eq_of_mem_encodePoint (hrange c (by simp)) (by decide)
            (by rw [hoctets, hfeed]; simp)
          exact hcs cs (by rw [hc])
  | case3 c cs hpair hreturn ih =>
      have ih := ih fun c hc => hrange c (by simp [hc])
      have hnone : 13 ∉ encodePoint c := fun hmem =>
        hreturn (Utf8.eq_of_mem_encodePoint (hrange c (by simp)) (by decide) hmem)
      rw [List.flatMap_cons, List.flatMap_cons, unifyEnds_append hnone, ih]
  | case4 => rfl

lemma mem_unifyNewlines_go {cs : List Nat} {c : Nat} (h : c ∈ FileSystem.unifyNewlines.go cs) :
    c = 10 ∨ c ∈ cs := by
  fun_induction FileSystem.unifyNewlines.go cs with
  | case1 cs ih | case2 cs _ ih =>
      rcases List.mem_cons.mp h with rfl | hmem
      · exact .inl rfl
      · exact (ih hmem).imp_right (by simp +contextual)
  | case3 d cs _ _ ih =>
      rcases List.mem_cons.mp h with rfl | hmem
      · exact .inr List.mem_cons_self
      · exact (ih hmem).imp_right (List.mem_cons_of_mem d)
  | case4 => cases h

section Reading

variable {bs : Bytes} {t : Text} (h : decode bs = .ok t)

include h

lemma hasSurrogate_unifyNewlines : (FileSystem.unifyNewlines t).hasSurrogate = false := by
  have hplain := (decode_eq_ok_iff.mp h).2.1
  rw [hasSurrogate_eq_false_iff] at hplain ⊢
  intro c hc
  rcases mem_unifyNewlines_go hc with rfl | hmem
  · rfl
  · exact hplain c hmem

/-- **The octets of a text that is read** from a file are those of the file, with all lines ended
alike. -/
theorem encodeAny_unifyNewlines : (FileSystem.unifyNewlines t).encodeAny = unifyEnds bs := by
  obtain ⟨hrange, -, rfl⟩ := decode_eq_ok_iff.mp h
  exact flatMap_encodePoint_go hrange

lemma encode_unifyNewlines : (FileSystem.unifyNewlines t).encode = .ok (unifyEnds bs) := by
  rw [encode_of_not_hasSurrogate (hasSurrogate_unifyNewlines h), encodeAny_unifyNewlines h]

end Reading

end Text

end WatWorkbench
