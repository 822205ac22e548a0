import Mathlib.Algebra.Order.Ring.Nat
import Mathlib.Tactic.Common
import WatWorkbench.Proofs.Text.Utf8

/-!
# Where code points come from

A text that is put together from others has no surrogate if they have none, and a string never has
one.  Its length is bounded by theirs, and so is the number of octets that it is written as.

* `Text.hasSurrogate_ofString`, `Text.hasSurrogate_append`, `Text.hasSurrogate_concat`,
  `Text.hasSurrogate_replace` — texts without surrogates.
* `Text.length_ofString_le`, `Text.length_replace_le`, `Text.length_encodeAny_le` — bounds.
-/

namespace WatWorkbench.Text

variable {t u : Text}

lemma hasSurrogate_eq_false_iff :
    t.hasSurrogate = false ↔ ∀ c ∈ t.points, isSurrogate c = false := by
  rw [hasSurrogate, List.any_eq_false]
  simp

/-! ## Surrogates -/

/-- Characters are no surrogates. -/
lemma hasSurrogate_ofString (s : String) : (ofString s).hasSurrogate = false := by
  refine hasSurrogate_eq_false_iff.mpr fun c hc => ?_
  obtain ⟨char, -, rfl⟩ := List.mem_map.mp hc
  have hvalid : char.toNat < 0xD800 ∨ 0xDFFF < char.toNat ∧ char.toNat < 0x110000 := char.valid
  simp [isSurrogate]
  omega

lemma hasSurrogate_append (ht : t.hasSurrogate = false) (hu : u.hasSurrogate = false) :
    (t ++ u).hasSurrogate = false := by
  simp [hasSurrogate, List.any_append] at ht hu ⊢
  exact ⟨ht, hu⟩

lemma hasSurrogate_concat {ts : List Text} (h : ∀ t ∈ ts, t.hasSurrogate = false) :
    (concat ts).hasSurrogate = false := by
  refine hasSurrogate_eq_false_iff.mpr fun c hc => ?_
  obtain ⟨t, ht, hc⟩ := List.mem_flatMap.mp hc
  exact hasSurrogate_eq_false_iff.mp (h t ht) c hc

/-- Replacing brings in nothing but the replacement. -/
lemma mem_replace_go {pattern replacement : Text} {c : Nat} {xs : List Nat} {skip : Nat}
    (h : c ∈ replace.go pattern replacement xs skip) : c ∈ xs ∨ c ∈ replacement.points := by
  fun_induction replace.go pattern replacement xs skip with
  | case1 => cases h
  | case2 x xs skip ih => exact (ih h).imp_left (List.mem_cons_of_mem _)
  | case3 x xs hfound ih =>
      rcases List.mem_append.mp h with h | h
      · exact .inr h
      · exact (ih h).imp_left (List.mem_cons_of_mem _)
  | case4 x xs hfound ih =>
      rcases List.mem_cons.mp h with rfl | h
      · exact .inl List.mem_cons_self
      · exact (ih h).imp_left (List.mem_cons_of_mem _)

lemma hasSurrogate_replace {pattern : Text} (ht : t.hasSurrogate = false)
    (hu : u.hasSurrogate = false) : (t.replace pattern u).hasSurrogate = false := by
  rw [replace]
  split_ifs
  · exact ht
  · refine hasSurrogate_eq_false_iff.mpr fun c hc => ?_
    rcases mem_replace_go hc with hc | hc
    · exact hasSurrogate_eq_false_iff.mp ht c hc
    · exact hasSurrogate_eq_false_iff.mp hu c hc

/-! ## Lengths -/

lemma length_append (t u : Text) : (t ++ u).length = t.length + u.length := List.length_append

lemma length_concat (ts : List Text) : (concat ts).length = (ts.map length).sum :=
  List.length_flatMap

/-- A string has at least as many octets as characters. -/
lemma length_ofString_le (s : String) : (ofString s).length ≤ s.utf8ByteSize := by
  have hsize : ∀ cs : List Char, cs.length ≤ (String.ofList cs).utf8ByteSize := fun cs => by
    induction cs with
    | nil => exact Nat.zero_le _
    | cons c cs ih =>
        have hpos := c.utf8Size_pos
        rw [String.ofList_cons, String.utf8ByteSize_append, String.utf8ByteSize_singleton,
          List.length_cons]
        omega
  simpa [ofString, length] using hsize s.toList

lemma length_replace_go_le {pattern replacement : Text} (h : 1 ≤ replacement.length)
    (xs : List Nat) (skip : Nat) :
    (replace.go pattern replacement xs skip).length ≤ xs.length * replacement.length := by
  fun_induction replace.go pattern replacement xs skip with
  | case1 => simp
  | case2 x xs skip ih =>
      rw [List.length_cons, Nat.succ_mul]
      omega
  | case3 x xs hfound ih =>
      rw [List.length_cons, List.length_append, Nat.succ_mul]
      exact Nat.add_comm _ _ ▸ Nat.add_le_add ih (Nat.le_refl _)
  | case4 x xs hfound ih =>
      rw [List.length_cons, List.length_cons, Nat.succ_mul]
      omega

/-- Replacing gives at most as many copies of the replacement as there are code points. -/
lemma length_replace_le {pattern : Text} (hu : 1 ≤ u.length) :
    (t.replace pattern u).length ≤ t.length * u.length := by
  rw [replace]
  split_ifs
  · exact Nat.le_mul_of_pos_right _ hu
  · exact length_replace_go_le hu _ _

/-- A code point has four octets at most. -/
lemma length_encodeAny_le (t : Text) : t.encodeAny.length ≤ 4 * t.length := by
  obtain ⟨points⟩ := t
  rw [encodeAny, length]
  dsimp only
  induction points with
  | nil => exact Nat.le_refl _
  | cons c cs ih =>
      have hpoint : (Utf8.encodePoint c).length ≤ 4 := by
        rw [Utf8.encodePoint]
        split_ifs <;> simp
      rw [List.flatMap_cons, List.length_append, List.length_cons]
      omega

end WatWorkbench.Text
