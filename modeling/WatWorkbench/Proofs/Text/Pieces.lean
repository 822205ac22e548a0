import WatWorkbench.Proofs.Text.Utf8

/-!
# Octets as pieces

A reading loses nothing: the octets of its pieces, one after another, are those that were read.  The
pieces that are points are code points that can be encoded, so what is read can be written again,
with U+FFFD for the faults or without.  While a code point is under way, it is enough to know that
the octets that are owed, however they go on, make it a code point.

* `Utf8.IsScalar` — code points that can be encoded.
* `Utf8.Completes` — whatever comes in the ranges, octets become those of a code point.
* `Utf8.Covers` — pieces and a code point under way, next to the octets they come from;
  `covers_begin`, `Covers.next` — each octet carries it on.
* **`Utf8.flatMap_octets_pieces`**, `isScalar_of_mem_pieces` — what the pieces of octets are.
* **`Text.decode_eq_ok_iff`** — exactly the octets of texts are read strictly.
* `Text.decodeLossy_encodeAny`, `hasSurrogate_decodeLossy` — reading with replacement.
-/

namespace WatWorkbench

namespace Utf8

/-! ## Code points under way -/

/-- A code point that is no surrogate. -/
def IsScalar (c : Nat) : Prop := c < 0x110000 ∧ Text.isSurrogate c = false

/-- However the octets that are owed go on, the first one in its range and the others in theirs, all
octets together are those of a code point. -/
def Completes : Nat → Bytes → Nat → Nat → Nat → Prop
  | 0, _, _, _, _ => False
  | 1, read, low, high, bits => ∀ b : UInt8, low ≤ b.toNat → b.toNat ≤ high →
      IsScalar (bits * 64 + (b.toNat - 0x80)) ∧
        encodePoint (bits * 64 + (b.toNat - 0x80)) = read.reverse ++ [b]
  | n + 2, read, low, high, bits => ∀ b : UInt8, low ≤ b.toNat → b.toNat ≤ high →
      Completes (n + 1) (b :: read) 0x80 0xBF (bits * 64 + (b.toNat - 0x80))

def Pending.Sound (p : Pending) : Prop := Completes p.owed p.read p.low p.high p.bits

lemma toUInt8_eq {n : Nat} {b : UInt8} (h : n = b.toNat) : n.toUInt8 = b := by
  rw [h]
  exact UInt8.ofNat_toNat

lemma isScalar_iff {c : Nat} : IsScalar c ↔ c < 0xD800 ∨ 0xDFFF < c ∧ c < 0x110000 := by
  simp only [IsScalar, Text.isSurrogate, Bool.and_eq_false_iff, decide_eq_false_iff_not]
  omega

/-! ### The first octet -/

section Lead

variable {b : UInt8}

lemma completes_two (hlow : 0xC2 ≤ b.toNat) (hhigh : b.toNat < 0xE0) :
    Completes 1 [b] 0x80 0xBF (b.toNat - 0xC0) := by
  intro b₁ h₁ h₁'
  refine ⟨isScalar_iff.mpr (by omega), ?_⟩
  rw [encodePoint, if_neg (by omega), if_pos (by omega), toUInt8_eq (b := b) (by omega),
    toUInt8_eq (b := b₁) (by omega)]
  rfl

lemma completes_three (hlow : 0xE0 ≤ b.toNat) (hhigh : b.toNat < 0xF0) :
    Completes 2 [b] (if b.toNat = 0xE0 then 0xA0 else 0x80) (if b.toNat = 0xED then 0x9F else 0xBF)
      (b.toNat - 0xE0) := by
  intro b₁ h₁ h₁' b₂ h₂ h₂'
  have hsecond : 0x80 ≤ b₁.toNat ∧ b₁.toNat ≤ 0xBF ∧ (b.toNat = 0xE0 → 0xA0 ≤ b₁.toNat) ∧
      (b.toNat = 0xED → b₁.toNat ≤ 0x9F) := by
    split_ifs at h₁ h₁' <;> omega
  refine ⟨isScalar_iff.mpr (by omega), ?_⟩
  rw [encodePoint, if_neg (by omega), if_neg (by omega), if_pos (by omega),
    toUInt8_eq (b := b) (by omega), toUInt8_eq (b := b₁) (by omega),
    toUInt8_eq (b := b₂) (by omega)]
  rfl

lemma completes_four (hlow : 0xF0 ≤ b.toNat) (hhigh : b.toNat < 0xF5) :
    Completes 3 [b] (if b.toNat = 0xF0 then 0x90 else 0x80) (if b.toNat = 0xF4 then 0x8F else 0xBF)
      (b.toNat - 0xF0) := by
  intro b₁ h₁ h₁' b₂ h₂ h₂' b₃ h₃ h₃'
  have hsecond : 0x80 ≤ b₁.toNat ∧ b₁.toNat ≤ 0xBF ∧ (b.toNat = 0xF0 → 0x90 ≤ b₁.toNat) ∧
      (b.toNat = 0xF4 → b₁.toNat ≤ 0x8F) := by
    split_ifs at h₁ h₁' <;> omega
  refine ⟨isScalar_iff.mpr (by omega), ?_⟩
  rw [encodePoint, if_neg (by omega), if_neg (by omega), if_neg (by omega),
    toUInt8_eq (b := b) (by omega), toUInt8_eq (b := b₁) (by omega),
    toUInt8_eq (b := b₂) (by omega), toUInt8_eq (b := b₃) (by omega)]
  rfl

end Lead

/-! ## Pieces next to their octets -/

/-- The octets that a piece stands for. -/
def Piece.octets : Piece → Bytes
  | .point c => encodePoint c
  | .fault bytes _ => bytes

/-- The octets of the pieces and those of the code point under way are the given ones, and all
points are in order. -/
structure Covers (bs : Bytes) (out : List Piece × Option Pending) : Prop where
  octets : out.1.flatMap Piece.octets ++ out.2.elim [] (·.read.reverse) = bs
  points : ∀ c, .point c ∈ out.1 → IsScalar c
  sound : ∀ p ∈ out.2, p.Sound

lemma Covers.append {bs more : Bytes} {ps : List Piece} {out : List Piece × Option Pending}
    (h : Covers bs (ps, none)) (h' : Covers more out) :
    Covers (bs ++ more) (ps ++ out.1, out.2) where
  octets := by
    have hleft : ps.flatMap Piece.octets = bs := by simpa using h.octets
    rw [List.flatMap_append, List.append_assoc, h'.octets, hleft]
  points c hc := (List.mem_append.mp hc).elim (h.points c) (h'.points c)
  sound := h'.sound

lemma covers_fault (bs : Bytes) (reason : Reason) : Covers bs ([.fault bs reason], none) :=
  ⟨by simp [Piece.octets], by simp, by simp⟩

lemma covers_point {bs : Bytes} {c : Nat} (hscalar : IsScalar c) (hoctets : encodePoint c = bs) :
    Covers bs ([.point c], none) where
  octets := by simpa [Piece.octets] using hoctets
  points d hd := by
    obtain rfl := Piece.point.inj (List.mem_singleton.mp hd)
    exact hscalar
  sound := by simp

lemma covers_pending {p : Pending} (h : p.Sound) : Covers p.read.reverse ([], some p) :=
  ⟨rfl, by simp, by rintro q ⟨⟩; exact h⟩

lemma covers_begin (b : UInt8) : Covers [b] (begin b) := by
  have hsound {owed low high bits : Nat} (h : Completes owed [b] low high bits) :
      Covers [b] ([], some ⟨[b], owed, low, high, bits⟩) :=
    covers_pending (p := ⟨[b], owed, low, high, bits⟩) h
  unfold begin
  dsimp only
  by_cases hone : b.toNat < 0x80
  · rw [if_pos hone]
    refine covers_point (isScalar_iff.mpr (by omega)) ?_
    rw [encodePoint, if_pos hone, toUInt8_eq rfl]
  rw [if_neg hone]
  by_cases hstray : b.toNat < 0xC2
  · rw [if_pos hstray]
    exact covers_fault [b] .start
  rw [if_neg hstray]
  by_cases htwo : b.toNat < 0xE0
  · rw [if_pos htwo]
    exact hsound (completes_two (by omega) htwo)
  rw [if_neg htwo]
  by_cases hthree : b.toNat < 0xF0
  · rw [if_pos hthree]
    exact hsound (completes_three (by omega) hthree)
  rw [if_neg hthree]
  by_cases hfour : b.toNat < 0xF5
  · rw [if_pos hfour]
    exact hsound (completes_four (by omega) hfour)
  · rw [if_neg hfour]
    exact covers_fault [b] .start

/-- An octet completes a code point, carries it on or ends it as a fault. -/
lemma Pending.Sound.covers_next {p : Pending} (h : p.Sound) (b : UInt8) :
    Covers (p.read.reverse ++ [b]) (p.next b) := by
  obtain ⟨read, owed, low, high, bits⟩ := p
  unfold Pending.next
  by_cases hrange : low ≤ b.toNat ∧ b.toNat ≤ high
  · rw [if_pos (by simpa using hrange)]
    obtain ⟨hlow, hhigh⟩ := hrange
    match owed, h with
    | 1, h =>
      obtain ⟨hscalar, hoctets⟩ := h b hlow hhigh
      exact covers_point hscalar hoctets
    | n + 2, h =>
      have hmore : Pending.Sound ⟨b :: read, n + 1, 0x80, 0xBF, bits * 64 + (b.toNat - 0x80)⟩ :=
        h b hlow hhigh
      rw [← List.reverse_cons]
      exact covers_pending hmore
  · rw [if_neg (by simpa using hrange)]
    exact (covers_fault read.reverse .continuation).append (covers_begin b)

/-- The pieces that are finished, without what is under way. -/
lemma Covers.finished {bs : Bytes} {ps : List Piece} {p : Pending} (h : Covers bs (ps, some p)) :
    ∃ before, bs = before ++ p.read.reverse ∧ Covers before (ps, none) :=
  ⟨ps.flatMap Piece.octets, h.octets.symm, by simp, h.points, by simp⟩

lemma Covers.next {bs : Bytes} {r : Reading} (h : Covers bs (r.done.reverse, r.pending))
    (b : UInt8) : Covers (bs ++ [b]) ((r.next b).done.reverse, (r.next b).pending) := by
  obtain ⟨done, pending⟩ := r
  cases pending with
  | none =>
      simpa [Reading.next] using h.append (covers_begin b)
  | some p =>
      obtain ⟨before, rfl, hdone⟩ := h.finished
      rw [List.append_assoc]
      simpa [Reading.next] using hdone.append ((h.sound p rfl).covers_next b)

lemma covers_foldl (bs : Bytes) {before : Bytes} {r : Reading}
    (h : Covers before (r.done.reverse, r.pending)) :
    Covers (before ++ bs)
      ((bs.foldl Reading.next r).done.reverse, (bs.foldl Reading.next r).pending) := by
  induction bs generalizing before r with
  | nil => simpa using h
  | cons b bs ih =>
      rw [← List.singleton_append, ← List.append_assoc]
      exact ih (h.next b)

/-- What is under way at the end of the octets is a fault. -/
lemma covers_pieces (bs : Bytes) : Covers bs (pieces bs, none) := by
  have hnone : Covers [] ((⟨[], none⟩ : Reading).done.reverse, (⟨[], none⟩ : Reading).pending) :=
    ⟨rfl, by simp, by simp⟩
  have h := covers_foldl bs hnone
  rw [List.nil_append] at h
  unfold pieces Reading.finish
  generalize bs.foldl Reading.next ⟨[], none⟩ = r at h
  obtain ⟨done, pending⟩ := r
  cases pending with
  | none => exact h
  | some p =>
      obtain ⟨before, rfl, hdone⟩ := h.finished
      simpa using hdone.append (covers_fault p.read.reverse .truncated)

/-- **The pieces of octets are these octets**, cut. -/
theorem flatMap_octets_pieces (bs : Bytes) : (pieces bs).flatMap Piece.octets = bs := by
  simpa using (covers_pieces bs).octets

lemma isScalar_of_mem_pieces {bs : Bytes} {c : Nat} (h : .point c ∈ pieces bs) : IsScalar c :=
  (covers_pieces bs).points c h

end Utf8

/-! ## Readers -/

namespace Text

open Utf8 (Piece IsScalar)

variable {bs : Bytes} {t : Text}

lemma eq_map_point_of_findFault {offset : Nat} {ps : List Piece} (h : findFault offset ps = none) :
    ps = (ps.filterMap ofPiece?).map .point := by
  induction ps generalizing offset with
  | nil => rfl
  | cons p ps ih =>
      cases p with
      | fault bytes reason => cases h
      | point c => exact congrArg (Piece.point c :: ·) (ih h)

lemma hasSurrogate_eq_false_of_isScalar (h : ∀ c ∈ t.points, IsScalar c) :
    t.hasSurrogate = false := by
  rw [hasSurrogate, List.any_eq_false]
  intro c hc
  simpa using (h c hc).2

/-- **Exactly the octets of texts** without surrogates are read strictly, each as the text that it
is from. -/
theorem decode_eq_ok_iff :
    decode bs = .ok t ↔ t.InRange ∧ t.hasSurrogate = false ∧ t.encodeAny = bs := by
  constructor
  · intro h
    simp only [decode] at h
    split at h
    · cases h
    · next hnone =>
        cases h
        have hpoints := eq_map_point_of_findFault hnone
        have hscalar : ∀ c ∈ (Utf8.pieces bs).filterMap ofPiece?, IsScalar c := by
          intro c hc
          have hmem : Piece.point c ∈ Utf8.pieces bs := by
            rw [hpoints]
            exact List.mem_map_of_mem hc
          exact Utf8.isScalar_of_mem_pieces hmem
        refine ⟨fun c hc => (hscalar c hc).1, hasSurrogate_eq_false_of_isScalar hscalar, ?_⟩
        have hoctets := Utf8.flatMap_octets_pieces bs
        rw [hpoints, List.flatMap_map] at hoctets
        exact hoctets
  · rintro ⟨hrange, hsurrogate, rfl⟩
    exact decode_encodeAny hrange hsurrogate

/-- What is read with replacement consists of code points that can be encoded. -/
lemma isScalar_of_mem_decodeLossy {c : Nat} (h : c ∈ (decodeLossy bs).points) : IsScalar c := by
  obtain ⟨p, hp, rfl⟩ := List.mem_map.mp h
  cases p with
  | point c => exact Utf8.isScalar_of_mem_pieces hp
  | fault bytes reason =>
      have hreplacement : IsScalar 0xFFFD := Utf8.isScalar_iff.mpr (by decide)
      exact hreplacement

lemma hasSurrogate_decodeLossy (bs : Bytes) : (decodeLossy bs).hasSurrogate = false :=
  hasSurrogate_eq_false_of_isScalar fun _ => isScalar_of_mem_decodeLossy

lemma inRange_decodeLossy (bs : Bytes) : (decodeLossy bs).InRange := fun _ hc =>
  (isScalar_of_mem_decodeLossy hc).1

/-- Where there is nothing to replace, both readers read the same. -/
lemma decodeLossy_of_decode (h : decode bs = .ok t) : decodeLossy bs = t := by
  simp only [decode] at h
  split at h
  · cases h
  · next hnone =>
      cases h
      have hpoints := eq_map_point_of_findFault hnone
      rw [decodeLossy]
      congr 1
      conv_lhs => rw [hpoints]
      simp [Function.comp_def, ofPiece?]

lemma decodeLossy_encodeAny (hrange : t.InRange) (h : t.hasSurrogate = false) :
    decodeLossy t.encodeAny = t := decodeLossy_of_decode (decode_encodeAny hrange h)

end Text

end WatWorkbench
