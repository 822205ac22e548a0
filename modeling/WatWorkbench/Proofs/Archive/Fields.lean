import Mathlib.Algebra.Order.Ring.Nat
import Mathlib.Tactic.Common
import WatWorkbench.Archive.Reader
import WatWorkbench.Archive.Writer
import WatWorkbench.Proofs.Text.Utf8

/-!
# Fields of archives

What is written of an entry is a row of numbers of fixed widths, and what is read are numbers at
fixed places.  The two fit together as long as the numbers are small enough for their widths.

* `slice_between`, `number_append_right`, `number_ofNat` — looking for octets and for a number in a
  row.
* `Printable` — names that are their own octets.
* `Entry.Plain` — an entry whose numbers fit and whose name is printable.
* `readEntry_directory` — an entry of the directory is read as it was written.
-/

namespace WatWorkbench.Archive

open LittleEndian

/-! ## Places in a row -/

section Places

variable {a b c : Bytes} {start count n : Nat}

lemma slice_append_right (h : a.length ≤ start) :
    slice (a ++ b) start count = slice b (start - a.length) count := by
  rw [slice, slice, List.drop_append, List.drop_eq_nil_of_le h, List.nil_append]

lemma slice_append_left (h : count = a.length) : slice (a ++ b) 0 count = a := by
  rw [slice, List.drop_zero, h, List.take_left]

/-- Octets between others are found where they begin. -/
lemma slice_between (hstart : start = a.length) (hcount : count = b.length) :
    slice (a ++ (b ++ c)) start count = b := by
  rw [slice_append_right (Nat.le_of_eq hstart.symm), hstart, Nat.sub_self, slice_append_left hcount]

@[simp] lemma number_append_right (h : a.length ≤ start) :
    number (a ++ b) start count = number b (start - a.length) count := by
  rw [number, number, slice_append_right h]

lemma take_ofNat {width : Nat} (h : count ≤ width) :
    (ofNat width n).take count = ofNat count n := by
  induction count generalizing width n with
  | zero => rfl
  | succ count ih =>
      obtain ⟨width, rfl⟩ := Nat.exists_eq_add_of_le' h
      rw [← Nat.add_assoc, ofNat, List.take_succ_cons, ih (Nat.le_add_left _ _), ofNat]

/-- A number that fits is found where it was written. -/
@[simp] lemma number_ofNat_append {width : Nat} (h : n < 256 ^ count) (hwidth : count ≤ width) :
    number (ofNat width n ++ b) 0 count = n := by
  have hslice : slice (ofNat width n ++ b) 0 count = ofNat count n := by
    rw [slice, List.drop_zero, List.take_append_of_le_length (by simpa using hwidth),
      take_ofNat hwidth]
  rw [number, hslice, toNat_ofNat]
  exact Nat.mod_eq_of_lt h

@[simp] lemma number_ofNat {width : Nat} (h : n < 256 ^ count) (hwidth : count ≤ width) :
    number (ofNat width n) 0 count = n := by
  rw [← List.append_nil (ofNat width n), number_ofNat_append h hwidth]

end Places

@[simp] lemma length_entryMark : entryMark.length = 4 := by simp [entryMark]
@[simp] lemma length_directoryMark : directoryMark.length = 4 := by simp [directoryMark]
@[simp] lemma length_endMark : endMark.length = 4 := by simp [endMark]
@[simp] lemma length_wideEndMark : wideEndMark.length = 4 := by simp [wideEndMark]
@[simp] lemma length_locatorMark : locatorMark.length = 4 := by simp [locatorMark]

/-! ## Names -/

/-- The name has characters from the blank to the tilde only. -/
def Printable (name : Text) : Prop := ∀ c ∈ name.points, 0x20 ≤ c ∧ c < 0x7F

instance (name : Text) : Decidable (Printable name) :=
  inferInstanceAs (Decidable (∀ c ∈ name.points, _))

section Names

variable {name : Text} (h : Printable name)

include h

lemma Printable.encodeAny : name.encodeAny = name.points.map Nat.toUInt8 := by
  have hpoints : ∀ c ∈ name.points, Utf8.encodePoint c = [c.toUInt8] := fun c hc => by
    have := h c hc
    rw [Utf8.encodePoint, if_pos (by omega)]
  rw [Text.encodeAny, List.map_eq_flatMap, List.flatMap_def, List.flatMap_def,
    List.map_congr_left hpoints]

lemma Printable.nameOf : nameOf 0 name.encodeAny = .ok name := by
  have hpoints : ∀ c ∈ name.points, (namePoint ∘ Nat.toUInt8) c = id c := fun c hc => by
    have := h c hc
    have hc : c.toUInt8.toNat = c := Utf8.toNat_toUInt8 (by omega)
    rw [Function.comp_apply, namePoint,
      if_pos (UInt8.lt_iff_toNat_lt.mpr (by rw [hc]; simp; omega)), hc, id]
  rw [Archive.nameOf, decodeName, h.encodeAny, List.map_map, List.map_congr_left hpoints,
    List.map_id]
  rfl

lemma Printable.visibleName : visibleName name = name := by
  have hpoints : ∀ c ∈ name.points, decide (c ≠ 0) = true := fun c hc => by
    have := h c hc
    simp
    omega
  rw [Archive.visibleName, ← List.append_nil name.points, List.takeWhile_append_of_pos hpoints]
  simp

end Names

/-! ## Entries of the directory -/

/-- The numbers of the entry fit into their fields, and its name is printable. -/
structure Entry.Plain (e : Entry) : Prop where
  name : Printable e.name
  nameSize : e.name.encodeAny.length < 256 ^ 2
  createVersion : e.createVersion < 256 ^ 1
  createSystem : e.createSystem < 256 ^ 1
  extractVersion : e.extractVersion < 256 ^ 1
  flags : e.flags = 0
  method : e.method < 256 ^ 2
  time : e.time < 256 ^ 2
  date : e.date < 256 ^ 2
  crc : e.crc < 256 ^ 4
  compressedSize : e.compressedSize < 256 ^ 4
  size : e.size < 256 ^ 4
  extraSize : e.extra.length < 256 ^ 2
  comment : e.comment = []
  externalAttributes : e.externalAttributes < 256 ^ 4
  nonneg : 0 ≤ e.offset
  offset : e.offset.toNat < 256 ^ 4

/-- The octets begin with the entry as the directory has it. -/
structure Entry.Spelt (e : Entry) (d : Bytes) : Prop where
  long : directorySize ≤ d.length
  mark : directoryMark.isPrefixOf d = true
  createVersion : number d 4 1 = e.createVersion
  createSystem : number d 5 1 = e.createSystem
  extractVersion : number d 6 1 = e.extractVersion
  flags : number d 8 2 = e.flags
  method : number d 10 2 = e.method
  time : number d 12 2 = e.time
  date : number d 14 2 = e.date
  crc : number d 16 4 = e.crc
  compressedSize : number d 20 4 = e.compressedSize
  size : number d 24 4 = e.size
  nameSize : number d 28 2 = e.name.encodeAny.length
  extraSize : number d 30 2 = e.extra.length
  commentSize : number d 32 2 = e.comment.length
  externalAttributes : number d 38 4 = e.externalAttributes
  offset : number d 42 4 = e.offset.toNat
  name : slice d directorySize e.name.encodeAny.length = e.name.encodeAny
  extra : slice d (directorySize + e.name.encodeAny.length) e.extra.length = e.extra

lemma Entry.length_common (e : Entry) : e.common.length = 26 := by
  simp [common]

lemma Entry.length_numbers (e : Entry) : e.numbers.length = directorySize := by
  simp [numbers, directoryMark, e.length_common, directorySize]

lemma Entry.length_directory (e : Entry) : e.directory.length =
    directorySize + e.name.encodeAny.length + e.extra.length + e.comment.length := by
  simp [directory, e.length_numbers, Nat.add_assoc]

/-- The directory spells its entries. -/
lemma Entry.Plain.spelt {e : Entry} (h : e.Plain) (rest : Bytes) :
    e.Spelt (e.directory ++ rest) := by
  have hlong : directorySize ≤ (e.directory ++ rest).length := by
    rw [List.length_append, e.length_directory]
    omega
  have hparts : e.directory ++ rest =
      e.numbers ++ (e.name.encodeAny ++ (e.extra ++ (e.comment ++ rest))) := by
    simp [directory]
  have hextra : slice (e.directory ++ rest) (directorySize + e.name.encodeAny.length)
      e.extra.length = e.extra := by
    rw [hparts, ← List.append_assoc]
    exact slice_between (by rw [List.length_append, e.length_numbers]) rfl
  have hname : slice (e.directory ++ rest) directorySize e.name.encodeAny.length =
      e.name.encodeAny := by
    rw [hparts]
    exact slice_between e.length_numbers.symm rfl
  have hoctets : [e.createVersion.toUInt8, e.createSystem.toUInt8] =
      ofNat 1 e.createVersion ++ ofNat 1 e.createSystem := rfl
  have hnone : e.comment.length < 256 ^ 2 := by simp [h.comment]
  have hflags : e.flags < 256 ^ 2 := by simp [h.flags]
  -- the bounds of all numbers, for the side conditions below
  obtain ⟨-, hnameSize, hcreate, hsystem, hextract, -, hmethod, htime, hdate, hcrc, hcompressed,
    hsize, hextraSize, -, hattributes, -, hoffset⟩ := h
  refine ⟨hlong, ?_, ?_, ?_, ?_, ?_, ?_, ?_, ?_, ?_, ?_, ?_, ?_, ?_, ?_, ?_, ?_, hname, hextra⟩
  · simp [directory, numbers, List.isPrefixOf_iff_prefix]
  all_goals
    rw [hparts, numbers, common, hoctets]
    simp (disch := first | assumption | simp)

/-- **An entry of the directory** is read as it was written, and then come its further data. -/
theorem readEntry_directory {e widened : Entry} (h : e.Plain)
    (hversion : e.extractVersion ≤ maxVersion)
    (hextra : readExtra e.extra.length e.extra e = .ok widened) (rest : Bytes) :
    readEntry 0 (e.directory ++ rest) = .ok (widened, e.directory.length) := by
  have hd := h.spelt rest
  have hname : nameOf e.flags e.name.encodeAny = .ok e.name := by rw [h.flags, h.name.nameOf]
  have hnothing : ∀ start, slice (e.directory ++ rest) start 0 = [] := fun _ => List.take_zero
  have hoffset : (e.offset.toNat : Int) = e.offset := Int.toNat_of_nonneg h.nonneg
  have hcomment : slice (e.directory ++ rest)
      (directorySize + e.name.encodeAny.length + e.extra.length) e.comment.length = e.comment := by
    rw [h.comment, List.length_nil, hnothing]
  rw [readEntry, if_neg (Nat.not_lt.mpr hd.long)]
  simp only [hd.mark, hd.createVersion, hd.createSystem, hd.extractVersion, hd.flags, hd.method,
    hd.time, hd.date, hd.crc, hd.compressedSize, hd.size, hd.nameSize, hd.extraSize, hd.commentSize,
    hd.externalAttributes, hd.offset, hd.name, hd.extra, hname, hcomment, hoffset, Bool.not_true,
    Bool.false_eq_true, if_false, if_neg (Nat.not_lt.mpr hversion), bind, Except.bind, pure,
    Except.pure]
  rw [hextra, e.length_directory]
  simp

end WatWorkbench.Archive
