import WatWorkbench.Proofs.Archive.Fields

/-!
# Written entries

What is written of an entry, before its contents and in the directory, and what reading makes of it.
An entry that is large or that lies far behind has wide numbers, so that the directory does not
spell the entry itself but one that points to its further data; reading puts the numbers back.

* `Storable` — contents and a name that can be written.
* `Entry.recorded` — an entry as reading finds it in the directory.
* `widenEntry_inDirectory`, `readExtra_wideData` — what reading makes of further data.
* `locate_of_header` — what it makes of a header.
* `Storable.readEntry_inDirectory` — what it makes of an entry of the directory.
* **`Storable.contents_recorded`** — the contents of an entry are found behind what is written
  before them.
-/

namespace WatWorkbench.Archive

open LittleEndian

/-- The name is printable, and none of the numbers is too great even for eight octets. -/
structure Storable (name : Text) (contents packed : Bytes) : Prop where
  printable : Printable name
  nameSize : name.encodeAny.length < 256 ^ 2
  size : contents.length < 256 ^ 8
  packedSize : packed.length < 256 ^ 8

/-- An entry as reading finds it in the directory. -/
def Entry.recorded (e : Entry) : Entry :=
  { e.inDirectory with size := e.size, compressedSize := e.compressedSize, offset := e.offset }

/-! ## Wide numbers -/

section Wide

variable {e : Entry}

/-- Whether the sizes of an entry are wide in the directory. -/
def Entry.areWide (e : Entry) : Bool := narrowLimit < e.size || narrowLimit < e.compressedSize

/-- Whether the offset of an entry is wide in the directory. -/
def Entry.isFar (e : Entry) : Bool := narrowLimit < e.offset.toNat

/-- The wide numbers of an entry. -/
def Entry.wideNumbers (e : Entry) : List Nat :=
  (if e.areWide then [e.size, e.compressedSize] else []) ++
    if e.isFar then [e.offset.toNat] else []

lemma Entry.sizes_le (h : e.areWide = false) :
    e.size ≤ narrowLimit ∧ e.compressedSize ≤ narrowLimit := by
  simpa [areWide] using h

lemma Entry.offset_le (h : e.isFar = false) : e.offset.toNat ≤ narrowLimit := by
  simpa [isFar] using h

/-- What stands in the directory for a number is narrow. -/
lemma narrow_lt {wide : Bool} {n : Nat} (h : wide = false → n ≤ narrowLimit) :
    (if wide then elsewhere else n) < 256 ^ 4 := by
  cases wide with
  | true => exact (by decide : elsewhere < 256 ^ 4)
  | false => exact Nat.lt_of_le_of_lt (h rfl) (by decide)

lemma Entry.inDirectory_eq (e : Entry) : e.inDirectory =
    { e with
      createVersion := max (if e.wideNumbers.isEmpty then 0 else wideVersion) e.createVersion
      extractVersion := max (if e.wideNumbers.isEmpty then 0 else wideVersion) e.extractVersion
      compressedSize := if e.areWide then elsewhere else e.compressedSize
      size := if e.areWide then elsewhere else e.size
      extra := wideData e.wideNumbers
      offset := if e.isFar then elsewhere else e.offset } := by
  have hwide : (narrowLimit < e.size ∨ narrowLimit < e.compressedSize) ↔ e.areWide = true := by
    simp [areWide]
  have hfar : narrowLimit < e.offset.toNat ↔ e.isFar = true := by simp [isFar]
  by_cases hw : e.areWide = true <;> by_cases hf : e.isFar = true <;>
    simp [inDirectory, wideNumbers, hwide, hfar, hw, hf]

@[simp] lemma wideField_ofNat_append {field : Text} {n : Nat} (hn : n < 256 ^ 8) (rest : Bytes) :
    wideField field (ofNat 8 n ++ rest) = .ok n := by
  rw [wideField, if_neg (by simp), number_ofNat_append hn (Nat.le_refl 8)]

@[simp] lemma wideField_ofNat {field : Text} {n : Nat} (hn : n < 256 ^ 8) :
    wideField field (ofNat 8 n) = .ok n := by
  rw [← List.append_nil (ofNat 8 n), wideField_ofNat_append hn]

/-- Each number that is marked stands in the further data, in this order. -/
lemma widenEntry_inDirectory (hsize : e.size < 256 ^ 8) (hcompressed : e.compressedSize < 256 ^ 8)
    (hnonneg : 0 ≤ e.offset) (hoffset : e.offset.toNat < 256 ^ 8) :
    widenEntry e.inDirectory (e.wideNumbers.flatMap (ofNat 8)) = .ok e.recorded := by
  have hnear : e.isFar = false → e.offset ≠ 0xFFFFFFFF := by
    intro h
    have hle := Entry.offset_le h
    rw [narrowLimit] at hle
    omega
  have hnarrow : e.areWide = false → e.size ≠ 0xFFFFFFFFFFFFFFFF ∧ e.size ≠ 0xFFFFFFFF ∧
      e.compressedSize ≠ 0xFFFFFFFF := by
    intro h
    have hle := Entry.sizes_le h
    rw [narrowLimit] at hle
    omega
  rw [Entry.recorded, e.inDirectory_eq]
  cases hw : e.areWide <;> cases hf : e.isFar <;>
    simp_all [widenEntry, Entry.wideNumbers, elsewhere, bind, Except.bind, pure, Except.pure]

/-- Further data with wide numbers are one field. -/
lemma readExtra_wideData {ns : List Nat} (hsome : ns ≠ []) (hshort : ns.length ≤ 3)
    {widened : Entry} (h : widenEntry e (ns.flatMap (ofNat 8)) = .ok widened) :
    readExtra (wideData ns).length (wideData ns) e = .ok widened := by
  have hlong : (ns.flatMap (ofNat 8)).length = 8 * ns.length := by
    simp [List.length_flatMap, List.map_const', Nat.mul_comm]
  have hdata : wideData ns =
      ofNat 2 1 ++ (ofNat 2 (ns.flatMap (ofNat 8)).length ++ (ns.flatMap (ofNat 8) ++ [])) := by
    cases ns with
    | nil => exact absurd rfl hsome
    | cons n ns =>
        rw [hlong, List.append_nil]
        exact List.append_assoc _ _ _
  generalize ns.flatMap (ofNat 8) = numbers at *
  have hlength : (wideData ns).length = numbers.length + 3 + 1 := by
    rw [hdata]
    simp
    omega
  have hkind : number (wideData ns) 0 2 = 1 := by simp [hdata]
  have hwidth : number (wideData ns) 2 2 = numbers.length := by
    have hsmall : numbers.length < 256 ^ 2 := by omega
    rw [hdata, number_append_right (by simp)]
    exact number_ofNat_append hsmall (Nat.le_refl 2)
  have hslice : slice (wideData ns) 4 numbers.length = numbers := by
    rw [hdata, slice_append_right (by simp), slice_append_right (by simp)]
    exact slice_append_left (by simp)
  have hrest : (wideData ns).drop (numbers.length + 4) = [] :=
    List.drop_eq_nil_of_le (Nat.le_of_eq hlength)
  have hnone : ∀ fuel, readExtra fuel [] widened = .ok widened := fun fuel => by
    cases fuel <;> rfl
  rw [hlength, readExtra]
  simp [hlength, hkind, hwidth, hslice, hrest, h, hnone, bind, Except.bind]

/-- Without wide numbers the directory spells the entry itself. -/
lemma Entry.inDirectory_of_narrow (e : Entry) (hextra : e.extra = []) (hsizes : e.areWide = false)
    (hoffset : e.isFar = false) : e.inDirectory = e := by
  rw [inDirectory_eq, wideNumbers, hsizes, hoffset]
  simp [wideData, ← hextra]

lemma Entry.length_wideNumbers_le (e : Entry) : e.wideNumbers.length ≤ 3 := by
  unfold wideNumbers
  split <;> split <;> simp

lemma length_wideData_le {ns : List Nat} (h : ns.length ≤ 3) : (wideData ns).length ≤ 28 := by
  cases ns with
  | nil => exact Nat.zero_le _
  | cons n ns =>
      simp only [wideData, List.length_append, length_ofNat, List.length_flatMap, List.map_const',
        List.sum_replicate_nat]
      omega

/-- The further data put the wide numbers back. -/
lemma Entry.readExtra_inDirectory (hsize : e.size < 256 ^ 8)
    (hcompressed : e.compressedSize < 256 ^ 8) (hnonneg : 0 ≤ e.offset)
    (hoffset : e.offset.toNat < 256 ^ 8) :
    readExtra e.inDirectory.extra.length e.inDirectory.extra e.inDirectory = .ok e.recorded := by
  have hextra : e.inDirectory.extra = wideData e.wideNumbers := by rw [e.inDirectory_eq]
  have hwiden := widenEntry_inDirectory hsize hcompressed hnonneg hoffset
  rw [hextra]
  by_cases hnone : e.wideNumbers = []
  · have hnarrow : e.areWide = false ∧ e.isFar = false := by
      simpa [wideNumbers] using hnone
    rw [hnone, recorded, e.inDirectory_eq, hnarrow.1, hnarrow.2]
    rfl
  · exact readExtra_wideData hnone e.length_wideNumbers_le hwiden

end Wide

/-! ## Headers -/

/-- The octets of an entry begin where its header ends, if the header is the entry's and the octets
end before the limit. -/
lemma locate_of_header {bs header : Bytes} {e : Entry} {offset start : Nat} {limit : Int}
    (hflags : e.flags = 0) (hmethod : methods.contains e.method = true)
    (hoffset : e.offset = offset) (hseek : (offset : Int) ≤ maxSeek)
    (hheader : slice bs offset headerSize = header) (hlong : header.length = headerSize)
    (hmark : entryMark.isPrefixOf header = true)
    (hname : nameOf (number header 6 2)
      (slice bs (offset + headerSize) (number header 26 2)) = .ok e.name)
    (hstart : min (offset + headerSize + number header 26 2 + number header 28 2)
      (max bs.length offset) = start)
    (hlimit : (start : Int) + e.compressedSize ≤ limit) :
    locate bs e limit = .ok start := by
  have hnonneg : ¬ (offset : Int) < 0 := Int.not_lt.mpr (Int.natCast_nonneg offset)
  have hunset : ∀ flag, hasFlag e.flags flag = false := fun flag => by simp [hflags, hasFlag]
  rw [locate, hoffset, if_neg hnonneg, if_neg (Int.not_lt.mpr hseek)]
  simp only [Int.toNat_natCast, hheader, hlong, hmark, hname, hstart,
    if_neg (Int.not_lt.mpr hlimit), hunset, hmethod, Nat.lt_irrefl, Bool.not_true,
    Bool.false_eq_true, if_false, ne_eq, not_true, bind, Except.bind, pure, Except.pure]

lemma header_numbers {e : Entry} (hflags : e.flags < 256 ^ 2)
    (hname : e.name.encodeAny.length < 256 ^ 2) (hextra : e.extra.length < 256 ^ 2) :
    number (entryMark ++ e.common) 6 2 = e.flags ∧
      number (entryMark ++ e.common) 26 2 = e.name.encodeAny.length ∧
      number (entryMark ++ e.common) 28 2 = e.extra.length := by
  simp (disch := first | assumption | simp) [Entry.common]

lemma Entry.length_header (e : Entry) :
    e.header.length = headerSize + e.name.encodeAny.length + e.extra.length := by
  simp [header, e.length_common, entryMark, headerSize]
  omega

/-- In front of its contents an entry has further data or none, and is otherwise as it is. -/
lemma Entry.inPlace_eq (e : Entry) : ∃ compressedSize size extra,
    extra.length ≤ max 28 e.extra.length ∧
      e.inPlace = { e with compressedSize, size, extra } := by
  unfold inPlace
  split
  · exact ⟨_, _, _, le_max_of_le_left (length_wideData_le (by simp)), rfl⟩
  · exact ⟨_, _, _, le_max_right _ _, rfl⟩

/-! ## The directory -/

section Storable

variable {name : Text} {contents packed : Bytes} {offset : Nat}
  (h : Storable name contents packed)

include h

lemma Storable.plain_inDirectory :
    (describe name contents packed offset).inDirectory.Plain := by
  set e := describe name contents packed offset with he
  have hcrc : (Crc32.ofBytes contents).toNat < 256 ^ 4 := UInt32.toNat_lt _
  have hextra := length_wideData_le e.length_wideNumbers_le
  have hversion (v : Nat) (hv : v ≤ wideVersion) :
      max (if e.wideNumbers.isEmpty then 0 else wideVersion) v < 256 ^ 1 := by
    rw [wideVersion] at *
    split <;> omega
  have hcreate : e.createVersion ≤ wideVersion := by
    rw [he, describe]
    dsimp only
    split <;> decide
  have hoffset : (if e.isFar then (elsewhere : Int) else e.offset) =
      ((if e.isFar then elsewhere else e.offset.toNat : Nat) : Int) := by
    split <;> rfl
  rw [e.inDirectory_eq, hoffset]
  constructor
  case crc => exact hcrc
  case name => exact h.printable
  case nameSize => exact h.nameSize
  case createVersion => exact hversion _ hcreate
  case extractVersion => exact hversion _ hcreate
  case extraSize => exact Nat.lt_of_le_of_lt hextra (by decide)
  case compressedSize => exact narrow_lt fun hw => (Entry.sizes_le hw).2
  case size => exact narrow_lt fun hw => (Entry.sizes_le hw).1
  case nonneg => exact Int.natCast_nonneg _
  case offset => exact narrow_lt Entry.offset_le
  all_goals simp [he, describe, deflated, firstDay, filePermissions]

lemma Storable.readEntry_inDirectory (hoffset : offset < 256 ^ 8) (rest : Bytes) :
    readEntry 0 ((describe name contents packed offset).inDirectory.directory ++ rest) =
      .ok ((describe name contents packed offset).recorded,
        (describe name contents packed offset).inDirectory.directory.length) := by
  have hextra := Entry.readExtra_inDirectory (e := describe name contents packed offset)
    h.size h.packedSize (Int.natCast_nonneg offset) hoffset
  refine readEntry_directory h.plain_inDirectory ?_ hextra rest
  rw [Entry.inDirectory_eq, wideVersion, describe, maxVersion]
  dsimp only
  split <;> split <;> decide

/-! ## Contents -/

/-- The octets of an entry begin behind its header, if they end before the limit. -/
lemma Storable.locate_recorded {front : Bytes} (hfront : front.length = offset)
    (hoffset : (offset : Int) ≤ maxSeek) {limit : Int}
    (hlimit : ((offset + (describe name contents packed offset).inPlace.header.length : Nat) : Int)
      + packed.length ≤ limit)
    (back : Bytes) :
    locate (front ++ ((describe name contents packed offset).inPlace.header ++ packed ++ back))
      (describe name contents packed offset).recorded limit =
        .ok (offset + (describe name contents packed offset).inPlace.header.length) := by
  set e := describe name contents packed offset with he
  obtain ⟨compressedSize, size, extra, hshort, hinPlace⟩ := e.inPlace_eq
  rw [hinPlace] at hlimit ⊢
  set f : Entry := { e with compressedSize, size, extra } with hf
  set bs := front ++ (f.header ++ packed ++ back) with hbs
  have hparts : bs =
      front ++ ((entryMark ++ f.common) ++ (name.encodeAny ++ (extra ++ (packed ++ back)))) := by
    simp [hbs, Entry.header, hf, he, describe]
  have hlong : (entryMark ++ f.common).length = headerSize := by
    simp [entryMark, f.length_common, headerSize]
  have hheader : slice bs offset headerSize = entryMark ++ f.common := by
    rw [hparts]
    exact slice_between hfront.symm hlong.symm
  have hoctets : slice bs (offset + headerSize) name.encodeAny.length = name.encodeAny := by
    rw [hparts, ← List.append_assoc]
    exact slice_between (by rw [List.length_append, hlong, hfront]) rfl
  have hmark : entryMark.isPrefixOf (entryMark ++ f.common) = true := by
    simp [List.isPrefixOf_iff_prefix]
  obtain ⟨hflags, hnameSize, hextraSize⟩ : _ ∧ _ ∧ _ :=
    header_numbers (e := f) (by simp [hf, he, describe]) h.nameSize
      (Nat.lt_of_le_of_lt hshort (by simp [he, describe]))
  refine locate_of_header (by rfl) (by rfl) (by rfl) hoffset hheader hlong hmark ?name ?start ?limit
  case name =>
    rw [hflags, hnameSize]
    exact (congrArg (nameOf e.flags) hoctets).trans h.printable.nameOf
  case start =>
    have hlength := congrArg List.length hparts
    have hname : f.name.encodeAny = name.encodeAny := rfl
    have hextra : f.extra = extra := rfl
    simp only [List.length_append, hlong, hfront] at hlength
    rw [hnameSize, hextraSize, f.length_header, hname, hextra]
    omega
  case limit => exact hlimit

/-- **The contents of an entry** are read, if compressing can be undone. -/
theorem Storable.contents_recorded (hinflate : Deflate.inflate packed = (contents, .complete))
    {front : Bytes} (hfront : front.length = offset) (hoffset : (offset : Int) ≤ maxSeek)
    {limit : Int}
    (hlimit : ((offset + (describe name contents packed offset).inPlace.header.length : Nat) : Int)
      + packed.length ≤ limit)
    (back : Bytes) :
    Archive.contents
      (front ++ ((describe name contents packed offset).inPlace.header ++ packed ++ back))
      (describe name contents packed offset).recorded limit = .ok contents := by
  set e := describe name contents packed offset with he
  have hpacked : slice (front ++ (e.inPlace.header ++ packed ++ back))
      (offset + e.inPlace.header.length) packed.length = packed := by
    rw [List.append_assoc, ← List.append_assoc front]
    refine slice_between ?_ rfl
    rw [List.length_append, hfront]
  have hcompressed : e.recorded.compressedSize = packed.length := rfl
  have hsize : e.recorded.size = contents.length := rfl
  have hsome : (packed.isEmpty && decide (0 < packed.length)) = false := by
    cases packed <;> rfl
  have hexpand : expand e.recorded.method packed = .ok (contents, .complete) :=
    congrArg Except.ok hinflate
  have hchecked : checked e.recorded contents = .ok contents := if_pos rfl
  rw [Archive.contents, h.locate_recorded hfront hoffset hlimit]
  show unpack _ e.recorded (offset + e.inPlace.header.length) = _
  simp only [unpack, hcompressed, hsize, hpacked, hsome, hexpand, hchecked, List.take_length,
    Bool.false_eq_true, if_false, bind, Except.bind]

end Storable

end WatWorkbench.Archive
