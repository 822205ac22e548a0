import WatWorkbench.Proofs.Archive.Entries

/-!
# Finding the directory

The end of an archive says where the directory is.  An end with narrow numbers says so itself; if
its numbers are wide, it is the end before it that counts.  What comes before a narrow end must not
look like the place of a wide one, and that is for the last entry of the directory to see to.

* `findEnd_eq` — the end is found behind what it describes.
* `layout_ending` — what the end says is where the directory is.
* `readDirectory_listed` — the directory gives the entries that it was written from.
-/

namespace WatWorkbench.Archive

open LittleEndian

/-! ## The end -/

section Ending

variable {body : Bytes} {count size offset : Nat}

@[simp] lemma length_narrowEnding : (narrowEnding count size offset).length = endSize := by
  simp [narrowEnding, endMark, endSize]

@[simp] lemma length_wideEnding : (wideEnding count size offset).length = 56 := by
  simp [wideEnding, wideEndMark]

@[simp] lemma length_locator : (locator offset).length = 20 := by
  simp [locator, locatorMark]

lemma isWide_eq_false_iff : isWide count size offset = false ↔
    count ≤ 0xFFFF ∧ offset ≤ narrowLimit ∧ size ≤ narrowLimit := by
  simp [isWide, and_assoc]

lemma findEnd_eq :
    findEnd (body ++ narrowEnding count size offset) =
      widen (body ++ narrowEnding count size offset)
        { endAt (body ++ narrowEnding count size offset) body.length with comment := [] } := by
  have hmark : endMark.isPrefixOf (narrowEnding count size offset) = true := by
    simp [narrowEnding, endMark]
  have hcomment : number (narrowEnding count size offset) 20 2 = 0 := by
    simp [narrowEnding]
  simp [findEnd, hmark, hcomment]

lemma endAt_narrowEnding (hsize : size < 256 ^ 4) (hoffset : offset < 256 ^ 4) :
    { endAt (body ++ narrowEnding count size offset) body.length with comment := [] } =
      End.mk body.length size offset [] 0 := by
  simp (disch := first | assumption | simp) [endAt, narrowEnding]

/-- The octets do not end like something before which there is a wide end. -/
def Unmarked (d : Bytes) : Prop := 20 ≤ d.length ∧ (d.drop (d.length - 20)).take 4 ≠ locatorMark

/-- Octets between others are enough, if the place of a wide end would have to begin in them. -/
lemma unmarked_of_between {front between back : Bytes} (hbetween : 0x50 ∉ between)
    (hlong : 20 ≤ between.length + back.length) (hshort : back.length < 20) :
    Unmarked (front ++ (between ++ back)) := by
  refine ⟨by simp; omega, fun hmark => hbetween ?_⟩
  have hplace : (front ++ (between ++ back)).length - 20 =
      front.length + (between.length + back.length - 20) := by
    simp
    omega
  -- the mark would begin with an octet that stands between
  have hfirst := congrArg (·[0]?) hmark
  rw [hplace, List.drop_length_add_append] at hfirst
  have hinside : (between ++ back)[between.length + back.length - 20]? =
      between[between.length + back.length - 20]? := List.getElem?_append_left (by omega)
  simp [hinside, locatorMark] at hfirst
  exact List.mem_of_getElem? hfirst

/-- Where nothing looks like the place of a wide end, the narrow one counts. -/
lemma findEnd_narrow {directory : Bytes} (h : Unmarked directory) (hsize : size < 256 ^ 4)
    (hoffset : offset < 256 ^ 4) :
    findEnd (body ++ directory ++ narrowEnding count size offset) =
      .ok ⟨(body ++ directory).length, size, offset, [], 0⟩ := by
  have hsplit : body ++ directory ++ narrowEnding count size offset =
      (body ++ directory.take (directory.length - 20)) ++
        (directory.drop (directory.length - 20) ++ narrowEnding count size offset) := by
    simp only [List.append_assoc]
    rw [← List.append_assoc (directory.take _), List.take_append_drop]
  have hslice : slice (body ++ directory ++ narrowEnding count size offset)
      ((body ++ directory).length - 20) 20 = directory.drop (directory.length - 20) := by
    have hlong := h.1
    rw [hsplit]
    refine slice_between ?_ ?_
    · simp
      omega
    · simp
      omega
  rw [findEnd_eq, endAt_narrowEnding hsize hoffset]
  simp only [widen, wideSizes, hslice]
  simp [h.2]

lemma number_wideEnding (hsize : size < 256 ^ 8) (hoffset : offset < 256 ^ 8) :
    number (wideEnding count size offset) 40 8 = size ∧
      number (wideEnding count size offset) 48 8 = offset := by
  simp (disch := first | assumption | simp) [wideEnding]

lemma number_locator : number (locator offset) 4 4 = 0 ∧ number (locator offset) 16 4 = 1 := by
  simp [locator]

/-- A wide end counts in place of the narrow one behind it. -/
lemma findEnd_wide (hsize : size < 256 ^ 8) (hoffset : offset < 256 ^ 8)
    (position count' size' offset' : Nat) :
    findEnd (body ++ wideEnding count size offset ++ locator position ++
      narrowEnding count' size' offset') = .ok ⟨body.length + 76, size, offset, [], 76⟩ := by
  set rest := narrowEnding count' size' offset' with hrest
  have hlength : (body ++ wideEnding count size offset ++ locator position).length =
      body.length + 76 := by
    simp
  have hlocator : slice (body ++ wideEnding count size offset ++ locator position ++ rest)
      (body.length + 76 - 20) 20 = locator position := by
    rw [List.append_assoc (body ++ _)]
    exact slice_between (by simp) length_locator.symm
  have hwide : slice (body ++ wideEnding count size offset ++ locator position ++ rest)
      (body.length + 76 - 20 - 56) 56 = wideEnding count size offset := by
    rw [List.append_assoc (body ++ _), List.append_assoc body]
    exact slice_between rfl length_wideEnding.symm
  have hmarks : (locator position).take 4 = locatorMark ∧
      (wideEnding count size offset).take 4 = wideEndMark := ⟨rfl, rfl⟩
  have hnumbers : number (wideEnding count size offset) 40 8 = size ∧
      number (wideEnding count size offset) 48 8 = offset := number_wideEnding hsize hoffset
  rw [hrest, findEnd_eq, ← hrest]
  simp only [endAt, hlength, widen, wideSizes, hlocator, hwide, hmarks, hnumbers, number_locator,
    length_locator, length_wideEnding]
  simp

end Ending

/-! ## The directory -/

lemma layout_of_findEnd {bs : Bytes} {e : End} (h : findEnd bs = .ok e)
    (hposition : e.position = e.offset + e.size + e.gap) :
    layout bs = .ok ⟨e.offset, e.size, 0, e.comment⟩ := by
  have hbefore : (e.position : Int) - e.size - e.offset - e.gap = 0 := by omega
  rw [layout, h]
  simp only [hbefore, bind, Except.bind]
  rw [Int.add_zero, if_neg (Int.not_lt.mpr (Int.natCast_nonneg _))]
  rfl

/-- **The end leads to the directory**, however wide its numbers are. -/
theorem layout_ending {entries directory : Bytes} {count : Nat}
    (hlength : entries.length + directory.length < 256 ^ 8)
    (h : isWide count directory.length entries.length = false → Unmarked directory) :
    layout (entries ++ directory ++ ending count directory.length entries.length) =
      .ok ⟨entries.length, directory.length, 0, []⟩ := by
  cases hwide : isWide count directory.length entries.length with
  | true =>
      rw [ending, if_pos hwide, ← List.append_assoc, ← List.append_assoc]
      exact layout_of_findEnd (findEnd_wide (by omega) (by omega) _ _ _ _) (by simp)
  | false =>
      obtain ⟨-, hoffset, hsize⟩ := isWide_eq_false_iff.mp hwide
      have hsize' : directory.length < 256 ^ 4 := Nat.lt_of_le_of_lt hsize (by decide)
      have hoffset' : entries.length < 256 ^ 4 := Nat.lt_of_le_of_lt hoffset (by decide)
      rw [ending, if_neg (by simp [hwide])]
      exact layout_of_findEnd (findEnd_narrow (h hwide) hsize' hoffset') (by simp)

/-- **The directory is read** entry by entry, if every entry is. -/
theorem readDirectory_listed {es : List (Entry × Bytes)}
    (hes : ∀ p ∈ es, ∀ rest, readEntry 0 (p.1.inDirectory.directory ++ rest) =
      .ok (p.1.recorded, p.1.inDirectory.directory.length))
    {fuel : Nat} (hfuel : es.length < fuel) :
    readDirectory 0 fuel (listed es).length (listed es) = .ok (es.map fun p => p.1.recorded) := by
  induction es generalizing fuel with
  | nil => cases fuel <;> rfl
  | cons p es ih =>
      obtain ⟨fuel, rfl⟩ := Nat.exists_eq_add_of_lt hfuel
      have hrest := ih (fun p hp => hes p (List.mem_cons_of_mem _ hp))
        (Nat.lt_of_lt_of_le (Nat.lt_succ_self _) (Nat.le_add_right _ fuel))
      have hsome : ¬ (p.1.inDirectory.directory ++ listed es).length = 0 := by
        rw [List.length_append, Entry.length_directory, directorySize]
        omega
      rw [show listed (p :: es) = p.1.inDirectory.directory ++ listed es from rfl, readDirectory,
        if_neg hsome, hes p List.mem_cons_self, List.length_append]
      simp only [bind, Except.bind, pure, Except.pure, Nat.add_sub_cancel_left, List.drop_left]
      rw [List.length_cons, hrest]
      rfl

lemma length_le_length_listed (es : List (Entry × Bytes)) : es.length ≤ (listed es).length := by
  induction es with
  | nil => exact Nat.le_refl _
  | cons p es ih =>
      rw [show listed (p :: es) = p.1.inDirectory.directory ++ listed es from rfl,
        List.length_append, List.length_cons, Entry.length_directory, directorySize]
      omega

end WatWorkbench.Archive
