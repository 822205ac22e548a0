import Mathlib.Algebra.Order.BigOperators.Group.List
import Mathlib.Algebra.Order.Ring.Nat
import Mathlib.Data.List.Nodup
import WatWorkbench.Proofs.Archive.Directory

/-!
# Reading what was written

Entries lie one behind the other, so that each ends before the next one begins, and the last one
before the directory.  The limits that the reader draws from the directory are the beginnings of
entries, and therefore no entry goes beyond its own.  Nothing is asked of the octets themselves:
contents may look like any part of an archive.

* `mem_placed` — where an entry lies.
* `mem_limits` — what a limit can be.
* `length_write_le` — how long an archive can become.
* `Writable` — named contents that can be written.
* **`read_write`** — they are read as they were written.
-/

namespace WatWorkbench.Archive

open LittleEndian

/-! ## Limits -/

/-- A limit is the end of the entries or the beginning of another entry. -/
lemma lookup_go (start : Int) {es : List (Entry × Nat)}
    (hsorted : es.Pairwise fun a b => b.1.offset ≤ a.1.offset) (hnodup : (es.map Prod.snd).Nodup)
    {x : Entry × Nat} (hx : x ∈ es) :
    ∃ limit, (limits.go start es).lookup x.2 = some limit ∧
      (limit = start ∨ ∃ y ∈ es, y.2 ≠ x.2 ∧ x.1.offset ≤ y.1.offset ∧ limit = y.1.offset) := by
  induction es generalizing start with
  | nil => cases hx
  | cons e es ih =>
      obtain ⟨hfirst, hsorted⟩ := List.pairwise_cons.mp hsorted
      obtain ⟨hnew, hnodup⟩ := List.nodup_cons.mp hnodup
      rcases List.mem_cons.mp hx with rfl | hx
      · exact ⟨start, by simp [limits.go], .inl rfl⟩
      · have hne : e.2 ≠ x.2 := fun h => hnew (List.mem_map.mpr ⟨x, hx, h.symm⟩)
        have hother : (x.2 == e.2) = false := beq_eq_false_iff_ne.mpr hne.symm
        obtain ⟨limit, hlookup, hlimit⟩ := ih e.1.offset hsorted hnodup hx
        refine ⟨limit, by rw [limits.go, List.lookup_cons, hother, hlookup], .inr ?_⟩
        rcases hlimit with rfl | ⟨y, hy, hplace⟩
        · exact ⟨e, List.mem_cons_self, hne, hfirst x hx, rfl⟩
        · exact ⟨y, List.mem_cons_of_mem _ hy, hplace⟩

/-- Each limit is where the directory begins, or another entry that does not lie before. -/
lemma mem_limits {start : Nat} {es : List Entry} {e : Entry} {limit : Int}
    (h : (e, limit) ∈ limits start es) :
    ∃ i : Nat, es[i]? = some e ∧ (limit = start ∨ ∃ (j : Nat) (y : Entry),
      es[j]? = some y ∧ j ≠ i ∧ e.offset ≤ y.offset ∧ limit = y.offset) := by
  obtain ⟨⟨x, i⟩, hx, heq⟩ := List.mem_map.mp h
  obtain ⟨rfl, rfl⟩ := Prod.mk.inj heq
  set sorted := es.zipIdx.mergeSort fun a b => b.1.offset ≤ a.1.offset
  have hperm : sorted.Perm es.zipIdx := List.mergeSort_perm _ _
  have hsorted : sorted.Pairwise fun a b => decide (b.1.offset ≤ a.1.offset) = true :=
    List.pairwise_mergeSort (by simp; omega) (by simp; omega) es.zipIdx
  have hnodup : (sorted.map Prod.snd).Nodup := by
    rw [(hperm.map _).nodup_iff, List.zipIdx_map_snd]
    exact List.nodup_range'
  obtain ⟨limit, hlookup, hlimit⟩ :=
    lookup_go start (hsorted.imp of_decide_eq_true) hnodup (hperm.mem_iff.mpr hx)
  rw [hlookup, Option.getD_some]
  refine ⟨i, List.mem_zipIdx_iff_getElem?.mp hx, hlimit.imp_right ?_⟩
  rintro ⟨⟨y, j⟩, hy, hplace⟩
  exact ⟨j, y, List.mem_zipIdx_iff_getElem?.mp (hperm.mem_iff.mp hy), hplace⟩

lemma map_fst_limits (start : Nat) (es : List Entry) : (limits start es).map Prod.fst = es := by
  rw [limits, List.map_map]
  exact List.zipIdx_map_fst 0 es

/-! ## Layout -/

section Layout

variable {pack : Bytes → Bytes} {offset : Nat} {cs : List (Text × Bytes)}

/-- Each entry lies between the ones before and the ones behind. -/
lemma mem_placed {p : Entry × Bytes} (hp : p ∈ placed pack offset cs) :
    ∃ c ∈ cs, ∃ front back, joined (placed pack offset cs) = front ++ (p.2 ++ back) ∧
      p.1 = describe c.1 c.2 (pack c.2) (offset + front.length) ∧
      p.2 = p.1.inPlace.header ++ pack c.2 := by
  induction cs generalizing offset with
  | nil => cases hp
  | cons c cs ih =>
      rcases List.mem_cons.mp hp with rfl | hp
      · exact ⟨c, List.mem_cons_self, [], _, rfl, rfl, rfl⟩
      · obtain ⟨d, hd, front, back, hsplit, hentry, hoctets⟩ := ih hp
        refine ⟨d, List.mem_cons_of_mem _ hd,
          (describe c.1 c.2 (pack c.2) offset).inPlace.header ++ pack c.2 ++ front, back, ?_, ?_,
          hoctets⟩
        · rw [placed, joined, List.flatMap_cons, ← joined, hsplit, List.append_assoc _ front]
        · rw [hentry]
          simp only [List.length_append, Nat.add_assoc]

lemma length_pos_of_mem_placed {p : Entry × Bytes} (hp : p ∈ placed pack offset cs) :
    0 < p.2.length := by
  obtain ⟨c, -, -, -, -, -, hoctets⟩ := mem_placed hp
  rw [hoctets, Entry.header, entryMark]
  simp

lemma names_placed : (placed pack offset cs).map (fun p => p.1.name) = cs.map Prod.fst := by
  induction cs generalizing offset with
  | nil => rfl
  | cons c cs ih => rw [placed, List.map_cons, List.map_cons, ih, describe]

/-- Each entry ends before the next one begins. -/
lemma pairwise_placed :
    (placed pack offset cs).Pairwise fun (p q : Entry × Bytes) =>
      p.1.offset + (p.2.length : Int) ≤ q.1.offset := by
  induction cs generalizing offset with
  | nil => exact .nil
  | cons c cs ih =>
      refine List.pairwise_cons.mpr ⟨fun q hq => ?_, ih⟩
      obtain ⟨d, -, front, -, -, hentry, -⟩ := mem_placed hq
      rw [hentry]
      simp only [describe]
      omega

lemma placed_append (ds : List (Text × Bytes)) : placed pack offset (cs ++ ds) =
    placed pack offset cs ++ placed pack (offset + (joined (placed pack offset cs)).length) ds := by
  induction cs generalizing offset with
  | nil => rfl
  | cons c cs ih =>
      rw [List.cons_append, placed, ih, placed, List.cons_append]
      simp [joined, Nat.add_assoc]

lemma length_placed : (placed pack offset cs).length = cs.length := by
  rw [← List.length_map fun p : Entry × Bytes => p.1.name, names_placed, List.length_map]

lemma length_octets_le {p : Entry × Bytes} (hp : p ∈ placed pack offset cs) :
    ∃ c ∈ cs, p.2.length ≤ 58 + c.1.encodeAny.length + (pack c.2).length := by
  obtain ⟨c, hc, front, -, -, hentry, hoctets⟩ := mem_placed hp
  refine ⟨c, hc, ?_⟩
  obtain ⟨_, _, extra, hshort, hinPlace⟩ := p.1.inPlace_eq
  have hextra : p.1.extra = [] := by rw [hentry, describe]
  have hname : p.1.name = c.1 := by rw [hentry, describe]
  rw [hoctets, hinPlace, List.length_append, Entry.length_header, headerSize, hname]
  rw [hextra, List.length_nil] at hshort
  dsimp only
  omega

lemma length_directory_le {p : Entry × Bytes} (hp : p ∈ placed pack offset cs) :
    ∃ c ∈ cs, p.1.inDirectory.directory.length ≤ 74 + c.1.encodeAny.length := by
  obtain ⟨c, hc, front, -, -, hentry, -⟩ := mem_placed hp
  refine ⟨c, hc, ?_⟩
  have hextra := length_wideData_le p.1.length_wideNumbers_le
  have hname : p.1.name = c.1 := by rw [hentry, describe]
  have hcomment : p.1.comment = [] := by rw [hentry, describe]
  rw [Entry.length_directory, p.1.inDirectory_eq, directorySize]
  dsimp only
  rw [hname, hcomment, List.length_nil]
  omega

/-- Each entry ends before its limit. -/
lemma mem_limits_placed {e : Entry} {limit : Int}
    (h : (e, limit) ∈ limits (offset + (joined (placed pack offset cs)).length)
      ((placed pack offset cs).map fun p => p.1.recorded)) :
    ∃ p ∈ placed pack offset cs, e = p.1.recorded ∧ p.1.offset + p.2.length ≤ limit := by
  obtain ⟨i, hi, hlimit⟩ := mem_limits h
  rw [List.getElem?_map, Option.map_eq_some_iff] at hi
  obtain ⟨p, hp, rfl⟩ := hi
  have hmem := List.mem_of_getElem? hp
  refine ⟨p, hmem, rfl, ?_⟩
  rcases hlimit with rfl | ⟨j, y, hj, hne, hle, rfl⟩
  · obtain ⟨c, -, front, back, hsplit, hentry, -⟩ := mem_placed hmem
    rw [hsplit, hentry]
    simp [describe]
    omega
  · rw [List.getElem?_map, Option.map_eq_some_iff] at hj
    obtain ⟨q, hq, rfl⟩ := hj
    obtain ⟨hilt, rfl⟩ := List.getElem?_eq_some_iff.mp hp
    obtain ⟨hjlt, rfl⟩ := List.getElem?_eq_some_iff.mp hq
    -- an entry that lies before another one ends before it, and so does not begin with it
    rcases Nat.lt_or_gt_of_ne hne with hlt | hlt
    · have hends := List.pairwise_iff_getElem.mp pairwise_placed j i hjlt hilt hlt
      have hpos := length_pos_of_mem_placed (List.getElem_mem hjlt)
      exact absurd (Int.le_trans hends hle) (by simp only [Entry.recorded]; omega)
    · exact List.pairwise_iff_getElem.mp pairwise_placed i j hilt hjlt hlt

end Layout

/-! ## The archive -/

lemma eraseDups_of_nodup {α : Type} [BEq α] [LawfulBEq α] {as : List α} (h : as.Nodup) :
    as.eraseDups = as := by
  induction as with
  | nil => rfl
  | cons a as ih =>
      obtain ⟨hnew, hnodup⟩ := List.nodup_cons.mp h
      have hall : as.filter (fun b => !b == a) = as := List.filter_eq_self.mpr fun b hb => by
        simp
        rintro rfl
        exact hnew hb
      rw [List.eraseDups_cons, hall, ih hnodup]

lemma length_flatMap_le {α β : Type} {f : α → List β} {as : List α} {bound : Nat}
    (h : ∀ a ∈ as, (f a).length ≤ bound) : (as.flatMap f).length ≤ as.length * bound :=
  calc (as.flatMap f).length
      = (as.map fun a => (f a).length).sum := List.length_flatMap
    _ ≤ (as.map fun a => (f a).length).length • bound :=
        List.sum_le_card_nsmul _ _ (by simpa using h)
    _ = as.length * bound := by rw [List.length_map, nsmul_eq_mul, Nat.cast_id]

lemma mapM_map_of_forall {α β : Type} {f : β → Except Failure α} {g : α → β} {as : List α}
    (h : ∀ a ∈ as, f (g a) = .ok a) : (as.map g).mapM f = .ok as := by
  induction as with
  | nil => rfl
  | cons a as ih =>
      rw [List.map_cons, List.mapM_cons, h a List.mem_cons_self,
        ih fun b hb => h b (List.mem_cons_of_mem _ hb)]
      rfl

lemma length_ending_le (count size offset : Nat) : (ending count size offset).length ≤ 98 := by
  unfold ending
  split
  · simp [endSize]
  · simp [endSize]

/-- How long an archive can become. -/
lemma length_write_le {pack : Bytes → Bytes} {cs : List (Text × Bytes)} {bound : Nat}
    (h : ∀ c ∈ cs, c.1.encodeAny.length < 256 ^ 2 ∧ (pack c.2).length ≤ bound) :
    (write cs pack).length ≤ cs.length * (bound + 2 ^ 18) + 98 := by
  have hjoined :
      (joined (placed pack 0 cs)).length ≤ (placed pack 0 cs).length * (bound + 2 ^ 17) :=
    length_flatMap_le fun p hp => by
      obtain ⟨c, hc, hle⟩ := length_octets_le hp
      have := h c hc
      omega
  have hlisted : (listed (placed pack 0 cs)).length ≤ (placed pack 0 cs).length * 2 ^ 17 :=
    length_flatMap_le fun p hp => by
      obtain ⟨c, hc, hle⟩ := length_directory_le hp
      have := h c hc
      omega
  have hending := length_ending_le (placed pack 0 cs).length (listed (placed pack 0 cs)).length
    (joined (placed pack 0 cs)).length
  rw [length_placed] at hjoined hlisted
  rw [write, List.length_append, List.length_append, Nat.mul_add]
  rw [Nat.mul_add] at hjoined
  omega

/-- What is compressed is part of the archive. -/
lemma length_pack_le {pack : Bytes → Bytes} {cs : List (Text × Bytes)} {c : Text × Bytes}
    (hc : c ∈ cs) : (pack c.2).length ≤ (write cs pack).length := by
  have hjoined (offset : Nat) : (pack c.2).length ≤ (joined (placed pack offset cs)).length := by
    induction cs generalizing offset with
    | nil => cases hc
    | cons d cs ih =>
        rw [placed, joined, List.flatMap_cons, ← joined]
        rcases List.mem_cons.mp hc with rfl | hc
        · simp only [List.length_append]
          omega
        · exact Nat.le_trans (ih hc _) (by rw [List.length_append]; exact Nat.le_add_left _ _)
  have hlong := hjoined 0
  rw [write, List.length_append, List.length_append]
  omega

/-- Named contents that can be written: the names differ, compressing can be undone, and there are
no more octets in all than can be counted.  With a last name of this length, the place of a wide end
would have to begin in the numbers before it that are the same in all directories. -/
structure Writable (pack : Bytes → Bytes) (cs : List (Text × Bytes)) : Prop where
  nodup : (cs.map Prod.fst).Nodup
  storable : ∀ c ∈ cs, Storable c.1 c.2 (pack c.2)
  undone : ∀ c ∈ cs, Deflate.inflate (pack c.2) = (c.2, .complete)
  length : (write cs pack).length ≤ maxSeek
  last : ∃ c ∈ cs.getLast?, 6 ≤ c.1.encodeAny.length ∧ c.1.encodeAny.length ≤ 15 ∧
    c.2.length ≤ narrowLimit

section Writable

variable {pack : Bytes → Bytes} {cs : List (Text × Bytes)} (h : Writable pack cs)

include h

lemma Writable.lengths :
    (joined (placed pack 0 cs)).length + (listed (placed pack 0 cs)).length ≤ maxSeek := by
  have hlength := h.length
  rw [write, List.length_append, List.length_append] at hlength
  omega

/-- The directory does not end like the place of a wide end, if it has narrow numbers. -/
lemma Writable.unmarked (hjoined : (joined (placed pack 0 cs)).length ≤ narrowLimit) :
    Unmarked (listed (placed pack 0 cs)) := by
  obtain ⟨c, hc, hshort, hlong, hsize⟩ := h.last
  obtain ⟨cs, rfl⟩ := List.getLast?_eq_some_iff.mp hc
  rw [placed_append, Nat.zero_add] at hjoined ⊢
  set offset := (joined (placed pack 0 cs)).length with hoffset
  set e := describe c.1 c.2 (pack c.2) offset with he
  have hsplit : (joined (placed pack 0 cs ++ placed pack offset [c])).length =
      offset + (e.inPlace.header.length + (pack c.2).length) := by
    simp [joined, hoffset, placed, he]
  have hnarrow : e.areWide = false ∧ e.isFar = false := by
    simp [Entry.areWide, Entry.isFar, he, describe]
    omega
  have hlisted : listed (placed pack 0 cs ++ placed pack offset [c]) =
      (listed (placed pack 0 cs) ++ (directoryMark ++ [e.createVersion.toUInt8,
        e.createSystem.toUInt8] ++ e.common)) ++ ((ofNat 2 0 ++ ofNat 2 0 ++ ofNat 2 0 ++
        ofNat 4 filePermissions) ++ (ofNat 4 e.offset.toNat ++ c.1.encodeAny)) := by
    rw [listed, List.flatMap_append, ← listed, placed, List.flatMap_cons, ← he,
      e.inDirectory_of_narrow rfl hnarrow.1 hnarrow.2, Entry.directory, Entry.numbers]
    simp [he, describe, placed]
  rw [hlisted]
  refine unmarked_of_between (by decide) ?_ ?_
  · simp
    omega
  · simp
    omega

lemma Writable.layout_write : layout (write cs pack) =
    .ok ⟨(joined (placed pack 0 cs)).length, (listed (placed pack 0 cs)).length, 0, []⟩ := by
  have hlengths := h.lengths
  rw [maxSeek] at hlengths
  exact layout_ending (by omega) fun hnarrow => h.unmarked (isWide_eq_false_iff.mp hnarrow).2.1

lemma Writable.readEntry_placed {p : Entry × Bytes} (hp : p ∈ placed pack 0 cs) (rest : Bytes) :
    readEntry 0 (p.1.inDirectory.directory ++ rest) =
      .ok (p.1.recorded, p.1.inDirectory.directory.length) := by
  obtain ⟨c, hc, front, back, hsplit, hentry, -⟩ := mem_placed hp
  have hoffset : 0 + front.length < 256 ^ 8 := by
    have hlengths := h.lengths
    rw [hsplit, maxSeek] at hlengths
    simp only [List.length_append] at hlengths
    omega
  rw [hentry]
  exact (h.storable c hc).readEntry_inDirectory hoffset rest

lemma Writable.directory_write :
    directory (write cs pack) = .ok ((placed pack 0 cs).map fun p => p.1.recorded, []) := by
  have hslice : slice (write cs pack) (joined (placed pack 0 cs)).length
      (listed (placed pack 0 cs)).length = listed (placed pack 0 cs) := by
    rw [write, List.append_assoc]
    exact slice_between rfl rfl
  have hread := readDirectory_listed (fun p hp => h.readEntry_placed hp)
    (Nat.lt_succ_of_le (length_le_length_listed (placed pack 0 cs)))
  rw [directory, h.layout_write]
  simp only [bind, Except.bind, hslice, hread, pure, Except.pure]

lemma Writable.contents_placed {p : Entry × Bytes} (hp : p ∈ placed pack 0 cs) {limit : Int}
    (hlimit : p.1.offset + (p.2.length : Int) ≤ limit) :
    ∃ c ∈ cs, p.1.name = c.1 ∧ contents (write cs pack) p.1.recorded limit = .ok c.2 := by
  obtain ⟨c, hc, front, back, hsplit, hentry, hoctets⟩ := mem_placed hp
  have hstorable := h.storable c hc
  rw [Nat.zero_add] at hentry
  rw [hentry] at hoctets
  have hwrite : write cs pack =
      front ++ ((describe c.1 c.2 (pack c.2) front.length).inPlace.header ++ pack c.2 ++
        (back ++ (listed (placed pack 0 cs) ++ ending (placed pack 0 cs).length
          (listed (placed pack 0 cs)).length (joined (placed pack 0 cs)).length))) := by
    rw [write, hsplit, hoctets]
    simp only [List.append_assoc]
  have hseek : (front.length : Int) ≤ maxSeek := by
    have hlengths := h.lengths
    rw [hsplit] at hlengths
    simp only [List.length_append] at hlengths
    omega
  refine ⟨c, hc, by rw [hentry, describe], ?_⟩
  rw [hwrite, hentry]
  refine hstorable.contents_recorded (h.undone c hc) rfl hseek ?_ _
  rw [hoctets, hentry, List.length_append] at hlimit
  simp only [describe] at hlimit ⊢
  omega

lemma Writable.names_write : ((placed pack 0 cs).map fun p => p.1.recorded).map
    (fun e => visibleName e.name) = cs.map Prod.fst := by
  have hvisible : ∀ name ∈ cs.map Prod.fst, visibleName name = name := fun name hname => by
    obtain ⟨c, hc, rfl⟩ := List.mem_map.mp hname
    exact (h.storable c hc).printable.visibleName
  calc ((placed pack 0 cs).map fun p => p.1.recorded).map (fun e => visibleName e.name)
      = ((placed pack 0 cs).map fun p => p.1.name).map visibleName := by
        rw [List.map_map, List.map_map]
        rfl
    _ = cs.map Prod.fst := by
        rw [names_placed, List.map_congr_left hvisible, List.map_id']

/-- **An archive is read as it was written.** -/
theorem read_write : read (write cs pack) = .ok cs := by
  rw [read, h.directory_write]
  simp only [bind, Except.bind, h.layout_write]
  rw [h.names_write, eraseDups_of_nodup h.nodup]
  refine mapM_map_of_forall fun c hc => ?_
  set limited := limits (joined (placed pack 0 cs)).length
    ((placed pack 0 cs).map fun p => p.1.recorded) with hlimited
  cases hfound : limited.reverse.find? fun x => decide (visibleName x.1.name = c.1) with
  | none =>
      -- each name that was written is the name of an entry
      have hname : c.1 ∈ (limited.map Prod.fst).map fun e => visibleName e.name := by
        rw [hlimited, map_fst_limits, h.names_write]
        exact List.mem_map_of_mem hc
      obtain ⟨e, he, heq⟩ := List.mem_map.mp hname
      obtain ⟨x, hx, rfl⟩ := List.mem_map.mp he
      exact absurd heq (by simpa using List.find?_eq_none.mp hfound x (List.mem_reverse.mpr hx))
  | some x =>
      -- the names differ, so the entry that is found is the one of this name
      obtain ⟨e, limit⟩ := x
      have hmem := List.mem_reverse.mp (List.mem_of_find?_eq_some hfound)
      have hname : visibleName e.name = c.1 := by simpa using List.find?_some hfound
      rw [hlimited, ← Nat.zero_add (joined _).length] at hmem
      obtain ⟨p, hp, rfl, hlimit⟩ := mem_limits_placed hmem
      obtain ⟨d, hd, hentry, hcontents⟩ := h.contents_placed hp hlimit
      have hvisible : visibleName p.1.recorded.name = d.1 := by
        rw [show p.1.recorded.name = d.1 from hentry, (h.storable d hd).printable.visibleName]
      have hsame : d = c := List.inj_on_of_nodup_map h.nodup hd hc (hvisible.symm.trans hname)
      simp only [hcontents, hsame]
      rfl

end Writable

end WatWorkbench.Archive
