import Mathlib.Algebra.Order.Ring.Nat
import Mathlib.Data.List.Nodup
import Mathlib.Data.List.Perm.Subperm
import Mathlib.Data.List.TakeWhile
import WatWorkbench.Proofs.Files.Places

/-!
# Names that are not in use

A temporary file gets a name by number.  Different numbers give different names, so of more numbers
than there are files one is not in use; and where the directory of a path can be looked at, the
first such number is found.

* `Path.check_eq_ok_iff` — the paths that the system can be asked about.
* `locate_child` — a path leads through its directory.
* `temporaryName_injective`, `exists_unused` — a number that is not in use.
* **`createTemporary_unused`** — a temporary file never takes the place of another file.
-/

namespace WatWorkbench

namespace Path

/-! ## Paths that the system can be asked about -/

lemma drop_length_takeWhile {α : Type} (f : α → Bool) (l : List α) :
    l.drop (l.takeWhile f).length = l.dropWhile f := by
  induction l with
  | nil => rfl
  | cons a l ih => by_cases h : f a <;> simp [h, ih]

lemma forall_mem_split {α : Type} (f : α → Bool) {l : List α} {P : α → Prop} :
    (∀ a ∈ l, P a) ↔ (∀ a ∈ l.takeWhile f, P a) ∧ ∀ a ∈ l.dropWhile f, P a := by
  rw [← List.forall_mem_append, List.takeWhile_append_dropWhile]

lemma head_dropWhile {α : Type} {f : α → Bool} {l rest : List α} {a : α}
    (h : l.dropWhile f = a :: rest) : f a = false := by
  have hhead := List.head?_dropWhile_not f l
  rw [h] at hhead
  simpa using hhead

/-- All runs are looked at if there is enough to go on with. -/
lemma unencodable_eq_none_iff {cs : List Nat} {offset fuel : Nat} (h : cs.length ≤ fuel) :
    unencodable offset fuel cs = none ↔ ∀ c ∈ cs, Text.isSurrogate c → isOctetPoint c := by
  induction fuel generalizing offset cs with
  | zero =>
      obtain rfl := List.eq_nil_of_length_eq_zero (Nat.le_zero.mp h)
      simp [unencodable]
  | succ fuel ih =>
      have hplain : ∀ c ∈ cs.takeWhile (!Text.isSurrogate ·), Text.isSurrogate c → isOctetPoint c :=
        fun c hc hsurrogate => absurd hsurrogate (by simpa using List.mem_takeWhile_imp hc)
      have hlength := (cs.dropWhile_sublist (!Text.isSurrogate ·)).length_le
      rw [unencodable, drop_length_takeWhile, forall_mem_split (!Text.isSurrogate ·),
        and_iff_right hplain]
      generalize hrest : cs.dropWhile (!Text.isSurrogate ·) = rest at hlength ⊢
      rcases rest with _ | ⟨c, rest⟩
      · simp
      · have hc : Text.isSurrogate c = true := by simpa using head_dropWhile hrest
        have hlater : ((c :: rest).dropWhile Text.isSurrogate).length ≤ rest.length := by
          rw [List.dropWhile_cons_of_pos hc]
          exact (rest.dropWhile_sublist _).length_le
        rw [List.takeWhile_cons_of_pos hc]
        dsimp only
        rw [← List.takeWhile_cons_of_pos (p := Text.isSurrogate) (l := rest) hc,
          drop_length_takeWhile, forall_mem_split Text.isSurrogate]
        rw [List.length_cons] at hlength
        split_ifs with hall
        · rw [ih (by omega)]
          exact (and_iff_right fun d hd _ => List.all_eq_true.mp hall d hd).symm
        · refine iff_of_false (by simp) fun hevery => hall (List.all_eq_true.mpr fun d hd => ?_)
          exact hevery.1 d hd (List.mem_takeWhile_imp hd)

variable {p : Path} {name : Text}

lemma check_eq_ok_iff : p.check = .ok () ↔
    (∀ c ∈ p.text.points, Text.isSurrogate c → isOctetPoint c) ∧ 0 ∉ p.text.points := by
  rw [check, ← @unencodable_eq_none_iff _ 0 _ (Nat.le_refl _)]
  rcases unencodable 0 p.text.points.length p.text.points with _ | fault
  · by_cases h : 0 ∈ p.text.points <;> simp [h]
  · simp

/-! ## The directory of a path -/

lemma intercalate_concat {α : Type} (sep : List α) (xs : List (List α)) (x : List α) :
    sep.intercalate (xs ++ [x]) = if xs = [] then x else sep.intercalate xs ++ (sep ++ x) := by
  induction xs with
  | nil => simp [List.intercalate]
  | cons y ys ih =>
      rcases ys with _ | ⟨z, zs⟩
      · simp [List.intercalate]
      · simp only [List.cons_append, List.intercalate, List.intersperse_cons_cons,
          List.flatten_cons, reduceCtorEq, if_false] at ih ⊢
        rw [ih]
        simp only [List.append_assoc]

lemma points_join_concat (sep : Text) (ts : List Text) (t : Text) :
    (Text.join sep (ts ++ [t])).points =
      if ts = [] then t.points else (Text.join sep ts).points ++ (sep.points ++ t.points) := by
  rw [Text.join, Text.join, List.map_append, List.map_singleton, intercalate_concat]
  simp only [List.map_eq_nil_iff]

/-- The text of a path is that of its directory, if that has names or an anchor, and its last
name. -/
lemma points_text_child (p : Path) (name : Text) :
    ∃ sep, (sep = [] ∨ sep = [slash]) ∧ (p.child name).text.points =
      (if p = {} then [] else p.text.points) ++ (sep ++ name.points) := by
  obtain ⟨anchor, parts⟩ := p
  cases anchor with
  | here =>
      rcases parts with _ | ⟨first, parts⟩
      · have hempty : ("" : Text).points = [] := rfl
        exact ⟨[], .inl rfl, by simp [child, text, anchorText, Text.join, List.intercalate, hempty]⟩
      · refine ⟨[slash], .inr rfl, ?_⟩
        show (("" : Text) ++ Text.join "/" (first :: parts ++ [name])).points =
          (if _ then _ else (("" : Text) ++ Text.join "/" (first :: parts)).points) ++ _
        rw [Text.points_append, Text.points_append, points_join_concat,
          if_neg (List.cons_ne_nil _ _), if_neg (by simp)]
        exact (List.append_assoc _ _ _).symm
  | working t =>
      refine ⟨[slash], .inr rfl, ?_⟩
      show (Text.join "/" (t :: parts ++ [name])).points =
        (if _ then _ else (Text.join "/" (t :: parts)).points) ++ _
      rw [points_join_concat, if_neg (List.cons_ne_nil _ _), if_neg (by simp)]
      rfl
  | root doubled =>
      have htext : ∀ names, text ⟨.root doubled, names⟩ =
        anchorText (.root doubled) ++ Text.join "/" names := fun _ => rfl
      have hroot : (⟨.root doubled, parts⟩ : Path) ≠ {} := by simp
      rw [child, if_neg hroot, htext, htext, Text.points_append, Text.points_append,
        points_join_concat]
      split_ifs with hparts
      · subst hparts
        exact ⟨[], .inl rfl, by simp [Text.join, List.intercalate]⟩
      · exact ⟨[slash], .inr rfl, (List.append_assoc _ _ _).symm⟩

/-- The system can be asked about a path if it can be asked about its directory and its last name
has none of the code points that no name can have. -/
lemma check_child : (p.child name).check = .ok () ↔ p.check = .ok () ∧
    (∀ c ∈ name.points, Text.isSurrogate c → isOctetPoint c) ∧ 0 ∉ name.points := by
  obtain ⟨sep, hsep, htext⟩ := points_text_child p name
  have hslash : ∀ c ∈ sep, ¬ Text.isSurrogate c ∧ c ≠ 0 := by
    rcases hsep with rfl | rfl
    · simp
    · simp only [List.mem_singleton, forall_eq]
      decide
  have hfront : ((∀ c ∈ (if p = {} then [] else p.text.points),
      Text.isSurrogate c → isOctetPoint c) ∧
        0 ∉ (if p = {} then [] else p.text.points)) ↔ p.check = .ok () := by
    split_ifs with hp
    · subst hp
      exact iff_of_true (by simp) (check_eq_ok_iff.mpr (by decide))
    · exact check_eq_ok_iff.symm
  rw [check_eq_ok_iff, ← hfront, htext]
  simp only [List.mem_append]
  constructor
  · rintro ⟨hsurrogates, hzero⟩
    exact ⟨⟨fun c hc => hsurrogates c (.inl hc), fun hc => hzero (.inl hc)⟩,
      fun c hc => hsurrogates c (.inr (.inr hc)), fun hc => hzero (.inr (.inr hc))⟩
  · rintro ⟨⟨hsurrogates, hzero⟩, hsurrogates', hzero'⟩
    refine ⟨?_, ?_⟩
    · rintro c (hc | hc | hc)
      · exact hsurrogates c hc
      · exact fun hsurrogate => absurd hsurrogate (hslash c hc).1
      · exact hsurrogates' c hc
    · rintro (hc | hc | hc)
      · exact hzero hc
      · exact (hslash 0 hc).2 rfl
      · exact hzero' hc

lemma parent_eq_self (h : p.parts = []) : p.parent = p := by
  rw [parent, h, List.dropLast_nil, ← h]

lemma parent_child_name (h : p.parts ≠ []) : p.parent.child p.name = p := by
  obtain ⟨anchor, parts⟩ := p
  rw [parent, child, name, List.getLastD_eq_getLast?, List.getLast?_eq_some_getLast h]
  simp [List.dropLast_append_getLast h]

/-- How many octets a code point has in a name. -/
def pointSize (c : Nat) : Nat := if isOctetPoint c then 1 else (Utf8.encodePoint c).length

lemma nameSize_eq (t : Text) : nameSize t = (t.points.map pointSize).sum := by
  rw [List.sum_eq_foldl, List.foldl_map]
  rfl

end Path

namespace FileSystem

variable {fs fs' : FileSystem} {p : Path} {q : Place} {name : Text}

/-- A path leads through its directory. -/
lemma locate_child (hlocate : fs.locate (p.child name) = .ok q) :
    ∃ d, fs.locate p = .ok d ∧ fs.node? d = some .directory ∧
      (if name = Path.upName then d.up else d.child name) = q := by
  obtain ⟨hcheck, hshort, hfollow⟩ := locate_eq_ok_iff.mp hlocate
  obtain ⟨d, hd, hdirectory, -, hq⟩ := follow_concat_eq_ok_iff.mp hfollow
  obtain ⟨sep, -, htext⟩ := Path.points_text_child p name
  refine ⟨d, locate_eq_ok_iff.mpr ⟨(Path.check_child.mp hcheck).1, ?_, hd⟩, hdirectory, hq⟩
  rw [Path.nameSize_eq] at hshort ⊢
  rw [htext, List.map_append, List.sum_append] at hshort
  split_ifs at hshort with hp
  · subst hp
    decide
  · exact Nat.le_trans (Nat.le_add_right _ _) hshort

/-- What holds the place of a path is a directory. -/
lemma locate_parent (h : fs.locate p = .ok q) :
    ∃ d, fs.locate p.parent = .ok d ∧ fs.node? d = some .directory := by
  by_cases hparts : p.parts = []
  · rw [Path.parent_eq_self hparts]
    refine ⟨q, h, ?_⟩
    have hstart := (locate_eq_ok_iff.mp h).2.2
    rw [hparts, follow, Except.ok.injEq] at hstart
    rw [← hstart, start]
    split <;> exact node?_of_isEmpty rfl
  · rw [← Path.parent_child_name hparts] at h
    obtain ⟨d, hd, hdirectory, -⟩ := locate_child h
    exact ⟨d, hd, hdirectory⟩

/-! ## Names by number -/

lemma isDigit_of_mem_decimal {n c : Nat} (h : c ∈ (Text.decimal n).points) :
    c ≠ 'X'.toNat := by
  obtain ⟨d, hd, rfl⟩ := List.mem_map.mp h
  have hdigit : d.isDigit = true := Nat.isDigit_of_mem_toDigits (by decide) (by decide) hd
  intro hX
  obtain rfl := Char.toNat_inj.mp hX
  exact absurd hdigit (by decide)

lemma decimal_injective : Function.Injective Text.decimal := by
  intro m n h
  have hchars : Nat.toDigits 10 m = Nat.toDigits 10 n :=
    List.map_injective_iff (f := Char.toNat) |>.mpr (fun _ _ => Char.toNat_inj.mp) (Text.mk.inj h)
  rw [← Nat.ofDigitChars_ten_toDigits (n := m), hchars, Nat.ofDigitChars_ten_toDigits]

/-- The letters without those that fill them up are the number, and there are some of its digits. -/
lemma filter_temporaryLetters (n : Nat) :
    (temporaryLetters n).points.filter (· ≠ 'X'.toNat) =
      if n = 0 then [] else (Text.decimal n).points := by
  rw [temporaryLetters]
  split_ifs
  · rfl
  · have hdigits : (Text.decimal n).points.filter (· ≠ 'X'.toNat) = (Text.decimal n).points :=
      List.filter_eq_self.mpr fun c hc => by simpa using isDigit_of_mem_decimal hc
    rw [Text.padLeft, List.filter_append, hdigits, List.filter_replicate]
    simp

lemma temporaryLetters_injective : Function.Injective temporaryLetters := by
  intro m n h
  have hdigits := congrArg (fun t : Text => t.points.filter (· ≠ 'X'.toNat)) h
  simp only [filter_temporaryLetters] at hdigits
  have hsome : ∀ n, (Text.decimal n).points ≠ [] := fun n => by
    simp [Text.decimal, Text.ofChars, Nat.toDigits_ne_nil]
  split_ifs at hdigits with hm hn hn
  · rw [hm, hn]
  · exact absurd hdigits.symm (hsome n)
  · exact absurd hdigits (hsome m)
  · exact decimal_injective (congrArg Text.mk hdigits)

lemma temporaryName_injective (name : Text) : Function.Injective (temporaryName name) := by
  intro m n h
  have hpoints := congrArg Text.points h
  simp only [temporaryName, Text.points_append, List.append_assoc, List.append_cancel_left_eq,
    List.append_cancel_right_eq] at hpoints
  exact temporaryLetters_injective (congrArg Text.mk hpoints)

lemma temporaryName_ne_upName (name : Text) (n : Nat) : temporaryName name n ≠ Path.upName := by
  intro h
  have hlength := congrArg (fun t : Text => t.points.length) h
  have hup : Path.upName.points.length = 2 := rfl
  have hend : (".tmp" : Text).points.length = 4 := rfl
  simp only [temporaryName, Text.points_append, List.length_append, hup, hend] at hlength
  omega

/-- One of the first numbers is not in use: there are more of them than files. -/
lemma exists_unused (fs : FileSystem) (directory : Place) (name : Text) :
    ∃ k < fs.nodes.length + 1, fs.node? (directory.child (temporaryName name k)) = none := by
  by_contra hall
  push Not at hall
  set place := fun k => directory.child (temporaryName name k) with hplace
  have hinjective : Function.Injective place := by
    intro m n h
    have hparts := congrArg Place.parts h
    simp only [hplace, Place.child, List.append_cancel_left_eq, List.cons.injEq, and_true] at hparts
    exact temporaryName_injective name hparts
  have hused : (List.range (fs.nodes.length + 1)).map place ⊆ fs.nodes.map Prod.fst := by
    intro q hq
    obtain ⟨k, hk, rfl⟩ := List.mem_map.mp hq
    have hnode := hall k (List.mem_range.mp hk)
    rw [node?, if_neg (by simp [Place.child]), ne_eq, Option.map_eq_none_iff] at hnode
    obtain ⟨e, he⟩ := Option.ne_none_iff_exists'.mp hnode
    have heq : e.1 = place k := by simpa using List.find?_some he
    exact List.mem_map.mpr ⟨e, List.mem_of_find?_eq_some he, heq⟩
  have hnodup : ((List.range (fs.nodes.length + 1)).map place).Nodup :=
    List.nodup_range.map hinjective
  have hcount := (List.subperm_of_subset hnodup hused).length_le
  simp only [List.length_map, List.length_range] at hcount
  omega

lemma node?_freshNumber (fs : FileSystem) (directory : Place) (name : Text) :
    fs.node? (directory.child (temporaryName name (fs.freshNumber directory name))) = none := by
  obtain ⟨k, hk, hnone⟩ := exists_unused fs directory name
  rw [freshNumber]
  rcases hfind : (List.range (fs.nodes.length + 1)).find? fun k =>
    (fs.node? (directory.child (temporaryName name k))).isNone with _ | found
  · have := List.find?_eq_none.mp hfind k (List.mem_range.mpr hk)
    simp [hnone] at this
  · simpa using List.find?_some hfind

lemma createTemporary_eq_ok_iff {directory temporary : Path} {place : Place} :
    fs.createTemporary directory name = (.ok (temporary, place), fs') ↔
      (directory.full fs.working).child (temporaryName name
          (match fs.locate (directory.full fs.working) with
            | .ok d => fs.freshNumber d name
            | .error _ => 0)) = temporary ∧
        fs.locate temporary = .ok place ∧ fs.refuses (.create place) = none ∧
        fs.put place (.file []) = fs' := by
  rw [createTemporary]
  generalize directory.full fs.working = full
  generalize full.child (temporaryName name _) = p
  rcases hlocate : fs.locate p with e | q
  · simp only [bind, Except.bind, Prod.mk.injEq, reduceCtorEq, false_and, false_iff, not_and]
    rintro rfl h
    rw [hlocate] at h
    cases h
  · rcases hrefuses : fs.refuses (.create q) with _ | code
    · simp only [permit, hrefuses, bind, Except.bind, pure, Except.pure, Prod.mk.injEq,
        Except.ok.injEq]
      constructor
      · rintro ⟨⟨rfl, rfl⟩, rfl⟩
        exact ⟨rfl, hlocate, hrefuses, rfl⟩
      · rintro ⟨rfl, hplace, -, rfl⟩
        rw [hlocate, Except.ok.injEq] at hplace
        exact ⟨⟨rfl, hplace⟩, by rw [hplace]⟩
    · simp only [permit, hrefuses, bind, Except.bind, Prod.mk.injEq, reduceCtorEq, false_and,
        false_iff, not_and]
      rintro rfl hplace
      rw [hlocate, Except.ok.injEq] at hplace
      simp [← hplace, hrefuses]

/-- **A temporary file** is made at a place where nothing is. -/
theorem createTemporary_unused {directory temporary : Path} {place : Place}
    (h : fs.createTemporary directory name = (.ok (temporary, place), fs')) :
    fs.node? place = none ∧ fs.put place (.file []) = fs' := by
  obtain ⟨htemporary, hlocate, -, hfs⟩ := createTemporary_eq_ok_iff.mp h
  refine ⟨?_, hfs⟩
  rw [← htemporary] at hlocate
  obtain ⟨d, hd, -, hplace⟩ := locate_child hlocate
  rw [if_neg (temporaryName_ne_upName _ _), hd] at hplace
  rw [← hplace]
  exact node?_freshNumber fs d name

lemma createTemporary_of_error {directory : Path} {e : Failure}
    (h : fs.createTemporary directory name = (.error e, fs')) : fs' = fs := by
  rw [createTemporary] at h
  split at h <;> simp at h
  exact h.2.symm

end FileSystem

end WatWorkbench
