import Mathlib.Data.List.Nodup
import WatWorkbench.Proofs.Pipeline.Imports

/-!
# Dictionaries entered into dictionaries

Entering the names of one dictionary into another one goes in order: a name that stands there already
keeps its place, a new one goes to the end.  What a name stands for is put together with what it has
stood for.  Overlaying is the case in which the new thing replaces the old one.

* `Entries.names` — the names, in order.
* `Entries.blend` — the loop; `Entries.find?_blend`, `Entries.names_blend` — what stands where
  afterwards.
* `Entries.Groups` — things that can be put together in any grouping.
* **`Entries.blend_assoc`** — so can dictionaries of them, to the same order of names.
-/

namespace WatWorkbench

variable {α : Type}

/-! ## Names in order -/

namespace Entries

/-- The names, in order. -/
def names (es : Entries α) : List Text := es.map (·.1)

@[simp] lemma names_cons (e : Text × α) (es : Entries α) : names (e :: es) = e.1 :: names es := rfl

lemma nodup_names_nil : (names ([] : Entries α)).Nodup := List.nodup_nil

lemma find?_cons (e : Text × α) (es : Entries α) (name : Text) :
    find? (e :: es) name = if e.1 = name then some e.2 else find? es name := by
  by_cases h : e.1 = name <;> simp [find?, h]

lemma find?_put (es : Entries α) (name n : Text) (a : α) :
    find? (put name a es) n = if name = n then some a else find? es n := by
  induction es with
  | nil => rw [put, find?_cons]
  | cons e es ih =>
      rw [put]
      by_cases he : e.1 = name
      · rw [if_pos he, find?_cons, find?_cons, he]
        split_ifs <;> rfl
      · rw [if_neg he, find?_cons, find?_cons, ih]
        split_ifs with hen hname
        · exact absurd (hen.trans hname.symm) he
        · rfl
        · rfl
        · rfl

lemma find?_eq_none_iff {es : Entries α} {name : Text} :
    find? es name = none ↔ name ∉ names es := by
  induction es with
  | nil => simp [find?, names]
  | cons e es ih => by_cases he : e.1 = name <;> simp_all [find?_cons, eq_comm]

lemma names_put (es : Entries α) (name : Text) (a : α) :
    names (put name a es) = if name ∈ names es then names es else names es ++ [name] := by
  induction es with
  | nil => rfl
  | cons e es ih =>
      by_cases he : e.1 = name
      · simp [put, he]
      · have hne : name ≠ e.1 := fun h => he h.symm
        by_cases hmem : name ∈ names es <;> simp [put, he, hne, ih, hmem]

lemma put_of_notMem {es : Entries α} {name : Text} {a : α} (h : name ∉ names es) :
    put name a es = es ++ [(name, a)] := by
  induction es with
  | nil => rfl
  | cons e es ih =>
      obtain ⟨hne, hrest⟩ := not_or.mp fun hor => h (List.mem_cons.mpr hor)
      rw [put, if_neg fun he => hne he.symm, ih hrest]
      rfl

lemma nodup_put {es : Entries α} {name : Text} {a : α} (h : (names es).Nodup) :
    (names (put name a es)).Nodup := by
  rw [names_put]
  split_ifs with hmem
  · exact h
  · exact List.nodup_append.mpr ⟨h, List.nodup_singleton _, fun n hn m hm heq =>
      hmem (List.mem_singleton.mp hm ▸ heq ▸ hn)⟩

lemma put_put (es : Entries α) (name : Text) (a b : α) :
    put name b (put name a es) = put name b es := by
  induction es with
  | nil => simp [put]
  | cons e es ih => by_cases he : e.1 = name <;> simp [put, he, ih]

/-- A name that stands there already can be given its new thing before or after another name. -/
lemma put_comm {es : Entries α} {m n : Text} {a b : α} (hne : m ≠ n) (hm : m ∈ names es) :
    put m a (put n b es) = put n b (put m a es) := by
  induction es with
  | nil => cases hm
  | cons e es ih =>
      by_cases hem : e.1 = m
      · have hen : e.1 ≠ n := fun h => hne (hem.symm.trans h)
        simp [put, hem, hne]
      · have hmem : m ∈ names es := by
          rcases List.mem_cons.mp hm with h | h
          · exact absurd h.symm hem
          · exact h
        by_cases hen : e.1 = n
        · have hnm : n ≠ m := fun h => hne h.symm
          simp [put, hen, hnm]
        · simp [put, hem, hen, ih hmem]

/-! ## The loop -/

/-- More things are entered by name, each put together with what its name has stood for. -/
def blend (c : Option α → α → α) (es more : Entries α) : Entries α :=
  more.foldl (fun es (n, a) => put n (c (find? es n) a) es) es

variable {c : Option α → α → α}

lemma blend_cons (es more : Entries α) (e : Text × α) :
    blend c es (e :: more) = blend c (put e.1 (c (find? es e.1) e.2) es) more := rfl

lemma overlay_eq_blend (es more : Entries α) : overlay es more = blend (fun _ a => a) es more := rfl

lemma find?_blend (es : Entries α) {more : Entries α} (h : (names more).Nodup) (name : Text) :
    find? (blend c es more) name =
      ((find? more name).map (c (find? es name))).or (find? es name) := by
  induction more generalizing es with
  | nil => rfl
  | cons e more ih =>
      obtain ⟨hnew, hrest⟩ := List.nodup_cons.mp h
      rw [blend_cons, ih _ hrest, find?_put, find?_cons]
      split_ifs with he
      · have hgone : find? more name = none := find?_eq_none_iff.mpr (he ▸ hnew)
        simp [hgone, he]
      · rfl

lemma names_blend (es : Entries α) {more : Entries α} (h : (names more).Nodup) :
    names (blend c es more) = names es ++ (names more).filter (· ∉ names es) := by
  induction more generalizing es with
  | nil => simp [blend, names]
  | cons e more ih =>
      obtain ⟨hnew, hrest⟩ := List.nodup_cons.mp h
      rw [blend_cons, ih _ hrest, names_put]
      split_ifs with hmem
      · simp [hmem]
      · -- the name is new, and none of those to come is the same
        have hsame : (names more).filter (· ∉ names es ++ [e.1]) =
            (names more).filter (· ∉ names es) := List.filter_congr fun n hn => by
          have hne : n ≠ e.1 := by rintro rfl; exact hnew hn
          simp [hne]
        rw [hsame, names_cons, List.filter_cons_of_pos (by simpa using hmem), List.append_assoc]
        rfl

lemma nodup_blend {es : Entries α} (more : Entries α) (h : (names es).Nodup) :
    (names (blend c es more)).Nodup := by
  induction more generalizing es with
  | nil => exact h
  | cons e more ih => exact ih (nodup_put h)

/-- A name that stands there already and is not among those entered can be dealt with first. -/
lemma put_blend {es more : Entries α} {name : Text} {a : α} (hold : name ∈ names es)
    (hnew : name ∉ names more) :
    put name a (blend c es more) = blend c (put name a es) more := by
  induction more generalizing es with
  | nil => rfl
  | cons e more ih =>
      have hne : name ≠ e.1 := fun h => hnew (h ▸ List.mem_cons_self)
      have hrest : name ∉ names more := fun h => hnew (List.mem_cons_of_mem _ h)
      have hstill : name ∈ names (put e.1 (c (find? es e.1) e.2) es) := by
        rw [names_put]
        split_ifs
        · exact hold
        · exact List.mem_append_left _ hold
      rw [blend_cons, ih hstill hrest, put_comm hne hold, blend_cons, find?_put, if_neg hne]

/-- What has to hold of putting two things together so that dictionaries can be blended in any
grouping: things that come one after another can be put together first. -/
structure Groups (P : α → Prop) (c : Option α → α → α) : Prop where
  /-- Two things that come to one that may be there. -/
  again : ∀ o a b, P a → c (some (c o a)) b = c o (c (some a) b)
  /-- A thing that has come to nothing before. -/
  first : ∀ o a, c o (c none a) = c o a
  /-- What is put together is of the same sort. -/
  keeps : ∀ o a, (∀ b ∈ o, P b) → P (c o a)

variable {P : α → Prop}

lemma of_find? {es : Entries α} (h : ∀ e ∈ es, P e.2) (name : Text) : ∀ a ∈ find? es name, P a := by
  intro a ha
  obtain ⟨n, hn⟩ := mem_of_find? ha
  exact h _ hn

lemma forall_put {es : Entries α} {name : Text} {a : α} (h : ∀ e ∈ es, P e.2) (ha : P a) :
    ∀ e ∈ put name a es, P e.2 := by
  intro e he
  rcases mem_put he with hput | hmem
  · exact hput ▸ ha
  · exact h _ hmem

lemma each_congr {β : Type} {f g : α → β} {es : Entries α} (h : ∀ e ∈ es, f e.2 = g e.2) :
    each f es = each g es := List.map_congr_left fun e he => Prod.ext rfl (h e he)

lemma forall_blend (hc : Groups P c) {es : Entries α} (more : Entries α) (h : ∀ e ∈ es, P e.2) :
    ∀ e ∈ blend c es more, P e.2 := by
  induction more generalizing es with
  | nil => exact h
  | cons e more ih => exact ih (forall_put h (hc.keeps _ _ (of_find? h _)))

/-- A name entered into the dictionary that is blended in can be entered afterwards instead. -/
lemma blend_put (hc : Groups P c) (es : Entries α) {more : Entries α} (h : (names more).Nodup)
    (hmore : ∀ e ∈ more, P e.2) (name : Text) (a : α) :
    blend c es (put name (c (find? more name) a) more) =
      put name (c (find? (blend c es more) name) a) (blend c es more) := by
  -- on the dictionary that is blended in, as far as the place of the name
  induction more generalizing es with
  | nil =>
      rw [put, blend_cons, show find? ([] : Entries α) name = none from rfl, hc.first]
      rfl
  | cons e more ih =>
      obtain ⟨hnew, hrest⟩ := List.nodup_cons.mp h
      rw [find?_cons, put]
      split_ifs with he
      · subst he
        -- what stands under the name once it has been entered, and what will stand there in the end
        set u := c (find? es e.1) e.2 with hu
        have hstands : find? (blend c (put e.1 u es) more) e.1 = some u := by
          rw [find?_blend _ hrest, find?_eq_none_iff.mpr hnew, find?_put, if_pos rfl]
          rfl
        have hmem : e.1 ∈ names (put e.1 u es) := by
          rw [names_put]
          split_ifs with hold
          · exact hold
          · exact List.mem_append_right _ List.mem_cons_self
        rw [blend_cons, blend_cons, hstands, put_blend hmem hnew, put_put,
          hc.again _ _ _ (hmore e List.mem_cons_self)]
      · rw [blend_cons, blend_cons]
        exact ih _ hrest fun x hx => hmore x (List.mem_cons_of_mem _ hx)

/-- **Three dictionaries** can be blended in either grouping, to the same order of names. -/
lemma blend_assoc (hc : Groups P c) (es : Entries α) {mid : Entries α} (h : (names mid).Nodup)
    (hmid : ∀ e ∈ mid, P e.2) (more : Entries α) :
    blend c (blend c es mid) more = blend c es (blend c mid more) := by
  induction more generalizing mid with
  | nil => rfl
  | cons e more ih =>
      have hput : ∀ x ∈ put e.1 (c (find? mid e.1) e.2) mid, P x.2 :=
        forall_put hmid (hc.keeps _ _ (of_find? hmid _))
      rw [blend_cons, blend_cons, ← blend_put hc es h hmid e.1 e.2]
      exact ih (nodup_put h) hput

lemma groups_overlay : Groups (fun _ : α => True) (fun _ a => a) :=
  ⟨fun _ _ _ _ => rfl, fun _ _ => rfl, fun _ _ _ => trivial⟩

lemma overlay_assoc (es : Entries α) {mid : Entries α} (h : (names mid).Nodup)
    (more : Entries α) : overlay (overlay es mid) more = overlay es (overlay mid more) :=
  blend_assoc groups_overlay es h (fun _ _ => trivial) more

lemma nodup_overlay {es : Entries α} (more : Entries α) (h : (names es).Nodup) :
    (names (overlay es more)).Nodup := nodup_blend (c := fun _ a => a) more h

/-- Names that are all new come at the end. -/
lemma overlay_of_nodup {es more : Entries α} (h : (names (es ++ more)).Nodup) :
    overlay es more = es ++ more := by
  induction more generalizing es with
  | nil => exact (List.append_nil es).symm
  | cons e more ih =>
      have hsplit : es ++ e :: more = es ++ [e] ++ more := by simp
      have hnames : names (es ++ e :: more) = names es ++ e.1 :: names more := List.map_append
      have hnew : e.1 ∉ names es := fun hmem =>
        (List.nodup_append.mp (hnames ▸ h)).2.2 _ hmem _ List.mem_cons_self rfl
      rw [overlay_eq_blend, blend_cons, put_of_notMem hnew, ← overlay_eq_blend,
        ih (hsplit ▸ h), hsplit]

/-- Names that come to stand for something else leave the others alone. -/
lemma find?_overlay_of_notMem {es more : Entries α} {name : Text} (h : ∀ a, (name, a) ∉ more) :
    find? (overlay es more) name = find? es name := by
  induction more generalizing es with
  | nil => rfl
  | cons e more ih =>
      have hne : e.1 ≠ name := fun he => h e.2 (he ▸ List.mem_cons_self)
      have hrest : find? (overlay (put e.1 e.2 es) more) name = find? (put e.1 e.2 es) name :=
        ih fun a ha => h a (List.mem_cons_of_mem _ ha)
      exact hrest.trans ((find?_put es e.1 name e.2).trans (if_neg hne))

end Entries

end WatWorkbench
