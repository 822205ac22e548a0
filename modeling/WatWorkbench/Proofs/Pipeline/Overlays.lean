import WatWorkbench.Engine.Dictionaries
import WatWorkbench.Proofs.Pipeline.Blending

/-!
# Tables overlaid with tables

Overlaying a table with another one enters namespaces into it, and where a namespace stands there
already, names.  Both are the same loop over dictionaries.  The dictionaries themselves may be shared
by several tables, so it is told as well which of them are new and which stay as they are.

* `ImportTable.IsProper` — no name stands twice.
* `Dictionaries.Building`, `Dictionaries.Holding` — a table that is being built next to the others.
* `Dictionaries.Merged` — a table that has been built without touching them.
* `Dictionaries.merged_merge` — the table that merging builds.
* **`ImportTable.merge_laws`** — what merging gives, and that it changes nothing else.
-/

namespace WatWorkbench

variable {α : Type}

/-! ## Tables -/

namespace ImportTable

/-- What the table holds in a namespace. -/
def space (t : ImportTable α) (m : Text) : Entries α := (Entries.find? t m).getD []

/-- No namespace stands twice in the table, and no name twice in a namespace. -/
structure IsProper (t : ImportTable α) : Prop where
  spaces : (Entries.names t).Nodup
  names : ∀ e ∈ t, (Entries.names e.2).Nodup

lemma merge_eq_blend (t more : ImportTable α) :
    merge t more = Entries.blend (fun o es => Entries.overlay (o.getD []) es) t more := rfl

/-- Namespaces are put together by overlaying, which can be grouped itself. -/
lemma groups_merge : Entries.Groups (fun es : Entries α => (Entries.names es).Nodup)
    (fun o es => Entries.overlay (o.getD []) es) where
  again o _ _ ha := Entries.overlay_assoc (o.getD []) ha _
  first o a := (Entries.overlay_assoc (o.getD []) Entries.nodup_names_nil a).symm
  keeps o a ho := Entries.nodup_overlay a (by
    cases o with
    | none => exact Entries.nodup_names_nil
    | some es => exact ho es rfl)

lemma IsProper.merge {t : ImportTable α} (ht : t.IsProper) (more : ImportTable α) :
    (merge t more).IsProper :=
  ⟨merge_eq_blend t more ▸ Entries.nodup_blend more ht.spaces,
    Entries.forall_blend groups_merge more ht.names⟩

lemma IsProper.space {t : ImportTable α} (ht : t.IsProper) (m : Text) :
    (Entries.names (t.space m)).Nodup := by
  unfold ImportTable.space
  cases hfind : Entries.find? t m with
  | none => exact List.nodup_nil
  | some es => exact Entries.of_find? (P := fun es => (Entries.names es).Nodup) ht.names m es hfind

lemma lookup?_eq_find?_space (t : ImportTable α) (m n : Text) :
    t.lookup? m n = Entries.find? (t.space m) n := by
  unfold lookup? space
  cases Entries.find? t m <;> rfl

/-- What a merged table holds in a namespace. -/
lemma space_merge (t : ImportTable α) {more : ImportTable α} (h : more.IsProper) (m : Text) :
    (merge t more).space m = Entries.overlay (t.space m) (more.space m) := by
  unfold space
  rw [merge_eq_blend, Entries.find?_blend t h.spaces]
  cases Entries.find? more m <;> rfl

lemma lookup?_merge (t : ImportTable α) {more : ImportTable α} (h : more.IsProper) (m n : Text) :
    (merge t more).lookup? m n = (more.lookup? m n).or (t.lookup? m n) := by
  simp only [lookup?_eq_find?_space, space_merge t h, Entries.overlay_eq_blend]
  rw [Entries.find?_blend _ (h.space m), Option.map_id']

lemma merge_assoc (t : ImportTable α) {mid : ImportTable α} (h : mid.IsProper)
    (more : ImportTable α) : merge (merge t mid) more = merge t (merge mid more) :=
  Entries.blend_assoc groups_merge t h.spaces h.names more

end ImportTable

/-! ## Dictionaries -/

namespace Dictionaries

/-- Every dictionary has each of its names once, and tables hold dictionaries that are there. -/
structure IsSound (s : Dictionaries α) : Prop where
  spaces : ∀ es ∈ s.spaces, (Entries.names es).Nodup
  tables : ∀ refs ∈ s.tables, (Entries.names refs).Nodup
  held : ∀ refs ∈ s.tables, ∀ x ∈ refs, x.2 < s.spaces.length

/-- The table is there. -/
def Has (s : Dictionaries α) (t : Nat) : Prop := t < s.tables.length

instance (s : Dictionaries α) (t : Nat) : Decidable (s.Has t) :=
  inferInstanceAs (Decidable (t < s.tables.length))

variable {start s : Dictionaries α} {refs : Entries Nat} {m : Text} {r : Nat}

lemma forall_mem_modify {β : Type} {P : β → Prop} {f : β → β} {l : List β} (h : ∀ b ∈ l, P b)
    (hf : ∀ b, P b → P (f b)) (i : Nat) : ∀ b ∈ l.modify i f, P b := by
  induction l generalizing i with
  | nil => simp
  | cons a l ih =>
      have hrest : ∀ b ∈ l, P b := fun b hb => h b (List.mem_cons_of_mem _ hb)
      cases i with
      | zero => exact List.forall_mem_cons.mpr ⟨hf a (h a List.mem_cons_self), hrest⟩
      | succ i => exact List.forall_mem_cons.mpr ⟨h a List.mem_cons_self, ih hrest i⟩

/-- What is changed behind a list leaves the list alone. -/
lemma modify_append {β : Type} (f : β → β) (l more : List β) {i : Nat} (h : l.length ≤ i) :
    (l ++ more).modify i f = l ++ more.modify (i - l.length) f := by
  induction l generalizing i with
  | nil => rfl
  | cons a l ih =>
      obtain ⟨i, rfl⟩ : ∃ j, i = j + 1 := ⟨i - 1, by simp only [List.length_cons] at h; omega⟩
      have hle : l.length ≤ i := Nat.le_of_succ_le_succ h
      rw [List.cons_append, List.modify_succ_cons, ih hle, List.length_cons, List.cons_append,
        Nat.add_sub_add_right]

lemma IsSound.space (h : s.IsSound) (r : Nat) : (Entries.names (s.space r)).Nodup := by
  unfold Dictionaries.space
  cases hr : s.spaces[r]? with
  | none => exact Entries.nodup_names_nil
  | some es => exact h.spaces es (List.mem_of_getElem? hr)

lemma IsSound.newSpace (h : s.IsSound) {es : Entries α} (hes : (Entries.names es).Nodup) :
    (newSpace es s).2.IsSound where
  spaces := by
    intro x hx
    rcases List.mem_append.mp hx with hold | hnew
    · exact h.spaces x hold
    · exact List.mem_singleton.mp hnew ▸ hes
  tables := h.tables
  held refs hrefs x hx := by
    have hlt := h.held refs hrefs x hx
    simp only [Dictionaries.newSpace, List.length_append]
    omega

lemma IsSound.newTable (h : s.IsSound) : (newTable s).2.IsSound where
  spaces := h.spaces
  tables := by
    intro refs hrefs
    rcases List.mem_append.mp hrefs with hold | hnew
    · exact h.tables refs hold
    · exact List.mem_singleton.mp hnew ▸ Entries.nodup_names_nil
  held := by
    intro refs hrefs x hx
    rcases List.mem_append.mp hrefs with hold | hnew
    · exact h.held refs hold x hx
    · rw [List.mem_singleton.mp hnew] at hx
      cases hx

lemma IsSound.assign (h : s.IsSound) (t : Nat) (m : Text) (hr : r < s.spaces.length) :
    (assign t m r s).2.IsSound where
  spaces := h.spaces
  tables := forall_mem_modify h.tables (fun _ => Entries.nodup_put) t
  held := forall_mem_modify h.held (fun _ hrefs =>
    Entries.forall_put (P := (· < s.spaces.length)) hrefs hr) t

lemma IsSound.update (h : s.IsSound) (r : Nat) (more : Entries α) :
    (update r more s).2.IsSound where
  spaces := forall_mem_modify h.spaces (fun _ => Entries.nodup_overlay more) r
  tables := h.tables
  held refs hrefs x hx := by
    have hlt := h.held refs hrefs x hx
    rwa [Dictionaries.update, List.length_modify]

lemma view_eq_each (s : Dictionaries α) (x : Nat) :
    s.view x = Entries.each s.space (s.table x) := rfl

/-! ## A table that is being built -/

/-- A table is being built at the end, with the given dictionaries as its namespaces: each of them
is a new one and stands there once.  All that was there before is as it was. -/
structure Building (start : Dictionaries α) (refs : Entries Nat) (s : Dictionaries α) : Prop where
  spaces : start.spaces <+: s.spaces
  tables : s.tables = start.tables ++ [refs]
  newSpaces : ∀ x ∈ refs, start.spaces.length ≤ x.2
  apart : (refs.map (·.2)).Nodup
  sound : s.IsSound

lemma Building.table (h : Building start refs s) : s.table start.tables.length = refs := by
  simp [Dictionaries.table, h.tables]

lemma Building.held (h : Building start refs s) : ∀ x ∈ refs, x.2 < s.spaces.length :=
  h.sound.held refs (h.tables ▸ List.mem_append_right _ List.mem_cons_self)

/-- A dictionary that was there before is as it was. -/
lemma Building.space_eq (h : Building start refs s) (hr : r < start.spaces.length) :
    s.space r = start.space r := by
  obtain ⟨more, hmore⟩ := h.spaces
  unfold Dictionaries.space
  rw [← hmore, List.getElem?_append_left hr]

lemma space_newSpace (s : Dictionaries α) (es : Entries α) :
    (newSpace es s).2.space s.spaces.length = es := by
  simp [Dictionaries.space, newSpace]

lemma space_newSpace_of_lt (es : Entries α) (hr : r < s.spaces.length) :
    (newSpace es s).2.space r = s.space r := by
  simp [Dictionaries.space, newSpace, List.getElem?_append_left hr]

lemma Building.newSpace (h : Building start refs s) {es : Entries α}
    (hes : (Entries.names es).Nodup) : Building start refs (newSpace es s).2 :=
  { h with
    spaces := h.spaces.trans (List.prefix_append _ _)
    sound := h.sound.newSpace hes }

lemma Building.each_newSpace (h : Building start refs s) (es : Entries α) :
    Entries.each (Dictionaries.newSpace es s).2.space refs = Entries.each s.space refs :=
  Entries.each_congr fun x hx => space_newSpace_of_lt es (h.held x hx)

lemma nodup_values_put {m : Text} {r : Nat} (h : (refs.map (·.2)).Nodup)
    (hr : r ∉ refs.map (·.2)) : ((Entries.put m r refs).map (·.2)).Nodup := by
  induction refs with
  | nil => exact List.nodup_singleton r
  | cons e refs ih =>
      obtain ⟨hnew, hrest⟩ := List.nodup_cons.mp h
      obtain ⟨hne, hnot⟩ := not_or.mp fun hor => hr (List.mem_cons.mpr hor)
      rw [Entries.put]
      split_ifs with he
      · exact List.nodup_cons.mpr ⟨hnot, hrest⟩
      · refine List.nodup_cons.mpr ⟨fun hmem => ?_, ih hrest hnot⟩
        obtain ⟨x, hx, hxe⟩ := List.mem_map.mp hmem
        rcases Entries.mem_put hx with hput | hold
        · exact hne (hput.symm.trans hxe)
        · exact hnew (hxe ▸ List.mem_map_of_mem hold)

/-- The table is given a new dictionary. -/
lemma Building.assign (h : Building start refs s) (m : Text) (hnew : start.spaces.length ≤ r)
    (hr : r < s.spaces.length) (hfree : r ∉ refs.map (·.2)) :
    Building start (Entries.put m r refs)
      (Dictionaries.assign start.tables.length m r s).2 where
  spaces := h.spaces
  tables := by
    rw [Dictionaries.assign, h.tables, modify_append _ _ _ (Nat.le_refl _), Nat.sub_self]
    rfl
  newSpaces := Entries.forall_put (P := (start.spaces.length ≤ ·)) h.newSpaces hnew
  apart := nodup_values_put h.apart hfree
  sound := h.sound.assign _ m hr

/-- A name among those given stands for the thing that comes with it. -/
lemma each_update {β : Type} {f : Nat → β} {b : β} {own : Nat}
    (h : (refs.map (·.2)).Nodup) (hown : Entries.find? refs m = some own) :
    Entries.each (fun r => if r = own then b else f r) refs =
      Entries.put m b (Entries.each f refs) := by
  induction refs with
  | nil => cases hown
  | cons e refs ih =>
      obtain ⟨hnew, hrest⟩ := List.nodup_cons.mp h
      rw [Entries.find?_cons] at hown
      have hcons : ∀ g : Nat → β, Entries.each g (e :: refs) = (e.1, g e.2) :: Entries.each g refs :=
        fun _ => rfl
      rw [hcons, hcons, Entries.put]
      split_ifs at hown with he
      · obtain rfl : e.2 = own := Option.some.inj hown
        have hothers : Entries.each (fun r => if r = e.2 then b else f r) refs =
            Entries.each f refs := Entries.each_congr fun x hx =>
          if_neg fun hxe => hnew (List.mem_map.mpr ⟨x, hx, hxe⟩)
        rw [if_pos rfl, if_pos he, hothers]
      · obtain ⟨n, hn⟩ := Entries.mem_of_find? hown
        have hne : e.2 ≠ own := fun hee => hnew (List.mem_map.mpr ⟨_, hn, hee.symm⟩)
        rw [if_neg hne, if_neg he, ih hrest hown]

lemma space_update (s : Dictionaries α) {own : Nat} (hown : own < s.spaces.length)
    (more : Entries α) (r : Nat) : (update own more s).2.space r =
      if r = own then Entries.overlay (s.space own) more else s.space r := by
  unfold Dictionaries.space update
  rw [List.getElem?_modify]
  split_ifs with h₁ h₂ h₂
  · subst h₁
    simp [List.getElem?_eq_getElem hown]
  · exact absurd h₁.symm h₂
  · exact absurd h₂.symm h₁
  · simp

/-- More things are put into a namespace of the table. -/
lemma Building.update (h : Building start refs s) {own : Nat}
    (hown : Entries.find? refs m = some own) (more : Entries α) :
    Building start refs (Dictionaries.update own more s).2 := by
  obtain ⟨n, hn⟩ := Entries.mem_of_find? hown
  refine { h with spaces := ?_, sound := h.sound.update own more }
  obtain ⟨new, hnew⟩ := h.spaces
  refine ⟨_, (modify_append (Entries.overlay · more) start.spaces new (h.newSpaces _ hn)).symm.trans ?_⟩
  rw [hnew]
  rfl

lemma Building.each_update (h : Building start refs s) {own : Nat}
    (hown : Entries.find? refs m = some own) (more : Entries α) :
    Entries.each (Dictionaries.update own more s).2.space refs =
      Entries.put m (Entries.overlay (s.space own) more) (Entries.each s.space refs) := by
  obtain ⟨n, hn⟩ := Entries.mem_of_find? hown
  rw [← Dictionaries.each_update h.apart hown]
  exact Entries.each_congr fun x _ => space_update s (h.held _ hn) more x.2

/-! ## Merging -/

/-- A table is being built that holds the given things so far. -/
def Holding (start : Dictionaries α) (t : ImportTable α) (s : Dictionaries α) : Prop :=
  ∃ refs, Building start refs s ∧ Entries.each s.space refs = t

variable {t : ImportTable α}

lemma holding_newTable (h : s.IsSound) : Holding s [] (newTable s).2 :=
  ⟨[], ⟨List.prefix_rfl, rfl, fun _ hx => absurd hx List.not_mem_nil, List.nodup_nil, h.newTable⟩,
    rfl⟩

/-- A new dictionary becomes a namespace of the table. -/
lemma Building.assign_newSpace (h : Building start refs s) (m : Text) {es : Entries α}
    (hes : (Entries.names es).Nodup) :
    Building start (Entries.put m s.spaces.length refs) (Dictionaries.assign start.tables.length m
        s.spaces.length (Dictionaries.newSpace es s).2).2 ∧
      Entries.each (Dictionaries.newSpace es s).2.space (Entries.put m s.spaces.length refs) =
        Entries.put m es (Entries.each s.space refs) := by
  have hnew := h.newSpace hes
  have hlt : s.spaces.length < (Dictionaries.newSpace es s).2.spaces.length := by
    simp [Dictionaries.newSpace]
  have hfree : s.spaces.length ∉ refs.map (·.2) := fun hmem => by
    obtain ⟨x, hx, hxe⟩ := List.mem_map.mp hmem
    exact absurd (h.held x hx) (hxe ▸ Nat.lt_irrefl _)
  refine ⟨hnew.assign m h.spaces.length_le hlt hfree, ?_⟩
  rw [← Entries.put_each, space_newSpace, h.each_newSpace]

lemma Holding.copyInto (h : Holding start t s) (m : Text) (hr : r < start.spaces.length) :
    Holding start (Entries.put m (start.space r) t) (copyInto start.tables.length m r s).2 := by
  obtain ⟨refs, hb, rfl⟩ := h
  obtain ⟨hbuilt, heach⟩ := hb.assign_newSpace m (hb.sound.space r)
  exact ⟨_, hbuilt, hb.space_eq hr ▸ heach⟩

lemma setDefault_eq (s : Dictionaries α) (t : Nat) (m : Text) (r : Nat) : setDefault t m r s =
    match Entries.find? (s.table t) m with
    | some own => (own, s)
    | none => (r, (assign t m r s).2) := by
  have hbind : setDefault t m r s = (match Entries.find? (s.table t) m with
    | some own => pure own
    | none => do assign t m r; return r : StateM (Dictionaries α) Nat) s := rfl
  rw [hbind]
  cases Entries.find? (s.table t) m <;> rfl

/-- The table has a dictionary for the namespace afterwards, which is empty if it had none. -/
lemma Building.setDefault (h : Building start refs s) (m : Text) :
    ∃ own refs' s', setDefault start.tables.length m s.spaces.length
        (Dictionaries.newSpace [] s).2 = (own, s') ∧
      Building start refs' s' ∧ Entries.find? refs' m = some own ∧
      s'.space own = ImportTable.space (Entries.each s.space refs) m ∧
      ∀ v, Entries.put m v (Entries.each s'.space refs') =
        Entries.put m v (Entries.each s.space refs) := by
  have hnew := h.newSpace Entries.nodup_names_nil
  have hspace : ImportTable.space (Entries.each s.space refs) m =
      ((Entries.find? refs m).map s.space).getD [] := by
    rw [ImportTable.space, Entries.find?_each]
  rw [setDefault_eq, hnew.table, hspace]
  cases hown : Entries.find? refs m with
  | some own =>
      obtain ⟨n, hn⟩ := Entries.mem_of_find? hown
      refine ⟨own, refs, _, rfl, hnew, hown, space_newSpace_of_lt [] (h.held _ hn), fun v => ?_⟩
      rw [h.each_newSpace]
  | none =>
      obtain ⟨hbuilt, heach⟩ := h.assign_newSpace m Entries.nodup_names_nil
      refine ⟨_, _, _, rfl, hbuilt, ?_, space_newSpace s [], fun v => ?_⟩
      · rw [Entries.find?_put, if_pos rfl]
      · exact (congrArg (Entries.put m v) heach).trans (Entries.put_put _ m [] v)

lemma Holding.overlayInto (h : Holding start t s) (m : Text) (hr : r < start.spaces.length) :
    Holding start (Entries.put m (Entries.overlay (t.space m) (start.space r)) t)
      (overlayInto start.tables.length m r s).2 := by
  obtain ⟨refs, hb, rfl⟩ := h
  obtain ⟨own, refs', s', hset, hb', hown, hspace, hput⟩ := hb.setDefault m
  have hstep : Dictionaries.overlayInto start.tables.length m r s =
      Dictionaries.update own (s'.space r) s' := by
    rw [show Dictionaries.overlayInto start.tables.length m r s =
      (fun x => Dictionaries.update x.1 (x.2.space r) x.2) (Dictionaries.setDefault
        start.tables.length m s.spaces.length (Dictionaries.newSpace [] s).2) from rfl, hset]
  rw [hstep]
  refine ⟨refs', hb'.update hown _, ?_⟩
  rw [hb'.each_update hown, hput, hspace, hb'.space_eq hr]

lemma Holding.forM_copyInto {refs : Entries Nat} (hrefs : ∀ x ∈ refs, x.2 < start.spaces.length)
    (h : Holding start t s) : Holding start (Entries.overlay t (Entries.each start.space refs))
      (refs.forM (fun (m, r) => Dictionaries.copyInto start.tables.length m r) s).2 := by
  induction refs generalizing t s with
  | nil => exact h
  | cons x refs ih =>
      exact ih (fun y hy => hrefs y (List.mem_cons_of_mem _ hy))
        (h.copyInto x.1 (hrefs x List.mem_cons_self))

lemma Holding.forM_overlayInto {refs : Entries Nat}
    (hrefs : ∀ x ∈ refs, x.2 < start.spaces.length) (h : Holding start t s) :
    Holding start (ImportTable.merge t (Entries.each start.space refs))
      (refs.forM (fun (m, r) => Dictionaries.overlayInto start.tables.length m r) s).2 := by
  induction refs generalizing t s with
  | nil => exact h
  | cons x refs ih =>
      exact ih (fun y hy => hrefs y (List.mem_cons_of_mem _ hy))
        (h.overlayInto x.1 (hrefs x List.mem_cons_self))

lemma Building.table_eq (h : Building start refs s) {x : Nat} (hx : start.Has x) :
    s.table x = start.table x := by
  simp [Dictionaries.table, h.tables, List.getElem?_append_left hx]

lemma IsSound.names_table (h : s.IsSound) (x : Nat) : (Entries.names (s.table x)).Nodup := by
  unfold Dictionaries.table
  cases hx : s.tables[x]? with
  | none => exact Entries.nodup_names_nil
  | some refs => exact h.tables refs (List.mem_of_getElem? hx)

lemma IsSound.held_table (h : s.IsSound) (x : Nat) : ∀ y ∈ s.table x, y.2 < s.spaces.length := by
  unfold Dictionaries.table
  cases hx : s.tables[x]? with
  | none => exact fun _ hy => absurd hy List.not_mem_nil
  | some refs => exact h.held refs (List.mem_of_getElem? hx)

lemma IsSound.nodup_view (h : s.IsSound) (x : Nat) : (Entries.names (s.view x)).Nodup := by
  have hnames : Entries.names (s.view x) = Entries.names (s.table x) := by
    simp [Entries.names, view, Function.comp_def]
  exact hnames ▸ h.names_table x

/-- The given things stand in a table that has been built: all dictionaries that were there before
are as they were, and the table and its namespaces are new ones. -/
structure Merged (s : Dictionaries α) (t : ImportTable α) (r : Nat) (s' : Dictionaries α) :
    Prop where
  spaces : s.spaces <+: s'.spaces
  tables : s.tables <+: s'.tables
  new : ¬ s.Has r ∧ s'.Has r
  newSpaces : ∀ x ∈ s'.table r, s.spaces.length ≤ x.2
  view : s'.view r = t
  sound : s'.IsSound

lemma Holding.merged (h : Holding start t s) : Merged start t start.tables.length s := by
  obtain ⟨refs, hb, rfl⟩ := h
  refine ⟨hb.spaces, ?_, ⟨Nat.lt_irrefl _, ?_⟩, ?_, ?_, hb.sound⟩
  · rw [hb.tables]
    exact List.prefix_append _ _
  · simp [Has, hb.tables]
  · exact hb.table.symm ▸ hb.newSpaces
  · unfold Dictionaries.view
    rw [hb.table]
    rfl

/-- Namespaces are copied into the table one by one. -/
lemma Holding.copyAll (h : Holding start [] s) (hstart : start.IsSound) {x : Nat}
    (hx : start.Has x) :
    Holding start (start.view x) (copyAll start.tables.length x s).2 := by
  obtain ⟨refs, hb, -⟩ := id h
  have hcopied := h.forM_copyInto (hstart.held_table x)
  have hown : Entries.overlay [] (start.view x) = start.view x :=
    Entries.overlay_of_nodup (hstart.nodup_view x)
  rwa [← view_eq_each, hown, ← hb.table_eq hx] at hcopied

/-- Namespaces are overlaid on those of the table one by one. -/
lemma Holding.overlayAll (h : Holding start t s) (hstart : start.IsSound) {y? : Option Nat}
    (hy : ∀ y ∈ y?, start.Has y) :
    Holding start (ImportTable.merge t (start.view? y?))
      (overlayAll start.tables.length y? s).2 := by
  obtain ⟨refs, hb, -⟩ := id h
  cases y? with
  | none => exact h
  | some y =>
      have hoverlaid := h.forM_overlayInto (hstart.held_table y)
      rwa [← view_eq_each, ← hb.table_eq (hy y rfl)] at hoverlaid

/-- **The table that merging builds** holds what the one overlaid with the other holds. -/
lemma merged_merge (hs : s.IsSound) {x : Nat} (hx : s.Has x) {y? : Option Nat}
    (hy : ∀ y ∈ y?, s.Has y) : Merged s (ImportTable.merge (s.view x) (s.view? y?))
      (merge x y? s).1 (merge x y? s).2 :=
  (((holding_newTable hs).copyAll hs hx).overlayAll hs hy).merged

end Dictionaries

/-! ## The laws -/

namespace ImportTable

/-- One table is another one overlaid with a third one: each name stands for what the third one has
for it, or else the other one, and the third one's new names come at the end. -/
structure Overlaid (t more merged : ImportTable α) : Prop where
  lookup : ∀ m n, merged.lookup? m n = (more.lookup? m n).or (t.lookup? m n)
  spaces : Entries.names merged =
    Entries.names t ++ (Entries.names more).filter (· ∉ Entries.names t)
  names : ∀ m, Entries.names (merged.space m) = Entries.names (t.space m) ++
    (Entries.names (more.space m)).filter (· ∉ Entries.names (t.space m))

lemma overlaid_merge (t : ImportTable α) {more : ImportTable α} (h : more.IsProper) :
    Overlaid t more (merge t more) where
  lookup := lookup?_merge t h
  spaces := merge_eq_blend t more ▸ Entries.names_blend t h.spaces
  names m := by
    rw [space_merge t h, Entries.overlay_eq_blend, Entries.names_blend _ (h.space m)]

/-- **Merging two tables** overlays one with the other; without a second table, or with one that
holds nothing, it gives the first one; three tables can be merged in either grouping, to the same
order of namespaces and names; and no dictionary that is there is changed by it. -/
theorem merge_laws (t mid more : ImportTable α) (h : mid.IsProper) :
    Overlaid t mid (merge t mid) ∧ merge t [] = t ∧
      merge (merge t mid) more = merge t (merge mid more) ∧
      ∀ s : Dictionaries α, s.IsSound → ∀ x, s.Has x → ∀ y? : Option Nat, (∀ y ∈ y?, s.Has y) →
        s.view x = t → s.view? y? = mid →
          Dictionaries.Merged s (merge t mid) (Dictionaries.merge x y? s).1
            (Dictionaries.merge x y? s).2 := by
  refine ⟨overlaid_merge t h, rfl, merge_assoc t h more, ?_⟩
  rintro s hs x hx y? hy rfl rfl
  exact Dictionaries.merged_merge hs hx hy

/-- Two tables that hold one dictionary under the same name, one of them with another namespace. -/
def sharing : Dictionaries Nat where
  spaces := [[("log", 1), ("log_string", 2)], [("log", 3)]]
  tables := [[("env", 0)], [("env", 0), ("x", 1)]]

/-- The second of these tables is overlaid on the first one, and a third one on both. -/
theorem merge_laws_sharing :
    IsProper (sharing.view 1) ∧ sharing.IsSound ∧
      Dictionaries.Merged sharing
        [("env", [("log", 1), ("log_string", 2)]), ("x", [("log", 3)])]
        (Dictionaries.merge 0 (some 1) sharing).1 (Dictionaries.merge 0 (some 1) sharing).2 ∧
      merge (merge (sharing.view 0) (sharing.view 1)) [("x", [("y", 4)])] =
        merge (sharing.view 0) (merge (sharing.view 1) [("x", [("y", 4)])]) := by
  have hproper : IsProper (sharing.view 1) := ⟨by decide, by decide⟩
  have hsound : sharing.IsSound := ⟨by decide, by decide, by decide⟩
  obtain ⟨-, -, hassoc, hmerged⟩ :=
    merge_laws (sharing.view 0) (sharing.view 1) [("x", [("y", 4)])] hproper
  exact ⟨hproper, hsound, hmerged sharing hsound 0 (by decide) (some 1) (by decide) rfl rfl, hassoc⟩

end ImportTable

end WatWorkbench
