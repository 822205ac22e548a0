import WatWorkbench.Proofs.Yaml.Construction
import WatWorkbench.Yaml.Load

/-!
# The keys of dictionaries

A mapping may spell a key more than once, but the dictionary that it stands for has it once: what comes
later takes the place of what was there.  Scalars stand for no dictionaries, so every dictionary of a
document comes from a mapping.

* `Distinct` — no two keys are one.
* `Builder.distinct_insert` — putting a node under a key keeps them so.
* `Builder.sound` — what is known of the meanings that have been found out, before and after each step.
* **`distinct_of_load`** — the dictionary of a document.
-/

open Std.Do

namespace WatWorkbench.Yaml

set_option mvcgen.warning false

/-- No two keys of the entries are one. -/
def Distinct {α : Type} (es : List (Value × α)) : Prop :=
  es.Pairwise fun a b => a.1.same b.1 = false

/-! ## Scalars -/

lemma exists_of_bind {ε α β : Type} {x : Except ε α} {f : α → Except ε β} {b : β}
    (h : x >>= f = .ok b) : ∃ a, x = .ok a ∧ f a = .ok b := by
  cases x with
  | error e => cases h
  | ok a => exact ⟨a, rfl, h⟩

namespace Scalar

variable {t : Text} {v : Value}

lemma not_dict_bool (h : bool t = .ok v) : ∀ es, v ≠ .dict es := by
  simp only [bool] at h
  split at h <;> cases h
  simp

lemma not_dict_int (h : int t = .ok v) : ∀ es, v ≠ .dict es := by
  obtain ⟨_, -, h⟩ := exists_of_bind h
  obtain ⟨_, -, h⟩ := exists_of_bind h
  cases h
  simp

lemma not_dict_float (h : float t = .ok v) : ∀ es, v ≠ .dict es := by
  obtain ⟨_, -, h⟩ := exists_of_bind h
  obtain ⟨_, -, h⟩ := exists_of_bind h
  cases h
  simp

lemma not_dict_timestamp (h : timestamp t = .ok v) : ∀ es, v ≠ .dict es := by
  unfold timestamp Timestamp.value at h
  split at h
  · split at h
    · obtain ⟨_, -, h⟩ := exists_of_bind h
      cases h
      simp
    · obtain ⟨_, -, h⟩ := exists_of_bind h
      obtain ⟨_, -, h⟩ := exists_of_bind h
      simp only [Timestamp.refuse, bind, Except.bind] at h
      split_ifs at h
      cases h
      simp
  · cases h

end Scalar

/-! ## What has been found out -/

/-- A scalar stands for no dictionary, and the keys of a dictionary are all different. -/
def Meaning.Sound : Meaning → Prop
  | .atom v => ∀ es, v ≠ .dict es
  | .dict es => Distinct es
  | _ => True

namespace Builder

/-- Whatever has been found out is sound. -/
def Sound (b : Builder) : Prop := ∀ id m, b.meanings.getD id none = some m → m.Sound

lemma Sound.setIfInBounds {b : Builder} (h : b.Sound) (id : NodeId) {m : Meaning} (hm : m.Sound) :
    Sound { b with meanings := b.meanings.setIfInBounds id (some m) } := by
  intro i n hn
  simp only [Array.getD_eq_getD_getElem?, Array.getElem?_setIfInBounds] at hn
  split_ifs at hn with hid hsize
  · obtain rfl := Option.some.inj hn
    exact hm
  · cases hn
  · exact h i n (by simpa [Array.getD_eq_getD_getElem?] using hn)

section Keys

variable {es : List (Key × NodeId)}

lemma mem_insert {k : Key} {value : NodeId} {e : Key × NodeId} (h : e ∈ insert k value es) :
    e.1 = k ∨ ∃ e' ∈ es, e'.1 = e.1 := by
  induction es with
  | nil => exact .inl (by simpa [insert] using congrArg Prod.fst (List.mem_singleton.mp h))
  | cons first es ih =>
      obtain ⟨k', v'⟩ := first
      rw [insert] at h
      split_ifs at h
      · rcases List.mem_cons.mp h with rfl | hmem
        · exact .inr ⟨(k', v'), List.mem_cons_self, rfl⟩
        · exact .inr ⟨e, List.mem_cons_of_mem _ hmem, rfl⟩
      · rcases List.mem_cons.mp h with rfl | hmem
        · exact .inr ⟨(k', v'), List.mem_cons_self, rfl⟩
        · exact (ih hmem).imp_right fun ⟨e', he', hkey⟩ => ⟨e', List.mem_cons_of_mem _ he', hkey⟩

/-- Putting a node under a key keeps all keys different. -/
lemma distinct_insert (k : Key) (value : NodeId)
    (h : es.Pairwise fun a b => a.1.same b.1 = false) :
    (insert k value es).Pairwise fun a b => a.1.same b.1 = false := by
  induction es with
  | nil => exact List.pairwise_singleton _ _
  | cons first es ih =>
      obtain ⟨k', v'⟩ := first
      obtain ⟨hfirst, hrest⟩ := List.pairwise_cons.mp h
      rw [insert]
      split_ifs with hsame
      · exact List.pairwise_cons.mpr ⟨hfirst, hrest⟩
      · refine List.pairwise_cons.mpr ⟨fun e he => ?_, ih hrest⟩
        rcases mem_insert he with hkey | ⟨e', he', hkey⟩
        · simpa [hkey] using hsame
        · rw [← hkey]
          exact hfirst e' he'

lemma distinct_values (h : es.Pairwise fun a b => a.1.same b.1 = false) :
    Distinct (es.map fun (k, v) => (k.value, v)) := by
  refine List.pairwise_map.mpr (h.imp fun hkeys => ?_)
  exact (Bool.or_eq_false_iff.mp hkeys).1

end Keys

/-- What is known before and after each step. -/
abbrev sound : Assertion (.arg Builder (.except Fault .pure)) := fun b => ⌜b.Sound⌝

/-- A step that does not fail keeps what has been found out sound. -/
abbrev kept {α : Type} : PostCond α (.arg Builder (.except Fault .pure)) :=
  post⟨fun _ b => ⌜b.Sound⌝, fun _ => ⌜True⌝⟩

variable {α β : Type}

lemma kept_forM (xs : List β) {f : β → Build PUnit} (h : ∀ x, ⦃sound⦄ f x ⦃kept⦄) :
    ⦃sound⦄ xs.forM f ⦃kept⦄ := by
  induction xs with
  | nil => mvcgen [List.forM_nil]
  | cons x xs ih =>
      rw [List.forM_eq_forM, List.forM_cons]
      mvcgen [h, ih]

lemma kept_mapM (xs : List β) {f : β → Build α} (h : ∀ x, ⦃sound⦄ f x ⦃kept⦄) :
    ⦃sound⦄ xs.mapM f ⦃kept⦄ := by
  induction xs with
  | nil =>
      rw [List.mapM_nil]
      mvcgen
  | cons x xs ih =>
      rw [List.mapM_cons]
      mvcgen [h, ih]

/-! ### Meeting nodes -/

lemma kept_text (n : Nat) (id : NodeId) : ⦃sound⦄ text n id ⦃kept⦄ := by
  induction n generalizing id with
  | zero => mvcgen [text, node, expected, fail]
  | succ n ih => mvcgen [text, expected, fail, ih]

/-- A scalar stands for no dictionary. -/
lemma atom_spec (t : CoreTag) (id : NodeId) :
    ⦃sound⦄ atom t id
    ⦃post⟨fun v b => ⌜b.Sound ∧ ∀ es, v ≠ .dict es⌝, fun _ => ⌜True⌝⟩⦄ := by
  mvcgen [atom, node, kept_text, spelled, binary, fail]
  all_goals refine ⟨‹Sound _›, ?_⟩
  · simp
  · exact Scalar.not_dict_bool ‹_›
  · exact Scalar.not_dict_int ‹_›
  · exact Scalar.not_dict_float ‹_›
  · simp
  · exact Scalar.not_dict_timestamp ‹_›
  · simp

lemma kept_settle (id : NodeId) {m : Meaning} (hm : m.Sound) :
    ⦃sound⦄ settle id m ⦃kept⦄ := by
  mvcgen [settle]
  exact Sound.setIfInBounds ‹_› id hm

lemma kept_await (id : NodeId) {m : Meaning} (hm : m.Sound) :
    ⦃sound⦄ await id m ⦃kept⦄ := by
  mvcgen [await, kept_settle]

lemma kept_visit (id : NodeId) : ⦃sound⦄ visit id ⦃kept⦄ := by
  mvcgen [visit, meaning?, node, kept_settle, kept_await, fail, atom_spec]
  · exact List.Pairwise.nil
  · exact ‹_ ∧ _›.1
  · exact fun _ _ h => h

/-! ### Merging -/

lemma kept_pairsOf (id : NodeId) : ⦃sound⦄ pairsOf id ⦃kept⦄ := by
  mvcgen [pairsOf, node]

lemma kept_setPairs (id : NodeId) (pairs : List (NodeId × NodeId)) :
    ⦃sound⦄ setPairs id pairs ⦃kept⦄ := by
  mvcgen [setPairs]

lemma kept_plainKey (pair : NodeId × NodeId) : ⦃sound⦄ plainKey pair ⦃kept⦄ := by
  mvcgen [plainKey]

/-- The steps that put mappings together, with a bound. -/
structure KeptMerging (n : Nat) : Prop where
  flatten : ∀ id, ⦃sound⦄ flatten n id ⦃kept⦄
  takeMerged : ∀ id, ⦃sound⦄ takeMerged n id ⦃kept⦄
  merged : ∀ id source, ⦃sound⦄ merged n id source ⦃kept⦄

lemma kept_merging (n : Nat) : KeptMerging n := by
  have hkeys := fun pairs => kept_forM pairs kept_plainKey
  have hparts := @kept_mapM (List (NodeId × NodeId)) NodeId
  induction n with
  | zero =>
      constructor
      · intro; mvcgen [flatten]
      · intro; mvcgen [takeMerged]
      · intro _ _; mvcgen [merged]
  | succ n ih =>
      obtain ⟨hflatten, htakeMerged, hmerged⟩ := ih
      constructor
      · intro id
        mvcgen [flatten, htakeMerged, kept_pairsOf, kept_setPairs, hkeys]
      · intro id
        mvcgen [takeMerged, htakeMerged, hmerged, kept_pairsOf, kept_setPairs]
      · intro id source
        mvcgen [merged, node, hflatten, kept_pairsOf, fail, hparts]

/-! ### Collections -/

lemma kept_items (id : NodeId) : ⦃sound⦄ items id ⦃kept⦄ := by
  have hvisit := fun ids => kept_forM ids kept_visit
  mvcgen [items, node, hvisit, expected, fail]

lemma kept_singlePair (context : Option (Text × Option Mark)) (item : NodeId) :
    ⦃sound⦄ singlePair context item ⦃kept⦄ := by
  mvcgen [singlePair, node, kept_visit, fail]

lemma kept_itemPairs (what : Text) (id : NodeId) : ⦃sound⦄ itemPairs what id ⦃kept⦄ := by
  have hpairs := fun context ids => kept_mapM ids (kept_singlePair context)
  mvcgen [itemPairs, node, fail, hpairs]

lemma kept_key (mapping : Node) (id : NodeId) : ⦃sound⦄ key mapping id ⦃kept⦄ := by
  mvcgen [key, meaning?, node, kept_visit, kept_text, fail]

/-- The keys of the entries of a mapping are all different. -/
lemma entries_spec (id : NodeId) :
    ⦃sound⦄ entries id ⦃post⟨fun es b => ⌜b.Sound ∧ Distinct es⌝, fun _ => ⌜True⌝⟩⦄ := by
  have hflatten := fun n => (kept_merging n).flatten
  mvcgen [entries, node, hflatten, kept_pairsOf, kept_key, kept_visit, expected, fail]
  case inv1 =>
    exact post⟨fun r b => ⌜b.Sound ∧ r.2.Pairwise fun a b => a.1.same b.1 = false⌝,
      fun _ => ⌜True⌝⟩
  · rename_i hbefore
    exact hbefore.1
  · rename_i hbefore _ _ _ _ _ hafter
    exact ⟨hafter, distinct_insert _ _ hbefore.2⟩
  · trivial
  · trivial
  · rename_i hstart
    exact ⟨hstart, List.Pairwise.nil⟩
  · rename_i hend
    exact ⟨hend.1, distinct_values hend.2⟩

lemma kept_complete (id : NodeId) : ⦃sound⦄ complete id ⦃kept⦄ := by
  mvcgen [complete, node, kept_settle, kept_itemPairs, entries_spec, kept_items]
  · exact fun _ _ => trivial
  · exact fun _ _ => trivial
  · exact ‹_ ∧ _›.1
  · exact fun _ _ _ => trivial
  · exact ‹_ ∧ _›.1
  · exact fun _ _ h => h
  · exact fun _ _ => trivial

lemma kept_completeAll (n : Nat) : ⦃sound⦄ completeAll n ⦃kept⦄ := by
  induction n with
  | zero => mvcgen [completeAll]
  | succ n ih => mvcgen [completeAll, kept_complete, ih]

/-! ## Values -/

lemma Sound.distinct_of_rootValue {b : Builder} {id : NodeId} {es : List (Value × Value)}
    (h : b.Sound) (hvalue : b.rootValue id = .dict es) : Distinct es := by
  unfold rootValue at hvalue
  dsimp only at hvalue
  split at hvalue
  · next found hfound =>
      obtain rfl := Value.dict.inj hvalue
      exact List.pairwise_map.mpr (h id _ hfound)
  · next hother =>
      rw [value] at hvalue
      rcases hfound : b.meanings.getD id none with _ | m
      · simp [hfound] at hvalue
      · cases m with
        | atom v => exact absurd (by simpa [hfound] using hvalue) (h id _ hfound es)
        | dict found => exact absurd hfound (hother found)
        | list items | pairs items | set items => simp [hfound] at hvalue

end Builder

lemma Graph.distinct_of_value {g : Graph} {root : NodeId} {es : List (Value × Value)}
    (h : g.value root = .ok (.dict es)) : Distinct es := by
  have hfind : ⦃Builder.sound⦄ (do
      Builder.visit root
      Builder.completeAll (g.size + 1) : Build Unit) ⦃Builder.kept⦄ := by
    mvcgen [Builder.kept_visit, Builder.kept_completeAll]
  have hstart : Builder.Sound ⟨g, Array.replicate g.size none, []⟩ := by
    intro id m hm
    have hnone : (Array.replicate g.size (none : Option Meaning)).getD id none = none := by
      rw [Array.getD_eq_getD_getElem?, Array.getElem?_replicate]
      split_ifs <;> rfl
    rw [hnone] at hm
    cases hm
  rw [value] at h
  dsimp only at h
  generalize (do
      Builder.visit root
      Builder.completeAll (g.size + 1) : Build Unit) = find at h hfind
  have hrun : ⦃⌜True⌝⦄ find.run ⟨g, Array.replicate g.size none, []⟩
      ⦃post⟨fun r => ⌜r.2.Sound⌝, fun _ => ⌜True⌝⟩⦄ :=
    fun _ => hfind ⟨g, Array.replicate g.size none, []⟩ hstart
  rcases hresult : find.run ⟨g, Array.replicate g.size none, []⟩ with e | ⟨_, b⟩ <;>
    rw [hresult] at h hrun
  · cases h
  · have hsound : b.Sound := hrun trivial
    exact hsound.distinct_of_rootValue (Except.ok.inj h)

/-- **The dictionary of a document** has no key twice. -/
theorem distinct_of_load {document : Text} {es : List (Value × Value)}
    (h : load document = .ok (.dict es)) : Distinct es := by
  obtain ⟨_, -, h⟩ := exists_of_bind h
  obtain ⟨⟨graph, root⟩, -, h⟩ := exists_of_bind h
  cases root with
  | none => cases h
  | some root => exact Graph.distinct_of_value h

end WatWorkbench.Yaml
