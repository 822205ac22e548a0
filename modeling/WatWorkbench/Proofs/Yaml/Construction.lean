import WatWorkbench.Proofs.Yaml.Lexing
import WatWorkbench.Yaml.Content

/-!
# Failures of finding out what nodes stand for

Merging changes the pairs of mappings and the types of keys, but no scalar gets another text: so
what a scalar fails to spell stands in the document.

* `Graph.Drawn` — all scalars of a graph are those of another one.
* `Unspelled` — the failures of scalars to spell values of their types.
* `Builder.contained` — what a step may end with.
* **`Graph.unspelled_of_value`** — the failures that are no faults of the document.
-/

open Std.Do

namespace WatWorkbench.Yaml

set_option mvcgen.warning false

/-! ## Scalars -/

/-- The text of a scalar of the graph. -/
def Graph.HasScalar (g : Graph) (t : Text) : Prop := ∃ id, (g.node id).content = .scalar t

/-- All scalars of a graph are those of another one. -/
def Graph.Drawn (g g' : Graph) : Prop :=
  ∀ id t, (g'.node id).content = .scalar t → (g.node id).content = .scalar t

/-- The failures of a document's scalars to spell values of their types. -/
inductive Unspelled (g : Graph) : Failure → Prop where
  /-- A scalar is no word for a truth value. -/
  | bool {t : Text} {f : Failure} (ht : g.HasScalar t) (h : Scalar.bool t = .error f) :
    Unspelled g f
  /-- A scalar is no integer. -/
  | int {t : Text} {f : Failure} (ht : g.HasScalar t) (h : Scalar.int t = .error f) : Unspelled g f
  /-- A scalar is no number. -/
  | float {t : Text} {f : Failure} (ht : g.HasScalar t) (h : Scalar.float t = .error f) :
      Unspelled g f
  /-- A scalar is no day and no point in time. -/
  | timestamp {t : Text} {f : Failure} (ht : g.HasScalar t) (h : Scalar.timestamp t = .error f) :
      Unspelled g f
  /-- A mapping cannot be a point in time. -/
  | notText : Unspelled g (.raised .type "expected string or bytes-like object, got 'list'")

namespace Graph

variable {g g' : Graph}

lemma Drawn.refl (g : Graph) : Drawn g g := fun _ _ h => h

lemma node_modify (f : Node → Node) (id i : NodeId) :
    node (g.modify id f) i = node g i ∨ node (g.modify id f) i = f (node g i) := by
  simp only [node, Array.getD_eq_getD_getElem?, Array.getElem?_modify]
  split_ifs
  · rcases g[i]? with _ | n
    · exact .inl rfl
    · exact .inr rfl
  · exact .inl rfl

lemma Drawn.withTag (h : Drawn g g') (id : NodeId) (tag : Tag) : Drawn g (g'.withTag id tag) := by
  intro i t hi
  apply h i t
  rcases node_modify (g := g') ({ · with tag }) id i with hsame | hsame <;>
    rwa [Graph.withTag, hsame] at hi

lemma Drawn.withMapping (h : Drawn g g') (id : NodeId) (pairs : List (NodeId × NodeId)) :
    Drawn g (g'.withContent id (.mapping pairs)) := by
  intro i t hi
  rcases node_modify (g := g') ({ · with content := .mapping pairs }) id i with hsame | hsame <;>
    rw [withContent, hsame] at hi
  · exact h i t hi
  · cases hi

end Graph

namespace Builder

variable {α β : Type} {g : Graph}

/-- What is asked of the nodes before and after each step. -/
abbrev drawn (g : Graph) : Assertion (.arg Builder (.except Fault .pure)) :=
  fun b => ⌜g.Drawn b.graph⌝

/-- What a step may end with: anything but other failures than those of scalars. -/
abbrev contained (g : Graph) : PostCond α (.arg Builder (.except Fault .pure)) :=
  post⟨fun _ b => ⌜g.Drawn b.graph⌝, fun e => ⌜e.Allows (Unspelled g)⌝⟩

/-! ## Lists -/

lemma contained_forM (xs : List β) {f : β → Build PUnit}
    (h : ∀ x, ⦃drawn g⦄ f x ⦃contained g⦄) : ⦃drawn g⦄ xs.forM f ⦃contained g⦄ := by
  induction xs with
  | nil => mvcgen [List.forM_nil]
  | cons x xs ih =>
      rw [List.forM_eq_forM, List.forM_cons]
      mvcgen [h, ih]

lemma contained_mapM (xs : List β) {f : β → Build α}
    (h : ∀ x, ⦃drawn g⦄ f x ⦃contained g⦄) : ⦃drawn g⦄ xs.mapM f ⦃contained g⦄ := by
  induction xs with
  | nil =>
      rw [List.mapM_nil]
      mvcgen
  | cons x xs ih =>
      rw [List.mapM_cons]
      mvcgen [h, ih]

/-! ## Scalars -/

variable (g)

/-- The text of a node is that of a scalar of the document. -/
lemma text_spec (n : Nat) (id : NodeId) :
    ⦃drawn g⦄ text n id
    ⦃post⟨fun t b => ⌜g.Drawn b.graph ∧ g.HasScalar t⌝, fun e => ⌜e.Allows (Unspelled g)⌝⟩⦄ := by
  induction n generalizing id with
  | zero =>
      mvcgen [text, node, expected, fail]
      exact ⟨‹_›, id, ‹g.Drawn _› _ _ ‹_›⟩
  | succ n ih =>
      mvcgen [text, expected, fail, ih]
      exact ⟨‹_›, id, ‹g.Drawn _› _ _ ‹_›⟩

lemma contained_atom (t : CoreTag) (id : NodeId) : ⦃drawn g⦄ atom t id ⦃contained g⦄ := by
  have htext := text_spec g
  mvcgen [atom, node, htext, spelled, binary, fail]
  any_goals exact (‹_ ∧ _› : _ ∧ _).1
  · exact .bool ‹_ ∧ _›.2 ‹_›
  · exact .int ‹_ ∧ _›.2 ‹_›
  · exact .float ‹_ ∧ _›.2 ‹_›
  · exact .timestamp ‹_ ∧ _›.2 ‹_›
  · exact .notText

/-! ## Meeting nodes -/

lemma contained_visit (id : NodeId) : ⦃drawn g⦄ visit id ⦃contained g⦄ := by
  have hatom := contained_atom g
  mvcgen [visit, meaning?, node, await, settle, fail, hatom]

/-! ## Merging -/

lemma contained_pairsOf (id : NodeId) : ⦃drawn g⦄ pairsOf id ⦃contained g⦄ := by
  mvcgen [pairsOf, node]

lemma contained_setPairs (id : NodeId) (pairs : List (NodeId × NodeId)) :
    ⦃drawn g⦄ setPairs id pairs ⦃contained g⦄ := by
  mvcgen [setPairs]
  exact Graph.Drawn.withMapping ‹_› _ _

lemma contained_plainKey (pair : NodeId × NodeId) :
    ⦃drawn g⦄ plainKey pair ⦃contained g⦄ := by
  mvcgen [plainKey]
  exact Graph.Drawn.withTag ‹_› _ _

/-- The steps that put mappings together, with a bound. -/
structure Merging (n : Nat) : Prop where
  flatten : ∀ id, ⦃drawn g⦄ flatten n id ⦃contained g⦄
  takeMerged : ∀ id, ⦃drawn g⦄ takeMerged n id ⦃contained g⦄
  merged : ∀ id source, ⦃drawn g⦄ merged n id source ⦃contained g⦄

lemma contained_merging (n : Nat) : Merging g n := by
  have hpairsOf := contained_pairsOf g
  have hsetPairs := contained_setPairs g
  have hkeys := fun pairs => contained_forM pairs (contained_plainKey g)
  have hparts := @contained_mapM (List (NodeId × NodeId)) NodeId g
  induction n with
  | zero =>
      constructor
      · intro; mvcgen [flatten]
      · intro; mvcgen [takeMerged]
      · intro _ _; mvcgen [merged]
  | succ n ih =>
      obtain ⟨hflatten, htakeMerged, hmerged⟩ := ih
      constructor
      · intro id
        mvcgen [flatten, htakeMerged, hpairsOf, hsetPairs, hkeys]
      · intro id
        mvcgen [takeMerged, htakeMerged, hmerged, hpairsOf, hsetPairs]
      · intro id source
        mvcgen [merged, node, hflatten, hpairsOf, fail, hparts]

/-! ## Collections -/

lemma contained_items (id : NodeId) : ⦃drawn g⦄ items id ⦃contained g⦄ := by
  have hvisit := fun ids => contained_forM ids (contained_visit g)
  mvcgen [items, node, hvisit, expected, fail]

lemma contained_singlePair (context : Option (Text × Option Mark)) (item : NodeId) :
    ⦃drawn g⦄ singlePair context item ⦃contained g⦄ := by
  have hvisit := contained_visit g
  mvcgen [singlePair, node, hvisit, fail]

lemma contained_itemPairs (what : Text) (id : NodeId) :
    ⦃drawn g⦄ itemPairs what id ⦃contained g⦄ := by
  have hpairs := fun context ids => contained_mapM ids (contained_singlePair g context)
  mvcgen [itemPairs, node, fail, hpairs]

lemma contained_key (mapping : Node) (id : NodeId) : ⦃drawn g⦄ key mapping id ⦃contained g⦄ := by
  have hvisit := contained_visit g
  have htext := text_spec g
  mvcgen [key, meaning?, node, hvisit, htext, fail]
  exact ‹_ ∧ _›.1

lemma contained_entries (id : NodeId) : ⦃drawn g⦄ entries id ⦃contained g⦄ := by
  have hflatten := fun n => (contained_merging g n).flatten
  have hpairsOf := contained_pairsOf g
  have hkey := contained_key g
  have hvisit := contained_visit g
  mvcgen [entries, node, hflatten, hpairsOf, hkey, hvisit, expected, fail]
  case inv1 => exact contained g
  all_goals simp_all

lemma contained_complete (id : NodeId) : ⦃drawn g⦄ complete id ⦃contained g⦄ := by
  have hpairs := contained_itemPairs g
  have hentries := contained_entries g
  have hitems := contained_items g
  mvcgen [complete, node, settle, hpairs, hentries, hitems]

lemma contained_completeAll (n : Nat) : ⦃drawn g⦄ completeAll n ⦃contained g⦄ := by
  have hcomplete := contained_complete g
  induction n with
  | zero => mvcgen [completeAll]
  | succ n ih => mvcgen [completeAll, hcomplete, ih]

end Builder

/-- **The value of a document** is found, or the document has a fault, or one of its scalars does
not spell a value of its type. -/
theorem Graph.unspelled_of_value {g : Graph} {root : NodeId} {f : Failure}
    (h : g.value root = .error (.escaped f)) : Unspelled g f := by
  have hvisit := Builder.contained_visit g
  have hcompleteAll := Builder.contained_completeAll g
  have hfind : ⦃Builder.drawn g⦄ (do
      Builder.visit root
      Builder.completeAll (g.size + 1) : Build Unit) ⦃Builder.contained g⦄ := by
    mvcgen [hvisit, hcompleteAll]
  rw [value] at h
  dsimp only at h
  generalize (do
      Builder.visit root
      Builder.completeAll (g.size + 1) : Build Unit) = find at h hfind
  have hrun : ⦃⌜True⌝⦄ find.run ⟨g, Array.replicate g.size none, []⟩
      ⦃post⟨fun r => ⌜g.Drawn r.2.graph⌝, fun e => ⌜e.Allows (Unspelled g)⌝⟩⦄ :=
    fun _ => hfind ⟨g, Array.replicate g.size none, []⟩ (Drawn.refl g)
  rcases hresult : find.run ⟨g, Array.replicate g.size none, []⟩ with e | ⟨_, b⟩ <;>
    rw [hresult] at h hrun
  · obtain rfl := Except.error.inj h
    exact hrun trivial
  · cases h

end WatWorkbench.Yaml
