import WatWorkbench.Proofs.Pipeline.Action

/-!
# What host functions can do

A module reaches the world through the host functions of its import table only.  Whatever all of
them keep, a run of the module keeps, as long as asking the engine and writing records keep it too.

* `ImportTable.Holds` — an entry stands somewhere in a table; `holds_merge` — overlaying brings no
  entries of its own; `merge_map` — overlaying looks at names only.
* `ImportTable.Offers` — an action is what some host function of a table does when it is called.
* **`runModule_preserves`** — what a run of a module keeps.
-/

namespace WatWorkbench

/-! ## Entries of a table -/

namespace Entries

variable {α : Type}

lemma mem_of_find? {es : Entries α} {name : Text} {a : α} (h : find? es name = some a) :
    ∃ n, (n, a) ∈ es := by
  obtain ⟨⟨n, b⟩, hfind, rfl⟩ := Option.map_eq_some_iff.mp h
  exact ⟨n, List.mem_of_find?_eq_some hfind⟩

lemma mem_put {es : Entries α} {name n : Text} {a b : α} (h : (n, b) ∈ put name a es) :
    b = a ∨ (n, b) ∈ es := by
  induction es with
  | nil => simp only [put, List.mem_singleton, Prod.mk.injEq] at h; exact Or.inl h.2
  | cons e es ih =>
      rw [put] at h
      split_ifs at h with he
      · rcases List.mem_cons.mp h with h | h
        · exact Or.inl (Prod.mk.inj h).2
        · exact Or.inr (List.mem_cons_of_mem _ h)
      · rcases List.mem_cons.mp h with h | h
        · exact Or.inr (h ▸ List.mem_cons_self)
        · exact (ih h).imp id (List.mem_cons_of_mem _)

lemma mem_overlay {es more : Entries α} {n : Text} {b : α} (h : (n, b) ∈ overlay es more) :
    (∃ m, (m, b) ∈ more) ∨ (n, b) ∈ es := by
  induction more generalizing es with
  | nil => exact Or.inr h
  | cons e more ih =>
      rcases ih h with ⟨m, hm⟩ | hput
      · exact Or.inl ⟨m, List.mem_cons_of_mem _ hm⟩
      · rcases mem_put hput with rfl | hmem
        · exact Or.inl ⟨e.1, List.mem_cons_self⟩
        · exact Or.inr hmem

section Each

variable {β : Type} (f : α → β)

/-- The same names with other things. -/
def each (es : Entries α) : Entries β := List.map (fun (n, a) => (n, f a)) es

lemma find?_each (es : Entries α) (name : Text) :
    find? (each f es) name = (find? es name).map f := by
  simp only [find?, each, List.find?_map, Option.map_map, Function.comp_def]

lemma put_each (es : Entries α) (name : Text) (a : α) :
    put name (f a) (each f es) = each f (put name a es) := by
  induction es with
  | nil => rfl
  | cons e es ih =>
      simp only [each] at ih
      by_cases he : e.1 = name
      · simp [put, each, he]
      · simp [put, each, he, ih]

lemma overlay_each (es more : Entries α) :
    overlay (each f es) (each f more) = each f (overlay es more) := by
  induction more generalizing es with
  | nil => rfl
  | cons e more ih =>
      have hput := put_each f es e.1 e.2
      rw [show overlay (each f es) (each f (e :: more)) =
        overlay (put e.1 (f e.2) (each f es)) (each f more) from rfl, hput, ih]
      rfl

end Each

end Entries

namespace ImportTable

variable {α : Type}

/-- Overlaying looks at names only. -/
lemma merge_map {β : Type} (f : α → β) (defaults overrides : ImportTable α) :
    merge (map f defaults) (map f overrides) = map f (merge defaults overrides) := by
  induction overrides generalizing defaults with
  | nil => rfl
  | cons o os ih =>
      have hfound : ((Entries.find? (map f defaults) o.1).getD []) =
          Entries.each f ((Entries.find? defaults o.1).getD []) := by
        rw [show map f defaults = Entries.each (Entries.each f) defaults from rfl,
          Entries.find?_each]
        cases Entries.find? defaults o.1 <;> rfl
      have hput : Entries.put o.1 (Entries.overlay ((Entries.find? (map f defaults) o.1).getD [])
            (Entries.each f o.2)) (map f defaults) =
          map f (Entries.put o.1 (Entries.overlay ((Entries.find? defaults o.1).getD []) o.2)
            defaults) := by
        rw [hfound, Entries.overlay_each]
        exact Entries.put_each (Entries.each f) _ _ _
      rw [show merge (map f defaults) (map f (o :: os)) = merge (Entries.put o.1
        (Entries.overlay ((Entries.find? (map f defaults) o.1).getD []) (Entries.each f o.2))
        (map f defaults)) (map f os) from rfl, hput, ih]
      rfl

lemma map_map {β γ : Type} (f : α → β) (g : β → γ) (t : ImportTable α) :
    map g (map f t) = map (fun a => g (f a)) t := by
  simp [map, Function.comp_def]

/-- The entry stands somewhere in the table. -/
def Holds (t : ImportTable α) (a : α) : Prop := ∃ m es n, (m, es) ∈ t ∧ (n, a) ∈ es

lemma Holds.cons {t : ImportTable α} {a : α} {e : Text × Entries α} (h : t.Holds a) :
    Holds (e :: t) a := by
  obtain ⟨m, es, n, ht, hes⟩ := h
  exact ⟨m, es, n, List.mem_cons_of_mem _ ht, hes⟩

/-- Every entry of an overlaid table stands in one of the two. -/
lemma holds_merge {defaults overrides : ImportTable α} {a : α}
    (h : (merge defaults overrides).Holds a) : defaults.Holds a ∨ overrides.Holds a := by
  induction overrides generalizing defaults with
  | nil => exact Or.inl h
  | cons o os ih =>
      rcases ih h with ⟨m, es, n, hput, hes⟩ | h
      · rcases Entries.mem_put hput with rfl | hmem
        · rcases Entries.mem_overlay hes with ⟨k, hk⟩ | hold
          · exact Or.inr ⟨o.1, o.2, k, List.mem_cons_self, hk⟩
          · cases hfind : Entries.find? defaults o.1 with
            | none => rw [hfind] at hold; cases hold
            | some found =>
                rw [hfind] at hold
                obtain ⟨k, hk⟩ := Entries.mem_of_find? hfind
                exact Or.inl ⟨k, found, n, hk, hold⟩
        · exact Or.inl ⟨m, es, n, hmem, hes⟩
      · exact Or.inr h.cons

end ImportTable

/-! ## Calls of host functions -/

/-- The action is what an entry does when it is called. -/
def Import.Offers {W : Type} (act : Act W Value) : Import W → Prop
  | .function f => ∃ args, act = f args
  | .withCaller f => ∃ caller args, act = f caller args
  | .inert _ _ => False

/-- The action is what some host function of a table does when it is called. -/
def ImportTable.Offers {W : Type} (t : ImportTable (Import W)) (act : Act W Value) : Prop :=
  ∃ i, t.Holds i ∧ i.Offers act

lemma ImportTable.offers_singleton {W : Type} {m n : Text} {i : Import W} {act : Act W Value} :
    ImportTable.Offers [(m, [(n, i)])] act ↔ i.Offers act := by
  simp [ImportTable.Offers, ImportTable.Holds]

lemma ImportTable.not_offers_nil {W : Type} (act : Act W Value) : ¬ ImportTable.Offers [] act := by
  rintro ⟨i, ⟨m, es, n, hm, -⟩, -⟩
  cases hm

namespace World

variable {M I H α : Type} {P : World M I H → Prop}

/-- A call is answered by a host function, with the arguments of the call, or it is an error. -/
lemma answer_holds_cases (table : ImportTable (Import (World M I H))) (q : HostCall) :
    (∃ f, table.Holds (.function f) ∧ answer table q = f q.args) ∨
      (∃ f, table.Holds (.withCaller f) ∧ answer table q = f q.caller q.args) ∨
      ∃ e, ∀ w, answer table q w = (.error e, w) := by
  unfold answer
  cases hm : Entries.find? table q.module with
  | none => exact .inr (.inr ⟨_, fun _ => rfl⟩)
  | some es =>
      obtain ⟨m, hm⟩ := Entries.mem_of_find? hm
      dsimp only
      cases hn : Entries.find? es q.name with
      | none => exact .inr (.inr ⟨_, fun _ => rfl⟩)
      | some i =>
          obtain ⟨n, hn⟩ := Entries.mem_of_find? hn
          have hholds : table.Holds i := ⟨m, es, n, hm, hn⟩
          cases i with
          | function f => exact .inl ⟨f, hholds, rfl⟩
          | withCaller f => exact .inr (.inl ⟨f, hholds, rfl⟩)
          | inert wrapped v => exact .inr (.inr ⟨_, fun _ => rfl⟩)

/-- A call that a module makes does what a host function of the table does, or fails at once. -/
lemma answer_cases (table : ImportTable (Import (World M I H))) (q : HostCall) :
    (∃ act, table.Offers act ∧ answer table q = act) ∨
      ∃ e, ∀ w, answer table q w = (.error e, w) := by
  rcases answer_holds_cases table q with ⟨f, hf, h⟩ | ⟨f, hf, h⟩ | h
  · exact .inl ⟨_, ⟨_, hf, q.args, rfl⟩, h⟩
  · exact .inl ⟨_, ⟨_, hf, q.caller, q.args, rfl⟩, h⟩
  · exact .inr h

/-- The calls of a module keep what the host functions keep. -/
lemma answer_preserves {table : ImportTable (Import (World M I H))}
    (h : ∀ act, table.Offers act → Preserves P act) (q : HostCall) (w : World M I H) (hw : P w) :
    P (answer table q w).2 := by
  rcases answer_cases table q with ⟨act, hact, heq⟩ | ⟨e, he⟩
  · rw [heq]; exact h act hact w hw
  · rw [he]; exact hw

end World

/-! ## Runs of a module -/

namespace Sandbox

variable {M I H : Type} {P : World M I H → Prop}

/-- The default host functions write records and do nothing else. -/
lemma defaultImports_preserves (hwrite : ∀ r, World.Preserves P (World.write r)) (logger : Text)
    (act : Act (World M I H) Value) (h : (defaultImports logger).Offers act) :
    World.Preserves P act := by
  obtain ⟨i, ⟨m, es, n, hm, hn⟩, hact⟩ := h
  simp only [defaultImports, List.mem_singleton, Prod.mk.injEq] at hm
  obtain ⟨-, rfl⟩ := hm
  simp only [List.mem_cons, Prod.mk.injEq, List.not_mem_nil, or_false] at hn
  rcases hn with ⟨-, rfl⟩ | ⟨-, rfl⟩
  · obtain ⟨args, rfl⟩ := hact
    unfold logValue
    split
    · exact (hwrite _).bind fun _ => .pure _
    · exact .throw _
  · obtain ⟨caller, args, rfl⟩ := hact
    unfold logString
    split
    · exact .bind (.settle _) fun _ => (hwrite _).bind fun _ => .pure _
    · exact .throw _

/-- The calls of a module that has been linked keep what the caller's host functions keep. -/
lemma answer_merge_preserves (logger : Text) {imports : ImportTable (Import (World M I H))}
    (hwrite : ∀ r, World.Preserves P (World.write r))
    (hosts : ∀ act, imports.Offers act → World.Preserves P act) (q : HostCall) (w : World M I H) :
    P w → P (World.answer (ImportTable.merge (defaultImports logger) imports) q w).2 := by
  refine World.answer_preserves (fun act ⟨i, hi, hact⟩ => ?_) q w
  rcases ImportTable.holds_merge hi with hdefault | hown
  · exact defaultImports_preserves hwrite logger act ⟨i, hdefault, hact⟩
  · exact hosts act ⟨i, hown, hact⟩

/-- **A run of a module** keeps what its host functions keep, if asking the engine and writing
records keep it. -/
theorem runModule_preserves {id : Nat} {e : Engine M I} {logger : Text} {m : M}
    {imports : ImportTable (Import (World M I H))}
    (hwrite : ∀ r, World.Preserves P (World.write r))
    (hask : ∀ c, World.Preserves P (World.ask id c))
    (hosts : ∀ act, imports.Offers act → World.Preserves P act) :
    World.Preserves P (runModule id e logger m imports) := by
  have hanswer := answer_merge_preserves logger hwrite hosts
  refine .bind ((hask _).bind fun _ => .runScript hanswer _) fun i => ?_
  refine .bind ((hask _).bind fun _ => .settle _) fun entry => ?_
  split
  · exact .bind ((hask _).bind fun _ => .runScript hanswer _) fun _ => .pure _
  · exact (hwrite _).bind fun _ => .pure _

end Sandbox

end WatWorkbench
