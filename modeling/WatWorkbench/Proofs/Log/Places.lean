import Mathlib.Tactic.Common
import WatWorkbench.Log.Tree

/-!
# Places of loggers

Loggers come into the tree one by one, each below the nearest one that is there.  What lies above a
logger has a shorter name, so going up ends at the root and meets no logger twice.

* `LogTree.Has` — a logger is there; `enroll_of_has` — then it does not come again.
* `LogTree.Rooted` — the way up leads to shorter names; `rooted_initial`, `Rooted.enroll`,
  `Rooted.configure` — so it does in every tree that comes about.
* `LogTree.SamePlaces` — trees that differ in configuration only.
* **`Rooted.nodup_chain`** — a logger and those above it are all different.
-/

namespace WatWorkbench.LogTree

variable {t : LogTree} {name : Text}

/-! ## Loggers that are there -/

def Has (t : LogTree) (name : Text) : Prop := name = rootName ∨ (t.place? name).isSome = true

instance (t : LogTree) (name : Text) : Decidable (t.Has name) :=
  inferInstanceAs (Decidable (_ ∨ _))

lemma enroll_of_has (h : t.Has name) : t.enroll name = t := by
  rw [enroll, if_pos]
  simpa [Has] using h

@[simp] lemma enroll_logger (t : LogTree) (name : Text) : (t.enroll name).logger = t.logger := by
  rw [enroll]
  split <;> rfl

@[simp] lemma configure_self (t : LogTree) (name : Text) (change : Logger → Logger) :
    (t.configure name change).logger name = change (t.logger name) := if_pos rfl

@[simp] lemma configure_of_ne (t : LogTree) {n : Text} (change : Logger → Logger) (h : n ≠ name) :
    (t.configure name change).logger n = t.logger n := if_neg h

/-! ## Trees with the same places -/

/-- The trees differ in the configuration of loggers only. -/
structure SamePlaces (t t' : LogTree) : Prop where
  places : t'.places = t.places
  disabledUpTo : t'.disabledUpTo = t.disabledUpTo

lemma SamePlaces.refl (t : LogTree) : SamePlaces t t := ⟨rfl, rfl⟩

lemma SamePlaces.trans {t t' t'' : LogTree} (h : SamePlaces t t') (h' : SamePlaces t' t'') :
    SamePlaces t t'' :=
  ⟨h'.places.trans h.places, h'.disabledUpTo.trans h.disabledUpTo⟩

lemma SamePlaces.place? {t' : LogTree} (h : SamePlaces t t') (name : Text) :
    t'.place? name = t.place? name := by
  rw [LogTree.place?, LogTree.place?, h.places]

lemma SamePlaces.has {t' : LogTree} (h : SamePlaces t t') : t'.Has name ↔ t.Has name := by
  rw [Has, Has, h.place?]

lemma SamePlaces.climb {t' : LogTree} (h : SamePlaces t t') (fuel : Nat) (name : Text) :
    t'.climb fuel name = t.climb fuel name := by
  induction fuel generalizing name with
  | zero => rfl
  | succ fuel ih => simp only [LogTree.climb, h.place?, ih]

lemma SamePlaces.eq {t' : LogTree} (h : SamePlaces t t') (hlogger : t'.logger = t.logger) :
    t' = t := by
  obtain ⟨logger, places, disabledUpTo⟩ := t
  obtain ⟨hplaces, hdisabledUpTo⟩ := h
  cases t'
  subst hplaces hdisabledUpTo hlogger
  rfl

lemma SamePlaces.enroll {t' : LogTree} (h : SamePlaces t t') (name : Text) :
    SamePlaces (t.enroll name) (t'.enroll name) := by
  simp only [LogTree.enroll, h.place?]
  split_ifs
  · exact h
  · exact ⟨by rw [h.places], h.disabledUpTo⟩

lemma SamePlaces.chain {t' : LogTree} (h : SamePlaces t t') (name : Text) :
    t'.chain name = t.chain name := by
  have henrolled := h.enroll name
  simp only [LogTree.chain, henrolled.places, henrolled.climb]

lemma samePlaces_configure (h : t.Has name) (change : Logger → Logger) :
    SamePlaces t (t.configure name change) := by
  constructor <;> simp [configure, enroll_of_has h]

/-! ## The way up -/

/-- Above a logger is the root or a logger with a shorter name, now and when those names have come
under which there is no logger yet. -/
structure Rooted (t : LogTree) : Prop where
  names : ∀ p ∈ t.places, p.name ≠ rootName
  parents : ∀ p ∈ t.places, p.parent = rootName ∨ p.parent.length < p.name.length
  vacant : ∀ p ∈ t.places, ∀ n ∈ p.vacant, n.length < p.name.length

lemma rooted_initial : initial.Rooted :=
  ⟨by simp [initial], by simp [initial], by simp [initial]⟩

/-- The names above a name are shorter. -/
lemma length_above {n : Text} : ∀ {l : List Nat}, n ∈ above l → n.length < l.length
  | c :: x :: rest, h => by
      rw [above] at h
      split_ifs at h
      · rcases List.mem_cons.mp h with rfl | h
        · simp [Text.length]
        · have := length_above h
          simp only [List.length_cons]
          omega
      · have := length_above h
        simp only [List.length_cons] at this ⊢
        omega
  | [], h => by simp [above] at h
  | [_], h => by simp [above] at h

/-- Going below a newcomer is a way up to a shorter name. -/
lemma adopt_parent {p : LogPlace}
    (hparent : p.parent = rootName ∨ p.parent.length < p.name.length)
    (hvacant : ∀ n ∈ p.vacant, n.length < p.name.length) :
    (adopt name p).parent = rootName ∨ (adopt name p).parent.length < (adopt name p).name.length := by
  unfold adopt
  split_ifs with h
  · exact Or.inr (hvacant name (by simpa using (Bool.and_eq_true_iff.mp h).1))
  · exact hparent

lemma adopt_same (name : Text) (p : LogPlace) :
    (adopt name p).name = p.name ∧ (adopt name p).vacant = p.vacant := by
  unfold adopt
  split_ifs <;> exact ⟨rfl, rfl⟩

/-- The way up of a newcomer, and of those that go below it. -/
lemma Rooted.enroll (h : t.Rooted) (name : Text) : (t.enroll name).Rooted := by
  rw [LogTree.enroll]
  split_ifs with hthere
  · exact h
  · have hname : name ≠ rootName := fun e => hthere (by simp [e])
    have habove : ∀ n ∈ above name.points.reverse, n.length < name.length := fun n hn => by
      simpa [Text.length] using length_above hn
    -- each of the three for the places that were there, and for that of the newcomer
    refine ⟨fun p hp => ?_, fun p hp => ?_, fun p hp => ?_⟩ <;>
      rcases List.mem_append.mp hp with hp | hp
    · obtain ⟨q, hq, rfl⟩ := List.mem_map.mp hp
      rw [(adopt_same name q).1]
      exact h.names q hq
    · rw [List.mem_singleton.mp hp]
      exact hname
    · obtain ⟨q, hq, rfl⟩ := List.mem_map.mp hp
      exact adopt_parent (h.parents q hq) (h.vacant q hq)
    · rw [List.mem_singleton.mp hp]
      rcases hfound : (above name.points.reverse).dropWhile (fun n => (t.place? n).isNone) with
        _ | ⟨n, rest⟩
      · exact Or.inl rfl
      · exact Or.inr (habove n ((List.dropWhile_sublist _).subset (hfound ▸ List.mem_cons_self)))
    · obtain ⟨q, hq, rfl⟩ := List.mem_map.mp hp
      rw [(adopt_same name q).1, (adopt_same name q).2]
      exact h.vacant q hq
    · rw [List.mem_singleton.mp hp]
      exact fun n hn => habove n ((List.takeWhile_sublist _).subset hn)

lemma Rooted.configure (h : t.Rooted) (name : Text) (change : Logger → Logger) :
    (t.configure name change).Rooted := by
  obtain ⟨hnames, hparents, hvacant⟩ := h.enroll name
  exact ⟨hnames, hparents, hvacant⟩

lemma Rooted.place?_root (h : t.Rooted) : t.place? rootName = none := by
  rw [place?, List.find?_eq_none]
  intro p hp
  simpa using h.names p hp

lemma Rooted.climb_root (h : t.Rooted) (fuel : Nat) : t.climb fuel rootName = [rootName] := by
  cases fuel with
  | zero => rfl
  | succ fuel => simp only [climb, h.place?_root]

/-- Going up, names get shorter. -/
lemma Rooted.mem_climb (h : t.Rooted) {n : Text} (fuel : Nat) (hn : n ∈ t.climb fuel name) :
    n = rootName ∨ n.length ≤ name.length := by
  induction fuel generalizing name with
  | zero => exact Or.inl (by simpa [climb] using hn)
  | succ fuel ih =>
      rw [climb] at hn
      split at hn
      · next p hp =>
          obtain rfl : p.name = name := by simpa using List.find?_some hp
          rcases List.mem_cons.mp hn with rfl | hn
          · exact Or.inr (Nat.le_refl _)
          · rcases h.parents p (List.mem_of_find?_eq_some hp) with hroot | hshorter
            · rw [hroot, h.climb_root] at hn
              exact Or.inl (by simpa using hn)
            · exact (ih hn).imp id fun hn => by omega
      · exact Or.inl (by simpa using hn)

/-- Going up, no logger is met twice. -/
lemma Rooted.nodup_climb (h : t.Rooted) (fuel : Nat) (name : Text) : (t.climb fuel name).Nodup := by
  induction fuel generalizing name with
  | zero => simp [climb]
  | succ fuel ih =>
      rw [climb]
      split
      · next p hp =>
          obtain rfl : p.name = name := by simpa using List.find?_some hp
          have hmem := List.mem_of_find?_eq_some hp
          refine List.nodup_cons.mpr ⟨fun hagain => ?_, ih p.parent⟩
          -- further up there are only the root and names that are shorter still
          rcases h.parents p hmem with hroot | hshorter
          · rw [hroot, h.climb_root] at hagain
            exact h.names p hmem (by simpa using hagain)
          · rcases h.mem_climb fuel hagain with hroot | hlong
            · exact h.names p hmem hroot
            · omega
      · simp

/-- **The way up.**  A logger and those above it are all different. -/
theorem Rooted.nodup_chain (h : t.Rooted) (name : Text) : (t.chain name).Nodup :=
  (h.enroll name).nodup_climb _ _

/-- The way up from a logger begins with it. -/
lemma mem_chain (h : t.Has name) : name ∈ t.chain name := by
  simp only [chain, enroll_of_has h]
  rcases h with rfl | h
  · cases t.places.length with
    | zero => simp [climb]
    | succ fuel =>
        rw [climb]
        split <;> simp
  · obtain ⟨p, hp⟩ := Option.isSome_iff_exists.mp h
    have hpos := List.length_pos_of_mem (List.mem_of_find?_eq_some hp)
    obtain ⟨fuel, hfuel⟩ := Nat.exists_eq_succ_of_ne_zero (Nat.ne_of_gt hpos)
    rw [hfuel, climb, hp]
    exact List.mem_cons_self

end WatWorkbench.LogTree
