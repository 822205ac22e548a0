import WatWorkbench.Proofs.Log.Listening

/-!
# Going up

The way up from a logger is found step by step, from each logger to the one that it is below.  How
many steps may be taken does not matter if there are as many as loggers with names that short, so the
way up from a logger on the way is the rest of the way.  Loggers that come later have longer names
than those above them, and leave their ways up alone.

* `LogTree.rank` — how many loggers there are with a name at most as long.
* `Rooted.climb_eq` — that many steps are enough.
* **`Rooted.chain_of_mem`** — the rest of the way up is the way up from there.
* `LogTree.IsBelow` — a logger is the channel or below it.
* **`Rooted.chain_enroll_of_isBelow`** — those that come below a channel leave its way up alone.
-/

namespace WatWorkbench.LogTree

variable {t : LogTree} {name channel : Text}

/-! ## Enough steps -/

/-- How many loggers there are with a name that is not longer. -/
def rank (t : LogTree) (name : Text) : Nat :=
  (t.places.filter (·.name.length ≤ name.length)).length

lemma rank_le (t : LogTree) (name : Text) : t.rank name ≤ t.places.length :=
  List.length_filter_le _ _

/-- A logger with a shorter name than one that is there has a lower rank. -/
lemma rank_lt {p : LogPlace} (hp : p ∈ t.places) (hlt : name.length < p.name.length) :
    t.rank name < t.rank p.name := by
  unfold rank
  have hsub : t.places.filter (·.name.length ≤ name.length) =
      (t.places.filter (·.name.length ≤ p.name.length)).filter
        (·.name.length ≤ name.length) := by
    rw [List.filter_filter]
    refine List.filter_congr fun q _ => ?_
    rw [Bool.eq_iff_iff]
    simp only [Bool.and_eq_true, decide_eq_true_eq]
    omega
  rw [hsub, List.length_filter_lt_length_iff_exists]
  exact ⟨p, by simp [hp], by simpa using hlt⟩

/-- **Enough steps** are as many as there are loggers with names that are not longer. -/
lemma Rooted.climb_eq (h : t.Rooted) {fuel fuel' : Nat} (hfuel : t.rank name ≤ fuel)
    (hfuel' : t.rank name ≤ fuel') : t.climb fuel name = t.climb fuel' name := by
  induction fuel generalizing name fuel' with
  | zero =>
      -- a logger that is there counts itself
      have hnone : t.place? name = none := by
        rw [place?, List.find?_eq_none]
        intro p hp hname
        have hpos : 0 < t.rank name := List.length_pos_of_mem (a := p) (by
          simp only [decide_eq_true_eq] at hname
          simp [hp, hname])
        omega
      cases fuel' <;> simp [climb, hnone]
  | succ fuel ih =>
      cases hplace : t.place? name with
      | none => cases fuel' <;> simp [climb, hplace]
      | some p =>
          obtain rfl : p.name = name := by simpa using List.find?_some hplace
          have hmem := List.mem_of_find?_eq_some hplace
          have hpos : 0 < t.rank p.name := List.length_pos_of_mem (a := p) (by simp [hmem])
          obtain ⟨fuel', rfl⟩ : ∃ n, fuel' = n + 1 := ⟨fuel' - 1, by omega⟩
          simp only [climb, hplace, List.cons.injEq, true_and]
          rcases h.parents p hmem with hroot | hshorter
          · rw [hroot, h.climb_root, h.climb_root]
          · have hlt := rank_lt hmem hshorter
            exact ih (by omega) (by omega)

/-! ## The rest of the way -/

/-- Where the way up comes to a logger, the rest of it is the way up from there. -/
lemma Rooted.climb_of_append (h : t.Rooted) {fuel fuel' : Nat} {below above : List Text}
    (hfuel : t.rank name ≤ fuel) (hfuel' : t.rank channel ≤ fuel')
    (hclimb : t.climb fuel name = below ++ channel :: above) :
    t.climb fuel' channel = channel :: above := by
  induction fuel generalizing name below with
  | zero =>
      rw [climb] at hclimb
      rcases below with _ | ⟨b, below⟩
      · obtain ⟨rfl, rfl⟩ := List.cons.inj hclimb
        exact h.climb_root _
      · simp at hclimb
  | succ fuel ih =>
      cases hplace : t.place? name with
      | none =>
          simp only [climb, hplace] at hclimb
          rcases below with _ | ⟨b, below⟩
          · obtain ⟨rfl, rfl⟩ := List.cons.inj hclimb
            exact h.climb_root _
          · simp at hclimb
      | some p =>
          rcases below with _ | ⟨b, below⟩
          · have hsame : name = channel := by
              simp only [climb, hplace, List.nil_append, List.cons.injEq] at hclimb
              exact hclimb.1
            subst hsame
            rw [h.climb_eq hfuel' hfuel, hclimb]
            rfl
          · obtain rfl : p.name = name := by simpa using List.find?_some hplace
            have hmem := List.mem_of_find?_eq_some hplace
            simp only [climb, hplace, List.cons_append, List.cons.injEq] at hclimb
            rcases h.parents p hmem with hroot | hshorter
            · -- above the root there is nothing
              rw [hroot, h.climb_root] at hclimb
              rcases below with _ | ⟨c, below⟩
              · obtain ⟨rfl, rfl⟩ := List.cons.inj hclimb.2
                exact h.climb_root _
              · simp at hclimb
            · have hlt := rank_lt hmem hshorter
              exact ih (by omega) hclimb.2

/-- What is met after the first step is the root or has a shorter name. -/
lemma Rooted.eq_root_or_lt_of_mem_tail (h : t.Rooted) {fuel : Nat} {n first : Text}
    {above : List Text} (hclimb : t.climb fuel name = first :: above) (hn : n ∈ above) :
    n = rootName ∨ n.length < name.length := by
  cases fuel with
  | zero =>
      obtain ⟨-, rfl⟩ := List.cons.inj hclimb
      simp at hn
  | succ fuel =>
      cases hplace : t.place? name with
      | none =>
          simp only [climb, hplace] at hclimb
          obtain ⟨-, rfl⟩ := List.cons.inj hclimb
          simp at hn
      | some p =>
          simp only [climb, hplace] at hclimb
          obtain ⟨-, rfl⟩ := List.cons.inj hclimb
          obtain rfl : p.name = name := by simpa using List.find?_some hplace
          rcases h.parents p (List.mem_of_find?_eq_some hplace) with hroot | hshorter
          · rw [hroot, h.climb_root] at hn
            exact Or.inl (by simpa using hn)
          · exact (h.mem_climb fuel hn).imp id fun hle => by omega

/-! ## Loggers that come -/

/-- A logger that has come is where nothing was, and those with names that are not longer are where
they were. -/
lemma Rooted.place?_enroll (h : t.Rooted) {newcomer : Text} (hle : name.length ≤ newcomer.length)
    (hne : name ≠ newcomer) : (t.enroll newcomer).place? name = t.place? name := by
  rw [LogTree.enroll]
  split_ifs
  · rfl
  · have hsame : ((fun q : LogPlace => decide (q.name = name)) ∘ adopt newcomer) =
        fun q => decide (q.name = name) := by
      funext q
      simp [(adopt_same newcomer q).1]
    simp only [place?, List.find?_append, List.find?_map, hsame]
    cases hfind : t.places.find? (fun q => decide (q.name = name)) with
    | none => simp [Ne.symm hne]
    | some p =>
        have hname : p.name = name := by simpa using List.find?_some hfind
        have hvacant : newcomer ∉ p.vacant := by
          intro hin
          have hshorter := h.vacant p (List.mem_of_find?_eq_some hfind) newcomer hin
          rw [hname] at hshorter
          omega
        simp [adopt, hvacant]

/-- A logger that is there stays there. -/
lemma Has.enroll (h : t.Has channel) (newcomer : Text) : (t.enroll newcomer).Has channel := by
  rcases h with rfl | h
  · exact Or.inl rfl
  · rw [LogTree.enroll]
    split_ifs
    · exact Or.inr h
    · obtain ⟨p, hp⟩ := Option.isSome_iff_exists.mp h
      refine Or.inr (List.find?_isSome.mpr ⟨adopt newcomer p, ?_, ?_⟩)
      · exact List.mem_append_left _ (List.mem_map_of_mem (List.mem_of_find?_eq_some hp))
      · rw [(adopt_same newcomer p).1]
        simpa using List.find?_some hp

lemma length_places_le_enroll (t : LogTree) (newcomer : Text) :
    t.places.length ≤ (t.enroll newcomer).places.length := by
  rw [enroll]
  split_ifs <;> simp

/-- A logger that comes leaves the ways up alone on which there are no longer names. -/
lemma Rooted.climb_enroll (h : t.Rooted) {newcomer : Text} (fuel : Nat)
    (hlt : name = rootName ∨ name.length < newcomer.length) :
    (t.enroll newcomer).climb fuel name = t.climb fuel name := by
  induction fuel generalizing name with
  | zero => rfl
  | succ fuel ih =>
      rcases hlt with rfl | hlt
      · rw [h.climb_root, (h.enroll newcomer).climb_root]
      · have hplace : (t.enroll newcomer).place? name = t.place? name :=
          h.place?_enroll (Nat.le_of_lt hlt) fun e => by rw [e] at hlt; omega
        simp only [climb, hplace]
        cases hp : t.place? name with
        | none => rfl
        | some p =>
            obtain rfl : p.name = name := by simpa using List.find?_some hp
            have hup : p.parent = rootName ∨ p.parent.length < newcomer.length :=
              (h.parents p (List.mem_of_find?_eq_some hp)).imp id fun hup => by omega
            simp only [ih hup]

/-- So they do where the channel is there already. -/
lemma Rooted.chain_enroll_of_lt (h : t.Rooted) {newcomer : Text} (hhas : t.Has channel)
    (hlt : channel = rootName ∨ channel.length < newcomer.length) :
    (t.enroll newcomer).chain channel = t.chain channel := by
  simp only [chain, enroll_of_has (hhas.enroll newcomer), enroll_of_has hhas]
  rw [h.climb_enroll _ hlt]
  exact h.climb_eq (Nat.le_trans (t.rank_le channel) (t.length_places_le_enroll newcomer))
    (t.rank_le channel)

/-- **The rest of the way up** from a logger on the way is the way up from there. -/
theorem Rooted.chain_of_mem (h : t.Rooted) (hhas : t.Has channel) {below above : List Text}
    (hchain : t.chain name = below ++ channel :: above) : t.chain channel = channel :: above := by
  have henrolled := h.enroll name
  have hrest : (t.enroll name).climb (t.enroll name).places.length channel = channel :: above :=
    henrolled.climb_of_append (rank_le _ _) (rank_le _ _) hchain
  rcases below with _ | ⟨b, below⟩
  · -- nothing has been passed, so this is the logger itself or the root
    obtain ⟨up, hup⟩ := chain_eq_cons t name
    have hsame : name = channel := (List.cons.inj (hup.symm.trans hchain)).1
    rw [hsame] at hchain
    exact hchain
  · have hlt := henrolled.eq_root_or_lt_of_mem_tail (n := channel) hchain (by simp)
    rw [← h.chain_enroll_of_lt hhas hlt, chain, enroll_of_has (hhas.enroll name)]
    exact hrest

/-- A logger is the channel or, by its name, below it.  All loggers are below the root. -/
def IsBelow (name channel : Text) : Prop :=
  name = channel ∨ channel = rootName ∨ name.startsWith (channel ++ ".") = true

instance (name channel : Text) : Decidable (IsBelow name channel) :=
  inferInstanceAs (Decidable (_ ∨ _))

/-- **Loggers that come below a channel** leave its way up alone. -/
theorem Rooted.chain_enroll_of_isBelow (h : t.Rooted) (hhas : t.Has channel)
    (hbelow : IsBelow name channel) : (t.enroll name).chain channel = t.chain channel := by
  rcases hbelow with rfl | hroot | hstarts
  · rw [enroll_of_has hhas]
  · exact h.chain_enroll_of_lt hhas (Or.inl hroot)
  · refine h.chain_enroll_of_lt hhas (Or.inr ?_)
    have hprefix : (channel ++ ("." : Text)).points <+: name.points := by
      simpa [Text.startsWith] using hstarts
    have hle := hprefix.length_le
    simp only [Text.points_append, List.length_append] at hle
    simp only [Text.length]
    have hdot : ("." : Text).points.length = 1 := rfl
    omega

end WatWorkbench.LogTree
