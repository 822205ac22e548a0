import Mathlib.Data.List.Induction
import Mathlib.Tactic.Common
import WatWorkbench.Files.System

/-!
# Where paths lead

Following a path looks at nothing but where directories are, so a path goes on leading where it
leads as long as directories stay.  Making directories changes no file: it adds directories at
places to which the beginnings of the path lead.

* `node?_put_self`, `node?_remove_self` — what is at a place after a change, and elsewhere.
* `locate_eq_ok_iff`, `locate_mono` — where a path leads, and that it goes on to lead there.
* `Widened` — nothing has happened but that directories have been added above a path.
* **`widened_makeDirectories`** — making a directory with those above it.
* `makeDirectories_of_directory` — a directory that is there already.
-/

namespace WatWorkbench

/-- The path up to a number of names. -/
def Path.upTo (p : Path) (n : Nat) : Path := { p with parts := p.parts.take n }

@[simp] lemma Path.upTo_length (p : Path) : p.upTo p.parts.length = p := by
  rw [upTo, List.take_length]

lemma Path.upTo_parent (p : Path) (n : Nat) :
    p.parent.upTo n = p.upTo (min n (p.parts.length - 1)) := by
  rw [upTo, upTo, parent, List.dropLast_eq_take, List.take_take]

namespace FileSystem

variable {fs fs' fs'' : FileSystem} {p : Path} {q : Place}

/-! ## What is at a place -/

lemma find?_put_go (place : Place) (node : Node) (nodes : List (Place × Node)) (q : Place) :
    (put.go place node nodes).find? (·.1 = q) =
      if q = place then some (place, node) else nodes.find? (·.1 = q) := by
  induction nodes with
  | nil => by_cases h : q = place <;> simp [put.go, h, eq_comm]
  | cons e nodes ih =>
      obtain ⟨r, n⟩ := e
      by_cases hr : r = place
      · subst hr
        by_cases h : q = r
        · simp [put.go, h]
        · simp [put.go, h, Ne.symm h]
      · rw [put.go, if_neg hr, List.find?_cons, ih, List.find?_cons]
        by_cases h : q = place
        · subst h
          simp [hr]
        · rw [if_neg h, if_neg h]

lemma node?_of_isEmpty (h : q.parts.isEmpty = true) : fs.node? q = some .directory := if_pos h

/-- A node that is put at a place is there; at the places without names there is always a
directory. -/
lemma node?_put (place : Place) (node : Node) (q : Place) :
    (fs.put place node).node? q =
      if q.parts.isEmpty then some .directory else if q = place then some node else fs.node? q := by
  rw [node?]
  split_ifs with hempty hq
  · rfl
  · rw [put, find?_put_go, if_pos hq]
    rfl
  · rw [put, find?_put_go, if_neg hq, node?, if_neg hempty]

lemma node?_put_self {place : Place} (h : place.parts ≠ []) (node : Node) :
    (fs.put place node).node? place = some node := by
  rw [node?_put, if_neg (by simpa using h), if_pos rfl]

lemma node?_put_of_ne {place : Place} (h : q ≠ place) (node : Node) :
    (fs.put place node).node? q = fs.node? q := by
  rw [node?_put, if_neg h]
  split_ifs with hempty
  · rw [node?_of_isEmpty hempty]
  · rfl

lemma node?_remove_self {place : Place} (h : place.parts ≠ []) :
    (fs.remove place).node? place = none := by
  rw [node?, if_neg (by simpa using h), Option.map_eq_none_iff, List.find?_eq_none]
  intro e he
  simpa using (List.mem_filter.mp he).2

lemma node?_remove_of_ne {place : Place} (h : q ≠ place) :
    (fs.remove place).node? q = fs.node? q := by
  have hsame : (fun e : Place × Node => decide (decide (e.1 ≠ place) = true ∧
      decide (e.1 = q) = true)) = fun e => decide (e.1 = q) := by
    funext e
    by_cases he : e.1 = q
    · simp [he, h]
    · simp [he]
  rw [node?, node?, remove, List.find?_filter, hsame]

/-- What is at no place has no name to be found by. -/
lemma parts_ne_nil_of_none (h : fs.node? q = none) : q.parts ≠ [] := by
  intro hparts
  rw [node?_of_isEmpty (by simp [hparts])] at h
  cases h

/-! ## Following names -/

/-- A name leads from a directory. -/
lemma follow_concat_eq_ok_iff {names : List Text} {name : Text} {place : Place} :
    fs.follow (names ++ [name]) place = .ok q ↔
      ∃ d, fs.follow names place = .ok d ∧ fs.node? d = some .directory ∧
        Path.nameSize name ≤ maxName ∧ (if name = Path.upName then d.up else d.child name) = q := by
  induction names generalizing place with
  | nil =>
      simp only [List.nil_append, follow, Except.ok.injEq, exists_eq_left']
      rcases fs.node? place with _ | _ | _
      · simp
      · by_cases h : maxName < Path.nameSize name
        · simp [h, Nat.not_le.mpr h]
        · simp [h, Nat.le_of_not_lt h]
      · simp
  | cons first names ih =>
      simp only [List.cons_append, follow]
      rcases fs.node? place with _ | _ | _
      · simp
      · by_cases h : maxName < Path.nameSize first
        · simp [h]
        · simp only [h, if_false]
          exact ih
      · simp

/-- Directories stay where they are. -/
def DirectoriesStay (fs fs' : FileSystem) : Prop :=
  ∀ q, fs.node? q = some .directory → fs'.node? q = some .directory

lemma follow_mono (h : fs.DirectoriesStay fs') {names : List Text} {place : Place}
    (hfollow : fs.follow names place = .ok q) : fs'.follow names place = .ok q := by
  induction names using List.reverseRecOn generalizing q with
  | nil => exact hfollow
  | append_singleton names name ih =>
      obtain ⟨d, hd, hnode, hsize, rfl⟩ := follow_concat_eq_ok_iff.mp hfollow
      exact follow_concat_eq_ok_iff.mpr ⟨d, ih hd, h d hnode, hsize, rfl⟩

lemma locate_eq_ok_iff : fs.locate p = .ok q ↔
    p.check = .ok () ∧ Path.nameSize p.text ≤ maxPath ∧ fs.follow p.parts (start p) = .ok q := by
  rw [locate]
  rcases p.check with e | u
  · simp [bind, Except.bind]
  · by_cases hlong : maxPath < Path.nameSize p.text
    · simp [bind, Except.bind, hlong, Nat.not_le.mpr hlong, Except.mapError]
    · rcases fs.follow p.parts (start p) with code | place
      · simp [bind, Except.bind, hlong, Except.mapError]
      · simp [bind, Except.bind, hlong, Nat.le_of_not_lt hlong, Except.mapError]

/-- The system refuses to follow a path that it can be asked about only with a fault. -/
lemma isFault_of_locate {e : Failure} (h : fs.locate p = .error e) (hcheck : p.check = .ok ()) :
    isFault e = true := by
  rw [locate, hcheck] at h
  split_ifs at h
  · simp only [bind, Except.bind, Except.mapError, Except.error.injEq] at h
    rw [← h]
    rfl
  · rcases hfollow : fs.follow p.parts (start p) with code | place
    · simp only [hfollow, bind, Except.bind, Except.mapError, Except.error.injEq] at h
      rw [← h]
      rfl
    · simp [hfollow, bind, Except.bind, Except.mapError] at h

/-- A path goes on to lead where it leads, as long as directories stay. -/
lemma locate_mono (h : fs.DirectoriesStay fs') (hp : fs.locate p = .ok q) :
    fs'.locate p = .ok q := by
  obtain ⟨hcheck, hshort, hfollow⟩ := locate_eq_ok_iff.mp hp
  exact locate_eq_ok_iff.mpr ⟨hcheck, hshort, follow_mono h hfollow⟩

/-! ## Adding directories -/

/-- At the place is what was there before, or a directory that has been made where a beginning of
the path leads. -/
def KeepsAt (p : Path) (fs fs' : FileSystem) (q : Place) : Prop :=
  fs'.node? q = fs.node? q ∨
    fs.node? q = none ∧ fs'.node? q = some .directory ∧ ∃ n, fs'.locate (p.upTo n) = .ok q

/-- Nothing has happened but that directories have been made where beginnings of the path lead. -/
def Widened (p : Path) (fs fs' : FileSystem) : Prop := ∀ q, KeepsAt p fs fs' q

lemma Widened.refl (p : Path) (fs : FileSystem) : Widened p fs fs := fun _ => .inl rfl

lemma Widened.directoriesStay (h : Widened p fs fs') : fs.DirectoriesStay fs' := by
  intro q hq
  rcases h q with hsame | ⟨hnone, -, -⟩
  · rw [hsame, hq]
  · rw [hnone] at hq
    cases hq

lemma Widened.trans (h : Widened p fs fs') (h' : Widened p fs' fs'') : Widened p fs fs'' := by
  intro q
  rcases h' q with hsame' | ⟨hnone, hmade, hplace⟩
  · rcases h q with hsame | ⟨hnone, hmade, n, hplace⟩
    · exact .inl (hsame'.trans hsame)
    · exact .inr ⟨hnone, hsame'.trans hmade, n, locate_mono h'.directoriesStay hplace⟩
  · rcases h q with hsame | ⟨-, hmade', -⟩
    · exact .inr ⟨hsame ▸ hnone, hmade, hplace⟩
    · rw [hmade'] at hnone
      cases hnone

/-- What has been made stays so as long as directories do. -/
lemma KeepsAt.of_node?_eq (h : KeepsAt p fs fs' q) (hsame : fs''.node? q = fs'.node? q)
    (hstay : fs'.DirectoriesStay fs'') : KeepsAt p fs fs'' q := by
  rcases h with h | ⟨hnone, hmade, n, hplace⟩
  · exact .inl (hsame.trans h)
  · exact .inr ⟨hnone, hsame.trans hmade, n, locate_mono hstay hplace⟩

lemma Widened.of_parent (h : Widened p.parent fs fs') : Widened p fs fs' := by
  intro q
  refine (h q).imp_right fun ⟨hnone, hmade, n, hplace⟩ => ⟨hnone, hmade, ?_⟩
  rw [Path.upTo_parent] at hplace
  exact ⟨_, hplace⟩

lemma makeDirectory_eq_ok_iff : fs.makeDirectory p = .ok fs' ↔
    ∃ q, fs.locate p = .ok q ∧ fs.node? q = none ∧ fs.refuses (.makeDirectory q) = none ∧
      fs.put q .directory = fs' := by
  rw [makeDirectory]
  rcases fs.locate p with e | q
  · simp [bind, Except.bind]
  · rcases hnode : fs.node? q with _ | node
    · rcases hrefuses : fs.refuses (.makeDirectory q) with _ | code <;>
        simp [bind, Except.bind, permit, hnode, hrefuses, pure, Except.pure]
    · simp [bind, Except.bind, hnode, throw, throwThe, MonadExceptOf.throw]

lemma widened_makeDirectory (h : fs.makeDirectory p = .ok fs') : Widened p fs fs' := by
  obtain ⟨place, hlocate, hnone, -, rfl⟩ := makeDirectory_eq_ok_iff.mp h
  have hparts := parts_ne_nil_of_none hnone
  have hstay : fs.DirectoriesStay (fs.put place .directory) := by
    intro q hq
    by_cases hqplace : q = place
    · rw [hqplace, node?_put_self hparts]
    · rw [node?_put_of_ne hqplace, hq]
  intro q
  by_cases hqplace : q = place
  · subst hqplace
    refine .inr ⟨hnone, node?_put_self hparts _, p.parts.length, ?_⟩
    rw [Path.upTo_length]
    exact locate_mono hstay hlocate
  · exact .inl (node?_put_of_ne hqplace _)

lemma widened_single (p : Path) (fs : FileSystem) :
    Widened p fs (makeDirectories.single p fs).2 := by
  rw [makeDirectories.single]
  split
  · next h => exact widened_makeDirectory h
  · split_ifs
    · exact .refl p fs
    · split <;> exact .refl p fs

lemma widened_go (p : Path) (n : Nat) (fs : FileSystem) :
    Widened p fs (makeDirectories.go p n fs).2 := by
  induction n generalizing p fs with
  | zero => exact widened_single p fs
  | succ n ih =>
      rw [makeDirectories.go]
      split
      · split_ifs
        · -- the directories above are made first, and then the one in question
          have habove := (ih p.parent fs).of_parent
          rcases hgo : makeDirectories.go p.parent n fs with ⟨e | ⟨⟩, fs₁⟩ <;> rw [hgo] at habove
          · exact habove
          · exact habove.trans (widened_single p fs₁)
        · exact widened_single p fs
      · next h => exact widened_makeDirectory h

/-- **Making a directory with those above it** changes nothing else, however it ends. -/
theorem widened_makeDirectories (p : Path) (fs : FileSystem) :
    Widened p fs (fs.makeDirectories p).2 :=
  widened_go p p.parts.length fs

/-- The same system, whatever its files are. -/
structure SameSystem (fs fs' : FileSystem) : Prop where
  working : fs'.working = fs.working
  refuses : fs'.refuses = fs.refuses

lemma sameSystem_makeDirectory (h : fs.makeDirectory p = .ok fs') : SameSystem fs fs' := by
  obtain ⟨_, -, -, -, rfl⟩ := makeDirectory_eq_ok_iff.mp h
  exact ⟨rfl, rfl⟩

lemma sameSystem_single (p : Path) (fs : FileSystem) :
    SameSystem fs (makeDirectories.single p fs).2 := by
  rw [makeDirectories.single]
  split
  · next h => exact sameSystem_makeDirectory h
  · split_ifs
    · exact ⟨rfl, rfl⟩
    · split <;> exact ⟨rfl, rfl⟩

lemma sameSystem_go (p : Path) (n : Nat) (fs : FileSystem) :
    SameSystem fs (makeDirectories.go p n fs).2 := by
  induction n generalizing p fs with
  | zero => exact sameSystem_single p fs
  | succ n ih =>
      rw [makeDirectories.go]
      split
      · split_ifs
        · have habove := ih p.parent fs
          rcases hgo : makeDirectories.go p.parent n fs with ⟨e | ⟨⟩, fs₁⟩ <;> rw [hgo] at habove
          · exact habove
          · have hself := sameSystem_single p fs₁
            exact ⟨hself.working.trans habove.working, hself.refuses.trans habove.refuses⟩
        · exact sameSystem_single p fs
      · next h => exact sameSystem_makeDirectory h

lemma sameSystem_makeDirectories (p : Path) (fs : FileSystem) :
    SameSystem fs (fs.makeDirectories p).2 := sameSystem_go p p.parts.length fs

lemma check_of_single (h : (makeDirectories.single p fs).1 = .ok ()) : p.check = .ok () := by
  rw [makeDirectories.single] at h
  split at h
  · next hmade =>
      obtain ⟨_, hlocate, -⟩ := makeDirectory_eq_ok_iff.mp hmade
      exact (locate_eq_ok_iff.mp hlocate).1
  · split_ifs at h
    split at h
    · next hlook =>
        rw [look] at hlook
        split at hlook
        · next hlocate => exact (locate_eq_ok_iff.mp hlocate).1
        · split_ifs at hlook
          cases hlook
    · cases h
    · cases h

/-- The system can be asked about a directory that is there in the end. -/
lemma check_of_makeDirectories (h : (fs.makeDirectories p).1 = .ok ()) : p.check = .ok () := by
  rw [makeDirectories] at h
  generalize p.parts.length = n at h
  rcases n with _ | n
  · exact check_of_single h
  · rw [makeDirectories.go] at h
    split at h
    · split_ifs at h
      · split at h
        · exact check_of_single h
        · cases h
      · exact check_of_single h
    · next hmade =>
        obtain ⟨_, hlocate, -⟩ := makeDirectory_eq_ok_iff.mp hmade
        exact (locate_eq_ok_iff.mp hlocate).1

end FileSystem

end WatWorkbench
