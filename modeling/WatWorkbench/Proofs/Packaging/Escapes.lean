import WatWorkbench.Proofs.Files.Refusal
import WatWorkbench.Proofs.Packaging.Publication

/-!
# What escapes from publishing a package

A package that cannot be written is refused with a failure of packaging if it is the file system that
refuses.  A path that the system cannot be asked about is not refused by it, so what it fails with is
passed on as it is, unless the system refuses to make the directories above before it is asked.

* `Packaging.Unaskable` — such paths.
* **`Packaging.publish_escapes_iff`** — for them, and no others, another failure is passed on.
-/

namespace WatWorkbench.Packaging

open FileSystem

variable {data : Bytes} {p q : Path} {fs : FileSystem} {e : Failure}

/-- The system cannot be asked about the path, and no fault is met above it. -/
def Unaskable (p : Path) (fs : FileSystem) : Prop :=
  (∃ e, p.check = .error e) ∧ ∀ fault, (fs.makeDirectories p.parent).1 ≠ .error (.file fault)

/-- A failure that is none of packaging. -/
def Escapes {α : Type} (r : Except Failure α) : Prop :=
  ∃ e, r = .error e ∧ ∀ m, e ≠ .stage .packaging m

lemma not_escapes_unwritable {α : Type} (h : isFault e = true) :
    ¬ Escapes (.error (unwritable p e) : Except Failure α) := by
  rintro ⟨f, hf, hother⟩
  cases e with
  | file fault => exact hother _ (Except.error.inj hf).symm
  | _ => cases h

lemma escapes_unwritable {α : Type} (h : q.check = .error e) :
    Escapes (.error (unwritable p e) : Except Failure α) := by
  rcases Path.check_eq_error h with ⟨fault, rfl⟩ | rfl <;>
    exact ⟨_, rfl, fun m hm => by cases hm⟩

lemma not_ok_of_check (h : ∃ e, p.check = .error e) : p.check ≠ .ok () := by
  obtain ⟨e, he⟩ := h
  simp [he]

lemma exists_check_of_not_ok (h : p.check ≠ .ok ()) : ∃ e, p.check = .error e := by
  rcases hcheck : p.check with e | ⟨⟩
  · exact ⟨e, rfl⟩
  · exact absurd hcheck h

/-- **What escapes from publishing.** -/
theorem publish_escapes_iff (hworking : (⟨.working fs.working, []⟩ : Path).check = .ok ()) :
    Escapes (publish data p fs).1 ↔ Unaskable p fs := by
  have hsame := sameSystem_makeDirectories p.parent fs
  rw [publish, Unaskable]
  rcases hmade : fs.makeDirectories p.parent with ⟨e | ⟨⟩, fs₁⟩
  · -- the directories above are not made
    dsimp only
    by_cases hfault : isFault e = true
    · refine iff_of_false (not_escapes_unwritable hfault) fun h => ?_
      cases e with
      | file fault => exact h.2 fault rfl
      | _ => cases hfault
    · have hparent := check_of_makeDirectories_error (congrArg Prod.fst hmade) hfault
      refine iff_of_true (escapes_unwritable hparent) ⟨exists_check_of_not_ok fun h => ?_, ?_⟩
      · rw [Path.check_parent h] at hparent
        cases hparent
      · rintro fault hfile
        exact hfault (Except.error.inj hfile ▸ rfl)
  · have hparent := check_of_makeDirectories (congrArg Prod.fst hmade)
    rw [hmade] at hsame
    rw [← hsame.working] at hworking
    dsimp only
    rcases hcreated : fs₁.createTemporary p.parent p.name with ⟨e | ⟨temporary, place⟩, fs₂⟩
    · -- there is no temporary file
      have hiff := isFault_of_createTemporary_iff hworking hparent (congrArg Prod.fst hcreated)
      by_cases hcheck : p.check = .ok ()
      · exact iff_of_false (not_escapes_unwritable (hiff.mpr hcheck))
          fun h => not_ok_of_check h.1 hcheck
      · obtain ⟨number, ⟨hfault, -⟩ | herror⟩ :=
          createTemporary_error_cases (congrArg Prod.fst hcreated)
        · exact absurd (hiff.mp hfault) hcheck
        · exact iff_of_true (escapes_unwritable herror)
            ⟨exists_check_of_not_ok hcheck, fun fault => by simp⟩
    · -- there is one, so the system can be asked about the path
      have hcheck := check_of_createTemporary hparent hcreated
      refine iff_of_false ?_ fun h => not_ok_of_check h.1 hcheck
      dsimp only
      rcases hfilled : fs₂.fill temporary place data with ⟨e | ⟨⟩, fs₃⟩
      · exact not_escapes_unwritable (fill_of_error hfilled).1
      · dsimp only
        split
        · next hreplaced => exact not_escapes_unwritable (isFault_of_replace hreplaced hcheck)
        · rintro ⟨e, he, -⟩
          cases he

end WatWorkbench.Packaging
