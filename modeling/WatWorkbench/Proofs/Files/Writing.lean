import WatWorkbench.Proofs.Files.Places

/-!
# Writing files

A file is written after the directories above it.  When that succeeds the path leads to a file with
just the octets, and nothing else has happened but that those directories have been made; when it
fails not even a file has, unless the system refuses to write to the file that it has opened.

* `writeBelow` — writing a file and making the directories above it.
* `Gains` — a file has been made or replaced, and nothing else.
* `write_cases` — writing where the directories are there.
* **`gains_of_writeBelow`**, `keepsAt_of_writeBelow` — writing with the directories above.
-/

namespace WatWorkbench.FileSystem

variable {fs fs' : FileSystem} {p : Path} {q : Place} {bytes : Bytes} {e : Failure}

/-- Writes a file and, where they are missing, makes the directories above it. -/
def writeBelow (fs : FileSystem) (p : Path) (bs : Bytes) : Except Failure Unit × FileSystem :=
  match fs.makeDirectories p.parent with
  | (.ok (), fs) => fs.write p bs
  | (.error e, fs) => (.error e, fs)

/-- The path leads to a file with the octets, which has been made or has replaced another file, and
nothing else has happened but that directories have been made above it. -/
def Gains (p : Path) (bytes : Bytes) (fs fs' : FileSystem) : Prop :=
  ∃ place, fs'.locate p = .ok place ∧ fs'.node? place = some (.file bytes) ∧
    fs.node? place ≠ some .directory ∧ ∀ q ≠ place, KeepsAt p.parent fs fs' q

lemma Gains.read (h : Gains p bytes fs fs') : fs'.read p = .ok bytes := by
  obtain ⟨place, hlocate, hfile, -⟩ := h
  rw [FileSystem.read, hlocate]
  simp only [bind, Except.bind, hfile]
  rfl

/-! ## Writing where the directories are there -/

/-- Either the file cannot be opened and nothing happens, or it is written, or the system refuses to
write to it when it is open, and it is empty then. -/
lemma write_cases (fs : FileSystem) (p : Path) (bytes : Bytes) :
    (∃ e, fs.write p bytes = (.error e, fs)) ∨
    ∃ place, fs.locate p = .ok place ∧ fs.node? place ≠ some .directory ∧
      (fs.write p bytes = (.ok (), fs.put place (.file bytes)) ∨
        fs.refuses (.write place) ≠ none ∧
          ∃ e, fs.write p bytes = (.error e, fs.put place (.file []))) := by
  rw [write]
  rcases fs.locate p with e | place
  · exact .inl ⟨e, rfl⟩
  · by_cases hdirectory : fs.hasDirectory place = true
    · exact .inl ⟨fault .isDirectory p, by simp [bind, Except.bind, hdirectory, throw, throwThe,
        MonadExceptOf.throw]⟩
    · have hnode : fs.node? place ≠ some .directory := by simpa [hasDirectory] using hdirectory
      rcases hcreate : fs.permit (.create place) p with e | ⟨⟩
      · exact .inl ⟨e, by simp [bind, Except.bind, hdirectory, hcreate]⟩
      · refine .inr ⟨place, rfl, hnode, ?_⟩
        have hopened : (do
            let place ← (.ok place : Except Failure Place)
            if fs.hasDirectory place then throw (fault .isDirectory p)
            fs.permit (.create place) p
            return place) = .ok place := by
          simp [bind, Except.bind, hdirectory, hcreate, pure, Except.pure]
        rw [hopened]
        dsimp only
        rcases hwrite : fs.refuses (.write place) with _ | code
        · exact .inl (by rw [permit, hwrite])
        · exact .inr ⟨Option.some_ne_none code, fault code p, by rw [permit, hwrite]⟩

lemma directoriesStay_put {place : Place} (h : fs.node? place ≠ some .directory) (node : Node) :
    fs.DirectoriesStay (fs.put place node) := by
  intro q hq
  have hne : q ≠ place := by
    rintro rfl
    exact h hq
  rw [node?_put_of_ne hne, hq]

/-! ## Writing with the directories above -/

/-- **Writing a file** with the directories above it, when it succeeds. -/
theorem gains_of_writeBelow (h : fs.writeBelow p bytes = (.ok (), fs')) : Gains p bytes fs fs' := by
  have hwidened := widened_makeDirectories p.parent fs
  rw [writeBelow] at h
  rcases hmade : fs.makeDirectories p.parent with ⟨e | ⟨⟩, fs₁⟩ <;> rw [hmade] at h hwidened
  · cases h
  · dsimp only at h hwidened
    rcases write_cases fs₁ p bytes with
      ⟨e, hwrite⟩ | ⟨place, hlocate, hnode, hwrite | ⟨-, e, hwrite⟩⟩ <;> rw [hwrite] at h
    · cases h
    · obtain rfl := (Prod.mk.inj h).2
      have hstay := directoriesStay_put hnode (.file bytes)
      have hparts : place.parts ≠ [] := fun hparts => hnode (node?_of_isEmpty (by simp [hparts]))
      refine ⟨place, locate_mono hstay hlocate, node?_put_self hparts _, ?_, fun q hq => ?_⟩
      · exact fun hbefore => hnode (hwidened.directoriesStay place hbefore)
      · exact (hwidened q).of_node?_eq (node?_put_of_ne hq _) hstay
    · cases h

/-- When it fails, no file has been made or changed but one that the system refuses to write to when
it is open. -/
lemma keepsAt_of_writeBelow (h : fs.writeBelow p bytes = (.error e, fs'))
    (hpermits : fs.refuses (.write q) = none) : KeepsAt p.parent fs fs' q := by
  have hwidened := widened_makeDirectories p.parent fs
  have hrefuses : (fs.makeDirectories p.parent).2.refuses = fs.refuses :=
    (sameSystem_makeDirectories _ _).refuses
  rw [writeBelow] at h
  rcases hmade : fs.makeDirectories p.parent with ⟨e | ⟨⟩, fs₁⟩ <;> rw [hmade] at h hwidened hrefuses
  · obtain rfl := (Prod.mk.inj h).2
    exact hwidened q
  · dsimp only at h hwidened hrefuses
    rcases write_cases fs₁ p bytes with
      ⟨e, hwrite⟩ | ⟨place, -, hnode, hwrite | ⟨hrefused, e, hwrite⟩⟩ <;> rw [hwrite] at h
    · obtain rfl := (Prod.mk.inj h).2
      exact hwidened q
    · cases h
    · obtain rfl := (Prod.mk.inj h).2
      have hne : q ≠ place := by
        rintro rfl
        exact hrefused (hrefuses ▸ hpermits)
      exact (hwidened q).of_node?_eq (node?_put_of_ne hne _) (directoriesStay_put hnode _)

end WatWorkbench.FileSystem
