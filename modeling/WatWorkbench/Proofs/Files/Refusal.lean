import WatWorkbench.Proofs.Files.Temporary

/-!
# Paths that the system cannot be asked about

The names of files are octets other than zero.  A path with another name is not refused with a fault
of the file system, so whoever expects such faults only does not expect that.  Which paths these are
is told name by name.

* `Path.check_eq_error` — with what they fail instead; `Path.check_eq_ok_iff_names` — which they are.
* `FileSystem.check_of_makeDirectories_error` — making directories fails so only at such a path.
* **`FileSystem.isFault_of_createTemporary_iff`** — and so does making a temporary file beside it.
-/

namespace WatWorkbench

namespace Path

variable {p : Path} {e : Failure}

lemma check_eq_error (h : p.check = .error e) :
    (∃ fault, e = .unencodable fault) ∨ e = .raised .value "embedded null byte" := by
  rw [check] at h
  split at h
  · exact .inl ⟨_, (Except.error.inj h).symm⟩
  · split_ifs at h
    exact .inr (Except.error.inj h).symm

lemma not_isFault_of_check (h : p.check = .error e) : ¬ FileSystem.isFault e := by
  rcases check_eq_error h with ⟨fault, rfl⟩ | rfl <;> simp [FileSystem.isFault]

/-! ## Name by name -/

/-- A name that a file can have. -/
def Nameable (name : Text) : Prop :=
  (∀ c ∈ name.points, Text.isSurrogate c → isOctetPoint c) ∧ 0 ∉ name.points

lemma check_eq_ok_iff_names :
    p.check = .ok () ↔ (⟨p.anchor, []⟩ : Path).check = .ok () ∧ ∀ name ∈ p.parts, Nameable name := by
  obtain ⟨anchor, parts⟩ := p
  dsimp only
  induction parts using List.reverseRecOn with
  | nil => simp
  | append_singleton names name ih =>
      have hchild : (⟨anchor, names ++ [name]⟩ : Path) = (⟨anchor, names⟩ : Path).child name := rfl
      rw [hchild, check_child, ih, List.forall_mem_append, List.forall_mem_singleton, and_assoc]
      rfl

lemma check_parent (h : p.check = .ok ()) : p.parent.check = .ok () := by
  rw [check_eq_ok_iff_names] at h ⊢
  exact ⟨h.1, fun name hname => h.2 name (List.dropLast_subset _ hname)⟩

lemma mem_foldl_step {names done : List Text} {name : Text}
    (h : name ∈ names.foldl (full.step p) done) : name ∈ names ∨ name ∈ done ∨ name = upName := by
  induction names generalizing done with
  | nil => exact Or.inr (Or.inl h)
  | cons n names ih =>
      rcases ih h with hnames | hstep | hup
      · exact Or.inl (List.mem_cons_of_mem _ hnames)
      · unfold full.step at hstep
        split_ifs at hstep with hn
        · rcases List.mem_cons.mp hstep with rfl | hdone
          · exact Or.inl List.mem_cons_self
          · exact Or.inr (Or.inl hdone)
        · split at hstep
          · split at hstep
            · cases hstep
            · exact Or.inr (Or.inr (by simpa using hstep))
          · split_ifs at hstep
            · rcases List.mem_cons.mp hstep with rfl | hdone
              · exact Or.inr (Or.inr rfl)
              · exact Or.inr (Or.inl hdone)
            · exact Or.inr (Or.inl (List.mem_cons_of_mem _ hstep))
      · exact Or.inr (Or.inr hup)

/-- A path can still be asked about when it is named in full. -/
lemma check_full {working : Text} (hworking : (⟨.working working, []⟩ : Path).check = .ok ())
    (h : p.check = .ok ()) : (p.full working).check = .ok () := by
  rw [check_eq_ok_iff_names] at h ⊢
  refine ⟨?_, fun name hname => ?_⟩
  · rw [full]
    cases hanchor : p.anchor with
    | here => exact hworking
    | working t =>
        have hself := h.1
        rwa [hanchor] at hself
    | root doubled =>
        have hself := h.1
        rwa [hanchor] at hself
  · rw [full, List.mem_reverse] at hname
    rcases mem_foldl_step hname with hparts | hnil | rfl
    · exact h.2 name hparts
    · cases hnil
    · exact ⟨by decide, by decide⟩

end Path

namespace FileSystem

variable {fs fs' : FileSystem} {p directory : Path} {name : Text} {e : Failure}

lemma check_of_locate_error (h : fs.locate p = .error e) (he : ¬ isFault e) :
    p.check = .error e := by
  rcases hcheck : p.check with f | ⟨⟩
  · rw [locate, hcheck] at h
    exact congrArg Except.error (Except.error.inj h)
  · exact absurd (isFault_of_locate h hcheck) he

lemma locate_of_check_error (h : p.check = .error e) : fs.locate p = .error e := by
  rw [locate, h]
  rfl

/-! ## Making directories -/

lemma check_of_makeDirectory_error (h : fs.makeDirectory p = .error e) (he : ¬ isFault e) :
    p.check = .error e := by
  rw [makeDirectory] at h
  rcases hlocate : fs.locate p with f | place
  · simp only [hlocate, bind, Except.bind, Except.error.injEq] at h
    subst h
    exact check_of_locate_error hlocate he
  · simp only [hlocate, bind, Except.bind, permit] at h
    split_ifs at h
    · cases h
      exact absurd rfl he
    · rcases hrefuses : fs.refuses (.makeDirectory place) with _ | code
      · simp [hrefuses, pure, Except.pure] at h
      · simp only [hrefuses, Except.error.injEq] at h
        exact absurd (h ▸ rfl) he

lemma makeDirectory_of_check_error (h : p.check = .error e) : fs.makeDirectory p = .error e := by
  rw [makeDirectory, locate_of_check_error h]
  rfl

lemma check_of_single_error (h : (makeDirectories.single p fs).1 = .error e) (he : ¬ isFault e) :
    p.check = .error e := by
  rw [makeDirectories.single] at h
  split at h
  · cases h
  · next f hf =>
      split_ifs at h with hplain
      · cases h
        exact check_of_makeDirectory_error hf he
      · -- a fault has been met, so what looking at the path fails with is one too
        have hfault : isFault f = true := by
          simp only [Bool.or_eq_true, Bool.not_eq_true', not_or, Bool.not_eq_false] at hplain
          exact hplain.1
        split at h
        · cases h
        · cases h
          exact absurd hfault he
        · next g hg =>
            cases h
            rw [look] at hg
            split at hg
            · cases hg
            · next hlocate =>
                split_ifs at hg
                cases hg
                exact check_of_locate_error hlocate he

lemma check_of_go_error {n : Nat} (h : (makeDirectories.go p n fs).1 = .error e)
    (he : ¬ isFault e) : p.check = .error e := by
  induction n generalizing p with
  | zero => exact check_of_single_error h he
  | succ n ih =>
      rw [makeDirectories.go] at h
      split at h
      · next f hf =>
          split_ifs at h with habove
          · -- the system has been asked about the path, so it can be about those above
            have hcheck : p.check = .ok () := by
              rcases hcheck : p.check with g | ⟨⟩
              · obtain rfl := Except.error.inj ((makeDirectory_of_check_error hcheck).symm.trans hf)
                rcases Path.check_eq_error hcheck with ⟨fault, rfl⟩ | rfl <;>
                  simp [saysNotFound] at habove
              · rfl
            split at h
            · exact check_of_single_error h he
            · next g fs₁ hgo =>
                cases h
                have hparent := ih (p := p.parent) (by rw [hgo])
                rw [Path.check_parent hcheck] at hparent
                cases hparent
          · exact check_of_single_error h he
      · cases h

/-- A failure to make directories that is no fault of the system is that it cannot be asked. -/
lemma check_of_makeDirectories_error (h : (fs.makeDirectories p).1 = .error e)
    (he : ¬ isFault e) : p.check = .error e :=
  check_of_go_error h he

/-! ## Temporary files -/

lemma nameable_temporaryLetters (number : Nat) : Path.Nameable (temporaryLetters number) := by
  have hpoints : ∀ c ∈ (temporaryLetters number).points, c = 'X'.toNat ∨ 48 ≤ c ∧ c ≤ 57 := by
    rw [temporaryLetters]
    split_ifs
    · decide
    · intro c hc
      rw [Text.padLeft] at hc
      rcases List.mem_append.mp hc with hc | hc
      · exact Or.inl (List.eq_of_mem_replicate hc)
      · obtain ⟨d, hd, rfl⟩ := List.mem_map.mp hc
        have hdigit : d.isDigit = true := Nat.isDigit_of_mem_toDigits (by decide) (by decide) hd
        exact Or.inr (by simpa [Char.isDigit, UInt32.le_iff_toNat_le] using hdigit)
  constructor
  · intro c hc hsurrogate
    have hX : 'X'.toNat = 88 := rfl
    simp only [Text.isSurrogate, Bool.and_eq_true, decide_eq_true_eq] at hsurrogate
    have hlow := hpoints c hc
    omega
  · intro hzero
    have hX : 'X'.toNat = 88 := rfl
    have hlow := hpoints 0 hzero
    omega

/-- The name of a temporary file is one that files can have if the name that it is made for is. -/
lemma nameable_temporaryName {number : Nat} :
    Path.Nameable (temporaryName name number) ↔ Path.Nameable name := by
  obtain ⟨hsurrogates, hzero⟩ := nameable_temporaryLetters number
  have hdot : (∀ c ∈ ("." : Text).points, ¬ Text.isSurrogate c) ∧ 0 ∉ ("." : Text).points := by decide
  have htmp : (∀ c ∈ (".tmp" : Text).points, ¬ Text.isSurrogate c) ∧ 0 ∉ (".tmp" : Text).points := by
    decide
  simp only [Path.Nameable, temporaryName, Text.points_append, List.mem_append]
  constructor
  · rintro ⟨hall, hnone⟩
    exact ⟨fun c hc => hall c (by tauto), fun hc => hnone (by tauto)⟩
  · rintro ⟨hall, hnone⟩
    refine ⟨?_, by tauto⟩
    rintro c ((((hc | hc) | hc) | hc) | hc) hsurrogate
    · exact absurd hsurrogate (hdot.1 c hc)
    · exact hall c hc hsurrogate
    · exact absurd hsurrogate (hdot.1 c hc)
    · exact hsurrogates c hc hsurrogate
    · exact absurd hsurrogate (htmp.1 c hc)

/-- A temporary file is refused with a fault, or because the system cannot be asked about it. -/
lemma createTemporary_error_cases (h : (fs.createTemporary directory name).1 = .error e) :
    ∃ number, isFault e = true ∧
        ((directory.full fs.working).child (temporaryName name number)).check = .ok () ∨
      ((directory.full fs.working).child (temporaryName name number)).check = .error e := by
  rw [createTemporary] at h
  generalize directory.full fs.working = full at *
  generalize htemporary : full.child (temporaryName name _) = temporary at h
  obtain ⟨number, hnumber⟩ : ∃ number, full.child (temporaryName name number) = temporary :=
    ⟨_, htemporary⟩
  refine ⟨number, ?_⟩
  rw [hnumber]
  rcases hlocate : fs.locate temporary with f | place
  · simp only [hlocate, bind, Except.bind, Except.error.injEq] at h
    subst h
    rcases hcheck : temporary.check with g | ⟨⟩
    · exact Or.inr (congrArg Except.error
        (Except.error.inj ((locate_of_check_error hcheck).symm.trans hlocate)))
    · exact Or.inl ⟨isFault_of_locate hlocate hcheck, rfl⟩
  · rcases hrefuses : fs.refuses (.create place) with _ | code
    · simp [hlocate, hrefuses, permit, bind, Except.bind, pure, Except.pure] at h
    · simp only [hlocate, hrefuses, permit, bind, Except.bind, Except.error.injEq] at h
      exact Or.inl ⟨h ▸ rfl, (locate_eq_ok_iff.mp hlocate).1⟩

lemma nameable_name (h : p.check = .ok ()) : Path.Nameable p.name := by
  by_cases hparts : p.parts = []
  · rw [Path.name, hparts]
    exact ⟨by decide, by decide⟩
  · rw [← Path.parent_child_name hparts] at h
    exact (Path.check_child.mp h).2

lemma check_of_nameable_name (hparent : p.parent.check = .ok ()) (h : Path.Nameable p.name) :
    p.check = .ok () := by
  by_cases hparts : p.parts = []
  · rwa [Path.parent_eq_self hparts] at hparent
  · rw [← Path.parent_child_name hparts]
    exact Path.check_child.mpr ⟨hparent, h⟩

/-- **Beside a path** that the system can be asked about, it is asked for a temporary file; beside any
other in a directory that it can be asked about, it cannot be. -/
lemma isFault_of_createTemporary_iff
    (hworking : (⟨.working fs.working, []⟩ : Path).check = .ok ()) (hparent : p.parent.check = .ok ())
    (h : (fs.createTemporary p.parent p.name).1 = .error e) :
    isFault e = true ↔ p.check = .ok () := by
  obtain ⟨number, hcases⟩ := createTemporary_error_cases h
  have hfull := Path.check_full hworking hparent
  constructor
  · intro hfault
    rcases hcases with ⟨-, hcheck⟩ | herror
    · exact check_of_nameable_name hparent
        (nameable_temporaryName.mp (Path.check_child.mp hcheck).2)
    · exact absurd hfault (Path.not_isFault_of_check herror)
  · intro hcheck
    have hname : Path.Nameable (temporaryName p.name number) :=
      nameable_temporaryName.mpr (nameable_name hcheck)
    rcases hcases with ⟨hfault, -⟩ | herror
    · exact hfault
    · rw [Path.check_child.mpr ⟨hfull, hname⟩] at herror
      cases herror

end FileSystem

end WatWorkbench
