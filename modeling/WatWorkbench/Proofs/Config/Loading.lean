import WatWorkbench.Config.File
import WatWorkbench.Proofs.Files.Refusal
import WatWorkbench.Proofs.Yaml.Construction
import WatWorkbench.Proofs.Yaml.Parsing
import WatWorkbench.Proofs.Yaml.Scalars

/-!
# What escapes from loading a configuration

A configuration that cannot be loaded is refused with a failure of its own kind.  What comes from
elsewhere and is passed on: failures to make numbers and values of what a document spells, octets
that are no text, and paths that the system cannot be asked about or refuses to look at.

* `Yaml.unreadable_of_load` — why the value of a document is not found, if it has no fault.
* `Settings.Escapes` — the failures of another kind.
* **`Settings.escapes_iff`** — what escapes from each of the ways to load a configuration.
-/

namespace WatWorkbench

/-! ## Documents -/

namespace Yaml

/-- A failure to make numbers or values of what a document spells. -/
def Unreadable (document : Text) (f : Failure) : Prop :=
  Unnumbered f ∨ ∃ g root, Graph.ofPoints document.points = .ok (g, some root) ∧ Unspelled g f

lemma Unnumbered.isConversion {f : Failure} (h : Unnumbered f) : f.IsConversion := by
  cases h with
  | version => simp [Failure.IsConversion, Fault.tooManyDigits]
  | point h =>
      rw [Lex.numbered] at h
      split_ifs at h <;> cases h <;> simp [Failure.IsConversion]

lemma Unspelled.isConversion {g : Graph} {f : Failure} (h : Unspelled g f) : f.IsConversion := by
  cases h with
  | bool _ h => exact isConversion_of_error (Scalar.bool_spec _) h
  | int _ h => exact isConversion_of_error (Scalar.int_spec _) h
  | float _ h => exact isConversion_of_error (Scalar.float_spec _) h
  | timestamp _ h => exact isConversion_of_error (Scalar.timestamp_spec _) h
  | notText => simp [Failure.IsConversion]

/-- The value of a document is found, or the document has a fault, or a number or a value cannot be
made of what it spells. -/
theorem unreadable_of_load {document : Text} {f : Failure}
    (h : load document = .error (.escaped f)) : Unreadable document f := by
  rw [load] at h
  rcases hcheck : checkPoints document.points with e | u
  · simp only [hcheck, bind, Except.bind, Except.error.injEq] at h
    subst h
    rw [checkPoints] at hcheck
    split at hcheck <;> cases hcheck
  · rcases hgraph : Graph.ofPoints document.points with e | ⟨g, _ | root⟩
    · simp only [hcheck, hgraph, bind, Except.bind, Except.error.injEq] at h
      subst h
      exact .inl (Graph.unnumbered_of_ofPoints hgraph)
    · simp [hcheck, hgraph, bind, Except.bind, pure, Except.pure] at h
    · simp only [hcheck, hgraph, bind, Except.bind] at h
      exact .inr ⟨g, root, hgraph, Graph.unspelled_of_value h⟩

lemma Unreadable.isConversion {document : Text} {f : Failure} (h : Unreadable document f) :
    f.IsConversion := by
  rcases h with h | ⟨g, root, -, h⟩
  · exact h.isConversion
  · exact h.isConversion

end Yaml

namespace FileSystem

variable {fs : FileSystem} {p : Path} {e : Failure}

/-- A file is not read for a fault, or because the system cannot be asked about the path. -/
lemma read_eq_error (h : fs.read p = .error e) (he : ¬ isFault e) : p.check = .error e := by
  rw [FileSystem.read] at h
  rcases hlocate : fs.locate p with f | place
  · simp only [hlocate, bind, Except.bind, Except.error.injEq] at h
    subst h
    exact check_of_locate_error hlocate he
  · simp only [hlocate, bind, Except.bind] at h
    split at h
    · cases h
      exact absurd rfl he
    · cases h
      exact absurd rfl he
    · cases h

lemma read_of_check_error (h : p.check = .error e) : fs.read p = .error e := by
  rw [FileSystem.read, locate_of_check_error h]
  rfl

end FileSystem

namespace Settings

open FileSystem

variable {files : FileSystem} {p directory : Path} {document label : Text} {e : Failure}

/-- An operation ends with a failure that is none of configurations. -/
def Escapes {α : Type} (r : Except Failure α) (e : Failure) : Prop :=
  r = .error e ∧ ∀ m, e ≠ .config m

/-- The text of a document has a value, or the failure is one of the configuration. -/
lemma config_of_entries {v : Value} (h : (do
    let entries ← entriesOf label v
    (ofEntries entries).mapError fun report : Report =>
      .config ("Invalid config " ++ label ++ ": " ++ report.message)) = .error e) :
    ∃ m, e = .config m := by
  rcases hentries : entriesOf label v with f | entries
  · obtain rfl := Except.error.inj (hentries ▸ h)
    unfold entriesOf at hentries
    split at hentries <;> cases hentries
    exact ⟨_, rfl⟩
  · rcases hsettings : ofEntries entries with report | settings <;>
      simp only [hentries, hsettings, bind, Except.bind, Except.mapError, Except.error.injEq,
        reduceCtorEq] at h
    exact ⟨_, h.symm⟩

lemma escapes_parse :
    Escapes (parse document label) e ↔ Yaml.load document = .error (.escaped e) := by
  constructor
  · rintro ⟨h, he⟩
    rw [parse] at h
    rcases hload : Yaml.load document with (_ | _ | f) | v <;> rw [hload] at h
    · exact absurd (Except.error.inj h).symm (he _)
    · exact absurd (Except.error.inj h).symm (he _)
    · obtain rfl := Except.error.inj h
      rfl
    · obtain ⟨m, hm⟩ := config_of_entries h
      exact absurd hm (he m)
  · intro h
    refine ⟨?_, ?_⟩
    · rw [parse, h]
      rfl
    · rintro m rfl
      exact (Yaml.unreadable_of_load h).isConversion

lemma unreadable_of_check (h : p.check = .error e) : unreadable p e = e := by
  rcases Path.check_eq_error h with ⟨fault, rfl⟩ | rfl <;> rfl

lemma not_config_of_check (h : p.check = .error e) (m : Text) : e ≠ .config m := by
  rcases Path.check_eq_error h with ⟨fault, rfl⟩ | rfl <;> simp

lemma unreadable_of_isFault (h : isFault e = true) : ∃ m, unreadable p e = .config m := by
  cases e with
  | file fault =>
      rw [unreadable]
      split_ifs with hfound hsystem
      · exact ⟨_, rfl⟩
      · exact ⟨_, rfl⟩
      · exact absurd rfl hsystem
  | _ => cases h

/-- What is in a file is no text, or a text of which a number or a value cannot be made. -/
def Garbled (files : FileSystem) (p : Path) (e : Failure) : Prop :=
  (∃ bytes f, files.read p = .ok bytes ∧ Text.decode bytes = .error f ∧ e = .undecodable f) ∨
    ∃ document, files.readText p = .ok document ∧ Yaml.load document = .error (.escaped e)

lemma Garbled.read (h : Garbled files p e) : ∃ bytes, files.read p = .ok bytes := by
  rcases h with ⟨bytes, -, hbytes, -⟩ | ⟨document, hdocument, -⟩
  · exact ⟨bytes, hbytes⟩
  · rcases hread : files.read p with f | bytes
    · rw [readText, hread] at hdocument
      cases hdocument
    · exact ⟨bytes, rfl⟩

lemma escapes_load_of_read_error {f : Failure} (hread : files.read p = .error f) :
    Escapes (load files p) e ↔ p.check = .error e := by
  have hload : load files p = .error (unreadable p f) := by
    rw [load, readText, hread]
    rfl
  rw [hload]
  constructor
  · rintro ⟨h, he⟩
    obtain rfl := Except.error.inj h
    cases hfault : isFault f with
    | true =>
        obtain ⟨m, hm⟩ := unreadable_of_isFault (p := p) hfault
        exact absurd hm (he m)
    | false =>
        have hcheck := read_eq_error hread (by simp [hfault])
        rwa [unreadable_of_check hcheck]
  · intro hcheck
    obtain rfl := Except.error.inj (hread.symm.trans (read_of_check_error hcheck))
    exact ⟨by rw [unreadable_of_check hcheck], not_config_of_check hcheck⟩

lemma escapes_load_of_read {bytes : Bytes} (hread : files.read p = .ok bytes) :
    Escapes (load files p) e ↔ Garbled files p e := by
  rcases hdecode : Text.decode bytes with f | t
  · have htext : files.readText p = .error (.undecodable f) := by
      simp [readText, hread, bind, Except.bind, hdecode, throw, throwThe, MonadExceptOf.throw]
    rw [load, htext]
    constructor
    · rintro ⟨h, -⟩
      exact .inl ⟨bytes, f, hread, hdecode, (Except.error.inj h).symm⟩
    · rintro (⟨bytes', f', hbytes, hf, rfl⟩ | ⟨document, hdocument, -⟩)
      · obtain rfl := Except.ok.inj (hread.symm.trans hbytes)
        obtain rfl := Except.error.inj (hdecode.symm.trans hf)
        exact ⟨rfl, by simp⟩
      · rw [htext] at hdocument
        cases hdocument
  · have htext : files.readText p = .ok (unifyNewlines t) := by
      simp [readText, hread, bind, Except.bind, hdecode, pure, Except.pure]
    rw [load, htext]
    constructor
    · exact fun h => .inr ⟨_, htext, escapes_parse.mp h⟩
    · rintro (⟨bytes', f', hbytes, hf, -⟩ | ⟨document, hdocument, h⟩)
      · obtain rfl := Except.ok.inj (hread.symm.trans hbytes)
        rw [hdecode] at hf
        cases hf
      · obtain rfl := Except.ok.inj (htext.symm.trans hdocument)
        exact escapes_parse.mpr h

lemma escapes_load : Escapes (load files p) e ↔ p.check = .error e ∨ Garbled files p e := by
  rcases hread : files.read p with f | bytes
  · have hgarbled : ¬ Garbled files p e := by
      rintro (⟨bytes, g, hbytes, -⟩ | ⟨document, hdocument, -⟩)
      · rw [hread] at hbytes
        cases hbytes
      · rw [readText, hread] at hdocument
        cases hdocument
    rw [escapes_load_of_read_error hread, or_iff_left hgarbled]
  · have hcheck : p.check ≠ .error e := fun hcheck => by
      rw [read_of_check_error hcheck] at hread
      cases hread
    rw [escapes_load_of_read hread, or_iff_right hcheck]

/-- There is something at the path of a file that is read. -/
lemma exists_of_read {bytes : Bytes} (h : files.read p = .ok bytes) :
    files.exists? p = .ok true := by
  rw [FileSystem.read] at h
  rcases hlocate : files.locate p with f | place
  · simp [hlocate, bind, Except.bind] at h
  · rcases hnode : files.node? place with _ | node
    · simp [hlocate, hnode, bind, Except.bind, throw, throwThe, MonadExceptOf.throw] at h
    · simp [exists?, look, hlocate, hnode, bind, Except.bind, pure, Except.pure]

lemma check_of_exists (h : files.exists? p = .ok true) : p.check = .ok () := by
  rw [exists?, look] at h
  rcases hlocate : files.locate p with f | place
  · cases habsent : saysAbsent f <;>
      simp [hlocate, habsent, bind, Except.bind, pure, Except.pure] at h
  · exact (locate_eq_ok_iff.mp hlocate).1

/-- The system refuses to look for a file. -/
lemma exists_eq_error : files.exists? p = .error e ↔
    ∃ fault, files.locate p = .error (.file fault) ∧
      fault.code ≠ .notFound ∧ fault.code ≠ .notDirectory ∧ e = .file fault := by
  rw [exists?, look]
  rcases hlocate : files.locate p with f | place
  · cases hfault : isFault f with
    | true =>
        cases f with
        | file fault =>
            simp only [saysAbsent, bind, Except.bind, Except.error.injEq, Failure.file.injEq,
              exists_eq_left']
            by_cases hfound : fault.code = .notFound
            · simp [hfound, pure, Except.pure]
            · by_cases hdirectory : fault.code = .notDirectory
              · simp [hdirectory, pure, Except.pure]
              · simp [hfound, hdirectory, eq_comm]
        | _ => cases hfault
    | false =>
        rcases Path.check_eq_error (check_of_locate_error hlocate (by simp [hfault])) with
          ⟨fault, rfl⟩ | rfl <;>
          simp [saysAbsent, bind, Except.bind, pure, Except.pure]
  · simp [bind, Except.bind, pure, Except.pure]

lemma escapes_find : Escapes (find files directory) e ↔
    files.exists? (directory.child fileName) = .error e ∨
      Garbled files (directory.child fileName) e := by
  rw [find]
  rcases hexists : files.exists? (directory.child fileName) with f | isThere
  · have hgarbled : ¬ Garbled files (directory.child fileName) e := fun h => by
      obtain ⟨bytes, hbytes⟩ := h.read
      rw [exists_of_read hbytes] at hexists
      cases hexists
    rw [or_iff_left hgarbled]
    constructor
    · exact fun h => congrArg Except.error (Except.error.inj h.1)
    · intro h
      obtain rfl := Except.error.inj h
      obtain ⟨fault, -, -, -, rfl⟩ := exists_eq_error.mp hexists
      exact ⟨rfl, by simp⟩
  · rw [or_iff_right (by simp)]
    cases isThere with
    | true =>
        have hcheck : (directory.child fileName).check ≠ .error e := by
          simp [check_of_exists hexists]
        exact escapes_load.trans (or_iff_right hcheck)
    | false =>
        refine iff_of_false (fun h => by cases h.1) fun h => ?_
        obtain ⟨bytes, hbytes⟩ := h.read
        rw [exists_of_read hbytes] at hexists
        cases hexists

/-- **What escapes from loading a configuration** besides the failures of configurations: of a
document just the failures to make numbers and values of what it spells, which are those of
conversions; of a file also that it is no text, or that the system cannot be asked about its path;
of a directory also that the system refuses to look there, but not that nothing is there. -/
theorem escapes_iff (files : FileSystem) (p directory : Path) (document label : Text)
    (e : Failure) :
    (Escapes (parse document label) e ↔ Yaml.load document = .error (.escaped e)) ∧
    (Escapes (load files p) e ↔ p.check = .error e ∨ Garbled files p e) ∧
    (Escapes (find files directory) e ↔
      (∃ fault, files.locate (directory.child fileName) = .error (.file fault) ∧
        fault.code ≠ .notFound ∧ fault.code ≠ .notDirectory ∧ e = .file fault) ∨
      Garbled files (directory.child fileName) e) ∧
    (Yaml.load document = .error (.escaped e) → Yaml.Unreadable document e ∧ e.IsConversion) :=
  ⟨escapes_parse, escapes_load, escapes_find.trans (or_congr_left exists_eq_error),
    fun h => ⟨Yaml.unreadable_of_load h, (Yaml.unreadable_of_load h).isConversion⟩⟩

/-- An octet that begins no code point is enough. -/
theorem escapes_load_undecodable :
    Escapes (load ⟨"/work", [(Place.working.child "c.yaml", .file [0xFF])], fun _ => none⟩
      ⟨.here, ["c.yaml"]⟩) (.undecodable ⟨0, [0xFF], .start⟩) :=
  ⟨rfl, by simp⟩

example : (match parse "fuel: !!int abc" with
    | .error (.raised .value _) => true
    | _ => false) = true := by
  decide +kernel

end Settings

end WatWorkbench
