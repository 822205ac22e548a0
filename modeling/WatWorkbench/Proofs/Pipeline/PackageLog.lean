import WatWorkbench.Proofs.Packaging.Escapes
import WatWorkbench.Proofs.Pipeline.Reachability
import WatWorkbench.Proofs.Pipeline.Standard

/-!
# Packaging, at the boundary of the pipeline

A call of packaging gives the package of the artifact, or fails because there is none or because the
package cannot be assembled or written.  Which of these it is, one entry in the log says.  There is
one exception: a failure that is none of packaging is neither turned into one nor logged, and it
occurs with a path that the system cannot be asked about.

* `Pipeline.Accounted` — how a call ends, with the entry for it.
* `Pipeline.Astray` — a call that writes to a path which the system cannot be asked about.
* **`Pipeline.Reached.package_accounted_iff`** — every other call is accounted for, and nothing that
  the pipeline holds is changed by any.
-/

namespace WatWorkbench

open Packaging (Escapes Unaskable)

variable {M I H : Type}

lemma Packaging.escapes_map {α β : Type} {r : Except Failure α} {f : α → β} :
    Escapes (r.map f) ↔ Escapes r := by
  cases r with
  | error e => simp only [Escapes, Except.map, Except.error.injEq]
  | ok x => simp [Escapes, Except.map]

lemma Packaging.ofArtifact_fst (logger : Text) (a : Artifact M) (w : World M I H) :
    (ofArtifact logger a w).1 =
      (contents a.binary a.source).map fun entries => Archive.write entries Deflate.store := by
  simp only [ofArtifact, build, World.run_bind, World.run_settle, World.log]
  rcases contents a.binary a.source with e | entries
  · rfl
  · simp only [World.run_write]
    rfl

namespace Pipeline

variable {p : Pipeline M I} {w : World M I H} {a : Artifact M} {path : Option Path}

/-! ## What packaging comes to -/

/-- Other failures come from publishing only. -/
lemma escapes_packageOutcome_iff {files : FileSystem}
    (hworking : (⟨.working files.working, []⟩ : Path).check = .ok ()) :
    Escapes (packageOutcome a path files).1 ↔
      a.source.hasSurrogate = false ∧ ∃ q, path = some q ∧ Unaskable q files := by
  rw [packageOutcome]
  rcases hsource : a.source.hasSurrogate with _ | _
  · -- the package is assembled
    rw [Packaging.contents_of_not_hasSurrogate hsource]
    cases path with
    | none => simp [Escapes]
    | some q =>
        simp only [Packaging.escapes_map, Packaging.publish_escapes_iff hworking]
        refine ⟨fun h => ⟨trivial, q, rfl, h⟩, ?_⟩
        rintro ⟨-, q', hq, h⟩
        obtain rfl := Option.some.inj hq
        exact h
  · obtain ⟨message, hrefused⟩ := Packaging.contents_of_hasSurrogate a.binary hsource
    rw [hrefused]
    simp [Escapes, Packaging.refusal]

/-- What packaging gives is the package, whether it is written or not. -/
lemma ofArtifact_of_packageOutcome {files : FileSystem} {data : Bytes} (logger : Text)
    (h : (packageOutcome a path files).1 = .ok data) :
    (Packaging.ofArtifact logger a w).1 = .ok data := by
  rw [packageOutcome] at h
  rw [Packaging.ofArtifact_fst]
  rcases hcontents : Packaging.contents a.binary a.source with e | entries
  · rw [hcontents] at h
    cases h
  · rw [hcontents] at h
    cases path with
    | none => exact h
    | some q =>
        dsimp only at h
        rcases hpublished : (Packaging.publish (Archive.write entries Deflate.store) q files).1 with
          e | ⟨⟩
        · rw [hpublished] at h
          cases h
        · rw [hpublished] at h
          exact h

/-! ## The boundary -/

/-- How a call of packaging ends when all is as it should be, with what it adds to the log. -/
inductive Accounted (p : Pipeline M I) (w : World M I H) :
    Except Failure Bytes → List LogEntry → Prop
  | package {a data} (hartifact : (w.sessions p.id).artifact = some a)
      (hdata : (Packaging.ofArtifact p.channel a w).1 = .ok data) :
      Accounted p w (.ok data) [⟨.success, packaged⟩]
  | absent (hnone : (w.sessions p.id).artifact = none) :
      Accounted p w (.error (.stage .state nothingToPackage)) [⟨.error, nothingToPackage⟩]
  | failed {a m} (hartifact : (w.sessions p.id).artifact = some a) :
      Accounted p w (.error (.stage .packaging m))
        [⟨.error, "Failed to create download package: " ++ m⟩]

/-- There is a package to be written, and the system cannot be asked about the path. -/
def Astray (p : Pipeline M I) (path : Option Path) (w : World M I H) : Prop :=
  ∃ a q, (w.sessions p.id).artifact = some a ∧ a.source.hasSurrogate = false ∧ path = some q ∧
    Unaskable q w.files

lemma astray_iff (hartifact : (w.sessions p.id).artifact = some a) :
    p.Astray path w ↔
      a.source.hasSurrogate = false ∧ ∃ q, path = some q ∧ Unaskable q w.files := by
  constructor
  · rintro ⟨b, q, hb, hsource, hq⟩
    obtain rfl := Option.some.inj (hartifact.symm.trans hb)
    exact ⟨hsource, q, hq⟩
  · rintro ⟨hsource, q, hq⟩
    exact ⟨a, q, hartifact, hsource, hq⟩

lemma Accounted.not_escapes {r : Except Failure Bytes} {lines : List LogEntry}
    (h : p.Accounted w r lines) (hartifact : (w.sessions p.id).artifact = some a) :
    ¬ Escapes r := by
  rintro ⟨e, rfl, hother⟩
  cases h with
  | absent hnone => simp [hnone] at hartifact
  | failed _ => exact hother _ rfl

/-- With an artifact, an outcome is accounted for unless it is another failure. -/
lemma accounted_packageOutcome_iff (hartifact : (w.sessions p.id).artifact = some a) :
    p.Accounted w (packageOutcome a path w.files).1
        (packageLines (packageOutcome a path w.files).1) ↔
      ¬ Escapes (packageOutcome a path w.files).1 := by
  refine ⟨fun h => h.not_escapes hartifact, fun h => ?_⟩
  rcases houtcome : (packageOutcome a path w.files).1 with e | data
  · by_cases hpackaging : ∃ m, e = .stage .packaging m
    · obtain ⟨m, rfl⟩ := hpackaging
      exact .failed hartifact
    · exact absurd ⟨e, houtcome, fun m hm => hpackaging ⟨m, hm⟩⟩ h
  · exact .package hartifact (ofArtifact_of_packageOutcome p.channel houtcome)

lemma packageLines_of_escapes {r : Except Failure Bytes} (h : Escapes r) : packageLines r = [] := by
  obtain ⟨e, rfl, hother⟩ := h
  exact packageLines_of_ne hother

/-- **Packaging, at the boundary.**  What the pipeline holds and the log so far stay as they are.  The
call is accounted for by what it adds to the log, except if it goes astray; then it fails with
something else and adds nothing.  The working directory is one that the system can be asked about,
since it is the system that has named it. -/
theorem Reached.package_accounted_iff (h : p.Reached w) (hfree : p.channel ∉ w.logs.captured)
    (htakes : w.logs.tree.Takes p.channel)
    (hworking : (⟨.working w.files.working, []⟩ : Path).check = .ok ()) (path : Option Path) :
    (p.package path w).2.sessions p.id = w.sessions p.id ∧ ∃ lines,
      ((p.package path w).2.logs.books p.id).entries = (w.logs.books p.id).entries ++ lines ∧
      (p.Accounted w (p.package path w).1 lines ↔ ¬ p.Astray path w) ∧
      (p.Astray path w → Escapes (p.package path w).1 ∧ lines = []) := by
  have hshows := h.shows hfree htakes
  rcases hartifact : (w.sessions p.id).artifact with _ | a
  · have hnot : ¬ p.Astray path w := by
      rintro ⟨a, q, ha, -⟩
      simp [hartifact] at ha
    obtain ⟨hrun, hleaves⟩ := hshows.leaves_package_of_none hartifact path
    rw [hrun]
    exact ⟨hleaves.session, _, hleaves.shows.log, iff_of_true (.absent hartifact) hnot,
      fun h => absurd h hnot⟩
  · obtain ⟨hrun, -, hsessions, -, hlog⟩ := hshows.package hartifact path
    rw [hrun]
    have hiff : p.Astray path w ↔ Escapes (packageOutcome a path w.files).1 :=
      (astray_iff hartifact).trans (escapes_packageOutcome_iff hworking).symm
    refine ⟨congrFun hsessions _, _, hlog.log, ?_, fun hastray => ?_⟩
    · rw [accounted_packageOutcome_iff hartifact, hiff]
    · exact ⟨hiff.mp hastray, packageLines_of_escapes (hiff.mp hastray)⟩

/-! ## A name with a zero in it -/

/-- A path to a file whose name has a zero in it. -/
def zeroed : Path := Path.ofText "a\x00b.zip"

lemma exists_reached_compiled : ∃ w : World Unit Unit Unit, picky.Reached w ∧
    picky.channel ∉ w.logs.captured ∧ w.logs.tree.Takes picky.channel ∧
      w.files = { working := "/" } ∧
      (w.sessions picky.id).artifact = some ⟨(), [], "(module)"⟩ := by
  obtain ⟨w, hreached, hfree, htakes, hfiles⟩ := exists_reached_picky
  have hready := ((hreached.shows hfree htakes).compile "(module)").ready
  have hcompiled : (picky.compile "(module)" w).1 = .ok ⟨(), [], "(module)"⟩ := by
    rw [compile_fst, if_neg hfree]
    rfl
  refine ⟨_, hreached.compile "(module)", hready.free, hready.takes, ?_, ?_⟩
  · rw [compile_files, hfiles]
  · rw [compile_session, hcompiled]
    rfl

/-- A package that is not written is accounted for, and one that is written to that path goes
astray. -/
theorem package_accounted_compiled : ∃ w : World Unit Unit Unit, picky.Reached w ∧
    picky.Accounted w (picky.package none w).1 [⟨.success, packaged⟩] ∧
      ((picky.package none w).2.logs.books 1).entries =
        (w.logs.books 1).entries ++ [⟨.success, packaged⟩] ∧
      Escapes (picky.package (some zeroed) w).1 ∧
      ((picky.package (some zeroed) w).2.logs.books 1).entries = (w.logs.books 1).entries := by
  obtain ⟨w, hreached, hfree, htakes, hfiles, hartifact⟩ := exists_reached_compiled
  have hworking : (⟨.working w.files.working, []⟩ : Path).check = .ok () := by
    rw [hfiles]
    rfl
  refine ⟨w, hreached, ?_⟩
  have hkept : ¬ picky.Astray none w := by
    rintro ⟨a, q, -, -, hq, -⟩
    cases hq
  have hastray : picky.Astray (some zeroed) w := by
    refine ⟨_, zeroed, hartifact, rfl, rfl, ⟨_, rfl⟩, fun fault hfault => ?_⟩
    rw [hfiles] at hfault
    cases hfault
  obtain ⟨-, lines, hlog, hiff, -⟩ :=
    hreached.package_accounted_iff hfree htakes hworking none
  obtain ⟨-, lines', hlog', -, hescapes⟩ :=
    hreached.package_accounted_iff hfree htakes hworking (some zeroed)
  obtain ⟨hother, rfl⟩ := hescapes hastray
  have hassembled : ∃ data, (picky.package none w).1 = .ok data := by
    refine ⟨Archive.write (Packaging.parts [] "(module)") Deflate.store, ?_⟩
    rw [((hreached.shows hfree htakes).package hartifact none).1, packageOutcome,
      Packaging.contents_of_not_hasSurrogate rfl]
  obtain ⟨data, hdata⟩ := hassembled
  have haccounted := hiff.mpr hkept
  rw [hdata] at haccounted ⊢
  cases haccounted with
  | package ha hgiven => exact ⟨.package ha hgiven, hlog, hother, hlog'.trans (List.append_nil _)⟩

/-- What goes astray is not accounted for. -/
theorem package_zeroed_not_accounted : ∃ w : World Unit Unit Unit, picky.Reached w ∧
    picky.channel ∉ w.logs.captured ∧ w.logs.tree.Takes picky.channel ∧
      (picky.package (some zeroed) w).1 = .error (.raised .value "embedded null byte") ∧
      ∀ lines, ¬ picky.Accounted w (picky.package (some zeroed) w).1 lines := by
  obtain ⟨w, hreached, hfree, htakes, hfiles, hartifact⟩ := exists_reached_compiled
  have hrun : (picky.package (some zeroed) w).1 =
      .error (.raised .value "embedded null byte") := by
    rw [((hreached.shows hfree htakes).package hartifact (some zeroed)).1, packageOutcome,
      Packaging.contents_of_not_hasSurrogate rfl, hfiles]
    rfl
  refine ⟨w, hreached, hfree, htakes, hrun, fun lines h => ?_⟩
  rw [hrun] at h
  cases h

end Pipeline

end WatWorkbench
