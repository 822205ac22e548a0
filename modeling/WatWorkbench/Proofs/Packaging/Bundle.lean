import WatWorkbench.Packaging.Bundle
import WatWorkbench.Proofs.Archive.Inflation
import WatWorkbench.Proofs.Archive.RoundTrip
import WatWorkbench.Proofs.Pipeline.Action
import WatWorkbench.Proofs.Text.Points

/-!
# Reading a package

A package is refused for one reason only, a source that cannot be encoded.  Otherwise it is an
archive from which the binary, the source and both documents are read as they went in.

* `hasSurrogate_runnerPage`, `hasSurrogate_readme` — the documents can be encoded;
  `length_runnerPage_le`, `length_readme_le` — they are short.
* `contents_of_hasSurrogate`, `contents_of_not_hasSurrogate` — what a package holds.
* `writable_parts_of_length`, `writable_parts` — that it can be written.
* **`read_build`** — a package is read as it was assembled.
-/

namespace WatWorkbench.Packaging

open Archive

/-! ## The documents -/

lemma hasSurrogate_ofLines (lines : List String) :
    (Documents.ofLines lines).hasSurrogate = false := by
  refine Text.hasSurrogate_concat fun t ht => ?_
  obtain ⟨line, -, rfl⟩ := List.mem_map.mp ht
  exact Text.hasSurrogate_append (Text.hasSurrogate_ofString _) (Text.hasSurrogate_ofString _)

lemma hasSurrogate_runnerPage : Documents.runnerPage.hasSurrogate = false :=
  Text.hasSurrogate_replace (hasSurrogate_ofLines _) (Text.hasSurrogate_ofString _)

lemma length_ofLines_le (lines : List String) :
    (Documents.ofLines lines).length ≤ (lines.map fun l => l.utf8ByteSize + 1).sum := by
  induction lines with
  | nil => exact Nat.le_refl _
  | cons line lines ih =>
      have hline := Text.length_ofString_le line
      have hend : (Text.ofString "\n").length = 1 := rfl
      rw [Documents.ofLines, Text.length_concat] at ih ⊢
      simp only [List.map_cons, List.sum_cons, Text.length_append, hend] at ih ⊢
      omega

lemma length_runnerPage_le : Documents.runnerPage.encodeAny.length ≤ 2 ^ 20 := by
  have htemplate : Documents.pageTemplate.length ≤ 8192 :=
    Nat.le_trans (length_ofLines_le _) (by decide +kernel)
  have hname : Documents.binaryName.length = 11 := by decide
  have hpage : Documents.runnerPage.length ≤ Documents.pageTemplate.length * 11 :=
    hname ▸ Text.length_replace_le (by decide)
  have hencoded := Text.length_encodeAny_le Documents.runnerPage
  omega

lemma hasSurrogate_readme : Documents.readme.hasSurrogate = false := by
  refine Text.hasSurrogate_concat fun t ht => ?_
  obtain ⟨line, hline, rfl⟩ := List.mem_map.mp ht
  refine Text.hasSurrogate_append ?_ (Text.hasSurrogate_ofString _)
  revert line
  simp [Text.hasSurrogate_append, Text.hasSurrogate_ofString, Documents.binaryName,
    Documents.sourceName, Documents.runnerName]

lemma length_readme_le : Documents.readme.encodeAny.length ≤ 2 ^ 20 := by
  have hreadme : Documents.readme.length ≤ 1024 := by decide +kernel
  have hencoded := Text.length_encodeAny_le Documents.readme
  omega

/-! ## What a package holds -/

section Contents

variable {pack : Bytes → Bytes} {binary : Bytes} {source : Text}

lemma encoded_of_not_hasSurrogate {t : Text} (h : t.hasSurrogate = false) :
    encoded t = .ok t.encodeAny := by
  rw [encoded, Text.encode_of_not_hasSurrogate h]
  rfl

/-- A source that cannot be encoded is refused. -/
lemma contents_of_hasSurrogate (binary : Bytes) (h : source.hasSurrogate = true) :
    ∃ message, contents binary source = .error (refusal message) := by
  obtain ⟨fault, hfault⟩ := Text.encode_of_hasSurrogate h
  refine ⟨fault.message, ?_⟩
  rw [contents, encoded, hfault]
  rfl

/-- The names in a package, each with its octets. -/
def parts (binary : Bytes) (source : Text) : List (Text × Bytes) :=
  [(Documents.binaryName, binary), (Documents.sourceName, source.encodeAny),
    (Documents.runnerName, Documents.runnerPage.encodeAny),
    (Documents.readmeName, Documents.readme.encodeAny)]

lemma contents_of_not_hasSurrogate (h : source.hasSurrogate = false) :
    contents binary source = .ok (parts binary source) := by
  rw [contents, encoded_of_not_hasSurrogate h, encoded_of_not_hasSurrogate hasSurrogate_runnerPage,
    encoded_of_not_hasSurrogate hasSurrogate_readme]
  rfl

lemma name_of_mem_parts {c : Text × Bytes} (hc : c ∈ parts binary source) :
    Printable c.1 ∧ c.1.encodeAny.length < 256 ^ 2 := by
  have hnames : ∀ name ∈ names, Printable name ∧ name.encodeAny.length < 256 ^ 2 := by decide
  have hname : c.1 ∈ names := List.mem_map_of_mem (f := Prod.fst) hc
  exact hnames c.1 hname

/-- The documents are short. -/
lemma length_le_of_mem_parts {c : Text × Bytes} (hc : c ∈ parts binary source) :
    c.2.length ≤ max (2 ^ 20) (max binary.length source.encodeAny.length) := by
  simp only [parts, List.mem_cons, List.not_mem_nil, or_false] at hc
  rcases hc with rfl | rfl | rfl | rfl
  · exact le_max_of_le_right (le_max_left _ _)
  · exact le_max_of_le_right (le_max_right _ _)
  · exact le_max_of_le_left length_runnerPage_le
  · exact le_max_of_le_left length_readme_le

/-- What a package holds can be written, if there are no more octets than can be counted. -/
lemma writable_parts_of_length (hpack : Deflate.Faithful pack) (hbinary : binary.length < 256 ^ 8)
    (hsource : source.encodeAny.length < 256 ^ 8)
    (hlength : (write (parts binary source) pack).length ≤ maxSeek) :
    Writable pack (parts binary source) where
  nodup := (by decide : names.Nodup)
  storable c hc := by
    have hsize := length_le_of_mem_parts hc
    have hpacked : (pack c.2).length ≤ (write (parts binary source) pack).length :=
      length_pack_le hc
    rw [maxSeek] at hlength
    exact ⟨(name_of_mem_parts hc).1, (name_of_mem_parts hc).2, by omega, by omega⟩
  undone c _ := hpack.undone c.2
  length := hlength
  last := ⟨(Documents.readmeName, Documents.readme.encodeAny), rfl,
    (by decide : 6 ≤ Documents.readmeName.encodeAny.length),
    (by decide : Documents.readmeName.encodeAny.length ≤ 15),
    Nat.le_trans length_readme_le (by decide)⟩

/-- What a package holds can be written. -/
lemma writable_parts (hpack : Deflate.Faithful pack) (hbinary : binary.length < 2 ^ 30)
    (hsource : source.encodeAny.length < 2 ^ 30) : Writable pack (parts binary source) := by
  have hlength : (write (parts binary source) pack).length ≤ 4 * (2 ^ 31 + 2 ^ 18) + 98 :=
    length_write_le fun c hc => ⟨(name_of_mem_parts hc).2, by
      have hsize := length_le_of_mem_parts hc
      have hpacked := hpack.length_le c.2
      omega⟩
  refine writable_parts_of_length hpack (Nat.lt_trans hbinary (by decide))
    (Nat.lt_trans hsource (by decide)) ?_
  rw [maxSeek]
  omega

end Contents

/-! ## Packages -/

section Build

variable {M I H : Type} {pack : Bytes → Bytes} {binary : Bytes} {source : Text}
  (logger : Text) (w : World M I H)

lemma build_of_error {e : Failure} (h : contents binary source = .error e) :
    (build logger binary source pack w).1 = .error e := by
  rw [build, World.run_bind, World.run_settle, h]

lemma build_of_ok {cs : List (Text × Bytes)} (h : contents binary source = .ok cs) :
    (build logger binary source pack w).1 = .ok (write cs pack) := by
  rw [build, World.run_bind, World.run_settle, h]
  dsimp only
  rw [World.run_bind, World.log, World.run_write]
  rfl

/-- **A package is read as it was assembled**, whatever its binary and its source are; only a source
that cannot be encoded is refused. -/
theorem read_build (hpack : Deflate.Faithful pack) (hbinary : binary.length < 2 ^ 30)
    (hrange : source.InRange)
    (hsource : ∀ octets, source.encode = .ok octets → octets.length < 2 ^ 30) :
    ((∃ message, (build logger binary source pack w).1 = .error (refusal message)) ↔
      source.hasSurrogate = true) ∧
    (source.hasSurrogate = false → ∃ data octets page notes,
      (build logger binary source pack w).1 = .ok data ∧
      source.encode = .ok octets ∧ Text.decode octets = .ok source ∧
      Documents.runnerPage.encode = .ok page ∧ Documents.readme.encode = .ok notes ∧
      read data = .ok [(Documents.binaryName, binary), (Documents.sourceName, octets),
        (Documents.runnerName, page), (Documents.readmeName, notes)]) := by
  refine ⟨⟨?refused, fun h => ?surrogate⟩, fun h => ?assembled⟩
  case refused =>
    rintro ⟨message, hrefused⟩
    by_contra h
    rw [build_of_ok logger w (contents_of_not_hasSurrogate (by simpa using h))] at hrefused
    cases hrefused
  case surrogate =>
    obtain ⟨message, hcontents⟩ := contents_of_hasSurrogate binary h
    exact ⟨message, build_of_error logger w hcontents⟩
  case assembled =>
    have hoctets := Text.encode_of_not_hasSurrogate h
    exact ⟨write (parts binary source) pack, source.encodeAny, Documents.runnerPage.encodeAny,
      Documents.readme.encodeAny, build_of_ok logger w (contents_of_not_hasSurrogate h), hoctets,
      Text.decode_encodeAny hrange h,
      Text.encode_of_not_hasSurrogate hasSurrogate_runnerPage,
      Text.encode_of_not_hasSurrogate hasSurrogate_readme,
      read_write (writable_parts hpack hbinary (hsource _ hoctets))⟩

end Build

/-- A binary that looks like the end of an archive is read like any other. -/
theorem read_build_endMark : ∃ data page notes,
    (build loggerName endMark "(module)" Deflate.store
      ({ files := { working := "/" }, host := () } : World Unit Unit Unit)).1 = .ok data ∧
    read data = .ok [(Documents.binaryName, endMark),
      (Documents.sourceName, [0x28, 0x6D, 0x6F, 0x64, 0x75, 0x6C, 0x65, 0x29]),
      (Documents.runnerName, page), (Documents.readmeName, notes)] := by
  have hplain : Text.hasSurrogate "(module)" = false := by decide
  have hencode : Text.encode "(module)" = .ok (Text.encodeAny "(module)") :=
    Text.encode_of_not_hasSurrogate hplain
  have hsource : ∀ octets, Text.encode "(module)" = .ok octets → octets.length < 2 ^ 30 := by
    intro octets hoctets
    obtain rfl := Except.ok.inj (hencode.symm.trans hoctets)
    decide
  obtain ⟨data, octets, page, notes, hbuild, hoctets, -, -, -, hread⟩ :=
    (read_build loggerName { files := { working := "/" }, host := () } Deflate.faithful_store
      (by decide : endMark.length < 2 ^ 30) (by decide) hsource).2 hplain
  obtain rfl := Except.ok.inj (hencode.symm.trans hoctets)
  exact ⟨data, page, notes, hbuild, hread⟩

end WatWorkbench.Packaging
