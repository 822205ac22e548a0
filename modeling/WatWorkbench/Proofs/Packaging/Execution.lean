import WatWorkbench.Proofs.Engine.Headers
import WatWorkbench.Proofs.Packaging.Bundle
import WatWorkbench.Proofs.Pipeline.Compilation
import WatWorkbench.Proofs.Pipeline.Steadiness

/-!
# Running what was packaged

The binary of a package is read back as it went in, and the engine makes the same module of it, so
that running it amounts to running the artifact itself.  Loading a binary is stricter than compiling
a source, though: it wants octets that begin like a binary, where the engine also takes a text.  A
source that holds a text in place of a binary gives an artifact whose package cannot be loaded.

* `Packaging.Countable` — packages of a size that a machine can handle.
* `Packaging.reload` — the binary of a package, read back and loaded.
* `run_reload` — what that comes to.
* **`runs_alike_iff`** — packaged and direct execution agree, unless the source holds a text in
  place of a binary.
-/

namespace WatWorkbench.Packaging

open Wasm

variable {M I H : Type}

/-- Neither what goes into a package nor the package has more octets than can be counted. -/
structure Countable (pack : Bytes → Bytes) (binary : Bytes) (source : Text) : Prop where
  binarySize : binary.length ≤ maxCount
  sourceSize : source.encodeAny.length ≤ maxCount
  size : (Archive.write (parts binary source) pack).length ≤ maxCount

lemma writable_of_countable {pack : Bytes → Bytes} (hpack : Deflate.Faithful pack) {binary : Bytes}
    {source : Text} (h : Countable pack binary source) :
    Archive.Writable pack (parts binary source) :=
  writable_parts_of_length hpack (by have := h.binarySize; rw [maxCount] at this; omega)
    (by have := h.sourceSize; rw [maxCount] at this; omega) h.size

/-- Packs an artifact, reads the binary back from the package and loads it. -/
def reload (id : Nat) (e : Engine M I) (logger : Text) (pack : Bytes → Bytes) (a : Artifact M) :
    Act (World M I H) (Artifact M) := do
  let data ← build logger a.binary a.source pack
  let entries ← World.settle (Archive.read data)
  match Entries.find? entries Documents.binaryName with
  | some binary => Compiler.loadBinary id e binary ""
  | none => throw (.absent (.text Documents.binaryName))

/-- A source that is translated can be encoded. -/
lemma plain_of_compile {source : Text} {binary : Bytes}
    (h : WebAssembly.compile source = .ok binary) : source.hasSurrogate = false := by
  by_contra hsurrogate
  obtain ⟨fault, hfault⟩ := Text.encode_of_hasSurrogate (by simpa using hsurrogate)
  rw [WebAssembly.compile, hfault] at h
  cases h

section Reload

variable {id : Nat} {fuel : Option Int} {compileLogger : Text} {pack : Bytes → Bytes}
  {source : Text} {a : Artifact Module} {w : World Module Instance H}

/-- An artifact that was compiled consists of a source that can be encoded, its translation, and the
module that is loaded from that. -/
lemma compiled_parts
    (h : (Compiler.compileSource id (WebAssembly.engine fuel) compileLogger source w).1 = .ok a) :
    a.source = source ∧ source.hasSurrogate = false ∧
      WebAssembly.compile source = .ok a.binary ∧ WebAssembly.load a.binary = .ok a.module := by
  obtain ⟨v, hrun, -⟩ :=
    Compiler.run_compileSource id (WebAssembly.engine fuel) compileLogger source w
  rw [hrun] at h
  obtain ⟨hsource, hcompile, hload, -⟩ := Compiler.outcome_eq_ok h
  exact ⟨hsource, plain_of_compile hcompile, hcompile, hload⟩

lemma run_loadBinary {e : Engine M I} {m : M} {binary : Bytes} (text : Text) (v : World M I H)
    (h : e.load (v.histories id) binary = .ok m) :
    (Compiler.loadBinary id e binary text v).1 =
      if Compiler.magic.isPrefixOf binary then .ok ⟨m, binary, text⟩
      else .error (.stage .compile
        "input is not a WebAssembly binary (missing '\\0asm' header)") := by
  unfold Compiler.loadBinary
  cases hmagic : Compiler.magic.isPrefixOf binary with
  | false => rfl
  | true =>
      simp only [Bool.not_true, Bool.false_eq_true, if_false, World.run_bind, World.loadBinary,
        World.run_ask, World.run_settle, h]
      rfl

/-- **The binary of a package** is loaded as the module that it was compiled to, if it begins like
one. -/
theorem run_reload
    (hcompiled :
      (Compiler.compileSource id (WebAssembly.engine fuel) compileLogger source w).1 = .ok a)
    (hpack : Deflate.Faithful pack) (hcount : Countable pack a.binary source) (logger : Text)
    (v : World Module Instance H) :
    (reload id (WebAssembly.engine fuel) logger pack a v).1 =
      if Compiler.magic.isPrefixOf a.binary then .ok { a with source := "" }
      else .error (.stage .compile
        "input is not a WebAssembly binary (missing '\\0asm' header)") := by
  obtain ⟨rfl, hplain, -, hload⟩ := compiled_parts hcompiled
  have hwritable := writable_of_countable hpack hcount
  have hbuild : (build logger a.binary a.source pack v).1 =
      .ok (Archive.write (parts a.binary a.source) pack) :=
    build_of_ok logger v (contents_of_not_hasSurrogate hplain)
  have hfind : Entries.find? (parts a.binary a.source) Documents.binaryName = some a.binary := by
    simp [Entries.find?, parts]
  rw [reload, World.run_bind_of_ok hbuild, World.run_bind, World.run_settle,
    Archive.read_write hwritable]
  dsimp only
  rw [hfind]
  exact run_loadBinary "" _ hload

/-- **Packaged and direct execution agree** exactly if the source does not hold a text in place of a
binary: then the binary of the package is loaded, and running it and running the artifact end in the
same way, with the same calls of host functions and the same records. -/
theorem runs_alike_iff (logger runLogger : Text)
    {imports : ImportTable (Import (World Module Instance H))}
    (hcompiled :
      (Compiler.compileSource id (WebAssembly.engine fuel) compileLogger source w).1 = .ok a)
    (hpack : Deflate.Faithful pack) (hcount : Countable pack a.binary source)
    (hosts : ∀ act, imports.Offers act → World.Steady act) :
    (∃ b : Artifact Module,
        (∀ v : World Module Instance H,
          (reload id (WebAssembly.engine fuel) logger pack a v).1 = .ok b) ∧
        ∃ outcome cs rs,
          Sandbox.Behaves id (WebAssembly.engine fuel) runLogger a.module imports outcome cs rs ∧
          Sandbox.Behaves id (WebAssembly.engine fuel) runLogger b.module imports outcome cs rs) ↔
      embedsText source = false := by
  have hreload := run_reload hcompiled hpack hcount logger
  obtain ⟨-, -, hcompile, hload⟩ := compiled_parts hcompiled
  rw [← WebAssembly.magic_prefix_iff hcompile hload]
  constructor
  · rintro ⟨b, hb, -⟩
    have hloaded := (hreload w).symm.trans (hb w)
    split at hloaded
    case isTrue hmagic => exact List.isPrefixOf_iff_prefix.mp hmagic
    case isFalse => cases hloaded
  · intro hmagic
    obtain ⟨outcome, cs, rs, hruns⟩ := Sandbox.exists_behaves id fuel runLogger hosts a.module
    refine ⟨{ a with source := "" }, fun v => ?_, outcome, cs, rs, hruns, hruns⟩
    exact (hreload v).trans (if_pos (List.isPrefixOf_iff_prefix.mpr hmagic))

end Reload

/-! ## Two sources -/

/-- A world in which nothing has happened. -/
def freshWorld : World Module Instance Unit where
  files := { working := "/" }
  host := ()

/-- What a source is compiled to there. -/
def compiledFresh (source : Text) : Except Failure (Artifact Module) :=
  (Compiler.compileSource 0 (WebAssembly.engine none) Compiler.loggerName source freshWorld).1

/-- Few octets can be counted. -/
lemma countable_of_lt {binary : Bytes} {source : Text} (hbinary : binary.length < 2 ^ 30)
    (hsource : source.encodeAny.length < 2 ^ 30) : Countable Deflate.store binary source where
  binarySize := by rw [maxCount]; omega
  sourceSize := by rw [maxCount]; omega
  size := (writable_parts Deflate.faithful_store hbinary hsource).length

lemma exists_compiledFresh {source : Text} {n : Nat}
    (h : (compiledFresh source).toOption.map (fun a => a.binary.length) = some n) :
    ∃ a, compiledFresh source = .ok a ∧ a.binary.length = n := by
  cases hcompiled : compiledFresh source with
  | error f => rw [hcompiled] at h; cases h
  | ok a =>
      rw [hcompiled] at h
      exact ⟨a, rfl, Option.some.inj h⟩

/-- A source that holds a binary in strings. -/
def binarySource : Text := "(module binary \"\\00asm\\01\\00\\00\\00\")"

/-- A host function that always gives the same. -/
def constant : ImportTable (Import (World Module Instance Unit)) :=
  [("env", [("f", .function fun _ => pure (.int 1))])]

/-- The package of such a source is loaded, and it runs like what was packaged. -/
theorem runs_alike_binarySource : ∃ a, compiledFresh binarySource = .ok a ∧
    ∃ b : Artifact Module,
      (∀ v : World Module Instance Unit,
        (reload 0 (WebAssembly.engine none) loggerName Deflate.store a v).1 = .ok b) ∧
      ∃ outcome cs rs,
        Sandbox.Behaves 0 (WebAssembly.engine none) Sandbox.loggerName a.module constant
          outcome cs rs ∧
        Sandbox.Behaves 0 (WebAssembly.engine none) Sandbox.loggerName b.module constant
          outcome cs rs := by
  have hsome : (compiledFresh binarySource).toOption.map (fun a => a.binary.length) = some 8 := by
    decide +kernel
  obtain ⟨a, hcompiled, hlength⟩ := exists_compiledFresh hsome
  have hcount : Countable Deflate.store a.binary binarySource :=
    countable_of_lt (by omega) (by decide +kernel)
  have hosts : ∀ act, constant.Offers act → World.Steady act := fun act hact => by
    obtain ⟨-, rfl⟩ := ImportTable.offers_singleton.mp hact
    exact .pure _
  exact ⟨a, hcompiled, (runs_alike_iff loggerName Sandbox.loggerName hcompiled
    Deflate.faithful_store hcount hosts).mpr (by decide +kernel)⟩

/-- A source that holds a text in place of a binary. -/
def textSource : Text := "(module binary \"(module)\")"

/-- So there is a source that is compiled although its package cannot be loaded. -/
theorem reload_textSource : ∃ a, compiledFresh textSource = .ok a ∧
    ∀ v : World Module Instance Unit,
      (reload 0 (WebAssembly.engine none) loggerName Deflate.store a v).1 = .error (.stage .compile
        "input is not a WebAssembly binary (missing '\\0asm' header)") := by
  have hsome : (compiledFresh textSource).toOption.map (fun a => a.binary.length) = some 8 := by
    decide +kernel
  obtain ⟨a, hcompiled, hlength⟩ := exists_compiledFresh hsome
  have hcount : Countable Deflate.store a.binary textSource :=
    countable_of_lt (by omega) (by decide +kernel)
  obtain ⟨-, -, hcompile, hload⟩ := compiled_parts hcompiled
  have htext : embedsText textSource = true := by decide +kernel
  refine ⟨a, hcompiled, fun v => ?_⟩
  rw [run_reload hcompiled Deflate.faithful_store hcount loggerName v, if_neg]
  intro hmagic
  have hbinary := (WebAssembly.magic_prefix_iff hcompile hload).mp
    (List.isPrefixOf_iff_prefix.mp hmagic)
  rw [htext] at hbinary
  cases hbinary

end WatWorkbench.Packaging
