import WatWorkbench.Engine.WebAssembly
import Mathlib.Tactic.Common

/-!
# What binaries begin with

Every binary begins with the same octets: those that are written, and those that are read as
modules.  A text may hold a binary in strings, and the engine takes another text for one, so octets
that a text is translated to can also begin otherwise.

* `Wasm.embedsText` — sources that hold a text in place of a binary.
* **`WebAssembly.magic_prefix_iff`** — any other source is translated to octets that begin like a
  binary.
-/

namespace WatWorkbench

namespace Wasm

namespace Binary

lemma magic_prefix_write (m : Module) : magic <+: write m := by
  simp only [write, List.append_assoc]
  exact List.prefix_append _ _

/-- Octets that are read as a module begin like a binary. -/
lemma magic_prefix_of_read {bs : Bytes} {m : Module} (h : read bs = some m) : magic <+: bs := by
  by_contra hnone
  have htake : bs.take 4 ≠ magic := fun heq => hnone (heq ▸ List.take_prefix 4 bs)
  have hrefused : Reader.module bs = none := by
    by_cases hlength : bs.length < 4
    · simp [Reader.module, Reader.take, hlength, bind, StateT.bind]
    · simp [Reader.module, Reader.take, Reader.guard, hlength, htake, bind, StateT.bind]
  rw [read, hrefused] at h
  cases h

end Binary

/-- Whether octets begin otherwise than with a zero, as a binary does. -/
def beginsAsText : Bytes → Bool
  | 0 :: _ => false
  | _ => true

/-- Whether a source holds in its strings a text in place of a binary. -/
def embedsText (source : Text) : Bool :=
  match (Tree.ofChars? source.toChars).bind embeddedBinary? with
  | some octets => beginsAsText octets
  | none => false

end Wasm

namespace WebAssembly

open Wasm

variable {source : Text} {octets : Bytes} {m : Module}

/-- What is loaded as it is begins like a binary, and what is taken for a text does not. -/
lemma magic_prefix_iff_of_load (hload : load octets = .ok m) :
    Binary.magic <+: octets ↔ beginsAsText octets = false := by
  unfold load at hload
  split at hload
  case h_2 => cases hload
  case h_1 hread =>
      obtain ⟨bs, hform, hread⟩ := Option.bind_eq_some_iff.mp hread
      have hmagic := Binary.magic_prefix_of_read hread
      cases octets with
      | nil =>
          cases hform
          simp [Binary.magic] at hmagic
      | cons b rest =>
          by_cases hb : b = 0
          · subst hb
            cases hform
            exact iff_of_true hmagic rfl
          · have hfirst : ¬ Binary.magic <+: b :: rest := fun h => by
              simp [Binary.magic, List.cons_prefix_cons, hb, eq_comm] at h
            have htext : beginsAsText (b :: rest) = true := by
              unfold beginsAsText
              split
              case h_1 heq => exact absurd (List.cons.inj heq).1 hb
              case h_2 => rfl
            exact iff_of_false hfirst (by simp [htext])

/-- **What a source is translated to** begins like a binary, unless the source holds a text in place
of one. -/
theorem magic_prefix_iff (hcompile : compile source = .ok octets) (hload : load octets = .ok m) :
    Binary.magic <+: octets ↔ embedsText source = false := by
  have htranslated : Wasm.translate source.toChars = some octets := by
    unfold compile at hcompile
    split at hcompile
    · cases hcompile
    · split at hcompile <;> cases hcompile
      assumption
  unfold Wasm.translate at htranslated
  unfold embedsText
  cases htrees : Tree.ofChars? source.toChars with
  | none => rw [htrees] at htranslated; cases htranslated
  | some trees =>
      rw [htrees] at htranslated
      simp only [Option.bind_eq_bind, Option.bind_some] at htranslated ⊢
      cases hembedded : embeddedBinary? trees with
      | none =>
          rw [hembedded] at htranslated
          obtain ⟨parsed, -, hwritten⟩ := Option.bind_eq_some_iff.mp htranslated
          obtain ⟨written, -, rfl⟩ := Option.map_eq_some_iff.mp hwritten
          exact iff_of_true (Binary.magic_prefix_write written) rfl
      | some embedded =>
          rw [hembedded] at htranslated
          cases htranslated
          exact magic_prefix_iff_of_load hload

end WebAssembly

end WatWorkbench
