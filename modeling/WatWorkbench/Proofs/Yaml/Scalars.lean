import Mathlib
import WatWorkbench.Yaml.Scalar

/-!
# Failures of reading scalars

A scalar whose text does not spell a value of its type fails in one of the ways in which conversions
fail, and in no other.

* `Failure.IsConversion` — the ways.
* **`Scalar.bool_spec`**, **`Scalar.int_spec`**, **`Scalar.float_spec`**,
  **`Scalar.timestamp_spec`** — by type.
-/

open Std.Do

namespace WatWorkbench

set_option mvcgen.warning false

/-- The failures of conversions. -/
def Failure.IsConversion : Failure → Prop
  | .absent _ => True
  | .raised k _ => k ∈ [Fault.value, .index, .overflow, .attribute, .type]
  | _ => False

namespace Yaml

/-- What a conversion may end with. -/
abbrev converting {α : Type} : PostCond α (.except Failure .pure) :=
  post⟨fun _ => ⌜True⌝, fun f => ⌜f.IsConversion⌝⟩

@[spec] lemma ok_spec {α : Type} (a : α) (Q : PostCond α (.except Failure .pure)) :
    ⦃Q.1 a⦄ (.ok a : Except Failure α) ⦃Q⦄ :=
  fun h => h

@[spec] lemma error_spec {α : Type} (f : Failure) (Q : PostCond α (.except Failure .pure)) :
    ⦃Q.2.1 f⦄ (.error f : Except Failure α) ⦃Q⦄ :=
  fun h => h

lemma isConversion_of_error {α : Type} {x : Except Failure α} {f : Failure}
    (h : ⦃⌜True⌝⦄ x ⦃converting⦄) (hx : x = .error f) : f.IsConversion := by
  subst hx
  exact h trivial

namespace Scalar

variable {α β : Type}

lemma converting_mapM (xs : List β) {f : β → Except Failure α}
    (h : ∀ x, ⦃⌜True⌝⦄ f x ⦃converting⦄) : ⦃⌜True⌝⦄ xs.mapM f ⦃converting⦄ := by
  induction xs with
  | nil =>
      rw [List.mapM_nil]
      mvcgen
  | cons x xs ih =>
      rw [List.mapM_cons]
      mvcgen [h, ih]

/-! ## Words, integers and numbers -/

lemma bool_spec (t : Text) : ⦃⌜True⌝⦄ bool t ⦃converting⦄ := by
  mvcgen [bool]

lemma signed_spec (t : Text) : ⦃⌜True⌝⦄ signed t ⦃converting⦄ := by
  mvcgen [signed, tooShort]
  simp [Failure.IsConversion]

lemma integer_spec (base : Nat) (t : Text) : ⦃⌜True⌝⦄ integer base t ⦃converting⦄ := by
  mvcgen [integer] <;> simp [Failure.IsConversion, Fault.tooManyDigits]

lemma unsignedInteger_spec (t : Text) : ⦃⌜True⌝⦄ unsignedInteger t ⦃converting⦄ := by
  have hintegers := fun ts => converting_mapM ts (integer_spec 10)
  mvcgen [unsignedInteger, tooShort, integer_spec, hintegers]
  simp [Failure.IsConversion]

lemma int_spec (t : Text) : ⦃⌜True⌝⦄ int t ⦃converting⦄ := by
  mvcgen [int, signed_spec, unsignedInteger_spec]

lemma double_spec (t : Text) : ⦃⌜True⌝⦄ double t ⦃converting⦄ := by
  mvcgen [double]
  simp [Failure.IsConversion]

lemma addPlaces_spec (weight : Nat) (total : Double) (places : List Double) :
    ⦃⌜True⌝⦄ addPlaces weight total places ⦃converting⦄ := by
  induction places generalizing weight total with
  | nil => mvcgen [addPlaces]
  | cons place places ih =>
      mvcgen [addPlaces, scaled, ih]
      simp [Failure.IsConversion]

lemma unsignedDouble_spec (t : Text) : ⦃⌜True⌝⦄ unsignedDouble t ⦃converting⦄ := by
  have hdoubles := fun ts => converting_mapM ts double_spec
  mvcgen [unsignedDouble, hdoubles, addPlaces_spec, double_spec]

lemma float_spec (t : Text) : ⦃⌜True⌝⦄ float t ⦃converting⦄ := by
  mvcgen [float, signed_spec, unsignedDouble_spec]

/-! ## Days and points in time -/

lemma refuse_spec (message : Text) :
    ⦃⌜True⌝⦄ (Timestamp.refuse message : Except Failure α) ⦃converting⦄ := by
  mvcgen [Timestamp.refuse]
  simp [Failure.IsConversion]

lemma date_spec (t : Timestamp) : ⦃⌜True⌝⦄ t.date ⦃converting⦄ := by
  mvcgen [Timestamp.date, refuse_spec]

lemma zone_spec (zone : Option Zone) : ⦃⌜True⌝⦄ zone.mapM Timestamp.offset ⦃converting⦄ := by
  cases zone with
  | none => mvcgen [Option.mapM]
  | some z => mvcgen [Option.mapM, Timestamp.offset, refuse_spec]

lemma value_spec (t : Timestamp) : ⦃⌜True⌝⦄ t.value ⦃converting⦄ := by
  mvcgen [Timestamp.value, date_spec, zone_spec, refuse_spec]

lemma timestamp_spec (t : Text) : ⦃⌜True⌝⦄ timestamp t ⦃converting⦄ := by
  mvcgen [timestamp, value_spec]
  simp [Failure.IsConversion]

end Scalar

end Yaml

end WatWorkbench
