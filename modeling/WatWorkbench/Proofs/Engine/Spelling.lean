import WatWorkbench.Engine.WebAssembly
import WatWorkbench.Proofs.Engine.Scripts
import WatWorkbench.Proofs.Pipeline.Scribes
import WatWorkbench.Proofs.Wasm.References

/-!
# Results that can be written out

A text of a result is refused if it holds a very long integer.  A module's own numbers are short, and
the things of the host that it holds have all come from the host.  So if host functions give values
that can be written out, a module gives such values too.

* `Wasm.Val.toValue_spellable`, `Wasm.Val.ofResult_held` — the passage to and from the host.
* `Wasm.Step.run_conveys`, `WebAssembly.instantiate_conveys`, `WebAssembly.call_conveys` — execution.
* **`Sandbox.spellable_of_runModule`** — the results of a run with the default host functions.
-/

namespace WatWorkbench

/-! ## Values of the host -/

namespace Value

/-- The value can be written out. -/
abbrev Spellable (v : Value) : Prop := v.isSpellable

lemma allSpellable_iff {vs : List Value} : allSpellable vs ↔ ∀ v ∈ vs, v.Spellable := by
  induction vs with
  | nil => simp [allSpellable]
  | cons v vs ih => simp [allSpellable, ih]

lemma spellable_of_mem_entries {es : List (Value × Value)} (h : entriesSpellable es)
    {e : Value × Value} (he : e ∈ es) : e.1.Spellable := by
  induction es with
  | nil => exact absurd he List.not_mem_nil
  | cons d es ih =>
      simp only [entriesSpellable, Bool.and_eq_true] at h
      rcases List.mem_cons.mp he with rfl | he
      · exact h.1.1
      · exact ih h.2 he

end Value

namespace Wasm

open Value (Spellable)

variable {v : Val} {x : Value}

/-- So can its elements. -/
lemma Val.elements?_spellable (h : x.Spellable) {xs : List Value}
    (hxs : Val.elements? x = some xs) : ∀ y ∈ xs, y.Spellable := by
  intro y hy
  cases x <;> simp only [Val.elements?, Option.some.injEq, reduceCtorEq] at hxs <;> subst hxs
  case list | tuple | set => exact Value.allSpellable_iff.mp h y hy
  case dict es =>
    obtain ⟨e, he, rfl⟩ := List.mem_map.mp hy
    exact Value.spellable_of_mem_entries h he
  case text | kind =>
    obtain ⟨c, -, rfl⟩ := List.mem_map.mp hy
    simp [Spellable, Value.isSpellable]
  case bytes =>
    obtain ⟨b, -, rfl⟩ := List.mem_map.mp hy
    refine Value.isSpellable_int ?_
    have := b.toNat_lt
    omega

/-! ## The passage -/

/-- The host sees of a number one that is no longer than its bits. -/
lemma Width.natAbs_signed_lt (w : Width) {n : Nat} (h : n < 2 ^ w.size) :
    (w.signed n).natAbs < 2 ^ 64 := by
  cases w <;> simp only [Width.signed, Width.modulus, Width.size, Nat.pow_eq] at h ⊢ <;>
    split_ifs <;> omega

/-- What the host sees of a value can be written out, if the things of the host can. -/
lemma Val.toValue_spellable (h : v.Held Spellable) : v.toValue.Spellable := by
  cases v with
  | number n =>
      cases n with
      | i32 n => exact Value.isSpellable_int (Width.w32.natAbs_signed_lt n.toNat_lt)
      | i64 n => exact Value.isSpellable_int (Width.w64.natAbs_signed_lt n.toNat_lt)
      | f32 n => simp [Val.toValue, Spellable, Value.isSpellable]
      | f64 n => simp [Val.toValue, Spellable, Value.isSpellable]
  | funcRef i => cases i <;> simp [Val.toValue, Spellable, Value.isSpellable]
  | externRef u =>
      cases u with
      | none => simp [Val.toValue, Spellable, Value.isSpellable]
      | some u => exact h

lemma Val.toResult_spellable {vs : List Val} (h : AllHeld Spellable vs) :
    (Val.toResult vs).Spellable := by
  match vs with
  | [] => simp [Val.toResult, Spellable, Value.isSpellable]
  | [v] => exact Val.toValue_spellable (h v List.mem_cons_self)
  | u :: v :: vs =>
      simp only [Val.toResult, Spellable, Value.isSpellable]
      refine Value.allSpellable_iff.mpr fun y hy => ?_
      obtain ⟨a, ha, rfl⟩ := List.mem_map.mp hy
      exact Val.toValue_spellable (h a ha)

/-- Only a thing of the host is made of what is passed on as it is. -/
lemma Val.ofValue_held {t : ValType} (h : x.Spellable) (hv : Val.ofValue t x = .ok v) :
    v.Held Spellable := by
  unfold Val.ofValue at hv
  cases t <;> cases x <;> simp only [Val.integer?, reduceCtorEq, Except.ok.injEq] at hv <;>
    subst hv <;> first | exact h | trivial

lemma Val.ofResult_held {ts : List ValType} (h : x.Spellable) {vs : List Val}
    (hvs : Val.ofResult ts x = .ok vs) : AllHeld Spellable vs := by
  have hone {t : ValType} {y : Value} (hy : y.Spellable) {us : List Val}
      (hus : (do return [← Val.ofValue t y]) = .ok us) : AllHeld Spellable us := by
    cases hv : Val.ofValue t y with
    | error e => rw [hv] at hus; cases hus
    | ok v =>
        rw [hv] at hus
        cases hus
        exact allHeld_cons.mpr ⟨Val.ofValue_held hy hv, allHeld_nil⟩
  have hzip (cs : List (ValType × Value)) (hcs : ∀ c ∈ cs, c.2.Spellable) {us : List Val}
      (hus : (cs.mapM fun c => Val.ofValue c.1 c.2) = .ok us) : AllHeld Spellable us := by
    induction cs generalizing us with
    | nil => cases hus; exact allHeld_nil
    | cons c cs ih =>
        rw [List.mapM_cons] at hus
        cases hv : Val.ofValue c.1 c.2 with
        | error e => simp only [hv] at hus; cases hus
        | ok v =>
            cases hrest : cs.mapM fun c => Val.ofValue c.1 c.2 with
            | error e => simp only [hv, hrest] at hus; cases hus
            | ok rest =>
                simp only [hv, hrest] at hus
                cases hus
                exact allHeld_cons.mpr ⟨Val.ofValue_held (hcs c List.mem_cons_self) hv,
                  ih (fun d hd => hcs d (List.mem_cons_of_mem _ hd)) hrest⟩
  rcases ts with _ | ⟨t, _ | ⟨u, ts⟩⟩
  · cases hvs
    exact allHeld_nil
  · exact hone h hvs
  · simp only [Val.ofResult] at hvs
    split at hvs
    · cases hvs
    · next xs hxs =>
        split_ifs at hvs
        exact hzip _ (fun c hc => Val.elements?_spellable h hxs c.2 (List.of_mem_zip hc).2) hvs

/-! ## Execution -/

/-- A run hands out values that can be written out as long as it is given such, and leaves the
instance with such. -/
lemma Step.run_conveys {s : Step} (h : s.Held Spellable) (n : Nat) :
    (s.run n).Conveys Spellable fun r =>
      (∀ vs, r.1 = .ok vs → AllHeld Spellable vs) ∧ r.2.Held Spellable := by
  induction n generalizing s with
  | zero =>
      cases s with
      | next m => exact ⟨fun _ hr => (by cases hr), h.inst⟩
      | trapped t i => exact ⟨fun _ hr => (by cases hr), h⟩
      | calling l args m => exact ⟨fun _ hr => (by cases hr), h.2.inst⟩
      | finished vs i => exact ⟨fun _ hr => (by cases hr; exact h.1), h.2⟩
      | stuck i => exact ⟨fun _ hr => (by cases hr), h⟩
  | succ n ih =>
      cases s with
      | next m => exact ih (Machine.step_held h)
      | trapped t i => exact ⟨fun _ hr => (by cases hr), h⟩
      | calling l args m =>
          refine ⟨fun y hy => ?_, fun answer hanswer => ?_⟩
          · obtain ⟨a, ha, rfl⟩ := List.mem_map.mp hy
            exact Val.toValue_spellable (h.1 a ha)
          · dsimp only
            split
            · next vs hvs =>
                obtain ⟨y, hy, hvs⟩ : ∃ y, answer = .ok y ∧ Val.ofResult l.type.results y = .ok vs := by
                  cases answer with
                  | error e => cases hvs
                  | ok y => exact ⟨y, rfl, hvs⟩
                exact ih (s := .next (m.resume vs))
                  (Machine.resume_held h.2 (Val.ofResult_held (hanswer y hy) hvs))
            · exact ⟨fun _ hr => (by cases hr), h.2.inst⟩
      | finished vs i => exact ⟨fun _ hr => (by cases hr; exact h.1), h.2⟩
      | stuck i => exact ⟨fun _ hr => (by cases hr), h⟩

lemma Instance.invoke_conveys {i : Instance} (h : i.Held Spellable) (index : Nat) :
    (i.invoke index []).Conveys Spellable fun r =>
      (∀ vs, r.1 = .ok vs → AllHeld Spellable vs) ∧ r.2.Held Spellable :=
  Step.run_conveys
    (Machine.enter_held ⟨h, Frame.held_outermost _, fun _ hf => (List.not_mem_nil hf).elim⟩ index
      allHeld_nil) _

lemma Instance.ofModule_conveys (m : Module) (fuel : Option Nat) :
    (ofModule m fuel).Conveys Spellable fun r => ∀ i, r = .ok i → i.Held Spellable := by
  unfold ofModule
  split
  · exact fun _ hr => by cases hr
  · next i hi =>
      have hheld : i.Held Spellable := prepared_held hi
      split
      · exact fun _ hr => by cases hr; exact hheld
      · refine (invoke_conveys hheld _).bind fun r hr j hj => ?_
        obtain ⟨outcome | vs, k⟩ := r
        · cases hj
        · cases hj
          exact hr.2

end Wasm

open Wasm Value

namespace WebAssembly

/-- The guard only changes how a host function has failed. -/
lemma guarded_conveys {α : Type} {P : Value → Prop} {Q : α → Prop} {s : Script α}
    (h : s.Conveys P Q) : (guarded s).Conveys P Q := by
  induction s with
  | done a => exact h
  | call q resume ih =>
      refine ⟨h.1, fun x hx => ih _ (h.2 _ fun v hv => ?_)⟩
      cases x with
      | error e => cases hv
      | ok y => exact hx v (by cases hv; rfl)

lemma instantiate_conveys (fuel : Option Int) (m : Module) (table : ImportTable Binding) :
    (instantiate fuel m table).Conveys Spellable fun r => ∀ i, r = .ok i → i.Held Spellable := by
  unfold instantiate
  split
  · exact fun _ hr => by cases hr
  · exact guarded_conveys (Instance.ofModule_conveys m _)

lemma call_conveys {i : Instance} (h : i.Held Spellable) (name : Text) :
    (call i name).Conveys Spellable fun r => ∀ v, r.1 = .ok v → v.Spellable := by
  unfold call
  split
  · exact fun _ hr => by cases hr
  · split
    · refine (guarded_conveys (Instance.invoke_conveys h _)).bind fun r hr v hv => ?_
      obtain ⟨outcome | vs, k⟩ := r
      · cases hv
      · cases hv
        exact Val.toResult_spellable (hr.1 vs rfl)
    · exact fun _ hr => by cases hr

end WebAssembly

/-! ## Runs -/

namespace Sandbox

variable {H : Type} {logger : Text}

section Runs

variable {imports : ImportTable (Import (World Module Instance H))}
  (hosts : ∀ q w v, (∀ u ∈ q.args, u.Spellable) →
    (World.answer (linkTable logger imports) q w).1 = .ok v → v.Spellable)
  {id : Nat} {fuel : Option Int} {w : World Module Instance H} {results : Results}

include hosts

/-- What the entry point gives, if there is one. -/
lemma spellable_of_enter {i : Instance} (hheld : i.Held Spellable)
    (h : (enter id (WebAssembly.engine fuel) logger imports i w).1 = .ok results) :
    ∀ x ∈ results, x.2.Spellable := by
  have hentry : World.hasEntry id (WebAssembly.engine fuel) i entryPoint w =
      (.ok (WebAssembly.hasEntry i entryPoint), w.asked id (.hasEntry i entryPoint)) :=
    World.run_hasEntry id (WebAssembly.engine fuel) w i entryPoint
  rw [enter, World.run_bind, hentry] at h
  dsimp only at h
  generalize WebAssembly.hasEntry i entryPoint = entered at h
  cases entered with
  | false =>
      rw [if_neg Bool.false_ne_true, World.run_bind, World.log, World.run_write] at h
      cases h
      exact fun _ hx => (List.not_mem_nil hx).elim
  | true =>
      rw [if_pos rfl, World.fst_bind_pure, World.run_invoke] at h
      have hinvoke (asked : History Module Instance) :
          ((WebAssembly.engine fuel).invoke asked i entryPoint).Conveys Spellable
            fun r => ∀ u, r = .ok u → u.Spellable :=
        (WebAssembly.call_conveys hheld entryPoint).bind fun r hr => hr
      have hvalue (asked : History Module Instance) (v : World Module Instance H) :=
        (hinvoke asked).run (World.answer (linkTable logger imports)) hosts v
      change Except.map _ (((WebAssembly.engine fuel).invoke _ i entryPoint).run
        (World.answer (linkTable logger imports)) _).1 = _ at h
      generalize hrun : (((WebAssembly.engine fuel).invoke _ i entryPoint).run
        (World.answer (linkTable logger imports)) _).1 = r at h
      cases r with
      | error e => cases h
      | ok u =>
          cases h
          intro x hx
          rw [List.mem_singleton.mp hx]
          exact hvalue _ _ u hrun

/-- **A run of a module** gives results that can be written out, if host functions do whenever they
are called with such values. -/
theorem spellable_of_runModule {m : Module}
    (h : (runModule id (WebAssembly.engine fuel) logger m imports w).1 = .ok results) :
    ∀ x ∈ results, x.2.Spellable := by
  have hlinked := (WebAssembly.instantiate_conveys fuel m
    ((linkTable logger imports).map Import.binding)).run
    (World.answer (linkTable logger imports)) hosts (w.asked id (linking logger m imports))
  have hinstance : World.instantiate id (WebAssembly.engine fuel) m (linkTable logger imports) w =
      (WebAssembly.instantiate fuel m ((linkTable logger imports).map Import.binding)).run
        (World.answer (linkTable logger imports)) (w.asked id (linking logger m imports)) :=
    World.run_instantiate id (WebAssembly.engine fuel) (linkTable logger imports) w m
  rw [← hinstance] at hlinked
  rw [runModule_eq, World.run_bind] at h
  generalize World.instantiate id (WebAssembly.engine fuel) m (linkTable logger imports) w =
    linked at h hlinked
  rcases linked with ⟨e | i, v⟩
  · cases h
  · exact spellable_of_enter hosts (hlinked i rfl) h

end Runs

/-- The default host functions give back what they are given, or nothing. -/
lemma answer_spellable (q : HostCall) (w : World Module Instance H) {v : Value}
    (hargs : ∀ u ∈ q.args, u.Spellable)
    (hv : (World.answer (linkTable logger []) q w).1 = .ok v) : v.Spellable := by
  have htable : linkTable logger [] = defaultImports (M := Module) (I := Instance) (H := H) logger :=
    rfl
  rw [htable] at hv
  have hholds {i : Import (World Module Instance H)} (hi : (defaultImports logger).Holds i) :
      i = .function (logValue logger) ∨ i = .withCaller (logString logger) := by
    obtain ⟨m, es, n, hm, hn⟩ := hi
    simp only [defaultImports, List.mem_singleton, Prod.mk.injEq] at hm
    obtain ⟨-, rfl⟩ := hm
    simp only [List.mem_cons, Prod.mk.injEq, List.not_mem_nil, or_false] at hn
    exact hn.imp And.right And.right
  rcases World.answer_holds_cases (defaultImports logger) q with ⟨f, hf, h⟩ | ⟨f, hf, h⟩ | ⟨e, he⟩
  · rw [h] at hv
    obtain rfl : f = logValue logger := by simpa using hholds hf
    generalize q.args = args at hargs hv
    rcases args with _ | ⟨u, _ | ⟨_, _⟩⟩
    · cases hv
    · change ((World.log logger Level.info "%s%s" [.text logPrefix, u] >>= fun _ => pure u) w).1
        = _ at hv
      rw [World.fst_bind_pure, World.log, World.run_write] at hv
      cases hv
      exact hargs u List.mem_cons_self
    · cases hv
  · rw [h] at hv
    obtain rfl : f = logString logger := by simpa using hholds hf
    generalize q.args = args at hargs hv
    rcases args with _ | ⟨start, _ | ⟨length, _ | ⟨_, _⟩⟩⟩
    · cases hv
    · cases hv
    · simp only [logString, World.run_bind, World.run_settle, logLine, World.log,
        World.run_write] at hv
      cases hbytes : stringRange q.caller start length with
      | error e => rw [hbytes] at hv; cases hv
      | ok bytes => rw [hbytes] at hv; cases hv; simp [Spellable, Value.isSpellable]
    · cases hv
  · rw [he] at hv
    cases hv

/-- With the default host functions alone they always do. -/
theorem spellable_of_runModule_default {id : Nat} {fuel : Option Int} {m : Module}
    {w : World Module Instance H} {results : Results}
    (h : (runModule id (WebAssembly.engine fuel) logger m [] w).1 = .ok results) :
    ∀ x ∈ results, x.2.Spellable :=
  spellable_of_runModule answer_spellable h

end Sandbox

end WatWorkbench
