import WatWorkbench.Proofs.Wasm.Execution
import Std.Data.HashMap.Lemmas

/-!
# Where references to the host come from

A module can hold things of the host and hand them on, but it cannot make any: whatever property the
things have that come in, with arguments and with what host functions return, that property have all
things that it ever holds.

* `Val.Held` — if the value refers to a thing of the host, the thing has the property.
* `Table.Held`, `Instance.Held`, `Frame.Held`, `Machine.Held` — all that they hold is such.
* `Step.Held` — so is all that a step gives; **`Machine.step_held`** — every step is such.
* **`Instance.prepared_held`** — a new instance holds no things at all.
-/

namespace WatWorkbench.Wasm

variable {P : Value → Prop}

/-! ## Values -/

/-- If the value refers to a thing of the host, the thing has the property. -/
def Val.Held (P : Value → Prop) : Val → Prop
  | .externRef (some v) => P v
  | _ => True

/-- The values refer only to things with the property. -/
def AllHeld (P : Value → Prop) (vs : List Val) : Prop := ∀ v ∈ vs, v.Held P

section Lists

variable {v : Val} {vs ws : List Val}

@[simp] lemma Val.held_number (n : Number) : (Val.number n).Held P := trivial
@[simp] lemma Val.held_funcRef (i : Option Nat) : (Val.funcRef i).Held P := trivial

@[simp] lemma Val.held_null (t : ValType) : (Val.null t).Held P := by
  cases t <;> trivial

@[simp] lemma Val.held_zero (t : ValType) : (Val.zero t).Held P := by
  cases t <;> trivial

@[simp] lemma allHeld_nil : AllHeld P [] := fun _ h => (List.not_mem_nil h).elim

@[simp] lemma allHeld_cons : AllHeld P (v :: vs) ↔ v.Held P ∧ AllHeld P vs := List.forall_mem_cons

@[simp] lemma allHeld_append : AllHeld P (vs ++ ws) ↔ AllHeld P vs ∧ AllHeld P ws :=
  List.forall_mem_append

@[simp] lemma allHeld_reverse : AllHeld P vs.reverse ↔ AllHeld P vs := by
  simp [AllHeld]

lemma AllHeld.take (h : AllHeld P vs) (n : Nat) : AllHeld P (vs.take n) :=
  fun v hv => h v (List.mem_of_mem_take hv)

lemma AllHeld.drop (h : AllHeld P vs) (n : Nat) : AllHeld P (vs.drop n) :=
  fun v hv => h v (List.mem_of_mem_drop hv)

lemma AllHeld.slice (h : AllHeld P vs) {start count : Nat}
    (hslice : Machine.slice? vs start count = some ws) : AllHeld P ws := by
  unfold Machine.slice? at hslice
  split_ifs at hslice
  cases hslice
  exact (h.drop start).take count

end Lists

/-- What stands at a place of an array, or in place of it. -/
lemma forall_mem_getD {α : Type} {Q : α → Prop} {xs : Array α} {d : α} (h : ∀ x ∈ xs, Q x)
    (hd : Q d) (n : Nat) : Q (xs.getD n d) := by
  unfold Array.getD
  split
  · exact h _ (Array.getElem_mem _)
  · exact hd

lemma forall_mem_setIfInBounds {α : Type} {Q : α → Prop} {xs : Array α} {a : α}
    (h : ∀ x ∈ xs, Q x) (ha : Q a) (n : Nat) : ∀ x ∈ xs.setIfInBounds n a, Q x := by
  intro x hx
  rcases Array.mem_or_eq_of_mem_setIfInBounds hx with hx | rfl
  · exact h x hx
  · exact ha

lemma forall_mem_push {α : Type} {Q : α → Prop} {xs : Array α} {a : α}
    (h : ∀ x ∈ xs, Q x) (ha : Q a) : ∀ x ∈ xs.push a, Q x := by
  intro x hx
  rcases Array.mem_push.mp hx with hx | rfl
  · exact h x hx
  · exact ha

/-! ## Tables -/

/-- The table holds only references to things with the property. -/
structure Table.Held (P : Value → Prop) (t : Table) : Prop where
  bases : ∀ e ∈ t.bases, e.2.Held P
  written : ∀ (n : Nat) v, t.written[n]? = some v → v.Held P

namespace Table.Held

variable {t t' : Table} {v : Val} {vs : List Val} {start count : Nat}

protected lemma default : (default : Table).Held P :=
  ⟨fun _ h => (List.not_mem_nil h).elim, fun n v h => by simp [default] at h⟩

protected lemma ofType (type : TableType) (h : v.Held P) : (Table.ofType type v).Held P :=
  ⟨fun e he => by rw [List.mem_singleton.mp he]; exact h, fun n w hw => by simp [ofType] at hw⟩

lemma getD (h : t.Held P) (n : Nat) : (t.written.getD n (t.base n)).Held P := by
  rw [Std.HashMap.getD_eq_getD_getElem?]
  cases hwritten : t.written[n]? with
  | some v => exact h.written n v hwritten
  | none =>
      rw [Option.getD_none, base]
      cases hbase : t.bases.find? (·.1 ≤ n) with
      | none => exact Val.held_null _
      | some e => exact h.bases e (List.mem_of_find?_eq_some hbase)

protected lemma get? (h : t.Held P) (hv : t.get? start = some v) : v.Held P := by
  unfold Table.get? at hv
  split_ifs at hv
  cases hv
  exact h.getD _

protected lemma read? (h : t.Held P) (hvs : t.read? start count = some vs) : AllHeld P vs := by
  unfold Table.read? at hvs
  split_ifs at hvs
  cases hvs
  intro v hv
  obtain ⟨n, -, rfl⟩ := List.mem_map.mp hv
  exact h.getD n

/-- References that are written one after another. -/
lemma insertAll {written : Std.HashMap Nat Val} (h : ∀ (n : Nat) v, written[n]? = some v → v.Held P)
    (hvs : AllHeld P vs) (start n : Nat) (v : Val)
    (hv : (vs.foldl (fun (w, i) v => (w.insert i v, i + 1)) (written, start)).1[n]? = some v) :
    v.Held P := by
  induction vs generalizing written start with
  | nil => exact h n v hv
  | cons u us ih =>
      obtain ⟨hu, hus⟩ := allHeld_cons.mp hvs
      refine ih (fun k w hw => ?_) hus (start + 1) hv
      rw [Std.HashMap.getElem?_insert] at hw
      split_ifs at hw
      · cases hw
        exact hu
      · exact h k w hw

protected lemma write? (h : t.Held P) (hvs : AllHeld P vs) (ht : t.write? start vs = some t') :
    t'.Held P := by
  unfold Table.write? at ht
  split_ifs at ht
  cases ht
  exact ⟨h.bases, fun n v hv => insertAll h.written hvs start n v hv⟩

protected lemma fill? (h : t.Held P) (hv : v.Held P) (ht : t.fill? start count v = some t') :
    t'.Held P := by
  unfold Table.fill? at ht
  split_ifs at ht
  exact h.write? (fun u hu => by rw [(List.mem_replicate.mp hu).2]; exact hv) ht

protected lemma grow? (h : t.Held P) (hv : v.Held P) (ht : t.grow? count v = some t') :
    t'.Held P := by
  unfold Table.grow? at ht
  split_ifs at ht
  cases ht
  exact ⟨List.forall_mem_cons.mpr ⟨hv, h.bases⟩, h.written⟩

end Table.Held

/-! ## Machines -/

/-- The instance holds only references to things with the property. -/
structure Instance.Held (P : Value → Prop) (i : Instance) : Prop where
  globals : ∀ v ∈ i.globals, v.Held P
  tables : ∀ t ∈ i.tables, t.Held P
  elems : ∀ vs ∈ i.elems, AllHeld P vs

lemma Instance.Held.spend {i : Instance} (h : i.Held P) (cost : Nat) : (i.spend cost).Held P :=
  ⟨h.globals, h.tables, h.elems⟩

/-- So does the function under way. -/
structure Frame.Held (P : Value → Prop) (f : Frame) : Prop where
  locals : ∀ v ∈ f.locals, v.Held P
  labels : ∀ l ∈ f.labels, AllHeld P l.under
  stack : AllHeld P f.stack

/-- So do the instance and all functions. -/
structure Machine.Held (P : Value → Prop) (m : Machine) : Prop where
  inst : m.inst.Held P
  frame : m.frame.Held P
  callers : ∀ f ∈ m.callers, f.Held P

/-- So does all that a step gives. -/
def Step.Held (P : Value → Prop) : Step → Prop
  | .next m => m.Held P
  | .trapped _ i | .stuck i => i.Held P
  | .calling _ args m => AllHeld P args ∧ m.Held P
  | .finished vs i => AllHeld P vs ∧ i.Held P

lemma Frame.held_outermost (arity : Nat) : (Frame.outermost arity).Held P :=
  ⟨by simp [outermost], by simp [outermost], by simp [outermost]⟩

namespace Machine

variable {m : Machine} {v : Val} {stack : List Val} (h : m.Held P)

include h

lemma withStack_held (hstack : AllHeld P stack) : (m.withStack stack).Held P :=
  ⟨h.inst, ⟨h.frame.locals, h.frame.labels, hstack⟩, h.callers⟩

lemma withInstance_held {i : Instance} (hi : i.Held P) : (m.withInstance i).Held P :=
  ⟨hi, h.frame, h.callers⟩

lemma goOn_held (hv : v.Held P) (hstack : AllHeld P stack) : (m.goOn v stack).Held P :=
  withStack_held h (allHeld_cons.mpr ⟨hv, hstack⟩)

lemma resume_held {vs : List Val} (hvs : AllHeld P vs) : (m.resume vs).Held P :=
  withStack_held h (allHeld_append.mpr ⟨allHeld_reverse.mpr hvs, h.frame.stack⟩)

lemma enter_held (index : Nat) {args : List Val} (hargs : AllHeld P args) :
    (m.enter index args).Held P := by
  unfold enter
  dsimp only
  split
  · exact ⟨hargs, h⟩
  · split
    · exact h.inst
    · split_ifs
      · exact h.inst
      · exact h.inst
      · refine Machine.Held.mk (h.inst.spend 1) ⟨fun v hv => ?_, by simp, by simp⟩
          (List.forall_mem_cons.mpr ⟨h.frame, h.callers⟩)
        rcases List.mem_append.mp (List.mem_toArray.mp hv) with hv | hv
        · exact hargs v hv
        · obtain ⟨t, -, rfl⟩ := List.mem_map.mp hv
          exact Val.held_zero t

lemma call_held (index : Nat) : (m.call index).Held P :=
  enter_held (withStack_held h (h.frame.stack.drop _)) index
    (allHeld_reverse.mpr (h.frame.stack.take _))

lemma tailCall_held (index : Nat) : (m.tailCall index).Held P := by
  have hargs (n : Nat) : AllHeld P (m.frame.stack.take n).reverse :=
    allHeld_reverse.mpr (h.frame.stack.take n)
  unfold tailCall
  dsimp only
  split_ifs
  · refine enter_held ?_ _ (hargs _)
    exact ⟨h.inst, ⟨h.frame.locals, by simp, h.frame.stack.drop _⟩, h.callers⟩
  · split
    · exact h.inst
    · next f fs hcallers =>
        obtain ⟨hf, hfs⟩ := List.forall_mem_cons.mp (hcallers ▸ h.callers)
        refine enter_held ?_ _ (hargs _)
        exact ⟨h.inst, hf, hfs⟩

lemma leave_held : m.leave.Held P := by
  have hresults := h.frame.stack.take m.frame.arity
  unfold leave
  dsimp only
  split
  · exact ⟨allHeld_reverse.mpr hresults, h.inst⟩
  · next f fs hcallers =>
      obtain ⟨hf, hfs⟩ := List.forall_mem_cons.mp (hcallers ▸ h.callers)
      exact ⟨h.inst, ⟨hf.locals, hf.labels, allHeld_append.mpr ⟨hresults, hf.stack⟩⟩, hfs⟩

lemma turn_held : m.turn.Held P := by
  unfold turn
  split
  · exact h.inst
  · exact h

lemma branch_held (n : Nat) : (m.branch n).Held P := by
  have hdrop (n : Nat) : ∀ l ∈ m.frame.labels.drop n, AllHeld P l.under :=
    fun l hl => h.frame.labels l (List.mem_of_mem_drop hl)
  unfold branch
  dsimp only
  split
  · exact leave_held h
  · next l hl =>
      have hunder := h.frame.labels l (List.mem_of_getElem? hl)
      have hkept := h.frame.stack.take l.arity
      split
      · exact turn_held ⟨h.inst, ⟨h.frame.locals, hdrop n, hkept⟩, h.callers⟩
      · exact ⟨h.inst, ⟨h.frame.locals, hdrop _, allHeld_append.mpr ⟨hkept, hunder⟩⟩, h.callers⟩

lemma openBlock_held (type : FuncType) (body : List Instr) (again : Bool) :
    (m.openBlock type body again).Held P := by
  refine ⟨h.inst, ⟨h.frame.locals, ?_, h.frame.stack.take _⟩, h.callers⟩
  exact List.forall_mem_cons.mpr ⟨h.frame.stack.drop _, h.frame.labels⟩

lemma close_held : m.close.Held P := by
  unfold close
  dsimp only
  split
  · exact leave_held h
  · next l ls hlabels =>
      obtain ⟨hl, hls⟩ := List.forall_mem_cons.mp (hlabels ▸ h.frame.labels)
      exact ⟨h.inst, ⟨h.frame.locals, hls, allHeld_append.mpr ⟨h.frame.stack, hl⟩⟩, h.callers⟩

lemma storing_held (index : Nat) (memory : Option Memory) (hstack : AllHeld P stack) :
    (m.storing index memory stack).Held P := by
  cases memory with
  | none => exact h.inst
  | some memory =>
      exact withStack_held (withInstance_held h ⟨h.inst.globals, h.inst.tables, h.inst.elems⟩) hstack

lemma tabling_held (index : Nat) {table : Option Table} (htable : ∀ t ∈ table, t.Held P)
    (hstack : AllHeld P stack) : (m.tabling index table stack).Held P := by
  cases table with
  | none => exact h.inst
  | some table =>
      refine withStack_held (withInstance_held h ⟨h.inst.globals, ?_, h.inst.elems⟩) hstack
      exact forall_mem_setIfInBounds h.inst.tables (htable table rfl) index

lemma table_held (k : Nat) : (m.inst.tables.getD k default).Held P :=
  forall_mem_getD h.inst.tables Table.Held.default k

lemma onMemory_held (i : Instr) : (m.onMemory i).Held P := by
  have hstack := h.frame.stack
  unfold onMemory
  dsimp only
  generalize m.frame.stack = stack at hstack
  split
  · exact goOn_held h (Val.held_number _) hstack
  all_goals (try simp only [allHeld_cons] at hstack)
  · split
    · exact storing_held h _ _ (allHeld_cons.mpr ⟨Val.held_number _, hstack.2⟩)
    · exact goOn_held h (Val.held_number _) hstack.2
  · exact storing_held h _ _ hstack.2.2.2
  · exact storing_held h _ _ hstack.2.2.2
  · exact storing_held h _ _ hstack.2.2.2
  · exact withInstance_held h ⟨h.inst.globals, h.inst.tables, h.inst.elems⟩
  · exact h.inst

lemma onTable_held (i : Instr) : (m.onTable i).Held P := by
  have hstack := h.frame.stack
  have htable := table_held h
  unfold onTable
  dsimp only
  generalize m.frame.stack = stack at hstack
  split
  all_goals (try simp only [allHeld_cons] at hstack)
  · split
    · next v hv => exact goOn_held h ((htable _).get? hv) hstack.2
    · exact h.inst
  · exact tabling_held h _ (fun t ht => (htable _).write? (by simpa using hstack.1) ht) hstack.2.2
  · exact goOn_held h (Val.held_number _) hstack
  · split
    · next new hnew =>
        refine tabling_held h _ (fun t ht => ?_) (allHeld_cons.mpr ⟨Val.held_number _, hstack.2.2⟩)
        cases ht
        exact (htable _).grow? hstack.2.1 hnew
    · exact goOn_held h (Val.held_number _) hstack.2.2
  · exact tabling_held h _ (fun t ht => (htable _).fill? hstack.2.1 ht) hstack.2.2.2
  · refine tabling_held h _ (fun t ht => ?_) hstack.2.2.2
    obtain ⟨vs, hvs, ht⟩ := Option.bind_eq_some_iff.mp ht
    exact (htable _).write? ((htable _).read? hvs) ht
  · refine tabling_held h _ (fun t ht => ?_) hstack.2.2.2
    obtain ⟨vs, hvs, ht⟩ := Option.bind_eq_some_iff.mp ht
    exact (htable _).write? ((forall_mem_getD h.inst.elems allHeld_nil _).slice hvs) ht
  · exact withInstance_held h
      ⟨h.inst.globals, h.inst.tables, forall_mem_setIfInBounds h.inst.elems allHeld_nil _⟩
  · exact h.inst

/-- An instruction changes operands, variables, tables and memories, or hands over to one of the
above. -/
lemma execute_held (i : Instr) : (m.execute i).Held P := by
  have hstack := h.frame.stack
  have hlocal (n : Nat) : (m.frame.locals.getD n default).Held P :=
    forall_mem_getD h.frame.locals (Val.held_number _) n
  have hglobal (n : Nat) : (m.inst.globals.getD n default).Held P :=
    forall_mem_getD h.inst.globals (Val.held_number _) n
  have hset {n : Nat} {v : Val} {rest : List Val} (hv : v.Held P) (hrest : AllHeld P rest) :
      Machine.Held P { m with frame := { m.frame with
        locals := m.frame.locals.setIfInBounds n v, stack := rest } } :=
    ⟨h.inst, ⟨forall_mem_setIfInBounds h.frame.locals hv n, h.frame.labels, hrest⟩, h.callers⟩
  unfold execute
  dsimp only
  generalize m.frame.stack = stack at hstack
  split
  all_goals (try simp only [allHeld_cons] at hstack)
  · exact h.inst                                           -- `unreachable`
  · exact h
  · exact openBlock_held h _ _ _
  · exact turn_held (openBlock_held h _ _ _)
  · exact openBlock_held (withStack_held h hstack.2) _ _ _
  · exact branch_held h _
  · split                                                  -- `brIf`
    · exact withStack_held h hstack.2
    · exact branch_held (withStack_held h hstack.2) _
  · exact branch_held (withStack_held h hstack.2) _
  · exact leave_held h
  · exact call_held h _
  · split                                                  -- `callIndirect`
    · exact call_held (withStack_held h hstack.2) _
    · exact h.inst
  · exact tailCall_held h _
  · split                                                  -- `tailCallIndirect`
    · exact tailCall_held (withStack_held h hstack.2) _
    · exact h.inst
  · exact withStack_held h hstack.2
  · obtain ⟨-, hb, ha, hrest⟩ := hstack                    -- `select`
    refine goOn_held h ?_ hrest
    split_ifs
    · exact hb
    · exact ha
  · exact goOn_held h (hlocal _) hstack
  · exact hset hstack.1 hstack.2
  · exact hset hstack.1 (allHeld_cons.mpr hstack)
  · exact goOn_held h (hglobal _) hstack
  · refine withStack_held (withInstance_held h ?_) hstack.2  -- `globalSet`
    exact ⟨forall_mem_setIfInBounds h.inst.globals hstack.1 _, h.inst.tables, h.inst.elems⟩
  · split                                                  -- `load`
    · exact goOn_held h (Val.held_number _) hstack.2
    · exact h.inst
  · exact storing_held h _ _ hstack.2.2
  iterate 6 · exact onMemory_held h _
  iterate 8 · exact onTable_held h _
  · exact goOn_held h (Val.held_number _) hstack
  · split                                                  -- `num`
    · split
      · exact goOn_held h (Val.held_number _) hstack.2
      · exact h.inst
    · split
      · exact goOn_held h (Val.held_number _) (allHeld_cons.mp hstack.2).2
      · exact h.inst
    · exact h.inst
  · exact goOn_held h (Val.held_null _) hstack
  · exact goOn_held h (Val.held_number _) hstack.2
  · exact goOn_held h (Val.held_funcRef _) hstack
  · exact h.inst

/-- **Every step** is such, if the machine is. -/
theorem step_held : m.step.Held P := by
  unfold step
  split
  · exact close_held h
  · refine execute_held ?_ _
    exact ⟨h.inst.spend _, ⟨h.frame.locals, h.frame.labels, h.frame.stack⟩, h.callers⟩

end Machine

/-! ## New instances -/

namespace Instance.Held

variable {i j : Instance} (h : i.Held P)

include h

/-- Constant expressions are executed by the same steps. -/
protected lemma evaluate? {e : Expr} {v : Val} (hv : i.evaluate? e = some v) : v.Held P := by
  obtain ⟨m, hm, hv⟩ := Option.bind_eq_some_iff.mp hv
  have hheld : m.Held P := by
    refine List.foldlRecOn e _ (motive := fun o => ∀ m ∈ o, m.Held P) ?start ?step m
      (Option.mem_def.mpr hm)
    case start =>
      intro m' hm'
      rw [← Option.some.inj hm']
      exact ⟨h, Frame.held_outermost 1, by simp⟩
    case step =>
      intro o ho op hop m' hm'
      obtain ⟨m₀, hm₀, hm'⟩ := Option.bind_eq_some_iff.mp hm'
      have hstep := Machine.execute_held (ho m₀ hm₀) op
      split at hm'
      · next hnext =>
          rw [hnext] at hstep
          exact Option.some.inj hm' ▸ hstep
      · cases hm'
  exact hheld.frame.stack v (List.mem_of_mem_head? hv)

protected lemma valueOf (t : ValType) (e : Expr) : (i.valueOf t e).Held P := by
  unfold valueOf
  cases hv : i.evaluate? e with
  | none => exact Val.held_zero t
  | some v => exact h.evaluate? hv

protected lemma addTable (t : TableDef) : (i.addTable t).Held P := by
  refine ⟨h.globals, forall_mem_push h.tables (.ofType _ ?_), h.elems⟩
  cases t.init with
  | none => exact Val.held_null _
  | some e => exact h.valueOf _ e

protected lemma addGlobal (g : Global) : (i.addGlobal g).Held P :=
  ⟨forall_mem_push h.globals (h.valueOf _ _), h.tables, h.elems⟩

protected lemma references (items : ElemItems) : AllHeld P (i.references items) := by
  intro v hv
  cases items with
  | funcs fs =>
      obtain ⟨f, -, rfl⟩ := List.mem_map.mp hv
      exact Val.held_funcRef _
  | exprs t es =>
      obtain ⟨e, -, rfl⟩ := List.mem_map.mp hv
      exact h.valueOf t e

protected lemma dropElem (segment : Nat) : (i.dropElem segment).Held P :=
  ⟨h.globals, h.tables, forall_mem_setIfInBounds h.elems allHeld_nil segment⟩

protected lemma useElem {e : Elem × Nat} (hj : i.useElem e = .ok j) : j.Held P := by
  unfold Instance.useElem at hj
  dsimp only at hj
  split at hj
  · split at hj
    · next t ht =>
        cases hj
        have hdropped := h.dropElem e.2
        refine ⟨h.globals, forall_mem_setIfInBounds h.tables ?_ _, hdropped.elems⟩
        exact Table.Held.write? (forall_mem_getD h.tables Table.Held.default _)
          (forall_mem_getD h.elems allHeld_nil _) ht
    · cases hj
  · cases hj
    exact h.dropElem e.2
  · cases hj
    exact h

protected lemma useData {d : Data × Nat} (hj : i.useData d = .ok j) : j.Held P := by
  unfold Instance.useData at hj
  dsimp only at hj
  split at hj
  · split at hj
    · cases hj
      exact ⟨h.globals, h.tables, h.elems⟩
    · cases hj
  · cases hj
    exact h

end Instance.Held

namespace Instance

lemma blank_held (m : Module) (fuel : Option Nat) : (blank m fuel).Held P := by
  have htables (ts : List TableDef) {i : Instance} (h : i.Held P) :
      (ts.foldl addTable i).Held P := by
    induction ts generalizing i with
    | nil => exact h
    | cons t ts ih => exact ih (h.addTable t)
  have hglobals (gs : List Global) {i : Instance} (h : i.Held P) :
      (gs.foldl addGlobal i).Held P := by
    induction gs generalizing i with
    | nil => exact h
    | cons g gs ih => exact ih (h.addGlobal g)
  have hempty (i : Instance) (hg : i.globals = #[]) (ht : i.tables = #[]) (he : i.elems = #[]) :
      i.Held P := ⟨by simp [hg], by simp [ht], by simp [he]⟩
  have hdeclared := hglobals m.globals (htables m.tables (hempty
    { program := .ofModule m, memories := (m.memories.map Memory.ofLimits).toArray, fuel }
    rfl rfl rfl))
  refine ⟨hdeclared.globals, hdeclared.tables, fun vs hvs => ?_⟩
  obtain ⟨e, -, rfl⟩ := List.mem_map.mp (List.mem_toArray.mp hvs)
  exact hdeclared.references e.items

/-- **A new instance** holds no things at all: none that lacks any property. -/
theorem prepared_held {m : Module} {fuel : Option Nat} {i : Instance}
    (h : prepared m fuel = .ok i) : i.Held P := by
  unfold prepared at h
  cases helems : m.elems.zipIdx.foldlM useElem (blank m fuel) with
  | error t => rw [helems] at h; cases h
  | ok j =>
      rw [helems] at h
      have hused := foldlM_keeps (P := Held P) (fun _ _ _ hi he => hi.useElem he) _ (blank_held m fuel) helems
      exact foldlM_keeps (fun _ _ _ hi hd => hi.useData hd) _ hused h

end Instance

end WatWorkbench.Wasm
