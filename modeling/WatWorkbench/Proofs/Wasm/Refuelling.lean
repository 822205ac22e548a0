import WatWorkbench.Proofs.Wasm.Execution
import WatWorkbench.Wasm.Validation

/-!
# Larger budgets

The instruction budget is looked at where a function or a turn of a loop begins, and nowhere else.
So two machines that differ in their budgets take the same steps, until the one with the smaller
budget has used it up.

* `AtMost` — one budget is at most another one, where none at all is the largest.
* `Instance.Richer`, `Machine.Richer` — the same with a budget that is at least as large.
* `Step.Richer` — what comes of a step with the larger budget; **`Machine.step_richer`** — every
  step is such.
* `GivesValues` — instructions that give values, of which alone constant expressions consist.
* **`Instance.prepared_refuel`** — how a new instance of a valid module is made does not depend on
  its budget.
-/

namespace WatWorkbench.Wasm

/-! ## Budgets -/

/-- The first budget is at most the second one; having none means that there is no end to it. -/
def AtMost (f g : Option Nat) : Prop := ∀ b ∈ g, ∃ a ∈ f, a ≤ b

lemma AtMost.spend {f g : Option Nat} (h : AtMost f g) (cost : Nat) :
    AtMost (f.map (· - cost)) (g.map (· - cost)) := by
  intro b hb
  obtain ⟨b, hg, rfl⟩ := Option.map_eq_some_iff.mp hb
  obtain ⟨a, ha, hle⟩ := h b hg
  exact ⟨a - cost, Option.map_eq_some_iff.mpr ⟨a, ha, rfl⟩, Nat.sub_le_sub_right hle cost⟩

/-- A budget is used up only if every smaller one is. -/
lemma AtMost.eq_zero {f g : Option Nat} (h : AtMost f g) (hg : g = some 0) : f = some 0 := by
  obtain ⟨a, ha, hle⟩ := h 0 hg
  rw [← Nat.le_zero.mp hle]
  exact ha

/-- The instance with another budget. -/
def Instance.refuel (i : Instance) (f : Option Nat) : Instance := { i with fuel := f }

/-- The machine with another budget. -/
def Machine.refuel (m : Machine) (f : Option Nat) : Machine := { m with inst := m.inst.refuel f }

/-- The second instance is the first one with a budget that is at least as large. -/
def Instance.Richer (i j : Instance) : Prop := ∃ f, AtMost i.fuel f ∧ j = i.refuel f

/-- The second machine is the first one with a budget that is at least as large. -/
def Machine.Richer (m n : Machine) : Prop := ∃ f, AtMost m.inst.fuel f ∧ n = m.refuel f

lemma AtMost.refl (f : Option Nat) : AtMost f f := fun b hb => ⟨b, hb, Nat.le_refl b⟩

lemma Instance.Richer.refl (i : Instance) : i.Richer i := ⟨i.fuel, .refl _, rfl⟩

/-- What comes of a step with the larger budget: the same as with the smaller one, unless that one
is used up. -/
inductive Step.Richer : Step → Step → Prop
  | spent (i : Instance) (s : Step) : Richer (.trapped .outOfFuel i) s
  | next {m n : Machine} (h : m.Richer n) : Richer (.next m) (.next n)
  | trapped (t : Trap) {i j : Instance} (h : i.Richer j) : Richer (.trapped t i) (.trapped t j)
  | calling (link : Link) (args : List Val) {m n : Machine} (h : m.Richer n) :
      Richer (.calling link args m) (.calling link args n)
  | finished (results : List Val) {i j : Instance} (h : i.Richer j) :
      Richer (.finished results i) (.finished results j)
  | stuck {i j : Instance} (h : i.Richer j) : Richer (.stuck i) (.stuck j)

/-! ## Steps -/

namespace Machine

section Refuel

variable (m : Machine) (f : Option Nat)

lemma refuel_program : (m.refuel f).inst.program = m.inst.program := rfl

lemma refuel_frame : (m.refuel f).frame = m.frame := rfl

lemma refuel_callers : (m.refuel f).callers = m.callers := rfl

lemma refuel_depth : (m.refuel f).depth = m.depth := rfl

lemma refuel_callee : (m.refuel f).callee = m.callee := rfl

end Refuel

variable {m : Machine} {f : Option Nat} (h : AtMost m.inst.fuel f)

include h

lemma turn_richer : Step.Richer m.turn (m.refuel f).turn := by
  unfold turn
  split_ifs with hpoor hrich hrich
  · exact .spent _ _
  · exact .spent _ _
  · exact absurd (decide_eq_true (h.eq_zero (of_decide_eq_true hrich))) hpoor
  · exact .next ⟨f, h, rfl⟩

lemma enter_richer (index : Nat) (args : List Val) :
    Step.Richer (m.enter index args) ((m.refuel f).enter index args) := by
  unfold enter
  simp only [refuel_program, refuel_depth, refuel_frame, refuel_callers, ge_iff_le]
  split
  · exact .calling _ _ ⟨f, h, rfl⟩
  split
  · exact .stuck ⟨f, h, rfl⟩
  split_ifs with hdepth hpoor hrich hrich
  · exact .trapped _ ⟨f, h, rfl⟩
  · exact .spent _ _
  · exact .spent _ _
  · exact absurd (decide_eq_true (h.eq_zero (of_decide_eq_true hrich))) hpoor
  · refine .next ⟨f.map (· - 1), ?_, rfl⟩
    exact h.spend 1

lemma call_richer (index : Nat) : Step.Richer (m.call index) ((m.refuel f).call index) := by
  refine enter_richer (f := f) ?_ index _
  exact h

lemma leave_richer : Step.Richer m.leave (m.refuel f).leave := by
  unfold leave
  dsimp only [refuel, Instance.refuel]
  cases m.callers with
  | nil => exact .finished _ ⟨f, h, rfl⟩
  | cons g gs => exact .next ⟨f, h, rfl⟩

lemma tailCall_richer (index : Nat) :
    Step.Richer (m.tailCall index) ((m.refuel f).tailCall index) := by
  unfold tailCall
  dsimp only
  by_cases hlink : index < m.inst.program.links.size
  · have hrich : index < (m.refuel f).inst.program.links.size := hlink
    rw [if_pos hlink, if_pos hrich]
    refine enter_richer (f := f) ?_ index _
    exact h
  · have hrich : ¬ index < (m.refuel f).inst.program.links.size := hlink
    rw [if_neg hlink, if_neg hrich]
    dsimp only [refuel, Instance.refuel]
    split
    · exact .stuck ⟨f, h, rfl⟩
    · refine enter_richer (f := f) ?_ index _
      exact h

lemma branch_richer (n : Nat) : Step.Richer (m.branch n) ((m.refuel f).branch n) := by
  unfold branch
  dsimp only [refuel, Instance.refuel]
  split
  · exact leave_richer h
  split
  · exact turn_richer (m := { m with frame := _ }) h
  · exact .next ⟨f, h, rfl⟩

lemma close_richer : Step.Richer m.close (m.refuel f).close := by
  unfold close
  dsimp only [refuel, Instance.refuel]
  split
  · exact leave_richer h
  · exact .next ⟨f, h, rfl⟩

lemma storing_richer (index : Nat) (memory : Option Memory) (stack : List Val) :
    Step.Richer (m.storing index memory stack) ((m.refuel f).storing index memory stack) := by
  cases memory with
  | none => exact .trapped _ ⟨f, h, rfl⟩
  | some memory => exact .next ⟨f, h, rfl⟩

lemma tabling_richer (index : Nat) (table : Option Table) (stack : List Val) :
    Step.Richer (m.tabling index table stack) ((m.refuel f).tabling index table stack) := by
  cases table with
  | none => exact .trapped _ ⟨f, h, rfl⟩
  | some table => exact .next ⟨f, h, rfl⟩

lemma onMemory_richer (i : Instr) : Step.Richer (m.onMemory i) ((m.refuel f).onMemory i) := by
  unfold onMemory
  dsimp only [refuel, Instance.refuel]
  repeat' first
    | exact storing_richer h _ _ _
    | exact .next ⟨f, h, rfl⟩
    | exact .stuck ⟨f, h, rfl⟩
    | split

lemma onTable_richer (i : Instr) : Step.Richer (m.onTable i) ((m.refuel f).onTable i) := by
  unfold onTable
  dsimp only [refuel, Instance.refuel]
  repeat' first
    | exact tabling_richer h _ _ _
    | exact .next ⟨f, h, rfl⟩
    | exact .trapped _ ⟨f, h, rfl⟩
    | exact .stuck ⟨f, h, rfl⟩
    | split

/-- An instruction looks at the budget only where it hands over to one of the above. -/
lemma execute_richer (i : Instr) : Step.Richer (m.execute i) ((m.refuel f).execute i) := by
  unfold execute
  simp only [refuel_callee]
  dsimp only [refuel, Instance.refuel]
  split
  all_goals repeat' first
    | exact .next ⟨f, h, rfl⟩
    | exact .trapped _ ⟨f, h, rfl⟩
    | exact .stuck ⟨f, h, rfl⟩
    | exact leave_richer h
    | exact onMemory_richer h _
    | exact onTable_richer h _
    | exact storing_richer h _ _ _
    | exact (by refine turn_richer (f := f) ?_; exact h)
    | exact (by refine branch_richer (f := f) ?_ _; exact h)
    | exact (by refine call_richer (f := f) ?_ _; exact h)
    | exact (by refine tailCall_richer (f := f) ?_ _; exact h)
    | split

/-- **Every step** comes to the same with a larger budget, unless the smaller one is used up. -/
theorem step_richer : Step.Richer m.step (m.refuel f).step := by
  unfold step
  dsimp only [refuel, Instance.refuel]
  split
  · exact close_richer h
  · next i code _ =>
      refine execute_richer (m := ⟨m.inst.spend i.cost, { m.frame with code }, m.callers, m.depth⟩)
        (f := f.map (· - i.cost)) ?_ i
      exact h.spend i.cost

end Machine

/-! ## Constant expressions -/

/-- The instruction gives a value of the operands or of a global variable. -/
def Instr.givesValue : Instr → Bool
  | .const _ | .refNull _ | .refFunc _ | .globalGet _ | .num _ => true
  | _ => false

/-- Every instruction of the expression does. -/
def GivesValues (e : Expr) : Prop := ∀ op ∈ e, op.givesValue

lemma givesValues_of_isConstant {c : Context} {t : ValType} {e : Expr}
    (h : c.isConstant t e = true) : GivesValues e := by
  intro op hop
  have hall := List.all_eq_true.mp (Bool.and_eq_true_iff.mp h).1 op hop
  split at hall
  all_goals first
    | rfl
    | cases hall

/-- Every constant expression of the module is one of such instructions. -/
structure Module.Plain (m : Module) : Prop where
  tables : ∀ t ∈ m.tables, ∀ e ∈ t.init, GivesValues e
  globals : ∀ g ∈ m.globals, GivesValues g.init
  items : ∀ e ∈ m.elems, ∀ t es, e.items = .exprs t es → ∀ x ∈ es, GivesValues x
  elems : ∀ e ∈ m.elems, ∀ table offset, e.mode = .active table offset → GivesValues offset
  datas : ∀ d ∈ m.datas, ∀ index offset, d.target = some (index, offset) → GivesValues offset

lemma givesValues_of_globalsValid {c : Context} {count : Nat} {gs : List Global}
    (h : Module.globalsValid c count gs = true) : ∀ g ∈ gs, GivesValues g.init := by
  induction gs generalizing count with
  | nil => exact fun g hg => absurd hg List.not_mem_nil
  | cons g gs ih =>
      obtain ⟨hg, hgs⟩ := Bool.and_eq_true_iff.mp h
      exact List.forall_mem_cons.mpr ⟨givesValues_of_isConstant hg, ih hgs⟩

/-- Validation admits nothing else. -/
lemma Module.plain_of_isValid {m : Module} (h : m.isValid = true) : m.Plain := by
  unfold isValid at h
  split at h
  · cases h
  next c hc =>
    simp only [Bool.and_eq_true, List.all_eq_true] at h
    obtain ⟨⟨⟨⟨⟨⟨⟨⟨-, htables⟩, hglobals⟩, -⟩, -⟩, -⟩, helems⟩, hdatas⟩, -⟩ := h
    refine ⟨?tables, givesValues_of_globalsValid hglobals, ?items, ?elems, ?datas⟩
    case tables =>
      intro t ht e he
      have hinit := htables t ht
      rw [tableValid, Option.mem_def.mp he] at hinit
      exact givesValues_of_isConstant hinit
    case items =>
      intro e he t es hitems x hx
      have helem := (Bool.and_eq_true_iff.mp (helems e he)).1
      rw [hitems] at helem
      exact givesValues_of_isConstant (List.all_eq_true.mp helem x hx)
    case elems =>
      intro e he table offset hmode
      have helem := (Bool.and_eq_true_iff.mp (helems e he)).2
      rw [hmode] at helem
      dsimp only at helem
      split at helem
      · exact givesValues_of_isConstant (Bool.and_eq_true_iff.mp helem).2
      · cases helem
    case datas =>
      intro d hd index offset htarget
      have hdata := hdatas d hd
      rw [dataValid, htarget] at hdata
      dsimp only at hdata
      cases hwidth : c.memoryWidth? index with
      | none => rw [hwidth] at hdata; cases hdata
      | some w => rw [hwidth] at hdata; exact givesValues_of_isConstant hdata

/-- The machine after a step that it goes on from. -/
def Step.next? : Step → Option Machine
  | .next m => some m
  | _ => none

/-- Such an instruction does not look at the budget at all. -/
lemma Machine.next?_execute_refuel (m : Machine) (f : Option Nat) {op : Instr}
    (h : op.givesValue) :
    ((m.refuel f).execute op).next? = (m.execute op).next?.map (·.refuel f) := by
  cases op with
  | const | refNull | refFunc | globalGet => rfl
  | num op =>
      unfold execute
      dsimp only [refuel, Instance.refuel]
      repeat' first
        | contradiction
        | rfl
        | split
  | _ => cases h

/-- Goes on with an instruction, if it can. -/
def Machine.giving (m? : Option Machine) (op : Instr) : Option Machine :=
  m?.bind fun m => (m.execute op).next?

lemma Machine.foldl_giving_refuel {e : Expr} (h : GivesValues e) (f : Option Nat)
    (m? : Option Machine) :
    e.foldl giving (m?.map (·.refuel f)) = (e.foldl giving m?).map (·.refuel f) := by
  induction e generalizing m? with
  | nil => rfl
  | cons op e ih =>
      have hstep : giving (m?.map (·.refuel f)) op = (giving m? op).map (·.refuel f) := by
        cases m? with
        | none => rfl
        | some m => exact m.next?_execute_refuel f (h op List.mem_cons_self)
      rw [List.foldl_cons, List.foldl_cons, hstep]
      exact ih (fun x hx => h x (List.mem_cons_of_mem _ hx)) _

namespace Instance

variable (i : Instance) (f : Option Nat)

lemma evaluate?_eq (e : Expr) : i.evaluate? e =
    (e.foldl Machine.giving (some ⟨i, .outermost 1, [], 0⟩)).bind (·.frame.stack.head?) := rfl

lemma evaluate?_refuel {e : Expr} (h : GivesValues e) :
    (i.refuel f).evaluate? e = i.evaluate? e := by
  have hstart : (some ⟨i.refuel f, .outermost 1, [], 0⟩ : Option Machine) =
      (some ⟨i, .outermost 1, [], 0⟩ : Option Machine).map (·.refuel f) := rfl
  rw [evaluate?_eq, evaluate?_eq, hstart, Machine.foldl_giving_refuel h]
  cases e.foldl Machine.giving (some ⟨i, .outermost 1, [], 0⟩) <;> rfl

lemma valueOf_refuel (t : ValType) {e : Expr} (h : GivesValues e) :
    (i.refuel f).valueOf t e = i.valueOf t e := by
  rw [valueOf, valueOf, evaluate?_refuel i f h]

lemma address_refuel {e : Expr} (h : GivesValues e) : (i.refuel f).address e = i.address e := by
  rw [address, address, evaluate?_refuel i f h]

lemma addTable_refuel {t : TableDef} (h : ∀ e ∈ t.init, GivesValues e) :
    (i.refuel f).addTable t = (i.addTable t).refuel f := by
  unfold addTable
  cases hinit : t.init with
  | none => rfl
  | some e =>
      rw [Option.elim_some, Option.elim_some, valueOf_refuel i f _ (h e hinit)]
      rfl

lemma addGlobal_refuel {g : Global} (h : GivesValues g.init) :
    (i.refuel f).addGlobal g = (i.addGlobal g).refuel f := by
  unfold addGlobal
  rw [valueOf_refuel i f _ h]
  rfl

lemma references_refuel {items : ElemItems}
    (h : ∀ t es, items = .exprs t es → ∀ x ∈ es, GivesValues x) :
    (i.refuel f).references items = i.references items := by
  cases items with
  | funcs fs => rfl
  | exprs t es => exact List.map_congr_left fun x hx => valueOf_refuel i f t (h t es rfl x hx)

lemma useElem_refuel {e : Elem × Nat}
    (h : ∀ table offset, e.1.mode = .active table offset → GivesValues offset) :
    (i.refuel f).useElem e = (i.useElem e).map (·.refuel f) := by
  obtain ⟨e, segment⟩ := e
  unfold useElem
  dsimp only at h ⊢
  cases hmode : e.mode with
  | active table offset =>
      dsimp only
      rw [address_refuel i f (h table offset hmode)]
      dsimp only [refuel, dropElem]
      split <;> rfl
  | declared => rfl
  | passive => rfl

lemma useData_refuel {d : Data × Nat}
    (h : ∀ index offset, d.1.target = some (index, offset) → GivesValues offset) :
    (i.refuel f).useData d = (i.useData d).map (·.refuel f) := by
  obtain ⟨d, segment⟩ := d
  unfold useData
  dsimp only at h ⊢
  cases htarget : d.target with
  | none => rfl
  | some target =>
      obtain ⟨index, offset⟩ := target
      dsimp only
      rw [address_refuel i f (h index offset htarget)]
      dsimp only [refuel, dropData]
      split <;> rfl

/-- What each step of a fold does alike with another budget, the fold does. -/
lemma foldl_refuel {α : Type} {use : Instance → α → Instance} {as : List α}
    (h : ∀ a ∈ as, ∀ i : Instance, use (i.refuel f) a = (use i a).refuel f) :
    as.foldl use (i.refuel f) = (as.foldl use i).refuel f := by
  induction as generalizing i with
  | nil => rfl
  | cons a as ih =>
      rw [List.foldl_cons, List.foldl_cons, h a List.mem_cons_self]
      exact ih _ fun b hb => h b (List.mem_cons_of_mem _ hb)

lemma foldlM_refuel {α : Type} {use : Instance → α → Except Trap Instance} {as : List α}
    (h : ∀ a ∈ as, ∀ i : Instance, use (i.refuel f) a = (use i a).map (·.refuel f)) :
    as.foldlM use (i.refuel f) = (as.foldlM use i).map (·.refuel f) := by
  induction as generalizing i with
  | nil => rfl
  | cons a as ih =>
      rw [List.foldlM_cons, List.foldlM_cons, h a List.mem_cons_self]
      cases use i a with
      | error t => rfl
      | ok j => exact ih j fun b hb => h b (List.mem_cons_of_mem _ hb)

/-- The instance with the tables, global variables and segments that its module declares. -/
def declared (m : Module) (i : Instance) : Instance :=
  let i := m.globals.foldl addGlobal (m.tables.foldl addTable i)
  { i with
    elems := (m.elems.map fun e => i.references e.items).toArray
    datas := (m.datas.map (·.bytes)).toArray }

lemma blank_eq (m : Module) : blank m f = declared m (refuel
    { program := .ofModule m, memories := (m.memories.map Memory.ofLimits).toArray } f) := rfl

lemma declared_refuel {m : Module} (h : m.Plain) :
    declared m (i.refuel f) = (declared m i).refuel f := by
  have htables : m.tables.foldl addTable (i.refuel f) = (m.tables.foldl addTable i).refuel f :=
    foldl_refuel i f fun t ht j => addTable_refuel j f (h.tables t ht)
  have hglobals (j : Instance) :
      m.globals.foldl addGlobal (j.refuel f) = (m.globals.foldl addGlobal j).refuel f :=
    foldl_refuel j f fun g hg j => addGlobal_refuel j f (h.globals g hg)
  have hitems (j : Instance) : m.elems.map (fun e => (j.refuel f).references e.items) =
      m.elems.map fun e => j.references e.items :=
    List.map_congr_left fun e he => references_refuel j f (h.items e he)
  unfold declared
  dsimp only
  rw [htables, hglobals, hitems]
  rfl

/-- **How a new instance is made** does not depend on its budget. -/
theorem prepared_refuel {m : Module} (h : m.Plain) :
    prepared m f = (prepared m none).map (·.refuel f) := by
  have helems (i : Instance) : m.elems.zipIdx.foldlM useElem (i.refuel f) =
      (m.elems.zipIdx.foldlM useElem i).map (·.refuel f) :=
    foldlM_refuel i f fun e he j =>
      useElem_refuel j f (h.elems e.1 (List.fst_mem_of_mem_zipIdx he))
  have hdatas (i : Instance) : m.datas.zipIdx.foldlM useData (i.refuel f) =
      (m.datas.zipIdx.foldlM useData i).map (·.refuel f) :=
    foldlM_refuel i f fun d hd j =>
      useData_refuel j f (h.datas d.1 (List.fst_mem_of_mem_zipIdx hd))
  have hblank : blank m f = (blank m none).refuel f := by
    rw [blank_eq, blank_eq, declared_refuel _ _ h, declared_refuel _ _ h]
    rfl
  unfold prepared
  rw [hblank, helems]
  cases m.elems.zipIdx.foldlM useElem (blank m none) with
  | error t => rfl
  | ok i => exact hdatas i

end Instance

end WatWorkbench.Wasm
