import Mathlib.Data.Nat.Find
import WatWorkbench.Proofs.Engine.Budgets
import WatWorkbench.Proofs.Packaging.Execution
import WatWorkbench.Proofs.Pipeline.Standard

/-!
# Runs with larger budgets

A run of a module that is linked with host functions without state needs some budget.  With a
smaller one it ends for want of fuel, having made the first of its calls; with that much or more, or
without any budget, it succeeds in the same way.  What a budget amounts to is another matter: it is
counted in 64 bits, and one that does not fit is taken without its upper ones, so that a large budget
can amount to a small one.

* `Sandbox.ComesTo` — how the runs of a module end, and which calls they make.
* `Sandbox.runs_outlasted` — runs with a budget and with a larger one.
* `Sandbox.Needs` — what a module needs; **`Sandbox.exists_need`** — a run that succeeds needs some
  budget, and what is enough.
* `Sandbox.runs_wrapped` — a large budget that is none.
-/

namespace WatWorkbench

open Wasm WebAssembly

variable {α β H : Type}

/-! ## Scripts -/

/-- A script that calls only code without state, and one that outlasts it: the first one has made
the first of the calls and has given out, or the two have made the same calls and come to results
that stand in the relation. -/
lemma Script.Outlasted.exists_run {M I : Type}
    {answer : HostCall → StateM (World M I H) (Except Failure Value)}
    (hanswer : ∀ q, ∃ (x : Except Failure Value) (rs : List LogRecord), (∀ r ∈ rs, True) ∧
      ∀ w, answer q w = (x, w.writtenAll rs))
    {out : α → Prop} {R : α → β → Prop} {s : Script α} {t : Script β} (h : s.Outlasted out R t) :
    ∃ (a : α) (b : β) (cs ds : List (HostCall × Except Failure Value)),
      (∀ w, (s.run answer w).1 = a ∧ s.trace answer w = cs) ∧
      (∀ w, (t.run answer w).1 = b ∧ t.trace answer w = ds) ∧
      (out a ∧ cs <+: ds ∨ R a b ∧ cs = ds) := by
  induction s generalizing t with
  | done a =>
      rcases h with ha | ⟨b, rfl, hab⟩
      · obtain ⟨b, rs, ds, -, ht⟩ := Script.exists_run hanswer t
        exact ⟨a, b, [], ds, fun _ => ⟨rfl, rfl⟩, fun w => ⟨congrArg Prod.fst (ht w).1, (ht w).2⟩,
          Or.inl ⟨ha, List.nil_prefix⟩⟩
      · exact ⟨a, b, [], [], fun _ => ⟨rfl, rfl⟩, fun _ => ⟨rfl, rfl⟩, Or.inr ⟨hab, rfl⟩⟩
  | call q resume ih =>
      obtain ⟨more, rfl, hmore⟩ := h
      obtain ⟨x, rs, -, hx⟩ := hanswer q
      obtain ⟨a, b, cs, ds, hs, ht, hends⟩ := ih x (hmore x)
      refine ⟨a, b, (q, x) :: cs, (q, x) :: ds, fun w => ?_, fun w => ?_, ?_⟩
      · rw [run_call, trace, hx]
        exact ⟨(hs _).1, congrArg _ (hs _).2⟩
      · rw [run_call, trace, hx]
        exact ⟨(ht _).1, congrArg _ (ht _).2⟩
      · rcases hends with ⟨ha, hcs⟩ | ⟨hab, rfl⟩
        · exact Or.inl ⟨ha, List.cons_prefix_cons.mpr ⟨rfl, hcs⟩⟩
        · exact Or.inr ⟨hab, rfl⟩

namespace Sandbox

/-! ## Runs -/

/-- How a run ends and which calls it makes, in all worlds. -/
def ComesTo (fuel : Option Int) (logger : Text) (m : Module)
    (imports : ImportTable (Import (World Module Instance H))) (outcome : Except Failure Results)
    (cs : List (HostCall × Except Failure Value)) : Prop :=
  ∀ id w, (runModule id (engine fuel) logger m imports w).1 = outcome ∧
    calls id (engine fuel) logger m imports w = cs

/-- How a module is instantiated and which calls it makes meanwhile, in all worlds. -/
def Starts (fuel : Option Int) (logger : Text) (m : Module)
    (imports : ImportTable (Import (World Module Instance H))) (r : Except Failure Instance)
    (cs : List (HostCall × Except Failure Value)) : Prop :=
  ∀ id w, (World.instantiate id (engine fuel) m (linkTable logger imports) w).1 = r ∧
    startCalls id (engine fuel) logger m imports w = cs

/-- The run with the smaller budget has ended for want of fuel, after the first of the calls, or the
two are the same. -/
def ShortOf (c c' : Except Failure Results × List (HostCall × Except Failure Value)) : Prop :=
  c.1 = .error Trap.outOfFuel.failure ∧ c.2 <+: c'.2 ∨ c = c'

section Runs

variable {fuel fuel' : Option Int} (logger : Text) {m : Module}
  {imports : ImportTable (Import (World Module Instance H))}
  (hosts : ∀ act, imports.Offers act → World.Steady act)

include hosts

lemma answer_linkTable_steady (q : HostCall) :
    ∃ (x : Except Failure Value) (rs : List LogRecord), (∀ r ∈ rs, True) ∧
      ∀ w, World.answer (linkTable logger imports) q w = (x, w.writtenAll rs) :=
  World.answer_steady (Q := fun _ => True) (linkTable_steady (fun _ _ => trivial)
    fun act hact => (hosts act hact).steadyIn) q

variable (fuel fuel') in
/-- What is done with an instance, and with one whose budget is larger. -/
lemma enter_outlasted {i j : Instance} (h : i.Richer j) :
    ∃ c c', ShortOf c c' ∧ ∀ id (w : World Module Instance H),
      ((enter id (engine fuel) logger imports i w).1,
        entryCalls id (engine fuel) logger imports i w) = c ∧
      ((enter id (engine fuel') logger imports j w).1,
        entryCalls id (engine fuel') logger imports j w) = c' := by
  have hentry (f : Option Int) (k : Instance) (id : Nat) (w : World Module Instance H) :
      World.hasEntry id (engine f) k entryPoint w =
        (.ok (hasEntry k entryPoint), w.asked id (.hasEntry k entryPoint)) :=
    World.run_hasEntry id (engine f) w k entryPoint
  simp only [enter, entryCalls, World.run_bind, hentry, hasEntry_of_richer h]
  cases hasEntry i entryPoint with
  | false =>
      refine ⟨(.ok [], []), (.ok [], []), Or.inr rfl, fun id w => ?_⟩
      simp only [if_neg Bool.false_ne_true, World.run_bind, World.log, World.run_write]
      exact ⟨rfl, rfl⟩
  | true =>
      have hinvoke : ((engine fuel).invoke [] i entryPoint).Outlasted
          (· = .error Trap.outOfFuel.failure) (· = ·) ((engine fuel').invoke [] j entryPoint) :=
        (call_outlasted h entryPoint).map (fun _ hr => hr) fun _ _ hr => hr
      obtain ⟨a, b, cs, ds, hpoor, hrich, hends⟩ :=
        hinvoke.exists_run (answer_linkTable_steady logger hosts)
      refine ⟨(a.map fun v => [(entryPoint, v)], cs), (b.map fun v => [(entryPoint, v)], ds), ?_,
        fun id w => ⟨Prod.ext ?_ (hpoor _).2, Prod.ext ?_ (hrich _).2⟩⟩
      · rcases hends with ⟨rfl, hcs⟩ | ⟨rfl, rfl⟩
        · exact Or.inl ⟨rfl, hcs⟩
        · exact Or.inr rfl
      · rw [if_pos rfl, World.fst_bind_pure, World.run_invoke]
        exact congrArg _ (hpoor _).1
      · rw [if_pos rfl, World.fst_bind_pure, World.run_invoke]
        exact congrArg _ (hrich _).1

/-- How a module is instantiated with a budget, and with a larger one. -/
lemma starts_outlasted (hm : m.Plain) (h : AtMost (budget fuel) (budget fuel')) :
    ∃ r r' cs ds, Starts fuel logger m imports r cs ∧ Starts fuel' logger m imports r' ds ∧
      (r = .error Trap.outOfFuel.failure ∧ cs <+: ds ∨ Instance.SameOutcome r r' ∧ cs = ds) := by
  obtain ⟨r, r', cs, ds, hpoor, hrich, hends⟩ :=
    (instantiate_outlasted hm h ((linkTable logger imports).map Import.binding)).exists_run
      (answer_linkTable_steady logger hosts)
  refine ⟨r, r', cs, ds, fun id w => ⟨?_, (hpoor _).2⟩, fun id w => ⟨?_, (hrich _).2⟩, hends⟩
  · exact (congrArg Prod.fst (World.run_instantiate id (engine fuel) (linkTable logger imports)
      w m)).trans (hpoor _).1
  · exact (congrArg Prod.fst (World.run_instantiate id (engine fuel') (linkTable logger imports)
      w m)).trans (hrich _).1

omit hosts in
lemma Starts.comesTo_error {logger : Text} {e : Failure}
    {cs : List (HostCall × Except Failure Value)}
    (h : Starts fuel logger m imports (.error e) cs) :
    ComesTo fuel logger m imports (.error e) cs := by
  intro id w
  obtain ⟨hresult, hcalls⟩ := h id w
  rcases hrun : World.instantiate id (engine fuel) m (linkTable logger imports) w with ⟨r, v⟩
  rw [hrun] at hresult
  obtain rfl : r = .error e := hresult
  rw [runModule_eq, World.run_bind, calls, hrun]
  exact ⟨rfl, (List.append_nil _).trans hcalls⟩

omit hosts in
lemma Starts.comesTo_ok {logger : Text} {i : Instance}
    {cs : List (HostCall × Except Failure Value)}
    {c : Except Failure Results × List (HostCall × Except Failure Value)}
    (h : Starts fuel logger m imports (.ok i) cs)
    (henter : ∀ id (w : World Module Instance H),
      ((enter id (engine fuel) logger imports i w).1,
        entryCalls id (engine fuel) logger imports i w) = c) :
    ComesTo fuel logger m imports c.1 (cs ++ c.2) := by
  intro id w
  obtain ⟨hresult, hcalls⟩ := h id w
  rcases hrun : World.instantiate id (engine fuel) m (linkTable logger imports) w with ⟨r, v⟩
  rw [hrun] at hresult
  obtain rfl : r = .ok i := hresult
  obtain ⟨houtcome, hentered⟩ := Prod.mk.inj (henter id v)
  rw [runModule_eq, World.run_bind, calls, hrun]
  exact ⟨houtcome, congrArg₂ _ hcalls hentered⟩

/-- **Runs of a valid module** with a budget and with a larger one. -/
theorem runs_outlasted (hm : m.Plain) (h : AtMost (budget fuel) (budget fuel')) :
    ∃ c c', ShortOf c c' ∧ ComesTo fuel logger m imports c.1 c.2 ∧
      ComesTo fuel' logger m imports c'.1 c'.2 := by
  obtain ⟨r, r', cs, ds, hpoor, hrich, hends⟩ := starts_outlasted logger hosts hm h
  rcases hends with ⟨rfl, hcs⟩ | ⟨hab, rfl⟩
  · -- the smaller budget gives out while the module is instantiated
    have hshort := hpoor.comesTo_error
    cases r' with
    | error e =>
        exact ⟨(_, cs), (.error e, ds), Or.inl ⟨rfl, hcs⟩, hshort, hrich.comesTo_error⟩
    | ok j =>
        obtain ⟨c, c', -, henter⟩ := enter_outlasted fuel' fuel' logger hosts
          (Instance.Richer.refl j)
        exact ⟨(_, cs), (c.1, ds ++ c.2), Or.inl ⟨rfl, hcs.trans (List.prefix_append _ _)⟩, hshort,
          hrich.comesTo_ok fun id w => (henter id w).1⟩
  · cases hab with
    | error e =>
        exact ⟨(_, cs), (_, cs), Or.inr rfl, hpoor.comesTo_error, hrich.comesTo_error⟩
    | ok hricher =>
        obtain ⟨c, c', hends, henter⟩ :=
          enter_outlasted fuel fuel' logger hosts hricher
        refine ⟨(c.1, cs ++ c.2), (c'.1, cs ++ c'.2), ?_,
          hpoor.comesTo_ok fun id w => (henter id w).1,
          hrich.comesTo_ok fun id w => (henter id w).2⟩
        rcases hends with ⟨hfails, hcalls⟩ | rfl
        · exact Or.inl ⟨hfails, (List.prefix_append_right_inj cs).mpr hcalls⟩
        · exact Or.inr rfl

/-- A run that succeeds with a budget succeeds in the same way with a larger one. -/
lemma ComesTo.richer {logger : Text} {results : Results}
    {cs : List (HostCall × Except Failure Value)} (hm : m.Plain)
    (h : AtMost (budget fuel) (budget fuel')) (v : World Module Instance H)
    (hrun : ComesTo fuel logger m imports (.ok results) cs) :
    ComesTo fuel' logger m imports (.ok results) cs := by
  obtain ⟨c, c', hends, hpoor, hrich⟩ := runs_outlasted logger hosts hm h
  obtain ⟨houtcome, hcalls⟩ := hrun 0 v
  obtain ⟨hc, hcs⟩ := hpoor 0 v
  rcases hends with ⟨hfails, -⟩ | rfl
  · cases houtcome.symm.trans (hc.trans hfails)
  · rwa [← houtcome, hc, ← hcalls, hcs]

end Runs

/-- Compiling spends nothing. -/
lemma compiled_refuelled {fuel fuel' : Option Int} {id id' : Nat}
    {compileLogger compileLogger' source : Text} {a : Artifact Module}
    {w w' : World Module Instance H}
    (h : (Compiler.compileSource id (engine fuel) compileLogger source w).1 = .ok a) :
    (Compiler.compileSource id' (engine fuel') compileLogger' source w').1 = .ok a := by
  obtain ⟨u, hrun, -⟩ := Compiler.run_compileSource id (engine fuel) compileLogger source w
  obtain ⟨u', hrun', -⟩ := Compiler.run_compileSource id' (engine fuel') compileLogger' source w'
  rw [hrun] at h
  rw [hrun']
  exact h

/-! ## A module that gives a number -/

/-- A source whose entry point gives a number. -/
def answering : Text := "(module (func (export \"main\") (result i32) (i32.const 42)))"

/-- Whether an outcome is this number, given by the entry point. -/
def isNumber (n : Int) : Except Failure Results → Bool
  | .ok [(name, .int i)] => name = entryPoint && i = n
  | _ => false

/-- Whether an outcome is a failure of a run with this text. -/
def isFailedRun (text : Text) : Except Failure Results → Bool
  | .error (.stage .runtime t) => t = text
  | _ => false

lemma eq_of_isNumber {n : Int} {r : Except Failure Results} (h : isNumber n r) :
    r = .ok [(entryPoint, .int n)] := by
  unfold isNumber at h
  split at h
  · obtain ⟨hname, hi⟩ := Bool.and_eq_true_iff.mp h
    rw [of_decide_eq_true hname, of_decide_eq_true hi]
  · cases h

lemma eq_of_isFailedRun {text : Text} {r : Except Failure Results} (h : isFailedRun text r) :
    r = .error (.stage .runtime text) := by
  unfold isFailedRun at h
  split at h
  · rw [of_decide_eq_true h]
  · cases h

/-- A run of the module with a budget, in a world in which nothing has happened. -/
def ranFresh (fuel : Int) (a : Artifact Module) : Except Failure Results :=
  (runModule 0 (engine (some fuel)) loggerName a.module [] Packaging.freshWorld).1

/-- A source that is compiled there is compiled with any budget. -/
lemma compiled_of_compiledFresh {source : Text} {a : Artifact Module}
    (h : Packaging.compiledFresh source = .ok a) (fuel : Option Int) :
    (Compiler.compileSource 0 (engine fuel) Compiler.loggerName source
      Packaging.freshWorld).1 = .ok a := compiled_refuelled h

lemma exists_answering : ∃ a, Packaging.compiledFresh answering = .ok a ∧
    ranFresh 10000 a = .ok [(entryPoint, .int 42)] ∧
    ranFresh (2 ^ 64) a = .error Trap.outOfFuel.failure := by
  have hruns : (Packaging.compiledFresh answering).toOption.map (fun a =>
      isNumber 42 (ranFresh 10000 a) &&
        isFailedRun Trap.outOfFuel.message (ranFresh (2 ^ 64) a)) = some true := by
    decide +kernel
  cases hcompiled : Packaging.compiledFresh answering with
  | error f => rw [hcompiled] at hruns; cases hruns
  | ok a =>
      rw [hcompiled] at hruns
      obtain ⟨hnumber, hfails⟩ := Bool.and_eq_true_iff.mp (Option.some.inj hruns)
      exact ⟨a, rfl, eq_of_isNumber hnumber, eq_of_isFailedRun hfails⟩

/-! ## What a module needs -/

/-- The budget amounts to as much or more; having none is enough. -/
def Enough (need : Nat) (fuel : Option Int) : Prop := ∀ b ∈ budget fuel, need ≤ b

/-- Budgets that fit into 64 bits are what they amount to. -/
lemma budget_natCast {k : Nat} (hk : k < 2 ^ 64) : budget (some k) = some k := by
  have hmod : ((k : Int) % 0x10000000000000000).toNat = k := by omega
  exact congrArg some hmod

lemma lt_of_mem_budget {fuel : Option Int} {b : Nat} (h : b ∈ budget fuel) : b < 2 ^ 64 := by
  obtain ⟨n, -, rfl⟩ := Option.map_eq_some_iff.mp h
  omega

/-- As long as it fits, a larger budget amounts to more. -/
lemma Enough.mono {need : Nat} {n m : Int} (h : Enough need (some n)) (hn : 0 < n) (hle : n ≤ m)
    (hm : m < 2 ^ 64) : Enough need (some m) := by
  intro b hb
  obtain rfl : (m % 0x10000000000000000).toNat = b := Option.some.inj hb
  have hneed : need ≤ (n % 0x10000000000000000).toNat := h _ rfl
  omega

/-- A module needs the budget to come to the results: with as much or more it does, making the same
calls, and with less it ends for want of fuel, after the first of them. -/
structure Needs (need : Nat) (logger : Text) (m : Module)
    (imports : ImportTable (Import (World Module Instance H))) (results : Results)
    (cs : List (HostCall × Except Failure Value)) : Prop where
  enough : ∀ fuel, Enough need fuel → ComesTo fuel logger m imports (.ok results) cs
  short : ∀ fuel, ¬ Enough need fuel → ∃ before, before <+: cs ∧
    ComesTo fuel logger m imports (.error Trap.outOfFuel.failure) before

section Need

variable {id : Nat} {n : Int} {compileLogger logger source : Text} {a : Artifact Module}
  {m : Module} {imports : ImportTable (Import (World Module Instance H))} {results : Results}
  {cs : List (HostCall × Except Failure Value)} {w v : World Module Instance H}
  (hosts : ∀ act, imports.Offers act → World.Steady act)

/-- The module of an artifact that was compiled is valid. -/
lemma plain_of_compiled {fuel : Option Int}
    (h : (Compiler.compileSource id (engine fuel) compileLogger source w).1 = .ok a) :
    a.module.Plain := by
  obtain ⟨-, -, -, hload⟩ := Packaging.compiled_parts h
  unfold load at hload
  split at hload
  · split_ifs at hload with hvalid
    exact Except.ok.inj hload ▸ Module.plain_of_isValid hvalid
  · cases hload

include hosts

/-- Only what a budget amounts to matters. -/
lemma ComesTo.natural (hm : m.Plain) (v : World Module Instance H) {fuel : Option Int} {k : Nat}
    (hk : k ∈ budget fuel) (h : ComesTo fuel logger m imports (.ok results) cs) :
    ComesTo (some k) logger m imports (.ok results) cs := by
  refine h.richer hosts hm ?_ v
  rw [budget_natCast (lt_of_mem_budget hk), Option.mem_def.mp hk]
  exact .refl _

/-- The least budget with which a module comes to the results is the one that it needs. -/
lemma needs_of_least (hm : m.Plain) (v : World Module Instance H) {need : Nat}
    (hlt : need < 2 ^ 64) (hneed : ComesTo (some need) logger m imports (.ok results) cs)
    (hleast : ∀ k : Nat, k < 2 ^ 64 → ComesTo (some k) logger m imports (.ok results) cs →
      need ≤ k) : Needs need logger m imports results cs where
  enough fuel henough :=
    hneed.richer hosts hm (fun b hb => ⟨need, budget_natCast hlt, henough b hb⟩) v
  short fuel hshort := by
    obtain ⟨b, hb, hless⟩ : ∃ b ∈ budget fuel, b < need := by
      by_contra hall
      exact hshort fun b hb => Nat.le_of_not_lt fun hlt => hall ⟨b, hb, hlt⟩
    have hatMost : AtMost (budget fuel) (budget (some (need : Int))) := by
      intro b' hb'
      rw [budget_natCast hlt, Option.mem_some_iff] at hb'
      exact ⟨b, hb, hb' ▸ hless.le⟩
    obtain ⟨c, c', hends, hpoor, hrich⟩ := runs_outlasted logger hosts hm hatMost
    obtain ⟨houtcome, hcalls⟩ := hneed 0 v
    obtain ⟨houtcome', hcalls'⟩ := hrich 0 v
    rcases hends with ⟨hfails, hprefix⟩ | rfl
    · exact ⟨c.2, hcalls.symm.trans hcalls' ▸ hprefix, hfails ▸ hpoor⟩
    · -- it cannot do as well, since it amounts to less
      rw [← houtcome', houtcome, ← hcalls', hcalls] at hpoor
      have hle := hleast b (lt_of_mem_budget hb) (hpoor.natural hosts hm v hb)
      exact absurd hle (Nat.not_le.mpr hless)

/-- **A run that succeeds** needs some budget.  It was given that much, and every larger budget that
fits into 64 bits amounts to as much; the source is compiled in the same way with any budget. -/
theorem exists_need (hn : 0 < n)
    (hcompiled : (Compiler.compileSource id (engine (some n)) compileLogger source w).1 = .ok a)
    (hrun : (runModule id (engine (some n)) logger a.module imports v).1 = .ok results) :
    ∃ need, Enough need (some n) ∧ (∀ m, n ≤ m → m < 2 ^ 64 → Enough need (some m)) ∧
      Needs need logger a.module imports results
        (calls id (engine (some n)) logger a.module imports v) ∧
      ∀ fuel id compileLogger (w : World Module Instance H),
        (Compiler.compileSource id (engine fuel) compileLogger source w).1 = .ok a := by
  classical
  have hm := plain_of_compiled hcompiled
  have hsucceeds : ComesTo (some n) logger a.module imports (.ok results)
      (calls id (engine (some n)) logger a.module imports v) := by
    obtain ⟨c, -, -, hcomes, -⟩ := runs_outlasted logger hosts hm (.refl (budget (some n)))
    obtain ⟨houtcome, hcalls⟩ := hcomes id v
    rwa [← hrun, houtcome, hcalls]
  have hbudget : (n % 0x10000000000000000).toNat ∈ budget (some n) := rfl
  have hsome : ∃ k : Nat, k < 2 ^ 64 ∧ ComesTo (some k) logger a.module imports (.ok results)
      (calls id (engine (some n)) logger a.module imports v) :=
    ⟨_, lt_of_mem_budget hbudget, hsucceeds.natural hosts hm v hbudget⟩
  obtain ⟨hlt, hneed⟩ := Nat.find_spec hsome
  have henough : Enough (Nat.find hsome) (some n) := fun b hb =>
    Nat.find_min' hsome ⟨lt_of_mem_budget hb, hsucceeds.natural hosts hm v hb⟩
  exact ⟨_, henough, fun m => henough.mono hn,
    needs_of_least hosts hm v hlt hneed fun k hk hruns => Nat.find_min' hsome ⟨hk, hruns⟩,
    fun _ _ _ _ => compiled_refuelled hcompiled⟩

end Need

/-- A module with an ample budget, which could be larger or missing. -/
theorem exists_need_answering : ∃ a : Artifact Module,
    Packaging.compiledFresh answering = .ok a ∧
    ranFresh 10000 a = .ok [(entryPoint, .int 42)] ∧
    ∃ need, Enough need (some 10000) ∧ Enough need (some 20000) ∧
      Needs (H := Unit) need loggerName a.module [] [(entryPoint, .int 42)]
        (calls 0 (engine (some 10000)) loggerName a.module [] Packaging.freshWorld) := by
  obtain ⟨a, hcompiled, hruns, -⟩ := exists_answering
  have hbudgeted := compiled_of_compiledFresh hcompiled (some 10000)
  obtain ⟨need, henough, hlarger, hneeds, -⟩ := exists_need
    (fun act hact => absurd hact (ImportTable.not_offers_nil act)) (by decide) hbudgeted hruns
  exact ⟨a, hcompiled, hruns, need, henough, hlarger 20000 (by decide) (by decide), hneeds⟩

/-- It runs with a small budget and not with a large one. -/
theorem runs_wrapped : ∃ a : Artifact Module,
    (∀ fuel, (Compiler.compileSource 0 (engine fuel) Compiler.loggerName answering
      Packaging.freshWorld).1 = .ok a) ∧
    (10000 : Int) ≤ 2 ^ 64 ∧ ranFresh 10000 a = .ok [(entryPoint, .int 42)] ∧
    ranFresh (2 ^ 64) a = .error Trap.outOfFuel.failure := by
  obtain ⟨a, hcompiled, hsmall, hlarge⟩ := exists_answering
  exact ⟨a, compiled_of_compiledFresh hcompiled, by decide, hsmall, hlarge⟩

end Sandbox

end WatWorkbench
