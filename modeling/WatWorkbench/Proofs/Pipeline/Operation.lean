import WatWorkbench.Proofs.Pipeline.Compilation
import WatWorkbench.Proofs.Pipeline.Imports

/-!
# Operations and the code that calls them

An operation is a request with the host functions that go with it.  Host functions are code of the
same kind as that which calls operations in the first place: they may call the pipeline again.

* `Pipeline.Request`, `Pipeline.Operation`, `Pipeline.perform` — the operations of a pipeline.
* `run_preserves_each`, `package_preserves_each`, … — what an operation keeps, from what its parts
  keep.
* `Pipeline.Client` — code that uses a pipeline through its operations.
* **`Client.preserves`** — such code keeps what all operations keep.
* `callingBack` — an engine for examples, whose modules call a host function.
-/

namespace WatWorkbench.Pipeline

variable {M I H α : Type}

/-! ## Operations -/

/-- What a pipeline is asked for. -/
inductive Request where
  | compile (source : Text)
  | run
  | compileAndRun (source : Text)
  | package (path : Option Path)
  | loadExample (key : Value)
  | clearLogs

/-- The source that is compiled, if one is. -/
def Request.source? : Request → Option Text
  | compile source | compileAndRun source => some source
  | _ => none

/-- A request with the host functions that a run is given. -/
structure Operation (W : Type) where
  request : Request
  /-- The host functions.  Only runs use them. -/
  imports : ImportTable (Import W) := []

/-- Carries out an operation. -/
def perform (p : Pipeline M I) (op : Operation (World M I H)) : Act (World M I H) Unit :=
  match op.request with
  | .compile source => do
    let _ ← p.compile source
    return ()
  | .run => do
    let _ ← p.run op.imports
    return ()
  | .compileAndRun source => do
    let _ ← p.compileAndRun source op.imports
    return ()
  | .package path => do
    let _ ← p.package path
    return ()
  | .loadExample key => do
    let _ ← p.loadExample key
    return ()
  | .clearLogs => p.clearLogs

/-- An operation leaves the world as what it calls does. -/
lemma run_discard (act : Act (World M I H) α) (w : World M I H) :
    (do let _ ← act; return () : Act (World M I H) Unit) w =
      ((act w).1.map fun _ => (), (act w).2) := by
  rw [World.run_bind]
  rcases act w with ⟨e | a, v⟩ <;> rfl

section Performing

variable (p : Pipeline M I) (source : Text) (imports : ImportTable (Import (World M I H)))
  (w : World M I H)

lemma perform_compile : perform p ⟨.compile source, imports⟩ w =
    ((p.compile source w).1.map fun _ => (), (p.compile source w).2) := run_discard _ _

lemma perform_run : perform p ⟨.run, imports⟩ w =
    ((p.run imports w).1.map fun _ => (), (p.run imports w).2) := run_discard _ _

lemma perform_compileAndRun : perform p ⟨.compileAndRun source, imports⟩ w =
    ((p.compileAndRun source imports w).1.map fun _ => (), (p.compileAndRun source imports w).2) :=
  run_discard _ _

/-- Compiling and running is compiling and, if that succeeds, running. -/
lemma run_compileAndRun : p.compileAndRun source imports w = match p.compile source w with
    | (.ok _, v) => p.run imports v
    | (.error e, v) => (.error e, v) := by
  rw [compileAndRun, World.run_bind]
  rcases p.compile source w with ⟨e | a, v⟩ <;> rfl

end Performing

lemma run_clearLogs (p : Pipeline M I) (w : World M I H) :
    p.clearLogs w =
      (.ok (), (w.withBook p.id (·.clear)).withSession p.id ({ · with output := "" })) := rfl

/-! ## Modules that call back -/

/-- An engine that translates every text but one, and whose modules call a host function and give
what it returns. -/
def callingBack (refused module name : Text) : Engine Unit Unit where
  compile _ source := if source = refused then .error (.stage .compile "refused") else .ok []
  load _ _ := .ok ()
  instantiate _ _ _ := .done (.ok ())
  hasEntry _ _ _ := .ok true
  invoke _ _ _ := .call ⟨module, name, {}, []⟩ .done

/-- A module of such an engine gives what the host function returns. -/
lemma runModule_callingBack {refused module name logger : Text} {id : Nat} {value : Value}
    {imports : ImportTable (Import (World Unit Unit H))}
    (h : ∀ v, (World.answer (ImportTable.merge (Sandbox.defaultImports logger) imports)
      ⟨module, name, {}, []⟩ v).1 = .ok value) (w : World Unit Unit H) :
    (Sandbox.runModule id (callingBack refused module name) logger () imports w).1 =
      .ok [(Sandbox.entryPoint, value)] := by
  have hcall : ∀ (table : ImportTable (Import (World Unit Unit H))) v,
      World.runScript table (.call ⟨module, name, {}, []⟩ .done) v =
        World.answer table ⟨module, name, {}, []⟩ v := fun _ _ => rfl
  have hdone : ∀ (table : ImportTable (Import (World Unit Unit H))) v,
      World.runScript table (.done (.ok ())) v = (.ok (), v) := fun _ _ => rfl
  simp only [Sandbox.runModule, World.instantiate, World.hasEntry, World.invoke, World.run_bind,
    World.run_ask, callingBack, World.run_settle, hdone, hcall, if_true]
  generalize ((w.asked id _).asked id _).asked id _ = v
  specialize h v
  rcases hr : World.answer _ _ v with ⟨r, v'⟩
  rw [hr] at h
  obtain rfl : r = .ok value := h
  rfl

/-! ## What operations keep -/

section KeepingEach

/- What is kept while a channel is captured need not be what is kept otherwise, so several properties
are kept together. -/
variable {p : Pipeline M I} {κ : Type*} {P : κ → World M I H → Prop}
  (hwrite : ∀ k r, World.Preserves (P k) (World.write r))
  (hcapture : ∀ {α : Type} (body : Act (World M I H) α), (∀ k, World.Preserves (P k) body) →
    ∀ k, World.Preserves (P k) (p.captured body))

include hwrite hcapture in
lemma requireArtifact_preserves_each (message : Text) (k : κ) :
    World.Preserves (P k) (p.requireArtifact message) := by
  refine .bind (fun w hw => hw) fun s => ?_
  split
  · exact .pure _
  · exact (hcapture _ (fun k => hwrite k _) k).bind fun _ => .throw _

include hwrite hcapture in
lemma loadExample_preserves_each (key : Value) (k : κ) :
    World.Preserves (P k) (p.loadExample key) :=
  .bind (.settle _) fun _ => (hcapture _ (fun k => hwrite k _) k).bind fun _ => .pure _

include hwrite hcapture in
lemma package_preserves_each (hfiles : ∀ k w files, P k w → P k { w with files })
    (path : Option Path) (k : κ) : World.Preserves (P k) (p.package path) := by
  refine .bind (requireArtifact_preserves_each hwrite hcapture _ k) fun a => ?_
  refine hcapture _ (fun k => ?_) k
  refine .bind (.attempt ?_) fun r => ?_
  · refine .bind (.bind (.settle _) fun _ => (hwrite k _).bind fun _ => .pure _) fun data => ?_
    split
    · exact .bind (fun w hw => hfiles k w _ hw) fun _ => .pure _
    · exact .bind (.pure ()) fun _ => .pure _
  · split
    · exact (hwrite k _).bind fun _ => .pure _
    · split
      · exact (hwrite k _).bind fun _ => .throw _
      · exact .bind (.pure ()) fun _ => .throw _

include hwrite hcapture in
/-- A run keeps what its host functions keep, if what it changes of the session itself does not
matter.  It never changes the artifact. -/
lemma run_preserves_each (hask : ∀ k c, World.Preserves (P k) (World.ask p.id c))
    (hsession : ∀ k change, (∀ s, (change s).artifact = s.artifact) →
      World.Preserves (P k) (p.changeSession change))
    {imports : ImportTable (Import (World M I H))}
    (hosts : ∀ act, imports.Offers act → ∀ k, World.Preserves (P k) act) (k : κ) :
    World.Preserves (P k) (p.run imports) := by
  have henter : ∀ k state, World.Preserves (P k) (p.enter state) :=
    fun k state => hsession k ({ · with state }) fun _ => rfl
  refine .bind (requireArtifact_preserves_each hwrite hcapture _ k) fun a => ?_
  refine (henter k _).bind fun _ => .bind (hcapture _ (fun k => ?_) k) fun results =>
    (henter k _).bind fun _ => .pure _
  refine (hwrite k _).bind fun _ => ?_
  refine .bind (.attempt (Sandbox.runModule_preserves (hwrite k) (hask k)
    fun act hact => hosts act hact k)) fun r => ?_
  split
  · next results =>
      refine (hsession k ({ · with lastResult := some results }) fun _ => rfl).bind fun _ => ?_
      refine .bind (.settle _) fun output => ?_
      refine (hsession k ({ · with output }) fun _ => rfl).bind fun _ => ?_
      exact (hwrite k _).bind fun _ => .pure _
  · exact (henter k _).bind fun _ => (hwrite k _).bind fun _ => .throw _

end KeepingEach

section Keeping

variable {p : Pipeline M I} {P : World M I H → Prop}
  (hwrite : ∀ r, World.Preserves P (World.write r))
  (hcapture : ∀ {α : Type} (body : Act (World M I H) α), World.Preserves P body →
    World.Preserves P (p.captured body))

include hwrite hcapture in
lemma loadExample_preserves (key : Value) : World.Preserves P (p.loadExample key) :=
  loadExample_preserves_each (P := fun _ : Unit => P) (fun _ => hwrite)
    (fun body hbody _ => hcapture body (hbody ())) key ()

include hwrite hcapture in
lemma package_preserves (hfiles : ∀ w files, P w → P { w with files }) (path : Option Path) :
    World.Preserves P (p.package path) :=
  package_preserves_each (P := fun _ : Unit => P) (fun _ => hwrite)
    (fun body hbody _ => hcapture body (hbody ())) (fun _ => hfiles) path ()

include hwrite hcapture in
lemma run_preserves (hask : ∀ c, World.Preserves P (World.ask p.id c))
    (hsession : ∀ change, (∀ s, (change s).artifact = s.artifact) →
      World.Preserves P (p.changeSession change))
    {imports : ImportTable (Import (World M I H))}
    (hosts : ∀ act, imports.Offers act → World.Preserves P act) :
    World.Preserves P (p.run imports) :=
  run_preserves_each (P := fun _ : Unit => P) (fun _ => hwrite)
    (fun body hbody _ => hcapture body (hbody ())) (fun _ => hask) (fun _ => hsession)
    (fun act hact _ => hosts act hact) ()

end Keeping

/-- Packaging, loading an example and emptying the log keep what concerns neither the logging nor
the files nor the output. -/
lemma quiet_preserves {p : Pipeline M I} {P : World M I H → Prop}
    (hlogs : ∀ w logs, P w → P { w with logs }) (hfiles : ∀ w files, P w → P { w with files })
    (houtput : ∀ w, P w → P (w.withSession p.id ({ · with output := "" })))
    {op : Operation (World M I H)} (hsource : op.request.source? = none)
    (hrun : op.request ≠ .run) : World.Preserves P (perform p op) := by
  have hwrite : ∀ r, World.Preserves P (World.write r) := fun r w hw => by
    rw [World.run_write]
    exact hlogs w _ hw
  have hcapture : ∀ {α : Type} (body : Act (World M I H) α), World.Preserves P body →
      World.Preserves P (p.captured body) := fun _ hbody => .capturing hlogs hbody _ _
  obtain ⟨request, imports⟩ := op
  cases request with
  | compile source => cases hsource
  | run => exact absurd rfl hrun
  | compileAndRun source => cases hsource
  | package path => exact (package_preserves hwrite hcapture hfiles path).bind fun _ => .pure _
  | loadExample key => exact (loadExample_preserves hwrite hcapture key).bind fun _ => .pure _
  | clearLogs =>
      intro w hw
      exact houtput _ (hlogs w _ hw)

/-! ## Code that calls operations -/

/-- Code that uses a pipeline, such as a host function.  What it does of its own stays within `Own`;
apart from that it calls operations, in any order and whatever they raise, with host functions that
are such code themselves.  It may also run other pipelines with such host functions.  `compile` is
its way to have a source compiled; compiling and running is the one after the other. -/
inductive Client (p : Pipeline M I) (compile : Text → Act (World M I H) (Artifact M))
    (Own : World M I H → World M I H → Prop) : {α : Type} → Act (World M I H) α → Prop
  | own {α : Type} {act : Act (World M I H) α} (h : ∀ w, Own w (act w).2) : Client p compile Own act
  | bind {α β : Type} {act : Act (World M I H) α} {next : α → Act (World M I H) β}
      (hact : Client p compile Own act) (hnext : ∀ a, Client p compile Own (next a)) :
      Client p compile Own (act >>= next)
  | attempt {α : Type} {act : Act (World M I H) α} (hact : Client p compile Own act) :
      Client p compile Own (World.attempt act)
  | compile (source : Text) : Client p compile Own (compile source)
  | run (q : Pipeline M I) (hq : q.id = p.id → q = p) (imports : ImportTable (Import (World M I H)))
      (hosts : ∀ act, imports.Offers act → Client p compile Own act) :
      Client p compile Own (q.run imports)
  | package (path : Option Path) : Client p compile Own (p.package path)
  | loadExample (key : Value) : Client p compile Own (p.loadExample key)
  | clearLogs : Client p compile Own p.clearLogs

/-- **Code keeps what all it calls keeps.** -/
theorem Client.preserves {p : Pipeline M I} {compile : Text → Act (World M I H) (Artifact M)}
    {Own : World M I H → World M I H → Prop} {P : World M I H → Prop}
    (own : ∀ w w', Own w w' → P w → P w')
    (compiling : ∀ source, World.Preserves P (compile source))
    (running : ∀ (q : Pipeline M I) imports, (q.id = p.id → q = p) →
      (∀ act, imports.Offers act → World.Preserves P act) → World.Preserves P (q.run imports))
    (packaging : ∀ path, World.Preserves P (p.package path))
    (loading : ∀ key, World.Preserves P (p.loadExample key))
    (clearing : World.Preserves P (p.clearLogs))
    {act : Act (World M I H) α} (h : Client p compile Own act) : World.Preserves P act := by
  induction h with
  | own h => exact fun w hw => own w _ (h w) hw
  | bind _ _ hact hnext => exact hact.bind hnext
  | attempt _ hact => exact hact.attempt
  | compile source => exact compiling source
  | run q hq imports _ hosts => exact running q imports hq hosts
  | package path => exact packaging path
  | loadExample key => exact loading key
  | clearLogs => exact clearing

end WatWorkbench.Pipeline
