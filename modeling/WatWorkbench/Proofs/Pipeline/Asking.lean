import WatWorkbench.Proofs.Pipeline.Settlement

/-!
# What an engine is asked

An engine is asked to translate a source and to load the binary that came of it, and to link a
module, to tell whether the instance has an entry point and to call it.  Each question follows only
if the one before it was answered as it should be.  Nothing else asks an engine anything: host
functions may call the pipeline again, but then its channel is being captured, and it refuses.

* `Sandbox.asks` — what running a module asks; `Sandbox.runModule_histories` — it asks just that.
* `Pipeline.asks` — what an operation asks; **`perform_histories`** — it asks just that.
* `Pipeline.Turn`, `Pipeline.Successive` — calls of operations, one after another.
* **`histories_of_successive`** — in the end an engine has been asked what the operations ask, in
  their order.
-/

namespace WatWorkbench

variable {M I H : Type}

/-! ## Questions -/

namespace World

variable (id : Nat) (e : Engine M I) (table : ImportTable (Import (World M I H))) (w : World M I H)

lemma run_instantiate (m : M) : instantiate id e m table w =
    runScript table (e.instantiate (w.histories id) m (table.map Import.binding))
      (w.asked id (.instantiate m (table.map Import.binding))) := by
  simp only [instantiate, run_bind, run_ask]

lemma run_hasEntry (i : I) (name : Text) : hasEntry id e i name w =
    (e.hasEntry (w.histories id) i name, w.asked id (.hasEntry i name)) := by
  simp only [hasEntry, run_bind, run_ask, run_settle]

lemma run_invoke (i : I) (name : Text) : invoke id e i name table w =
    runScript table (e.invoke (w.histories id) i name) (w.asked id (.invoke i name)) := by
  simp only [invoke, run_bind, run_ask]

lemma snd_bind_pure {α β : Type} (act : Act (World M I H) α) (f : α → β) :
    ((act >>= fun a => pure (f a)) w).2 = (act w).2 := by
  rw [run_bind]
  rcases act w with ⟨r | r, v⟩ <;> rfl

end World

/-! ## A module -/

namespace Sandbox

section Asks

variable (id : Nat) (e : Engine M I) (logger : Text) (m : M)
  (imports : ImportTable (Import (World M I H)))

/-- The host functions that a module is linked with: the default ones, overlaid with the caller's. -/
def linkTable : ImportTable (Import (World M I H)) :=
  ImportTable.merge (defaultImports logger) imports

/-- The question that links the module with them. -/
def linking : EngineCall M I := .instantiate m ((linkTable logger imports).map Import.binding)

/-- What is asked of an instance: whether it has an entry point and, if it has, to call it. -/
def entryAsks (asked : History M I) (i : I) : History M I :=
  .hasEntry i entryPoint :: match e.hasEntry asked i entryPoint with
    | .ok true => [.invoke i entryPoint]
    | .ok false | .error _ => []

/-- What the engine is asked when a module is run: to link it and, if that gives an instance, what
is asked of an instance. -/
def asks (w : World M I H) : History M I :=
  linking logger m imports :: match (World.instantiate id e m (linkTable logger imports) w).1 with
    | .ok i => entryAsks e (w.histories id ++ [linking logger m imports]) i
    | .error _ => []

end Asks

section Module

variable {id : Nat} {e : Engine M I} (logger : Text) {m : M}
  {imports : ImportTable (Import (World M I H))} {P : World M I H → Prop}
  (hwrite : ∀ r, World.Preserves P (World.write r))
  (hask : ∀ c, World.Preserves P (World.ask id c))
  (hosts : ∀ act, imports.Offers act → ∀ asked,
    World.Preserves (fun w => P w ∧ w.histories id = asked) act)

include hwrite hosts in
/-- The calls of a module ask nothing, if the host functions of the caller do not. -/
lemma runScript_histories {α : Type} (s : Script (Except Failure α)) {w : World M I H} (hw : P w) :
    P (World.runScript (linkTable logger imports) s w).2 ∧
      (World.runScript (linkTable logger imports) s w).2.histories id = w.histories id :=
  World.Preserves.runScript (answer_merge_preserves logger
    (fun r w h => ⟨hwrite r w h.1, by rw [World.run_write]; exact h.2⟩)
    fun act hact => hosts act hact (w.histories id)) s w ⟨hw, rfl⟩

include hwrite hask hosts in
/-- **A run of a module** asks the engine just this, if its host functions ask it nothing. -/
theorem runModule_histories {w : World M I H} (hw : P w) :
    (runModule id e logger m imports w).2.histories id =
      w.histories id ++ asks id e logger m imports w := by
  have hasked : ∀ c (v : World M I H), P v → P (v.asked id c) := fun c v hv => by
    have hv := hask c v hv
    rwa [World.run_ask] at hv
  have hlinked := runScript_histories logger hwrite hosts
    (e.instantiate (w.histories id) m ((linkTable logger imports).map Import.binding))
    (hasked (linking logger m imports) w hw)
  rw [linking, ← World.run_instantiate, World.asked_histories_self, ← linking] at hlinked
  rw [asks, runModule, ← linkTable, World.run_bind]
  -- what has been asked so far decides what is asked next, so the history is followed all the way
  rcases hrun : World.instantiate id e m (linkTable logger imports) w with ⟨f | i, v⟩
  · rw [hrun] at hlinked
    exact hlinked.2
  · rw [hrun] at hlinked
    obtain ⟨hv, hhistory⟩ := hlinked
    dsimp only at hv hhistory ⊢
    rw [World.run_bind, World.run_hasEntry, entryAsks, ← hhistory]
    rcases hentry : e.hasEntry (v.histories id) i entryPoint with f | _ | _
    · simp [hhistory]
    · simp [World.log, World.run_bind, hhistory]
    · have hinvoked := runScript_histories logger hwrite hosts
        (e.invoke (v.histories id ++ [.hasEntry i entryPoint]) i entryPoint)
        (hasked (.invoke i entryPoint) _ (hasked (.hasEntry i entryPoint) v hv))
      rw [← World.asked_histories_self, ← World.run_invoke] at hinvoked
      dsimp only
      rw [if_pos rfl, World.snd_bind_pure, hinvoked.2]
      simp [hhistory]

end Module

end Sandbox

namespace Pipeline

variable {p : Pipeline M I} {w : World M I H}

/-! ## Calls of host functions -/

/-- What code does apart from calling the pipeline: it leaves session and channel alone, and it does
not ask the pipeline's engine anything. -/
def Discreet (p : Pipeline M I) (w w' : World M I H) : Prop :=
  p.Aside w w' ∧ w'.histories p.id = w.histories p.id

/-- While a call has the pipeline's channel captured, its engine has been asked `asked`. -/
def Heard (p : Pipeline M I) (a : Artifact M) (asked : History M I) (w : World M I H) : Prop :=
  p.Busy a w ∧ w.histories p.id = asked

section Heard

variable {a : Artifact M} {asked : History M I}

/-- What the engine has been asked, no operation undoes either. -/
def askedSoFar (asked : History M I) (s : Session M) (history : History M I) : Prop :=
  transientState s history ∧ history = asked

lemma lasting_askedSoFar : Lasting (askedSoFar asked : Session M → History M I → Prop) where
  compiling _ _ h := ⟨lasting_transientState.compiling _ _ h.1, h.2⟩
  running _ _ h := ⟨lasting_transientState.running _ _ h.1, h.2⟩
  clearing _ _ h := ⟨lasting_transientState.clearing _ _ h.1, h.2⟩

lemma heard_iff : p.Heard a asked w ↔ p.Underway a (askedSoFar asked) w :=
  ⟨fun h => ⟨h.1.held, h.1.artifact, h.1.transient, h.2⟩,
    fun h => ⟨⟨h.held, h.artifact, h.known.1⟩, h.known.2⟩⟩

/-- Host functions ask the engine nothing, whatever they call. -/
lemma Client.heard {α : Type} {act : Act (World M I H) α} (h : Client p p.compile p.Discreet act) :
    World.Preserves (p.Heard a asked) act := fun w hw =>
  heard_iff.mpr (h.underway lasting_askedSoFar
    (fun _ _ hdiscreet hv => hv.congr hdiscreet.1.2 hdiscreet.1.1 hdiscreet.2) w
    (heard_iff.mp hw))

end Heard

/-! ## Operations -/

section Operations

variable (p w)

/-- What compiling asks: nothing if the channel is refused. -/
def compileAsks (source : Text) : History M I :=
  if p.channel ∈ w.logs.captured then [] else Compiler.asks p.engine (w.histories p.id) source

/-- The world in which the module is run. -/
def moduleStarted : World M I H :=
  match ({ book := p.id, channel := p.channel } : Interceptor).enter w.logs with
  | .ok (_, entered) => (p.runStarted w entered).written (p.record .info running)
  | .error _ => w

/-- What running asks: nothing without an artifact or if the channel is refused. -/
def runAsks (imports : ImportTable (Import (World M I H))) : History M I :=
  match (w.sessions p.id).artifact with
  | none => []
  | some a =>
    if p.channel ∈ w.logs.captured then []
    else Sandbox.asks p.id p.engine p.channel a.module imports (p.moduleStarted w)

/-- What an operation asks.  Compiling and running asks what running does only if compiling has
given an artifact. -/
def asks (op : Operation (World M I H)) : History M I :=
  match op.request with
  | .compile source => p.compileAsks w source
  | .run => p.runAsks w op.imports
  | .compileAndRun source => p.compileAsks w source ++ match p.compile source w with
    | (.ok _, v) => p.runAsks v op.imports
    | (.error _, _) => []
  | .package _ | .loadExample _ | .clearLogs => []

variable {p w}

lemma runFinished_histories (v : World M I H) (r : Except Failure Results) :
    (p.runFinished v r).2.histories = v.histories := by
  unfold runFinished
  split
  · dsimp only
    split <;> rfl
  · rfl

lemma runEnded_histories (i : Interceptor) (body : Except Failure Results × World M I H) :
    (p.runEnded i body).2.histories = body.2.histories := by
  unfold runEnded
  split <;> rfl

lemma run_histories {imports : ImportTable (Import (World M I H))}
    (hosts : ∀ act, imports.Offers act → Client p p.compile p.Discreet act) :
    (p.run imports w).2.histories p.id = w.histories p.id ++ p.runAsks w imports := by
  rw [runAsks]
  cases ha : (w.sessions p.id).artifact with
  | none =>
      obtain ⟨v, hrun, -, hhistories⟩ := p.run_of_absent imports ha
      rw [hrun, hhistories, List.append_nil]
  | some a =>
      dsimp only
      split_ifs with hheld
      · rw [p.run_of_held imports ha hheld, List.append_nil]
        rfl
      · obtain ⟨i, entered, -, hlist, henter, hrun⟩ := p.run_of_free ha hheld
        have hstarted : p.moduleStarted w =
            (p.runStarted w entered).written (p.record .info running) := by
          rw [moduleStarted, henter]
        have hbusy : p.Busy a (p.runStarted w entered) := busy_runStarted ha (by simp [hlist])
        have hwritten := Busy.write (p.record .info running) _ hbusy
        rw [World.run_write] at hwritten
        dsimp only at hwritten
        have hmodule := Sandbox.runModule_histories (e := p.engine) p.channel (m := a.module)
          Busy.write (fun c w h => h.congr ⟨rfl, fun hc => hc⟩)
          (fun act hact asked => (hosts act hact).heard) hwritten
        rcases hbody : Sandbox.runModule p.id p.engine p.channel a.module imports
          ((p.runStarted w entered).written (p.record .info running)) with ⟨r, v⟩
        rw [hbody] at hmodule
        rw [hrun, p.run_runLogged a imports _ hbody, runEnded_histories, runFinished_histories,
          hmodule, hstarted]
        rfl

/-- **What an operation asks.**  Its engine is asked just that, if the host functions ask it
nothing. -/
theorem perform_histories {op : Operation (World M I H)}
    (hosts : ∀ act, op.imports.Offers act → Client p p.compile p.Discreet act) :
    (perform p op w).2.histories p.id = w.histories p.id ++ p.asks w op := by
  obtain ⟨request, imports⟩ := op
  cases request with
  | compile source =>
      rw [perform_compile]
      exact p.compile_histories source w
  | run =>
      rw [perform_run]
      exact run_histories hosts
  | compileAndRun source =>
      have hcompile := p.compile_histories source w
      rw [perform_compileAndRun, run_compileAndRun]
      simp only [asks, compileAsks]
      rcases hrun : p.compile source w with ⟨e | a, v⟩ <;> rw [hrun] at hcompile
      · rw [List.append_nil]
        exact hcompile
      · -- running finds the artifact and the history that compiling has left
        rw [← List.append_assoc, ← hcompile]
        exact run_histories hosts
  | package | loadExample | clearLogs =>
      rw [asks, List.append_nil]
      exact quiet_preserves (P := fun v => v.histories p.id = w.histories p.id) (fun _ _ h => h)
        (fun _ _ h => h) (fun _ h => h) rfl (by simp) w rfl

end Operations

/-! ## Calls one after another -/

/-- A call of an operation from outside, with host functions that do not ask the engine anything
themselves. -/
structure Turn (p : Pipeline M I) (H : Type) where
  operation : Operation (World M I H)
  before : World M I H
  hosts : ∀ act, operation.imports.Offers act → Client p p.compile p.Discreet act

namespace Turn

variable (c : Turn p H)

def left : World M I H := (perform p c.operation c.before).2

/-- What the engine is asked during the call. -/
def asks : History M I := p.asks c.before c.operation

end Turn

/-- Each call finds the session and the history that the one before it has left, and the first one
finds the given ones.  Everything else may have changed in between. -/
def Successive {p : Pipeline M I} : Session M → History M I → List (Turn p H) → Prop
  | _, _, [] => True
  | s, asked, c :: cs => c.before.sessions p.id = s ∧ c.before.histories p.id = asked ∧
      Successive (c.left.sessions p.id) (c.left.histories p.id) cs

/-- What the engine has been asked in the end, if it had been asked `asked` at first. -/
def finalHistory {p : Pipeline M I} : History M I → List (Turn p H) → History M I
  | asked, [] => asked
  | _, c :: cs => finalHistory (c.left.histories p.id) cs

/-- **What an engine is asked.**  Whatever operations of a pipeline are called one after another,
with whatever engine, in the end it has been asked what each of them asks, in their order, and
nothing else. -/
theorem histories_of_successive (calls : List (Turn p H)) {s : Session M} {asked : History M I}
    (h : Successive s asked calls) :
    finalHistory asked calls = asked ++ calls.flatMap Turn.asks := by
  induction calls generalizing s asked with
  | nil => simp [finalHistory]
  | cons c cs ih =>
      obtain ⟨-, rfl, hrest⟩ := h
      have hcall : c.left.histories p.id = c.before.histories p.id ++ c.asks :=
        perform_histories c.hosts
      rw [finalHistory, ih hrest, hcall, List.flatMap_cons, List.append_assoc]

/-! ### A module whose host function compiles -/

/-- A pipeline whose modules call a host function. -/
def echoing : Pipeline Unit Unit := ⟨0, callingBack "" "env" "again", channelName⟩

/-- The host function has something else compiled, which is refused. -/
def again : ImportTable (Import (World Unit Unit Unit)) :=
  [("env", [("again", .function fun _ => do
    let _ ← World.attempt (echoing.compile "(again)")
    return .null)])]

lemma client_again (act : Act (World Unit Unit Unit) Value) (h : again.Offers act) :
    Client echoing echoing.compile echoing.Discreet act := by
  obtain ⟨args, rfl⟩ := ImportTable.offers_singleton.mp h
  exact .bind (.attempt (.compile _)) fun _ => .own fun w => ⟨⟨rfl, fun hc => hc⟩, rfl⟩

/-- A call of an operation in a world, with this host function. -/
def echoed (request : Request) (before : World Unit Unit Unit) : Turn echoing Unit :=
  ⟨⟨request, again⟩, before, client_again⟩

/-- A source is compiled. -/
def firstEcho : Turn echoing Unit :=
  echoed (.compile "(module)") { files := { working := "/" }, host := () }

/-- What came of it is run. -/
def secondEcho : Turn echoing Unit := echoed .run firstEcho.left

lemma secondEcho_before : secondEcho.before = (echoing.compile "(module)" firstEcho.before).2 :=
  congrArg Prod.snd (perform_compile echoing "(module)" again firstEcho.before)

theorem histories_of_echoed : finalHistory [] [firstEcho, secondEcho] =
    [.compile "(module)", .load [], Sandbox.linking channelName () again,
      .hasEntry () Sandbox.entryPoint, .invoke () Sandbox.entryPoint] := by
  have hartifact : (secondEcho.before.sessions echoing.id).artifact = some ⟨(), [], "(module)"⟩ := by
    rw [secondEcho_before, compile_session, compile_fst]
    rfl
  have hfree : echoing.channel ∉ secondEcho.before.logs.captured := by
    rw [secondEcho_before, mem_compile_captured]
    exact List.not_mem_nil
  have hran : secondEcho.asks = [Sandbox.linking channelName () again, .hasEntry () Sandbox.entryPoint,
      .invoke () Sandbox.entryPoint] := by
    have hasks : secondEcho.asks = echoing.runAsks secondEcho.before again := rfl
    rw [hasks, runAsks, hartifact]
    dsimp only
    rw [if_neg hfree]
    rfl
  have hbefore : secondEcho.before = firstEcho.left := by rw [secondEcho, echoed]
  have hsuccessive : Successive ({} : Session Unit) [] [firstEcho, secondEcho] :=
    ⟨rfl, rfl, by rw [hbefore], by rw [hbefore], trivial⟩
  rw [histories_of_successive _ hsuccessive, List.nil_append, List.flatMap_cons, List.flatMap_cons,
    hran]
  rfl

end Pipeline

end WatWorkbench
