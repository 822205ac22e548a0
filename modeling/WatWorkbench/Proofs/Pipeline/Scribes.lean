import Mathlib.Algebra.Order.Ring.Nat
import Mathlib.Data.List.Forall2
import WatWorkbench.Proofs.Log.Listening
import WatWorkbench.Proofs.Pipeline.Blending
import WatWorkbench.Proofs.Pipeline.HostCalls
import WatWorkbench.Proofs.Pipeline.Steadiness

/-!
# Host functions that write to the channel

Most host functions do their work and write a few lines about it.  Those that do nothing else to the
logging, and leave alone what the pipeline holds, are scribes: they may look at the world, change
files and whatever else is theirs, succeed or fail, but what a run of a module leaves in the log is
what they have written, call by call.  The default host functions are scribes.

* `Template.format_pair` — the lines of the default host functions.
* `Pipeline.Wrote`, `Pipeline.Scribe` — records of the channel have been written and that is all.
* `Sandbox.visits` — the calls of a run of a module, each with the world that it is made in.
* `Pipeline.Told` — what a call has written; `exists_told` — every call has written something.
* **`Sandbox.exists_told`** — what a run of a module has written, in the order of its calls.
-/

namespace WatWorkbench

variable {M I H α β : Type}

/-! ## Lines -/

namespace Template

/-- What is already known leaves the arguments alone. -/
lemma pure_apply (x : α) (args : Arguments) : (pure x : Formatting α) args = some (x, args) := rfl

/-- A place without flags takes one argument as it is. -/
lemma place_plain (cs : List Nat) (v : Value) (vs : List Value)
    (es : Option (List (Value × Value))) :
    place (mark 's' :: cs) ⟨v :: vs, es⟩ =
      if v.isSpellable then some ((v.plain, cs), ⟨vs, es⟩) else none := by
  have hplain : mark 's' ≠ mark '(' ∧ mark 's' ≠ mark '.' := by decide
  have hflags : flags {} (mark 's' :: cs) = ({}, mark 's' :: cs) := rfl
  have hamount : amount (mark 's' :: cs) = pure (none, mark 's' :: cs) := rfl
  have hletter : (if mark 's' = mark 'h' || mark 's' = mark 'l' || mark 's' = mark 'L' then cs
      else mark 's' :: cs) = mark 's' :: cs := rfl
  have hnext : next ⟨v :: vs, es⟩ = some (v, ⟨vs, es⟩) := rfl
  have hconvert : Place.convert {} (mark 's') v =
      if v.isSpellable then some v.plain else none := by
    have hcut : Place.cut {} v.plain = v.plain := by simp [Place.cut, Place.text, Text.padLeft]
    rw [← hcut]
    rfl
  simp only [place, hplain, if_false, hflags, hamount, hletter, bind, StateT.bind,
    pure_apply, Option.bind, hnext, hconvert]
  cases v.isSpellable <;> rfl

/-- Two places next to each other. -/
lemma format_pair (a : Text) (v : Value) :
    format "%s%s" [.text a, v] = if v.isSpellable then some (a ++ v.plain) else none := by
  have hpoints : (Text.ofString "%s%s").points = [mark '%', mark 's', mark '%', mark 's'] := rfl
  have hlength : (Text.ofString "%s%s").length = 4 := rfl
  have hargs : Arguments.ofList [.text a, v] = ⟨[.text a, v], none⟩ := rfl
  have hmark : (some (mark 's') = some (mark '%')) = False := by decide
  have hspelled : Value.isSpellable (.text a) = true := by simp [Value.isSpellable]
  have hplain : Value.plain (.text a) = a := rfl
  rw [format, hargs, hlength, hpoints]
  simp only [fill, ne_eq, not_true_eq_false, if_false, List.head?_cons, hmark, bind, StateT.bind,
    StateT.run, place_plain, hspelled, if_true, hplain, Option.bind]
  cases v.isSpellable with
  | true =>
      simp [fill, pure_apply]
      rfl
  | false => simp

end Template

namespace Sandbox

/-- The record of a line of a default host function. -/
def lineRecord (logger : Text) (v : Value) : LogRecord where
  logger := logger
  level := Level.info
  message := .text "%s%s"
  args := [.text logPrefix, v]

lemma text?_lineRecord (logger : Text) {v : Value} (h : v.isSpellable) :
    (lineRecord logger v).text? = some (logPrefix ++ v.plain) := by
  have hspelled : (lineRecord logger v).message.isSpellable = true := by
    simp [lineRecord, Value.isSpellable]
  rw [LogRecord.text?, hspelled]
  show Template.format "%s%s" [.text logPrefix, v] = _
  rw [Template.format_pair, if_pos h]

/-- Such a line comes into the book if its value can be written out. -/
lemma captured_lineRecord (logger : Text) {v : Value} (h : v.isSpellable) :
    (lineRecord logger v).captured = [⟨.info, logPrefix ++ v.plain⟩] := by
  rw [LogRecord.captured, if_pos (by exact Int.le_refl _), LogRecord.entries,
    text?_lineRecord logger h]
  rfl

end Sandbox

/-- A number of a module is short enough to be written out. -/
lemma Value.isSpellable_int {i : Int} (h : i.natAbs < 2 ^ 64) : (Value.int i).isSpellable := by
  have hlimit : 2 ^ 64 ≤ Value.spellingLimit := by decide +kernel
  simpa only [Value.isSpellable, decide_eq_true_eq] using Nat.lt_of_lt_of_le h hlimit

namespace Pipeline

variable {p : Pipeline M I} {w v u : World M I H} {rs rs' : List LogRecord}

/-! ## Scribes -/

/-- From one world to the other, the records have been written to the channel.  Nothing else has been
done to the logging or to what the pipeline holds. -/
structure Wrote (p : Pipeline M I) (rs : List LogRecord) (w v : World M I H) : Prop where
  channel : ∀ r ∈ rs, r.logger = p.channel
  logs : v.logs = w.logs.writtenAll rs
  session : v.sessions p.id = w.sessions p.id

namespace Wrote

protected lemma nil (p : Pipeline M I) (hlogs : v.logs = w.logs)
    (hsession : v.sessions p.id = w.sessions p.id) : p.Wrote [] w v :=
  ⟨fun _ h => (List.not_mem_nil h).elim, hlogs, hsession⟩

protected lemma trans (h : p.Wrote rs w v) (h' : p.Wrote rs' v u) : p.Wrote (rs ++ rs') w u where
  channel r hr := (List.mem_append.mp hr).elim (h.channel r) (h'.channel r)
  logs := by rw [h'.logs, h.logs, LogState.writtenAll_append]
  session := h'.session.trans h.session

protected lemma written (w : World M I H) {r : LogRecord} (h : r.logger = p.channel) :
    p.Wrote [r] w (w.written r) := ⟨by simpa using h, rfl, rfl⟩

/-- Asking the engine writes nothing. -/
protected lemma asked (p : Pipeline M I) (w : World M I H) (id : Nat) (c : EngineCall M I) :
    p.Wrote [] w (w.asked id c) := .nil p rfl rfl

end Wrote

/-- Code that does nothing to the logging but write records to the channel, and leaves alone what the
pipeline holds.  What it comes to, what it writes and what else it changes may depend on the world. -/
def Scribe (p : Pipeline M I) (act : Act (World M I H) α) : Prop :=
  ∀ w, ∃ rs, p.Wrote rs w (act w).2

namespace Scribe

protected lemma settle (p : Pipeline M I) (r : Except Failure α) :
    p.Scribe (World.settle r : Act (World M I H) α) := fun _ => ⟨[], .nil p rfl rfl⟩

protected lemma write {r : LogRecord} (h : r.logger = p.channel) :
    p.Scribe (World.write r : Act (World M I H) Unit) := fun w =>
  ⟨[r], by rw [World.run_write]; exact .written w h⟩

protected lemma bind {act : Act (World M I H) α} {next : α → Act (World M I H) β}
    (h : p.Scribe act) (hnext : ∀ a, p.Scribe (next a)) : p.Scribe (act >>= next) := by
  intro w
  obtain ⟨rs, hact⟩ := h w
  rw [World.run_bind]
  rcases hrun : act w with ⟨e | a, v⟩
  · rw [hrun] at hact
    exact ⟨rs, hact⟩
  · rw [hrun] at hact
    obtain ⟨rs', hthen⟩ := hnext a v
    exact ⟨rs ++ rs', hact.trans hthen⟩

end Scribe

/-- The default host functions are scribes. -/
lemma scribe_defaultImports (act : Act (World M I H) Value)
    (h : (Sandbox.defaultImports p.channel).Offers act) : p.Scribe act := by
  obtain ⟨i, ⟨m, es, n, hm, hn⟩, hact⟩ := h
  simp only [Sandbox.defaultImports, List.mem_singleton, Prod.mk.injEq] at hm
  obtain ⟨-, rfl⟩ := hm
  simp only [List.mem_cons, Prod.mk.injEq, List.not_mem_nil, or_false] at hn
  rcases hn with ⟨-, rfl⟩ | ⟨-, rfl⟩
  · obtain ⟨args, rfl⟩ := hact
    unfold Sandbox.logValue
    split
    · exact (Scribe.write rfl).bind fun _ => .settle p (.ok _)
    · exact .settle p (.error _)
  · obtain ⟨caller, args, rfl⟩ := hact
    unfold Sandbox.logString
    split
    · exact .bind (.settle p _) fun _ => (Scribe.write rfl).bind fun _ => .settle p (.ok _)
    · exact .settle p (.error _)

lemma scribe_linkTable {imports : ImportTable (Import (World M I H))}
    (hosts : ∀ act, imports.Offers act → p.Scribe act) (act : Act (World M I H) Value)
    (h : (Sandbox.linkTable p.channel imports).Offers act) : p.Scribe act := by
  obtain ⟨i, hi, hact⟩ := h
  rcases ImportTable.holds_merge hi with hdefault | hown
  · exact scribe_defaultImports act ⟨i, hdefault, hact⟩
  · exact hosts act ⟨i, hown, hact⟩

end Pipeline

/-! ## Names that are not overlaid -/

namespace ImportTable

/-- There is nothing of the name in the namespace. -/
def Lacks (t : ImportTable α) (module name : Text) : Prop :=
  ∀ es, (module, es) ∈ t → ∀ a, (name, a) ∉ es

/-- What the overrides lack is as it was by default. -/
lemma lookup?_merge_of_lacks {defaults overrides : ImportTable α} {module name : Text}
    (h : overrides.Lacks module name) :
    (merge defaults overrides).lookup? module name = defaults.lookup? module name := by
  -- on the overrides, with the defaults left open: each namespace is overlaid on what has been merged
  induction overrides generalizing defaults with
  | nil => rfl
  | cons o os ih =>
      refine (ih fun es hes => h es (List.mem_cons_of_mem _ hes)).trans ?_
      rw [lookup?, lookup?, Entries.find?_put]
      split_ifs with hmodule
      · subst hmodule
        rw [Option.bind_some,
          Entries.find?_overlay_of_notMem fun a => h o.2 List.mem_cons_self a]
        cases Entries.find? defaults o.1 <;> rfl
      · rfl

end ImportTable

/-- A function that the table holds under the name of a call answers it. -/
lemma World.answer_of_lookup? {table : ImportTable (Import (World M I H))} {q : HostCall}
    {f : List Value → Act (World M I H) Value}
    (h : table.lookup? q.module q.name = some (.function f)) : World.answer table q = f q.args := by
  obtain ⟨es, hes, hf⟩ := Option.bind_eq_some_iff.mp h
  unfold World.answer
  rw [hes]
  dsimp only
  rw [hf]
  rfl

/-! ## Calls -/

namespace Pipeline

variable {p : Pipeline M I} {imports : ImportTable (Import (World M I H))}

/-- What a call of a host function has written.  The default function for numbers, if nothing takes
its place, has written one line with the number. -/
structure Told (p : Pipeline M I) (imports : ImportTable (Import (World M I H)))
    (c : HostCall × World M I H) (rs : List LogRecord) : Prop where
  wrote : p.Wrote rs c.2 (World.answer (Sandbox.linkTable p.channel imports) c.1 c.2).2
  line : imports.Lacks "env" "log" → c.1.module = "env" → c.1.name = "log" →
    ∀ i : Int, c.1.args = [.int i] → i.natAbs < 2 ^ 64 →
      rs.flatMap LogRecord.captured = [⟨.info, Sandbox.logPrefix ++ Text.integer i⟩]

variable (hosts : ∀ act, imports.Offers act → p.Scribe act)

include hosts

/-- Every call has written something, if all host functions are scribes. -/
lemma exists_told (c : HostCall × World M I H) : ∃ rs, p.Told imports c rs := by
  obtain ⟨q, w⟩ := c
  by_cases hnumber : (imports.Lacks "env" "log" ∧ q.module = "env" ∧ q.name = "log") ∧
      ∃ i : Int, q.args = [.int i]
  · obtain ⟨⟨hlacks, hmodule, hname⟩, i, hargs⟩ := hnumber
    have hlookup : (Sandbox.linkTable p.channel imports).lookup? q.module q.name =
        some (.function (Sandbox.logValue p.channel)) := by
      rw [hmodule, hname]
      exact ImportTable.lookup?_merge_of_lacks hlacks
    have hanswer : World.answer (Sandbox.linkTable p.channel imports) q w =
        (.ok (.int i), w.written (Sandbox.lineRecord p.channel (.int i))) := by
      rw [World.answer_of_lookup? hlookup, hargs, Sandbox.logValue, World.run_bind,
        Sandbox.logLine, World.log, World.run_write]
      rfl
    refine ⟨[Sandbox.lineRecord p.channel (.int i)], ?_, fun _ _ _ j hj hsmall => ?_⟩
    · rw [hanswer]
      exact .written w rfl
    · obtain rfl : i = j := by simpa [hargs] using hj
      rw [List.flatMap_singleton, Sandbox.captured_lineRecord _ (Value.isSpellable_int hsmall)]
      rfl
  · -- any other call; only that it is one of a scribe matters
    have hquiet : ∀ rs, p.Wrote rs w (World.answer (Sandbox.linkTable p.channel imports) q w).2 →
        p.Told imports (q, w) rs := fun rs hrs =>
      ⟨hrs, fun h hm hn i hi _ => absurd ⟨⟨h, hm, hn⟩, i, hi⟩ hnumber⟩
    rcases World.answer_cases (Sandbox.linkTable p.channel imports) q with ⟨act, hact, heq⟩ | ⟨e, he⟩
    · obtain ⟨rs, hrs⟩ := scribe_linkTable hosts act hact w
      exact ⟨rs, hquiet rs (by rw [heq]; exact hrs)⟩
    · exact ⟨[], hquiet [] (by rw [he]; exact .nil p rfl rfl)⟩

/-- A script has written what its calls have written. -/
lemma exists_told_script (s : Script α) (w : World M I H) :
    ∃ told, List.Forall₂ (p.Told imports)
        (s.visits (World.answer (Sandbox.linkTable p.channel imports)) w) told ∧
      p.Wrote told.flatten w (s.run (World.answer (Sandbox.linkTable p.channel imports)) w).2 := by
  induction s generalizing w with
  | done a => exact ⟨[], .nil, .nil p rfl rfl⟩
  | call q resume ih =>
      obtain ⟨rs, hrs⟩ := exists_told hosts (q, w)
      obtain ⟨told, hcalls, hrest⟩ := ih _ (World.answer (Sandbox.linkTable p.channel imports) q w).2
      exact ⟨rs :: told, .cons hrs hcalls, hrs.wrote.trans hrest⟩

end Pipeline

/-! ## Runs of a module -/

namespace Sandbox

section Visits

variable (id : Nat) (e : Engine M I) (logger : Text) (m : M)
  (imports : ImportTable (Import (World M I H)))

/-- The calls that an instance makes when its entry point is called, if it has one. -/
def entryVisits (i : I) (w : World M I H) : List (HostCall × World M I H) :=
  match World.hasEntry id e i entryPoint w with
  | (.ok true, w) =>
    (e.invoke (w.histories id) i entryPoint).visits (World.answer (linkTable logger imports))
      (w.asked id (.invoke i entryPoint))
  | _ => []

/-- The calls of host functions that a run of a module makes, first to last, each with the world that
it is made in. -/
def visits (w : World M I H) : List (HostCall × World M I H) :=
  let table := linkTable logger imports
  (e.instantiate (w.histories id) m (table.map Import.binding)).visits (World.answer table)
      (w.asked id (linking logger m imports)) ++
    match World.instantiate id e m table w with
    | (.ok i, w) => entryVisits id e logger imports i w
    | (.error _, _) => []

end Visits

variable {p : Pipeline M I} {imports : ImportTable (Import (World M I H))}
  (hosts : ∀ act, imports.Offers act → p.Scribe act)

include hosts

/-- What is done with an instance writes what its calls write; that there is nothing to call is noted
for those who look for a fault only. -/
lemma exists_told_enter (i : I) (w : World M I H) :
    ∃ told rs, List.Forall₂ (p.Told imports)
        (entryVisits p.id p.engine p.channel imports i w) told ∧
      p.Wrote rs w (enter p.id p.engine p.channel imports i w).2 ∧
      rs.flatMap LogRecord.captured = told.flatten.flatMap LogRecord.captured := by
  have hentry := World.run_hasEntry p.id p.engine w i entryPoint
  have hasked := Pipeline.Wrote.asked p w p.id (.hasEntry i entryPoint)
  rw [enter, entryVisits, World.run_bind, hentry]
  rcases p.engine.hasEntry (w.histories p.id) i entryPoint with f | _ | _
  · exact ⟨[], [], .nil, hasked, rfl⟩
  · dsimp only
    rw [if_neg Bool.false_ne_true, World.run_bind, World.log, World.run_write]
    exact ⟨[], [idleRecord p.channel], .nil, hasked.trans (.written _ rfl), rfl⟩
  · dsimp only
    rw [if_pos rfl, World.snd_bind_pure, World.run_invoke]
    obtain ⟨told, hcalls, hwrote⟩ := Pipeline.exists_told_script hosts
      (p.engine.invoke ((w.asked p.id (.hasEntry i entryPoint)).histories p.id) i entryPoint)
      ((w.asked p.id (.hasEntry i entryPoint)).asked p.id (.invoke i entryPoint))
    exact ⟨told, _, hcalls, hasked.trans ((Pipeline.Wrote.asked p _ p.id _).trans hwrote), rfl⟩

/-- **A run of a module** writes what its calls write, in their order. -/
theorem exists_told (m : M) (w : World M I H) :
    ∃ told rs, List.Forall₂ (p.Told imports)
        (visits p.id p.engine p.channel m imports w) told ∧
      p.Wrote rs w (runModule p.id p.engine p.channel m imports w).2 ∧
      rs.flatMap LogRecord.captured = told.flatten.flatMap LogRecord.captured := by
  obtain ⟨told, hcalls, hwrote⟩ := Pipeline.exists_told_script hosts
    (p.engine.instantiate (w.histories p.id) m ((linkTable p.channel imports).map Import.binding))
    (w.asked p.id (linking p.channel m imports))
  have hlinked : p.Wrote told.flatten w
      (World.instantiate p.id p.engine m (linkTable p.channel imports) w).2 := by
    rw [World.run_instantiate]
    exact (Pipeline.Wrote.asked p w p.id _).trans hwrote
  rw [runModule_eq, World.run_bind, visits]
  generalize World.instantiate p.id p.engine m (linkTable p.channel imports) w = linked at *
  rcases linked with ⟨f | i, v⟩
  · exact ⟨told, told.flatten, by simpa using hcalls, hlinked, rfl⟩
  · obtain ⟨more, rs, hmore, hentered, hsame⟩ := exists_told_enter hosts i v
    refine ⟨told ++ more, told.flatten ++ rs, List.rel_append hcalls hmore,
      hlinked.trans hentered, ?_⟩
    rw [List.flatMap_append, hsame, List.flatten_append, List.flatMap_append]

end Sandbox

end WatWorkbench
