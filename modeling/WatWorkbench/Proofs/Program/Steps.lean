import WatWorkbench.Program.Execution
import WatWorkbench.Proofs.Files.Writing
import WatWorkbench.Proofs.Pipeline.Action

/-!
# The steps of the program

Printing changes only what has been printed, and reading a source changes nothing.  A task that works
on a source makes a pipeline, works with it and then either goes on or tells what went wrong.

* `World.printed`, `Execution.run_print`, `run_printLog` — printing.
* `Execution.sourceOf`, `run_readSource`, `run_writeFile` — sources and outputs.
* `Execution.concluded`, **`Execution.run_withPipeline`** — work with a new pipeline.
-/

namespace WatWorkbench

variable {M I α : Type}

/-- The world after lines have been printed on the standard output stream. -/
def World.printed (w : World M I Console) (lines : List Text) : World M I Console :=
  { w with host := { w.host with output := w.host.output ++ Text.concat (lines.map (· ++ "\n")) } }

namespace World

variable (w : World M I Console) (lines more : List Text)

@[simp] lemma printed_logs : (w.printed lines).logs = w.logs := rfl
@[simp] lemma printed_files : (w.printed lines).files = w.files := rfl
@[simp] lemma printed_sessions : (w.printed lines).sessions = w.sessions := rfl

@[simp] lemma printed_nil : w.printed [] = w := by
  have houtput : w.host.output ++ Text.concat [] = w.host.output :=
    congrArg Text.mk (List.append_nil _)
  rw [printed, List.map_nil, houtput]

lemma printed_printed : (w.printed lines).printed more = w.printed (lines ++ more) := by
  have houtput : w.host.output ++ Text.concat (lines.map (· ++ "\n")) ++
      Text.concat (more.map (· ++ "\n")) =
        w.host.output ++ Text.concat ((lines ++ more).map (· ++ "\n")) := by
    refine congrArg Text.mk ?_
    simp [Text.concat]
  rw [printed, printed, printed]
  simp only [houtput]

end World

namespace Execution

variable (w : World M I Console)

/-! ## Printing -/

lemma run_print (line : Text) : print line w = (.ok (), w.printed [line]) := by
  have houtput : w.host.output ++ line ++ "\n" = w.host.output ++ Text.concat [line ++ "\n"] := by
    refine congrArg Text.mk ?_
    simp [Text.concat]
  show (Except.ok (), { w with host := { w.host with output := w.host.output ++ line ++ "\n" } }) = _
  rw [houtput]
  rfl

/-- Lines are printed one after another. -/
lemma run_forIn_print (as : List α) (line : α → Text) :
    (forIn as PUnit.unit fun a _ => do
      print (line a)
      return ForInStep.yield PUnit.unit : Step M I PUnit) w = (.ok (), w.printed (as.map line)) := by
  induction as generalizing w with
  | nil => rw [List.map_nil, World.printed_nil]; rfl
  | cons a as ih =>
      simp only [List.forIn_cons, World.run_bind, run_print, World.run_pure, ih,
        World.printed_printed]
      rfl

/-- The lines of a log. -/
def logLines (entries : List LogEntry) : List Text :=
  entries.map fun e => e.kind.colour.paint e.message

lemma run_printLog (p : Pipeline M I) :
    printLog p w = (.ok (), w.printed (logLines (w.logs.books p.id).entries)) := by
  simp only [printLog, Pipeline.logs, World.run_bind, World.run_book, World.run_pure,
    run_forIn_print]
  rfl

/-- A log and a line after it. -/
lemma run_tell (p : Pipeline M I) (line : Text) :
    (do printLog p; print line; return success : Step M I Nat) w =
      (.ok success, w.printed (logLines (w.logs.books p.id).entries ++ [line])) := by
  rw [World.run_bind, run_printLog]
  dsimp only
  rw [World.run_bind, run_print, World.printed_printed]
  rfl

/-! ## Sources and outputs -/

/-- The name and the text of a source, which is an example or a file. -/
def sourceOf (files : FileSystem) (source : Text) : Except Failure (Text × Text) :=
  if source.startsWith Invocation.examplePrefix then
    let key := source.drop Invocation.examplePrefix.length
    match Catalog.find? key with
    | some e => .ok (key, e.source)
    | none => .error (.raised .system (unknownExample key))
  else
    let path := Path.ofText source
    (files.readText path).map fun text => (path.stem, text)

lemma run_readSource (source : Text) : readSource source w = (sourceOf w.files source, w) := by
  unfold readSource sourceOf
  split_ifs
  · dsimp only
    cases Catalog.find? (source.drop Invocation.examplePrefix.length) <;> rfl
  · have hget : (get : Step M I (World M I Console)) w = (.ok w, w) := rfl
    simp only [World.run_bind, hget, World.run_settle]
    cases w.files.readText (Path.ofText source) <;> rfl

lemma run_writeFile (path : Path) (bs : Bytes) :
    writeFile path bs w = ((w.files.writeBelow path bs).1,
      { w with files := (w.files.writeBelow path bs).2 }) := by
  rw [writeFile, World.run_bind, World.run_onFiles, FileSystem.writeBelow]
  rcases w.files.makeDirectories path.parent with ⟨e | ⟨⟩, files⟩ <;> rfl

/-! ## Work with a new pipeline -/

/-- The world after a failure that is expected: the log and the failure have been printed. -/
def told (w : World M I Console) (p : Pipeline M I) (e : Failure) : World M I Console :=
  { w.printed (logLines (w.logs.books p.id).entries) with
    logs := w.logs.printError (Colour.red.paint ("Error: " ++ e.message)) }

/-- What follows the work with a pipeline. -/
def concluded (p : Pipeline M I) (rest : Pipeline M I → α → Step M I Nat) :
    Except Failure α × World M I Console → Except Failure Nat × World M I Console
  | (.ok a, v) => rest p a v
  | (.error e, v) => if isExpected e then (.ok failure, told v p e) else (.error e, v)

/-- **Work with a new pipeline** and what follows it. -/
theorem run_withPipeline (engine : Option Int → Engine M I) (settings : Settings)
    (work : Pipeline M I → Step M I α) (rest : Pipeline M I → α → Step M I Nat)
    {p : Pipeline M I} (hp : p = ⟨w.logs.next, engine settings.fuel, channelName⟩) :
    withPipeline engine settings work rest w =
      concluded p rest (work p { w with logs := w.logs.fresh.2 }) := by
  subst hp
  have hcreate : (Pipeline.create (engine settings.fuel) : Step M I (Pipeline M I)) w =
      (.ok ⟨w.logs.next, engine settings.fuel, channelName⟩, { w with logs := w.logs.fresh.2 }) := rfl
  rw [withPipeline, World.run_bind, hcreate]
  dsimp only
  rw [World.run_bind, World.run_attempt]
  rcases work _ { w with logs := w.logs.fresh.2 } with ⟨e | a, v⟩
  · dsimp only [concluded]
    split_ifs
    · rw [World.run_bind, run_printLog]
      rfl
    · rfl
  · rfl

end Execution

end WatWorkbench
