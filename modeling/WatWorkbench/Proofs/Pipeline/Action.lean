import WatWorkbench.Pipeline.Session
import WatWorkbench.Proofs.Log.Interceptors
import WatWorkbench.Proofs.Log.Writing

/-!
# Actions, run from a world

What the pieces of an operation do to the world from which they are run, in terms of a few changes
of worlds (`asked`, `written`, `withSession`, `withBook`) whose fields are known.  Operations are
opened with these equations only.

* `run_bind`, `run_attempt`, … — the sequencing of actions.
* `run_write`, `run_ask`, `run_changeSession`, … — the actions on worlds.
* `capturing_of_mem`, `capturing_of_notMem` — capturing a channel meanwhile.
* `Preserves` — an action keeps a property of worlds however it ends.
-/

namespace WatWorkbench.World

variable {M I H α β : Type}

/-! ## Changes of worlds -/

/-- The world after an engine has been asked. -/
def asked (w : World M I H) (id : Nat) (c : EngineCall M I) : World M I H :=
  { w with histories := fun n => if n = id then w.histories id ++ [c] else w.histories n }

/-- The world after a record has been written. -/
def written (w : World M I H) (r : LogRecord) : World M I H :=
  { w with logs := (w.logs.write r).2 }

/-- The world after records have been written, first to last. -/
def writtenAll (w : World M I H) (rs : List LogRecord) : World M I H :=
  { w with logs := w.logs.writtenAll rs }

/-- The world with what a pipeline holds changed. -/
def withSession (w : World M I H) (id : Nat) (change : Session M → Session M) : World M I H :=
  { w with sessions := fun n => if n = id then change (w.sessions id) else w.sessions n }

/-- The world with a log book changed. -/
def withBook (w : World M I H) (id : Nat) (change : LogBook → LogBook) : World M I H :=
  { w with logs := w.logs.setBook id (change (w.logs.books id)) }

section Fields

variable (w : World M I H) (id n : Nat) (c : EngineCall M I) (r : LogRecord)
  (change : Session M → Session M) (edit : LogBook → LogBook)

@[simp] lemma asked_logs : (w.asked id c).logs = w.logs := rfl
@[simp] lemma asked_files : (w.asked id c).files = w.files := rfl
@[simp] lemma asked_sessions : (w.asked id c).sessions = w.sessions := rfl
@[simp] lemma asked_host : (w.asked id c).host = w.host := rfl
@[simp] lemma asked_histories_self : (w.asked id c).histories id = w.histories id ++ [c] :=
  if_pos rfl

lemma asked_histories_of_ne {id n : Nat} (h : n ≠ id) :
    (w.asked id c).histories n = w.histories n := if_neg h

@[simp] lemma written_files : (w.written r).files = w.files := rfl
@[simp] lemma written_sessions : (w.written r).sessions = w.sessions := rfl
@[simp] lemma written_histories : (w.written r).histories = w.histories := rfl
@[simp] lemma written_host : (w.written r).host = w.host := rfl
@[simp] lemma written_captured : (w.written r).logs.captured = w.logs.captured :=
  LogState.write_captured _ _

lemma writtenAll_append (rs ss : List LogRecord) :
    w.writtenAll (rs ++ ss) = (w.writtenAll rs).writtenAll ss := by
  simp only [writtenAll, LogState.writtenAll_append]

@[simp] lemma withSession_logs : (w.withSession id change).logs = w.logs := rfl
@[simp] lemma withSession_files : (w.withSession id change).files = w.files := rfl
@[simp] lemma withSession_histories : (w.withSession id change).histories = w.histories := rfl
@[simp] lemma withSession_host : (w.withSession id change).host = w.host := rfl
@[simp] lemma withSession_sessions_self :
    (w.withSession id change).sessions id = change (w.sessions id) := if_pos rfl

lemma withSession_sessions_of_ne {id n : Nat} (h : n ≠ id) :
    (w.withSession id change).sessions n = w.sessions n := if_neg h

@[simp] lemma withBook_files : (w.withBook id edit).files = w.files := rfl
@[simp] lemma withBook_sessions : (w.withBook id edit).sessions = w.sessions := rfl
@[simp] lemma withBook_histories : (w.withBook id edit).histories = w.histories := rfl
@[simp] lemma withBook_host : (w.withBook id edit).host = w.host := rfl
@[simp] lemma withBook_captured : (w.withBook id edit).logs.captured = w.logs.captured := rfl

end Fields

/-! ## Running -/

section Running

variable (w : World M I H)

@[simp] lemma run_pure (a : α) : (pure a : Act (World M I H) α) w = (.ok a, w) := rfl

@[simp] lemma run_throw (e : Failure) : (throw e : Act (World M I H) α) w = (.error e, w) := rfl

lemma run_bind (act : Act (World M I H) α) (next : α → Act (World M I H) β) :
    (act >>= next) w = match act w with
      | (.ok a, w) => next a w
      | (.error e, w) => (.error e, w) := by
  show ExceptT.bindCont next (act w).1 (act w).2 = _
  rcases act w with ⟨r | r, w'⟩ <;> rfl

lemma run_bind_of_ok {w : World M I H} {act : Act (World M I H) α} {a : α}
    (h : (act w).1 = .ok a) (next : α → Act (World M I H) β) :
    (act >>= next) w = next a (act w).2 := by
  rw [run_bind]
  rcases hact : act w with ⟨r, v⟩
  obtain rfl : r = .ok a := by rw [← h, hact]
  rfl

@[simp] lemma run_settle (r : Except Failure α) : settle r w = (r, w) := rfl

@[simp] lemma run_attempt (act : Act (World M I H) α) :
    attempt act w = (.ok (act w).1, (act w).2) := rfl

@[simp] lemma run_write (r : LogRecord) : write r w = (.ok (), w.written r) := by
  show ((w.logs.write r).1, w.written r) = _
  rw [LogState.write_fst]

@[simp] lemma run_fresh :
    fresh w = (.ok w.logs.next, { w with logs := { w.logs with next := w.logs.next + 1 } }) := rfl

@[simp] lemma run_book (id : Nat) : book id w = (.ok (w.logs.books id), w) := rfl

@[simp] lemma run_changeBook (id : Nat) (edit : LogBook → LogBook) :
    changeBook id edit w = (.ok (), w.withBook id edit) := rfl

@[simp] lemma run_session (id : Nat) : session id w = (.ok (w.sessions id), w) := rfl

@[simp] lemma run_changeSession (id : Nat) (change : Session M → Session M) :
    changeSession id change w = (.ok (), w.withSession id change) := rfl

@[simp] lemma run_onFiles (change : FileSystem → Except Failure α × FileSystem) :
    onFiles change w = ((change w.files).1, { w with files := (change w.files).2 }) := rfl

@[simp] lemma run_ask (id : Nat) (c : EngineCall M I) :
    ask id c w = (.ok (w.histories id), w.asked id c) := rfl

end Running

/-! ## Capturing -/

/-- A channel that is being captured is refused: the body is not run. -/
lemma capturing_of_mem {w : World M I H} {channel : Text} (h : channel ∈ w.logs.captured)
    (book : Nat) (body : Act (World M I H) α) :
    capturing channel book body w = (.error (.captured channel), w) := by
  have hi : ({ book, channel } : Interceptor).enter w.logs = .error (.captured channel) :=
    Interceptor.enter_of_mem h
  simp only [capturing, hi]

/-- The world after an interceptor has given its channel back. -/
def released (w : World M I H) (i : Interceptor) : World M I H :=
  { w with logs := (i.leave w.logs).2 }

section Released

variable (w : World M I H) (i : Interceptor)

@[simp] lemma released_files : (w.released i).files = w.files := rfl
@[simp] lemma released_sessions : (w.released i).sessions = w.sessions := rfl
@[simp] lemma released_histories : (w.released i).histories = w.histories := rfl
@[simp] lemma released_host : (w.released i).host = w.host := rfl
@[simp] lemma released_books : (w.released i).logs.books = w.logs.books := rfl

@[simp] lemma mem_released_captured {c : Text} :
    c ∈ (w.released i).logs.captured ↔ c ∈ w.logs.captured ∧ c ≠ i.channel :=
  Interceptor.mem_leave_captured

end Released

/-- A free channel is on the list while the body runs, and is given back however it ends. -/
lemma capturing_of_notMem {w : World M I H} {channel : Text} (h : channel ∉ w.logs.captured)
    (book : Nat) (body : Act (World M I H) α) :
    ∃ (i : Interceptor) (entered : LogState), i.channel = channel ∧
      entered.captured = channel :: w.logs.captured ∧
      ({ book, channel } : Interceptor).enter w.logs = .ok (i, entered) ∧
      capturing channel book body w =
        ((body { w with logs := entered }).1, (body { w with logs := entered }).2.released i) := by
  obtain ⟨i, entered, hi, -, hchannel, hlist⟩ :=
    Interceptor.enter_of_notMem (i := { book, channel }) h
  refine ⟨i, entered, hchannel, hlist, hi, ?_⟩
  simp only [capturing, hi]
  rfl

/-! ## Properties that actions keep -/

/-- The action keeps a property of worlds, whether it succeeds or fails. -/
def Preserves (P : World M I H → Prop) (act : Act (World M I H) α) : Prop :=
  ∀ w, P w → P (act w).2

namespace Preserves

variable {P : World M I H → Prop}

protected lemma pure (a : α) : Preserves P (pure a : Act (World M I H) α) := fun _ h => h

protected lemma throw (e : Failure) : Preserves P (throw e : Act (World M I H) α) := fun _ h => h

protected lemma settle (r : Except Failure α) : Preserves P (settle r) := fun _ h => h

protected lemma attempt {act : Act (World M I H) α} (h : Preserves P act) :
    Preserves P (attempt act) := h

protected lemma bind {act : Act (World M I H) α} {next : α → Act (World M I H) β}
    (h : Preserves P act) (hnext : ∀ a, Preserves P (next a)) : Preserves P (act >>= next) := by
  intro w hw
  rw [run_bind]
  have hact := h w hw
  rcases hrun : act w with ⟨e | a, w'⟩
  · rw [hrun] at hact; exact hact
  · rw [hrun] at hact; exact hnext a w' hact

/-- What does not concern the logging is kept by capturing a channel meanwhile. -/
protected lemma capturing (hlogs : ∀ w logs, P w → P { w with logs })
    {body : Act (World M I H) α} (h : Preserves P body) (channel : Text) (book : Nat) :
    Preserves P (capturing channel book body) := by
  intro w hw
  by_cases hmem : channel ∈ w.logs.captured
  · rw [capturing_of_mem hmem]; exact hw
  · obtain ⟨i, entered, -, -, -, hrun⟩ := capturing_of_notMem hmem book body
    rw [hrun]
    exact hlogs _ _ (h _ (hlogs w entered hw))

/-- What concerns of the logging only that one channel is being captured is kept too: capturing that
channel is refused, and capturing another one leaves it on the list. -/
protected lemma capturing_of_held {held : Text} (hheld : ∀ w, P w → held ∈ w.logs.captured)
    (hlogs : ∀ w logs, P w → held ∈ logs.captured → P { w with logs })
    {body : Act (World M I H) α} (h : Preserves P body) (channel : Text) (book : Nat) :
    Preserves P (capturing channel book body) := by
  intro w hw
  by_cases hmem : channel ∈ w.logs.captured
  · rw [capturing_of_mem hmem]; exact hw
  · obtain ⟨i, entered, hchannel, hlist, -, hrun⟩ := capturing_of_notMem hmem book body
    rw [hrun]
    have hentered : P { w with logs := entered } :=
      hlogs w entered hw (by rw [hlist]; exact List.mem_cons_of_mem _ (hheld w hw))
    have hbody := h _ hentered
    refine hlogs _ _ hbody ((Interceptor.mem_leave_captured).mpr ⟨hheld _ hbody, ?_⟩)
    rw [hchannel]
    exact fun e => hmem (e ▸ hheld w hw)

/-- A script keeps what the host functions that it calls keep. -/
protected lemma runScript {table : ImportTable (Import (World M I H))}
    (h : ∀ q w, P w → P (answer table q w).2) (s : Script (Except Failure α)) :
    Preserves P (runScript table s) := by
  show ∀ w, P w → P (s.run (answer table) w).2
  induction s with
  | done r => exact fun _ hw => hw
  | call q resume ih => exact fun w hw => ih (answer table q w).1 _ (h q w hw)

end Preserves

end WatWorkbench.World
