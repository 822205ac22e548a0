import WatWorkbench.Proofs.Log.Writing

/-!
# Where a record goes

A record that its logger takes is screened by the filters of that logger only, and then handed to the
handlers of the logger and of those above it.  A handler of a book adds one entry to the book.

* `LogRecord.entries` — the entry that a record becomes, if it has a text.
* `LogState.write_books` — a book gets it once for each of its handlers that the record is handed to.
* `LogTree.handlersAlong_eq_flatMap` — the handlers on the way up, when everything propagates.
* `LogTree.deliveries_of_passed`, `deliveries_of_diverted` — the handlers that get a record.
-/

namespace WatWorkbench

/-- The entry that a record becomes in a book.  A record without a text becomes none. -/
def LogRecord.entries (r : LogRecord) : List LogEntry :=
  (r.text?.map fun t => (⟨r.entryKind, t⟩ : LogEntry)).toList

namespace LogState

/-! ## Books -/

lemma receive_books {r : LogRecord} {h : Handler} {s t : LogState} (hr : receive r h s = .ok t)
    (id : Nat) : (t.books id).entries =
      (s.books id).entries ++ if h.sink = .book id then r.entries else [] := by
  unfold receive at hr
  split at hr
  · next n text hsink htext =>
      cases hr
      by_cases hid : n = id
      · subst hid
        simp [hsink, LogRecord.entries, htext, setBook, assign, LogBook.append]
      · simp [hsink, hid, setBook, assign, Ne.symm hid]
  · next hsink => cases hr; simp [hsink]
  · next hsink htext => cases hr; simp [hsink, printError]
  · next hsink htext => cases hr; simp [hsink, printError]
  · next htext _ => cases hr; simp [LogRecord.entries, htext]

/-- A book gets the entry of a record once for each of its handlers. -/
lemma deliver_books (r : LogRecord) (hs : List Handler) (s : LogState) (id : Nat) :
    ((deliver r hs s).2.books id).entries = (s.books id).entries ++
      (hs.filter (·.sink = .book id)).flatMap fun _ => r.entries := by
  induction hs generalizing s with
  | nil => simp [deliver]
  | cons h hs ih =>
      obtain ⟨t, ht, -⟩ := receive_eq_ok r h s
      simp only [deliver, ht, ih, receive_books ht, List.filter_cons, decide_eq_true_eq]
      split_ifs <;> simp

lemma write_books (s : LogState) (r : LogRecord) (id : Nat) :
    ((s.write r).2.books id).entries = (s.books id).entries ++
      ((s.tree.deliveries r).filter (·.sink = .book id)).flatMap fun _ => r.entries :=
  deliver_books r _ _ id

end LogState

namespace LogTree

/-! ## Handlers -/

variable {t : LogTree} {r : LogRecord}

/-- When everything propagates, the handlers of all loggers on the way up. -/
lemma handlersAlong_eq_flatMap {names : List Text}
    (h : ∀ n ∈ names, (t.logger n).propagate = true) :
    t.handlersAlong names = names.flatMap fun n => (t.logger n).handlers := by
  induction names with
  | nil => rfl
  | cons n names ih =>
      rw [handlersAlong, if_pos (h n List.mem_cons_self),
        ih fun m hm => h m (List.mem_cons_of_mem _ hm), List.flatMap_cons]

lemma deliveries_of_not_isEnabled (h : t.isEnabled r.logger r.level = false) :
    t.deliveries r = [] := by
  rw [deliveries, h]
  rfl

/-- A record that passes the filters goes to all handlers on the way up that take its level. -/
lemma deliveries_of_passed (henabled : t.isEnabled r.logger r.level = true)
    (hpassed : (screen r (t.logger r.logger).filters).2 = true)
    (hhandled : t.handlersAlong (t.chain r.logger) ≠ []) :
    t.deliveries r = (t.handlersAlong (t.chain r.logger)).filter (·.level ≤ r.level) := by
  rw [deliveries, henabled]
  rcases hscreen : screen r (t.logger r.logger).filters with ⟨diverted, passed⟩
  obtain rfl : passed = true := by rw [← hpassed, hscreen]
  simp [hhandled]

/-- A record that does not pass goes where it is diverted to. -/
lemma deliveries_of_diverted (henabled : t.isEnabled r.logger r.level = true)
    {diverted : List Handler}
    (hscreen : screen r (t.logger r.logger).filters = (diverted, false)) :
    t.deliveries r = diverted := by
  rw [deliveries, henabled, hscreen]
  rfl

end LogTree

end WatWorkbench
