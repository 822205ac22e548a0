import WatWorkbench.Proofs.Log.Custody

/-!
# What a filter hands over

Handlers of books take records of progress or more.  But the filter of an interceptor does not ask
its handler which records it takes: those below the level that the interceptor has found it hands
over as they are.  It is only because the channel has been lowered no further than progress that
nothing less comes to the filter, and that is for others to change.

* `LogMove` — a record, or what others set meanwhile; `LogState.moved` — the state afterwards.
* `LogTree.HandsOver` — the filters of a logger hand a record over for a book.
* `LogTree.SameOutlets` — trees with the same handlers and filters; moves keep them.
* **`LogState.write_faint`** — when a record below progress comes into the book.
* `LogState.write_faint_of_kept` — it does not if nobody sets the level of the channel.
* `noise_captured` — a record that comes into the book after somebody has done so.
-/

namespace WatWorkbench

/-! ## What others do -/

/-- A record that is written, or something that is set about logging. -/
inductive LogMove
  | write (r : LogRecord)
  | level (name : Text) (level : Int)
  | propagate (name : Text) (on : Bool)
  | disabled (name : Text) (on : Bool)
  /-- No logger takes records up to the level. -/
  | disable (level : Int)

namespace LogState

def move (s : LogState) : LogMove → LogState
  | .write r => (s.write r).2
  | .level name level => s.configure name ({ · with level := level })
  | .propagate name on => s.configure name ({ · with propagate := on })
  | .disabled name on => s.configure name ({ · with disabled := on })
  | .disable level => { s with tree := { s.tree with disabledUpTo := level } }

/-- The state after several moves, first to last. -/
def moved (s : LogState) (ms : List LogMove) : LogState := ms.foldl move s

end LogState

namespace LogTree

variable {t u : LogTree} {r : LogRecord} {channel : Text} {number book : Nat}

/-- Handlers of books take progress and what is above it. -/
def BooksTakeProgress (t : LogTree) : Prop :=
  ∀ name, ∀ h ∈ (t.logger name).handlers, ∀ b, h.sink = .book b → Level.info ≤ h.level

/-- A filter of the logger hands the record over to a handler of the book. -/
def HandsOver (t : LogTree) (r : LogRecord) (book : Nat) : Prop :=
  ∃ k ∈ (screen r (t.logger r.logger).filters).1, k.sink = .book book

instance (t : LogTree) (r : LogRecord) (book : Nat) : Decidable (t.HandsOver r book) :=
  inferInstanceAs (Decidable (∃ k ∈ _, _))

/-- The handlers and the filters of all loggers are the same. -/
structure SameOutlets (t u : LogTree) : Prop where
  handlers : ∀ n, (u.logger n).handlers = (t.logger n).handlers
  filters : ∀ n, (u.logger n).filters = (t.logger n).filters

lemma SameOutlets.trans {v : LogTree} (h : SameOutlets t u) (h' : SameOutlets u v) :
    SameOutlets t v :=
  ⟨fun n => (h'.handlers n).trans (h.handlers n), fun n => (h'.filters n).trans (h.filters n)⟩

lemma sameOutlets_configure {name : Text} (change : Logger → Logger)
    (hhandlers : (change (t.logger name)).handlers = (t.logger name).handlers)
    (hfilters : (change (t.logger name)).filters = (t.logger name).filters) :
    SameOutlets t (t.configure name change) := by
  constructor <;>
    · intro n
      by_cases hn : n = name
      · rwa [hn, configure_self]
      · rw [configure_of_ne _ _ hn]

lemma SameOutlets.handsOver (h : SameOutlets t u) (r : LogRecord) :
    u.HandsOver r book ↔ t.HandsOver r book := by
  rw [HandsOver, HandsOver, h.filters]

lemma SameOutlets.booksTakeProgress (h : SameOutlets t u) (ht : t.BooksTakeProgress) :
    u.BooksTakeProgress := by
  intro name k hk
  exact ht name k (h.handlers name ▸ hk)

/-! ## Records below progress -/

/-- A record that passes all filters is handed over by none, and otherwise by one at most. -/
lemma screen_fst_cases (r : LogRecord) (fs : List Filter) :
    (screen r fs).1 = [] ∨ ∃ k, screen r fs = ([k], false) := by
  induction fs with
  | nil => exact Or.inl rfl
  | cons f fs ih =>
      cases f with
      | threshold n level handler =>
          simp only [screen]
          split_ifs
          · exact ih
          · exact Or.inr ⟨handler, rfl⟩
      | foreign accepts =>
          simp only [screen]
          split_ifs
          · exact ih
          · exact Or.inl rfl

/-- Below progress a book gets what filters hand over. -/
lemma filter_deliveries_faint (hbooks : t.BooksTakeProgress) (hlevel : r.level < Level.info) :
    (t.deliveries r).filter (·.sink = .book book) =
      if t.isEnabled r.logger r.level then
        (screen r (t.logger r.logger).filters).1.filter (·.sink = .book book)
      else [] := by
  by_cases henabled : t.isEnabled r.logger r.level = true
  · rw [if_pos henabled]
    rcases screen_fst_cases r (t.logger r.logger).filters with hnone | ⟨k, hk⟩
    · -- what is left are handlers on the way up, and they do not take the record
      rw [hnone, List.filter_nil, List.filter_eq_nil_iff]
      intro k hk hsink
      have hsink : k.sink = .book book := by simpa using hsink
      unfold deliveries at hk
      rcases hscreen : screen r (t.logger r.logger).filters with ⟨diverted, _ | _⟩ <;>
        rw [hscreen] at hk hnone
      · simp [henabled, show diverted = [] from hnone] at hk
      · simp only [henabled, Bool.not_true, Bool.false_eq_true, if_false] at hk
        obtain ⟨hfound, htakes⟩ := List.mem_filter.mp hk
        split_ifs at hfound
        · obtain rfl : k = lastResort := by simpa using hfound
          cases hsink
        · obtain ⟨n, -, hmem⟩ := mem_handlersAlong hfound
          have hinfo := hbooks n k hmem book hsink
          have htakes : k.level ≤ r.level := by simpa using htakes
          omega
    · rw [deliveries_of_diverted henabled hk, hk]
  · rw [if_neg henabled, deliveries]
    simp [henabled]

/-- Below progress a record comes into a book when its logger takes it and hands it over. -/
lemma flatMap_deliveries_faint (hbooks : t.BooksTakeProgress) (hlevel : r.level < Level.info) :
    ((t.deliveries r).filter (·.sink = .book book)).flatMap (fun _ => r.entries) =
      if t.isEnabled r.logger r.level ∧ t.HandsOver r book then r.entries else [] := by
  rw [filter_deliveries_faint hbooks hlevel]
  by_cases henabled : t.isEnabled r.logger r.level = true
  · rcases screen_fst_cases r (t.logger r.logger).filters with hnone | ⟨k, hk⟩
    · simp [henabled, HandsOver, hnone]
    · by_cases hsink : k.sink = .book book <;> simp [henabled, HandsOver, hk, hsink]
  · simp [henabled]

/-! ### A tapped channel -/

lemma BooksTakeProgress.tapped (h : t.BooksTakeProgress) :
    (t.tapped channel number book).BooksTakeProgress := by
  intro name k hk b hb
  by_cases hname : name = channel
  · rw [hname, tapped_logger_self, Logger.tapped_handlers] at hk
    rcases List.mem_append.mp hk with hk | hk
    · exact h channel k hk b hb
    · obtain rfl := List.mem_singleton.mp hk
      exact Int.le_refl _
  · rw [tapped_logger_of_ne hname] at hk
    exact h name k hk b hb

/-- The filter of an interceptor hands over what comes to it from below progress. -/
lemma handsOver_tapped (hlevel : r.level < Level.info) :
    (t.tapped channel number book).HandsOver r book ↔
      t.HandsOver r book ∨
        r.logger = channel ∧ Level.info < t.effectiveLevel channel ∧
          (screen r (t.logger channel).filters).2 = true := by
  by_cases hself : r.logger = channel
  · rw [HandsOver, HandsOver, hself, tapped_logger_self, threshold?]
    by_cases hlow : Level.info < t.effectiveLevel channel
    · have hbelow : ¬ t.effectiveLevel channel ≤ r.level := by omega
      rw [if_pos hlow, Logger.tapped]
      by_cases hpassed : (screen r (t.logger channel).filters).2 = true
      · rw [screen_append hpassed]
        simp [screen, hbelow, hlow, hpassed]
      · rw [screen_append_of_not (by simpa using hpassed)]
        simp [hpassed]
    · rw [if_neg hlow, Logger.tapped]
      simp [hlow]
  · rw [HandsOver, HandsOver, tapped_logger_of_ne hself]
    simp [hself]

end LogTree

/-! ## Moves -/

namespace LogState

open LogTree (SameOutlets BooksTakeProgress)

variable {s t : LogState} {i j : Interceptor} {r : LogRecord} {ms : List LogMove}

lemma sameOutlets_move (s : LogState) (m : LogMove) : SameOutlets s.tree (s.move m).tree := by
  cases m with
  | write r =>
      show SameOutlets s.tree (s.write r).2.tree
      constructor <;> simp
  | level name level => exact LogTree.sameOutlets_configure ({ · with level := level }) rfl rfl
  | propagate name on => exact LogTree.sameOutlets_configure ({ · with propagate := on }) rfl rfl
  | disabled name on => exact LogTree.sameOutlets_configure ({ · with disabled := on }) rfl rfl
  | disable level => exact ⟨fun _ => rfl, fun _ => rfl⟩

lemma sameOutlets_moved (s : LogState) (ms : List LogMove) :
    SameOutlets s.tree (s.moved ms).tree := by
  induction ms generalizing s with
  | nil => exact ⟨fun _ => rfl, fun _ => rfl⟩
  | cons m ms ih => exact (s.sameOutlets_move m).trans (ih (s.move m))

/-- What a captured channel puts into its book from below progress, after several moves. -/
lemma write_tapped_faint {channel : Text} {book : Nat} (hbooks : s.tree.BooksTakeProgress)
    (ms : List LogMove) (hlevel : r.level < Level.info) :
    ((((s.tapped channel book).moved ms).write r).2.books book).entries =
      (((s.tapped channel book).moved ms).books book).entries ++
        if ((s.tapped channel book).moved ms).tree.isEnabled r.logger r.level ∧
            (s.tree.HandsOver r book ∨
              r.logger = channel ∧ Level.info < s.tree.effectiveLevel channel ∧
                (LogTree.screen r (s.tree.logger channel).filters).2 = true)
          then r.entries else [] := by
  have hsame := sameOutlets_moved (s.tapped channel book) ms
  have htapped : (s.tapped channel book).tree = s.tree.tapped channel s.next book := rfl
  rw [htapped] at hsame
  rw [write_books,
    LogTree.flatMap_deliveries_faint (hsame.booksTakeProgress hbooks.tapped) hlevel]
  simp only [hsame.handsOver, LogTree.handsOver_tapped hlevel]

/-- **Records below progress.**  Whatever others write and set while an interceptor is active, such
a record comes into the book once if its logger takes it by then and a filter hands it over: one
that was there before, or that of the interceptor, to which all filters before it leave the record.
In any other case it does not come there. -/
theorem write_faint (hbooks : s.tree.BooksTakeProgress) (henter : i.enter s = .ok (j, t))
    (ms : List LogMove) (hlevel : r.level < Level.info) :
    (((t.moved ms).write r).2.books i.book).entries = ((t.moved ms).books i.book).entries ++
      if (t.moved ms).tree.isEnabled r.logger r.level ∧
          (s.tree.HandsOver r i.book ∨
            r.logger = i.channel ∧ Level.info < s.tree.effectiveLevel i.channel ∧
              (LogTree.screen r (s.tree.logger i.channel).filters).2 = true)
        then r.entries else [] := by
  obtain rfl := eq_tapped_of_enter henter
  exact write_tapped_faint hbooks ms hlevel

/-! ### A channel whose level is kept -/

lemma level_configure {name other : Text} (change : Logger → Logger)
    (h : name = other → (change (s.tree.logger other)).level = (s.tree.logger other).level) :
    ((s.configure other change).tree.logger name).level = (s.tree.logger name).level := by
  rw [configure]
  by_cases he : name = other
  · rw [he, LogTree.configure_self, h he]
  · rw [LogTree.configure_of_ne _ _ he]

lemma level_moved {name : Text} (hkept : ∀ level, .level name level ∉ ms) (s : LogState) :
    ((s.moved ms).tree.logger name).level = (s.tree.logger name).level := by
  induction ms generalizing s with
  | nil => rfl
  | cons m ms ih =>
      have hrest : ∀ level, LogMove.level name level ∉ ms := fun level hmem =>
        hkept level (List.mem_cons_of_mem _ hmem)
      refine (ih hrest (s.move m)).trans ?_
      cases m with
      | write r => rw [move, write_logger]
      | level other level =>
          refine level_configure _ fun he => ?_
          exact absurd List.mem_cons_self (he ▸ hkept level)
      | propagate other on => exact level_configure ({ · with propagate := on }) fun _ => rfl
      | disabled other on => exact level_configure ({ · with disabled := on }) fun _ => rfl
      | disable level => rfl

/-- Nothing below progress comes into the book if nobody sets the level of the channel meanwhile and
no other filter hands records over for the book. -/
theorem write_faint_of_kept (hbooks : s.tree.BooksTakeProgress) (henter : i.enter s = .ok (j, t))
    (hkept : ∀ level, .level i.channel level ∉ ms) (hothers : ¬ s.tree.HandsOver r i.book)
    (hlevel : r.level < Level.info) :
    (((t.moved ms).write r).2.books i.book).entries = ((t.moved ms).books i.book).entries := by
  obtain rfl := eq_tapped_of_enter henter
  rw [write_tapped_faint hbooks ms hlevel, if_neg, List.append_nil]
  rintro ⟨henabled, hover | ⟨hself, hlow, -⟩⟩
  · exact hothers hover
  · -- the channel has been lowered, and no further than progress
    have hset : (((s.tapped i.channel i.book).moved ms).tree.logger i.channel).level =
        Level.info := by
      rw [level_moved hkept]
      show ((s.tree.tapped i.channel s.next i.book).logger i.channel).level = Level.info
      rw [LogTree.tapped_logger_self, LogTree.threshold?, if_pos hlow]
      rfl
    have heffective : ((s.tapped i.channel i.book).moved ms).tree.effectiveLevel i.channel =
        Level.info := by
      obtain ⟨above, habove⟩ :=
        LogTree.chain_eq_cons ((s.tapped i.channel i.book).moved ms).tree i.channel
      rw [LogTree.effectiveLevel, habove, LogTree.levelAlong, hset]
      exact if_pos (by decide)
    simp only [LogTree.isEnabled, hself, heffective, Bool.and_eq_true, decide_eq_true_eq]
      at henabled
    omega

/-! ### Somebody looks for a fault -/

/-- A channel without a level of its own. -/
def faultyLoggers : LogState where
  tree := LogTree.initial.enroll "app"

/-- A detail for somebody who looks for a fault. -/
def noise : LogRecord := ⟨"app", Level.debug, .text "noise", [], none⟩

/-- The record comes into the book once somebody has lowered the channel, unless logging is disabled
up to its level. -/
theorem write_faint_noise : ∃ j t,
    ({ book := 0, channel := "app" } : Interceptor).enter faultyLoggers = .ok (j, t) ∧
      (((t.moved [.level "app" Level.debug]).write noise).2.books 0).entries =
        ((t.moved [.level "app" Level.debug]).books 0).entries ++ noise.entries ∧
      (((t.moved [.level "app" Level.debug, .disable Level.debug]).write noise).2.books 0).entries =
        ((t.moved [.level "app" Level.debug, .disable Level.debug]).books 0).entries ++ [] := by
  have henter : ({ book := 0, channel := "app" } : Interceptor).enter faultyLoggers =
      .ok (faultyLoggers.tap "app" 0, faultyLoggers.tapped "app" 0) :=
    enter_eq_tapped List.not_mem_nil
  have hbooks : faultyLoggers.tree.BooksTakeProgress := by
    intro name k hk
    have hlogger : faultyLoggers.tree.logger name = LogTree.initial.logger name := rfl
    rw [hlogger] at hk
    unfold LogTree.initial at hk
    dsimp only at hk
    split_ifs at hk <;> cases hk
  have hfaint : noise.level < Level.info := by decide
  refine ⟨_, _, henter, ?_, ?_⟩
  · rw [write_faint hbooks henter _ hfaint, if_pos (by decide)]
  · rw [write_faint hbooks henter _ hfaint, if_neg (by decide)]

/-- So a record below progress is captured, although the handler does not take it. -/
theorem noise_captured : ∃ j t,
    ({ book := 0, channel := "app" } : Interceptor).enter faultyLoggers = .ok (j, t) ∧
      noise.level < Level.info ∧ j.handler.map (·.level) = some Level.info ∧
      ((t.moved [.level "app" Level.debug]).books 0).entries = [] ∧
      ((t.moved [.level "app" Level.debug, .write noise]).books 0).entries = [⟨.info, "noise"⟩] :=
  ⟨_, _, enter_eq_tapped List.not_mem_nil, by decide, by decide, rfl, by decide⟩

end LogState

end WatWorkbench
