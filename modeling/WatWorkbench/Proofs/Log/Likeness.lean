import WatWorkbench.Proofs.Log.Listening

/-!
# Trees that put the same into two books

Which records come into a book is decided by the handlers and filters that put records into it, by
levels and switches, and by the ways up.  Loggers without any of these do not matter on the way.
Two trees that agree on what does, whatever loggers are still to come, put the same records into one
book as into the other.

* `Logger.Alike` — loggers that do the same, each about a book of its own.
* `LogTree.stops` — the loggers on a way up that matter.
* `LogTree.Alike` — trees that do the same; `Alike.tapped` — so they do when a channel is captured.
* **`LogTree.Alike.copies`** — how often a record comes into the books.
* **`LogState.writtenAll_alike`** — the entries that they get.
-/

namespace WatWorkbench

/-! ## Loggers -/

namespace Logger

/-- The levels of the handlers that put records into a book. -/
def into (l : Logger) (book : Nat) : List Int :=
  (l.handlers.filter (·.sink = .book book)).map (·.level)

/-- What the filters make of a record: how often they divert it into a book, and whether it goes
on. -/
def screened (l : Logger) (book : Nat) (r : LogRecord) : Nat × Bool :=
  (((LogTree.screen r l.filters).1.filter (·.sink = .book book)).length,
    (LogTree.screen r l.filters).2)

/-- The logger does something about records that come up to it, as far as a book is concerned. -/
def matters (l : Logger) (book : Nat) : Bool :=
  l.level ≠ 0 || !l.propagate || !(l.into book).isEmpty

/-- The loggers do the same, the first one about one book and the second one about another. -/
structure Alike (book book' : Nat) (l l' : Logger) : Prop where
  level : l'.level = l.level
  propagate : l'.propagate = l.propagate
  disabled : l'.disabled = l.disabled
  into : l'.into book' = l.into book
  screened : ∀ r, l'.screened book' r = l.screened book r

variable {l l' : Logger} {book book' : Nat}

lemma Alike.matters (h : l.Alike book book' l') : l'.matters book' = l.matters book := by
  rw [Logger.matters, Logger.matters, h.level, h.propagate, h.into]

/-! ### Tapped loggers -/

section Tapped

variable (l : Logger) (number book : Nat) (threshold : Option Int)

lemma into_tapped :
    (l.tapped ⟨number, Level.info, .book book⟩ threshold).into book = l.into book ++ [Level.info] := by
  simp [into]

/-- What passes the filters that were there comes to the interceptor's filter, if there is one. -/
lemma screened_tapped (r : LogRecord) :
    (l.tapped ⟨number, Level.info, .book book⟩ threshold).screened book r =
      match threshold, l.screened book r with
      | some level, (_, true) => if level ≤ r.level then (0, true) else (1, false)
      | _, screened => screened := by
  cases threshold with
  | none => rfl
  | some level =>
      simp only [screened, tapped]
      cases hpasses : (LogTree.screen r l.filters).2 with
      | true =>
          rw [LogTree.screen_append hpasses, LogTree.screen]
          by_cases hle : level ≤ r.level <;> simp [LogTree.screen, hle]
      | false => rw [LogTree.screen_append_of_not hpasses, hpasses]

end Tapped

/-- Loggers that are tapped, each for its book, do the same as before. -/
lemma Alike.tapped (h : l.Alike book book' l') (number number' : Nat) (threshold : Option Int) :
    (l.tapped ⟨number, Level.info, .book book⟩ threshold).Alike book book'
      (l'.tapped ⟨number', Level.info, .book book'⟩ threshold) where
  level := by
    cases threshold with
    | none => exact h.level
    | some => rfl
  propagate := by simp [h.propagate]
  disabled := by simp [h.disabled]
  into := by rw [into_tapped, into_tapped, h.into]
  screened r := by rw [screened_tapped, screened_tapped, h.screened]

end Logger

namespace LogTree

variable {t t' u : LogTree} {channel name : Text} {book book' : Nat}

lemma Ignores.into (h : t.Ignores book) (name : Text) : (t.logger name).into book = [] := by
  rw [Logger.into, List.map_eq_nil_iff, List.filter_eq_nil_iff]
  simpa using h.handlers name

lemma Ignores.screened (h : t.Ignores book) (name : Text) (r : LogRecord) :
    (t.logger name).screened book r = (0, (screen r (t.logger name).filters).2) := by
  refine Prod.ext ?_ rfl
  rw [Logger.screened, List.length_eq_zero_iff, List.filter_eq_nil_iff]
  intro handler hdiverted
  obtain ⟨n, level, hfilter⟩ := mem_screen hdiverted
  simpa using h.filters name n level handler hfilter

/-! ## The way up -/

/-- The tree with more loggers, which come one after another. -/
def enrollAll (t : LogTree) (names : List Text) : LogTree := names.foldl enroll t

@[simp] lemma enrollAll_logger (t : LogTree) (names : List Text) :
    (t.enrollAll names).logger = t.logger := by
  induction names generalizing t with
  | nil => rfl
  | cons n names ih => exact (ih (t.enroll n)).trans (enroll_logger t n)

lemma SamePlaces.enrollAll (h : SamePlaces t u) (names : List Text) :
    SamePlaces (t.enrollAll names) (u.enrollAll names) := by
  induction names generalizing t u with
  | nil => exact h
  | cons n names ih => exact ih (h.enroll n)

/-- The loggers on the way up that matter for a book, and the channel. -/
def stops (t : LogTree) (channel : Text) (book : Nat) (name : Text) : List Text :=
  (t.chain name).filter fun n => n = channel || (t.logger n).matters book

/-- The levels of the handlers on the way up that put records into a book. -/
def intoAlong (t : LogTree) (book : Nat) (names : List Text) : List Int :=
  ((t.handlersAlong names).filter (·.sink = .book book)).map (·.level)

lemma intoAlong_cons (names : List Text) : t.intoAlong book (name :: names) =
    (t.logger name).into book ++
      if (t.logger name).propagate then t.intoAlong book names else [] := by
  rw [intoAlong, handlersAlong, List.filter_append, List.map_append]
  split_ifs <;> rfl

section Filter

variable {keep : Text → Bool} (h : ∀ n, keep n = false → (t.logger n).matters book = false)

include h

/-- Loggers that do not matter leave the level to those above them, -/
lemma levelAlong_filter (names : List Text) :
    t.levelAlong (names.filter keep) = t.levelAlong names := by
  induction names with
  | nil => rfl
  | cons n names ih =>
      cases hkeep : keep n with
      | true => rw [List.filter_cons_of_pos hkeep, levelAlong, levelAlong, ih]
      | false =>
          have hlevel : (t.logger n).level = 0 := by
            have hnot := h n hkeep
            simp only [Logger.matters, Bool.or_eq_false_iff] at hnot
            simpa using hnot.1.1
          rw [List.filter_cons_of_neg (by simp [hkeep]), ih, levelAlong, if_neg (by simp [hlevel])]

/-- and let records go on to their handlers. -/
lemma intoAlong_filter (names : List Text) :
    t.intoAlong book (names.filter keep) = t.intoAlong book names := by
  induction names with
  | nil => rfl
  | cons n names ih =>
      cases hkeep : keep n with
      | true => rw [List.filter_cons_of_pos hkeep, intoAlong_cons, intoAlong_cons, ih]
      | false =>
          have hnot := h n hkeep
          simp only [Logger.matters, Bool.or_eq_false_iff, Bool.not_eq_false',
            List.isEmpty_iff] at hnot
          obtain ⟨⟨-, hpropagate⟩, hnone⟩ := hnot
          rw [List.filter_cons_of_neg (by simp [hkeep]), ih, intoAlong_cons, hnone, hpropagate]
          rfl

end Filter

lemma matters_of_not_stop {n : Text}
    (h : (n = channel || (t.logger n).matters book) = false) :
    (t.logger n).matters book = false := (Bool.or_eq_false_iff.mp h).2

lemma levelAlong_stops (t : LogTree) (channel : Text) (book : Nat) (name : Text) :
    t.levelAlong (t.stops channel book name) = t.effectiveLevel name :=
  levelAlong_filter (fun _ => matters_of_not_stop) _

lemma intoAlong_stops (t : LogTree) (channel : Text) (book : Nat) (name : Text) :
    t.intoAlong book (t.stops channel book name) = t.intoAlong book (t.chain name) :=
  intoAlong_filter (fun _ => matters_of_not_stop) _

/-- How often a record comes into a book. -/
def copies (t : LogTree) (book : Nat) (r : LogRecord) : Nat :=
  ((t.deliveries r).filter (·.sink = .book book)).length

lemma copies_eq (t : LogTree) (book : Nat) (r : LogRecord) : t.copies book r =
    if t.isEnabled r.logger r.level then
      match (t.logger r.logger).screened book r with
      | (diverted, false) => diverted
      | (_, true) => ((t.intoAlong book (t.chain r.logger)).filter (· ≤ r.level)).length
    else 0 := by
  have hfound (found : List Handler) :
      (((if found.isEmpty then [lastResort] else found).filter (·.level ≤ r.level)).filter
        (·.sink = .book book)).length =
      (((found.filter (·.sink = .book book)).map (·.level)).filter (· ≤ r.level)).length := by
    rw [List.filter_map, List.length_map, List.filter_filter, List.filter_filter]
    cases found with
    | nil => simp [lastResort]
    | cons h found =>
        refine congrArg List.length (List.filter_congr fun k _ => ?_)
        simp [Bool.and_comm]
  cases henabled : t.isEnabled r.logger r.level with
  | false => simp [copies, deliveries, henabled]
  | true =>
      rw [copies, deliveries, henabled, if_pos rfl, Logger.screened]
      rcases screen r (t.logger r.logger).filters with ⟨diverted, _ | _⟩
      · rfl
      · exact hfound _

/-! ## Trees -/

/-- The trees do the same about records, the first one for one book and the second one for another:
their loggers do, and the same ones matter on the way up from each logger, whatever loggers come
into both of them. -/
structure Alike (channel : Text) (book book' : Nat) (t t' : LogTree) : Prop where
  disabledUpTo : t'.disabledUpTo = t.disabledUpTo
  logger : ∀ n, (t.logger n).Alike book book' (t'.logger n)
  stops : ∀ names n, (t'.enrollAll names).stops channel book' n =
    (t.enrollAll names).stops channel book n

namespace Alike

variable (h : Alike channel book book' t t')

include h

lemma enroll (name : Text) : Alike channel book book' (t.enroll name) (t'.enroll name) where
  disabledUpTo := by rw [enroll_disabledUpTo, enroll_disabledUpTo, h.disabledUpTo]
  logger := by simpa using h.logger
  stops names := h.stops (name :: names)

lemma stops_eq (name : Text) : t'.stops channel book' name = t.stops channel book name :=
  h.stops [] name

lemma effectiveLevel (name : Text) : t'.effectiveLevel name = t.effectiveLevel name := by
  rw [← levelAlong_stops t' channel book', ← levelAlong_stops t channel book, h.stops_eq]
  exact levelAlong_congr fun n _ => (h.logger n).level

lemma intoAlong_congr (names : List Text) :
    t'.intoAlong book' names = t.intoAlong book names := by
  induction names with
  | nil => rfl
  | cons n names ih =>
      rw [intoAlong_cons, intoAlong_cons, (h.logger n).into, (h.logger n).propagate, ih]

lemma intoAlong (name : Text) :
    t'.intoAlong book' (t'.chain name) = t.intoAlong book (t.chain name) := by
  rw [← intoAlong_stops t' channel book', ← intoAlong_stops t channel book, h.stops_eq]
  exact h.intoAlong_congr _

/-- **A record** comes into both books, equally often. -/
theorem copies (r : LogRecord) : t'.copies book' r = t.copies book r := by
  have henabled : t'.isEnabled r.logger r.level = t.isEnabled r.logger r.level := by
    rw [isEnabled, isEnabled, (h.logger _).disabled, h.disabledUpTo, h.effectiveLevel]
  rw [copies_eq, copies_eq, henabled, (h.logger _).screened, h.intoAlong]

end Alike

/-! ### Trees with a captured channel -/

/-- The way up does not depend on the configuration of the channel. -/
lemma stops_congr (hplaces : SamePlaces t u) (h : ∀ n, n ≠ channel → u.logger n = t.logger n)
    (name : Text) : u.stops channel book name = t.stops channel book name := by
  rw [stops, stops, hplaces.chain]
  refine List.filter_congr fun n _ => ?_
  by_cases hn : n = channel
  · simp [hn]
  · rw [h n hn]

lemma stops_tapped (t : LogTree) (number : Nat) (names : List Text) (name : Text) :
    ((t.tapped channel number book).enrollAll names).stops channel book name =
      ((t.enroll channel).enrollAll names).stops channel book name := by
  refine stops_congr ((samePlaces_enroll_configure t channel _).enrollAll names) (fun n hn => ?_) name
  rw [enrollAll_logger, enrollAll_logger, enroll_logger]
  exact tapped_logger_of_ne hn

lemma effectiveLevel_enroll (t : LogTree) (channel : Text) :
    (t.enroll channel).effectiveLevel channel = t.effectiveLevel channel := by
  rw [effectiveLevel, effectiveLevel, chain_enroll]
  exact levelAlong_congr fun n _ => by rw [enroll_logger]

/-- **Trees whose channel is captured**, each into its book, do the same as before. -/
theorem Alike.tapped (h : Alike channel book book' (t.enroll channel) (t'.enroll channel))
    (number number' : Nat) :
    Alike channel book book' (t.tapped channel number book) (t'.tapped channel number' book') where
  disabledUpTo := by
    rw [tapped_disabledUpTo, tapped_disabledUpTo, ← enroll_disabledUpTo t channel,
      ← enroll_disabledUpTo t' channel]
    exact h.disabledUpTo
  logger n := by
    have hlogger := h.logger n
    rw [enroll_logger, enroll_logger] at hlogger
    by_cases hn : n = channel
    · have hthreshold : t'.threshold? channel = t.threshold? channel := by
        have hlevel := h.effectiveLevel channel
        rw [effectiveLevel_enroll, effectiveLevel_enroll] at hlevel
        rw [threshold?, threshold?, hlevel]
      rw [hn] at hlogger ⊢
      rw [tapped_logger_self, tapped_logger_self, hthreshold]
      exact hlogger.tapped number number' _
    · rw [tapped_logger_of_ne hn, tapped_logger_of_ne hn]
      exact hlogger
  stops names n := by rw [stops_tapped, stops_tapped, h.stops]

end LogTree

/-! ## Entries -/

namespace LogState

variable {s t : LogState} {channel : Text} {book book' : Nat}

/-- A book gets the entry of a record as often as the record comes into it. -/
lemma write_books_copies (s : LogState) (r : LogRecord) (book : Nat) :
    ((s.write r).2.books book).entries =
      (s.books book).entries ++ (List.replicate (s.tree.copies book r) r.entries).flatten := by
  rw [write_books, List.flatMap_def, List.map_const']
  rfl

/-- **Both books** get the same entries. -/
theorem writtenAll_alike (h : s.tree.Alike channel book book' t.tree) (rs : List LogRecord) :
    ∃ es, ((s.writtenAll rs).books book).entries = (s.books book).entries ++ es ∧
      ((t.writtenAll rs).books book').entries = (t.books book').entries ++ es := by
  induction rs generalizing s t with
  | nil => exact ⟨[], (List.append_nil _).symm, (List.append_nil _).symm⟩
  | cons r rs ih =>
      have hnext : (s.write r).2.tree.Alike channel book book' (t.write r).2.tree := by
        rw [write_tree, write_tree]
        exact h.enroll r.logger
      obtain ⟨es, hs, ht⟩ := ih hnext
      refine ⟨(List.replicate (s.tree.copies book r) r.entries).flatten ++ es, ?_, ?_⟩
      · rw [← List.append_assoc, ← write_books_copies]
        exact hs
      · rw [← h.copies, ← List.append_assoc, ← write_books_copies]
        exact ht

end LogState

end WatWorkbench
