import WatWorkbench.Proofs.Log.Delivery
import WatWorkbench.Proofs.Log.Lending

/-!
# What a captured channel puts into its book

While a channel is captured, every record of progress or more that is written to it comes into the
book once, whatever its level was before and whoever else listens, and nothing else does.  There are
two ways into the book: the records that the channel would have taken anyway come to the handler, and
those that it takes only because it has been lowered are diverted to it by the filter.  When the
channel is given back it is as it was.

* `LogRecord.captured` — the entry that a record becomes in the book.
* `LogTree.Takes`, `LogTree.Ignores` — nobody keeps records of progress from a channel, and nobody
  else puts records into a book.
* `LogState.tapped` — the state while a channel is captured into a book.
* **`LogTree.filter_deliveries_tapped`** — the handler gets each record of progress or more once.
* `LogState.Heard` — what is left of capturing; **`LogState.heard_leave`** — it is what is left.
* `LogState.Fit`, `LogState.Ready` — channels that pipelines can capture, and stay so.
-/

namespace WatWorkbench

/-- The entry that a record becomes in the book of an interceptor of its logger. -/
def LogRecord.captured (r : LogRecord) : List LogEntry :=
  if Level.info ≤ r.level then r.entries else []

namespace LogTree

variable {t : LogTree} {r : LogRecord} {channel : Text} {book : Nat}

/-! ## Others on the way -/

/-- Nobody keeps records of progress or more from a channel: it is not switched off, neither alone
nor with all others, and its filters let them pass. -/
structure Takes (t : LogTree) (channel : Text) : Prop where
  disabledUpTo : t.disabledUpTo < Level.info
  enabled : (t.logger channel).disabled = false
  passes : ∀ r : LogRecord, Level.info ≤ r.level → (screen r (t.logger channel).filters).2 = true

/-- No handler puts records into the book, neither one of a logger nor one of a filter. -/
structure Ignores (t : LogTree) (book : Nat) : Prop where
  handlers : ∀ name, ∀ h ∈ (t.logger name).handlers, h.sink ≠ .book book
  filters : ∀ name n level h, Filter.threshold n level h ∈ (t.logger name).filters →
    h.sink ≠ .book book

/-- Filters that let a record pass leave it to those that come after them. -/
lemma screen_append {fs : List Filter} (h : (screen r fs).2 = true) (gs : List Filter) :
    screen r (fs ++ gs) = screen r gs := by
  induction fs with
  | nil => rfl
  | cons f fs ih =>
      cases f with
      | threshold n level handler =>
          simp only [screen, List.cons_append] at h ⊢
          split_ifs at h ⊢ with hlevel
          exact ih h
      | foreign accepts =>
          simp only [screen, List.cons_append] at h ⊢
          split_ifs at h ⊢ with haccepts
          exact ih h

/-- Filters that do not let a record pass have the last word. -/
lemma screen_append_of_not {fs : List Filter} (h : (screen r fs).2 = false) (gs : List Filter) :
    screen r (fs ++ gs) = screen r fs := by
  induction fs with
  | nil => cases h
  | cons f fs ih =>
      cases f with
      | threshold n level handler =>
          simp only [screen, List.cons_append] at h ⊢
          split_ifs at h ⊢ with hlevel
          · exact ih h
          · rfl
      | foreign accepts =>
          simp only [screen, List.cons_append] at h ⊢
          split_ifs at h ⊢ with haccepts
          · exact ih h
          · rfl

lemma mem_screen {fs : List Filter} {h : Handler} (hh : h ∈ (screen r fs).1) :
    ∃ n level, Filter.threshold n level h ∈ fs := by
  induction fs with
  | nil => simp [screen] at hh
  | cons f fs ih =>
      cases f with
      | threshold n level handler =>
          simp only [screen] at hh
          split_ifs at hh
          · obtain ⟨m, l, hm⟩ := ih hh
            exact ⟨m, l, List.mem_cons_of_mem _ hm⟩
          · obtain rfl : h = handler := by simpa using hh
            exact ⟨n, level, List.mem_cons_self⟩
      | foreign accepts =>
          simp only [screen] at hh
          split_ifs at hh
          · obtain ⟨m, l, hm⟩ := ih hh
            exact ⟨m, l, List.mem_cons_of_mem _ hm⟩
          · simp at hh

lemma mem_handlersAlong {names : List Text} {h : Handler} (hh : h ∈ t.handlersAlong names) :
    ∃ n ∈ names, h ∈ (t.logger n).handlers := by
  induction names with
  | nil => simp [handlersAlong] at hh
  | cons n names ih =>
      rw [handlersAlong] at hh
      rcases List.mem_append.mp hh with hh | hh
      · exact ⟨n, List.mem_cons_self, hh⟩
      · split_ifs at hh
        · obtain ⟨m, hm, hmem⟩ := ih hh
          exact ⟨m, List.mem_cons_of_mem _ hm, hmem⟩
        · simp at hh

/-- A record goes to handlers that filters divert it to, to the one for what nobody handles, and to
handlers on the way up that take its level. -/
lemma mem_deliveries {h : Handler} (hh : h ∈ t.deliveries r) :
    (∃ n level, Filter.threshold n level h ∈ (t.logger r.logger).filters) ∨ h = lastResort ∨
      ((∃ n ∈ t.chain r.logger, h ∈ (t.logger n).handlers) ∧ h.level ≤ r.level) := by
  unfold deliveries at hh
  split_ifs at hh
  · simp at hh
  · rcases hscreen : screen r (t.logger r.logger).filters with ⟨diverted, _ | _⟩
    · rw [hscreen] at hh
      exact Or.inl (mem_screen (r := r) (by rw [hscreen]; exact hh))
    · rw [hscreen] at hh
      obtain ⟨hfound, hlevel⟩ := List.mem_filter.mp hh
      split_ifs at hfound
      · exact Or.inr (Or.inl (by simpa using hfound))
      · exact Or.inr (Or.inr ⟨mem_handlersAlong hfound, by simpa using hlevel⟩)

/-- A book that nobody puts records into gets none. -/
lemma Ignores.filter_deliveries (h : t.Ignores book) (r : LogRecord) :
    (t.deliveries r).filter (·.sink = .book book) = [] := by
  rw [List.filter_eq_nil_iff]
  intro k hk
  rcases mem_deliveries hk with ⟨n, level, hfilter⟩ | rfl | ⟨⟨n, -, hhandler⟩, -⟩
  · simpa using h.filters _ n level k hfilter
  · simp [lastResort]
  · simpa using h.handlers n k hhandler

/-! ## The way up -/

lemma has_enroll (t : LogTree) (name : Text) : (t.enroll name).Has name := by
  rw [enroll]
  split_ifs with h
  · simpa [Has] using h
  · refine Or.inr ?_
    simp [place?, List.find?_append]

/-- The way up is told from the tree with the logger in it. -/
lemma chain_enroll (t : LogTree) (name : Text) : (t.enroll name).chain name = t.chain name := by
  simp only [chain, enroll_of_has (has_enroll t name)]

/-- A logger that is only asked for writes nowhere. -/
lemma Ignores.enroll (h : t.Ignores book) (name : Text) : (t.enroll name).Ignores book where
  handlers := by rw [enroll_logger]; exact h.handlers
  filters := by rw [enroll_logger]; exact h.filters

lemma samePlaces_enroll_configure (t : LogTree) (name : Text) (change : Logger → Logger) :
    SamePlaces (t.enroll name) (t.configure name change) := ⟨rfl, rfl⟩

lemma enroll_disabledUpTo (t : LogTree) (name : Text) :
    (t.enroll name).disabledUpTo = t.disabledUpTo := by
  rw [enroll]
  split <;> rfl

lemma chain_configure (t : LogTree) (name : Text) (change : Logger → Logger) :
    (t.configure name change).chain name = t.chain name :=
  ((samePlaces_enroll_configure t name change).chain name).trans
    (chain_enroll t name)

lemma has_configure (t : LogTree) (name : Text) (change : Logger → Logger) :
    (t.configure name change).Has name :=
  (samePlaces_enroll_configure t name change).has.mpr (has_enroll t name)

/-- The way up begins with the logger itself. -/
lemma chain_eq_cons (t : LogTree) (name : Text) : ∃ above, t.chain name = name :: above := by
  have hhas := has_enroll t name
  unfold chain
  generalize t.enroll name = u at hhas
  dsimp only
  rcases hhas with rfl | hplace
  · cases u.places.length with
    | zero => exact ⟨[], rfl⟩
    | succ fuel =>
        rw [climb]
        split <;> exact ⟨_, rfl⟩
  · obtain ⟨p, hp⟩ := Option.isSome_iff_exists.mp hplace
    have hpos := List.length_pos_of_mem (List.mem_of_find?_eq_some hp)
    obtain ⟨fuel, hfuel⟩ := Nat.exists_eq_succ_of_ne_zero (Nat.ne_of_gt hpos)
    rw [hfuel, climb, hp]
    exact ⟨_, rfl⟩

lemma levelAlong_congr {t' : LogTree} {names : List Text}
    (h : ∀ n ∈ names, (t'.logger n).level = (t.logger n).level) :
    t'.levelAlong names = t.levelAlong names := by
  induction names with
  | nil => rfl
  | cons n names ih =>
      rw [levelAlong, levelAlong, h n List.mem_cons_self,
        ih fun m hm => h m (List.mem_cons_of_mem _ hm)]

/-- Whether records propagate along a chain of names as far as the channel. -/
def leads (t : LogTree) (channel : Text) : List Text → Bool
  | [] => false
  | n :: ns => n = channel || ((t.logger n).propagate && t.leads channel ns)

/-! ## A tapped channel -/

section Tapped

/-- The tree in which an interceptor has tapped a channel for a book. -/
def tapped (t : LogTree) (channel : Text) (number book : Nat) : LogTree :=
  t.configure channel (·.tapped ⟨number, Level.info, .book book⟩ (t.threshold? channel))

variable {number : Nat}

lemma tapped_logger_self : (t.tapped channel number book).logger channel =
    (t.logger channel).tapped ⟨number, Level.info, .book book⟩ (t.threshold? channel) :=
  configure_self _ _ _

lemma tapped_logger_of_ne {n : Text} (h : n ≠ channel) :
    (t.tapped channel number book).logger n = t.logger n := configure_of_ne _ _ h

lemma tapped_disabledUpTo : (t.tapped channel number book).disabledUpTo = t.disabledUpTo :=
  enroll_disabledUpTo t channel

/-- A channel that is tapped takes progress, but is not lowered any further. -/
lemma effectiveLevel_tapped :
    (t.tapped channel number book).effectiveLevel channel =
      min Level.info (t.effectiveLevel channel) := by
  obtain ⟨above, habove⟩ := chain_eq_cons t channel
  have hchain : (t.tapped channel number book).chain channel = channel :: above :=
    (chain_configure t channel _).trans habove
  rw [effectiveLevel, hchain]
  by_cases hlow : Level.info < t.effectiveLevel channel
  · rw [levelAlong, tapped_logger_self, threshold?, if_pos hlow,
      Int.min_eq_left (Int.le_of_lt hlow)]
    exact if_pos (by decide : Level.info ≠ 0)
  · rw [Int.min_eq_right (Int.not_lt.mp hlow), effectiveLevel, habove]
    refine levelAlong_congr fun n _ => ?_
    by_cases hn : n = channel
    · rw [hn, tapped_logger_self, threshold?, if_neg hlow]
      rfl
    · rw [tapped_logger_of_ne hn]

/-- Tapping a channel for a book concerns no other book. -/
lemma Ignores.tapped (h : t.Ignores book) {other : Nat} (hne : other ≠ book) :
    (t.tapped channel number other).Ignores book := by
  have hsink : Sink.book other ≠ .book book := fun e => hne (Sink.book.inj e)
  constructor
  · intro name k hk
    by_cases hname : name = channel
    · rw [hname, tapped_logger_self, Logger.tapped_handlers] at hk
      rcases List.mem_append.mp hk with hk | hk
      · exact h.handlers _ k hk
      · rw [List.mem_singleton.mp hk]
        exact hsink
    · rw [tapped_logger_of_ne hname] at hk
      exact h.handlers _ k hk
  · intro name n level k hk
    by_cases hname : name = channel
    · rw [hname, tapped_logger_self] at hk
      cases hthreshold : t.threshold? channel with
      | none =>
          rw [hthreshold] at hk
          exact h.filters _ n level k hk
      | some found =>
          rw [hthreshold] at hk
          rcases List.mem_append.mp hk with hk | hk
          · exact h.filters _ n level k hk
          · obtain ⟨-, -, rfl⟩ := Filter.threshold.inj (List.mem_singleton.mp hk)
            exact hsink
    · rw [tapped_logger_of_ne hname] at hk
      exact h.filters _ n level k hk

section Delivered

variable (htakes : t.Takes channel) (hignores : t.Ignores book) (hlogger : r.logger = channel)

include htakes hlogger in
lemma isEnabled_tapped (hlevel : Level.info ≤ r.level) :
    (t.tapped channel number book).isEnabled r.logger r.level = true := by
  have hup : t.disabledUpTo < r.level := Int.lt_of_lt_of_le htakes.disabledUpTo hlevel
  have hdown : min Level.info (t.effectiveLevel channel) ≤ r.level := by omega
  simp [isEnabled, hlogger, tapped_logger_self, htakes.enabled, tapped_disabledUpTo, hup,
    effectiveLevel_tapped, hdown]

include hignores hlogger in
/-- A record below progress does not come to the handler: a channel that has been lowered does not
take it, and on any other the handler does not. -/
lemma filter_deliveries_tapped_of_lt (hlevel : r.level < Level.info) :
    ((t.tapped channel number book).deliveries r).filter (·.sink = .book book) = [] := by
  by_cases hlow : Level.info < t.effectiveLevel channel
  · have hoff : (t.tapped channel number book).isEnabled r.logger r.level = false := by
      have hdown : ¬ min Level.info (t.effectiveLevel channel) ≤ r.level := by omega
      rw [isEnabled, hlogger, effectiveLevel_tapped, decide_eq_false hdown, Bool.and_false]
    rw [deliveries, hoff]
    rfl
  · rw [List.filter_eq_nil_iff]
    intro k hk
    rcases mem_deliveries hk with ⟨n, level, hfilter⟩ | rfl | ⟨⟨n, -, hhandler⟩, hkl⟩
    · rw [hlogger, tapped_logger_self, threshold?, if_neg hlow] at hfilter
      simpa using hignores.filters _ n level k hfilter
    · simp [lastResort]
    · by_cases hn : n = channel
      · rw [hn, tapped_logger_self, Logger.tapped_handlers] at hhandler
        rcases List.mem_append.mp hhandler with hhandler | hhandler
        · simpa using hignores.handlers _ k hhandler
        · -- the handler of the interceptor, which takes nothing below progress
          rw [List.mem_singleton.mp hhandler] at hkl
          exact absurd hkl (Int.not_le.mpr hlevel)
      · rw [tapped_logger_of_ne hn] at hhandler
        simpa using hignores.handlers _ k hhandler

include hignores in
/-- Among the handlers that records reach from loggers that are all different, the interceptor's is
there once, if they come as far as the channel. -/
lemma filter_handlersAlong_tapped {names : List Text} (hnodup : names.Nodup) :
    ((t.tapped channel number book).handlersAlong names).filter (·.sink = .book book) =
      if t.leads channel names then [⟨number, Level.info, .book book⟩] else [] := by
  have hothers {names : List Text} (hnotMem : channel ∉ names) :
      ((t.tapped channel number book).handlersAlong names).filter (·.sink = .book book) = [] := by
    rw [List.filter_eq_nil_iff]
    intro k hk
    obtain ⟨n, hn, hhandler⟩ := mem_handlersAlong hk
    have hne : n ≠ channel := fun e => hnotMem (e ▸ hn)
    rw [tapped_logger_of_ne hne] at hhandler
    simpa using hignores.handlers n k hhandler
  have hown (n : Text) : (t.logger n).handlers.filter (·.sink = .book book) = [] := by
    rw [List.filter_eq_nil_iff]
    intro k hk
    simpa using hignores.handlers n k hk
  induction names with
  | nil => rfl
  | cons n names ih =>
      obtain ⟨hnotMem, hnodup⟩ := List.nodup_cons.mp hnodup
      rw [LogTree.handlersAlong, LogTree.leads, List.filter_append]
      by_cases hn : n = channel
      · -- the channel is met once, so there is nothing further up
        subst hn
        have hrest : (if (t.logger n).propagate then
            (t.tapped n number book).handlersAlong names else []).filter
              (·.sink = .book book) = [] := by
          split_ifs
          · exact hothers hnotMem
          · rfl
        rw [tapped_logger_self, Logger.tapped_handlers, Logger.tapped_propagate,
          List.filter_append, hown, hrest]
        simp
      · rw [tapped_logger_of_ne hn, hown]
        by_cases hpropagate : (t.logger n).propagate
        · simp [hn, hpropagate, ih hnodup]
        · simp [hn, hpropagate]

include hignores hlogger in
/-- The handler of a tapped channel gets a record of progress or more that the channel takes and that
its filters let pass once. -/
lemma filter_deliveries_tapped_of_isEnabled (hrooted : t.Rooted) (hlevel : Level.info ≤ r.level)
    (henabled : (t.tapped channel number book).isEnabled r.logger r.level = true)
    (hpasses : (screen r (t.logger channel).filters).2 = true) :
    ((t.tapped channel number book).deliveries r).filter (·.sink = .book book) =
      [⟨number, Level.info, .book book⟩] := by
  have halong : ((t.tapped channel number book).handlersAlong
      ((t.tapped channel number book).chain channel)).filter (·.sink = .book book) =
        [⟨number, Level.info, .book book⟩] := by
    rw [show (t.tapped channel number book).chain channel = t.chain channel from
      chain_configure t channel _, filter_handlersAlong_tapped hignores (hrooted.nodup_chain channel)]
    obtain ⟨above, habove⟩ := chain_eq_cons t channel
    simp [habove, leads]
  have hhandled : (t.tapped channel number book).handlersAlong
      ((t.tapped channel number book).chain r.logger) ≠ [] := by
    rw [hlogger]
    intro hnil
    rw [hnil] at halong
    cases halong
  have hscreen : screen r ((t.tapped channel number book).logger r.logger).filters =
      screen r ((t.threshold? channel).toList.map fun found =>
        .threshold number found ⟨number, Level.info, .book book⟩) := by
    rw [hlogger, tapped_logger_self]
    cases t.threshold? channel with
    | none =>
        show screen r (t.logger channel).filters = _
        rw [← List.append_nil (t.logger channel).filters, screen_append hpasses]
        rfl
    | some found => exact screen_append hpasses _
  -- below the level that the channel had, the record is diverted; otherwise it is handed on
  by_cases hdiverted : ∃ found ∈ t.threshold? channel, r.level < found
  · obtain ⟨found, hfound, hlow⟩ := hdiverted
    rw [Option.mem_def.mp hfound] at hscreen
    have haside : screen r ((t.tapped channel number book).logger r.logger).filters =
        ([⟨number, Level.info, .book book⟩], false) :=
      hscreen.trans (by simp [screen, Int.not_le.mpr hlow])
    rw [deliveries_of_diverted henabled haside]
    simp
  · have hpassed : (screen r
        ((t.tapped channel number book).logger r.logger).filters).2 = true := by
      rw [hscreen]
      cases hthreshold : t.threshold? channel with
      | none => rfl
      | some found =>
          have hle : found ≤ r.level := Int.not_lt.mp fun hlow =>
            hdiverted ⟨found, hthreshold, hlow⟩
          simp [screen, hle]
    rw [deliveries_of_passed henabled hpassed hhandled, hlogger, List.filter_filter]
    simp only [Bool.and_comm]
    rw [← List.filter_filter, halong]
    simp [hlevel]

include htakes hignores hlogger in
/-- **The handler of a tapped channel** gets a record of progress or more once, and no other. -/
theorem filter_deliveries_tapped (hrooted : t.Rooted) :
    ((t.tapped channel number book).deliveries r).filter (·.sink = .book book) =
      if Level.info ≤ r.level then [⟨number, Level.info, .book book⟩] else [] := by
  by_cases hlevel : Level.info ≤ r.level
  · rw [if_pos hlevel]
    exact filter_deliveries_tapped_of_isEnabled hignores hlogger hrooted hlevel
      (isEnabled_tapped htakes hlogger hlevel) (htakes.passes r hlevel)
  · rw [if_neg hlevel]
    exact filter_deliveries_tapped_of_lt hignores hlogger (Int.not_le.mp hlevel)

end Delivered

end Tapped

end LogTree

/-! ## Capturing -/

namespace LogState

variable {s t : LogState} {channel : Text} {book : Nat} {rs : List LogRecord}

/-- The state while a channel is captured into a book. -/
def tapped (s : LogState) (channel : Text) (book : Nat) : LogState :=
  { s with
    next := s.next + 1
    captured := channel :: s.captured
    tree := s.tree.tapped channel s.next book }

/-- The interceptor that captures it. -/
def tap (s : LogState) (channel : Text) (book : Nat) : Interceptor where
  book := book
  channel := channel
  handler := some ⟨s.next, Level.info, .book book⟩
  filter := (s.tree.threshold? channel).map fun _ => s.next
  savedLevel := some (s.tree.logger channel).level

/-- Entering a channel that nobody has. -/
lemma enter_eq_tapped (h : channel ∉ s.captured) :
    ({ book, channel } : Interceptor).enter s =
      .ok (s.tap channel book, s.tapped channel book) :=
  Interceptor.enter_eq (i := { book, channel }) h ⟨rfl, rfl⟩

/-- What is left when a channel has been captured into a book while records were written to it: the
channel is as it was, and the book has an entry for each record of progress or more. -/
structure Heard (s : LogState) (channel : Text) (book : Nat) (rs : List LogRecord)
    (t : LogState) : Prop where
  tree : t.tree = s.tree.enroll channel
  captured : t.captured = s.captured
  next : t.next = s.next + 1
  entries : (t.books book).entries = (s.books book).entries ++ rs.flatMap LogRecord.captured
  others : ∀ n, n ≠ book → s.tree.Ignores n → (t.books n).entries = (s.books n).entries

/-- Nobody has the channel or keeps its records back, and nobody else writes into the book. -/
structure Capturable (s : LogState) (channel : Text) (book : Nat) : Prop where
  free : channel ∉ s.captured
  rooted : s.tree.Rooted
  takes : s.tree.Takes channel
  ignores : s.tree.Ignores book

/-- Writing to a captured channel concerns the loggers no more. -/
lemma writtenAll_tapped_frame (hrs : ∀ r ∈ rs, r.logger = channel)
    (htree : t.tree = (s.tapped channel book).tree) :
    (t.writtenAll rs).tree = t.tree ∧ (t.writtenAll rs).captured = t.captured ∧
      (t.writtenAll rs).next = t.next := by
  induction rs generalizing t with
  | nil => exact ⟨rfl, rfl, rfl⟩
  | cons r rs ih =>
      have hsame : (t.write r).2.tree = t.tree := by
        rw [write_tree, hrs r List.mem_cons_self, htree]
        exact LogTree.enroll_of_has (LogTree.has_configure _ _ _)
      obtain ⟨hrest, hcaptured, hnext⟩ := ih (t := (t.write r).2)
        (fun r' hr' => hrs r' (List.mem_cons_of_mem _ hr')) (hsame.trans htree)
      exact ⟨hrest.trans hsame, hcaptured.trans (write_captured t r),
        hnext.trans (write_next t r)⟩

/-- The book of a captured channel gets an entry for each record of progress or more. -/
lemma writtenAll_tapped_book (h : s.Capturable channel book) (hrs : ∀ r ∈ rs, r.logger = channel)
    (htree : t.tree = (s.tapped channel book).tree) :
    ((t.writtenAll rs).books book).entries =
      (t.books book).entries ++ rs.flatMap LogRecord.captured := by
  induction rs generalizing t with
  | nil => exact (List.append_nil _).symm
  | cons r rs ih =>
      have hlogger := hrs r List.mem_cons_self
      have hone : ∀ r' ∈ [r], r'.logger = channel := by simpa using hlogger
      have hsame := (writtenAll_tapped_frame hone htree).1
      have hrest := ih (t := (t.write r).2) (fun r' hr' => hrs r' (List.mem_cons_of_mem _ hr'))
        (hsame.trans htree)
      have hwritten : ((t.write r).2.books book).entries = (t.books book).entries ++ r.captured := by
        rw [write_books, htree]
        refine congrArg _ ?_
        rw [tapped, LogTree.filter_deliveries_tapped h.takes h.ignores hlogger h.rooted,
          LogRecord.captured]
        split_ifs <;> simp
      rw [List.flatMap_cons, ← List.append_assoc, ← hwritten]
      exact hrest

/-- Other books that nobody writes into stay as they are. -/
lemma writtenAll_ignored {n : Nat} (hignores : t.tree.Ignores n) :
    ((t.writtenAll rs).books n).entries = (t.books n).entries := by
  induction rs generalizing t with
  | nil => rfl
  | cons r rs ih =>
      have hrest : (t.write r).2.tree.Ignores n := write_tree t r ▸ hignores.enroll r.logger
      refine (ih hrest).trans ?_
      rw [write_books, hignores.filter_deliveries]
      exact List.append_nil _

/-- **What is left of capturing.**  The channel is given back when records have been written to it
and nothing else has been done to the logging. -/
theorem heard_leave (h : s.Capturable channel book)
    (hspares : (s.tree.logger channel).Spares s.next) (hrs : ∀ r ∈ rs, r.logger = channel) :
    s.Heard channel book rs
      ((s.tap channel book).leave ((s.tapped channel book).writtenAll rs)).2 := by
  obtain ⟨htree, hcaptured, hnext⟩ :=
    writtenAll_tapped_frame (t := s.tapped channel book) hrs rfl
  have hself : ((s.tap channel book).leave ((s.tapped channel book).writtenAll rs)).2.tree.logger
      channel = s.tree.logger channel := by
    refine Interceptor.leave_logger_of_tapped (i := s.tap channel book) rfl rfl rfl hspares ?_
    rw [htree]
    exact LogTree.tapped_logger_self
  refine ⟨?tree, ?captured, hnext, writtenAll_tapped_book h hrs rfl, ?others⟩
  case tree =>
    have hplaces : ((s.tap channel book).leave ((s.tapped channel book).writtenAll rs)).2.tree =
        { s.tree.enroll channel with
          logger := ((s.tap channel book).leave
            ((s.tapped channel book).writtenAll rs)).2.tree.logger } := by
      have henrolled : (s.tapped channel book).tree.enroll channel = (s.tapped channel book).tree :=
        LogTree.enroll_of_has (LogTree.has_configure _ _ _)
      simp only [Interceptor.leave, configure, LogTree.configure, htree, tap, henrolled]
      rfl
    have hloggers : ((s.tap channel book).leave
        ((s.tapped channel book).writtenAll rs)).2.tree.logger = (s.tree.enroll channel).logger := by
      funext n
      rw [LogTree.enroll_logger]
      by_cases hn : n = channel
      · rw [hn, hself]
      · rw [Interceptor.leave_logger_of_ne _ _ hn, htree]
        exact LogTree.tapped_logger_of_ne hn
    rw [hplaces, hloggers]
  case captured =>
    show ((s.tapped channel book).writtenAll rs).captured.filter (· ≠ channel) = s.captured
    rw [hcaptured, tapped, List.filter_cons_of_neg (by simp), List.filter_eq_self]
    intro c hc
    have hne : c ≠ channel := fun e => h.free (e ▸ hc)
    simpa using hne
  case others =>
    intro n hn hignores
    exact writtenAll_ignored (t := s.tapped channel book) (hignores.tapped (Ne.symm hn))

/-! ## Channels that pipelines can capture -/

/-- A channel that nobody has and whose records nobody keeps back, in a state in which the numbers
that are still to come are new to handlers, filters and books. -/
structure Fit (s : LogState) (channel : Text) : Prop where
  free : channel ∉ s.captured
  rooted : s.tree.Rooted
  takes : s.tree.Takes channel
  numbered : s.Numbered
  unread : ∀ n, s.next ≤ n → s.tree.Ignores n
  blank : ∀ n, s.next ≤ n → (s.books n).entries = []

/-- Such a channel with a book that nobody writes into. -/
structure Ready (s : LogState) (channel : Text) (book : Nat) : Prop extends Fit s channel where
  ignores : s.tree.Ignores book
  below : book < s.next

/-- Enrolling a logger and giving out numbers changes nothing for a channel. -/
lemma Fit.of_enroll (h : s.Fit channel) {name : Text} (htree : t.tree = s.tree.enroll name)
    (hcaptured : t.captured = s.captured) (hnext : s.next ≤ t.next)
    (hblank : ∀ n, t.next ≤ n → (t.books n).entries = []) : t.Fit channel where
  free := hcaptured ▸ h.free
  rooted := htree ▸ h.rooted.enroll name
  takes := by
    refine ⟨?_, ?_, ?_⟩
    · rw [htree, LogTree.enroll_disabledUpTo]; exact h.takes.disabledUpTo
    · rw [htree, LogTree.enroll_logger]; exact h.takes.enabled
    · rw [htree, LogTree.enroll_logger]; exact h.takes.passes
  numbered := by
    intro n m hm
    rw [htree, LogTree.enroll_logger]
    exact h.numbered n m (Nat.le_trans hnext hm)
  unread n hn := htree ▸ (h.unread n (Nat.le_trans hnext hn)).enroll name
  blank := hblank

lemma Fit.capturable (h : s.Fit channel) (hignores : s.tree.Ignores book) :
    s.Capturable channel book := ⟨h.free, h.rooted, h.takes, hignores⟩

lemma Ready.capturable (h : s.Ready channel book) : s.Capturable channel book :=
  h.toFit.capturable h.ignores

/-- Before anything is configured, every channel is such. -/
lemma fit_initial (channel : Text) : ({} : LogState).Fit channel := by
  have hlogger (name : Text) : (LogTree.initial.logger name).handlers = [] ∧
      (LogTree.initial.logger name).filters = [] ∧
      (LogTree.initial.logger name).disabled = false := by
    unfold LogTree.initial
    dsimp only
    split <;> exact ⟨rfl, rfl, rfl⟩
  have hignores (n : Nat) : LogTree.initial.Ignores n :=
    ⟨fun name h hh => by simp [(hlogger name).1] at hh,
      fun name m level h hh => by simp [(hlogger name).2.1] at hh⟩
  refine ⟨List.not_mem_nil, LogTree.rooted_initial, ⟨by decide, (hlogger channel).2.2, ?passes⟩,
    ?numbered, fun n _ => hignores n, fun _ _ => rfl⟩
  case passes =>
    intro r _
    rw [(hlogger channel).2.1]
    rfl
  case numbered =>
    exact fun name n _ => ⟨fun h hh => by simp [(hlogger name).1] at hh,
      fun f hf => by simp [(hlogger name).2.1] at hf⟩

/-- So a channel that has been captured can be captured again, for the same book or another one. -/
lemma Ready.heard {other : Nat} (h : s.Ready channel book) (hheard : s.Heard channel other rs t)
    (hother : other < s.next) : t.Ready channel book where
  toFit := by
    refine h.toFit.of_enroll hheard.tree hheard.captured (by rw [hheard.next]; omega) fun n hn => ?_
    rw [hheard.next] at hn
    have hblank := h.blank n (by omega)
    rw [← hblank]
    exact hheard.others n (by omega) (h.unread n (by omega))
  ignores := hheard.tree ▸ h.ignores.enroll channel
  below := by rw [hheard.next]; exact Nat.lt_succ_of_lt h.below

/-- A number that is given out is that of a new book. -/
lemma Fit.fresh (h : s.Fit channel) : s.fresh.2.Ready channel s.next where
  free := h.free
  rooted := h.rooted
  takes := h.takes
  numbered := fun name n hn => h.numbered name n (Nat.le_of_succ_le hn)
  unread := fun n hn => h.unread n (Nat.le_of_succ_le hn)
  blank := fun n hn => h.blank n (Nat.le_of_succ_le hn)
  ignores := h.unread s.next (Nat.le_refl _)
  below := Nat.lt_succ_self _

/-- Another logger may get a level and a handler, as long as the handler does not write into books. -/
lemma Fit.addHandler (h : s.Fit channel) {name : Text} (hne : channel ≠ name) (level : Int)
    {sink : Sink} (hsink : ∀ n, sink ≠ .book n) :
    (s.fresh.2.configure name fun l =>
      { l with level, handlers := l.handlers ++ [⟨s.next, 0, sink⟩] }).Fit channel := by
  generalize hconfigured : (s.fresh.2.configure name fun l =>
    { l with level, handlers := l.handlers ++ [⟨s.next, 0, sink⟩] }) = t
  have hself : t.tree.logger name = { s.tree.logger name with
      level, handlers := (s.tree.logger name).handlers ++ [⟨s.next, 0, sink⟩] } := by
    subst hconfigured
    exact if_pos rfl
  have hother {n : Text} (hn : n ≠ name) : t.tree.logger n = s.tree.logger n := by
    subst hconfigured
    exact if_neg hn
  have hfilters (n : Text) : (t.tree.logger n).filters = (s.tree.logger n).filters := by
    by_cases hn : n = name
    · rw [hn, hself]
    · rw [hother hn]
  have hhandlers {n : Text} {handler : Handler} (hmem : handler ∈ (t.tree.logger n).handlers) :
      handler ∈ (s.tree.logger n).handlers ∨ handler = ⟨s.next, 0, sink⟩ := by
    by_cases hn : n = name
    · subst hn
      rw [hself] at hmem
      simpa using hmem
    · rw [hother hn] at hmem
      exact .inl hmem
  have hnext : t.next = s.next + 1 := by subst hconfigured; rfl
  refine ⟨?free, ?rooted, ⟨?disabledUpTo, ?enabled, ?passes⟩, ?numbered, ?unread, ?blank⟩
  case free => subst hconfigured; exact h.free
  case rooted =>
    subst hconfigured
    dsimp only [LogState.configure, fresh]
    exact h.rooted.configure name _
  case disabledUpTo =>
    subst hconfigured
    exact (LogTree.enroll_disabledUpTo s.tree name).symm ▸ h.takes.disabledUpTo
  case enabled => rw [hother hne]; exact h.takes.enabled
  case passes => rw [hother hne]; exact h.takes.passes
  case numbered =>
    intro n m hm
    have hspares := h.numbered n m (by omega)
    refine ⟨fun handler hmem => ?_, fun f hf => hspares.filters f (hfilters n ▸ hf)⟩
    rcases hhandlers hmem with hmem | rfl
    · exact hspares.handlers handler hmem
    · dsimp only; omega
  case unread =>
    intro n hn
    have hignores := h.unread n (by omega)
    refine ⟨fun name' handler hmem => ?_, fun name' m level' handler hf =>
      hignores.filters name' m level' handler (hfilters name' ▸ hf)⟩
    rcases hhandlers hmem with hmem | rfl
    · exact hignores.handlers name' handler hmem
    · exact hsink n
  case blank =>
    subst hconfigured
    exact fun n hn => h.blank n (Nat.le_of_succ_le hn)

end LogState

end WatWorkbench
