import Mathlib.Logic.Relation
import WatWorkbench.Proofs.Log.Listening

/-!
# Whose handlers put records into a book

A book of a pipeline is nobody else's business: others may write records, configure loggers, capture
channels into books of their own and give channels back that they never had, but they add no handler
of this book.  So when an operation that has captured a channel into the book is over, no handler of
the book is left, whatever others have done meanwhile.

* `Custody` — a book, the channel that is captured into it, and the numbers of what does so.
* `Custody.Watches` — no handler or filter puts records into the book but those; everything else in
  the state is in order.
* `Watches.tapped`, `Watches.released` — capturing into the book, and into another one.
* **`Watches.ready`** — when nothing captures into the book, the channel can be captured if it is free
  and keeps no records back.
* `LogState.Turn` — one thing that others do; **`Turn.watches`** — they leave the book alone.
-/

namespace WatWorkbench

/-! ## Giving back -/

namespace Interceptor

variable {i : Interceptor} {l : Logger}

/-- A logger without the handler and the filter of an interceptor, and at the level that it found. -/
def restored (i : Interceptor) (l : Logger) : Logger :=
  { l with
    handlers := match i.handler with
      | some h => l.handlers.filter (·.id ≠ h.id)
      | none => l.handlers
    filters := match i.filter with
      | some n => l.filters.filter fun f => !isFilter n f
      | none => l.filters
    level := i.savedLevel.getD l.level }

lemma leave_snd (i : Interceptor) (s : LogState) : (i.leave s).2 =
    { s.configure i.channel i.restored with captured := s.captured.filter (· ≠ i.channel) } := rfl

lemma mem_restored_handlers {h : Handler} : h ∈ (i.restored l).handlers ↔
    h ∈ l.handlers ∧ i.handler.map (·.id) ≠ some h.id := by
  unfold restored
  cases i.handler with
  | none => simp
  | some k =>
      simp only [List.mem_filter, decide_eq_true_eq, Option.map_some, ne_eq, Option.some.injEq]
      exact and_congr_right fun _ => ⟨Ne.symm, Ne.symm⟩

lemma mem_of_mem_restored {f : Filter} (h : f ∈ (i.restored l).filters) : f ∈ l.filters := by
  unfold restored at h
  cases hfilter : i.filter with
  | none => simpa [hfilter] using h
  | some n =>
      simp only [hfilter] at h
      exact (List.mem_filter.mp h).1

lemma ne_of_mem_restored {n : Nat} {level : Int} {h : Handler}
    (hmem : .threshold n level h ∈ (i.restored l).filters) : i.filter ≠ some n := by
  intro hfilter
  simp only [restored, hfilter] at hmem
  simpa [isFilter] using (List.mem_filter.mp hmem).2

end Interceptor

/-! ## Handlers of a book -/

/-- A book, the channel that is captured into it, a bound below which all numbers have been given out,
and the numbers of the handlers and filters that put records into the book. -/
structure Custody where
  book : Nat
  channel : Text
  issued : Nat
  handlers : Nat → Prop
  filters : Nat → Prop

namespace Custody

variable {c : Custody} {s t : LogState} {name channel : Text} {l : Logger} {h : Handler}
  {number book : Nat} {listed : Nat → Prop}

/-- A handler on a logger, known by a number, has a number and a book that have been given out, and
if the book is the one in question it is listed and stands on the channel. -/
structure Admits (c : Custody) (next : Nat) (name : Text) (number : Nat) (listed : Nat → Prop)
    (h : Handler) : Prop where
  lt : number < next
  issued : ∀ b, h.sink = .book b → b < next
  own : h.sink = .book c.book → name = c.channel ∧ listed number

structure Oversees (c : Custody) (next : Nat) (name : Text) (l : Logger) : Prop where
  handlers : ∀ h ∈ l.handlers, c.Admits next name h.id c.handlers h
  filters : ∀ n level h, .threshold n level h ∈ l.filters → c.Admits next name n c.filters h

/-- No handler or filter puts records into the book but those that are listed. -/
structure Watches (c : Custody) (s : LogState) : Prop where
  rooted : s.tree.Rooted
  issued : c.issued ≤ s.next
  loggers : ∀ name, c.Oversees s.next name (s.tree.logger name)
  /-- Books that have not been given out are empty. -/
  blank : ∀ n, s.next ≤ n → (s.books n).entries = []

lemma Admits.mono {next next' : Nat} (h' : c.Admits next name number listed h)
    (hle : next ≤ next') : c.Admits next' name number listed h where
  lt := Nat.lt_of_lt_of_le h'.lt hle
  issued b hb := Nat.lt_of_lt_of_le (h'.issued b hb) hle
  own := h'.own

/-- A handler that puts no records into the book need not be listed. -/
lemma Admits.of_ne {next : Nat} (hnumber : number < next)
    (hbook : ∀ b, h.sink = .book b → b < next ∧ b ≠ c.book) :
    c.Admits next name number listed h where
  lt := hnumber
  issued b hb := (hbook b hb).1
  own hown := absurd rfl (hbook c.book hown).2

lemma Oversees.mono {next next' : Nat} (h : c.Oversees next name l) (hle : next ≤ next') :
    c.Oversees next' name l where
  handlers k hk := (h.handlers k hk).mono hle
  filters n level k hk := (h.filters n level k hk).mono hle

/-- A logger from which handlers and filters have been taken away. -/
lemma Oversees.subset {next : Nat} {l' : Logger} (h : c.Oversees next name l)
    (hhandlers : l'.handlers ⊆ l.handlers) (hfilters : l'.filters ⊆ l.filters) :
    c.Oversees next name l' where
  handlers k hk := h.handlers k (hhandlers hk)
  filters n level k hk := h.filters n level k (hfilters hk)

/-! ## What keeps the book -/

namespace Watches

lemma numbered (h : c.Watches s) : s.Numbered := by
  intro name n hn
  refine ⟨fun k hk => ?_, fun f hf => ?_⟩
  · have hlt := ((h.loggers name).handlers k hk).lt
    omega
  · cases f with
    | foreign accepts => rfl
    | threshold m level k =>
        have hlt := ((h.loggers name).filters m level k hf).lt
        have hne : m ≠ n := by omega
        simpa [Interceptor.isFilter] using hne

lemma ignores_of_le (h : c.Watches s) {n : Nat} (hn : s.next ≤ n) : s.tree.Ignores n where
  handlers name k hk hsink := by
    have hlt := ((h.loggers name).handlers k hk).issued n hsink
    omega
  filters name m level k hk hsink := by
    have hlt := ((h.loggers name).filters m level k hk).issued n hsink
    omega

/-- Another state with the same loggers. -/
lemma of_loggers (h : c.Watches s) (hrooted : t.tree.Rooted)
    (hlogger : t.tree.logger = s.tree.logger) (hnext : s.next ≤ t.next)
    (hblank : ∀ n, t.next ≤ n → (t.books n).entries = []) : c.Watches t where
  rooted := hrooted
  issued := Nat.le_trans h.issued hnext
  loggers name := by rw [hlogger]; exact (h.loggers name).mono hnext
  blank := hblank

lemma write (h : c.Watches s) (r : LogRecord) : c.Watches (s.write r).2 := by
  refine h.of_loggers ?_ (LogState.write_logger s r) (Nat.le_of_eq (LogState.write_next s r).symm)
    fun n hn => ?_
  · rw [LogState.write_tree]
    exact h.rooted.enroll r.logger
  · rw [LogState.write_next] at hn
    rw [LogState.write_books, (h.ignores_of_le hn).filter_deliveries, h.blank n hn]
    rfl

lemma writtenAll (h : c.Watches s) (rs : List LogRecord) : c.Watches (s.writtenAll rs) := by
  induction rs generalizing s with
  | nil => exact h
  | cons r rs ih => exact ih (h.write r)

lemma fresh (h : c.Watches s) : c.Watches s.fresh.2 :=
  h.of_loggers h.rooted rfl (Nat.le_succ _) fun n hn => h.blank n (Nat.le_of_succ_le hn)

lemma setBook (h : c.Watches s) {b : Nat} (hlt : b < s.next) (log : LogBook) :
    c.Watches (s.setBook b log) := by
  refine h.of_loggers h.rooted rfl (Nat.le_refl _) fun n hn => ?_
  have hne : n ≠ b := by
    rintro rfl
    exact Nat.lt_irrefl _ (Nat.lt_of_lt_of_le hlt hn)
  exact (congrArg LogBook.entries (if_neg hne)).trans (h.blank n hn)

lemma configure (h : c.Watches s) (name : Text) (change : Logger → Logger)
    (hchange : c.Oversees s.next name (change (s.tree.logger name))) :
    c.Watches (s.configure name change) where
  rooted := h.rooted.configure name change
  issued := h.issued
  loggers n := by
    by_cases hn : n = name
    · subst hn
      rw [LogState.configure, LogTree.configure_self]
      exact hchange
    · rw [LogState.configure, LogTree.configure_of_ne _ _ hn]
      exact h.loggers n
  blank := h.blank

/-- A channel is captured by a handler that is admitted. -/
lemma tapped (h : c.Watches s)
    (hhandler : c.Admits (s.next + 1) channel s.next c.handlers ⟨s.next, Level.info, .book book⟩)
    (hfilter : (s.tree.threshold? channel).isSome →
      c.Admits (s.next + 1) channel s.next c.filters ⟨s.next, Level.info, .book book⟩) :
    c.Watches (s.tapped channel book) := by
  refine (h.fresh.configure channel (fun l =>
    l.tapped ⟨s.next, Level.info, .book book⟩ (s.tree.threshold? channel)) ?_).of_loggers
      ?rooted rfl (Nat.le_refl _) ?blank
  case rooted =>
    show (s.tree.tapped channel s.next book).Rooted
    rw [LogTree.tapped]
    exact h.rooted.configure channel _
  case blank => exact fun n hn => h.blank n (Nat.le_of_succ_le hn)
  have hbefore := (h.loggers channel).mono (Nat.le_succ s.next)
  constructor
  · intro k hk
    rw [Logger.tapped_handlers] at hk
    rcases List.mem_append.mp hk with hk | hk
    · exact hbefore.handlers k hk
    · rw [List.mem_singleton.mp hk]
      exact hhandler
  · intro n level k hk
    cases hthreshold : s.tree.threshold? channel with
    | none =>
        rw [hthreshold] at hk
        exact hbefore.filters n level k hk
    | some found =>
        rw [hthreshold] at hk
        rcases List.mem_append.mp hk with hk | hk
        · exact hbefore.filters n level k hk
        · obtain ⟨rfl, -, rfl⟩ := Filter.threshold.inj (List.mem_singleton.mp hk)
          exact hfilter (by rw [hthreshold]; rfl)

/-- A channel is captured into another book. -/
lemma tapped_of_ne (h : c.Watches s) (channel : Text) (hne : book ≠ c.book) (hlt : book < s.next) :
    c.Watches (s.tapped channel book) := by
  have hadmits (listed : Nat → Prop) :
      c.Admits (s.next + 1) channel s.next listed ⟨s.next, Level.info, .book book⟩ := by
    refine .of_ne (Nat.lt_succ_self _) fun b hb => ?_
    obtain rfl := Sink.book.inj hb
    exact ⟨Nat.lt_succ_of_lt hlt, hne⟩
  exact h.tapped (hadmits _) fun _ => hadmits _

/-- A channel is given back by anybody. -/
lemma leave (h : c.Watches s) (i : Interceptor) : c.Watches (i.leave s).2 := by
  rw [Interceptor.leave_snd]
  have hrestored := h.configure i.channel i.restored <|
    (h.loggers i.channel).subset (fun k hk => (Interceptor.mem_restored_handlers.mp hk).1)
      fun f hf => Interceptor.mem_of_mem_restored hf
  exact hrestored.of_loggers hrestored.rooted rfl (Nat.le_refl _) hrestored.blank

end Watches

/-! ### An interceptor of the book -/

/-- The custody while an interceptor captures the channel into the book. -/
def tapping (c : Custody) (i : Interceptor) : Custody where
  book := c.book
  channel := c.channel
  issued := c.issued
  handlers n := c.handlers n ∨ i.handler.map (·.id) = some n
  filters n := c.filters n ∨ i.filter = some n

lemma Admits.tapping {next : Nat} {listed' : Nat → Prop}
    (h' : c.Admits next name number listed h) (i : Interceptor)
    (hlisted : ∀ n, listed n → listed' n) : (c.tapping i).Admits next name number listed' h where
  lt := h'.lt
  issued := h'.issued
  own hsink := (h'.own hsink).imp id (hlisted number)

namespace Watches

lemma tapping (h : c.Watches s) (i : Interceptor) : (c.tapping i).Watches s where
  rooted := h.rooted
  issued := h.issued
  loggers name :=
    ⟨fun k hk => ((h.loggers name).handlers k hk).tapping i fun _ => Or.inl,
      fun n level k hk => ((h.loggers name).filters n level k hk).tapping i fun _ => Or.inl⟩
  blank := h.blank

/-- The channel is captured into the book. -/
lemma tapped_own (h : c.Watches s) (hlt : c.book < s.next) :
    (c.tapping (s.tap c.channel c.book)).Watches (s.tapped c.channel c.book) := by
  have hissued : ∀ b, Sink.book c.book = .book b → b < s.next + 1 := by
    rintro b hb
    obtain rfl := Sink.book.inj hb
    exact Nat.lt_succ_of_lt hlt
  refine (h.tapping _).tapped ⟨Nat.lt_succ_self _, hissued, fun _ => ⟨rfl, Or.inr rfl⟩⟩
    fun hthreshold => ⟨Nat.lt_succ_self _, hissued, fun _ => ⟨rfl, Or.inr ?_⟩⟩
  obtain ⟨found, hfound⟩ := Option.isSome_iff_exists.mp hthreshold
  simp [LogState.tap, hfound]

/-- The channel is given back by the interceptor that has it. -/
lemma released {i : Interceptor} (h : (c.tapping i).Watches s) (hchannel : i.channel = c.channel) :
    c.Watches (i.leave s).2 := by
  have hleft := h.leave i
  have hself : (i.leave s).2.tree.logger i.channel = i.restored (s.tree.logger i.channel) := if_pos rfl
  refine ⟨hleft.rooted, hleft.issued, fun name => ⟨fun k hk => ?_, fun n level k hk => ?_⟩,
    hleft.blank⟩
  · obtain ⟨hlt, hissued, hown⟩ := (hleft.loggers name).handlers k hk
    refine ⟨hlt, hissued, fun hsink => ?_⟩
    obtain ⟨hname, hlisted⟩ := hown hsink
    -- a handler with the number of the interceptor's has been taken away
    rw [show name = i.channel from hname.trans hchannel.symm, hself] at hk
    exact ⟨hname, hlisted.resolve_right (Interceptor.mem_restored_handlers.mp hk).2⟩
  · obtain ⟨hlt, hissued, hown⟩ := (hleft.loggers name).filters n level k hk
    refine ⟨hlt, hissued, fun hsink => ?_⟩
    obtain ⟨hname, hlisted⟩ := hown hsink
    rw [show name = i.channel from hname.trans hchannel.symm, hself] at hk
    exact ⟨hname, hlisted.resolve_right (Interceptor.ne_of_mem_restored hk)⟩

end Watches

/-! ### Without an interceptor of the book -/

/-- The custody of a book that has not been given out. -/
def unissued (book : Nat) (channel : Text) : Custody where
  book := book
  channel := channel
  issued := 0
  handlers _ := False
  filters _ := False

/-- The custody of a book that nothing is captured into. -/
def idle (book : Nat) (channel : Text) : Custody :=
  { unissued book channel with issued := book + 1 }

namespace Watches

lemma ignores (h : (idle book channel).Watches s) : s.tree.Ignores book where
  handlers name k hk hsink := (((h.loggers name).handlers k hk).own hsink).2
  filters name n level k hk hsink := (((h.loggers name).filters n level k hk).own hsink).2

/-- **When nothing captures into the book**, its channel can be captured if it is free and keeps no
records back. -/
theorem ready (h : (idle book channel).Watches s) (hfree : channel ∉ s.captured)
    (htakes : s.tree.Takes channel) : s.Ready channel book where
  free := hfree
  rooted := h.rooted
  takes := htakes
  numbered := h.numbered
  unread _ := h.ignores_of_le
  blank := h.blank
  ignores := h.ignores
  below := h.issued

/-- The book is given out. -/
lemma issue (h : (unissued s.next channel).Watches s) : (idle s.next channel).Watches s.fresh.2 where
  rooted := h.fresh.rooted
  issued := Nat.le_refl _
  loggers name :=
    ⟨fun k hk => ⟨((h.fresh.loggers name).handlers k hk).lt,
        ((h.fresh.loggers name).handlers k hk).issued,
        ((h.fresh.loggers name).handlers k hk).own⟩,
      fun n level k hk => ⟨((h.fresh.loggers name).filters n level k hk).lt,
        ((h.fresh.loggers name).filters n level k hk).issued,
        ((h.fresh.loggers name).filters n level k hk).own⟩⟩
  blank := h.fresh.blank

end Watches

lemma watches_initial (book : Nat) (channel : Text) : (unissued book channel).Watches {} := by
  have hfit := LogState.fit_initial channel
  have hlogger (name : Text) : (LogTree.initial.logger name).handlers = [] ∧
      (LogTree.initial.logger name).filters = [] := by
    unfold LogTree.initial
    dsimp only
    split <;> exact ⟨rfl, rfl⟩
  refine ⟨hfit.rooted, Nat.zero_le _, fun name => ⟨fun k hk => ?_, fun n level k hk => ?_⟩,
    hfit.blank⟩
  · rw [(hlogger name).1] at hk
    cases hk
  · rw [(hlogger name).2] at hk
    cases hk

end Custody

/-! ## Others -/

namespace LogState

/-- The handler has a number and a book that have been given out, and the book is another one. -/
def Foreign (own : Nat) (s : LogState) (h : Handler) : Prop :=
  h.id < s.next ∧ ∀ b, h.sink = .book b → b < s.next ∧ b ≠ own

/-- One thing that others do to the logging.  They capture nothing into the book that is not theirs, and
they use no number that has not been given out. -/
inductive Turn (own : Nat) (s : LogState) : LogState → Prop
  | write (r : LogRecord) : Turn own s (s.write r).2
  | fresh : Turn own s s.fresh.2
  | edit (b : Nat) (log : LogBook) (hlt : b < s.next) : Turn own s (s.setBook b log)
  | enroll (name : Text) : Turn own s { s with tree := s.tree.enroll name }
  | disable (level : Int) : Turn own s { s with tree := { s.tree with disabledUpTo := level } }
  /-- A logger is configured: levels and flags as one likes, with handlers and filters added and taken
  away. -/
  | configure (name : Text) (l : Logger)
      (hhandlers : ∀ h ∈ l.handlers, h ∈ (s.tree.logger name).handlers ∨ s.Foreign own h)
      (hfilters : ∀ f ∈ l.filters, f ∈ (s.tree.logger name).filters ∨
        ∃ accepts, f = .foreign accepts) :
      Turn own s (s.configure name fun _ => l)
  | enter {i j : Interceptor} {t : LogState} (hlt : i.book < s.next) (hne : i.book ≠ own)
      (h : i.enter s = .ok (j, t)) : Turn own s t
  /-- A channel is given back, by an interceptor that has it or by any other. -/
  | leave (i : Interceptor) : Turn own s (i.leave s).2

/-- An interceptor that enters taps its channel, whatever it was used for before. -/
lemma eq_tapped_of_enter {i j : Interceptor} {s t : LogState} (h : i.enter s = .ok (j, t)) :
    t = s.tapped i.channel i.book := by
  simp only [Interceptor.enter] at h
  split_ifs at h with hmem hlow <;> cases h
  · have hthreshold : s.tree.threshold? i.channel = some (s.tree.effectiveLevel i.channel) :=
      if_pos hlow
    rw [tapped, LogTree.tapped, hthreshold]
    rfl
  · have hthreshold : s.tree.threshold? i.channel = none := if_neg hlow
    rw [tapped, LogTree.tapped, hthreshold]
    rfl

/-- **Others leave a book alone.** -/
theorem Turn.watches {own : Nat} {s t : LogState} {c : Custody} (h : Turn own s t)
    (hbook : c.book = own) (hwatches : c.Watches s) : c.Watches t := by
  cases h with
  | write r => exact hwatches.write r
  | fresh => exact hwatches.fresh
  | edit b log hlt => exact hwatches.setBook hlt log
  | enroll name =>
      exact hwatches.of_loggers (hwatches.rooted.enroll name) (LogTree.enroll_logger _ _)
        (Nat.le_refl _) hwatches.blank
  | disable level =>
      exact hwatches.of_loggers ⟨hwatches.rooted.names, hwatches.rooted.parents,
        hwatches.rooted.vacant⟩ rfl (Nat.le_refl _) hwatches.blank
  | configure name l hhandlers hfilters =>
      refine hwatches.configure _ _ ⟨fun k hk => ?_, fun n level k hk => ?_⟩
      · rcases hhandlers k hk with hold | ⟨hlt, hforeign⟩
        · exact (hwatches.loggers name).handlers k hold
        · exact .of_ne hlt (hbook ▸ hforeign)
      · rcases hfilters _ hk with hold | ⟨accepts, haccepts⟩
        · exact (hwatches.loggers name).filters n level k hold
        · cases haccepts
  | enter hlt hne h =>
      rw [eq_tapped_of_enter h]
      exact hwatches.tapped_of_ne _ (hbook ▸ hne) hlt
  | leave i => exact hwatches.leave i

lemma watches_of_turns {own : Nat} {s t : LogState} {c : Custody}
    (h : Relation.ReflTransGen (Turn own) s t) (hbook : c.book = own) (hwatches : c.Watches s) :
    c.Watches t := by
  induction h with
  | refl => exact hwatches
  | tail _ hturn ih => exact hturn.watches hbook ih

end LogState

end WatWorkbench
