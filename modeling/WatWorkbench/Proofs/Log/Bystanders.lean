import Mathlib.Data.List.TakeWhile
import WatWorkbench.Proofs.Log.Custody
import WatWorkbench.Proofs.Log.Reaching

/-!
# What capturing looks like to other handlers

An interceptor lowers its channel and puts a filter behind those that the channel has.  What the
channel takes only because it has been lowered is diverted by the filter, so that gate and filter
together let pass what the gate alone let pass before.  Loggers below the channel do not go through
the filter, and there it shows if they have no level of their own below the channel.  All others get
what they would get anyway, with one exception: a record that nobody else handles has found a
handler now, so it does not go to the handler of last resort.

* `LogState.received` — the records that a handler gets of several.
* `LogTree.Apart` — a logger does not take its level from a channel that has to be lowered;
  `LogState.KeepsApart` — so it is for each of several records; `keepsApart_of_has` — and if all
  loggers are there, it is enough that it is so at first.
* `LogTree.FallsBack` — nobody handles a record.
* `LogTree.Tap` — two trees that differ in the channel that is tapped in the second one;
  **`Tap.filter_deliveries_ne`** — where a record goes in both.
* `LogState.Unseen` — what others get; `LogState.Beside` — what carries this on from record to
  record.
* **`LogState.unseen_of_enter`** — it is what they would get anyway.
* `lastResort_unheard` — an error that nobody hears of.
-/

namespace WatWorkbench

/-! ## The property -/

namespace LogTree

/-- The logger does not take its level from a channel that has to be lowered: it is the channel, the
channel is not above it, a logger on the way up to the channel sets the level, or the channel takes
progress as it is. -/
def Apart (t : LogTree) (channel name : Text) : Prop :=
  name = channel ∨ channel ∉ t.chain name ∨
    (∃ n ∈ (t.chain name).takeWhile (· ≠ channel), (t.logger n).level ≠ 0) ∨
    t.effectiveLevel channel ≤ Level.info

instance (t : LogTree) (channel name : Text) : Decidable (t.Apart channel name) :=
  inferInstanceAs (Decidable (_ ∨ _ ∨ _ ∨ _))

/-- The record passes the filters of its logger, and there is no handler on the way up. -/
def FallsBack (t : LogTree) (r : LogRecord) : Prop :=
  (screen r (t.logger r.logger).filters).2 = true ∧ t.handlersAlong (t.chain r.logger) = []

instance (t : LogTree) (r : LogRecord) : Decidable (t.FallsBack r) :=
  inferInstanceAs (Decidable (_ ∧ _))

end LogTree

namespace LogState

/-- The records that a handler gets of several that are written one after another. -/
def received (k : Handler) : LogState → List LogRecord → List LogRecord
  | _, [] => []
  | s, r :: rs =>
    ((s.tree.deliveries r).filter (· = k)).map (fun _ => r) ++ received k (s.write r).2 rs

/-- Each of several records is written to a logger that is apart from the channel at that time, and
leaves the channel with the level that it had. -/
def KeepsApart (channel : Text) : LogState → List LogRecord → Prop
  | _, [] => True
  | s, r :: rs =>
    s.tree.Apart channel r.logger ∧
      (s.write r).2.tree.effectiveLevel channel = s.tree.effectiveLevel channel ∧
      KeepsApart channel (s.write r).2 rs

instance decidableKeepsApart (channel : Text) :
    (s : LogState) → (rs : List LogRecord) → Decidable (s.KeepsApart channel rs)
  | _, [] => isTrue trivial
  | s, r :: rs =>
    have := decidableKeepsApart channel (s.write r).2 rs
    inferInstanceAs (Decidable (_ ∧ _ ∧ _))

/-- What others than an interceptor's handler get of several records, in the state in which the
interceptor captures its channel and in the one in which it does not. -/
structure Unseen (own : Handler) (channel : Text) (s t : LogState) (rs : List LogRecord) :
    Prop where
  /-- Every handler gets the same records. -/
  handlers : ∀ k, k ≠ own → k ≠ LogTree.lastResort → received k t rs = received k s rs
  /-- The handler of last resort lacks those that nobody else handles and that reach the channel. -/
  lastResort : ∀ before r, before ++ [r] <+: rs →
    (((t.writtenAll before).tree.deliveries r).filter (· = LogTree.lastResort)) =
      if (s.writtenAll before).tree.FallsBack r ∧
          (s.writtenAll before).tree.Reaches r.logger channel then []
      else ((s.writtenAll before).tree.deliveries r).filter (· = LogTree.lastResort)
  /-- The lists of records are the same in the end. -/
  recordings : (t.writtenAll rs).recordings = (s.writtenAll rs).recordings
  /-- So are the books into which the interceptor does not capture. -/
  books : ∀ n, own.sink ≠ .book n →
    ((t.writtenAll rs).books n).entries = ((s.writtenAll rs).books n).entries

end LogState

/-! ## A tapped tree -/

namespace LogTree

variable {t u : LogTree} {r : LogRecord} {channel name : Text} {own : Handler}

lemma filter_swap (p q : Handler → Bool) (l : List Handler) :
    (l.filter p).filter q = (l.filter q).filter p := by
  rw [List.filter_filter, List.filter_filter]
  exact List.filter_congr fun k _ => Bool.and_comm _ _

/-- What is asked of handlers, if not of the interceptor's, is asked of the others. -/
lemma filter_filter_ne {p : Handler → Bool} (hown : p own = false) (l : List Handler) :
    (l.filter (· ≠ own)).filter p = l.filter p := by
  rw [List.filter_filter]
  refine List.filter_congr fun k _ => ?_
  by_cases hk : k = own
  · simp [hk, hown]
  · simp [hk]

/-- The second tree is the first one with the channel tapped. -/
structure Tap (channel : Text) (own : Handler) (t u : LogTree) : Prop where
  same : SamePlaces t u
  tapped : u.logger channel = (t.logger channel).tapped own (t.threshold? channel)
  others : ∀ n, n ≠ channel → u.logger n = t.logger n

lemma FallsBack.deliveries (h : t.FallsBack r) (htaken : t.isEnabled r.logger r.level = true) :
    t.deliveries r = [lastResort].filter (·.level ≤ r.level) := by
  obtain ⟨hpassed, hempty⟩ := h
  rw [LogTree.deliveries, htaken, hempty]
  rcases hscreened : screen r (t.logger r.logger).filters with ⟨diverted, passed⟩
  obtain rfl : passed = true := by rw [← hpassed, hscreened]
  rfl

/-- Filters that only decide divert nothing. -/
def OnlyDecide (fs : List Filter) : Prop := ∀ f ∈ fs, ∃ accepts, f = .foreign accepts

lemma screen_fst_of_onlyDecide {fs : List Filter} (h : OnlyDecide fs) : (screen r fs).1 = [] := by
  rw [List.eq_nil_iff_forall_not_mem]
  intro k hk
  obtain ⟨n, level, hmem⟩ := mem_screen hk
  obtain ⟨accepts, haccepts⟩ := h _ hmem
  cases haccepts

/-- A level that is set on the way decides, whatever comes after it. -/
lemma levelAlong_append_of_set {names : List Text} (h : ∃ n ∈ names, (t.logger n).level ≠ 0)
    (rest : List Text) : t.levelAlong (names ++ rest) = t.levelAlong names := by
  induction names with
  | nil => obtain ⟨n, hn, -⟩ := h; cases hn
  | cons n names ih =>
      rw [List.cons_append, levelAlong, levelAlong]
      split_ifs with hset
      · rfl
      · obtain ⟨m, hm, hlevel⟩ := h
        rcases List.mem_cons.mp hm with rfl | hm
        · exact absurd hlevel hset
        · exact ih ⟨m, hm, hlevel⟩

namespace Tap

variable (h : Tap channel own t u)

include h

lemma propagate (n : Text) : (u.logger n).propagate = (t.logger n).propagate := by
  by_cases hn : n = channel
  · rw [hn, h.tapped, Logger.tapped_propagate]
  · rw [h.others n hn]

lemma disabled (n : Text) : (u.logger n).disabled = (t.logger n).disabled := by
  by_cases hn : n = channel
  · rw [hn, h.tapped, Logger.tapped_disabled]
  · rw [h.others n hn]

/-- Only levels matter to whether a logger takes a record. -/
lemma isEnabled_congr {level : Int} (hlevel : u.effectiveLevel name = t.effectiveLevel name) :
    u.isEnabled name level = t.isEnabled name level := by
  rw [isEnabled, isEnabled, h.disabled, h.same.disabledUpTo, hlevel]

/-! ### Handlers on the way up -/

/-- The interceptor adds its own handler to those that records reach, and no other. -/
lemma filter_handlersAlong (names : List Text) :
    (u.handlersAlong names).filter (· ≠ own) = (t.handlersAlong names).filter (· ≠ own) := by
  induction names with
  | nil => rfl
  | cons n names ih =>
      have hown : ((u.logger n).handlers).filter (· ≠ own) =
          ((t.logger n).handlers).filter (· ≠ own) := by
        by_cases hn : n = channel
        · rw [hn, h.tapped, Logger.tapped_handlers, List.filter_append]
          simp
        · rw [h.others n hn]
      rw [handlersAlong, handlersAlong, List.filter_append, List.filter_append, hown, h.propagate]
      split_ifs
      · rw [ih]
      · rfl

/-- Records that reach the channel find a handler. -/
lemma handlersAlong_eq_nil_iff (names : List Text) :
    u.handlersAlong names = [] ↔ t.handlersAlong names = [] ∧ t.leads channel names = false := by
  induction names with
  | nil => simp [handlersAlong, leads]
  | cons n names ih =>
      rw [handlersAlong, handlersAlong, leads, h.propagate]
      by_cases hn : n = channel
      · rw [hn, h.tapped, Logger.tapped_handlers]
        simp
      · rw [h.others n hn]
        by_cases hpropagate : (t.logger n).propagate = true
        · simp [hpropagate, hn, ih, and_assoc]
        · simp [hpropagate, hn]

/-- Where a record goes that is taken and passes the filters in both trees. -/
lemma filter_deliveries_of_passed (htaken : t.isEnabled r.logger r.level = true)
    (htaken' : u.isEnabled r.logger r.level = true)
    (hpassed : (screen r (t.logger r.logger).filters).2 = true)
    (hpassed' : (screen r (u.logger r.logger).filters).2 = true) :
    (u.deliveries r).filter (· ≠ own) =
      if t.FallsBack r ∧ t.Reaches r.logger channel then []
      else (t.deliveries r).filter (· ≠ own) := by
  have hsame := h.filter_handlersAlong (t.chain r.logger)
  have hnone := h.handlersAlong_eq_nil_iff (t.chain r.logger)
  have hchain := h.same.chain r.logger
  by_cases hempty : t.handlersAlong (t.chain r.logger) = []
  · have hfalls : t.FallsBack r := ⟨hpassed, hempty⟩
    by_cases hreaches : t.Reaches r.logger channel
    · -- the interceptor's handler is the only one
      have hsome : u.handlersAlong (u.chain r.logger) ≠ [] := fun hnil => by
        rw [hchain] at hnil
        have hleads := (hnone.mp hnil).2
        rw [Reaches, hleads] at hreaches
        cases hreaches
      rw [if_pos ⟨hfalls, hreaches⟩, deliveries_of_passed htaken' hpassed' hsome, hchain,
        filter_swap, hsame, hempty]
      rfl
    · have hnil : u.handlersAlong (t.chain r.logger) = [] :=
        hnone.mpr ⟨hempty, by simpa [Reaches] using hreaches⟩
      have hfalls' : u.FallsBack r := ⟨hpassed', by rwa [hchain]⟩
      rw [if_neg fun hboth => hreaches hboth.2, hfalls'.deliveries htaken',
        hfalls.deliveries htaken]
  · have hsome : u.handlersAlong (u.chain r.logger) ≠ [] := fun hnil =>
      hempty (hnone.mp (hchain ▸ hnil)).1
    rw [if_neg fun hboth => hempty hboth.1.2, deliveries_of_passed htaken' hpassed' hsome,
      deliveries_of_passed htaken hpassed hempty, hchain, filter_swap, hsame,
      filter_swap]

/-- Where a record goes that its logger takes or does not take, and screens, alike in both trees. -/
lemma filter_deliveries_of_alike
    (htaken : u.isEnabled r.logger r.level = t.isEnabled r.logger r.level)
    (hscreen : screen r (u.logger r.logger).filters = screen r (t.logger r.logger).filters) :
    (u.deliveries r).filter (· ≠ own) =
      if t.FallsBack r ∧ t.Reaches r.logger channel then []
      else (t.deliveries r).filter (· ≠ own) := by
  by_cases hon : t.isEnabled r.logger r.level = true
  · by_cases hpassed : (screen r (t.logger r.logger).filters).2 = true
    · exact h.filter_deliveries_of_passed hon (htaken.trans hon) hpassed (hscreen ▸ hpassed)
    · rw [if_neg fun hboth => hpassed hboth.1.1]
      rcases hscreened : screen r (t.logger r.logger).filters with ⟨diverted, passed⟩
      obtain rfl : passed = false := by simpa [hscreened] using hpassed
      rw [deliveries_of_diverted hon hscreened,
        deliveries_of_diverted (htaken.trans hon) (hscreen.trans hscreened)]
  · have hoff : t.isEnabled r.logger r.level = false := by simpa using hon
    rw [deliveries_of_not_isEnabled hoff, deliveries_of_not_isEnabled (htaken.trans hoff)]
    simp

/-! ### The channel -/

/-- A channel that has not been lowered takes what it took before. -/
lemma effectiveLevel_of_threshold_none (hnone : t.threshold? channel = none) (name : Text) :
    u.effectiveLevel name = t.effectiveLevel name := by
  rw [effectiveLevel, effectiveLevel, h.same.chain]
  refine levelAlong_congr fun n _ => ?_
  by_cases hn : n = channel
  · rw [hn, h.tapped, hnone]
    rfl
  · rw [h.others n hn]

/-- One that has been lowered takes progress. -/
lemma effectiveLevel_of_threshold_some {found : Int} (hsome : t.threshold? channel = some found) :
    u.effectiveLevel channel = Level.info := by
  obtain ⟨above, habove⟩ := chain_eq_cons t channel
  have hself : (u.logger channel).level = Level.info := by
    rw [h.tapped, hsome]
    rfl
  rw [effectiveLevel, h.same.chain, habove, levelAlong, hself]
  exact if_pos (by decide)

/-- **Gate and filter** of the channel together let pass what the gate let pass before. -/
lemma filter_deliveries_channel (hfilters : OnlyDecide (t.logger channel).filters)
    (hself : r.logger = channel) :
    (u.deliveries r).filter (· ≠ own) =
      if t.FallsBack r ∧ t.Reaches r.logger channel then []
      else (t.deliveries r).filter (· ≠ own) := by
  cases hthreshold : t.threshold? channel with
  | none =>
      refine h.filter_deliveries_of_alike
        (h.isEnabled_congr (h.effectiveLevel_of_threshold_none hthreshold _)) ?_
      rw [hself, h.tapped, hthreshold]
      rfl
  | some found =>
      have hscreen : screen r (u.logger channel).filters =
          screen r ((t.logger channel).filters ++ [.threshold own.id found own]) := by
        rw [h.tapped, hthreshold]
        rfl
      have hgate : t.effectiveLevel channel = found ∧ Level.info < found := by
        unfold threshold? at hthreshold
        split_ifs at hthreshold with hlow
        cases hthreshold
        exact ⟨rfl, hlow⟩
      have hfound := h.effectiveLevel_of_threshold_some hthreshold
      have hdisabled := h.disabled channel
      by_cases hpassed : (screen r (t.logger channel).filters).2 = true
      · rw [screen_append hpassed] at hscreen
        by_cases hlevel : found ≤ r.level
        · -- the record is above the level that the channel had, which the filter lets pass
          have hpassed' : (screen r (u.logger channel).filters).2 = true := by
            rw [hscreen]
            simp [screen, hlevel]
          have htaken : u.isEnabled r.logger r.level = t.isEnabled r.logger r.level := by
            have hboth : Level.info ≤ r.level := by omega
            simp [isEnabled, hself, hdisabled, h.same.disabledUpTo, hfound, hgate.1, hlevel, hboth]
          by_cases hon : t.isEnabled r.logger r.level = true
          · exact h.filter_deliveries_of_passed hon (htaken.trans hon) (hself ▸ hpassed)
              (hself ▸ hpassed')
          · have hoff : t.isEnabled r.logger r.level = false := by simpa using hon
            rw [deliveries_of_not_isEnabled hoff, deliveries_of_not_isEnabled (htaken.trans hoff)]
            simp
        · -- below that level the channel did not take it, and now it goes to the interceptor
          have hoff : t.isEnabled r.logger r.level = false := by
            simp [isEnabled, hself, hgate.1, hlevel]
          have hdiverted : screen r (u.logger r.logger).filters = ([own], false) := by
            rw [hself, hscreen]
            simp [screen, hlevel]
          have hown : (u.deliveries r).filter (· ≠ own) = [] := by
            by_cases hon : u.isEnabled r.logger r.level = true
            · rw [deliveries_of_diverted hon hdiverted]
              simp
            · rw [deliveries_of_not_isEnabled (by simpa using hon)]
              rfl
          rw [hown, deliveries_of_not_isEnabled hoff]
          simp
      · -- the channel's own filters keep the record from everybody
        have hstopped : (screen r (t.logger channel).filters).2 = false := by simpa using hpassed
        have hnobody : ∀ v : LogTree, screen r (v.logger r.logger).filters =
            screen r (t.logger channel).filters → v.deliveries r = [] := by
          intro v hv
          have hfirst := screen_fst_of_onlyDecide (r := r) hfilters
          rcases hscreened : screen r (t.logger channel).filters with ⟨diverted, passed⟩
          rw [hscreened] at hfirst hstopped hv
          obtain rfl : passed = false := hstopped
          obtain rfl : diverted = [] := hfirst
          by_cases hon : v.isEnabled r.logger r.level = true
          · exact deliveries_of_diverted hon hv
          · exact deliveries_of_not_isEnabled (by simpa using hon)
        rw [hnobody t (by rw [hself]),
          hnobody u (by rw [hself, hscreen, screen_append_of_not hstopped])]
        simp

/-! ### All loggers -/

/-- **Where a record goes** in both trees, apart from the interceptor's handler: to the same
handlers, unless nobody else handles it and it reaches the channel. -/
theorem filter_deliveries_ne (hfilters : OnlyDecide (t.logger channel).filters)
    (hapart : t.Apart channel r.logger) :
    (u.deliveries r).filter (· ≠ own) =
      if t.FallsBack r ∧ t.Reaches r.logger channel then []
      else (t.deliveries r).filter (· ≠ own) := by
  by_cases hself : r.logger = channel
  · exact h.filter_deliveries_channel hfilters hself
  · have hlevel : u.effectiveLevel r.logger = t.effectiveLevel r.logger := by
      rcases hapart with heq | hoff | ⟨n, hn, hset⟩ | htakes
      · exact absurd heq hself
      · rw [effectiveLevel, effectiveLevel, h.same.chain]
        refine levelAlong_congr fun n hn => ?_
        rw [h.others n fun e => hoff (e ▸ hn)]
      · -- the level is set before the channel is met
        rw [effectiveLevel, effectiveLevel, h.same.chain]
        have hbelow : ∀ m ∈ (t.chain r.logger).takeWhile (· ≠ channel), u.logger m = t.logger m :=
          fun m hm => h.others m (by simpa using List.mem_takeWhile_imp hm)
        rw [← List.takeWhile_append_dropWhile (p := (· ≠ channel)) (l := t.chain r.logger),
          levelAlong_append_of_set ⟨n, hn, hset⟩,
          levelAlong_append_of_set ⟨n, hn, by rwa [hbelow n hn]⟩]
        exact levelAlong_congr fun m hm => by rw [hbelow m hm]
      · exact h.effectiveLevel_of_threshold_none (if_neg (Int.not_lt.mpr htakes)) _
    refine h.filter_deliveries_of_alike (h.isEnabled_congr hlevel) ?_
    rw [h.others _ hself]

/-- What is asked of handlers, unless of the interceptor's or of the one of last resort. -/
lemma filter_deliveries (hfilters : OnlyDecide (t.logger channel).filters)
    (hapart : t.Apart channel r.logger) {p : Handler → Bool} (hown : p own = false)
    (hlast : p lastResort = false) : (u.deliveries r).filter p = (t.deliveries r).filter p := by
  rw [← filter_filter_ne hown (u.deliveries r), h.filter_deliveries_ne hfilters hapart]
  split_ifs with hboth
  · -- without a handler there is only the one of last resort
    rw [eq_comm, List.filter_nil, List.filter_eq_nil_iff]
    intro k hk
    have hk : k = lastResort := by
      by_cases hon : t.isEnabled r.logger r.level = true
      · rw [hboth.1.deliveries hon] at hk
        exact List.mem_singleton.mp (List.mem_filter.mp hk).1
      · rw [deliveries_of_not_isEnabled (by simpa using hon)] at hk
        cases hk
    simp [hk, hlast]
  · rw [filter_filter_ne hown]

lemma enroll (hlevel : (t.enroll name).effectiveLevel channel = t.effectiveLevel channel) :
    Tap channel own (t.enroll name) (u.enroll name) where
  same := h.same.enroll name
  tapped := by
    rw [enroll_logger, enroll_logger, h.tapped, threshold?, threshold?, hlevel]
  others n hn := by rw [enroll_logger, enroll_logger, h.others n hn]

end Tap

end LogTree

/-! ## Several records -/

namespace LogState

variable {s t : LogState} {channel : Text} {own : Handler} {r : LogRecord}
  {before rest rs : List LogRecord}

lemma receive_recordings {h : Handler} (hr : receive r h s = .ok t) (id : Nat) :
    t.recordings id = s.recordings id ++
      if h.sink = .recorder id then [⟨r.level, r.logger, r.text?⟩] else [] := by
  unfold receive at hr
  split at hr
  · next hsink _ => cases hr; simp [hsink, setBook]
  · next n hsink =>
      cases hr
      by_cases hid : n = id
      · subst hid
        simp [hsink, assign]
      · simp [hsink, hid, assign, Ne.symm hid]
  · next hsink _ => cases hr; simp [hsink, printError]
  · next hsink _ => cases hr; simp [hsink, printError]
  · next hother =>
      cases hr
      have hsink : h.sink ≠ .recorder id := hother id
      simp [hsink]

lemma deliver_recordings (hs : List Handler) (s : LogState) (id : Nat) :
    (deliver r hs s).2.recordings id = s.recordings id ++
      (hs.filter (·.sink = .recorder id)).map fun _ => ⟨r.level, r.logger, r.text?⟩ := by
  induction hs generalizing s with
  | nil => simp [deliver]
  | cons h hs ih =>
      obtain ⟨u, hu, -⟩ := receive_eq_ok r h s
      simp only [deliver, hu, ih, receive_recordings hu, List.filter_cons, decide_eq_true_eq]
      split_ifs <;> simp

lemma write_recordings (s : LogState) (r : LogRecord) (id : Nat) :
    (s.write r).2.recordings id = s.recordings id ++
      ((s.tree.deliveries r).filter (·.sink = .recorder id)).map
        fun _ => ⟨r.level, r.logger, r.text?⟩ :=
  deliver_recordings _ _ id

/-- The channel is tapped in the second state, and the two differ in nothing else but in what the
interceptor has captured. -/
structure Beside (own : Handler) (channel : Text) (s t : LogState) : Prop where
  tap : LogTree.Tap channel own s.tree t.tree
  filters : LogTree.OnlyDecide (s.tree.logger channel).filters
  book : ∃ b, own.sink = .book b
  recordings : t.recordings = s.recordings
  books : ∀ n, own.sink ≠ .book n → (t.books n).entries = (s.books n).entries

namespace Beside

lemma ne_lastResort (h : Beside own channel s t) : own ≠ LogTree.lastResort := by
  rintro rfl
  obtain ⟨b, hb⟩ := h.book
  cases hb

lemma write (h : Beside own channel s t) (hapart : s.tree.Apart channel r.logger)
    (hlevel : (s.write r).2.tree.effectiveLevel channel = s.tree.effectiveLevel channel) :
    Beside own channel (s.write r).2 (t.write r).2 where
  tap := by
    rw [write_tree] at hlevel
    rw [write_tree, write_tree]
    exact h.tap.enroll hlevel
  filters := by
    rw [write_logger]
    exact h.filters
  book := h.book
  recordings := by
    obtain ⟨b, hb⟩ := h.book
    funext id
    rw [write_recordings, write_recordings, h.recordings,
      h.tap.filter_deliveries h.filters hapart (by simp [hb]) (by simp [LogTree.lastResort])]
  books n hn := by
    rw [write_books, write_books, h.books n hn,
      h.tap.filter_deliveries h.filters hapart (by simp [hn]) (by simp [LogTree.lastResort])]

lemma writtenAll (h : Beside own channel s t) (hrs : s.KeepsApart channel (before ++ rest)) :
    Beside own channel (s.writtenAll before) (t.writtenAll before) ∧
      (s.writtenAll before).KeepsApart channel rest := by
  induction before generalizing s t with
  | nil => exact ⟨h, hrs⟩
  | cons r before ih =>
      obtain ⟨hapart, hlevel, hrest⟩ := hrs
      exact ih (h.write hapart hlevel) hrest

lemma received_eq (h : Beside own channel s t) (hrs : s.KeepsApart channel rs) {k : Handler}
    (hk : k ≠ own) (hlast : k ≠ LogTree.lastResort) : received k t rs = received k s rs := by
  induction rs generalizing s t with
  | nil => rfl
  | cons r rs ih =>
      obtain ⟨hapart, hlevel, hrest⟩ := hrs
      rw [received, received, ih (h.write hapart hlevel) hrest,
        h.tap.filter_deliveries h.filters hapart (by simpa using Ne.symm hk)
          (by simpa using Ne.symm hlast)]

lemma filter_deliveries_lastResort (h : Beside own channel s t)
    (hapart : s.tree.Apart channel r.logger) :
    (t.tree.deliveries r).filter (· = LogTree.lastResort) =
      if s.tree.FallsBack r ∧ s.tree.Reaches r.logger channel then []
      else (s.tree.deliveries r).filter (· = LogTree.lastResort) := by
  have hown : decide (own = LogTree.lastResort) = false := decide_eq_false h.ne_lastResort
  rw [← LogTree.filter_filter_ne hown (t.tree.deliveries r),
    h.tap.filter_deliveries_ne h.filters hapart]
  split_ifs
  · rfl
  · rw [LogTree.filter_filter_ne hown]

lemma unseen (h : Beside own channel s t) (hrs : s.KeepsApart channel rs) :
    Unseen own channel s t rs := by
  have hall : s.KeepsApart channel (rs ++ []) := by rwa [List.append_nil]
  have hend := (h.writtenAll hall).1
  refine ⟨fun k hk hlast => h.received_eq hrs hk hlast, fun before r hprefix => ?_,
    hend.recordings, hend.books⟩
  obtain ⟨rest, rfl⟩ := hprefix
  rw [List.append_assoc] at hrs
  obtain ⟨hbeside, hapart, -, -⟩ := h.writtenAll hrs
  exact hbeside.filter_deliveries_lastResort hapart

end Beside

/-- **Loggers that are there** only have to be apart from the channel, before anything is written. -/
theorem keepsApart_of_has
    (h : ∀ r ∈ rs, s.tree.Has r.logger ∧ s.tree.Apart channel r.logger) :
    s.KeepsApart channel rs := by
  induction rs generalizing s with
  | nil => trivial
  | cons r rs ih =>
      obtain ⟨hhas, hapart⟩ := h r List.mem_cons_self
      have hsame : (s.write r).2.tree = s.tree := by rw [write_tree, LogTree.enroll_of_has hhas]
      refine ⟨hapart, by rw [hsame], ih fun r' hr' => ?_⟩
      rw [hsame]
      exact h r' (List.mem_cons_of_mem _ hr')

/-- An interceptor that enters stands beside the state that it has found. -/
lemma beside_of_enter {i j : Interceptor} (hhas : s.tree.Has i.channel)
    (hfilters : LogTree.OnlyDecide (s.tree.logger i.channel).filters)
    (henter : i.enter s = .ok (j, t)) :
    ∃ own, j.handler = some own ∧ Beside own i.channel s t := by
  refine ⟨⟨s.next, Level.info, .book i.book⟩, ?_, ?_⟩
  · simp only [Interceptor.enter] at henter
    split_ifs at henter <;> cases henter <;> rfl
  · obtain rfl := eq_tapped_of_enter henter
    have hsame : LogTree.SamePlaces s.tree (s.tree.tapped i.channel s.next i.book) :=
      LogTree.samePlaces_configure hhas _
    exact ⟨⟨hsame, LogTree.tapped_logger_self,
      fun n hn => LogTree.tapped_logger_of_ne hn⟩, hfilters, ⟨i.book, rfl⟩, rfl, fun _ _ => rfl⟩

/-- **Others see nothing of an interceptor.**  It captures a channel that is there and whose own
filters only decide.  Then of records that are written to loggers apart from the channel every other
handler gets the same ones, in the same order, as without it; the handler of last resort lacks those
that nobody else handles and that reach the channel. -/
theorem unseen_of_enter {i j : Interceptor} (hhas : s.tree.Has i.channel)
    (hfilters : LogTree.OnlyDecide (s.tree.logger i.channel).filters)
    (henter : i.enter s = .ok (j, t)) (hrs : s.KeepsApart i.channel rs) :
    ∃ own, j.handler = some own ∧ Unseen own i.channel s t rs := by
  obtain ⟨own, hown, hbeside⟩ := beside_of_enter hhas hfilters henter
  exact ⟨own, hown, hbeside.unseen hrs⟩

/-- A failure of the channel. -/
def stuck : LogRecord := ⟨"app", Level.error, .text "stuck", [], none⟩

/-- The root has a list of records. -/
def listedLoggers : LogState where
  tree := (LogTree.initial.enroll "app").configure LogTree.rootName
    ({ · with handlers := [⟨1, 0, .recorder 0⟩] })
  next := 2

/-- Progress of the channel, its failure and a failure of somebody else's. -/
def listedRecords : List LogRecord :=
  [⟨"app", Level.info, .text "opened", [], none⟩, stuck,
    ⟨"store", Level.error, .text "empty", [], none⟩]

/-- The list has the two failures, whether the progress is captured or not. -/
theorem unseen_of_enter_listed : ∃ j t own,
    ({ book := 0, channel := "app" } : Interceptor).enter listedLoggers = .ok (j, t) ∧
      Unseen own "app" listedLoggers t listedRecords ∧
      ((t.writtenAll listedRecords).recordings 0).map (·.text) =
        ([some "stuck", some "empty"] : List (Option Text)) ∧
      ((t.writtenAll listedRecords).books 0).entries.map (·.message) =
        (["opened", "stuck"] : List Text) := by
  have hfilters : LogTree.OnlyDecide (listedLoggers.tree.logger "app").filters := by
    intro f hf
    cases hf
  have henter : ({ book := 0, channel := "app" } : Interceptor).enter listedLoggers =
      .ok (listedLoggers.tap "app" 0, listedLoggers.tapped "app" 0) :=
    enter_eq_tapped List.not_mem_nil
  have hrs : listedLoggers.KeepsApart "app" listedRecords := by decide
  obtain ⟨own, -, hunseen⟩ := unseen_of_enter (by decide) hfilters henter hrs
  exact ⟨_, _, own, henter, hunseen, by decide, by decide⟩

/-- No logger has a handler. -/
def bareLoggers : LogState where
  tree := LogTree.initial.enroll "app"

/-- There the handler of last resort gets the failure, but not while the channel is captured. -/
theorem lastResort_unheard : ∃ j t,
    ({ book := 0, channel := "app" } : Interceptor).enter bareLoggers = .ok (j, t) ∧
      j.handler ≠ some LogTree.lastResort ∧ bareLoggers.KeepsApart "app" [stuck] ∧
      received LogTree.lastResort bareLoggers [stuck] = [stuck] ∧
      received LogTree.lastResort t [stuck] = [] :=
  ⟨_, _, enter_eq_tapped List.not_mem_nil, by decide, by decide, rfl, rfl⟩

end LogState

end WatWorkbench
