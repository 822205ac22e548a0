import WatWorkbench.Proofs.Log.Exclusivity
import WatWorkbench.Proofs.Log.Places

/-!
# What an interceptor does to its channel

An interceptor adds a handler to its channel and, if the channel would drop records of progress,
lowers it and adds a filter.  What the channel was like before can be read off its configuration and
the interceptor together.  Only the interceptors of a channel change it, so this stays true whatever
happens to other channels meanwhile.

* `Logger.tapped` — a logger with the handler and the filter of an interceptor.
* `Interceptor.enter_eq`, `leave_logger_of_idle`, `leave_logger_of_tapped` — entering and
  leaving in terms of it.
* `Interceptors.Lent` — the invariant: a channel is as it was at first, or that with what one active
  interceptor has added.
* `Lent.enter`, `Lent.leave` — it is kept as long as no channel is entered that somebody has.
-/

namespace WatWorkbench

/-! ## A tapped logger -/

/-- The logger with one more handler.  If records of progress would not be taken, it is lowered to
them, and those below the given level go to that handler only. -/
def Logger.tapped (l : Logger) (h : Handler) : Option Int → Logger
  | none => { l with handlers := l.handlers ++ [h] }
  | some threshold =>
    { l with
      level := Level.info
      handlers := l.handlers ++ [h]
      filters := l.filters ++ [.threshold h.id threshold h] }

/-- No handler and no filter of the logger has the number. -/
structure Logger.Spares (l : Logger) (n : Nat) : Prop where
  handlers : ∀ h ∈ l.handlers, h.id ≠ n
  filters : ∀ f ∈ l.filters, Interceptor.isFilter n f = false

/-- Everything numbered has a number that is used up. -/
def LogState.Numbered (s : LogState) : Prop :=
  ∀ name n, s.next ≤ n → (s.tree.logger name).Spares n

/-- The level of a channel, if records of progress are below it. -/
def LogTree.threshold? (t : LogTree) (channel : Text) : Option Int :=
  if Level.info < t.effectiveLevel channel then some (t.effectiveLevel channel) else none

section Tapped

variable (l : Logger) (h : Handler) (threshold : Option Int)

@[simp] lemma Logger.tapped_handlers : (l.tapped h threshold).handlers = l.handlers ++ [h] := by
  cases threshold <;> rfl

@[simp] lemma Logger.tapped_propagate : (l.tapped h threshold).propagate = l.propagate := by
  cases threshold <;> rfl

@[simp] lemma Logger.tapped_disabled : (l.tapped h threshold).disabled = l.disabled := by
  cases threshold <;> rfl

end Tapped

/-- Taking the handler and the filter away again and setting the level back. -/
lemma Logger.Spares.untap {l : Logger} {h : Handler} (hspares : l.Spares h.id)
    (threshold : Option Int) :
    { l.tapped h threshold with
      handlers := (l.tapped h threshold).handlers.filter (·.id ≠ h.id)
      filters := match threshold.map fun _ => h.id with
        | some n => (l.tapped h threshold).filters.filter fun f => !Interceptor.isFilter n f
        | none => (l.tapped h threshold).filters
      level := l.level } = l := by
  have hhandlers : (l.handlers ++ [h]).filter (·.id ≠ h.id) = l.handlers := by
    simpa using hspares.handlers
  cases threshold with
  | none => simp only [tapped, Option.map_none, hhandlers]
  | some threshold =>
      have hfilters : (l.filters ++ [Filter.threshold h.id threshold h]).filter
          (fun f => !Interceptor.isFilter h.id f) = l.filters := by
        simpa [Interceptor.isFilter] using hspares.filters
      simp only [tapped, Option.map_some, hhandlers, hfilters]

/-! ## One interceptor -/

namespace Interceptor

variable {i : Interceptor} {s : LogState}

/-- The handler of an interceptor, with the number that it got. -/
def tap (i : Interceptor) (n : Nat) : Handler := ⟨n, Level.info, .book i.book⟩

/-- The interceptor has nothing to give back. -/
def Idle (i : Interceptor) : Prop := i.filter = none ∧ i.savedLevel = none

lemma enter_eq (h : i.channel ∉ s.captured) (hidle : i.Idle) :
    i.enter s = .ok
      ({ i with
          handler := some (i.tap s.next)
          filter := (s.tree.threshold? i.channel).map fun _ => s.next
          savedLevel := some (s.tree.logger i.channel).level },
        { s with
          next := s.next + 1
          captured := i.channel :: s.captured
          tree := s.tree.configure i.channel
            (·.tapped (i.tap s.next) (s.tree.threshold? i.channel)) }) := by
  obtain ⟨book, channel, handler, filter, saved⟩ := i
  obtain ⟨rfl, -⟩ : filter = none ∧ saved = none := hidle
  simp only [enter, if_neg h]
  by_cases hlow : Level.info < s.tree.effectiveLevel channel
  · simp [LogTree.threshold?, LogState.fresh, hlow]
    exact ⟨rfl, rfl⟩
  · simp [LogTree.threshold?, LogState.fresh, hlow]
    exact ⟨rfl, rfl⟩

lemma enter_logger_of_ne {j : Interceptor} {t : LogState} (h : i.enter s = .ok (j, t)) {n : Text}
    (hn : n ≠ i.channel) : t.tree.logger n = s.tree.logger n := by
  simp only [enter] at h
  split_ifs at h <;> cases h <;> simp [LogState.configure, LogState.fresh, hn]

lemma enter_book {j : Interceptor} {t : LogState} (h : i.enter s = .ok (j, t)) :
    j.book = i.book := by
  simp only [enter] at h
  split_ifs at h <;> cases h <;> rfl

/-- Entering brings no logger into the tree that is there already. -/
lemma enter_samePlaces {j : Interceptor} {t : LogState} (h : i.enter s = .ok (j, t))
    (hhas : s.tree.Has i.channel) : LogTree.SamePlaces s.tree t.tree := by
  simp only [enter] at h
  split_ifs at h <;> cases h <;> simp only [LogState.configure, LogState.fresh] <;>
    exact LogTree.samePlaces_configure hhas _

lemma next_le_enter {j : Interceptor} {t : LogState} (h : i.enter s = .ok (j, t)) :
    s.next ≤ t.next := by
  simp only [enter] at h
  split_ifs at h <;> cases h <;> exact Nat.le_succ _

lemma leave_logger_of_ne (i : Interceptor) (s : LogState) {n : Text} (h : n ≠ i.channel) :
    (i.leave s).2.tree.logger n = s.tree.logger n := by
  simp only [leave, LogState.configure, LogTree.configure_of_ne _ _ h]

lemma leave_samePlaces (i : Interceptor) (hhas : s.tree.Has i.channel) :
    LogTree.SamePlaces s.tree (i.leave s).2.tree := by
  simp only [leave, LogState.configure]
  exact LogTree.samePlaces_configure hhas _

/-- An interceptor that has nothing to give back leaves the channel as it is. -/
lemma leave_logger_of_idle (h : i.isActive = false) (hidle : i.Idle) :
    (i.leave s).2.tree.logger i.channel = s.tree.logger i.channel := by
  obtain ⟨book, channel, handler, filter, saved⟩ := i
  obtain ⟨rfl, rfl⟩ : filter = none ∧ saved = none := hidle
  obtain rfl : handler = none := by simpa [isActive] using h
  simp [leave, LogState.configure]

/-- An interceptor that has tapped its channel gives it back. -/
lemma leave_logger_of_tapped {l : Logger} {n : Nat} {threshold : Option Int}
    (hhandler : i.handler = some (i.tap n)) (hfilter : i.filter = threshold.map fun _ => n)
    (hlevel : i.savedLevel = some l.level) (hspares : l.Spares n)
    (hlogger : s.tree.logger i.channel = l.tapped (i.tap n) threshold) :
    (i.leave s).2.tree.logger i.channel = l := by
  have huntap := Logger.Spares.untap (h := i.tap n) hspares threshold
  simp only [leave, LogState.configure, LogTree.configure_self, hhandler, hfilter, hlevel, hlogger,
    Option.getD_some]
  exact huntap

lemma leave_fst (i : Interceptor) (s : LogState) :
    (i.leave s).1 = { book := i.book, channel := i.channel } := rfl

end Interceptor

/-! ## Interceptors and their channels -/

namespace Interceptors

variable {ι : Type} {s : Interceptors ι} {base : Text → Logger} {i j : ι}

/-- The interceptor has tapped its channel, which was like `l` before. -/
structure Taps (s : Interceptors ι) (i : ι) (l : Logger) (n : Nat) (threshold : Option Int) :
    Prop where
  handler : (s.member i).handler = some ((s.member i).tap n)
  filter : (s.member i).filter = threshold.map fun _ => n
  level : (s.member i).savedLevel = some l.level
  spares : l.Spares n
  logger : s.logs.tree.logger (s.channel i) = l.tapped ((s.member i).tap n) threshold

/-- The channels are as they were at first, apart from what active interceptors have added. -/
structure Lent (s : Interceptors ι) (base : Text → Logger) : Prop where
  idle : ∀ i, ¬ s.Active i → (s.member i).Idle
  free : ∀ i, ¬ s.Held (s.channel i) → s.logs.tree.logger (s.channel i) = base (s.channel i)
  tapped : ∀ i, s.Active i → ∃ n threshold, s.Taps i (base (s.channel i)) n threshold
  /-- Numbers that are still to come are new to the channels. -/
  spares : ∀ i n, s.logs.next ≤ n → (base (s.channel i)).Spares n

/-- What an interceptor has tapped does not depend on the others. -/
lemma Taps.congr {t : Interceptors ι} {l : Logger} {n : Nat} {threshold : Option Int}
    (h : s.Taps i l n threshold) (hmember : t.member i = s.member i)
    (hlogger : t.logs.tree.logger (s.channel i) = s.logs.tree.logger (s.channel i)) :
    t.Taps i l n threshold := by
  have hchannel : t.channel i = s.channel i := by rw [channel, hmember, channel]
  refine ⟨?handler, ?filter, ?level, h.spares, ?logger⟩
  case handler => rw [hmember]; exact h.handler
  case filter => rw [hmember]; exact h.filter
  case level => rw [hmember]; exact h.level
  case logger => rw [hchannel, hlogger, hmember]; exact h.logger

lemma not_active_start (logs : LogState) (book : ι → Nat) (channel : ι → Text) (i : ι) :
    ¬ (start logs book channel).Active i := by
  simp [Active, start, Interceptor.isActive]

lemma lent_start (book : ι → Nat) (channel : ι → Text) {logs : LogState} (h : logs.Numbered) :
    (start logs book channel).Lent logs.tree.logger :=
  ⟨fun _ _ => ⟨rfl, rfl⟩, fun _ _ => rfl,
    fun i hi => absurd hi (not_active_start logs book channel i), fun i => h (channel i)⟩

section Calls

variable [DecidableEq ι]

def Call.subject : Call ι → ι
  | .enter i => i
  | .leave i => i

/-- A refusal changes nothing. -/
lemma call_enter_of_error {e : Failure} (h : (s.call (.enter i)).1 = .error e) :
    (s.call (.enter i)).2 = s := by
  by_cases hmem : s.channel i ∈ s.logs.captured
  · rw [call_enter_of_mem hmem]
  · obtain ⟨t, ht, -⟩ := call_enter_of_notMem hmem
    rw [ht] at h
    cases h

lemma notMem_of_call_enter (h : (s.call (.enter i)).1 = .ok ()) :
    s.channel i ∉ s.logs.captured := by
  intro hmem
  rw [call_enter_of_mem hmem] at h
  cases h

lemma call_member_of_ne (s : Interceptors ι) {c : Call ι} {j : ι} (h : j ≠ c.subject) :
    (s.call c).2.member j = s.member j := by
  cases c with
  | enter i =>
      simp only [call]
      split
      · exact Function.update_of_ne h _ _
      · rfl
  | leave i => exact Function.update_of_ne h _ _

@[simp] lemma call_book (s : Interceptors ι) (c : Call ι) (j : ι) :
    ((s.call c).2.member j).book = (s.member j).book := by
  by_cases hj : j = c.subject
  · subst hj
    cases c with
    | enter i =>
        simp only [call, Call.subject]
        split
        · next k t ht => simp [Interceptor.enter_book ht]
        · rfl
    | leave i => simp [call, Call.subject, Interceptor.leave_fst]
  · rw [call_member_of_ne s hj]

@[simp] lemma after_book (s : Interceptors ι) (calls : List (Call ι)) (j : ι) :
    ((s.after calls).member j).book = (s.member j).book := by
  induction calls generalizing s with
  | nil => rfl
  | cons c cs ih => rw [after_cons, ih, call_book]

lemma call_logger_of_ne (s : Interceptors ι) {c : Call ι} {n : Text}
    (h : n ≠ s.channel c.subject) :
    (s.call c).2.logs.tree.logger n = s.logs.tree.logger n := by
  cases c with
  | enter i =>
      simp only [call]
      split
      · next j t ht => exact Interceptor.enter_logger_of_ne ht h
      · rfl
  | leave i => exact Interceptor.leave_logger_of_ne _ _ h

lemma after_logger_of_ne (s : Interceptors ι) {calls : List (Call ι)} {n : Text}
    (h : ∀ i, s.channel i ≠ n) : (s.after calls).logs.tree.logger n = s.logs.tree.logger n := by
  induction calls generalizing s with
  | nil => rfl
  | cons c cs ih =>
      rw [after_cons, ih _ (by simpa using h), call_logger_of_ne s (h c.subject).symm]

/-- Calls bring no logger into the tree that is there already. -/
lemma call_samePlaces (s : Interceptors ι) (c : Call ι) (h : s.logs.tree.Has (s.channel c.subject)) :
    LogTree.SamePlaces s.logs.tree (s.call c).2.logs.tree := by
  cases c with
  | enter i =>
      simp only [call]
      split
      · next j t ht => exact Interceptor.enter_samePlaces ht h
      · exact .refl _
  | leave i => exact Interceptor.leave_samePlaces _ h

lemma next_le_call (s : Interceptors ι) (c : Call ι) : s.logs.next ≤ (s.call c).2.logs.next := by
  cases c with
  | enter i =>
      simp only [call]
      split
      · next j t ht => exact Interceptor.next_le_enter ht
      · exact Nat.le_refl _
  | leave i => exact Nat.le_refl _

/-- An interceptor that enters has tapped its channel. -/
lemma Lent.taps_enter (h : s.Lent base) (hoff : s.channel i ∉ s.logs.captured)
    (hidle : ¬ s.Active i) (hfree : ¬ s.Held (s.channel i)) :
    (s.call (.enter i)).2.Taps i (base (s.channel i)) s.logs.next
      (s.logs.tree.threshold? (s.channel i)) := by
  have henter := Interceptor.enter_eq (i := s.member i) hoff (h.idle i hidle)
  have hbase : s.logs.tree.logger (s.member i).channel = base (s.channel i) := h.free i hfree
  simp only [call, henter]
  refine ⟨?handler, ?filter, ?level, h.spares i _ (Nat.le_refl _), ?logger⟩
  case handler => simp [Interceptor.tap]
  case filter => simp [channel]
  case level => simp [hbase]
  case logger =>
    simp only [channel, Function.update_self, LogTree.configure_self, hbase]
    rfl

lemma Lent.enter (h : s.Lent base) (hoff : s.channel i ∉ s.logs.captured)
    (hfree : ¬ s.Held (s.channel i)) : (s.call (.enter i)).2.Lent base := by
  obtain ⟨t, ht, -, hchannel, hactive⟩ := call_enter_of_notMem hoff
  have htaps := h.taps_enter hoff (fun hi => hfree ⟨i, hi, rfl⟩) hfree
  have hmember : ∀ j, j ≠ i → t.member j = s.member j := fun j hj => by
    rw [← call_member_of_ne (c := .enter i) s hj, ht]
  have hlogger : ∀ n, n ≠ s.channel i → t.logs.tree.logger n = s.logs.tree.logger n :=
    fun n hn => by rw [← call_logger_of_ne (c := .enter i) s hn, ht]
  have hnext := s.next_le_call (.enter i)
  rw [ht] at htaps hnext ⊢
  refine ⟨fun j hj => ?idle, fun j hj => ?free, fun j hj => ?tapped, fun j n hn => ?spares⟩
  case idle =>
    obtain ⟨hji, hj⟩ := not_or.mp (mt (hactive j).mpr hj)
    rw [hmember j hji]
    exact h.idle j hj
  case free =>
    have hheld : ¬ s.Held (s.channel j) := by
      rintro ⟨k, hk, hsame⟩
      exact hj ⟨k, (hactive k).mpr (Or.inr hk), by rw [hchannel, hchannel, hsame]⟩
    have hne : s.channel j ≠ s.channel i := fun e =>
      hj ⟨i, (hactive i).mpr (Or.inl rfl), by rw [hchannel, hchannel, e]⟩
    rw [hchannel, hlogger _ hne, h.free j hheld]
  case tapped =>
    rw [hchannel]
    rcases (hactive j).mp hj with rfl | hj
    · exact ⟨_, _, htaps⟩
    · -- nobody had the newcomer's channel, so `j` has another one
      obtain ⟨n, threshold, hn⟩ := h.tapped j hj
      have hne : s.channel j ≠ s.channel i := fun e => hfree ⟨j, hj, e⟩
      have hji : j ≠ i := fun e => hne (by rw [e])
      exact ⟨n, threshold, hn.congr (hmember j hji) (hlogger _ hne)⟩
  case spares =>
    rw [hchannel]
    exact h.spares j n (Nat.le_trans hnext hn)

/-- An interceptor that has its channel gives it back; one that has not leaves it as it is. -/
lemma Lent.logger_leave (h : s.Lent base) (i : ι) :
    (s.call (.leave i)).2.logs.tree.logger (s.channel i) =
      if s.Active i then base (s.channel i) else s.logs.tree.logger (s.channel i) := by
  split_ifs with hi
  · obtain ⟨n, threshold, htaps⟩ := h.tapped i hi
    exact Interceptor.leave_logger_of_tapped htaps.handler htaps.filter htaps.level htaps.spares
      htaps.logger
  · exact Interceptor.leave_logger_of_idle (by simpa [Active] using hi) (h.idle i hi)

/-- Leaving, when nobody else has the channel of an interceptor that does. -/
lemma Lent.leave (h : s.Lent base) (hexclusive : s.Exclusive) (i : ι) :
    (s.call (.leave i)).2.Lent base := by
  obtain ⟨t, ht, -, hchannel, hactive⟩ := call_leave s i
  have hmember : ∀ j, j ≠ i → t.member j = s.member j := fun j hj => by
    rw [← call_member_of_ne (c := .leave i) s hj, ht]
  have hlogger : ∀ n, n ≠ s.channel i → t.logs.tree.logger n = s.logs.tree.logger n :=
    fun n hn => by rw [← call_logger_of_ne (c := .leave i) s hn, ht]
  have hnext := s.next_le_call (.leave i)
  have hgiven := h.logger_leave i
  have hself : (t.member i).Idle := by
    obtain rfl : (s.call (.leave i)).2 = t := by rw [ht]
    simp [call, Interceptor.leave_fst, Interceptor.Idle]
  rw [ht] at hnext hgiven ⊢
  refine ⟨fun j hj => ?idle, fun j hj => ?free, fun j hj => ?tapped, fun j n hn => ?spares⟩
  case idle =>
    by_cases hji : j = i
    · exact hji ▸ hself
    · rw [hmember j hji]
      exact h.idle j fun hj' => hj ((hactive j).mpr ⟨hji, hj'⟩)
  case free =>
    rw [hchannel] at hj ⊢
    have hothers : ∀ k, k ≠ i → s.Active k → s.channel k ≠ s.channel j := fun k hki hk e =>
      hj ⟨k, (hactive k).mpr ⟨hki, hk⟩, by rw [hchannel, e]⟩
    by_cases hi : s.Active i ∧ s.channel j = s.channel i
    · rw [hi.2, hgiven, if_pos hi.1]
    · -- the channel was free before, and `i` has given nothing back
      have hheld : ¬ s.Held (s.channel j) := by
        rintro ⟨k, hk, hsame⟩
        by_cases hki : k = i
        · exact hi ⟨hki ▸ hk, hki ▸ hsame.symm⟩
        · exact hothers k hki hk hsame
      rw [← h.free j hheld]
      by_cases hsame : s.channel j = s.channel i
      · rw [hsame, hgiven, if_neg fun hi' => hi ⟨hi', hsame⟩]
      · exact hlogger _ hsame
  case tapped =>
    rw [hchannel]
    obtain ⟨hji, hj⟩ := (hactive j).mp hj
    obtain ⟨n, threshold, htaps⟩ := h.tapped j hj
    refine ⟨n, threshold, htaps.congr (hmember j hji) ?_⟩
    by_cases hsame : s.channel j = s.channel i
    · -- only an interceptor that is not active can leave a channel of another one
      rw [hsame, hgiven, if_neg fun hi => hji (hexclusive j i hj hi hsame)]
    · exact hlogger _ hsame
  case spares =>
    rw [hchannel]
    exact h.spares j n (Nat.le_trans hnext hn)

end Calls

end Interceptors

end WatWorkbench
