import WatWorkbench.Proofs.Log.Lending
import WatWorkbench.Proofs.Log.Writing

/-!
# Giving channels back

Interceptors over any channels are entered and left in any order, while others write records and
change loggers that are no channels.  Interceptors over channels below one another see each other's
changes, since the level of a channel that has none of its own comes from above.  All the same each
of them gives back exactly what it found, whatever the order in which they are left.

* `Interceptors.Event`, `Interceptors.through` — calls, and what others do in between.
* `Interceptors.Course` — calls, and blocks in which an interceptor captures, one inside another.
* `Interceptors.Steady` — only active interceptors are left.
* `Interceptors.GivesBack` — what is as before: everything after a refusal, a channel when its
  interceptor has left, all loggers when all have.
* `Interceptors.Tidy` — the invariant behind it.
* **`givesBack`** — every course whose events are steady gives back.
* `Course.Blocks.steady` — so does everything that is done in blocks.
-/

namespace WatWorkbench

namespace Interceptors

variable {ι : Type}

/-! ## Courses of events -/

/-- A call, or something that others do. -/
inductive Event (ι : Type) where
  | call (c : Call ι)
  | other (change : LogState → LogState)

/-- What others do leaves alone the channels and the list of those that are being captured, and does
not make numbers new again that have been used. -/
structure Sparing (channel : ι → Text) (change : LogState → LogState) : Prop where
  logger : ∀ s i, (change s).tree.logger (channel i) = s.tree.logger (channel i)
  captured : ∀ s, (change s).captured = s.captured
  next : ∀ s, s.next ≤ (change s).next

variable [DecidableEq ι]

def step (s : Interceptors ι) : Event ι → Interceptors ι
  | .call c => (s.call c).2
  | .other change => { s with logs := change s.logs }

/-- The interceptors after events, one after another. -/
def through (s : Interceptors ι) (events : List (Event ι)) : Interceptors ι :=
  events.foldl step s

@[simp] lemma through_nil (s : Interceptors ι) : s.through [] = s := rfl

@[simp] lemma through_cons (s : Interceptors ι) (e : Event ι) (events : List (Event ι)) :
    s.through (e :: events) = (s.step e).through events := rfl

@[simp] lemma through_append (s : Interceptors ι) (as bs : List (Event ι)) :
    s.through (as ++ bs) = (s.through as).through bs := List.foldl_append

@[simp] lemma channel_step (s : Interceptors ι) (e : Event ι) (i : ι) :
    (s.step e).channel i = s.channel i := by
  cases e with
  | call c => exact channel_call s c i
  | other change => rfl

@[simp] lemma channel_through (s : Interceptors ι) (events : List (Event ι)) (i : ι) :
    (s.through events).channel i = s.channel i := by
  induction events generalizing s with
  | nil => rfl
  | cons e events ih => rw [through_cons, ih, channel_step]

/-- An interceptor that is left is active. -/
def Allows (s : Interceptors ι) : Event ι → Prop
  | .call (.leave i) => s.Active i
  | _ => True

/-- Only active interceptors are left. -/
def Steady : Interceptors ι → List (Event ι) → Prop
  | _, [] => True
  | s, e :: events => s.Allows e ∧ Steady (s.step e) events

instance decidableAllows (s : Interceptors ι) : (e : Event ι) → Decidable (s.Allows e)
  | .call (.leave i) => inferInstanceAs (Decidable (s.Active i))
  | .call (.enter _) => .isTrue trivial
  | .other _ => .isTrue trivial

instance decidableSteady : (s : Interceptors ι) → (events : List (Event ι)) →
    Decidable (s.Steady events)
  | _, [] => .isTrue trivial
  | s, e :: events =>
    have := decidableSteady (s.step e) events
    inferInstanceAs (Decidable (_ ∧ _))

lemma steady_append {s : Interceptors ι} {as bs : List (Event ι)} :
    s.Steady (as ++ bs) ↔ s.Steady as ∧ (s.through as).Steady bs := by
  induction as generalizing s with
  | nil => simp [Steady]
  | cons e as ih => simp only [List.cons_append, Steady, ih, through_cons, and_assoc]

/-- What is done: events, and blocks in which an interceptor captures.  What is inside a block is what
was done until it came to its end or failed. -/
inductive Course (ι : Type) where
  | done
  | event (e : Event ι) (rest : Course ι)
  | block (i : ι) (inside rest : Course ι)

/-- The events of a block.  If its interceptor cannot enter, nothing is done inside. -/
def blockEvents (i : ι) (s : Interceptors ι) (inside : Interceptors ι → List (Event ι)) :
    List (Event ι) :=
  match s.call (.enter i) with
  | (.error _, _) => [.call (.enter i)]
  | (.ok _, entered) => .call (.enter i) :: (inside entered ++ [.call (.leave i)])

def Course.events : Course ι → Interceptors ι → List (Event ι)
  | .done, _ => []
  | .event e rest, s => e :: rest.events (s.step e)
  | .block i inside rest, s =>
    blockEvents i s inside.events ++ rest.events (s.through (blockEvents i s inside.events))

/-- All capturing is done in blocks. -/
inductive Course.Blocks : Course ι → Prop
  | done : Blocks .done
  | other {change : LogState → LogState} {rest : Course ι} :
      Blocks rest → Blocks (.event (.other change) rest)
  | block {i : ι} {inside rest : Course ι} :
      Blocks inside → Blocks rest → Blocks (.block i inside rest)

/-- What is as before. -/
structure GivesBack (s : Interceptors ι) (events : List (Event ι)) : Prop where
  /-- Everything, when entering has been refused. -/
  refused : ∀ before i e, before ++ [.call (.enter i)] <+: events →
    ((s.through before).call (.enter i)).1 = .error e →
      ((s.through before).call (.enter i)).2 = s.through before
  /-- The channel, when an interceptor has entered and left. -/
  left : ∀ before i inside, before ++ .call (.enter i) :: (inside ++ [.call (.leave i)]) <+: events →
    ((s.through before).call (.enter i)).1 = .ok () →
      (s.through (before ++ .call (.enter i) :: (inside ++ [.call (.leave i)]))).logs.tree.logger
        (s.channel i) = (s.through before).logs.tree.logger (s.channel i)
  /-- Each logger that no other has changed, when all interceptors have left. -/
  loggers : (∀ i, ¬ (s.through events).Active i) → ∀ name,
    (∀ change, .other change ∈ events → ∀ t, (change t).tree.logger name = t.tree.logger name) →
      (s.through events).logs.tree.logger name = s.logs.tree.logger name
  /-- The whole tree, if no other has changed it. -/
  tree : (∀ i, ¬ (s.through events).Active i) →
    (∀ change, .other change ∈ events → ∀ t, (change t).tree = t.tree) →
      (s.through events).logs.tree = s.logs.tree

/-! ## The invariant -/

/-- The channels are lent, each to one interceptor, and they are on the list. -/
structure Tidy (s : Interceptors ι) (base : Text → Logger) : Prop where
  lent : s.Lent base
  exclusive : s.Exclusive
  listed : ∀ i, s.Active i → s.channel i ∈ s.logs.captured

variable {s : Interceptors ι} {base : Text → Logger}

omit [DecidableEq ι] in
lemma Tidy.not_held (h : s.Tidy base) {c : Text} (hoff : c ∉ s.logs.captured) : ¬ s.Held c := by
  rintro ⟨i, hi, rfl⟩
  exact hoff (h.listed i hi)

lemma Tidy.enter (h : s.Tidy base) (i : ι) : (s.call (.enter i)).2.Tidy base := by
  by_cases hmem : s.channel i ∈ s.logs.captured
  · rw [call_enter_of_mem hmem]; exact h
  · have hlent := h.lent.enter hmem (h.not_held hmem)
    obtain ⟨t, ht, hlist, hchannel, hactive⟩ := call_enter_of_notMem hmem
    rw [ht] at hlent ⊢
    refine ⟨hlent, fun a b ha hb hab => ?exclusive, fun j hj => ?listed⟩
    case exclusive =>
      have hothers : ∀ j, s.Active j → s.channel j ≠ s.channel i := fun j hj e =>
        h.not_held hmem ⟨j, hj, e⟩
      simp only [hchannel] at hab
      rcases (hactive a).mp ha with rfl | ha <;> rcases (hactive b).mp hb with rfl | hb
      · rfl
      · exact absurd hab.symm (hothers b hb)
      · exact absurd hab (hothers a ha)
      · exact h.exclusive a b ha hb hab
    case listed =>
      rw [hchannel, hlist, List.mem_cons]
      rcases (hactive j).mp hj with rfl | hj
      · exact Or.inl rfl
      · exact Or.inr (h.listed j hj)

lemma Tidy.leave (h : s.Tidy base) {i : ι} (hi : s.Active i) :
    (s.call (.leave i)).2.Tidy base := by
  have hlent := h.lent.leave h.exclusive i
  obtain ⟨t, ht, hlist, hchannel, hactive⟩ := call_leave s i
  rw [ht] at hlent ⊢
  refine ⟨hlent, fun a b ha hb hab => ?exclusive, fun j hj => ?listed⟩
  case exclusive =>
    simp only [hchannel] at hab
    exact h.exclusive a b ((hactive a).mp ha).2 ((hactive b).mp hb).2 hab
  case listed =>
    -- the channel that goes off the list is not the one of `j`
    obtain ⟨hji, hj⟩ := (hactive j).mp hj
    rw [hchannel]
    exact (hlist _).mpr ⟨h.listed j hj, fun e => hji (h.exclusive j i hj hi e)⟩

lemma Tidy.other (h : s.Tidy base) {change : LogState → LogState}
    (hsparing : Sparing s.channel change) : (s.step (.other change)).Tidy base := by
  refine ⟨⟨h.lent.idle, fun i hi => ?free, fun i hi => ?tapped, fun i n hn => ?spares⟩,
    h.exclusive, fun i hi => ?listed⟩
  case free => exact (hsparing.logger _ i).trans (h.lent.free i hi)
  case tapped =>
    obtain ⟨n, threshold, htaps⟩ := h.lent.tapped i hi
    exact ⟨n, threshold, htaps.congr rfl (hsparing.logger _ i)⟩
  case spares => exact h.lent.spares i n (Nat.le_trans (hsparing.next _) hn)
  case listed => exact (hsparing.captured s.logs).symm ▸ h.listed i hi

lemma Tidy.step (h : s.Tidy base) {e : Event ι} (hallowed : s.Allows e)
    (hsparing : ∀ change, e = .other change → Sparing s.channel change) :
    (s.step e).Tidy base := by
  cases e with
  | call c =>
      cases c with
      | enter i => exact h.enter i
      | leave i => exact h.leave hallowed
  | other change => exact h.other (hsparing change rfl)

lemma Tidy.through (h : s.Tidy base) {events : List (Event ι)} (hsteady : s.Steady events)
    (hsparing : ∀ change, .other change ∈ events → Sparing s.channel change) :
    (s.through events).Tidy base := by
  induction events generalizing s with
  | nil => exact h
  | cons e events ih =>
      have hfirst : ∀ change, e = .other change → Sparing s.channel change := fun change he =>
        hsparing change (he ▸ List.mem_cons_self)
      have hchannel : (s.step e).channel = s.channel := funext (channel_step s e)
      refine ih (h.step hsteady.1 hfirst) hsteady.2 fun change hc => ?_
      rw [hchannel]
      exact hsparing change (List.mem_cons_of_mem _ hc)

omit [DecidableEq ι] in
lemma tidy_start (book : ι → Nat) (channel : ι → Text) {logs : LogState} (h : logs.Numbered) :
    (start logs book channel).Tidy logs.tree.logger :=
  ⟨lent_start book channel h, fun i _ hi => absurd hi (not_active_start _ _ _ i),
    fun i hi => absurd hi (not_active_start _ _ _ i)⟩

/-! ## The rest of the tree -/

/-- Calls leave alone what is no channel. -/
lemma through_logger_of_ne {events : List (Event ι)} {name : Text}
    (hname : ∀ i, name ≠ s.channel i)
    (h : ∀ change, .other change ∈ events → ∀ t, (change t).tree.logger name = t.tree.logger name) :
    (s.through events).logs.tree.logger name = s.logs.tree.logger name := by
  induction events generalizing s with
  | nil => rfl
  | cons e events ih =>
      have hfirst : (s.step e).logs.tree.logger name = s.logs.tree.logger name := by
        cases e with
        | call c => exact call_logger_of_ne s (hname c.subject)
        | other change => exact h change List.mem_cons_self s.logs
      rw [through_cons, ih (by simpa using hname) fun change hc =>
        h change (List.mem_cons_of_mem _ hc), hfirst]

/-- Nobody brings a logger into the tree that is there already. -/
lemma through_samePlaces {events : List (Event ι)} (hhas : ∀ i, s.logs.tree.Has (s.channel i))
    (h : ∀ change, .other change ∈ events → ∀ t, (change t).tree = t.tree) :
    LogTree.SamePlaces s.logs.tree (s.through events).logs.tree := by
  induction events generalizing s with
  | nil => exact .refl _
  | cons e events ih =>
      have hfirst : LogTree.SamePlaces s.logs.tree (s.step e).logs.tree := by
        cases e with
        | call c => exact call_samePlaces s c (hhas c.subject)
        | other change =>
            have hsame : (s.step (.other change)).logs.tree = s.logs.tree :=
              h change List.mem_cons_self s.logs
            rw [hsame]
            exact .refl _
      refine hfirst.trans (ih (fun i => ?_) fun change hc => h change (List.mem_cons_of_mem _ hc))
      rw [channel_step]
      exact hfirst.has.mpr (hhas i)

/-! ## Giving back -/

/-- Nobody has the channel of an interceptor that has just left. -/
lemma not_held_of_left {events : List (Event ι)} (before : List (Event ι)) {i : ι}
    (hinitial : before ++ [.call (.leave i)] <+: events) (hsteady : s.Steady events)
    (htidy : ∀ as, as <+: events → (s.through as).Tidy base) :
    ¬ (s.through (before ++ [.call (.leave i)])).Held (s.channel i) := by
  obtain ⟨rest, rfl⟩ := hinitial
  have hactive : (s.through before).Active i :=
    (steady_append.mp (steady_append.mp hsteady).1).2.1
  have hexclusive := (htidy before ⟨.call (.leave i) :: rest, by simp⟩).exclusive
  obtain ⟨t, ht, -, hchannel, hact⟩ := call_leave (s.through before) i
  rintro ⟨j, hj, hsame⟩
  simp only [through_append, through_cons, through_nil, step, ht] at hj hsame
  obtain ⟨hji, hj⟩ := (hact j).mp hj
  rw [hchannel] at hsame
  exact hji (hexclusive j i hj hactive (by rw [hsame, channel_through]))

/-- **Giving channels back.**  Interceptors over loggers that are there are entered and left, by
themselves or in blocks, only active ones are left, and others leave the channels alone.  Then a
refusal changes nothing, each interceptor gives back its channel as it found it, and when all have
left everything is as it was at first. -/
theorem givesBack (logs : LogState) (book : ι → Nat) (channel : ι → Text) (course : Course ι)
    (hnumbered : logs.Numbered) (hhas : ∀ i, logs.tree.Has (channel i))
    (hsparing : ∀ change, .other change ∈ course.events (start logs book channel) →
      Sparing channel change)
    (hsteady : (start logs book channel).Steady (course.events (start logs book channel))) :
    (start logs book channel).GivesBack (course.events (start logs book channel)) := by
  generalize course.events (start logs book channel) = events at *
  have hstart := tidy_start book channel hnumbered
  have htidy : ∀ before, before <+: events →
      ((start logs book channel).through before).Tidy logs.tree.logger := by
    rintro before ⟨rest, rfl⟩
    exact hstart.through (steady_append.mp hsteady).1 fun change hc =>
      hsparing change (List.mem_append_left _ hc)
  have hloggers : (∀ i, ¬ ((start logs book channel).through events).Active i) → ∀ name,
      (∀ change, .other change ∈ events →
        ∀ t, (change t).tree.logger name = t.tree.logger name) →
      ((start logs book channel).through events).logs.tree.logger name =
        logs.tree.logger name := by
    intro hleft name hothers
    by_cases hname : ∃ i, name = channel i
    · obtain ⟨i, rfl⟩ := hname
      have hfree := (htidy events List.prefix_rfl).lent.free i fun ⟨j, hj, _⟩ => hleft j hj
      rwa [channel_through] at hfree
    · exact through_logger_of_ne (fun i hi => hname ⟨i, hi⟩) hothers
  refine ⟨fun before i e _ he => call_enter_of_error he,
    fun before i inside hinitial hentered => ?left, hloggers, fun hleft hothers => ?tree⟩
  case left =>
    -- nobody has the channel before and nobody afterwards, so both times it is as it was at first
    have hfound := htidy before ((List.prefix_append _ _).trans hinitial)
    have hbefore := hfound.lent.free i (hfound.not_held (notMem_of_call_enter hentered))
    have hafter := not_held_of_left (before ++ .call (.enter i) :: inside)
      (by simpa using hinitial) hsteady htidy
    have hgiven := (htidy _ hinitial).lent.free i (by simpa using hafter)
    rw [channel_through] at hbefore hgiven
    exact hgiven.trans hbefore.symm
  case tree =>
    obtain ⟨hplaces, hdisabled⟩ := through_samePlaces (s := start logs book channel) hhas hothers
    have hall := funext fun name => hloggers hleft name fun change hc t => by rw [hothers change hc]
    generalize ((start logs book channel).through events).logs.tree = t at *
    obtain ⟨logger, places, disabledUpTo⟩ := t
    obtain rfl : logger = logs.tree.logger := hall
    obtain rfl : places = logs.tree.places := hplaces
    obtain rfl : disabledUpTo = logs.tree.disabledUpTo := hdisabled
    rfl

/-- A block is steady if what is done inside is. -/
lemma steady_blockEvents (htidy : s.Tidy base) {i : ι} {inside : Interceptors ι → List (Event ι)}
    (hsparing : ∀ change, .other change ∈ blockEvents i s inside → Sparing s.channel change)
    (hinside : ∀ t : Interceptors ι, t.Tidy base →
      (∀ change, .other change ∈ inside t → Sparing t.channel change) →
        t.Steady (inside t) ∧ ∀ j, (t.through (inside t)).Active j ↔ t.Active j) :
    s.Steady (blockEvents i s inside) ∧
      ∀ j, (s.through (blockEvents i s inside)).Active j ↔ s.Active j := by
  by_cases hmem : s.channel i ∈ s.logs.captured
  · have hevents : blockEvents i s inside = [.call (.enter i)] := by
      rw [blockEvents, call_enter_of_mem hmem]
    rw [hevents]
    refine ⟨⟨trivial, trivial⟩, fun j => ?_⟩
    rw [through_cons, through_nil, step, call_enter_of_mem hmem]
  · have htidy' := htidy.enter i
    have hidle : ¬ s.Active i := fun hi => htidy.not_held hmem ⟨i, hi, rfl⟩
    obtain ⟨t, ht, -, hchannel, hactive⟩ := call_enter_of_notMem hmem
    rw [ht] at htidy'
    have hevents : blockEvents i s inside =
        .call (.enter i) :: (inside t ++ [.call (.leave i)]) := by
      rw [blockEvents, ht]
    have hstep : s.step (.call (.enter i)) = t := by rw [step, ht]
    rw [hevents] at hsparing ⊢
    obtain ⟨hsteady, hsame⟩ := hinside t htidy' fun c hc => by
      rw [show t.channel = s.channel from funext hchannel]
      exact hsparing c (List.mem_cons_of_mem _ (List.mem_append_left _ hc))
    have hleft : (t.through (inside t)).Active i := (hsame i).mpr ((hactive i).mpr (Or.inl rfl))
    refine ⟨⟨trivial, ?steady⟩, fun j => ?same⟩
    case steady =>
      rw [hstep, steady_append]
      exact ⟨hsteady, hleft, trivial⟩
    case same =>
      obtain ⟨u, hu, -, -, hafter⟩ := call_leave (t.through (inside t)) i
      rw [through_cons, hstep, through_append, through_cons, through_nil, step, hu, hafter, hsame,
        hactive]
      constructor
      · rintro ⟨hji, hj⟩
        exact hj.resolve_left hji
      · intro hj
        exact ⟨fun e => hidle (e ▸ hj), Or.inr hj⟩

/-- **Blocks.**  Capturing in blocks is steady, and afterwards those capture that did before. -/
theorem Course.Blocks.steady {course : Course ι} (h : course.Blocks) (htidy : s.Tidy base)
    (hsparing : ∀ change, .other change ∈ course.events s → Sparing s.channel change) :
    s.Steady (course.events s) ∧ ∀ j, (s.through (course.events s)).Active j ↔ s.Active j := by
  induction h generalizing s with
  | done => exact ⟨trivial, fun j => Iff.rfl⟩
  | @other change rest _ ih =>
      have hfirst := hsparing change List.mem_cons_self
      obtain ⟨hsteady, hsame⟩ := ih (htidy.other hfirst) fun c hc =>
        hsparing c (List.mem_cons_of_mem _ hc)
      exact ⟨⟨trivial, hsteady⟩, hsame⟩
  | @block i inside rest _ _ ihinside ihrest =>
      have hinside : ∀ change, .other change ∈ blockEvents i s inside.events →
          Sparing s.channel change := fun c hc => hsparing c (List.mem_append_left _ hc)
      obtain ⟨hsteady, hsame⟩ := steady_blockEvents htidy hinside fun t htidy hsparing =>
        ihinside htidy hsparing
      have hchannel : (s.through (blockEvents i s inside.events)).channel = s.channel :=
        funext (channel_through s _)
      obtain ⟨hrest, hlast⟩ := ihrest (htidy.through hsteady hinside) fun c hc => by
        rw [hchannel]
        exact hsparing c (List.mem_append_right _ hc)
      refine ⟨steady_append.mpr ⟨hsteady, hrest⟩, fun j => ?_⟩
      rw [Course.events, through_append, hlast, hsame]

/-! ## Channels one below the other -/

/-- A logger with a handler and a level of its own, and one below it. -/
def nestedLoggers : LogState where
  tree := (LogTree.initial.configure "app" fun l =>
    { l with level := Level.warning, handlers := [⟨1, Level.info, .recorder 1⟩] }).enroll "app.store"
  next := 2

/-- Two interceptors over the logger above, and one over the logger below. -/
def nestedChannel : Fin 3 → Text
  | 2 => "app.store"
  | _ => "app"

/-- The one below captures in a block.  The first one above is entered before it and left inside, and
the second one above is refused. -/
def nestedCourse : Course (Fin 3) :=
  .event (.call (.enter 0)) (.block 2
    (.event (.call (.enter 1)) (.event
      (.other fun s => (s.write ⟨"app.store", Level.info, .text "stored", [], none⟩).2)
      (.event (.call (.leave 0)) .done)))
    .done)

theorem givesBack_nested :
    (start nestedLoggers Fin.val nestedChannel).GivesBack
        (nestedCourse.events (start nestedLoggers Fin.val nestedChannel)) ∧
      ∀ i, ¬ ((start nestedLoggers Fin.val nestedChannel).through
        (nestedCourse.events (start nestedLoggers Fin.val nestedChannel))).Active i := by
  have hnumbered : nestedLoggers.Numbered := by
    intro name n hn
    have hlogger : nestedLoggers.tree.logger name =
        if name = "app" then { level := Level.warning, handlers := [⟨1, Level.info, .recorder 1⟩] }
        else LogTree.initial.logger name := rfl
    have htwo : 2 ≤ n := hn
    rw [hlogger]
    split_ifs
    · exact ⟨fun h hh => by simp at hh; subst hh; simp; omega, fun f hf => by simp at hf⟩
    · unfold LogTree.initial
      dsimp only
      split_ifs <;> exact ⟨by simp, by simp⟩
  have hevents : nestedCourse.events (start nestedLoggers Fin.val nestedChannel) =
      [.call (.enter 0), .call (.enter 2), .call (.enter 1),
        .other fun s => (s.write ⟨"app.store", Level.info, .text "stored", [], none⟩).2,
        .call (.leave 0), .call (.leave 2)] := rfl
  refine ⟨givesBack _ _ _ _ hnumbered (by decide) (fun change hchange => ?_) (by decide), by decide⟩
  simp only [hevents, List.mem_cons, reduceCtorEq, Event.other.injEq, List.not_mem_nil,
    false_or, or_false] at hchange
  subst hchange
  exact ⟨fun s i => by rw [LogState.write_logger], fun s => LogState.write_captured _ _,
    fun s => Nat.le_of_eq (LogState.write_next _ _).symm⟩

end Interceptors

end WatWorkbench
