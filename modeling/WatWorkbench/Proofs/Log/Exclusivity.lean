import Mathlib.Data.List.Induction
import WatWorkbench.Proofs.Log.Interceptors

/-!
# When a channel has one interceptor at most

The list of captured channels is meant to let one interceptor at a time have a channel: entering
looks the channel up, and leaving takes it off.  But leaving takes it off whoever leaves, so an
interceptor that is *not* active frees the channel of one that is, and the next one gets in.

* `Interceptors.Orderly` — what the list is for: never two active interceptors on one channel, and
  entering is refused exactly when an active one has the channel.
* `Interceptors.Break` — the way in: someone inactive leaves a channel that is held, and somebody
  enters it before the holder has left.
* **`orderly_iff_not_break`** — calls in any order are orderly unless they contain such a break.
  Calls that leave active interceptors only are therefore orderly.
* `Interceptors.Kept` — the invariant behind it.  Its point is `strayed`: an active interceptor
  whose channel is off the list has been robbed of it, and the call that did so is still in the
  history.
-/

namespace WatWorkbench.Interceptors

variable {ι : Type} [DecidableEq ι]

/-! ## The property -/

/-- No two active interceptors have the same channel. -/
def Exclusive (s : Interceptors ι) : Prop :=
  ∀ i j, s.Active i → s.Active j → s.channel i = s.channel j → i = j

/-- Entering is refused exactly when an active interceptor has the channel. -/
def Guarded (s : Interceptors ι) (i : ι) : Prop :=
  (s.call (.enter i)).1 = .error (.captured (s.channel i)) ↔ s.Held (s.channel i)

/-- Before and after every call each channel has one active interceptor at most, and each call that
enters is refused exactly when an active one has the channel. -/
structure Orderly (s : Interceptors ι) (calls : List (Call ι)) : Prop where
  exclusive : ∀ before, before <+: calls → (s.after before).Exclusive
  guarded : ∀ before i, before ++ [.enter i] <+: calls → (s.after before).Guarded i

/-- The channel of an active interceptor is freed by another one that is not active, and somebody
enters it although the first one has not left. -/
def Break (s : Interceptors ι) (calls : List (Call ι)) : Prop :=
  ∃ (before meanwhile later : List (Call ι)) (holder stray intruder : ι),
    calls = before ++ .leave stray :: (meanwhile ++ .enter intruder :: later) ∧
    (s.after before).Active holder ∧ ¬ (s.after before).Active stray ∧
    s.channel stray = s.channel holder ∧ s.channel intruder = s.channel holder ∧
    .leave holder ∉ meanwhile

/-! ## The list of channels -/

/-- A channel on the list is held.  This holds after any calls, orderly or not. -/
def Registered (s : Interceptors ι) : Prop := ∀ c ∈ s.logs.captured, s.Held c

lemma Registered.call {s : Interceptors ι} (h : s.Registered) (c : Call ι) :
    (s.call c).2.Registered := by
  cases c with
  | enter i =>
      by_cases hi : s.channel i ∈ s.logs.captured
      · rw [call_enter_of_mem hi]; exact h
      · obtain ⟨t, ht, hlogs, hchannel, hactive⟩ := call_enter_of_notMem hi
        rw [ht]
        intro c hc
        rw [hlogs, List.mem_cons] at hc
        rcases hc with rfl | hc
        · exact ⟨i, (hactive i).mpr (Or.inl rfl), hchannel i⟩
        · obtain ⟨j, hj, rfl⟩ := h c hc
          exact ⟨j, (hactive j).mpr (Or.inr hj), hchannel j⟩
  | leave i =>
      obtain ⟨t, ht, hlogs, hchannel, hactive⟩ := call_leave s i
      rw [ht]
      intro c hc
      obtain ⟨hmem, hne⟩ := (hlogs c).mp hc
      obtain ⟨j, hj, rfl⟩ := h c hmem
      have hji : j ≠ i := fun e => hne (by rw [e])
      exact ⟨j, (hactive j).mpr ⟨hji, hj⟩, hchannel j⟩

lemma Registered.after {s : Interceptors ι} (h : s.Registered) (calls : List (Call ι)) :
    (s.after calls).Registered := by
  induction calls generalizing s with
  | nil => exact h
  | cons c cs ih => rw [after_cons]; exact ih (h.call c)

/-- Entering is refused exactly when the channel is on the list. -/
lemma call_enter_eq_error_iff {s : Interceptors ι} {i : ι} :
    (s.call (.enter i)).1 = .error (.captured (s.channel i)) ↔
      s.channel i ∈ s.logs.captured := by
  by_cases h : s.channel i ∈ s.logs.captured
  · rw [call_enter_of_mem h]; exact iff_of_true rfl h
  · obtain ⟨t, ht, -⟩ := call_enter_of_notMem h
    rw [ht]; exact iff_of_false (by simp) h

/-! ## Breaks disturb the order -/

/-- Whoever enters a held channel that is off the list gets in. -/
lemma not_guarded {s : Interceptors ι} {holder i : ι} (hactive : s.Active holder)
    (hoff : s.channel holder ∉ s.logs.captured) (hi : s.channel i = s.channel holder) :
    ¬ s.Guarded i := by
  intro hguard
  have hmem := call_enter_eq_error_iff.mp (hguard.mpr ⟨holder, hactive, hi.symm⟩)
  rw [hi] at hmem
  exact hoff hmem

/-- A held channel that is off the list stays so until its holder leaves or somebody enters it. -/
lemma call_keeps_off {s : Interceptors ι} {holder : ι} (hactive : s.Active holder)
    (hoff : s.channel holder ∉ s.logs.captured) {c : Call ι} (hleave : c ≠ .leave holder)
    (henter : ∀ i, c = .enter i → s.channel i ≠ s.channel holder) :
    (s.call c).2.Active holder ∧ s.channel holder ∉ (s.call c).2.logs.captured := by
  cases c with
  | enter i =>
      by_cases hmem : s.channel i ∈ s.logs.captured
      · rw [call_enter_of_mem hmem]; exact ⟨hactive, hoff⟩
      · obtain ⟨t, ht, hlogs, -, hact⟩ := call_enter_of_notMem hmem
        rw [ht]
        refine ⟨(hact holder).mpr (Or.inr hactive), ?_⟩
        rw [hlogs, List.mem_cons, not_or]
        exact ⟨Ne.symm (henter i rfl), hoff⟩
  | leave i =>
      obtain ⟨t, ht, hlogs, -, hact⟩ := call_leave s i
      rw [ht]
      have hne : holder ≠ i := fun e => hleave (by rw [e])
      exact ⟨(hact holder).mpr ⟨hne, hactive⟩, fun hc => hoff ((hlogs _).mp hc).1⟩

/-- So when somebody enters such a channel in the end, somebody has got in on the way. -/
lemma exists_not_guarded {s : Interceptors ι} {holder intruder : ι} (meanwhile : List (Call ι))
    (hactive : s.Active holder) (hoff : s.channel holder ∉ s.logs.captured)
    (hsame : s.channel intruder = s.channel holder) (hstays : .leave holder ∉ meanwhile) :
    ∃ before i, before ++ [.enter i] <+: meanwhile ++ [.enter intruder] ∧
      ¬ (s.after before).Guarded i := by
  induction meanwhile generalizing s with
  | nil => exact ⟨[], intruder, by simp, not_guarded hactive hoff hsame⟩
  | cons c cs ih =>
      simp only [List.mem_cons, not_or] at hstays
      by_cases henter : ∃ i, c = .enter i ∧ s.channel i = s.channel holder
      · obtain ⟨i, rfl, hi⟩ := henter
        exact ⟨[], i, by simp, not_guarded hactive hoff hi⟩
      · obtain ⟨hact, hmem⟩ := call_keeps_off hactive hoff (Ne.symm hstays.1)
          fun i hc hi => henter ⟨i, hc, hi⟩
        obtain ⟨before, i, hinitial, hfails⟩ :=
          ih hact (by simpa using hmem) (by simpa using hsame) hstays.2
        exact ⟨c :: before, i, by simpa using hinitial, hfails⟩

/-- A break makes calls disorderly. -/
lemma not_orderly_of_break {s : Interceptors ι} {calls : List (Call ι)} (h : s.Break calls) :
    ¬ s.Orderly calls := by
  obtain ⟨before, meanwhile, later, holder, stray, intruder, rfl, hactive, hstray, hsame, hnext,
    hstays⟩ := h
  intro horderly
  obtain ⟨t, ht, hlogs, hchannel, hact⟩ := call_leave (s.after before) stray
  have hne : holder ≠ stray := fun e => hstray (e ▸ hactive)
  have hoff : t.channel holder ∉ t.logs.captured := by
    intro hc
    exact ((hlogs _).mp hc).2 (by simp [hchannel, hsame])
  have hin : t.channel intruder = t.channel holder := by simp [hchannel, hnext]
  obtain ⟨between, i, hinitial, hfails⟩ :=
    exists_not_guarded meanwhile ((hact holder).mpr ⟨hne, hactive⟩) hoff hin hstays
  refine hfails ?_
  have hstep : s.after (before ++ .leave stray :: between) = t.after between := by
    rw [after_append, after_cons, ht]
  have hlong : (before ++ .leave stray :: between) ++ [.enter i] <+:
      before ++ .leave stray :: (meanwhile ++ .enter intruder :: later) := by
    rw [List.append_assoc, List.prefix_append_right_inj, List.cons_append, List.cons_prefix_cons]
    exact ⟨rfl, hinitial.trans ⟨later, by simp⟩⟩
  have := horderly.guarded _ i hlong
  rwa [hstep] at this

/-! ## Without a break the order is kept -/

/-- What holds after calls without a break. -/
structure Kept (s : Interceptors ι) (calls : List (Call ι)) : Prop where
  exclusive : (s.after calls).Exclusive
  /-- An active interceptor whose channel is off the list was robbed of it by one that was not
  active, and has not left since. -/
  strayed : ∀ i, (s.after calls).Active i → s.channel i ∉ (s.after calls).logs.captured →
    ∃ before meanwhile stray, calls = before ++ .leave stray :: meanwhile ∧
      (s.after before).Active i ∧ ¬ (s.after before).Active stray ∧
      s.channel stray = s.channel i ∧ .leave i ∉ meanwhile

/-- What robbed an interceptor stays in the history until it leaves. -/
lemma strayed_append {s : Interceptors ι} {calls : List (Call ι)} {i : ι} {c : Call ι}
    (hc : c ≠ .leave i)
    (h : ∃ before meanwhile stray, calls = before ++ .leave stray :: meanwhile ∧
      (s.after before).Active i ∧ ¬ (s.after before).Active stray ∧
      s.channel stray = s.channel i ∧ .leave i ∉ meanwhile) :
    ∃ before meanwhile stray, calls ++ [c] = before ++ .leave stray :: meanwhile ∧
      (s.after before).Active i ∧ ¬ (s.after before).Active stray ∧
      s.channel stray = s.channel i ∧ .leave i ∉ meanwhile := by
  obtain ⟨before, meanwhile, stray, rfl, hactive, hstray, hsame, hstays⟩ := h
  refine ⟨before, meanwhile ++ [c], stray, by simp, hactive, hstray, hsame, ?_⟩
  simp only [List.mem_append, List.mem_singleton, not_or]
  exact ⟨hstays, Ne.symm hc⟩

/-- Nobody gets into a held channel without a break. -/
lemma Kept.mem_captured {s : Interceptors ι} {calls : List (Call ι)} (h : s.Kept calls) {i j : ι}
    (hbreak : ¬ s.Break (calls ++ [.enter j])) (hactive : (s.after calls).Active i)
    (hsame : s.channel j = s.channel i) : s.channel i ∈ (s.after calls).logs.captured := by
  by_contra hoff
  obtain ⟨before, meanwhile, stray, rfl, hact, hstray, hchannel, hstays⟩ := h.strayed i hactive hoff
  exact hbreak ⟨before, meanwhile, [], i, stray, j, by simp, hact, hstray, hchannel, hsame, hstays⟩

lemma Kept.snoc {s : Interceptors ι} {calls : List (Call ι)} (h : s.Kept calls) {c : Call ι}
    (hbreak : ¬ s.Break (calls ++ [c])) : s.Kept (calls ++ [c]) := by
  have hafter : s.after (calls ++ [c]) = ((s.after calls).call c).2 := by
    rw [after_append, after_cons, after_nil]
  cases c with
  | enter j =>
      by_cases hj : (s.after calls).channel j ∈ (s.after calls).logs.captured
      · have hsame : s.after (calls ++ [.enter j]) = s.after calls := by
          rw [hafter, call_enter_of_mem hj]
        refine ⟨hsame ▸ h.exclusive, fun i hi hoff => ?_⟩
        rw [hsame] at hi hoff
        exact strayed_append (by simp) (h.strayed i hi hoff)
      · obtain ⟨t, ht, hlogs, hchannel, hact⟩ := call_enter_of_notMem hj
        rw [ht] at hafter
        simp only [channel_after] at hj hlogs
        -- whoever was active has another channel: a break would be needed to get into this one
        have hfree : ∀ i, (s.after calls).Active i → s.channel j ≠ s.channel i := by
          intro i hi hji
          exact hj (hji ▸ h.mem_captured hbreak hi hji)
        refine ⟨?_, fun i hi hoff => ?_⟩
        · rw [hafter]
          intro a b ha hb hab
          simp only [hchannel, channel_after] at hab
          rcases (hact a).mp ha with rfl | ha' <;> rcases (hact b).mp hb with rfl | hb'
          · rfl
          · exact absurd hab (hfree b hb')
          · exact absurd hab.symm (hfree a ha')
          · exact h.exclusive a b ha' hb' (by simpa using hab)
        · rw [hafter] at hi hoff
          rw [hlogs, List.mem_cons, not_or] at hoff
          rcases (hact i).mp hi with rfl | hi'
          · exact absurd rfl hoff.1
          · exact strayed_append (by simp) (h.strayed i hi' hoff.2)
  | leave j =>
      obtain ⟨t, ht, hlogs, hchannel, hact⟩ := call_leave (s.after calls) j
      rw [ht] at hafter
      simp only [channel_after] at hlogs hchannel
      refine ⟨?_, fun i hi hoff => ?_⟩
      · rw [hafter]
        intro a b ha hb hab
        simp only [hchannel] at hab
        exact h.exclusive a b ((hact a).mp ha).2 ((hact b).mp hb).2 (by simpa using hab)
      · rw [hafter] at hi hoff
        obtain ⟨hij, hi'⟩ := (hact i).mp hi
        by_cases hmem : s.channel i ∈ (s.after calls).logs.captured
        · -- this very call took the channel off the list
          have hsame : s.channel j = s.channel i := by
            by_contra hne
            exact hoff ((hlogs _).mpr ⟨hmem, Ne.symm hne⟩)
          refine ⟨calls, [], j, by simp, hi', fun hj => hij ?_, hsame, by simp⟩
          exact h.exclusive i j hi' hj (by simp [hsame])
        · exact strayed_append (by simpa using Ne.symm hij) (h.strayed i hi' hmem)

/-- A break among the first calls is one among them all. -/
lemma Break.mono {s : Interceptors ι} {as bs : List (Call ι)} (hinitial : as <+: bs)
    (h : s.Break as) : s.Break bs := by
  obtain ⟨rest, rfl⟩ := hinitial
  obtain ⟨before, meanwhile, later, holder, stray, intruder, rfl, hrest⟩ := h
  exact ⟨before, meanwhile, later ++ rest, holder, stray, intruder, by simp, hrest⟩

lemma kept_start (logs : LogState) (book : ι → Nat) (channel : ι → Text) (calls : List (Call ι))
    (hbreak : ¬ (start logs book channel).Break calls) :
    (start logs book channel).Kept calls := by
  induction calls using List.reverseRecOn with
  | nil =>
      have hidle : ∀ i, ¬ (start logs book channel).Active i := by
        intro i; simp [Active, start, Interceptor.isActive]
      exact ⟨fun i _ hi => absurd hi (hidle i), fun i hi => absurd hi (hidle i)⟩
  | append_singleton cs c ih =>
      exact (ih fun h => hbreak (h.mono (List.prefix_append cs [c]))).snoc hbreak

/-- **Who may have a channel.**  Whatever interceptors there are and in whatever order they are
entered and left, each channel has one active interceptor at most and entering is refused exactly
when an active one has the channel — unless an inactive one leaves a held channel and somebody
enters it before the holder has left. -/
theorem orderly_iff_not_break (logs : LogState) (book : ι → Nat) (channel : ι → Text)
    (calls : List (Call ι)) :
    (start logs book channel).Orderly calls ↔ ¬ (start logs book channel).Break calls := by
  refine ⟨fun horderly hbreak => not_orderly_of_break hbreak horderly, fun hbreak => ⟨?_, ?_⟩⟩
  · intro before hinitial
    exact (kept_start logs book channel before fun h => hbreak (h.mono hinitial)).exclusive
  · intro before i hinitial
    have hkept := kept_start logs book channel before fun h =>
      hbreak (h.mono ((List.prefix_append before _).trans hinitial))
    have hregistered : (start logs book channel).Registered := by
      intro c hc; simp [start] at hc
    refine call_enter_eq_error_iff.trans ⟨hregistered.after before _, ?_⟩
    rintro ⟨j, hj, hsame⟩
    rw [channel_after, channel_after] at hsame
    rw [channel_after, ← hsame]
    exact hkept.mem_captured (fun h => hbreak (h.mono hinitial)) hj hsame.symm

/-- Two interceptors over one channel: the first one enters, the second one leaves without ever
having entered, and then it enters beside the first. -/
theorem leave_without_enter_not_orderly :
    ¬ (start {} (fun _ => 0) fun _ => channelName : Interceptors Bool).Orderly
      [.enter true, .leave false, .enter false] :=
  not_orderly_of_break
    ⟨[.enter true], [], [], true, false, false, rfl, by decide, by decide, rfl, rfl, by decide⟩

end WatWorkbench.Interceptors
