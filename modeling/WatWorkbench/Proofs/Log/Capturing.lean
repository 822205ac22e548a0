import WatWorkbench.Proofs.Log.Delivery
import WatWorkbench.Proofs.Log.Lending

/-!
# Which books a record comes into

An interceptor that finds its channel above progress lowers it and keeps the records that the channel
would have dropped from everybody else.  Those are the records below the level that the channel had
when the interceptor was entered, and everybody else includes interceptors of the channels above.  So
of two interceptors, one above the other, the upper one gets a record of the lower channel only if
the lower one did not find its channel above the record's level.

* `LogTree.Open` — logging as it is before there are interceptors: nothing is switched off, everything
  propagates and nothing is filtered.
* `Interceptors.AddsTo` — a record comes once into the books of some active interceptors, and into
  no other.
* `Interceptors.Shared` — where the handlers of the books are; `Shared.addsTo` — where records go then.
* `Interceptors.Since` — the calls since an interceptor was entered.
* **`addsTo_of_active`** — a record that a captured channel takes comes into the book of the channel's
  interceptor and, unless its level is below the one that this interceptor found, into the books of
  all interceptors above.
* `not_addsTo_above` — a record that comes into the lower book only.
-/

namespace WatWorkbench

/-! ## The property -/

/-- Nothing is switched off or filtered, everything propagates, and books have no handlers. -/
structure LogTree.Open (t : LogTree) : Prop where
  disabledUpTo : t.disabledUpTo < Level.info
  enabled : ∀ name, (t.logger name).disabled = false
  propagate : ∀ name, (t.logger name).propagate = true
  filters : ∀ name, (t.logger name).filters = []
  sinks : ∀ name, ∀ h ∈ (t.logger name).handlers, ∀ id, h.sink ≠ .book id

namespace Interceptors

variable {ι : Type}

/-- The record comes once into the book of each active interceptor of a kind, if it has a text, and
into no other book. -/
structure AddsTo (s : Interceptors ι) (r : LogRecord) (kind : ι → Prop) : Prop where
  once : ∀ i, s.Active i → kind i →
    ((s.logs.write r).2.books (s.member i).book).entries =
      (s.logs.books (s.member i).book).entries ++ r.entries
  others : ∀ id, (∀ i, s.Active i → kind i → (s.member i).book ≠ id) →
    ((s.logs.write r).2.books id).entries = (s.logs.books id).entries

/-! ## Where the handlers are -/

/-- Every logger is tapped by one active interceptor, or as it was at first. -/
structure Shared (s : Interceptors ι) (base : Text → Logger) : Prop where
  tapped : ∀ i, s.Active i → ∃ n threshold, s.Taps i (base (s.channel i)) n threshold
  exclusive : s.Exclusive
  untouched : ∀ name, ¬ s.Held name → s.logs.tree.logger name = base name

section Handlers

variable {s : Interceptors ι} {t : LogTree} {i : ι} {name : Text}

/-- The handlers of a book on one logger. -/
def handlersOf (s : Interceptors ι) (id : Nat) (name : Text) : List Handler :=
  (s.logs.tree.logger name).handlers.filter (·.sink = .book id)

/-- Interceptors switch nothing off and stop nothing from propagating. -/
lemma Shared.flags (h : s.Shared t.logger) (hopen : t.Open) (name : Text) :
    (s.logs.tree.logger name).disabled = false ∧ (s.logs.tree.logger name).propagate = true := by
  by_cases hheld : s.Held name
  · obtain ⟨j, hj, rfl⟩ := hheld
    obtain ⟨n, threshold, htaps⟩ := h.tapped j hj
    rw [htaps.logger, Logger.tapped_disabled, Logger.tapped_propagate]
    exact ⟨hopen.enabled _, hopen.propagate _⟩
  · rw [h.untouched name hheld]
    exact ⟨hopen.enabled _, hopen.propagate _⟩

lemma Shared.handlersOf_untouched (h : s.Shared t.logger) (hopen : t.Open)
    (hheld : ¬ s.Held name) (id : Nat) : s.handlersOf id name = [] := by
  rw [handlersOf, h.untouched name hheld, List.filter_eq_nil_iff]
  intro k hk
  simpa using hopen.sinks name k hk id

lemma Taps.handlersOf {n : Nat} {threshold : Option Int}
    (h : s.Taps i (t.logger (s.channel i)) n threshold) (hopen : t.Open) (id : Nat) :
    s.handlersOf id (s.channel i) =
      if (s.member i).book = id then [(s.member i).tap n] else [] := by
  have hbase : (t.logger (s.channel i)).handlers.filter (·.sink = .book id) = [] := by
    rw [List.filter_eq_nil_iff]
    intro k hk
    simpa using hopen.sinks _ k hk id
  rw [Interceptors.handlersOf, h.logger, Logger.tapped_handlers, List.filter_append, hbase,
    List.nil_append]
  simp [Interceptor.tap, List.filter_cons]

/-- A book that no active interceptor of the logger captures into has no handler there. -/
lemma Shared.handlersOf_eq_nil (h : s.Shared t.logger) (hopen : t.Open) {id : Nat}
    (hbook : ∀ j, s.Active j → s.channel j = name → (s.member j).book ≠ id) :
    s.handlersOf id name = [] := by
  by_cases hheld : s.Held name
  · obtain ⟨j, hj, rfl⟩ := hheld
    obtain ⟨n, threshold, htaps⟩ := h.tapped j hj
    rw [htaps.handlersOf hopen, if_neg (hbook j hj rfl)]
  · exact h.handlersOf_untouched hopen hheld id

/-- Along loggers that are all different, the book of an active interceptor has one handler, if its
channel is among them. -/
lemma Shared.flatMap_handlersOf (h : s.Shared t.logger) (hopen : t.Open) (hactive : s.Active i)
    (hbooks : ∀ j, s.Active j → (s.member j).book = (s.member i).book → j = i) {names : List Text}
    (hnodup : names.Nodup) (hmem : s.channel i ∈ names) :
    ∃ n, names.flatMap (s.handlersOf (s.member i).book) = [(s.member i).tap n] := by
  obtain ⟨n, threshold, htaps⟩ := h.tapped i hactive
  obtain ⟨above, below, rfl⟩ := List.append_of_mem hmem
  have hnil : ∀ l : List Text, s.channel i ∉ l →
      l.flatMap (s.handlersOf (s.member i).book) = [] := fun l hl => by
    rw [List.flatMap_eq_nil_iff]
    intro name hname
    refine h.handlersOf_eq_nil hopen fun j hj hchannel hbook => hl ?_
    rwa [← hbooks j hj hbook, hchannel]
  have hdisjoint := List.nodup_append.mp hnodup
  have habove : s.channel i ∉ above := fun hin =>
    hdisjoint.2.2 _ hin _ List.mem_cons_self rfl
  have hbelow : s.channel i ∉ below := (List.nodup_cons.mp hdisjoint.2.1).1
  refine ⟨n, ?_⟩
  rw [List.flatMap_append, List.flatMap_cons, hnil above habove, hnil below hbelow,
    htaps.handlersOf hopen, if_pos rfl]
  rfl

end Handlers

/-! ## Records -/

section Records

variable {s : Interceptors ι} {t : LogTree} {i : ι} {r : LogRecord}

/-- A record that passes the filters comes into the books of all active interceptors on the way. -/
lemma Shared.filter_deliveries (h : s.Shared t.logger) (hopen : t.Open)
    (henabled : s.logs.tree.isEnabled r.logger r.level = true)
    (hpassed : (LogTree.screen r (s.logs.tree.logger r.logger).filters).2 = true)
    (hhandled : s.logs.tree.handlersAlong (s.logs.tree.chain r.logger) ≠ []) (id : Nat) :
    (s.logs.tree.deliveries r).filter (·.sink = .book id) =
      ((s.logs.tree.chain r.logger).flatMap (s.handlersOf id)).filter (·.level ≤ r.level) := by
  rw [LogTree.deliveries_of_passed henabled hpassed hhandled,
    LogTree.handlersAlong_eq_flatMap fun n _ => (h.flags hopen n).2]
  simp only [List.filter_flatMap, handlersOf, List.filter_filter, Bool.and_comm]

lemma Taps.filters {n : Nat} {threshold : Option Int}
    (h : s.Taps i (t.logger (s.channel i)) n threshold) (hopen : t.Open) :
    (s.logs.tree.logger (s.channel i)).filters =
      threshold.toList.map fun level => .threshold n level ((s.member i).tap n) := by
  rw [h.logger]
  cases threshold with
  | none => exact hopen.filters _
  | some level => simp [Logger.tapped, hopen.filters, Interceptor.tap]

/-- A record that the channel of an active interceptor takes, and whose level is not below the one
that the interceptor found. -/
lemma Shared.addsTo_of_le (h : s.Shared t.logger) (hopen : t.Open)
    (hnodup : (s.logs.tree.chain (s.channel i)).Nodup)
    (hself : s.channel i ∈ s.logs.tree.chain (s.channel i))
    (hbooks : ∀ j k, s.Active j → s.Active k → (s.member j).book = (s.member k).book → j = k)
    {n : Nat} {threshold : Option Int} (htaps : s.Taps i (t.logger (s.channel i)) n threshold)
    (hlogger : r.logger = s.channel i) (hinfo : Level.info ≤ r.level)
    (henabled : s.logs.tree.isEnabled r.logger r.level = true)
    (hle : ∀ level ∈ threshold, level ≤ r.level) :
    s.AddsTo r fun j => s.channel j ∈ s.logs.tree.chain (s.channel i) := by
  have hpassed : (LogTree.screen r (s.logs.tree.logger r.logger).filters).2 = true := by
    rw [hlogger, htaps.filters hopen]
    cases threshold with
    | none => rfl
    | some level => simp [LogTree.screen, hle level rfl]
  have hhandled : s.logs.tree.handlersAlong (s.logs.tree.chain r.logger) ≠ [] := by
    rw [LogTree.handlersAlong_eq_flatMap fun n _ => (h.flags hopen n).2, hlogger]
    intro hnil
    have hnone := List.flatMap_eq_nil_iff.mp hnil _ hself
    rw [htaps.logger, Logger.tapped_handlers] at hnone
    simp at hnone
  have hdelivered := h.filter_deliveries hopen henabled hpassed hhandled
  rw [hlogger] at hdelivered
  refine ⟨fun j hj habove => ?once, fun id hother => ?others⟩
  case once =>
    obtain ⟨m, hm⟩ := h.flatMap_handlersOf hopen hj (fun k hk => hbooks k j hk hj) hnodup habove
    rw [LogState.write_books, hdelivered, hm]
    simp [Interceptor.tap, hinfo]
  case others =>
    have hnil : (s.logs.tree.chain (s.channel i)).flatMap (s.handlersOf id) = [] := by
      rw [List.flatMap_eq_nil_iff]
      intro name hname
      exact h.handlersOf_eq_nil hopen fun j hj hchannel => hother j hj (hchannel ▸ hname)
    rw [LogState.write_books, hdelivered, hnil]
    simp

/-- A record below the level that the interceptor of its channel found. -/
lemma Taps.addsTo_of_lt {n : Nat} {level : Int}
    (htaps : s.Taps i (t.logger (s.channel i)) n (some level)) (hopen : t.Open)
    (hlogger : r.logger = s.channel i) (hlow : r.level < level)
    (henabled : s.logs.tree.isEnabled r.logger r.level = true) (hactive : s.Active i) :
    s.AddsTo r (· = i) := by
  have hdelivered : s.logs.tree.deliveries r = [(s.member i).tap n] := by
    refine LogTree.deliveries_of_diverted henabled ?_
    rw [hlogger, htaps.filters hopen]
    simp [LogTree.screen, Int.not_le.mpr hlow]
  refine ⟨fun j hj hji => ?once, fun id hother => ?others⟩
  case once =>
    subst hji
    rw [LogState.write_books, hdelivered]
    simp [Interceptor.tap]
  case others =>
    rw [LogState.write_books, hdelivered]
    simp [Interceptor.tap, hother i hactive rfl]

/-- A record of progress or more that the channel of an active interceptor takes. -/
lemma Shared.addsTo (h : s.Shared t.logger) (hopen : t.Open) (hrooted : t.Rooted)
    (hplaces : t.SamePlaces s.logs.tree) (hhas : t.Has (s.channel i)) (hactive : s.Active i)
    (hbooks : ∀ j k, s.Active j → s.Active k → (s.member j).book = (s.member k).book → j = k)
    {n : Nat} {found : Int} (htaps : s.Taps i (t.logger (s.channel i)) n
      (if Level.info < found then some found else none))
    (hlogger : r.logger = s.channel i) (hinfo : Level.info ≤ r.level)
    (htakes : s.logs.tree.effectiveLevel (s.channel i) ≤ r.level) :
    s.AddsTo r fun j => j = i ∨ (s.channel j ∈ t.chain (s.channel i) ∧ found ≤ r.level) := by
  have henabled : s.logs.tree.isEnabled r.logger r.level = true := by
    have hup : t.disabledUpTo < r.level := Int.lt_of_lt_of_le hopen.disabledUpTo hinfo
    simp [LogTree.isEnabled, hlogger, (h.flags hopen _).1, hplaces.disabledUpTo, hup, htakes]
  have hchain := hplaces.chain (s.channel i)
  by_cases hfound : found ≤ r.level
  · have hself := LogTree.mem_chain hhas
    have hadds := h.addsTo_of_le hopen (hchain ▸ hrooted.nodup_chain _) (hchain ▸ hself) hbooks
      htaps hlogger hinfo henabled (by simp [hfound])
    refine ⟨fun j hj hkind => hadds.once j hj ?once, fun id hother => hadds.others id ?others⟩
    case once =>
      rw [hchain]
      exact hkind.elim (fun e => e ▸ hself) (·.1)
    case others =>
      intro j hj habove
      exact hother j hj (Or.inr ⟨hchain ▸ habove, hfound⟩)
  · -- a level below the one found is a reason to have lowered the channel
    have hlow : r.level < found := Int.not_le.mp hfound
    rw [if_pos (Int.lt_of_le_of_lt hinfo hlow)] at htaps
    have hadds := htaps.addsTo_of_lt hopen hlogger hlow henabled hactive
    refine ⟨fun j hj hkind => hadds.once j hj ?once, fun id hother => hadds.others id ?others⟩
    case once => exact hkind.resolve_right fun habove => hfound habove.2
    case others => exact fun j hj e => hother j hj (Or.inl e)

end Records

/-! ## Without a break -/

variable [DecidableEq ι]

/-- An interceptor that was not active has entered after the first calls, and since then it has not
left. -/
structure Since (s : Interceptors ι) (before : List (Call ι)) (i : ι) (later : List (Call ι)) :
    Prop where
  idle : ¬ (s.after before).Active i
  entered : ((s.after before).call (.enter i)).1 = .ok ()
  stays : .leave i ∉ later

section Unbroken

variable {logs : LogState} {book : ι → Nat} {channel : ι → Text} {calls : List (Call ι)} {i : ι}

/-- Nobody has a channel that is entered without a break. -/
lemma not_held_of_not_break (hbreak : ¬ (start logs book channel).Break (calls ++ [.enter i]))
    (hoff : channel i ∉ ((start logs book channel).after calls).logs.captured) :
    ¬ ((start logs book channel).after calls).Held (channel i) := by
  have hkept := kept_start logs book channel calls fun h =>
    hbreak (h.mono (List.prefix_append calls _))
  rintro ⟨j, hj, hsame⟩
  rw [channel_after] at hsame
  refine hoff (hsame ▸ hkept.mem_captured hbreak hj hsame.symm)

lemma lent_after (hnumbered : logs.Numbered) (hbreak : ¬ (start logs book channel).Break calls) :
    ((start logs book channel).after calls).Lent logs.tree.logger := by
  induction calls using List.reverseRecOn with
  | nil => exact lent_start book channel hnumbered
  | append_singleton cs c ih =>
      have hinitial : ¬ (start logs book channel).Break cs := fun h =>
        hbreak (h.mono (List.prefix_append cs [c]))
      have hlent := ih hinitial
      rw [after_append, after_cons, after_nil]
      cases c with
      | enter j =>
          by_cases hmem : ((start logs book channel).after cs).channel j ∈
              ((start logs book channel).after cs).logs.captured
          · rw [call_enter_of_mem hmem]
            exact hlent
          · refine hlent.enter hmem ?_
            rw [channel_after] at hmem ⊢
            exact not_held_of_not_break hbreak hmem
      | leave j => exact hlent.leave (kept_start _ _ _ cs hinitial).exclusive j

/-- Only entering makes an interceptor active. -/
lemma eq_enter_of_active {s : Interceptors ι} {c : Call ι} (hi : ¬ s.Active i)
    (h : (s.call c).2.Active i) : c = .enter i ∧ (s.call (.enter i)).1 = .ok () := by
  cases c with
  | enter j =>
      by_cases hmem : s.channel j ∈ s.logs.captured
      · rw [call_enter_of_mem hmem] at h
        exact absurd h hi
      · obtain ⟨t, ht, -, -, hactive⟩ := call_enter_of_notMem hmem
        rw [ht] at h
        obtain rfl := ((hactive i).mp h).resolve_right hi
        exact ⟨rfl, by rw [ht]⟩
  | leave j =>
      obtain ⟨t, ht, -, -, hactive⟩ := call_leave s j
      rw [ht] at h
      exact absurd ((hactive i).mp h).2 hi

/-- Only leaving makes it inactive. -/
lemma active_call {s : Interceptors ι} {c : Call ι} (hi : s.Active i) (hc : c ≠ .leave i) :
    (s.call c).2.Active i := by
  cases c with
  | enter j =>
      by_cases hmem : s.channel j ∈ s.logs.captured
      · rw [call_enter_of_mem hmem]
        exact hi
      · obtain ⟨t, ht, -, -, hactive⟩ := call_enter_of_notMem hmem
        rw [ht]
        exact (hactive i).mpr (Or.inr hi)
  | leave j =>
      obtain ⟨t, ht, -, -, hactive⟩ := call_leave s j
      rw [ht]
      exact (hactive i).mpr ⟨fun e => hc (by rw [e]), hi⟩

lemma exists_since (h : ((start logs book channel).after calls).Active i) :
    ∃ before later, calls = before ++ .enter i :: later ∧
      (start logs book channel).Since before i later := by
  induction calls using List.reverseRecOn with
  | nil => exact absurd h (not_active_start logs book channel i)
  | append_singleton cs c ih =>
      rw [after_append, after_cons, after_nil] at h
      by_cases hi : ((start logs book channel).after cs).Active i
      · obtain ⟨before, later, rfl, hsince⟩ := ih hi
        refine ⟨before, later ++ [c], by simp, hsince.idle, hsince.entered, ?_⟩
        rintro hleft
        rcases List.mem_append.mp hleft with hleft | hleft
        · exact hsince.stays hleft
        · obtain rfl := (List.mem_singleton.mp hleft).symm
          obtain ⟨t, ht, -, -, hactive⟩ :=
            call_leave ((start logs book channel).after (before ++ .enter i :: later)) i
          rw [ht] at h
          exact ((hactive i).mp h).1 rfl
      · obtain ⟨rfl, hentered⟩ := eq_enter_of_active hi h
        exact ⟨cs, [], rfl, hi, hentered, by simp⟩

/-- What an interceptor has tapped stays so until it leaves. -/
lemma Lent.taps_call {s : Interceptors ι} {base : Text → Logger} {l : Logger} {n : Nat}
    {threshold : Option Int} {c : Call ι} (h : s.Lent base) (hexclusive : s.Exclusive)
    (hfree : ∀ j, c = .enter j → s.channel j ∉ s.logs.captured → ¬ s.Held (s.channel j))
    (hi : s.Active i) (htaps : s.Taps i l n threshold) (hc : c ≠ .leave i) :
    (s.call c).2.Taps i l n threshold := by
  cases c with
  | enter j =>
      by_cases hmem : s.channel j ∈ s.logs.captured
      · rw [call_enter_of_mem hmem]
        exact htaps
      · have hne : s.channel i ≠ s.channel j := fun e => hfree j rfl hmem ⟨i, hi, e⟩
        have hij : i ≠ j := fun e => hne (by rw [e])
        exact htaps.congr (call_member_of_ne s hij) (call_logger_of_ne s hne)
  | leave j =>
      have hij : i ≠ j := fun e => hc (by rw [e])
      refine htaps.congr (call_member_of_ne s hij) ?_
      by_cases hsame : s.channel i = s.channel j
      · rw [hsame, h.logger_leave, if_neg fun hj => hij (hexclusive i j hi hj hsame)]
      · exact call_logger_of_ne s hsame

lemma taps_after {before later : List (Call ι)} (hnumbered : logs.Numbered)
    (hbreak : ¬ (start logs book channel).Break (before ++ .enter i :: later))
    (hsince : (start logs book channel).Since before i later) :
    ((start logs book channel).after (before ++ .enter i :: later)).Active i ∧
      ((start logs book channel).after (before ++ .enter i :: later)).Taps i
        (logs.tree.logger (channel i)) ((start logs book channel).after before).logs.next
        (((start logs book channel).after before).logs.tree.threshold? (channel i)) := by
  induction later using List.reverseRecOn with
  | nil =>
      have hinitial : ¬ (start logs book channel).Break before := fun h =>
        hbreak (h.mono (List.prefix_append before _))
      have hoff := notMem_of_call_enter hsince.entered
      have hfree : ¬ ((start logs book channel).after before).Held
          (((start logs book channel).after before).channel i) := by
        rw [channel_after] at hoff ⊢
        exact not_held_of_not_break hbreak hoff
      have htaps := (lent_after hnumbered hinitial).taps_enter hoff hsince.idle hfree
      obtain ⟨t, ht, -, -, hactive⟩ := call_enter_of_notMem hoff
      simp only [after_append, after_cons, after_nil]
      rw [channel_after] at htaps
      rw [ht] at htaps ⊢
      exact ⟨(hactive i).mpr (Or.inl rfl), htaps⟩
  | append_singleton later c ih =>
      -- the last call is not one of `i`, and it does not enter a channel that somebody has
      rw [← List.cons_append, ← List.append_assoc] at hbreak ⊢
      have hinitial : ¬ (start logs book channel).Break (before ++ .enter i :: later) := fun h =>
        hbreak (h.mono (List.prefix_append _ [c]))
      have hc : c ≠ .leave i := fun e => hsince.stays (by simp [e])
      obtain ⟨hactive, htaps⟩ := ih hinitial
        ⟨hsince.idle, hsince.entered, fun h => hsince.stays (List.mem_append_left _ h)⟩
      have hlent := lent_after hnumbered hinitial
      have hexclusive := (kept_start _ _ _ _ hinitial).exclusive
      generalize hs : (start logs book channel).after (before ++ .enter i :: later) = s at *
      rw [after_append, hs, after_cons, after_nil]
      refine ⟨active_call hactive hc, hlent.taps_call hexclusive ?_ hactive htaps hc⟩
      rintro j rfl hoff
      subst hs
      rw [channel_after] at hoff ⊢
      exact not_held_of_not_break hbreak hoff

lemma samePlaces_after (book : ι → Nat) (hhas : ∀ j, logs.tree.Has (channel j))
    (calls : List (Call ι)) :
    logs.tree.SamePlaces ((start logs book channel).after calls).logs.tree := by
  induction calls using List.reverseRecOn with
  | nil => exact .refl _
  | append_singleton cs c ih =>
      rw [after_append, after_cons, after_nil]
      exact ih.trans (call_samePlaces _ c (by rw [channel_after]; exact ih.has.mpr (hhas _)))

/-- Without a break every logger is tapped by one active interceptor or as it was at first. -/
lemma shared_after (hnumbered : logs.Numbered) (hbreak : ¬ (start logs book channel).Break calls) :
    ((start logs book channel).after calls).Shared logs.tree.logger := by
  have hlent := lent_after hnumbered hbreak
  refine ⟨hlent.tapped, (kept_start _ _ _ calls hbreak).exclusive, fun name hheld => ?_⟩
  by_cases hname : ∃ j, channel j = name
  · obtain ⟨j, rfl⟩ := hname
    have hfree := hlent.free j (by rw [channel_after]; exact hheld)
    rwa [channel_after] at hfree
  · exact after_logger_of_ne _ fun j hj => hname ⟨j, hj⟩

end Unbroken

/-! ## The main result -/

/-- **Where a record of a captured channel goes.**  After calls without a break, an active
interceptor has entered at some time and not left since.  A record of progress or more that its
channel takes comes once into its book.  It comes once into the books of the active interceptors
above as well, unless its level is below the one that the channel had when the interceptor entered.
It comes into no other book. -/
theorem addsTo_of_active {logs : LogState} {book : ι → Nat} {channel : ι → Text}
    {calls : List (Call ι)} {i : ι} (hopen : logs.tree.Open) (hrooted : logs.tree.Rooted)
    (hnumbered : logs.Numbered) (hhas : ∀ j, logs.tree.Has (channel j))
    (hbreak : ¬ (start logs book channel).Break calls)
    (hbooks : ∀ j k, ((start logs book channel).after calls).Active j →
      ((start logs book channel).after calls).Active k → book j = book k → j = k)
    (hactive : ((start logs book channel).after calls).Active i) :
    ∃ before later, calls = before ++ .enter i :: later ∧
      (start logs book channel).Since before i later ∧
      ∀ r : LogRecord, r.logger = channel i → Level.info ≤ r.level →
        ((start logs book channel).after calls).logs.tree.effectiveLevel (channel i) ≤ r.level →
        ((start logs book channel).after calls).AddsTo r fun j =>
          j = i ∨ (channel j ∈ logs.tree.chain (channel i) ∧
            ((start logs book channel).after before).logs.tree.effectiveLevel (channel i) ≤
              r.level) := by
  obtain ⟨before, later, rfl, hsince⟩ := exists_since hactive
  refine ⟨before, later, rfl, hsince, fun r hlogger hinfo htakes => ?_⟩
  obtain ⟨-, htaps⟩ := taps_after hnumbered hbreak hsince
  have hshared := shared_after hnumbered hbreak
  have hplaces := samePlaces_after book hhas (before ++ .enter i :: later)
  have hchannel : ∀ j, ((start logs book channel).after (before ++ .enter i :: later)).channel j =
      channel j := channel_after _ _
  have hbook := after_book (start logs book channel) (before ++ .enter i :: later)
  generalize (start logs book channel).after (before ++ .enter i :: later) = s at *
  have hadds := hshared.addsTo hopen hrooted hplaces (i := i) (by rw [hchannel]; exact hhas i)
    hactive (fun j k hj hk e => hbooks j k hj hk (by rwa [hbook, hbook] at e))
    (by rw [hchannel]; exact htaps) (by rw [hchannel]; exact hlogger) hinfo
    (by rw [hchannel]; exact htakes)
  simpa only [hchannel] using hadds

/-! ### Two interceptors, one above the other -/

/-- A logger that takes warnings, below one that is not configured. -/
def storeLoggers : LogState where
  tree := (LogTree.initial.enroll "app").configure "app.store" ({ · with level := Level.warning })

/-- The logger above, then the one below. -/
def storeChannel (i : Fin 2) : Text := if i = 0 then "app" else "app.store"

/-- A record of the logger below. -/
def stored (level : Int) : LogRecord := ⟨"app.store", level, .text "stored", [], none⟩

/-- Loggers have a level at most. -/
lemma storeLoggers_logger (name : Text) :
    ∃ level, storeLoggers.tree.logger name = { level := level } := by
  have hlogger : storeLoggers.tree.logger name = if name = "app.store" then
      { level := Level.warning } else LogTree.initial.logger name := rfl
  rw [hlogger]
  unfold LogTree.initial
  dsimp only
  split_ifs <;> exact ⟨_, rfl⟩

lemma storeLoggers_open : storeLoggers.tree.Open := by
  constructor
  · decide
  all_goals
    intro name
    obtain ⟨level, hlevel⟩ := storeLoggers_logger name
    simp [hlevel]

/-- Progress in the store does not come into the book above: the interceptor of the store has found
its channel at warnings. -/
theorem not_addsTo_above :
    storeLoggers.tree.Open ∧
      (∀ i, ((start storeLoggers Fin.val storeChannel).after [.enter 0, .enter 1]).Active i) ∧
      ¬ ((start storeLoggers Fin.val storeChannel).after [.enter 0, .enter 1]).AddsTo
        (stored Level.info)
        (storeChannel · ∈ storeLoggers.tree.chain (stored Level.info).logger) := by
  refine ⟨storeLoggers_open, by decide, fun h => ?_⟩
  have habove := h.once 0 (by decide) (by decide)
  exact absurd habove (by decide)

/-- It comes into the book of the store only, and a warning comes into both. -/
theorem addsTo_stored :
    (((start storeLoggers Fin.val storeChannel).after [.enter 0, .enter 1]).AddsTo
        (stored Level.info) (· = 1)) ∧
      ((start storeLoggers Fin.val storeChannel).after [.enter 0, .enter 1]).AddsTo
        (stored Level.warning) fun _ => True := by
  have hrooted : storeLoggers.tree.Rooted :=
    (LogTree.rooted_initial.enroll "app").configure "app.store" ({ · with level := Level.warning })
  have hnumbered : storeLoggers.Numbered := by
    intro name n _
    obtain ⟨level, hlevel⟩ := storeLoggers_logger name
    rw [hlevel]
    exact ⟨by simp, by simp⟩
  have hbreak : ¬ (start storeLoggers Fin.val storeChannel).Break [.enter 0, .enter 1] := by
    rintro ⟨before, meanwhile, later, holder, stray, intruder, hcalls, -⟩
    have hleft : Call.leave stray ∈ [.enter 0, .enter 1] := hcalls ▸ by simp
    simp at hleft
  obtain ⟨before, later, hcalls, -, hadds⟩ :=
    addsTo_of_active (i := 1) storeLoggers_open hrooted hnumbered (by decide) hbreak
      (by decide) (by decide)
  obtain rfl : before = [.enter 0] := by
    rcases before with _ | ⟨c, _ | ⟨d, rest⟩⟩ <;> simp at hcalls
    rw [hcalls.1]
  have hinfo := hadds (stored Level.info) rfl (by decide) (by decide)
  have hwarning := hadds (stored Level.warning) rfl (by decide) (by decide)
  refine ⟨⟨fun i hi h => hinfo.once i hi (Or.inl h), fun id h => hinfo.others id fun i hi hk => ?_⟩,
    fun i hi _ => hwarning.once i hi ?_, fun id h => hwarning.others id fun i hi _ => h i hi trivial⟩
  · exact h i hi (hk.resolve_right fun hk => absurd hk.2 (by decide))
  · revert i
    decide

end Interceptors

end WatWorkbench
