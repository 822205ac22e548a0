import WatWorkbench.Proofs.Log.Ascent

/-!
# What a book hears from below its channel

A record that is written to a logger below a captured channel passes no filter of the channel, so it
can come into the book only by propagating as far as the handler.  A record of the channel itself
comes there or is diverted to the handler.  So each record comes into the book at most once, and
whether it does can be told from the tree as it was before the channel was captured.

* `LogRecord.Becomes` — the entry that a record is to become.
* `LogTree.Hears` — what has to be so for a record to come into the book; `LogTree.heard` — those of
  several records for which it is.
* `LogTree.effectiveLevel_tapped_eq_capped` — levels below the channel, which counts as progress.
* `LogTree.filter_deliveries_below` — when the handler gets a record from below.
* **`LogState.exists_gained`** — a book gets an entry for each record that it hears, and no other.
-/

namespace WatWorkbench

/-! ## Entries -/

namespace LogRecord

variable {r : LogRecord} {k : LogKind}

/-- The record asks for a kind, by the kind itself or by its name. -/
def AsksFor (r : LogRecord) (k : LogKind) : Prop :=
  r.kind = some (.kind k) ∨ r.kind = some (.text k.name)

structure Becomes (r : LogRecord) (e : LogEntry) : Prop where
  message : r.text? = some e.message
  asked : ∀ k, r.AsksFor k → e.kind = k
  level : (¬ ∃ k, r.AsksFor k) → e.kind = if Level.error ≤ r.level then .error else .info

lemma entryKind_of_asksFor (h : r.AsksFor k) : r.entryKind = k := by
  rcases h with h | h
  · simp [entryKind, h]
  · simp [entryKind, h, LogKind.ofName?_name]

lemma entryKind_of_not_asksFor (h : ¬ ∃ k, r.AsksFor k) :
    r.entryKind = if Level.error ≤ r.level then .error else .info := by
  unfold entryKind
  split
  · next k hk => exact absurd ⟨k, Or.inl hk⟩ h
  · next t ht =>
      cases hname : LogKind.ofName? t with
      | none => rfl
      | some k =>
          obtain rfl : k.name = t := by simpa using List.find?_some hname
          exact absurd ⟨k, Or.inr ht⟩ h
  · rfl

lemma entries_of_text {text : Text} (h : r.text? = some text) :
    r.entries = [⟨r.entryKind, text⟩] := by
  simp [entries, h]

lemma becomes_entry {text : Text} (h : r.text? = some text) :
    r.Becomes ⟨r.entryKind, text⟩ where
  message := h
  asked _ hk := entryKind_of_asksFor hk
  level := entryKind_of_not_asksFor

end LogRecord

/-! ## Loggers below a channel -/

namespace LogTree

variable {t : LogTree} {r : LogRecord} {channel : Text} {number book : Nat}

/-- Records propagate from a logger as far as the channel. -/
def Reaches (t : LogTree) (name channel : Text) : Prop := t.leads channel (t.chain name) = true

instance (t : LogTree) (name channel : Text) : Decidable (t.Reaches name channel) :=
  inferInstanceAs (Decidable (_ = true))

lemma reaches_self (t : LogTree) (channel : Text) : t.Reaches channel channel := by
  obtain ⟨above, habove⟩ := chain_eq_cons t channel
  simp [Reaches, habove, leads]

/-- The tree with the channel at its own level, but no higher than progress. -/
def capped (t : LogTree) (channel : Text) : LogTree where
  logger n :=
    if n = channel then
      { t.logger n with level := min Level.info (t.effectiveLevel channel) }
    else t.logger n
  places := t.places
  disabledUpTo := t.disabledUpTo

/-- A record has a level of progress or more, the logger that it is written to takes it, it propagates
as far as the channel, and it has a text. -/
structure Hears (t : LogTree) (channel : Text) (r : LogRecord) : Prop where
  progress : Level.info ≤ r.level
  enabled : (t.logger r.logger).disabled = false
  disabledUpTo : t.disabledUpTo < r.level
  level : (t.capped channel).effectiveLevel r.logger ≤ r.level
  reaches : t.Reaches r.logger channel
  formats : r.text?.isSome = true

instance (t : LogTree) (channel : Text) (r : LogRecord) : Decidable (t.Hears channel r) :=
  decidable_of_iff
    (Level.info ≤ r.level ∧ (t.logger r.logger).disabled = false ∧ t.disabledUpTo < r.level ∧
      (t.capped channel).effectiveLevel r.logger ≤ r.level ∧ t.Reaches r.logger channel ∧
      r.text?.isSome = true)
    ⟨fun ⟨hp, he, hd, hl, hr, hf⟩ => ⟨hp, he, hd, hl, hr, hf⟩,
      fun ⟨hp, he, hd, hl, hr, hf⟩ => ⟨hp, he, hd, hl, hr, hf⟩⟩

/-- Those of several records that the book hears.  Each is written to a tree in which the loggers of
those before it are. -/
def heard (t : LogTree) (channel : Text) : List LogRecord → List LogRecord
  | [] => []
  | r :: rs =>
    if t.Hears channel r then r :: (t.enroll r.logger).heard channel rs
    else (t.enroll r.logger).heard channel rs

/-! ### Levels -/

/-- Along a chain of names, levels that are set below the channel come first. -/
lemma levelAlong_congr_append {t' : LogTree} {below above : List Text}
    (hbelow : ∀ n ∈ below, (t'.logger n).level = (t.logger n).level)
    (habove : t'.levelAlong above = t.levelAlong above) :
    t'.levelAlong (below ++ above) = t.levelAlong (below ++ above) := by
  induction below with
  | nil => exact habove
  | cons n below ih =>
      rw [List.cons_append, levelAlong, levelAlong, hbelow n List.mem_cons_self,
        ih fun m hm => hbelow m (List.mem_cons_of_mem _ hm)]

lemma samePlaces_capped (t : LogTree) (channel : Text) : SamePlaces t (t.capped channel) :=
  ⟨rfl, rfl⟩

/-- The channel itself has that level in the tree. -/
lemma levelAlong_capped {above : List Text} (hchain : t.chain channel = channel :: above)
    (hnotMem : channel ∉ above) :
    (t.capped channel).levelAlong (channel :: above) =
      min Level.info (t.effectiveLevel channel) := by
  have hself : ((t.capped channel).logger channel).level =
      min Level.info (t.effectiveLevel channel) := by
    simp [capped]
  by_cases hzero : t.effectiveLevel channel = 0
  · have hmin : min Level.info (t.effectiveLevel channel) = 0 := by
      rw [hzero]
      rfl
    -- neither the channel nor a logger above it has a level
    have habove : t.levelAlong above = 0 := by
      rw [effectiveLevel, hchain, levelAlong] at hzero
      split_ifs at hzero with hset
      · exact absurd hzero hset
      · exact hzero
    rw [levelAlong, hself, hmin, if_neg (by simp), ← habove]
    refine levelAlong_congr fun n hn => ?_
    have hne : n ≠ channel := fun e => hnotMem (e ▸ hn)
    simp [capped, hne]
  · have hset : min Level.info (t.effectiveLevel channel) ≠ 0 := by
      have hinfo : Level.info = 20 := rfl
      omega
    rw [levelAlong, hself, if_pos hset]

/-- **Levels below a tapped channel** are what they were with the channel at progress. -/
lemma effectiveLevel_tapped_eq_capped (hrooted : t.Rooted) (hhas : t.Has channel) (name : Text) :
    (t.tapped channel number book).effectiveLevel name = (t.capped channel).effectiveLevel name := by
  have hsame : SamePlaces t (t.tapped channel number book) := samePlaces_configure hhas _
  have hother {n : Text} (hn : n ≠ channel) :
      ((t.tapped channel number book).logger n).level = ((t.capped channel).logger n).level := by
    rw [tapped_logger_of_ne hn]
    simp [capped, hn]
  rw [effectiveLevel, effectiveLevel, hsame.chain, (samePlaces_capped t channel).chain]
  by_cases hmem : channel ∈ t.chain name
  · obtain ⟨below, above, hsplit⟩ := List.append_of_mem hmem
    have hup : t.chain channel = channel :: above := hrooted.chain_of_mem hhas hsplit
    have hnodup := hrooted.nodup_chain name
    rw [hsplit] at hnodup
    have hdisjoint := List.nodup_append.mp hnodup
    rw [hsplit]
    refine levelAlong_congr_append (fun n hn => hother ?_) ?_
    · exact hdisjoint.2.2 n hn channel List.mem_cons_self
    · rw [levelAlong_capped hup (List.nodup_cons.mp hdisjoint.2.1).1, ← effectiveLevel_tapped,
        effectiveLevel, hsame.chain, hup]
  · exact levelAlong_congr fun n hn => hother fun e => hmem (e ▸ hn)

/-! ### Deliveries -/

section Delivered

variable (hrooted : t.Rooted) (hhas : t.Has channel) (hignores : t.Ignores book)
  (hfilters : (t.logger r.logger).filters = [])

include hhas in
lemma handlersAlong_chain_tapped (number : Nat) (hignores : t.Ignores book) (hrooted : t.Rooted)
    (name : Text) :
    ((t.tapped channel number book).handlersAlong
        ((t.tapped channel number book).chain name)).filter (·.sink = .book book) =
      if t.Reaches name channel then [⟨number, Level.info, .book book⟩] else [] := by
  have hchain : (t.tapped channel number book).chain name = t.chain name :=
    (samePlaces_configure hhas _).chain name
  rw [hchain, filter_handlersAlong_tapped hignores (hrooted.nodup_chain name)]
  rfl

include hrooted hhas hignores hfilters in
/-- **The handler of a tapped channel** gets a record once that is written to the channel or below,
if its logger takes it, it has a level of progress or more and it propagates as far as the channel. -/
theorem filter_deliveries_below (number : Nat) :
    ((t.tapped channel number book).deliveries r).filter (·.sink = .book book) =
      if Level.info ≤ r.level ∧ (t.tapped channel number book).isEnabled r.logger r.level = true ∧
          t.Reaches r.logger channel
        then [⟨number, Level.info, .book book⟩] else [] := by
  by_cases henabled : (t.tapped channel number book).isEnabled r.logger r.level = true
  · by_cases hself : r.logger = channel
    · -- the filter of the interceptor may divert a record of the channel
      have hreaches : t.Reaches r.logger channel := hself ▸ reaches_self t channel
      by_cases hlevel : Level.info ≤ r.level
      · have hpasses : (screen r (t.logger channel).filters).2 = true := by
          rw [← hself, hfilters]
          rfl
        rw [if_pos ⟨hlevel, henabled, hreaches⟩]
        exact filter_deliveries_tapped_of_isEnabled hignores hself hrooted hlevel henabled hpasses
      · rw [if_neg fun h => hlevel h.1]
        exact filter_deliveries_tapped_of_lt hignores hself (Int.not_le.mp hlevel)
    · -- a record from below meets no filter
      have halong := handlersAlong_chain_tapped hhas number hignores hrooted r.logger
      simp only [deliveries, henabled, tapped_logger_of_ne hself, hfilters, screen, Bool.not_true,
        Bool.false_eq_true, if_false, true_and]
      generalize (t.tapped channel number book).handlersAlong
        ((t.tapped channel number book).chain r.logger) = found at halong
      rw [List.filter_filter]
      simp only [Bool.and_comm]
      rw [← List.filter_filter]
      cases found with
      | nil =>
          have hreaches : ¬ t.Reaches r.logger channel := fun h => by simp [h] at halong
          simp [hreaches, lastResort]
      | cons k found =>
          simp only [List.isEmpty_cons, Bool.false_eq_true, if_false, halong]
          by_cases hreaches : t.Reaches r.logger channel
          · by_cases hlevel : Level.info ≤ r.level <;> simp [hreaches, hlevel]
          · simp [hreaches]
  · rw [if_neg fun h => henabled h.2.1, deliveries]
    simp [henabled]

include hrooted hhas in
lemma isEnabled_tapped_iff (r : LogRecord) (number book : Nat) :
    (t.tapped channel number book).isEnabled r.logger r.level = true ↔
      (t.logger r.logger).disabled = false ∧ t.disabledUpTo < r.level ∧
        (t.capped channel).effectiveLevel r.logger ≤ r.level := by
  have hdisabled : ((t.tapped channel number book).logger r.logger).disabled =
      (t.logger r.logger).disabled := by
    by_cases hself : r.logger = channel
    · rw [hself, tapped_logger_self, Logger.tapped_disabled]
    · rw [tapped_logger_of_ne hself]
  simp [isEnabled, hdisabled, tapped_disabledUpTo,
    effectiveLevel_tapped_eq_capped hrooted hhas, and_assoc]

include hrooted hhas hignores hfilters in
/-- What the book gets of one record. -/
lemma flatMap_deliveries_below :
    (((t.tapped channel number book).deliveries r).filter (·.sink = .book book)).flatMap
        (fun _ => r.entries) = if t.Hears channel r then r.entries else [] := by
  have hdelivered := filter_deliveries_below hrooted hhas hignores hfilters number
  have henabled := isEnabled_tapped_iff hrooted hhas r number book
  by_cases hhears : t.Hears channel r
  · have htaken := henabled.mpr ⟨hhears.enabled, hhears.disabledUpTo, hhears.level⟩
    rw [hdelivered, if_pos ⟨hhears.progress, htaken, hhears.reaches⟩, if_pos hhears]
    simp
  · rw [if_neg hhears]
    cases htext : r.text? with
    | none => simp [LogRecord.entries, htext]
    | some text =>
        rw [hdelivered, if_neg]
        · rfl
        · rintro ⟨hprogress, htaken, hreaches⟩
          obtain ⟨hon, hdisabledUpTo, hlevel⟩ := henabled.mp htaken
          exact hhears ⟨hprogress, hon, hdisabledUpTo, hlevel, hreaches, by rw [htext]; rfl⟩

end Delivered

lemma threshold?_congr {t' : LogTree} (hlogger : t'.logger = t.logger)
    (hchain : t'.chain channel = t.chain channel) : t'.threshold? channel = t.threshold? channel := by
  have hlevel : t'.effectiveLevel channel = t.effectiveLevel channel := by
    rw [effectiveLevel, effectiveLevel, hchain]
    exact levelAlong_congr fun n _ => by rw [hlogger]
  rw [threshold?, threshold?, hlevel]

/-- Tapping a channel brings it into the tree. -/
lemma tapped_enroll_self :
    (t.enroll channel).tapped channel number book = t.tapped channel number book := by
  have hthreshold := threshold?_congr (enroll_logger t channel) (chain_enroll t channel)
  simp only [tapped, configure, enroll_of_has (has_enroll t channel), hthreshold, enroll_logger]

/-- A logger that comes below a tapped channel comes below the channel. -/
lemma tapped_enroll (hrooted : t.Rooted) (hhas : t.Has channel) {name : Text}
    (hbelow : IsBelow name channel) :
    (t.tapped channel number book).enroll name = (t.enroll name).tapped channel number book := by
  have hthreshold := threshold?_congr (enroll_logger t name)
    (hrooted.chain_enroll_of_isBelow hhas hbelow)
  have hbefore : SamePlaces (t.enroll name) ((t.tapped channel number book).enroll name) :=
    (samePlaces_configure hhas _).enroll name
  have hafter : SamePlaces (t.enroll name) ((t.enroll name).tapped channel number book) :=
    samePlaces_configure (hhas.enroll name) _
  have hsame : SamePlaces ((t.enroll name).tapped channel number book)
      ((t.tapped channel number book).enroll name) :=
    ⟨hbefore.places.trans hafter.places.symm, hbefore.disabledUpTo.trans hafter.disabledUpTo.symm⟩
  refine hsame.eq (funext fun n => ?_)
  rw [enroll_logger]
  by_cases hn : n = channel
  · rw [hn, tapped_logger_self, tapped_logger_self, hthreshold, enroll_logger]
  · rw [tapped_logger_of_ne hn, tapped_logger_of_ne hn, enroll_logger]

end LogTree

/-! ## Several records -/

namespace LogState

variable {s t : LogState} {channel : Text} {book : Nat} {rs : List LogRecord}

/-- While a channel is captured, its book gets what it hears. -/
lemma writtenAll_heard {tree : LogTree} {number : Nat} (hrooted : tree.Rooted)
    (hhas : tree.Has channel) (hignores : tree.Ignores book)
    (hfilters : ∀ name, LogTree.IsBelow name channel → (tree.logger name).filters = [])
    (hbelow : ∀ r ∈ rs, LogTree.IsBelow r.logger channel)
    (htree : s.tree = tree.tapped channel number book) :
    ((s.writtenAll rs).books book).entries =
      (s.books book).entries ++ (tree.heard channel rs).flatMap LogRecord.entries := by
  induction rs generalizing s tree with
  | nil => exact (List.append_nil _).symm
  | cons r rs ih =>
      have hr := hbelow r List.mem_cons_self
      have hwritten : ((s.write r).2.books book).entries =
          (s.books book).entries ++ if tree.Hears channel r then r.entries else [] := by
        rw [write_books, htree,
          LogTree.flatMap_deliveries_below hrooted hhas hignores (hfilters _ hr)]
      have hgrown : (s.write r).2.tree = (tree.enroll r.logger).tapped channel number book := by
        rw [write_tree, htree, LogTree.tapped_enroll hrooted hhas hr]
      have hrest := ih (s := (s.write r).2) (hrooted.enroll r.logger) (hhas.enroll r.logger)
        (hignores.enroll r.logger)
        (fun name hname => by rw [LogTree.enroll_logger]; exact hfilters name hname)
        (fun r' hr' => hbelow r' (List.mem_cons_of_mem _ hr')) hgrown
      have hall : s.writtenAll (r :: rs) = (s.write r).2.writtenAll rs := rfl
      rw [hall, hrest, hwritten, LogTree.heard]
      split_ifs <;> simp

lemma mem_heard {tree : LogTree} {r : LogRecord} (h : r ∈ tree.heard channel rs) :
    r.text?.isSome = true := by
  induction rs generalizing tree with
  | nil => simp [LogTree.heard] at h
  | cons r' rs ih =>
      rw [LogTree.heard] at h
      split_ifs at h with hhears
      · rcases List.mem_cons.mp h with rfl | h
        · exact hhears.formats
        · exact ih h
      · exact ih h

lemma forall₂_becomes (h : ∀ r ∈ rs, r.text?.isSome = true) :
    List.Forall₂ LogRecord.Becomes rs (rs.flatMap LogRecord.entries) := by
  induction rs with
  | nil => exact .nil
  | cons r rs ih =>
      obtain ⟨text, htext⟩ := Option.isSome_iff_exists.mp (h r List.mem_cons_self)
      rw [List.flatMap_cons, LogRecord.entries_of_text htext]
      exact .cons (LogRecord.becomes_entry htext) (ih fun r' hr' => h r' (List.mem_cons_of_mem _ hr'))

/-- **What a book gets.**  While an interceptor captures a channel and nothing is configured, records
that are written to the channel and to loggers below it become entries of the book if it hears them,
each once and in this order.  The others add nothing, and none of the calls fails. -/
theorem exists_gained {i : Interceptor} (hrooted : s.tree.Rooted)
    (hentered : ({ book, channel } : Interceptor).enter s = .ok (i, t))
    (hignores : s.tree.Ignores book)
    (hfilters : ∀ name, LogTree.IsBelow name channel → (s.tree.logger name).filters = [])
    (hbelow : ∀ r ∈ rs, LogTree.IsBelow r.logger channel) :
    (∀ before r, before ++ [r] <+: rs → ((t.writtenAll before).write r).1 = .ok ()) ∧
      ∃ gained, ((t.writtenAll rs).books book).entries = (t.books book).entries ++ gained ∧
        List.Forall₂ LogRecord.Becomes ((s.tree.enroll channel).heard channel rs) gained := by
  refine ⟨fun before r _ => write_fst _ _, ?_⟩
  have hfree : channel ∉ s.captured := by
    intro hmem
    simp [Interceptor.enter, hmem] at hentered
  rw [enter_eq_tapped hfree] at hentered
  obtain ⟨-, rfl⟩ := Prod.mk.inj (Except.ok.inj hentered)
  refine ⟨_, writtenAll_heard (hrooted.enroll channel) (LogTree.has_enroll _ _)
    (hignores.enroll channel)
    (fun name hname => by rw [LogTree.enroll_logger]; exact hfilters name hname) hbelow
    LogTree.tapped_enroll_self.symm, ?_⟩
  exact forall₂_becomes fun r hr => mem_heard hr

/-! ### A shop -/

/-- A logger with two below it, of which one takes warnings and the other keeps records to itself. -/
def shopLoggers : LogState where
  tree :=
    ((LogTree.initial.enroll "shop").configure "shop.stock"
      ({ · with level := Level.warning })).configure "shop.till" ({ · with propagate := false })

/-- The logger above begins, the one that takes warnings gets something below them and something
between them and errors, and there are a record that does not propagate and one without a text. -/
def shopRecords : List LogRecord :=
  [⟨"shop", Level.info, .text "open", [], none⟩,
    ⟨"shop.stock", Level.info, .text "counted", [], none⟩,
    ⟨"shop.stock", 35, .text "%s left", [.text "two"], some (.text "success")⟩,
    ⟨"shop.till", Level.error, .text "stuck", [], none⟩,
    ⟨"shop", Level.error, .text "%d left", [.text "two"], none⟩,
    ⟨"shop.door", Level.critical, .text "closed", [], some (.text "finally")⟩]

lemma shopLoggers_logger (name : Text) : ∃ level propagate,
    shopLoggers.tree.logger name = { level := level, propagate := propagate } := by
  have hlogger : shopLoggers.tree.logger name = if name = "shop.till" then { propagate := false }
      else if name = "shop.stock" then { level := Level.warning }
      else LogTree.initial.logger name := rfl
  rw [hlogger]
  unfold LogTree.initial
  dsimp only
  split_ifs <;> exact ⟨_, _, rfl⟩

/-- Three of them come into the book. -/
theorem exists_gained_shop : ∃ i t,
    ({ book := 0, channel := "shop" } : Interceptor).enter shopLoggers = .ok (i, t) ∧
      ∃ gained, ((t.writtenAll shopRecords).books 0).entries = gained ∧
        List.Forall₂ LogRecord.Becomes
          [⟨"shop", Level.info, .text "open", [], none⟩,
            ⟨"shop.stock", 35, .text "%s left", [.text "two"], some (.text "success")⟩,
            ⟨"shop.door", Level.critical, .text "closed", [], some (.text "finally")⟩] gained := by
  have hentered : ({ book := 0, channel := "shop" } : Interceptor).enter shopLoggers =
      .ok (shopLoggers.tap "shop" 0, shopLoggers.tapped "shop" 0) :=
    enter_eq_tapped List.not_mem_nil
  have hrooted : shopLoggers.tree.Rooted :=
    ((LogTree.rooted_initial.enroll "shop").configure "shop.stock"
      ({ · with level := Level.warning })).configure "shop.till" ({ · with propagate := false })
  have hignores : shopLoggers.tree.Ignores 0 := by
    constructor <;> intro name <;> obtain ⟨level, propagate, hlogger⟩ := shopLoggers_logger name <;>
      simp [hlogger]
  have hfilters (name : Text) (_ : LogTree.IsBelow name "shop") :
      (shopLoggers.tree.logger name).filters = [] := by
    obtain ⟨level, propagate, hlogger⟩ := shopLoggers_logger name
    rw [hlogger]
  have hbelow : ∀ r ∈ shopRecords, LogTree.IsBelow r.logger "shop" := by decide
  obtain ⟨-, gained, hgained, hbecomes⟩ :=
    exists_gained hrooted hentered hignores hfilters hbelow
  have hheard : (shopLoggers.tree.enroll "shop").heard "shop" shopRecords =
      [⟨"shop", Level.info, .text "open", [], none⟩,
        ⟨"shop.stock", 35, .text "%s left", [.text "two"], some (.text "success")⟩,
        ⟨"shop.door", Level.critical, .text "closed", [], some (.text "finally")⟩] := by
    rfl
  rw [hheard] at hbecomes
  exact ⟨_, _, hentered, gained, hgained, hbecomes⟩

end LogState

end WatWorkbench
