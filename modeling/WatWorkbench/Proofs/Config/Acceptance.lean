import WatWorkbench.Proofs.Config.Loading
import WatWorkbench.Proofs.Yaml.Keys

/-!
# Which settings a document gives

The settings of a document are described by what its mapping holds, with no regard to the order of
its keys or to which of two spellings a key has.

* `Settings.Admissible` — the keys are spellings of fields, and no field is given under two of them.
* `Settings.Accepts` — the settings that a mapping gives.
* `Settings.ofEntries_eq_ok_iff` — these are the settings that are read from it.
* `Settings.Rewritten` — a mapping with its keys in another order and in other spellings.
* **`Settings.parse_iff`** — which settings a document gives, when it is refused, and what makes no
  difference.
-/

namespace WatWorkbench

variable {M : List (Value × Value)}

/-! ## Entries -/

namespace Value

variable {k v w : Value} {name : Text}

lemma same_text_iff : k.same (.text name) = true ↔ k = .text name := by
  cases k <;> simp [same, sameAtom]

/-- The keys of two entries are not the same text. -/
def Apart (a b : Value × Value) : Prop := ∀ name, a.1 = .text name → b.1 ≠ .text name

instance : Std.Symm Apart where
  symm _ _ h name hb ha := h name ha hb

/-- No text is the key of two entries. -/
def Single (M : List (Value × Value)) : Prop := M.Pairwise Apart

lemma Single.eq (h : Single M) (hv : (.text name, v) ∈ M) (hw : (.text name, w) ∈ M) : v = w := by
  by_contra hne
  exact h.forall hv hw (by simpa using hne) name rfl rfl

lemma Single.perm {M' : List (Value × Value)} (h : Single M) (hperm : M.Perm M') : Single M' :=
  (hperm.pairwise_iff fun hab => symm hab).mp h

lemma single_cons : Single ((.text name, v) :: M) ↔ .text name ∉ M.map (·.1) ∧ Single M := by
  rw [Single, List.pairwise_cons, List.mem_map]
  refine and_congr_left fun _ => ⟨?_, ?_⟩
  · rintro h ⟨e, he, hkey⟩
    exact h e he name rfl hkey
  · rintro h e he _ ⟨⟩ hkey
    exact h ⟨e, he, hkey⟩

lemma single_of_distinct (h : Yaml.Distinct M) : Single M := by
  refine h.imp fun {a b} hkeys name ha hb => ?_
  rw [hb, same_text_iff.mpr ha] at hkeys
  cases hkeys

lemma lookup?_eq_none : lookup? (.text name) M = none ↔ ∀ v, (.text name, v) ∉ M := by
  induction M with
  | nil => simp [lookup?]
  | cons e M ih =>
      obtain ⟨k, w⟩ := e
      rw [lookup?]
      split_ifs with hsame
      · obtain rfl := same_text_iff.mp hsame
        simp only [false_iff, not_forall, not_not]
        exact ⟨w, List.mem_cons_self⟩
      · have hne : Value.text name ≠ k := fun h => hsame (same_text_iff.mpr h.symm)
        simp [ih, hne]

lemma mem_of_lookup? (h : lookup? (.text name) M = some v) : (.text name, v) ∈ M := by
  induction M with
  | nil => cases h
  | cons e M ih =>
      obtain ⟨k, w⟩ := e
      rw [lookup?] at h
      split_ifs at h with hsame
      · obtain rfl := same_text_iff.mp hsame
        obtain rfl := Option.some.inj h
        exact List.mem_cons_self
      · exact List.mem_cons_of_mem _ (ih h)

end Value

open Value

namespace Settings

open Violation (Cause)

section Fields

variable {names names' : List Text} {a b : Text} {v : Value} {rest : List (Value × Value)}

/-- A field with some spellings is given a value. -/
def Given (M : List (Value × Value)) (names : List Text) (v : Value) : Prop :=
  ∃ name ∈ names, (.text name, v) ∈ M

/-- The keys of a mapping are spellings of fields, and no field is given under two of them. -/
structure Admissible (M : List (Value × Value)) : Prop where
  known : ∀ e ∈ M, ∃ names ∈ spellings, ∃ name ∈ names, e.1 = .text name
  once : ∀ names ∈ spellings, ∀ a ∈ names, ∀ b ∈ names,
    .text a ∈ M.map (·.1) → .text b ∈ M.map (·.1) → a = b

/-- What a field holds: what its value is converted to, or its default if none is given. -/
def Gives {α : Type} (M : List (Value × Value)) (names : List Text) (fallback : α)
    (convert : Value → Except Cause α) (content : α) : Prop :=
  (∀ v, ¬ Given M names v) ∧ content = fallback ∨ ∃ v, Given M names v ∧ convert v = .ok content

/-- The settings that a mapping gives. -/
structure Accepts (M : List (Value × Value)) (s : Settings) : Prop where
  admissible : Admissible M
  fuel : Gives M ["fuel"] ({} : Settings).fuel budget s.fuel
  archiveName : Gives M ["archive-name", "archive_name"] ({} : Settings).archiveName
    Convert.nonEmptyText s.archiveName
  outputDirectory : Gives M ["output-directory", "output_directory"]
    ({} : Settings).outputDirectory Convert.text s.outputDirectory

/-! ## Reading fields -/

lemma mem_spellings : (["fuel"] : List Text) ∈ spellings ∧
    (["archive-name", "archive_name"] : List Text) ∈ spellings ∧
    (["output-directory", "output_directory"] : List Text) ∈ spellings := by
  simp [spellings]

lemma eq_of_spelling (hnames : names ∈ spellings) (hnames' : names' ∈ spellings)
    (ha : a ∈ names) (ha' : a ∈ names') : names = names' := by
  have hdisjoint : ∀ names ∈ spellings, ∀ names' ∈ spellings, ∀ a ∈ names,
      a ∈ names' → names = names' := by
    decide +kernel
  exact hdisjoint names hnames names' hnames' a ha ha'

lemma not_hasSurrogate_of_spelling (hnames : names ∈ spellings) (ha : a ∈ names) :
    a.hasSurrogate = false := by
  have hplain : ∀ names ∈ spellings, ∀ a ∈ names, a.hasSurrogate = false := by
    decide +kernel
  exact hplain names hnames a ha

lemma field?_eq_none : Convert.field? M names = none ↔ ∀ v, ¬ Given M names v := by
  induction names with
  | nil => simp [Convert.field?, Given]
  | cons name names ih =>
      rw [Convert.field?]
      rcases hlookup : lookup? (.text name) M with _ | w
      · have hnone := lookup?_eq_none.mp hlookup
        simpa [Given, hnone] using ih
      · simp only [reduceCtorEq, false_iff, not_forall, not_not]
        exact ⟨w, name, List.mem_cons_self, mem_of_lookup? hlookup⟩

lemma of_field? (h : Convert.field? M names = some (a, v)) : a ∈ names ∧ (.text a, v) ∈ M := by
  induction names with
  | nil => cases h
  | cons name names ih =>
      rw [Convert.field?] at h
      rcases hlookup : lookup? (.text name) M with _ | w <;> rw [hlookup] at h
      · exact (ih h).imp_left (List.mem_cons_of_mem _)
      · cases h
        exact ⟨List.mem_cons_self, mem_of_lookup? hlookup⟩

lemma mem_usedKeys : a ∈ usedKeys M ↔
    ∃ names ∈ spellings, ∃ v, Convert.field? M names = some (a, v) := by
  simp [usedKeys]

lemma unexpected_eq_none {used : List Text} {e : Value × Value} :
    unexpected used e = none ↔ ∃ name ∈ used, e.1 = .text name := by
  obtain ⟨k, v⟩ := e
  cases k <;> simp [unexpected]

/-- An admissible mapping has a value under each of its keys as a spelling of a field. -/
lemma Admissible.mem_usedKeys (h : Admissible M) {e : Value × Value} (he : e ∈ M) :
    ∃ name ∈ usedKeys M, e.1 = .text name := by
  obtain ⟨names, hnames, name, hname, hkey⟩ := h.known e he
  refine ⟨name, Settings.mem_usedKeys.mpr ⟨names, hnames, ?_⟩, hkey⟩
  have hmem : Value.text name ∈ M.map (·.1) := List.mem_map.mpr ⟨e, he, hkey⟩
  rcases hfield : Convert.field? M names with _ | ⟨name', v⟩
  · exact absurd ⟨name, hname, by rw [← hkey]; exact he⟩ (field?_eq_none.mp hfield e.2)
  · obtain ⟨hname', hv⟩ := of_field? hfield
    obtain rfl := h.once names hnames name' hname' name hname (List.mem_map_of_mem hv) hmem
    exact ⟨v, rfl⟩

/-- No entry is a violation by itself just if the mapping is admissible. -/
lemma extras_eq_nil : M.filterMap (unexpected (usedKeys M)) = [] ↔ Admissible M := by
  simp only [List.filterMap_eq_nil_iff, unexpected_eq_none]
  refine ⟨fun h => ⟨fun e he => ?_, ?_⟩, fun h e he => h.mem_usedKeys he⟩
  · obtain ⟨name, hused, hkey⟩ := h e he
    obtain ⟨names, hnames, v, hfield⟩ := mem_usedKeys.mp hused
    exact ⟨names, hnames, name, (of_field? hfield).1, hkey⟩
  · intro names hnames a ha b hb hkeya hkeyb
    -- Under each key of `names` that is there, the field with these spellings is read.
    have hread : ∀ c ∈ names, .text c ∈ M.map (·.1) →
        ∃ v, Convert.field? M names = some (c, v) := by
      intro c hc hkey
      obtain ⟨e, he, hec⟩ := List.mem_map.mp hkey
      obtain ⟨name, hused, hname⟩ := h e he
      obtain rfl := Value.text.inj (hec.symm.trans hname)
      obtain ⟨names', hnames', v, hfield⟩ := mem_usedKeys.mp hused
      obtain rfl := eq_of_spelling hnames hnames' hc (of_field? hfield).1
      exact ⟨v, hfield⟩
    obtain ⟨v, hfielda⟩ := hread a ha hkeya
    obtain ⟨w, hfieldb⟩ := hread b hb hkeyb
    rw [hfielda] at hfieldb
    exact congrArg Prod.fst (Option.some.inj hfieldb)

lemma optional_eq_ok {α : Type} {fallback content : α} {convert : Value → Except Cause α}
    (hsingle : Single M) (h : Admissible M) (hnames : names ∈ spellings) :
    Convert.optional M names fallback convert = .ok content ↔
      Gives M names fallback convert content := by
  rw [Convert.optional, Gives]
  rcases hfield : Convert.field? M names with _ | ⟨a, v⟩
  · have hnone := field?_eq_none.mp hfield
    simp [hnone, eq_comm]
  · obtain ⟨ha, hv⟩ := of_field? hfield
    have hgiven : ∀ w, Given M names w ↔ w = v := by
      refine fun w => ⟨?_, ?_⟩
      · rintro ⟨b, hb, hw⟩
        obtain rfl := h.once names hnames a ha b hb (List.mem_map_of_mem hv)
          (List.mem_map_of_mem hw)
        exact hsingle.eq hw hv
      · rintro rfl
        exact ⟨a, ha, hv⟩
    have hchecked : Convert.checked convert a v = .ok content ↔ convert v = .ok content := by
      rw [Convert.checked]
      rcases convert v with e | c <;> simp [Except.mapError]
    simp [hgiven, hchecked]

end Fields

section Entries

variable {s : Settings}

lemma both_eq_ok {α β : Type} {x : Convert.Check α} {y : Convert.Check β} {c : α × β} :
    Convert.both x y = .ok c ↔ x = .ok c.1 ∧ y = .ok c.2 := by
  rcases x with vs | a <;> rcases y with ws | b <;> simp [Convert.both, Prod.ext_iff]

lemma unreadableKey_eq_none (h : Admissible M) : unreadableKey M = none := by
  rw [unreadableKey, Option.map_eq_none_iff, List.find?_eq_none]
  rintro ⟨k, v⟩ he
  obtain ⟨names, hnames, name, hname, rfl⟩ := h.known _ he
  simp [not_hasSurrogate_of_spelling hnames hname]

/-- Settings are read if every field is and no entry is a violation by itself. -/
lemma ofEntries_eq_ok : ofEntries M = .ok s ↔
    unreadableKey M = none ∧
    Convert.optional M ["fuel"] ({} : Settings).fuel budget = .ok s.fuel ∧
    Convert.optional M ["archive-name", "archive_name"] ({} : Settings).archiveName
      Convert.nonEmptyText = .ok s.archiveName ∧
    Convert.optional M ["output-directory", "output_directory"] ({} : Settings).outputDirectory
      Convert.text = .ok s.outputDirectory ∧
    M.filterMap (unexpected (usedKeys M)) = [] := by
  constructor
  · intro h
    unfold ofEntries at h
    split at h
    · cases h
    · dsimp only at h
      split at h
      · next hkey _ _ _ _ hboth =>
        simp only [both_eq_ok] at hboth
        obtain ⟨⟨⟨hfuel, harchive⟩, houtput⟩, hextras⟩ := hboth
        cases h
        refine ⟨hkey, hfuel, harchive, houtput, ?_⟩
        split at hextras
        · assumption
        · cases hextras
      · cases h
  · rintro ⟨hkey, hfuel, harchive, houtput, hextras⟩
    simp only [ofEntries, hkey, hfuel, harchive, houtput, hextras, Convert.both]

/-- **The settings read from a mapping** are those that it gives. -/
theorem ofEntries_eq_ok_iff (hsingle : Single M) : ofEntries M = .ok s ↔ Accepts M s := by
  rw [ofEntries_eq_ok, extras_eq_nil]
  obtain ⟨hfuel, harchive, houtput⟩ := mem_spellings
  constructor
  · rintro ⟨-, hf, ha, ho, h⟩
    exact ⟨h, (optional_eq_ok hsingle h hfuel).mp hf, (optional_eq_ok hsingle h harchive).mp ha,
      (optional_eq_ok hsingle h houtput).mp ho⟩
  · rintro ⟨h, hf, ha, ho⟩
    exact ⟨unreadableKey_eq_none h, (optional_eq_ok hsingle h hfuel).mpr hf,
      (optional_eq_ok hsingle h harchive).mpr ha, (optional_eq_ok hsingle h houtput).mpr ho, h⟩

lemma pos_of_budget {v : Value} {n : Int} (h : budget v = .ok (some n)) : 0 < n := by
  have hpositive : Convert.positive v = .ok n := by
    unfold budget at h
    split at h
    · cases h
    · rcases hv : Convert.positive v with e | i <;> rw [hv] at h <;> cases h
      rfl
  obtain ⟨i, -, hi⟩ := Yaml.exists_of_bind hpositive
  split_ifs at hi with hsign <;> cases hi
  exact not_le.mp hsign

lemma nonEmpty_of_nonEmptyText {v : Value} {t : Text} (h : Convert.nonEmptyText v = .ok t) :
    t ≠ "" := by
  obtain ⟨t', -, ht⟩ := Yaml.exists_of_bind h
  cases hsurrogate : t'.hasSurrogate <;> cases hempty : t'.isEmpty <;>
    rw [hsurrogate, hempty] at ht <;> cases ht
  rintro rfl
  cases hempty

/-! ## Other spellings and orders -/

/-- A mapping with its keys in another order and in other spellings of their fields, which it did
not hold already. -/
inductive Rewritten (M : List (Value × Value)) : List (Value × Value) → Prop
  | refl : Rewritten M M
  | reorder {N N' : List (Value × Value)} : Rewritten M N → N.Perm N' → Rewritten M N'
  | respell {names : List Text} {a b : Text} {v : Value} {before after : List (Value × Value)} :
      Rewritten M (before ++ (.text a, v) :: after) →
      names ∈ spellings → a ∈ names → b ∈ names →
      .text b ∉ (before ++ (.text a, v) :: after).map (·.1) →
      Rewritten M (before ++ (.text b, v) :: after)

lemma Accepts.reorder {N : List (Value × Value)} (h : Accepts M s) (hperm : M.Perm N) :
    Accepts N s := by
  have hgiven : ∀ names v, Given N names v ↔ Given M names v := fun names v =>
    exists_congr fun name => and_congr_right fun _ => hperm.mem_iff.symm
  have hkeys : ∀ k, k ∈ N.map (·.1) ↔ k ∈ M.map (·.1) := fun k => (hperm.map _).mem_iff.symm
  obtain ⟨⟨hknown, honce⟩, hfuel, harchive, houtput⟩ := h
  refine ⟨⟨fun e he => hknown e (hperm.mem_iff.mpr he), ?_⟩, ?_, ?_, ?_⟩
  · simpa only [hkeys] using honce
  · simpa only [Gives, hgiven] using hfuel
  · simpa only [Gives, hgiven] using harchive
  · simpa only [Gives, hgiven] using houtput

section Respelling

variable {names names' : List Text} {a b : Text} {v w : Value} {rest : List (Value × Value)}

lemma given_cons : Given ((.text a, v) :: rest) names w ↔
    a ∈ names ∧ w = v ∨ Given rest names w := by
  simp only [Given, List.mem_cons, Prod.mk.injEq, Value.text.injEq]
  constructor
  · rintro ⟨name, hname, ⟨rfl, rfl⟩ | hmem⟩
    · exact .inl ⟨hname, rfl⟩
    · exact .inr ⟨name, hname, hmem⟩
  · rintro (⟨ha, rfl⟩ | ⟨name, hname, hmem⟩)
    · exact ⟨a, ha, .inl ⟨rfl, rfl⟩⟩
    · exact ⟨name, hname, .inr hmem⟩

/-- Two spellings of a field give their value to the same fields. -/
lemma given_respell (hnames : names ∈ spellings) (ha : a ∈ names) (hb : b ∈ names)
    (hnames' : names' ∈ spellings) :
    Given ((.text b, v) :: rest) names' w ↔ Given ((.text a, v) :: rest) names' w := by
  have hsame : b ∈ names' ↔ a ∈ names' := by
    constructor <;> intro h
    · obtain rfl := eq_of_spelling hnames hnames' hb h
      exact ha
    · obtain rfl := eq_of_spelling hnames hnames' ha h
      exact hb
  rw [given_cons, given_cons, hsame]

lemma Admissible.respell (h : Admissible ((.text a, v) :: rest)) (hnames : names ∈ spellings)
    (ha : a ∈ names) (hb : b ∈ names) (hrest : .text a ∉ rest.map (·.1)) :
    Admissible ((.text b, v) :: rest) := by
  -- A key besides `b` that spells the same field would have been there besides `a`.
  have hother : ∀ names' ∈ spellings, b ∈ names' → ∀ c ∈ names',
      .text c ∉ rest.map (·.1) := by
    intro names' hnames' hb' c hc hkey
    obtain rfl := eq_of_spelling hnames hnames' hb hb'
    obtain rfl := h.once names hnames a ha c hc List.mem_cons_self (List.mem_cons_of_mem _ hkey)
    exact hrest hkey
  refine ⟨fun e he => ?_, fun names' hnames' c hc d hd hkeyc hkeyd => ?_⟩
  · rcases List.mem_cons.mp he with rfl | he
    · exact ⟨names, hnames, b, hb, rfl⟩
    · exact h.known e (List.mem_cons_of_mem _ he)
  · simp only [List.map_cons, List.mem_cons, Value.text.injEq] at hkeyc hkeyd
    rcases hkeyc with rfl | hkeyc <;> rcases hkeyd with rfl | hkeyd
    · rfl
    · exact absurd hkeyd (hother names' hnames' hc d hd)
    · exact absurd hkeyc (hother names' hnames' hd c hc)
    · exact h.once names' hnames' c hc d hd (List.mem_cons_of_mem _ hkeyc)
        (List.mem_cons_of_mem _ hkeyd)

lemma Accepts.respell (h : Accepts ((.text a, v) :: rest) s) (hnames : names ∈ spellings)
    (ha : a ∈ names) (hb : b ∈ names) (hrest : .text a ∉ rest.map (·.1)) :
    Accepts ((.text b, v) :: rest) s := by
  obtain ⟨hfuel, harchive, houtput⟩ := mem_spellings
  refine ⟨h.admissible.respell hnames ha hb hrest, ?_, ?_, ?_⟩
  · simpa only [Gives, given_respell hnames ha hb hfuel] using h.fuel
  · simpa only [Gives, given_respell hnames ha hb harchive] using h.archiveName
  · simpa only [Gives, given_respell hnames ha hb houtput] using h.outputDirectory

end Respelling

/-- A mapping gives the same settings in whatever order and spellings. -/
theorem Rewritten.accepts_iff {N : List (Value × Value)} (h : Rewritten M N) (hsingle : Single M) :
    Single N ∧ ∀ s, Accepts N s ↔ Accepts M s := by
  induction h with
  | refl => exact ⟨hsingle, fun _ => Iff.rfl⟩
  | reorder _ hperm ih =>
      obtain ⟨hN, hiff⟩ := ih
      refine ⟨hN.perm hperm, fun s => Iff.trans ?_ (hiff s)⟩
      exact ⟨fun h => h.reorder hperm.symm, fun h => h.reorder hperm⟩
  | @respell names a b v before after _ hnames ha hb hfresh ih =>
      obtain ⟨hN, hiff⟩ := ih
      have hfirst : ∀ c, (before ++ (.text c, v) :: after).Perm ((.text c, v) :: (before ++ after)) :=
        fun c => List.perm_middle
      obtain ⟨hanew, hrest⟩ := single_cons.mp (hN.perm (hfirst a))
      have hbnew : Value.text b ∉ (before ++ after).map (·.1) := by
        simp only [List.map_append, List.map_cons, List.mem_append, List.mem_cons, not_or]
          at hfresh ⊢
        exact ⟨hfresh.1, hfresh.2.2⟩
      refine ⟨(single_cons.mpr ⟨hbnew, hrest⟩).perm (hfirst b).symm, fun s =>
        Iff.trans ⟨fun h => ?_, fun h => ?_⟩ (hiff s)⟩
      · exact ((h.reorder (hfirst b)).respell hnames hb ha hbnew).reorder (hfirst a).symm
      · exact ((h.reorder (hfirst a)).respell hnames ha hb hanew).reorder (hfirst b).symm

end Entries

/-! ## Documents -/

section Documents

variable {document label : Text} {s : Settings}

/-- What a document maps: a document with nothing maps nothing. -/
def Maps (document : Text) (M : List (Value × Value)) : Prop :=
  Yaml.load document = .ok (.dict M) ∨ Yaml.load document = .ok .null ∧ M = []

lemma Maps.single (h : Maps document M) : Single M := by
  rcases h with hload | ⟨-, rfl⟩
  · exact single_of_distinct (Yaml.distinct_of_load hload)
  · exact List.Pairwise.nil

lemma Maps.parse_eq (h : Maps document M) : parse document label =
    (ofEntries M).mapError fun report : Report =>
      .config ("Invalid config " ++ label ++ ": " ++ report.message) := by
  rcases h with hload | ⟨hload, rfl⟩ <;> rw [parse, hload] <;> rfl

lemma Maps.parse_eq_ok_iff (h : Maps document M) :
    parse document label = .ok s ↔ Accepts M s := by
  rw [h.parse_eq, ← ofEntries_eq_ok_iff h.single]
  rcases ofEntries M with report | s <;> simp [Except.mapError]

lemma Maps.config_of_not_accepts (h : Maps document M) (hnone : ∀ s, ¬ Accepts M s) :
    ∃ m, parse document label = .error (.config m) := by
  rw [h.parse_eq]
  rcases hentries : ofEntries M with report | s
  · exact ⟨_, rfl⟩
  · exact absurd ((ofEntries_eq_ok_iff h.single).mp hentries) (hnone s)

lemma Accepts.pos (h : Accepts M s) {n : Int} (hn : s.fuel = some n) : 0 < n := by
  rcases h.fuel with ⟨-, hfallback⟩ | ⟨v, -, hv⟩
  · cases hn.symm.trans hfallback
  · exact pos_of_budget (hn ▸ hv)

lemma Accepts.archiveName_ne (h : Accepts M s) : s.archiveName ≠ "" := by
  rcases h.archiveName with ⟨-, hfallback⟩ | ⟨v, -, hv⟩
  · rw [hfallback]
    decide
  · exact nonEmpty_of_nonEmptyText hv

lemma Gives.eq_fallback {α : Type} {names : List Text} {fallback content : α}
    {convert : Value → Except Cause α} (h : Gives M names fallback convert content)
    (hnone : ∀ v, ¬ Given M names v) : content = fallback := by
  rcases h with ⟨-, heq⟩ | ⟨v, hv, -⟩
  · exact heq
  · exact absurd hv (hnone v)

/-- **The settings of a document** that maps anything at all, or nothing.

* They are the ones that the mapping gives, and if it gives none the document is refused.
* Then all keys spell fields, no field is given under two spellings, the budget is positive, the
  archive has a name, and fields that are not given have their defaults.
* A document with other keys is refused.
* A document that maps the same in another order or in other spellings has the same settings. -/
theorem parse_iff (document label : Text) (h : Maps document M) :
    ((∀ s, parse document label = .ok s ↔ Accepts M s) ∧
      ((∀ s, ¬ Accepts M s) → ∃ m, parse document label = .error (.config m))) ∧
    (∀ s, parse document label = .ok s →
      Admissible M ∧ (∀ n, s.fuel = some n → 0 < n) ∧ s.archiveName ≠ "" ∧
      ((∀ v, ¬ Given M ["fuel"] v) → s.fuel = none) ∧
      ((∀ v, ¬ Given M ["archive-name", "archive_name"] v) → s.archiveName = "wasm-module.zip") ∧
      ((∀ v, ¬ Given M ["output-directory", "output_directory"] v) → s.outputDirectory = ".")) ∧
    (¬ Admissible M → ∃ m, parse document label = .error (.config m)) ∧
    (∀ N, Rewritten M N → ∀ document' label', Maps document' N →
      ∀ s, parse document' label' = .ok s ↔ parse document label = .ok s) := by
  refine ⟨⟨fun s => h.parse_eq_ok_iff, h.config_of_not_accepts⟩, fun s hs => ?_, ?_, ?_⟩
  · have haccepts := h.parse_eq_ok_iff.mp hs
    exact ⟨haccepts.admissible, fun n hn => haccepts.pos hn, haccepts.archiveName_ne,
      haccepts.fuel.eq_fallback, haccepts.archiveName.eq_fallback,
      haccepts.outputDirectory.eq_fallback⟩
  · intro hkeys
    exact h.config_of_not_accepts fun s haccepts => hkeys haccepts.admissible
  · intro N hrewritten document' label' h' s
    rw [h'.parse_eq_ok_iff, h.parse_eq_ok_iff]
    exact (hrewritten.accepts_iff h.single).2 s

lemma maps_pair {a b t : Text} {n : Int} (h : (match Yaml.load document with
    | .ok (.dict [(.text a', .int n'), (.text b', .text t')]) =>
      decide (a' = a ∧ n' = n ∧ b' = b ∧ t' = t)
    | _ => false) = true) : Maps document [(.text a, .int n), (.text b, .text t)] := by
  split at h
  · next hload =>
    obtain ⟨rfl, rfl, rfl, rfl⟩ := of_decide_eq_true h
    exact .inl hload
  · cases h

/-- A budget and the name of an archive, which may as well be spelled otherwise. -/
theorem parse_iff_pair :
    Maps "fuel: 5\narchive-name: a.zip\n"
      [(.text "fuel", .int 5), (.text "archive-name", .text "a.zip")] ∧
    parse "fuel: 5\narchive-name: a.zip\n" = .ok ⟨some 5, "a.zip", "."⟩ ∧
    parse "fuel: 5\narchive_name: a.zip\n" = .ok ⟨some 5, "a.zip", "."⟩ := by
  have hmaps : Maps "fuel: 5\narchive-name: a.zip\n"
      [(.text "fuel", .int 5), (.text "archive-name", .text "a.zip")] :=
    maps_pair (by decide +kernel)
  have hmaps' : Maps "fuel: 5\narchive_name: a.zip\n"
      [(.text "fuel", .int 5), (.text "archive_name", .text "a.zip")] :=
    maps_pair (by decide +kernel)
  obtain ⟨⟨haccepts, -⟩, -, -, hsame⟩ := parse_iff _ noLabel hmaps
  have hdistinct : (["output-directory", "output_directory", "archive_name", "archive-name",
      "fuel"] : List Text).Nodup := by
    decide
  simp only [List.nodup_cons, List.mem_cons, not_or] at hdistinct
  have hparse : parse "fuel: 5\narchive-name: a.zip\n" = .ok ⟨some 5, "a.zip", "."⟩ := by
    refine (haccepts _).mpr ⟨extras_eq_nil.mp (List.isEmpty_iff.mp (by decide +kernel)),
      .inr ⟨.int 5, ⟨"fuel", by simp⟩, rfl⟩,
      .inr ⟨.text "a.zip", ⟨"archive-name", by simp⟩, rfl⟩, .inl ⟨?_, rfl⟩⟩
    simp [Given, hdistinct]
  have hrewritten : Rewritten [(.text "fuel", .int 5), (.text "archive-name", .text "a.zip")]
      [(.text "fuel", .int 5), (.text "archive_name", .text "a.zip")] :=
    @Rewritten.respell _ _ _ _ _ [(.text "fuel", .int 5)] [] .refl mem_spellings.2.1
      (by simp) (by simp) (by simp [hdistinct])
  exact ⟨hmaps, hparse, (hsame _ hrewritten _ _ hmaps' _).mpr hparse⟩

end Documents

end Settings

end WatWorkbench
