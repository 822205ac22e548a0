import Mathlib.Tactic.Common
import WatWorkbench.Program.Invocation

/-!
# Switches that are noted

A switch that is only noted can stand in front of any command line: what follows it is read as it is
read without the switch, and the switch is noted in addition.  What has been noted before decides
nothing about what is read later, and reading takes fewer steps than it is given.

* `Reading.behind`, `Grammar.readPieces_behind` — what has been noted before.
* `Grammar.readPieces_succ` — a step more than there are pieces is enough.
* **`Suite.read_cons`** — a command line with such a switch in front.
* `Invocation.ofArguments_cons` — the switch that has details told.
-/

namespace WatWorkbench.CommandLine

variable {g : Grammar} {r : Reading} {pieces : List (Text × Piece)}
  {noted : List (Text × Option Argument)}

/-! ## What has been noted before -/

/-- What has been read when some switches had been noted before. -/
def Reading.behind (r : Reading) (noted : List (Text × Option Argument)) : Reading :=
  { r with switches := r.switches ++ noted }

lemma Reading.use_behind (r : Reading) (uses : List (Switch × Option Text)) :
    Reading.use (r.behind noted) uses = (Reading.use r uses).map (·.behind noted) := by
  induction uses generalizing r with
  | nil => rfl
  | cons used uses ih =>
      obtain ⟨s, t⟩ := used
      unfold Reading.use
      split
      · rfl
      · exact ih { r with switches := (s.key, none) :: r.switches }
      · next type _ =>
          rcases argument s (t.getD "") type with stop | a
          · rfl
          · exact ih { r with switches := (s.key, some a) :: r.switches }

/-- What belongs to nothing is left over. -/
def Reading.leaving (r : Reading) (ts : List Text) : Reading := { r with extras := r.extras ++ ts }

lemma Reading.leaving_behind (r : Reading) (ts : List Text) :
    (r.behind noted).leaving ts = (r.leaving ts).behind noted := rfl

/-- The argument that comes next, if one does. -/
def nextWord? : List (Text × Piece) → Option Text
  | (t, .word) :: _ => some t
  | _ => none

namespace Grammar

/-- A switch is read with those written together with it. -/
lemma readPieces_switch (fuel : Nat) (r : Reading) (t : Text) (w : WrittenSwitch)
    (rest : List (Text × Piece)) :
    g.readPieces (fuel + 1) r ((t, .switch w) :: rest) =
      (g.spread (nextWord? rest) ((w.attachment.map (·.text.length)).getD 0) w).bind fun s =>
        (Reading.use (r.leaving s.extras) s.uses).bind fun r =>
          g.readPieces fuel r (rest.drop s.taken) := by
  rcases rest with _ | ⟨⟨u, _ | _ | _ | _⟩, rest⟩ <;> rfl

/-- Where no switch comes next, the operand is read, and then what is left over up to the next
switch. -/
lemma readPieces_of_not_isSwitch (h : ∀ p ∈ pieces.head?, p.2.isSwitch = false) (fuel : Nat)
    (r : Reading) :
    g.readPieces (fuel + 1) r pieces =
      let read := g.readOperand r pieces
      if read.2.length < pieces.length && read.2.any (·.2.isSwitch) then
        g.readPieces fuel read.1 read.2
      else
        let words := read.2.takeWhile fun p => !p.2.isSwitch
        match read.2.drop words.length with
        | [] => .ok (read.1.leaving (words.map (·.1)))
        | rest => g.readPieces fuel (read.1.leaving (words.map (·.1))) rest := by
  rcases pieces with _ | ⟨⟨t, _ | _ | s | _⟩, rest⟩
  · rfl
  · rfl
  · rfl
  · simp [Piece.isSwitch] at h
  · simp [Piece.isSwitch] at h

lemma readOperand_behind (r : Reading) (rest : List (Text × Piece)) :
    g.readOperand (r.behind noted) rest =
      ((g.readOperand r rest).1.behind noted, (g.readOperand r rest).2) := by
  unfold readOperand
  have hsame : (r.behind noted).operands = r.operands := rfl
  rw [hsame]
  split
  · split <;> rfl
  · rfl

theorem readPieces_behind (fuel : Nat) (r : Reading) (pieces : List (Text × Piece)) :
    g.readPieces fuel (r.behind noted) pieces =
      (g.readPieces fuel r pieces).map (·.behind noted) := by
  induction fuel generalizing r pieces with
  | zero => rfl
  | succ fuel ih =>
      -- the end, a word and the mark after which there are no switches are read in one way
      have hwords (hhead : ∀ p ∈ pieces.head?, p.2.isSwitch = false) :
          g.readPieces (fuel + 1) (r.behind noted) pieces =
            (g.readPieces (fuel + 1) r pieces).map (·.behind noted) := by
        rw [readPieces_of_not_isSwitch hhead, readPieces_of_not_isSwitch hhead, readOperand_behind]
        rcases g.readOperand r pieces with ⟨r₁, rest⟩
        dsimp only
        split_ifs
        · exact ih r₁ rest
        · rw [Reading.leaving_behind]
          split
          · rfl
          · exact ih _ _
      rcases pieces with _ | ⟨⟨t, _ | _ | w | _⟩, rest⟩
      · exact hwords (by simp)
      · exact hwords (by simp [Piece.isSwitch])
      · exact hwords (by simp [Piece.isSwitch])
      · rw [readPieces_switch, readPieces_switch]
        rcases g.spread _ _ w with stop | s
        · rfl
        · simp only [Except.bind, Reading.leaving_behind, Reading.use_behind]
          rcases Reading.use (r.leaving s.extras) s.uses with stop | r₁
          · rfl
          · exact ih r₁ _
      · exact ih (r.leaving [t]) rest

/-! ## Steps -/

lemma readOperand_suffix (r : Reading) (pieces : List (Text × Piece)) :
    (g.readOperand r pieces).2 <:+ pieces := by
  unfold readOperand
  split
  · split
    · exact List.drop_suffix _ _
    · exact List.suffix_rfl
  · exact List.suffix_rfl

/-- Every step reads something. -/
lemma length_drop_words_lt {rest : List (Text × Piece)} (hsuffix : rest <:+ pieces)
    (hhead : ∀ p ∈ pieces.head?, p.2.isSwitch = false)
    (hstay : rest.any (·.2.isSwitch) = true → pieces.length ≤ rest.length) :
    let words := rest.takeWhile fun p => !p.2.isSwitch
    rest.drop words.length = [] ∨ (rest.drop words.length).length < pieces.length := by
  rcases rest with _ | ⟨p, rest⟩
  · exact .inl rfl
  · refine .inr ?_
    have hlength := hsuffix.length_le
    cases hp : p.2.isSwitch with
    | true =>
        have hall : p :: rest = pieces := hsuffix.eq_of_length_le (hstay (by simp [hp]))
        have hfirst := hhead p (by rw [← hall]; rfl)
        rw [hp] at hfirst
        cases hfirst
    | false =>
        rw [List.takeWhile_cons_of_pos (by simp [hp]), List.length_cons, List.length_drop]
        rw [List.length_cons] at hlength ⊢
        omega

theorem readPieces_succ (fuel : Nat) (r : Reading) (pieces : List (Text × Piece))
    (h : pieces.length < fuel) :
    g.readPieces (fuel + 1) r pieces = g.readPieces fuel r pieces := by
  induction fuel generalizing r pieces with
  | zero => omega
  | succ fuel ih =>
      have hwords (hhead : ∀ p ∈ pieces.head?, p.2.isSwitch = false) :
          g.readPieces (fuel + 2) r pieces = g.readPieces (fuel + 1) r pieces := by
        rw [readPieces_of_not_isSwitch hhead, readPieces_of_not_isSwitch hhead]
        have hsuffix := readOperand_suffix (g := g) r pieces
        generalize g.readOperand r pieces = read at hsuffix ⊢
        obtain ⟨r₁, rest⟩ := read
        dsimp only at hsuffix ⊢
        split_ifs with hswitch
        · refine ih r₁ rest ?_
          simp only [Bool.and_eq_true, decide_eq_true_eq] at hswitch
          omega
        · have hshort := length_drop_words_lt hsuffix hhead fun hany => by
            by_contra hlonger
            exact hswitch (by simp only [hany, Bool.and_true, decide_eq_true_eq]; omega)
          split
          · rfl
          · next hrest =>
              refine ih _ _ ?_
              rcases hshort with hnil | hshort
              · exact absurd hnil hrest
              · omega
      rcases pieces with _ | ⟨⟨t, _ | _ | w | _⟩, rest⟩
      · exact hwords (by simp)
      · exact hwords (by simp [Piece.isSwitch])
      · exact hwords (by simp [Piece.isSwitch])
      · rw [readPieces_switch, readPieces_switch]
        rcases g.spread _ _ w with stop | s
        · rfl
        · simp only [Except.bind]
          rcases Reading.use (r.leaving s.extras) s.uses with stop | r₁
          · rfl
          · refine ih r₁ _ ?_
            rw [List.length_drop]
            rw [List.length_cons] at h
            omega
      · refine ih (r.leaving [t]) rest ?_
        rw [List.length_cons] at h
        omega

/-! ## A switch in front -/

variable {s : Switch} {t : Text}

lemma spread_of_note (hnote : s.effect = .note) (next : Option Text) (n : Nat) (t : Text) :
    g.spread next n ⟨s, t, none⟩ = .ok { uses := [(s, none)] } := by
  have htakes : s.takesArgument = false := by rw [Switch.takesArgument, hnote]
  unfold spread
  simp only [htakes]

lemma readPieces_note (hnote : s.effect = .note) (fuel : Nat) :
    g.readPieces (fuel + 1) {} ((t, .switch ⟨s, t, none⟩) :: pieces) =
      (g.readPieces fuel {} pieces).map (·.behind [(s.key, none)]) := by
  have huse : Reading.use {} [(s, none)] = .ok (Reading.behind {} [(s.key, none)]) := by
    unfold Reading.use
    rw [hnote]
    rfl
  have hleft : ({} : Reading).leaving [] = {} := rfl
  rw [readPieces_switch, spread_of_note hnote, Except.bind, hleft, huse, Except.bind, List.drop_zero,
    readPieces_behind]

/-- A switch in front that is only noted. -/
theorem read_cons (hdashes : t ≠ "--") (hswitch : g.classify t = .ok (.switch ⟨s, t, none⟩))
    (hnote : s.effect = .note) (strings : List Text) :
    g.read (t :: strings) = (g.read strings).map (·.behind [(s.key, none)]) := by
  rw [read, read, classifyAll, if_neg hdashes, hswitch]
  rcases g.classifyAll strings with stop | pieces
  · rfl
  · have hsteps : 2 * (pieces.length + 1) + 1 = 2 * pieces.length + 1 + 1 + 1 := by omega
    dsimp only [bind, Except.bind, pure, Except.pure]
    rw [List.length_cons, hsteps, readPieces_note hnote, readPieces_succ _ _ _ (by omega)]
    rcases g.readPieces (2 * pieces.length + 1) {} pieces with stop | r
    · rfl
    · have hrequire : g.require (r.behind [(s.key, none)]) = g.require r := rfl
      dsimp only [Except.map]
      rw [hrequire]
      rcases g.require r <;> rfl

end Grammar

/-! ## Suites -/

/-- What has been read of a command line when some switches had been noted before. -/
def Parsed.behind (p : Parsed) (noted : List (Text × Option Argument)) : Parsed :=
  { p with suite := p.suite.behind noted }

/-- **A command line with a switch in front** that is only noted is read as without it. -/
theorem Suite.read_cons {suite : Suite} {s : Switch} {t : Text} (hdashes : t ≠ "--")
    (hswitch : suite.grammar.classify t = .ok (.switch ⟨s, t, none⟩)) (hnote : s.effect = .note)
    (strings : List Text) :
    suite.read (t :: strings) = (suite.read strings).map (·.behind [(s.key, none)]) := by
  rw [read, read, Grammar.read_cons hdashes hswitch hnote]
  rcases suite.grammar.read strings with stop | r
  · rfl
  · dsimp only [Except.map, Except.mapError, bind, Except.bind, pure, Except.pure]
    have hoperands : (r.behind [(s.key, none)]).operands = r.operands := rfl
    have hextras : (r.behind [(s.key, none)]).extras = r.extras := rfl
    rw [hoperands, hextras]
    rcases r.operands.getD [] with _ | ⟨name, rest⟩
    · dsimp only
      split_ifs <;> rfl
    · dsimp only
      rcases suite.find name with stop | c
      · rfl
      · dsimp only
        rcases c.grammar.read rest with stop | arguments
        · rfl
        · dsimp only
          split_ifs <;> rfl

end WatWorkbench.CommandLine

namespace WatWorkbench.Invocation

open CommandLine

/-- The names of the switch that has details told. -/
def verboseNames : List Text := ["-v", "--verbose"]

lemma classify_verbose {flag : Text} (h : flag ∈ verboseNames) :
    flag ≠ "--" ∧ ∃ s : Switch, suite.grammar.classify flag = .ok (.switch ⟨s, flag, none⟩) ∧
      s.effect = .note ∧ s.key = "verbose" := by
  simp only [verboseNames, List.mem_cons, List.not_mem_nil, or_false] at h
  rcases h with rfl | rfl
  · exact ⟨by decide, _, rfl, rfl, rfl⟩
  · exact ⟨by decide, _, rfl, rfl, rfl⟩

/-- What a switch took is not changed by a note about another one. -/
lemma textOf_behind {key other : Text} (hne : key ≠ other) (r : Reading) :
    textOf (r.behind [(other, none)]) key = textOf r key := by
  have hlookup : (r.behind [(other, none)]).switches.lookup key = r.switches.lookup key := by
    rw [Reading.behind, List.lookup_append, List.lookup_cons, beq_eq_false_iff_ne.mpr hne]
    exact Option.or_none
  rw [textOf, textOf, hlookup]

/-- **The switch that has details told** changes nothing else about what the program is asked. -/
theorem ofArguments_cons {flag : Text} (h : flag ∈ verboseNames) (strings : List Text) :
    ofArguments (flag :: strings) = (ofArguments strings).map ({ · with isVerbose := true }) := by
  obtain ⟨hdashes, s, hswitch, hnote, hkey⟩ := classify_verbose h
  rw [ofArguments, ofArguments, Suite.read_cons hdashes hswitch hnote, hkey]
  rcases suite.read strings with reply | ⟨r, command⟩
  · rfl
  · rcases command with _ | ⟨c, arguments⟩
    · rfl
    · have hnoted : ((r.behind [("verbose", none)]).switches.lookup
          (Text.ofString "verbose")).isSome = true := by
        rw [Reading.behind, List.lookup_append]
        simp
      simp only [Except.map, Parsed.behind, bind, Except.bind, hnoted,
        textOf_behind (by decide : Text.ofString "config" ≠ "verbose")]
      rfl

end WatWorkbench.Invocation
