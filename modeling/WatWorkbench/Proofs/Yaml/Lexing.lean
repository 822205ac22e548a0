import Mathlib
import WatWorkbench.Yaml.Lexer.Stream

/-!
# Failures of reading tokens

Tokens are read by small readings that ask for the next code point, go on, or fail at a place.  Such
faults are those of a document that is not well formed.  Only two readings can fail in another way,
since they make numbers of digits: versions in directives, and escapes in double quotes.

* `Unnumbered` — the failures to make a number of digits.
* `Lex.contained` — nothing but faults at a place and these failures.
* **`Lex.contained_next`**, **`Lex.contained_take`** — the same of looking at tokens and of taking
  them.
-/

open Std.Do

namespace WatWorkbench.Yaml

set_option mvcgen.warning false

/-- The failures to make a number of the digits of a document. -/
inductive Unnumbered : Failure → Prop where
  /-- A version has too many digits. -/
  | version {count : Nat} (h : Numeral.digitLimit < count) : Unnumbered (Fault.tooManyDigits count)
  /-- There is no code point with the number. -/
  | point {n : Nat} {f : Failure} (h : Lex.numbered n = .error (.escaped f)) : Unnumbered f

/-- A fault is one of the document at a place, or passes on one of some failures. -/
def Fault.Allows (P : Failure → Prop) : Fault → Prop
  | .escaped f => P f
  | _ => True

namespace Lex

variable {α : Type}

/-- What a reading may end with: anything but other failures than those of numbers. -/
abbrev contained {α : Type} : PostCond α (.arg Lexer (.except Fault .pure)) :=
  post⟨fun _ _ => ⌜True⌝, fun e => ⌜e.Allows Unnumbered⌝⟩

/-! ## Looking and going on -/

@[spec] lemma contained_peek (n : Nat) :
    ⦃⌜True⌝⦄ peek n ⦃contained⦄ := by
  mvcgen [peek]

@[spec] lemma contained_mark :
    ⦃⌜True⌝⦄ mark ⦃contained⦄ := by
  mvcgen [mark]

@[spec] lemma contained_column :
    ⦃⌜True⌝⦄ column ⦃contained⦄ := by
  mvcgen [column]

@[spec] lemma contained_inFlow :
    ⦃⌜True⌝⦄ inFlow ⦃contained⦄ := by
  mvcgen [inFlow]

@[spec] lemma contained_atText (s : String) :
    ⦃⌜True⌝⦄ atText s ⦃contained⦄ := by
  mvcgen [atText]

@[spec] lemma contained_forward (n : Nat) :
    ⦃⌜True⌝⦄ forward n ⦃contained⦄ := by
  mvcgen [forward]

@[spec] lemma contained_takeWhile (p : Nat → Nat → Bool) :
    ⦃⌜True⌝⦄ takeWhile p ⦃contained⦄ := by
  mvcgen [takeWhile]

@[spec] lemma contained_skipWhile (p : Nat → Bool) :
    ⦃⌜True⌝⦄ skipWhile p ⦃contained⦄ := by
  mvcgen [skipWhile]

@[spec] lemma contained_skipSpaces :
    ⦃⌜True⌝⦄ skipSpaces ⦃contained⦄ := by
  mvcgen [skipSpaces]

@[spec] lemma contained_skipComment :
    ⦃⌜True⌝⦄ skipComment ⦃contained⦄ := by
  mvcgen [skipComment]

@[spec] lemma contained_allowKey (b : Bool) :
    ⦃⌜True⌝⦄ allowKey b ⦃contained⦄ := by
  mvcgen [allowKey]

@[spec] lemma contained_fail (context : Option (Text × Option Mark)) (problem : Text) :
    ⦃⌜True⌝⦄ (fail context problem : Lex α) ⦃contained⦄ := by
  mvcgen [fail]

@[spec] lemma contained_failIn (context : Text) (start : Mark) (problem : Text) :
    ⦃⌜True⌝⦄ (failIn context start problem : Lex α) ⦃contained⦄ := by
  mvcgen [failIn]

@[spec] lemma contained_lineBreak :
    ⦃⌜True⌝⦄ lineBreak ⦃contained⦄ := by
  mvcgen [lineBreak]

@[spec] lemma contained_atDocumentMark :
    ⦃⌜True⌝⦄ atDocumentMark ⦃contained⦄ := by
  mvcgen [atDocumentMark]

@[spec] lemma contained_ahead (n : Nat) :
    ⦃⌜True⌝⦄ ahead n ⦃contained⦄ := by
  mvcgen [ahead]

@[spec] lemma contained_left :
    ⦃⌜True⌝⦄ left ⦃contained⦄ := by
  mvcgen [left]

/-- Passing a fault on ends with that fault. -/
@[spec high] lemma throw_spec (e : Fault) (Q : PostCond α (.except Fault .pure)) :
    ⦃Q.2.1 e⦄ (MonadExceptOf.throw e : Except Fault α) ⦃Q⦄ :=
  fun h => h

/-! ## Block scalars -/

@[spec] lemma contained_chomping :
    ⦃⌜True⌝⦄ chomping? ⦃contained⦄ := by
  mvcgen [chomping?]

@[spec] lemma contained_indentation (start : Mark) :
    ⦃⌜True⌝⦄ indentation? start ⦃contained⦄ := by
  mvcgen [indentation?]

@[spec] lemma contained_blockIndicators (start : Mark) :
    ⦃⌜True⌝⦄ blockIndicators start ⦃contained⦄ := by
  mvcgen [blockIndicators]

@[spec] lemma contained_blockHeaderEnd (start : Mark) :
    ⦃⌜True⌝⦄ blockHeaderEnd start ⦃contained⦄ := by
  mvcgen [blockHeaderEnd]

@[spec] lemma contained_leadingLines (n deepest : Nat) :
    ⦃⌜True⌝⦄ leadingLines n deepest ⦃contained⦄ := by
  induction n generalizing deepest with
  | zero => mvcgen [leadingLines]
  | succ n ih => mvcgen [leadingLines, ih]

@[spec] lemma contained_skipIndentation (indent : Int) (n : Nat) :
    ⦃⌜True⌝⦄ skipIndentation indent n ⦃contained⦄ := by
  induction n with
  | zero => mvcgen [skipIndentation]
  | succ n ih => mvcgen [skipIndentation, ih]

@[spec] lemma contained_blockBreaks (indent : Int) (n : Nat) :
    ⦃⌜True⌝⦄ blockBreaks indent n ⦃contained⦄ := by
  induction n with
  | zero => mvcgen [blockBreaks]
  | succ n ih => mvcgen [blockBreaks, ih]

@[spec] lemma contained_atBlockText (indent : Int) :
    ⦃⌜True⌝⦄ atBlockText indent ⦃contained⦄ := by
  mvcgen [atBlockText]

@[spec] lemma contained_blockLines (isFolded : Bool) (indent : Int) (n : Nat) (breaks : List Nat) :
    ⦃⌜True⌝⦄ blockLines isFolded indent n breaks ⦃contained⦄ := by
  induction n generalizing breaks with
  | zero => mvcgen [blockLines]
  | succ n ih => mvcgen [blockLines, ih]

@[spec] lemma contained_block (isFolded : Bool) :
    ⦃⌜True⌝⦄ block isFolded ⦃contained⦄ := by
  mvcgen [block]

/-! ## Plain scalars -/

@[spec] lemma contained_plainBreaks (n : Nat) :
    ⦃⌜True⌝⦄ plainBreaks n ⦃contained⦄ := by
  induction n with
  | zero => mvcgen [plainBreaks]
  | succ n ih => mvcgen [plainBreaks, ih]

@[spec] lemma contained_plainSpaces :
    ⦃⌜True⌝⦄ plainSpaces ⦃contained⦄ := by
  mvcgen [plainSpaces]

@[spec] lemma contained_plainRuns (indent : Int) (n : Nat) (between : List Nat) (stop : Mark) :
    ⦃⌜True⌝⦄ plainRuns indent n between stop ⦃contained⦄ := by
  induction n generalizing between stop with
  | zero => mvcgen [plainRuns]
  | succ n ih => mvcgen [plainRuns, ih]

@[spec] lemma contained_plain :
    ⦃⌜True⌝⦄ plain ⦃contained⦄ := by
  mvcgen [plain]

/-! ## Properties and directives -/

@[spec] lemma contained_anchorName (context : Text) :
    ⦃⌜True⌝⦄ anchorName context ⦃contained⦄ := by
  mvcgen [anchorName]

@[spec] lemma contained_anchor :
    ⦃⌜True⌝⦄ anchor ⦃contained⦄ := by
  mvcgen [anchor]

@[spec] lemma contained_reference :
    ⦃⌜True⌝⦄ reference ⦃contained⦄ := by
  mvcgen [reference]

@[spec] lemma contained_tagHandle (owner : TagOwner) (start : Mark) :
    ⦃⌜True⌝⦄ tagHandle owner start ⦃contained⦄ := by
  mvcgen [tagHandle]

@[spec] lemma contained_uriOctets (owner : TagOwner) (start : Mark) (n : Nat) :
    ⦃⌜True⌝⦄ uriOctets owner start n ⦃contained⦄ := by
  induction n with
  | zero => mvcgen [uriOctets]
  | succ n ih => mvcgen [uriOctets, ih]

@[spec] lemma contained_uriEscapes (owner : TagOwner) (start : Mark) :
    ⦃⌜True⌝⦄ uriEscapes owner start ⦃contained⦄ := by
  mvcgen [uriEscapes]

@[spec] lemma contained_uriParts (owner : TagOwner) (start : Mark) (n : Nat) :
    ⦃⌜True⌝⦄ uriParts owner start n ⦃contained⦄ := by
  induction n with
  | zero => mvcgen [uriParts]
  | succ n ih => mvcgen [uriParts, ih]

@[spec] lemma contained_tagUri (owner : TagOwner) (start : Mark) :
    ⦃⌜True⌝⦄ tagUri owner start ⦃contained⦄ := by
  mvcgen [tagUri]

@[spec] lemma contained_tagText (start : Mark) :
    ⦃⌜True⌝⦄ tagText start ⦃contained⦄ := by
  mvcgen [tagText]

@[spec] lemma contained_tag :
    ⦃⌜True⌝⦄ tag ⦃contained⦄ := by
  mvcgen [tag]

@[spec] lemma contained_directiveName (start : Mark) :
    ⦃⌜True⌝⦄ directiveName start ⦃contained⦄ := by
  mvcgen [directiveName]

@[spec] lemma contained_versionNumber (start : Mark) :
    ⦃⌜True⌝⦄ versionNumber start ⦃contained⦄ := by
  mvcgen [versionNumber]
  exact .version ‹_›

@[spec] lemma contained_version (start : Mark) :
    ⦃⌜True⌝⦄ version start ⦃contained⦄ := by
  mvcgen [version]

@[spec] lemma contained_handleMeaning (start : Mark) :
    ⦃⌜True⌝⦄ handleMeaning start ⦃contained⦄ := by
  mvcgen [handleMeaning]

@[spec] lemma contained_directiveEnd (start : Mark) :
    ⦃⌜True⌝⦄ directiveEnd start ⦃contained⦄ := by
  mvcgen [directiveEnd]

@[spec] lemma contained_directive :
    ⦃⌜True⌝⦄ directive ⦃contained⦄ := by
  mvcgen [directive]

/-! ## Quoted scalars -/

@[spec] lemma contained_quotedBreaks (start : Mark) (n : Nat) :
    ⦃⌜True⌝⦄ quotedBreaks start n ⦃contained⦄ := by
  induction n with
  | zero => mvcgen [quotedBreaks]
  | succ n ih => mvcgen [quotedBreaks, ih]

@[spec] lemma contained_quotedSpaces (start : Mark) :
    ⦃⌜True⌝⦄ quotedSpaces start ⦃contained⦄ := by
  mvcgen [quotedSpaces]

@[spec] lemma numbered_spec (n : Nat) :
    ⦃⌜True⌝⦄ numbered n ⦃post⟨fun _ => ⌜True⌝, fun e => ⌜e.Allows Unnumbered⌝⟩⦄ := by
  intro _
  rcases h : numbered n with (e | e | f) | c
  · trivial
  · trivial
  · exact Unnumbered.point h
  · trivial

@[spec] lemma contained_escaped (start : Mark) :
    ⦃⌜True⌝⦄ escaped start ⦃contained⦄ := by
  mvcgen [escaped]

@[spec] lemma contained_quotedRuns (isDouble : Bool) (start : Mark) (n : Nat) :
    ⦃⌜True⌝⦄ quotedRuns isDouble start n ⦃contained⦄ := by
  induction n with
  | zero => mvcgen [quotedRuns]
  | succ n ih => mvcgen [quotedRuns, ih]

@[spec] lemma contained_quotedParts (isDouble : Bool) (start : Mark) (n : Nat) :
    ⦃⌜True⌝⦄ quotedParts isDouble start n ⦃contained⦄ := by
  induction n with
  | zero => mvcgen [quotedParts]
  | succ n ih => mvcgen [quotedParts, ih]

@[spec] lemma contained_quoted (isDouble : Bool) :
    ⦃⌜True⌝⦄ quoted isDouble ⦃contained⦄ := by
  mvcgen [quoted]

/-! ## The stream -/

@[spec] lemma contained_missingColon (k : SimpleKey) :
    ⦃⌜True⌝⦄ missingColon k ⦃contained⦄ := by
  mvcgen [missingColon]

@[spec] lemma contained_forgetStaleKeys :
    ⦃⌜True⌝⦄ forgetStaleKeys ⦃contained⦄ := by
  mvcgen [forgetStaleKeys]
  case inv1 => exact contained
  all_goals simp_all

@[spec] lemma contained_forgetKey :
    ⦃⌜True⌝⦄ forgetKey ⦃contained⦄ := by
  mvcgen [forgetKey]

@[spec] lemma contained_rememberKey :
    ⦃⌜True⌝⦄ rememberKey ⦃contained⦄ := by
  mvcgen [rememberKey]

@[spec] lemma contained_add (t : Token) :
    ⦃⌜True⌝⦄ add t ⦃contained⦄ := by
  mvcgen [add]

@[spec] lemma contained_addHere (kind : Token.Kind) :
    ⦃⌜True⌝⦄ addHere kind ⦃contained⦄ := by
  mvcgen [addHere]

@[spec] lemma contained_addNext (kind : Token.Kind) (n : Nat) :
    ⦃⌜True⌝⦄ addNext kind n ⦃contained⦄ := by
  mvcgen [addNext]

@[spec] lemma contained_insertAt (number : Nat) (t : Token) :
    ⦃⌜True⌝⦄ insertAt number t ⦃contained⦄ := by
  mvcgen [insertAt]

@[spec] lemma contained_unwind (column : Int) (n : Nat) :
    ⦃⌜True⌝⦄ unwind column n ⦃contained⦄ := by
  induction n with
  | zero => mvcgen [unwind]
  | succ n ih => mvcgen [unwind, ih]

@[spec] lemma contained_unwindTo (column : Int) :
    ⦃⌜True⌝⦄ unwindTo column ⦃contained⦄ := by
  mvcgen [unwindTo]

@[spec] lemma contained_indentTo (column : Nat) :
    ⦃⌜True⌝⦄ indentTo column ⦃contained⦄ := by
  mvcgen [indentTo]

@[spec] lemma contained_streamEnd :
    ⦃⌜True⌝⦄ streamEnd ⦃contained⦄ := by
  mvcgen [streamEnd]

@[spec] lemma contained_atMargin {read : Lex Unit} (h : ⦃⌜True⌝⦄ read ⦃contained⦄) :
    ⦃⌜True⌝⦄ atMargin read ⦃contained⦄ := by
  mvcgen [atMargin, h]

@[spec] lemma contained_flowStart (kind : Token.Kind) :
    ⦃⌜True⌝⦄ flowStart kind ⦃contained⦄ := by
  mvcgen [flowStart]

@[spec] lemma contained_flowEnd (kind : Token.Kind) :
    ⦃⌜True⌝⦄ flowEnd kind ⦃contained⦄ := by
  mvcgen [flowEnd]

@[spec] lemma contained_flowEntry :
    ⦃⌜True⌝⦄ flowEntry ⦃contained⦄ := by
  mvcgen [flowEntry]

@[spec] lemma contained_beginBlock (kind : Token.Kind) (what : Text) :
    ⦃⌜True⌝⦄ beginBlock kind what ⦃contained⦄ := by
  mvcgen [beginBlock]

@[spec] lemma contained_blockEntry :
    ⦃⌜True⌝⦄ blockEntry ⦃contained⦄ := by
  mvcgen [blockEntry]

@[spec] lemma contained_keyMark :
    ⦃⌜True⌝⦄ keyMark ⦃contained⦄ := by
  mvcgen [keyMark]

@[spec] lemma contained_valueMark :
    ⦃⌜True⌝⦄ valueMark ⦃contained⦄ := by
  mvcgen [valueMark]

@[spec] lemma contained_keyLike {read : Lex Token} (h : ⦃⌜True⌝⦄ read ⦃contained⦄) :
    ⦃⌜True⌝⦄ keyLike read ⦃contained⦄ := by
  mvcgen [keyLike, h]

@[spec] lemma contained_blockScalarLike (isFolded : Bool) :
    ⦃⌜True⌝⦄ blockScalarLike isFolded ⦃contained⦄ := by
  mvcgen [blockScalarLike]

@[spec] lemma contained_skipToToken (n : Nat) :
    ⦃⌜True⌝⦄ skipToToken n ⦃contained⦄ := by
  induction n with
  | zero => mvcgen [skipToToken]
  | succ n ih => mvcgen [skipToToken, ih]

@[spec] lemma contained_standsAlone (mayTouch : Bool) :
    ⦃⌜True⌝⦄ standsAlone mayTouch ⦃contained⦄ := by
  mvcgen [standsAlone]

@[spec] lemma contained_atPlain :
    ⦃⌜True⌝⦄ atPlain ⦃contained⦄ := by
  mvcgen [atPlain]

@[spec] lemma contained_fetchIndicator (c : Char) :
    ⦃⌜True⌝⦄ fetchIndicator c ⦃contained⦄ := by
  mvcgen [fetchIndicator]

@[spec] lemma contained_fetch :
    ⦃⌜True⌝⦄ fetch ⦃contained⦄ := by
  mvcgen [fetch]

@[spec] lemma contained_needsMore :
    ⦃⌜True⌝⦄ needsMore ⦃contained⦄ := by
  mvcgen [needsMore]

@[spec] lemma contained_fill (n : Nat) :
    ⦃⌜True⌝⦄ fill n ⦃contained⦄ := by
  induction n with
  | zero => mvcgen [fill]
  | succ n ih => mvcgen [fill, ih]

/-- **Looking at the next token** fails at a place or at a number. -/
@[spec] theorem contained_next : ⦃⌜True⌝⦄ next ⦃contained⦄ := by
  mvcgen [next]

/-- **Taking the next token** fails at a place or at a number. -/
@[spec] theorem contained_take : ⦃⌜True⌝⦄ take ⦃contained⦄ := by
  mvcgen [take]

end Lex

end WatWorkbench.Yaml
