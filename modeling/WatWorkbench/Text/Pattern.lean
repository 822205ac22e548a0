import WatWorkbench.Text.Basic

/-!
# Patterns

Sets of texts that are built from sets of code points by choice, sequence and repetition.

* `Pattern` — patterns, with `chars`, `word`, `opt`, `plus` and `choice` as abbreviations.
* `Pattern.after` — what may follow a first code point.
* `Pattern.accepts` — whether a text belongs to a pattern.
-/

namespace WatWorkbench

/-- A set of texts. -/
inductive Pattern where
  /-- No text. -/
  | nothing
  /-- The empty text only. -/
  | empty
  /-- The texts of one code point that satisfies a test. -/
  | point (test : Nat → Bool)
  /-- A text of the first pattern, then one of the second. -/
  | seq (first second : Pattern)
  /-- A text of one pattern or the other. -/
  | alt (left right : Pattern)
  /-- Texts of the pattern, as many as wanted, one after another. -/
  | star (item : Pattern)

namespace Pattern

/-! ## Abbreviations -/

/-- One of the given characters. -/
def chars (cs : String) : Pattern := point fun c => cs.toList.any (·.toNat = c)

/-- One code point between two characters, these included. -/
def range (first last : Char) : Pattern := point fun c => first.toNat ≤ c && c ≤ last.toNat

/-- The given characters one after another. -/
def word (cs : String) : Pattern :=
  cs.toList.foldr (fun c p => seq (point (· = c.toNat)) p) empty

/-- A text of the pattern or nothing. -/
def opt (p : Pattern) : Pattern := alt empty p

/-- At least one text of the pattern. -/
def plus (p : Pattern) : Pattern := seq p (star p)

/-- One text of each pattern in turn. -/
def sequence (ps : List Pattern) : Pattern := ps.foldr seq empty

/-- A text of one of the patterns. -/
def choice (ps : List Pattern) : Pattern := ps.foldr alt nothing

/-! ## Membership -/

/-- Whether the empty text belongs to a pattern. -/
def isNullable : Pattern → Bool
  | nothing | point _ => false
  | empty | star _ => true
  | seq a b => isNullable a && isNullable b
  | alt a b => isNullable a || isNullable b

/-- A sequence, smaller where one of its parts is trivial. -/
def join : Pattern → Pattern → Pattern
  | nothing, _ => nothing
  | empty, b => b
  | a, b => seq a b

/-- A choice, smaller where one of its parts is trivial. -/
def either : Pattern → Pattern → Pattern
  | nothing, b => b
  | a, nothing => a
  | a, b => alt a b

/-- What may follow a code point in the texts of a pattern that begin with it. -/
def after (c : Nat) : Pattern → Pattern
  | nothing | empty => nothing
  | point test => if test c then empty else nothing
  | seq a b =>
    if isNullable a then either (join (after c a) b) (after c b) else join (after c a) b
  | alt a b => either (after c a) (after c b)
  | star a => join (after c a) (star a)

/-- Whether a text belongs to a pattern. -/
def accepts (p : Pattern) (t : Text) : Bool :=
  isNullable (t.points.foldl (fun p c => after c p) p)

end Pattern

end WatWorkbench
