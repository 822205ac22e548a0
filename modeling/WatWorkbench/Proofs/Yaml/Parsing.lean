import WatWorkbench.Proofs.Yaml.Lexing
import WatWorkbench.Yaml.Grammar

/-!
# Failures of reading nodes

Nodes are read from tokens, and what is wrong with their order or with their names is a fault at a
place.  So the graph of a document is not read only for such faults, or because one of its tokens
needs a number that cannot be made.

* `Read.contained` — what a reading of nodes may end with.
* `Read.contained_node` — of all readings that call one another, by induction on their steps.
* **`Graph.unnumbered_of_ofPoints`** — the failures that are no faults of the document.
-/

open Std.Do

namespace WatWorkbench.Yaml

set_option mvcgen.warning false

namespace Read

variable {α : Type}

/-- What a reading may end with: anything but other failures than those of numbers. -/
abbrev contained {α : Type} : PostCond α (.arg Draft (.arg Lexer (.except Fault .pure))) :=
  post⟨fun _ _ _ => ⌜True⌝, fun e => ⌜e.Allows Unnumbered⌝⟩

/-! ## Tokens and properties -/

@[spec] lemma contained_next :
    ⦃⌜True⌝⦄ next ⦃contained⦄ := by
  mvcgen [next]

@[spec] lemma contained_skip :
    ⦃⌜True⌝⦄ skip ⦃contained⦄ := by
  mvcgen [skip]

@[spec] lemma contained_isNext (kinds : List Token.Kind) :
    ⦃⌜True⌝⦄ isNext kinds ⦃contained⦄ := by
  mvcgen [isNext]

@[spec] lemma contained_fail (context : Option (Text × Option Mark)) (problem : Text) (m : Mark) :
    ⦃⌜True⌝⦄ (fail context problem m : Read α) ⦃contained⦄ := by
  mvcgen [fail]

@[spec] lemma contained_unexpected (context : Text) (start : Mark) (expected : Text) :
    ⦃⌜True⌝⦄ (unexpected context start expected : Read α) ⦃contained⦄ := by
  mvcgen [unexpected]

@[spec] lemma contained_anchor :
    ⦃⌜True⌝⦄ anchor? ⦃contained⦄ := by
  mvcgen [anchor?]

@[spec] lemma contained_tag :
    ⦃⌜True⌝⦄ tag? ⦃contained⦄ := by
  mvcgen [tag?]

@[spec] lemma contained_resolve (start : Mark) (tag : TagText × Mark) :
    ⦃⌜True⌝⦄ resolve start tag ⦃contained⦄ := by
  mvcgen [resolve]

@[spec] lemma contained_mapM {β γ : Type} (o : Option β) {f : β → Read γ}
    (h : ∀ a, ⦃⌜True⌝⦄ f a ⦃contained⦄) : ⦃⌜True⌝⦄ o.mapM f ⦃contained⦄ := by
  cases o with
  | none => mvcgen [Option.mapM]
  | some a => mvcgen [Option.mapM, h]

@[spec] lemma contained_properties :
    ⦃⌜True⌝⦄ properties ⦃contained⦄ := by
  mvcgen [properties]

/-! ## Nodes -/

@[spec] lemma contained_add (p : Properties) (implied : Tag) (content : Node.Content)
    (start : Mark) : ⦃⌜True⌝⦄ add p implied content start ⦃contained⦄ := by
  mvcgen [add]

@[spec] lemma contained_addEmpty (start : Mark) :
    ⦃⌜True⌝⦄ addEmpty start ⦃contained⦄ := by
  mvcgen [addEmpty]

@[spec] lemma contained_fill (id : NodeId) (content : Node.Content) :
    ⦃⌜True⌝⦄ fill id content ⦃contained⦄ := by
  mvcgen [fill]

@[spec] lemma contained_named (name : Text) (start : Mark) :
    ⦃⌜True⌝⦄ named name start ⦃contained⦄ := by
  mvcgen [named]

@[spec] lemma contained_unlessNext (stops : List Token.Kind) (empty : Mark) {read : Read NodeId}
    (h : ⦃⌜True⌝⦄ read ⦃contained⦄) : ⦃⌜True⌝⦄ unlessNext stops empty read ⦃contained⦄ := by
  mvcgen [unlessNext, h]

@[spec] lemma contained_value (stops : List Token.Kind) {read : Read NodeId}
    (h : ⦃⌜True⌝⦄ read ⦃contained⦄) : ⦃⌜True⌝⦄ value stops read ⦃contained⦄ := by
  mvcgen [value, h]

@[spec] lemma contained_noContent (p : Properties) (place : Place) (start : Mark) :
    ⦃⌜True⌝⦄ noContent p place start ⦃contained⦄ := by
  mvcgen [noContent]

@[spec] lemma contained_scalar (p : Properties) (content : Text) (isPlain : Bool) (start : Mark) :
    ⦃⌜True⌝⦄ scalar p content isPlain start ⦃contained⦄ := by
  mvcgen [scalar]

@[spec] lemma contained_sequence (p : Properties) (start : Mark) {items : Read (List NodeId)}
    (h : ⦃⌜True⌝⦄ items ⦃contained⦄) : ⦃⌜True⌝⦄ sequence p start items ⦃contained⦄ := by
  mvcgen [sequence, h]

@[spec] lemma contained_mapping (p : Properties) (start : Mark)
    {pairs : Read (List (NodeId × NodeId))} (h : ⦃⌜True⌝⦄ pairs ⦃contained⦄) :
    ⦃⌜True⌝⦄ mapping p start pairs ⦃contained⦄ := by
  mvcgen [mapping, h]

/-- All readings of nodes, with a number of steps. -/
structure Contained (n : Nat) : Prop where
  node : ∀ place, ⦃⌜True⌝⦄ node n place ⦃contained⦄
  blockItems : ∀ start, ⦃⌜True⌝⦄ blockItems n start ⦃contained⦄
  looseItems : ⦃⌜True⌝⦄ looseItems n ⦃contained⦄
  blockPairs : ∀ start, ⦃⌜True⌝⦄ blockPairs n start ⦃contained⦄
  flowItems : ∀ start isFirst, ⦃⌜True⌝⦄ flowItems n start isFirst ⦃contained⦄
  flowPairs : ∀ start isFirst, ⦃⌜True⌝⦄ flowPairs n start isFirst ⦃contained⦄

lemma contained_all (n : Nat) : Contained n := by
  induction n with
  | zero =>
      constructor
      · intro; mvcgen [node]
      · intro; mvcgen [blockItems]
      · mvcgen [looseItems]
      · intro; mvcgen [blockPairs]
      · intro _ _; mvcgen [flowItems]
      · intro _ _; mvcgen [flowPairs]
  | succ n ih =>
      obtain ⟨hnode, hblockItems, hlooseItems, hblockPairs, hflowItems, hflowPairs⟩ := ih
      constructor
      · intro place
        mvcgen [node, hblockItems, hlooseItems, hblockPairs, hflowItems, hflowPairs]
      · intro start
        mvcgen [blockItems, hnode, hblockItems]
      · mvcgen [looseItems, hnode, hlooseItems]
      · intro start
        mvcgen [blockPairs, hnode, hblockPairs]
      · intro start isFirst
        mvcgen [flowItems, hnode, hflowItems]
      · intro start isFirst
        mvcgen [flowPairs, hnode, hflowPairs]

@[spec] lemma contained_node (n : Nat) (place : Place) : ⦃⌜True⌝⦄ node n place ⦃contained⦄ :=
  (contained_all n).node place

/-! ## Documents -/

@[spec] lemma contained_skipEnds (n : Nat) :
    ⦃⌜True⌝⦄ skipEnds n ⦃contained⦄ := by
  induction n with
  | zero => mvcgen [skipEnds]
  | succ n ih => mvcgen [skipEnds, ih]

@[spec] lemma contained_directives (n : Nat) (hasVersion : Bool) :
    ⦃⌜True⌝⦄ directives n hasVersion ⦃contained⦄ := by
  induction n generalizing hasVersion with
  | zero => mvcgen [directives]
  | succ n ih => mvcgen [directives, ih]

@[spec] lemma contained_heading (n : Nat) :
    ⦃⌜True⌝⦄ heading n ⦃contained⦄ := by
  mvcgen [heading]

@[spec] lemma contained_atDirective :
    ⦃⌜True⌝⦄ atDirective ⦃contained⦄ := by
  mvcgen [atDirective]

@[spec] lemma contained_marked (n : Nat) :
    ⦃⌜True⌝⦄ marked n ⦃contained⦄ := by
  mvcgen [marked]

@[spec] lemma contained_document (n : Nat) :
    ⦃⌜True⌝⦄ document n ⦃contained⦄ := by
  mvcgen [document]

end Read

/-- **The graph of a document** is read, or the document has a fault, or a number cannot be made. -/
theorem Graph.unnumbered_of_ofPoints {points : List Nat} {f : Failure}
    (h : Graph.ofPoints points = .error (.escaped f)) : Unnumbered f := by
  have hdocument : ⦃⌜True⌝⦄ ((Read.document (16 * (points.length + 2))).run {}).run
      (Lexer.ofDocument points) ⦃post⟨fun _ => ⌜True⌝, fun e => ⌜e.Allows Unnumbered⌝⟩⦄ :=
    fun _ => Read.contained_document _ {} (Lexer.ofDocument points) trivial
  rw [ofPoints] at h
  rcases hrun : ((Read.document (16 * (points.length + 2))).run {}).run (Lexer.ofDocument points)
    with e | ⟨⟨root, draft⟩, l⟩
  · rw [hrun] at hdocument
    simp only [hrun, bind, Except.bind, Except.error.injEq] at h
    subst h
    exact hdocument trivial
  · simp [hrun, bind, Except.bind, pure, Except.pure] at h

end WatWorkbench.Yaml
