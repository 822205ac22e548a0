import WatWorkbench.Text.Base64
import WatWorkbench.Yaml.Fault
import WatWorkbench.Yaml.Node
import WatWorkbench.Yaml.Scalar

/-!
# What nodes stand for

Scalars stand for values, and collections for lists, sets and dictionaries of what their nodes stand
for.  A collection gets its content only after the collections that were met before it, so that a
collection may hold itself; of two faults, the one that is met first in this order is reported.

* `Meaning`, `Builder` — what nodes stand for, as far as it has been found out.
* `Builder.flatten` — puts the pairs that a mapping merges in front of its own.
* `Builder.visit`, `Builder.complete` — find out what a node and a collection stand for.
* `Graph.value` — the value of a document.
-/

namespace WatWorkbench.Yaml

/-- What a node stands for, with nodes in place of what it holds. -/
inductive Meaning where
  /-- A value that holds no nodes. -/
  | atom (v : Value)
  /-- A list. -/
  | list (items : List NodeId)
  /-- A list of pairs. -/
  | pairs (items : List (NodeId × NodeId))
  /-- A set. -/
  | set (items : List Value)
  /-- A dictionary. -/
  | dict (entries : List (Value × NodeId))
  deriving Inhabited

/-- What has been found out about the nodes of a document. -/
structure Builder where
  /-- The nodes. -/
  graph : Graph
  /-- What nodes stand for, by their numbers. -/
  meanings : Array (Option Meaning)
  /-- The collections without content so far, in the order in which they were met. -/
  waiting : List NodeId := []

/-- A step of finding out what nodes stand for, which may fail. -/
abbrev Build := StateT Builder (Except Fault)

namespace Builder

/-! ## Faults -/

/-- Fails at a place, possibly while something is being done that began at another place. -/
def fail {α : Type} (context : Option (Text × Option Mark)) (problem : Text) (mark : Mark) :
    Build α :=
  throw (.wrong context problem mark)

/-- A node. -/
def node (id : NodeId) : Build Node := do return (← get).graph.node id

/-- Fails because a node has the wrong content. -/
def expected {α : Type} (what : Text) (n : Node) : Build α :=
  fail none ("expected a " ++ what ++ " node, but found " ++ n.content.name) n.start

/-! ## Scalars -/

/-- Whether a node is the key of what stands for its mapping. -/
def isValueKey (g : Graph) (pair : NodeId × NodeId) : Bool := (g.node pair.1).tag = .core .value

/-- The text of a scalar, or of the scalar that stands for a mapping.  The first argument bounds how
many mappings stand for one another. -/
def text : Nat → NodeId → Build Text
  | 0, id => do
    let n ← node id
    match n.content with
    | .scalar t => return t
    | _ => expected "scalar" n
  | fuel + 1, id => do
    let g := (← get).graph
    let n := g.node id
    match n.content with
    | .scalar t => return t
    | .mapping pairs =>
      match pairs.find? (isValueKey g) with
      | some (_, value) => text fuel value
      | none => expected "scalar" n
    | .sequence _ => expected "scalar" n

/-- The octets of a text in base 64. -/
def binary (n : Node) (t : Text) : Build Value := do
  if let some fault := Text.findUnencodable .ascii 0 t.points then
    fail none ("failed to convert base64 data into ascii: " ++ fault.message) n.start
  match Base64.decode t with
  | .ok bytes => return .bytes bytes
  | .error fault => fail none ("failed to decode base64 data: " ++ fault.message) n.start

/-- The outcome of reading a text as a value of its type. -/
def spelled (r : Except Failure Value) : Build Value :=
  match r with
  | .ok v => return v
  | .error failure => throw (.escaped failure)

/-- The value of a node whose type has no collections. -/
def atom (t : CoreTag) (id : NodeId) : Build Value := do
  let n ← node id
  let content ← text (← get).graph.size id
  match t with
  | .null => return .null
  | .bool => spelled (Scalar.bool content)
  | .int => spelled (Scalar.int content)
  | .float => spelled (Scalar.float content)
  | .binary => binary n content
  | .timestamp =>
    match n.content with
    | .scalar _ => spelled (Scalar.timestamp content)
    | _ => throw (.escaped (.raised .type "expected string or bytes-like object, got 'list'"))
  | _ => return .text content

/-! ## Meeting nodes -/

/-- Sets what a node stands for. -/
def settle (id : NodeId) (m : Meaning) : Build Unit :=
  modify fun b => { b with meanings := b.meanings.setIfInBounds id (some m) }

/-- Sets what a collection stands for before its content is known. -/
def await (id : NodeId) (m : Meaning) : Build Unit := do
  settle id m
  modify fun b => { b with waiting := b.waiting ++ [id] }

/-- What a node stands for, if that is known. -/
def meaning? (id : NodeId) : Build (Option Meaning) := do return (← get).meanings.getD id none

/-- Finds out what a node stands for; a collection has to wait for its content. -/
def visit (id : NodeId) : Build Unit := do
  if (← meaning? id).isSome then return
  let n ← node id
  match n.tag with
  | .core .seq | .core .omap | .core .pairs => await id (.list [])
  | .core .set => await id (.set [])
  | .core .map => await id (.dict [])
  | .core .merge | .core .value | .other _ =>
    fail none ("could not determine a constructor for the tag " ++ n.tag.text.quoted) n.start
  | .core t => settle id (.atom (← atom t id))

/-! ## Merging -/

/-- The pairs of a mapping. -/
def pairsOf (id : NodeId) : Build (List (NodeId × NodeId)) := do
  match (← node id).content with
  | .mapping pairs => return pairs
  | _ => return []

/-- Changes the pairs of a mapping. -/
def setPairs (id : NodeId) (pairs : List (NodeId × NodeId)) : Build Unit :=
  modify fun b => { b with graph := b.graph.withContent id (.mapping pairs) }

/-- Whether the key of a pair merges its value. -/
def isMergeKey (g : Graph) (pair : NodeId × NodeId) : Bool := (g.node pair.1).tag = .core .merge

/-- Turns a key of what stands for its mapping into a text. -/
def plainKey (pair : NodeId × NodeId) : Build Unit := do
  if isValueKey (← get).graph pair then
    modify fun b => { b with graph := b.graph.withTag pair.1 (.core .str) }

/-- What is being done when mappings are put together. -/
def context (n : Node) : Option (Text × Option Mark) :=
  some ("while constructing a mapping", some n.start)

mutual

/-- Puts the pairs that a mapping merges in front of its own.  The first argument bounds the number of
steps, here and below. -/
def flatten : Nat → NodeId → Build Unit
  | 0, _ => return
  | fuel + 1, id => do
    let merged ← takeMerged fuel id
    let own ← pairsOf id
    own.forM plainKey
    setPairs id (merged ++ own)

/-- Takes the keys that merge out of a mapping and gives the pairs they merge. -/
def takeMerged : Nat → NodeId → Build (List (NodeId × NodeId))
  | 0, _ => return []
  | fuel + 1, id => do
    let pairs ← pairsOf id
    let g := (← get).graph
    match pairs.find? (isMergeKey g) with
    | none => return []
    | some pair =>
      setPairs id (pairs.eraseP (isMergeKey g))
      let first ← merged fuel id pair.2
      return first ++ (← takeMerged fuel id)

/-- The pairs of a mapping that is merged, or of the mappings in a sequence that is merged, the last
one first. -/
def merged : Nat → NodeId → NodeId → Build (List (NodeId × NodeId))
  | 0, _, _ => return []
  | fuel + 1, id, source => do
    let n ← node source
    match n.content with
    | .mapping _ =>
      flatten fuel source
      pairsOf source
    | .sequence items =>
      let parts ← items.mapM fun item => do
        let part ← node item
        match part.content with
        | .mapping _ =>
          flatten fuel item
          pairsOf item
        | content =>
          fail (context (← node id)) ("expected a mapping for merging, but found " ++ content.name)
            part.start
      return parts.reverse.flatten
    | content =>
      fail (context (← node id))
        ("expected a mapping or list of mappings for merging, but found " ++ content.name) n.start

end

/-! ## Collections -/

/-- The items of a sequence. -/
def items (id : NodeId) : Build (List NodeId) := do
  let n ← node id
  match n.content with
  | .sequence items =>
    items.forM visit
    return items
  | _ => expected "sequence" n

/-- The only pair of an item of a sequence of pairs. -/
def singlePair (context : Option (Text × Option Mark)) (item : NodeId) : Build (NodeId × NodeId) := do
  let n ← node item
  match n.content with
  | .mapping [(key, value)] =>
    visit key
    visit value
    return (key, value)
  | .mapping pairs =>
    fail context ("expected a single mapping item, but found " ++ Text.decimal pairs.length ++ " items")
      n.start
  | content =>
    fail context ("expected a mapping of length 1, but found " ++ content.name) n.start

/-- The pairs of a sequence of pairs. -/
def itemPairs (what : Text) (id : NodeId) : Build (List (NodeId × NodeId)) := do
  let n ← node id
  let context := some ("while constructing " ++ what, some n.start)
  match n.content with
  | .sequence items => items.mapM (singlePair context)
  | content => fail context ("expected a sequence, but found " ++ content.name) n.start

/-- A key of a mapping.  Numbers that are none differ from one another even as keys, unless they come
from one node or are spelled as the constant of that kind; so a key is known by its origin too. -/
structure Key where
  /-- The value. -/
  value : Value
  /-- The node, or nothing for the constant that is no number. -/
  origin : Option NodeId

/-- Whether a value is a number that is none. -/
def isNotANumber : Value → Bool
  | .float x => x.isNaN
  | _ => false

/-- Whether two keys are one. -/
def Key.same (a b : Key) : Bool :=
  a.value.same b.value
    || (isNotANumber a.value && isNotANumber b.value && a.origin = b.origin)

/-- Puts a node under a key: in place of the old one, or at the end. -/
def insert (key : Key) (value : NodeId) : List (Key × NodeId) → List (Key × NodeId)
  | [] => [(key, value)]
  | (k, v) :: es => if k.same key then (k, value) :: es else (k, v) :: insert key value es

/-- A key, which may be no collection. -/
def key (mapping : Node) (id : NodeId) : Build Key := do
  visit id
  match ← meaning? id with
  | some (.atom v) =>
    if !isNotANumber v then return ⟨v, some id⟩
    let spelling ← text (← get).graph.size id
    return ⟨v, if Scalar.isNotANumber spelling then none else some id⟩
  | _ => fail (context mapping) "found unhashable key" (← node id).start

/-- The entries of a mapping. -/
def entries (id : NodeId) : Build (List (Value × NodeId)) := do
  let n ← node id
  match n.content with
  | .mapping _ =>
    flatten (3 * (← get).graph.pairCount + 3) id
    let found ← (← pairsOf id).foldlM (fun es (source, value) => do
      let k ← key n source
      visit value
      return insert k value es) []
    return found.map fun (k, v) => (k.value, v)
  | _ => expected "mapping" n

/-- Finds out what a collection holds. -/
def complete (id : NodeId) : Build Unit := do
  let n ← node id
  match n.tag with
  | .core .omap => settle id (.pairs (← itemPairs "an ordered map" id))
  | .core .pairs => settle id (.pairs (← itemPairs "pairs" id))
  | .core .set => settle id (.set ((← entries id).map (·.1)))
  | .core .map => settle id (.dict (← entries id))
  | _ => settle id (.list (← items id))

/-- Finds out what the collections hold that wait for their content.  The argument bounds how many
there are. -/
def completeAll : Nat → Build Unit
  | 0 => return
  | fuel + 1 => do
    match (← get).waiting with
    | [] => return
    | id :: waiting =>
      modify ({ · with waiting })
      complete id
      completeAll fuel

/-! ## Values -/

/-- The value of a node.  A collection that holds itself is cut where it would begin again.  The
second argument bounds the depth, and the third one lists the collections around the node. -/
def value (b : Builder) : Nat → List NodeId → NodeId → Value
  | 0, _, _ => .null
  | fuel + 1, path, id =>
    let inner := value b fuel (id :: path)
    match b.meanings.getD id none with
    | none => .null
    | some (.atom v) => v
    | some (.set vs) => .set vs
    | some (.list items) =>
      if path.contains id then .cycle false else .list (items.map inner)
    | some (.pairs items) =>
      if path.contains id then .cycle false
      else .list (items.map fun (k, v) => .tuple [inner k, inner v])
    | some (.dict es) =>
      if path.contains id then .cycle true else .dict (es.map fun (k, v) => (k, inner v))

/-- The value of the outermost node.  What an outermost dictionary holds is cut for itself. -/
def rootValue (b : Builder) (id : NodeId) : Value :=
  let depth := b.graph.size + 1
  match b.meanings.getD id none with
  | some (.dict es) => .dict (es.map fun (k, v) => (k, value b depth [] v))
  | _ => value b depth [] id

end Builder

/-- The value of a document with the given nodes, of which one is the outermost. -/
def Graph.value (g : Graph) (root : NodeId) : Except Fault Value := do
  let find : Build Unit := do
    Builder.visit root
    Builder.completeAll (g.size + 1)
  let ((), b) ← find.run ⟨g, Array.replicate g.size none, []⟩
  return b.rootValue root

end WatWorkbench.Yaml
