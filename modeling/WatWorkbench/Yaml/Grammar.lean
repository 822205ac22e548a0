import WatWorkbench.Yaml.Lexer.Stream
import WatWorkbench.Yaml.Node

/-!
# The grammar of documents

Reads the graph of nodes from the tokens of a document.  Nodes get their numbers in the order in
which they begin.  A node may be given a name, and later stand in other places by that name.

* `Draft`, `Read` — what has been read so far, and readings that add to it.
* `Read.node` — reads a node; `Read.blockItems`, `Read.blockPairs`, `Read.flowItems` and
  `Read.flowPairs` read what collections hold.
* `Graph.ofPoints` — the graph of a document, with its outermost node if the document has one.
-/

namespace WatWorkbench.Yaml

/-- What has been read of a document. -/
structure Draft where
  /-- The nodes that have begun. -/
  graph : Graph := #[]
  /-- The nodes that have names. -/
  anchors : List (Text × NodeId) := []
  /-- What tag handles stand for. -/
  handles : List (Text × Text) := []

/-- A reading of nodes, which may fail. -/
abbrev Read := StateT Draft Lex

namespace Read

/-- What tag handles stand for unless a document says otherwise. -/
def defaultHandles : List (Text × Text) := [("!", "!"), ("!!", Tag.beginning)]

/-! ## Tokens -/

/-- The next token. -/
def next : Read Token := Lex.next

/-- Goes on after the next token. -/
def skip : Read Unit := do
  let _ ← Lex.take

/-- Whether the next token is of one of some kinds. -/
def isNext (kinds : List Token.Kind) : Read Bool := do return kinds.contains (← next).kind

/-- Fails at a place, possibly while something is being read that began at another place. -/
def fail {α : Type} (context : Option (Text × Option Mark)) (problem : Text) (mark : Mark) :
    Read α :=
  throw (.wrong context problem mark)

/-- Fails because of the next token. -/
def unexpected {α : Type} (context : Text) (start : Mark) (expected : Text) : Read α := do
  let t ← next
  fail (some (context, some start)) (expected ++ t.kind.name.quoted) t.start

/-! ## Properties -/

/-- What is written in front of a node. -/
structure Properties where
  /-- Where it begins, if there is anything. -/
  start : Option Mark := none
  /-- The name. -/
  anchor : Option Text := none
  /-- The tag in full. -/
  tag : Option Text := none

/-- Reads a name, if one comes next. -/
def anchor? : Read (Option (Text × Mark)) := do
  let t ← next
  match t.kind with
  | .anchor name =>
    skip
    return some (name, t.start)
  | _ => return none

/-- Reads a tag, if one comes next. -/
def tag? : Read (Option (TagText × Mark)) := do
  let t ← next
  match t.kind with
  | .tag text =>
    skip
    return some (text, t.start)
  | _ => return none

/-- A tag in full. -/
def resolve (start : Mark) (tag : TagText × Mark) : Read Text := do
  match tag with
  | (⟨none, suffix⟩, _) => return suffix
  | (⟨some handle, suffix⟩, mark) =>
    match (← get).handles.lookup handle with
    | some beginning => return beginning ++ suffix
    | none =>
      fail (some ("while parsing a node", some start))
        ("found undefined tag handle " ++ handle.quoted) mark

/-- Reads the properties of a node: a name and a tag in either order. -/
def properties : Read Properties := do
  match ← anchor? with
  | some (name, start) =>
    let tag ← tag?
    return ⟨some start, some name, ← tag.mapM (resolve start)⟩
  | none =>
    match ← tag? with
    | some (tag, start) =>
      let anchor ← anchor?
      return ⟨some start, anchor.map (·.1), some (← resolve start (tag, start))⟩
    | none => return {}

/-- Whether the type of a node follows from what it consists of. -/
def Properties.isImplicit (p : Properties) : Bool := p.tag = none || p.tag = some "!"

/-- The type of a node, given the one that follows from what it consists of. -/
def Properties.tagOr (p : Properties) (implied : Tag) : Tag :=
  if p.isImplicit then implied else (p.tag.map Tag.ofText).getD implied

/-! ## Nodes -/

/-- Adds a node, which takes the name among its properties. -/
def add (p : Properties) (implied : Tag) (content : Node.Content) (start : Mark) : Read NodeId := do
  let draft ← get
  let id := draft.graph.size
  let graph := draft.graph.push ⟨p.tagOr implied, content, start⟩
  match p.anchor with
  | none => set { draft with graph }
  | some name =>
    if let some first := draft.anchors.lookup name then
      fail (some ("found duplicate anchor " ++ name.quoted ++ "; first occurrence",
        some (draft.graph.node first).start)) "second occurrence" start
    set { draft with graph, anchors := (name, id) :: draft.anchors }
  return id

/-- Adds a scalar without text. -/
def addEmpty (start : Mark) : Read NodeId := add {} (.core .null) (.scalar "") start

/-- Gives a node its content. -/
def fill (id : NodeId) (content : Node.Content) : Read Unit :=
  modify fun d => { d with graph := d.graph.withContent id content }

/-- Reads the node that a name stands for. -/
def named (name : Text) (start : Mark) : Read NodeId := do
  skip
  match (← get).anchors.lookup name with
  | some id => return id
  | none => fail none ("found undefined alias " ++ name.quoted) start

/-- Where a node stands. -/
inductive Place where
  /-- In a block collection, or alone. -/
  | block
  /-- In a block mapping, where the items of a sequence need not be indented. -/
  | pair
  /-- In brackets or braces. -/
  | flow
  deriving DecidableEq

/-- How messages call a place. -/
def Place.name : Place → Text
  | flow => "flow"
  | _ => "block"

/-- Reads a node unless one of the given tokens comes next; in that case there is an empty scalar at
the given place. -/
def unlessNext (stops : List Token.Kind) (empty : Mark) (read : Read NodeId) : Read NodeId := do
  if ← isNext stops then addEmpty empty else read

/-- Reads the value of a pair.  One without a colon is empty, and so is one in front of one of the
given tokens. -/
def value (stops : List Token.Kind) (read : Read NodeId) : Read NodeId := do
  let t ← next
  if t.kind = .value then
    skip
    unlessNext stops t.stop read
  else addEmpty t.start

/-- Reads a node of which nothing comes but its properties.  There have to be some. -/
def noContent (p : Properties) (place : Place) (start : Mark) : Read NodeId := do
  if p.start.isSome then add p (.core .null) (.scalar "") start
  else
    unexpected ("while parsing a " ++ place.name ++ " node") start
      "expected the node content, but found "

/-- Reads a scalar, which comes next. -/
def scalar (p : Properties) (content : Text) (isPlain : Bool) (start : Mark) : Read NodeId := do
  skip
  let implied := if isPlain || p.tag = some "!" then Tag.ofPlain content else .core .str
  add p implied (.scalar content) start

/-- Reads a sequence, given a reading of its items. -/
def sequence (p : Properties) (start : Mark) (items : Read (List NodeId)) : Read NodeId := do
  let id ← add p (.core .seq) (.sequence []) start
  fill id (.sequence (← items))
  return id

/-- Reads a mapping, given a reading of its pairs. -/
def mapping (p : Properties) (start : Mark) (pairs : Read (List (NodeId × NodeId))) :
    Read NodeId := do
  let id ← add p (.core .map) (.mapping []) start
  fill id (.mapping (← pairs))
  return id

mutual

/-- Reads a node.  The first argument bounds the number of steps, here and below. -/
def node : Nat → Place → Read NodeId
  | 0, _ => addEmpty {}
  | fuel + 1, place => do
    let t ← next
    if let .reference name := t.kind then return ← named name t.start
    let p ← properties
    let t ← next
    let start := p.start.getD t.start
    match t.kind with
    | .scalar content isPlain => scalar p content isPlain start
    | .flowSequenceStart => sequence p start (do skip; flowItems fuel t.start true)
    | .flowMappingStart => mapping p start (do skip; flowPairs fuel t.start true)
    | .blockEntry =>
      if place = .pair then sequence p start (looseItems fuel) else noContent p place start
    | .blockSequenceStart =>
      if place = .flow then noContent p place start
      else sequence p start (do skip; blockItems fuel t.start)
    | .blockMappingStart =>
      if place = .flow then noContent p place start
      else mapping p start (do skip; blockPairs fuel t.start)
    | _ => noContent p place start

/-- Reads the items of an indented sequence that begins at a place. -/
def blockItems : Nat → Mark → Read (List NodeId)
  | 0, _ => return []
  | fuel + 1, start => do
    let t ← next
    match t.kind with
    | .blockEntry =>
      skip
      let item ← unlessNext [.blockEntry, .blockEnd] t.stop (node fuel .block)
      return item :: (← blockItems fuel start)
    | .blockEnd =>
      skip
      return []
    | _ => unexpected "while parsing a block collection" start "expected <block end>, but found "

/-- Reads the items of a sequence that is not indented, as far as there are any. -/
def looseItems : Nat → Read (List NodeId)
  | 0 => return []
  | fuel + 1 => do
    let t ← next
    if t.kind = .blockEntry then
      skip
      let item ← unlessNext [.blockEntry, .key, .value, .blockEnd] t.stop (node fuel .block)
      return item :: (← looseItems fuel)
    else return []

/-- Reads the pairs of an indented mapping that begins at a place. -/
def blockPairs : Nat → Mark → Read (List (NodeId × NodeId))
  | 0, _ => return []
  | fuel + 1, start => do
    let stops : List Token.Kind := [.key, .value, .blockEnd]
    let t ← next
    match t.kind with
    | .key =>
      skip
      let key ← unlessNext stops t.stop (node fuel .pair)
      let value ← value stops (node fuel .pair)
      return (key, value) :: (← blockPairs fuel start)
    | .blockEnd =>
      skip
      return []
    | _ => unexpected "while parsing a block mapping" start "expected <block end>, but found "

/-- Reads the items in brackets that were opened at a place, up to the end of them.  An item with a
mark of a key is a mapping of one pair. -/
def flowItems : Nat → Mark → Bool → Read (List NodeId)
  | 0, _, _ => return []
  | fuel + 1, start, isFirst => do
    let stops : List Token.Kind := [.flowEntry, .flowSequenceEnd]
    unless isFirst || (← isNext [.flowSequenceEnd]) do
      if ← isNext [.flowEntry] then skip
      else unexpected "while parsing a flow sequence" start "expected ',' or ']', but got "
    let t ← next
    match t.kind with
    | .flowSequenceEnd =>
      skip
      return []
    | .key =>
      let item ← mapping {} t.start do
        skip
        let key ← unlessNext (.value :: stops) t.stop (node fuel .flow)
        return [(key, ← value stops (node fuel .flow))]
      return item :: (← flowItems fuel start false)
    | _ =>
      let item ← node fuel .flow
      return item :: (← flowItems fuel start false)

/-- Reads the pairs in braces that were opened at a place, up to the end of them.  A node without a
mark of a key is a key without a value. -/
def flowPairs : Nat → Mark → Bool → Read (List (NodeId × NodeId))
  | 0, _, _ => return []
  | fuel + 1, start, isFirst => do
    let stops : List Token.Kind := [.flowEntry, .flowMappingEnd]
    unless isFirst || (← isNext [.flowMappingEnd]) do
      if ← isNext [.flowEntry] then skip
      else unexpected "while parsing a flow mapping" start "expected ',' or '\x7d', but got "
    let t ← next
    match t.kind with
    | .flowMappingEnd =>
      skip
      return []
    | .key =>
      skip
      let key ← unlessNext (.value :: stops) t.stop (node fuel .flow)
      let value ← value stops (node fuel .flow)
      return (key, value) :: (← flowPairs fuel start false)
    | _ =>
      let key ← node fuel .flow
      let value ← addEmpty (← next).start
      return (key, value) :: (← flowPairs fuel start false)

end

/-! ## Documents -/

/-- Leaves out marks of the ends of documents.  The argument bounds their number. -/
def skipEnds : Nat → Read Unit
  | 0 => return
  | fuel + 1 => do
    if ← isNext [.documentEnd] then
      skip
      skipEnds fuel

/-- Reads directives, with whether one of them gave a version.  The first argument bounds their
number. -/
def directives : Nat → Bool → Read Unit
  | 0, _ => return
  | fuel + 1, hasVersion => do
    let t ← next
    match t.kind with
    | .directive (.version major _) =>
      skip
      if hasVersion then fail none "found duplicate YAML directive" t.start
      if major ≠ 1 then
        fail none "found incompatible YAML document (version 1.* is required)" t.start
      directives fuel true
    | .directive (.handle name beginning) =>
      skip
      if ((← get).handles.lookup name).isSome then
        fail none ("duplicate tag handle " ++ name.quoted) t.start
      modify fun d => { d with handles := (name, beginning) :: d.handles }
      directives fuel hasVersion
    | .directive .unknown =>
      skip
      directives fuel hasVersion
    | _ => return

/-- Reads what comes in front of a document with a mark at its beginning, and that mark. -/
def heading (fuel : Nat) : Read Unit := do
  modify fun d => { d with handles := [] }
  directives fuel false
  modify fun d => { d with handles := d.handles ++ defaultHandles }
  let t ← next
  if t.kind = .documentStart then skip
  else
    fail none ("expected '<document start>', but found " ++ t.kind.name.quoted) t.start

/-- Whether a directive comes next. -/
def atDirective : Read Bool := do
  match (← next).kind with
  | .directive _ => return true
  | _ => return false

/-- Reads the outermost node of a document that has a mark at its beginning. -/
def marked (fuel : Nat) : Read NodeId := do
  heading fuel
  if (← atDirective) || (← isNext [.documentStart, .documentEnd, .streamEnd]) then
    addEmpty (← next).start
  else node fuel .block

/-- Reads the only document, if there is one. -/
def document (fuel : Nat) : Read (Option NodeId) := do
  skip
  if ← isNext [.streamEnd] then return none
  let root ← if (← atDirective) || (← isNext [.documentStart]) then marked fuel
    else
      modify fun d => { d with handles := defaultHandles }
      node fuel .block
  if ← isNext [.documentEnd] then skip
  skipEnds fuel
  let t ← next
  if t.kind ≠ .streamEnd then
    heading fuel
    fail (some ("expected a single document in the stream",
      some ((← get).graph.node root).start)) "but found another document" t.start
  return some root

end Read

/-- The graph of a document, with its outermost node if the document has one. -/
def Graph.ofPoints (points : List Nat) : Except Fault (Graph × Option NodeId) := do
  let fuel := 16 * (points.length + 2)
  let ((root, draft), _) ← ((Read.document fuel).run {}).run (Lexer.ofDocument points)
  return (draft.graph, root)

end WatWorkbench.Yaml
