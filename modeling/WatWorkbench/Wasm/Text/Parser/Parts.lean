import WatWorkbench.Wasm.Text.Field
import WatWorkbench.Wasm.Text.Literal

/-!
# Reading the small parts of a module's text

What fields and instructions are made of: names, references, strings, types and limits.  A parser
takes trees from the front; a part in parentheses is read to its end by a parser of its own.

* `Parser` — parsers, with `Parser.inside` for groups.
* `Parser.title`, `Parser.ref` — names and references.
* `Parser.typeUse` — the use of a function type.
* `Parser.limits`, `Parser.tableType`, `Parser.globalType` — the types of other parts.
-/

namespace WatWorkbench.Wasm.Parser

open Syntax

/-- A parser takes trees from the front, or fails. -/
abbrev Parser := StateT (List Tree) Option

/-- Whether there are no trees left. -/
def atEnd : Parser Bool := do return (← get).isEmpty

/-- Fails unless a condition holds. -/
def guard (p : Bool) : Parser Unit := if p then pure () else failure

/-- Fails where there is nothing. -/
def present {α : Type} : Option α → Parser α
  | some a => pure a
  | none => failure

/-- Runs a parser on trees, all of which it has to take. -/
def whole {α : Type} (p : Parser α) (ts : List Tree) : Option α :=
  match p ts with
  | some (a, []) => some a
  | _ => none

/-- Runs a parser on trees, all of which it has to take, and goes on with the trees at hand. -/
def inside {α : Type} (p : Parser α) (ts : List Tree) : Parser α := present (whole p ts)

/-- A word that satisfies a condition, if one is next. -/
def wordIf (p : List Char → Bool) : Parser (Option (List Char)) := fun
  | .word cs :: ts => if p cs then some (some cs, ts) else some (none, .word cs :: ts)
  | ts => some (none, ts)

/-- Whether a given word is next; it is taken. -/
def keyword? (k : String) : Parser Bool := do return (← wordIf (· = k.toList)).isSome

/-- The members, the first one left out, of a group that begins with a given word, if one is
next. -/
def group? (k : String) : Parser (Option (List Tree)) := fun
  | .group (.word cs :: members) :: ts =>
    if cs = k.toList then some (some members, ts) else some (none, .group (.word cs :: members) :: ts)
  | ts => some (none, ts)

/-- Whether a group that begins with a given word is next. -/
def beginsGroup (k : String) : List Tree → Bool
  | .group (.word cs :: _) :: _ => cs = k.toList
  | _ => false

/-- The groups that begin with a given word at the front of some trees, without that word, and the
trees after them. -/
def spanGroups (k : String) : List Tree → List (List Tree) × List Tree
  | .group (.word cs :: members) :: ts =>
    if cs = k.toList then
      let (gs, rest) := spanGroups k ts
      (members :: gs, rest)
    else ([], .group (.word cs :: members) :: ts)
  | ts => ([], ts)

/-- As many groups that begin with a given word as come next. -/
def groups (k : String) : Parser (List (List Tree)) := fun ts => some (spanGroups k ts)

/-! ## Strings -/

/-- A string as octets. -/
def bytes : Parser Bytes := fun
  | .string bs :: ts => some (bs, ts)
  | _ => none

/-- The octets of a string. -/
def bytesOf? : Tree → Option Bytes
  | .string bs => some bs
  | _ => none

/-- All that is left, as strings, one after another. -/
def allBytes : Parser Bytes := fun ts =>
  (ts.mapM bytesOf?).map fun bss => (bss.flatten, [])

/-- The text that octets spell. -/
def textOf? (bs : Bytes) : Option Text :=
  match Text.decode bs with
  | .ok t => some t
  | .error _ => none

/-- A string as a text. -/
def text : Parser Text := do present (textOf? (← bytes))

/-! ## Names and references -/

/-- A name, if one is next. -/
def ident? : Parser (Option Ident) := fun
  | .ident cs :: ts => some (some cs, ts)
  | ts => some (none, ts)

/-- A name for diagnostics, if one is next. -/
def label? : Parser (Option Text) := do
  match ← get with
  | .annotated cs members :: ts =>
    if cs = "name".toList then
      set ts
      some <$> inside text members
    else return none
  | _ => return none

/-- What a part is called. -/
def title : Parser Title := do return ⟨← ident?, ← label?⟩

/-- The natural below a power of two that a word spells. -/
def naturalOf? (width : Nat) (cs : List Char) : Option Nat :=
  (Literal.unsigned? cs).filter (· < Nat.pow 2 width)

/-- A natural below a power of two, if one is next. -/
def natural? (width : Nat) : Parser (Option Nat) := do
  return (← wordIf fun cs => (naturalOf? width cs).isSome).bind (naturalOf? width)

/-- A reference, if one is next. -/
def ref? : Parser (Option Ref) := do
  match ← ident? with
  | some name => return some (.ident name)
  | none => return (← natural? 32).map .index

/-- A reference. -/
def ref : Parser Ref := do present (← ref?)

/-- A reference, which is to the first part if none is next. -/
def refOrFirst : Parser Ref := do return (← ref?).getD (.index 0)

/-- As many references as come next, but not more than the first argument says. -/
def refsUpTo : Nat → Parser (List Ref)
  | 0 => return []
  | n + 1 => do
    match ← ref? with
    | some r => return r :: (← refsUpTo n)
    | none => return []

/-- As many references as come next. -/
def refs : Parser (List Ref) := do refsUpTo (← get).length

/-! ## Types -/

/-- The type that a word names, or a reference type in parentheses.  References to functions have an
old name as well. -/
def valTypeOf? : Tree → Option ValType
  | .word cs =>
    if cs = "anyfunc".toList then some .funcref else ValType.all.find? (·.name.toList = cs)
  | .group [.word r, .word n, .word h] =>
    if r = "ref".toList && n = "null".toList then
      if h = "func".toList then some .funcref
      else if h = "extern".toList then some .externref else none
    else none
  | _ => none

/-- The reference type that a tree stands for. -/
def refTypeOf? (t : Tree) : Option ValType := (valTypeOf? t).filter (!·.isNumeric)

/-- A value type. -/
def valType : Parser ValType := fun
  | t :: ts => (valTypeOf? t).map (·, ts)
  | [] => none

/-- A reference type, if one is next. -/
def refType? : Parser (Option ValType) := fun
  | t :: ts =>
    match refTypeOf? t with
    | some r => some (some r, ts)
    | none => some (none, t :: ts)
  | [] => some (none, [])

/-- A reference type. -/
def refType : Parser ValType := do present (← refType?)

/-- All that is left, as value types. -/
def allValTypes : Parser (List ValType) := fun ts => (ts.mapM valTypeOf?).map (·, [])

/-- The parameters or variables of a group: one that is called something, or any number of others. -/
def varGroup : Parser (List Variable) := do
  if ← atEnd then return []
  let called ← title
  if called = {} then return (← allValTypes).map fun t => ⟨{}, t⟩
  return [⟨called, ← valType⟩]

/-- The parameters of a group where they are called nothing. -/
def nameless : Parser (List Variable) := do return (← allValTypes).map fun t => ⟨{}, t⟩

/-- The use of a function type with the groups of parameters and of results that come next.  No
parameters come after results.  The first argument bounds the number of groups, the second reads the
parameters of a group. -/
def signature (params : Parser (List Variable)) : Nat → TypeUse → Parser TypeUse
  | 0, t => return t
  | fuel + 1, t => do
    match ← group? "param" with
    | some ts =>
      guard t.results.isEmpty
      let vs ← inside params ts
      signature params fuel { t with isInline := true, params := t.params ++ vs }
    | none =>
      match ← group? "result" with
      | some ts =>
        let rs ← inside allValTypes ts
        signature params fuel { t with isInline := true, results := t.results ++ rs }
      | none => return t

/-- A function type that is written out. -/
def funcType : Parser TypeUse := do signature varGroup (← get).length {}

/-- The use of a function type, with a parser for the parameters of a group. -/
def typeUseWith (params : Parser (List Variable)) : Parser TypeUse := do
  let type ← match ← group? "type" with
    | some ts => some <$> inside ref ts
    | none => pure none
  signature params (← get).length { type }

/-- The use of a function type. -/
def typeUse : Parser TypeUse := typeUseWith varGroup

/-- The use of a function type whose parameters are called nothing. -/
def namelessTypeUse : Parser TypeUse := typeUseWith nameless

/-- The width of the integers that places are counted with, which is the smaller one unless the
other one is named. -/
def width : Parser Width := do
  if ← keyword? "i64" then return .w64
  let _ ← keyword? "i32"
  return .w32

/-- Limits after their width. -/
def limitsOf (w : Width) : Parser Limits := do
  let min ← present (← natural? w.size)
  return ⟨w, min, ← natural? w.size⟩

/-- Limits. -/
def limits : Parser Limits := do limitsOf (← width)

/-- The type of a table. -/
def tableType : Parser TableType := do
  let l ← limits
  return ⟨l, ← refType⟩

/-- The type of a global variable. -/
def globalType : Parser GlobalType := do
  match ← group? "mut" with
  | some ts => return ⟨true, ← inside valType ts⟩
  | none => return ⟨false, ← valType⟩

end WatWorkbench.Wasm.Parser
