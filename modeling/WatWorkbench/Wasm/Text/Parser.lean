import WatWorkbench.Number.LittleEndian
import WatWorkbench.Wasm.Leb128
import WatWorkbench.Wasm.Text.Parser.Instructions

/-!
# Reading the fields of a module's text

From the trees of a text to its fields.  What may be written inside a definition — exports, an
import, the content of a memory or table — becomes a field of its own after it.

* `Parser.fieldOf` — the fields that a tree stands for.
* `Parser.source` — a whole text.
-/

namespace WatWorkbench.Wasm.Parser

open Syntax

/-! ## Parts of fields -/

/-- The exports written inside a definition. -/
def inlineExports (kind : ExternKind) : Parser (List Field) := do
  let names ← (← groups "export").mapM fun ts => inside text ts
  return names.map fun n => .exported n kind .last

/-- The import written inside a definition, if there is one. -/
def inlineImport? : Parser (Option (Text × Text)) := do
  match ← group? "import" with
  | some ts => some <$> inside (do return (← text, ← text)) ts
  | none => return none

/-- The octets of a value among the content of a memory: a string, or numbers of a format, the lowest
octet first. -/
def dataValue? : Tree → Option Bytes
  | .string bs => some bs
  | .group (.word k :: ts) => do
    let formats : List (String × Nat × (List Char → Option Nat)) :=
      [("i8", 1, Literal.bits? 8), ("i16", 2, Literal.bits? 16), ("i32", 4, Literal.bits? 32),
        ("i64", 8, Literal.bits? 64), ("f32", 4, Literal.floating? .single),
        ("f64", 8, Literal.floating? .double)]
    let (size, read) ← listed? formats k
    let numbers ← ts.mapM fun
      | .word cs => read cs
      | _ => none
    return numbers.flatMap (LittleEndian.ofNat size)
  | _ => none

/-- All that is left, as the content of a memory. -/
def content : Parser Bytes := fun ts => (ts.mapM dataValue?).map fun bss => (bss.flatten, [])

/-- The references of a segment: functions after the word for them, or a type with expressions.
Functions without the word are allowed only if `bare` says so. -/
def elemList (bare : Bool) : Parser ElemList := do
  if ← keyword? "func" then return .funcs (← refs)
  match ← refType? with
  | some t => return .exprs t (← remainingItems)
  | none =>
    guard bare
    return .funcs (← refs)

/-- The references inside the definition of a table of some type: expressions, or functions.  Where the
type is not the one that lists of functions have, these are expressions as well. -/
def inlineElems (type : ValType) : Parser ElemList := do
  match ← get with
  | .group _ :: _ => return .exprs type (← remainingItems)
  | _ =>
    let fs ← refs
    if type = .funcref then return .funcs fs
    return .exprs type (fs.map fun f => [.ref .refFunc f])

/-- How many references there are. -/
def ElemList.count : ElemList → Nat
  | .funcs rs => rs.length
  | .exprs _ es => es.length

/-! ## Fields -/

/-- A function type. -/
def typeField : Parser (List Field) := do
  let called ← title
  let t ← inside funcType (← present (← group? "func"))
  return [.type called t.params t.results]

/-- An import. -/
def importField : Parser (List Field) := do
  let module ← text
  let item ← text
  let asked (make : Parser ImportItem) (ts : List Tree) : Parser (List Field) :=
    inside (do return [.imported (← title) module item (← make)]) ts
  if let some ts ← group? "func" then return ← asked (.func <$> typeUse) ts
  if let some ts ← group? "table" then return ← asked (.table <$> tableType) ts
  if let some ts ← group? "memory" then return ← asked (.memory <$> limits) ts
  if let some ts ← group? "global" then return ← asked (.global <$> globalType) ts
  failure

/-- A function. -/
def funcField : Parser (List Field) := do
  let called ← title
  let exports ← inlineExports .func
  match ← inlineImport? with
  | some (module, item) => return .imported called module item (.func (← typeUse)) :: exports
  | none =>
    let type ← typeUse
    let locals ← (← groups "local").mapM fun ts => inside varGroup ts
    return .func called type locals.flatten (← remainingOps) :: exports

/-- A table. -/
def tableField : Parser (List Field) := do
  let called ← title
  let exports ← inlineExports .table
  match ← inlineImport? with
  | some (module, item) => return .imported called module item (.table (← tableType)) :: exports
  | none =>
    let w ← width
    match ← refType? with
    | none =>
      let type : TableType := ⟨← limitsOf w, ← refType⟩
      if ← atEnd then return .table called type none :: exports
      return .table called type (some (← remainingOps)) :: exports
    | some type =>
      let items ← inside (inlineElems type) (← present (← group? "elem"))
      let count := ElemList.count items
      return .table called ⟨⟨w, count, some count⟩, type⟩ none :: exports
        ++ [.elem {} (.activeLast [zero w]) items]

/-- A memory. -/
def memoryField : Parser (List Field) := do
  let called ← title
  let exports ← inlineExports .memory
  match ← inlineImport? with
  | some (module, item) => return .imported called module item (.memory (← limits)) :: exports
  | none =>
    let w ← width
    match ← group? "data" with
    | none => return .memory called (← limitsOf w) :: exports
    | some ts =>
      let bs ← inside content ts
      let pages := (bs.length + pageSize - 1) / pageSize
      return .memory called ⟨w, pages, some pages⟩ :: exports
        ++ [.data {} (.activeLast [zero w]) bs]

/-- A global variable. -/
def globalField : Parser (List Field) := do
  let called ← title
  let exports ← inlineExports .global
  match ← inlineImport? with
  | some (module, item) => return .imported called module item (.global (← globalType)) :: exports
  | none =>
    let type ← globalType
    return .global called type (← remainingOps) :: exports

/-- An export. -/
def exportField : Parser (List Field) := do
  let name ← text
  let kinds : List (String × ExternKind) :=
    [("func", .func), ("table", .table), ("memory", .memory), ("global", .global)]
  match ← get with
  | [.group (.word k :: ts)] =>
    set ([] : List Tree)
    return [.exported name (← present (listed? kinds k)) (.ref (← inside ref ts))]
  | _ => failure

/-- Whether a segment of references goes into a table: a number or a group that is no type comes
next. -/
def goesIntoTable : List Tree → Bool
  | .word cs :: _ => (Literal.unsigned? cs).isSome
  | .group ts :: _ => (refTypeOf? (.group ts)).isNone
  | _ => false

/-- Where a segment of references goes, and whether it may list functions without a word for them:
only where its table is not named as one. -/
def elemPlace : Parser (ElemPlace × Bool) := do
  if ← keyword? "declare" then return (.declared, false)
  if !goesIntoTable (← get) then return (.passive, false)
  if let some n ← natural? 32 then return (.active (some (.index n)) (← elemOffset), true)
  match ← group? "table" with
  | some ts =>
    let table ← inside ref ts
    return (.active (some table) (← elemOffset), false)
  | none => return (.active none (← elemOffset), true)

/-- A segment of references. -/
def elemField : Parser (List Field) := do
  let called ← title
  let (place, bare) ← elemPlace
  return [.elem called place (← elemList bare)]

/-- Where a segment of octets goes.  Where a string or nothing comes next, it goes nowhere by
itself. -/
def dataPlace : Parser DataPlace := do
  match ← get with
  | [] | .string _ :: _ => return .passive
  | _ =>
    let memory ← match ← natural? 32 with
      | some n => pure (Ref.index n)
      | none => match ← group? "memory" with
        | some ts => inside ref ts
        | none => pure (.index 0)
    return .active memory (← dataOffset)

/-- A segment of octets. -/
def dataField : Parser (List Field) := do
  let called ← title
  return [.data called (← dataPlace) (← content)]

/-- The parser of a field that begins with a given word. -/
def fieldParser? (k : List Char) : Option (Parser (List Field)) :=
  listed? [("type", typeField), ("import", importField), ("func", funcField), ("table", tableField),
    ("memory", memoryField), ("global", globalField), ("export", exportField),
    ("start", do return [.start (← ref)]), ("elem", elemField), ("data", dataField)] k

/-! ## Annotations -/

/-- The words for the kinds of sections. -/
def sectionKinds : List (String × SectionKind) :=
  [("type", .type), ("import", .imported), ("func", .func), ("table", .table),
    ("memory", .memory), ("global", .global), ("export", .exported), ("start", .start),
    ("elem", .elem), ("code", .code), ("data", .data), ("tag", .tag)]

/-- The place of a section for other programs. -/
def customPlace : Parser CustomPlace := do
  let kind : Parser SectionKind := do
    present ((← wordIf fun _ => true).bind (listed? sectionKinds))
  if ← keyword? "before" then
    if ← keyword? "first" then return .first
    return .before (← kind)
  if ← keyword? "after" then
    if ← keyword? "last" then return .last
    return .after (← kind)
  failure

/-- A section for other programs: its name, its place, which is the last one unless it is said, and
its octets. -/
def customSection : Parser CustomSection := do
  let name ← text
  let place ← match ← get with
    | .group ts :: rest =>
      set rest
      inside customPlace ts
    | _ => pure .last
  return ⟨name, place, ← allBytes⟩

/-- The octets of a text with their number before them. -/
def sizedText (t : Text) : Bytes :=
  let bs := t.encodeAny
  Leb128.unsigned bs.length ++ bs

/-- The entries about the making of a module that are of one kind, each a name and a version, unless
there are none. -/
def producersOf (kind : Text) (entries : List (Text × Text)) : Option Bytes :=
  if entries.isEmpty then none
  else some (sizedText kind ++ Leb128.unsigned entries.length
    ++ entries.flatMap fun (name, version) => sizedText name ++ sizedText version)

/-- The kinds of entries about the making of a module. -/
def producerKinds : List Text := ["language", "sdk", "processed-by"]

/-- The section about the making of a module. -/
def producers : Parser CustomSection := fun ts => do
  let entries ← ts.mapM fun
    | .group (.word k :: members) => do
      let kind ← producerKinds.find? (·.toChars = k)
      let entry ← whole (do return (← text, ← text)) members
      return (kind, entry)
    | _ => none
  let kinds := producerKinds.filterMap fun k =>
    producersOf k ((entries.filter (·.1 = k)).map (·.2))
  return (⟨"producers", .last, Leb128.unsigned kinds.length ++ kinds.flatten⟩, [])

/-- The parser of an annotation of a module. -/
def annotationParser? (name : List Char) : Option (Parser CustomSection) :=
  listed? [("custom", customSection), ("producers", producers)] name

/-! ## Texts -/

/-- The fields that a tree stands for. -/
def fieldOf : Tree → Option (List Field)
  | .group (.word k :: ts) => do whole (← fieldParser? k) ts
  | .annotated name ts => do return [.custom (← whole (← annotationParser? name) ts)]
  | _ => none

/-- What a module's text says in the group around all of it, without the word it begins with, if there
is such a group.  Behind the group, annotations mean nothing. -/
def moduleGroup? : List Tree → Option (List Tree)
  | .group (.word ['m', 'o', 'd', 'u', 'l', 'e'] :: members) :: rest =>
    let isAnnotation
      | Tree.annotated _ _ => true
      | _ => false
    if rest.all isAnnotation then some members else none
  | _ => none

/-- A module's text: its fields, with or without a group around them. -/
def source (ts : List Tree) : Option Source :=
  match moduleGroup? ts with
  | some members => do
    let (called, rest) ← title members
    return ⟨called, (← rest.mapM fieldOf).flatten⟩
  | none => do return ⟨{}, (← ts.mapM fieldOf).flatten⟩

end WatWorkbench.Wasm.Parser
