import WatWorkbench.Failure

/-!
# Paths

A path is a sequence of names under an anchor.  Empty names and single dots say nothing and are
left out when a path is read; double dots stay, since what they mean depends on the files.

* `Path`, `Path.ofText`, `Path.text` — the type, reading and writing.
* `Path.name`, `Path.stem`, `Path.suffix`, `Path.parent`, `Path.join` — parts of paths.
* `Path.check` — the paths that the system cannot even be asked about.
-/

namespace WatWorkbench

/-- Where a path begins. -/
inductive Anchor where
  /-- In the working directory. -/
  | here
  /-- In the working directory, which is named in full. -/
  | working (text : Text)
  /-- At the root, which is written with one slash or with two. -/
  | root (doubled : Bool)
  deriving DecidableEq, Inhabited, Repr

/-- A path. -/
structure Path where
  /-- Where it begins. -/
  anchor : Anchor := .here
  /-- The names. -/
  parts : List Text := []
  deriving DecidableEq, Inhabited, Repr

namespace Path

/-- The code point of a slash. -/
def slash : Nat := '/'.toNat

/-- The name of the directory above. -/
def upName : Text := ".."

/-- Reads a path. -/
def ofText (t : Text) : Path where
  anchor :=
    let count := (t.points.takeWhile (· = slash)).length
    if count = 0 then .here else .root (count = 2)
  parts := (t.splitOn slash).filter fun p => !p.isEmpty && p ≠ "."

/-- The text of an anchor. -/
def anchorText : Anchor → Text
  | .here => ""
  | .working t => t
  | .root doubled => if doubled then "//" else "/"

/-- The text of a path. -/
def text (p : Path) : Text :=
  match p.anchor, p.parts with
  | .here, [] => "."
  | .working t, parts => Text.join "/" (t :: parts)
  | a, parts => anchorText a ++ Text.join "/" parts

/-- The last name, or the empty text. -/
def name (p : Path) : Text := p.parts.getLastD ""

/-- A name up to its last dot and from there on.  A dot at the beginning or the end does not
count. -/
def splitName (name : Text) : Text × Text :=
  let after := (name.points.reverse.takeWhile (· ≠ '.'.toNat)).length
  let before := name.length - after - 1
  if after < name.length && 0 < before && 0 < after then (name.take before, name.drop before)
  else (name, "")

/-- The last name without its suffix. -/
def stem (p : Path) : Text := (splitName p.name).1

/-- The suffix of the last name, with its dot. -/
def suffix (p : Path) : Text := (splitName p.name).2

/-- The path without its last name. -/
def parent (p : Path) : Path := { p with parts := p.parts.dropLast }

/-- A path seen from another one. -/
def join (p q : Path) : Path :=
  match q.anchor with
  | .here => { p with parts := p.parts ++ q.parts }
  | _ => q

/-- The path of a name in a directory. -/
def child (p : Path) (name : Text) : Path := { p with parts := p.parts ++ [name] }

/-- The path named in full, with double dots resolved by leaving out the names before them. -/
def full (p : Path) (working : Text) : Path where
  anchor := match p.anchor with
    | .here => .working working
    | a => a
  parts := (p.parts.foldl step []).reverse
where
  /-- Adds a name to names in reverse order. -/
  step (done : List Text) (name : Text) : List Text :=
    if name ≠ upName then name :: done
    else match done with
      | [] => match p.anchor with
        | .root _ => []
        | _ => [upName]
      | n :: rest => if n = upName then upName :: done else rest

/-! ## Paths the system cannot be asked about -/

/-- Surrogates that stand for an octet each in the names of files. -/
def isOctetPoint (c : Nat) : Bool := 0xDC80 ≤ c && c ≤ 0xDCFF

/-- The first run of surrogates with one that stands for no octet.  The first argument bounds the
number of runs. -/
def unencodable (offset : Nat) : Nat → List Nat → Option EncodeFault
  | 0, _ => none
  | fuel + 1, cs =>
    let before := (cs.takeWhile fun c => !Text.isSurrogate c).length
    let rest := cs.drop before
    let run := rest.takeWhile Text.isSurrogate
    match run with
    | [] => none
    | c :: _ =>
      if run.all isOctetPoint then
        unencodable (offset + before + run.length) fuel (rest.drop run.length)
      else some ⟨.utf8, offset + before, c, run.length⟩

/-- The names of files are octets other than zero, so some texts name no file. -/
def check (p : Path) : Except Failure Unit :=
  let points := p.text.points
  match unencodable 0 points.length points with
  | some fault => .error (.unencodable fault)
  | none => if points.contains 0 then .error (.raised .value "embedded null byte") else .ok ()

/-- How many octets a name has. -/
def nameSize (name : Text) : Nat :=
  name.points.foldl (fun size c =>
    size + if isOctetPoint c then 1 else (Utf8.encodePoint c).length) 0

end Path

end WatWorkbench
