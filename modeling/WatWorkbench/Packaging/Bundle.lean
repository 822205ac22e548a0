import WatWorkbench.Archive.Reader
import WatWorkbench.Archive.Writer
import WatWorkbench.Packaging.Documents
import WatWorkbench.Pipeline.World

/-!
# Packages

A package is an archive of a binary, the source it was translated from and the two documents that
go with them, in this order.  Equal binaries and sources give equal packages.

* `Packaging.contents` — what a package holds.
* `Packaging.build` — a package.
* `Packaging.publish` — writing a package to a file that is never seen half written.
-/

namespace WatWorkbench.Packaging

variable {M I H : Type}

/-- The logger of packages that are given none. -/
def loggerName : Text := channelName ++ ".packaging.archive"

/-- The name of an archive that is given none. -/
def defaultName : Text := "wasm-module.zip"

/-- The names in a package, in order. -/
def names : List Text :=
  [Documents.binaryName, Documents.sourceName, Documents.runnerName, Documents.readmeName]

/-- The failure to assemble or to write a package. -/
def refusal (message : Text) : Failure := .stage .packaging message

/-! ## Assembling -/

/-- The octets that an item of a list stands for. -/
def octet : Value → Except Failure UInt8
  | .int n =>
    if 0 ≤ n && n < 256 then .ok n.toNat.toUInt8
    else .error (refusal "bytes must be in range(0, 256)")
  | .bool b => .ok (if b then 1 else 0)
  | v => .error (refusal ("'" ++ v.typeName ++ "' object cannot be interpreted as an integer"))

/-- The most octets that can be counted. -/
def maxCount : Int := 0x7FFFFFFFFFFFFFFF

/-- As many zeros as a number says. -/
def zeros (n : Int) : Except Failure Bytes :=
  if maxCount < n.natAbs then
    .error (.raised .overflow "cannot fit 'int' into an index-sized integer")
  else if n < 0 then .error (refusal "negative count")
  else .ok (List.replicate n.toNat 0)

/-- The octets that a value stands for: its own, as many zeros as it says, or one for each item. -/
def octets : Value → Except Failure Bytes
  | .bytes bs => .ok bs
  | .int n => zeros n
  | .bool b => zeros (if b then 1 else 0)
  | .list vs | .tuple vs | .set vs => vs.mapM octet
  | .dict es => (es.map (·.1)).mapM octet
  | .text _ => .error (refusal "string argument without an encoding")
  | v => .error (refusal ("cannot convert '" ++ v.typeName ++ "' object to bytes"))

/-- The octets of a text in a package. -/
def encoded (t : Text) : Except Failure Bytes := t.encode.mapError fun f => refusal f.message

/-- What a package holds. -/
def contents (binary : Bytes) (source : Text) : Except Failure (List (Text × Bytes)) := do
  return [(Documents.binaryName, binary),
    (Documents.sourceName, ← encoded source),
    (Documents.runnerName, ← encoded Documents.runnerPage),
    (Documents.readmeName, ← encoded Documents.readme)]

/-- The package of a binary and a source. -/
def build (logger : Text) (binary : Bytes) (source : Text) (pack : Bytes → Bytes := Deflate.store) :
    Act (World M I H) Bytes := do
  let entries ← World.settle (contents binary source)
  let data := Archive.write entries pack
  World.log logger Level.debug "Packaged %d entries into %d bytes"
    [.int entries.length, .int data.length]
  return data

/-- The package of an artifact. -/
def ofArtifact (logger : Text) (a : Artifact M) : Act (World M I H) Bytes :=
  build logger a.binary a.source

/-! ## Writing -/

/-- What a failure of the file system is to the one who wants the package. -/
def unwritable (p : Path) : Failure → Failure
  | .file f => refusal ("Cannot write archive '" ++ p.text ++ "': " ++ f.message)
  | e => e

/-- The files after a failure with a temporary file in place.  Only a failure of the file system has
it removed. -/
def tidied (e : Failure) (place : Place) (fs : FileSystem) : FileSystem :=
  if FileSystem.isFault e then fs.remove place else fs

/-- Writes a package to a file.  The octets go to a temporary file beside it, which then takes its
place in one step; if the file system refuses anything the temporary file is removed. -/
def publish (data : Bytes) (p : Path) (fs : FileSystem) : Except Failure Unit × FileSystem :=
  match fs.makeDirectories p.parent with
  | (.error e, fs) => (.error (unwritable p e), fs)
  | (.ok (), fs) =>
    match fs.createTemporary p.parent p.name with
    | (.error e, fs) => (.error (unwritable p e), fs)
    | (.ok (temporary, place), fs) =>
      match fs.fill temporary place data with
      | (.error e, fs) => (.error (unwritable p e), tidied e place fs)
      | (.ok (), fs) =>
        match fs.replace temporary place p with
        | .error e => (.error (unwritable p e), tidied e place fs)
        | .ok fs => (.ok (), fs)

end WatWorkbench.Packaging
