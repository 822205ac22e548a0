import WatWorkbench.Schema.Convert

/-!
# Compiled artifacts

The result of one successful compilation: the engine's handle on the module, the octets it was
loaded from and the source they were translated from.
-/

namespace WatWorkbench

/-- The result of one compilation, over engines whose module handles are of type `M`. -/
structure Artifact (M : Type) where
  /-- The engine's handle. -/
  module : M
  /-- The octets that the handle was loaded from. -/
  binary : Bytes
  /-- The text that the octets were translated from. -/
  source : Text
  deriving DecidableEq

namespace Artifact

/-- The name under which violations are reported. -/
def recordName : Text := "CompiledArtifact"

/-- The artifact of a module.  Its source has to consist of characters. -/
def ofModule {M : Type} (module : M) (binary : Bytes) (source : Text) : Except Report (Artifact M) :=
  match Convert.text (.text source) with
  | .ok s => .ok ⟨module, binary, s⟩
  | .error cause => .error ⟨recordName, [⟨some "source", cause, .text source⟩]⟩

/-- Reads an artifact from a dictionary with the fields `module`, `binary` and `source`; any value
is a handle. -/
def ofValue (data : Value) : Except Report (Artifact Value) :=
  match data with
  | .dict entries =>
    let module := Convert.required data entries "module" .ok
    let binary := Convert.required data entries "binary" Convert.octets
    let source := Convert.required data entries "source" Convert.text
    match Convert.both (Convert.both module binary) source with
    | .ok ((m, b), s) => .ok ⟨m, b, s⟩
    | .error vs => .error ⟨recordName, vs⟩
  | _ => .error ⟨recordName, [⟨none, .notRecord, data⟩]⟩

/-- The fields of an artifact whose handle is a value. -/
def fields (a : Artifact Value) : List (Text × Value) :=
  [("module", a.module), ("binary", .bytes a.binary), ("source", .text a.source)]

end Artifact

end WatWorkbench
