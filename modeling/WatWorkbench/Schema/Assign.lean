import WatWorkbench.Failure

/-!
# Assigning fields

A record as it can be changed afterwards: what it holds under which names, and what happens when a
name is set.  Names that begin with an underscore are private: they may be set on any record and are
no fields, yet through one of them everything a record holds is replaced.  Some names belong to every
record and can only be read.

* `Record` — a record, and `Record.ofFields`, one with its fields.
* `Record.assign` — sets a name.
* `Record.fields` — the fields of a record, of which one may have got lost.
* `Record.same` — whether two records are equal.
-/

namespace WatWorkbench

/-- A record that has been read, and what has been done to it since. -/
structure Record where
  /-- The name of its class. -/
  className : Text
  /-- Whether its fields may not be changed. -/
  isFrozen : Bool
  /-- The names of its fields. -/
  names : List Text
  /-- What it holds, by name. -/
  content : List (Value × Value)
  /-- What is attached to it beside that. -/
  attached : List (Text × Value) := []

namespace Record

/-- A record with its fields. -/
def ofFields (className : Text) (isFrozen : Bool) (fields : List (Text × Value)) : Record where
  className := className
  isFrozen := isFrozen
  names := fields.map (·.1)
  content := fields.map fun (n, v) => (.text n, v)

/-- The value of a field.  A record whose content was replaced need not have it. -/
def field (r : Record) (name : Text) : Except Failure Value :=
  match Value.lookup? (.text name) r.content with
  | some v => .ok v
  | none =>
    .error (.raised .attribute
      ("'" ++ r.className ++ "' object has no attribute '" ++ name ++ "'"))

/-- The fields of a record. -/
def fields (r : Record) : Except Failure (List (Text × Value)) :=
  r.names.mapM fun name => return (name, ← r.field name)

/-! ## Names -/

/-- Whether a name is private. -/
def isPrivate (name : Text) : Bool := name.startsWith "_"

/-- The names that every record answers to without having a field for them. -/
def readOnly : List Text := ["model_extra", "model_fields_set", "__fields_set__", "__fields__"]

/-- The names that belong to the class of a record. -/
def ofClass : List Text :=
  let marks : Text × Text := ("__pydantic_", "__")
  let own : List Text := ["__class_vars__", "__private_attributes__", "__signature__"]
  let machinery : List Text :=
    [ "complete", "core_schema", "custom_init", "decorators", "generic_metadata",
      "parent_namespace", "post_init", "root_model", "serializer", "validator", "fields",
      "setattr_handlers", "computed_fields" ]
  own ++ machinery.map fun name => marks.1 ++ name ++ marks.2

/-- The names of what is attached to a record and has to agree for two records to be equal. -/
def compared : List Text := ["__pydantic_private__", "__pydantic_extra__"]

/-- The refusal to set a name that can be read only. -/
def refuseReadOnly (r : Record) (name : Text) : Failure :=
  .raised .attribute ("property '" ++ name ++ "' of '" ++ r.className ++ "' object has no setter")

/-- The refusal to set a name that belongs to the class. -/
def refuseOfClass (r : Record) (name : Text) : Failure :=
  let quote : Text := ⟨[0x60]⟩
  .raised .attribute (name.quoted ++ " is a ClassVar of " ++ quote ++ r.className ++ quote
    ++ " and cannot be set on an instance. If you want to set a value on the class, use "
    ++ quote ++ r.className ++ "." ++ name ++ " = value" ++ quote ++ ".")

/-! ## Assignment -/

/-- Sets a private name.  One of them stands for everything the record holds; the name of its class
takes nothing but a class. -/
def assignPrivate (r : Record) (name : Text) (value : Value) : Except Failure Record :=
  if readOnly.contains name then .error (r.refuseReadOnly name)
  else if name = "__dict__" then
    match value with
    | .dict content => .ok { r with content }
    | _ =>
      .error (.raised .type
        ("__dict__ must be set to a dictionary, not a '" ++ value.typeName ++ "'"))
  else if name = "__class__" then
    .error (.raised .type
      ("__class__ must be set to a class, not '" ++ value.typeName ++ "' object"))
  else if name = "__weakref__" then
    .error (.raised .attribute
      ("attribute '__weakref__' of '" ++ r.className ++ "' objects is not writable"))
  else .ok { r with attached := (name, value) :: r.attached }

/-- Sets a field.  The value is not examined. -/
def assignField (r : Record) (name : Text) (value : Value) : Except Failure Record :=
  if r.isFrozen then .error (.invalid ⟨r.className, [⟨some name, .frozen, value⟩]⟩)
  else if readOnly.contains name then .error (r.refuseReadOnly name)
  else if r.names.contains name then
    .ok { r with content := Value.insert (.text name) value r.content }
  else .error (.raised .value ("\"" ++ r.className ++ "\" object has no field \"" ++ name ++ "\""))

/-- Sets a name. -/
def assign (r : Record) (name : Text) (value : Value) : Except Failure Record :=
  if ofClass.contains name then .error (r.refuseOfClass name)
  else if isPrivate name then r.assignPrivate name value
  else r.assignField name value

/-! ## Equality -/

/-- What is attached to a record under a name. -/
def attachment (r : Record) (name : Text) : Value := (r.attached.lookup name).getD .null

/-- Whether two values of a field, or their absence, are the same. -/
def sameContent : Option Value → Option Value → Bool
  | some a, some b => a.same b
  | none, none => true
  | _, _ => false

/-- Whether two records of one class are equal: in their fields, and in some of what is attached to
them. -/
def same (a b : Record) : Bool :=
  (compared.all fun name => (a.attachment name).same (b.attachment name)) &&
    a.names.all fun name =>
      sameContent (Value.lookup? (.text name) a.content) (Value.lookup? (.text name) b.content)

end Record

end WatWorkbench
