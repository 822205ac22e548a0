import WatWorkbench.Pipeline.World

/-!
# The sandbox

Running a module: it is linked with the default host functions, overlaid with those of the caller,
and its entry point is called if it has one.  The instance is gone afterwards.

* `Sandbox.defaultImports` — the default host functions, which write to a logger.
* `Sandbox.runModule` — a run.
* `Results.text` — what a run gave, as lines.
-/

namespace WatWorkbench

namespace Sandbox

variable {M I H : Type}

/-- The export that is called. -/
def entryPoint : Text := "main"

/-- What the lines of the default host functions begin with. -/
def logPrefix : Text := "WASM log: "

/-- The logger of runs that are given none. -/
def loggerName : Text := channelName ++ ".runtime.sandbox"

/-! ## The default host functions -/

/-- The parameter names that are missing, as a list in words. -/
def enumerated : List Text → Text
  | [] => ""
  | [a] => a
  | [a, b] => a ++ " and " ++ b
  | names => Text.join ", " names.dropLast ++ ", and " ++ names.getLastD ""

/-- What is wrong with the number of arguments, if anything is. -/
def arityFault (function : Text) (params : List Text) (given : Nat) : Option Failure :=
  let count := params.length
  let refuse (t : Text) : Option Failure := some (.raised .type (function ++ "() " ++ t))
  let plural (n : Nat) : Text := if n = 1 then "" else "s"
  if count < given then
    refuse ("takes " ++ Text.decimal count ++ " positional argument" ++ plural count ++ " but "
      ++ Text.decimal given ++ " were given")
  else if given < count then
    let missing := (params.drop given).map Text.quoted
    refuse ("missing " ++ Text.decimal missing.length ++ " required positional argument"
      ++ plural missing.length ++ ": " ++ enumerated missing)
  else none

/-- Writes a line of a default host function. -/
def logLine (logger : Text) (v : Value) : Act (World M I H) Unit :=
  World.log logger Level.info "%s%s" [.text logPrefix, v]

/-- Logs a value and gives it back. -/
def logValue (logger : Text) (args : List Value) : Act (World M I H) Value :=
  match args with
  | [v] => do
    logLine logger v
    return v
  | _ => throw ((arityFault "default_imports.<locals>.log_value" ["value"] args.length).getD
      (.raised .type ""))

/-- An integer read as an unsigned one of 32 bits. -/
def unsigned? (v : Value) : Except Failure Nat :=
  match v with
  | .int i => .ok (i % 0x100000000).toNat
  | .bool b => .ok (if b then 1 else 0)
  | v => .error (.raised .type
      ("unsupported operand type(s) for &: '" ++ v.typeName ++ "' and 'int'"))

/-- The octets of a range of the caller's memory, which has to lie inside it. -/
def stringRange (caller : Caller) (start length : Value) : Except Failure Bytes := do
  match caller.get? "memory" with
  | none => throw (.stage .runtime
      "log_string requires the module to export its memory as 'memory'")
  | some exported =>
    let first ← unsigned? start
    let stop := first + (← unsigned? length)
    match exported with
    | .memory m =>
      if m.size < stop then
        throw (.stage .runtime ("log_string range [" ++ Text.decimal first ++ ", "
          ++ Text.decimal stop ++ ") is outside linear memory"))
      return m.read first (stop - first)
    | other => throw (.raised .attribute
        ("'" ++ other.typeName ++ "' object has no attribute 'data_len'"))

/-- Logs a text from the caller's memory. -/
def logString (logger : Text) (caller : Caller) (args : List Value) : Act (World M I H) Value :=
  match args with
  | [start, length] => do
    let bytes ← World.settle (stringRange caller start length)
    logLine logger (.text (Text.decodeLossy bytes))
    return .null
  | _ => throw ((arityFault "default_imports.<locals>.log_string" ["caller", "ptr", "length"]
      (args.length + 1)).getD (.raised .type ""))

/-- The default host functions. -/
def defaultImports (logger : Text) : ImportTable (Import (World M I H)) :=
  [("env", [("log", .function (logValue logger)),
    ("log_string", .withCaller (logString logger))])]

/-! ## Runs -/

/-- Runs a module. -/
def runModule (id : Nat) (e : Engine M I) (logger : Text) (m : M)
    (imports : ImportTable (Import (World M I H))) : Act (World M I H) Results := do
  let table := ImportTable.merge (defaultImports logger) imports
  let i ← World.instantiate id e m table
  if ← World.hasEntry id e i entryPoint then
    return [(entryPoint, ← World.invoke id e i entryPoint table)]
  else
    World.log logger Level.debug
      "Module exports no zero-argument '%s'; nothing to invoke" [.text entryPoint]
    return []

end Sandbox

/-! ## Results -/

/-- The refusal to write out a very long integer. -/
def tooLong : Failure := .raised .value
  ("Exceeds the limit (4300 digits) for integer string conversion; "
    ++ "use sys.set_int_max_str_digits() to increase the limit")

/-- What a run gave, a line for each export. -/
def Results.text (r : Results) : Except Failure Text :=
  if r.isEmpty then .ok "No results returned"
  else do
    let lines ← r.mapM fun (name, v) =>
      if v.isSpellable then .ok (name ++ ": " ++ v.plain) else .error tooLong
    return Text.join "\n" lines

end WatWorkbench
