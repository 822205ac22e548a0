import WatWorkbench.Failure
import WatWorkbench.Schema.Convert

/-!
# The catalog of example modules

Four small modules that come with the program.  Each exports a function `main` without parameters
that returns an `i32`.

* `Example`, `Example.ofValue` — an example, and how one is read from data.
* `Catalog.examples` — the examples, in order.
* `Catalog.find` — the example under a key.
-/

namespace WatWorkbench

/-- A module text that comes with the program. -/
structure Example where
  /-- The name by which it is asked for. -/
  key : Text
  /-- The name that is shown. -/
  title : Text
  /-- The module text. -/
  source : Text
  deriving DecidableEq, Inhabited, Repr

namespace Example

/-- Reads an example from a dictionary with the fields `key`, `title` and `source`. -/
def ofValue (data : Value) : Except Report Example :=
  match data with
  | .dict entries =>
    let text name := Convert.required data entries name Convert.text
    match Convert.both (Convert.both (text "key") (text "title")) (text "source") with
    | .ok ((k, t), s) => .ok ⟨k, t, s⟩
    | .error vs => .error ⟨"Example", vs⟩
  | _ => .error ⟨"Example", [⟨none, .notRecord, data⟩]⟩

/-- The fields of an example. -/
def fields (e : Example) : List (Text × Value) :=
  [("key", .text e.key), ("title", .text e.title), ("source", .text e.source)]

end Example

namespace Catalog

/-- Lines one after another, with line feeds between. -/
def ofLines (lines : List String) : Text := Text.join "\n" (lines.map Text.ofString)

/-- Returns a constant. -/
def hello : Example :=
  ⟨"hello", "Hello", ofLines [
    "(module",
    "  (func $main (result i32)",
    "    i32.const 42)",
    "  (export \"main\" (func $main)))" ]⟩

/-- Adds two numbers through a function of its own. -/
def addition : Example :=
  ⟨"addition", "Addition", ofLines [
    "(module",
    "  (func $add (param $a i32) (param $b i32) (result i32)",
    "    (i32.add (local.get $a) (local.get $b)))",
    "  (func $main (result i32)",
    "    (call $add (i32.const 5) (i32.const 37)))",
    "  (export \"main\" (func $main))",
    "  (export \"add\" (func $add)))" ]⟩

/-- Computes a factorial by recursion. -/
def factorial : Example :=
  ⟨"factorial", "Factorial", ofLines [
    "(module",
    "  (func $factorial (param $n i32) (result i32)",
    "    (local $result i32)",
    "    (local.set $result (i32.const 1))",
    "    (block $done",
    "      (br_if $done",
    "        (i32.lt_s",
    "          (local.get $n)",
    "          (i32.const 2)))",
    "      (local.set $result",
    "        (i32.mul",
    "          (local.get $n)",
    "          (call $factorial",
    "            (i32.sub",
    "              (local.get $n)",
    "              (i32.const 1))))))",
    "    (local.get $result))",
    "  (func $main (result i32)",
    "    (call $factorial (i32.const 5)))",
    "  (export \"main\" (func $main))",
    "  (export \"factorial\" (func $factorial)))" ]⟩

/-- Computes a Fibonacci number by a loop. -/
def fibonacci : Example :=
  ⟨"fibonacci", "Fibonacci", ofLines [
    "(module",
    "  (func $fibonacci (param $n i32) (result i32)",
    "    (local $i i32)",
    "    (local $a i32)",
    "    (local $b i32)",
    "    (local $temp i32)",
    "    (local.set $i (i32.const 1))",
    "    (local.set $a (i32.const 0))",
    "    (local.set $b (i32.const 1))",
    "    (if (i32.le_s (local.get $n) (i32.const 0))",
    "      (then",
    "        (return (i32.const 0))))",
    "    (if (i32.eq (local.get $n) (i32.const 1))",
    "      (then",
    "        (return (i32.const 1))))",
    "    (loop $fib_loop",
    "      (if (i32.lt_s (local.get $i) (local.get $n))",
    "        (then",
    "          (local.set $temp (i32.add (local.get $a) (local.get $b)))",
    "          (local.set $a (local.get $b))",
    "          (local.set $b (local.get $temp))",
    "          (local.set $i (i32.add (local.get $i) (i32.const 1)))",
    "          (br $fib_loop))))",
    "    (local.get $b))",
    "  (func $main (result i32)",
    "    (call $fibonacci (i32.const 10)))",
    "  (export \"main\" (func $main))",
    "  (export \"fibonacci\" (func $fibonacci)))" ]⟩

/-- The examples, in order. -/
def examples : List Example := [hello, addition, factorial, fibonacci]

/-- The key of the example shown first. -/
def defaultKey : Text := hello.key

/-- The keys of the examples, in order. -/
def keys : List Text := examples.map (·.key)

/-- The example under a key, if there is one. -/
def find? (key : Text) : Option Example := examples.find? (·.key = key)

/-- The example under a key of any type; what may change is no key at all. -/
def find (key : Value) : Except Failure Example :=
  if !key.isHashable then
    .error (.raised .type ("unhashable type: '" ++ key.typeName ++ "'"))
  else
    let found : Option Example := match key with
      | .text t => find? t
      | _ => none
    match found with
    | some e => .ok e
    | none => .error (.absent key)

end Catalog

end WatWorkbench
