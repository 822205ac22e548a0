import WatWorkbench.Wasm.Binary.Writer
import WatWorkbench.Wasm.Text.Resolution

/-!
# Translating text to binary

The binary form of a module's text.  A text may also hold the binary form itself, in strings.
-/

namespace WatWorkbench.Wasm

/-- The octets that a text holds in strings, if it says that it holds a binary module. -/
def embeddedBinary? (ts : List Tree) : Option Bytes := do
  let (_, rest) ← Parser.title (← Parser.moduleGroup? ts)
  match rest with
  | .word k :: strings =>
    if k = "binary".toList then (Parser.allBytes strings).map (·.1) else none
  | _ => none

/-- The binary form of a module's text. -/
def translate (cs : List Char) : Option Bytes := do
  let trees ← Tree.ofChars? cs
  match embeddedBinary? trees with
  | some bs => some bs
  | none => (Module.ofSource? (← Parser.source trees)).map Binary.write

end WatWorkbench.Wasm
