import WatWorkbench.Yaml.Content
import WatWorkbench.Yaml.Grammar

/-!
# Reading documents

* `Yaml.isAcceptable` — the code points that documents may hold.
* `Yaml.load` — the value of a text that holds at most one document.
-/

namespace WatWorkbench.Yaml

/-- Whether a document may hold a code point. -/
def isAcceptable (c : Nat) : Bool :=
  c = 0x09 || c = 0x0A || c = 0x0D || (0x20 ≤ c && c ≤ 0x7E) || c = 0x85
    || (0xA0 ≤ c && c ≤ 0xD7FF) || (0xE000 ≤ c && c ≤ 0xFFFD) || (0x10000 ≤ c && c ≤ 0x10FFFF)

/-- Fails at the first code point that documents may not hold. -/
def checkPoints (points : List Nat) : Except Fault Unit :=
  match points.findIdx? (!isAcceptable ·) with
  | some position => .error (.unacceptable (points.getD position 0) position)
  | none => .ok ()

/-- The value of a text that holds at most one document; without one, there is nothing. -/
def load (t : Text) : Except Fault Value := do
  checkPoints t.points
  match ← Graph.ofPoints t.points with
  | (graph, some root) => graph.value root
  | (_, none) => return .null

end WatWorkbench.Yaml
