import WatWorkbench.Text.Basic

/-!
# Traps

The reasons for which a module's execution ends before its time.
-/

namespace WatWorkbench.Wasm

/-- Why execution ended. -/
inductive Trap where
  /-- An instruction that must not be reached. -/
  | unreachable
  /-- A division by zero. -/
  | divisionByZero
  /-- An integer that is not representable. -/
  | integerOverflow
  /-- The conversion of something that is no number. -/
  | badConversion
  /-- An access beyond the end of the memory. -/
  | memoryOutOfBounds
  /-- An access beyond the end of a table. -/
  | tableOutOfBounds
  /-- An indirect call of no function. -/
  | nullCall
  /-- An indirect call of a function of another type. -/
  | badSignature
  /-- Calls nested too deeply. -/
  | stackOverflow
  /-- The instruction budget is used up. -/
  | outOfFuel
  deriving DecidableEq, Repr

/-- The code of a trap. -/
def Trap.code : Trap → Text
  | unreachable => "UNREACHABLE"
  | divisionByZero => "INTEGER_DIVISION_BY_ZERO"
  | integerOverflow => "INTEGER_OVERFLOW"
  | badConversion => "BAD_CONVERSION_TO_INTEGER"
  | memoryOutOfBounds => "MEMORY_OUT_OF_BOUNDS"
  | tableOutOfBounds => "TABLE_OUT_OF_BOUNDS"
  | nullCall => "INDIRECT_CALL_TO_NULL"
  | badSignature => "BAD_SIGNATURE"
  | stackOverflow => "STACK_OVERFLOW"
  | outOfFuel => "OUT_OF_FUEL"

/-- The text of a trap: its code in angle brackets. -/
def Trap.message (t : Trap) : Text := "<trap " ++ t.code ++ ">"

/-- The text of every other complaint of the engine. -/
def engineComplaint : Text := "<engine>"

end WatWorkbench.Wasm
