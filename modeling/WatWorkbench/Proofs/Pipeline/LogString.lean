import WatWorkbench.Proofs.Pipeline.Scribes
import WatWorkbench.Proofs.Text.Pieces

/-!
# Texts from the memory of a module

The default function for texts takes two numbers of 32 bits, which the engine gives with a sign.  It
reads them without one and adds them without a bound, so the range that they make lies within the
memory or it does not, and nothing is cut off or comes around at the end.  What is in the range is
read with replacement, and so is always a text.

* `Sandbox.unsigned` — a number without its sign.
* `Sandbox.LogsText` — one line has been written, with the text of some octets.
* **`Sandbox.answer_log_string`** — what the default function for texts comes to.
-/

namespace WatWorkbench.Sandbox

variable {M I H : Type} {logger : Text} {caller : Caller}

/-- A number of 32 bits without a sign. -/
def unsigned (i : Int) : Nat := (i % 2 ^ 32).toNat

lemma unsigned?_int (i : Int) : unsigned? (.int i) = .ok (unsigned i) := rfl

/-- The sum of two numbers does not come around. -/
example : unsigned (-1) + unsigned 1 = 2 ^ 32 := by decide

/-- A call of a default host function has given nothing and has written one record of progress,
whose text is what the octets are read as.  Faults in them are replaced; the octets of a text are
read as that text. -/
structure LogsText (logger : Text) (bytes : Bytes) (w : World M I H)
    (out : Except Failure Value × World M I H) : Prop where
  record : ∃ r : LogRecord, out = (.ok .null, w.written r) ∧ r.logger = logger ∧
    r.level = Level.info ∧ r.kind = none ∧ r.text? = some ("WASM log: " ++ Text.decodeLossy bytes)
  legible : (Text.decodeLossy bytes).InRange ∧ (Text.decodeLossy bytes).hasSurrogate = false
  faithful : ∀ s : Text, s.InRange → s.encode = .ok bytes → Text.decodeLossy bytes = s

lemma logsText_written (logger : Text) (bytes : Bytes) (w : World M I H) :
    LogsText logger bytes w
      (.ok .null, w.written (lineRecord logger (.text (Text.decodeLossy bytes)))) where
  record := by
    have hspelled : (Value.text (Text.decodeLossy bytes)).isSpellable := by simp [Value.isSpellable]
    exact ⟨_, rfl, rfl, rfl, rfl, text?_lineRecord logger hspelled⟩
  legible := ⟨Text.inRange_decodeLossy bytes, Text.hasSurrogate_decodeLossy bytes⟩
  faithful s hrange hencode := by
    cases hsurrogate : s.hasSurrogate with
    | true =>
        obtain ⟨fault, hfault⟩ := Text.encode_of_hasSurrogate hsurrogate
        rw [hfault] at hencode
        cases hencode
    | false =>
        rw [Text.encode_of_not_hasSurrogate hsurrogate] at hencode
        cases hencode
        exact Text.decodeLossy_encodeAny hrange hsurrogate

/-! ## The function -/

lemma stringRange_of_memory {m : Wasm.Memory} (hmemory : caller.get? "memory" = some (.memory m))
    (start length : Int) :
    stringRange caller (.int start) (.int length) =
      if unsigned start + unsigned length ≤ m.size then
        .ok (m.read (unsigned start) (unsigned length))
      else .error (.stage .runtime ("log_string range [" ++ Text.decimal (unsigned start) ++ ", " ++
        Text.decimal (unsigned start + unsigned length) ++ ") is outside linear memory")) := by
  unfold stringRange
  rw [hmemory, unsigned?_int, unsigned?_int]
  by_cases hfits : unsigned start + unsigned length ≤ m.size
  · rw [if_pos hfits]
    simp [bind, Except.bind, pure, Except.pure, Nat.not_lt.mpr hfits]
  · rw [if_neg hfits]
    simp [bind, Except.bind, throw, throwThe, MonadExceptOf.throw, Nat.not_le.mp hfits]

lemma run_logString (start length : Value) (w : World M I H) :
    logString logger caller [start, length] w =
      match stringRange caller start length with
      | .ok bytes => (.ok .null, w.written (lineRecord logger (.text (Text.decodeLossy bytes))))
      | .error e => (.error e, w) := by
  simp only [logString, World.run_bind, World.run_settle]
  cases stringRange caller start length with
  | error e => rfl
  | ok bytes =>
      dsimp only
      rw [logLine, World.log, World.run_write]
      rfl

/-- **The default function for texts**, for all numbers and all memories.  A range that lies within
the memory is logged, one that does not is refused by name, and nothing is logged then or without a
memory. -/
theorem answer_log_string (logger : Text) (caller : Caller) (start length : Int)
    (w : World M I H) :
    match caller.get? "memory" with
    | some (.memory m) =>
      if unsigned start + unsigned length ≤ m.size then
        LogsText logger (m.read (unsigned start) (unsigned length)) w
          (World.answer (defaultImports logger)
            ⟨"env", "log_string", caller, [.int start, .int length]⟩ w)
      else
        World.answer (defaultImports logger)
            ⟨"env", "log_string", caller, [.int start, .int length]⟩ w =
          (.error (.stage .runtime ("log_string range [" ++ Text.decimal (unsigned start) ++ ", " ++
            Text.decimal (unsigned start + unsigned length) ++ ") is outside linear memory")), w)
    | some other =>
      World.answer (defaultImports logger)
          ⟨"env", "log_string", caller, [.int start, .int length]⟩ w =
        (.error (.raised .attribute
          ("'" ++ other.typeName ++ "' object has no attribute 'data_len'")), w)
    | none =>
      World.answer (defaultImports logger)
          ⟨"env", "log_string", caller, [.int start, .int length]⟩ w =
        (.error (.stage .runtime
          "log_string requires the module to export its memory as 'memory'"), w) := by
  have hanswer : World.answer (defaultImports logger)
      ⟨"env", "log_string", caller, [.int start, .int length]⟩ w =
        logString logger caller [.int start, .int length] w := rfl
  rw [hanswer, run_logString]
  cases hmemory : caller.get? "memory" with
  | none =>
      simp only [stringRange, hmemory]
      rfl
  | some exported =>
      cases exported with
      | memory m =>
          dsimp only
          rw [stringRange_of_memory hmemory]
          split_ifs with hfits
          · exact logsText_written logger _ w
          · rfl
      | _ =>
          -- what else is exported by that name is only found out when its size is asked for
          simp only [stringRange, hmemory, unsigned?_int]
          rfl

end WatWorkbench.Sandbox
