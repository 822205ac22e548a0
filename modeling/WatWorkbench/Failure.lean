import WatWorkbench.Files.Fault
import WatWorkbench.Schema.Report

/-!
# Failures

Everything that an operation can end with instead of a result.

* `Stage` — the stages of the pipeline, each with a class of failures that callers recover from.
* `Failure` — a failure of a stage, a refusal by one of the library's own parts, or something that
  foreign code raised.
* `Failure.message` — its text.
-/

namespace WatWorkbench

/-- The stages of the pipeline. -/
inductive Stage where
  /-- The pipeline itself. -/
  | pipeline
  /-- Translation and validation of a source. -/
  | compile
  /-- Linking, instantiation and invocation. -/
  | runtime
  /-- Assembling and writing an archive. -/
  | packaging
  /-- An operation that comes too early. -/
  | state
  deriving DecidableEq, Repr

/-- The name of a stage. -/
def Stage.name : Stage → Text
  | pipeline => "pipeline"
  | compile => "compile"
  | runtime => "runtime"
  | packaging => "packaging"
  | state => "state"

/-- A failure of a stage as a dictionary. -/
def Stage.describe (s : Stage) (message : Text) : Value :=
  .dict [(.text "kind", .text s.name), (.text "message", .text message)]

/-- The kinds of failure that carry nothing but a text. -/
inductive Fault where
  /-- A value of the right type that will not do. -/
  | value
  /-- A value of the wrong type. -/
  | type
  /-- A failure of no other kind. -/
  | runtime
  /-- A refusal by the operating system, told in words. -/
  | system
  /-- Characters that cannot be converted. -/
  | unicode
  /-- A trap raised on purpose by a host function. -/
  | trap
  /-- A number outside the range of its representation. -/
  | overflow
  /-- A place beyond the end of a sequence. -/
  | index
  /-- A member that an object does not have. -/
  | attribute
  /-- Something that is not supported. -/
  | unsupported
  /-- Octets that are no archive. -/
  | archive
  /-- Octets compressed in the DEFLATE format that cannot be expanded. -/
  | stream
  /-- Octets compressed in the LZMA format that cannot be expanded. -/
  | lzma
  /-- Octets that end too early. -/
  | ended
  /-- Something that must not happen. -/
  | assertion
  /-- A request to leave everything as it is. -/
  | ignored
  deriving DecidableEq, Repr

/-- What an operation ends with instead of a result. -/
inductive Failure where
  /-- A stage of the pipeline failed. -/
  | stage (stage : Stage) (message : Text)
  /-- The channel is being captured already. -/
  | captured (channel : Text)
  /-- A configuration cannot be used. -/
  | config (message : Text)
  /-- Data does not fit its record. -/
  | invalid (report : Report)
  /-- A key is not present. -/
  | absent (key : Value)
  /-- The file system refused an operation. -/
  | file (fault : FileFault)
  /-- Octets are not UTF-8. -/
  | undecodable (fault : DecodeFault)
  /-- A text cannot be encoded. -/
  | unencodable (fault : EncodeFault)
  /-- Any other failure. -/
  | raised (fault : Fault) (message : Text)

namespace Failure

/-- The text of a failure.  An absent key is shown as it would be written. -/
def message : Failure → Text
  | stage _ m => m
  | captured channel => "Log channel '" ++ channel ++ "' is already being intercepted"
  | config m => m
  | invalid r => r.message
  | absent k => k.quoted
  | file f => f.message
  | undecodable f => f.message
  | unencodable f => f.message
  | raised _ m => m

/-- Whether the failure is one of a stage, which callers recover from. -/
def isStage : Failure → Bool
  | stage _ _ => true
  | _ => false

/-- Whether the failure is a refusal by the file system. -/
def isSystem : Failure → Bool
  | file _ => true
  | raised .system _ => true
  | _ => false

end Failure

end WatWorkbench
