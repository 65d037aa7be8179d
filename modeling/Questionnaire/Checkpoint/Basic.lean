import Questionnaire.History
import Questionnaire.BuildError
import Questionnaire.Json.Reader
import Questionnaire.Json.Writer

/-!
# Checkpoints

A checkpoint captures the state, context and history of an instance, so that a
questionnaire can be taken up again later.  Effects and subscribers are not
captured.  The context is kept as a JSON text, which lets a checkpoint also be
written in formats that do not describe themselves.
-/

namespace Questionnaire

/-- The captured state of an instance. -/
structure Checkpoint where
  /-- The version of the format. -/
  version : UInt32
  id : String
  timestamp : Timestamp
  /-- The definition that the instance was running. -/
  machine : String
  state : String
  /-- The text of the context. -/
  context : String
  done : Bool
  history : History
  deriving DecidableEq

/-- Why a checkpoint cannot be used. -/
inductive CheckpointError where
  | malformed
  | unsupportedVersion (found supported : UInt32)
  | unfit (reason : String)
  | build (error : BuildError)
  deriving DecidableEq

namespace Checkpoint

/-- The version of the format that is written and read. -/
def supportedVersion : UInt32 := 1

/-- Refuse a version that is not supported. -/
def check (checkpoint : Checkpoint) : Except CheckpointError Unit :=
  if checkpoint.version = supportedVersion then .ok ()
  else .error (.unsupportedVersion checkpoint.version supportedVersion)

/-- The captured context. -/
def contextFields (checkpoint : Checkpoint) : Except CheckpointError Fields :=
  match (Json.Raw.ofText? checkpoint.context).bind Json.Raw.fields? with
  | some context => .ok context
  | none => .error .malformed

end Checkpoint

namespace CheckpointError

/-- The text of a version. -/
def versionText (version : UInt32) : String :=
  String.ofList (Nat.toDigits 10 version.toNat)

/-- What is wrong, in words; the details of a malformed text are not told. -/
def message : CheckpointError → String
  | .malformed => "Deserialization failed"
  | .unsupportedVersion found supported =>
    "Unsupported checkpoint version " ++ versionText found ++ ", supported: "
      ++ versionText supported
  | .unfit reason => "Checkpoint validation failed: " ++ reason
  | .build error => "Cannot rebuild instance: " ++ error.message

end CheckpointError
end Questionnaire
