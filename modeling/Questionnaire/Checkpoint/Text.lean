import Questionnaire.Checkpoint.Basic

/-!
# Checkpoints as JSON texts
-/

namespace Questionnaire

open Json (Raw)

namespace Checkpoint

/-- A checkpoint as an object. -/
def toJson (checkpoint : Checkpoint) : Json :=
  .ofFields [
    ("version", .ofNat checkpoint.version.toNat),
    ("id", .str checkpoint.id),
    ("timestamp", .str checkpoint.timestamp.text),
    ("machine", .str checkpoint.machine),
    ("state", .str checkpoint.state),
    ("context", .str checkpoint.context),
    ("done", .bool checkpoint.done),
    ("history", checkpoint.history.toJson)]

/-- The text of a checkpoint. -/
def text (checkpoint : Checkpoint) : String :=
  checkpoint.toJson.text

/-- The names of the fields of a checkpoint. -/
def fieldNames : List String :=
  ["version", "id", "timestamp", "machine", "state", "context", "done", "history"]

/-- Read a checkpoint of any version. -/
def ofRaw? (raw : Raw) : Option Checkpoint := do
  let [version, id, timestamp, machine, state, context, done, history] ←
      raw.record? fieldNames 8
    | none
  return {
    version := .ofNat (← version.bind (Raw.natBelow? UInt32.size))
    id := ← id.bind Raw.text?
    timestamp := ← (timestamp.bind Raw.text?).bind Timestamp.ofText?
    machine := ← machine.bind Raw.text?
    state := ← state.bind Raw.text?
    context := ← context.bind Raw.text?
    done := ← done.bind Raw.flag?
    history := ← history.bind History.ofRaw? }

/-- Read a checkpoint of the supported version from a text. -/
def ofText (text : String) : Except CheckpointError Checkpoint :=
  match (Raw.ofText? text).bind ofRaw? with
  | some checkpoint => checkpoint.check.map fun _ => checkpoint
  | none => .error .malformed

end Checkpoint
end Questionnaire
