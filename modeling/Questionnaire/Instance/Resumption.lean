import Questionnaire.Checkpoint.Basic
import Questionnaire.Instance.Basic

/-!
# Capturing and resuming instances

Status and output are not captured: they follow from the state, the context and
whether the instance had ended.
-/

namespace Questionnaire
namespace Instance

variable {κ : Type}

/-- Capture an instance. -/
def checkpoint (id : String) (now : Timestamp) (machine : Instance κ) : Checkpoint where
  version := Checkpoint.supportedVersion
  id := id
  timestamp := now
  machine := machine.definition.id
  state := machine.current
  context := (Json.object machine.context).text
  done := machine.isDone
  history := machine.history

/-- The instance in the captured state; it has ended if it had when it was captured or
if that state is terminal. -/
def restored (machine : Instance κ) (checkpoint : Checkpoint) : Instance κ :=
  let placed := { machine with current := checkpoint.state, history := checkpoint.history }
  if checkpoint.done || placed.atTerminal then
    { placed with status := .done, output := some placed.builtOutput }
  else { placed with status := .running }

/-- Rebuild an instance from a checkpoint that fits the definition.  One that had
ended does not send its output again. -/
def resume (id : InstanceId) (definition : Definition) (effects : EffectTable)
    (checkpoint : Checkpoint) : Except CheckpointError (Instance κ) := do
  checkpoint.check
  let context ← checkpoint.contextFields
  let machine ← (create id definition effects context).mapError .build
  if checkpoint.machine ≠ definition.id then
    throw <| .unfit <|
      "checkpoint is for '" ++ checkpoint.machine ++ "', not '" ++ definition.id ++ "'"
  else if !definition.states.contains checkpoint.state then
    throw <| .unfit <|
      "state '" ++ checkpoint.state ++ "' is not defined by '" ++ definition.id ++ "'"
  else
    return machine.restored checkpoint

end Instance
end Questionnaire
