import Questionnaire.InstanceId.Uuid

/-!
# Identity of instances

A host identifies the machines it starts.  A machine that another one spawns is
identified by its spawner and the number of machines spawned before it, so that
two instances never share an identity within one tree of machines, and a parent can
tell the child it has from one it has replaced.
-/

namespace Questionnaire

/-- The identity of a running instance. -/
inductive InstanceId where
  /-- Given by the host. -/
  | root (uuid : Uuid)
  /-- The instance spawned after `number` others. -/
  | child (parent : InstanceId) (number : Nat)
  deriving DecidableEq

namespace InstanceId

/-- The text of an identity: the identifier of the host's instance, then the
numbers of those spawned on the way to it. -/
def text : InstanceId → String
  | .root uuid => uuid.text
  | .child parent number => parent.text ++ "/" ++ String.ofList (Nat.toDigits 10 number)

/-- Read an identity given by a host. -/
def ofRaw? (raw : Json.Raw) : Option InstanceId :=
  (raw.text?.bind Uuid.ofText?).map .root

end InstanceId
end Questionnaire
