import Questionnaire.Description.Invisible
import Questionnaire.Discovery.Basic

/-!
# Descriptions for developers

One-line descriptions of running machines, which show names in quotes and leave out
contexts.
-/

namespace Questionnaire
namespace Description

/-- The text of a character inside quotes. -/
def charText (char : Char) : List Char :=
  if char = '\x00' then ['\\', '0']
  else if char = '\t' then ['\\', 't']
  else if char = '\r' then ['\\', 'r']
  else if char = '\n' then ['\\', 'n']
  else if char = '\\' then ['\\', '\\']
  else if char = '"' then ['\\', '"']
  else if isInvisible char then
    '\\' :: 'u' :: '\x7b' :: Nat.toDigits 16 char.toNat ++ ['\x7d']
  else [char]

/-- A text in quotes. -/
def quoted (text : String) : String :=
  String.ofList ('"' :: text.toList.flatMap charText ++ ['"'])

/-- The text of a number. -/
def number (value : Nat) : String :=
  String.ofList (Nat.toDigits 10 value)

/-- A named list of fields. -/
def record (name : String) (fields : List (String × String)) : String :=
  let texts := fields.map fun (field, text) => field ++ ": " ++ text
  name ++ " \x7b " ++ String.intercalate ", " texts ++ " \x7d"

end Description

open Description

/-- The description of an effect by its kind. -/
def Effect.describe : Effect → String
  | .assign _ => "Effect::Assign"
  | .notify _ => "Effect::Notify"

/-- The description of an effect table by the names it binds. -/
def EffectTable.describe (table : EffectTable) : String :=
  record "EffectTable"
    [("effects", "[" ++ String.intercalate ", " (table.ids.map quoted) ++ "]")]

/-- The description of an instance, with `identity` for the text of its identity. -/
def Instance.describe {κ : Type} (machine : Instance κ) (identity : String) : String :=
  record "MachineInstance" [
    ("id", "InstanceId(" ++ identity ++ ")"),
    ("machine", quoted machine.definition.id),
    ("state", quoted machine.current),
    ("status", NamedState.label machine.status),
    ("subscribers", number machine.subscribers.length)]

/-- The description of a journey, with `identity` for the text of its identity. -/
def Discovery.describe (journey : Discovery) (identity : String) : String :=
  record "DiscoveryWorkflow" [
    ("phase", NamedState.label journey.phase),
    ("pods", number journey.pods.length),
    ("machine", journey.machine.describe identity)]

end Questionnaire
