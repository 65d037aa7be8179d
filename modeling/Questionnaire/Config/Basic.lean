import Questionnaire.Definition.Codec
import Questionnaire.Json.Reader
import Questionnaire.Pod

/-!
# Configurations

A configuration lists the pods of a questionnaire in order, and may hold answers
from an earlier session.
-/

namespace Questionnaire

open Json (Raw)

/-- The pods of a questionnaire, and answers from before. -/
structure Config where
  pods : List Definition := []
  answers : Fields := ∅
  deriving DecidableEq

/-- Why a configuration cannot be used. -/
inductive ConfigError where
  /-- There is no such file. -/
  | notFound
  /-- The file is not a text in UTF-8. -/
  | invalidData
  /-- The text is not a configuration. -/
  | malformed
  | invalidPod (error : BuildError)
  deriving DecidableEq

namespace ConfigError

/-- What is wrong, in words; the details of a malformed text are not told. -/
def message : ConfigError → String
  | .notFound => "Failed to read config"
  | .invalidData => "Failed to read config"
  | .malformed => "Failed to parse config"
  | .invalidPod error => "Invalid question pod: " ++ error.message

end ConfigError

namespace Config

/-- A configuration as an object. -/
def toJson (config : Config) : Json :=
  .ofFields [
    ("pods", .arr (config.pods.map Definition.toJson)),
    ("answers", .object config.answers)]

/-- Read a configuration, whose answers may be left out, without checking its pods. -/
def ofRaw? (raw : Raw) : Option Config := do
  let [pods, answers] ← raw.record? ["pods", "answers"] 1
    | none
  return {
    pods := ← pods.bind (·.list? Definition.ofRaw?)
    answers := ← answers.elim (some ∅) Raw.fields? }

/-- Require every pod to be usable. -/
def check (config : Config) : Except ConfigError Unit :=
  (Pod.checkAll config.pods).mapError .invalidPod

/-- Read a configuration from a text and check it. -/
def ofText (text : String) : Except ConfigError Config :=
  match (Raw.ofText? text).bind ofRaw? with
  | some config => config.check.map fun _ => config
  | none => .error .malformed

/-- Read a configuration from the bytes of a file, if there is one. -/
def ofFile : Option ByteArray → Except ConfigError Config
  | none => .error .notFound
  | some bytes =>
    match String.fromUTF8? bytes with
    | some text => ofText text
    | none => .error .invalidData

end Config
end Questionnaire
