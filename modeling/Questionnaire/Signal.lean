import Questionnaire.Event
import Questionnaire.InstanceId.Basic

/-!
# Signals

An instance tells its subscribers of notifications while it runs, and of its
output once it ends.  Every signal travels with the identity of its source.
-/

namespace Questionnaire

/-- What an instance tells its subscribers. -/
inductive Signal where
  /-- Sent by an effect, before the transition completes. -/
  | notify (event : Event)
  /-- The instance reached a terminal state and has this output. -/
  | done (output : Json)
  deriving DecidableEq

/-- A signal with the instance that sent it and the machine it runs. -/
structure Envelope where
  source : InstanceId
  machine : String
  signal : Signal
  deriving DecidableEq

/-- An envelope on its way to the subscriber known as `outlet`. -/
structure Delivery (κ : Type) where
  outlet : κ
  envelope : Envelope
  deriving DecidableEq

end Questionnaire
