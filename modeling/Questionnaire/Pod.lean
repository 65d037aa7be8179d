import Questionnaire.Definition.Builder
import Questionnaire.Effect.Resolution

/-!
# Question pods

A pod is the definition of a machine that asks one question, or a few that depend
on one another.  What its effects do is decided by whoever runs it: answers and
requests to step back become notifications, and the output with which it ends tells
whether to go on or to step back.
-/

namespace Questionnaire
namespace Pod

/-- The event with which an answer is submitted. -/
def submit : String := "SUBMIT"

/-- The event with which the user asks to step back. -/
def goBack : String := "GO_BACK"

/-- The effect that reports an answer. -/
def saveAnswer : String := "saveAnswer"

/-- The effect that asks to step back. -/
def previousQuestion : String := "previousQuestion"

/-- The effect that does nothing. -/
def update : String := "update"

/-- The type of the notification that reports an answer. -/
def answerEvent : String := "ANSWER"

/-- The type of the notification that asks to step back. -/
def previousEvent : String := "PREVIOUS"

/-- The field of an answer that names its question. -/
def questionKey : String := "questionId"

/-- The field of an answer that holds its value. -/
def answerKey : String := "answer"

/-- The output value of a pod that was completed. -/
def completeValue : String := "complete"

/-- The usual output value of a pod that was left backwards. -/
def quitValue : String := "quit"

/-- How a pod ended. -/
inductive Ending where
  | advance
  | retreat
  deriving DecidableEq

/-- A pod was completed if its output is an object whose `value` is `completeValue`; with
any other output it was left backwards. -/
def Ending.ofOutput (output : Json) : Ending :=
  if (output.field? "value").bind Json.text? = some completeValue then .advance else .retreat

/-- The notification of an answer: the question is the one that the event names, or
else the state that is left, and the answer is the one in the event, or else its type. -/
def answerNotice (input : Effect.Input) : Event :=
  (Event.ofKind answerEvent
    |>.withField questionKey (.str ((input.event.text? questionKey).getD input.state))
    |>.withField answerKey ((input.event.get? answerKey).getD (.str input.event.kind)))

/-- What the effects of a pod mean. -/
def bindings : EffectTable :=
  EffectTable.notify {} saveAnswer (fun input => some (answerNotice input))
    |>.notify previousQuestion (fun _ => some (.ofKind previousEvent))
    |>.assign update (fun _ => ∅)

/-- Require a pod to be valid and to name no effects but those of a pod. -/
def check (pod : Definition) : Except BuildError Unit := do
  pod.check
  let _ ← pod.resolve bindings

/-- Require every pod to be usable; the first one that is not is the error. -/
def checkAll (pods : List Definition) : Except BuildError Unit :=
  pods.forM check

/-- A pod with one question, which is answered or left backwards. -/
def linear (id question : String) (presentation : Json) : Except BuildError Definition :=
  ({ id : DefinitionBuilder }
    |>.startingIn question
    |>.state
      ({ id := question : StateBuilder }
        |>.presented presentation
        |>.on submit (Transition.goingTo "completed" |>.withEffect saveAnswer)
        |>.goto goBack "quit")
    |>.state (.ofOutcome "completed" completeValue)
    |>.state (.ofOutcome "quit" quitValue)
    |>.build)

end Pod
end Questionnaire
