import Questionnaire.Discovery.EstablishUser

/-!
# The machine of the discovery journey

The journey establishes the user, welcomes them, asks the questions, and submits
the answers.  It fails if the user cannot be established or the submission fails.
-/

namespace Questionnaire
namespace Discovery

/-! ## Names -/

/-- The name of the machine. -/
def machineId : String := "discovery"

/-- The context field, and the event field, of the user. -/
def userKey : String := EstablishUser.userKey

/-- The context field, and the event field, of the answers. -/
def answersKey : String := "answers"

/-- The context field, and the event field, of an error. -/
def errorKey : String := "error"

/-- The event that reports the user. -/
def userEstablishedEvent : String := "USER_ESTABLISHED"

/-- The event that reports an error. -/
def errorEvent : String := "ERROR"

/-- The event that goes on to the questions with the answers from before. -/
def continueEvent : String := "CONTINUE"

/-- The event that goes on to the questions without any answers. -/
def startFreshEvent : String := "START_FRESH"

/-- The event that reports the answers. -/
def questionsDoneEvent : String := "QUESTIONS_DONE"

/-- The event that reports that the answers were submitted. -/
def doneEvent : String := "DONE"

/-- The effect that keeps the user. -/
def saveUserEffect : String := "saveUser"

/-- The effect that keeps an error. -/
def saveErrorEffect : String := "saveError"

/-- The effect that keeps the answers. -/
def saveAnswersEffect : String := "saveAnswers"

/-- The effect that forgets the answers from before. -/
def clearAnswersEffect : String := "clearAnswers"

/-- The phases of the journey. -/
inductive Phase where
  | loading
  | welcome
  | questions
  | submitting
  | done
  | error
  deriving DecidableEq

instance : NamedState Phase where
  all := [.loading, .welcome, .questions, .submitting, .done, .error]
  name
    | .loading => "loading"
    | .welcome => "welcome"
    | .questions => "questions"
    | .submitting => "submitting"
    | .done => "done"
    | .error => "error"
  label
    | .loading => "Loading"
    | .welcome => "Welcome"
    | .questions => "Questions"
    | .submitting => "Submitting"
    | .done => "Done"
    | .error => "Error"
  isFinal phase := phase = .done || phase = .error
  isError phase := phase = .error

/-- The state of a phase. -/
def Phase.state (phase : Phase) : String :=
  NamedState.name phase

/-! ## Definition and effects -/

/-- The definition of the machine. -/
def definition : Definition where
  id := machineId
  initial := Phase.loading.state
  states := .ofList [
    (Phase.loading.state, {
      on := .ofList [
        (userEstablishedEvent, ⟨some Phase.welcome.state, [saveUserEffect]⟩),
        (errorEvent, ⟨some Phase.error.state, [saveErrorEffect]⟩)] }),
    (Phase.welcome.state, {
      on := .ofList [
        (continueEvent, ⟨some Phase.questions.state, []⟩),
        (startFreshEvent, ⟨some Phase.questions.state, [clearAnswersEffect]⟩)] }),
    (Phase.questions.state, {
      on := .ofList [
        (questionsDoneEvent, ⟨some Phase.submitting.state, [saveAnswersEffect]⟩)] }),
    (Phase.submitting.state, {
      on := .ofList [
        (doneEvent, ⟨some Phase.done.state, []⟩),
        (errorEvent, ⟨some Phase.error.state, [saveErrorEffect]⟩)] }),
    (Phase.done.state, {
      terminal := true
      output := some (.pick [userKey, answersKey]) }),
    (Phase.error.state, { terminal := true, output := some (.field errorKey) })]

/-- The effects of the machine. -/
def effects : EffectTable :=
  EffectTable.assign {} saveUserEffect (EstablishUser.copied userKey)
    |>.assign saveErrorEffect (EstablishUser.copied errorKey)
    |>.assign saveAnswersEffect (EstablishUser.copied answersKey)
    |>.assign clearAnswersEffect (fun _ => .singleton answersKey (.obj []))

end Discovery
end Questionnaire
