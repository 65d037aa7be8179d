import Questionnaire.Effect.Basic
import Questionnaire.NamedState

/-!
# Establishing the user

A machine that finds out who the user is.  The user may be known already, and
otherwise signs in or registers; an attempt that fails can be repeated.
-/

namespace Questionnaire
namespace EstablishUser

/-- The name of the machine. -/
def machineId : String := "establish-user"

/-- The context field, and the event field, of the user. -/
def userKey : String := "user"

/-- The effect that keeps the user. -/
def saveUserEffect : String := "saveUser"

/-- The steps on the way to a user. -/
inductive Step where
  | loading
  | choosing
  | signIn
  | registration
  | complete
  deriving DecidableEq

instance : NamedState Step where
  all := [.loading, .choosing, .signIn, .registration, .complete]
  name
    | .loading => "loading"
    | .choosing => "choosing"
    | .signIn => "signIn"
    | .registration => "registration"
    | .complete => "complete"
  label
    | .loading => "Loading"
    | .choosing => "Choosing"
    | .signIn => "SignIn"
    | .registration => "Registration"
    | .complete => "Complete"
  isFinal step := step = .complete
  isError _ := false

/-- The state of a step. -/
def Step.state (step : Step) : String :=
  NamedState.name step

/-- A transition that completes the machine with the user of the event. -/
def completing : Transition :=
  ⟨some Step.complete.state, [saveUserEffect]⟩

/-- The definition of the machine. -/
def definition : Definition where
  id := machineId
  initial := Step.loading.state
  states := .ofList [
    (Step.loading.state, {
      on := .ofList [
        ("LOADED", completing),
        ("NOT_FOUND", ⟨some Step.choosing.state, []⟩)] }),
    (Step.choosing.state, {
      on := .ofList [
        ("HAS_ACCOUNT", ⟨some Step.signIn.state, []⟩),
        ("NEEDS_ACCOUNT", ⟨some Step.registration.state, []⟩)] }),
    (Step.signIn.state, {
      on := .ofList [
        ("SIGN_IN_SUCCESS", completing),
        ("SIGN_IN_FAIL", ⟨some Step.signIn.state, []⟩)] }),
    (Step.registration.state, {
      on := .ofList [
        ("REGISTER_SUCCESS", completing),
        ("REGISTER_FAIL", ⟨some Step.registration.state, []⟩)] }),
    (Step.complete.state, { terminal := true, output := some (.field userKey) })]

/-- The patch that copies a field of the event into the context; null if it has none. -/
def copied (key : String) (input : Effect.Input) : Fields :=
  .singleton key ((input.event.get? key).getD .null)

/-- The effects of the machine. -/
def effects : EffectTable :=
  EffectTable.assign {} saveUserEffect (copied userKey)

end EstablishUser
end Questionnaire
