import Questionnaire.Pod

/-!
# The machine of a question flow

A question flow runs a machine of its own, which is `playing` until the questions
are `complete`.  Its context holds the progress, which is the index of the pod being
asked, the answers, and for each answer the index of the pod that gave it.
-/

namespace Questionnaire
namespace Flow

/-! ## Names -/

/-- The name of the machine. -/
def machineId : String := "questions-machine"

/-- The state while a pod is asked. -/
def playing : String := "playing"

/-- The state once all pods were completed. -/
def complete : String := "complete"

/-- The event that records an answer. -/
def answerEvent : String := Pod.answerEvent

/-- The event that goes on to the next pod. -/
def nextEvent : String := "NEXT"

/-- The event that steps back to the previous pod. -/
def previousEvent : String := Pod.previousEvent

/-- The event that starts again without any answers. -/
def startFreshEvent : String := "START_FRESH"

/-- The event that ends the flow. -/
def doneEvent : String := "DONE"

/-- The effect that records an answer. -/
def saveAnswerEffect : String := "saveAnswer"

/-- The effect that goes on to the next pod. -/
def advanceEffect : String := "advance"

/-- The effect that steps back to the previous pod. -/
def retreatEffect : String := "retreat"

/-- The effect that forgets the progress and all answers. -/
def startFreshEffect : String := "startFresh"

/-- The context field of the progress. -/
def progressKey : String := "progress"

/-- The context field of the answers. -/
def answersKey : String := "answers"

/-- The context field of the pods that gave the answers. -/
def ownersKey : String := "owners"

/-! ## Definition -/

/-- The definition of the machine. -/
def definition : Definition where
  id := machineId
  initial := playing
  states := .ofList [
    (playing, {
      on := .ofList [
        (answerEvent, ⟨none, [saveAnswerEffect]⟩),
        (nextEvent, ⟨some playing, [advanceEffect]⟩),
        (previousEvent, ⟨some playing, [retreatEffect]⟩),
        (startFreshEvent, ⟨some playing, [startFreshEffect]⟩),
        (doneEvent, ⟨some complete, []⟩)] }),
    (complete, { terminal := true, output := some (.field answersKey) })]

/-! ## Context -/

/-- The progress that a context holds; zero unless it is a non-negative integer. -/
def progressOf (context : Fields) : Nat :=
  ((context.get? progressKey).bind Json.nat?).getD 0

/-- The object that a context holds under a key; empty unless it is one. -/
def fieldsOf (context : Fields) (key : String) : Fields :=
  ((context.get? key).bind Json.fields?).getD ∅

/-- The context fields of answers and their owners. -/
def answerFields (answers owners : Fields) : Fields :=
  .ofList [(answersKey, .object answers), (ownersKey, .object owners)]

/-- The context for a progress, answers and their owners. -/
def contextOf (progress : Nat) (answers owners : Fields) : Fields :=
  (answerFields answers owners).insert progressKey (.ofNat progress)

/-! ## Effects -/

/-- Record the answer of an event that names its question. -/
def savedAnswer (input : Effect.Input) : Fields :=
  match input.event.text? Pod.questionKey with
  | none => ∅
  | some question =>
    let answer := (input.event.get? Pod.answerKey).getD .null
    answerFields
      ((fieldsOf input.context answersKey).insert question answer)
      ((fieldsOf input.context ownersKey).insert question (.ofNat (progressOf input.context)))

/-- Go on to the next pod. -/
def advanced (input : Effect.Input) : Fields :=
  .singleton progressKey (.ofNat (progressOf input.context + 1))

/-- The pods whose answers a step back makes stale: the one that is left and the one
that is asked again, which are the same at the first pod. -/
def unwound (progress : Nat) : List Nat :=
  if progress = 0 then [0] else [progress, progress - 1]

/-- Whether an owner is one of the given pods. -/
def ownedBy (indices : List Nat) (owner : Json) : Bool :=
  owner.nat?.any indices.contains

/-- The questions whose answers a step back makes stale: those answered by an unwound
pod, under whatever name, and those that an unwound pod can ask. -/
def staleQuestions (pods : List Definition) (progress : Nat) (owners : Fields) : List String :=
  (owners.filter fun _ owner => ownedBy (unwound progress) owner).keys
    ++ (unwound progress).flatMap fun index => pods[index]?.elim [] Definition.questionIds

/-- Step back to the previous pod and drop the stale answers. -/
def retreated (pods : List Definition) (input : Effect.Input) : Fields :=
  let progress := progressOf input.context
  let owners := fieldsOf input.context ownersKey
  let stale := staleQuestions pods progress owners
  contextOf (progress - 1)
    ((fieldsOf input.context answersKey).eraseAll stale) (owners.eraseAll stale)

/-- The effects of the machine over a list of pods. -/
def effects (pods : List Definition) : EffectTable :=
  EffectTable.assign {} saveAnswerEffect savedAnswer
    |>.assign advanceEffect advanced
    |>.assign retreatEffect (retreated pods)
    |>.assign startFreshEffect (fun _ => contextOf 0 ∅ ∅)

end Flow
end Questionnaire
