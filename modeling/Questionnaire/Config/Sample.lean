import Questionnaire.Config.Basic

/-!
# A sample configuration

Two pods: one with a single question, and one whose second question depends on the
answer to the first.
-/

namespace Questionnaire
namespace Config
namespace Sample

/-- Presentation data: the kind of question, its label, and labels of the events. -/
def presentation (kind label : String) (labels : List (String × String)) : Json :=
  .ofFields [
    ("type", .str kind),
    ("label", .str label),
    ("labels", .ofFields (labels.map fun (event, text) => (event, .str text)))]

/-- A transition that reports an answer. -/
def answering (target : String) : Transition :=
  ⟨some target, [Pod.saveAnswer]⟩

/-- A terminal state with the output of an ending. -/
def ending (value : String) : StateNode where
  terminal := true
  output := some (.constant (.obj [("value", .str value)]))

/-- The pod with one question. -/
def simple : Definition where
  id := "sample-question-simple"
  initial := "name"
  states := .ofList [
    ("name", {
      presentation := presentation "input" "What is your name?"
        [(Pod.submit, "Submit"), (Pod.goBack, "Go back")]
      on := .ofList [
        (Pod.submit, answering "completed"),
        (Pod.goBack, .goingTo "quit")] }),
    ("completed", ending Pod.completeValue),
    ("quit", ending Pod.quitValue)]

/-- The pod whose questions depend on one another. -/
def tree : Definition where
  id := "sample-question-tree"
  initial := "a"
  states := .ofList [
    ("a", {
      presentation := presentation "branch" "Can I ask you a follow-up?" [
        ("PICK_B", "Yes you can!"),
        ("PICK_C", "No you can't!"),
        (Pod.goBack, "Previous question")]
      on := .ofList [
        ("PICK_B", answering "b"),
        ("PICK_C", answering "c"),
        (Pod.goBack, .goingTo "back")] }),
    ("b", {
      presentation := presentation "input" "What is your favourite colour?"
        [(Pod.submit, "Submit"), (Pod.goBack, "Go back")]
      on := .ofList [
        (Pod.submit, answering "completed"),
        (Pod.goBack, .goingTo "a")] }),
    ("c", {
      presentation := presentation "branch" "Fair enough."
        [("OK", "Carry on"), (Pod.goBack, "Wait a minute...")]
      on := .ofList [
        ("OK", answering "completed"),
        (Pod.goBack, ⟨some "a", [Pod.update]⟩)] }),
    ("completed", ending Pod.completeValue),
    ("back", ending Pod.quitValue)]

end Sample

/-- The sample configuration. -/
def sample : Config where
  pods := [Sample.simple, Sample.tree]

end Config
end Questionnaire
