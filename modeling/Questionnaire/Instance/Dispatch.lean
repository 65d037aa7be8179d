import Questionnaire.Instance.Basic

/-!
# Starting instances and dispatching events

A transition runs its effects in declared order, every one on the state and the
context from before the transition.  Notifications are sent as they are produced;
then the context changes, and then the state.  Entering a terminal state ends the
instance, which sends its output last.
-/

namespace Questionnaire
namespace Instance

variable {κ : Type}

/-- The instance with its life ended in the current state. -/
def finished (machine : Instance κ) : Instance κ :=
  { machine with status := .done, output := some machine.builtOutput }

/-- Accept events from now on, or end at once if the initial state is terminal.  An
instance that was started before is left as it is. -/
def start (machine : Instance κ) : Turn (Instance κ) κ Unit :=
  match machine.status with
  | .idle =>
    if machine.atTerminal then
      ⟨machine.finished, .ok (), machine.emit (.done machine.builtOutput)⟩
    else ⟨{ machine with status := .running }, .ok (), []⟩
  | _ => ⟨machine, .ok (), []⟩

/-- The transition that the current state makes on an event type. -/
def transition? (machine : Instance κ) (kind : String) : Option ResolvedTransition :=
  (machine.transitions.get? machine.current).bind (·.get? kind)

/-- What the effects of the next transition see. -/
def input (machine : Instance κ) (event : Event) : Effect.Input :=
  ⟨machine.current, machine.context, event⟩

/-- The instance after it entered `target`, with the passage recorded. -/
def entering (machine : Instance κ) (now : Timestamp) (event target : String) : Instance κ :=
  { machine with
    current := target
    history := machine.history.record ⟨machine.current, target, event, now⟩ }

/-- Follow a transition. -/
def follow (now : Timestamp) (event : Event) (transition : ResolvedTransition)
    (machine : Instance κ) : Turn (Instance κ) κ Outcome :=
  let input := machine.input event
  let notices := (transition.notices input).flatMap fun notice => machine.emit (.notify notice)
  let updated := { machine with context := transition.update input }
  match transition.target with
  | none => ⟨updated, .ok (.stayed machine.current), notices⟩
  | some target =>
    let entered := updated.entering now event.kind target
    if entered.atTerminal then
      ⟨entered.finished, .ok (.terminated target entered.builtOutput),
        notices ++ entered.emit (.done entered.builtOutput)⟩
    else ⟨entered, .ok (.transitioned machine.current target), notices⟩

/-- Apply one event. -/
def dispatch (now : Timestamp) (event : Event) (machine : Instance κ) :
    Turn (Instance κ) κ Outcome :=
  match machine.status with
  | .idle => ⟨machine, .error (.protocol (.notStarted machine.definition.id)), []⟩
  | .done =>
    ⟨machine, .error (.protocol (.alreadyTerminated machine.definition.id machine.current)), []⟩
  | .running =>
    match machine.transition? event.kind with
    | none => ⟨machine, .ok .ignored, []⟩
    | some transition => machine.follow now event transition

end Instance
end Questionnaire
