import Questionnaire.BuildError

/-!
# Building definitions

A definition can be put together state by state.  What is built is checked, so
a builder hands out valid definitions only.
-/

namespace Questionnaire

namespace Transition

/-- A transition into `target`. -/
def goingTo (target : String) : Transition :=
  ⟨some target, []⟩

/-- A transition that runs its effects without leaving the state. -/
def internal : Transition :=
  ⟨none, []⟩

/-- The transition with one more effect at the end. -/
def withEffect (transition : Transition) (effect : String) : Transition :=
  { transition with effects := transition.effects ++ [effect] }

end Transition

theorem StateNode.terminal_of_output_blank :
    ({} : StateNode).output.isSome → ({} : StateNode).terminal := by
  decide

/-- A state in the making, under its name.  Only a state that ends the machine has an
output. -/
structure StateBuilder where
  id : String
  node : StateNode := {}
  terminal_of_output : node.output.isSome → node.terminal := by
    exact StateNode.terminal_of_output_blank
  deriving DecidableEq

namespace StateBuilder

/-- React to an event with a transition, in place of an earlier one. -/
def on (state : StateBuilder) (event : String) (transition : Transition) : StateBuilder where
  id := state.id
  node := { state.node with on := state.node.on.insert event transition }
  terminal_of_output := state.terminal_of_output

/-- React to an event by going to `target`. -/
def goto (state : StateBuilder) (event target : String) : StateBuilder :=
  state.on event (.goingTo target)

/-- Let the state end the machine. -/
def terminal (state : StateBuilder) : StateBuilder where
  id := state.id
  node := { state.node with terminal := true }
  terminal_of_output _ := rfl

/-- Let the state end the machine with an output. -/
def output (state : StateBuilder) (output : OutputBuilder) : StateBuilder where
  id := state.id
  node := { state.node with terminal := true, output := some output }
  terminal_of_output _ := rfl

/-- Attach data for whoever presents the state. -/
def presented (state : StateBuilder) (presentation : Json) : StateBuilder where
  id := state.id
  node := { state.node with presentation }
  terminal_of_output := state.terminal_of_output

/-- A terminal state whose output is an object with one `value`. -/
def ofOutcome (id outcome : String) : StateBuilder :=
  output { id } (.constant (.obj [("value", .str outcome)]))

end StateBuilder

/-- A definition in the making: its states in the order in which they were added. -/
structure DefinitionBuilder where
  id : String
  initial : Option String := none
  states : List StateBuilder := []
  deriving DecidableEq

namespace DefinitionBuilder

/-- Choose the initial state, in place of an earlier choice. -/
def startingIn (builder : DefinitionBuilder) (initial : String) : DefinitionBuilder :=
  { builder with initial := some initial }

/-- Add a state. -/
def state (builder : DefinitionBuilder) (state : StateBuilder) : DefinitionBuilder :=
  { builder with states := builder.states ++ [state] }

/-- Add states to a table; a name that the table has already is an error. -/
def addStates (machine : String) (table : KeyMap StateNode) :
    List StateBuilder → Except BuildError (KeyMap StateNode)
  | [] => .ok table
  | state :: rest =>
    if table.contains state.id then .error (.duplicateState machine state.id)
    else addStates machine (table.insert state.id state.node) rest

/-- The definition, if it is complete and valid. -/
def build (builder : DefinitionBuilder) : Except BuildError Definition := do
  let some initial := builder.initial
    | throw (.missingInitialState builder.id)
  let states ← addStates builder.id ∅ builder.states
  let definition := { id := builder.id, initial, states : Definition }
  definition.check
  return definition

end DefinitionBuilder
end Questionnaire
