import Questionnaire.Definition.Basic

/-!
# Structural validity of definitions

A definition is valid when its name is not empty, its initial state and every
target are states, terminal states have no transitions, and only terminal states
have an output.  All violations are reported at once, in a fixed order.
-/

namespace Questionnaire

/-- A structural problem of a definition. -/
inductive Violation where
  | emptyId
  | unknownInitialState (initial : String)
  | terminalHasTransitions (state : String)
  | outputOnNonTerminal (state : String)
  | unknownTarget (state event target : String)
  deriving DecidableEq

namespace Violation

/-- What is wrong, in words. -/
def message : Violation → String
  | .emptyId => "machine id is empty"
  | .unknownInitialState initial => "initial state '" ++ initial ++ "' is not defined"
  | .terminalHasTransitions state =>
    "terminal state '" ++ state ++ "' has outgoing transitions"
  | .outputOnNonTerminal state =>
    "non-terminal state '" ++ state ++ "' declares an output"
  | .unknownTarget state event target =>
    "state '" ++ state ++ "' sends '" ++ event ++ "' to undefined state '" ++ target ++ "'"

/-- The violation, if a rule is broken. -/
def ofRule (holds : Bool) (violation : Violation) : List Violation :=
  if holds then [] else [violation]

end Violation

namespace Definition

open Violation (ofRule)

/-- The violation of a transition: its target is not a state. -/
def transitionViolations
    (definition : Definition) (state event : String) (transition : Transition) :
    List Violation :=
  match transition.target with
  | some target =>
    ofRule (definition.states.contains target) (.unknownTarget state event target)
  | none => []

/-- The violations of a state and its transitions. -/
def stateViolations
    (definition : Definition) (state : String) (node : StateNode) : List Violation :=
  ofRule (!node.terminal || node.on.isEmpty) (.terminalHasTransitions state)
    ++ ofRule (node.terminal || node.output.isNone) (.outputOnNonTerminal state)
    ++ node.on.entries.flatMap fun (event, transition) =>
      definition.transitionViolations state event transition

/-- Every violation of a definition: those of its name and initial state, then
those of each state. -/
def violations (definition : Definition) : List Violation :=
  ofRule (!definition.id.isEmpty) .emptyId
    ++ ofRule (definition.states.contains definition.initial)
      (.unknownInitialState definition.initial)
    ++ definition.states.entries.flatMap fun (state, node) =>
      definition.stateViolations state node

/-- A definition without violations. -/
def Valid (definition : Definition) : Prop :=
  definition.violations = []

instance (definition : Definition) : Decidable definition.Valid :=
  inferInstanceAs (Decidable (definition.violations = []))

end Definition
end Questionnaire
