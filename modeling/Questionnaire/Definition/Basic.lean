import Questionnaire.Json.Basic

/-!
# Machine definitions

A definition is an immutable description of a state machine: its states, the
transitions that each state makes on an event, and how a terminal state builds
the machine's output.  It names effects without containing them, so the same
definition can run with different effects.
-/

namespace Questionnaire

/-- A transition: where it leads, if anywhere, and the effects it runs in order. -/
structure Transition where
  target : Option String
  effects : List String
  deriving DecidableEq

/-- How a terminal state derives the machine's output from its context. -/
inductive OutputBuilder where
  /-- Always the same value. -/
  | constant (value : Json)
  /-- The value of one context field, or null. -/
  | field (name : String)
  /-- An object with those of the named context fields that are present. -/
  | pick (names : List String)
  deriving DecidableEq

namespace OutputBuilder

/-- The context fields among `names` that are present. -/
def pickFields (context : Fields) (names : List String) : Fields :=
  .ofList (names.filterMap fun name => (context.get? name).map (name, ·))

/-- The output for a context. -/
def build (context : Fields) : OutputBuilder → Json
  | .constant value => value
  | .field name => (context.get? name).getD .null
  | .pick names => .object (pickFields context names)

end OutputBuilder

/-- One state: its transitions by event type, whether it ends the machine and with
which output, and data for whoever presents it. -/
structure StateNode where
  on : KeyMap Transition := ∅
  terminal : Bool := false
  output : Option OutputBuilder := none
  presentation : Json := .null
  deriving DecidableEq

namespace StateNode

/-- The event types the state reacts to, in increasing order. -/
def nextEvents (node : StateNode) : List String :=
  node.on.keys

/-- The effects its transitions name, in the order of the event types. -/
def effectNames (node : StateNode) : List String :=
  node.on.values.flatMap Transition.effects

end StateNode

/-- A state machine under a name, with the states it has and the one it starts in. -/
structure Definition where
  id : String
  initial : String
  states : KeyMap StateNode
  deriving DecidableEq

namespace Definition

/-- The state called `name`. -/
def state? (definition : Definition) (name : String) : Option StateNode :=
  definition.states.get? name

/-- Whether `name` is a state that ends the machine. -/
def isTerminal (definition : Definition) (name : String) : Bool :=
  (definition.state? name).any StateNode.terminal

/-- Every effect named by a transition, in increasing order without repetition. -/
def effectIds (definition : Definition) : List String :=
  (KeyMap.ofList ((definition.states.values.flatMap StateNode.effectNames).map (·, ()))).keys

/-- The states that can be answered, which are those that do not end the machine. -/
def questionIds (definition : Definition) : List String :=
  (definition.states.filter fun _ node => !node.terminal).keys

end Definition
end Questionnaire
