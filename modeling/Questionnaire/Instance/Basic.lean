import Questionnaire.Effect.Resolution
import Questionnaire.History
import Questionnaire.NamedState
import Questionnaire.Call

/-!
# Instances

An instance runs one definition.  It is built idle, so that its spawner can
subscribe before the first signal, accepts events once it is started, and ends when
it enters a terminal state.  The type `κ` is how its host tells subscribers apart.
-/

namespace Questionnaire

/-- Where an instance stands in its life. -/
inductive Status where
  | idle
  | running
  | done
  deriving DecidableEq

instance : NamedState Status where
  all := [.idle, .running, .done]
  name
    | .idle => "idle"
    | .running => "running"
    | .done => "done"
  label
    | .idle => "Idle"
    | .running => "Running"
    | .done => "Done"
  isFinal status := status = .done
  isError _ := false

/-- A handle on a subscription, by the number of those made before it.  Fewer than 2^64
subscriptions are made, so that every number fits in 64 bits. -/
structure Subscription where
  number : Nat
  deriving DecidableEq

/-- A running machine.  It numbers the next subscription by those made so far, of which
there are fewer than 2^64. -/
structure Instance (κ : Type) where
  id : InstanceId
  definition : Definition
  transitions : TransitionTable
  current : String
  context : Fields
  status : Status
  output : Option Json
  history : History
  subscribers : List (Subscription × κ)
  nextSubscription : Nat

namespace Instance

variable {κ : Type}

/-- An idle instance of a valid definition whose effects are all bound. -/
def create (id : InstanceId) (definition : Definition) (effects : EffectTable)
    (context : Fields) : Except BuildError (Instance κ) := do
  definition.check
  let transitions ← definition.resolve effects
  return {
    id
    definition
    transitions
    current := definition.initial
    context
    status := .idle
    output := none
    history := {}
    subscribers := []
    nextSubscription := 0 }

/-- Whether the instance has ended. -/
def isDone (machine : Instance κ) : Bool :=
  machine.status = .done

/-- The definition of the current state. -/
def node? (machine : Instance κ) : Option StateNode :=
  machine.definition.state? machine.current

/-- The presentation data of the current state. -/
def presentation (machine : Instance κ) : Json :=
  machine.node?.elim .null StateNode.presentation

/-- The event types that the current state reacts to. -/
def nextEvents (machine : Instance κ) : List String :=
  machine.node?.elim [] StateNode.nextEvents

/-- Whether the current state ends the machine. -/
def atTerminal (machine : Instance κ) : Bool :=
  machine.definition.isTerminal machine.current

/-- The output that the current state builds from the context; an empty object if
it builds none. -/
def builtOutput (machine : Instance κ) : Json :=
  (machine.node?.bind StateNode.output).elim (.obj []) (·.build machine.context)

/-! ## Subscribers -/

/-- Register a subscriber after the others. -/
def subscribe (outlet : κ) (machine : Instance κ) : Subscription × Instance κ :=
  let subscription : Subscription := ⟨machine.nextSubscription⟩
  (subscription,
    { machine with
      subscribers := machine.subscribers ++ [(subscription, outlet)]
      nextSubscription := machine.nextSubscription + 1 })

/-- Whether a subscription is registered. -/
def isSubscribed (subscription : Subscription) (machine : Instance κ) : Bool :=
  machine.subscribers.any (·.1 = subscription)

/-- Remove a subscription, and tell whether it was registered. -/
def unsubscribe (subscription : Subscription) (machine : Instance κ) : Bool × Instance κ :=
  (machine.isSubscribed subscription,
    { machine with subscribers := machine.subscribers.filter (·.1 ≠ subscription) })

/-- A signal in its envelope. -/
def envelope (machine : Instance κ) (signal : Signal) : Envelope :=
  ⟨machine.id, machine.definition.id, signal⟩

/-- Send a signal to every subscriber, in the order in which they subscribed. -/
def emit (machine : Instance κ) (signal : Signal) : List (Delivery κ) :=
  machine.subscribers.map fun (_, outlet) => ⟨outlet, machine.envelope signal⟩

end Instance

/-- A view of an instance at one moment. -/
structure Snapshot where
  machine : String
  state : String
  context : Fields
  presentation : Json
  nextEvents : List String
  done : Bool
  output : Option Json
  deriving DecidableEq

/-- The view of an instance. -/
def Instance.snapshot {κ : Type} (machine : Instance κ) : Snapshot where
  machine := machine.definition.id
  state := machine.current
  context := machine.context
  presentation := machine.presentation
  nextEvents := machine.nextEvents
  done := machine.isDone
  output := machine.output

namespace Snapshot

open Json (Raw)

/-- A snapshot as an object, in which an absent output is null. -/
def toJson (snapshot : Snapshot) : Json :=
  .ofFields [
    ("machine", .str snapshot.machine),
    ("state", .str snapshot.state),
    ("context", .object snapshot.context),
    ("meta", snapshot.presentation),
    ("next_events", .ofTexts snapshot.nextEvents),
    ("done", .bool snapshot.done),
    ("output", snapshot.output.getD .null)]

/-- The names of the fields of a snapshot. -/
def fieldNames : List String :=
  ["machine", "state", "context", "meta", "next_events", "done", "output"]

/-- Read a snapshot, in which null stands for an absent output. -/
def ofRaw? (raw : Raw) : Option Snapshot := do
  let [machine, state, context, presentation, nextEvents, done, output] ←
      raw.record? fieldNames 7
    | none
  return {
    machine := ← machine.bind Raw.text?
    state := ← state.bind Raw.text?
    context := ← context.bind Raw.fields?
    presentation := ← presentation.bind Raw.value?
    nextEvents := ← nextEvents.bind (·.list? Raw.text?)
    done := ← done.bind Raw.flag?
    output := ← output.elim (some none) (·.orNull? Raw.value?) }

end Snapshot
end Questionnaire
