import Questionnaire.BuildError
import Questionnaire.Event

/-!
# Effects

An effect is a pure function of the state, the context and the event at hand.  It
either updates the context or sends a notification.  A table binds the names that
definitions use to effects; whoever starts a machine supplies the table.
-/

namespace Questionnaire

namespace Effect

/-- What an effect may look at: the state that is left, the context as it was
before the transition, and the event. -/
structure Input where
  state : String
  context : Fields
  event : Event

end Effect

/-- An effect. -/
inductive Effect where
  /-- Put the fields of a patch over the context. -/
  | assign (patch : Effect.Input → Fields)
  /-- Send a notification, or nothing. -/
  | notify (notice : Effect.Input → Option Event)

/-- Effects under names. -/
structure EffectTable where
  bindings : KeyMap Effect := ∅

namespace EffectTable

/-- The table with an effect under a name, in place of an earlier one. -/
def bind (table : EffectTable) (id : String) (effect : Effect) : EffectTable :=
  ⟨table.bindings.insert id effect⟩

/-- The table with a context update under a name. -/
def assign (table : EffectTable) (id : String) (patch : Effect.Input → Fields) : EffectTable :=
  table.bind id (.assign patch)

/-- The table with a notification under a name. -/
def notify (table : EffectTable) (id : String) (notice : Effect.Input → Option Event) :
    EffectTable :=
  table.bind id (.notify notice)

/-- The names that are bound, in increasing order. -/
def ids (table : EffectTable) : List String :=
  table.bindings.keys

/-- Whether a name is bound. -/
def contains (table : EffectTable) (id : String) : Bool :=
  table.bindings.contains id

/-- The effect that a machine means by a name. -/
def resolve (table : EffectTable) (machine id : String) : Except BuildError Effect :=
  match table.bindings.get? id with
  | some effect => .ok effect
  | none => .error (.unknownEffect machine id)

end EffectTable
end Questionnaire
