import Questionnaire.Effect.Basic

/-!
# Resolving effects

All effects that a definition names are looked up when an instance is built, so a
running machine never meets an unknown one.
-/

namespace Questionnaire

/-- A transition with its effects at hand. -/
structure ResolvedTransition where
  target : Option String
  effects : List (String × Effect)

namespace ResolvedTransition

/-- The context after the assigning effects, later ones over earlier ones; every
effect sees the same input. -/
def update (transition : ResolvedTransition) (input : Effect.Input) : Fields :=
  transition.effects.foldl
    (fun context (_, effect) =>
      match effect with
      | .assign patch => context.merge (patch input)
      | .notify _ => context)
    input.context

/-- The notifications of the effects, in their order. -/
def notices (transition : ResolvedTransition) (input : Effect.Input) : List Event :=
  transition.effects.filterMap fun (_, effect) =>
    match effect with
    | .assign _ => none
    | .notify notice => notice input

end ResolvedTransition

/-- Resolved transitions by state and event type. -/
abbrev TransitionTable := KeyMap (KeyMap ResolvedTransition)

namespace Definition

/-- Resolve the effects of one transition, in their order. -/
def resolveTransition (table : EffectTable) (machine : String) (transition : Transition) :
    Except BuildError ResolvedTransition := do
  let effects ← transition.effects.mapM fun id => do
    return (id, ← table.resolve machine id)
  return ⟨transition.target, effects⟩

/-- Resolve the transitions of one state, in the order of the event types. -/
def resolveState (table : EffectTable) (machine : String) (node : StateNode) :
    Except BuildError (KeyMap ResolvedTransition) := do
  let entries ← node.on.entries.mapM fun (event, transition) => do
    return (event, ← resolveTransition table machine transition)
  return .ofList entries

/-- Resolve all transitions, in the order of the states; the first name that is not
bound is an error. -/
def resolve (definition : Definition) (table : EffectTable) :
    Except BuildError TransitionTable := do
  let entries ← definition.states.entries.mapM fun (state, node) => do
    return (state, ← resolveState table definition.id node)
  return .ofList entries

end Definition
end Questionnaire
