import Questionnaire.Proofs.Instance.Soundness

/-!
# Why an instance cannot be built

The error of building an instance is determined by the definition and the names that the
effects are bound to: all violations if there are any, and else the first name that is not
bound, in the order of the states, the event types, and the places in a transition.
-/

namespace Questionnaire

/-! ## Errors of computations -/

section Failures

variable {α β ε : Type}

/-- The error with which something failed. -/
def failure? : Except ε α → Option ε
  | .ok _ => none
  | .error error => some error

theorem failure?_eq_none_iff {result : Except ε α} :
    failure? result = none ↔ ∃ value, result = .ok value := by
  cases result <;> simp [failure?]

theorem failure?_eq_some_iff {result : Except ε α} {error : ε} :
    failure? result = some error ↔ result = .error error := by
  cases result <;> simp [failure?]

theorem failure?_mapError
    {φ : Type}
    (blame : ε → φ)
    (result : Except ε α) :
    failure? (result.mapError blame) = (failure? result).map blame := by
  cases result <;> rfl

/-- A step that cannot fail adds no error. -/
theorem failure?_bind_of_ok
    {next : α → Except ε β}
    (sure : ∀ value, ∃ result, next value = .ok result)
    (first : Except ε α) :
    failure? (first >>= next) = failure? first := by
  cases first with
  | error error => rfl
  | ok value =>
    obtain ⟨result, finished⟩ := sure value
    exact congrArg failure? finished

theorem failure?_bind_pure (first : Except ε α) (f : α → β) :
    failure? (do return f (← first)) = failure? first :=
  failure?_bind_of_ok (fun value => ⟨f value, rfl⟩) first

/-- Mapping fails with the error of the first item that has one. -/
theorem failure?_mapM (f : α → Except ε β) (items : List α) :
    failure? (items.mapM f) = items.findSome? fun item => failure? (f item) := by
  induction items with
  | nil => rfl
  | cons item rest ih =>
    rw [List.mapM_cons, List.findSome?_cons]
    cases f item with
    | error error => rfl
    | ok value => exact (failure?_bind_pure (rest.mapM f) (value :: ·)).trans ih

theorem failure?_forM (f : α → Except ε Unit) (items : List α) :
    failure? (items.forM f) = items.findSome? fun item => failure? (f item) := by
  induction items with
  | nil => rfl
  | cons item rest ih =>
    change failure? (f item >>= fun _ => rest.forM f) = _
    rw [List.findSome?_cons]
    cases f item with
    | error error => rfl
    | ok value => exact ih

end Failures

/-! ## Names that are not bound -/

/-- The first of some names that is not bound, as an error. -/
def EffectTable.unbound? (effects : EffectTable) (machine : String) (names : List String) :
    Option BuildError :=
  (names.find? fun name => !effects.contains name).map (.unknownEffect machine)

namespace EffectTable

variable {effects : EffectTable} {machine : String}

theorem unbound?_flatMap
    {α : Type}
    (items : List α)
    (names : α → List String) :
    effects.unbound? machine (items.flatMap names) =
      items.findSome? fun item => effects.unbound? machine (names item) := by
  unfold unbound?
  rw [List.find?_flatMap, List.map_findSome?]
  rfl

theorem unbound?_eq_none_iff
    {names : List String} :
    effects.unbound? machine names = none ↔ ∀ name ∈ names, effects.contains name = true := by
  simp [unbound?]

theorem failure?_resolve (machine name : String) :
    failure? (effects.resolve machine name) = effects.unbound? machine [name] := by
  unfold resolve unbound? contains KeyMap.contains
  cases bound : effects.bindings.get? name <;> simp [failure?, bound]

end EffectTable

namespace Definition

variable {effects : EffectTable} {machine : String}

theorem failure?_resolveTransition (transition : Transition) :
    failure? (resolveTransition effects machine transition) =
      effects.unbound? machine transition.effects := by
  have single : transition.effects.flatMap (fun name => [name]) = transition.effects :=
    List.flatMap_singleton' _
  unfold resolveTransition
  rw [failure?_bind_pure, failure?_mapM, ← single, EffectTable.unbound?_flatMap, single]
  congr 1
  funext name
  rw [failure?_bind_pure, EffectTable.failure?_resolve]

theorem failure?_resolveState (node : StateNode) :
    failure? (resolveState effects machine node) =
      effects.unbound? machine node.effectNames := by
  unfold resolveState
  rw [failure?_bind_pure, failure?_mapM, StateNode.effectNames, EffectTable.unbound?_flatMap,
    KeyMap.values, List.findSome?_map]
  congr 1
  funext ⟨event, transition⟩
  exact (failure?_bind_pure _ _).trans (failure?_resolveTransition transition)

/-- The effects that a definition names, in the order of the states, the event types and the
places in a transition. -/
def effectNames (definition : Definition) : List String :=
  definition.states.values.flatMap StateNode.effectNames

theorem mem_effectIds_iff {definition : Definition} {name : String} :
    name ∈ definition.effectIds ↔ name ∈ definition.effectNames := by
  rw [effectIds, effectNames, KeyMap.mem_keys_ofList_iff]
  simp

theorem failure?_resolve (definition : Definition) :
    failure? (definition.resolve effects) =
      effects.unbound? definition.id definition.effectNames := by
  unfold resolve
  rw [failure?_bind_pure, failure?_mapM, effectNames, EffectTable.unbound?_flatMap,
    KeyMap.values, List.findSome?_map]
  congr 1
  funext ⟨state, node⟩
  exact (failure?_bind_pure _ _).trans (failure?_resolveState node)

theorem check_of_invalid
    {definition : Definition}
    (invalid : definition.violations ≠ []) :
    definition.check = .error (.invalidDefinition definition.id definition.violations) := by
  unfold check
  split
  · rename_i valid
    exact absurd valid invalid
  · rfl

/-- What stands in the way of an instance of a definition: all its violations, or else the
first effect that it names and that is not bound. -/
def fault? (effects : EffectTable) (definition : Definition) : Option BuildError :=
  if definition.violations = [] then effects.unbound? definition.id definition.effectNames
  else some (.invalidDefinition definition.id definition.violations)

theorem fault?_eq_none_iff {definition : Definition} :
    definition.fault? effects = none ↔
      definition.violations = [] ∧
        ∀ name ∈ definition.effectIds, effects.contains name = true := by
  unfold fault?
  split
  · rename_i valid
    simp [valid, EffectTable.unbound?_eq_none_iff, mem_effectIds_iff]
  · rename_i invalid
    simp [invalid]

/-- Checking a definition and then resolving its effects fails with its fault. -/
theorem failure?_check_resolve
    {α : Type}
    (definition : Definition)
    (f : TransitionTable → α) :
    failure? (do
      definition.check
      return f (← definition.resolve effects)) = definition.fault? effects := by
  unfold fault?
  by_cases valid : definition.violations = []
  · rw [if_pos valid, check_eq_ok_iff.2 valid]
    exact (failure?_bind_pure _ _).trans definition.failure?_resolve
  · rw [if_neg valid, check_of_invalid valid]
    rfl

end Definition

/-- Building an instance fails with the fault of the definition. -/
theorem Instance.failure?_create
    {κ : Type}
    (id : InstanceId)
    (definition : Definition)
    (effects : EffectTable)
    (context : Fields) :
    failure? (create id definition effects context : Except BuildError (Instance κ)) =
      definition.fault? effects :=
  definition.failure?_check_resolve _

end Questionnaire
