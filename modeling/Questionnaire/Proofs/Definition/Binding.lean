import Questionnaire.Proofs.Definition.Faults

/-!
# Which effects a definition runs with

A definition names effects at places: at a position in the transition of a state on an event
type.  Resolving it fails at the first place whose name is not bound.  If there is none, it
puts the effect most recently bound to the name at each place, and changes nothing else.
-/

namespace Questionnaire

/-! ## First items of a map -/

/-- The first wanted item in lists that belong to the values of a map is in the list for the
least key with such an item. -/
theorem KeyMap.find?_flatMap_values_eq_some_iff
    {α β : Type}
    {map : KeyMap α}
    {items : α → List β}
    {wanted : β → Bool}
    {item : β} :
    (map.values.flatMap items).find? wanted = some item ↔
      ∃ key value, map.get? key = some value ∧ (items value).find? wanted = some item ∧
        ∀ earlier other, earlier < key → map.get? earlier = some other →
          ∀ passed ∈ items other, wanted passed = false := by
  rw [List.find?_flatMap, values, List.findSome?_map, List.findSome?_eq_some_iff]
  constructor
  · rintro ⟨before, ⟨key, value⟩, after, split, found, quiet⟩
    have increasing := map.increasing
    rw [split, List.pairwise_append, List.pairwise_cons] at increasing
    refine ⟨key, value, mem_entries_iff.1 (by simp [split]), found, ?_⟩
    intro earlier other smaller bound passed member
    have listed := mem_entries_iff.2 bound
    rw [split, List.mem_append, List.mem_cons] at listed
    rcases listed with listed | same | listed
    · exact eq_false_of_ne_true (List.find?_eq_none.1 (quiet _ listed) passed member)
    · cases same
      exact absurd smaller (String.lt_irrefl key)
    · exact absurd smaller (String.lt_asymm (increasing.2.1.1 _ listed))
  · rintro ⟨key, value, bound, found, quiet⟩
    obtain ⟨before, after, split⟩ := List.append_of_mem (mem_entries_iff.2 bound)
    have increasing := map.increasing
    rw [split, List.pairwise_append] at increasing
    refine ⟨before, (key, value), after, split, found, ?_⟩
    rintro ⟨earlier, other⟩ listed
    have smaller := increasing.2.2 _ listed _ List.mem_cons_self
    have bound := mem_entries_iff.1 (show (earlier, other) ∈ map.entries by simp [split, listed])
    exact List.find?_eq_none.2 fun passed member =>
      ne_true_of_eq_false (quiet earlier other smaller bound passed member)

theorem KeyMap.mem_values_iff {α : Type} {map : KeyMap α} {value : α} :
    value ∈ map.values ↔ ∃ key, map.get? key = some value := by
  simp [values, ← mem_entries_iff]

/-! ## Bound effects -/

namespace EffectTable

variable {bindings : List (String × Effect)} {name : String} {effect : Effect}

/-- The table of effects that were bound one after another. -/
def ofBindings (bindings : List (String × Effect)) : EffectTable :=
  bindings.foldl (fun table (name, effect) => table.bind name effect) {}

/-- The effect that was bound to a name last. -/
def BoundLast (bindings : List (String × Effect)) (name : String) (effect : Effect) : Prop :=
  ∃ earlier later, bindings = earlier ++ (name, effect) :: later ∧
    ∀ binding ∈ later, binding.1 ≠ name

theorem bindings_ofBindings (bindings : List (String × Effect)) :
    (ofBindings bindings).bindings = .ofList bindings := by
  have binding (table : EffectTable) :
      (bindings.foldl (fun table (name, effect) => table.bind name effect) table).bindings =
        table.bindings.insertAll bindings := by
    induction bindings generalizing table with
    | nil => rfl
    | cons first rest ih => exact ih (table.bind first.1 first.2)
  exact binding {}

/-- Every table comes from binding effects one after another. -/
theorem exists_ofBindings (effects : EffectTable) :
    ∃ bindings, effects = ofBindings bindings := by
  refine ⟨effects.bindings.entries, ?_⟩
  have same := bindings_ofBindings effects.bindings.entries
  rw [KeyMap.ofList_entries] at same
  exact congrArg EffectTable.mk same.symm

theorem get?_ofBindings_eq_some_iff :
    (ofBindings bindings).bindings.get? name = some effect ↔ BoundLast bindings name effect := by
  rw [bindings_ofBindings, KeyMap.get?_ofList, List.lookup_eq_some_iff]
  constructor
  · rintro ⟨later, earlier, split, fresh⟩
    refine ⟨earlier.reverse, later.reverse, ?_, ?_⟩
    · simpa using congrArg List.reverse split
    · intro binding member same
      simpa [same] using fresh binding (List.mem_reverse.1 member)
  · rintro ⟨earlier, later, rfl, fresh⟩
    refine ⟨later.reverse, earlier.reverse, by simp, ?_⟩
    intro binding member
    simpa using (fresh binding (List.mem_reverse.1 member)).symm

theorem contains_ofBindings_iff :
    (ofBindings bindings).contains name = true ↔ name ∈ bindings.map Prod.fst := by
  rw [contains, KeyMap.contains_eq_true_iff, ← KeyMap.mem_keys_iff, bindings_ofBindings,
    KeyMap.mem_keys_ofList_iff]
  simp

end EffectTable

namespace Definition

/-! ## Places -/

/-- A place at which a definition may name an effect. -/
structure Place where
  state : String
  event : String
  position : Nat

/-- Whether a place comes before another one: in the order of the states, then of the event
types, and then of the positions. -/
def Place.Before (first second : Place) : Prop :=
  first.state < second.state ∨ first.state = second.state ∧
    (first.event < second.event ∨
      first.event = second.event ∧ first.position < second.position)

/-- The effect that a definition names at a place. -/
def nameAt? (definition : Definition) (place : Place) : Option String :=
  (definition.transition? place.state place.event).bind fun transition =>
    transition.effects[place.position]?

/-- A definition names something at a place that is not among the names given, but nothing of
the kind before. -/
structure FirstMissing
    (definition : Definition)
    (known : String → Prop)
    (place : Place)
    (name : String) : Prop where
  named : definition.nameAt? place = some name
  missing : ¬known name
  first : ∀ earlier : Place, earlier.Before place →
    ∀ other, definition.nameAt? earlier = some other → known other

variable {definition : Definition} {name : String}

theorem nameAt?_eq_some_iff {place : Place} :
    definition.nameAt? place = some name ↔
      ∃ node transition, definition.states.get? place.state = some node ∧
        node.on.get? place.event = some transition ∧
        transition.effects[place.position]? = some name := by
  simp only [nameAt?, transition?, state?, Option.bind_eq_some_iff]
  constructor
  · rintro ⟨transition, ⟨node, found, declared⟩, named⟩
    exact ⟨node, transition, found, declared, named⟩
  · rintro ⟨node, transition, found, declared, named⟩
    exact ⟨transition, ⟨node, found, declared⟩, named⟩

theorem mem_effectNames_node_iff {node : StateNode} :
    name ∈ node.effectNames ↔
      ∃ (event : String) (transition : Transition) (position : Nat),
        node.on.get? event = some transition ∧ transition.effects[position]? = some name := by
  rw [StateNode.effectNames, List.mem_flatMap]
  constructor
  · rintro ⟨transition, listed, member⟩
    obtain ⟨event, declared⟩ := KeyMap.mem_values_iff.1 listed
    obtain ⟨position, named⟩ := List.mem_iff_getElem?.1 member
    exact ⟨event, transition, position, declared, named⟩
  · rintro ⟨event, transition, position, declared, named⟩
    exact ⟨transition, KeyMap.mem_values_iff.2 ⟨event, declared⟩, List.mem_of_getElem? named⟩

/-- Every effect that a definition names is named at some place. -/
theorem mem_effectIds_iff_nameAt? :
    name ∈ definition.effectIds ↔ ∃ place, definition.nameAt? place = some name := by
  rw [mem_effectIds_iff]
  simp only [effectNames, List.mem_flatMap, KeyMap.mem_values_iff, mem_effectNames_node_iff,
    nameAt?_eq_some_iff]
  constructor
  · rintro ⟨node, ⟨state, found⟩, event, transition, position, declared, named⟩
    exact ⟨⟨state, event, position⟩, node, transition, found, declared, named⟩
  · rintro ⟨place, node, transition, found, declared, named⟩
    exact ⟨node, ⟨_, found⟩, _, transition, _, declared, named⟩

theorem find?_eq_some_iff_getElem?
    {α : Type}
    {items : List α}
    {wanted : α → Bool}
    {item : α} :
    items.find? wanted = some item ↔
      wanted item = true ∧ ∃ position : Nat, items[position]? = some item ∧
        ∀ earlier other, earlier < position → items[earlier]? = some other →
          wanted other = false := by
  rw [List.find?_eq_some_iff_getElem]
  refine and_congr_right fun _ => exists_congr fun position => ?_
  constructor
  · rintro ⟨inside, here, none⟩
    refine ⟨List.getElem?_eq_some_iff.2 ⟨inside, here⟩, ?_⟩
    intro earlier other smaller there
    obtain ⟨_, rfl⟩ := List.getElem?_eq_some_iff.1 there
    simpa using none earlier smaller
  · rintro ⟨there, none⟩
    obtain ⟨inside, here⟩ := List.getElem?_eq_some_iff.1 there
    refine ⟨inside, here, fun earlier smaller => ?_⟩
    simpa using none earlier _ smaller (List.getElem?_eq_getElem (Nat.lt_trans smaller inside))

theorem find?_effectNames_node_eq_some_iff
    {node : StateNode}
    {wanted : String → Bool} :
    node.effectNames.find? wanted = some name ↔
      ∃ event transition, node.on.get? event = some transition ∧
        transition.effects.find? wanted = some name ∧
        ∀ earlier other, earlier < event → node.on.get? earlier = some other →
          ∀ passed ∈ other.effects, wanted passed = false :=
  KeyMap.find?_flatMap_values_eq_some_iff

theorem exists_firstMissing_of_find?_eq_some
    {wanted : String → Bool}
    (found : definition.effectNames.find? wanted = some name) :
    ∃ place, definition.FirstMissing (fun other => wanted other = false) place name := by
  obtain ⟨state, node, found, inside, quietStates⟩ :=
    KeyMap.find?_flatMap_values_eq_some_iff.1 found
  obtain ⟨event, transition, declared, inside, quietEvents⟩ :=
    find?_effectNames_node_eq_some_iff.1 inside
  obtain ⟨holds, position, named, quietPositions⟩ := find?_eq_some_iff_getElem?.1 inside
  refine ⟨⟨state, event, position⟩, ?_, ne_false_of_eq_true holds, ?_⟩
  · exact nameAt?_eq_some_iff.2 ⟨node, transition, found, declared, named⟩
  · rintro ⟨otherState, otherEvent, otherPosition⟩ before other there
    obtain ⟨otherNode, otherTransition, otherFound, otherDeclared, otherNamed⟩ :=
      nameAt?_eq_some_iff.1 there
    dsimp only at otherFound otherDeclared otherNamed
    -- Each part of a place in which the two differ first was passed by a search of its own.
    rcases before with before | ⟨rfl, before | ⟨rfl, before⟩⟩
    · exact quietStates _ _ before otherFound other
        (mem_effectNames_node_iff.2 ⟨_, _, _, otherDeclared, otherNamed⟩)
    · cases found.symm.trans otherFound
      exact quietEvents _ _ before otherDeclared other (List.mem_of_getElem? otherNamed)
    · cases found.symm.trans otherFound
      cases declared.symm.trans otherDeclared
      exact quietPositions _ _ before otherNamed

theorem FirstMissing.find?_eq_some
    {wanted : String → Bool}
    {place : Place}
    (firstMissing : definition.FirstMissing (fun other => wanted other = false) place name) :
    definition.effectNames.find? wanted = some name := by
  obtain ⟨state, event, position⟩ := place
  obtain ⟨named, missing, quiet⟩ := firstMissing
  obtain ⟨node, transition, found, declared, named⟩ := nameAt?_eq_some_iff.1 named
  have inTransition : transition.effects.find? wanted = some name := by
    refine find?_eq_some_iff_getElem?.2 ⟨eq_true_of_ne_false missing, position, named, ?_⟩
    intro earlier other before otherNamed
    exact quiet ⟨state, event, earlier⟩ (.inr ⟨rfl, .inr ⟨rfl, before⟩⟩) other
      (nameAt?_eq_some_iff.2 ⟨node, transition, found, declared, otherNamed⟩)
  have inNode : node.effectNames.find? wanted = some name := by
    refine find?_effectNames_node_eq_some_iff.2 ⟨event, transition, declared, inTransition, ?_⟩
    intro earlier other before otherDeclared passed member
    obtain ⟨otherPosition, otherNamed⟩ := List.mem_iff_getElem?.1 member
    exact quiet ⟨state, earlier, otherPosition⟩ (.inr ⟨rfl, .inl before⟩) passed
      (nameAt?_eq_some_iff.2 ⟨node, other, found, otherDeclared, otherNamed⟩)
  refine KeyMap.find?_flatMap_values_eq_some_iff.2 ⟨state, node, found, inNode, ?_⟩
  intro earlier other before otherFound passed member
  obtain ⟨otherEvent, otherTransition, otherPosition, otherDeclared, otherNamed⟩ :=
    mem_effectNames_node_iff.1 member
  exact quiet ⟨earlier, otherEvent, otherPosition⟩ (.inl before) passed
    (nameAt?_eq_some_iff.2 ⟨other, otherTransition, otherFound, otherDeclared, otherNamed⟩)

/-- The first wanted name in the order of the traversal is that at the first place with a
wanted name. -/
theorem find?_effectNames_eq_some_iff {wanted : String → Bool} :
    definition.effectNames.find? wanted = some name ↔
      ∃ place, definition.FirstMissing (fun other => wanted other = false) place name :=
  ⟨exists_firstMissing_of_find?_eq_some, fun ⟨_, firstMissing⟩ => firstMissing.find?_eq_some⟩

/-! ## Resolving at every place -/

/-- A transition with an effect beside each of its names, which is the one that was bound to
the name last. -/
structure Linked
    (bindings : List (String × Effect))
    (transition : Transition)
    (resolved : ResolvedTransition) : Prop where
  target : resolved.target = transition.target
  names : resolved.effects.map Prod.fst = transition.effects
  effects : ∀ entry ∈ resolved.effects, EffectTable.BoundLast bindings entry.1 entry.2

variable {bindings : List (String × Effect)}

theorem linked_of_resolveTransition
    {machine : String}
    {transition : Transition}
    {resolved : ResolvedTransition}
    (found : resolveTransition (.ofBindings bindings) machine transition = .ok resolved) :
    Linked bindings transition resolved := by
  obtain ⟨target, paired⟩ := resolveTransition_eq_ok_iff.1 found
  have split : resolved.effects.map Prod.fst = transition.effects ∧
      ∀ entry ∈ resolved.effects, EffectTable.BoundLast bindings entry.1 entry.2 := by
    generalize transition.effects = names at paired
    generalize resolved.effects = entries at paired
    induction paired with
    | nil => simp
    | cons step _ ih =>
      obtain ⟨rfl, bound⟩ := step
      rw [List.map_cons, ih.1, List.forall_mem_cons]
      exact ⟨rfl, EffectTable.get?_ofBindings_eq_some_iff.1 bound, ih.2⟩
  exact ⟨target, split.1, split.2⟩

/-! ## What resolving answers -/

theorem exists_resolve_iff :
    (∃ table, definition.resolve (.ofBindings bindings) = .ok table) ↔
      ∀ name ∈ definition.effectIds, name ∈ bindings.map Prod.fst := by
  rw [← failure?_eq_none_iff, failure?_resolve, EffectTable.unbound?_eq_none_iff]
  simp only [EffectTable.contains_ofBindings_iff, mem_effectIds_iff]

theorem resolve_eq_error_iff {error : BuildError} :
    definition.resolve (.ofBindings bindings) = .error error ↔
      ∃ place name, definition.FirstMissing (· ∈ bindings.map Prod.fst) place name ∧
        error = .unknownEffect definition.id name := by
  rw [← failure?_eq_some_iff, failure?_resolve, EffectTable.unbound?, Option.map_eq_some_iff]
  simp only [find?_effectNames_eq_some_iff, Bool.not_eq_false',
    EffectTable.contains_ofBindings_iff]
  constructor
  · rintro ⟨name, ⟨place, first⟩, rfl⟩
    exact ⟨place, name, first, rfl⟩
  · rintro ⟨place, name, first, rfl⟩
    exact ⟨name, ⟨place, first⟩, rfl⟩

theorem linked_of_resolve
    {table : KeyMap (KeyMap ResolvedTransition)}
    (resolved : definition.resolve (.ofBindings bindings) = .ok table)
    (state event : String) :
    Option.Rel (Linked bindings)
      (definition.transition? state event) ((table.get? state).bind (·.get? event)) := by
  have related := resolve_transition? resolved state event
  generalize definition.transition? state event = declared? at related
  generalize (table.get? state).bind (·.get? event) = resolved? at related
  cases related with
  | none => exact .none
  | some found => exact .some (linked_of_resolveTransition found)

variable {κ : Type} {id : InstanceId} {context : Fields}

theorem exists_create_iff :
    (∃ machine : Instance κ,
        Instance.create id definition (.ofBindings bindings) context = .ok machine) ↔
      definition.violations = [] ∧
        ∀ name ∈ definition.effectIds, name ∈ bindings.map Prod.fst := by
  rw [← failure?_eq_none_iff, Instance.failure?_create, fault?_eq_none_iff]
  simp only [EffectTable.contains_ofBindings_iff]

/-- An instance is refused for the violations of its definition before it is for a name that
is not bound. -/
theorem create_eq_error_iff {effects : EffectTable} {error : BuildError} :
    (Instance.create id definition effects context : Except BuildError (Instance κ)) =
        .error error ↔
      definition.violations ≠ [] ∧
        error = .invalidDefinition definition.id definition.violations ∨
      definition.violations = [] ∧ definition.resolve effects = .error error := by
  rw [← failure?_eq_some_iff, ← failure?_eq_some_iff, Instance.failure?_create,
    failure?_resolve, fault?]
  by_cases valid : definition.violations = []
  · simp [valid]
  · simp [valid, eq_comm]

/-- What resolving the effects of a definition does, and building an instance of it, for any
effects that were bound one after another, as those of every table were by
`EffectTable.exists_ofBindings`.  Resolving fails at the first place whose name is not bound, and
so succeeds if every name is.  The table has a transition where the definition declares one, and
nowhere else; and that is the declared one, with the effect bound last beside each of its names.
An instance is refused for the violations of the definition before it is for its names. -/
theorem resolves_exactly
    (κ : Type)
    (definition : Definition)
    (bindings : List (String × Effect)) :
    let effects := EffectTable.ofBindings bindings
    let bound := fun name => name ∈ bindings.map Prod.fst
    (∀ name, name ∈ definition.effectIds ↔ ∃ place, definition.nameAt? place = some name) ∧
    ((∃ table, definition.resolve effects = .ok table) ↔
      ∀ name ∈ definition.effectIds, bound name) ∧
    (∀ error, definition.resolve effects = .error error ↔
      ∃ place name, definition.FirstMissing bound place name ∧
        error = .unknownEffect definition.id name) ∧
    (∀ table, definition.resolve effects = .ok table → ∀ state event,
      Option.Rel (Linked bindings)
        (definition.transition? state event) ((table.get? state).bind (·.get? event))) ∧
    (∀ id context,
      (∃ machine : Instance κ, Instance.create id definition effects context = .ok machine) ↔
        definition.violations = [] ∧ ∀ name ∈ definition.effectIds, bound name) ∧
    (∀ id context error,
      (Instance.create id definition effects context : Except BuildError (Instance κ)) =
          .error error ↔
        definition.violations ≠ [] ∧
          error = .invalidDefinition definition.id definition.violations ∨
        definition.violations = [] ∧ definition.resolve effects = .error error) := by
  exact ⟨fun _ => mem_effectIds_iff_nameAt?, exists_resolve_iff, fun _ => resolve_eq_error_iff,
    fun _ => linked_of_resolve, fun _ _ => exists_create_iff, fun _ _ _ => create_eq_error_iff⟩

end Definition
end Questionnaire
