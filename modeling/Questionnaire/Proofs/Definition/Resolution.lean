import Mathlib.Data.List.Forall2
import Questionnaire.BuildError
import Questionnaire.Effect.Resolution
import Questionnaire.KeyMap.Lemmas

/-!
# What validity and resolution guarantee

A valid definition has its initial state and the targets of its transitions among its
states.  A resolved table has an entry for each declared transition and for nothing
else, with the same target and the effects that the table binds to the declared names.
-/

namespace Questionnaire

/-! ## Mapping with a function that can fail -/

theorem bind_eq_ok_iff
    {α β ε : Type}
    {first : Except ε α}
    {next : α → Except ε β}
    {result : β} :
    (first >>= next) = .ok result ↔ ∃ value, first = .ok value ∧ next value = .ok result := by
  cases first <;> simp [bind, Except.bind]

theorem mapError_eq_ok_iff
    {α ε φ : Type}
    {first : Except ε α}
    {blame : ε → φ}
    {result : α} :
    first.mapError blame = .ok result ↔ first = .ok result := by
  cases first <;> simp [Except.mapError]

theorem toOption_eq_some_iff
    {α ε : Type}
    {first : Except ε α}
    {result : α} :
    first.toOption = some result ↔ first = .ok result := by
  cases first <;> simp [Except.toOption]

theorem mapM_eq_ok_iff
    {α β ε : Type}
    {f : α → Except ε β}
    {items : List α}
    {results : List β} :
    items.mapM f = .ok results ↔
      List.Forall₂ (fun item result => f item = .ok result) items results := by
  induction items generalizing results with
  | nil => cases results <;> simp [pure, Except.pure]
  | cons item rest ih =>
    rw [List.mapM_cons]
    cases first : f item with
    | error error => cases results <;> simp [first, bind, Except.bind]
    | ok result =>
      cases later : rest.mapM f with
      | error error => cases results <;> simp [first, later, bind, Except.bind, ← ih]
      | ok remaining =>
        cases results <;> simp [first, later, bind, Except.bind, pure, Except.pure, ← ih]

namespace KeyMap

/-- Mapping the values of a map with a function that can fail keeps every key, and
binds it to the result for its value. -/
theorem get?_ofList_of_mapM
    {α β ε : Type}
    {source : KeyMap α}
    {f : α → Except ε β}
    {entries : List (String × β)}
    (mapped : (source.entries.mapM fun (key, value) => do return (key, ← f value)) =
      .ok entries)
    (key : String) :
    Option.Rel (fun value result => f value = .ok result)
      (source.get? key) ((ofList entries).get? key) := by
  have related : List.Forall₂
      (fun (entry : String × α) (result : String × β) =>
        entry.1 = result.1 ∧ f entry.2 = .ok result.2) source.entries entries := by
    apply (mapM_eq_ok_iff.1 mapped).imp
    rintro ⟨entryKey, value⟩ result step
    cases computed : f value with
    | error error => simp [computed, bind, Except.bind] at step
    | ok output =>
      simp only [computed, bind, Except.bind, pure, Except.pure, Except.ok.injEq] at step
      subst step
      exact ⟨rfl, rfl⟩
  have sameKeys : source.keys = entries.map Prod.fst :=
    List.forall₂_eq_eq_eq ▸ List.forall₂_map_left_iff.2
      (List.forall₂_map_right_iff.2 (related.imp fun _ _ step => step.1))
  have increasing : entries.Pairwise fun left right => left.1 < right.1 :=
    List.pairwise_map.1 (sameKeys ▸ source.keys_increasing)
  rw [get?_ofList, lookup_reverse_of_increasing increasing, get?]
  clear mapped increasing sameKeys
  generalize source.entries = sourceEntries at related
  induction related with
  | nil => exact .none
  | cons step _ ih =>
    rw [lookup_cons_if, lookup_cons_if, step.1]
    split
    · exact .some step.2
    · exact ih

end KeyMap

namespace Definition

/-- The transition that a state declares for an event type. -/
def transition? (definition : Definition) (state event : String) : Option Transition :=
  (definition.state? state).bind fun node => node.on.get? event

/-! ## Validity -/

@[simp] theorem check_eq_ok_iff {definition : Definition} :
    definition.check = .ok () ↔ definition.Valid := by
  unfold check Valid
  split <;> simp_all

theorem ofRule_eq_nil_iff {holds : Bool} {violation : Violation} :
    Violation.ofRule holds violation = [] ↔ holds = true := by
  cases holds <;> simp [Violation.ofRule]

/-- The initial state of a valid definition is one of its states. -/
theorem Valid.initial
    {definition : Definition}
    (valid : definition.Valid) :
    ∃ node, definition.state? definition.initial = some node := by
  unfold Valid violations at valid
  simp only [List.append_eq_nil_iff, ofRule_eq_nil_iff] at valid
  exact KeyMap.contains_eq_true_iff.1 valid.1.2

theorem Valid.stateViolations
    {definition : Definition}
    {state : String}
    {node : StateNode}
    (valid : definition.Valid)
    (found : definition.state? state = some node) :
    definition.stateViolations state node = [] := by
  unfold Valid violations at valid
  simp only [List.append_eq_nil_iff, List.flatMap_eq_nil_iff] at valid
  exact valid.2 (state, node) (KeyMap.mem_entries_iff.2 found)

/-- A terminal state of a valid definition has no transitions. -/
theorem Valid.on_eq_empty
    {definition : Definition}
    {state : String}
    {node : StateNode}
    (valid : definition.Valid)
    (found : definition.state? state = some node)
    (terminal : node.terminal = true) :
    node.on = ∅ := by
  have clean := valid.stateViolations found
  unfold Definition.stateViolations at clean
  simp only [List.append_eq_nil_iff, ofRule_eq_nil_iff] at clean
  simpa [terminal] using clean.1.1

/-- A state with a transition does not end the machine. -/
theorem Valid.not_terminal
    {definition : Definition}
    {state event : String}
    {transition : Transition}
    (valid : definition.Valid)
    (declared : definition.transition? state event = some transition) :
    definition.isTerminal state = false := by
  obtain ⟨node, found, entry⟩ := Option.bind_eq_some_iff.1 declared
  rw [isTerminal, found]
  cases terminal : node.terminal with
  | false => simp [terminal]
  | true =>
    rw [valid.on_eq_empty found terminal] at entry
    simp at entry

/-- Every transition of a valid definition leads to one of its states. -/
theorem Valid.target
    {definition : Definition}
    {state event target : String}
    {transition : Transition}
    (valid : definition.Valid)
    (declared : definition.transition? state event = some transition)
    (leads : transition.target = some target) :
    ∃ node, definition.state? target = some node := by
  obtain ⟨node, found, entry⟩ := Option.bind_eq_some_iff.1 declared
  have clean := valid.stateViolations found
  unfold Definition.stateViolations at clean
  simp only [List.append_eq_nil_iff, List.flatMap_eq_nil_iff] at clean
  have sound := clean.2 (event, transition) (KeyMap.mem_entries_iff.2 entry)
  simp only [transitionViolations, leads, ofRule_eq_nil_iff] at sound
  exact KeyMap.contains_eq_true_iff.1 sound

/-! ## Resolution -/

theorem resolveTransition_eq_ok_iff
    {effects : EffectTable}
    {machine : String}
    {transition : Transition}
    {result : ResolvedTransition} :
    resolveTransition effects machine transition = .ok result ↔
      result.target = transition.target ∧
        List.Forall₂ (fun id entry => entry.1 = id ∧ effects.bindings.get? id = some entry.2)
          transition.effects result.effects := by
  obtain ⟨target, entries⟩ := result
  have each (id : String) (entry : String × Effect) :
      (do return (id, ← effects.resolve machine id)) = Except.ok (ε := BuildError) entry ↔
        entry.1 = id ∧ effects.bindings.get? id = some entry.2 := by
    obtain ⟨entryId, effect⟩ := entry
    unfold EffectTable.resolve
    cases effects.bindings.get? id <;>
      simp [bind, Except.bind, pure, Except.pure, eq_comm]
  simp only [← each]
  rw [← mapM_eq_ok_iff]
  unfold resolveTransition
  cases transition.effects.mapM fun id => do
      return (id, ← effects.resolve machine id) <;>
    simp [bind, Except.bind, pure, Except.pure, eq_comm]

/-- A resolved table has an entry for a state and an event type exactly when the
definition declares a transition there, and the entry is its resolution. -/
theorem resolve_transition?
    {definition : Definition}
    {effects : EffectTable}
    {table : TransitionTable}
    (resolved : definition.resolve effects = .ok table)
    (state event : String) :
    Option.Rel
      (fun transition result =>
        resolveTransition effects definition.id transition = .ok result)
      (definition.transition? state event)
      ((table.get? state).bind (·.get? event)) := by
  have sameStates : Option.Rel
      (fun node row => resolveState effects definition.id node = .ok row)
      (definition.states.get? state) (table.get? state) := by
    obtain ⟨entries, mapped, built⟩ := bind_eq_ok_iff.1 resolved
    cases built
    exact KeyMap.get?_ofList_of_mapM mapped state
  unfold transition? state?
  generalize definition.states.get? state = node? at sameStates
  generalize table.get? state = row? at sameStates
  cases sameStates with
  | none => exact .none
  | some resolvedState =>
    obtain ⟨entries, mapped, built⟩ := bind_eq_ok_iff.1 resolvedState
    cases built
    exact KeyMap.get?_ofList_of_mapM mapped event

end Definition
end Questionnaire
