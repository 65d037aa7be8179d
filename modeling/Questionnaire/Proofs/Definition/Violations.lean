import Mathlib.Data.List.Nodup
import Questionnaire.Proofs.Definition.Faults

/-!
# What a definition is reported for

When a violation is one of a definition, and which of two violations is reported first, is
said here without going through the definition.  A report that has every violation once and
in order is determined by this, and is the one that checking a definition makes.
-/

namespace Questionnaire

theorem KeyMap.isEmpty_eq_false_iff {α : Type} {map : KeyMap α} :
    map.isEmpty = false ↔ ∃ key value, map.get? key = some value := by
  simp only [← mem_entries_iff, ← Prod.exists (p := fun entry => entry ∈ map.entries)]
  exact List.isEmpty_eq_false_iff_exists_mem

/-- Lists that belong to the entries of a map, one after another, are in an order if each is
and if smaller keys come before greater ones. -/
theorem KeyMap.pairwise_flatMap_entries
    {α β : Type}
    {map : KeyMap α}
    {items : String × α → List β}
    {before : β → β → Prop}
    (inside : ∀ key value, map.get? key = some value → (items (key, value)).Pairwise before)
    (across : ∀ key later value other, key < later →
      ∀ first ∈ items (key, value), ∀ second ∈ items (later, other), before first second) :
    (map.entries.flatMap items).Pairwise before :=
  List.pairwise_flatMap.2 ⟨fun (key, value) member => inside key value (mem_entries_iff.1 member),
    map.increasing.imp fun {entry later} increasing =>
      across entry.1 later.1 entry.2 later.2 increasing⟩

namespace Violation

/-! ## Violations of a definition -/

/-- Whether a definition has the violation. -/
def Afflicts (definition : Definition) : Violation → Prop
  | .emptyId => definition.id = ""
  | .unknownInitialState initial =>
    initial = definition.initial ∧ definition.state? initial = none
  | .terminalHasTransitions state =>
    ∃ node, definition.state? state = some node ∧ node.terminal = true ∧
      ∃ event transition, node.on.get? event = some transition
  | .outputOnNonTerminal state =>
    ∃ node, definition.state? state = some node ∧ node.terminal = false ∧
      ∃ output, node.output = some output
  | .unknownTarget state event target =>
    ∃ transition, definition.transition? state event = some transition ∧
      transition.target = some target ∧ definition.state? target = none

/-! ## The order of a report -/

/-- The state that a violation is about, if it is about one. -/
def state? : Violation → Option String
  | .emptyId => none
  | .unknownInitialState _ => none
  | .terminalHasTransitions state => some state
  | .outputOnNonTerminal state => some state
  | .unknownTarget state _ _ => some state

/-- The event type that a violation is about, if it is about one. -/
def event? : Violation → Option String
  | .emptyId => none
  | .unknownInitialState _ => none
  | .terminalHasTransitions _ => none
  | .outputOnNonTerminal _ => none
  | .unknownTarget _ event _ => some event

/-- The place of the broken rule among the rules. -/
def rule : Violation → Nat
  | .emptyId => 0
  | .unknownInitialState _ => 1
  | .terminalHasTransitions _ => 2
  | .outputOnNonTerminal _ => 3
  | .unknownTarget _ _ _ => 4

/-- Whether a violation is reported before another one.  What is about no state comes first,
and then state by state in the order of their names.  What is about one state is ordered by
the rules, and what breaks one rule there by the event types. -/
def Before (first second : Violation) : Prop :=
  first.state? < second.state? ∨ first.state? = second.state? ∧
    (first.rule < second.rule ∨ first.rule = second.rule ∧ first.event? < second.event?)

theorem optionalName_lt_asymm {first second : Option String} (before : first < second) :
    ¬second < first := by
  intro after
  cases first with
  | none => cases second <;> exact after
  | some first =>
    cases second with
    | none => exact before
    | some second => exact String.lt_asymm before after

/-- No violation is reported both before and after another one. -/
theorem Before.asymm
    {first second : Violation}
    (before : first.Before second) :
    ¬second.Before first := by
  rintro (after | ⟨sameState, after⟩)
  · rcases before with before | ⟨same, _⟩
    · exact optionalName_lt_asymm before after
    · rw [same] at after
      exact optionalName_lt_asymm after after
  · rcases before with before | ⟨_, before⟩
    · rw [sameState] at before
      exact optionalName_lt_asymm before before
    · rcases before with before | ⟨same, before⟩
      · omega
      · rcases after with after | ⟨_, after⟩
        · omega
        · exact optionalName_lt_asymm before after

end Violation

namespace Definition

open Violation (ofRule Afflicts Before)

variable {definition : Definition} {violation : Violation} {state event : String}
  {node : StateNode} {transition : Transition}

/-! ## Which violations are reported -/

theorem mem_ofRule_iff {holds : Bool} {broken : Violation} :
    violation ∈ ofRule holds broken ↔ holds = false ∧ violation = broken := by
  cases holds <;> simp [ofRule]

theorem mem_transitionViolations_iff :
    violation ∈ definition.transitionViolations state event transition ↔
      ∃ target, transition.target = some target ∧ definition.state? target = none ∧
        violation = .unknownTarget state event target := by
  unfold transitionViolations
  cases leads : transition.target with
  | none => simp
  | some target => simp [mem_ofRule_iff, KeyMap.contains, state?]

theorem mem_stateViolations_iff :
    violation ∈ definition.stateViolations state node ↔
      (node.terminal = true ∧ ∃ event transition, node.on.get? event = some transition) ∧
        violation = .terminalHasTransitions state ∨
      (node.terminal = false ∧ ∃ output, node.output = some output) ∧
        violation = .outputOnNonTerminal state ∨
      ∃ event transition, node.on.get? event = some transition ∧
        violation ∈ definition.transitionViolations state event transition := by
  unfold stateViolations
  simp only [List.mem_append, mem_ofRule_iff, List.mem_flatMap, Prod.exists,
    KeyMap.mem_entries_iff, or_assoc, Bool.or_eq_false_iff, Bool.not_eq_false',
    KeyMap.isEmpty_eq_false_iff, Option.isNone_eq_false_iff, Option.isSome_iff_exists]

theorem mem_violations_iff :
    violation ∈ definition.violations ↔
      definition.id = "" ∧ violation = .emptyId ∨
      definition.state? definition.initial = none ∧
        violation = .unknownInitialState definition.initial ∨
      ∃ state node, definition.state? state = some node ∧
        violation ∈ definition.stateViolations state node := by
  unfold violations
  simp only [List.mem_append, mem_ofRule_iff, List.mem_flatMap, Prod.exists,
    KeyMap.mem_entries_iff, or_assoc, KeyMap.contains, Option.isSome_eq_false_iff,
    Option.isNone_iff_eq_none, Bool.not_eq_false', String.isEmpty_iff]
  rfl

/-- The violations that a definition has are those that are reported. -/
theorem mem_violations_iff_afflicts :
    violation ∈ definition.violations ↔ violation.Afflicts definition := by
  rw [mem_violations_iff]
  simp only [mem_stateViolations_iff, mem_transitionViolations_iff]
  cases violation with
  | emptyId => simp [Afflicts]
  | unknownInitialState initial =>
    have same : definition.state? definition.initial = none ∧ initial = definition.initial ↔
        initial = definition.initial ∧ definition.state? initial = none := by
      rw [and_comm]
      exact and_congr_right fun same => by rw [same]
    simpa [Afflicts] using same
  | terminalHasTransitions state => simp [Afflicts]
  | outputOnNonTerminal state => simp [Afflicts]
  | unknownTarget state event target =>
    have declared (transition : Transition) :
        definition.transition? state event = some transition ↔
          ∃ node, definition.state? state = some node ∧ node.on.get? event = some transition :=
      Option.bind_eq_some_iff
    simp only [Afflicts, declared]
    grind

/-- Only a state that ends the machine has an output, in a valid definition. -/
theorem Valid.terminal_of_output
    {output : OutputBuilder}
    (valid : definition.Valid)
    (found : definition.state? state = some node)
    (outputs : node.output = some output) :
    node.terminal = true := by
  by_contra goesOn
  have afflicts : Afflicts definition (.outputOnNonTerminal state) :=
    ⟨node, found, eq_false_of_ne_true goesOn, output, outputs⟩
  rw [← mem_violations_iff_afflicts, valid] at afflicts
  cases afflicts

/-! ## The order in which they are reported -/

theorem pairwise_ofRule {holds : Bool} {broken : Violation} :
    (ofRule holds broken).Pairwise Before := by
  cases holds <;> simp [ofRule]

theorem state?_of_mem_stateViolations
    (member : violation ∈ definition.stateViolations state node) :
    violation.state? = some state := by
  simp only [mem_stateViolations_iff, mem_transitionViolations_iff] at member
  obtain ⟨_, rfl⟩ | ⟨_, rfl⟩ | ⟨_, _, _, _, _, _, rfl⟩ := member <;> rfl

theorem pairwise_transitionViolations :
    (definition.transitionViolations state event transition).Pairwise Before := by
  unfold transitionViolations
  cases transition.target with
  | none => exact .nil
  | some target => exact pairwise_ofRule

theorem pairwise_stateViolations : (definition.stateViolations state node).Pairwise Before := by
  unfold stateViolations
  simp only [List.pairwise_append, List.mem_append, mem_ofRule_iff, List.mem_flatMap]
  refine ⟨⟨pairwise_ofRule, pairwise_ofRule, ?_⟩, ?_, ?_⟩
  · rintro _ ⟨_, rfl⟩ _ ⟨_, rfl⟩
    exact .inr ⟨rfl, .inl (by simp [Violation.rule])⟩
  · apply KeyMap.pairwise_flatMap_entries
    · intro event transition _
      exact pairwise_transitionViolations
    · intro event later transition other before first member second laterMember
      obtain ⟨_, _, _, rfl⟩ := mem_transitionViolations_iff.1 member
      obtain ⟨_, _, _, rfl⟩ := mem_transitionViolations_iff.1 laterMember
      exact .inr ⟨rfl, .inr ⟨rfl, before⟩⟩
  · rintro first broken second ⟨⟨event, transition⟩, _, member⟩
    obtain ⟨_, _, _, rfl⟩ := mem_transitionViolations_iff.1 member
    rcases broken with ⟨_, rfl⟩ | ⟨_, rfl⟩
    · exact .inr ⟨rfl, .inl (by simp [Violation.rule])⟩
    · exact .inr ⟨rfl, .inl (by simp [Violation.rule])⟩

/-- Violations are reported in order. -/
theorem pairwise_violations (definition : Definition) :
    definition.violations.Pairwise Before := by
  unfold violations
  simp only [List.pairwise_append, List.mem_append, mem_ofRule_iff, List.mem_flatMap]
  refine ⟨⟨pairwise_ofRule, pairwise_ofRule, ?_⟩, ?_, ?_⟩
  · rintro _ ⟨_, rfl⟩ _ ⟨_, rfl⟩
    exact .inr ⟨rfl, .inl (by simp [Violation.rule])⟩
  · apply KeyMap.pairwise_flatMap_entries
    · intro state node _
      exact pairwise_stateViolations
    · intro state later node other before first member second laterMember
      rw [Before, state?_of_mem_stateViolations member,
        state?_of_mem_stateViolations laterMember]
      exact .inl before
  · rintro first broken second ⟨⟨state, node⟩, _, member⟩
    rw [Before, state?_of_mem_stateViolations member]
    rcases broken with ⟨_, rfl⟩ | ⟨_, rfl⟩
    · exact .inl trivial
    · exact .inl trivial

/-! ## Reports -/

/-- A report of a definition has violations of the definition only, each of those once, and
each before those that are reported later. -/
structure Reports (definition : Definition) (report : List Violation) : Prop where
  sound : ∀ violation ∈ report, violation.Afflicts definition
  once : ∀ violation, violation.Afflicts definition → report.count violation = 1
  ordered : report.Pairwise Before

theorem nodup_of_ordered {report : List Violation} (ordered : report.Pairwise Before) :
    report.Nodup :=
  ordered.imp fun before same => (same ▸ before).asymm (same ▸ before)

theorem reports_violations (definition : Definition) :
    definition.Reports definition.violations where
  sound _ := mem_violations_iff_afflicts.1
  once _ afflicts :=
    List.count_eq_one_of_mem (nodup_of_ordered definition.pairwise_violations)
      (mem_violations_iff_afflicts.2 afflicts)
  ordered := definition.pairwise_violations

theorem Reports.mem_iff
    {report : List Violation}
    (reports : definition.Reports report) :
    violation ∈ report ↔ violation.Afflicts definition :=
  ⟨reports.sound violation, fun afflicts =>
    List.count_pos_iff.1 (by simp [reports.once violation afflicts])⟩

/-- A definition has one report only. -/
theorem Reports.unique
    {report other : List Violation}
    (reports : definition.Reports report)
    (otherReports : definition.Reports other) :
    report = other := by
  have sameMembers : report.Perm other :=
    (List.perm_ext_iff_of_nodup (nodup_of_ordered reports.ordered)
      (nodup_of_ordered otherReports.ordered)).2
      fun _ => reports.mem_iff.trans otherReports.mem_iff.symm
  exact sameMembers.eq_of_pairwise
    (fun _ _ _ _ before after => absurd after before.asymm)
    reports.ordered otherReports.ordered

/-- The report of a definition is the list of its violations: checking it succeeds if that
list is empty, and fails with exactly this list otherwise. -/
theorem reports_exactly (definition : Definition) :
    (∀ report, definition.Reports report ↔ definition.violations = report) ∧
      (definition.check = .ok () ↔ definition.Reports []) ∧
      ∀ error, definition.check = .error error ↔
        ∃ report, definition.Reports report ∧ report ≠ [] ∧
          error = .invalidDefinition definition.id report := by
  have unique (report : List Violation) :
      definition.Reports report ↔ definition.violations = report :=
    ⟨definition.reports_violations.unique, fun same => same ▸ definition.reports_violations⟩
  refine ⟨unique, check_eq_ok_iff.trans (unique []).symm, fun error => ?_⟩
  simp only [unique, exists_eq_left']
  by_cases valid : definition.violations = []
  · rw [check_eq_ok_iff.2 valid]
    simp [valid]
  · rw [check_of_invalid valid, Except.error.injEq]
    simp only [valid, not_false_eq_true, true_and, ne_eq, eq_comm]

end Definition
end Questionnaire
