import Questionnaire.Config.Sample
import Questionnaire.Discovery.Basic
import Questionnaire.Proofs.Definition.Faults
import Questionnaire.Proofs.Definition.RoundTrip
import Questionnaire.Proofs.Discovery.Machine
import Questionnaire.Proofs.Flow.Machine

/-!
# Which pods can be asked

A configuration, a flow, a journey and the instance of a single pod are built by different
functions.  All of them refuse the same pods, with the same error: that of the first pod in
the list that has one.
-/

namespace Questionnaire

open Json (Raw)

/-! ## The error of a list of pods -/

namespace Pod

/-- What stands in the way of asking a pod. -/
def fault? (pod : Definition) : Option BuildError :=
  pod.fault? bindings

/-- What stands in the way of asking some pods, which is what stands in the way of the first
of them that cannot be asked. -/
def firstFault? (pods : List Definition) : Option BuildError :=
  pods.findSome? fault?

/-- The effects that a pod may name. -/
def effectIds : List String :=
  [saveAnswer, previousQuestion, update]

theorem contains_bindings_iff {name : String} :
    bindings.contains name = true ↔ name ∈ effectIds := by
  have bound : bindings.bindings.get? name =
      if name = update then some (.assign fun _ => ∅)
      else if name = previousQuestion then some (.notify fun _ => some (.ofKind previousEvent))
      else if name = saveAnswer then some (.notify fun input => some (answerNotice input))
      else none := by
    simp only [bindings, EffectTable.assign, EffectTable.notify, EffectTable.bind,
      KeyMap.get?_insert, KeyMap.get?_empty]
  rw [EffectTable.contains, KeyMap.contains, bound]
  simp only [effectIds, List.mem_cons, List.not_mem_nil, or_false]
  split_ifs <;> simp_all

theorem fault?_eq_none_iff {pod : Definition} :
    fault? pod = none ↔ pod.violations = [] ∧ ∀ name ∈ pod.effectIds, name ∈ effectIds := by
  simp only [fault?, Definition.fault?_eq_none_iff, contains_bindings_iff]

theorem fault?_of_invalid
    {pod : Definition}
    (invalid : pod.violations ≠ []) :
    fault? pod = some (.invalidDefinition pod.id pod.violations) :=
  if_neg invalid

theorem fault?_of_valid
    {pod : Definition}
    (valid : pod.violations = []) :
    fault? pod = (pod.effectNames.find? (· ∉ effectIds)).map (.unknownEffect pod.id) := by
  rw [fault?, Definition.fault?, if_pos valid, EffectTable.unbound?]
  congr 2
  funext name
  simp [← contains_bindings_iff]

theorem failure?_check (pod : Definition) : failure? (check pod) = fault? pod :=
  pod.failure?_check_resolve _

theorem failure?_checkAll (pods : List Definition) :
    failure? (checkAll pods) = firstFault? pods := by
  rw [checkAll, failure?_forM]
  simp only [failure?_check, firstFault?]

theorem firstFault?_eq_none_iff {pods : List Definition} :
    firstFault? pods = none ↔ ∀ pod ∈ pods, fault? pod = none :=
  List.findSome?_eq_none_iff

/-- Pods after the first one that cannot be asked do not matter. -/
theorem firstFault?_of_split
    {earlier later : List Definition}
    {pod : Definition}
    (asked : ∀ other ∈ earlier, fault? other = none)
    (refused : fault? pod ≠ none) :
    firstFault? (earlier ++ pod :: later) = fault? pod := by
  obtain ⟨error, found⟩ := Option.ne_none_iff_exists'.1 refused
  rw [firstFault?, List.findSome?_append, List.findSome?_eq_none_iff.2 asked, Option.none_or,
    List.findSome?_cons, found]

end Pod

/-! ## Building over a list of pods -/

/-- If a machine can always be built, then building something around it over a list of pods
fails only for the pods. -/
theorem Pod.failure?_checkAll_create
    {κ α : Type}
    {effects : EffectTable}
    {machine : Definition}
    (valid : machine.Valid)
    (resolved : ∃ table, machine.resolve effects = .ok table)
    (id : InstanceId)
    (pods : List Definition)
    (context : Fields)
    (f : Instance κ → α) :
    failure? (do
      Pod.checkAll pods
      return f (← Instance.create id machine effects context)) = Pod.firstFault? pods := by
  rw [← Pod.failure?_checkAll]
  refine failure?_bind_of_ok (fun _ => ?_) _
  obtain ⟨table, resolved⟩ := resolved
  rw [Instance.create_eq_ok_iff.2 ⟨valid, table, resolved, rfl⟩]
  exact ⟨_, rfl⟩

theorem Flow.failure?_create
    {κ : Type}
    (id : InstanceId)
    (pods : List Definition)
    (answers : Fields) :
    failure? (Flow.create id pods answers : Except BuildError (Flow κ)) =
      Pod.firstFault? pods :=
  Pod.failure?_checkAll_create valid_definition (exists_resolve_definition pods) id pods _ _

theorem Discovery.failure?_create
    (id : InstanceId)
    (pods : List Definition)
    (answers : Fields) :
    failure? (Discovery.create id pods answers) = Pod.firstFault? pods :=
  Pod.failure?_checkAll_create valid_definition exists_resolve_definition id pods _ _

namespace Config

theorem failure?_check (config : Config) :
    failure? config.check = (Pod.firstFault? config.pods).map .invalidPod := by
  rw [check, failure?_mapError, Pod.failure?_checkAll]

/-! ## Reading back configurations -/

/-- The free-form data of a configuration lasts. -/
structure Lasting (config : Config) : Prop where
  pods : ∀ pod ∈ config.pods, pod.Lasting 2
  answers : (Json.object config.answers).Lasting 1

variable {config : Config}

theorem ofRaw?_toJson (lasting : config.Lasting) :
    ofRaw? config.toJson.toRaw = some config := by
  have pods : (Json.arr (config.pods.map Definition.toJson)).toRaw.list? Definition.ofRaw? =
      some config.pods :=
    Json.list?_arr fun pod member => Definition.ofRaw?_toJson (lasting.pods pod member)
  have answers : (Json.object config.answers).toRaw.fields? = some config.answers := by
    rw [Json.object, Json.toRaw, Raw.fields?,
      Json.members?_fieldsToRaw _ lasting.answers.ordered.2]
    exact congrArg some config.answers.ofList_entries
  unfold ofRaw? toJson
  rw [Json.record?_ofFields]
  simp [KeyMap.lookup_cons_if, pods, answers]

theorem fits_toJson (lasting : config.Lasting) : config.toJson.Fits 0 := by
  apply Json.fits_ofFields (by decide)
  simp only [List.forall_mem_cons]
  refine ⟨⟨by decide, Json.itemsFit_iff.2 ?_⟩, lasting.answers.fits, by simp⟩
  intro item member
  obtain ⟨pod, listed, rfl⟩ := List.mem_map.1 member
  exact Definition.fits_toJson (lasting.pods pod listed) (by decide)

/-- The text of a configuration is read as what was written, and refused for the first pod
that cannot be asked. -/
theorem ofText_text (lasting : config.Lasting) :
    ofText config.toJson.text =
      match Pod.firstFault? config.pods with
      | none => .ok config
      | some error => .error (.invalidPod error) := by
  have checked := config.failure?_check
  rw [ofText, Json.ofText?_text (fits_toJson lasting), Option.bind_some, ofRaw?_toJson lasting]
  dsimp only
  cases first : Pod.firstFault? config.pods with
  | none =>
    rw [first, Option.map_none] at checked
    obtain ⟨_, passed⟩ := failure?_eq_none_iff.1 checked
    rw [passed]
    rfl
  | some error =>
    rw [first, Option.map_some] at checked
    rw [failure?_eq_some_iff.1 checked]
    rfl

/-- Checking a configuration and building a flow or a journey over its pods fail with one
error: that of building an instance of the first pod of which no instance can be built.  A
pod has no error if it is valid and names no effects but the three of a pod; an invalid one
has all its violations as its error, whatever effects it names.  Reading the configuration
back from its text makes the same decision, if its free-form data lasts. -/
theorem builders_agree (κ : Type) (config : Config) :
    let fault := Pod.firstFault? config.pods
    failure? config.check = fault.map .invalidPod ∧
    (∀ id answers,
      failure? (Flow.create id config.pods answers : Except BuildError (Flow κ)) = fault) ∧
    (∀ id answers, failure? (Discovery.create id config.pods answers) = fault) ∧
    (∀ id pod context,
      failure? (Instance.create id pod Pod.bindings context : Except BuildError (Instance κ)) =
        Pod.fault? pod) ∧
    (fault = none ↔ ∀ pod ∈ config.pods, Pod.fault? pod = none) ∧
    (∀ earlier pod later, config.pods = earlier ++ pod :: later →
      (∀ other ∈ earlier, Pod.fault? other = none) → Pod.fault? pod ≠ none →
        fault = Pod.fault? pod) ∧
    (∀ pod, Pod.fault? pod = none ↔
      pod.violations = [] ∧ ∀ name ∈ pod.effectIds, name ∈ Pod.effectIds) ∧
    (∀ pod, pod.violations ≠ [] →
      Pod.fault? pod = some (.invalidDefinition pod.id pod.violations)) ∧
    (∀ pod, pod.violations = [] →
      Pod.fault? pod =
        (pod.effectNames.find? (· ∉ Pod.effectIds)).map (.unknownEffect pod.id)) ∧
    (config.Lasting →
      ofText config.toJson.text =
        match fault with
        | none => .ok config
        | some error => .error (.invalidPod error)) := by
  refine ⟨config.failure?_check, fun id answers => Flow.failure?_create id _ answers,
    fun id answers => Discovery.failure?_create id _ answers,
    fun id pod context => Instance.failure?_create id pod _ context,
    Pod.firstFault?_eq_none_iff, ?_, fun _ => Pod.fault?_eq_none_iff,
    fun _ => Pod.fault?_of_invalid, fun _ => Pod.fault?_of_valid, ofText_text⟩
  intro earlier pod later split asked refused
  rw [split]
  exact Pod.firstFault?_of_split asked refused

/-! ## The sample -/

namespace Sample

variable {depth : Nat}

theorem lasting_presentation
    (inside : depth + 1 < Json.depthLimit)
    (kind label : String)
    (labels : List (String × String)) :
    (presentation kind label labels).Lasting depth := by
  constructor
  · refine Json.fits_ofFields (by omega) ?_
    simp only [List.forall_mem_cons]
    refine ⟨trivial, trivial, Json.fits_ofFields inside ?_, by simp⟩
    intro field member
    obtain ⟨_, _, rfl⟩ := List.mem_map.1 member
    trivial
  · apply Json.ordered_ofFields
    simp only [List.forall_mem_cons]
    refine ⟨trivial, trivial, Json.ordered_ofFields ?_, by simp⟩
    intro field member
    obtain ⟨_, _, rfl⟩ := List.mem_map.1 member
    trivial

/-- A state without an output lasts if its presentation does. -/
theorem lasting_asking
    {node : StateNode}
    (silent : node.output = none)
    (shown : node.presentation.Lasting (depth + 1)) :
    node.Lasting depth :=
  ⟨shown, by simp [silent]⟩

theorem lasting_ending
    (inside : depth + 2 < Json.depthLimit)
    (value : String) :
    (ending value).Lasting depth := by
  refine ⟨⟨trivial, trivial⟩, ?_⟩
  rintro output ⟨⟩
  exact ⟨⟨inside, trivial, trivial⟩, by simp [Json.Ordered, Json.FieldsOrdered]⟩

theorem lasting_simple : simple.Lasting 2 := by
  apply Definition.lasting_of_ofList rfl
  simp only [List.forall_mem_cons]
  exact ⟨lasting_asking rfl (lasting_presentation (by decide) _ _ _),
    lasting_ending (by decide) _, lasting_ending (by decide) _, by simp⟩

theorem lasting_tree : tree.Lasting 2 := by
  have asking (kind label : String) (labels : List (String × String))
      (on : KeyMap Transition) :
      ({ presentation := presentation kind label labels, on : StateNode }).Lasting 4 :=
    lasting_asking rfl (lasting_presentation (by decide) _ _ _)
  apply Definition.lasting_of_ofList rfl
  simp only [List.forall_mem_cons]
  exact ⟨asking _ _ _ _, asking _ _ _ _, asking _ _ _ _,
    lasting_ending (by decide) _, lasting_ending (by decide) _, by simp⟩

end Sample

/-- A pod that is not valid and names an effect that no pod has. -/
def crooked : Definition where
  id := "crooked"
  initial := "ask"
  states := .ofList [("ask", { on := .ofList [("SUBMIT", ⟨some "gone", ["celebrate"]⟩)] })]

/-- Answers from before, and the pods of the sample followed by two that cannot be asked. -/
def mixed : Config where
  pods := sample.pods ++ [crooked, { crooked with id := "" }]
  answers := .singleton "name" (.str "Ada")

theorem lasting_sample : sample.Lasting where
  pods := by
    simp only [sample, List.forall_mem_cons]
    exact ⟨Sample.lasting_simple, Sample.lasting_tree, by simp⟩
  answers := ⟨⟨by decide, trivial⟩, List.Pairwise.nil, trivial⟩

theorem lasting_mixed : mixed.Lasting where
  pods := by
    have asking (on : KeyMap Transition) : ({ on : StateNode }).Lasting 4 :=
      Sample.lasting_asking rfl ⟨trivial, trivial⟩
    simp only [mixed, List.forall_mem_append, List.forall_mem_cons]
    refine ⟨lasting_sample.pods, ?_, ?_, by simp⟩
    · apply Definition.lasting_of_ofList rfl
      simpa only [List.forall_mem_singleton] using asking _
    · apply Definition.lasting_of_ofList rfl
      simpa only [List.forall_mem_singleton] using asking _
  answers := ⟨⟨by decide, trivial, trivial⟩, List.pairwise_singleton .., trivial, trivial⟩

/-- The sample is read back; every way of building from the mixed configuration fails with the
violation of the first pod after the sample's. -/
theorem builders_agree_on_samples :
    let id := InstanceId.root ⟨0, by decide⟩
    let error := BuildError.invalidDefinition "crooked" [.unknownTarget "ask" "SUBMIT" "gone"]
    sample.Lasting ∧ ofText sample.toJson.text = .ok sample ∧
    mixed.Lasting ∧ ofText mixed.toJson.text = .error (.invalidPod error) ∧
    failure? mixed.check = some (.invalidPod error) ∧
    failure? (Flow.create id mixed.pods ∅ : Except BuildError (Flow Unit)) = some error ∧
    failure? (Discovery.create id mixed.pods mixed.answers) = some error := by
  intro id error
  have good : Pod.firstFault? sample.pods = none := by decide
  have bad : Pod.firstFault? mixed.pods = some error := by decide
  obtain ⟨_, _, _, _, _, _, _, _, _, read⟩ := builders_agree Unit sample
  obtain ⟨checked, flow, journey, _, _, _, _, _, _, refused⟩ := builders_agree Unit mixed
  rw [good] at read
  rw [bad] at checked flow journey refused
  exact ⟨lasting_sample, read lasting_sample, lasting_mixed, refused lasting_mixed, checked,
    flow _ _, journey _ _⟩

end Config
end Questionnaire
