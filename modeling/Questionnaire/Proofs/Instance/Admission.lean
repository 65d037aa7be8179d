import Questionnaire.Proofs.Definition.Faults
import Questionnaire.Proofs.Instance.Run

/-!
# Which checkpoints are resumed

A checkpoint has to meet six requirements, on itself, on the definition and on the effects.
It is resumed exactly if it meets them all; if it does not, the first one that it misses, in
a fixed order, is blamed.  The instance that is resumed tells nothing, and whether it has
ended is found out anew.
-/

namespace Questionnaire

/-- Reading an object as a whole gives the fields that reading it as a record gives. -/
theorem Json.Raw.fields?_eq_bind (raw : Raw) :
    raw.fields? = raw.value?.bind Json.fields? := by
  cases raw with
  | obj members =>
    rw [fields?, value?]
    cases members? members with
    | none => rfl
    | some fields => exact (Json.fields?_object (.ofList fields)).symm
  | arr items =>
    rw [value?]
    cases items? items <;> rfl
  | _ => rfl

/-- A first step and a second one whose error does not depend on it fail with the error of
the first, or else with that of the second. -/
theorem failure?_bind
    {α β ε : Type}
    {next : α → Except ε β}
    {later : Option ε}
    (same : ∀ value, failure? (next value) = later)
    (first : Except ε α) :
    failure? (first >>= next) = (failure? first).or later := by
  cases first with
  | error error => rfl
  | ok value => exact same value

namespace Checkpoint

/-- The context of the checkpoint is the text of an object with these fields. -/
def Reads (checkpoint : Checkpoint) (context : Fields) : Prop :=
  (Json.ofText? checkpoint.context).bind Json.fields? = some context

/-- What resuming asks for. -/
inductive Requirement where
  /-- The format is supported. -/
  | version
  /-- The context is the text of an object. -/
  | context
  /-- The definition is valid. -/
  | definition
  /-- The effects that the definition names are bound. -/
  | effects
  /-- The checkpoint is for the definition. -/
  | machine
  /-- The state is one of the definition's. -/
  | state
  deriving DecidableEq

namespace Requirement

variable (definition : Definition) (effects : EffectTable) (checkpoint : Checkpoint)

/-- The requirements in the order in which they count. -/
def all : List Requirement :=
  [.version, .context, .definition, .effects, .machine, .state]

theorem mem_all (requirement : Requirement) : requirement ∈ all := by
  cases requirement <;> decide

/-- A requirement is met by a definition, the effects for it, and a checkpoint. -/
def Met : Requirement → Prop
  | .version => checkpoint.version = 1
  | .context => ∃ context, checkpoint.Reads context
  | .definition => definition.violations = []
  | .effects => ∀ name ∈ definition.effectIds, name ∈ effects.ids
  | .machine => checkpoint.machine = definition.id
  | .state => checkpoint.state ∈ definition.states.keys

instance (requirement : Requirement) :
    Decidable (requirement.Met definition effects checkpoint) :=
  match requirement with
  | .version => inferInstanceAs (Decidable (_ = _))
  | .context =>
    decidable_of_iff (((Json.ofText? checkpoint.context).bind Json.fields?).isSome = true)
      Option.isSome_iff_exists
  | .definition => inferInstanceAs (Decidable (_ = _))
  | .effects => inferInstanceAs (Decidable (∀ name ∈ definition.effectIds, name ∈ effects.ids))
  | .machine => inferInstanceAs (Decidable (_ = _))
  | .state => inferInstanceAs (Decidable (_ ∈ _))

/-- The first requirement that is not met. -/
def unmet? : Option Requirement :=
  all.find? fun requirement => ¬requirement.Met definition effects checkpoint

/-- The error for a requirement that is not met.  An invalid definition is told with all
its violations.  Of several effects that are not bound the first one is told, in the order of
the states, the event types, and the places in a transition. -/
def blame? : Requirement → Option CheckpointError
  | .version => some (.unsupportedVersion checkpoint.version 1)
  | .context => some .malformed
  | .definition => some (.build (.invalidDefinition definition.id definition.violations))
  | .effects =>
    (definition.effectNames.find? fun name => name ∉ effects.ids).map fun name =>
      .build (.unknownEffect definition.id name)
  | .machine => some (.unfit
      ("checkpoint is for '" ++ checkpoint.machine ++ "', not '" ++ definition.id ++ "'"))
  | .state => some (.unfit
      ("state '" ++ checkpoint.state ++ "' is not defined by '" ++ definition.id ++ "'"))

/-- The error of a requirement, if it is not met. -/
def complaint? (requirement : Requirement) : Option CheckpointError :=
  if requirement.Met definition effects checkpoint then none
  else requirement.blame? definition effects checkpoint

variable {definition effects checkpoint} {requirement : Requirement}

theorem unmet?_eq_none_iff :
    unmet? definition effects checkpoint = none ↔
      ∀ requirement : Requirement, requirement.Met definition effects checkpoint := by
  simp [unmet?, mem_all]

theorem complaint?_of_met
    (requirement : Requirement)
    (met : requirement.Met definition effects checkpoint) :
    requirement.complaint? definition effects checkpoint = none :=
  if_pos met

theorem complaint?_of_missed
    (requirement : Requirement)
    (missed : ¬requirement.Met definition effects checkpoint) :
    requirement.complaint? definition effects checkpoint =
      requirement.blame? definition effects checkpoint :=
  if_neg missed

/-- Somebody is to blame for every requirement that is not met. -/
theorem isSome_blame?
    (missed : ¬requirement.Met definition effects checkpoint) :
    (requirement.blame? definition effects checkpoint).isSome = true := by
  cases requirement with
  | effects =>
    obtain ⟨name, named, unbound⟩ : ∃ name ∈ definition.effectIds, name ∉ effects.ids := by
      simpa [Met] using missed
    rw [blame?, Option.isSome_map, List.find?_isSome]
    exact ⟨name, Definition.mem_effectIds_iff.1 named, decide_eq_true unbound⟩
  | _ => rfl

theorem bind_blame?_eq_none_iff :
    (unmet? definition effects checkpoint).bind (blame? definition effects checkpoint) = none ↔
      ∀ requirement : Requirement, requirement.Met definition effects checkpoint := by
  rw [← unmet?_eq_none_iff]
  cases unmet : unmet? definition effects checkpoint with
  | none => simp
  | some requirement =>
    have missed : ¬requirement.Met definition effects checkpoint := by
      simpa using List.find?_some unmet
    simp [Option.isSome_iff_ne_none.1 (isSome_blame? missed)]

theorem findSome?_cons_eq_or
    {α β : Type}
    (f : α → Option β)
    (first : α)
    (rest : List α) :
    (first :: rest).findSome? f = (f first).or (rest.findSome? f) := by
  rw [List.findSome?_cons]
  cases f first <;> rfl

/-- The first complaint is that of the first requirement that is not met. -/
theorem findSome?_complaint? (requirements : List Requirement) :
    requirements.findSome? (complaint? definition effects checkpoint) =
      (requirements.find? fun requirement =>
        ¬requirement.Met definition effects checkpoint).bind
          (blame? definition effects checkpoint) := by
  induction requirements with
  | nil => rfl
  | cons requirement rest ih =>
    by_cases met : requirement.Met definition effects checkpoint
    · rw [List.findSome?_cons, List.find?_cons_of_neg (by simpa using met), ← ih,
        complaint?_of_met requirement met]
    · obtain ⟨error, blamed⟩ := Option.isSome_iff_exists.1 (isSome_blame? met)
      rw [List.findSome?_cons, List.find?_cons_of_pos (by simpa using met),
        complaint?_of_missed requirement met, Option.bind_some, blamed]

end Requirement

open Requirement

variable {definition : Definition} {effects : EffectTable} {checkpoint : Checkpoint}

/-! ## What each part of resuming complains of -/

theorem contextFields_eq_ok_iff {context : Fields} :
    checkpoint.contextFields = .ok context ↔ checkpoint.Reads context := by
  have read : (Json.Raw.ofText? checkpoint.context).bind Json.Raw.fields? =
      (Json.ofText? checkpoint.context).bind Json.fields? := by
    rw [Json.ofText?, Option.bind_assoc]
    exact congrArg _ (funext Json.Raw.fields?_eq_bind)
  rw [contextFields, read, Reads]
  cases (Json.ofText? checkpoint.context).bind Json.fields? <;> simp

theorem failure?_check_eq (definition : Definition) (effects : EffectTable) :
    failure? checkpoint.check = complaint? definition effects checkpoint .version := by
  by_cases supported : checkpoint.version = supportedVersion
  · rw [complaint?_of_met .version supported, check, if_pos supported]
    rfl
  · rw [complaint?_of_missed .version supported, check, if_neg supported]
    rfl

theorem failure?_contextFields (definition : Definition) (effects : EffectTable) :
    failure? checkpoint.contextFields = complaint? definition effects checkpoint .context := by
  by_cases readable : ∃ context, checkpoint.Reads context
  · obtain ⟨context, reads⟩ := readable
    rw [complaint?_of_met .context ⟨context, reads⟩, contextFields_eq_ok_iff.2 reads]
    rfl
  · rw [complaint?_of_missed .context readable]
    cases captured : checkpoint.contextFields with
    | ok context => exact absurd ⟨context, contextFields_eq_ok_iff.1 captured⟩ readable
    | error error =>
      unfold contextFields at captured
      split at captured <;> cases captured
      rfl

theorem map_unbound? :
    (effects.unbound? definition.id definition.effectNames).map .build =
      complaint? definition effects checkpoint .effects := by
  have bound (name : String) : effects.contains name = true ↔ name ∈ effects.ids :=
    KeyMap.contains_eq_true_iff.trans KeyMap.mem_keys_iff.symm
  by_cases met : Requirement.effects.Met definition effects checkpoint
  · have all : effects.unbound? definition.id definition.effectNames = none :=
      EffectTable.unbound?_eq_none_iff.2 fun name named =>
        (bound name).2 (met name (Definition.mem_effectIds_iff.2 named))
    rw [complaint?_of_met .effects met, all]
    rfl
  · rw [complaint?_of_missed .effects met, EffectTable.unbound?, blame?, Option.map_map]
    congr 2
    funext name
    simp [← bound]

theorem map_fault? :
    (definition.fault? effects).map .build =
      (complaint? definition effects checkpoint .definition).or
        (complaint? definition effects checkpoint .effects) := by
  unfold Definition.fault?
  by_cases valid : definition.violations = []
  · rw [complaint?_of_met .definition valid, Option.none_or, if_pos valid, map_unbound?]
  · rw [complaint?_of_missed .definition valid, if_neg valid]
    rfl

end Checkpoint

/-! ## Resuming -/

namespace Instance

open Checkpoint Checkpoint.Requirement

variable {κ : Type} {definition : Definition} {effects : EffectTable}
  {checkpoint : Checkpoint}

/-- The end of resuming: a new instance is put where the checkpoint says, if that is a place
of its definition. -/
def place (definition : Definition) (checkpoint : Checkpoint) (machine : Instance κ) :
    Except CheckpointError (Instance κ) :=
  if checkpoint.machine ≠ definition.id then
    throw <| .unfit <|
      "checkpoint is for '" ++ checkpoint.machine ++ "', not '" ++ definition.id ++ "'"
  else if !definition.states.contains checkpoint.state then
    throw <| .unfit <|
      "state '" ++ checkpoint.state ++ "' is not defined by '" ++ definition.id ++ "'"
  else
    return machine.restored checkpoint

theorem resume_eq (id : InstanceId) :
    (resume id definition effects checkpoint : Except CheckpointError (Instance κ)) = (do
      checkpoint.check
      let context ← checkpoint.contextFields
      let machine ← (create id definition effects context).mapError .build
      place definition checkpoint machine) :=
  rfl

theorem failure?_place (effects : EffectTable) (machine : Instance κ) :
    failure? (place definition checkpoint machine) =
      (complaint? definition effects checkpoint .machine).or
        (complaint? definition effects checkpoint .state) := by
  have known : definition.states.contains checkpoint.state = true ↔
      checkpoint.state ∈ definition.states.keys :=
    KeyMap.contains_eq_true_iff.trans KeyMap.mem_keys_iff.symm
  unfold place
  by_cases same : checkpoint.machine = definition.id
  · rw [complaint?_of_met .machine same, Option.none_or, if_neg (not_not_intro same)]
    by_cases member : checkpoint.state ∈ definition.states.keys
    · rw [complaint?_of_met .state member, known.2 member]
      rfl
    · rw [complaint?_of_missed .state member, eq_false_of_ne_true (mt known.1 member)]
      rfl
  · rw [complaint?_of_missed .machine same, if_pos same]
    rfl

/-- Resuming fails with the first complaint. -/
theorem failure?_resume (id : InstanceId) :
    failure? (resume id definition effects checkpoint : Except CheckpointError (Instance κ)) =
      (unmet? definition effects checkpoint).bind (blame? definition effects checkpoint) := by
  have built (context : Fields) :
      (failure? do
        let machine ← (create id definition effects context).mapError .build
        place (κ := κ) definition checkpoint machine) =
      ((complaint? definition effects checkpoint .definition).or
        (complaint? definition effects checkpoint .effects)).or
          ((complaint? definition effects checkpoint .machine).or
            (complaint? definition effects checkpoint .state)) := by
    rw [failure?_bind (failure?_place effects), failure?_mapError, failure?_create,
      map_fault?]
  rw [unmet?, ← findSome?_complaint?, resume_eq,
    failure?_bind fun _ => failure?_bind built _, failure?_check_eq definition effects,
    failure?_contextFields definition effects, Option.or_assoc]
  simp only [Requirement.all, findSome?_cons_eq_or, List.findSome?_nil, Option.or_none]

/-- A resumed instance stands where its checkpoint was taken, whatever the definition was
then.  It has the captured context and history, and nobody listens to it.  It has ended if
it had when the checkpoint was taken or if its state is terminal now, with the output that
the state builds now, and it runs if it has not.  However many observers subscribe, starting
it again does nothing and tells them nothing. -/
structure Resumes
    (id : InstanceId)
    (definition : Definition)
    (checkpoint : Checkpoint)
    (machine : Instance κ) : Prop where
  id : machine.id = id
  runs : machine.definition = definition
  current : machine.current = checkpoint.state
  context : checkpoint.Reads machine.context
  history : machine.history = checkpoint.history
  subscribers : machine.subscribers = []
  done_iff : machine.status = .done ↔
    checkpoint.done = true ∨
      ∃ node, definition.state? checkpoint.state = some node ∧ node.terminal = true
  running_iff : machine.status = .running ↔ machine.status ≠ .done
  output : ∃ node, definition.state? checkpoint.state = some node ∧
    machine.output =
      if machine.status = .done then
        some (node.output.elim (.obj []) (·.build machine.context))
      else none
  quiet : ∀ observers : List κ,
    (machine.attach observers).start = ⟨machine.attach observers, .ok (), []⟩

theorem status_attach (observers : List κ) (machine : Instance κ) :
    (machine.attach observers).status = machine.status := by
  induction observers generalizing machine with
  | nil => rfl
  | cons observer observers ih => exact ih (machine.subscribe observer).2

theorem resumes_of_resume
    {id : InstanceId}
    {machine : Instance κ}
    (resumed : resume id definition effects checkpoint = .ok machine) :
    machine.Resumes id definition checkpoint := by
  have begun := begun_resume resumed
  obtain ⟨context, fresh, captured, built, ⟨node, known⟩, rfl⟩ :=
    exists_restored_of_resume resumed
  obtain ⟨valid, transitions, resolved, rfl⟩ := create_eq_ok_iff.1 built
  have reads := contextFields_eq_ok_iff.1 captured
  have quiet (observers : List κ) := start_of_begun
    ((status_attach observers _).symm ▸ begun)
  have terminal_iff : definition.isTerminal checkpoint.state = true ↔
      ∃ node, definition.state? checkpoint.state = some node ∧ node.terminal = true :=
    Option.any_eq_true _ _
  unfold restored at quiet ⊢
  dsimp only at quiet ⊢
  split at quiet <;> rename_i ends
  · rw [if_pos ends]
    refine ⟨rfl, rfl, rfl, reads, rfl, rfl, ?_, by simp, ⟨node, known, ?_⟩, quiet⟩
    · rw [Bool.or_eq_true] at ends
      exact ⟨fun _ => ends.imp_right terminal_iff.1, fun _ => rfl⟩
    · simp [builtOutput, node?, idle, known]
  · rw [if_neg ends]
    refine ⟨rfl, rfl, rfl, reads, rfl, rfl, ?_, by simp, ⟨node, known, rfl⟩, quiet⟩
    rw [Bool.or_eq_true] at ends
    exact iff_of_false (by simp) fun ended => ends (ended.imp_right terminal_iff.2)

/-- A checkpoint is resumed exactly if it meets every requirement.  If it does not, the error
is that of the first one that it misses.  What is resumed stands where the checkpoint was
taken, and has ended if that is where it ends. -/
theorem resumes_exactly
    (id : InstanceId)
    (definition : Definition)
    (effects : EffectTable)
    (checkpoint : Checkpoint) :
    ((∃ machine : Instance κ, resume id definition effects checkpoint = .ok machine) ↔
        ∀ requirement : Requirement, requirement.Met definition effects checkpoint) ∧
      (∀ error, (resume id definition effects checkpoint :
          Except CheckpointError (Instance κ)) = .error error ↔
        ∃ requirement, unmet? definition effects checkpoint = some requirement ∧
          requirement.blame? definition effects checkpoint = some error) ∧
      ∀ machine : Instance κ, resume id definition effects checkpoint = .ok machine →
        machine.Resumes id definition checkpoint := by
  refine ⟨?_, fun error => ?_, fun machine => resumes_of_resume⟩
  · rw [← failure?_eq_none_iff, failure?_resume, bind_blame?_eq_none_iff]
  · rw [← failure?_eq_some_iff, failure?_resume, Option.bind_eq_some_iff]

/-- A checkpoint of the tally with everything wrong but the version and the context. -/
def misplacedCheckpoint : Checkpoint :=
  { editedCheckpoint with machine := "till", state := "open" }

/-- The edited tally is resumed, and has ended.  The misplaced one is not resumed: if the
effects are missing as well they are to blame, and otherwise the machine is. -/
theorem resumes_exactly_of_editedCheckpoint :
    ∃ resumed : Instance Unit,
      resume tallyIds.1 tally tallyEffects editedCheckpoint = .ok resumed ∧
        resumed.Resumes tallyIds.1 tally editedCheckpoint ∧
        resumed.status = .done ∧
        (resume tallyIds.1 tally {} misplacedCheckpoint :
          Except CheckpointError (Instance Unit)) =
            .error (.build (.unknownEffect "tally" "add")) ∧
        (resume tallyIds.1 tally tallyEffects misplacedCheckpoint :
          Except CheckpointError (Instance Unit)) =
            .error (.unfit "checkpoint is for 'till', not 'tally'") := by
  have accepted := resumes_exactly (κ := Unit) tallyIds.1 tally tallyEffects editedCheckpoint
  have unbound := resumes_exactly (κ := Unit) tallyIds.1 tally {} misplacedCheckpoint
  have foreign := resumes_exactly (κ := Unit) tallyIds.1 tally tallyEffects misplacedCheckpoint
  obtain ⟨resumed, resumedEq⟩ := accepted.1.2 (unmet?_eq_none_iff.1 (by decide +kernel))
  have stands := accepted.2.2 resumed resumedEq
  refine ⟨resumed, resumedEq, stands, stands.done_iff.2 (.inr ?_), ?_, ?_⟩
  · exact (Option.any_eq_true _ _).1 (by decide +kernel)
  · exact (unbound.2.1 _).2 ⟨.effects, by decide +kernel, by decide +kernel⟩
  · exact (foreign.2.1 _).2 ⟨.machine, by decide +kernel, by decide +kernel⟩

end Instance
end Questionnaire
