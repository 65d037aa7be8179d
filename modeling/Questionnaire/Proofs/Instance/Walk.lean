import Questionnaire.Proofs.Instance.Control

/-!
# Histories are walks

The history of an instance is a walk along the transitions of its definition, from the
initial state to the current one.  Capturing the instance and resuming it does not interrupt
the walk, and whoever sends the recorded event types to a fresh instance of the definition
takes the same walk again.
-/

namespace Questionnaire
namespace Definition

/-- A state has a transition on an event type that leads into `target`. -/
def Leads (definition : Definition) (source kind target : String) : Prop :=
  (definition.transition? source kind).bind Transition.target = some target

/-- Steps along the transitions of a definition from one state to another: each is from the
state into which the one before led. -/
inductive Walk (definition : Definition) :
    (source : String) → List (String × String × String) → (target : String) → Prop
  | stay (state : String) : Walk definition state [] state
  | step
      {source next target kind : String}
      {steps : List (String × String × String)}
      (leads : definition.Leads source kind next)
      (walk : Walk definition next steps target) :
      Walk definition source ((source, next, kind) :: steps) target

variable {definition : Definition} {source middle target kind : String}
  {steps : List (String × String × String)}

theorem Walk.concat
    (walk : definition.Walk source steps middle)
    (leads : definition.Leads middle kind target) :
    definition.Walk source (steps ++ [(middle, target, kind)]) target := by
  induction walk with
  | stay state => exact .step leads (.stay target)
  | step first _ ih => exact .step first (ih leads)

/-- A state of a valid definition from which a transition leads does not end the machine. -/
theorem Valid.not_terminal_of_leads
    (valid : definition.Valid)
    (leads : definition.Leads source kind target) :
    definition.isTerminal source = false := by
  obtain ⟨transition, declared, _⟩ := Option.bind_eq_some_iff.1 leads
  exact valid.not_terminal declared

end Definition

/-! ## Histories -/

namespace History

variable {history other : History}

theorem length_steps (history : History) : history.steps.length = history.length :=
  List.length_map _

theorem length_path (begun : history.passages ≠ []) :
    history.path.length = history.length + 1 := by
  unfold path length
  cases passages : history.passages with
  | nil => exact absurd passages begun
  | cons first rest => simp [Nat.add_comm]

theorem path_eq_steps (history : History) :
    history.path = (history.steps.take 1).map Prod.fst ++ history.steps.map (·.2.1) := by
  simp [path, steps, List.map_take, Passage.untimed, Function.comp_def]

theorem events_eq_steps (history : History) : history.events = history.steps.map (·.2.2) := by
  simp [events, steps, Passage.untimed, Function.comp_def]

end History

namespace Instance

variable {κ : Type} {definition : Definition} {effects : EffectTable} {given : Option Fields}
  {machine : Instance κ}

/-! ## Entering states -/

/-- Whether an answer, if there was one, is that a state was entered. -/
def tellsEntry : Option (Except DispatchError Reaction) → Bool
  | some (.ok (.transitioned _ _)) => true
  | some (.ok (.terminated _)) => true
  | _ => false

/-- Whether a call is answered with that a state was entered. -/
def Leg.enters (leg : Leg κ) : Bool :=
  tellsEntry leg.reaction?

namespace Position

variable {kind target : String}

/-- Where a transition leads from a running position, an event enters the target. -/
theorem after_of_leads
    (position : Position)
    (running : position.status = .running)
    (leads : definition.Leads position.current kind target) :
    position.after definition (.event kind) = position.entering definition kind target ∧
      tellsEntry (position.answer? definition (.event kind)) = true := by
  obtain ⟨transition, declared, somewhere⟩ := Option.bind_eq_some_iff.1 leads
  obtain ⟨enters, tells⟩ := position.event_enters running declared somewhere
  refine ⟨enters, ?_⟩
  rw [position.answer?_of_running running, tells]
  split <;> rfl

/-- A stimulus leads along a transition if the answer to it is that a state was entered, and
nowhere otherwise. -/
theorem after_cases
    (definition : Definition)
    (stimulus : Stimulus)
    (position : Position) :
    let next := position.after definition stimulus
    (tellsEntry (position.answer? definition stimulus) = false ∧
        next.current = position.current ∧ next.passed = position.passed) ∨
      ∃ kind target, definition.Leads position.current kind target ∧
        tellsEntry (position.answer? definition stimulus) = true ∧
        next = position.entering definition kind target := by
  obtain ⟨current, status, passed⟩ := position
  cases stimulus with
  | registration => exact .inl ⟨rfl, rfl, rfl⟩
  | start => cases status <;> exact .inl ⟨rfl, rfl, rfl⟩
  | event kind =>
    cases status with
    | idle => exact .inl ⟨rfl, rfl, rfl⟩
    | done => exact .inl ⟨rfl, rfl, rfl⟩
    | running =>
      let position : Position := ⟨current, .running, passed⟩
      cases declared : definition.transition? current kind with
      | none =>
        obtain ⟨stays, tells⟩ := position.event_ignored rfl declared
        rw [position.answer?_of_running rfl, tells, stays]
        exact .inl ⟨rfl, rfl, rfl⟩
      | some transition =>
        cases somewhere : transition.target with
        | none =>
          obtain ⟨stays, tells⟩ := position.event_stays rfl declared somewhere
          rw [position.answer?_of_running rfl, tells, stays]
          exact .inl ⟨rfl, rfl, rfl⟩
        | some target =>
          have leads : definition.Leads current kind target := by
            rw [Definition.Leads, declared]
            exact somewhere
          obtain ⟨enters, told⟩ := position.after_of_leads rfl leads
          exact .inr ⟨kind, target, leads, told, enters⟩

end Position

/-- On a call, an instance takes one step along a transition if the answer is that a state was
entered, and stays where it is otherwise. -/
theorem Held.takes_step
    (held : machine.Held definition effects given)
    (action : Action κ) :
    let next := Instance.perform action machine
    ((⟨machine, action⟩ : Leg κ).enters = false ∧ next.current = machine.current ∧
        next.history.steps = machine.history.steps) ∨
      ∃ kind target, definition.Leads machine.current kind target ∧
        (⟨machine, action⟩ : Leg κ).enters = true ∧ next.current = target ∧
        next.history.steps = machine.history.steps ++ [(machine.current, target, kind)] := by
  have position := held.sound.position_perform action
  rw [held.runs] at position
  rw [Leg.enters, held.sound.reaction?_leg, held.runs]
  have current := congrArg Position.current position
  have passed := congrArg Position.passed position
  rcases machine.position.after_cases definition action.stimulus with
    ⟨silent, still, same⟩ | ⟨kind, target, leads, told, entering⟩
  · exact .inl ⟨silent, current.trans still, passed.trans same⟩
  · rw [entering] at current passed
    exact .inr ⟨kind, target, leads, told, current, passed⟩

/-! ## Instances that were driven -/

/-- The instances that a host comes to by building one and driving it, and by resuming
checkpoints of what it drives, each with the calls on the way. -/
inductive Driven (definition : Definition) : List (Leg κ) → Instance κ → Prop
  | built
      {id : InstanceId}
      {effects : EffectTable}
      {context : Fields}
      {machine : Instance κ}
      (created : create id definition effects context = .ok machine) :
      Driven definition [] machine
  | called
      {calls : List (Leg κ)}
      {machine : Instance κ}
      (driven : Driven definition calls machine)
      (action : Action κ) :
      Driven definition (calls ++ [⟨machine, action⟩]) (perform action machine)
  | resumed
      {calls : List (Leg κ)}
      {machine next : Instance κ}
      {checkpointId : String}
      {now : Timestamp}
      {id : InstanceId}
      {effects : EffectTable}
      (driven : Driven definition calls machine)
      (resumed : resume id definition effects (machine.checkpoint checkpointId now) = .ok next) :
      Driven definition calls next

namespace Driven

variable {calls : List (Leg κ)}

theorem held (driven : Driven definition calls machine) :
    ∃ effects given, machine.Held definition effects given := by
  induction driven with
  | built created => exact ⟨_, _, (Obtained.built created).held⟩
  | called _ action ih =>
    obtain ⟨effects, given, held⟩ := ih
    exact ⟨effects, given, held.perform action⟩
  | resumed _ resumed => exact ⟨_, _, (Obtained.resumed resumed).held⟩

/-- The history is a walk from the initial state, of one step for each call that was answered
with that a state was entered. -/
theorem walks (driven : Driven definition calls machine) :
    definition.Walk definition.initial machine.history.steps machine.current ∧
      machine.history.steps.length = calls.countP Leg.enters := by
  induction driven with
  | built created =>
    obtain ⟨_, _, _, rfl⟩ := create_eq_ok_iff.1 created
    exact ⟨.stay definition.initial, rfl⟩
  | called driven action ih =>
    obtain ⟨walk, counted⟩ := ih
    obtain ⟨_, _, held⟩ := driven.held
    rw [List.countP_append, List.countP_singleton]
    rcases held.takes_step action with
      ⟨silent, still, same⟩ | ⟨kind, target, leads, told, there, longer⟩
    · rw [still, same, silent]
      exact ⟨walk, counted⟩
    · rw [there, longer, told, List.length_append, counted]
      exact ⟨walk.concat leads, rfl⟩
  | resumed _ resumed ih =>
    obtain ⟨_, fresh, _, _, _, rfl⟩ := exists_restored_of_resume resumed
    obtain ⟨_, _, _, restored⟩ := restored_eq fresh _
    rw [restored]
    exact ih

theorem run (driven : Driven definition calls machine) (actions : List (Action κ)) :
    Driven definition (calls ++ legs actions machine) (Instance.run actions machine) := by
  induction actions generalizing calls machine with
  | nil =>
    rw [legs, List.append_nil]
    exact driven
  | cons action actions ih =>
    rw [legs, List.append_cons]
    exact ih (driven.called action)

end Driven

/-! ## Taking the walk again -/

/-- Events of the given types without payload, each at its time. -/
def bareEvents (timed : List (Timestamp × String)) : List (Action κ) :=
  timed.map fun (now, kind) => .dispatch now (.ofKind kind)

/-- What the types of the steps of a walk do to an instance at its beginning that has not
ended but where the definition ends. -/
theorem Held.retraces
    {source target : String}
    {steps : List (String × String × String)}
    {timed : List (Timestamp × String)}
    (held : machine.Held definition effects given)
    (walk : definition.Walk source steps target)
    (stands : machine.current = source)
    (ready : machine.status = Position.statusIn definition source)
    (same : timed.map Prod.snd = steps.map (·.2.2)) :
    let retraced := Instance.run (bareEvents timed) machine
    (∀ leg ∈ legs (bareEvents timed) machine, leg.enters = true) ∧
      retraced.current = target ∧
      retraced.history.steps = machine.history.steps ++ steps := by
  induction walk generalizing machine timed with
  | stay state =>
    rw [List.map_nil, List.map_eq_nil_iff] at same
    subst same
    refine ⟨?_, stands, (List.append_nil _).symm⟩
    intro leg member
    cases member
  | @step source next target kind steps leads walk ih =>
    obtain ⟨⟨now, other⟩, timed, rfl, sameKind, later⟩ := List.map_eq_cons_iff.1 same
    obtain rfl : kind = other := sameKind.symm
    subst stands
    -- A state that a transition leaves does not end the machine, so it still runs here.
    have valid : definition.Valid := held.runs ▸ held.sound.valid
    have running : machine.status = .running := by
      rw [ready, Position.statusIn, valid.not_terminal_of_leads leads]
      rfl
    obtain ⟨enters, told⟩ := machine.position.after_of_leads running leads
    let action : Action κ := .dispatch now (.ofKind kind)
    have moved : (Instance.perform action machine).position =
        machine.position.entering definition kind next := by
      rw [held.sound.position_perform action, held.runs]
      exact enters
    obtain ⟨entered, there, walked⟩ := ih (held.perform action)
      (congrArg Position.current moved) (congrArg Position.status moved) later
    refine ⟨?_, there, ?_⟩
    · show ∀ leg ∈ ⟨machine, action⟩ ::
          legs (bareEvents timed) (Instance.perform action machine), leg.enters = true
      rw [List.forall_mem_cons, Leg.enters, held.sound.reaction?_leg, held.runs]
      exact ⟨told, entered⟩
    · have longer : (Instance.perform action machine).history.steps =
          machine.history.steps ++ [(machine.current, next, kind)] :=
        congrArg Position.passed moved
      rw [longer, List.append_assoc] at walked
      exact walked

/-- A fresh instance that is started stands in the initial state, and has ended if its
definition ends there. -/
theorem position_start_of_create
    {id : InstanceId}
    {context : Fields}
    (created : create id definition effects context = .ok machine) :
    (perform .start machine).position =
      ⟨definition.initial, Position.statusIn definition definition.initial, []⟩ := by
  obtain ⟨_, _, _, rfl⟩ := create_eq_ok_iff.1 created
  exact position_start _

/-- The history of an instance to which `calls` led tells where it has been: it is a walk
from the initial state to the current one, whose path has one state more than it has steps;
it has one step for each event that was answered with that a state was entered; and a fresh
instance, with any context and any effects that the definition can be resolved with, takes
the same walk when it is sent events of the recorded types. -/
structure Chronicles
    (definition : Definition)
    (calls : List (Leg κ))
    (machine : Instance κ) : Prop where
  walk : definition.Walk definition.initial machine.history.steps machine.current
  path : machine.history.passages ≠ [] →
    machine.history.path.length = machine.history.length + 1
  counts : machine.history.length = calls.countP Leg.enters
  repeats :
    ∀ (id : InstanceId) (effects : EffectTable) (context : Fields) (table : TransitionTable),
      definition.resolve effects = .ok table →
        ∃ fresh : Instance κ, create id definition effects context = .ok fresh ∧
          ∀ timed : List (Timestamp × String), timed.map Prod.snd = machine.history.events →
            let retraced := run (bareEvents timed) fresh.start.next
            (∀ leg ∈ legs (bareEvents timed) fresh.start.next, leg.enters = true) ∧
              retraced.history.path = machine.history.path ∧
              retraced.current = machine.current

/-- However a host drives an instance, and however often it captures and resumes it, the
history tells where the instance has been. -/
theorem chronicles_of_driven
    {calls : List (Leg κ)}
    (driven : Driven definition calls machine) :
    Chronicles definition calls machine := by
  obtain ⟨walk, counted⟩ := driven.walks
  refine ⟨walk, History.length_path, machine.history.length_steps ▸ counted, ?_⟩
  intro id effects context table resolved
  obtain ⟨_, _, held⟩ := driven.held
  have valid : definition.Valid := held.runs ▸ held.sound.valid
  have created : create id definition effects context =
      .ok (idle id definition table context : Instance κ) :=
    create_eq_ok_iff.2 ⟨valid, table, resolved, rfl⟩
  refine ⟨_, created, ?_⟩
  intro timed same
  have begins := position_start_of_create created
  obtain ⟨entered, there, walked⟩ := ((Obtained.built created).held.perform .start).retraces
    walk (congrArg Position.current begins) (congrArg Position.status begins)
    (same.trans machine.history.events_eq_steps)
  have unwalked : (perform .start (idle id definition table context : Instance κ)).history.steps =
      [] :=
    congrArg Position.passed begins
  rw [unwalked, List.nil_append] at walked
  refine ⟨entered, ?_, there⟩
  rw [History.path_eq_steps, History.path_eq_steps machine.history]
  exact congrArg (fun steps => (steps.take 1).map Prod.fst ++ steps.map (·.2.1)) walked

/-- What a host does with a tally before it captures it, and after it resumed it. -/
def interruption : List (Action Unit) × List (Action Unit) :=
  ([.start, .dispatch .epoch (.ofKind "ADD")],
    [.dispatch .epoch (.ofKind "SUBTRACT"), .dispatch .epoch (.ofKind "STOP")])

/-- A tally that is told to add, is resumed with other effects, ignores an event and is
stopped has gone from counting to counting to the end. -/
theorem chronicles_of_interruption :
    ∃ first second : Instance Unit,
      create tallyIds.1 tally tallyEffects ∅ = .ok first ∧
      resume tallyIds.2 tally noticeEffects
          ((run interruption.1 first).checkpoint "interrupted" .epoch) = .ok second ∧
      (run interruption.2 second).history.path = ["counting", "counting", "stopped"] ∧
      Chronicles tally (legs interruption.1 first ++ legs interruption.2 second)
        (run interruption.2 second) := by
  have checked : (create tallyIds.1 tally tallyEffects ∅).toOption.any (fun first =>
      (resume tallyIds.2 tally noticeEffects
        ((run interruption.1 first).checkpoint "interrupted" .epoch)).toOption.any fun second =>
          decide ((run interruption.2 second).history.path =
            ["counting", "counting", "stopped"])) = true := by
    decide +kernel
  obtain ⟨first, built, goesOn⟩ := (Option.any_eq_true _ _).1 checked
  obtain ⟨second, revived, visited⟩ := (Option.any_eq_true _ _).1 goesOn
  have created := toOption_eq_some_iff.1 built
  have resumed := toOption_eq_some_iff.1 revived
  have driven := ((Driven.built created).run interruption.1).resumed resumed
  exact ⟨first, second, created, resumed, of_decide_eq_true visited,
    chronicles_of_driven (driven.run interruption.2)⟩

end Instance
end Questionnaire
