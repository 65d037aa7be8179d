import Questionnaire.Proofs.Instance.Report
import Questionnaire.Proofs.Instance.Resumption

/-!
# Runs of an instance

A host builds an instance or resumes one, whatever the checkpoint.  It then starts it,
sends it events, and registers and removes subscribers, in any order.  Between any two of
these calls the instance is in a state of its definition, does not run in a terminal one,
and has an output exactly when it has ended.
-/

namespace Questionnaire
namespace Instance

variable {κ : Type} {definition : Definition} {effects : EffectTable} {given : Option Fields}
  {machine first : Instance κ}

/-- What a host does with an instance. -/
inductive Action (κ : Type) where
  | start
  | dispatch (now : Timestamp) (event : Event)
  | subscribe (outlet : κ)
  | unsubscribe (subscription : Subscription)

/-- The instance after an action. -/
def perform (action : Action κ) (machine : Instance κ) : Instance κ :=
  match action with
  | .start => machine.start.next
  | .dispatch now event => (machine.dispatch now event).next
  | .subscribe outlet => (machine.subscribe outlet).2
  | .unsubscribe subscription => (machine.unsubscribe subscription).2

/-- The instance after several actions. -/
def run : List (Action κ) → Instance κ → Instance κ
  | [], machine => machine
  | action :: rest, machine => run rest (perform action machine)

theorem run_append (earlier later : List (Action κ)) (machine : Instance κ) :
    run (earlier ++ later) machine = run later (run earlier machine) := by
  induction earlier generalizing machine with
  | nil => rfl
  | cons action earlier ih => exact ih (perform action machine)

/-- How a host comes by an instance of a definition: it builds one, with the context
`given`, or it resumes a checkpoint. -/
inductive Obtained (definition : Definition) (effects : EffectTable) :
    (given : Option Fields) → Instance κ → Prop
  | built
      {id : InstanceId}
      {context : Fields}
      {machine : Instance κ}
      (created : create id definition effects context = .ok machine) :
      Obtained definition effects (some context) machine
  | resumed
      {id : InstanceId}
      {checkpoint : Checkpoint}
      {machine : Instance κ}
      (resumed : resume id definition effects checkpoint = .ok machine) :
      Obtained definition effects none machine

/-! ## Instances that were not started -/

/-- An instance that was not started is as it was built. -/
def Untouched (given : Option Fields) (machine : Instance κ) : Prop :=
  machine.status = .idle →
    machine.current = machine.definition.initial ∧ given = some machine.context ∧
      machine.history = {}

theorem begun_resume
    {id : InstanceId}
    {checkpoint : Checkpoint}
    (resumed : resume id definition effects checkpoint = .ok machine) :
    machine.status ≠ .idle := by
  obtain ⟨_, fresh, _, _, _, rfl⟩ := exists_restored_of_resume resumed
  obtain ⟨_, _, begun, restored⟩ := restored_eq fresh checkpoint
  rwa [restored]

theorem start_of_begun (begun : machine.status ≠ .idle) :
    machine.start = ⟨machine, .ok (), []⟩ := by
  unfold start
  cases status : machine.status with
  | idle => exact absurd status begun
  | running => rfl
  | done => rfl

theorem begun_start (machine : Instance κ) : machine.start.next.status ≠ .idle := by
  by_cases idle : machine.status = .idle
  · unfold start
    rw [idle]
    dsimp only
    split <;> simp [finished]
  · rwa [start_of_begun idle]

theorem dispatch_of_idle
    (idle : machine.status = .idle)
    (now : Timestamp)
    (event : Event) :
    machine.dispatch now event =
      ⟨machine, .error (.protocol (.notStarted machine.definition.id)), []⟩ := by
  unfold dispatch
  rw [idle]

theorem status_follow
    (machine : Instance κ)
    (now : Timestamp)
    (event : Event)
    (transition : ResolvedTransition) :
    (machine.follow now event transition).next.status = machine.status ∨
      (machine.follow now event transition).next.status = .done := by
  cases leads : transition.target with
  | none =>
    rw [follow_stay leads]
    exact .inl rfl
  | some target =>
    cases terminal : machine.definition.isTerminal target with
    | true =>
      rw [follow_end leads terminal]
      exact .inr rfl
    | false =>
      rw [follow_enter leads terminal]
      exact .inl rfl

/-- An instance that was started stays so. -/
theorem begun_dispatch
    (begun : machine.status ≠ .idle)
    (now : Timestamp)
    (event : Event) :
    (machine.dispatch now event).next.status ≠ .idle := by
  unfold dispatch
  cases status : machine.status with
  | idle => exact absurd status begun
  | done => exact begun
  | running =>
    dsimp only
    cases machine.transition? event.kind with
    | none => exact begun
    | some transition =>
      dsimp only
      rcases status_follow machine now event transition with same | done
      · rwa [same]
      · simp [done]

/-! ## What every call keeps -/

/-- A sound instance of a definition, which is as it was built unless it was started. -/
structure Held
    (definition : Definition)
    (effects : EffectTable)
    (given : Option Fields)
    (machine : Instance κ) : Prop where
  sound : machine.Sound effects
  runs : machine.definition = definition
  untouched : machine.Untouched given

theorem Obtained.held (obtained : Obtained definition effects given machine) :
    machine.Held definition effects given := by
  cases obtained with
  | built created =>
    have sound := sound_of_create created
    obtain ⟨_, transitions, _, rfl⟩ := create_eq_ok_iff.1 created
    exact ⟨sound, rfl, fun _ => ⟨rfl, rfl, rfl⟩⟩
  | resumed resumed =>
    obtain ⟨sound, same⟩ := sound_of_resume resumed
    exact ⟨sound, same, fun idle => absurd idle (begun_resume resumed)⟩

theorem Held.perform
    (held : machine.Held definition effects given)
    (action : Action κ) :
    (perform action machine).Held definition effects given := by
  cases action with
  | start =>
    exact ⟨held.sound.start, (definition_start machine).trans held.runs,
      fun idle => absurd idle (begun_start machine)⟩
  | dispatch now event =>
    refine ⟨held.sound.dispatch now event,
      (definition_dispatch machine now event).trans held.runs, ?_⟩
    by_cases idle : machine.status = .idle
    · rw [Instance.perform, dispatch_of_idle idle]
      exact held.untouched
    · exact fun still => absurd still (begun_dispatch idle now event)
  | subscribe outlet => exact ⟨held.sound.subscribe outlet, held.runs, held.untouched⟩
  | unsubscribe subscription =>
    exact ⟨held.sound.unsubscribe subscription, held.runs, held.untouched⟩

theorem Held.run
    (held : first.Held definition effects given)
    (actions : List (Action κ)) :
    (run actions first).Held definition effects given := by
  induction actions generalizing first with
  | nil => exact held
  | cons action actions ih => exact ih (held.perform action)

/-! ## Between two calls -/

/-- Where an instance stands between two calls: in the state `node` of its definition, of
which its snapshot tells; not running if that state is terminal; with an output exactly
when it has ended, which is built from the context that it has now; and as it was built,
with the context `given`, if it was not started. -/
structure StandsIn
    (definition : Definition)
    (given : Option Fields)
    (node : StateNode)
    (machine : Instance κ) : Prop where
  runs : machine.definition = definition
  declared : definition.states.get? machine.current = some node
  presentation : machine.snapshot.presentation = node.presentation
  nextEvents : machine.snapshot.nextEvents = node.nextEvents
  live : machine.status = .running → node.terminal = false
  ended : machine.output.isSome = true ↔ machine.status = .done
  output : machine.status = .done →
    machine.output = some (node.output.elim (.obj []) (·.build machine.context))
  untouched : machine.status = .idle →
    machine.current = definition.initial ∧ given = some machine.context ∧
      machine.history = {}

theorem Held.exists_standsIn (held : machine.Held definition effects given) :
    ∃ node, machine.StandsIn definition given node := by
  obtain ⟨sound, rfl, untouched⟩ := held
  obtain ⟨node, found⟩ := sound.current
  refine ⟨node, rfl, found, ?_, ?_, ?_, ?_, ?_, untouched⟩
  · simp [Instance.snapshot, Instance.presentation, found]
  · simp [Instance.snapshot, Instance.nextEvents, found]
  · intro running
    have state : machine.definition.state? machine.current = some node := found
    simpa [atTerminal, Definition.isTerminal, state] using sound.live running
  · rw [← sound.isDone_eq, isDone, decide_eq_true_iff]
  · intro done
    have output := sound.output
    rw [isDone, decide_eq_true done, if_pos rfl] at output
    rw [output, builtOutput, found]
    rfl

/-- However a host came by an instance, and whatever it did with it: the instance is in a
state of its definition, does not run in a terminal one, has an output exactly when it has
ended, which its state and its context determine, and is as it was built if it was not
started. -/
theorem standsIn_of_run
    (obtained : Obtained definition effects given first)
    (actions : List (Action κ)) :
    ∃ node, (run actions first).StandsIn definition given node :=
  (obtained.held.run actions).exists_standsIn

/-- A checkpoint of the tally that was edited by hand: it is in the last state, and says
that the tally has not ended. -/
def editedCheckpoint : Checkpoint where
  version := Checkpoint.supportedVersion
  id := "edited"
  timestamp := .epoch
  machine := tally.id
  state := "stopped"
  context := (Json.ofFields [("total", .int 3)]).text
  done := false
  history := {}

/-- The edited tally resumes as ended, with the total as its output, and stays so. -/
theorem standsIn_of_editedCheckpoint :
    ∃ resumed : Instance Unit,
      resume tallyIds.2 tally tallyEffects editedCheckpoint = .ok resumed ∧
      resumed.status = .done ∧
      ∃ node, (run [.subscribe (), .start, .dispatch .epoch (.ofKind "ADD")] resumed).StandsIn
        tally none node := by
  have checked : (resume tallyIds.2 tally tallyEffects editedCheckpoint).toOption.any
      (fun resumed : Instance Unit => decide (resumed.status = .done)) = true := by
    decide +kernel
  obtain ⟨resumed, built, done⟩ := (Option.any_eq_true _ _).1 checked
  have resumedEq := toOption_eq_some_iff.1 built
  exact ⟨resumed, resumedEq, of_decide_eq_true done, standsIn_of_run (.resumed resumedEq) _⟩

end Instance
end Questionnaire
