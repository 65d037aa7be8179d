import Questionnaire.Discovery.Machine
import Questionnaire.KeyMap.Lemmas
import Questionnaire.Proofs.Instance.Report

/-!
# What the machine of a journey does with its events

The machine of a journey goes from phase to phase.  Each phase knows few events: on one of
them the machine enters another phase and puts a field over its context, and it ends if
that phase is final.  All other events are ignored.
-/

namespace Questionnaire
namespace Discovery

theorem valid_definition : Discovery.definition.Valid := by decide

theorem exists_resolve_definition :
    ∃ transitions, Discovery.definition.resolve effects = .ok transitions :=
  ⟨_, rfl⟩

/-! ## Phases -/

/-- Whether a phase ends the journey. -/
def Phase.IsFinal (phase : Phase) : Prop :=
  phase = .done ∨ phase = .error

instance (phase : Phase) : Decidable phase.IsFinal :=
  inferInstanceAs (Decidable (_ ∨ _))

theorem ofName?_state (phase : Phase) : NamedState.ofName? phase.state = some phase := by
  cases phase <;> rfl

theorem Phase.state_inj {left right : Phase} : left.state = right.state ↔ left = right := by
  constructor
  · intro same
    have read : (NamedState.ofName? left.state : Option Phase) = NamedState.ofName? right.state :=
      congrArg NamedState.ofName? same
    rw [ofName?_state, ofName?_state] at read
    exact Option.some.inj read
  · rintro rfl
    rfl

theorem isTerminal_state (phase : Phase) :
    Discovery.definition.isTerminal phase.state = decide phase.IsFinal := by
  cases phase <;> rfl

/-- The field of an event under a key, as it is put over a context. -/
def copied (key : String) (event : Event) : Fields :=
  .singleton key ((event.get? key).getD .null)

/-- The phase that an event leads to, and what is put over the context. -/
def Phase.step? (event : Event) : Phase → Option (Phase × Fields)
  | .loading =>
    if event.kind = errorEvent then some (.error, copied errorKey event)
    else if event.kind = userEstablishedEvent then some (.welcome, copied userKey event)
    else none
  | .welcome =>
    if event.kind = startFreshEvent then some (.questions, .singleton answersKey (.obj []))
    else if event.kind = continueEvent then some (.questions, ∅)
    else none
  | .questions =>
    if event.kind = questionsDoneEvent then some (.submitting, copied answersKey event)
    else none
  | .submitting =>
    if event.kind = errorEvent then some (.error, copied errorKey event)
    else if event.kind = doneEvent then some (.done, ∅)
    else none
  | .done => none
  | .error => none

/-- The steps from phase to phase, with what each of them puts over the context. -/
inductive Phase.Steps (event : Event) : Phase → Phase → Fields → Prop
  | established (kind : event.kind = userEstablishedEvent) :
      Steps event .loading .welcome (copied userKey event)
  | unknownUser (kind : event.kind = errorEvent) :
      Steps event .loading .error (copied errorKey event)
  | freshStart (kind : event.kind = startFreshEvent) :
      Steps event .welcome .questions (.singleton answersKey (.obj []))
  | continued (kind : event.kind = continueEvent) :
      Steps event .welcome .questions ∅
  | answered (kind : event.kind = questionsDoneEvent) :
      Steps event .questions .submitting (copied answersKey event)
  | submitted (kind : event.kind = doneEvent) :
      Steps event .submitting .done ∅
  | refused (kind : event.kind = errorEvent) :
      Steps event .submitting .error (copied errorKey event)

theorem Phase.steps_of_step?
    {phase target : Phase}
    {event : Event}
    {patch : Fields}
    (step : phase.step? event = some (target, patch)) :
    Steps event phase target patch := by
  cases phase <;> simp only [step?, reduceCtorEq] at step
  case loading =>
    split_ifs at step with failed established <;> cases step
    · exact .unknownUser failed
    · exact .established established
  case welcome =>
    split_ifs at step with fresh continued <;> cases step
    · exact .freshStart fresh
    · exact .continued continued
  case questions =>
    split_ifs at step with answered
    cases step
    exact .answered answered
  case submitting =>
    split_ifs at step with failed submitted <;> cases step
    · exact .refused failed
    · exact .submitted submitted

/-- No event leads back to the first phase. -/
theorem Phase.ne_loading_of_step
    {phase target : Phase}
    {event : Event}
    {patch : Fields}
    (step : phase.step? event = some (target, patch)) :
    target ≠ .loading := by
  rintro rfl
  cases Phase.steps_of_step? step

/-- A declared transition leads where a step leads, and puts the same over the context. -/
def Declares (event : Event) (transition : Transition) (step : Phase × Fields) : Prop :=
  ∃ result, Definition.resolveTransition effects machineId transition = .ok result ∧
    result.target = some step.1.state ∧
    ∀ input : Effect.Input, input.event = event →
      result.update input = input.context.merge step.2

/-- What a phase does with an event is what the definition declares. -/
theorem transition?_definition (phase : Phase) (event : Event) :
    Option.Rel (Declares event)
      (Discovery.definition.transition? phase.state event.kind) (phase.step? event) := by
  cases phase <;>
    simp only [Definition.transition?, Discovery.definition, Definition.state?,
      KeyMap.get?_ofList, List.reverse_cons, List.reverse_nil, List.nil_append,
      List.cons_append, KeyMap.lookup_cons_if, List.lookup_nil, Phase.state_inj, reduceCtorEq,
      if_false, if_true, Option.bind_some, Phase.step?, KeyMap.get?_empty]
  case done => exact .none
  case error => exact .none
  all_goals
    split_ifs
    all_goals first
      | exact .none
      | exact .some ⟨_, rfl, rfl, by rintro input rfl; rfl⟩

/-! ## The machine -/

/-- The machine of a journey that was started, in a phase. -/
structure Keeps (phase : Phase) (machine : Instance Empty) : Prop where
  sound : machine.Sound effects
  definition : machine.definition = Discovery.definition
  current : machine.current = phase.state
  begun : machine.status ≠ .idle
  final : machine.status = .done ↔ phase.IsFinal

/-- The machine in another phase, with a patch over its context. -/
def entered
    (now : Timestamp)
    (kind : String)
    (target : Phase)
    (patch : Fields)
    (machine : Instance Empty) :
    Instance Empty :=
  ({ machine with context := machine.context.merge patch } : Instance Empty).entering
    now kind target.state

/-- Nobody subscribes to the machine of a journey. -/
theorem eq_nil_of_empty (sent : List (Delivery Empty)) : sent = [] := by
  cases sent with
  | nil => rfl
  | cons delivery _ => exact delivery.outlet.elim

namespace Keeps

variable {phase target : Phase} {machine : Instance Empty} {event : Event} {patch : Fields}

theorem running_iff (keeps : Keeps phase machine) :
    machine.status = .running ↔ ¬phase.IsFinal := by
  rw [← keeps.final]
  have begun := keeps.begun
  cases status : machine.status <;> simp_all

/-- A phase that knows an event is not final. -/
theorem running_of_step
    (keeps : Keeps phase machine)
    (step : phase.step? event = some (target, patch)) :
    machine.status = .running := by
  rw [keeps.running_iff]
  rintro (rfl | rfl) <;> cases Phase.steps_of_step? step

/-- An event that the phase does not know is ignored. -/
theorem dispatch_ignored
    (keeps : Keeps phase machine)
    (running : machine.status = .running)
    (unknown : phase.step? event = none)
    (now : Timestamp) :
    machine.dispatch now event = ⟨machine, .ok .ignored, []⟩ := by
  have declared := transition?_definition phase event
  apply keeps.sound.dispatch_of_undeclared running
  rw [keeps.definition, keeps.current]
  rw [unknown] at declared
  generalize Discovery.definition.transition? phase.state event.kind = transition? at declared ⊢
  cases declared
  rfl

/-- On an event that the phase knows, the machine follows a transition that takes the
step. -/
theorem exists_follow
    (keeps : Keeps phase machine)
    (step : phase.step? event = some (target, patch))
    (now : Timestamp) :
    ∃ transition : ResolvedTransition,
      machine.dispatch now event = machine.follow now event transition ∧
        machine.transition? event.kind = some transition ∧
        transition.target = some target.state ∧
        machine.landed now event transition target.state =
          entered now event.kind target patch machine := by
  have running := keeps.running_of_step step
  have declared := transition?_definition phase event
  rw [step, ← keeps.current, ← keeps.definition] at declared
  generalize declares : machine.definition.transition? machine.current event.kind = declared?
    at declared
  cases declared with
  | some declared =>
    obtain ⟨result, resolved, leads, update⟩ := declared
    obtain ⟨_, found, resolvedToo⟩ := keeps.sound.exists_resolved declares
    rw [keeps.definition] at resolvedToo
    cases Except.ok.inj (resolved.symm.trans resolvedToo)
    refine ⟨result, Instance.dispatch_eq_follow running found, found, leads, ?_⟩
    rw [Instance.landed, entered, update _ rfl]
    rfl

/-- On an event that the phase knows, the machine enters another phase. -/
theorem dispatch_entered
    (keeps : Keeps phase machine)
    (step : phase.step? event = some (target, patch))
    (proper : ¬target.IsFinal)
    (now : Timestamp) :
    machine.dispatch now event =
        ⟨entered now event.kind target patch machine,
          .ok (.transitioned phase.state target.state), []⟩ ∧
      Keeps target (entered now event.kind target patch machine) := by
  obtain ⟨transition, followed, found, leads, landed⟩ := keeps.exists_follow step now
  have running := keeps.running_of_step step
  have notTerminal : machine.definition.isTerminal target.state = false := by
    rw [keeps.definition, isTerminal_state, decide_eq_false proper]
  have sound : (machine.follow now event transition).next.Sound effects :=
    keeps.sound.follow running found
  rw [Instance.follow_enter leads notTerminal, landed] at followed sound
  rw [followed, eq_nil_of_empty (machine.notified event transition), keeps.current]
  refine ⟨rfl, sound, keeps.definition, rfl, keeps.begun, ?_⟩
  show machine.status = .done ↔ _
  simp [running, proper]

/-- On an event that leads to a final phase, the machine ends there. -/
theorem dispatch_finished
    (keeps : Keeps phase machine)
    (step : phase.step? event = some (target, patch))
    (final : target.IsFinal)
    (now : Timestamp) :
    let ended := entered now event.kind target patch machine
    machine.dispatch now event =
        ⟨ended.finished, .ok (.terminated target.state ended.builtOutput), []⟩ ∧
      Keeps target ended.finished := by
  obtain ⟨transition, followed, found, leads, landed⟩ := keeps.exists_follow step now
  have running := keeps.running_of_step step
  have terminal : machine.definition.isTerminal target.state = true := by
    rw [keeps.definition, isTerminal_state, decide_eq_true final]
  have sound : (machine.follow now event transition).next.Sound effects :=
    keeps.sound.follow running found
  rw [Instance.follow_end leads terminal, landed] at followed sound
  intro ended
  rw [followed, eq_nil_of_empty (_ ++ _)]
  refine ⟨rfl, sound, keeps.definition, rfl, ?_, ?_⟩
  · simp [Instance.finished]
  · simp [Instance.finished, final]

/-- A machine that has ended refuses every event. -/
theorem dispatch_final
    (keeps : Keeps phase machine)
    (final : phase.IsFinal)
    (now : Timestamp)
    (event : Event) :
    machine.dispatch now event =
      ⟨machine, .error (.protocol (.alreadyTerminated machineId phase.state)), []⟩ := by
  have done := keeps.final.2 final
  simp only [Instance.dispatch, done, keeps.definition, keeps.current]
  rfl

/-! ## Outputs -/

/-- A journey that is done has the user and the answers as its output. -/
theorem output_done
    {user answers : Json}
    (keeps : Keeps .done machine)
    (userField : machine.context.get? userKey = some user)
    (answersField : machine.context.get? answersKey = some answers) :
    machine.output = some (.ofFields [(userKey, user), (answersKey, answers)]) := by
  have done := keeps.final.2 (.inl rfl)
  have built : machine.builtOutput =
      (OutputBuilder.pick [userKey, answersKey]).build machine.context := by
    rw [Instance.builtOutput, Instance.node?, keeps.definition, keeps.current]
    rfl
  rw [keeps.sound.output, built, OutputBuilder.build, OutputBuilder.pickFields]
  simp [Instance.isDone, done, userField, answersField, Json.ofFields]

/-- A journey that has failed has the error as its output. -/
theorem output_error
    {error : Json}
    (keeps : Keeps .error machine)
    (errorField : machine.context.get? errorKey = some error) :
    machine.output = some error := by
  have done := keeps.final.2 (.inr rfl)
  have built : machine.builtOutput = (OutputBuilder.field errorKey).build machine.context := by
    rw [Instance.builtOutput, Instance.node?, keeps.definition, keeps.current]
    rfl
  rw [keeps.sound.output, built, OutputBuilder.build, errorField]
  simp [Instance.isDone, done]

end Keeps
end Discovery

/-! ## The machine that establishes the user -/

namespace EstablishUser

theorem valid_definition : EstablishUser.definition.Valid := by decide

/-- The transitions of the machine. -/
def transitions : TransitionTable :=
  match EstablishUser.definition.resolve effects with
  | .ok table => table
  | .error _ => ∅

theorem resolve_definition :
    EstablishUser.definition.resolve effects = .ok transitions := rfl

/-- The machine can always be built. -/
theorem create_eq_ok {κ : Type} (id : InstanceId) (context : Fields) :
    Instance.create id EstablishUser.definition effects context =
      .ok (.idle id EstablishUser.definition transitions context : Instance κ) :=
  Instance.create_eq_ok_iff.2 ⟨valid_definition, transitions, resolve_definition, rfl⟩

/-- The effects of the machine send no notifications. -/
theorem mute_effects : EstablishUser.effects.Mute :=
  EffectTable.mute_empty.assign saveUserEffect (copied userKey)

/-- The machine does not know the event with which a journey hears of the user. -/
theorem transition?_userEstablished (state : String) :
    EstablishUser.definition.transition? state Discovery.userEstablishedEvent = none := by
  simp only [Definition.transition?, EstablishUser.definition, Definition.state?,
    KeyMap.get?_ofList, List.reverse_cons, List.reverse_nil, List.nil_append, List.cons_append,
    KeyMap.lookup_cons_if, List.lookup_nil]
  split_ifs <;> rfl

end EstablishUser
end Questionnaire
