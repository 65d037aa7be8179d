import Questionnaire.Proofs.Discovery.Sending

/-!
# Runs of a journey

A host drives a journey by starting it and sending it events.  After each call that
returns the journey is at rest: its mailbox is empty, and it has a child exactly while the
user is being established or the questions are being asked.
-/

namespace Questionnaire
namespace Discovery

variable {pods : List Definition} {phase : Phase} {journey : Discovery} {now : Timestamp}
  {event : Event}

/-! ## Where an event leads -/

/-- A child that is still without an output goes on. -/
theorem Establishing.dispatch
    {child : Instance Unit}
    (alive : Establishing child)
    (now : Timestamp)
    (event : Event)
    (silent : (child.dispatch now event).next.output = none) :
    Establishing (child.dispatch now event).next where
  sound := alive.sound.dispatch now event
  definition := (child.definition_dispatch now event).trans alive.definition
  running := Instance.running_dispatch alive.running silent
  subscribers := (child.subscribers_dispatch now event).trans alive.subscribers

/-- A flow at rest that is still without an output goes on. -/
theorem questioning_of_rests
    {flow : Flow Unit}
    (rests : ∃ board, Flow.Resting pods board flow)
    (subscribers : flow.machine.subscribers = [(⟨0⟩, ())])
    (silent : flow.output = none) :
    Questioning pods flow := by
  refine ⟨rests, ?_, subscribers⟩
  obtain ⟨board, rests⟩ := rests
  have begun := rests.begun
  have proper : flow.machine.isDone = false := by
    rw [rests.keeps.sound.isDone_eq, show flow.machine.output = none from silent]
    rfl
  cases status : flow.machine.status with
  | idle => exact absurd status begun
  | running => rfl
  | done => simp [Instance.isDone, status] at proper

/-- A journey that spawned its question flow asks the questions, or submits the answers if
the flow ended at once. -/
theorem Standing.hears_started
    {patch : Fields}
    {started : Turn (Flow Unit) Unit Unit}
    (stands : Standing pods .welcome journey)
    (step : Phase.welcome.step? event = some (.questions, patch))
    (returned : Flow.start now ((journey.entering now event.kind patch).spawnedFlow
      (.child journey.machine.id journey.spawned)) = some started) :
    Standing pods (started.next.output.elim .questions fun _ => .submitting)
      ((journey.entering now event.kind patch).hearingAnswers now started.next) := by
  have unstarted := stands.unstarted_spawnedFlow now event.kind patch
    (.child journey.machine.id journey.spawned)
  obtain ⟨_, flowRests, tells⟩ := unstarted.answers_start returned
  have inPhase := stands.toInPhase.entering step now
  exact inPhase.hearingAnswers rfl
    (questioning_of_rests flowRests (tells.subscribers.trans rfl)) now

/-- A journey whose question flow answered an event goes on asking, or submits the answers
if the flow has ended. -/
theorem Standing.hears_answered
    {flow : Flow Unit}
    {answered : Turn (Flow Unit) Unit Outcome}
    (stands : Standing pods .questions journey)
    (filled : journey.questions = ⟨some ⟨flow, ⟨0⟩⟩⟩)
    (returned : Flow.send now event flow = some answered) :
    Standing pods (answered.next.output.elim .questions fun _ => .submitting)
      (journey.hearingAnswers now answered.next) := by
  obtain ⟨_, _, alone, _⟩ := stands.exists_flow
  have alive := stands.questioning filled
  obtain ⟨board, rests⟩ := alive.rests
  obtain ⟨_, flowRests, tells⟩ := rests.answers_send alive.running returned
  exact stands.toInPhase.hearingAnswers alone
    (questioning_of_rests flowRests (tells.subscribers.trans alive.subscribers)) now

/-- A journey whose machine that establishes the user took an event is still loading, or
welcomes the user if that machine has ended. -/
theorem Standing.hears_user
    {child : Instance Unit}
    (stands : Standing pods .loading journey)
    (alive : Establishing child)
    (now : Timestamp)
    (event : Event) :
    let next := (child.dispatch now event).next
    Standing pods (next.output.elim .loading fun _ => .welcome)
      (journey.hearingUser now next) := by
  obtain ⟨_, _, alone, _⟩ := stands.exists_child
  exact stands.toInPhase.hearingUser alone (alive.dispatch now event) now

/-- The phase of a journey after what it did with an event. -/
theorem Standing.sent
    {turn : Turn Discovery Empty Outcome}
    (stands : Standing pods phase journey)
    (sent : Sent now event journey phase turn) :
    ∃ target, Standing pods target turn.next := by
  cases sent with
  | refused => exact ⟨_, stands⟩
  | ignored => exact ⟨_, stands⟩
  | ended step final => exact ⟨_, stands.toInPhase.ending step final now⟩
  | established filled alive fine => exact ⟨_, stands.hears_user alive now event⟩
  | entered step returned => exact ⟨_, stands.hears_started step returned⟩
  | asked filled returned fine => exact ⟨_, stands.hears_answered filled returned⟩

/-! ## Runs -/

/-- What a host does with a journey. -/
inductive Action where
  | start (now : Timestamp)
  | send (now : Timestamp) (event : Event)

/-- The journey after an action, if that returns. -/
def perform (action : Action) (journey : Discovery) : Option Discovery :=
  match action with
  | .start now => (Discovery.start now journey).map Turn.next
  | .send now event => (Discovery.send now event journey).map Turn.next

/-- The journey after several actions, if they all return. -/
def run : List Action → Discovery → Option Discovery
  | [], journey => some journey
  | action :: rest, journey => (perform action journey).bind (run rest)

/-- A journey between two calls, which was started or not. -/
inductive AtRest (pods : List Definition) (journey : Discovery) : Prop
  | unstarted (unstarted : Unstarted pods journey)
  | standing (phase : Phase) (stands : Standing pods phase journey)

/-- A journey at rest is at rest after each action that returns. -/
theorem AtRest.perform
    {action : Action}
    {next : Discovery}
    (rest : AtRest pods journey)
    (returned : perform action journey = some next) :
    AtRest pods next := by
  cases action with
  | start now =>
    obtain ⟨turn, started, rfl⟩ := Option.map_eq_some_iff.1 returned
    cases rest with
    | unstarted unstarted =>
      obtain ⟨startedToo, stands⟩ := unstarted.start now
      rw [startedToo] at started
      cases started
      exact .standing .loading stands
    | standing phase stands =>
      rw [start_of_begun stands.keeps.begun] at started
      cases started
      exact .standing phase stands
  | send now event =>
    obtain ⟨turn, sent, rfl⟩ := Option.map_eq_some_iff.1 returned
    cases rest with
    | unstarted unstarted =>
      rw [unstarted.send] at sent
      cases sent
      exact .unstarted unstarted
    | standing phase stands =>
      obtain ⟨target, standsNext⟩ := stands.sent (stands.send_cases sent)
      exact .standing target standsNext

/-- A journey at rest is at rest after every run. -/
theorem AtRest.run
    {actions : List Action}
    {last : Discovery}
    (rest : AtRest pods journey)
    (returned : Discovery.run actions journey = some last) :
    AtRest pods last := by
  induction actions generalizing journey with
  | nil =>
    cases returned
    exact rest
  | cons action actions ih =>
    obtain ⟨next, performed, later⟩ := Option.bind_eq_some_iff.1 returned
    exact ih (rest.perform performed) later

/-- A journey that was built is at rest after every run. -/
theorem atRest_of_run
    {id : InstanceId}
    {answers : Fields}
    {actions : List Action}
    {first last : Discovery}
    (created : Discovery.create id pods answers = .ok first)
    (returned : Discovery.run actions first = some last) :
    AtRest pods last :=
  AtRest.run (.unstarted (unstarted_of_create created).1) returned

/-! ## The invariant -/

/-- The mailbox and the slots of a journey between two calls.  A slot is filled exactly in
the phase that waits for the child, which then runs. -/
structure Orderly (journey : Discovery) : Prop where
  quiet : journey.mailbox.queue = []
  establish : journey.establish.child?.isSome ↔
    journey.machine.status = .running ∧ journey.phase = .loading
  establishing : ∀ child, journey.establish.child? = some child → child.status = .running
  questions : journey.questions.child?.isSome ↔ journey.phase = .questions
  questioning : ∀ flow, journey.questions.child? = some flow → flow.machine.status = .running
  done : journey.isDone ↔ journey.phase = .done ∨ journey.phase = .error

theorem Unstarted.orderly (unstarted : Unstarted pods journey) : Orderly journey := by
  have phase : journey.phase = .loading := by
    rw [Discovery.phase, unstarted.current, ofName?_state]
    rfl
  constructor
  · exact unstarted.quiet
  · simp [unstarted.establish, ChildSlot.child?, ChildSlot.empty, unstarted.idle]
  · simp [unstarted.establish, ChildSlot.child?, ChildSlot.empty]
  · simp [unstarted.questions, ChildSlot.child?, ChildSlot.empty, phase]
  · simp [unstarted.questions, ChildSlot.child?, ChildSlot.empty]
  · simp [phase, isDone, Instance.isDone, unstarted.idle]

theorem Standing.orderly (stands : Standing pods phase journey) : Orderly journey := by
  have phaseEq := stands.phase_eq
  have running := stands.keeps.running_iff
  have children := stands.children
  have done : journey.isDone ↔ journey.phase = .done ∨ journey.phase = .error := by
    rw [stands.isDone_eq, phaseEq, decide_eq_true_eq]
    rfl
  generalize establishEq : journey.establish = establish at children
  generalize questionsEq : journey.questions = questions at children
  cases children with
  | establishing alive =>
    refine ⟨stands.quiet, ?_, ?_, ?_, ?_, done⟩
    · simp [establishEq, ChildSlot.child?, phaseEq, running, Phase.IsFinal]
    · simp [establishEq, ChildSlot.child?, alive.running]
    · simp [questionsEq, ChildSlot.child?, ChildSlot.empty, phaseEq]
    · simp [questionsEq, ChildSlot.child?, ChildSlot.empty]
  | questioning alive =>
    refine ⟨stands.quiet, ?_, ?_, ?_, ?_, done⟩
    · simp [establishEq, ChildSlot.child?, ChildSlot.empty, phaseEq]
    · simp [establishEq, ChildSlot.child?, ChildSlot.empty]
    · simp [questionsEq, ChildSlot.child?, phaseEq]
    · simp [questionsEq, ChildSlot.child?, alive.running]
  | none notLoading notQuestions =>
    refine ⟨stands.quiet, ?_, ?_, ?_, ?_, done⟩
    · simp [establishEq, ChildSlot.child?, ChildSlot.empty, phaseEq, notLoading]
    · simp [establishEq, ChildSlot.child?, ChildSlot.empty]
    · simp [questionsEq, ChildSlot.child?, ChildSlot.empty, phaseEq, notQuestions]
    · simp [questionsEq, ChildSlot.child?, ChildSlot.empty]

/-- The calls on a journey never fail but for misuse.  It can always be started, and once
started it stays as it is; it refuses an event exactly before it was started and after it
has ended, which changes nothing. -/
structure Faultless (journey : Discovery) : Prop where
  start : ∀ now, ∃ started, Discovery.start now journey = some ⟨started, .ok (), []⟩ ∧
    ∀ later, Discovery.start later started = some ⟨started, .ok (), []⟩
  idle : journey.machine.status = .idle → ∀ now event,
    Discovery.send now event journey =
      some ⟨journey, .error (.protocol (.notStarted machineId)), []⟩
  done : journey.machine.status = .done → ∀ now event,
    Discovery.send now event journey = some ⟨journey,
      .error (.protocol (.alreadyTerminated machineId journey.machine.current)), []⟩
  running : journey.machine.status = .running → ∀ now event turn,
    Discovery.send now event journey = some turn → ∃ outcome, turn.result = .ok outcome

theorem Unstarted.faultless (unstarted : Unstarted pods journey) : Faultless journey where
  start := by
    intro now
    obtain ⟨started, stands⟩ := unstarted.start now
    exact ⟨_, started, start_of_begun stands.keeps.begun⟩
  idle := fun _ now event => unstarted.send now event
  done := fun done => by simp [unstarted.idle] at done
  running := fun running => by simp [unstarted.idle] at running

theorem Standing.faultless (stands : Standing pods phase journey) : Faultless journey where
  start := by
    intro now
    exact ⟨journey, start_of_begun stands.keeps.begun now, start_of_begun stands.keeps.begun⟩
  idle := fun idle => absurd idle stands.keeps.begun
  done := by
    intro done now event
    rw [stands.keeps.current]
    exact stands.send_final (stands.keeps.final.1 done) now event
  running := by
    intro running now event turn returned
    have proper := stands.keeps.running_iff.1 running
    cases stands.send_cases returned with
    | refused final => exact absurd final proper
    | ignored => exact ⟨_, rfl⟩
    | ended => exact ⟨_, rfl⟩
    | established => exact ⟨_, rfl⟩
    | entered => exact ⟨_, rfl⟩
    | asked => exact ⟨_, rfl⟩

/-- After every run of a journey its mailbox is empty and its slots hold the child that the
phase waits for, and its calls fail only when it is misused. -/
theorem orderly_and_faultless_of_run
    {id : InstanceId}
    {answers : Fields}
    {actions : List Action}
    {first last : Discovery}
    (created : Discovery.create id pods answers = .ok first)
    (reached : Discovery.run actions first = some last) :
    Orderly last ∧ Faultless last := by
  cases atRest_of_run created reached with
  | unstarted unstarted => exact ⟨unstarted.orderly, unstarted.faultless⟩
  | standing phase stands => exact ⟨stands.orderly, stands.faultless⟩

/-! ## Runs that are known -/

/-- A run that was checked to return, with what was checked of the journey after it. -/
theorem exists_run_of_check
    (id : InstanceId)
    (pods : List Definition)
    (answers : Fields)
    (actions : List Action)
    (test : Discovery → Bool)
    (checked : (Discovery.create id pods answers).toOption.any
      (fun first => (run actions first).any test) = true) :
    ∃ first last, Discovery.create id pods answers = .ok first ∧
      run actions first = some last ∧ test last = true := by
  obtain ⟨first, built, reached⟩ := (Option.any_eq_true _ _).1 checked
  obtain ⟨last, returned, passed⟩ := (Option.any_eq_true _ _).1 reached
  exact ⟨first, last, toOption_eq_some_iff.1 built, returned, passed⟩

/-- The events with which a known user goes on to the questions. -/
def untilQuestions : List Action :=
  [.start default, .send default (.ofKind "LOADED"), .send default (.ofKind continueEvent)]

/-- While the questions are asked, the slot of the question flow is filled. -/
theorem orderly_and_faultless_of_untilQuestions :
    ∃ first last, Discovery.create Flow.hostId [Flow.questionPod "name"] ∅ = .ok first ∧
      Discovery.run untilQuestions first = some last ∧ last.phase = .questions ∧
      last.questions.child?.isSome ∧ Faultless last := by
  obtain ⟨first, last, created, reached, passed⟩ :=
    exists_run_of_check Flow.hostId [Flow.questionPod "name"] ∅ untilQuestions
      (fun last => decide (last.phase = .questions)) (by decide +kernel)
  have phase := of_decide_eq_true passed
  obtain ⟨orderly, faultless⟩ := orderly_and_faultless_of_run created reached
  exact ⟨first, last, created, reached, phase, orderly.questions.2 phase, faultless⟩

end Discovery
end Questionnaire
