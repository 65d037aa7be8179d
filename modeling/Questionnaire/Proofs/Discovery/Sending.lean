import Questionnaire.Proofs.Discovery.Calls
import Questionnaire.Proofs.Flow.Report

/-!
# What a journey does with an event

Between two calls a journey that was started is in a phase, and it has a child exactly in
the two phases that wait for one.  An event goes to the child, or else to the machine of the
journey; in either case the journey is in a phase again when the call returns.
-/

namespace Questionnaire
namespace Discovery

variable {pods : List Definition} {phase target : Phase} {patch : Fields} {journey : Discovery}
  {now : Timestamp} {event : Event}

/-! ## Where a journey stands -/

/-- The machine that establishes the user, as a journey runs it. -/
structure Establishing (child : Instance Unit) : Prop where
  sound : child.Sound EstablishUser.effects
  definition : child.definition = EstablishUser.definition
  running : child.status = .running
  subscribers : child.subscribers = [(⟨0⟩, ())]

/-- A question flow as a journey runs it. -/
structure Questioning (pods : List Definition) (flow : Flow Unit) : Prop where
  rests : ∃ board, Flow.Resting pods board flow
  running : flow.machine.status = .running
  subscribers : flow.machine.subscribers = [(⟨0⟩, ())]

/-- The children that a journey has in a phase. -/
inductive Children (pods : List Definition) :
    Phase → ChildSlot Instance Unit → ChildSlot Flow Unit → Prop
  | establishing
      {child : Instance Unit}
      (alive : Establishing child) :
      Children pods .loading ⟨some ⟨child, ⟨0⟩⟩⟩ .empty
  | questioning
      {flow : Flow Unit}
      (alive : Questioning pods flow) :
      Children pods .questions .empty ⟨some ⟨flow, ⟨0⟩⟩⟩
  | none
      {phase : Phase}
      (notLoading : phase ≠ .loading)
      (notQuestions : phase ≠ .questions) :
      Children pods phase .empty .empty

/-- A journey in a phase, with nothing in its mailbox and whatever children. -/
structure InPhase (pods : List Definition) (phase : Phase) (journey : Discovery) : Prop where
  podsEq : journey.pods = pods
  usable : ∀ pod ∈ pods, Pod.Usable pod
  keeps : Keeps phase journey.machine
  quiet : journey.mailbox.queue = []

/-- A journey that was started, between two calls. -/
structure Standing (pods : List Definition) (phase : Phase) (journey : Discovery) : Prop
    extends InPhase pods phase journey where
  children : Children pods phase journey.establish journey.questions

/-- A journey that was not started. -/
structure Unstarted (pods : List Definition) (journey : Discovery) : Prop where
  podsEq : journey.pods = pods
  usable : ∀ pod ∈ pods, Pod.Usable pod
  sound : journey.machine.Sound effects
  definition : journey.machine.definition = Discovery.definition
  current : journey.machine.current = Phase.loading.state
  idle : journey.machine.status = .idle
  quiet : journey.mailbox.queue = []
  establish : journey.establish = .empty
  questions : journey.questions = .empty

namespace Standing

theorem exists_child (stands : Standing pods .loading journey) :
    ∃ child, journey.establish = ⟨some ⟨child, ⟨0⟩⟩⟩ ∧ journey.questions = .empty ∧
      Establishing child := by
  have children := stands.children
  generalize journey.establish = establish at children
  generalize journey.questions = questions at children
  cases children with
  | establishing alive => exact ⟨_, rfl, rfl, alive⟩
  | none notLoading _ => exact absurd rfl notLoading

theorem exists_flow (stands : Standing pods .questions journey) :
    ∃ flow, journey.questions = ⟨some ⟨flow, ⟨0⟩⟩⟩ ∧ journey.establish = .empty ∧
      Questioning pods flow := by
  have children := stands.children
  generalize journey.establish = establish at children
  generalize journey.questions = questions at children
  cases children with
  | questioning alive => exact ⟨_, rfl, rfl, alive⟩
  | none _ notQuestions => exact absurd rfl notQuestions

/-- The child in the slot of a journey that is loading goes on. -/
theorem establishing
    {child : Instance Unit}
    (stands : Standing pods .loading journey)
    (filled : journey.establish = ⟨some ⟨child, ⟨0⟩⟩⟩) :
    Establishing child := by
  obtain ⟨_, same, _, alive⟩ := stands.exists_child
  rw [filled] at same
  cases same
  exact alive

/-- The flow in the slot of a journey that asks the questions goes on. -/
theorem questioning
    {flow : Flow Unit}
    (stands : Standing pods .questions journey)
    (filled : journey.questions = ⟨some ⟨flow, ⟨0⟩⟩⟩) :
    Questioning pods flow := by
  obtain ⟨_, same, _, alive⟩ := stands.exists_flow
  rw [filled] at same
  cases same
  exact alive

theorem phase_eq (stands : Standing pods phase journey) : journey.phase = phase := by
  rw [Discovery.phase, stands.keeps.current, ofName?_state]
  rfl

theorem isDone_eq (stands : Standing pods phase journey) :
    journey.isDone = decide phase.IsFinal := by
  unfold isDone Instance.isDone
  simp only [stands.keeps.final]

end Standing

/-! ### What the calls keep -/

namespace InPhase

theorem arriving
    (rests : InPhase pods phase journey)
    (step : phase.step? event = some (target, patch))
    (proper : ¬target.IsFinal)
    (now : Timestamp) :
    InPhase pods target (journey.arriving now event.kind target patch) where
  podsEq := rests.podsEq
  usable := rests.usable
  keeps := (rests.keeps.dispatch_entered step proper now).2
  quiet := rests.quiet

theorem ending
    (rests : InPhase pods phase journey)
    (step : phase.step? event = some (target, patch))
    (final : target.IsFinal)
    (now : Timestamp) :
    Standing pods target (journey.ending now event.kind target patch) where
  podsEq := rests.podsEq
  usable := rests.usable
  keeps := (rests.keeps.dispatch_finished step final now).2
  quiet := rests.quiet
  children := by
    apply Children.none (Phase.ne_loading_of_step step)
    rintro rfl
    exact absurd final (by decide)

/-- Having heard of the machine that establishes the user, the journey is still loading or
welcomes the user. -/
theorem hearingUser
    {child : Instance Unit}
    (rests : InPhase pods .loading journey)
    (alone : journey.questions = .empty)
    (alive : child.output = none → Establishing child)
    (now : Timestamp) :
    Standing pods (child.output.elim .loading fun _ => .welcome)
      (journey.hearingUser now child) := by
  unfold Discovery.hearingUser
  cases output : child.output with
  | none =>
    refine ⟨⟨rests.podsEq, rests.usable, rests.keeps, rests.quiet⟩, ?_⟩
    show Children pods .loading _ journey.questions
    rw [alone]
    exact .establishing (alive output)
  | some user =>
    rw [Option.elim_some]
    exact ⟨rests.arriving (step?_user user) (by decide) now, .none (by decide) (by decide)⟩

/-- Having heard of its question flow, the journey still asks the questions or submits the
answers. -/
theorem hearingAnswers
    {flow : Flow Unit}
    (rests : InPhase pods .questions journey)
    (alone : journey.establish = .empty)
    (alive : flow.output = none → Questioning pods flow)
    (now : Timestamp) :
    Standing pods (flow.output.elim .questions fun _ => .submitting)
      (journey.hearingAnswers now flow) := by
  unfold Discovery.hearingAnswers
  cases output : flow.output with
  | none =>
    refine ⟨⟨rests.podsEq, rests.usable, rests.keeps, rests.quiet⟩, ?_⟩
    show Children pods .questions journey.establish _
    rw [alone]
    exact .questioning (alive output)
  | some answers =>
    rw [Option.elim_some]
    exact ⟨rests.arriving (step?_answers answers) (by decide) now, .none (by decide) (by decide)⟩

end InPhase

/-! ## Starting -/

/-- A journey that is built is not started, and keeps the answers from before. -/
theorem unstarted_of_create
    {id : InstanceId}
    {answers : Fields}
    (created : Discovery.create id pods answers = .ok journey) :
    Unstarted pods journey ∧
      journey.machine.context = .singleton answersKey (.object answers) := by
  unfold Discovery.create at created
  obtain ⟨_, usable, created⟩ := bind_eq_ok_iff.1 created
  obtain ⟨machine, machineEq, built⟩ := bind_eq_ok_iff.1 created
  cases built
  have sound := Instance.sound_of_create machineEq
  obtain ⟨_, transitions, _, rfl⟩ := Instance.create_eq_ok_iff.1 machineEq
  exact ⟨⟨rfl, Pod.checkAll_eq_ok_iff.1 usable, sound, rfl, rfl, rfl, rfl, rfl, rfl⟩, rfl⟩

/-- The machine that establishes the user, as a journey spawns it. -/
def newcomer (id : InstanceId) : Instance Unit :=
  let fresh : Instance Unit := .idle id EstablishUser.definition EstablishUser.transitions ∅
  { (fresh.subscribe ()).2 with status := .running }

theorem establishing_newcomer (id : InstanceId) : Establishing (newcomer id) := by
  have sound : (.idle id EstablishUser.definition EstablishUser.transitions ∅ :
      Instance Unit).Sound EstablishUser.effects :=
    Instance.sound_idle EstablishUser.valid_definition EstablishUser.resolve_definition
  exact ⟨(sound.subscribe ()).start, rfl, rfl, rfl⟩

/-- Entering the first phase spawns the machine that establishes the user. -/
theorem enter_loading (now : Timestamp) (journey : Discovery) :
    enter now .loading journey = some ⟨{ journey with
      establish := ⟨some ⟨newcomer (.child journey.machine.id journey.spawned), ⟨0⟩⟩⟩
      questions := .empty
      spawned := journey.spawned + 1 }, .ok (), []⟩ := by
  let id := InstanceId.child journey.machine.id journey.spawned
  let fresh : Instance Unit := .idle id EstablishUser.definition EstablishUser.transitions ∅
  have created : Instance.create id EstablishUser.definition EstablishUser.effects ∅ =
      .ok fresh :=
    EstablishUser.create_eq_ok id ∅
  have installed : ChildSlot.install now fresh () (.empty : ChildSlot Instance Unit) = some
      ⟨⟨some ⟨newcomer id, ⟨0⟩⟩⟩, .ok id, []⟩ :=
    rfl
  have spawned : spawnEstablish now journey.childless = some
      ⟨{ journey with
          establish := ⟨some ⟨newcomer id, ⟨0⟩⟩⟩
          questions := .empty
          spawned := journey.spawned + 1 }, .ok (), []⟩ := by
    have sameId : InstanceId.child journey.childless.machine.id journey.childless.spawned = id :=
      rfl
    have vacant : journey.childless.establish = .empty := rfl
    unfold spawnEstablish
    simp only [Call.bind_apply, newChildId_apply, sameId, created, onEstablish_apply, vacant,
      installed]
    simp [Discovery.childless, Mailbox.deliver, Mailbox.receive]
  unfold enter
  simp only [Call.bind_apply, dropChildren_apply, Call.orElse, spawned, Option.map_some,
    List.append_nil]
  rfl

/-- The journey while it establishes the user with the machine that it just spawned. -/
def loading (journey : Discovery) : Discovery :=
  { journey with
    machine := { journey.machine with status := .running }
    establish := ⟨some ⟨newcomer (.child journey.machine.id journey.spawned), ⟨0⟩⟩⟩
    questions := .empty
    spawned := journey.spawned + 1 }

theorem Unstarted.keeps
    (unstarted : Unstarted pods journey) :
    journey.machine.start =
        ⟨{ journey.machine with status := .running }, .ok (), []⟩ ∧
      Keeps .loading { journey.machine with status := .running } := by
  have notTerminal : journey.machine.atTerminal = false := by
    rw [Instance.atTerminal, unstarted.definition, unstarted.current]
    decide
  have started : journey.machine.start =
      ⟨{ journey.machine with status := .running }, .ok (), []⟩ := by
    simp [Instance.start, unstarted.idle, notTerminal]
  have sound := unstarted.sound.start
  rw [started] at sound
  exact ⟨started, sound, unstarted.definition, unstarted.current, by simp,
    iff_of_false (by simp) (by decide)⟩

/-- Starting a journey makes it establish the user. -/
theorem Unstarted.start
    (unstarted : Unstarted pods journey)
    (now : Timestamp) :
    Discovery.start now journey = some ⟨journey.loading, .ok (), []⟩ ∧
      Standing pods .loading journey.loading := by
  obtain ⟨started, keeps⟩ := unstarted.keeps
  have entered :=
    enter_loading now { journey with machine := { journey.machine with status := .running } }
  have stands : Standing pods .loading journey.loading :=
    ⟨⟨unstarted.podsEq, unstarted.usable, keeps, unstarted.quiet⟩,
      .establishing (establishing_newcomer _)⟩
  have settled := settle_of_quiet stands.quiet now
  refine ⟨?_, stands⟩
  unfold Discovery.start onMachine
  simp only [Call.bind_apply, Call.present_apply, unstarted.idle, ne_eq, not_true_eq_false,
    if_false, Call.within, started, Option.map_some]
  rw [entered]
  unfold Discovery.loading at settled ⊢
  simp only [settled, Option.map_some, List.append_nil]

theorem start_of_begun
    (begun : journey.machine.status ≠ .idle)
    (now : Timestamp) :
    Discovery.start now journey = some ⟨journey, .ok (), []⟩ := by
  unfold Discovery.start
  simp [Call.bind_apply, begun]

/-! ## Asking the questions -/

/-- The journey on its way into the questions, with the number of the flow taken. -/
def entering (now : Timestamp) (kind : String) (patch : Fields) (journey : Discovery) :
    Discovery :=
  { journey.arriving now kind .questions patch with spawned := journey.spawned + 1 }

theorem InPhase.entering
    (rests : InPhase pods .welcome journey)
    (step : Phase.welcome.step? event = some (.questions, patch))
    (now : Timestamp) :
    InPhase pods .questions (journey.entering now event.kind patch) := by
  obtain ⟨podsEq, usable, keeps, quiet⟩ := rests.arriving step (by decide) now
  exact ⟨podsEq, usable, keeps, quiet⟩

/-- A question flow with the answers of a journey, to which the journey listens. -/
def spawnedFlow (id : InstanceId) (journey : Discovery) : Flow Unit :=
  ((Flow.fresh id journey.pods journey.answers).subscribe ()).2

theorem spawnQuestions_eq
    (journey : Discovery)
    (usable : ∀ pod ∈ journey.pods, Pod.Usable pod)
    (now : Timestamp) :
    let id := InstanceId.child journey.machine.id journey.spawned
    spawnQuestions now journey = (Flow.start now (journey.spawnedFlow id)).map fun turn =>
      ⟨{ journey with
          questions := ⟨some ⟨turn.next, ⟨0⟩⟩⟩
          mailbox := journey.mailbox.deliver turn.sent
          spawned := journey.spawned + 1 }, turn.result, []⟩ := by
  intro id
  have created : Flow.create id journey.pods journey.answers =
      .ok (Flow.fresh id journey.pods journey.answers : Flow Unit) :=
    Flow.create_eq_ok_iff.2 ⟨usable, rfl⟩
  have installed (slot : ChildSlot Flow Unit) :
      ChildSlot.install now (Flow.fresh id journey.pods journey.answers) () slot =
        (Flow.start now (journey.spawnedFlow id)).map fun turn =>
          ⟨⟨some ⟨turn.next, ⟨0⟩⟩⟩, turn.result.map fun _ => id, turn.sent⟩ := by
    show Option.map _ (Option.map _ (Flow.start now (journey.spawnedFlow id))) = _
    rw [Option.map_map]
    rfl
  unfold spawnQuestions
  simp only [Call.bind_apply, newChildId_apply, Call.present_apply]
  rw [show Flow.create (.child journey.machine.id journey.spawned) journey.pods
    (answers { journey with spawned := journey.spawned + 1 }) = _ from created]
  simp only [Call.bind_apply, onQuestions_apply, installed]
  rcases Flow.start now (journey.spawnedFlow id) with _ | ⟨next, _ | _, sent⟩ <;> rfl

/-- The flow that a journey spawns on its way into the questions is not started. -/
theorem InPhase.unstarted_spawnedFlow
    (rests : InPhase pods phase journey)
    (now : Timestamp)
    (kind : String)
    (patch : Fields)
    (id : InstanceId) :
    let entering := journey.entering now kind patch
    Flow.Unstarted pods ⟨0, entering.answers, ∅⟩ (entering.spawnedFlow id) := by
  intro entering
  have samePods : entering.pods = pods := rests.podsEq
  rw [spawnedFlow, samePods]
  exact (Flow.unstarted_fresh rests.usable id entering.answers).subscribe ()

/-! ## Sending events -/

section Sending

variable {called next : Discovery} {outcome : Outcome} {error : DispatchError}

theorem send_of_settled
    (routed : route now event journey = some ⟨called, .ok outcome, []⟩)
    (settled : settle now called = some ⟨next, .ok (), []⟩) :
    Discovery.send now event journey = some ⟨next, .ok outcome, []⟩ := by
  unfold Discovery.send
  simp only [Call.bind_apply, routed, settled, Call.pure_apply, Option.map_some, List.append_nil]

theorem send_of_refused
    (routed : route now event journey = some ⟨called, .error error, []⟩) :
    Discovery.send now event journey = some ⟨called, .error error, []⟩ := by
  unfold Discovery.send
  simp only [Call.bind_apply, routed]

/-- A journey that was not started refuses every event and stays as it is. -/
theorem Unstarted.send
    (unstarted : Unstarted pods journey)
    (now : Timestamp)
    (event : Event) :
    Discovery.send now event journey =
      some ⟨journey, .error (.protocol (.notStarted machineId)), []⟩ := by
  have refused : journey.machine.dispatch now event =
      ⟨journey.machine, .error (.protocol (.notStarted machineId)), []⟩ := by
    simp only [Instance.dispatch, unstarted.idle, unstarted.definition]
    rfl
  have phase : journey.phase = .loading := by
    rw [Discovery.phase, unstarted.current, ofName?_state]
    rfl
  apply send_of_refused
  unfold route
  simp only [Call.bind_apply, Call.present_apply, phase, unstarted.idle]
  simpa using dispatch_of_refused refused

namespace Standing

/-- What is neither for a child nor refused goes to the machine of the journey. -/
theorem route_dispatch
    (stands : Standing pods phase journey)
    (notChild : phase = .loading → event.kind = errorEvent)
    (notQuestions : phase ≠ .questions)
    (now : Timestamp) :
    route now event journey = dispatch now event journey := by
  have notLoading : ¬(phase = .loading ∧ journey.machine.status = .running ∧
      event.kind ≠ errorEvent) := by
    rintro ⟨loading, _, other⟩
    exact other (notChild loading)
  unfold route
  rw [Call.bind_apply, Call.present_apply]
  simp only [stands.phase_eq, if_neg notLoading, notQuestions, false_and, if_false]
  cases dispatch now event journey <;> simp

/-- A journey that has ended refuses every event and stays as it is. -/
theorem send_final
    (stands : Standing pods phase journey)
    (final : phase.IsFinal)
    (now : Timestamp)
    (event : Event) :
    Discovery.send now event journey = some
      ⟨journey, .error (.protocol (.alreadyTerminated machineId phase.state)), []⟩ := by
  have notQuestions : phase ≠ .questions := by
    rintro rfl
    exact absurd final (by decide)
  have notChild : phase = .loading → event.kind = errorEvent := by
    rintro rfl
    exact absurd final (by decide)
  apply send_of_refused
  rw [stands.route_dispatch notChild notQuestions]
  exact dispatch_of_refused (stands.keeps.dispatch_final final now event)

/-- An event that is for the machine of the journey and unknown to it is ignored. -/
theorem send_ignored
    (stands : Standing pods phase journey)
    (proper : ¬phase.IsFinal)
    (notChild : phase = .loading → event.kind = errorEvent)
    (notQuestions : phase ≠ .questions)
    (unknown : phase.step? event = none)
    (now : Timestamp) :
    Discovery.send now event journey = some ⟨journey, .ok .ignored, []⟩ := by
  have running := stands.keeps.running_iff.2 proper
  refine send_of_settled ?_ (settle_of_quiet stands.quiet now)
  rw [stands.route_dispatch notChild notQuestions]
  exact dispatch_of_ignored (stands.keeps.dispatch_ignored running unknown now)

/-- An event that is for the machine of the journey and leads to a final phase ends the
journey. -/
theorem send_ending
    (stands : Standing pods phase journey)
    (notChild : phase = .loading → event.kind = errorEvent)
    (notQuestions : phase ≠ .questions)
    (step : phase.step? event = some (target, patch))
    (final : target.IsFinal)
    (now : Timestamp) :
    Discovery.send now event journey =
      some ⟨journey.ending now event.kind target patch,
        .ok (.terminated target.state
          (entered now event.kind target patch journey.machine).builtOutput), []⟩ := by
  have quiet := (stands.ending step final now).quiet
  refine send_of_settled ?_ (settle_of_quiet quiet now)
  rw [stands.route_dispatch notChild notQuestions]
  exact dispatch_ending stands.keeps step final now

/-- While the user is being established, every event but an error is up to the machine
that establishes the user. -/
theorem send_loading
    {child : Instance Unit}
    (stands : Standing pods .loading journey)
    (established : journey.establish = ⟨some ⟨child, ⟨0⟩⟩⟩)
    (alive : Establishing child)
    (other : event.kind ≠ errorEvent)
    (now : Timestamp) :
    ∃ outcome, (child.dispatch now event).result = .ok outcome ∧
      Discovery.send now event journey =
        some ⟨journey.hearingUser now (child.dispatch now event).next, .ok outcome, []⟩ := by
  obtain ⟨outcome, fine, _⟩ := alive.sound.result_dispatch alive.running now event
  refine ⟨outcome, fine, ?_⟩
  have running := stands.keeps.running_iff.2 (by decide)
  have tells := alive.sound.tells_dispatch EstablishUser.mute_effects now event
  have subscribers := tells.subscribers.trans alive.subscribers
  have told := tells.news (alive.sound.silent_of_running alive.running)
  have settled := settle_user stands.keeps stands.quiet subscribers now
  rw [← told] at settled
  refine send_of_settled ?_ settled
  unfold route
  rw [Call.bind_apply, Call.present_apply]
  simp only [stands.phase_eq, running, other, ne_eq, not_false_eq_true, and_self, if_true]
  simp [Call.orElse, onEstablish_apply, established, ChildSlot.send, ChildSlot.calling,
    Child.send, fine]

/-- While the questions are asked, every event is up to the question flow. -/
theorem send_questions
    {flow : Flow Unit}
    (stands : Standing pods .questions journey)
    (asked : journey.questions = ⟨some ⟨flow, ⟨0⟩⟩⟩)
    (alive : Questioning pods flow)
    (now : Timestamp)
    (event : Event) :
    Discovery.send now event journey = (Flow.send now event flow).map fun turn =>
      ⟨journey.hearingAnswers now turn.next, turn.result, []⟩ := by
  have routed : route now event journey = (Flow.send now event flow).map fun turn =>
      ⟨{ journey with
          questions := ⟨some ⟨turn.next, ⟨0⟩⟩⟩
          mailbox := journey.mailbox.deliver turn.sent }, turn.result, []⟩ := by
    have proper : journey.isDone = false := by
      rw [stands.isDone_eq]
      decide
    unfold route
    rw [Call.bind_apply, Call.present_apply]
    simp [stands.phase_eq, proper, onQuestions_apply, asked, ChildSlot.send,
      ChildSlot.calling, Child.send, Function.comp_def]
  obtain ⟨board, rests⟩ := alive.rests
  cases returned : Flow.send now event flow with
  | none =>
    rw [returned] at routed
    unfold Discovery.send
    simp only [Call.bind_apply, routed, Option.map_none]
  | some turn =>
    obtain ⟨⟨outcome, fine⟩, _, tells⟩ := rests.answers_send alive.running returned
    have silent := rests.keeps.sound.silent_of_running alive.running
    have told := tells.news silent
    have alone : journey.establish = .empty := by
      obtain ⟨_, _, alone, _⟩ := stands.exists_flow
      exact alone
    have settled := settle_answers stands.keeps stands.quiet alone
      (tells.subscribers.trans alive.subscribers) now
    rw [← told] at settled
    rw [returned, Option.map_some] at routed
    rw [Option.map_some, fine]
    rw [fine] at routed
    exact send_of_settled routed settled

/-- On the events that lead from the welcome to the questions, the journey spawns a flow
with its answers and hears of it at once. -/
theorem send_entering
    (stands : Standing pods .welcome journey)
    (step : Phase.welcome.step? event = some (.questions, patch))
    (now : Timestamp) :
    let entering := journey.entering now event.kind patch
    let flow := entering.spawnedFlow (.child journey.machine.id journey.spawned)
    Discovery.send now event journey = (Flow.start now flow).map fun turn =>
      ⟨entering.hearingAnswers now turn.next,
        .ok (.transitioned Phase.welcome.state Phase.questions.state), []⟩ := by
  intro entering flow
  have rests : InPhase pods .questions entering := stands.toInPhase.entering step now
  have usable : ∀ pod ∈ entering.pods, Pod.Usable pod := by
    rw [rests.podsEq]
    exact rests.usable
  have spawned : spawnQuestions now (journey.arriving now event.kind .questions patch) =
      (Flow.start now flow).map fun turn =>
        ⟨{ entering with
            questions := ⟨some ⟨turn.next, ⟨0⟩⟩⟩
            mailbox := entering.mailbox.deliver turn.sent }, turn.result, []⟩ :=
    spawnQuestions_eq (journey.arriving now event.kind .questions patch) usable now
  have routed : route now event journey = (Flow.start now flow).map fun turn =>
      ⟨{ entering with
          questions := ⟨some ⟨turn.next, ⟨0⟩⟩⟩
          mailbox := entering.mailbox.deliver turn.sent },
        turn.result.map fun _ => .transitioned Phase.welcome.state Phase.questions.state,
        []⟩ := by
    -- The event is answered as soon as the flow was started, before the journey hears of it.
    rw [stands.route_dispatch (by simp) (by decide),
      dispatch_of_entered stands.keeps step (by decide), enter_questions]
    show (spawnQuestions now (journey.arriving now event.kind .questions patch)).map _ = _
    rw [spawned, Option.map_map]
    rfl
  have unstarted := stands.unstarted_spawnedFlow now event.kind patch
    (.child journey.machine.id journey.spawned)
  cases returned : Flow.start now flow with
  | none =>
    rw [returned] at routed
    unfold Discovery.send
    simp only [Call.bind_apply, routed, Option.map_none]
  | some turn =>
    obtain ⟨fine, _, tells⟩ := unstarted.answers_start returned
    have silent : flow.machine.output = none := rfl
    have settled := settle_answers rests.keeps rests.quiet rfl (tells.subscribers.trans rfl) now
    rw [← tells.news silent] at settled
    rw [returned, Option.map_some, fine] at routed
    exact send_of_settled routed settled

end Standing

/-- What a journey does with an event: it refuses or ignores it, ends, or gives it to its
child; on the way into the questions it spawns the flow. -/
inductive Sent (now : Timestamp) (event : Event) (journey : Discovery) :
    Phase → Turn Discovery Empty Outcome → Prop
  | refused
      {phase : Phase}
      (final : phase.IsFinal) :
      Sent now event journey phase
        ⟨journey, .error (.protocol (.alreadyTerminated machineId phase.state)), []⟩
  | ignored
      {phase : Phase}
      (proper : ¬phase.IsFinal) :
      Sent now event journey phase ⟨journey, .ok .ignored, []⟩
  | ended
      {phase target : Phase}
      {patch : Fields}
      {output : Json}
      (step : phase.step? event = some (target, patch))
      (final : target.IsFinal) :
      Sent now event journey phase
        ⟨journey.ending now event.kind target patch, .ok (.terminated target.state output), []⟩
  | established
      {child : Instance Unit}
      {outcome : Outcome}
      (filled : journey.establish = ⟨some ⟨child, ⟨0⟩⟩⟩)
      (alive : Establishing child)
      (fine : (child.dispatch now event).result = .ok outcome) :
      Sent now event journey .loading
        ⟨journey.hearingUser now (child.dispatch now event).next, .ok outcome, []⟩
  | entered
      {patch : Fields}
      {started : Turn (Flow Unit) Unit Unit}
      (step : Phase.welcome.step? event = some (.questions, patch))
      (returned : Flow.start now ((journey.entering now event.kind patch).spawnedFlow
        (.child journey.machine.id journey.spawned)) = some started) :
      Sent now event journey .welcome
        ⟨(journey.entering now event.kind patch).hearingAnswers now started.next,
          .ok (.transitioned Phase.welcome.state Phase.questions.state), []⟩
  | asked
      {flow : Flow Unit}
      {answered : Turn (Flow Unit) Unit Outcome}
      {outcome : Outcome}
      (filled : journey.questions = ⟨some ⟨flow, ⟨0⟩⟩⟩)
      (returned : Flow.send now event flow = some answered)
      (fine : answered.result = .ok outcome) :
      Sent now event journey .questions
        ⟨journey.hearingAnswers now answered.next, .ok outcome, []⟩

/-- Where an event that is up to the journey's machine leads. -/
theorem Phase.step?_cases
    (phase : Phase)
    (event : Event)
    (notChild : phase = .loading → event.kind = errorEvent)
    (notQuestions : phase ≠ .questions) :
    phase.step? event = none ∨
      (∃ target patch, phase.step? event = some (target, patch) ∧ target.IsFinal) ∨
      phase = .welcome ∧ ∃ patch, phase.step? event = some (.questions, patch) := by
  cases phase <;> simp only [Phase.step?, forall_const, reduceCtorEq, ne_eq, not_true_eq_false,
    IsEmpty.forall_iff] at notChild notQuestions ⊢
  case loading =>
    rw [if_pos notChild]
    exact .inr (.inl ⟨_, _, rfl, .inr rfl⟩)
  case welcome =>
    split_ifs
    · exact .inr (.inr ⟨trivial, _, rfl⟩)
    · exact .inr (.inr ⟨trivial, _, rfl⟩)
    · exact .inl rfl
  case submitting =>
    split_ifs
    · exact .inr (.inl ⟨_, _, rfl, .inr rfl⟩)
    · exact .inr (.inl ⟨_, _, rfl, .inl rfl⟩)
    · exact .inl rfl
  case done => exact .inl trivial
  case error => exact .inl trivial

/-- A journey does one of these things with every event that it returns from. -/
theorem Standing.send_cases
    {turn : Turn Discovery Empty Outcome}
    (stands : Standing pods phase journey)
    (returned : Discovery.send now event journey = some turn) :
    Sent now event journey phase turn := by
  by_cases final : phase.IsFinal
  · rw [stands.send_final final] at returned
    cases returned
    exact .refused final
  by_cases asked : phase = .questions
  · subst asked
    obtain ⟨flow, filled, _, alive⟩ := stands.exists_flow
    rw [stands.send_questions filled alive] at returned
    obtain ⟨answered, flowReturned, rfl⟩ := Option.map_eq_some_iff.1 returned
    obtain ⟨board, rests⟩ := alive.rests
    obtain ⟨⟨outcome, fine⟩, _⟩ := rests.answers_send alive.running flowReturned
    rw [fine]
    exact .asked filled flowReturned fine
  by_cases child : phase = .loading ∧ event.kind ≠ errorEvent
  · obtain ⟨rfl, other⟩ := child
    obtain ⟨child, filled, _, alive⟩ := stands.exists_child
    obtain ⟨outcome, fine, sent⟩ := stands.send_loading filled alive other now
    rw [sent] at returned
    cases returned
    exact .established filled alive fine
  have notChild : phase = .loading → event.kind = errorEvent := by
    intro loading
    by_contra other
    exact child ⟨loading, other⟩
  rcases phase.step?_cases event notChild asked with
    unknown | ⟨target, patch, step, ends⟩ | ⟨rfl, patch, step⟩
  · rw [stands.send_ignored final notChild asked unknown] at returned
    cases returned
    exact .ignored final
  · rw [stands.send_ending notChild asked step ends] at returned
    cases returned
    exact .ended step ends
  · rw [stands.send_entering step] at returned
    obtain ⟨started, flowReturned, rfl⟩ := Option.map_eq_some_iff.1 returned
    exact .entered step flowReturned

end Sending

end Discovery
end Questionnaire
