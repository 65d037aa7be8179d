import Questionnaire.Discovery.Basic
import Questionnaire.Proofs.Discovery.Machine

/-!
# Calls of a journey

Told of an event, the machine of a journey enters a phase, and the journey drops its
children.  What it then hears of a child is at most one envelope: the output with which the
child ended.
-/

namespace Questionnaire
namespace Discovery

variable {phase target : Phase} {patch : Fields} {journey : Discovery} {now : Timestamp}
  {event : Event}

/-! ## Calls on the machine -/

/-- The journey without children. -/
def childless (journey : Discovery) : Discovery :=
  { journey with establish := .empty, questions := .empty }

/-- The journey in a phase without children. -/
def arriving
    (now : Timestamp)
    (kind : String)
    (target : Phase)
    (patch : Fields)
    (journey : Discovery) :
    Discovery :=
  { journey.childless with machine := entered now kind target patch journey.machine }

/-- The journey ended in a phase. -/
def ending
    (now : Timestamp)
    (kind : String)
    (target : Phase)
    (patch : Fields)
    (journey : Discovery) :
    Discovery :=
  { journey.childless with machine := (entered now kind target patch journey.machine).finished }

theorem dropChildren_apply (journey : Discovery) :
    dropChildren journey = some ⟨journey.childless, .ok (), []⟩ := rfl

theorem newChildId_apply (journey : Discovery) :
    newChildId journey = some ⟨{ journey with spawned := journey.spawned + 1 },
      .ok (.child journey.machine.id journey.spawned), []⟩ := rfl

theorem onEstablish_apply
    {α : Type}
    (call : Call (ChildSlot Instance Unit) Unit α)
    (journey : Discovery) :
    onEstablish call journey = (call journey.establish).map fun turn =>
      ⟨{ journey with establish := turn.next, mailbox := journey.mailbox.deliver turn.sent },
        turn.result, []⟩ := rfl

theorem onQuestions_apply
    {α : Type}
    (call : Call (ChildSlot Flow Unit) Unit α)
    (journey : Discovery) :
    onQuestions call journey = (call journey.questions).map fun turn =>
      ⟨{ journey with questions := turn.next, mailbox := journey.mailbox.deliver turn.sent },
        turn.result, []⟩ := rfl

theorem enter_of_childless
    (notLoading : target ≠ .loading)
    (notQuestions : target ≠ .questions)
    (now : Timestamp)
    (journey : Discovery) :
    enter now target journey = some ⟨journey.childless, .ok (), []⟩ := by
  unfold enter
  cases target <;> first
    | exact absurd rfl notLoading
    | exact absurd rfl notQuestions
    | simp [Call.bind_apply, dropChildren_apply]

theorem enter_questions (now : Timestamp) (journey : Discovery) :
    enter now .questions journey = spawnQuestions now journey.childless := by
  unfold enter
  rw [Call.bind_apply, dropChildren_apply]
  simp

theorem dispatch_of_ignored
    (ignored : journey.machine.dispatch now event = ⟨journey.machine, .ok .ignored, []⟩) :
    dispatch now event journey = some ⟨journey, .ok .ignored, []⟩ := by
  unfold dispatch onMachine react
  simp [Call.bind_apply, Call.within, ignored]

theorem dispatch_of_refused
    {error : DispatchError}
    (refused : journey.machine.dispatch now event = ⟨journey.machine, .error error, []⟩) :
    dispatch now event journey = some ⟨journey, .error error, []⟩ := by
  unfold dispatch onMachine
  simp [Call.bind_apply, Call.within, refused]

/-- An event that leads to a phase makes the journey enter it. -/
theorem dispatch_of_entered
    (keeps : Keeps phase journey.machine)
    (step : phase.step? event = some (target, patch))
    (proper : ¬target.IsFinal) :
    dispatch now event journey =
      (enter now target
        { journey with machine := entered now event.kind target patch journey.machine }).map
        fun turn => ⟨turn.next,
          turn.result.map fun _ => .transitioned phase.state target.state, turn.sent⟩ := by
  have moved := (keeps.dispatch_entered step proper now).1
  unfold dispatch onMachine react
  simp only [Call.bind_apply, Call.within, moved, Option.map_some, ofName?_state]
  rcases enter now target
    { journey with machine := entered now event.kind target patch journey.machine } with
    _ | ⟨next, _ | value, sent⟩
  · rfl
  · rfl
  · simp [Except.map]

theorem dispatch_arriving
    (keeps : Keeps phase journey.machine)
    (step : phase.step? event = some (target, patch))
    (proper : ¬target.IsFinal)
    (other : target ≠ .questions) :
    dispatch now event journey =
      some ⟨journey.arriving now event.kind target patch,
        .ok (.transitioned phase.state target.state), []⟩ := by
  rw [dispatch_of_entered keeps step proper,
    enter_of_childless (Phase.ne_loading_of_step step) other]
  rfl

theorem dispatch_ending
    (keeps : Keeps phase journey.machine)
    (step : phase.step? event = some (target, patch))
    (final : target.IsFinal)
    (now : Timestamp) :
    dispatch now event journey =
      some ⟨journey.ending now event.kind target patch,
        .ok (.terminated target.state
          (entered now event.kind target patch journey.machine).builtOutput), []⟩ := by
  have moved := (keeps.dispatch_finished step final now).1
  unfold dispatch onMachine react
  simp only [Call.bind_apply, Call.within, moved, Option.map_some, dropChildren_apply,
    Call.pure_apply, List.append_nil]
  rfl

/-! ## Outputs of the children -/

theorem copied_withField (kind key : String) (value : Json) :
    copied key ((Event.ofKind kind).withField key value) = .singleton key value := by
  simp [copied, Event.get?, Event.withField]

/-- The output of the machine that establishes the user leads to the welcome. -/
theorem step?_user (user : Json) :
    Phase.loading.step? ((Event.ofKind userEstablishedEvent).withField userKey user) =
      some (.welcome, .singleton userKey user) := by
  rw [← copied_withField userEstablishedEvent userKey user]
  rfl

/-- The output of the question flow leads to the submission. -/
theorem step?_answers (answers : Json) :
    Phase.questions.step? ((Event.ofKind questionsDoneEvent).withField answersKey answers) =
      some (.submitting, .singleton answersKey answers) := by
  rw [← copied_withField questionsDoneEvent answersKey answers]
  rfl

/-! ## Emptying the mailbox -/

theorem pump_of_quiet
    (quiet : journey.mailbox.queue = [])
    (now : Timestamp)
    (fuel : Nat) :
    pump now (fuel + 1) journey = some ⟨journey, .ok (), []⟩ := by
  have silent : journey.mailbox.next? = none := by rw [Mailbox.next?, quiet]
  unfold pump
  simp [Call.bind_apply, nextEnvelope, silent]

theorem settle_of_quiet
    (quiet : journey.mailbox.queue = [])
    (now : Timestamp) :
    settle now journey = some ⟨journey, .ok (), []⟩ := by
  unfold settle
  simp [Call.bind_apply, pump_of_quiet quiet]

/-- What a journey does with an envelope that stands for an event is to dispatch it. -/
theorem handle_of_dispatch
    {envelope : Envelope}
    {next : Discovery}
    {outcome : Outcome}
    (heard : journey.eventOf? envelope = some event)
    (dispatched : dispatch now event journey = some ⟨next, .ok outcome, []⟩) :
    handle now envelope journey = some ⟨next, .ok (), []⟩ := by
  unfold handle
  simp only [Call.bind_apply, Call.present_apply, heard, dispatched, Call.pure_apply,
    Option.map_some, List.append_nil]

/-- A single envelope is acted on, after which there is nothing to act on. -/
theorem settle_of_single
    {envelope : Envelope}
    {next : Discovery}
    (queue : journey.mailbox.queue = [envelope])
    (handled : handle now envelope { journey with mailbox := {} } = some ⟨next, .ok (), []⟩)
    (quiet : next.mailbox.queue = []) :
    settle now journey = some ⟨next, .ok (), []⟩ := by
  have opens : journey.mailbox.next? = some (envelope, {}) := by rw [Mailbox.next?, queue]
  have pumped : pump now (3 + 1) journey = some ⟨next, .ok (), []⟩ := by
    unfold pump
    simp [Call.bind_apply, nextEnvelope, opens, handled, pump_of_quiet quiet]
  unfold settle
  simp only [Call.bind_apply, Call.present_apply, queue, List.length_singleton]
  rw [pumped]
  rfl

/-- The journey once it heard of the machine that establishes the user, which stands as
`child`: with its output the journey goes on. -/
def hearingUser (now : Timestamp) (child : Instance Unit) (journey : Discovery) : Discovery :=
  match child.output with
  | none => { journey with establish := ⟨some ⟨child, ⟨0⟩⟩⟩ }
  | some user =>
    journey.arriving now userEstablishedEvent .welcome (.singleton userKey user)

/-- The journey once it heard of its question flow, which stands as `flow`: with its
output the journey goes on. -/
def hearingAnswers (now : Timestamp) (flow : Flow Unit) (journey : Discovery) : Discovery :=
  match flow.output with
  | none => { journey with questions := ⟨some ⟨flow, ⟨0⟩⟩⟩ }
  | some answers =>
    journey.arriving now questionsDoneEvent .submitting (.singleton answersKey answers)

theorem mailbox_eq_empty (quiet : journey.mailbox.queue = []) : journey.mailbox = {} :=
  congrArg Mailbox.mk quiet

/-- The output of a child whose signals alone are in the mailbox makes the journey arrive in
another phase. -/
theorem settle_arriving
    {establish : ChildSlot Instance Unit}
    {questions : ChildSlot Flow Unit}
    {mailbox : Mailbox}
    {envelope : Envelope}
    (keeps : Keeps phase journey.machine)
    (quiet : journey.mailbox.queue = [])
    (queue : mailbox.queue = [envelope])
    (heard : eventOf? { journey with establish, questions, mailbox := {} } envelope = some event)
    (step : phase.step? event = some (target, patch))
    (proper : ¬target.IsFinal)
    (other : target ≠ .questions)
    (now : Timestamp) :
    settle now { journey with establish, questions, mailbox } =
      some ⟨journey.arriving now event.kind target patch, .ok (), []⟩ := by
  have same : arriving now event.kind target patch
      { journey with establish, questions, mailbox := {} } =
        journey.arriving now event.kind target patch := by
    unfold arriving childless
    rw [mailbox_eq_empty quiet]
  have dispatched : dispatch now event { journey with establish, questions, mailbox := {} } =
      some ⟨journey.arriving now event.kind target patch,
        .ok (.transitioned phase.state target.state), []⟩ := by
    rw [← same]
    apply dispatch_arriving
    · exact keeps
    · exact step
    · exact proper
    · exact other
  exact settle_of_single queue (handle_of_dispatch heard dispatched) quiet

/-- Hearing of the machine that establishes the user, a journey settles. -/
theorem settle_user
    {child : Instance Unit}
    (keeps : Keeps .loading journey.machine)
    (quiet : journey.mailbox.queue = [])
    (subscribers : child.subscribers = [(⟨0⟩, ())])
    (now : Timestamp) :
    settle now { journey with
      establish := ⟨some ⟨child, ⟨0⟩⟩⟩
      mailbox := journey.mailbox.deliver child.farewell } =
      some ⟨journey.hearingUser now child, .ok (), []⟩ := by
  have queue : (journey.mailbox.deliver child.farewell).queue =
      child.output.toList.map fun output => child.envelope (.done output) := by
    rw [Mailbox.deliver, Mailbox.receive, quiet, Instance.envelopes_farewell subscribers]
    rfl
  unfold hearingUser
  cases output : child.output with
  | none =>
    rw [output] at queue
    have same : journey.mailbox.deliver child.farewell = journey.mailbox :=
      (congrArg Mailbox.mk queue).trans (mailbox_eq_empty quiet).symm
    rw [same]
    apply settle_of_quiet
    exact quiet
  | some user =>
    rw [output] at queue
    refine settle_arriving keeps quiet queue ?_ (step?_user user) (by decide) (by decide) now
    simp [eventOf?, ChildSlot.isCurrent, ChildSlot.child?, Instance.envelope, Child.id]

/-- Hearing of its question flow, a journey settles. -/
theorem settle_answers
    {flow : Flow Unit}
    (keeps : Keeps .questions journey.machine)
    (quiet : journey.mailbox.queue = [])
    (alone : journey.establish = .empty)
    (subscribers : flow.machine.subscribers = [(⟨0⟩, ())])
    (now : Timestamp) :
    settle now { journey with
      questions := ⟨some ⟨flow, ⟨0⟩⟩⟩
      mailbox := journey.mailbox.deliver flow.machine.farewell } =
      some ⟨journey.hearingAnswers now flow, .ok (), []⟩ := by
  have queue : (journey.mailbox.deliver flow.machine.farewell).queue =
      flow.output.toList.map fun output => flow.machine.envelope (.done output) := by
    rw [Mailbox.deliver, Mailbox.receive, quiet, Instance.envelopes_farewell subscribers]
    rfl
  unfold hearingAnswers
  cases output : flow.output with
  | none =>
    rw [output] at queue
    have same : journey.mailbox.deliver flow.machine.farewell = journey.mailbox :=
      (congrArg Mailbox.mk queue).trans (mailbox_eq_empty quiet).symm
    rw [same]
    apply settle_of_quiet
    exact quiet
  | some answers =>
    rw [output] at queue
    refine settle_arriving keeps quiet queue ?_ (step?_answers answers) (by decide) (by decide)
      now
    simp [eventOf?, alone, ChildSlot.isCurrent, ChildSlot.child?, ChildSlot.empty,
      Instance.envelope, Child.id]

end Discovery
end Questionnaire
