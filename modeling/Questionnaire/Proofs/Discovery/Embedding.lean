import Questionnaire.Proofs.Discovery.Legs
import Questionnaire.Proofs.Flow.Twins

/-!
# The question flow inside a journey

While a journey asks its questions it cannot be told apart from a question flow on its own
that was started from the journey's answers: both answer every event alike.  When the flow
ends, the journey goes on with the output of the flow as its answers.
-/

namespace Questionnaire
namespace Discovery

variable {κ : Type} {pods : List Definition} {seeds : Fields} {flow : Flow κ}
  {inner : Flow Unit} {journey : Discovery} {now : Timestamp} {event : Event}

/-! ## Following a flow -/

/-- What a journey that entered the questions with the answers `seeds` shows of a flow.
While the flow goes on, the journey asks the questions, its own answers are the seeds, and
its flow looks like the other; once the flow has ended, the journey submits the output of
the flow, and has no flow. -/
inductive Shows (seeds : Fields) (flow : Flow κ) (journey : Discovery) : Prop
  | asking
      {inner : Flow Unit}
      (underway : flow.isDone = false)
      (phase : journey.phase = .questions)
      (answers : journey.answers = seeds)
      (filled : journey.questions.child? = some inner)
      (innerProgress : inner.progress = flow.progress)
      (innerAnswers : inner.answers = flow.answers)
      (innerSnapshot : inner.snapshot = flow.snapshot)
      (question : inner.question?.map Instance.snapshot = flow.question?.map Instance.snapshot)
  | submitting
      (done : flow.isDone = true)
      (phase : journey.phase = .submitting)
      (dropped : journey.questions.child? = none)
      (output : flow.output = some (.object journey.answers))

/-- A journey follows a flow through events, each of which the flow and the journey get at
times of their own: as long as the flow has not ended both answer alike, or neither of
them returns. -/
def Follows (seeds : Fields) :
    List (Event × Timestamp × Timestamp) → Flow κ → Discovery → Prop
  | [], flow, journey => Shows seeds flow journey
  | (event, now, later) :: rest, flow, journey =>
    Shows seeds flow journey ∧
      (flow.isDone = false →
        Option.Rel
          (fun first second =>
            first.result = second.result ∧ Follows seeds rest first.next second.next)
          (Flow.send now event flow) (Discovery.send later event journey))

/-! ## The invariant -/

/-- A flow and a journey whose flow is its twin, or both past the questions. -/
inductive Embeds
    (pods : List Definition)
    (seeds : Fields)
    (flow : Flow κ)
    (journey : Discovery) : Prop
  | asking
      {inner : Flow Unit}
      (rests : ∃ board, Flow.Resting pods board flow)
      (stands : Standing pods .questions journey)
      (filled : journey.questions = ⟨some ⟨inner, ⟨0⟩⟩⟩)
      (alive : Questioning pods inner)
      (twins : Flow.Twins pods flow inner)
      (answers : journey.answers = seeds)
  | submitting
      (done : flow.isDone = true)
      (shown : Shows seeds flow journey)

theorem Embeds.shown (embeds : Embeds pods seeds flow journey) :
    Shows seeds flow journey := by
  cases embeds with
  | submitting _ shown => exact shown
  | @asking inner rests stands filled alive twins answers =>
    have underway : flow.isDone = false := by
      rw [twins.isDone_eq, Flow.isDone, Instance.isDone, alive.running]
      rfl
    have present : journey.questions.child? = some inner := by rw [filled]; rfl
    exact .asking underway stands.phase_eq answers present twins.progress_eq.symm
      twins.answers_eq.symm twins.snapshot_eq.symm twins.question_snapshot_eq.symm

/-- A journey that arrives with an object as its answers has the fields of the object. -/
theorem answers_arriving
    (now : Timestamp)
    (kind : String)
    (target : Phase)
    (answers : Fields)
    (journey : Discovery) :
    (journey.arriving now kind target (.singleton answersKey (.object answers))).answers =
      answers := by
  show Flow.fieldsOf (journey.machine.context.merge _) answersKey = answers
  rw [Flow.fieldsOf, KeyMap.get?_merge, KeyMap.get?_singleton, if_pos rfl]
  simp

/-- A journey that hears of the twin of a flow embeds the flow. -/
theorem embeds_of_hearing
    (rests : ∃ board, Flow.Resting pods board flow)
    (twins : Flow.Twins pods flow inner)
    (stands : Standing pods (inner.output.elim .questions fun _ => .submitting)
      (journey.hearingAnswers now inner))
    (answers : journey.answers = seeds) :
    Embeds pods seeds flow (journey.hearingAnswers now inner) := by
  have sameOutput := twins.output_eq
  unfold hearingAnswers at stands ⊢
  cases output : inner.output with
  | none =>
    rw [output] at stands
    exact .asking rests stands rfl (stands.questioning rfl) twins answers
  | some value =>
    rw [output] at stands sameOutput
    have done := isDone_of_rests rests sameOutput
    obtain ⟨board, rests⟩ := rests
    have ended : flow.machine.status = .done := by
      simpa [Flow.isDone, Instance.isDone] using done
    have object : value = .object board.answers :=
      Option.some.inj (sameOutput.symm.trans (rests.keeps.output_of_done ended))
    -- An object as the output is what makes the journey's answers those of the flow.
    subst object
    refine .submitting done (.submitting done stands.phase_eq rfl ?_)
    rw [sameOutput, answers_arriving]

/-! ## Events -/

/-- A flow that goes on and a journey that embeds it answer every event alike, and then the
journey embeds the flow again. -/
theorem Embeds.send
    (embeds : Embeds pods seeds flow journey)
    (underway : flow.isDone = false)
    (now later : Timestamp)
    (event : Event) :
    Option.Rel
      (fun first second =>
        first.result = second.result ∧ Embeds pods seeds first.next second.next)
      (Flow.send now event flow) (Discovery.send later event journey) := by
  cases embeds with
  | submitting done _ => simp [done] at underway
  | @asking inner rests stands filled alive twins answers =>
    obtain ⟨board, rests⟩ := rests
    have running : flow.machine.status = .running := twins.status_eq.trans alive.running
    have agree := twins.agree_send rests.quiet now later event
    rw [stands.send_questions filled alive]
    cases returned : Flow.send now event flow with
    | none =>
      rw [returned] at agree
      generalize Flow.send later event inner = second? at agree ⊢
      cases agree
      exact .none
    | some first =>
      cases returnedToo : Flow.send later event inner with
      | none =>
        rw [returned, returnedToo] at agree
        cases agree
      | some second =>
        rw [returned, returnedToo] at agree
        cases agree with
        | some agree =>
          obtain ⟨_, restsNext, _⟩ := rests.answers_send running returned
          exact .some ⟨agree.result, embeds_of_hearing restsNext agree.twins
            (stands.hears_answered filled returnedToo) answers⟩

/-- A journey that embeds a flow follows it through all events. -/
theorem Embeds.follows
    (embeds : Embeds pods seeds flow journey)
    (events : List (Event × Timestamp × Timestamp)) :
    Follows seeds events flow journey := by
  induction events generalizing flow journey with
  | nil => exact embeds.shown
  | cons first rest ih =>
    obtain ⟨event, now, later⟩ := first
    refine ⟨embeds.shown, fun underway => ?_⟩
    have sent := embeds.send underway now later event
    generalize Flow.send now event flow = first? at sent
    generalize Discovery.send later event journey = second? at sent
    cases sent with
    | none => exact .none
    | some both => exact .some ⟨both.1, ih both.2⟩

/-! ## Entering the questions -/

/-- A journey that came to the questions embeds every flow that was started from the
answers that the journey then had. -/
theorem Standing.embeds_of_entered
    {patch : Fields}
    {started : Turn (Flow Unit) Unit Unit}
    (stands : Standing pods .welcome journey)
    (step : Phase.welcome.step? event = some (.questions, patch))
    (returned : Flow.start now ((journey.entering now event.kind patch).spawnedFlow
      (.child journey.machine.id journey.spawned)) = some started)
    (id : InstanceId)
    (later : Timestamp) :
    ∃ flow first, Flow.create id pods (journey.seeds now event) = .ok (flow : Flow κ) ∧
      Flow.start later flow = some first ∧ first.result = .ok () ∧
      Embeds pods (journey.seeds now event) first.next
        ((journey.entering now event.kind patch).hearingAnswers now started.next) := by
  have inner := stands.unstarted_spawnedFlow now event.kind patch
    (.child journey.machine.id journey.spawned)
  simp only [answers_entering stands.keeps step now] at inner
  have outer : Flow.Unstarted pods ⟨0, journey.seeds now event, ∅⟩
      (Flow.fresh id pods (journey.seeds now event) : Flow κ) :=
    Flow.unstarted_fresh stands.usable id _
  have created : Flow.create id pods (journey.seeds now event) =
      .ok (Flow.fresh id pods (journey.seeds now event) : Flow κ) :=
    Flow.create_eq_ok_iff.2 ⟨stands.usable, rfl⟩
  have agree := outer.agree_start inner later now
  rw [returned] at agree
  cases outerReturned : Flow.start later
      (Flow.fresh id pods (journey.seeds now event) : Flow κ) with
  | none =>
    rw [outerReturned] at agree
    cases agree
  | some first =>
    rw [outerReturned] at agree
    cases agree with
    | some agree =>
      obtain ⟨fine, rests, _⟩ := outer.answers_start outerReturned
      exact ⟨_, first, created, outerReturned, fine,
        embeds_of_hearing rests agree.twins (stands.hears_started step returned)
          (answers_entering stands.keeps step now)⟩

/-- A journey that comes to the questions follows, through all later events, every question
flow over the same pods that was started on its own from the answers that the journey had
when it came there. -/
theorem follows_of_reaches_questions
    {id : InstanceId}
    {answers : Fields}
    {actions : List Action}
    {action : Action}
    {first next : Discovery}
    (created : Discovery.create id pods answers = .ok first)
    (reached : Discovery.run actions first = some journey)
    (performed : Discovery.perform action journey = some next)
    (enters : Leg.Reaches .questions ⟨journey, action, next⟩)
    (flowId : InstanceId)
    (later : Timestamp) :
    ∃ now event, action = .send now event ∧
      ∃ flow started, Flow.create flowId pods (journey.seeds now event) = .ok (flow : Flow κ) ∧
        Flow.start later flow = some started ∧ started.result = .ok () ∧
        ∀ events, Follows (journey.seeds now event) events started.next next := by
  obtain ⟨_, now, event, rfl, stands, came⟩ :=
    (atRest_of_run created reached).came performed enters
  cases came with
  | ended final => exact absurd final (by decide)
  | entered step returned =>
    obtain ⟨flow, started, flowCreated, flowStarted, fine, embeds⟩ :=
      stands.embeds_of_entered step returned flowId later
    exact ⟨now, event, rfl, flow, started, flowCreated, flowStarted, fine, embeds.follows⟩

instance (phase : Phase) (leg : Leg) : Decidable (leg.Reaches phase) :=
  inferInstanceAs (Decidable (_ ∧ _))

/-- A journey of a known user comes to the questions, and then follows a question flow on
its own through the answer to the only question. -/
theorem follows_of_known_user :
    let action : Action := .send default (.ofKind continueEvent)
    ∃ first journey next, Discovery.create Flow.hostId [Flow.questionPod "name"] ∅ = .ok first ∧
      Discovery.run [.start default, .send default (.ofKind "LOADED")] first = some journey ∧
      Discovery.perform action journey = some next ∧
      Leg.Reaches .questions ⟨journey, action, next⟩ ∧
      ∃ seeds flow started,
        Flow.create Flow.hostId [Flow.questionPod "name"] seeds = .ok (flow : Flow Empty) ∧
        Flow.start default flow = some started ∧
        Follows seeds [(.ofKind Pod.submit, default, default)] started.next next := by
  intro action
  obtain ⟨first, journey, created, reached, passed⟩ :=
    exists_run_of_check Flow.hostId [Flow.questionPod "name"] ∅
      [.start default, .send default (.ofKind "LOADED")]
      (fun journey => (perform action journey).any fun next =>
        decide (Leg.Reaches .questions ⟨journey, action, next⟩)) (by decide +kernel)
  obtain ⟨next, performed, enters⟩ := (Option.any_eq_true _ _).1 passed
  have enters := of_decide_eq_true enters
  obtain ⟨_, _, _, flow, started, flowCreated, flowStarted, _, follows⟩ :=
    follows_of_reaches_questions created reached performed enters Flow.hostId default
  exact ⟨first, journey, next, created, reached, performed, enters, _, flow, started,
    flowCreated, flowStarted, follows _⟩

end Discovery
end Questionnaire
