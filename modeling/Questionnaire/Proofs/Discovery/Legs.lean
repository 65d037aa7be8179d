import Questionnaire.Proofs.Discovery.Run
import Questionnaire.Proofs.Flow.Reply

/-!
# The legs of a journey

A leg is one call of a run.  What the machine of a journey recorded tells which phases the
journey has been in, and so on which leg it came to a phase.  It comes to the welcome only
when the machine that establishes the user ends, and to the submission only when its
question flow ends; an event from outside stands for neither, whatever its name.
-/

namespace Questionnaire
namespace Discovery

variable {pods : List Definition} {phase target : Phase} {patch : Fields}
  {journey next : Discovery} {now : Timestamp} {event : Event}

/-! ## The phases that were visited -/

/-- The states that the machine of a journey has been in, oldest first. -/
def visited (journey : Discovery) : List String :=
  journey.machine.definition.initial ::
    journey.machine.history.passages.map Passage.target

theorem phase_arriving
    (now : Timestamp)
    (kind : String)
    (target : Phase)
    (patch : Fields)
    (journey : Discovery) :
    (journey.arriving now kind target patch).phase = target := by
  show (NamedState.ofName? target.state).getD .error = target
  rw [ofName?_state]
  rfl

theorem visited_arriving
    (now : Timestamp)
    (kind : String)
    (target : Phase)
    (patch : Fields)
    (journey : Discovery) :
    (journey.arriving now kind target patch).visited = journey.visited ++ [target.state] := by
  simp [visited, arriving, entered, Instance.entering, History.record]

theorem visited_ending
    (now : Timestamp)
    (kind : String)
    (target : Phase)
    (patch : Fields)
    (journey : Discovery) :
    (journey.ending now kind target patch).visited = journey.visited ++ [target.state] :=
  visited_arriving now kind target patch journey

theorem visited_entering
    (now : Timestamp)
    (kind : String)
    (patch : Fields)
    (journey : Discovery) :
    (journey.entering now kind patch).visited = journey.visited ++ [Phase.questions.state] :=
  visited_arriving now kind .questions patch journey

theorem visited_hearingUser
    (now : Timestamp)
    (child : Instance Unit)
    (journey : Discovery) :
    (journey.hearingUser now child).visited =
      journey.visited ++ (child.output.elim [] fun _ => [Phase.welcome]).map Phase.state := by
  unfold hearingUser
  cases child.output with
  | none => exact (List.append_nil _).symm
  | some user => exact visited_arriving now userEstablishedEvent .welcome _ journey

theorem visited_hearingAnswers
    (now : Timestamp)
    (flow : Flow Unit)
    (journey : Discovery) :
    (journey.hearingAnswers now flow).visited =
      journey.visited ++ (flow.output.elim [] fun _ => [Phase.submitting]).map Phase.state := by
  unfold hearingAnswers
  cases flow.output with
  | none => exact (List.append_nil _).symm
  | some answers => exact visited_arriving now questionsDoneEvent .submitting _ journey

theorem visited_entering_hearingAnswers
    (now : Timestamp)
    (kind : String)
    (patch : Fields)
    (flow : Flow Unit)
    (journey : Discovery) :
    ((journey.entering now kind patch).hearingAnswers now flow).visited =
      journey.visited ++
        (Phase.questions :: flow.output.elim [] fun _ => [Phase.submitting]).map Phase.state := by
  rw [visited_hearingAnswers, visited_entering, List.append_assoc]
  rfl

/-! ## Legs -/

/-- A leg of a journey: what was done, and the journey before and after it. -/
structure Leg where
  before : Discovery
  action : Action
  after : Discovery

/-- The legs of a run. -/
def legs : List Action → Discovery → List Leg
  | [], _ => []
  | action :: rest, journey =>
    (perform action journey).elim [] fun next => ⟨journey, action, next⟩ :: legs rest next

/-- The answers of a journey once its machine took an event, with which it enters the
phase that the event leads to. -/
def seeds (now : Timestamp) (event : Event) (journey : Discovery) : Fields :=
  answers { journey with machine := (journey.machine.dispatch now event).next }

namespace Leg

/-- Whether the journey comes to a phase on a leg. -/
def Reaches (phase : Phase) (leg : Leg) : Prop :=
  phase.state ∉ leg.before.visited ∧ phase.state ∈ leg.after.visited

/-- On the leg the machine that establishes the user ended, with the user as its output.
The event from outside was for this machine, and not one that reports a user. -/
inductive Establishes (user : Json) (leg : Leg) : Prop
  | answering
      {now : Timestamp}
      {event : Event}
      {child : Instance Unit}
      (action : leg.action = .send now event)
      (filled : leg.before.establish.child? = some child)
      (underway : child.isDone = false)
      (done : (child.dispatch now event).next.isDone = true)
      (output : (child.dispatch now event).next.output = some user)
      (foreign : event.kind ≠ userEstablishedEvent)

/-- On the leg the question flow ended, with the answers as its output: either it answered
an event, which was a restart or an event that the pod being asked declares, or it was
spawned on the leg, which left the welcome, and ended as soon as it was started. -/
inductive Concludes (answers : Json) (leg : Leg) : Prop
  | answering
      {now : Timestamp}
      {event : Event}
      {flow : Flow Unit}
      {turn : Turn (Flow Unit) Unit Outcome}
      (action : leg.action = .send now event)
      (filled : leg.before.questions.child? = some flow)
      (underway : flow.isDone = false)
      (returned : Flow.send now event flow = some turn)
      (done : turn.next.isDone = true)
      (output : turn.next.output = some answers)
      (declared : event.kind ≠ Flow.startFreshEvent → ∃ question,
        flow.question? = some question ∧
          question.definition.transition? question.current event.kind ≠ none)
  | starting
      {now : Timestamp}
      {event : Event}
      {id : InstanceId}
      {flow : Flow Unit}
      {turn : Turn (Flow Unit) Unit Unit}
      (action : leg.action = .send now event)
      (entry : event.kind = continueEvent ∨ event.kind = startFreshEvent)
      (created : Flow.create id leg.before.pods (leg.before.seeds now event) = .ok flow)
      (returned : Flow.start now (flow.subscribe ()).2 = some turn)
      (done : turn.next.isDone = true)
      (output : turn.next.output = some answers)

/-- On the leg the journey was told of an error, null if the event has none. -/
def Fails (error : Json) (leg : Leg) : Prop :=
  ∃ now event, leg.action = .send now event ∧ event.kind = errorEvent ∧
    error = (event.get? errorKey).getD .null

theorem Reaches.mem_news
    {leg : Leg}
    {news : List Phase}
    (reaches : leg.Reaches phase)
    (visited : leg.after.visited = leg.before.visited ++ news.map Phase.state) :
    phase ∈ news := by
  have member := reaches.2
  rw [visited, List.mem_append] at member
  obtain ⟨same, known, equal⟩ := List.mem_map.1 (member.resolve_left reaches.1)
  rwa [← Phase.state_inj.1 equal]

end Leg

/-! ### What ends on a leg -/

section Ending

variable {after : Discovery}

/-- The machine that establishes the user ends on the leg on which it has an output. -/
theorem Establishing.establishes
    {child : Instance Unit}
    {user : Json}
    (alive : Establishing child)
    (filled : journey.establish = ⟨some ⟨child, ⟨0⟩⟩⟩)
    (output : (child.dispatch now event).next.output = some user) :
    Leg.Establishes user ⟨journey, .send now event, after⟩ := by
  have sound := alive.sound.dispatch now event
  have silent := alive.sound.silent_of_running alive.running
  have present : journey.establish.child? = some child := by rw [filled]; rfl
  have underway : child.isDone = false := by
    rw [alive.sound.isDone_eq, silent]
    rfl
  have done : (child.dispatch now event).next.isDone = true := by
    rw [sound.isDone_eq, output]
    rfl
  refine .answering rfl present underway done output ?_
  -- The child ignores the event that would report a user, and so stays without an output.
  intro forged
  have undeclared : child.definition.transition? child.current event.kind = none := by
    rw [alive.definition, forged]
    exact EstablishUser.transition?_userEstablished _
  rw [alive.sound.dispatch_of_undeclared alive.running undeclared, silent] at output
  cases output

/-- A flow at rest that has an output has ended. -/
theorem isDone_of_rests
    {κ : Type}
    {flow : Flow κ}
    {answers : Json}
    (rests : ∃ board, Flow.Resting pods board flow)
    (output : flow.output = some answers) :
    flow.isDone = true := by
  obtain ⟨board, rests⟩ := rests
  rw [Flow.isDone, rests.keeps.sound.isDone_eq,
    show flow.machine.output = some answers from output]
  rfl

/-- The question flow ends on the leg on which it has an output. -/
theorem Questioning.concludes
    {flow : Flow Unit}
    {turn : Turn (Flow Unit) Unit Outcome}
    {answers : Json}
    (alive : Questioning pods flow)
    (filled : journey.questions = ⟨some ⟨flow, ⟨0⟩⟩⟩)
    (returned : Flow.send now event flow = some turn)
    (output : turn.next.output = some answers) :
    Leg.Concludes answers ⟨journey, .send now event, after⟩ := by
  obtain ⟨board, rests⟩ := alive.rests
  obtain ⟨_, restsNext, _⟩ := rests.answers_send alive.running returned
  obtain ⟨pod, question, asking⟩ := rests.asking_of_running alive.running
  have silent : flow.output = none := rests.keeps.sound.silent_of_running alive.running
  have present : journey.questions.child? = some flow := by rw [filled]; rfl
  have underway : flow.isDone = false := by simp [Flow.isDone, Instance.isDone, alive.running]
  refine .answering rfl present underway returned (isDone_of_rests restsNext output) output ?_
  intro kind
  refine ⟨question, by simp [Flow.question?, ChildSlot.child?, asking.active], ?_⟩
  rw [asking.asked.definition]
  intro undeclared
  rw [asking.send_of_undeclared rests.quiet kind undeclared] at returned
  cases returned
  rw [silent] at output
  cases output

/-- The events that lead from the welcome to the questions. -/
theorem Phase.kind_of_step_welcome
    (step : Phase.welcome.step? event = some (target, patch)) :
    event.kind = continueEvent ∨ event.kind = startFreshEvent := by
  cases Phase.steps_of_step? step with
  | freshStart kind => exact .inr kind
  | continued kind => exact .inl kind

theorem answers_entering
    (keeps : Keeps .welcome journey.machine)
    (step : Phase.welcome.step? event = some (.questions, patch))
    (now : Timestamp) :
    (journey.entering now event.kind patch).answers = journey.seeds now event := by
  rw [seeds, (keeps.dispatch_entered step (by decide) now).1]
  rfl

/-- A question flow that has an output as soon as it was started ends on the leg on which
it was spawned. -/
theorem Standing.concludes
    {turn : Turn (Flow Unit) Unit Unit}
    {answers : Json}
    (stands : Standing pods .welcome journey)
    (step : Phase.welcome.step? event = some (.questions, patch))
    (returned : Flow.start now ((journey.entering now event.kind patch).spawnedFlow
      (.child journey.machine.id journey.spawned)) = some turn)
    (output : turn.next.output = some answers) :
    Leg.Concludes answers ⟨journey, .send now event, after⟩ := by
  have unstarted := stands.unstarted_spawnedFlow now event.kind patch
    (.child journey.machine.id journey.spawned)
  obtain ⟨_, rests, _⟩ := unstarted.answers_start returned
  have created : Flow.create (.child journey.machine.id journey.spawned) journey.pods
      (journey.seeds now event) =
        .ok (Flow.fresh (.child journey.machine.id journey.spawned) journey.pods
          (journey.seeds now event) : Flow Unit) := by
    rw [Flow.create_eq_ok_iff, stands.podsEq]
    exact ⟨stands.usable, rfl⟩
  rw [spawnedFlow, answers_entering stands.keeps step now] at returned
  have entry := Phase.kind_of_step_welcome step
  exact .starting rfl entry created returned (isDone_of_rests rests output) output

end Ending

/-! ### What makes a journey go on -/

section Sending

variable {turn : Turn Discovery Empty Outcome}

/-- How a journey that was sent an event came from one phase to another: it ended there, or
it heard the output of a child, or it spawned its question flow. -/
inductive Came (now : Timestamp) (event : Event) (journey : Discovery) :
    Phase → Phase → Discovery → Prop
  | ended
      {phase target : Phase}
      {next : Discovery}
      (final : target.IsFinal) :
      Came now event journey phase target next
  | established
      {child : Instance Unit}
      {user : Json}
      {next : Discovery}
      (filled : journey.establish = ⟨some ⟨child, ⟨0⟩⟩⟩)
      (alive : Establishing child)
      (output : (child.dispatch now event).next.output = some user) :
      Came now event journey .loading .welcome next
  | entered
      {patch : Fields}
      {started : Turn (Flow Unit) Unit Unit}
      (step : Phase.welcome.step? event = some (.questions, patch))
      (returned : Flow.start now ((journey.entering now event.kind patch).spawnedFlow
        (.child journey.machine.id journey.spawned)) = some started) :
      Came now event journey .welcome .questions
        ((journey.entering now event.kind patch).hearingAnswers now started.next)
  | started
      {patch : Fields}
      {started : Turn (Flow Unit) Unit Unit}
      {answers : Json}
      {next : Discovery}
      (step : Phase.welcome.step? event = some (.questions, patch))
      (returned : Flow.start now ((journey.entering now event.kind patch).spawnedFlow
        (.child journey.machine.id journey.spawned)) = some started)
      (output : started.next.output = some answers) :
      Came now event journey .welcome .submitting next
  | answered
      {flow : Flow Unit}
      {answered : Turn (Flow Unit) Unit Outcome}
      {answers : Json}
      {next : Discovery}
      (filled : journey.questions = ⟨some ⟨flow, ⟨0⟩⟩⟩)
      (returned : Flow.send now event flow = some answered)
      (output : answered.next.output = some answers) :
      Came now event journey .questions .submitting next

/-- A journey comes to a phase in one of these ways. -/
theorem Sent.came
    (sent : Sent now event journey phase turn)
    (reaches : Leg.Reaches target ⟨journey, .send now event, turn.next⟩) :
    Came now event journey phase target turn.next := by
  cases sent with
  | refused => exact absurd reaches.2 reaches.1
  | ignored => exact absurd reaches.2 reaches.1
  | @ended _ final patch _ step isFinal =>
    have member : target ∈ [final] :=
      reaches.mem_news (visited_ending now event.kind final patch journey)
    rw [List.mem_singleton.1 member]
    exact .ended isFinal
  | @established child _ filled alive fine =>
    have member := reaches.mem_news (visited_hearingUser now _ journey)
    cases output : (child.dispatch now event).next.output with
    | none => simp [output] at member
    | some user =>
      rw [output] at member
      rw [List.mem_singleton.1 member]
      exact .established filled alive output
  | @entered patch started step returned =>
    have member :=
      reaches.mem_news (visited_entering_hearingAnswers now event.kind patch _ journey)
    rcases List.mem_cons.1 member with rfl | submits
    · exact .entered step returned
    · cases output : started.next.output with
      | none => simp [output] at submits
      | some answers =>
        rw [output] at submits
        rw [List.mem_singleton.1 submits]
        exact .started step returned output
  | @asked flow answered _ filled returned fine =>
    have member := reaches.mem_news (visited_hearingAnswers now _ journey)
    cases output : answered.next.output with
    | none => simp [output] at member
    | some answers =>
      rw [output] at member
      rw [List.mem_singleton.1 member]
      exact .answered filled returned output

/-- A journey comes to the welcome only when the machine that establishes the user ends. -/
theorem Came.establishes
    (came : Came now event journey phase .welcome next) :
    ∃ user, Leg.Establishes user ⟨journey, .send now event, next⟩ := by
  cases came with
  | ended final => exact absurd final (by decide)
  | established filled alive output => exact ⟨_, alive.establishes filled output⟩

/-- A journey comes to the submission only when its question flow ends. -/
theorem Came.concludes
    (came : Came now event journey phase .submitting next)
    (stands : Standing pods phase journey) :
    ∃ answers, Leg.Concludes answers ⟨journey, .send now event, next⟩ := by
  cases came with
  | ended final => exact absurd final (by decide)
  | started step returned output => exact ⟨_, stands.concludes step returned output⟩
  | answered filled returned output =>
    exact ⟨_, (stands.questioning filled).concludes filled returned output⟩

end Sending

/-- A leg on which a journey comes to a phase is one on which it was sent an event. -/
theorem AtRest.came
    {action : Action}
    (rest : AtRest pods journey)
    (returned : Discovery.perform action journey = some next)
    (reaches : Leg.Reaches target ⟨journey, action, next⟩) :
    ∃ phase now event, action = .send now event ∧ Standing pods phase journey ∧
      Came now event journey phase target next := by
  have still (same : next.visited = journey.visited) : False := by
    apply reaches.1
    rw [← same]
    exact reaches.2
  cases action with
  | start now =>
    obtain ⟨turn, started, rfl⟩ := Option.map_eq_some_iff.1 returned
    apply absurd _ still
    cases rest with
    | unstarted unstarted =>
      obtain ⟨startedToo, _⟩ := unstarted.start now
      rw [startedToo] at started
      cases started
      rfl
    | standing phase stands =>
      rw [start_of_begun stands.keeps.begun] at started
      cases started
      rfl
  | send now event =>
    obtain ⟨turn, sent, rfl⟩ := Option.map_eq_some_iff.1 returned
    cases rest with
    | unstarted unstarted =>
      apply absurd _ still
      rw [unstarted.send] at sent
      cases sent
      rfl
    | standing phase stands =>
      exact ⟨phase, now, event, rfl, stands, (stands.send_cases sent).came reaches⟩

end Discovery
end Questionnaire
