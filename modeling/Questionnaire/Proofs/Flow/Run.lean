import Questionnaire.Proofs.Flow.Settling

/-!
# Runs of a flow

A host drives a flow by starting it, sending it events, and registering and removing
subscribers.  After each call that returns the flow is at rest: its mailbox is empty,
and it is not started, asks the pod at the progress, or has ended.
-/

namespace Questionnaire
namespace Flow

variable {κ : Type} {pods : List Definition} {board : Board} {pod : Definition}
  {question : Instance Unit} {pending : List Signal} {flow : Flow κ} {now : Timestamp}

/-! ## Calls -/

/-- What starting does before the mailbox is emptied. -/
def opening (now : Timestamp) : Call (Flow κ) κ Unit := do
  onMachine Instance.start
  enterPlaying now

/-- What sending an event does before the mailbox is emptied. -/
def delivering (now : Timestamp) (event : Event) : Call (Flow κ) κ Outcome := do
  let flow ← .present
  if event.kind = startFreshEvent ∨ flow.machine.status ≠ .running then dispatch now event
  else onActive (ChildSlot.send machineId now event)

theorem start_of_idle (idle : flow.machine.status = .idle) :
    Flow.start now flow = (do
      let opened ← opening now
      settle now
      return opened) flow := by
  rw [show Flow.start now flow = (do
    onMachine Instance.start
    enterPlaying now
    settle now : Call (Flow κ) κ Unit) flow by
      rw [Flow.start, Call.bind_apply, Call.present_apply]
      simp [idle]]
  simp [opening]

theorem start_of_begun (begun : flow.machine.status ≠ .idle) :
    Flow.start now flow = some ⟨flow, .ok (), []⟩ := by
  unfold Flow.start
  simp [Call.bind_apply, begun]

theorem send_eq (now : Timestamp) (event : Event) :
    (Flow.send now event : Call (Flow κ) κ Outcome) = do
      let outcome ← delivering now event
      settle now
      return outcome := by
  unfold Flow.send delivering
  rw [bind_assoc]
  apply congrArg
  funext flow
  split <;> rfl

/-- The moves of emptying the mailbox after a call. -/
def settledMoves {α : Type} (now : Timestamp) (call : Call (Flow κ) κ α) (flow : Flow κ) :
    List Move :=
  match call flow with
  | some ⟨next, .ok _, _⟩ => settleMoves now next
  | _ => []

/-- Emptying the mailbox after a call that did not fail. -/
theorem settle_after
    {α : Type}
    {call : Call (Flow κ) κ α}
    {called : Turn (Flow κ) κ α}
    {value : α}
    {turn : Turn (Flow κ) κ α}
    (calledEq : call flow = some called)
    (fine : called.result = .ok value)
    (returned : (do
      let value ← call
      settle now
      return value) flow = some turn) :
    settledMoves now call flow = settleMoves now called.next ∧
      ∃ settled, settle now called.next = some settled ∧ turn.next = settled.next ∧
        turn.result = settled.result.map fun _ => value := by
  obtain ⟨next, result, sent⟩ := called
  cases fine
  simp only [Call.bind_apply, calledEq] at returned
  obtain ⟨later, laterReturned, rfl⟩ := Option.map_eq_some_iff.1 returned
  refine ⟨by rw [settledMoves, calledEq], ?_⟩
  cases settled : settle now next with
  | none => simp [settled] at laterReturned
  | some last =>
    obtain ⟨final, _ | value, more⟩ := last
    · simp only [settled, Option.some.injEq] at laterReturned
      subst laterReturned
      exact ⟨_, rfl, rfl, rfl⟩
    · simp only [settled, Call.pure_apply, Option.map_some, Option.some.injEq] at laterReturned
      subst laterReturned
      exact ⟨_, rfl, rfl, rfl⟩

/-! ## Starting -/

/-- A flow that was not started. -/
structure Unstarted (pods : List Definition) (board : Board) (flow : Flow κ) : Prop where
  podsEq : flow.pods = pods
  usable : ∀ pod ∈ pods, Pod.Usable pod
  keeps : Keeps pods board flow.machine
  idle : flow.machine.status = .idle
  active : flow.active = .empty
  quiet : flow.mailbox.queue = []
  first : board.progress = 0

/-- The transitions of a flow's machine over a list of pods. -/
def transitions (pods : List Definition) : TransitionTable :=
  match Flow.definition.resolve (effects pods) with
  | .ok table => table
  | .error _ => ∅

/-- A flow that was just built. -/
def fresh (id : InstanceId) (pods : List Definition) (answers : Fields) : Flow κ where
  machine := .idle id Flow.definition (transitions pods) (contextOf 0 answers ∅)
  pods := pods
  active := .empty
  mailbox := {}
  spawned := 0

/-- A flow can be built exactly when all its pods are usable. -/
theorem create_eq_ok_iff
    {id : InstanceId}
    {answers : Fields} :
    Flow.create id pods answers = .ok flow ↔
      (∀ pod ∈ pods, Pod.Usable pod) ∧ flow = fresh id pods answers := by
  obtain ⟨table, resolved⟩ := exists_resolve_definition pods
  have same : transitions pods = table := by rw [transitions, resolved]
  have built : Instance.create id Flow.definition (effects pods) (contextOf 0 answers ∅) =
      .ok (Instance.idle id Flow.definition table (contextOf 0 answers ∅) : Instance κ) :=
    Instance.create_eq_ok_iff.2 ⟨valid_definition, table, resolved, rfl⟩
  rw [fresh, same, ← Pod.checkAll_eq_ok_iff]
  unfold Flow.create
  constructor
  · intro created
    obtain ⟨_, usable, created⟩ := bind_eq_ok_iff.1 created
    rw [built] at created
    cases created
    exact ⟨usable, rfl⟩
  · rintro ⟨usable, rfl⟩
    rw [usable, built]
    rfl

/-- A flow that was just built over usable pods is not started, and keeps the answers from
before. -/
theorem unstarted_fresh
    (usable : ∀ pod ∈ pods, Pod.Usable pod)
    (id : InstanceId)
    (answers : Fields) :
    Unstarted pods ⟨0, answers, ∅⟩ (fresh id pods answers : Flow κ) := by
  obtain ⟨table, resolved⟩ := exists_resolve_definition pods
  have same : transitions pods = table := by rw [transitions, resolved]
  have sound : (Instance.idle id Flow.definition (transitions pods) (contextOf 0 answers ∅) :
      Instance κ).Sound (effects pods) :=
    Instance.sound_idle valid_definition (same ▸ resolved)
  exact ⟨rfl, usable, ⟨sound, rfl, rfl, rfl⟩, rfl, rfl, rfl, rfl⟩

/-- A flow that is built is not started, and keeps the answers from before. -/
theorem unstarted_of_create
    {id : InstanceId}
    {answers : Fields}
    (created : Flow.create id pods answers = .ok flow) :
    Unstarted pods ⟨0, answers, ∅⟩ flow := by
  obtain ⟨usable, rfl⟩ := create_eq_ok_iff.1 created
  exact unstarted_fresh usable id answers

theorem Unstarted.subscribe
    (unstarted : Unstarted pods board flow)
    (outlet : κ) :
    Unstarted pods board (flow.subscribe outlet).2 :=
  ⟨unstarted.podsEq, unstarted.usable, unstarted.keeps.subscribe outlet, unstarted.idle,
    unstarted.active, unstarted.quiet, unstarted.first⟩

/-- The flow once its machine was started and entered `playing`. -/
def opened (now : Timestamp) (flow : Flow κ) : Flow κ :=
  entered now { flow with machine := { flow.machine with status := .running } }

theorem Unstarted.playing
    (unstarted : Unstarted pods board flow) :
    Playing pods board { flow with machine := { flow.machine with status := .running } } where
  podsEq := unstarted.podsEq
  usable := unstarted.usable
  keeps := (unstarted.keeps.start unstarted.idle).2
  running := rfl
  bounded := by
    have first := unstarted.first
    omega
  sources := by simp [unstarted.quiet]

theorem Unstarted.opening
    (unstarted : Unstarted pods board flow)
    (now : Timestamp) :
    (∃ sent, Flow.opening now flow = some ⟨flow.opened now, .ok (), sent⟩) ∧
      Entered pods board (flow.opened now) := by
  obtain ⟨started, _⟩ := unstarted.keeps.start unstarted.idle
  obtain ⟨⟨sent, returned⟩, entered⟩ := unstarted.playing.enterPlaying now
  refine ⟨⟨sent, ?_⟩, entered⟩
  unfold Flow.opening onMachine
  simp only [Call.bind_apply, Call.within, started, Option.map_some, List.nil_append]
  rw [returned]
  rfl

/-- Starting a flow asks the first pod that does not end at once, or ends the flow. -/
theorem Unstarted.start
    {turn : Turn (Flow κ) κ Unit}
    (unstarted : Unstarted pods board flow)
    (returned : Flow.start now flow = some turn) :
    Resting pods (board.afterAll pods (settledMoves now (Flow.opening now) flow)) turn.next ∧
      ∀ move ∈ settledMoves now (Flow.opening now) flow, move = .advance ∨ move = .retreat := by
  obtain ⟨⟨sent, opened⟩, entered⟩ := unstarted.opening now
  rw [start_of_idle unstarted.idle] at returned
  obtain ⟨sameMoves, settled, settledEq, sameNext, _⟩ := settle_after opened rfl returned
  obtain ⟨_, rests, steps⟩ := entered.hushed.settle settledEq
  rw [sameMoves, sameNext]
  exact ⟨rests, steps⟩

/-! ## Sending events -/

/-- The moves with which a flow answers an event: the pod that it asks answers `name`,
any number of times, and then the flow steps on. -/
structure Answering (name : String) (saves steps : List Move) : Prop where
  saves : ∀ move ∈ saves, ∃ answer, move = .save name answer
  steps : ∀ move ∈ steps, move = .advance ∨ move = .retreat

theorem Asking.question_running (asking : Asking pods board pod question [] flow) :
    question.status = .running := by
  have alive := Pod.trail_nil_iff.1 asking.trail
  have begun := asking.asked.begun
  cases status : question.status <;> simp_all [Instance.isDone]

/-- The flow once its pod made `turn` of an event. -/
def given (turn : Turn (Instance Unit) Unit Outcome) (flow : Flow κ) : Flow κ :=
  { flow with
    active := ⟨some ⟨turn.next, ⟨0⟩⟩⟩
    mailbox := flow.mailbox.deliver turn.sent }

/-- An event that is up to the pod being asked is given to it, and the pod's signals go to
the mailbox. -/
theorem Asking.delivering_eq
    {event : Event}
    (asking : Asking pods board pod question pending flow)
    (kind : event.kind ≠ startFreshEvent)
    (now : Timestamp) :
    Flow.delivering now event flow = some
      ⟨flow.given (question.dispatch now event), (question.dispatch now event).result, []⟩ := by
  unfold Flow.delivering onActive
  simp only [Call.bind_apply, Call.present_apply, kind, asking.running, false_or, ne_eq,
    not_true_eq_false, if_false, Call.within, ChildSlot.send, asking.active,
    ChildSlot.calling, Child.send, Option.map_some, List.append_nil, given]

/-- Once its pod took an event, a flow is to hear what the pod sent. -/
theorem Asking.given
    (asking : Asking pods board pod question [] flow)
    (quiet : flow.mailbox.queue = [])
    (now : Timestamp)
    (event : Event) :
    let turn := question.dispatch now event
    ∃ signals, turn.sent = Pod.deliveries question signals ∧
      Asking pods board pod turn.next signals (flow.given turn) ∧
      ∀ notice, .notify notice ∈ signals →
        notice = Pod.answerNotice (question.input event) ∨ notice = Pod.previousNotice := by
  obtain ⟨asked, sameId, _, signals, sent, trail, notices⟩ :=
    asking.asked.dispatch asking.question_running now event
  refine ⟨signals, sent, ?_, notices⟩
  rw [Flow.given, sent]
  have queue : (flow.mailbox.deliver (Pod.deliveries question signals)).queue =
      (Pod.deliveries question signals).map Delivery.envelope := by
    show flow.mailbox.queue ++ _ = _
    rw [quiet, List.nil_append]
  exact {
    podsEq := asking.podsEq
    usable := asking.usable
    keeps := asking.keeps
    running := asking.running
    bounded := asking.bounded
    sources := by
      intro envelope member
      obtain ⟨number, same, last⟩ := asking.latest
      rw [queue] at member
      refine ⟨number, ?_, (source_of_mem_deliveries member).trans same⟩
      show number < flow.spawned
      omega
    active := rfl
    found := asking.found
    asked := asked
    latest := sameId ▸ asking.latest
    heard := by rw [queue, sameId, filter_deliveries]
    trail := trail }

/-- An event that is up to the pod being asked reaches it, and the pod answers. -/
theorem Asking.delivering
    {event : Event}
    (asking : Asking pods board pod question [] flow)
    (kind : event.kind ≠ startFreshEvent)
    (now : Timestamp) :
    ∃ outcome, (question.dispatch now event).result = .ok outcome ∧
      Flow.delivering now event flow =
        some ⟨flow.given (question.dispatch now event), .ok outcome, []⟩ := by
  obtain ⟨_, _, ⟨outcome, fine⟩, _⟩ :=
    asking.asked.dispatch asking.question_running now event
  exact ⟨outcome, fine, by rw [asking.delivering_eq kind now, fine]⟩

/-- The question that an event answers, if the pod takes it as an answer. -/
def answeredName (event : Event) (question : Instance Unit) : String :=
  (event.text? Pod.questionKey).getD question.current

/-- An event that is up to the pod being asked: the pod answers, and then the flow steps
on, unless it goes on asking the same pod. -/
theorem Asking.send
    {event : Event}
    {turn : Turn (Flow κ) κ Outcome}
    (asking : Asking pods board pod question [] flow)
    (quiet : flow.mailbox.queue = [])
    (kind : event.kind ≠ startFreshEvent)
    (returned : Flow.send now event flow = some turn) :
    ∃ saves steps, settledMoves now (Flow.delivering now event) flow = saves ++ steps ∧
      Answering (answeredName event question) saves steps ∧
      Resting pods (board.afterAll pods (saves ++ steps)) turn.next ∧
      (steps = [] → turn.next.question?.map Instance.id = flow.question?.map Instance.id) := by
  obtain ⟨outcome, _, delivered⟩ := asking.delivering kind now
  obtain ⟨signals, _, heard, notices⟩ := asking.given quiet now event
  have sameId : (question.dispatch now event).next.id = question.id :=
    (asking.asked.dispatch asking.question_running now event).2.1
  rw [send_eq] at returned
  obtain ⟨sameMoves, settled, settledEq, sameNext, _⟩ := settle_after delivered rfl returned
  obtain ⟨_, quietNext, underway⟩ := heard.settle settledEq
  rw [sameMoves, sameNext]
  have answering {saves steps : List Move} (course : Course signals saves steps) :
      Answering (answeredName event question) saves steps := by
    refine ⟨?_, course.steps⟩
    intro move member
    obtain ⟨notice, name, answer, told, named, rfl⟩ := course.saves move member
    rcases notices notice told with rfl | rfl
    · rw [Pod.text?_answerNotice] at named
      exact ⟨answer, by rw [← Option.some.inj named]; rfl⟩
    · simp [Pod.previousNotice, Event.ofKind, Event.text?, Event.get?] at named
  generalize settleMoves now (flow.given (question.dispatch now event)) = log at underway ⊢
  cases underway with
  | hearing course fewer still =>
    refine ⟨log, [], by simp, answering course, ?_, ?_⟩
    · simpa using (still.resting quietNext).1
    · intro _
      simp [question?, ChildSlot.child?, still.active, asking.active, sameId]
  | left course nonempty hushed =>
    exact ⟨_, _, rfl, answering course, hushed.resting quietNext, fun none => absurd none nonempty⟩

/-- What a host does with a flow. -/
inductive Action (κ : Type) where
  | start (now : Timestamp)
  | send (now : Timestamp) (event : Event)
  | subscribe (outlet : κ)
  | unsubscribe (subscription : Subscription)

/-- The flow after an action, if that returns. -/
def perform (action : Action κ) (flow : Flow κ) : Option (Flow κ) :=
  match action with
  | .start now => (Flow.start now flow).map Turn.next
  | .send now event => (Flow.send now event flow).map Turn.next
  | .subscribe outlet => some (flow.subscribe outlet).2
  | .unsubscribe subscription => some (flow.unsubscribe subscription).2

/-- The moves that an action makes. -/
def movesOf (action : Action κ) (flow : Flow κ) : List Move :=
  match action with
  | .start now => if flow.machine.status = .idle then settledMoves now (opening now) flow else []
  | .send now event =>
    (if event.kind = startFreshEvent ∧ flow.machine.status = .running then [.restart] else []) ++
      settledMoves now (delivering now event) flow
  | .subscribe _ => []
  | .unsubscribe _ => []

theorem movesOf_start (idle : flow.machine.status = .idle) :
    movesOf (.start now) flow = settledMoves now (opening now) flow :=
  if_pos idle

theorem movesOf_start_of_begun (begun : flow.machine.status ≠ .idle) :
    movesOf (.start now) flow = [] :=
  if_neg begun

theorem movesOf_restart
    {event : Event}
    (kind : event.kind = startFreshEvent)
    (running : flow.machine.status = .running) :
    movesOf (.send now event) flow = .restart :: settledMoves now (delivering now event) flow := by
  simp [movesOf, kind, running]

theorem movesOf_send
    {event : Event}
    (other : ¬(event.kind = startFreshEvent ∧ flow.machine.status = .running)) :
    movesOf (.send now event) flow = settledMoves now (delivering now event) flow := by
  rw [movesOf, if_neg other, List.nil_append]

/-- The flow after several actions, if they all return. -/
def run : List (Action κ) → Flow κ → Option (Flow κ)
  | [], flow => some flow
  | action :: rest, flow => (perform action flow).bind (run rest)

/-- The moves that several actions make. -/
def runMoves : List (Action κ) → Flow κ → List Move
  | [], _ => []
  | action :: rest, flow =>
    movesOf action flow ++ (perform action flow).elim [] (runMoves rest)

theorem run_append (earlier later : List (Action κ)) (flow : Flow κ) :
    run (earlier ++ later) flow = (run earlier flow).bind (run later) := by
  induction earlier generalizing flow with
  | nil => rfl
  | cons action earlier ih =>
    rw [List.cons_append, run, run, Option.bind_assoc]
    exact congrArg _ (funext ih)

theorem runMoves_append
    {first : Flow κ}
    {earlier : List (Action κ)}
    (reached : run earlier first = some flow)
    (later : List (Action κ)) :
    runMoves (earlier ++ later) first = runMoves earlier first ++ runMoves later flow := by
  induction earlier generalizing first with
  | nil =>
    cases reached
    rfl
  | cons action earlier ih =>
    obtain ⟨next, performed, reached⟩ := Option.bind_eq_some_iff.1 reached
    simp [runMoves, performed, ih reached]

/-- Told to start again, a flow forgets its board and asks the first pod. -/
theorem Asking.restarting
    {event : Event}
    (asking : Asking pods board pod question pending flow)
    (kind : event.kind = startFreshEvent)
    (now : Timestamp) :
    let next := flow.stepped now event.kind (board.after pods .restart)
    (∃ sent, Flow.delivering now event flow =
      some ⟨next, .ok (.transitioned Flow.playing Flow.playing), sent⟩) ∧
      Entered pods (board.after pods .restart) next := by
  have read : Move.ofEvent? event = some .restart := by
    rw [Move.ofEvent?, kind]
    rfl
  have delivered : Flow.delivering now event flow = Flow.dispatch now event flow := by
    unfold Flow.delivering
    simp [Call.bind_apply, kind]
  rw [delivered]
  exact asking.dispatch_navigation read rfl (Nat.zero_le _) now

/-- Starting again, a flow forgets its board and asks from the first pod on. -/
theorem Asking.restart
    {event : Event}
    {turn : Turn (Flow κ) κ Outcome}
    (asking : Asking pods board pod question pending flow)
    (kind : event.kind = startFreshEvent)
    (returned : Flow.send now event flow = some turn) :
    let steps := settledMoves now (Flow.delivering now event) flow
    Resting pods ((board.after pods .restart).afterAll pods steps) turn.next ∧
      ∀ move ∈ steps, move = .advance ∨ move = .retreat := by
  intro steps
  obtain ⟨⟨sent, delivered⟩, entered⟩ := asking.restarting kind now
  rw [send_eq] at returned
  obtain ⟨sameMoves, settled, settledEq, sameNext, _⟩ := settle_after delivered rfl returned
  obtain ⟨_, rests, steps⟩ := entered.hushed.settle settledEq
  show Resting pods (Board.afterAll pods _ (settledMoves now (Flow.delivering now event) flow)) _ ∧
    ∀ move ∈ settledMoves now (Flow.delivering now event) flow, _
  rw [sameMoves, sameNext]
  exact ⟨rests, steps⟩

/-- A flow that does not run refuses every event as its machine does, and stays as it is. -/
theorem send_eq_of_not_running
    (stopped : flow.machine.status ≠ .running)
    (now : Timestamp)
    (event : Event) :
    ∃ error, flow.machine.dispatch now event = ⟨flow.machine, .error error, []⟩ ∧
      delivering now event flow = some ⟨flow, .error error, []⟩ ∧
      Flow.send now event flow = some ⟨flow, .error error, []⟩ := by
  have refused : ∃ error, flow.machine.dispatch now event =
      ⟨flow.machine, .error error, []⟩ := by
    unfold Instance.dispatch
    cases status : flow.machine.status with
    | idle => exact ⟨_, rfl⟩
    | running => exact absurd status stopped
    | done => exact ⟨_, rfl⟩
  obtain ⟨error, refused⟩ := refused
  have delivered : delivering now event flow = some ⟨flow, .error error, []⟩ := by
    unfold delivering Flow.dispatch onMachine
    simp [Call.bind_apply, stopped, Call.within, refused]
  exact ⟨error, refused, delivered, by rw [send_eq, Call.bind_apply, delivered]⟩

theorem send_of_not_running
    {event : Event}
    {turn : Turn (Flow κ) κ Outcome}
    (stopped : flow.machine.status ≠ .running)
    (returned : Flow.send now event flow = some turn) :
    turn.next = flow ∧ settledMoves now (delivering now event) flow = [] := by
  obtain ⟨error, _, delivered, sent⟩ := send_eq_of_not_running stopped now event
  rw [sent] at returned
  cases returned
  exact ⟨rfl, by rw [settledMoves, delivered]⟩

/-- Why a flow refuses every event: it was not started, or it has ended. -/
def refusal? : Status → Option DispatchError
  | .idle => some (.protocol (.notStarted machineId))
  | .running => none
  | .done => some (.protocol (.alreadyTerminated machineId complete))

/-- A flow that refuses an event stays as it is, and sends nothing. -/
theorem Keeps.send_of_refusal
    {error : DispatchError}
    (keeps : Keeps pods board flow.machine)
    (refuses : refusal? flow.machine.status = some error)
    (now : Timestamp)
    (event : Event) :
    Flow.send now event flow = some ⟨flow, .error error, []⟩ := by
  have stopped : flow.machine.status ≠ .running := by
    intro running
    simp [refusal?, running] at refuses
  have refused : flow.machine.dispatch now event = ⟨flow.machine, .error error, []⟩ := by
    unfold Instance.dispatch
    cases status : flow.machine.status with
    | idle =>
      rw [status] at refuses
      cases refuses
      rw [keeps.definition]
      rfl
    | running => exact absurd status stopped
    | done =>
      rw [status] at refuses
      cases refuses
      rw [keeps.definition, keeps.complete_of_done status]
      rfl
  obtain ⟨_, dispatched, _, sent⟩ := send_eq_of_not_running stopped now event
  rw [refused] at dispatched
  cases dispatched
  exact sent

/-! ## Runs -/

/-- Whether an action starts a flow. -/
def Action.isStart : Action κ → Bool
  | .start _ => true
  | .send .. => false
  | .subscribe _ => false
  | .unsubscribe _ => false

/-- A flow between two calls, which was started or not. -/
def AtRest (pods : List Definition) (board : Board) : (started : Bool) → Flow κ → Prop
  | false, flow => Unstarted pods board flow
  | true, flow => Resting pods board flow

/-- A flow at rest stays so with another machine that keeps its board. -/
theorem AtRest.withMachine
    {started : Bool}
    {machine : Instance κ}
    (rest : AtRest pods board started flow)
    (keeps : Keeps pods board flow.machine → Keeps pods board machine)
    (id : machine.id = flow.machine.id)
    (status : machine.status = flow.machine.status) :
    AtRest pods board started { flow with machine } := by
  cases started with
  | false =>
    have unstarted : Unstarted pods board flow := rest
    exact ⟨unstarted.podsEq, unstarted.usable, keeps unstarted.keeps,
      status.trans unstarted.idle, unstarted.active, unstarted.quiet, unstarted.first⟩
  | true =>
    refine ⟨rest.quiet, ?_⟩
    rcases rest.stands with ⟨pod, question, asking⟩ | ended
    · have playing : Playing pods board { flow with machine } := {
        podsEq := asking.podsEq
        usable := asking.usable
        keeps := keeps asking.keeps
        running := status.trans asking.running
        bounded := asking.bounded
        sources := id ▸ asking.sources }
      exact .inl ⟨pod, question,
        asking.hearing playing rfl rfl id rfl asking.heard asking.trail⟩
    · exact .inr ⟨ended.podsEq, keeps ended.keeps, status.trans ended.done, ended.active,
        ended.complete⟩

theorem Resting.asking_of_running
    (rest : Resting pods board flow)
    (running : flow.machine.status = .running) :
    ∃ pod question, Asking pods board pod question [] flow := by
  rcases rest.stands with asking | ended
  · exact asking
  · simp [ended.done] at running

theorem Resting.keeps (rest : Resting pods board flow) : Keeps pods board flow.machine := by
  rcases rest.stands with ⟨pod, question, asking⟩ | ended
  · exact asking.keeps
  · exact ended.keeps

theorem Resting.begun (rest : Resting pods board flow) : flow.machine.status ≠ .idle := by
  rcases rest.stands with ⟨pod, question, asking⟩ | ended
  · simp [asking.running]
  · simp [ended.done]

theorem AtRest.quiet
    {started : Bool}
    (rest : AtRest pods board started flow) :
    flow.mailbox.queue = [] := by
  cases started with
  | false => exact Unstarted.quiet rest
  | true => exact Resting.quiet rest

theorem AtRest.keeps
    {started : Bool}
    (rest : AtRest pods board started flow) :
    Keeps pods board flow.machine := by
  cases started with
  | false => exact Unstarted.keeps rest
  | true => exact Resting.keeps rest

theorem AtRest.podsEq
    {started : Bool}
    (rest : AtRest pods board started flow) :
    flow.pods = pods := by
  cases started with
  | false => exact Unstarted.podsEq rest
  | true =>
    rcases Resting.stands rest with ⟨pod, question, asking⟩ | ended
    · exact asking.podsEq
    · exact ended.podsEq

theorem AtRest.asking_of_running
    {started : Bool}
    (rest : AtRest pods board started flow)
    (running : flow.machine.status = .running) :
    ∃ pod question, Asking pods board pod question [] flow := by
  cases started with
  | false => simp [Unstarted.idle rest] at running
  | true => exact Resting.asking_of_running rest running

theorem Resting.send
    {event : Event}
    {turn : Turn (Flow κ) κ Outcome}
    (rest : Resting pods board flow)
    (returned : Flow.send now event flow = some turn) :
    Resting pods (board.afterAll pods (movesOf (.send now event) flow)) turn.next := by
  by_cases running : flow.machine.status = .running
  · obtain ⟨pod, question, asking⟩ := rest.asking_of_running running
    by_cases kind : event.kind = startFreshEvent
    · rw [movesOf_restart kind running]
      exact (asking.restart kind returned).1
    · obtain ⟨saves, steps, moves, _, rests, _⟩ := asking.send rest.quiet kind returned
      rwa [movesOf_send fun both => kind both.1, moves]
  · obtain ⟨same, none⟩ := send_of_not_running running returned
    rwa [movesOf_send fun both => running both.2, none, same]

/-- A flow at rest is at rest after each action that returns, with its board moved. -/
theorem AtRest.perform
    {started : Bool}
    {action : Action κ}
    {next : Flow κ}
    (rest : AtRest pods board started flow)
    (returned : perform action flow = some next) :
    AtRest pods (board.afterAll pods (movesOf action flow)) (started || action.isStart) next := by
  cases action with
  | start now =>
    obtain ⟨turn, startReturned, rfl⟩ := Option.map_eq_some_iff.1 returned
    rw [Action.isStart, Bool.or_true]
    cases started with
    | false =>
      have unstarted : Unstarted pods board flow := rest
      rw [movesOf_start unstarted.idle]
      exact (unstarted.start startReturned).1
    | true =>
      have begun := Resting.begun rest
      rw [start_of_begun begun] at startReturned
      cases startReturned
      rwa [movesOf_start_of_begun begun]
  | send now event =>
    obtain ⟨turn, sendReturned, rfl⟩ := Option.map_eq_some_iff.1 returned
    rw [Action.isStart, Bool.or_false]
    cases started with
    | false =>
      have unstarted : Unstarted pods board flow := rest
      have stopped : flow.machine.status ≠ .running := by simp [unstarted.idle]
      obtain ⟨same, none⟩ := send_of_not_running stopped sendReturned
      rwa [movesOf_send fun both => stopped both.2, none, same]
    | true => exact Resting.send rest sendReturned
  | subscribe outlet =>
    cases returned
    rw [Action.isStart, Bool.or_false]
    exact rest.withMachine (fun keeps => keeps.subscribe outlet) rfl rfl
  | unsubscribe subscription =>
    cases returned
    rw [Action.isStart, Bool.or_false]
    exact rest.withMachine (fun keeps => keeps.unsubscribe subscription) rfl rfl

/-- A flow at rest is at rest after every run, with its board moved. -/
theorem AtRest.run
    {started : Bool}
    {actions : List (Action κ)}
    {last : Flow κ}
    (rest : AtRest pods board started flow)
    (returned : Flow.run actions flow = some last) :
    AtRest pods (board.afterAll pods (runMoves actions flow))
      (started || actions.any Action.isStart) last := by
  induction actions generalizing board started flow with
  | nil =>
    cases returned
    simpa [runMoves] using rest
  | cons action actions ih =>
    obtain ⟨next, performed, later⟩ := Option.bind_eq_some_iff.1 returned
    have moved := ih (rest.perform performed) later
    simpa [runMoves, performed, Bool.or_assoc] using moved

/-- A flow that was built is at rest after every run. -/
theorem atRest_of_run
    {id : InstanceId}
    {answers : Fields}
    {actions : List (Action κ)}
    {last : Flow κ}
    (created : Flow.create id pods answers = .ok flow)
    (returned : Flow.run actions flow = some last) :
    AtRest pods ((⟨0, answers, ∅⟩ : Board).afterAll pods (runMoves actions flow))
      (actions.any Action.isStart) last := by
  have rest : AtRest pods ⟨0, answers, ∅⟩ false flow := unstarted_of_create created
  simpa using rest.run returned

/-! ## Runs that are known -/

/-- A run that was checked to return, with what was checked of the flow before and
after it. -/
theorem exists_run_of_check
    (id : InstanceId)
    (pods : List Definition)
    (seeds : Fields)
    (actions : List (Action κ))
    (test : Flow κ → Flow κ → Bool)
    (checked : (Flow.create id pods seeds).toOption.any
      (fun first => (run actions first).any (test first)) = true) :
    ∃ first last, Flow.create id pods seeds = .ok first ∧ run actions first = some last ∧
      test first last = true := by
  obtain ⟨first, built, reached⟩ := (Option.any_eq_true _ _).1 checked
  obtain ⟨last, returned, passed⟩ := (Option.any_eq_true _ _).1 reached
  exact ⟨first, last, toOption_eq_some_iff.1 built, returned, passed⟩

/-- A pod with one question, which is answered or left backwards. -/
def questionPod (question : String) : Definition where
  id := question
  initial := question
  states := .ofList [
    (question, {
      on := .ofList [
        (Pod.submit, ⟨some "completed", [Pod.saveAnswer]⟩),
        (Pod.goBack, ⟨some "quit", []⟩)] }),
    ("completed", {
      terminal := true
      output := some (.constant (.ofFields [("value", .str Pod.completeValue)])) }),
    ("quit", { terminal := true })]

/-- A pod without a question, which ends as soon as it is asked. -/
def instantPod (value : String) : Definition where
  id := value
  initial := value
  states := .ofList [
    (value, { terminal := true
              output := some (.constant (.ofFields [("value", .str value)])) })]

theorem hostId_bounded : 0 < 2 ^ 128 := by
  decide

/-- The identity that a host gives to its first flow. -/
def hostId : InstanceId :=
  .root ⟨0, hostId_bounded⟩

end Flow
end Questionnaire
