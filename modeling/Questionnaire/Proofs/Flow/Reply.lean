import Questionnaire.Proofs.Flow.Run
import Questionnaire.Proofs.Instance.Report

/-!
# How a flow replies to one event

When no pod ends as soon as it is asked, what a flow makes of an event can be read off
the transition that its pod takes.  The effects of the transition tell how often the
answer is recorded and whether the flow steps back; if they do not, the output of the pod
decides whether the flow steps at all, and where to.
-/

namespace Questionnaire

/-! ## The notices of a transition -/

namespace Pod

/-- The notification that an effect of a pod stands for. -/
def noticeOf (input : Effect.Input) (id : String) : Option Event :=
  if id = saveAnswer then some (answerNotice input)
  else if id = previousQuestion then some previousNotice
  else none

theorem notice_of_bound
    {id : String}
    {effect : Effect}
    (bound : bindings.bindings.get? id = some effect)
    (input : Effect.Input) :
    effect.notice? input = noticeOf input id := by
  simp only [bindings, EffectTable.assign, EffectTable.notify, EffectTable.bind,
    KeyMap.get?_insert, KeyMap.get?_empty] at bound
  split at bound
  · rename_i isUpdate
    subst isUpdate
    cases bound
    rfl
  · split at bound
    · rename_i isPrevious
      subst isPrevious
      cases bound
      rfl
    · split at bound
      · rename_i isSave
        subst isSave
        cases bound
        rfl
      · simp at bound

/-- The notices of a transition are those of its effects, in their order. -/
theorem notices_of_resolved
    {machine : String}
    {declared : Transition}
    {transition : ResolvedTransition}
    (resolved : Definition.resolveTransition bindings machine declared = .ok transition)
    (input : Effect.Input) :
    transition.notices input = declared.effects.filterMap (noticeOf input) := by
  have related := (Definition.resolveTransition_eq_ok_iff.1 resolved).2
  rw [transition.notices_eq input]
  generalize declared.effects = ids at related
  generalize transition.effects = entries at related
  induction related with
  | nil => rfl
  | cons step _ ih =>
    rw [List.filterMap_cons, List.filterMap_cons, ih, notice_of_bound step.2]

theorem get?_answerNotice (input : Effect.Input) :
    (answerNotice input).get? answerKey =
      some ((input.event.get? answerKey).getD (.str input.event.kind)) := by
  simp [answerNotice, Event.get?, Event.withField]

/-- What a pod sends on a transition: the notices of its effects and then its output. -/
def signalsOf (input : Effect.Input) (effects : List String) (output? : Option Json) :
    List Signal :=
  (effects.filterMap (noticeOf input)).map .notify ++ output?.toList.map .done

section Signals

variable {input : Effect.Input} {effects : List String} {output? : Option Json}

theorem signalsOf_saveAnswer :
    signalsOf input (saveAnswer :: effects) output? =
      .notify (answerNotice input) :: signalsOf input effects output? := rfl

theorem signalsOf_previousQuestion :
    signalsOf input (previousQuestion :: effects) output? =
      .notify previousNotice :: signalsOf input effects output? := rfl

theorem signalsOf_other
    {id : String}
    (notSave : id ≠ saveAnswer)
    (notPrevious : id ≠ previousQuestion) :
    signalsOf input (id :: effects) output? = signalsOf input effects output? := by
  simp [signalsOf, noticeOf, notSave, notPrevious]

/-- A transition that the pod does not declare is none, and the pod ignores the event. -/
theorem Asked.dispatch_of_undeclared
    {pod : Definition}
    {question : Instance Unit}
    {event : Event}
    (asked : Asked pod question)
    (running : question.status = .running)
    (undeclared : pod.transition? question.current event.kind = none)
    (now : Timestamp) :
    question.dispatch now event = ⟨question, .ok .ignored, []⟩ := by
  apply asked.sound.dispatch_of_undeclared running
  rw [asked.definition]
  exact undeclared

/-- On a transition that the pod declares it sends the notices of its effects, and then
the output with which it answers the event, if it ends. -/
theorem Asked.dispatch_of_declared
    {pod : Definition}
    {question : Instance Unit}
    {event : Event}
    {transition : Transition}
    (asked : Asked pod question)
    (running : question.status = .running)
    (declared : pod.transition? question.current event.kind = some transition)
    (now : Timestamp) :
    let turn := question.dispatch now event
    (∃ outcome, turn.result = .ok outcome ∧ outcome.output? = turn.next.output) ∧
      turn.sent = deliveries question
        (signalsOf (question.input event) transition.effects turn.next.output) := by
  have related := asked.sound.transition? event.kind
  rw [asked.definition, declared] at related
  generalize found : question.transition? event.kind = transition? at related
  cases related with
  | @some _ resolved resolution =>
    have silent := asked.sound.silent_of_running running
    obtain ⟨still, sameId, _⟩ := asked.follow running found now
    have followed : question.dispatch now event = question.follow now event resolved :=
      Instance.dispatch_eq_follow running found
    intro turn
    rw [show turn = question.follow now event resolved from followed]
    refine ⟨Instance.result_follow silent now event, ?_⟩
    rw [Instance.sent_follow silent, asked.notified, notices_of_resolved resolution]
    generalize (question.follow now event resolved).next = next at still sameId
    have envelope (signal : Signal) : next.envelope signal = question.envelope signal := by
      rw [Instance.envelope, Instance.envelope, sameId, still.definition, asked.definition]
    have farewell : next.farewell = deliveries question (next.output.toList.map .done) := by
      cases output : next.output <;>
        simp [Instance.farewell, output, still.emit, deliveries, envelope]
    rw [farewell, signalsOf, deliveries, deliveries, deliveries, List.map_append]

end Signals

end Pod

namespace Flow

/-! ## Replies -/

/-- What a flow makes of an event: how often it records the answer, and its step. -/
structure Reply where
  saves : Nat
  step : Option Pod.Ending
  deriving DecidableEq

namespace Reply

/-- The reply of a flow to a transition of the pod at `progress` with the given effects,
which ends the pod or does not.  A pod that goes on at the first question has nowhere to
step back to.  Otherwise the first request to step back settles the matter, and without
one the ending does. -/
def of (progress : Nat) (effects : List String) (ending : Option Pod.Ending) : Reply :=
  if progress = 0 ∧ ending = none then
    ⟨effects.count Pod.saveAnswer, none⟩
  else if Pod.previousQuestion ∈ effects then
    ⟨(effects.takeWhile (· ≠ Pod.previousQuestion)).count Pod.saveAnswer, some .retreat⟩
  else
    ⟨effects.count Pod.saveAnswer, ending⟩

/-- The moves of a reply that answers `name`. -/
def moves (reply : Reply) (name : String) (answer : Json) : List Move :=
  List.replicate reply.saves (.save name answer) ++ reply.step.toList.map Move.ofEnding

theorem moves_succ (name : String) (answer : Json) (saves : Nat) (step : Option Pod.Ending) :
    moves ⟨saves + 1, step⟩ name answer =
      .save name answer :: moves ⟨saves, step⟩ name answer := rfl

section Effects

variable {progress : Nat} {effects : List String} {ending : Option Pod.Ending}

theorem of_nil (progress : Nat) (ending : Option Pod.Ending) :
    of progress [] ending = ⟨0, ending⟩ := by
  unfold of
  split
  · rename_i stays
    rw [stays.2]
    rfl
  · rfl

/-- An effect that reports an answer adds one to the answers that are recorded. -/
theorem of_saveAnswer :
    of progress (Pod.saveAnswer :: effects) ending =
      ⟨(of progress effects ending).saves + 1, (of progress effects ending).step⟩ := by
  have different : Pod.previousQuestion ≠ Pod.saveAnswer := by decide
  unfold of
  split
  · simp
  · simp only [List.mem_cons, different, false_or]
    split
    · simp [different.symm]
    · simp

/-- An effect that is neither an answer nor a request to step back adds nothing. -/
theorem of_other
    {id : String}
    (notSave : id ≠ Pod.saveAnswer)
    (notPrevious : id ≠ Pod.previousQuestion) :
    of progress (id :: effects) ending = of progress effects ending := by
  unfold of
  simp [List.count_cons_of_ne notSave, notPrevious, notPrevious.symm]

/-- A request to step back is ignored while the first pod goes on. -/
theorem of_previousQuestion_first :
    of 0 (Pod.previousQuestion :: effects) none = of 0 effects none := by
  have different : Pod.previousQuestion ≠ Pod.saveAnswer := by decide
  simp [of, List.count_cons_of_ne different]

/-- A request to step back is granted in any other case, and ends the reply. -/
theorem of_previousQuestion (proper : ¬(progress = 0 ∧ ending = none)) :
    of progress (Pod.previousQuestion :: effects) ending = ⟨0, some .retreat⟩ := by
  simp [of, proper]

end Effects
end Reply

variable {κ : Type} {pods : List Definition} {board : Board} {pod : Definition}
  {question : Instance Unit} {flow : Flow κ} {now : Timestamp}

/-! ## Signals that are still in the mailbox -/

/-- Envelopes of pods that were replaced are dropped one after the other. -/
theorem pump_of_stale
    {fuel : Nat}
    (stale : ∀ envelope ∈ flow.mailbox.queue, flow.active.isCurrent envelope.source = false)
    (enough : flow.mailbox.queue.length < fuel)
    (now : Timestamp) :
    pump now fuel flow = some ⟨{ flow with mailbox := {} }, .ok (), []⟩ := by
  generalize queueEq : flow.mailbox.queue = queue at stale enough
  induction queue generalizing flow fuel with
  | nil =>
    obtain ⟨fuel, rfl⟩ := Nat.exists_eq_succ_of_ne_zero (Nat.ne_zero_of_lt enough)
    have same : { flow with mailbox := {} } = flow := by rw [← queueEq]
    rw [same]
    exact pump_of_quiet queueEq fuel
  | cons envelope rest ih =>
    obtain ⟨fuel, rfl⟩ := Nat.exists_eq_succ_of_ne_zero (Nat.ne_zero_of_lt enough)
    have dropped := stale envelope List.mem_cons_self
    have handled := (handle_of_dropped { flow with mailbox := ⟨rest⟩ } envelope
      (by simp [dropped]) now).1
    have opened : ({ flow with mailbox := ⟨rest⟩ } : Flow κ).mailbox.queue = rest := rfl
    have later := ih opened (fun other member => stale other (List.mem_cons_of_mem _ member))
      (Nat.lt_of_succ_lt_succ enough)
    rw [Nat.succ_eq_add_one, pump_cons flow queueEq handled, later]
    rfl

/-- A flow has left its pod and keeps `board`: it asks the pod at its progress afresh, or
has run out of pods. -/
structure MovesOn
    (pods : List Definition)
    (board : Board)
    (before after : Flow κ) : Prop where
  quiet : after.mailbox.queue = []
  context : after.machine.context = board.context
  asks : ∀ pod, pods[after.progress]? = some pod →
    after.machine.status = .running ∧
      after.question? = some (Pod.freshlyAsked before.nextId pod)
  ends : pods[after.progress]? = none →
    after.isDone = true ∧ after.question? = none ∧ after.output = some (.object after.answers)

/-- A flow goes on asking its pod, which is `question` now; else only the board is new. -/
def GoesOn (board : Board) (question : Instance Unit) (before after : Flow κ) : Prop :=
  after =
    { before with
      machine := { before.machine with context := board.context }
      active := ⟨some ⟨question, ⟨0⟩⟩⟩
      mailbox := {} }

/-- The identities that are current after a step are new. -/
theorem isCurrent_stepped
    {kind : String}
    {id : InstanceId}
    (current : (flow.stepped now kind board).active.isCurrent id = true) :
    id = flow.nextId := by
  have fresh (pod : Definition) (other : Flow κ)
      (current : (other.asking pod).active.isCurrent id = true) : id = other.nextId := by
    have same : (Pod.freshlyAsked other.nextId pod).id = id := by
      simpa [asking, ChildSlot.isCurrent, ChildSlot.child?, Child.id] using current
    rw [← same, Pod.id_freshlyAsked]
  unfold stepped entered at current
  split at current
  · exact fresh _ _ current
  · simp [ending, ChildSlot.empty, ChildSlot.isCurrent, ChildSlot.child?] at current

/-- Pods that ask a question say nothing when they are asked, so a step leaves the mailbox
as it is. -/
theorem queue_stepped
    (opens : ∀ pod ∈ flow.pods, pod.isTerminal pod.initial = false)
    (now : Timestamp)
    (kind : String)
    (board : Board) :
    (flow.stepped now kind board).mailbox.queue = flow.mailbox.queue := by
  unfold stepped entered
  split
  · rename_i pod found
    have silent : Pod.openingSignals pod = [] := by
      simp [Pod.openingSignals, opens pod (List.mem_of_getElem? found)]
    simp [asking, silent, Pod.deliveries, Mailbox.deliver, Mailbox.receive]
  · rfl

/-- After a step nothing more is heard of the pod that was left. -/
theorem Playing.pump_stepped
    {kind : String}
    {fuel : Nat}
    {next : Board}
    (playing : Playing pods board flow)
    (opens : ∀ pod ∈ pods, pod.isTerminal pod.initial = false)
    (entered : Entered pods next (flow.stepped now kind next))
    (enough : flow.mailbox.queue.length < fuel) :
    ∃ turn, pump now fuel (flow.stepped now kind next) = some turn ∧ turn.result = .ok () ∧
      MovesOn pods next flow turn.next := by
  have queue := queue_stepped (playing.podsEq ▸ opens) now kind next
  have stale (envelope : Envelope)
      (member : envelope ∈ (flow.stepped now kind next).mailbox.queue) :
      (flow.stepped now kind next).active.isCurrent envelope.source = false := by
    rw [queue] at member
    apply eq_false_of_ne_true
    intro current
    exact playing.source_ne_nextId member (isCurrent_stepped current)
  refine ⟨_, pump_of_stale stale (queue ▸ enough) now, rfl, ?_⟩
  rcases entered with ⟨id, pod, asking⟩ | ended
  · have progress := asking.keeps.progress_eq
    have current : (flow.stepped now kind next).active.isCurrent id = true :=
      (asking.isCurrent_iff id).2 (Pod.id_freshlyAsked id pod).symm
    rw [isCurrent_stepped current] at asking
    constructor
    · rfl
    · exact asking.keeps.context
    · intro other found
      have same : pods[next.progress]? = some other := progress ▸ found
      rw [asking.found] at same
      cases same
      refine ⟨asking.running, ?_⟩
      show (flow.stepped now kind next).active.child? = _
      rw [asking.active]
      rfl
    · intro missing
      have same : pods[next.progress]? = none := progress ▸ missing
      simp [asking.found] at same
  · have progress := ended.keeps.progress_eq
    constructor
    · rfl
    · exact ended.keeps.context
    · intro other found
      have same : pods[next.progress]? = some other := progress ▸ found
      simp [ended.complete] at same
    · intro _
      refine ⟨by simp [isDone, Instance.isDone, ended.done], ?_, ?_⟩
      · show (flow.stepped now kind next).active.child? = _
        rw [ended.active]
        rfl
      · have output := ended.keeps.output_of_done ended.done
        rw [← ended.keeps.answers_eq] at output
        exact output

/-! ## Carrying out a reply -/

/-- A flow that kept `board` and asked `question` has carried out a reply with which
`name` is answered. -/
def CarriesOut
    (pods : List Definition)
    (board : Board)
    (question : Instance Unit)
    (name : String)
    (answer : Json)
    (reply : Reply)
    (before after : Flow κ) : Prop :=
  let later := board.afterAll pods (reply.moves name answer)
  match reply.step with
  | none => GoesOn later question before after
  | some _ => MovesOn pods later before after

section Carrying

variable {name : String} {answer : Json} {fuel : Nat}

/-- What the slot and the mailbox hold before a reply is carried out does not matter after
it. -/
theorem CarriesOut.of_opened
    {reply : Reply}
    {active : ChildSlot Instance Unit}
    {mailbox : Mailbox}
    {after : Flow κ}
    (later : CarriesOut pods board question name answer reply
      { flow with active, mailbox } after) :
    CarriesOut pods board question name answer reply flow after := by
  obtain ⟨saves, step⟩ := reply
  cases step with
  | none => exact later
  | some step => exact ⟨later.quiet, later.context, later.asks, later.ends⟩

/-- Recording an answer first is to carry out a reply with one answer more. -/
theorem CarriesOut.cons_save
    {reply : Reply}
    {after : Flow κ}
    (later :
      let context := (board.after pods (.save name answer)).context
      CarriesOut pods (board.after pods (.save name answer)) question name answer reply
        { flow with machine := { flow.machine with context } } after) :
    CarriesOut pods board question name answer ⟨reply.saves + 1, reply.step⟩ flow after := by
  obtain ⟨saves, step⟩ := reply
  unfold CarriesOut at later ⊢
  rw [Reply.moves_succ, Board.afterAll_cons]
  cases step with
  | none => exact later
  | some step => exact ⟨later.quiet, later.context, later.asks, later.ends⟩

/-- A flow with nothing in its mailbox has nothing to carry out. -/
theorem Playing.carriesOut_nothing
    (playing : Playing pods board flow)
    (active : flow.active = ⟨some ⟨question, ⟨0⟩⟩⟩)
    (quiet : flow.mailbox.queue = []) :
    CarriesOut pods board question name answer ⟨0, none⟩ flow flow := by
  have empty : flow.mailbox = {} := congrArg Mailbox.mk quiet
  show flow =
    { flow with
      machine := { flow.machine with context := board.context }
      active := ⟨some ⟨question, ⟨0⟩⟩⟩
      mailbox := {} }
  rw [← playing.keeps.context, ← active, ← empty]

theorem exists_less_of_queue
    {envelope : Envelope}
    {rest : List Envelope}
    (queue : flow.mailbox.queue = envelope :: rest)
    (enough : flow.mailbox.queue.length ≤ fuel) :
    ∃ less, fuel = less + 1 ∧ rest.length ≤ less := by
  rw [queue] at enough
  cases fuel with
  | zero => simp at enough
  | succ less => exact ⟨less, rfl, Nat.le_of_succ_le_succ enough⟩

/-- Once its pod tells it to step, a flow leaves that pod and drops what else it said. -/
theorem Playing.pump_step
    {envelope : Envelope}
    {rest : List Envelope}
    {step : Pod.Ending}
    (playing : Playing pods board flow)
    (inside : board.progress < pods.length)
    (opens : ∀ pod ∈ pods, pod.isTerminal pod.initial = false)
    (queue : flow.mailbox.queue = envelope :: rest)
    (current : flow.active.isCurrent envelope.source = true)
    (proper : flow.retreatsBeforeFirst (eventOf envelope.signal) = false)
    (told : eventOf envelope.signal = .ofKind (stepEvent step))
    (enough : flow.mailbox.queue.length ≤ fuel)
    (now : Timestamp) :
    ∃ turn, pump now (fuel + 1) flow = some turn ∧ turn.result = .ok () ∧
      CarriesOut pods board question name answer ⟨0, some step⟩ flow turn.next := by
  have opened := playing.opened queue
  obtain ⟨less, rfl, fewer⟩ := exists_less_of_queue queue enough
  obtain ⟨⟨sent, handled⟩, _, entered⟩ := opened.handle_step inside current proper told now
  obtain ⟨turn, pumped, fine, moves⟩ := opened.pump_stepped opens entered (Nat.lt_succ_of_le fewer)
  rw [pump_cons flow queue handled, pumped]
  exact ⟨_, rfl, fine, moves.quiet, moves.context, moves.asks, moves.ends⟩

/-- A flow works off what its pod sent on a transition by carrying out its reply to the
transition. -/
theorem Playing.pump_carriesOut
    {input : Effect.Input}
    {effects : List String}
    (playing : Playing pods board flow)
    (inside : board.progress < pods.length)
    (opens : ∀ pod ∈ pods, pod.isTerminal pod.initial = false)
    (active : flow.active = ⟨some ⟨question, ⟨0⟩⟩⟩)
    (ended : question.isDone = question.output.isSome)
    (named : (Pod.answerNotice input).text? Pod.questionKey = some name)
    (valued : (Pod.answerNotice input).get? Pod.answerKey = some answer)
    (queue : flow.mailbox.queue =
      (Pod.signalsOf input effects question.output).map question.envelope)
    (enough : flow.mailbox.queue.length ≤ fuel)
    (now : Timestamp) :
    ∃ turn, pump now (fuel + 1) flow = some turn ∧ turn.result = .ok () ∧
      CarriesOut pods board question name answer
        (.of board.progress effects (question.output.map Pod.Ending.ofOutput)) flow turn.next := by
  have current {now : Flow κ} (same : now.active = ⟨some ⟨question, ⟨0⟩⟩⟩) (signal : Signal) :
      now.active.isCurrent (question.envelope signal).source = true := by
    simp [same, ChildSlot.isCurrent, ChildSlot.child?, Instance.envelope, Child.id]
  have isAsking {now : Flow κ} (same : now.active = ⟨some ⟨question, ⟨0⟩⟩⟩) :
      now.isAsking = !question.output.isSome := by
    simp [Flow.isAsking, question?, same, ChildSlot.child?, ended]
  -- The effects still to be heard are the queue; recording an answer changes nothing else.
  induction effects generalizing flow board fuel with
  | nil =>
    rw [Reply.of_nil]
    cases output : question.output with
    | none =>
      rw [output] at queue
      exact ⟨_, pump_of_quiet queue fuel, rfl, playing.carriesOut_nothing active queue⟩
    | some value =>
      rw [output] at queue
      have proper : flow.retreatsBeforeFirst (eventOf (.done value)) = false := by
        simp [retreatsBeforeFirst, isAsking active, output]
      exact playing.pump_step inside opens queue (current active _) proper (eventOf_done value)
        enough now
  | cons id effects ih =>
    by_cases isSave : id = Pod.saveAnswer
    · subst isSave
      rw [Pod.signalsOf_saveAnswer, List.map_cons] at queue
      obtain ⟨less, rfl, fewer⟩ := exists_less_of_queue queue enough
      obtain ⟨handled, _, saved⟩ :=
        (playing.opened queue).handle_save (current active _) rfl rfl named now
      rw [valued] at handled saved
      obtain ⟨turn, pumped, fine, later⟩ := ih saved inside active rfl fewer
      rw [pump_cons flow queue handled, pumped, Reply.of_saveAnswer]
      exact ⟨_, rfl, fine, later.cons_save.of_opened⟩
    · by_cases isPrevious : id = Pod.previousQuestion
      · subst isPrevious
        rw [Pod.signalsOf_previousQuestion, List.map_cons] at queue
        have early : flow.retreatsBeforeFirst (eventOf (.notify Pod.previousNotice)) = true ↔
            board.progress = 0 ∧ question.output.map Pod.Ending.ofOutput = none := by
          rw [retreatsBeforeFirst, isAsking active, playing.keeps.progress_eq]
          simp [eventOf, Pod.previousNotice, Event.ofKind, previousEvent]
        -- A request that has nowhere to step back to is dropped, and the rest still counts.
        by_cases stays : board.progress = 0 ∧ question.output.map Pod.Ending.ofOutput = none
        · obtain ⟨less, rfl, fewer⟩ := exists_less_of_queue queue enough
          let opened : Flow κ := { flow with
            mailbox := ⟨(Pod.signalsOf input effects question.output).map question.envelope⟩ }
          have handled := (handle_of_dropped opened
            (question.envelope (.notify Pod.previousNotice))
            ((Bool.or_eq_true_iff ..).2 (.inr (early.2 stays))) now).1
          obtain ⟨turn, pumped, fine, later⟩ := ih (playing.opened queue) inside active rfl fewer
          rw [pump_cons flow queue handled, pumped, stays.1, stays.2,
            Reply.of_previousQuestion_first]
          rw [stays.1, stays.2] at later
          exact ⟨_, rfl, fine, later.of_opened⟩
        · have proper := eq_false_of_ne_true (mt early.1 stays)
          rw [Reply.of_previousQuestion stays]
          exact playing.pump_step inside opens queue (current active _) proper rfl enough now
      · rw [Pod.signalsOf_other isSave isPrevious] at queue
        rw [Reply.of_other isSave isPrevious]
        exact ih playing inside active queue enough

end Carrying

/-! ## One event -/

/-- What a pod reports as the answer if it takes an event as one. -/
def answeredValue (event : Event) : Json :=
  (event.get? Pod.answerKey).getD (.str event.kind)

section Sending

variable {event : Event} {called next : Flow κ} {outcome : Outcome}
  {first later : List (Delivery κ)}

/-- An event is answered before the mailbox is emptied. -/
theorem send_of_settled
    (delivered : delivering now event flow = some ⟨called, .ok outcome, first⟩)
    (settled : settle now called = some ⟨next, .ok (), later⟩) :
    Flow.send now event flow = some ⟨next, .ok outcome, first ++ later⟩ := by
  rw [send_eq, Call.bind_apply, delivered]
  simp only [Call.bind_apply, settled, Call.pure_apply, Option.map_some, List.append_nil]

/-- An event that the pod has no transition for changes nothing. -/
theorem Asking.send_of_undeclared
    (asking : Asking pods board pod question [] flow)
    (quiet : flow.mailbox.queue = [])
    (kind : event.kind ≠ startFreshEvent)
    (undeclared : pod.transition? question.current event.kind = none)
    (now : Timestamp) :
    Flow.send now event flow = some ⟨flow, .ok .ignored, []⟩ := by
  have ignored := asking.asked.dispatch_of_undeclared asking.question_running undeclared now
  have same : flow.given ⟨question, .ok .ignored, []⟩ = flow := by
    rw [Flow.given, ← asking.active]
    simp [Mailbox.deliver, Mailbox.receive]
  have delivered := asking.delivering_eq kind now
  rw [ignored, same] at delivered
  apply send_of_settled delivered
  rw [settle_eq_pump]
  exact pump_of_quiet quiet _

/-- On an event that the pod declares a transition for, the flow answers what the pod
answers, and carries out its reply to the transition. -/
theorem Asking.send_of_declared
    {transition : Transition}
    (asking : Asking pods board pod question [] flow)
    (quiet : flow.mailbox.queue = [])
    (opens : ∀ pod ∈ pods, pod.isTerminal pod.initial = false)
    (kind : event.kind ≠ startFreshEvent)
    (declared : pod.transition? question.current event.kind = some transition)
    (now : Timestamp) :
    ∃ outcome turn, (question.dispatch now event).result = .ok outcome ∧
      Flow.send now event flow = some turn ∧ turn.result = .ok outcome ∧
      CarriesOut pods board (question.dispatch now event).next
        (answeredName event question) (answeredValue event)
        (.of board.progress transition.effects (outcome.output?.map Pod.Ending.ofOutput))
        flow turn.next := by
  obtain ⟨⟨outcome, fine, told⟩, sent⟩ :=
    asking.asked.dispatch_of_declared asking.question_running declared now
  have given := asking.delivering_eq kind now
  obtain ⟨_, _, heard, _⟩ := asking.given quiet now event
  have sound := asking.asked.sound.dispatch now event
  have inside := (List.getElem?_eq_some_iff.1 asking.found).1
  have queue : (flow.given (question.dispatch now event)).mailbox.queue =
      (Pod.signalsOf (question.input event) transition.effects
        (question.dispatch now event).next.output).map
        (question.dispatch now event).next.envelope := by
    have envelope (signal : Signal) :
        (question.dispatch now event).next.envelope signal = question.envelope signal := by
      rw [Instance.envelope, Instance.envelope, question.id_dispatch,
        question.definition_dispatch]
    rw [Flow.given, Mailbox.deliver, Mailbox.receive, quiet, sent]
    simp [Pod.deliveries, envelope]
  obtain ⟨⟨next, _, more⟩, pumped, rfl, carried⟩ := heard.pump_carriesOut inside opens rfl
    sound.isDone_eq (Pod.text?_answerNotice _) (Pod.get?_answerNotice _) queue
    (Nat.le_add_right _ (flow.pods.length + 1)) now
  rw [fine] at given
  rw [← told] at carried
  have settled : Flow.settle now (flow.given (question.dispatch now event)) =
      some ⟨next, .ok (), more⟩ := by
    rw [settle_eq_pump]
    exact pumped
  exact ⟨outcome, _, fine, send_of_settled given settled, rfl, carried.of_opened⟩

end Sending

/-- A question after which the pod asks to step back in between two reports of the
answer, and is completed. -/
def hastyPod : Definition where
  id := "mood"
  initial := "mood"
  states := .ofList [
    ("mood", {
      on := .ofList [(Pod.submit,
        ⟨some "completed", [Pod.saveAnswer, Pod.previousQuestion, Pod.saveAnswer]⟩)] }),
    ("completed", {
      terminal := true
      output := some (.constant (.ofFields [("value", .str Pod.completeValue)])) })]

end Flow
end Questionnaire
