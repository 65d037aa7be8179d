import Questionnaire.Flow.Basic
import Questionnaire.Proofs.Flow.Machine
import Questionnaire.Proofs.Flow.Question

/-!
# Working through the mailbox of a flow

While a flow works through its mailbox, its machine keeps a board, and it is either
asking the pod at the progress or has ended.  Each envelope is dropped, or is a move on
the board; the only moves of the flow that leave the pod it asks are those that
navigate, and what it was still to hear of that pod is then dropped.
-/

namespace Questionnaire
namespace Flow

variable {κ : Type} {pods : List Definition} {board : Board} {pod : Definition}
  {question : Instance Unit} {pending : List Signal} {flow : Flow κ}

/-! ## Calls on the parts -/

/-- The identity of the pod that is spawned next. -/
def nextId (flow : Flow κ) : InstanceId :=
  .child flow.machine.id flow.spawned

/-- The flow with a pod in its slot that has just been asked. -/
def asking (pod : Definition) (flow : Flow κ) : Flow κ :=
  { flow with
    active := ⟨some ⟨Pod.freshlyAsked flow.nextId pod, ⟨0⟩⟩⟩
    mailbox := flow.mailbox.deliver
      (Pod.deliveries (Pod.freshlyAsked flow.nextId pod) (Pod.openingSignals pod))
    spawned := flow.spawned + 1 }

/-- The flow once its machine was told that the pods have run out. -/
def ending (now : Timestamp) (flow : Flow κ) : Flow κ :=
  { flow with machine := completing now flow.machine, active := .empty }

theorem install_unasked
    (pod : Definition)
    (id : InstanceId)
    (slot : ChildSlot Instance Unit)
    (now : Timestamp) :
    ChildSlot.install now (Pod.unasked id pod) () slot =
      some ⟨⟨some ⟨Pod.freshlyAsked id pod, ⟨0⟩⟩⟩, .ok id,
        Pod.deliveries (Pod.freshlyAsked id pod) (Pod.openingSignals pod)⟩ := by
  have started : Child.start now (Child.subscribe () (Pod.unasked id pod)).2 =
      some ⟨Pod.freshlyAsked id pod, .ok (),
        Pod.deliveries (Pod.freshlyAsked id pod) (Pod.openingSignals pod)⟩ :=
    congrArg some (Pod.start_unasked id pod)
  unfold ChildSlot.install ChildSlot.calling
  simp only [started, Option.map_some]
  rfl

/-- Entering `playing` with a pod at the progress asks it. -/
theorem enterPlaying_eq_asking
    (usable : Pod.Usable pod)
    (found : flow.pods[flow.progress]? = some pod)
    (now : Timestamp) :
    enterPlaying now flow = some ⟨flow.asking pod, .ok (), []⟩ := by
  have built := usable.create flow.nextId
  have installed := install_unasked pod flow.nextId .empty now
  have dropped : (flow.active.clear.2 : ChildSlot Instance Unit) = .empty := rfl
  have seen : ({ flow with active := .empty } : Flow κ).progress = flow.progress := rfl
  unfold enterPlaying dropActive spawn onActive
  simp only [Call.bind_apply, Call.change_apply, Call.present_apply, dropped, seen, found]
  rw [show (InstanceId.child flow.machine.id flow.spawned) = flow.nextId from rfl, built]
  simp only [Call.bind_apply, Call.change_apply, Call.within, installed]
  rfl

/-- Entering `playing` without a pod at the progress ends the flow. -/
theorem enterPlaying_eq_ending
    (keeps : Keeps pods board flow.machine)
    (running : flow.machine.status = .running)
    (missing : flow.pods[flow.progress]? = none)
    (now : Timestamp) :
    enterPlaying now flow = some ⟨flow.ending now, .ok (),
      flow.machine.emit (.done (.object board.answers))⟩ := by
  have dropped : (flow.active.clear.2 : ChildSlot Instance Unit) = .empty := rfl
  have seen : ({ flow with active := .empty } : Flow κ).progress = flow.progress := rfl
  have told := keeps.dispatch_done running now
  unfold enterPlaying dropActive onMachine
  simp only [Call.bind_apply, Call.change_apply, Call.present_apply, dropped, seen, missing]
  simp only [Call.within, told]
  simp [ending, ChildSlot.clear]

/-! ## Observations -/

theorem Keeps.progress_eq (keeps : Keeps pods board flow.machine) :
    flow.progress = board.progress := by
  rw [progress, keeps.context, Board.progressOf_context]

theorem Keeps.answers_eq (keeps : Keeps pods board flow.machine) :
    flow.answers = board.answers := by
  rw [answers, keeps.context, Board.answers_context]

theorem Keeps.owners_eq (keeps : Keeps pods board flow.machine) :
    flow.owners = board.ownerFields := by
  rw [owners, keeps.context, Board.owners_context]

/-! ## Where a flow stands -/

/-- A flow over usable pods whose machine is `playing`. -/
structure Playing (pods : List Definition) (board : Board) (flow : Flow κ) : Prop where
  podsEq : flow.pods = pods
  usable : ∀ pod ∈ pods, Pod.Usable pod
  keeps : Keeps pods board flow.machine
  running : flow.machine.status = .running
  bounded : board.progress ≤ pods.length
  sources : ∀ envelope ∈ flow.mailbox.queue,
    ∃ number < flow.spawned, envelope.source = .child flow.machine.id number

/-- A flow asks the pod at the progress, of which `pending` is still to be heard. -/
structure Asking
    (pods : List Definition)
    (board : Board)
    (pod : Definition)
    (question : Instance Unit)
    (pending : List Signal)
    (flow : Flow κ) : Prop
    extends Playing pods board flow where
  active : flow.active = ⟨some ⟨question, ⟨0⟩⟩⟩
  found : pods[board.progress]? = some pod
  asked : Pod.Asked pod question
  latest : ∃ number, question.id = .child flow.machine.id number ∧ number + 1 = flow.spawned
  heard : (flow.mailbox.queue.filter (·.source = question.id)).map Envelope.signal = pending
  trail : Pod.Trail question.isDone pending

/-- A flow has run out of pods. -/
structure Ended (pods : List Definition) (board : Board) (flow : Flow κ) : Prop where
  podsEq : flow.pods = pods
  keeps : Keeps pods board flow.machine
  done : flow.machine.status = .done
  active : flow.active = .empty
  complete : board.progress = pods.length

/-- A flow has just entered `playing`, and asks a fresh pod or has run out of them. -/
def Entered (pods : List Definition) (board : Board) (flow : Flow κ) : Prop :=
  (∃ id pod, Asking pods board pod (Pod.freshlyAsked id pod) (Pod.openingSignals pod) flow) ∨
    Ended pods board flow

/-- The identity of the next pod is on no envelope yet. -/
theorem Playing.source_ne_nextId
    {envelope : Envelope}
    (playing : Playing pods board flow)
    (member : envelope ∈ flow.mailbox.queue) :
    envelope.source ≠ flow.nextId := by
  obtain ⟨number, fewer, source⟩ := playing.sources envelope member
  intro same
  rw [source] at same
  injection same with _ sameNumber
  omega

theorem Playing.filter_nextId (playing : Playing pods board flow) :
    flow.mailbox.queue.filter (·.source = flow.nextId) = [] := by
  rw [List.filter_eq_nil_iff]
  intro envelope member
  simpa using playing.source_ne_nextId member

theorem filter_deliveries (question : Instance Unit) (signals : List Signal) :
    (((Pod.deliveries question signals).map Delivery.envelope).filter
      (·.source = question.id)).map Envelope.signal = signals := by
  induction signals with
  | nil => rfl
  | cons signal rest ih =>
    simp only [Pod.deliveries, List.map_cons, List.map_map] at ih ⊢
    rw [List.filter_cons_of_pos (by simp [Instance.envelope]), List.map_cons, ih]
    rfl

theorem source_of_mem_deliveries
    {signals : List Signal}
    {envelope : Envelope}
    (member : envelope ∈ (Pod.deliveries question signals).map Delivery.envelope) :
    envelope.source = question.id := by
  simp only [Pod.deliveries, List.map_map, List.mem_map] at member
  obtain ⟨signal, _, rfl⟩ := member
  rfl

/-- A pod that has just been asked is heard of from its beginning. -/
theorem Playing.asking
    (playing : Playing pods board flow)
    (found : pods[board.progress]? = some pod) :
    Asking pods board pod (Pod.freshlyAsked flow.nextId pod) (Pod.openingSignals pod)
      (flow.asking pod) where
  podsEq := playing.podsEq
  usable := playing.usable
  keeps := playing.keeps
  running := playing.running
  bounded := playing.bounded
  sources := by
    intro envelope member
    rcases List.mem_append.1 member with before | fresh
    · obtain ⟨number, fewer, source⟩ := playing.sources envelope before
      exact ⟨number, Nat.lt_succ_of_lt fewer, source⟩
    · refine ⟨flow.spawned, Nat.lt_succ_self _, ?_⟩
      rw [source_of_mem_deliveries fresh, Pod.id_freshlyAsked]
      rfl
  active := rfl
  found := found
  asked := (playing.usable pod (List.mem_of_getElem? found)).asked _
  latest := ⟨flow.spawned, Pod.id_freshlyAsked _ _, rfl⟩
  heard := by
    have nothing := playing.filter_nextId
    show ((flow.mailbox.queue ++ _).filter _).map _ = _
    rw [List.filter_append, List.map_append, filter_deliveries, Pod.id_freshlyAsked, nothing]
    rfl
  trail := Pod.trail_openingSignals _ _

theorem Playing.ending
    (playing : Playing pods board flow)
    (missing : pods[board.progress]? = none)
    (now : Timestamp) :
    Ended pods board (flow.ending now) where
  podsEq := playing.podsEq
  keeps := playing.keeps.completing playing.running now
  done := rfl
  active := rfl
  complete := by
    have beyond := List.getElem?_eq_none_iff.1 missing
    have bounded := playing.bounded
    omega

/-- The flow once it entered `playing`: it asks the pod at the progress, or has run out of
pods. -/
def entered (now : Timestamp) (flow : Flow κ) : Flow κ :=
  match flow.pods[flow.progress]? with
  | some pod => flow.asking pod
  | none => flow.ending now

/-- Entering `playing` returns, and asks the pod at the progress or ends the flow. -/
theorem Playing.enterPlaying
    (playing : Playing pods board flow)
    (now : Timestamp) :
    (∃ sent, Flow.enterPlaying now flow = some ⟨flow.entered now, .ok (), sent⟩) ∧
      Entered pods board (flow.entered now) := by
  have same : flow.pods[flow.progress]? = pods[board.progress]? := by
    rw [playing.podsEq, playing.keeps.progress_eq]
  unfold entered
  cases found : pods[board.progress]? with
  | some pod =>
    have usable := playing.usable pod (List.mem_of_getElem? found)
    rw [same, found]
    exact ⟨⟨_, enterPlaying_eq_asking usable (same.trans found) now⟩,
      .inl ⟨_, pod, playing.asking found⟩⟩
  | none =>
    rw [same, found]
    exact ⟨⟨_, enterPlaying_eq_ending playing.keeps playing.running (same.trans found) now⟩,
      .inr (playing.ending found now)⟩

/-! ## Moves of a flow -/

theorem Board.progress_after_le
    (pods : List Definition)
    {bound : Nat}
    (inside : board.progress < bound)
    (move : Move) :
    (board.after pods move).progress ≤ bound := by
  cases move <;> simp only [Board.after] <;> omega

/-- The move with which a flow answers an envelope that it opens. -/
def moveFor (flow : Flow κ) (envelope : Envelope) : Option Move :=
  if !flow.active.isCurrent envelope.source || flow.retreatsBeforeFirst (eventOf envelope.signal)
  then none
  else Move.ofEvent? (eventOf envelope.signal)

/-- The flow once its machine was told to step to a board. -/
def stepped (now : Timestamp) (kind : String) (board : Board) (flow : Flow κ) : Flow κ :=
  entered now { flow with machine := replaying now kind board flow.machine }

theorem Playing.replayed
    {next : Board}
    (playing : Playing pods board flow)
    (bounded : next.progress ≤ pods.length)
    (now : Timestamp)
    (kind : String) :
    Playing pods next { flow with machine := replaying now kind next flow.machine } where
  podsEq := playing.podsEq
  usable := playing.usable
  keeps := playing.keeps.replaying playing.running now kind next
  running := playing.running
  bounded := bounded
  sources := playing.sources

/-- On a navigation event a flow moves its board and enters `playing` again. -/
theorem Playing.dispatch_navigation
    {event : Event}
    {move : Move}
    (playing : Playing pods board flow)
    (read : Move.ofEvent? event = some move)
    (navigates : move.isNavigation = true)
    (bounded : (board.after pods move).progress ≤ pods.length)
    (now : Timestamp) :
    let next := flow.stepped now event.kind (board.after pods move)
    (∃ sent, Flow.dispatch now event flow =
      some ⟨next, .ok (.transitioned Flow.playing Flow.playing), sent⟩) ∧
      Entered pods (board.after pods move) next := by
  have moved := playing.keeps.dispatch_navigation playing.running read navigates now
  obtain ⟨⟨sent, returned⟩, entered⟩ := (playing.replayed bounded now event.kind).enterPlaying now
  refine ⟨⟨sent, ?_⟩, entered⟩
  unfold Flow.dispatch onMachine react
  simp only [Call.bind_apply, Call.within, moved, Option.map_some, if_true]
  rw [returned]
  simp [stepped]

/-- A flow records an answer and goes on asking the same pod. -/
theorem Playing.dispatch_save
    {event : Event}
    {name : String}
    (playing : Playing pods board flow)
    (kind : event.kind = answerEvent)
    (named : event.text? Pod.questionKey = some name)
    (now : Timestamp) :
    let next := board.after pods (.save name ((event.get? Pod.answerKey).getD .null))
    Flow.dispatch now event flow =
      some ⟨{ flow with machine := { flow.machine with context := next.context } },
        .ok (.stayed Flow.playing), []⟩ := by
  have saved := playing.keeps.dispatch_save playing.running kind named now
  unfold Flow.dispatch onMachine react
  simp [Call.bind_apply, Call.within, saved]

/-- What a flow that asks a pod does with an envelope: it drops it, records an answer,
or moves on to a fresh pod or to its end. -/
inductive Handled
    (pods : List Definition)
    (board : Board)
    (pod : Definition)
    (question : Instance Unit)
    (pending : List Signal) : Option Move → Flow κ → Prop
  | dropped
      {later : List Signal}
      {next : Flow κ}
      (fewer : later <:+ pending)
      (asking : Asking pods board pod question later next) :
      Handled pods board pod question pending none next
  | saved
      {notice : Event}
      {name : String}
      {answer : Json}
      {later : List Signal}
      {next : Flow κ}
      (heard : pending = .notify notice :: later)
      (named : notice.text? Pod.questionKey = some name)
      (asking : Asking pods (board.after pods (.save name answer)) pod question later next) :
      Handled pods board pod question pending (some (.save name answer)) next
  | navigated
      {move : Move}
      {next : Flow κ}
      (leaves : move = .advance ∨ move = .retreat)
      (entered : Entered pods (board.after pods move) next) :
      Handled pods board pod question pending (some move) next

/-! ## One envelope -/

theorem Playing.opened
    {envelope : Envelope}
    {rest : List Envelope}
    (playing : Playing pods board flow)
    (queue : flow.mailbox.queue = envelope :: rest) :
    Playing pods board { flow with mailbox := ⟨rest⟩ } where
  podsEq := playing.podsEq
  usable := playing.usable
  keeps := playing.keeps
  running := playing.running
  bounded := playing.bounded
  sources := fun other member =>
    playing.sources other (queue ▸ List.mem_cons_of_mem envelope member)

/-- Whatever happens to its envelopes, a flow goes on asking the same pod while its
mailbox holds what is still to be heard of it. -/
theorem Asking.hearing
    {next : Board}
    {later : List Signal}
    {after : Flow κ}
    (asking : Asking pods board pod question pending flow)
    (playing : Playing pods next after)
    (same : next.progress = board.progress)
    (active : after.active = flow.active)
    (id : after.machine.id = flow.machine.id)
    (spawned : after.spawned = flow.spawned)
    (heard : (after.mailbox.queue.filter (·.source = question.id)).map Envelope.signal = later)
    (trail : Pod.Trail question.isDone later) :
    Asking pods next pod question later after where
  toPlaying := playing
  active := active.trans asking.active
  found := by rw [same, asking.found]
  asked := asking.asked
  latest := by rw [id, spawned]; exact asking.latest
  heard := heard
  trail := trail

theorem Asking.isCurrent_iff
    (asking : Asking pods board pod question pending flow)
    (id : InstanceId) :
    flow.active.isCurrent id = true ↔ id = question.id := by
  rw [asking.active]
  simp only [ChildSlot.isCurrent, ChildSlot.child?, Option.map_some, Option.any_some,
    decide_eq_true_eq]
  exact eq_comm

theorem Asking.isAsking_eq (asking : Asking pods board pod question pending flow) :
    flow.isAsking = !question.isDone := by
  simp [isAsking, question?, asking.active, ChildSlot.child?]

/-- What a flow does with an envelope whose event it does not drop is to dispatch it. -/
theorem handle_of_dispatch
    {envelope : Envelope}
    {now : Timestamp}
    {turn : Turn (Flow κ) κ Outcome}
    {outcome : Outcome}
    (current : flow.active.isCurrent envelope.source = true)
    (proper : flow.retreatsBeforeFirst (eventOf envelope.signal) = false)
    (returned : Flow.dispatch now (eventOf envelope.signal) flow = some turn)
    (fine : turn.result = .ok outcome) :
    handle now envelope flow = some ⟨turn.next, .ok (), turn.sent⟩ ∧
      flow.moveFor envelope = Move.ofEvent? (eventOf envelope.signal) := by
  obtain ⟨next, result, sent⟩ := turn
  cases fine
  constructor
  · unfold handle
    simp only [Call.bind_apply, Call.present_apply, current, proper, Bool.not_true,
      Bool.or_false, Bool.false_eq_true, if_false, returned, Call.pure_apply, Option.map_some,
      List.append_nil, List.nil_append]
  · simp [moveFor, current, proper]

theorem handle_of_dropped
    (flow : Flow κ)
    (envelope : Envelope)
    (dropped : (!flow.active.isCurrent envelope.source ||
      flow.retreatsBeforeFirst (eventOf envelope.signal)) = true)
    (now : Timestamp) :
    handle now envelope flow = some ⟨flow, .ok (), []⟩ ∧ flow.moveFor envelope = none := by
  constructor
  · unfold handle
    simp only [Call.bind_apply, Call.present_apply, dropped, if_true, Call.pure_apply,
      Option.map_some, List.append_nil]
  · rw [moveFor, if_pos dropped]

/-! ## Steps -/

/-- The move of a step on or back. -/
def Move.ofEnding : Pod.Ending → Move
  | .advance => .advance
  | .retreat => .retreat

/-- The event with which the machine of a flow is told of a step. -/
def stepEvent : Pod.Ending → String
  | .advance => nextEvent
  | .retreat => previousEvent

theorem Move.ofEnding_leaves (step : Pod.Ending) :
    Move.ofEnding step = .advance ∨ Move.ofEnding step = .retreat := by
  cases step
  · exact .inl rfl
  · exact .inr rfl

theorem Move.ofEvent?_stepEvent (step : Pod.Ending) :
    Move.ofEvent? (.ofKind (stepEvent step)) = some (.ofEnding step) := by
  cases step <;> rfl

theorem eventOf_done (output : Json) :
    eventOf (.done output) = .ofKind (stepEvent (Pod.Ending.ofOutput output)) := by
  rw [eventOf]
  cases Pod.Ending.ofOutput output <;> rfl

/-- Told to step on or back, a flow leaves the pod that it asks. -/
theorem Playing.handle_step
    {envelope : Envelope}
    {step : Pod.Ending}
    (playing : Playing pods board flow)
    (inside : board.progress < pods.length)
    (current : flow.active.isCurrent envelope.source = true)
    (proper : flow.retreatsBeforeFirst (eventOf envelope.signal) = false)
    (told : eventOf envelope.signal = .ofKind (stepEvent step))
    (now : Timestamp) :
    let next := flow.stepped now (stepEvent step) (board.after pods (.ofEnding step))
    (∃ sent, handle now envelope flow = some ⟨next, .ok (), sent⟩) ∧
      flow.moveFor envelope = some (.ofEnding step) ∧
      Entered pods (board.after pods (.ofEnding step)) next := by
  have read : Move.ofEvent? (eventOf envelope.signal) = some (.ofEnding step) :=
    told ▸ Move.ofEvent?_stepEvent step
  have navigates : (Move.ofEnding step).isNavigation = true := by
    cases step <;> rfl
  have bounded := Board.progress_after_le pods inside (.ofEnding step)
  obtain ⟨⟨sent, returned⟩, entered⟩ :=
    playing.dispatch_navigation read navigates bounded now
  obtain ⟨handled, moved⟩ := handle_of_dispatch current proper returned rfl
  rw [told] at handled entered
  exact ⟨⟨sent, handled⟩, moved.trans read, entered⟩

/-- Told of an answer, a flow records it; nothing else changes but the context. -/
theorem Playing.handle_save
    {envelope : Envelope}
    {notice : Event}
    {name : String}
    (playing : Playing pods board flow)
    (current : flow.active.isCurrent envelope.source = true)
    (notify : envelope.signal = .notify notice)
    (kind : notice.kind = answerEvent)
    (named : notice.text? Pod.questionKey = some name)
    (now : Timestamp) :
    let move : Move := .save name ((notice.get? Pod.answerKey).getD .null)
    let saved : Flow κ :=
      { flow with machine := { flow.machine with context := (board.after pods move).context } }
    handle now envelope flow = some ⟨saved, .ok (), []⟩ ∧
      flow.moveFor envelope = some move ∧ Playing pods (board.after pods move) saved := by
  intro move saved
  have event : eventOf envelope.signal = notice := by
    rw [notify]
    rfl
  have proper : flow.retreatsBeforeFirst (eventOf envelope.signal) = false := by
    have different : notice.kind ≠ previousEvent := by
      rw [kind]
      decide
    simp [retreatsBeforeFirst, event, different]
  have read : Move.ofEvent? notice = some move := by
    rw [Move.ofEvent?, if_pos kind, named]
    rfl
  have returned := playing.dispatch_save kind named now
  rw [← event] at returned
  obtain ⟨handled, moved⟩ := handle_of_dispatch current proper returned rfl
  rw [event] at handled moved
  exact ⟨handled, moved.trans read, playing.podsEq, playing.usable,
    playing.keeps.save playing.running, playing.running, playing.bounded, playing.sources⟩

section Envelopes

variable {envelope : Envelope} {rest : List Envelope}

/-- An envelope of a pod that was replaced is dropped. -/
theorem Asking.handle_stale
    (asking : Asking pods board pod question pending flow)
    (queue : flow.mailbox.queue = envelope :: rest)
    (source : envelope.source ≠ question.id)
    (now : Timestamp) :
    let opened : Flow κ := { flow with mailbox := ⟨rest⟩ }
    Flow.handle now envelope opened = some ⟨opened, .ok (), []⟩ ∧
      opened.moveFor envelope = none ∧ Asking pods board pod question pending opened := by
  intro opened
  have currentIff : opened.active.isCurrent envelope.source = true ↔ _ :=
    asking.isCurrent_iff envelope.source
  have stale : opened.active.isCurrent envelope.source = false := by
    rw [← Bool.not_eq_true, currentIff]
    exact source
  have heard := asking.heard
  rw [queue, List.filter_cons_of_neg (by simpa using source)] at heard
  obtain ⟨handled, noMove⟩ := handle_of_dropped opened envelope (by simp [stale]) now
  exact ⟨handled, noMove,
    asking.hearing (asking.opened queue) rfl rfl rfl rfl heard asking.trail⟩

/-- What is heard of a pod in a list of envelopes. -/
def heardOf (question : Instance Unit) (queue : List Envelope) : List Signal :=
  (queue.filter (·.source = question.id)).map Envelope.signal

/-- An envelope of the pod that is asked tells what is heard of it next. -/
theorem Asking.heard_own
    (asking : Asking pods board pod question pending flow)
    (queue : flow.mailbox.queue = envelope :: rest)
    (source : envelope.source = question.id) :
    envelope.signal :: heardOf question rest = pending := by
  have heard := asking.heard
  rwa [queue, List.filter_cons_of_pos (by simpa using source), List.map_cons] at heard

/-- A request to step back before the first question is dropped. -/
theorem Asking.handle_early
    (asking : Asking pods board pod question pending flow)
    (queue : flow.mailbox.queue = envelope :: rest)
    (trail : Pod.Trail question.isDone (heardOf question rest))
    (early : flow.retreatsBeforeFirst (eventOf envelope.signal) = true)
    (now : Timestamp) :
    let opened : Flow κ := { flow with mailbox := ⟨rest⟩ }
    Flow.handle now envelope opened = some ⟨opened, .ok (), []⟩ ∧
      opened.moveFor envelope = none ∧
      Asking pods board pod question (heardOf question rest) opened := by
  intro opened
  obtain ⟨handled, noMove⟩ := handle_of_dropped opened envelope
    ((Bool.or_eq_true_iff ..).2 (.inr early)) now
  exact ⟨handled, noMove, asking.hearing (asking.opened queue) rfl rfl rfl rfl rfl trail⟩

/-- An answer of the pod that is asked is recorded. -/
theorem Asking.handle_saved
    {notice : Event}
    {name : String}
    (asking : Asking pods board pod question pending flow)
    (queue : flow.mailbox.queue = envelope :: rest)
    (source : envelope.source = question.id)
    (trail : Pod.Trail question.isDone (heardOf question rest))
    (notify : envelope.signal = .notify notice)
    (kind : notice.kind = answerEvent)
    (named : notice.text? Pod.questionKey = some name)
    (now : Timestamp) :
    let opened : Flow κ := { flow with mailbox := ⟨rest⟩ }
    let move : Move := .save name ((notice.get? Pod.answerKey).getD .null)
    let saved : Flow κ :=
      { opened with machine := { flow.machine with context := (board.after pods move).context } }
    Flow.handle now envelope opened = some ⟨saved, .ok (), []⟩ ∧
      opened.moveFor envelope = some move ∧
      Asking pods (board.after pods move) pod question (heardOf question rest) saved := by
  intro opened move saved
  obtain ⟨handled, moved, playing⟩ := (asking.opened queue).handle_save
    ((asking.isCurrent_iff envelope.source).2 source) notify kind named now
  exact ⟨handled, moved, asking.hearing playing rfl rfl rfl rfl rfl trail⟩

/-- Told by the pod that is asked to step, a flow leaves that pod. -/
theorem Asking.handle_stepped
    {step : Pod.Ending}
    (asking : Asking pods board pod question pending flow)
    (queue : flow.mailbox.queue = envelope :: rest)
    (source : envelope.source = question.id)
    (proper : flow.retreatsBeforeFirst (eventOf envelope.signal) = false)
    (told : eventOf envelope.signal = .ofKind (stepEvent step))
    (now : Timestamp) :
    let opened : Flow κ := { flow with mailbox := ⟨rest⟩ }
    let next := opened.stepped now (stepEvent step) (board.after pods (.ofEnding step))
    (∃ sent, Flow.handle now envelope opened = some ⟨next, .ok (), sent⟩) ∧
      opened.moveFor envelope = some (.ofEnding step) ∧
      Entered pods (board.after pods (.ofEnding step)) next := by
  have inside : board.progress < pods.length := (List.getElem?_eq_some_iff.1 asking.found).1
  exact (asking.opened queue).handle_step inside
    ((asking.isCurrent_iff envelope.source).2 source) proper told now

/-- What an envelope of the pod that is asked says: it asks to step back too early, or
reports an answer, or tells the flow to step. -/
theorem Asking.own_cases
    (asking : Asking pods board pod question pending flow)
    (queue : flow.mailbox.queue = envelope :: rest)
    (source : envelope.source = question.id) :
    (flow.retreatsBeforeFirst (eventOf envelope.signal) = true ∧
      Pod.Trail question.isDone (heardOf question rest)) ∨
    (∃ notice name, envelope.signal = .notify notice ∧ notice.kind = answerEvent ∧
      notice.text? Pod.questionKey = some name ∧
      Pod.Trail question.isDone (heardOf question rest)) ∨
    ∃ step, flow.retreatsBeforeFirst (eventOf envelope.signal) = false ∧
      eventOf envelope.signal = .ofKind (stepEvent step) := by
  have trail := asking.trail
  rw [← asking.heard_own queue source] at trail
  rcases trail.cons with
    ⟨notice, notify, rfl | ⟨kind, name, named⟩, trailLater⟩ | ⟨ended, ⟨output, isOutput⟩, _⟩
  · cases early : flow.retreatsBeforeFirst (eventOf envelope.signal) with
    | true => exact .inl ⟨rfl, trailLater⟩
    | false => exact .inr (.inr ⟨.retreat, rfl, by rw [notify]; rfl⟩)
  · exact .inr (.inl ⟨notice, name, notify, kind, named, trailLater⟩)
  · refine .inr (.inr ⟨Pod.Ending.ofOutput output, ?_, by rw [isOutput, eventOf_done]⟩)
    have finished : flow.isAsking = false := by
      rw [asking.isAsking_eq, ended]
      rfl
    simp [retreatsBeforeFirst, finished]

/-- A flow that asks a pod acts on every envelope, and stands well afterwards. -/
theorem Asking.handle
    (asking : Asking pods board pod question pending flow)
    (queue : flow.mailbox.queue = envelope :: rest)
    (now : Timestamp) :
    let opened : Flow κ := { flow with mailbox := ⟨rest⟩ }
    ∃ turn, Flow.handle now envelope opened = some turn ∧ turn.result = .ok () ∧
      Handled pods board pod question pending (opened.moveFor envelope) turn.next := by
  intro opened
  by_cases source : envelope.source = question.id
  · have heard := asking.heard_own queue source
    rcases asking.own_cases queue source with
      ⟨early, trail⟩ | ⟨notice, name, notify, kind, named, trail⟩ | ⟨step, proper, told⟩
    · obtain ⟨handled, noMove, still⟩ := asking.handle_early queue trail early now
      rw [noMove]
      exact ⟨_, handled, rfl, .dropped ⟨[envelope.signal], heard⟩ still⟩
    · obtain ⟨handled, moved, saved⟩ :=
        asking.handle_saved queue source trail notify kind named now
      rw [moved]
      exact ⟨_, handled, rfl, .saved (heard.symm.trans (by rw [notify])) named saved⟩
    · obtain ⟨⟨sent, handled⟩, moved, entered⟩ :=
        asking.handle_stepped queue source proper told now
      rw [moved]
      exact ⟨_, handled, rfl, .navigated (Move.ofEnding_leaves step) entered⟩
  · obtain ⟨handled, noMove, still⟩ := asking.handle_stale queue source now
    rw [noMove]
    exact ⟨_, handled, rfl, .dropped (List.suffix_refl _) still⟩

end Envelopes

end Flow
end Questionnaire
