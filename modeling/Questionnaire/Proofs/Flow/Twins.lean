import Questionnaire.Proofs.Flow.Run
import Questionnaire.Proofs.Instance.Twins

/-!
# Flows that cannot be told apart

Two flows over the same pods that keep the same board and ask the same pod, which stands
alike in both, go on in lockstep, whoever hosts them.  They differ in the identities of
their machines and pods, in their subscribers, and in the times of what they recorded.
-/

namespace Questionnaire

/-- What is missing on both sides or on neither stays related when the relation is
weakened, which may use what is there on the left. -/
theorem rel_imp
    {α β : Type}
    {strong weak : α → β → Prop}
    {first? : Option α}
    {second? : Option β}
    (related : Option.Rel strong first? second?)
    (weaker : ∀ first second, first? = some first → strong first second → weak first second) :
    Option.Rel weak first? second? := by
  cases related with
  | none => exact .none
  | some both => exact .some (weaker _ _ rfl both)

namespace Flow

variable {κ ι : Type} {pods : List Definition} {board : Board} {left : Flow κ} {right : Flow ι}
  {now later : Timestamp}

/-! ## Twins -/

/-- Two envelopes with the same signal, either both of the pods that are asked or both of
others. -/
structure Echo (question other : Instance Unit) (first second : Envelope) : Prop where
  signal : first.signal = second.signal
  source : first.source = question.id ↔ second.source = other.id

/-- Two flows that keep the same board, and ask the same pod or have both ended. -/
inductive Twins (pods : List Definition) (left : Flow κ) (right : Flow ι) : Prop
  | asking
      {board : Board}
      {pod : Definition}
      {question other : Instance Unit}
      {pending echoed : List Signal}
      (leftAsks : Asking pods board pod question pending left)
      (rightAsks : Asking pods board pod other echoed right)
      (questions : Instance.Twins {} question other)
      (queues : List.Forall₂ (Echo question other) left.mailbox.queue right.mailbox.queue)
  | ended
      {board : Board}
      (leftEnds : Ended pods board left)
      (rightEnds : Ended pods board right)
      (queues : left.mailbox.queue.length = right.mailbox.queue.length)

theorem heardOf_eq_of_echo
    {question other : Instance Unit}
    {first second : List Envelope}
    (queues : List.Forall₂ (Echo question other) first second) :
    heardOf question first = heardOf other second := by
  unfold heardOf
  induction queues with
  | nil => rfl
  | @cons envelope echoed _ _ echo _ ih =>
    by_cases source : envelope.source = question.id
    · rw [List.filter_cons_of_pos (by simpa using source),
        List.filter_cons_of_pos (by simpa using echo.source.1 source), List.map_cons,
        List.map_cons, ih, echo.signal]
    · rw [List.filter_cons_of_neg (by simpa using source),
        List.filter_cons_of_neg (by simpa using mt echo.source.2 source), ih]

/-! ## Observations -/

theorem Keeps.snapshot_eq
    {first : Instance κ}
    {second : Instance ι}
    (keeps : Keeps pods board first)
    (keepsToo : Keeps pods board second)
    (status : first.status = second.status) :
    first.snapshot = second.snapshot := by
  have done : first.isDone = second.isDone := by rw [Instance.isDone, Instance.isDone, status]
  have current : first.current = second.current := by
    rw [keeps.current, keepsToo.current, done]
  have context : first.context = second.context := keeps.context.trans keepsToo.context.symm
  have definition : first.definition = second.definition :=
    keeps.definition.trans keepsToo.definition.symm
  have node : first.node? = second.node? := by
    rw [Instance.node?, Instance.node?, definition, current]
  have output : first.output = second.output := by
    rw [keeps.sound.output, keepsToo.sound.output, done, Instance.builtOutput,
      Instance.builtOutput, node, context]
  simp only [Instance.snapshot, Instance.presentation, Instance.nextEvents, definition, current,
    context, node, done, output]

namespace Twins

theorem exists_keeps (twins : Twins pods left right) :
    ∃ board, Keeps pods board left.machine ∧ Keeps pods board right.machine ∧
      left.machine.status = right.machine.status := by
  cases twins with
  | asking leftAsks rightAsks =>
    exact ⟨_, leftAsks.keeps, rightAsks.keeps, leftAsks.running.trans rightAsks.running.symm⟩
  | ended leftEnds rightEnds =>
    exact ⟨_, leftEnds.keeps, rightEnds.keeps, leftEnds.done.trans rightEnds.done.symm⟩

theorem status_eq (twins : Twins pods left right) :
    left.machine.status = right.machine.status := by
  obtain ⟨_, _, _, status⟩ := twins.exists_keeps
  exact status

theorem snapshot_eq (twins : Twins pods left right) : left.snapshot = right.snapshot := by
  obtain ⟨_, keeps, keepsToo, status⟩ := twins.exists_keeps
  exact keeps.snapshot_eq keepsToo status

theorem progress_eq (twins : Twins pods left right) : left.progress = right.progress := by
  obtain ⟨_, keeps, keepsToo, _⟩ := twins.exists_keeps
  rw [keeps.progress_eq, keepsToo.progress_eq]

theorem answers_eq (twins : Twins pods left right) : left.answers = right.answers := by
  obtain ⟨_, keeps, keepsToo, _⟩ := twins.exists_keeps
  rw [keeps.answers_eq, keepsToo.answers_eq]

theorem owners_eq (twins : Twins pods left right) : left.owners = right.owners := by
  obtain ⟨_, keeps, keepsToo, _⟩ := twins.exists_keeps
  rw [keeps.owners_eq, keepsToo.owners_eq]

theorem output_eq (twins : Twins pods left right) : left.output = right.output :=
  congrArg Snapshot.output twins.snapshot_eq

theorem isDone_eq (twins : Twins pods left right) : left.isDone = right.isDone :=
  congrArg Snapshot.done twins.snapshot_eq

/-- The pods that twins ask look the same. -/
theorem question_snapshot_eq (twins : Twins pods left right) :
    left.question?.map Instance.snapshot = right.question?.map Instance.snapshot := by
  cases twins with
  | asking leftAsks rightAsks questions =>
    simp [question?, ChildSlot.child?, leftAsks.active, rightAsks.active, questions.snapshot]
  | ended leftEnds rightEnds =>
    simp [question?, ChildSlot.child?, ChildSlot.empty, leftEnds.active, rightEnds.active]

end Twins

/-! ## Entering a pod -/

theorem twins_freshlyAsked (pod : Definition) (id other : InstanceId) :
    Instance.Twins {} (Pod.freshlyAsked id pod) (Pod.freshlyAsked other pod) := by
  constructor
  · cases terminal : pod.isTerminal pod.initial <;> constructor <;>
      simp [Pod.freshlyAsked, Instance.start, Instance.subscribe, Pod.unasked, Instance.idle,
        Instance.atTerminal, terminal, Instance.finished, Instance.builtOutput, Instance.node?,
        History.SameSince.refl]
  · cases terminal : pod.isTerminal pod.initial <;>
      simp [Instance.outlets, Pod.freshlyAsked, Instance.start, Instance.subscribe, Pod.unasked,
        Instance.idle, Instance.atTerminal, terminal, Instance.finished]

/-- Envelopes of pods that are no longer asked are told apart by nothing but their
signals. -/
theorem echo_of_stale
    {question other : Instance Unit}
    {first second : List Envelope}
    (same : List.Forall₂ (fun first second => first.signal = second.signal) first second)
    (stale : ∀ envelope ∈ first, envelope.source ≠ question.id)
    (staleToo : ∀ envelope ∈ second, envelope.source ≠ other.id) :
    List.Forall₂ (Echo question other) first second := by
  induction same with
  | nil => exact .nil
  | cons signal _ ih =>
    rw [List.forall_mem_cons] at stale staleToo
    exact .cons ⟨signal, iff_of_false stale.1 staleToo.1⟩ (ih stale.2 staleToo.2)

/-- What two pods send at the same time says the same. -/
theorem echo_deliveries (question other : Instance Unit) (signals : List Signal) :
    List.Forall₂ (Echo question other)
      ((Pod.deliveries question signals).map Delivery.envelope)
      ((Pod.deliveries other signals).map Delivery.envelope) := by
  simp only [Pod.deliveries, List.map_map, List.forall₂_map_left_iff,
    List.forall₂_map_right_iff, List.forall₂_same]
  intro signal _
  exact ⟨rfl, iff_of_true rfl rfl⟩

/-- Twins that enter `playing` with the same signals in their mailboxes stay twins: none of
the signals is of a pod that is asked now. -/
theorem Playing.twins_entered
    (playing : Playing pods board left)
    (playingToo : Playing pods board right)
    (queues : List.Forall₂ (fun first second => first.signal = second.signal)
      left.mailbox.queue right.mailbox.queue)
    (now later : Timestamp) :
    Twins pods (left.entered now) (right.entered later) := by
  have same : left.pods[left.progress]? = pods[board.progress]? := by
    rw [playing.podsEq, playing.keeps.progress_eq]
  have sameToo : right.pods[right.progress]? = pods[board.progress]? := by
    rw [playingToo.podsEq, playingToo.keeps.progress_eq]
  unfold entered
  cases found : pods[board.progress]? with
  | none =>
    rw [same, sameToo, found]
    exact .ended (playing.ending found now) (playingToo.ending found later) queues.length_eq
  | some pod =>
    rw [same, sameToo, found]
    refine .asking (playing.asking found) (playingToo.asking found)
      (twins_freshlyAsked pod _ _) ?_
    -- What was queued before comes from replaced pods on both sides, whichever they were.
    apply List.rel_append
    · apply echo_of_stale queues
      · intro envelope member
        rw [Pod.id_freshlyAsked]
        exact playing.source_ne_nextId member
      · intro envelope member
        rw [Pod.id_freshlyAsked]
        exact playingToo.source_ne_nextId member
    · exact echo_deliveries _ _ _

/-- Twins that step to the same board stay twins. -/
theorem Playing.twins_stepped
    {next : Board}
    (playing : Playing pods board left)
    (playingToo : Playing pods board right)
    (bounded : next.progress ≤ pods.length)
    (queues : List.Forall₂ (fun first second => first.signal = second.signal)
      left.mailbox.queue right.mailbox.queue)
    (now later : Timestamp)
    (kind : String) :
    Twins pods (left.stepped now kind next) (right.stepped later kind next) :=
  (playing.replayed bounded now kind).twins_entered (playingToo.replayed bounded later kind)
    queues now later

/-! ## One envelope -/

/-- The turns of twins that act on their envelopes: they do not fail, and leave twins. -/
structure Acted
    (pods : List Definition)
    (first : Turn (Flow κ) κ Unit)
    (second : Turn (Flow ι) ι Unit) : Prop where
  fine : first.result = .ok ()
  fineToo : second.result = .ok ()
  twins : Twins pods first.next second.next

section Envelopes

variable {envelope echoed : Envelope} {rest others : List Envelope}

/-- Twins act alike on the envelopes that are next. -/
theorem Twins.handle
    (twins : Twins pods left right)
    (queue : left.mailbox.queue = envelope :: rest)
    (queueToo : right.mailbox.queue = echoed :: others)
    (now later : Timestamp) :
    ∃ first second,
      Flow.handle now envelope { left with mailbox := ⟨rest⟩ } = some first ∧
      Flow.handle later echoed { right with mailbox := ⟨others⟩ } = some second ∧
      Acted pods first second := by
  cases twins with
  | ended leftEnds rightEnds queues =>
    obtain ⟨handled, _, ends⟩ := leftEnds.handle envelope rest now
    obtain ⟨handledToo, _, endsToo⟩ := rightEnds.handle echoed others later
    have lengths : rest.length = others.length := by
      simpa [queue, queueToo] using queues
    exact ⟨_, _, handled, handledToo, rfl, rfl, .ended ends endsToo lengths⟩
  | @asking board pod question other _ _ leftAsks rightAsks questions queues =>
    rw [queue, queueToo] at queues
    obtain ⟨echo, restEchoes⟩ := List.forall₂_cons.1 queues
    by_cases source : envelope.source = question.id
    · have sourceToo := echo.source.1 source
      have event : eventOf envelope.signal = eventOf echoed.signal := by rw [echo.signal]
      have done : question.isDone = other.isDone := by
        rw [Instance.isDone, Instance.isDone, questions.status]
      have early : right.retreatsBeforeFirst (eventOf echoed.signal) =
          left.retreatsBeforeFirst (eventOf envelope.signal) := by
        rw [retreatsBeforeFirst, retreatsBeforeFirst, event, leftAsks.isAsking_eq,
          rightAsks.isAsking_eq, leftAsks.keeps.progress_eq, rightAsks.keeps.progress_eq, done]
      have heard := heardOf_eq_of_echo restEchoes
      rcases leftAsks.own_cases queue source with
        ⟨isEarly, trail⟩ | ⟨notice, name, notify, kind, named, trail⟩ | ⟨step, proper, told⟩
      · obtain ⟨handled, _, asks⟩ := leftAsks.handle_early queue trail isEarly now
        rw [done, heard] at trail
        obtain ⟨handledToo, _, asksToo⟩ :=
          rightAsks.handle_early queueToo trail (early.trans isEarly) later
        exact ⟨_, _, handled, handledToo, rfl, rfl, .asking asks asksToo questions restEchoes⟩
      · obtain ⟨handled, _, asks⟩ :=
          leftAsks.handle_saved queue source trail notify kind named now
        rw [done, heard] at trail
        obtain ⟨handledToo, _, asksToo⟩ :=
          rightAsks.handle_saved queueToo sourceToo trail (echo.signal.symm.trans notify) kind
            named later
        exact ⟨_, _, handled, handledToo, rfl, rfl, .asking asks asksToo questions restEchoes⟩
      · obtain ⟨⟨sent, handled⟩, _, _⟩ := leftAsks.handle_stepped queue source proper told now
        obtain ⟨⟨sentToo, handledToo⟩, _, _⟩ :=
          rightAsks.handle_stepped queueToo sourceToo (early.trans proper) (event ▸ told) later
        have inside : board.progress < pods.length :=
          (List.getElem?_eq_some_iff.1 leftAsks.found).1
        refine ⟨_, _, handled, handledToo, rfl, rfl, ?_⟩
        apply (leftAsks.opened queue).twins_stepped (rightAsks.opened queueToo)
        · exact Board.progress_after_le pods inside _
        · exact restEchoes.imp fun _ _ echo => echo.signal
    · obtain ⟨handled, _, asks⟩ := leftAsks.handle_stale queue source now
      obtain ⟨handledToo, _, asksToo⟩ :=
        rightAsks.handle_stale queueToo (mt echo.source.2 source) later
      exact ⟨_, _, handled, handledToo, rfl, rfl, .asking asks asksToo questions restEchoes⟩

end Envelopes

/-! ## Emptying the mailbox -/

theorem Twins.length_eq (twins : Twins pods left right) :
    left.mailbox.queue.length = right.mailbox.queue.length := by
  cases twins with
  | asking _ _ _ queues => exact queues.length_eq
  | ended _ _ queues => exact queues

/-- Twins whose mailboxes are emptied return both or not at all. -/
theorem Twins.pump
    (twins : Twins pods left right)
    (fuel : Nat)
    (now later : Timestamp) :
    Option.Rel (Acted pods) (Flow.pump now fuel left) (Flow.pump later fuel right) := by
  induction fuel generalizing left right with
  | zero => exact .none
  | succ fuel ih =>
    have lengths := twins.length_eq
    cases queue : left.mailbox.queue with
    | nil =>
      have queueToo : right.mailbox.queue = [] := by
        rw [queue] at lengths
        exact List.length_eq_zero_iff.1 lengths.symm
      rw [pump_of_quiet queue, pump_of_quiet queueToo]
      exact .some ⟨rfl, rfl, twins⟩
    | cons envelope rest =>
      -- The queues are equally long, so that both flows run out of fuel together or not at all.
      obtain ⟨echoed, others, queueToo⟩ :
          ∃ echoed others, right.mailbox.queue = echoed :: others := by
        rw [queue] at lengths
        exact List.exists_cons_of_length_eq_add_one lengths.symm
      obtain ⟨⟨next, _, sent⟩, ⟨nextToo, _, sentToo⟩, handled, handledToo, rfl, rfl, stay⟩ :=
        twins.handle queue queueToo now later
      rw [pump_cons left queue handled, pump_cons right queueToo handledToo]
      have pumped := ih stay
      generalize Flow.pump now fuel next = first? at pumped
      generalize Flow.pump later fuel nextToo = second? at pumped
      cases pumped with
      | none => exact .none
      | some acted => exact .some ⟨acted.fine, acted.fineToo, acted.twins⟩

theorem Twins.settle
    (twins : Twins pods left right)
    (now later : Timestamp) :
    Option.Rel (Acted pods) (Flow.settle now left) (Flow.settle later right) := by
  have samePods : left.pods = right.pods := by
    cases twins with
    | asking leftAsks rightAsks => rw [leftAsks.podsEq, rightAsks.podsEq]
    | ended leftEnds rightEnds => rw [leftEnds.podsEq, rightEnds.podsEq]
  rw [settle_eq_pump, settle_eq_pump, twins.length_eq, samePods]
  exact twins.pump _ now later

/-! ## Calls -/

/-- The turns of twins that answer alike and leave twins. -/
structure Agree
    {α : Type}
    (pods : List Definition)
    (first : Turn (Flow κ) κ α)
    (second : Turn (Flow ι) ι α) : Prop where
  result : first.result = second.result
  twins : Twins pods first.next second.next

/-- The turns of two calls that yield `value` and `other` and leave twins. -/
structure Yield
    {α β : Type}
    (pods : List Definition)
    (value : α)
    (other : β)
    (first : Turn (Flow κ) κ α)
    (second : Turn (Flow ι) ι β) : Prop where
  result : first.result = .ok value
  resultToo : second.result = .ok other
  twins : Twins pods first.next second.next

/-- Calls that leave twins leave twins also once both mailboxes were emptied, or neither of
them is ever emptied. -/
theorem yield_settled
    {α β : Type}
    {call : Call (Flow κ) κ α}
    {callToo : Call (Flow ι) ι β}
    {first : Flow κ}
    {second : Flow ι}
    {value : α}
    {other : β}
    {sent : List (Delivery κ)}
    {sentToo : List (Delivery ι)}
    (called : call left = some ⟨first, .ok value, sent⟩)
    (calledToo : callToo right = some ⟨second, .ok other, sentToo⟩)
    (twins : Twins pods first second)
    (now later : Timestamp) :
    Option.Rel (Yield pods value other)
      ((do
        let value ← call
        settle now
        return value) left)
      ((do
        let other ← callToo
        settle later
        return other) right) := by
  simp only [Call.bind_apply, called, calledToo]
  have settled := twins.settle now later
  generalize Flow.settle now first = first? at settled
  generalize Flow.settle later second = second? at settled
  cases settled with
  | none => exact .none
  | @some turn other acted =>
    obtain ⟨next, result, more⟩ := turn
    obtain ⟨nextToo, resultToo, moreToo⟩ := other
    obtain ⟨rfl, rfl, stay⟩ := acted
    exact .some ⟨rfl, rfl, stay⟩

/-- Calls that leave twins with the same value agree once both mailboxes were emptied. -/
theorem agree_settled
    {α : Type}
    {call : Call (Flow κ) κ α}
    {other : Call (Flow ι) ι α}
    {first : Flow κ}
    {second : Flow ι}
    {value : α}
    {sent : List (Delivery κ)}
    {sentToo : List (Delivery ι)}
    (called : call left = some ⟨first, .ok value, sent⟩)
    (calledToo : other right = some ⟨second, .ok value, sentToo⟩)
    (twins : Twins pods first second)
    (now later : Timestamp) :
    Option.Rel (Agree pods)
      ((do
        let value ← call
        settle now
        return value) left)
      ((do
        let value ← other
        settle later
        return value) right) := by
  apply rel_imp (yield_settled called calledToo twins now later)
  intro first second _ yields
  exact ⟨yields.result.trans yields.resultToo.symm, yields.twins⟩

/-- Two flows that were not started and keep the same board start alike. -/
theorem Unstarted.agree_start
    (unstarted : Unstarted pods board left)
    (unstartedToo : Unstarted pods board right)
    (now later : Timestamp) :
    Option.Rel (Agree pods) (Flow.start now left) (Flow.start later right) := by
  obtain ⟨⟨_, opened⟩, _⟩ := unstarted.opening now
  obtain ⟨⟨_, openedToo⟩, _⟩ := unstartedToo.opening later
  rw [start_of_idle unstarted.idle, start_of_idle unstartedToo.idle]
  apply agree_settled opened openedToo
  apply unstarted.playing.twins_entered unstartedToo.playing
  show List.Forall₂ _ left.mailbox.queue right.mailbox.queue
  rw [unstarted.quiet, unstartedToo.quiet]
  exact .nil

/-- Twins whose pods took the same event are to hear the same. -/
theorem Asking.twins_given
    {pod : Definition}
    {question other : Instance Unit}
    (asking : Asking pods board pod question [] left)
    (askingToo : Asking pods board pod other [] right)
    (questions : Instance.Twins {} question other)
    (quiet : left.mailbox.queue = [])
    (quietToo : right.mailbox.queue = [])
    (now later : Timestamp)
    (event : Event) :
    Twins pods (left.given (question.dispatch now event))
      (right.given (other.dispatch later event)) := by
  have turned := questions.dispatch now later event
  obtain ⟨signals, sent, heard, _⟩ := asking.given quiet now event
  obtain ⟨signalsToo, sentToo, heardToo, _⟩ := askingToo.given quietToo later event
  have same : signals = signalsToo := by
    have read (question : Instance Unit) (signals : List Signal) :
        ((Pod.deliveries question signals).map Delivery.unsourced).map (fun sent => sent.2.2) =
          signals := by
      simp [Pod.deliveries, Instance.envelope, Function.comp_def, Delivery.unsourced]
    rw [← read question signals, ← read other signalsToo, ← sent, ← sentToo, turned.sent]
  subst same
  refine .asking heard heardToo turned.next ?_
  have queue : (left.given (question.dispatch now event)).mailbox.queue =
      (Pod.deliveries question signals).map Delivery.envelope := by
    rw [Flow.given, Mailbox.deliver, Mailbox.receive, quiet, sent]
    rfl
  have queueToo : (right.given (other.dispatch later event)).mailbox.queue =
      (Pod.deliveries other signals).map Delivery.envelope := by
    rw [Flow.given, Mailbox.deliver, Mailbox.receive, quietToo, sentToo]
    rfl
  have sameId : (question.dispatch now event).next.id = question.id :=
    (asking.asked.dispatch asking.question_running now event).2.1
  have sameIdToo : (other.dispatch later event).next.id = other.id :=
    (askingToo.asked.dispatch askingToo.question_running later event).2.1
  rw [queue, queueToo]
  refine (echo_deliveries question other signals).imp fun _ _ echo => ⟨echo.signal, ?_⟩
  rw [sameId, sameIdToo]
  exact echo.source

/-- Twins at rest answer every event alike, or neither of them returns. -/
theorem Twins.agree_send
    (twins : Twins pods left right)
    (quiet : left.mailbox.queue = [])
    (now later : Timestamp)
    (event : Event) :
    Option.Rel (Agree pods) (Flow.send now event left) (Flow.send later event right) := by
  have quietToo : right.mailbox.queue = [] := by
    have lengths := twins.length_eq
    rw [quiet] at lengths
    exact List.length_eq_zero_iff.1 lengths.symm
  cases twins with
  | ended leftEnds rightEnds queues =>
    rw [leftEnds.keeps.send_of_refusal (by rw [leftEnds.done]; rfl),
      rightEnds.keeps.send_of_refusal (by rw [rightEnds.done]; rfl)]
    exact .some ⟨rfl, .ended leftEnds rightEnds queues⟩
  | @asking board pod question other pending echoed leftAsks rightAsks questions queues =>
    obtain ⟨_, rfl⟩ := leftAsks.resting quiet
    obtain ⟨_, rfl⟩ := rightAsks.resting quietToo
    rw [send_eq, send_eq]
    by_cases kind : event.kind = startFreshEvent
    -- A restart replaces both pods, so that only the boards have to agree.
    · obtain ⟨⟨_, delivered⟩, _⟩ := leftAsks.restarting kind now
      obtain ⟨⟨_, deliveredToo⟩, _⟩ := rightAsks.restarting kind later
      apply agree_settled delivered deliveredToo
      apply leftAsks.toPlaying.twins_stepped rightAsks.toPlaying
      · exact Nat.zero_le _
      · rw [quiet, quietToo]
        exact .nil
    · obtain ⟨outcome, fine, delivered⟩ := leftAsks.delivering kind now
      obtain ⟨_, fineToo, deliveredToo⟩ := rightAsks.delivering kind later
      have same := (questions.dispatch now later event).result
      rw [fine, fineToo] at same
      cases same
      apply agree_settled delivered deliveredToo
      exact leftAsks.twins_given rightAsks questions quiet quietToo now later event

end Flow
end Questionnaire
