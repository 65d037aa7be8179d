import Questionnaire.Proofs.Flow.Invariant
import Questionnaire.Proofs.Flow.Reply
import Questionnaire.Proofs.Instance.Advertisement

/-!
# The log of a flow

The history of a flow's machine records how the flow navigates.  Each step on, step back and
fresh start is one passage from `playing` into `playing`, and a last passage ends the flow.  The
progress is what these events add up to, at every moment of a run: also in the middle of a call,
and in a call that never returns.
-/

namespace Questionnaire
namespace Flow

variable {κ : Type} {pods : List Definition} {board : Board} {pod : Definition}
  {question : Instance Unit} {pending : List Signal} {flow : Flow κ} {now : Timestamp}

/-! ## Logs -/

/-- The events with which a flow enters `playing` again. -/
def navigationEvents : List String :=
  [nextEvent, previousEvent, startFreshEvent]

/-- The progress after an event of the log. -/
def tallied (progress : Nat) (kind : String) : Nat :=
  if kind = nextEvent then progress + 1
  else if kind = previousEvent then progress - 1
  else if kind = startFreshEvent then 0
  else progress

/-- The progress that the events of a log add up to. -/
def tally (kinds : List String) : Nat :=
  kinds.foldl tallied 0

theorem tally_concat (kinds : List String) (kind : String) :
    tally (kinds ++ [kind]) = tallied (tally kinds) kind := by
  simp [tally]

/-- The passage with which a flow enters `playing` again. -/
def stepPassage (now : Timestamp) (kind : String) : Passage :=
  ⟨playing, playing, kind, now⟩

/-- The passage with which a flow ends. -/
def endPassage (now : Timestamp) : Passage :=
  ⟨playing, complete, doneEvent, now⟩

/-- The passages of a flow that has ended or not: navigation within `playing`, and then one
end. -/
inductive Logged : (done : Bool) → List Passage → Prop
  | nothing : Logged false []
  | step
      {passages : List Passage}
      {kind : String}
      (logged : Logged false passages)
      (navigates : kind ∈ navigationEvents)
      (now : Timestamp) :
      Logged false (passages ++ [stepPassage now kind])
  | ending
      {passages : List Passage}
      (logged : Logged false passages)
      (now : Timestamp) :
      Logged true (passages ++ [endPassage now])

/-- The history of a flow is the log of its navigation, and adds up to its progress. -/
structure Logs (flow : Flow κ) : Prop where
  logged : Logged flow.isDone flow.machine.history.passages
  progress : flow.progress = tally flow.machine.history.events

theorem Logs.congr
    {next : Flow κ}
    (logs : flow.Logs)
    (done : next.isDone = flow.isDone)
    (passages : next.machine.history.passages = flow.machine.history.passages)
    (progress : next.progress = flow.progress) :
    next.Logs := by
  refine ⟨?_, ?_⟩
  · rw [done, passages]
    exact logs.logged
  · rw [progress, logs.progress, History.events, History.events, passages]

/-! ## Entering `playing` -/

/-- The end of a flow's log at a time at which it may have ended. -/
def endPassages (now : Timestamp) (flow : Flow κ) : List Passage :=
  if flow.isDone then [endPassage now] else []

theorem Playing.alive (playing : Playing pods board flow) : flow.isDone = false := by
  simp [isDone, Instance.isDone, playing.running]

/-- Entering `playing` leaves no record, unless that ends the flow. -/
theorem Playing.passages_entered
    (playing : Playing pods board flow)
    (now : Timestamp) :
    (flow.entered now).machine.history.passages =
        flow.machine.history.passages ++ endPassages now (flow.entered now) ∧
      (flow.entered now).progress = flow.progress := by
  unfold entered
  cases flow.pods[flow.progress]? with
  | some pod =>
    have alive : (flow.asking pod).isDone = false := playing.alive
    refine ⟨?_, rfl⟩
    rw [endPassages, alive]
    exact (List.append_nil _).symm
  | none =>
    refine ⟨?_, rfl⟩
    have done : (flow.ending now).isDone = true := rfl
    rw [endPassages, done, if_pos rfl, endPassage,
      ← playing.keeps.playing_of_running playing.running]
    rfl

theorem Playing.logs_entered
    (playing : Playing pods board flow)
    (logs : flow.Logs)
    (now : Timestamp) :
    (flow.entered now).Logs := by
  obtain ⟨passages, progress⟩ := playing.passages_entered now
  unfold endPassages at passages
  cases done : (flow.entered now).isDone with
  | false =>
    rw [done] at passages
    exact logs.congr (done.trans playing.alive.symm) (by simpa using passages) progress
  | true =>
    rw [done, if_pos rfl] at passages
    have before := logs.logged
    rw [playing.alive] at before
    refine ⟨?_, ?_⟩
    · rw [done, passages]
      exact before.ending now
    · rw [progress, logs.progress, History.events, History.events, passages, List.map_append,
        List.map_singleton, tally_concat]
      rfl

/-- Stepping leaves one record, and one more if it ends the flow. -/
theorem Playing.passages_stepped
    {next : Board}
    (playing : Playing pods board flow)
    (bounded : next.progress ≤ pods.length)
    (now : Timestamp)
    (kind : String) :
    (flow.stepped now kind next).machine.history.passages =
      flow.machine.history.passages ++
        stepPassage now kind :: endPassages now (flow.stepped now kind next) := by
  obtain ⟨passages, _⟩ := (playing.replayed bounded now kind).passages_entered now
  rw [stepped, passages, replaying, History.record, List.append_assoc]
  rfl

theorem Playing.logs_stepped
    {next : Board}
    {kind : String}
    (playing : Playing pods board flow)
    (logs : flow.Logs)
    (bounded : next.progress ≤ pods.length)
    (navigates : kind ∈ navigationEvents)
    (moved : next.progress = tallied board.progress kind)
    (now : Timestamp) :
    (flow.stepped now kind next).Logs := by
  have replayed := playing.replayed bounded now kind
  apply replayed.logs_entered _ now
  have before := logs.logged
  rw [playing.alive] at before
  refine ⟨?_, ?_⟩
  · rw [replayed.alive]
    exact before.step navigates now
  · rw [replayed.keeps.progress_eq, moved, ← playing.keeps.progress_eq, logs.progress, replaying,
      History.events, History.events, History.record, List.map_append, List.map_singleton,
      tally_concat]

/-! ## Inside a call -/

/-- A flow between two calls or inside one: it is not started, asks a pod, or has ended. -/
inductive Midway (pods : List Definition) (flow : Flow κ) : Prop
  | unstarted {board : Board} (unstarted : Unstarted pods board flow)
  | asking
      {board : Board}
      {pod : Definition}
      {question : Instance Unit}
      {pending : List Signal}
      (asking : Asking pods board pod question pending flow)
  | ended {board : Board} (ended : Ended pods board flow)

theorem Entered.midway (entered : Entered pods board flow) : Midway pods flow := by
  rcases entered with ⟨id, pod, asking⟩ | ended
  · exact .asking asking
  · exact .ended ended

theorem AtRest.midway
    {started : Bool}
    (rest : AtRest pods board started flow) :
    Midway pods flow := by
  cases started with
  | false => exact .unstarted rest
  | true =>
    rcases Resting.stands rest with ⟨pod, question, asking⟩ | ended
    · exact .asking asking
    · exact .ended ended

/-- The flows that a flow passes through in a call that starts it or sends it an event, whether
or not that call returns. -/
inductive Passes (last : Flow κ) : Flow κ → Prop
  | rest : Passes last last
  | opened
      {now : Timestamp}
      {turn : Turn (Flow κ) κ Unit}
      (idle : last.machine.status = .idle)
      (returned : opening now last = some turn) :
      Passes last turn.next
  | delivered
      {now : Timestamp}
      {event : Event}
      {turn : Turn (Flow κ) κ Outcome}
      (returned : delivering now event last = some turn) :
      Passes last turn.next
  | handled
      {now : Timestamp}
      {flow : Flow κ}
      {envelope : Envelope}
      {later : List Envelope}
      {turn : Turn (Flow κ) κ Unit}
      (passes : Passes last flow)
      (queue : flow.mailbox.queue = envelope :: later)
      (returned : handle now envelope { flow with mailbox := ⟨later⟩ } = some turn) :
      Passes last turn.next

theorem stepEvent_navigates (step : Pod.Ending) : stepEvent step ∈ navigationEvents := by
  cases step <;> decide

/-- A step moves the progress as the log has it. -/
theorem progress_after_stepEvent
    (pods : List Definition)
    (board : Board)
    (step : Pod.Ending) :
    (board.after pods (.ofEnding step)).progress = tallied board.progress (stepEvent step) := by
  cases step <;> rfl

section Envelopes

variable {envelope : Envelope} {later : List Envelope}

/-- A flow that asks a pod keeps its log when it acts on an envelope. -/
theorem Asking.handle_logs
    (asking : Asking pods board pod question pending flow)
    (logs : flow.Logs)
    (queue : flow.mailbox.queue = envelope :: later)
    (now : Timestamp) :
    ∃ turn, Flow.handle now envelope { flow with mailbox := ⟨later⟩ } = some turn ∧
      Midway pods turn.next ∧ turn.next.Logs := by
  have opened : ({ flow with mailbox := ⟨later⟩ } : Flow κ).Logs := logs.congr rfl rfl rfl
  by_cases source : envelope.source = question.id
  · rcases asking.own_cases queue source with
      ⟨early, trail⟩ | ⟨notice, name, notify, kind, named, trail⟩ | ⟨step, proper, told⟩
    · obtain ⟨handled, _, still⟩ := asking.handle_early queue trail early now
      exact ⟨_, handled, .asking still, opened⟩
    · obtain ⟨handled, _, saved⟩ := asking.handle_saved queue source trail notify kind named now
      have same := saved.keeps.progress_eq.trans asking.keeps.progress_eq.symm
      exact ⟨_, handled, .asking saved, opened.congr rfl rfl same⟩
    · obtain ⟨⟨sent, handled⟩, _, entered⟩ :=
        asking.handle_stepped queue source proper told now
      have inside := (List.getElem?_eq_some_iff.1 asking.found).1
      have bounded := Board.progress_after_le pods inside (.ofEnding step)
      exact ⟨_, handled, entered.midway, (asking.opened queue).logs_stepped opened bounded
        (stepEvent_navigates step) (progress_after_stepEvent pods board step) now⟩
  · obtain ⟨handled, _, still⟩ := asking.handle_stale queue source now
    exact ⟨_, handled, .asking still, opened⟩

/-- Acting on an envelope keeps the log. -/
theorem Midway.handle_logs
    {turn : Turn (Flow κ) κ Unit}
    (midway : Midway pods flow)
    (logs : flow.Logs)
    (queue : flow.mailbox.queue = envelope :: later)
    (returned : Flow.handle now envelope { flow with mailbox := ⟨later⟩ } = some turn) :
    Midway pods turn.next ∧ turn.next.Logs := by
  cases midway with
  | unstarted unstarted =>
    rw [unstarted.quiet] at queue
    cases queue
  | asking asking =>
    obtain ⟨other, handled, kept⟩ := asking.handle_logs logs queue now
    rw [handled] at returned
    cases returned
    exact kept
  | ended ended =>
    obtain ⟨handled, _, still⟩ := ended.handle envelope later now
    rw [handled] at returned
    cases returned
    exact ⟨.ended still, logs.congr rfl rfl rfl⟩

end Envelopes

/-- Delivering an event to a flow at rest keeps its log. -/
theorem AtRest.delivering_logs
    {started : Bool}
    {event : Event}
    {turn : Turn (Flow κ) κ Outcome}
    (rest : AtRest pods board started flow)
    (logs : flow.Logs)
    (returned : delivering now event flow = some turn) :
    Midway pods turn.next ∧ turn.next.Logs := by
  by_cases running : flow.machine.status = .running
  · obtain ⟨pod, question, asking⟩ := rest.asking_of_running running
    by_cases kind : event.kind = startFreshEvent
    · obtain ⟨⟨sent, delivered⟩, entered⟩ := asking.restarting kind now
      rw [delivered] at returned
      cases returned
      have navigates : event.kind ∈ navigationEvents := by simp [kind, navigationEvents]
      have moved : (board.after pods .restart).progress = tallied board.progress event.kind := by
        rw [kind]
        rfl
      exact ⟨entered.midway,
        asking.logs_stepped logs (Nat.zero_le _) navigates moved now⟩
    · obtain ⟨_, _, heard, _⟩ := asking.given rest.quiet now event
      rw [asking.delivering_eq kind now] at returned
      cases returned
      exact ⟨.asking heard, logs.congr rfl rfl rfl⟩
  · obtain ⟨error, _, delivered, _⟩ := send_eq_of_not_running running now event
    rw [delivered] at returned
    cases returned
    exact ⟨rest.midway, logs⟩

/-- Opening a flow at rest keeps its log. -/
theorem AtRest.opening_logs
    {started : Bool}
    {turn : Turn (Flow κ) κ Unit}
    (rest : AtRest pods board started flow)
    (logs : flow.Logs)
    (idle : flow.machine.status = .idle)
    (returned : opening now flow = some turn) :
    Midway pods turn.next ∧ turn.next.Logs := by
  cases started with
  | false =>
    have unstarted : Unstarted pods board flow := rest
    obtain ⟨⟨sent, opened⟩, entered⟩ := unstarted.opening now
    rw [opened] at returned
    cases returned
    refine ⟨entered.midway, unstarted.playing.logs_entered ?_ now⟩
    exact logs.congr (by simp [isDone, Instance.isDone, idle]) rfl rfl
  | true => exact absurd idle (Resting.begun rest)

/-- Whatever a flow at rest passes through keeps its log. -/
theorem AtRest.passes_logs
    {started : Bool}
    {last : Flow κ}
    (rest : AtRest pods board started last)
    (logs : last.Logs)
    (passes : Passes last flow) :
    Midway pods flow ∧ flow.Logs := by
  induction passes with
  | rest => exact ⟨rest.midway, logs⟩
  | opened idle returned => exact rest.opening_logs logs idle returned
  | delivered returned => exact rest.delivering_logs logs returned
  | handled _ queue returned ih => exact ih.1.handle_logs ih.2 queue returned

/-! ## Whole runs -/

theorem passes_pump
    {last : Flow κ}
    {fuel : Nat}
    {turn : Turn (Flow κ) κ Unit}
    (passes : Passes last flow)
    (returned : pump now fuel flow = some turn) :
    Passes last turn.next := by
  induction fuel generalizing flow turn with
  | zero => simp [pump] at returned
  | succ fuel ih =>
    cases queue : flow.mailbox.queue with
    | nil =>
      rw [pump_of_quiet queue] at returned
      cases returned
      exact passes
    | cons envelope later =>
      have opens : flow.mailbox.next? = some (envelope, ⟨later⟩) := by rw [Mailbox.next?, queue]
      unfold pump at returned
      simp only [Call.bind_apply, nextEnvelope, opens] at returned
      cases handled : handle now envelope { flow with mailbox := ⟨later⟩ } with
      | none => simp [handled] at returned
      | some called =>
        -- The flow is passed through even if the envelope made it fail, which ends the call.
        have passed := passes.handled queue handled
        obtain ⟨next, _ | value, sent⟩ := called
        · simp only [handled, Option.map_some, Option.some.injEq] at returned
          subst returned
          exact passed
        · simp only [handled, Option.map_map] at returned
          obtain ⟨final, pumped, rfl⟩ := Option.map_eq_some_iff.1 returned
          have ends : Passes last final.next := ih passed pumped
          exact ends

/-- A call that returns ends with a flow that it passes through. -/
theorem passes_of_settled
    {α : Type}
    {call : Call (Flow κ) κ α}
    {called turn : Turn (Flow κ) κ α}
    {value : α}
    (calledEq : call flow = some called)
    (fine : called.result = .ok value)
    (passes : Passes flow called.next)
    (returned : (do
      let value ← call
      settle now
      return value) flow = some turn) :
    Passes flow turn.next := by
  obtain ⟨_, settled, settledEq, same, _⟩ := settle_after calledEq fine returned
  rw [settle_eq_pump] at settledEq
  rw [same]
  exact passes_pump passes settledEq

/-- Sending an event to a flow at rest passes through what it ends with. -/
theorem AtRest.passes_send
    {started : Bool}
    {event : Event}
    {turn : Turn (Flow κ) κ Outcome}
    (rest : AtRest pods board started flow)
    (returned : Flow.send now event flow = some turn) :
    Passes flow turn.next := by
  by_cases running : flow.machine.status = .running
  · obtain ⟨pod, question, asking⟩ := rest.asking_of_running running
    rw [send_eq] at returned
    by_cases kind : event.kind = startFreshEvent
    · obtain ⟨⟨sent, delivered⟩, _⟩ := asking.restarting kind now
      exact passes_of_settled delivered rfl (.delivered delivered) returned
    · obtain ⟨outcome, _, delivered⟩ := asking.delivering kind now
      exact passes_of_settled delivered rfl (.delivered delivered) returned
  · rw [(send_of_not_running running returned).1]
    exact .rest

/-- Starting a flow at rest passes through what it ends with. -/
theorem AtRest.passes_start
    {started : Bool}
    {turn : Turn (Flow κ) κ Unit}
    (rest : AtRest pods board started flow)
    (returned : Flow.start now flow = some turn) :
    Passes flow turn.next := by
  cases started with
  | false =>
    have unstarted : Unstarted pods board flow := rest
    obtain ⟨⟨sent, opened⟩, _⟩ := unstarted.opening now
    rw [start_of_idle unstarted.idle] at returned
    exact passes_of_settled opened rfl (.opened unstarted.idle opened) returned
  | true =>
    rw [start_of_begun (Resting.begun rest)] at returned
    cases returned
    exact .rest

/-- Every action keeps the log of a flow at rest. -/
theorem AtRest.perform_logs
    {started : Bool}
    {action : Action κ}
    {next : Flow κ}
    (rest : AtRest pods board started flow)
    (logs : flow.Logs)
    (returned : Flow.perform action flow = some next) :
    next.Logs := by
  cases action with
  | start now =>
    obtain ⟨turn, startReturned, rfl⟩ := Option.map_eq_some_iff.1 returned
    exact (rest.passes_logs logs (rest.passes_start startReturned)).2
  | send now event =>
    obtain ⟨turn, sendReturned, rfl⟩ := Option.map_eq_some_iff.1 returned
    exact (rest.passes_logs logs (rest.passes_send sendReturned)).2
  | subscribe outlet =>
    cases returned
    exact logs.congr rfl rfl rfl
  | unsubscribe subscription =>
    cases returned
    exact logs.congr rfl rfl rfl

/-- Every run keeps the log of a flow at rest. -/
theorem AtRest.run_logs
    {started : Bool}
    {actions : List (Action κ)}
    {last : Flow κ}
    (rest : AtRest pods board started flow)
    (logs : flow.Logs)
    (returned : Flow.run actions flow = some last) :
    last.Logs := by
  induction actions generalizing board started flow with
  | nil =>
    cases returned
    exact logs
  | cons action actions ih =>
    obtain ⟨next, performed, later⟩ := Option.bind_eq_some_iff.1 returned
    exact ih (rest.perform performed) (rest.perform_logs logs performed) later

theorem logs_of_create
    {id : InstanceId}
    {seeds : Fields}
    (created : Flow.create id pods seeds = .ok flow) :
    flow.Logs := by
  obtain ⟨_, rfl⟩ := create_eq_ok_iff.1 created
  exact ⟨.nothing, (unstarted_of_create created).keeps.progress_eq⟩

/-! ## What is recorded -/

/-- What a flow inside a call records of an envelope.  The signal of a replaced pod and a step
back before the first question are dropped as if they had not come; an answer, or an event that
the flow has no transition for, leaves no record; and a navigation event leaves one. -/
structure Records (flow : Flow κ) : Prop where
  stale : ∀ now envelope, flow.active.isCurrent envelope.source = false →
    handle now envelope flow = some ⟨flow, .ok (), []⟩
  early : ∀ now envelope, flow.retreatsBeforeFirst (eventOf envelope.signal) = true →
    handle now envelope flow = some ⟨flow, .ok (), []⟩
  silent : ∀ now envelope, (eventOf envelope.signal).kind ∉ doneEvent :: navigationEvents →
    ∃ turn, handle now envelope flow = some turn ∧
      turn.next.machine.history = flow.machine.history ∧ turn.next.progress = flow.progress
  steps : ∀ now envelope, flow.active.isCurrent envelope.source = true →
    flow.retreatsBeforeFirst (eventOf envelope.signal) = false →
    (eventOf envelope.signal).kind ∈ navigationEvents →
    ∃ turn, handle now envelope flow = some turn ∧
      turn.next.machine.history.passages = flow.machine.history.passages ++
        stepPassage now (eventOf envelope.signal).kind :: endPassages now turn.next

theorem exists_move_of_navigation
    {event : Event}
    (navigates : event.kind ∈ navigationEvents) :
    ∃ move, Move.ofEvent? event = some move ∧ move.isNavigation = true := by
  simp only [navigationEvents, List.mem_cons, List.not_mem_nil, or_false] at navigates
  unfold Move.ofEvent?
  rcases navigates with kind | kind | kind
  · exact ⟨.advance, by rw [kind]; rfl, rfl⟩
  · exact ⟨.retreat, by rw [kind]; rfl, rfl⟩
  · exact ⟨.restart, by rw [kind]; rfl, rfl⟩

/-- On a navigation event a flow that asks a pod steps. -/
theorem Asking.dispatch_navigation
    {event : Event}
    (asking : Asking pods board pod question pending flow)
    (navigates : event.kind ∈ navigationEvents)
    (now : Timestamp) :
    ∃ next sent, Flow.dispatch now event flow =
        some ⟨flow.stepped now event.kind next, .ok (.transitioned playing playing), sent⟩ ∧
      next.progress ≤ pods.length := by
  obtain ⟨move, read, isNavigation⟩ := exists_move_of_navigation navigates
  have inside := (List.getElem?_eq_some_iff.1 asking.found).1
  have bounded := Board.progress_after_le pods inside move
  obtain ⟨⟨sent, returned⟩, _⟩ :=
    asking.toPlaying.dispatch_navigation read isNavigation bounded now
  exact ⟨board.after pods move, sent, returned, bounded⟩

/-- The state in which a flow asks reacts to five events. -/
theorem transition?_playing_eq_none
    {kind : String}
    (noAnswer : kind ≠ answerEvent)
    (silent : kind ∉ doneEvent :: navigationEvents) :
    Flow.definition.transition? playing kind = none := by
  simp only [navigationEvents, List.mem_cons, List.not_mem_nil, or_false, not_or] at silent
  obtain ⟨notDone, notNext, notPrevious, notFresh⟩ := silent
  show (KeyMap.ofList _).get? kind = none
  rw [KeyMap.get?_ofList]
  simp [KeyMap.lookup_cons_if, noAnswer, notDone, notNext, notPrevious, notFresh]

/-- An answer that does not name its question changes nothing. -/
theorem Keeps.dispatch_unnamed
    {machine : Instance κ}
    {event : Event}
    (keeps : Keeps pods board machine)
    (running : machine.status = .running)
    (kind : event.kind = answerEvent)
    (unnamed : event.text? Pod.questionKey = none)
    (now : Timestamp) :
    machine.dispatch now event = ⟨machine, .ok (.stayed playing), []⟩ := by
  have found : machine.transition? event.kind =
      some ⟨none, [(saveAnswerEffect, .assign savedAnswer)]⟩ :=
    keeps.transition?_eq running (by rw [kind]; rfl) rfl
  have nothing : savedAnswer (machine.input event) = ∅ := by
    rw [savedAnswer, show (machine.input event).event = event from rfl, unnamed]
  have updated : (⟨none, [(saveAnswerEffect, .assign savedAnswer)]⟩ :
      ResolvedTransition).update (machine.input event) = machine.context := by
    show machine.context.merge (savedAnswer (machine.input event)) = machine.context
    rw [nothing, KeyMap.merge_empty]
  rw [Instance.dispatch_eq_follow running found, Instance.follow_stay rfl, updated,
    ← keeps.playing_of_running running]
  rfl

/-- On an event that is neither navigation nor the end, the machine of a flow changes its
context at most. -/
theorem Keeps.dispatch_silent
    {machine : Instance κ}
    {event : Event}
    (keeps : Keeps pods board machine)
    (running : machine.status = .running)
    (silent : event.kind ∉ doneEvent :: navigationEvents)
    (now : Timestamp) :
    ∃ context outcome, machine.dispatch now event =
        ⟨{ machine with context }, .ok outcome, []⟩ ∧
      (outcome = .ignored ∨ outcome = .stayed playing) ∧ progressOf context = board.progress := by
  have still : progressOf machine.context = board.progress := by
    rw [keeps.context, Board.progressOf_context]
  by_cases kind : event.kind = answerEvent
  · cases named : event.text? Pod.questionKey with
    | none => exact ⟨_, _, keeps.dispatch_unnamed running kind named now, .inr rfl, still⟩
    | some name =>
      exact ⟨_, _, keeps.dispatch_save running kind named now, .inr rfl, Board.progressOf_context⟩
  · have undeclared : machine.definition.transition? machine.current event.kind = none := by
      rw [keeps.definition, keeps.playing_of_running running]
      exact transition?_playing_eq_none kind silent
    exact ⟨_, _, keeps.sound.dispatch_of_undeclared running undeclared now, .inl rfl, still⟩

/-- A flow that asks a pod does no more on such an event. -/
theorem Playing.dispatch_silent
    {event : Event}
    (playing : Playing pods board flow)
    (silent : event.kind ∉ doneEvent :: navigationEvents)
    (now : Timestamp) :
    ∃ context outcome, Flow.dispatch now event flow =
        some ⟨{ flow with machine := { flow.machine with context } }, .ok outcome, []⟩ ∧
      progressOf context = flow.progress := by
  obtain ⟨context, outcome, dispatched, nothing, progress⟩ :=
    playing.keeps.dispatch_silent playing.running silent now
  refine ⟨context, outcome, ?_, progress.trans playing.keeps.progress_eq.symm⟩
  unfold Flow.dispatch onMachine react
  rcases nothing with rfl | rfl <;> simp [Call.bind_apply, Call.within, dispatched]

theorem Asking.records (asking : Asking pods board pod question pending flow) : Records flow where
  stale now envelope replaced := (handle_of_dropped flow envelope (by simp [replaced]) now).1
  early now envelope first := (handle_of_dropped flow envelope (by simp [first]) now).1
  silent := by
    intro now envelope silent
    by_cases dropped : (!flow.active.isCurrent envelope.source ||
        flow.retreatsBeforeFirst (eventOf envelope.signal)) = true
    · exact ⟨_, (handle_of_dropped flow envelope dropped now).1, rfl, rfl⟩
    · simp only [Bool.or_eq_true, Bool.not_eq_true', not_or, Bool.not_eq_false,
        Bool.not_eq_true] at dropped
      obtain ⟨context, outcome, dispatched, progress⟩ :=
        asking.toPlaying.dispatch_silent silent now
      exact ⟨_, (handle_of_dispatch dropped.1 dropped.2 dispatched rfl).1, rfl, progress⟩
  steps := by
    intro now envelope current proper navigates
    obtain ⟨next, sent, dispatched, bounded⟩ := asking.dispatch_navigation navigates now
    exact ⟨_, (handle_of_dispatch current proper dispatched rfl).1,
      asking.passages_stepped bounded now _⟩

/-- A flow that asks nothing drops every envelope. -/
theorem records_of_inactive (inactive : flow.active = .empty) : Records flow := by
  have stale (envelope : Envelope) : flow.active.isCurrent envelope.source = false := by
    simp [inactive, ChildSlot.empty, ChildSlot.isCurrent, ChildSlot.child?]
  have dropped (now : Timestamp) (envelope : Envelope) :
      handle now envelope flow = some ⟨flow, .ok (), []⟩ :=
    (handle_of_dropped flow envelope (by simp [stale]) now).1
  refine ⟨fun now envelope _ => dropped now envelope, fun now envelope _ => dropped now envelope,
    fun now envelope _ => ⟨_, dropped now envelope, rfl, rfl⟩, ?_⟩
  intro now envelope current
  simp [stale] at current

theorem Midway.records (midway : Midway pods flow) : Records flow := by
  cases midway with
  | unstarted unstarted => exact records_of_inactive unstarted.active
  | asking asking => exact asking.records
  | ended ended => exact records_of_inactive ended.active

/-- What a flow at rest records of a call before it hears of its pods.  To be started leaves no
record, nor does an event that is up to the pod, which is as if it had not come if the pod
ignores it; to start again leaves one. -/
structure RecordsCalls (flow : Flow κ) : Prop where
  opening : flow.machine.status = .idle → ∀ now, ∃ turn, opening now flow = some turn ∧
    turn.next.machine.history.passages =
      flow.machine.history.passages ++ endPassages now turn.next
  restart : flow.machine.status = .running → ∀ now event, event.kind = startFreshEvent →
    ∃ turn, delivering now event flow = some turn ∧
      turn.next.machine.history.passages = flow.machine.history.passages ++
        stepPassage now startFreshEvent :: endPassages now turn.next
  other : ∀ now event, ¬(flow.machine.status = .running ∧ event.kind = startFreshEvent) →
    ∃ turn, delivering now event flow = some turn ∧ turn.next.machine = flow.machine
  ignored : flow.machine.status = .running → ∀ now event question,
    event.kind ≠ startFreshEvent → flow.question? = some question →
    (question.dispatch now event).result = .ok .ignored →
    Flow.send now event flow = some ⟨flow, .ok .ignored, []⟩

theorem AtRest.recordsCalls
    {started : Bool}
    (rest : AtRest pods board started flow) :
    RecordsCalls flow where
  opening := by
    intro idle now
    cases started with
    | false =>
      have unstarted : Unstarted pods board flow := rest
      obtain ⟨⟨sent, opened⟩, _⟩ := unstarted.opening now
      exact ⟨_, opened, (unstarted.playing.passages_entered now).1⟩
    | true => exact absurd idle (Resting.begun rest)
  restart := by
    intro running now event kind
    obtain ⟨pod, question, asking⟩ := rest.asking_of_running running
    obtain ⟨⟨sent, delivered⟩, _⟩ := asking.restarting kind now
    have first : (board.after pods .restart).progress ≤ pods.length := Nat.zero_le _
    exact ⟨_, delivered, kind ▸ asking.passages_stepped first now event.kind⟩
  other := by
    intro now event other
    by_cases running : flow.machine.status = .running
    · obtain ⟨pod, question, asking⟩ := rest.asking_of_running running
      have kind : event.kind ≠ startFreshEvent := fun kind => other ⟨running, kind⟩
      exact ⟨_, asking.delivering_eq kind now, rfl⟩
    · obtain ⟨error, _, delivered, _⟩ := send_eq_of_not_running running now event
      exact ⟨_, delivered, rfl⟩
  ignored := by
    intro running now event other kind current ignored
    obtain ⟨pod, question, asking⟩ := rest.asking_of_running running
    have same : question = other := by
      simpa [question?, asking.active, ChildSlot.child?] using current
    subst same
    apply asking.send_of_undeclared rest.quiet kind _ now
    cases declared : pod.transition? question.current event.kind with
    | none => rfl
    | some transition =>
      have advertised : event.kind ∈ question.nextEvents :=
        Instance.mem_nextEvents_iff.2 ⟨transition, by rw [asking.asked.definition, declared]⟩
      obtain ⟨outcome, fine, taken⟩ :=
        asking.asked.sound.result_of_advertised asking.question_running advertised now
      rw [fine] at ignored
      exact absurd (Except.ok.inj ignored) taken

/-- After every run the history of a flow is the log of its navigation, which adds up to the
progress, and so it is whatever the flow passes through in the next call, whether or not that
call returns.  All that is recorded is navigation and the end. -/
theorem logs_navigation_of_run
    {id : InstanceId}
    {seeds : Fields}
    {first last : Flow κ}
    {actions : List (Action κ)}
    (created : Flow.create id pods seeds = .ok first)
    (returned : Flow.run actions first = some last) :
    last.Logs ∧ RecordsCalls last ∧
      ∀ flow, Passes last flow → flow.Logs ∧ Records flow := by
  have fresh : AtRest pods ⟨0, seeds, ∅⟩ false first := unstarted_of_create created
  have logs := fresh.run_logs (logs_of_create created) returned
  have rest := atRest_of_run created returned
  refine ⟨logs, rest.recordsCalls, ?_⟩
  intro flow passes
  obtain ⟨midway, passed⟩ := rest.passes_logs logs passes
  exact ⟨passed, midway.records⟩

/-- The log of a flow that steps back, bounces off a pod that is never seen, starts again and
runs out of pods. -/
theorem logs_navigation_of_detour :
    ∃ first last : Flow Unit,
      Flow.create hostId detour ∅ = .ok first ∧
      Flow.run [.start default, .send default (.ofKind Pod.submit),
        .send default (.ofKind Pod.goBack), .send default (.ofKind startFreshEvent),
        .send default (.ofKind Pod.submit), .send default (.ofKind Pod.submit)] first =
          some last ∧
      last.machine.history.events = [nextEvent, nextEvent, previousEvent, nextEvent,
        startFreshEvent, nextEvent, nextEvent, nextEvent, doneEvent] ∧
      last.Logs ∧ RecordsCalls last ∧
      ∀ flow, Passes last flow → flow.Logs ∧ Records flow := by
  obtain ⟨first, last, created, returned, passed⟩ :=
    exists_run_of_check hostId detour ∅
      [.start default, .send default (.ofKind Pod.submit),
        .send default (.ofKind Pod.goBack), .send default (.ofKind startFreshEvent),
        .send default (.ofKind Pod.submit), .send default (.ofKind Pod.submit)]
      (fun _ last : Flow Unit => decide (last.machine.history.events =
        [nextEvent, nextEvent, previousEvent, nextEvent, startFreshEvent, nextEvent, nextEvent,
          nextEvent, doneEvent])) (by decide +kernel)
  exact ⟨first, last, created, returned, of_decide_eq_true passed,
    logs_navigation_of_run created returned⟩

end Flow
end Questionnaire
