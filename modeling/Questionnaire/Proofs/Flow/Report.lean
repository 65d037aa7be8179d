import Questionnaire.Proofs.Call
import Questionnaire.Proofs.Flow.Run
import Questionnaire.Proofs.Instance.Report

/-!
# What a flow reports

A flow tells its subscribers nothing until it ends, and then tells them the answers once.
This holds of each of its calls because it holds of the calls on its machine, and
nothing else of the flow is heard outside.  A flow that runs answers every event; before it
was started and after it has ended it refuses every event, and nothing else ever fails.
-/

namespace Questionnaire
namespace Flow

variable {κ α : Type} {pods : List Definition} {board : Board} {pod : Definition}
  {question : Instance Unit} {pending : List Signal} {flow : Flow κ} {now : Timestamp}

/-- The effects of a flow's machine send no notifications. -/
theorem mute_effects (pods : List Definition) : (effects pods).Mute :=
  EffectTable.mute_empty
    |>.assign saveAnswerEffect savedAnswer
    |>.assign advanceEffect advanced
    |>.assign retreatEffect (retreated pods)
    |>.assign startFreshEffect _

/-! ## Calls on a flow -/

/-- A flow with a sound machine keeps its pods and the machine sound, and tells nothing but
the farewell of the machine. -/
def Reports (before after : Flow κ) (sent : List (Delivery κ)) : Prop :=
  before.machine.Sound (effects before.pods) →
    after.pods = before.pods ∧ after.machine.Sound (effects after.pods) ∧
      before.machine.Tells after.machine sent

theorem composes_reports : Call.Composes (Reports (κ := κ)) where
  nothing := fun flow sound => ⟨rfl, sound, .refl flow.machine⟩
  followed := by
    intro first second third sent more before after sound
    obtain ⟨samePods, stillSound, tells⟩ := before sound
    obtain ⟨samePodsLater, soundLater, tellsLater⟩ := after stillSound
    exact ⟨samePodsLater.trans samePods, soundLater, tells.trans tellsLater⟩

/-- Nothing is told while the machine and the pods stay as they are. -/
theorem reports_of_same
    {after : Flow κ}
    (machine : after.machine = flow.machine)
    (pods : after.pods = flow.pods) :
    Reports flow after [] := by
  intro sound
  rw [machine, pods]
  exact ⟨rfl, sound, .refl flow.machine⟩

theorem reports_onMachine
    {call : Instance κ → Turn (Instance κ) κ α}
    (told : ∀ (pods : List Definition) (machine : Instance κ), machine.Sound (effects pods) →
      (call machine).next.Sound (effects pods) ∧
        machine.Tells (call machine).next (call machine).sent) :
    Call.Ensures Reports (onMachine call) := by
  apply Call.Ensures.within
  intro flow turn called sound
  cases called
  obtain ⟨stillSound, tells⟩ := told flow.pods flow.machine sound
  exact ⟨rfl, stillSound, tells⟩

theorem reports_machine_dispatch (now : Timestamp) (event : Event) :
    Call.Ensures Reports (onMachine (Instance.dispatch now event) : Call (Flow κ) κ Outcome) :=
  reports_onMachine fun pods _ sound =>
    ⟨sound.dispatch now event, sound.tells_dispatch (mute_effects pods) now event⟩

theorem reports_onActive (call : Call (ChildSlot Instance Unit) Unit α) :
    Call.Ensures Reports (onActive call : Call (Flow κ) κ α) :=
  Call.Ensures.within fun _ _ _ => reports_of_same rfl rfl

theorem reports_dropActive : Call.Ensures Reports (dropActive : Call (Flow κ) κ Unit) :=
  Call.Ensures.change fun _ => reports_of_same rfl rfl

theorem reports_nextEnvelope :
    Call.Ensures Reports (nextEnvelope : Call (Flow κ) κ (Option Envelope)) := by
  intro flow turn returned
  unfold nextEnvelope at returned
  split at returned
  · cases returned
    exact reports_of_same rfl rfl
  · cases returned
    exact reports_of_same rfl rfl

theorem reports_spawn (now : Timestamp) (pod : Definition) :
    Call.Ensures Reports (spawn now pod : Call (Flow κ) κ Unit) := by
  apply Call.Ensures.bind composes_reports (.present composes_reports)
  intro flow
  split
  · exact .fail composes_reports _
  · refine Call.Ensures.bind composes_reports (.change ?_) ?_
    · exact fun _ => reports_of_same rfl rfl
    intro _
    apply Call.Ensures.bind composes_reports (reports_onActive _)
    intro _
    exact .pure composes_reports ()

theorem reports_enterPlaying (now : Timestamp) :
    Call.Ensures Reports (enterPlaying now : Call (Flow κ) κ Unit) := by
  apply Call.Ensures.bind composes_reports reports_dropActive
  intro _
  apply Call.Ensures.bind composes_reports (.present composes_reports)
  intro flow
  split
  · exact reports_spawn now _
  · apply Call.Ensures.bind composes_reports (reports_machine_dispatch now _)
    intro outcome
    split
    · exact reports_dropActive
    · exact .pure composes_reports ()

theorem reports_dispatch (now : Timestamp) (event : Event) :
    Call.Ensures Reports (Flow.dispatch now event : Call (Flow κ) κ Outcome) := by
  apply Call.Ensures.bind composes_reports (reports_machine_dispatch now event)
  intro outcome
  refine Call.Ensures.bind composes_reports ?_ fun _ => .pure composes_reports outcome
  unfold react
  split
  · split
    · exact reports_enterPlaying now
    · exact .pure composes_reports ()
  · exact reports_dropActive
  · exact .pure composes_reports ()

theorem reports_handle (now : Timestamp) (envelope : Envelope) :
    Call.Ensures Reports (handle now envelope : Call (Flow κ) κ Unit) := by
  apply Call.Ensures.bind composes_reports (.present composes_reports)
  intro flow
  dsimp only
  split
  · exact .pure composes_reports ()
  · apply Call.Ensures.bind composes_reports (reports_dispatch now _)
    intro _
    exact .pure composes_reports ()

theorem reports_pump (now : Timestamp) (fuel : Nat) :
    Call.Ensures Reports (pump now fuel : Call (Flow κ) κ Unit) := by
  induction fuel with
  | zero => exact .stuck
  | succ fuel ih =>
    apply Call.Ensures.bind composes_reports reports_nextEnvelope
    intro envelope?
    split
    · exact .pure composes_reports ()
    · apply Call.Ensures.bind composes_reports (reports_handle now _)
      intro _
      exact ih

theorem reports_settle (now : Timestamp) :
    Call.Ensures Reports (settle now : Call (Flow κ) κ Unit) := by
  apply Call.Ensures.bind composes_reports (.present composes_reports)
  intro flow
  exact reports_pump now _

theorem reports_start (now : Timestamp) :
    Call.Ensures Reports (Flow.start now : Call (Flow κ) κ Unit) := by
  apply Call.Ensures.bind composes_reports (.present composes_reports)
  intro flow
  split
  · exact .pure composes_reports ()
  · have started : Call.Ensures Reports (onMachine Instance.start : Call (Flow κ) κ Unit) :=
      reports_onMachine fun _ _ sound => ⟨sound.start, sound.tells_start⟩
    apply Call.Ensures.bind composes_reports started
    intro _
    apply Call.Ensures.bind composes_reports (reports_enterPlaying now)
    intro _
    exact reports_settle now

theorem reports_delivering (now : Timestamp) (event : Event) :
    Call.Ensures Reports (delivering now event : Call (Flow κ) κ Outcome) := by
  apply Call.Ensures.bind composes_reports (.present composes_reports)
  intro flow
  split
  · exact reports_dispatch now event
  · exact reports_onActive _

theorem reports_send (now : Timestamp) (event : Event) :
    Call.Ensures Reports (Flow.send now event : Call (Flow κ) κ Outcome) := by
  rw [send_eq]
  apply Call.Ensures.bind composes_reports (reports_delivering now event)
  intro outcome
  apply Call.Ensures.bind composes_reports (reports_settle now)
  intro _
  exact .pure composes_reports outcome

/-! ## Answers -/

/-- A flow that asks a pod answers every event. -/
theorem Asking.result_send
    {event : Event}
    {turn : Turn (Flow κ) κ Outcome}
    (asking : Asking pods board pod question [] flow)
    (quiet : flow.mailbox.queue = [])
    (returned : Flow.send now event flow = some turn) :
    ∃ outcome, turn.result = .ok outcome := by
  rw [send_eq] at returned
  by_cases kind : event.kind = startFreshEvent
  · obtain ⟨⟨sent, delivered⟩, entered⟩ := asking.restarting kind now
    obtain ⟨_, settled, settledEq, _, result⟩ := settle_after delivered rfl returned
    obtain ⟨settledFine, _⟩ := entered.hushed.settle settledEq
    exact ⟨_, by rw [result, settledFine]; rfl⟩
  · obtain ⟨outcome, _, delivered⟩ := asking.delivering kind now
    obtain ⟨signals, _, heard, _⟩ := asking.given quiet now event
    obtain ⟨_, settled, settledEq, _, result⟩ := settle_after delivered rfl returned
    obtain ⟨settledFine, _⟩ := heard.settle settledEq
    exact ⟨outcome, by rw [result, settledFine]; rfl⟩

/-- A flow can be started. -/
theorem Unstarted.result_start
    {turn : Turn (Flow κ) κ Unit}
    (unstarted : Unstarted pods board flow)
    (returned : Flow.start now flow = some turn) :
    turn.result = .ok () := by
  obtain ⟨⟨sent, opened⟩, entered⟩ := unstarted.opening now
  rw [start_of_idle unstarted.idle] at returned
  obtain ⟨_, settled, settledEq, _, result⟩ := settle_after opened rfl returned
  obtain ⟨settledFine, _⟩ := entered.hushed.settle settledEq
  rw [result, settledFine]
  rfl

/-- A running flow answers every event, tells nothing but its farewell, and is at rest
afterwards. -/
theorem Resting.answers_send
    {event : Event}
    {turn : Turn (Flow κ) κ Outcome}
    (rest : Resting pods board flow)
    (running : flow.machine.status = .running)
    (returned : Flow.send now event flow = some turn) :
    (∃ outcome, turn.result = .ok outcome) ∧ (∃ board, Resting pods board turn.next) ∧
      flow.machine.Tells turn.next.machine turn.sent := by
  obtain ⟨pod, question, asking⟩ := rest.asking_of_running running
  have sound : flow.machine.Sound (effects flow.pods) := asking.podsEq ▸ asking.keeps.sound
  exact ⟨asking.result_send rest.quiet returned, ⟨_, rest.send returned⟩,
    (reports_send now event flow turn returned sound).2.2⟩

/-- Starting a flow tells nothing but its farewell, and leaves the flow at rest. -/
theorem Unstarted.answers_start
    {turn : Turn (Flow κ) κ Unit}
    (unstarted : Unstarted pods board flow)
    (returned : Flow.start now flow = some turn) :
    turn.result = .ok () ∧ (∃ board, Resting pods board turn.next) ∧
      flow.machine.Tells turn.next.machine turn.sent := by
  have sound : flow.machine.Sound (effects flow.pods) :=
    unstarted.podsEq ▸ unstarted.keeps.sound
  exact ⟨unstarted.result_start returned, ⟨_, (unstarted.start returned).1⟩,
    (reports_start now flow turn returned sound).2.2⟩

/-! ## Faults -/

/-- The calls on a flow never fail but for misuse.  It can always be started, and once
started stays as it is when it is started again.  It refuses every event before it was
started and after it has ended, which changes nothing of it and sends nothing, and answers
every event while it runs. -/
structure Faultless (flow : Flow κ) : Prop where
  starts : ∀ now turn, Flow.start now flow = some turn →
    turn.result = .ok () ∧ ∀ later, Flow.start later turn.next = some ⟨turn.next, .ok (), []⟩
  begun : flow.machine.status ≠ .idle → ∀ now, Flow.start now flow = some ⟨flow, .ok (), []⟩
  refuses : ∀ error, refusal? flow.machine.status = some error → ∀ now event,
    Flow.send now event flow = some ⟨flow, .error error, []⟩
  answers : flow.machine.status = .running → ∀ now event turn,
    Flow.send now event flow = some turn → ∃ outcome, turn.result = .ok outcome

theorem Unstarted.faultless (unstarted : Unstarted pods board flow) : Faultless flow where
  starts := by
    intro now turn returned
    obtain ⟨fine, ⟨_, rest⟩, _⟩ := unstarted.answers_start returned
    exact ⟨fine, fun _ => start_of_begun rest.begun⟩
  begun := fun begun => absurd unstarted.idle begun
  refuses := fun _ refused => unstarted.keeps.send_of_refusal refused
  answers := fun running => by simp [unstarted.idle] at running

theorem Resting.faultless (rest : Resting pods board flow) : Faultless flow where
  starts := by
    intro now turn returned
    rw [start_of_begun rest.begun] at returned
    cases returned
    exact ⟨rfl, fun _ => start_of_begun rest.begun⟩
  begun := fun begun _ => start_of_begun begun
  refuses := fun _ refused => rest.keeps.send_of_refusal refused
  answers := fun running _ _ _ returned => (rest.answers_send running returned).1

/-- After every run of a flow its calls fail only when it is misused, and then change
nothing. -/
theorem faultless_of_run
    {id : InstanceId}
    {seeds : Fields}
    {first last : Flow κ}
    {actions : List (Action κ)}
    (created : Flow.create id pods seeds = .ok first)
    (reached : Flow.run actions first = some last) :
    Faultless last := by
  have rest := atRest_of_run created reached
  cases started : actions.any Action.isStart with
  | false =>
    rw [started] at rest
    exact Unstarted.faultless rest
  | true =>
    rw [started] at rest
    exact Resting.faultless rest

/-- A flow that has ended refuses even to start again. -/
theorem faultless_of_finished :
    ∃ first last : Flow Unit, Flow.create hostId [questionPod "name"] ∅ = .ok first ∧
      Flow.run [.start default, .send default (.ofKind Pod.submit)] first = some last ∧
      Flow.send default (.ofKind startFreshEvent) last =
        some ⟨last, .error (.protocol (.alreadyTerminated machineId complete)), []⟩ := by
  obtain ⟨first, last, created, reached, passed⟩ :=
    exists_run_of_check hostId [questionPod "name"] ∅
      [.start default, .send default (.ofKind Pod.submit)]
      (fun _ last : Flow Unit => decide (last.machine.status = .done)) (by decide +kernel)
  have done := of_decide_eq_true passed
  have refused := (faultless_of_run created reached).refuses _ (by rw [done]; rfl)
  exact ⟨first, last, created, reached, refused default _⟩

end Flow
end Questionnaire
