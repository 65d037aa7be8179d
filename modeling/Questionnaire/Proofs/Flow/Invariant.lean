import Questionnaire.Proofs.Flow.Run

/-!
# The state of a flow between calls

Between two calls a flow stands in one of three ways.  It was never started; or it asks
the pod at its progress, which runs with an empty context and tells nobody but the flow;
or it has ended, and its output is its answer set.
-/

namespace Questionnaire
namespace Flow

variable {κ : Type} {pods : List Definition} {board : Board} {pod : Definition}
  {question : Instance Unit} {flow : Flow κ}

/-- A flow that was never started has made no progress and asks nothing. -/
structure Waits (started : Bool) (flow : Flow κ) : Prop where
  unstarted : started = false
  progress : flow.progress = 0
  active : flow.active.attached? = none

/-- A child asks a pod on behalf of a flow alone. -/
structure Poses (pod : Definition) (attached : AttachedChild Instance Unit) : Prop where
  definition : attached.child.definition = pod
  running : attached.child.status = .running
  current : ∃ node, attached.child.node? = some node ∧ node.terminal = false
  context : attached.child.context = ∅
  subscribers : attached.child.subscribers = [(attached.subscription, ())]

/-- A flow that has not run out of pods asks the one at its progress. -/
structure Asks (pods : List Definition) (flow : Flow κ) : Prop where
  bounded : flow.progress < pods.length
  active : ∃ attached, flow.active.attached? = some attached ∧
    Poses pods[flow.progress] attached

/-- A flow that has run out of pods asks nothing, and its output is its answer set. -/
structure Concludes (pods : List Definition) (flow : Flow κ) : Prop where
  complete : flow.progress = pods.length
  active : flow.active.attached? = none
  output : flow.output = some (.object flow.answers)

/-- What holds of a flow that is idle, runs, or is done. -/
def Stands (pods : List Definition) (started : Bool) (flow : Flow κ) : Status → Prop
  | .idle => flow.Waits started
  | .running => flow.Asks pods
  | .done => flow.Concludes pods

/-- A context holds a progress, answers and their owners, and nothing else. -/
structure HoldsBoard (context : Fields) : Prop where
  keys : context.keys = [answersKey, ownersKey, progressKey]
  progress : ∃ index : Nat, context.get? progressKey = some (.ofNat index)
  answers : ∃ answers, context.get? answersKey = some (.object answers)
  owners : ∃ owners, context.get? ownersKey = some (.object owners) ∧
    ∀ question owner, owners.get? question = some owner → ∃ index : Int, owner = .int index

theorem Board.holdsBoard (board : Board) : HoldsBoard board.context where
  keys := board.keys_context
  progress := ⟨board.progress, by rw [get?_context, if_pos rfl]⟩
  answers := ⟨board.answers, board.get?_context_answers⟩
  owners := by
    have notProgress : ownersKey ≠ progressKey := by decide
    refine ⟨board.ownerFields, by rw [get?_context, if_neg notProgress, if_pos rfl], ?_⟩
    intro question owner found
    rw [get?_ownerFields] at found
    obtain ⟨index, _, rfl⟩ := Option.map_eq_some_iff.1 found
    exact ⟨index, rfl⟩

/-! ## Each way to stand -/

theorem Keeps.output_of_not_done
    (keeps : Keeps pods board flow.machine)
    (alive : flow.machine.status ≠ .done) :
    flow.output = none := by
  rw [output, keeps.sound.output]
  simp [Instance.isDone, alive]

theorem Unstarted.waits (unstarted : Unstarted pods board flow) : flow.Waits false where
  unstarted := rfl
  progress := unstarted.keeps.progress_eq.trans unstarted.first
  active := by
    rw [unstarted.active]
    rfl

theorem Asking.asks (asking : Asking pods board pod question [] flow) : flow.Asks pods := by
  have progress := asking.keeps.progress_eq
  obtain ⟨inside, found⟩ := List.getElem?_eq_some_iff.1 asking.found
  have bounded : flow.progress < pods.length := progress ▸ inside
  refine ⟨bounded, ⟨question, ⟨0⟩⟩, by rw [asking.active], ?_⟩
  have running := asking.question_running
  obtain ⟨node, current⟩ := asking.asked.sound.current
  have alive := asking.asked.sound.live running
  refine ⟨?_, running, ⟨node, current, ?_⟩, asking.asked.context, asking.asked.subscribers⟩
  · simp only [progress]
    rw [found]
    exact asking.asked.definition
  · rw [Instance.node?] at current
    rw [Instance.atTerminal, Definition.isTerminal, current] at alive
    simpa using alive

theorem Ended.concludes (ended : Ended pods board flow) : flow.Concludes pods where
  complete := ended.keeps.progress_eq.trans ended.complete
  active := by
    rw [ended.active]
    rfl
  output := by rw [output, ended.keeps.output_of_done ended.done, ended.keeps.answers_eq]

/-- A flow at rest stands in the way of its machine's status, and in no other. -/
theorem AtRest.stands_iff
    {started : Bool}
    (rest : AtRest pods board started flow)
    (status : Status) :
    flow.Stands pods started status ↔ status = flow.machine.status := by
  cases started with
  | false =>
    have unstarted : Unstarted pods board flow := rest
    have inactive := unstarted.waits.active
    rw [unstarted.idle]
    cases status with
    | idle => exact iff_of_true unstarted.waits rfl
    | running =>
      apply iff_of_false _ nofun
      intro asks
      obtain ⟨attached, found, _⟩ := asks.active
      simp [inactive] at found
    | done =>
      apply iff_of_false _ nofun
      intro concludes
      have silent := unstarted.keeps.output_of_not_done (by simp [unstarted.idle])
      have told := concludes.output
      simp [silent] at told
  | true =>
    rcases rest.stands with ⟨pod, question, asking⟩ | ended
    · obtain ⟨attached, found, _⟩ := asking.asks.active
      rw [asking.running]
      cases status with
      | idle => exact iff_of_false (fun waits => nomatch waits.unstarted) nofun
      | running => exact iff_of_true asking.asks rfl
      | done =>
        apply iff_of_false _ nofun
        intro concludes
        have inactive := concludes.active
        simp [found] at inactive
    · have inactive := ended.concludes.active
      rw [ended.done]
      cases status with
      | idle => exact iff_of_false (fun waits => nomatch waits.unstarted) nofun
      | running =>
        apply iff_of_false _ nofun
        intro asks
        obtain ⟨attached, found, _⟩ := asks.active
        simp [inactive] at found
      | done => exact iff_of_true ended.concludes rfl

/-- After every run of a flow the mailbox is empty, the flow stands in exactly one of the
three ways, and its context holds a board. -/
theorem existsUnique_stands_of_run
    {id : InstanceId}
    {seeds : Fields}
    {first last : Flow κ}
    {actions : List (Action κ)}
    (created : Flow.create id pods seeds = .ok first)
    (returned : Flow.run actions first = some last) :
    last.mailbox.queue = [] ∧
      (∃! status, last.Stands pods (actions.any Action.isStart) status) ∧
      last.Stands pods (actions.any Action.isStart) last.machine.status ∧
      HoldsBoard last.machine.context := by
  have rest := atRest_of_run created returned
  have stands := (rest.stands_iff last.machine.status).2 rfl
  refine ⟨rest.quiet, ⟨last.machine.status, stands, ?_⟩, stands, ?_⟩
  · intro status other
    exact (rest.stands_iff status).1 other
  · rw [rest.keeps.context]
    exact Board.holdsBoard _

/-- Two questions with a pod between them that is never seen. -/
def detour : List Definition :=
  [questionPod "name", instantPod Pod.completeValue, questionPod "colour"]

/-- A step back to a pod that ends as soon as it is asked bounces off it. -/
theorem existsUnique_stands_of_detour :
    ∃ first last : Flow Unit,
      Flow.create hostId detour ∅ = .ok first ∧
      Flow.run [.start default, .subscribe (), .send default (.ofKind Pod.submit),
        .send default (.ofKind Pod.goBack)] first = some last ∧
      last.progress = 2 ∧ last.mailbox.queue = [] ∧
      (∃! status, last.Stands detour true status) ∧
      last.Stands detour true last.machine.status ∧ HoldsBoard last.machine.context := by
  obtain ⟨first, last, created, returned, progress⟩ :=
    exists_run_of_check hostId detour ∅
      [.start default, .subscribe (), .send default (.ofKind Pod.submit),
        .send default (.ofKind Pod.goBack)]
      (fun _ last : Flow Unit => last.progress = 2) (by decide +kernel)
  exact ⟨first, last, created, returned, by simpa using progress,
    existsUnique_stands_of_run created returned⟩

end Flow
end Questionnaire
