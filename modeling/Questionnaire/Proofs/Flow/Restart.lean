import Questionnaire.Proofs.Flow.Twins

/-!
# Starting again

A flow that is told to start again cannot be told apart from a flow that was built over the
same pods without any answers and was just started.  Nothing of what it was asked before,
of the answers it began with, or of the pod that it left shows in what it does later.
-/

namespace Questionnaire
namespace Flow

variable {κ ι : Type} {pods : List Definition} {left : Flow κ} {right : Flow ι}

/-- Two flows look alike if all that can be seen of them is the same, their identities and
their histories apart. -/
structure LooksLike (left : Flow κ) (right : Flow ι) : Prop where
  progress : left.progress = right.progress
  answers : left.answers = right.answers
  owners : left.owners = right.owners
  isDone : left.isDone = right.isDone
  output : left.output = right.output
  snapshot : left.snapshot = right.snapshot
  question : left.question?.map Instance.snapshot = right.question?.map Instance.snapshot

/-- Two flows stay alike through events, each of which they get at times of their own: they
look alike, and give each event the same answer, or both never return from it. -/
def StayAlike : List (Event × Timestamp × Timestamp) → Flow κ → Flow ι → Prop
  | [], left, right => LooksLike left right
  | (event, now, later) :: rest, left, right =>
    LooksLike left right ∧
      Option.Rel
        (fun first second =>
          first.result = second.result ∧ StayAlike rest first.next second.next)
        (Flow.send now event left) (Flow.send later event right)

theorem Twins.looksLike (twins : Twins pods left right) : LooksLike left right where
  progress := twins.progress_eq
  answers := twins.answers_eq
  owners := twins.owners_eq
  isDone := twins.isDone_eq
  output := twins.output_eq
  snapshot := twins.snapshot_eq
  question := twins.question_snapshot_eq

/-- Twins stay alike from any moment at which one of them is at rest. -/
theorem Twins.stayAlike
    {board : Board}
    (twins : Twins pods left right)
    (rest : Resting pods board left)
    (events : List (Event × Timestamp × Timestamp)) :
    StayAlike events left right := by
  induction events generalizing board left right with
  | nil => exact twins.looksLike
  | cons first others ih =>
    obtain ⟨event, now, later⟩ := first
    refine ⟨twins.looksLike, ?_⟩
    apply rel_imp (twins.agree_send rest.quiet now later event)
    intro first second returned agree
    exact ⟨agree.result, ih agree.twins (rest.send returned)⟩

/-- A flow that starts again and a flow without answers that is started for the first time
both enter `playing` with an empty board, and become twins unless neither of them comes to
rest. -/
theorem Asking.yield_restart
    {board : Board}
    {pod : Definition}
    {question : Instance Unit}
    {event : Event}
    (asking : Asking pods board pod question [] left)
    (quiet : left.mailbox.queue = [])
    (unstarted : Unstarted pods ⟨0, ∅, ∅⟩ right)
    (kind : event.kind = startFreshEvent)
    (now later : Timestamp) :
    Option.Rel (Yield pods (.transitioned playing playing) ())
      (Flow.send now event left) (Flow.start later right) := by
  obtain ⟨⟨_, delivered⟩, _⟩ := asking.restarting kind now
  obtain ⟨⟨_, opened⟩, _⟩ := unstarted.opening later
  have bounded : (board.after pods .restart).progress ≤ pods.length := Nat.zero_le _
  have replayed := asking.toPlaying.replayed bounded now event.kind
  rw [send_eq, start_of_idle unstarted.idle]
  apply yield_settled delivered opened
  apply replayed.twins_entered unstarted.playing
  show List.Forall₂ _ left.mailbox.queue right.mailbox.queue
  rw [quiet, unstarted.quiet]
  exact .nil

/-- Whatever a running flow did before, once it was told to start again it stays like a flow
over the same pods that was built without answers and started. -/
theorem stayAlike_of_restart
    {id : InstanceId}
    {seeds : Fields}
    {first flow : Flow κ}
    {actions : List (Action κ)}
    {event : Event}
    (created : Flow.create id pods seeds = .ok first)
    (reached : Flow.run actions first = some flow)
    (running : flow.machine.status = .running)
    (kind : event.kind = startFreshEvent)
    (otherId : InstanceId) :
    ∃ renewed : Flow ι, Flow.create otherId pods ∅ = .ok renewed ∧
      ∀ now later events,
        Option.Rel
          (fun restarted started =>
            restarted.result = .ok (.transitioned playing playing) ∧
              started.result = .ok () ∧ StayAlike events restarted.next started.next)
          (Flow.send now event flow) (Flow.start later renewed) := by
  have atRest := atRest_of_run created reached
  obtain ⟨usable, _⟩ := create_eq_ok_iff.1 created
  obtain ⟨pod, question, asking⟩ := atRest.asking_of_running running
  have rest : Resting pods _ flow := ⟨atRest.quiet, .inl ⟨pod, question, asking⟩⟩
  refine ⟨fresh otherId pods ∅, create_eq_ok_iff.2 ⟨usable, rfl⟩, ?_⟩
  intro now later events
  apply rel_imp (asking.yield_restart rest.quiet (unstarted_fresh usable otherId ∅) kind now later)
  intro restarted started returned yields
  exact ⟨yields.result, yields.resultToo, yields.twins.stayAlike (rest.send returned) events⟩

/-- A flow that was seeded and has been stepped through is told to start again, and then
asked as a new one is. -/
theorem stayAlike_of_changedMind :
    let pods := [questionPod "name", questionPod "colour"]
    ∃ first flow : Flow Unit,
      Flow.create hostId pods (.ofList [("colour", .str "red")]) = .ok first ∧
      Flow.run [.start default, .send default (.ofKind Pod.submit)] first = some flow ∧
      flow.machine.status = .running ∧ flow.progress = 1 ∧
      ∃ renewed : Flow Empty, Flow.create hostId pods ∅ = .ok renewed ∧
        Option.Rel
          (fun restarted started =>
            restarted.result = .ok (.transitioned playing playing) ∧ started.result = .ok () ∧
              StayAlike
                [(.ofKind Pod.submit, default, default), (.ofKind Pod.goBack, default, default)]
                restarted.next started.next)
          (Flow.send default (.ofKind startFreshEvent) flow) (Flow.start default renewed) := by
  intro pods
  obtain ⟨first, flow, created, reached, passed⟩ :=
    exists_run_of_check hostId pods (.ofList [("colour", .str "red")])
      [.start default, .send default (.ofKind Pod.submit)]
      (fun _ flow : Flow Unit => decide (flow.machine.status = .running ∧ flow.progress = 1))
      (by decide +kernel)
  obtain ⟨running, progress⟩ := of_decide_eq_true passed
  have kind : (Event.ofKind startFreshEvent).kind = startFreshEvent := rfl
  obtain ⟨renewed, createdToo, alike⟩ := stayAlike_of_restart created reached running kind hostId
  exact ⟨first, flow, created, reached, running, progress, renewed, createdToo, alike _ _ _⟩

end Flow
end Questionnaire
