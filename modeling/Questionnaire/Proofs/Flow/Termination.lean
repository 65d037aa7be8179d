import Questionnaire.Proofs.Flow.Reply

/-!
# Flows that come to rest

A flow refills its mailbox while it acts on it: a pod that ends as soon as it is asked sends
its output, on which the flow asks another pod.  It comes to rest because it goes through
such pods in one direction.  Where it turns around it comes to a pod that it has just left,
and it can only have left that pod because the pod asked something, unless a pod that goes
on at once stands right before one that steps back at once.
-/

namespace Questionnaire

/-- How a pod ends as soon as it is asked, if it does: what it tells of its output over the
empty context. -/
def Pod.instantEnding? (pod : Definition) : Option Ending :=
  if pod.isTerminal pod.initial then some (.ofOutput (openingOutput pod)) else none

namespace Flow

variable {κ : Type} {pods : List Definition} {board : Board} {pod : Definition}
  {question : Instance Unit} {pending : List Signal} {flow : Flow κ} {now : Timestamp}
  {fuel spawns steps index : Nat}

/-! ## Pods that end at once -/

/-- How the pod at an index ends as soon as it is asked, if there is one and it does. -/
def instantAt (pods : List Definition) (index : Nat) : Option Pod.Ending :=
  pods[index]?.bind Pod.instantEnding?

/-- The first pod does not step back at once, and no pod that goes on at once is followed
by one that steps back at once. -/
structure Passable (pods : List Definition) : Prop where
  first : instantAt pods 0 ≠ some .retreat
  apart : ∀ index, instantAt pods index = some .advance →
    instantAt pods (index + 1) ≠ some .retreat

/-- The index of the pod that is asked after a step from another one. -/
def stepFrom (index : Nat) : Pod.Ending → Nat
  | .advance => index + 1
  | .retreat => index - 1

/-- A flow that enters the pod at an index comes to rest after so many further steps: it
asks a pod that does not end at once, or has run out of pods. -/
inductive RestsAfter (pods : List Definition) : (steps index : Nat) → Prop
  | stays
      {index : Nat}
      (opens : instantAt pods index = none) :
      RestsAfter pods 0 index
  | passes
      {steps index : Nat}
      {step : Pod.Ending}
      (instant : instantAt pods index = some step)
      (later : RestsAfter pods steps (stepFrom index step)) :
      RestsAfter pods (steps + 1) index

theorem lt_length_of_instantAt
    {step : Pod.Ending}
    (instant : instantAt pods index = some step) :
    index < pods.length := by
  obtain ⟨_, found, _⟩ := Option.bind_eq_some_iff.1 instant
  exact (List.getElem?_eq_some_iff.1 found).1

theorem instantAt_eq_none_of_le (beyond : pods.length ≤ index) :
    instantAt pods index = none := by
  rw [instantAt, List.getElem?_eq_none beyond]
  rfl

namespace Passable

/-- Going on, a flow passes pods that go on at once until it comes to another one. -/
theorem restsAfter_onward
    (passable : Passable pods)
    (onward : instantAt pods index ≠ some .retreat) :
    ∃ steps ≤ pods.length - index, RestsAfter pods steps index := by
  induction left : pods.length - index generalizing index with
  | zero => exact ⟨0, Nat.le_refl _, .stays (instantAt_eq_none_of_le (by omega))⟩
  | succ fewer ih =>
    cases instant : instantAt pods index with
    | none => exact ⟨0, Nat.zero_le _, .stays instant⟩
    | some step =>
      cases step with
      | retreat => exact absurd instant onward
      | advance =>
        obtain ⟨steps, few, later⟩ := ih (passable.apart index instant) (by omega)
        exact ⟨steps + 1, Nat.succ_le_succ few, .passes instant later⟩

/-- Stepping back, a flow passes pods that step back at once until it comes to another
one; the first pod is none of them. -/
theorem restsAfter_back
    (passable : Passable pods)
    (back : instantAt pods index ≠ some .advance) :
    ∃ steps ≤ index, RestsAfter pods steps index := by
  induction index with
  | zero =>
    cases instant : instantAt pods 0 with
    | none => exact ⟨0, Nat.le_refl _, .stays instant⟩
    | some step =>
      cases step with
      | advance => exact absurd instant back
      | retreat => exact absurd instant passable.first
  | succ index ih =>
    cases instant : instantAt pods (index + 1) with
    | none => exact ⟨0, Nat.zero_le _, .stays instant⟩
    | some step =>
      cases step with
      | advance => exact absurd instant back
      | retreat =>
        have before : instantAt pods index ≠ some .advance :=
          fun onward => passable.apart index onward instant
        obtain ⟨steps, few, later⟩ := ih before
        exact ⟨steps + 1, Nat.succ_le_succ few, .passes instant later⟩

/-- From a pod that asked something a flow comes to rest whichever way it steps: it goes
through pods in that direction, or is sent back to the pod that it left. -/
theorem restsAfter_step
    (passable : Passable pods)
    (inside : index < pods.length)
    (opens : instantAt pods index = none)
    (step : Pod.Ending) :
    ∃ steps < pods.length, RestsAfter pods steps (stepFrom index step) := by
  cases step with
  | advance =>
    by_cases sentBack : instantAt pods (index + 1) = some .retreat
    · have more := lt_length_of_instantAt sentBack
      exact ⟨1, by omega, .passes sentBack (.stays opens)⟩
    · obtain ⟨steps, few, rests⟩ := passable.restsAfter_onward sentBack
      exact ⟨steps, by omega, rests⟩
  | retreat =>
    cases index with
    | zero => exact ⟨0, inside, .stays opens⟩
    | succ index =>
      by_cases sentOn : instantAt pods index = some .advance
      · exact ⟨1, by omega, .passes sentOn (.stays opens)⟩
      · obtain ⟨steps, few, rests⟩ := passable.restsAfter_back sentOn
        exact ⟨steps, by omega, rests⟩

end Passable

/-! ## Emptying the mailbox -/

/-- Acting on its mailbox a flow comes to rest, and spawns at most so many pods on the
way. -/
def Subsides (now : Timestamp) (fuel spawns : Nat) (flow : Flow κ) : Prop :=
  ∃ next sent, pump now fuel flow = some ⟨next, .ok (), sent⟩ ∧
    next.spawned ≤ flow.spawned + spawns

theorem Subsides.of_handled
    {envelope : Envelope}
    {rest : List Envelope}
    {next : Flow κ}
    {sent : List (Delivery κ)}
    {fewer : Nat}
    (subsides : Subsides now fuel fewer next)
    (queue : flow.mailbox.queue = envelope :: rest)
    (handled : handle now envelope { flow with mailbox := ⟨rest⟩ } = some ⟨next, .ok (), sent⟩)
    (spawned : next.spawned + fewer ≤ flow.spawned + spawns) :
    Subsides now (fuel + 1) spawns flow := by
  obtain ⟨last, more, pumped, few⟩ := subsides
  refine ⟨last, sent ++ more, ?_, Nat.le_trans few spawned⟩
  rw [pump_cons flow queue handled, pumped]
  rfl

/-- A flow that has run out of pods drops what is left in its mailbox. -/
theorem Ended.subsides
    (ended : Ended pods board flow)
    (enough : flow.mailbox.queue.length < fuel) :
    Subsides now fuel spawns flow := by
  have stale (envelope : Envelope) (_ : envelope ∈ flow.mailbox.queue) :
      flow.active.isCurrent envelope.source = false := by
    simp [ended.active, ChildSlot.empty, ChildSlot.isCurrent, ChildSlot.child?]
  exact ⟨_, _, pump_of_stale stale enough now, Nat.le_add_right _ _⟩

/-- After any step that it is still to be told of, a flow comes to rest within so many
spawns. -/
def Confined (pods : List Definition) (index spawns : Nat) (pending : List Signal) : Prop :=
  ∀ signal ∈ pending, ∀ step, eventOf signal = .ofKind (stepEvent step) →
    ∃ steps < spawns, RestsAfter pods steps (stepFrom index step)

theorem stepEvent_injective {step other : Pod.Ending} (same : stepEvent step = stepEvent other) :
    step = other := by
  cases step <;> cases other <;> first | rfl | exact absurd same (by decide)

theorem length_openingSignals_le (pod : Definition) :
    (Pod.openingSignals pod).length ≤ 1 := by
  unfold Pod.openingSignals
  split
  · exact Nat.le_refl _
  · exact Nat.zero_le _

/-- A pod that has just been asked tells of nothing but the step with which it ends at
once. -/
theorem instantEnding?_of_mem_openingSignals
    {signal : Signal}
    {step : Pod.Ending}
    (member : signal ∈ Pod.openingSignals pod)
    (told : eventOf signal = .ofKind (stepEvent step)) :
    Pod.instantEnding? pod = some step := by
  unfold Pod.openingSignals at member
  unfold Pod.instantEnding?
  split at member
  · rename_i terminal
    rw [List.mem_singleton.1 member, eventOf_done] at told
    rw [if_pos terminal, stepEvent_injective (congrArg Event.kind told)]
  · simp at member

/-- What a pod tells as soon as it is asked is the next step on the way to rest. -/
theorem RestsAfter.confined
    (rests : RestsAfter pods steps index)
    (found : pods[index]? = some pod) :
    Confined pods index steps (Pod.openingSignals pod) := by
  intro signal member step told
  have instant : instantAt pods index = some step := by
    rw [instantAt, found]
    exact instantEnding?_of_mem_openingSignals member told
  cases rests with
  | stays opens => simp [instant] at opens
  | passes passed later =>
    rw [instant] at passed
    cases passed
    exact ⟨_, Nat.lt_succ_self _, later⟩

/-- Entering `playing`, a flow spawns one pod at most, which sends one signal at most. -/
theorem entered_growth (now : Timestamp) (flow : Flow κ) :
    (flow.entered now).spawned ≤ flow.spawned + 1 ∧
      (flow.entered now).mailbox.queue.length ≤ flow.mailbox.queue.length + 1 := by
  unfold entered
  split
  · rename_i pod _
    have few := length_openingSignals_le pod
    refine ⟨Nat.le_refl _, ?_⟩
    simpa [asking, Mailbox.deliver, Mailbox.receive, Pod.deliveries] using few
  · exact ⟨Nat.le_succ _, Nat.le_succ _⟩

theorem spawned_opened_le (now : Timestamp) (flow : Flow κ) :
    (flow.opened now).spawned ≤ flow.spawned + 1 :=
  (entered_growth now { flow with machine := { flow.machine with status := .running } }).1

theorem stepped_growth
    (now : Timestamp)
    (kind : String)
    (board : Board)
    (flow : Flow κ) :
    (flow.stepped now kind board).spawned ≤ flow.spawned + 1 ∧
      (flow.stepped now kind board).mailbox.queue.length ≤ flow.mailbox.queue.length + 1 :=
  entered_growth now { flow with machine := replaying now kind board flow.machine }

theorem progress_after_ofEnding
    (pods : List Definition)
    (board : Board)
    (step : Pod.Ending) :
    (board.after pods (.ofEnding step)).progress = stepFrom board.progress step := by
  cases step <;> rfl

/-- What becomes of a flow that asks a pod when it acts on the oldest of its envelopes: it
goes on asking the pod at the same progress, or enters `playing` after a step that it was
told of. -/
inductive Acts
    (pods : List Definition)
    (board : Board)
    (pod : Definition)
    (question : Instance Unit)
    (pending : List Signal)
    (flow : Flow κ)
    (rest : List Envelope) : Flow κ → Prop
  | hears
      {later : Board}
      {remaining : List Signal}
      {next : Flow κ}
      (progress : later.progress = board.progress)
      (fewer : remaining ⊆ pending)
      (asking : Asking pods later pod question remaining next)
      (queue : next.mailbox.queue = rest)
      (spawned : next.spawned = flow.spawned) :
      Acts pods board pod question pending flow rest next
  | leaves
      {signal : Signal}
      {step : Pod.Ending}
      {later : Board}
      {next : Flow κ}
      (member : signal ∈ pending)
      (told : eventOf signal = .ofKind (stepEvent step))
      (progress : later.progress = stepFrom board.progress step)
      (entered : Entered pods later next)
      (queue : next.mailbox.queue.length ≤ rest.length + 1)
      (spawned : next.spawned ≤ flow.spawned + 1) :
      Acts pods board pod question pending flow rest next

/-- A flow that asks a pod acts on each of its envelopes in one of these ways. -/
theorem Asking.acts
    {envelope : Envelope}
    {rest : List Envelope}
    (asking : Asking pods board pod question pending flow)
    (queue : flow.mailbox.queue = envelope :: rest)
    (now : Timestamp) :
    ∃ next sent, Flow.handle now envelope { flow with mailbox := ⟨rest⟩ } =
        some ⟨next, .ok (), sent⟩ ∧
      Acts pods board pod question pending flow rest next := by
  by_cases source : envelope.source = question.id
  · have heard := asking.heard_own queue source
    have fewer : heardOf question rest ⊆ pending := by
      rw [← heard]
      exact List.subset_cons_self _ _
    rcases asking.own_cases queue source with
      ⟨early, trail⟩ | ⟨notice, name, notify, kind, named, trail⟩ | ⟨step, proper, told⟩
    · obtain ⟨handled, _, still⟩ := asking.handle_early queue trail early now
      exact ⟨_, _, handled, .hears rfl fewer still rfl rfl⟩
    · obtain ⟨handled, _, saved⟩ :=
        asking.handle_saved queue source trail notify kind named now
      refine ⟨_, _, handled, .hears ?_ fewer saved rfl rfl⟩
      rfl
    · obtain ⟨⟨sent, handled⟩, _, entered⟩ :=
        asking.handle_stepped queue source proper told now
      obtain ⟨spawned, length⟩ := stepped_growth now (stepEvent step)
        (board.after pods (.ofEnding step)) { flow with mailbox := ⟨rest⟩ }
      exact ⟨_, _, handled, .leaves (heard ▸ List.mem_cons_self) told
        (progress_after_ofEnding pods board step) entered length spawned⟩
  · obtain ⟨handled, _, still⟩ := asking.handle_stale queue source now
    exact ⟨_, _, handled, .hears rfl (List.Subset.refl _) still rfl rfl⟩

/-- A flow whose pod only tells of steps after which it comes to rest subsides. -/
theorem Asking.subsides
    (asking : Asking pods board pod question pending flow)
    (confined : Confined pods board.progress spawns pending)
    (enough : flow.mailbox.queue.length + spawns < fuel) :
    Subsides now fuel spawns flow := by
  induction fuel generalizing board pod question pending flow spawns with
  | zero => omega
  | succ fuel ih =>
    cases queue : flow.mailbox.queue with
    | nil => exact ⟨flow, [], pump_of_quiet queue fuel, Nat.le_add_right _ _⟩
    | cons envelope rest =>
      rw [queue, List.length_cons] at enough
      obtain ⟨next, sent, handled, acts⟩ := asking.acts queue now
      cases acts with
      | hears progress fewer asks later spawned =>
        have confinedLater : Confined pods _ spawns _ := fun signal member =>
          progress ▸ confined signal (fewer member)
        have subsides := ih asks confinedLater (by rw [later]; omega)
        exact subsides.of_handled queue handled (by omega)
      | leaves member told progress entered later spawned =>
        obtain ⟨steps, fewer, rests⟩ := confined _ member _ told
        rw [← progress] at rests
        have enoughLater : next.mailbox.queue.length + steps < fuel := by omega
        have subsides : Subsides now fuel steps next := by
          rcases entered with ⟨_, fresh, asks⟩ | ended
          · exact ih asks (rests.confined asks.found) enoughLater
          · exact ended.subsides (Nat.lt_of_le_of_lt (Nat.le_add_right _ steps) enoughLater)
        exact subsides.of_handled queue handled (by omega)

theorem Entered.subsides
    (entered : Entered pods board flow)
    (rests : RestsAfter pods steps board.progress)
    (enough : flow.mailbox.queue.length + steps < fuel) :
    Subsides now fuel steps flow := by
  rcases entered with ⟨_, fresh, asking⟩ | ended
  · exact asking.subsides (rests.confined asking.found) enough
  · exact ended.subsides (Nat.lt_of_le_of_lt (Nat.le_add_right _ steps) enough)

/-! ## Calls -/

/-- A call returns, and spawns at most so many pods. -/
def ReturnsWithin {α : Type} (spawns : Nat) (call : Call (Flow κ) κ α) (flow : Flow κ) : Prop :=
  ∃ turn, call flow = some turn ∧ turn.next.spawned ≤ flow.spawned + spawns

/-- A call after which the flow subsides returns also when the mailbox is emptied after it. -/
theorem returnsWithin_of_subsides
    {α : Type}
    {call : Call (Flow κ) κ α}
    {value : α}
    {next : Flow κ}
    {sent : List (Delivery κ)}
    {bound : Nat}
    (called : call flow = some ⟨next, .ok value, sent⟩)
    (samePods : next.pods = pods)
    (subsides : Subsides now (next.mailbox.queue.length + pods.length + 2) spawns next)
    (spawned : next.spawned + spawns ≤ flow.spawned + bound) :
    ReturnsWithin bound (do
      let value ← call
      settle now
      return value) flow := by
  obtain ⟨last, more, pumped, few⟩ := subsides
  have settled : settle now next = some ⟨last, .ok (), more⟩ := by
    rw [settle_eq_pump, samePods]
    exact pumped
  refine ⟨⟨last, .ok value, sent ++ more⟩, ?_, Nat.le_trans few spawned⟩
  simp only [Call.bind_apply, called, settled, Call.pure_apply, Option.map_some,
    List.append_nil]

theorem Entered.podsEq (entered : Entered pods board flow) : flow.pods = pods := by
  rcases entered with ⟨_, _, asking⟩ | ended
  · exact asking.podsEq
  · exact ended.podsEq

/-- A pod that was begun and has not ended asked something when it was begun. -/
theorem Asking.instantAt_eq_none
    (asking : Asking pods board pod question [] flow) :
    instantAt pods board.progress = none := by
  have alive := Pod.trail_nil_iff.1 asking.trail
  rw [instantAt, asking.found]
  simp [Pod.instantEnding?, asking.asked.opens alive]

namespace Passable

/-- A call with which a flow enters `playing` at the first pod returns. -/
theorem returnsWithin_of_entered
    {α : Type}
    {call : Call (Flow κ) κ α}
    {value : α}
    {next : Flow κ}
    {sent : List (Delivery κ)}
    (passable : Passable pods)
    (called : call flow = some ⟨next, .ok value, sent⟩)
    (entered : Entered pods board next)
    (first : board.progress = 0)
    (spawned : next.spawned ≤ flow.spawned + 1) :
    ReturnsWithin (pods.length + 1) (do
      let value ← call
      settle now
      return value) flow := by
  obtain ⟨steps, few, rests⟩ := passable.restsAfter_onward passable.first
  rw [← first] at rests
  have subsides : Subsides now (next.mailbox.queue.length + pods.length + 2) steps next :=
    entered.subsides rests (by omega)
  exact returnsWithin_of_subsides called entered.podsEq subsides (by omega)

theorem returnsWithin_start
    (passable : Passable pods)
    (unstarted : Unstarted pods board flow)
    (now : Timestamp) :
    ReturnsWithin (pods.length + 1) (Flow.start now) flow := by
  obtain ⟨⟨_, opened⟩, entered⟩ := unstarted.opening now
  obtain ⟨turn, returned, few⟩ := passable.returnsWithin_of_entered opened entered
    unstarted.first (spawned_opened_le now flow)
  exact ⟨turn, (start_of_idle unstarted.idle).trans returned, few⟩

theorem returnsWithin_send
    (passable : Passable pods)
    (asking : Asking pods board pod question [] flow)
    (quiet : flow.mailbox.queue = [])
    (now : Timestamp)
    (event : Event) :
    ReturnsWithin (pods.length + 1) (Flow.send now event) flow := by
  rw [send_eq]
  by_cases kind : event.kind = startFreshEvent
  · obtain ⟨⟨_, delivered⟩, entered⟩ := asking.restarting kind now
    have growth := (stepped_growth now event.kind (board.after pods .restart) flow).1
    exact passable.returnsWithin_of_entered delivered entered rfl growth
  · obtain ⟨outcome, _, delivered⟩ := asking.delivering kind now
    obtain ⟨signals, _, heard, _⟩ := asking.given quiet now event
    have inside := (List.getElem?_eq_some_iff.1 asking.found).1
    have confined : Confined pods board.progress pods.length signals := fun _ _ step _ =>
      passable.restsAfter_step inside asking.instantAt_eq_none step
    apply returnsWithin_of_subsides delivered heard.podsEq (heard.subsides confined (by omega))
    exact Nat.add_le_add_left (Nat.le_succ _) _

end Passable

/-! ## Runs -/

section Runs

variable {started : Bool}

theorem AtRest.returnsWithin_start
    (rest : AtRest pods board started flow)
    (passable : Passable pods)
    (now : Timestamp) :
    ReturnsWithin (pods.length + 1) (Flow.start now) flow := by
  cases started with
  | false => exact passable.returnsWithin_start rest now
  | true =>
    exact ⟨_, start_of_begun (Resting.begun rest), Nat.le_add_right _ _⟩

theorem AtRest.returnsWithin_send
    (rest : AtRest pods board started flow)
    (passable : Passable pods)
    (now : Timestamp)
    (event : Event) :
    ReturnsWithin (pods.length + 1) (Flow.send now event) flow := by
  by_cases running : flow.machine.status = .running
  · obtain ⟨pod, question, asking⟩ := rest.asking_of_running running
    exact passable.returnsWithin_send asking rest.quiet now event
  · obtain ⟨_, _, _, sent⟩ := send_eq_of_not_running running now event
    exact ⟨_, sent, Nat.le_add_right _ _⟩

theorem AtRest.exists_perform
    (rest : AtRest pods board started flow)
    (passable : Passable pods)
    (action : Action κ) :
    ∃ next, Flow.perform action flow = some next := by
  cases action with
  | start now =>
    obtain ⟨turn, returned, _⟩ := rest.returnsWithin_start passable now
    exact ⟨turn.next, congrArg (Option.map Turn.next) returned⟩
  | send now event =>
    obtain ⟨turn, returned, _⟩ := rest.returnsWithin_send passable now event
    exact ⟨turn.next, congrArg (Option.map Turn.next) returned⟩
  | subscribe outlet => exact ⟨_, rfl⟩
  | unsubscribe subscription => exact ⟨_, rfl⟩

theorem AtRest.exists_run
    (rest : AtRest pods board started flow)
    (passable : Passable pods)
    (actions : List (Action κ)) :
    ∃ last, Flow.run actions flow = some last := by
  induction actions generalizing board started flow with
  | nil => exact ⟨flow, rfl⟩
  | cons action actions ih =>
    obtain ⟨next, performed⟩ := rest.exists_perform passable action
    obtain ⟨last, returned⟩ := ih (rest.perform performed)
    exact ⟨last, by rw [Flow.run, performed]; exact returned⟩

end Runs

/-- Over pods that do not send one another to and fro, every run of a flow returns, and so
does every call after it, whatever the event; no call spawns more pods than there are, and
one. -/
theorem returnsWithin_of_run
    {id : InstanceId}
    {seeds : Fields}
    {first : Flow κ}
    (created : Flow.create id pods seeds = .ok first)
    (passable : Passable pods)
    (actions : List (Action κ)) :
    ∃ last, Flow.run actions first = some last ∧
      (∀ now, ReturnsWithin (pods.length + 1) (Flow.start now) last) ∧
      ∀ now event, ReturnsWithin (pods.length + 1) (Flow.send now event) last := by
  have unstarted : AtRest pods ⟨0, seeds, ∅⟩ false first := unstarted_of_create created
  obtain ⟨last, returned⟩ := unstarted.exists_run passable actions
  have rest := atRest_of_run created returned
  exact ⟨last, returned, rest.returnsWithin_start passable, rest.returnsWithin_send passable⟩

/-- Two questions with pods between them that are never seen: from either side the first pod
that is met sends the flow back. -/
def hedge : List Definition :=
  [questionPod "name", instantPod Pod.quitValue, instantPod Pod.completeValue,
    questionPod "colour"]

theorem passable_hedge : Passable hedge where
  first := by decide
  apart := by
    intro index onward
    have each : ∀ inside < hedge.length, instantAt hedge inside = some .advance →
        instantAt hedge (inside + 1) ≠ some .retreat := by decide
    exact each index (lt_length_of_instantAt onward) onward

/-- The answer to the first question is followed by a pod that steps back at once, so that
the question is asked again. -/
theorem returnsWithin_of_hedge :
    ∃ first last : Flow Unit, Flow.create hostId hedge ∅ = .ok first ∧
      Flow.run [.start default] first = some last ∧ Passable hedge ∧
      ReturnsWithin 5 (Flow.send default (.ofKind Pod.submit)) last := by
  obtain ⟨first, last, created, reached, _⟩ :=
    exists_run_of_check hostId hedge ∅ [.start default]
      (fun _ last : Flow Unit => decide (last.progress = 0)) (by decide +kernel)
  obtain ⟨same, returned, _, sends⟩ :=
    returnsWithin_of_run created passable_hedge [.start default]
  rw [reached] at returned
  cases returned
  exact ⟨first, last, created, reached, passable_hedge, sends default _⟩

end Flow
end Questionnaire
