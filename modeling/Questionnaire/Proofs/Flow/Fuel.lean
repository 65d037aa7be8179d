import Questionnaire.Proofs.Call
import Questionnaire.Proofs.Flow.Termination

/-!
# How often a flow has to act

A flow acts on its envelopes a bounded number of times.  The bound decides of no call
whether it returns: on its way through pods that end at once a flow that comes to rest does
not come to the same pod twice, so the way is no longer than there are pods, and a flow that
has not come to rest within the bound would not do so however often it acted.
-/

namespace Questionnaire
namespace Flow

variable {κ : Type} {pods : List Definition} {board : Board} {pod : Definition}
  {question : Instance Unit} {pending : List Signal} {flow : Flow κ} {now : Timestamp}
  {turn : Turn (Flow κ) κ Unit} {fuel more spawns steps index : Nat}

/-! ## Ways to rest -/

namespace RestsAfter

theorem unique
    {other : Nat}
    (rests : RestsAfter pods steps index)
    (also : RestsAfter pods other index) :
    steps = other := by
  induction rests generalizing other with
  | stays opens =>
    cases also with
    | stays _ => rfl
    | passes instant _ => simp [opens] at instant
  | passes instant _ ih =>
    cases also with
    | stays opens => simp [instant] at opens
    | passes same later =>
      rw [instant] at same
      cases same
      rw [ih later]

/-- The pods on the way to rest are all different, for each has another number of steps to
go. -/
theorem exists_way (rests : RestsAfter pods steps index) :
    ∃ way : List Nat, way.length = steps ∧ way.Nodup ∧
      ∀ place ∈ way, place < pods.length ∧ ∃ left ≤ steps, RestsAfter pods left place := by
  induction rests with
  | stays opens => exact ⟨[], rfl, List.nodup_nil, nofun⟩
  | @passes steps index step instant later ih =>
    obtain ⟨way, rfl, distinct, onWay⟩ := ih
    have here : RestsAfter pods (way.length + 1) index := .passes instant later
    refine ⟨index :: way, rfl, List.nodup_cons.2 ⟨?_, distinct⟩, ?_⟩
    · intro again
      obtain ⟨_, left, few, rests⟩ := onWay index again
      have same := here.unique rests
      omega
    · intro place member
      rcases List.mem_cons.1 member with rfl | farther
      · exact ⟨lt_length_of_instantAt instant, _, Nat.le_refl _, here⟩
      · obtain ⟨inside, left, few, rests⟩ := onWay place farther
        exact ⟨inside, left, Nat.le_succ_of_le few, rests⟩

theorem le_length (rests : RestsAfter pods steps index) : steps ≤ pods.length := by
  obtain ⟨way, rfl, distinct, onWay⟩ := rests.exists_way
  have inside : way ⊆ List.range pods.length := by
    intro place member
    exact List.mem_range.2 (onWay place member).1
  simpa using distinct.length_le_of_subset inside

end RestsAfter

/-! ## Acting more often -/

/-- A flow that comes to rest does the same if it may act more often. -/
theorem extends_pump (now : Timestamp) (fuel : Nat) :
    Call.Extends (pump now (fuel + 1) : Call (Flow κ) κ Unit) (pump now fuel) := by
  induction fuel with
  | zero => exact .stuck _
  | succ fuel ih =>
    apply Call.Extends.bind (.refl _)
    intro envelope?
    cases envelope? with
    | none => exact .refl _
    | some envelope => exact .bind (.refl _) fun _ => ih

theorem pump_of_le
    (few : fuel ≤ more)
    (returned : pump now fuel flow = some turn) :
    pump now more flow = some turn := by
  induction few with
  | refl => exact returned
  | step _ ih => exact extends_pump now _ flow turn ih

theorem Subsides.of_le
    {fewer : Nat}
    (subsides : Subsides now fuel fewer flow)
    (few : fewer ≤ spawns) :
    Subsides now fuel spawns flow := by
  obtain ⟨next, sent, pumped, spawned⟩ := subsides
  exact ⟨next, sent, pumped, by omega⟩

/-! ## Flows that come to rest at all -/

theorem Ended.restsAfter (ended : Ended pods board flow) :
    RestsAfter pods 0 board.progress :=
  .stays (instantAt_eq_none_of_le (Nat.le_of_eq ended.complete.symm))

/-- A flow that has just asked a pod and comes to rest does so after finitely many steps. -/
theorem Asking.exists_restsAfter
    (asking : Asking pods board pod question pending flow)
    (opening : pending ⊆ Pod.openingSignals pod)
    (returned : pump now fuel flow = some turn) :
    ∃ steps, RestsAfter pods steps board.progress := by
  induction fuel generalizing board pod question pending flow turn with
  | zero => cases returned
  | succ fuel ih =>
    cases queue : flow.mailbox.queue with
    | nil =>
      obtain ⟨_, rfl⟩ := asking.resting queue
      exact ⟨0, .stays asking.instantAt_eq_none⟩
    | cons envelope rest =>
      obtain ⟨next, sent, handled, acts⟩ := asking.acts queue now
      rw [pump_cons flow queue handled] at returned
      obtain ⟨later, laterReturned, _⟩ := Option.map_eq_some_iff.1 returned
      cases acts with
      | hears progress fewer asks _ _ =>
        rw [← progress]
        exact ih asks (List.Subset.trans fewer opening) laterReturned
      | @leaves _ step moved _ member told progress entered _ _ =>
        have instant : instantAt pods board.progress = some step := by
          rw [instantAt, asking.found]
          exact instantEnding?_of_mem_openingSignals (opening member) told
        have onward : ∃ steps, RestsAfter pods steps moved.progress := by
          rcases entered with ⟨_, fresh, asks⟩ | ended
          · exact ih asks (List.Subset.refl _) laterReturned
          · exact ⟨0, ended.restsAfter⟩
        obtain ⟨steps, rests⟩ := onward
        exact ⟨steps + 1, .passes instant (progress ▸ rests)⟩

theorem Entered.exists_restsAfter
    (entered : Entered pods board flow)
    (returned : pump now fuel flow = some turn) :
    ∃ steps ≤ pods.length, RestsAfter pods steps board.progress := by
  rcases entered with ⟨_, fresh, asking⟩ | ended
  · obtain ⟨steps, rests⟩ := asking.exists_restsAfter (List.Subset.refl _) returned
    exact ⟨steps, rests.le_length, rests⟩
  · exact ⟨0, Nat.zero_le _, ended.restsAfter⟩

/-- A flow that enters `playing` and comes to rest does so within as many spawns as there
are pods. -/
theorem Entered.subsides_of_pump
    (entered : Entered pods board flow)
    (returned : pump now fuel flow = some turn)
    (enough : flow.mailbox.queue.length + pods.length < more) :
    Subsides now more pods.length flow := by
  obtain ⟨steps, few, rests⟩ := entered.exists_restsAfter returned
  exact (entered.subsides rests (by omega)).of_le few

/-- A flow that asks a pod and comes to rest does so within one spawn more. -/
theorem Asking.subsides_of_pump
    (asking : Asking pods board pod question pending flow)
    (returned : pump now fuel flow = some turn)
    (enough : flow.mailbox.queue.length + pods.length + 1 < more) :
    Subsides now more (pods.length + 1) flow := by
  induction fuel generalizing board question pending flow turn more with
  | zero => cases returned
  | succ fuel ih =>
    obtain ⟨more, rfl⟩ := Nat.exists_eq_succ_of_ne_zero (Nat.ne_zero_of_lt enough)
    cases queue : flow.mailbox.queue with
    | nil => exact ⟨flow, [], pump_of_quiet queue more, Nat.le_add_right _ _⟩
    | cons envelope rest =>
      rw [queue, List.length_cons] at enough
      obtain ⟨next, sent, handled, acts⟩ := asking.acts queue now
      rw [pump_cons flow queue handled] at returned
      obtain ⟨later, laterReturned, _⟩ := Option.map_eq_some_iff.1 returned
      cases acts with
      | hears _ _ asks queueLater spawned =>
        have subsides : Subsides now more (pods.length + 1) next :=
          ih asks laterReturned (by rw [queueLater]; omega)
        exact subsides.of_handled queue handled (by omega)
      | leaves _ _ _ entered queueLater spawned =>
        have subsides : Subsides now more pods.length next :=
          entered.subsides_of_pump laterReturned (by omega)
        exact subsides.of_handled queue handled (by omega)

/-! ## Settling -/

/-- What a flow does that subsides is what it does with any bound that is enough for it. -/
theorem Subsides.settle_of_pump
    (subsides : Subsides now (flow.mailbox.queue.length + flow.pods.length + 2) spawns flow)
    (returned : pump now fuel flow = some turn) :
    settle now flow = some turn ∧ turn.next.spawned ≤ flow.spawned + spawns := by
  obtain ⟨next, sent, pumped, few⟩ := subsides
  let bound := flow.mailbox.queue.length + flow.pods.length + 2
  have long : pump now (fuel + bound) flow = some turn :=
    pump_of_le (Nat.le_add_right _ _) returned
  rw [pump_of_le (Nat.le_add_left bound fuel) pumped] at long
  cases long
  exact ⟨(settle_eq_pump now flow).trans pumped, few⟩

theorem Asking.settle_of_pump
    (asking : Asking pods board pod question pending flow)
    (returned : pump now fuel flow = some turn) :
    Flow.settle now flow = some turn ∧ turn.next.spawned ≤ flow.spawned + (pods.length + 1) := by
  apply Subsides.settle_of_pump _ returned
  exact asking.subsides_of_pump returned (by rw [asking.podsEq]; omega)

theorem Entered.settle_of_pump
    (entered : Entered pods board flow)
    (returned : pump now fuel flow = some turn) :
    settle now flow = some turn ∧ turn.next.spawned ≤ flow.spawned + pods.length := by
  apply Subsides.settle_of_pump _ returned
  exact entered.subsides_of_pump returned (by rw [entered.podsEq]; omega)

/-! ## Calls -/

section Calls

variable {α : Type} {call : Call (Flow κ) κ α} {value : α} {next : Flow κ}
  {sent : List (Delivery κ)} {bound : Nat} {started : Bool} {event : Event}

/-- A call after which a flow acts on its envelopes until the mailbox is empty. -/
def thenSettle (now : Timestamp) (call : Call (Flow κ) κ α) : Call (Flow κ) κ α := do
  let value ← call
  settle now
  return value

/-- A call after which a flow acts on its envelopes, at most `fuel` times. -/
def thenPump (now : Timestamp) (fuel : Nat) (call : Call (Flow κ) κ α) : Call (Flow κ) κ α := do
  let value ← call
  pump now fuel
  return value

/-- A call returns what it returns with some bound on the acts after it, and only that; and
when it returns it has spawned at most so many pods. -/
structure Unhurried
    (now : Timestamp)
    (spawns : Nat)
    (call : Call (Flow κ) κ α)
    (flow : Flow κ) : Prop where
  unbounded : ∀ turn, thenSettle now call flow = some turn ↔
    ∃ fuel, thenPump now fuel call flow = some turn
  spawned : ∀ turn, thenSettle now call flow = some turn →
    turn.next.spawned ≤ flow.spawned + spawns

/-- A call that fails is not followed by any acts. -/
theorem unhurried_of_failed
    {error : DispatchError}
    (called : call flow = some ⟨flow, .error error, []⟩)
    (now : Timestamp)
    (spawns : Nat) :
    Unhurried now spawns call flow := by
  have settled : thenSettle now call flow = some ⟨flow, .error error, []⟩ := by
    simp only [thenSettle, Call.bind_apply, called]
  have pumped (fuel : Nat) : thenPump now fuel call flow = some ⟨flow, .error error, []⟩ := by
    simp only [thenPump, Call.bind_apply, called]
  constructor
  · intro turn
    simp only [settled, pumped, exists_const]
  · intro turn returned
    rw [settled] at returned
    cases returned
    exact Nat.le_add_right _ _

/-- A call is unhurried if the flow that it leaves behind settles once it comes to rest with
any bound. -/
theorem unhurried_of_settles
    (called : call flow = some ⟨next, .ok value, sent⟩)
    (settles : ∀ fuel turn, pump now fuel next = some turn →
      settle now next = some turn ∧ turn.next.spawned ≤ next.spawned + spawns)
    (few : next.spawned + spawns ≤ flow.spawned + bound) :
    Unhurried now bound call flow where
  unbounded := by
    intro turn
    constructor
    · intro returned
      refine ⟨next.mailbox.queue.length + next.pods.length + 2, ?_⟩
      simpa only [thenSettle, thenPump, Call.bind_apply, called, settle_eq_pump] using returned
    · rintro ⟨fuel, returned⟩
      simp only [thenSettle, thenPump, Call.bind_apply, called] at returned ⊢
      cases pumped : pump now fuel next with
      | none => simp [pumped] at returned
      | some rested => rwa [(settles fuel rested pumped).1, ← pumped]
  spawned := by
    intro turn returned
    obtain ⟨_, settled, settledEq, sameNext, _⟩ := settle_after called rfl returned
    have pumped := (settle_eq_pump now next).symm.trans settledEq
    rw [sameNext]
    exact Nat.le_trans (settles _ settled pumped).2 few

/-- Opening a flow that was not started is unhurried. -/
theorem Unstarted.unhurried
    (unstarted : Unstarted pods board flow)
    (now : Timestamp) :
    Unhurried now (pods.length + 1) (Flow.opening now) flow := by
  obtain ⟨⟨_, opened⟩, entered⟩ := unstarted.opening now
  have growth := spawned_opened_le now flow
  exact unhurried_of_settles opened (fun _ _ => entered.settle_of_pump) (by omega)

/-- Delivering an event to a flow at rest is unhurried. -/
theorem AtRest.unhurried
    (rest : AtRest pods board started flow)
    (now : Timestamp)
    (event : Event) :
    Unhurried now (pods.length + 1) (delivering now event) flow := by
  by_cases running : flow.machine.status = .running
  · obtain ⟨pod, question, asking⟩ := rest.asking_of_running running
    by_cases kind : event.kind = startFreshEvent
    · obtain ⟨⟨_, delivered⟩, entered⟩ := asking.restarting kind now
      have growth := (stepped_growth now event.kind (board.after pods .restart) flow).1
      exact unhurried_of_settles delivered (fun _ _ => entered.settle_of_pump) (by omega)
    · obtain ⟨outcome, _, delivered⟩ := asking.delivering kind now
      obtain ⟨signals, _, heard, _⟩ := asking.given rest.quiet now event
      exact unhurried_of_settles delivered (fun _ _ => heard.settle_of_pump) (Nat.le_refl _)
  · obtain ⟨_, _, delivered, _⟩ := send_eq_of_not_running running now event
    exact unhurried_of_failed delivered now _

end Calls

/-- Whatever its pods, a flow answers an event exactly if it would with some bound on its
acts, and then has spawned no more pods than there are, and one. -/
theorem send_returns_iff_of_run
    {id : InstanceId}
    {seeds : Fields}
    {first last : Flow κ}
    {actions : List (Action κ)}
    {answered : Turn (Flow κ) κ Outcome}
    (created : Flow.create id pods seeds = .ok first)
    (reached : Flow.run actions first = some last)
    (now : Timestamp)
    (event : Event) :
    (Flow.send now event last = some answered ↔
      ∃ fuel, thenPump now fuel (delivering now event) last = some answered) ∧
    (Flow.send now event last = some answered →
      answered.next.spawned ≤ last.spawned + (pods.length + 1)) := by
  have unhurried := (atRest_of_run created reached).unhurried now event
  rw [send_eq]
  exact ⟨unhurried.unbounded answered, unhurried.spawned answered⟩

/-- Whatever its pods, a flow that was not started starts exactly if it would with some bound
on its acts, and then has spawned no more pods than there are, and one. -/
theorem start_returns_iff_of_run
    {id : InstanceId}
    {seeds : Fields}
    {first last : Flow κ}
    {actions : List (Action κ)}
    (created : Flow.create id pods seeds = .ok first)
    (reached : Flow.run actions first = some last)
    (early : actions.any Action.isStart = false)
    (now : Timestamp) :
    (Flow.start now last = some turn ↔
      ∃ fuel, thenPump now fuel (opening now) last = some turn) ∧
    (Flow.start now last = some turn →
      turn.next.spawned ≤ last.spawned + (pods.length + 1)) := by
  have rest := atRest_of_run created reached
  rw [early] at rest
  have unhurried := Unstarted.unhurried rest now
  rw [start_of_idle (Unstarted.idle rest)]
  exact ⟨unhurried.unbounded turn, unhurried.spawned turn⟩

end Flow
end Questionnaire
