import Questionnaire.Proofs.Flow.Invariant
import Questionnaire.Proofs.Flow.Report

/-!
# The end of a flow

A subscriber that is registered before a flow starts hears one thing of it: the answers, on
the call on which the flow ends.  Every earlier call leaves pods to be asked and tells
nothing, and every later one leaves the flow as it ended and tells nothing either.
-/

namespace Questionnaire
namespace Flow

variable {κ : Type} {pods : List Definition} {board : Board} {flow next : Flow κ}
  {started : Bool} {action : Action κ} {subscription : Subscription} {outlet : κ}

/-! ## Legs -/

/-- What an action sends, if it returns. -/
def sentOn (action : Action κ) (flow : Flow κ) : List (Delivery κ) :=
  match action with
  | .start now => (Flow.start now flow).elim [] Turn.sent
  | .send now event => (Flow.send now event flow).elim [] Turn.sent
  | .subscribe _ => []
  | .unsubscribe _ => []

/-- A leg of a run: what was done, the flow before and after it, and what it sent. -/
structure Leg (κ : Type) where
  before : Flow κ
  action : Action κ
  after : Flow κ
  sent : List (Delivery κ)

/-- The legs of a run, up to the first action that does not return. -/
def legs : List (Action κ) → Flow κ → List (Leg κ)
  | [], _ => []
  | action :: rest, flow =>
    (perform action flow).elim [] fun next =>
      ⟨flow, action, next, sentOn action flow⟩ :: legs rest next

/-- A flow has ended, and is as it ended. -/
structure Remains (ended flow : Flow κ) : Prop where
  done : flow.isDone = true
  progress : flow.progress = ended.progress
  answers : flow.answers = ended.answers
  output : flow.output = ended.output

namespace Leg

/-- The flow does not end on the leg, and tells nothing.  If it has no pods it was not even
started on it, and otherwise it has pods left. -/
structure Continues (pods : List Definition) (leg : Leg κ) : Prop where
  silent : leg.sent = []
  underway : leg.after.isDone = false
  unstarted : pods = [] → leg.action.isStart = false
  left : pods ≠ [] → leg.after.progress < pods.length

/-- The flow ends on the leg, and tells each of its subscribers once that it is done, with
its answers.  If it has no pods it was started on it, and otherwise it ran out of them. -/
structure Ends (pods : List Definition) (leg : Leg κ) : Prop where
  underway : leg.before.isDone = false
  started : pods = [] → leg.action.isStart = true
  left : pods ≠ [] → leg.before.progress < pods.length
  done : leg.after.isDone = true
  concludes : leg.after.Concludes pods
  told : leg.sent = leg.after.machine.broadcast [.done (.object leg.after.answers)]

/-- Nothing is told on the leg, after which the flow is as it ended. -/
structure Lasts (ended : Flow κ) (leg : Leg κ) : Prop where
  silent : leg.sent = []
  remains : Remains ended leg.after

end Leg

/-- On at most one leg the flow ends.  It tells nothing before and nothing afterwards, when
it stays as it ended. -/
inductive AnnouncesOnce (pods : List Definition) : List (Leg κ) → Prop
  | underway : AnnouncesOnce pods []
  | continues
      {leg : Leg κ}
      {rest : List (Leg κ)}
      (continues : leg.Continues pods)
      (announcesOnce : AnnouncesOnce pods rest) :
      AnnouncesOnce pods (leg :: rest)
  | ends
      {leg : Leg κ}
      {rest : List (Leg κ)}
      (ends : leg.Ends pods)
      (lasts : ∀ later ∈ rest, later.Lasts leg.after) :
      AnnouncesOnce pods (leg :: rest)

/-! ## A flow at rest -/

/-- A flow that has not ended was not started, or has pods left. -/
theorem AtRest.waits_or_asks
    (rest : AtRest pods board started flow)
    (underway : flow.isDone = false) :
    flow.Waits started ∨ flow.Asks pods := by
  have stands := (rest.stands_iff flow.machine.status).2 rfl
  cases status : flow.machine.status with
  | idle =>
    rw [status] at stands
    exact .inl stands
  | running =>
    rw [status] at stands
    exact .inr stands
  | done => simp [Flow.isDone, Instance.isDone, status] at underway

theorem AtRest.progress_lt
    (rest : AtRest pods board started flow)
    (underway : flow.isDone = false)
    (nonempty : pods ≠ []) :
    flow.progress < pods.length := by
  rcases rest.waits_or_asks underway with waits | asks
  · rw [waits.progress]
    exact List.length_pos_iff.2 nonempty
  · exact asks.bounded

theorem AtRest.not_started
    (rest : AtRest [] board started flow)
    (underway : flow.isDone = false) :
    started = false := by
  rcases rest.waits_or_asks underway with waits | asks
  · exact waits.unstarted
  · exact absurd asks.bounded (Nat.not_lt_zero _)

theorem AtRest.concludes
    (rest : AtRest pods board started flow)
    (done : flow.isDone = true) :
    flow.Concludes pods :=
  (rest.stands_iff .done).2 (of_decide_eq_true done).symm

theorem AtRest.started_of_done
    (rest : AtRest pods board started flow)
    (done : flow.isDone = true) :
    started = true := by
  cases started with
  | false => simp [Flow.isDone, Instance.isDone, Unstarted.idle rest] at done
  | true => rfl

theorem AtRest.output_of_not_done
    (rest : AtRest pods board started flow)
    (underway : flow.isDone = false) :
    flow.output = none :=
  rest.keeps.output_of_not_done (by simpa [Flow.isDone, Instance.isDone] using underway)

/-! ## One leg -/

/-- What an action does to the machine of a flow at rest. -/
theorem AtRest.tells_or_registers
    (rest : AtRest pods board started flow)
    (returned : Flow.perform action flow = some next) :
    flow.machine.Tells next.machine (sentOn action flow) ∨
      (∃ outlet, action = .subscribe outlet ∧ next = (flow.subscribe outlet).2) ∨
      ∃ subscription, action = .unsubscribe subscription ∧
        next = (flow.unsubscribe subscription).2 := by
  have sound : flow.machine.Sound (effects flow.pods) := rest.podsEq ▸ rest.keeps.sound
  cases action with
  | start now =>
    obtain ⟨turn, startReturned, rfl⟩ := Option.map_eq_some_iff.1 returned
    have tells := (reports_start now flow turn startReturned sound).2.2
    exact .inl (by simpa [sentOn, startReturned] using tells)
  | send now event =>
    obtain ⟨turn, sendReturned, rfl⟩ := Option.map_eq_some_iff.1 returned
    have tells := (reports_send now event flow turn sendReturned sound).2.2
    exact .inl (by simpa [sentOn, sendReturned] using tells)
  | subscribe outlet => exact .inr (.inl ⟨outlet, rfl, (Option.some.inj returned).symm⟩)
  | unsubscribe subscription =>
    exact .inr (.inr ⟨subscription, rfl, (Option.some.inj returned).symm⟩)

/-- Until it has ended, a flow tells nothing but its output. -/
theorem AtRest.sentOn_eq_farewell
    (rest : AtRest pods board started flow)
    (underway : flow.isDone = false)
    (returned : Flow.perform action flow = some next) :
    sentOn action flow = next.machine.farewell := by
  have silent : flow.machine.output = none := rest.output_of_not_done underway
  rcases rest.tells_or_registers returned with tells | ⟨_, rfl, rfl⟩ | ⟨_, rfl, rfl⟩
  · exact tells.news silent
  · symm
    exact Instance.farewell_of_silent silent
  · symm
    exact Instance.farewell_of_silent silent

/-- A flow that does not end on a leg goes on. -/
theorem AtRest.continues
    (rest : AtRest pods board started flow)
    (underway : flow.isDone = false)
    (returned : Flow.perform action flow = some next)
    (still : next.isDone = false) :
    Leg.Continues pods ⟨flow, action, next, sentOn action flow⟩ where
  silent := by
    have silent : next.machine.output = none := (rest.perform returned).output_of_not_done still
    show sentOn action flow = []
    rw [rest.sentOn_eq_farewell underway returned, Instance.farewell_of_silent silent]
  underway := still
  unstarted := by
    rintro rfl
    exact (Bool.or_eq_false_iff.1 ((rest.perform returned).not_started still)).2
  left := (rest.perform returned).progress_lt still

/-- A flow that is done after a leg, and was not before, ends on it. -/
theorem AtRest.ends
    (rest : AtRest pods board started flow)
    (underway : flow.isDone = false)
    (returned : Flow.perform action flow = some next)
    (done : next.isDone = true) :
    Leg.Ends pods ⟨flow, action, next, sentOn action flow⟩ where
  underway := underway
  started := by
    rintro rfl
    have begun := (rest.perform returned).started_of_done done
    rwa [rest.not_started underway, Bool.false_or] at begun
  left := rest.progress_lt underway
  done := done
  concludes := (rest.perform returned).concludes done
  told := by
    have output : next.machine.output = some (.object next.answers) :=
      ((rest.perform returned).concludes done).output
    show sentOn action flow = next.machine.broadcast [.done (.object next.answers)]
    rw [rest.sentOn_eq_farewell underway returned, ← Instance.emit_eq_broadcast]
    simp [Instance.farewell, output]

/-- A flow that has ended stays as it ended. -/
theorem AtRest.lasts
    {ended : Flow κ}
    (rest : AtRest pods board started flow)
    (remains : Remains ended flow)
    (returned : Flow.perform action flow = some next) :
    Leg.Lasts ended ⟨flow, action, next, sentOn action flow⟩ := by
  rcases rest.tells_or_registers returned with tells | ⟨_, rfl, rfl⟩ | ⟨_, rfl, rfl⟩
  · have output : flow.machine.output ≠ none := by
      have told : flow.machine.output = _ := (rest.concludes remains.done).output
      simp [told]
    obtain ⟨same, silent⟩ := tells.silence output
    refine ⟨silent, ?_⟩
    constructor
    · rw [← remains.done, Flow.isDone, Flow.isDone, same]
    · rw [← remains.progress, progress, progress, same]
    · rw [← remains.answers, answers, answers, same]
    · rw [← remains.output, Flow.output, Flow.output, same]
  · exact ⟨rfl, remains.done, remains.progress, remains.answers, remains.output⟩
  · exact ⟨rfl, remains.done, remains.progress, remains.answers, remains.output⟩

/-! ### Registration -/

theorem AtRest.numbered_perform
    (rest : AtRest pods board started flow)
    (numbered : flow.machine.Numbered)
    (returned : Flow.perform action flow = some next) :
    next.machine.Numbered := by
  rcases rest.tells_or_registers returned with tells | ⟨outlet, _, rfl⟩ | ⟨subscription, _, rfl⟩
  · exact numbered.tells tells
  · exact numbered.subscribe outlet
  · exact numbered.unsubscribe subscription

/-- A subscriber stays registered until its own subscription is removed. -/
theorem AtRest.registers_perform
    (rest : AtRest pods board started flow)
    (numbered : flow.machine.Numbered)
    (registers : flow.machine.Registers subscription outlet)
    (kept : action ≠ .unsubscribe subscription)
    (returned : Flow.perform action flow = some next) :
    next.machine.Registers subscription outlet := by
  rcases rest.tells_or_registers returned with tells | ⟨other, _, rfl⟩ | ⟨other, isOther, rfl⟩
  · exact registers.tells tells
  · exact registers.subscribe numbered other
  · apply registers.unsubscribe
    rintro rfl
    exact kept isOther

/-! ## All legs -/

theorem legs_cons
    (returned : Flow.perform action flow = some next)
    (actions : List (Action κ)) :
    legs (action :: actions) flow =
      ⟨flow, action, next, sentOn action flow⟩ :: legs actions next := by
  rw [legs, returned]
  rfl

theorem legs_cons_of_none
    (stuck : Flow.perform action flow = none)
    (actions : List (Action κ)) :
    legs (action :: actions) flow = [] := by
  rw [legs, stuck]
  rfl

/-- What every action does to a flow with an invariant is what all legs of a run do. -/
theorem forall_legs
    {property : Leg κ → Prop}
    {actions : List (Action κ)}
    (Invariant : Flow κ → Prop)
    (step : ∀ action ∈ actions, ∀ flow next, Invariant flow → perform action flow = some next →
      property ⟨flow, action, next, sentOn action flow⟩ ∧ Invariant next)
    (holds : Invariant flow) :
    ∀ leg ∈ legs actions flow, property leg := by
  induction actions generalizing flow with
  | nil =>
    intro leg member
    cases member
  | cons action actions ih =>
    intro leg member
    cases performed : perform action flow with
    | none =>
      rw [legs_cons_of_none performed] at member
      cases member
    | some next =>
      obtain ⟨first, still⟩ := step action (.head _) flow next holds performed
      rw [legs_cons performed] at member
      rcases List.mem_cons.1 member with rfl | later
      · exact first
      · exact ih (fun action member => step action (.tail _ member)) still leg later

/-- A flow that has ended stays as it ended on every leg. -/
theorem AtRest.lasts_legs
    {ended : Flow κ}
    (rest : AtRest pods board started ended)
    (done : ended.isDone = true)
    (actions : List (Action κ)) :
    ∀ leg ∈ legs actions ended, leg.Lasts ended := by
  have remains : Remains ended ended := ⟨done, rfl, rfl, rfl⟩
  refine forall_legs
    (fun flow => (∃ board started, AtRest pods board started flow) ∧ Remains ended flow)
    ?_ ⟨⟨_, _, rest⟩, remains⟩
  rintro action - flow next ⟨⟨board, started, rest⟩, remains⟩ returned
  have lasts := rest.lasts remains returned
  exact ⟨lasts, ⟨_, _, rest.perform returned⟩, lasts.remains⟩

/-- A flow that has not ended announces its end at most once. -/
theorem AtRest.announcesOnce
    (rest : AtRest pods board started flow)
    (underway : flow.isDone = false)
    (actions : List (Action κ)) :
    AnnouncesOnce pods (legs actions flow) := by
  induction actions generalizing board started flow with
  | nil => exact .underway
  | cons action actions ih =>
    cases performed : Flow.perform action flow with
    | none =>
      rw [legs_cons_of_none performed]
      exact .underway
    | some next =>
      have later := rest.perform performed
      rw [legs_cons performed]
      cases done : next.isDone with
      | false => exact .continues (rest.continues underway performed done) (ih later done)
      | true => exact .ends (rest.ends underway performed done) (later.lasts_legs done actions)

/-- A subscriber is registered after every leg, under a handle that is its own. -/
theorem AtRest.registers_legs
    {actions : List (Action κ)}
    (rest : AtRest pods board started flow)
    (numbered : flow.machine.Numbered)
    (registers : flow.machine.Registers subscription outlet)
    (kept : .unsubscribe subscription ∉ actions) :
    ∀ leg ∈ legs actions flow, leg.after.machine.Registers subscription outlet := by
  refine forall_legs
    (fun flow => (∃ board started, AtRest pods board started flow) ∧
      flow.machine.Numbered ∧ flow.machine.Registers subscription outlet)
    ?_ ⟨⟨_, _, rest⟩, numbered, registers⟩
  rintro action member flow next ⟨⟨board, started, rest⟩, numbered, registers⟩ returned
  have other : action ≠ .unsubscribe subscription := by
    rintro rfl
    exact kept member
  have still := rest.registers_perform numbered registers other returned
  exact ⟨still, ⟨_, _, rest.perform returned⟩, rest.numbered_perform numbered returned, still⟩

theorem AtRest.numbered_run
    {actions : List (Action κ)}
    {last : Flow κ}
    (rest : AtRest pods board started flow)
    (numbered : flow.machine.Numbered)
    (returned : Flow.run actions flow = some last) :
    last.machine.Numbered := by
  induction actions generalizing board started flow with
  | nil =>
    cases returned
    exact numbered
  | cons action actions ih =>
    obtain ⟨next, performed, later⟩ := Option.bind_eq_some_iff.1 returned
    exact ih (rest.perform performed) (rest.numbered_perform numbered performed) later

/-- After every run of a flow each handle under which a subscriber is registered was made
before. -/
theorem numbered_of_run
    {id : InstanceId}
    {seeds : Fields}
    {first last : Flow κ}
    {actions : List (Action κ)}
    (created : Flow.create id pods seeds = .ok first)
    (returned : Flow.run actions first = some last) :
    last.machine.Numbered := by
  have rest : AtRest pods ⟨0, seeds, ∅⟩ false first := unstarted_of_create created
  obtain ⟨_, rfl⟩ := create_eq_ok_iff.1 created
  exact rest.numbered_run nofun returned

/-- A subscriber that is registered before a flow was started, and is not removed, is told
of its end on the call on which it ends, once, and of nothing else.  Afterwards the flow
stays as it ended. -/
theorem announcesOnce_of_run
    {id : InstanceId}
    {seeds : Fields}
    {first waiting : Flow κ}
    {earlier actions : List (Action κ)}
    (created : Flow.create id pods seeds = .ok first)
    (prepared : Flow.run earlier first = some waiting)
    (early : earlier.any Action.isStart = false)
    (outlet : κ)
    (kept : .unsubscribe (waiting.subscribe outlet).1 ∉ actions) :
    AnnouncesOnce pods (legs actions (waiting.subscribe outlet).2) ∧
      ∀ leg ∈ legs actions (waiting.subscribe outlet).2,
        leg.after.machine.Registers (waiting.subscribe outlet).1 outlet := by
  have before := atRest_of_run created prepared
  rw [early] at before
  have unstarted := Unstarted.subscribe before outlet
  have rest : AtRest pods _ false (waiting.subscribe outlet).2 := unstarted
  have underway : (waiting.subscribe outlet).2.isDone = false := by
    simp [Flow.isDone, Instance.isDone, unstarted.idle]
  have numbered := numbered_of_run created prepared
  exact ⟨rest.announcesOnce underway actions,
    rest.registers_legs (numbered.subscribe outlet) (numbered.registers_subscribe outlet) kept⟩

/-- What a host does with a flow of one question, of which it removes an earlier
subscriber. -/
def quickRound : List (Action Bool) :=
  [.start default, .unsubscribe ⟨0⟩, .send default (.ofKind Pod.submit),
    .send default (.ofKind startFreshEvent)]

/-- The second subscriber is told of the end alone, once the first one was removed. -/
theorem announcesOnce_of_quickRound :
    ∃ first waiting : Flow Bool,
      Flow.create hostId [questionPod "name"] ∅ = .ok first ∧
      Flow.run [.subscribe false] first = some waiting ∧
      (legs quickRound (waiting.subscribe true).2).map (·.sent.map Delivery.outlet) =
        [[], [], [true], []] ∧
      AnnouncesOnce [questionPod "name"] (legs quickRound (waiting.subscribe true).2) ∧
      ∀ leg ∈ legs quickRound (waiting.subscribe true).2,
        leg.after.machine.Registers (waiting.subscribe true).1 true := by
  obtain ⟨first, waiting, created, prepared, passed⟩ :=
    exists_run_of_check hostId [questionPod "name"] ∅ [.subscribe false]
      (fun _ waiting : Flow Bool =>
        decide ((waiting.subscribe true).1 = ⟨1⟩) &&
          (legs quickRound (waiting.subscribe true).2).map (·.sent.map Delivery.outlet) ==
            [[], [], [true], []]) (by decide +kernel)
  obtain ⟨handle, heard⟩ := Bool.and_eq_true_iff.1 passed
  have kept : .unsubscribe (waiting.subscribe true).1 ∉ quickRound := by
    rw [of_decide_eq_true handle]
    simp [quickRound]
  exact ⟨first, waiting, created, prepared, eq_of_beq heard,
    announcesOnce_of_run created prepared rfl true kept⟩

end Flow
end Questionnaire
